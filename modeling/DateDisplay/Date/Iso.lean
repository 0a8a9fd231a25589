import DateDisplay.Date.Gregorian
import DateDisplay.Text.Blank

/-!
# Reading ISO dates

`RealDate.ofIso?` reads `YYYY-MM-DD`.  It is lenient about the width of numbers:
white space may stand before each, month and day may have one digit, and a year
with a sign may have any number of digits.
-/

namespace DateDisplay.Iso

/-- A number of at most `most` digits at the front of a text, and what follows. -/
def number? (most : Nat) (text : Text) : Option (Nat × Text) :=
  let head := (text.take most).takeWhile Char.isDigit
  (Decimal.read? head).map fun number => (number, text.drop head.length)

/-- A year at the front of a text, and what follows: at most four digits, or a
sign and any number of them. -/
def year? (text : Text) : Option (Int × Text) :=
  match text.dropWhile Text.isBlank with
  | '-' :: rest => (number? rest.length rest).map fun (number, rest) => (-number, rest)
  | '+' :: rest => (number? rest.length rest).map fun (number, rest) => (number, rest)
  | text => (number? 4 text).map fun (number, rest) => (number, rest)

/-- A hyphen and one or two digits, white space allowed between them. -/
def part? : Text → Option (Nat × Text)
  | '-' :: rest => number? 2 (rest.dropWhile Text.isBlank)
  | _ => none

/-- Year, month and day of a text, each after the other and nothing behind. -/
def numbers? (text : Text) : Option (Int × Nat × Nat) := do
  let (year, text) ← year? text
  let (month, text) ← part? text
  let (day, text) ← part? text
  if text.isEmpty then some (year, month, day) else none

end DateDisplay.Iso

namespace DateDisplay.RealDate

/-- The day that an ISO date names. -/
def ofIso? (text : Text) : Option RealDate :=
  (Iso.numbers? text).bind fun (year, month, day) => ofNumbers? year month day

end DateDisplay.RealDate
