import DateDisplay.Pattern.Codec
import DateDisplay.Pattern.Context
import DateDisplay.Pattern.Segments
import DateDisplay.Text.LowerCase

/-!
# Reading dates by a pattern

Reading finds the segments of a text and lets each set its field in the
reference day.  Numbers are digits only.  A month name matches whatever name it
begins, letter case aside; an unknown name falls back on a month of the context,
so that it never fails a text.
-/

namespace DateDisplay.PatternCodec

/-- The first month whose name begins with `name`, letter case aside. -/
def findMonth? (codec : PatternCodec) (name : Text) : Option Nat :=
  let name := Text.lowerCase name
  if name = [] then none
  else codec.monthNames.findIdx? fun candidate => name.isPrefixOf (Text.lowerCase candidate)

/-- The month that a name stands for, or else the month of the context. -/
def resolveMonthName (codec : PatternCodec) (context : Context) (name : Text) : UInt32 :=
  match codec.findMonth? name with
  | some index => .ofNat index
  | none => context.unnamedMonth

/-- The month of a segment. -/
def readMonth? (codec : PatternCodec) (context : Context) (text : Text) : Option UInt32 :=
  match codec.pattern.month with
  | .name => some (codec.resolveMonthName context text)
  | _ => (Decimal.readCount? text).bind CalendarDate.monthOfNumber?

/-- The year of a segment; a short year goes through the window. -/
def readYear? (codec : PatternCodec) (text : Text) : Option Int32 :=
  (Decimal.readYear? text).map fun year =>
    match codec.pattern.century with
    | some window => window.resolve year
    | none => year

/-- Let a segment set its field. -/
def setField? (codec : PatternCodec) (context : Context) (date : CalendarDate) :
    Pattern.Segment → Option CalendarDate
  | (.day, text) => (Decimal.readCount? text).map fun day => { date with day }
  | (.month, text) => (codec.readMonth? context text).map fun month => { date with month }
  | (.year, text) => (codec.readYear? text).map fun year => { date with year }

/-- The reference day with the fields that the segments set. -/
def assemble? (codec : PatternCodec) (context : Context) (segments : List Pattern.Segment) :
    Option CalendarDate :=
  segments.foldlM (codec.setField? context) context.reference.date

/-- Read a text that is trimmed and not empty. -/
def read? (codec : PatternCodec) (context : Context) (text : Text) : Option CalendarDate :=
  (codec.pattern.segments text).bind (codec.assemble? context)

/-- Read a text by the pattern. -/
def parse (codec : PatternCodec) (context : Context) (text : Text) : ParseOutcome :=
  let text := Text.trim text
  if text = [] then .empty
  else
    match codec.read? context text with
    | some date => .parsed date
    | none => .invalid

end DateDisplay.PatternCodec
