import DateDisplay.Pattern.Basic
import DateDisplay.Pattern.Error
import DateDisplay.Text.Alphabetic

/-!
# The grammar of patterns

A pattern text is an optional separator, three tokens and an optional century
suffix.  Separator and suffix are told by the number of characters: 6 and 11 have
no separator, 11 and 12 have a suffix.

```text
0d _d        day, padded to two digits or bare
0M _M mM     month, padded, bare or by name
0y _y        year, its last two digits or in full
```

Texts that are no pattern are rejected with the first fault in the order of
length, tokens from left to right, separator and century.
-/

namespace DateDisplay.Pattern

/-- Two characters that name a field and its style. -/
inductive Token where
  | day (style : DayStyle)
  | month (style : MonthStyle)
  | year (style : YearStyle)
  deriving DecidableEq, Repr

namespace Token

/-- The field that a token names. -/
def field : Token → DateField
  | day _ => .day
  | month _ => .month
  | year _ => .year

/-- The two characters of a token. -/
def text : Token → Text
  | day .zeroPadded => ['0', 'd']
  | day .bare => ['_', 'd']
  | month .zeroPadded => ['0', 'M']
  | month .bare => ['_', 'M']
  | month .name => ['m', 'M']
  | year .short => ['0', 'y']
  | year .full => ['_', 'y']

/-- The token that two characters stand for. -/
def ofChars? : Char → Char → Option Token
  | '0', 'd' => some (day .zeroPadded)
  | '_', 'd' => some (day .bare)
  | '0', 'M' => some (month .zeroPadded)
  | '_', 'M' => some (month .bare)
  | 'm', 'M' => some (month .name)
  | '0', 'y' => some (year .short)
  | '_', 'y' => some (year .full)
  | _, _ => none

/-- Reading accepts exactly what writing produces. -/
theorem ofChars?_eq_some_iff {first second : Char} {token : Token} :
    ofChars? first second = some token ↔ [first, second] = token.text := by
  constructor
  · intro read
    unfold ofChars? at read
    split at read <;> simp_all [text] <;> subst read <;> rfl
  · intro written
    cases token with
    | day style => cases style <;> simp_all [text, ofChars?]
    | month style => cases style <;> simp_all [text, ofChars?]
    | year style => cases style <;> simp_all [text, ofChars?]

end Token

/-- The parts of a pattern text: the pairs of characters where tokens stand, and
what surrounds them. -/
structure Outline where
  layout : Layout
  first : Char × Char
  second : Char × Char
  third : Char × Char
  suffix : Text
  deriving DecidableEq, Repr

namespace Outline

/-- Take a text apart by its length. -/
def ofText : Text → Except PatternFault Outline
  | [] => .error .empty
  | [a, b, c, d, e, f] => .ok ⟨.packed, (a, b), (c, d), (e, f), []⟩
  | [sep, a, b, c, d, e, f] => .ok ⟨.separated sep, (a, b), (c, d), (e, f), []⟩
  | [a, b, c, d, e, f, s, t, u, v, w] =>
      .ok ⟨.packed, (a, b), (c, d), (e, f), [s, t, u, v, w]⟩
  | [sep, a, b, c, d, e, f, s, t, u, v, w] =>
      .ok ⟨.separated sep, (a, b), (c, d), (e, f), [s, t, u, v, w]⟩
  | text => .error (.invalidLength text.length)

end Outline

/-- What three tokens say about the fields of a date. -/
structure Fields where
  order : FieldOrder
  day : DayStyle
  month : MonthStyle
  year : YearStyle
  deriving DecidableEq, Repr

namespace Fields

/-- Put three tokens together; `none` if they do not name three fields. -/
def ofTokens? : Token → Token → Token → Option Fields
  | .day day, .month month, .year year => some ⟨.dayMonthYear, day, month, year⟩
  | .day day, .year year, .month month => some ⟨.dayYearMonth, day, month, year⟩
  | .month month, .day day, .year year => some ⟨.monthDayYear, day, month, year⟩
  | .month month, .year year, .day day => some ⟨.monthYearDay, day, month, year⟩
  | .year year, .day day, .month month => some ⟨.yearDayMonth, day, month, year⟩
  | .year year, .month month, .day day => some ⟨.yearMonthDay, day, month, year⟩
  | _, _, _ => none

/-- The token of a field. -/
def token (fields : Fields) : DateField → Token
  | .day => .day fields.day
  | .month => .month fields.month
  | .year => .year fields.year

/-- The six characters of the tokens. -/
def text (fields : Fields) : Text :=
  fields.order.toList.flatMap fun field => (fields.token field).text

end Fields

/-- The token at one slot. -/
def readToken (pair : Char × Char) : Except PatternFault Token :=
  match Token.ofChars? pair.1 pair.2 with
  | some token => .ok token
  | none => .error (.unknownToken [pair.1, pair.2])

/-- The fields named by the tokens of an outline, none of them twice. -/
def readFields (outline : Outline) : Except PatternFault Fields := do
  let first ← readToken outline.first
  let second ← readToken outline.second
  if second.field = first.field then
    throw (.duplicateField second.field)
  let third ← readToken outline.third
  match Fields.ofTokens? first second third with
  | some fields => pure fields
  | none => throw (.duplicateField third.field)

/-- Whether a separator could be mistaken for a part of a field: a digit always,
a letter where months have names. -/
def Clashes (separator : Char) (month : MonthStyle) : Prop :=
  separator.isDigit = true ∨ (month = .name ∧ Text.isAlphabetic separator = true)

instance (separator : Char) (month : MonthStyle) : Decidable (Clashes separator month) :=
  inferInstanceAs (Decidable (_ ∨ _))

/-- Refuse a separator that clashes with the content of a field. -/
def checkSeparator (layout : Layout) (month : MonthStyle) : Except PatternFault Unit :=
  match layout with
  | .packed => .ok ()
  | .separated separator =>
      if Clashes separator month then .error (.invalidSeparator separator) else .ok ()

/-- The century window of the year: from the suffix, or else the one given. -/
def readCentury (window : CenturyWindow) (year : YearStyle) (suffix : Text) :
    Except PatternFault (Option CenturyWindow) :=
  match year, suffix with
  | .short, [] => .ok (some window)
  | .short, suffix =>
      match CenturyWindow.ofSuffix? suffix with
      | some window => .ok (some window)
      | none => .error (.malformedCentury suffix)
  | .full, [] => .ok none
  | .full, _ => .error .centuryWithoutShortYear

/-- Read a pattern text; the window is for a short year without a suffix. -/
def read (window : CenturyWindow) (raw : Text) : Except PatternFault Pattern := do
  let outline ← Outline.ofText raw
  let fields ← readFields outline
  checkSeparator outline.layout fields.month
  let century ← readCentury window fields.year outline.suffix
  pure {
    raw, layout := outline.layout, order := fields.order, day := fields.day,
    month := fields.month, century }

/-- Compile a pattern text; the window is for a short year without a suffix. -/
def compileWith (window : CenturyWindow) (raw : Text) : Except PatternError Pattern :=
  (read window raw).mapError fun fault => ⟨raw, fault⟩

/-- Compile a pattern text with the default window. -/
def compile (raw : Text) : Except PatternError Pattern :=
  compileWith {} raw

end DateDisplay.Pattern
