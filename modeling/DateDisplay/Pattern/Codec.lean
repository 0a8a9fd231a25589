import DateDisplay.Date.Basic
import DateDisplay.Pattern.Basic

/-!
# Writing dates by a pattern

A `PatternCodec` is a pattern together with the month names of a locale.  This
module writes dates with it; `DateDisplay.Pattern.Reading` reads them back.
-/

namespace DateDisplay

/-- A pattern and the month names it shows, January first. -/
structure PatternCodec where
  pattern : Pattern
  monthNames : List Text
  deriving DecidableEq, Repr

namespace PatternCodec

/-- A day or month number.  Only between separators can it be bare, since packed
text is told apart by widths. -/
def numberText (layout : Pattern.Layout) (bare : Bool) (number : Nat) : Text :=
  match layout, bare with
  | .separated _, true => Decimal.digits number
  | _, _ => Decimal.padded 2 number

/-- The name of a month counted from zero; a month without a name has an empty one. -/
def monthName (codec : PatternCodec) (month : UInt32) : Text :=
  codec.monthNames[month.toNat]?.getD []

/-- The day of a date. -/
def dayText (codec : PatternCodec) (date : CalendarDate) : Text :=
  numberText codec.pattern.layout (codec.pattern.day == .bare) date.day.toNat

/-- The month of a date, by name or number. -/
def monthText (codec : PatternCodec) (date : CalendarDate) : Text :=
  match codec.pattern.month with
  | .name => codec.monthName date.month
  | style => numberText codec.pattern.layout (style == .bare) date.monthNumber.toNat

/-- The year of a date, shortened or in full. -/
def yearText (codec : PatternCodec) (date : CalendarDate) : Text :=
  match codec.pattern.year, codec.pattern.layout with
  | .short, _ => CenturyWindow.shorten date.year
  | .full, .packed => Decimal.signedPadded 4 date.year.toInt
  | .full, .separated _ => Decimal.signed date.year.toInt

/-- One field of a date. -/
def fieldText (codec : PatternCodec) (date : CalendarDate) : DateField → Text
  | .day => codec.dayText date
  | .month => codec.monthText date
  | .year => codec.yearText date

/-- The fields of a date in the order of the pattern. -/
def fieldTexts (codec : PatternCodec) (date : CalendarDate) : List Text :=
  codec.pattern.order.toList.map (codec.fieldText date)

/-- A date as the pattern shows it. -/
def format (codec : PatternCodec) (date : CalendarDate) : Text :=
  match codec.pattern.layout with
  | .separated separator => [separator].intercalate (codec.fieldTexts date)
  | .packed => (codec.fieldTexts date).flatten

/-- The text of a field's value; no value is shown as no text. -/
def formatValue (codec : PatternCodec) : Option CalendarDate → Text
  | some date => codec.format date
  | none => []

end PatternCodec

end DateDisplay
