import DateDisplay.Pattern.CenturyWindow
import DateDisplay.Pattern.Field

/-!
# Display patterns

A compiled pattern says how a field shows dates: whether a separator stands
between the fields, which order they have and how each is written.  A short year
carries the century window that reads it back.
-/

namespace DateDisplay

namespace Pattern

/-- What stands between the fields. -/
inductive Layout where
  /-- One character between every two fields. -/
  | separated (separator : Char)
  /-- Nothing; fields are told apart by their widths. -/
  | packed
  deriving DecidableEq, Repr

/-- The separator, if there is one. -/
def Layout.separator? : Layout → Option Char
  | separated separator => some separator
  | packed => none

/-- The name of a layout in a report. -/
def Layout.label : Layout → Text
  | separated _ => "Separated".toList
  | packed => "Packed".toList

end Pattern

/-- A compiled display pattern. -/
structure Pattern where
  /-- The text it was compiled from. -/
  raw : Text
  layout : Pattern.Layout
  order : FieldOrder
  day : DayStyle
  month : MonthStyle
  /-- The window of a short year; a full year has none. -/
  century : Option CenturyWindow
  deriving DecidableEq, Repr

namespace Pattern

/-- How the year is written. -/
def year (pattern : Pattern) : YearStyle :=
  if pattern.century.isSome then .short else .full

/-- Whether months are shown by name. -/
def usesMonthNames (pattern : Pattern) : Bool :=
  pattern.month == .name

/-- The number of characters a numeric field takes where no separator marks its
end. -/
def width (pattern : Pattern) : DateField → Nat
  | .year => if pattern.century.isSome then 2 else 4
  | _ => 2

/-- The number of characters of a packed text with three numeric fields. -/
def packedWidth (pattern : Pattern) : Nat :=
  (pattern.order.toList.map pattern.width).foldl (· + ·) 0

/-- The order of the fields does not matter for the width of a text. -/
theorem packedWidth_eq (pattern : Pattern) :
    pattern.packedWidth = if pattern.century.isSome then 6 else 8 := by
  rw [packedWidth]
  cases pattern.order <;> simp only [FieldOrder.toList, List.map, width] <;> split <;> rfl

end Pattern

end DateDisplay
