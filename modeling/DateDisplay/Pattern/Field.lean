import DateDisplay.Text.Basic

/-!
# Fields of a date

The three fields, the orders they can stand in, and the styles a pattern can ask
for.
-/

namespace DateDisplay

/-- One of the three fields of a date. -/
inductive DateField where
  | day
  | month
  | year
  deriving DecidableEq, Repr

/-- The name of a field, as messages and reports write it. -/
def DateField.name : DateField → Text
  | .day => "day".toList
  | .month => "month".toList
  | .year => "year".toList

/-- The order in which a text shows the three fields. -/
inductive FieldOrder where
  | dayMonthYear
  | dayYearMonth
  | monthDayYear
  | monthYearDay
  | yearDayMonth
  | yearMonthDay
  deriving DecidableEq, Repr

namespace FieldOrder

/-- The fields from left to right. -/
def toList : FieldOrder → List DateField
  | dayMonthYear => [.day, .month, .year]
  | dayYearMonth => [.day, .year, .month]
  | monthDayYear => [.month, .day, .year]
  | monthYearDay => [.month, .year, .day]
  | yearDayMonth => [.year, .day, .month]
  | yearMonthDay => [.year, .month, .day]

/-- The slot of a field, the leftmost one being 0. -/
def position (order : FieldOrder) (field : DateField) : Nat :=
  order.toList.idxOf field

/-- The order of three fields that stand at different places. -/
def ofPositions (day month year : Nat) : FieldOrder :=
  if day < month then
    if month < year then dayMonthYear
    else if day < year then dayYearMonth
    else yearDayMonth
  else
    if day < year then monthDayYear
    else if month < year then monthYearDay
    else yearMonthDay

/-- Every order shows every field. -/
@[simp] theorem mem_toList (order : FieldOrder) (field : DateField) : field ∈ order.toList := by
  cases order <;> cases field <;> decide

@[simp] theorem length_toList (order : FieldOrder) : order.toList.length = 3 := by
  cases order <;> rfl

/-- No order shows a field twice. -/
theorem nodup_toList (order : FieldOrder) : order.toList.Nodup := by
  cases order <;> decide

end FieldOrder

/-- How a day number is written. -/
inductive DayStyle where
  | zeroPadded
  | bare
  deriving DecidableEq, Repr

/-- How a month is written: as a number or by its name. -/
inductive MonthStyle where
  | zeroPadded
  | bare
  | name
  deriving DecidableEq, Repr

/-- How much of a year is written. -/
inductive YearStyle where
  /-- The last two digits. -/
  | short
  /-- The whole number. -/
  | full
  deriving DecidableEq, Repr

namespace DayStyle

/-- The name of a style in a report. -/
def label : DayStyle → Text
  | zeroPadded => "ZeroPadded".toList
  | bare => "Bare".toList

end DayStyle

namespace MonthStyle

/-- The name of a style in a report. -/
def label : MonthStyle → Text
  | zeroPadded => "ZeroPadded".toList
  | bare => "Bare".toList
  | name => "Name".toList

end MonthStyle

namespace YearStyle

/-- The name of a style in a report. -/
def label : YearStyle → Text
  | short => "Short".toList
  | full => "Full".toList

end YearStyle

end DateDisplay
