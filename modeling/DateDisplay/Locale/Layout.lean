import DateDisplay.Date.Gregorian
import DateDisplay.Locale.Names

/-!
# Layouts of rendered dates

A locale shows a date through a layout: a list of items, each a literal character
or a part of the date.  `Layout.ofFormat` reads the notation with percent signs in
which layouts are written down:

```text
%d %-d %e    day: two digits, bare, padded with a space
%m %-m       month: two digits, bare
%Y %y        year: in full, last two digits
%j           day of the year, three digits
%A %a %B %b  names of weekday and month, in full and shortened
%F %D        %Y-%m-%d and %m/%d/%y
%%           a percent sign
```
-/

namespace DateDisplay

/-- What is put in front of a number of one digit. -/
inductive Padding where
  | zero
  | space
  | none
  deriving DecidableEq, Repr

/-- The digits of a number with at most one character in front. -/
def Padding.text : Padding → Nat → Text
  | .zero, number => Decimal.padded 2 number
  | .space, number => (Decimal.digits number).leftpad 2 ' '
  | .none, number => Decimal.digits number

/-- One item of a layout. -/
inductive LayoutItem where
  | literal (char : Char)
  | day (padding : Padding)
  | month (padding : Padding)
  | fullYear
  | shortYear
  | dayOfYear
  | weekdayName
  | shortWeekdayName
  | monthName
  | shortMonthName
  deriving DecidableEq, Repr

namespace LayoutItem

/-- A year in full: four digits.  Years that have more, or are negative, carry a
sign. -/
def fullYearText (year : Int) : Text :=
  if year < 0 then '-' :: Decimal.padded 4 year.natAbs
  else if year ≤ 9999 then Decimal.padded 4 year.toNat
  else '+' :: Decimal.digits year.toNat

/-- The text of an item on a day. -/
def render (names : CalendarNames) (day : RealDate) : LayoutItem → Text
  | literal char => [char]
  | .day padding => padding.text day.date.day.toNat
  | month padding => padding.text (day.date.month.toNat + 1)
  | fullYear => fullYearText day.date.year.toInt
  | shortYear => Decimal.padded 2 (day.date.year.toInt % 100).toNat
  | dayOfYear => Decimal.padded 3 day.dayOfYear
  | weekdayName => names.weekdays[day.daysAfterSunday]?.getD []
  | shortWeekdayName => names.shortWeekdays[day.daysAfterSunday]?.getD []
  | monthName => names.months[day.date.month.toNat]?.getD []
  | shortMonthName => names.shortMonths[day.date.month.toNat]?.getD []

end LayoutItem

/-- The items of a rendered date from left to right. -/
abbrev DateLayout := List LayoutItem

namespace DateLayout

/-- The text of a day. -/
def render (layout : DateLayout) (names : CalendarNames) (day : RealDate) : Text :=
  layout.flatMap (LayoutItem.render names day)

/-- The layout `%Y-%m-%d`. -/
def iso : DateLayout :=
  [.fullYear, .literal '-', .month .zero, .literal '-', .day .zero]

/-- The layout `%m/%d/%y`. -/
def american : DateLayout :=
  [.month .zero, .literal '/', .day .zero, .literal '/', .shortYear]

/-- Read the notation with percent signs.  What is no item of it is literal. -/
def ofFormat : Text → DateLayout
  | '%' :: 'd' :: rest => .day .zero :: ofFormat rest
  | '%' :: 'e' :: rest => .day .space :: ofFormat rest
  | '%' :: '-' :: 'd' :: rest => .day .none :: ofFormat rest
  | '%' :: 'm' :: rest => .month .zero :: ofFormat rest
  | '%' :: '-' :: 'm' :: rest => .month .none :: ofFormat rest
  | '%' :: 'Y' :: rest => .fullYear :: ofFormat rest
  | '%' :: 'y' :: rest => .shortYear :: ofFormat rest
  | '%' :: 'j' :: rest => .dayOfYear :: ofFormat rest
  | '%' :: 'A' :: rest => .weekdayName :: ofFormat rest
  | '%' :: 'a' :: rest => .shortWeekdayName :: ofFormat rest
  | '%' :: 'B' :: rest => .monthName :: ofFormat rest
  | '%' :: 'b' :: rest => .shortMonthName :: ofFormat rest
  | '%' :: 'F' :: rest => iso ++ ofFormat rest
  | '%' :: 'D' :: rest => american ++ ofFormat rest
  | '%' :: '%' :: rest => .literal '%' :: ofFormat rest
  | char :: rest => .literal char :: ofFormat rest
  | [] => []

end DateLayout

end DateDisplay
