import DateDisplay.Date.Basic

/-!
# Days of the Gregorian calendar

The Gregorian calendar is extended to all years, backwards through year zero to
negative ones.  A `RealDate` is a calendar date that names one of its days, and
lies in the range of years that a layout can render.
-/

namespace DateDisplay

namespace Gregorian

/-- Whether a year has a 29th of February. -/
def isLeap (year : Int) : Bool :=
  year % 4 == 0 && (year % 100 != 0 || year % 400 == 0)

/-- The number of days of each month, January first. -/
def monthLengths (year : Int) : List Nat :=
  [31, if isLeap year then 29 else 28, 31, 30, 31, 30, 31, 31, 30, 31, 30, 31]

/-- The first year whose days can be rendered. -/
def firstYear : Int := -262143

/-- The last year whose days can be rendered. -/
def lastYear : Int := 262142

/-- The number of days of a month counted from zero; no days past December. -/
def daysInMonth (year : Int) (month : Nat) : Nat :=
  (monthLengths year)[month]?.getD 0

end Gregorian

namespace CalendarDate

open Gregorian

/-- The triple names a day of the calendar in a year that can be rendered. -/
def IsReal (date : CalendarDate) : Prop :=
  firstYear ≤ date.year.toInt ∧ date.year.toInt ≤ lastYear ∧
    1 ≤ date.day.toNat ∧ date.day.toNat ≤ daysInMonth date.year.toInt date.month.toNat

instance (date : CalendarDate) : Decidable date.IsReal :=
  inferInstanceAs (Decidable (_ ∧ _))

/-- A real date has one of the twelve months. -/
theorem IsReal.month_lt {date : CalendarDate} (real : date.IsReal) :
    date.month.toNat < 12 := by
  rcases real with ⟨-, -, first, last⟩
  rcases Nat.lt_or_ge date.month.toNat 12 with inYear | pastYear
  · exact inYear
  · have outside : (monthLengths date.year.toInt)[date.month.toNat]? = none :=
      List.getElem?_eq_none (by simpa [monthLengths] using pastYear)
    rw [daysInMonth, outside] at last
    simp at last
    omega

theorem daysInMonth_le (year : Int) (month : Nat) : daysInMonth year month ≤ 31 := by
  have bound : ∀ days ∈ monthLengths year, days ≤ 31 := by
    unfold monthLengths
    split <;> decide
  rw [daysInMonth]
  cases length : (monthLengths year)[month]? with
  | none => exact Nat.zero_le 31
  | some days => exact bound days (List.mem_of_getElem? length)

/-- No month has more than 31 days. -/
theorem IsReal.day_le {date : CalendarDate} (real : date.IsReal) : date.day.toNat ≤ 31 :=
  Nat.le_trans real.2.2.2 (daysInMonth_le _ _)

end CalendarDate

/-- A calendar date that names a day. -/
structure RealDate where
  date : CalendarDate
  isReal : date.IsReal
  deriving DecidableEq

/-- The day a calendar date names, if it names one. -/
def CalendarDate.real? (date : CalendarDate) : Option RealDate :=
  if isReal : date.IsReal then some ⟨date, isReal⟩ else none

namespace RealDate

open Gregorian

@[simp] theorem real?_date (day : RealDate) : day.date.real? = some day := by
  simp [CalendarDate.real?, day.isReal]

/-- The day with a year, a month counted from one and a day of the month. -/
def ofNumbers? (year : Int) (month day : Nat) : Option RealDate :=
  if firstYear ≤ year ∧ year ≤ lastYear ∧ month < 0x100000000 ∧ day < 0x100000000 then do
    let month ← CalendarDate.monthOfNumber? (.ofNat month)
    CalendarDate.real? ⟨.ofInt year, month, .ofNat day⟩
  else none

/-- The number of the day in its year, from 1 to 366. -/
def dayOfYear (day : RealDate) : Nat :=
  ((monthLengths day.date.year.toInt).take day.date.month.toNat).foldl (· + ·) day.date.day.toNat

/-- The number of days from the end of year zero; the first of January of year
one has number 1. -/
def dayNumber (day : RealDate) : Int :=
  let years := day.date.year.toInt - 1
  365 * years + years / 4 - years / 100 + years / 400 + day.dayOfYear

/-- The number of days since the last Sunday.  Day number 1 was a Monday. -/
def daysAfterSunday (day : RealDate) : Nat :=
  (day.dayNumber % 7).toNat

/-- The number of the weekday, from 1 for Monday to 7 for Sunday. -/
def weekdayNumber (day : RealDate) : Nat :=
  if day.daysAfterSunday = 0 then 7 else day.daysAfterSunday

end RealDate

end DateDisplay
