import DateDisplay.Text.Decimal

/-!
# Calendar dates

A date field exchanges plain triples of year, month and day.  Nothing about a
triple is validated here: the thirtieth of February and a thirteenth month are
dates a field may hold.  Which triples name a day that exists is said in
`DateDisplay.Date.Gregorian`.
-/

namespace DateDisplay

/-- A day as a date field holds it.  `month` counts from zero, so `0` is January. -/
structure CalendarDate where
  year : Int32
  month : UInt32
  day : UInt32
  deriving DecidableEq, Repr

namespace CalendarDate

/-- The month counted from one.  The largest month there is keeps its number. -/
def monthNumber (date : CalendarDate) : UInt32 :=
  if date.month = 0xFFFFFFFF then date.month else date.month + 1

/-- The month that a number from 1 to 12 stands for. -/
def monthOfNumber? (number : UInt32) : Option UInt32 :=
  if 1 ≤ number ∧ number ≤ 12 then some (number - 1) else none

/-- The date as `YYYY-MM-DD`, wider where a number needs it. -/
def iso (date : CalendarDate) : Text :=
  Decimal.signedPadded 4 date.year.toInt ++ '-' ::
    (Decimal.padded 2 date.monthNumber.toNat ++ '-' :: Decimal.padded 2 date.day.toNat)

theorem toNat_monthNumber (date : CalendarDate) :
    date.monthNumber.toNat = min (date.month.toNat + 1) 0xFFFFFFFF := by
  have bound := date.month.toNat_lt
  rw [monthNumber]
  split
  · rename_i largest
    rw [largest]
    rfl
  · rename_i smaller
    have : date.month.toNat ≠ 0xFFFFFFFF := fun equal =>
      smaller (UInt32.toNat_inj.1 equal)
    rw [UInt32.toNat_add]
    simp
    omega

theorem toNat_le_of_monthOfNumber? {number month : UInt32}
    (read : monthOfNumber? number = some month) : month.toNat ≤ 11 := by
  rw [monthOfNumber?] at read
  split at read
  · rename_i inYear
    cases read
    have last := UInt32.le_iff_toNat_le.1 inYear.2
    rw [UInt32.toNat_sub_of_le _ _ inYear.1]
    simp at last ⊢
    omega
  · cases read

/-- Counting from one and back is the identity on the months of a year. -/
theorem monthOfNumber?_monthNumber (date : CalendarDate) :
    monthOfNumber? date.monthNumber =
      if date.month.toNat < 12 then some date.month else none := by
  have number := date.toNat_monthNumber
  have bound := date.month.toNat_lt
  rw [monthOfNumber?]
  by_cases inYear : date.month.toNat < 12
  · have : date.monthNumber.toNat = date.month.toNat + 1 := by omega
    rw [if_pos inYear, if_pos (by
      constructor <;> rw [UInt32.le_iff_toNat_le] <;> simp <;> omega)]
    congr 1
    apply UInt32.toNat_inj.1
    rw [UInt32.toNat_sub_of_le _ _ (by rw [UInt32.le_iff_toNat_le]; simp; omega)]
    simp
    omega
  · rw [if_neg inYear, if_neg]
    rintro ⟨-, small⟩
    rw [UInt32.le_iff_toNat_le] at small
    simp at small
    omega

end CalendarDate

/-- What reading a text gives back to the field.  A text that does not fit is an
ordinary answer: the field keeps it and marks itself invalid. -/
inductive ParseOutcome where
  /-- The text describes this date. -/
  | parsed (date : CalendarDate)
  /-- There is nothing to read. -/
  | empty
  /-- The answer arrives later. -/
  | pending
  /-- The text does not have the shape asked for. -/
  | invalid
  deriving DecidableEq, Repr

end DateDisplay
