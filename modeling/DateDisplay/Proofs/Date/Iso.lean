import DateDisplay.Date.Iso
import DateDisplay.Proofs.Locale.Captures
import DateDisplay.Proofs.Text.Numbers
import DateDisplay.Proofs.Text.Trimming

/-!
# ISO dates read back

The ISO form of a day is read as that day, as long as its year has four digits.
-/

namespace DateDisplay

namespace CalendarDate

/-- An ISO date is made of digits and hyphens. -/
theorem mem_iso {date : CalendarDate} {char : Char} (member : char ∈ date.iso) :
    char.isDigit = true ∨ char = '-' := by
  simp only [iso, List.mem_append, List.mem_cons] at member
  rcases member with year | rfl | month | rfl | day
  · exact (Decimal.mem_signedPadded year).imp_right And.left
  · exact .inr rfl
  · exact .inl (Decimal.isDigit_of_mem_padded month)
  · exact .inr rfl
  · exact .inl (Decimal.isDigit_of_mem_padded day)

theorem trim_iso (date : CalendarDate) : Text.trim date.iso = date.iso := by
  apply Text.trim_of_forall_isBlank_eq_false
  intro char member
  rcases mem_iso member with digit | rfl
  · exact Text.isBlank_of_isDigit digit
  · rfl

/-- The ISO form of a year that is not negative begins with a digit. -/
theorem exists_iso_eq_cons {date : CalendarDate} (nonneg : 0 ≤ date.year.toInt) :
    ∃ char rest, date.iso = char :: rest ∧ char.isDigit = true := by
  rcases List.exists_cons_of_ne_nil (Decimal.padded_ne_nil 4 date.year.toInt.natAbs) with
    ⟨char, digits, year⟩
  have digit : char.isDigit = true := Decimal.isDigit_of_mem_padded (year ▸ List.mem_cons_self)
  rw [iso, Decimal.signedPadded, if_neg (by omega), year, List.cons_append]
  exact ⟨char, _, rfl, digit⟩

end CalendarDate

namespace Iso

/-- No digit is blank. -/
theorem dropWhile_isBlank_append {most : Nat} {run : Text} (isRun : Template.IsRun most run)
    (rest : Text) : (run ++ rest).dropWhile Text.isBlank = run ++ rest := by
  rcases List.exists_cons_of_ne_nil isRun.nonempty with ⟨char, digits, rfl⟩
  have inked := Text.isBlank_of_isDigit (isRun.digits char List.mem_cons_self)
  rw [List.cons_append, List.dropWhile_cons_of_neg (by simp [inked])]

theorem number?_padded {width number : Nat} (wide : 0 < width) (small : number < 10 ^ width)
    (rest : Text) : number? width (Decimal.padded width number ++ rest) = some (number, rest) := by
  have length := (Decimal.length_padded_eq_iff wide).2 small
  have leading : ((Decimal.padded width number ++ rest).take width).takeWhile Char.isDigit =
      Decimal.padded width number := by
    rw [Template.takeWhile_take_append (Template.isRun_padded wide small), length, Nat.sub_self,
      List.take_zero, List.takeWhile_nil, List.append_nil]
  simp only [number?, leading, Decimal.read?_padded, List.drop_left, Option.map_some]

/-- A year of four digits has no sign. -/
theorem year?_padded {year : Nat} (small : year < 10 ^ 4) (rest : Text) :
    year? (Decimal.padded 4 year ++ rest) = some ((year : Int), rest) := by
  have isRun := Template.isRun_padded (by decide) small
  have counted := number?_padded (by decide) small rest
  rw [year?, dropWhile_isBlank_append isRun]
  rcases List.exists_cons_of_ne_nil isRun.nonempty with ⟨char, digits, text⟩
  have digit := isRun.digits char (text ▸ List.mem_cons_self)
  rw [text, List.cons_append] at counted ⊢
  split
  · rename_i sign
    cases sign
    cases digit
  · rename_i sign
    cases sign
    cases digit
  · rw [counted, Option.map_some]

theorem part?_padded {number : Nat} (small : number < 10 ^ 2) (rest : Text) :
    part? ('-' :: (Decimal.padded 2 number ++ rest)) = some (number, rest) := by
  rw [part?, dropWhile_isBlank_append (Template.isRun_padded (by decide) small),
    number?_padded (by decide) small]

end Iso

namespace RealDate

/-- The numbers of a day name it. -/
theorem ofNumbers?_numbers (day : RealDate) :
    ofNumbers? day.date.year.toInt day.date.monthNumber.toNat day.date.day.toNat = some day := by
  rcases day.isReal with ⟨first, last, -, -⟩
  have month := day.date.monthNumber.toNat_lt
  have dayNumber := day.date.day.toNat_lt
  rw [ofNumbers?, if_pos ⟨first, last, month, dayNumber⟩, UInt32.ofNat_toNat,
    CalendarDate.monthOfNumber?_monthNumber, if_pos day.isReal.month_lt, Option.bind_eq_bind,
    Option.bind_some, Int32.ofInt_toInt, UInt32.ofNat_toNat]
  exact day.real?_date

/-- Reading ISO dates undoes writing them. -/
theorem ofIso?_iso (day : RealDate)
    (inYears : 0 ≤ day.date.year.toInt ∧ day.date.year.toInt ≤ 9999) :
    ofIso? day.date.iso = some day := by
  have monthNumber := day.date.toNat_monthNumber
  have month_lt := day.isReal.month_lt
  have day_le := day.isReal.day_le
  have notNegative : ¬ day.date.year.toInt < 0 := by omega
  have sameYear : (day.date.year.toInt.natAbs : Int) = day.date.year.toInt := by omega
  have year := Iso.year?_padded (show day.date.year.toInt.natAbs < 10 ^ 4 by omega)
  have month := Iso.part?_padded (show day.date.monthNumber.toNat < 10 ^ 2 by omega)
  have last := Iso.part?_padded (show day.date.day.toNat < 10 ^ 2 by omega) []
  rw [List.append_nil] at last
  have numbers : Iso.numbers? day.date.iso =
      some (day.date.year.toInt, day.date.monthNumber.toNat, day.date.day.toNat) := by
    simp only [Iso.numbers?, CalendarDate.iso, Decimal.signedPadded, if_neg notNegative, year,
      month, last, Option.bind_eq_bind, Option.bind_some, sameYear, List.isEmpty_nil, if_true]
  simp only [ofIso?, numbers, Option.bind_some, ofNumbers?_numbers]

end RealDate

end DateDisplay
