import Mathlib.Algebra.Group.Nat.Defs
import DateDisplay.Text.Decimal

/-!
# Numbers written and read back

Day and month numbers are read back whatever their padding, and so are years that
are not negative; a minus sign is never read.  The length of a padded number tells
whether it fits its width.
-/

namespace DateDisplay.Decimal

/-! ## Reading -/

/-- A text that stands for a 32 bit number is read as that number. -/
theorem readCount?_of_read? {text : Text} {count : UInt32}
    (read : read? text = some count.toNat) : readCount? text = some count := by
  rw [readCount?, read, Option.bind_some, if_pos count.toNat_lt, UInt32.ofNat_toNat]

/-- Only such texts are read as that number. -/
theorem read?_of_readCount? {text : Text} {count : UInt32} (read : readCount? text = some count) :
    read? text = some count.toNat := by
  rcases Option.bind_eq_some_iff.1 read with ⟨number, found, kept⟩
  split at kept
  · rename_i small
    cases kept
    rw [found, UInt32.toNat_ofNat_of_lt' small]
  · cases kept

/-- A text that stands for a year is read as that year. -/
theorem readYear?_of_read? {text : Text} {year : Int32}
    (read : read? text = some year.toInt.natAbs) (nonneg : 0 ≤ year.toInt) :
    readYear? text = some year := by
  have bound := year.toInt_lt
  have fits : year.toInt.natAbs < 0x80000000 := by omega
  have same : (year.toInt.natAbs : Int) = year.toInt := by omega
  rw [readYear?, read, Option.bind_some, if_pos fits, same, Int32.ofInt_toInt]

theorem read?_of_readYear? {text : Text} {year : Int32} (read : readYear? text = some year) :
    read? text = some year.toInt.toNat := by
  rcases Option.bind_eq_some_iff.1 read with ⟨number, found, kept⟩
  split at kept
  · rename_i small
    cases kept
    rw [found, Int32.toInt_ofInt_of_le (by simp) (by simp; omega), Int.toNat_natCast]
  · cases kept

/-- No number has a minus sign. -/
theorem readYear?_minus (rest : Text) : readYear? ('-' :: rest) = none := by
  have sign : ('-').isDigit = false := rfl
  simp [readYear?, read?, sign]

@[simp] theorem padded_zero (number : Nat) : padded 0 number = digits number := by
  simp [padded, List.leftpad]

/-- Without a width nothing is padded. -/
theorem signedPadded_zero (number : Int) : signedPadded 0 number = signed number := by
  simp [signedPadded, signed]

/-- A year is read back unless it is negative. -/
theorem readYear?_signedPadded (width : Nat) (year : Int32) :
    readYear? (signedPadded width year.toInt) =
      if 0 ≤ year.toInt then some year else none := by
  rw [signedPadded]
  split
  · rename_i negative
    rw [readYear?_minus, if_neg (by omega)]
  · rename_i nonneg
    rw [if_pos (by omega)]
    exact readYear?_of_read? (read?_padded _ _) (by omega)

/-- A positive number is written by only one of two texts that begin alike. -/
theorem eq_of_prefix_of_read? {shorter longer : Text} {number : Nat}
    (isPrefix : shorter <+: longer) (positive : 0 < number)
    (shorterRead : read? shorter = some number) (longerRead : read? longer = some number) :
    shorter = longer := by
  rcases isPrefix with ⟨extra, rfl⟩
  simp only [read?, Option.ite_none_right_eq_some, Option.some.injEq] at shorterRead longerRead
  rcases shorterRead with ⟨-, rfl⟩
  have same := longerRead.2
  rw [Nat.ofDigitChars_append, Nat.ofDigitChars_eq_ofDigitChars_zero] at same
  cases extra with
  | nil => rw [List.append_nil]
  | cons char extra =>
      rw [List.length_cons, Nat.pow_succ, Nat.mul_assoc] at same
      have grown := Nat.le_mul_of_pos_left (10 * Nat.ofDigitChars 10 shorter 0)
        (Nat.pow_pos (n := extra.length) (show 0 < 10 by decide))
      omega

/-- Every digit makes room for ten times as many numbers. -/
theorem ofDigitChars_lt {text : Text} (digits : text.all Char.isDigit = true) (start : Nat) :
    Nat.ofDigitChars 10 text start < (start + 1) * 10 ^ text.length := by
  induction text generalizing start with
  | nil =>
      rw [Nat.ofDigitChars_nil, List.length_nil, Nat.pow_zero, Nat.mul_one]
      exact Nat.lt_succ_self start
  | cons char text ih =>
      rw [List.all_cons, Bool.and_eq_true] at digits
      have bounds : 48 ≤ char.toNat ∧ char.toNat ≤ 57 := by
        simpa [Char.isDigit, UInt32.le_iff_toNat_le] using digits.1
      have zero : '0'.toNat = 48 := rfl
      have room : 10 * start + (char.toNat - '0'.toNat) + 1 ≤ (start + 1) * 10 := by omega
      rw [Nat.ofDigitChars_cons, List.length_cons, Nat.pow_succ, Nat.mul_comm (10 ^ _),
        ← Nat.mul_assoc]
      exact Nat.lt_of_lt_of_le (ih digits.2 _) (Nat.mul_le_mul_right _ room)

/-- A number is small when its text is short. -/
theorem lt_of_read? {text : Text} {number width : Nat} (read : read? text = some number)
    (short : text.length ≤ width) : number < 10 ^ width := by
  simp only [read?, Option.ite_none_right_eq_some, Option.some.injEq] at read
  rcases read with ⟨⟨-, digits⟩, rfl⟩
  have small : Nat.ofDigitChars 10 text 0 < 10 ^ text.length := by
    simpa using ofDigitChars_lt digits 0
  exact Nat.lt_of_lt_of_le small (Nat.pow_le_pow_right (by decide) short)

/-- A year that is read shows no minus sign. -/
theorem nonneg_of_readYear? {text : Text} {year : Int32} (read : readYear? text = some year) :
    0 ≤ year.toInt := by
  rcases Option.bind_eq_some_iff.1 read with ⟨number, -, kept⟩
  split at kept
  · rename_i fits
    cases kept
    rw [Int32.toInt_ofInt_of_le (by simp) (by simp; omega)]
    exact Int.natCast_nonneg number
  · cases kept

/-! ## Few digits -/

/-- The number that digits stand for. -/
def number (digits : Text) : Nat :=
  Nat.ofDigitChars 10 digits 0

theorem read?_eq_some_iff {text : Text} {value : Nat} :
    read? text = some value ↔
      (text ≠ [] ∧ text.all Char.isDigit = true) ∧ number text = value := by
  rw [read?, Option.ite_none_right_eq_some, Option.some.injEq, number]

theorem read?_of_digits {digits : Text} (nonempty : digits ≠ [])
    (allDigits : digits.all Char.isDigit = true) : read? digits = some (number digits) :=
  read?_eq_some_iff.2 ⟨⟨nonempty, allDigits⟩, rfl⟩

/-- Digits that are few enough are read as the number they stand for. -/
theorem readCount?_of_digits {digits : Text} (nonempty : digits ≠ [])
    (allDigits : digits.all Char.isDigit = true) (short : digits.length ≤ 4) :
    readCount? digits = some (.ofNat (number digits)) := by
  have read := read?_of_digits nonempty allDigits
  have small := lt_of_read? read short
  rw [readCount?, read, Option.bind_some, if_pos (by omega)]

theorem readYear?_of_digits {digits : Text} (nonempty : digits ≠ [])
    (allDigits : digits.all Char.isDigit = true) (short : digits.length ≤ 4) :
    readYear? digits = some (.ofInt (number digits)) := by
  have read := read?_of_digits nonempty allDigits
  have small := lt_of_read? read short
  rw [readYear?, read, Option.bind_some, if_pos (by omega)]

/-! ## Characters -/

theorem mem_signedPadded {width : Nat} {number : Int} {char : Char}
    (member : char ∈ signedPadded width number) :
    char.isDigit = true ∨ (char = '-' ∧ number < 0) := by
  rw [signedPadded] at member
  split at member
  · rename_i negative
    rcases List.mem_cons.1 member with rfl | member
    · exact .inr ⟨rfl, negative⟩
    · exact .inl (isDigit_of_mem_padded member)
  · exact .inl (isDigit_of_mem_padded member)

theorem signedPadded_ne_nil (width : Nat) (number : Int) : signedPadded width number ≠ [] := by
  rw [signedPadded]
  split
  · exact List.cons_ne_nil _ _
  · exact padded_ne_nil _ _

/-! ## Lengths -/

theorem length_padded (width number : Nat) :
    (padded width number).length = max width (digits number).length :=
  List.length_leftpad

/-- A number takes exactly its width when it is small enough. -/
theorem length_padded_eq_iff {width number : Nat} (wide : 0 < width) :
    (padded width number).length = width ↔ number < 10 ^ width := by
  rw [length_padded, ← Nat.length_toDigits_le_iff (by decide) wide, ← digits]
  omega

/-- A number that takes its width is not padded. -/
theorem padded_of_pow_le {width number : Nat} (wide : 0 < width)
    (large : 10 ^ width ≤ number) : padded (width + 1) number = digits number := by
  have longer : ¬ (digits number).length ≤ width := by
    rw [digits, Nat.length_toDigits_le_iff (by decide) wide]
    omega
  rw [padded, List.leftpad, Nat.sub_eq_zero_of_le (by omega), List.replicate_zero,
    List.nil_append]

theorem width_le_length_padded (width number : Nat) :
    width ≤ (padded width number).length := by
  rw [length_padded]
  exact Nat.le_max_left ..

/-- A minus sign takes one character of the width. -/
theorem length_signedPadded_eq_iff {width : Nat} {number : Int} (wide : 1 < width) :
    (signedPadded width number).length = width ↔
      number.natAbs < 10 ^ (if number < 0 then width - 1 else width) := by
  rw [signedPadded]
  split
  · rw [← length_padded_eq_iff (by omega), List.length_cons]
    omega
  · exact length_padded_eq_iff (by omega)

theorem width_le_length_signedPadded (width : Nat) (number : Int) :
    width ≤ (signedPadded width number).length := by
  rw [signedPadded]
  split
  · have narrower := width_le_length_padded (width - 1) number.natAbs
    rw [List.length_cons]
    omega
  · exact width_le_length_padded _ _

end DateDisplay.Decimal
