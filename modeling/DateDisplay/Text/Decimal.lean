import DateDisplay.Text.Basic

/-!
# Decimal numbers

Numbers are written in decimal, padded with zeros where a width is asked for,
and read from texts that hold nothing but ASCII digits.  A number too large for
its word is not read at all.
-/

namespace DateDisplay.Decimal

/-- The decimal digits of a number; zero has one. -/
def digits (number : Nat) : Text :=
  Nat.toDigits 10 number

/-- Digits with zeros in front, at least `width` of them. -/
def padded (width number : Nat) : Text :=
  (digits number).leftpad width '0'

/-- Digits, after a minus sign if the number is negative. -/
def signed (number : Int) : Text :=
  if number < 0 then '-' :: digits number.natAbs else digits number.natAbs

/-- At least `width` characters, zeros standing between sign and digits; a minus
sign counts as one of them. -/
def signedPadded (width : Nat) (number : Int) : Text :=
  if number < 0 then '-' :: padded (width - 1) number.natAbs
  else padded width number.natAbs

/-- The number a non-empty text of ASCII digits stands for. -/
def read? (text : Text) : Option Nat :=
  if text ≠ [] ∧ text.all Char.isDigit then some (Nat.ofDigitChars 10 text 0) else none

/-- A day or month number: digits whose value fits 32 bits. -/
def readCount? (text : Text) : Option UInt32 :=
  (read? text).bind fun number =>
    if number < 0x100000000 then some (UInt32.ofNat number) else none

/-- A year number: digits whose value fits 31 bits. -/
def readYear? (text : Text) : Option Int32 :=
  (read? text).bind fun number =>
    if number < 0x80000000 then some (Int32.ofInt number) else none

theorem isDigit_of_mem_digits {number : Nat} {char : Char} (member : char ∈ digits number) :
    char.isDigit = true :=
  Nat.isDigit_of_mem_toDigits (by decide) (by decide) member

@[simp] theorem digits_ne_nil (number : Nat) : digits number ≠ [] := by
  simp [digits]

theorem isDigit_of_mem_padded {width number : Nat} {char : Char}
    (member : char ∈ padded width number) : char.isDigit = true := by
  rw [padded, List.leftpad, List.mem_append, List.mem_replicate] at member
  rcases member with ⟨_, rfl⟩ | member
  · rfl
  · exact isDigit_of_mem_digits member

@[simp] theorem padded_ne_nil (width number : Nat) : padded width number ≠ [] := by
  simp [padded, List.leftpad]

/-- Reading undoes writing. -/
@[simp] theorem read?_digits (number : Nat) : read? (digits number) = some number := by
  have allDigits : (digits number).all Char.isDigit = true :=
    List.all_eq_true.2 fun _ => isDigit_of_mem_digits
  rw [read?, if_pos ⟨digits_ne_nil number, allDigits⟩]
  exact congrArg some Nat.ofDigitChars_ten_toDigits

/-- Zeros in front do not change the number read. -/
@[simp] theorem read?_padded (width number : Nat) :
    read? (padded width number) = some number := by
  have allDigits : (padded width number).all Char.isDigit = true :=
    List.all_eq_true.2 fun _ => isDigit_of_mem_padded
  have zeros : ∀ count : Nat,
      Nat.ofDigitChars 10 (List.replicate count '0' ++ digits number) 0 = number := by
    intro count
    induction count with
    | zero => simp [digits]
    | succ count ih => simpa [List.replicate_succ, Nat.ofDigitChars] using ih
  rw [read?, if_pos ⟨padded_ne_nil width number, allDigits⟩]
  exact congrArg some (zeros _)

end DateDisplay.Decimal
