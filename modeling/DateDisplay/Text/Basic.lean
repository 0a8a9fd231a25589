/-!
# Texts

Everything the library reads and writes is a list of characters.  Strings occur
only at the edge of a program, and in messages.
-/

namespace DateDisplay

/-- A text is its characters in order. -/
abbrev Text := List Char

namespace Text

/-- Whether a character belongs to the ASCII range. -/
def isAscii (char : Char) : Bool :=
  char.toNat < 0x80

theorem isAscii_of_isDigit {char : Char} (digit : char.isDigit = true) :
    isAscii char = true := by
  have bounds : 48 ≤ char.toNat ∧ char.toNat ≤ 57 := by
    simpa [Char.isDigit, UInt32.le_iff_toNat_le] using digit
  simp [isAscii]
  omega

/-- Keep the ASCII characters of a text, in order. -/
def asciiOnly (text : Text) : Text :=
  text.filter isAscii

@[simp] theorem asciiOnly_append (left right : Text) :
    asciiOnly (left ++ right) = asciiOnly left ++ asciiOnly right := by
  simp [asciiOnly]

@[simp] theorem asciiOnly_idem (text : Text) :
    asciiOnly (asciiOnly text) = asciiOnly text := by
  simp [asciiOnly]

/-- What follows `lead` in a text that begins with it. -/
def after? : (lead text : Text) → Option Text
  | [], text => some text
  | _ :: _, [] => none
  | char :: lead, first :: rest => if char = first then after? lead rest else none

theorem after?_eq_some_iff {lead text rest : Text} :
    after? lead text = some rest ↔ text = lead ++ rest := by
  induction lead generalizing text with
  | nil => simp [after?]
  | cons char lead ih =>
      cases text with
      | nil => simp [after?]
      | cons first text =>
          by_cases same : char = first
          · simp [after?, same, ih]
          · simp [after?, same, Ne.symm same]

@[simp] theorem after?_append (lead rest : Text) : after? lead (lead ++ rest) = some rest :=
  after?_eq_some_iff.2 rfl

/-- Remove `lead` from the front of `text` at most `rounds` times. -/
def stripUpTo (lead : Text) : Nat → Text → Text
  | 0, text => text
  | rounds + 1, text =>
      match after? lead text with
      | some rest => stripUpTo lead rounds rest
      | none => text

/-- Remove `lead` from the front of `text` as often as it occurs there. -/
def stripAll (lead text : Text) : Text :=
  stripUpTo lead text.length text

end Text

end DateDisplay
