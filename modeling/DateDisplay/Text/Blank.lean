import DateDisplay.Text.Basic
import DateDisplay.Text.CharRanges

/-!
# Blank characters and trimming

A character is blank when it has the `White_Space` property.  The zero width
space, the byte order mark and the information separators do not have it.
-/

namespace DateDisplay.Text

/-- The characters with the `White_Space` property. -/
def blankRanges : CharRanges := [
  (0x09, 0x0D), (0x20, 0x20), (0x85, 0x85), (0xA0, 0xA0), (0x1680, 0x1680),
  (0x2000, 0x200A), (0x2028, 0x2029), (0x202F, 0x202F), (0x205F, 0x205F),
  (0x3000, 0x3000)]

/-- Whether a character is white space. -/
def isBlank (char : Char) : Bool :=
  blankRanges.contains char

/-- Drop the blank characters at the end of a text. -/
def trimEnd (text : Text) : Text :=
  (text.reverse.dropWhile isBlank).reverse

/-- Drop the blank characters at both ends of a text. -/
def trim (text : Text) : Text :=
  trimEnd (text.dropWhile isBlank)

@[simp] theorem trim_nil : trim [] = [] := rfl

/-- A text without blank characters at its ends is its own trimmed form. -/
theorem trim_eq_self {text : Text}
    (startsInked : text.head?.all (!isBlank ·))
    (endsInked : text.getLast?.all (!isBlank ·)) :
    trim text = text := by
  have front : text.dropWhile isBlank = text := by
    cases text with
    | nil => rfl
    | cons char rest => simp_all
  have back : text.reverse.dropWhile isBlank = text.reverse := by
    cases reversed : text.reverse with
    | nil => rfl
    | cons char rest =>
        have : text.getLast? = some char := by
          rw [List.getLast?_eq_head?_reverse, reversed]; rfl
        simp_all
  rw [trim, trimEnd, front, back, List.reverse_reverse]

end DateDisplay.Text
