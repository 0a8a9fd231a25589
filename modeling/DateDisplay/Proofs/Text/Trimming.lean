import Mathlib.Data.List.TakeWhile
import DateDisplay.Text.Alphabetic
import DateDisplay.Text.Blank

/-!
# Trimmed texts

A text is its own trimmed form when no blank character stands at either end.  No
digit and no letter is blank, so that what is made of them needs no trimming, and
neither does what stands between two trimmed texts.
-/

namespace DateDisplay

/-! ## Blank characters -/

/-- Range by range, two sets of characters have nothing in common. -/
theorem CharRanges.contains_eq_false {left right : CharRanges} {char : Char}
    (disjoint : ∀ range ∈ left, ∀ other ∈ right,
      range.2 < other.1 ∨ other.2 < range.1)
    (member : left.contains char = true) : right.contains char = false := by
  rw [Bool.eq_false_iff]
  intro otherMember
  rcases contains_iff.1 member with ⟨range, inLeft, first, last⟩
  rcases contains_iff.1 otherMember with ⟨other, inRight, otherFirst, otherLast⟩
  have apart := disjoint range inLeft other inRight
  omega

namespace Text

theorem isBlank_of_isDigit {char : Char} (digit : char.isDigit = true) :
    isBlank char = false := by
  have bounds : 48 ≤ char.toNat ∧ char.toNat ≤ 57 := by
    simpa [Char.isDigit, UInt32.le_iff_toNat_le] using digit
  have inRange : CharRanges.contains [(48, 57)] char = true := by
    simp [CharRanges.contains, bounds]
  exact CharRanges.contains_eq_false (by decide) inRange

theorem isBlank_of_isAlphabetic {char : Char} (letter : isAlphabetic char = true) :
    isBlank char = false := by
  by_cases ascii : isAscii char = true
  · rw [isAlphabetic_of_isAscii ascii] at letter
    have inRange : CharRanges.contains [(65, 90), (97, 122)] char = true := by
      simpa [CharRanges.contains] using isAlpha_iff.1 letter
    exact CharRanges.contains_eq_false (by decide) inRange
  · have inRange : alphabeticRanges.contains char = true := by
      simpa [isAlphabetic, ascii] using letter
    exact CharRanges.contains_eq_false (by decide +kernel) inRange

/-! ## The ends of a trimmed text -/

/-- Nothing blank is left at the end. -/
theorem getLast?_trimEnd (text : Text) :
    (trimEnd text).getLast?.all (!isBlank ·) = true := by
  have front := List.head?_dropWhile_not isBlank text.reverse
  rw [trimEnd, List.getLast?_reverse]
  cases first : (text.reverse.dropWhile isBlank).head? with
  | none => rfl
  | some char => simpa [first] using front

theorem trimEnd_prefix (text : Text) : trimEnd text <+: text := by
  rw [← List.reverse_suffix, trimEnd, List.reverse_reverse]
  exact List.dropWhile_suffix isBlank

theorem mem_of_mem_trim {text : Text} {char : Char} (member : char ∈ trim text) :
    char ∈ text := by
  have front := trimEnd_prefix (text.dropWhile isBlank)
  exact (List.dropWhile_sublist isBlank).subset (front.subset member)

/-- Nothing blank is left at the front. -/
theorem head?_trim (text : Text) : (trim text).head?.all (!isBlank ·) = true := by
  have front := List.head?_dropWhile_not isBlank text
  rcases trimEnd_prefix (text.dropWhile isBlank) with ⟨rest, whole⟩
  rw [trim]
  cases trimmed : trimEnd (text.dropWhile isBlank) with
  | nil => rfl
  | cons char tail =>
      rw [trimmed] at whole
      simpa [← whole] using front

/-- A text is its own trimmed form exactly when nothing blank stands at its ends. -/
theorem trim_eq_self_iff {text : Text} :
    trim text = text ↔
      text.head?.all (!isBlank ·) = true ∧ text.getLast?.all (!isBlank ·) = true := by
  constructor
  · intro trimmed
    rw [← trimmed]
    exact ⟨head?_trim text, getLast?_trimEnd _⟩
  · rintro ⟨front, back⟩
    exact trim_eq_self front back

@[simp] theorem trim_trim (text : Text) : trim (trim text) = trim text :=
  trim_eq_self_iff.2 ⟨head?_trim text, getLast?_trimEnd _⟩

/-- A text without blank characters is its own trimmed form. -/
theorem trim_of_forall_isBlank_eq_false {text : Text}
    (inked : ∀ char ∈ text, isBlank char = false) : trim text = text := by
  rw [trim_eq_self_iff]
  constructor
  · cases first : text.head? with
    | none => rfl
    | some char => simp [inked char (List.mem_of_head? first)]
  · cases last : text.getLast? with
    | none => rfl
    | some char => simp [inked char (List.mem_of_getLast? last)]

/-- Nothing is left of a text exactly when it is blank all over. -/
theorem trim_eq_nil_iff {text : Text} :
    trim text = [] ↔ ∀ char ∈ text, isBlank char = true := by
  rw [trim, trimEnd, List.reverse_eq_nil_iff, List.dropWhile_eq_nil_iff]
  constructor
  · intro blankRest char member
    rw [← List.takeWhile_append_dropWhile (p := isBlank) (l := text)] at member
    rcases List.mem_append.1 member with front | rest
    · exact List.mem_takeWhile_imp front
    · exact blankRest char (List.mem_reverse.2 rest)
  · intro blank char member
    exact blank char ((List.dropWhile_sublist isBlank).subset (List.mem_reverse.1 member))

/-- What stands between two trimmed texts is kept by trimming. -/
theorem trim_append_append {left middle right : Text}
    (leftTrimmed : trim left = left) (leftNonempty : left ≠ [])
    (rightTrimmed : trim right = right) (rightNonempty : right ≠ []) :
    trim (left ++ middle ++ right) = left ++ middle ++ right := by
  rw [trim_eq_self_iff] at leftTrimmed rightTrimmed ⊢
  constructor
  · rcases List.exists_cons_of_ne_nil leftNonempty with ⟨char, rest, rfl⟩
    simpa using leftTrimmed.1
  · rw [List.getLast?_append, List.getLast?_eq_some_getLast rightNonempty, Option.some_or,
      ← List.getLast?_eq_some_getLast rightNonempty]
    exact rightTrimmed.2

/-! ## Blank pieces of a trimmed text -/

/-- A trimmed text does not begin with anything that is blank all over. -/
theorem trim_ne_nil_of_prefix {front text : Text} (isPrefix : front <+: text)
    (nonempty : front ≠ []) (trimmed : trim text = text) : trim front ≠ [] := by
  intro blank
  obtain ⟨rest, rfl⟩ := isPrefix
  obtain ⟨char, others, rfl⟩ := List.exists_cons_of_ne_nil nonempty
  have first := trim_eq_nil_iff.1 blank char List.mem_cons_self
  have inked := (trim_eq_self_iff.1 trimmed).1
  simp [first] at inked

/-- Nor does it end so. -/
theorem trim_ne_nil_of_suffix {back text : Text} (isSuffix : back <:+ text)
    (nonempty : back ≠ []) (trimmed : trim text = text) : trim back ≠ [] := by
  intro blank
  obtain ⟨rest, rfl⟩ := isSuffix
  have last := trim_eq_nil_iff.1 blank _ (List.getLast_mem nonempty)
  have inked := (trim_eq_self_iff.1 trimmed).2
  simp [List.getLast?_append, List.getLast?_eq_some_getLast nonempty, last] at inked

/-- A blank in a trimmed text has something on both sides. -/
theorem trim_ne_nil_of_blank_between {left right : Text} {separator : Char}
    (blank : isBlank separator = true)
    (trimmed : trim (left ++ [separator] ++ right) = left ++ [separator] ++ right) :
    trim left ≠ [] ∧ trim right ≠ [] := by
  have front : trim (left ++ [separator]) ≠ [] :=
    trim_ne_nil_of_prefix (List.prefix_append _ _) (by simp) trimmed
  have back : trim ([separator] ++ right) ≠ [] :=
    trim_ne_nil_of_suffix ⟨left, by simp⟩ (by simp) trimmed
  constructor
  · intro empty
    rw [trim_eq_nil_iff] at empty
    apply front
    rw [trim_eq_nil_iff, List.forall_mem_append]
    exact ⟨empty, by simpa using blank⟩
  · intro empty
    rw [trim_eq_nil_iff] at empty
    apply back
    rw [trim_eq_nil_iff, List.forall_mem_append]
    exact ⟨by simpa using blank, empty⟩

/-- Two trimmed texts stay so when something trimmed is put between them, even if they are
empty. -/
theorem trim_append_append_of_inked {left middle right : Text} (leftTrimmed : trim left = left)
    (middleTrimmed : trim middle = middle) (nonempty : middle ≠ [])
    (rightTrimmed : trim right = right) :
    trim (left ++ middle ++ right) = left ++ middle ++ right := by
  cases left with
  | nil =>
      cases right with
      | nil => simpa using middleTrimmed
      | cons char rest =>
          have whole := @trim_append_append middle [] (char :: rest) middleTrimmed nonempty
            rightTrimmed (List.cons_ne_nil _ _)
          simpa using whole
  | cons char rest =>
      cases right with
      | nil =>
          have whole := @trim_append_append (char :: rest) [] middle leftTrimmed
            (List.cons_ne_nil _ _) middleTrimmed nonempty
          simpa using whole
      | cons last others =>
          exact trim_append_append leftTrimmed (List.cons_ne_nil _ _) rightTrimmed
            (List.cons_ne_nil _ _)

/-- Where the junction of some texts is trimmed, and every other text is, so is the junction of
all. -/
theorem trim_flatten_of_filter {α : Type} {keys : List α} {kept : α → Bool} {texts : α → Text}
    (nonempty : ∀ key, texts key ≠ [])
    (others : ∀ key, kept key = false → trim (texts key) = texts key)
    (keptTrimmed : trim ((keys.filter kept).map texts).flatten =
      ((keys.filter kept).map texts).flatten) :
    trim (keys.map texts).flatten = (keys.map texts).flatten := by
  rw [trim_eq_self_iff] at keptTrimmed ⊢
  constructor
  · cases keys with
    | nil => rfl
    | cons first keys =>
        obtain ⟨char, rest, shown⟩ := List.exists_cons_of_ne_nil (nonempty first)
        cases isKept : kept first with
        | true => simpa [isKept, shown] using keptTrimmed.1
        | false =>
            have firstTrimmed := (trim_eq_self_iff.1 (others first isKept)).1
            simpa [shown] using firstTrimmed
  · rcases List.eq_nil_or_concat keys with rfl | ⟨keys, last, rfl⟩
    · rfl
    · have lastShown : ∀ before : Text,
          (before ++ texts last).getLast? = (texts last).getLast? := by
        intro before
        rw [List.getLast?_append, List.getLast?_eq_some_getLast (nonempty last), Option.some_or]
      cases isKept : kept last with
      | true => simpa [isKept, lastShown] using keptTrimmed.2
      | false =>
          have lastTrimmed := (trim_eq_self_iff.1 (others last isKept)).2
          simpa [lastShown] using lastTrimmed

end Text

end DateDisplay
