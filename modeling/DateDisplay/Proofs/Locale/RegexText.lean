import DateDisplay.Proofs.Locale.Frame

/-!
# What a regular expression stands for

The regular expression of a template is made of characters that stand for themselves, of others
that do so behind a backslash because they mean something alone, and of groups of digits.  Once
each group is given a text, it stands for one text and no other: for the text that the template
is filled with.
-/

namespace DateDisplay.Template

/-- Part of a regular expression, the texts in place of its groups, and the text that it stands
for.  A character that means something alone is found behind a backslash only. -/
inductive StandsFor : (regex : Text) → (runs : List Text) → (text : Text) → Prop where
  | nil : StandsFor [] [] []
  | plain {char : Char} {regex : Text} {runs : List Text} {text : Text}
      (plain : char ∉ metacharacters) (rest : StandsFor regex runs text) :
      StandsFor (char :: regex) runs (char :: text)
  | escaped {char : Char} {regex : Text} {runs : List Text} {text : Text}
      (special : char ∈ metacharacters) (rest : StandsFor regex runs text) :
      StandsFor ('\\' :: char :: regex) runs (char :: text)
  | group {regex : Text} {runs : List Text} {text : Text} (most : Nat) (run : Text)
      (rest : StandsFor regex runs text) :
      StandsFor (pieceRegex (.digits most) ++ regex) (run :: runs) (run ++ text)

/-- A whole regular expression stands between its anchors. -/
def Restores (regex : Text) (runs : List Text) (text : Text) : Prop :=
  ∃ body, regex = '^' :: body ++ ['$'] ∧ StandsFor body runs text

variable {regex : Text} {runs : List Text} {text : Text}

/-! ## One text alone -/

theorem pieceRegex_digits_append (most : Nat) (regex : Text) :
    pieceRegex (.digits most) ++ regex =
      '(' :: '\\' :: 'd' :: '{' :: '1' :: ',' :: (Nat.toDigits 10 most ++ '}' :: ')' :: regex) := by
  -- The number is kept out of sight, or it is taken apart along with the brackets.
  have spelled : ∀ digits : Text, "(\\d\x7b1,".toList ++ digits ++ "\x7d)".toList ++ regex =
      '(' :: '\\' :: 'd' :: '{' :: '1' :: ',' :: (digits ++ '}' :: ')' :: regex) := by
    simp
  exact spelled (Nat.toDigits 10 most)

/-- What follows a group is what follows its digits and brackets. -/
theorem eq_of_pieceRegex_append_eq {most other : Nat} {left right : Text}
    (same : pieceRegex (.digits most) ++ left = pieceRegex (.digits other) ++ right) :
    left = right := by
  have behindDigits : ∀ most (regex : Text),
      (Nat.toDigits 10 most ++ '}' :: ')' :: regex).dropWhile Char.isDigit =
        '}' :: ')' :: regex := by
    intro most regex
    rw [List.dropWhile_append_of_pos fun char member =>
      Nat.isDigit_of_mem_toDigits (by decide) (by decide) member]
    rfl
  rw [pieceRegex_digits_append, pieceRegex_digits_append] at same
  simp only [List.cons.injEq, true_and] at same
  have behind := congrArg (List.dropWhile Char.isDigit) same
  rw [behindDigits, behindDigits] at behind
  simpa using behind

theorem StandsFor.unique {other : Text} (left : StandsFor regex runs text)
    (right : StandsFor regex runs other) : text = other := by
  induction left generalizing other with
  | nil =>
      generalize whole : ([] : Text) = regex at right
      cases right with
      | nil => rfl
      | plain => cases whole
      | escaped => cases whole
  | @plain char regex runs text plain rest ih =>
      generalize whole : char :: regex = regex' at right
      cases right with
      | nil => cases whole
      | plain _ otherRest =>
          cases whole
          rw [ih otherRest]
      | escaped =>
          cases whole
          exact absurd (by decide) plain
      | group =>
          rw [pieceRegex_digits_append] at whole
          cases whole
          exact absurd (by decide) plain
  | @escaped char regex runs text special rest ih =>
      generalize whole : '\\' :: char :: regex = regex' at right
      cases right with
      | nil => cases whole
      | plain plain _ =>
          cases whole
          exact absurd (by decide) plain
      | escaped _ otherRest =>
          cases whole
          rw [ih otherRest]
      | group =>
          rw [pieceRegex_digits_append] at whole
          simp at whole
  | @group regex runs text most run rest ih =>
      generalize whole : pieceRegex (.digits most) ++ regex = regex' at right
      generalize given : run :: runs = runs' at right
      cases right with
      | nil => cases given
      | plain plain _ =>
          rw [pieceRegex_digits_append] at whole
          cases whole
          exact absurd (by decide) plain
      | escaped =>
          rw [pieceRegex_digits_append] at whole
          simp at whole
      | group _ _ otherRest =>
          cases given
          rw [ih (eq_of_pieceRegex_append_eq whole ▸ otherRest)]

/-! ## The text of a template -/

theorem StandsFor.escape_append (literal : Text) (rest : StandsFor regex runs text) :
    StandsFor (escape literal ++ regex) runs (literal ++ text) := by
  induction literal with
  | nil => exact rest
  | cons char literal ih =>
      rw [escape, List.flatMap_cons, List.append_assoc]
      split
      · rename_i special
        exact .escaped (List.contains_iff_mem.1 special) ih
      · rename_i plain
        exact .plain (mt List.contains_iff_mem.2 plain) ih

/-- With what the fields show in place of its groups, the regular expression of a frame stands
for the whole text. -/
theorem standsFor_template (frame : Frame) (most : DateField → Nat) (shown : DateField → Text)
    (fields : List DateField) :
    StandsFor ((frame.template most fields).flatMap pieceRegex) (fields.map shown)
      (frame.text shown fields) := by
  induction fields with
  | nil =>
      have literal := StandsFor.nil.escape_append frame.behind
      rw [List.append_nil frame.behind] at literal
      exact literal
  | cons field fields ih =>
      have group := (StandsFor.group (most field) (shown field) ih).escape_append
        (frame.before field)
      exact group

theorem restores_regex_iff (frame : Frame) (most : DateField → Nat) (shown : DateField → Text)
    (fields : List DateField) :
    Restores (frame.template most fields).regex (fields.map shown) text ↔
      text = frame.text shown fields := by
  have stands := standsFor_template frame most shown fields
  constructor
  · rintro ⟨body, whole, other⟩
    have same : (frame.template most fields).flatMap pieceRegex = body :=
      List.append_cancel_right (List.cons.inj whole).2
    exact other.unique (same ▸ stands)
  · rintro rfl
    exact ⟨_, rfl, stands⟩

end DateDisplay.Template
