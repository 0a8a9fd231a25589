import DateDisplay.Text.LowerCase

/-!
# Lower case of the front of a text

The lower case of a text begins with that of its front, except where the front ends behind a
capital sigma and in the middle of a word: then the sigma is final in the front, but not in
the whole text.
-/

namespace DateDisplay.Text

variable {inWord : Bool} {char : Char} {front rest text : Text}

/-- Whether a word reaches to the end of a text, that is, whether the last character that is
not case ignorable is cased.  Where there is none, it is as `inWord` says. -/
def inWordAfter (inWord : Bool) (text : Text) : Bool :=
  text.foldl (fun inWord char => if isCaseIgnorable char then inWord else isCased char) inWord

/-- The last character that is not case ignorable is a capital sigma, and it stands behind
other characters of its word. -/
def EndsInSigma (inWord : Bool) (text : Text) : Prop :=
  ∃ before ignorable, text = before ++ 'Σ' :: ignorable ∧ inWordAfter inWord before = true ∧
    ∀ char ∈ ignorable, isCaseIgnorable char = true

/-- The front ends behind a capital sigma whose word goes on in the rest. -/
structure CutsWord (front rest : Text) : Prop where
  sigma : EndsInSigma false front
  goesOn : wordGoesOn rest = true

/-! ## Words that go on -/

theorem wordGoesOn_cons :
    wordGoesOn (char :: rest) = if isCaseIgnorable char then wordGoesOn rest else isCased char := by
  rw [wordGoesOn, List.dropWhile_cons]
  split
  · rfl
  · rfl

theorem wordGoesOn_append :
    wordGoesOn (front ++ rest) =
      if front.all isCaseIgnorable then wordGoesOn rest else wordGoesOn front := by
  induction front with
  | nil => rfl
  | cons char front ih =>
      rw [List.cons_append, wordGoesOn_cons, wordGoesOn_cons, List.all_cons, ih]
      cases isCaseIgnorable char <;> rfl

theorem wordGoesOn_of_all (ignorable : text.all isCaseIgnorable = true) :
    wordGoesOn text = false := by
  have whole := @wordGoesOn_append text []
  rw [if_pos ignorable, List.append_nil] at whole
  exact whole

theorem endsInSigma_cons :
    EndsInSigma inWord (char :: text) ↔
      (char = 'Σ' ∧ inWord = true ∧ text.all isCaseIgnorable = true) ∨
        EndsInSigma (inWordAfter inWord [char]) text := by
  rw [List.all_eq_true]
  constructor
  · rintro ⟨before, ignorable, split, reaches, allIgnorable⟩
    cases before with
    | nil =>
        cases split
        exact .inl ⟨rfl, reaches, allIgnorable⟩
    | cons first before =>
        cases split
        exact .inr ⟨before, ignorable, rfl, reaches, allIgnorable⟩
  · rintro (⟨rfl, reaches, allIgnorable⟩ | ⟨before, ignorable, rfl, reaches, allIgnorable⟩)
    · exact ⟨[], text, rfl, reaches, allIgnorable⟩
    · exact ⟨char :: before, ignorable, rfl, reaches, allIgnorable⟩

/-! ## Lower case -/

/-- The lower case of a character in front of the rest of its text. -/
def lowerBefore (inWord : Bool) (char : Char) (rest : Text) : Text :=
  if char = 'Σ' then
    if inWord && !wordGoesOn rest then ['ς'] else ['σ']
  else lowerChar char

theorem lowerCaseFrom_cons :
    lowerCaseFrom inWord (char :: rest) =
      lowerBefore inWord char rest ++ lowerCaseFrom (inWordAfter inWord [char]) rest :=
  rfl

/-- What follows a text changes the lower case of the character before it only where that is a
sigma whose word goes on behind the text. -/
theorem lowerBefore_append
    (whole : ¬ ((char = 'Σ' ∧ inWord = true ∧ text.all isCaseIgnorable = true) ∧
      wordGoesOn rest = true)) :
    lowerBefore inWord char (text ++ rest) = lowerBefore inWord char text := by
  rw [lowerBefore, lowerBefore]
  split
  · rename_i sigma
    cases inWord with
    | false => rfl
    | true =>
        have same : wordGoesOn (text ++ rest) = wordGoesOn text := by
          rw [wordGoesOn_append]
          split
          · rename_i ignorable
            rw [wordGoesOn_of_all ignorable]
            exact Bool.eq_false_iff.2 fun goesOn => whole ⟨⟨sigma, rfl, ignorable⟩, goesOn⟩
          · rfl
        rw [same]
  · rfl

/-- The lower case of a front begins that of the text unless a sigma is final in the front
alone. -/
theorem prefix_lowerCaseFrom_append_iff :
    lowerCaseFrom inWord front <+: lowerCaseFrom inWord (front ++ rest) ↔
      ¬ (EndsInSigma inWord front ∧ wordGoesOn rest = true) := by
  induction front generalizing inWord with
  | nil => simp [lowerCaseFrom, EndsInSigma]
  | cons char front ih =>
      rw [List.cons_append, lowerCaseFrom_cons, lowerCaseFrom_cons, endsInSigma_cons]
      by_cases cut : (char = 'Σ' ∧ inWord = true ∧ front.all isCaseIgnorable = true) ∧
          wordGoesOn rest = true
      · -- The sigma is lowered in two ways, and so the texts differ in their first character.
        obtain ⟨⟨sigma, reaches, ignorable⟩, goesOn⟩ := cut
        have final : lowerBefore inWord char front = ['ς'] := by
          rw [lowerBefore, if_pos sigma, reaches, wordGoesOn_of_all ignorable]
          rfl
        have inside : lowerBefore inWord char (front ++ rest) = ['σ'] := by
          rw [lowerBefore, if_pos sigma, wordGoesOn_append, if_pos ignorable, goesOn, Bool.not_true,
            Bool.and_false]
          rfl
        rw [final, inside]
        constructor
        · intro begins
          exact absurd (List.cons_prefix_cons.1 begins).1 (by decide)
        · intro whole
          exact absurd ⟨.inl ⟨sigma, reaches, ignorable⟩, goesOn⟩ whole
      · rw [lowerBefore_append cut, List.prefix_append_right_inj, ih, or_and_right,
          or_iff_right cut]

/-- A text begins with its front, letter case aside, unless the front cuts a word. -/
theorem prefix_lowerCase_append_iff :
    lowerCase front <+: lowerCase (front ++ rest) ↔ ¬ CutsWord front rest := by
  rw [lowerCase, lowerCase, prefix_lowerCaseFrom_append_iff]
  exact not_congr ⟨fun cut => ⟨cut.1, cut.2⟩, fun cut => ⟨cut.sigma, cut.goesOn⟩⟩

end DateDisplay.Text
