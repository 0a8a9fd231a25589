import DateDisplay.Locale.Detection

/-!
# First occurrences

Where a text occurs for the first time is known when it does not begin anywhere
earlier.  That depends on what follows too, as an occurrence may begin in one part of a
text and end in the next.  Conversely, what is found stands where it is found, and what is
not found although no place is taken is no part of the text.
-/

namespace DateDisplay.Detection

/-- No occurrence of `needle` begins in a text that is followed by `after`. -/
def Absent (needle after : Text) : Text → Prop
  | [] => True
  | char :: text => ¬ needle <+: char :: (text ++ after) ∧ Absent needle after text

variable {needle before after : Text}

theorem absent_append {left right : Text} (absentLeft : Absent needle (right ++ after) left)
    (absentRight : Absent needle after right) : Absent needle after (left ++ right) := by
  induction left with
  | nil => exact absentRight
  | cons char left ih =>
      rcases absentLeft with ⟨notHere, later⟩
      rw [← List.append_assoc] at notHere
      exact ⟨notHere, ih later⟩

/-- An occurrence begins with the first character of what occurs. -/
theorem absent_of_notMem {first : Char} (notMem : first ∉ before) :
    Absent (first :: needle) after before := by
  induction before with
  | nil => trivial
  | cons char before ih =>
      rw [List.mem_cons, not_or] at notMem
      refine ⟨fun begins => ?_, ih notMem.2⟩
      exact notMem.1 (List.cons_prefix_cons.1 begins).1

/-- An occurrence goes on with the second character of what occurs. -/
theorem absent_of_second_notMem {first second : Char} (notMem : second ∉ before)
    (notNext : after.head? ≠ some second) :
    Absent (first :: second :: needle) after before := by
  induction before with
  | nil => trivial
  | cons char before ih =>
      rw [List.mem_cons, not_or] at notMem
      refine ⟨fun begins => ?_, ih notMem.2⟩
      have goesOn := (List.cons_prefix_cons.1 begins).2
      cases before with
      | nil =>
          rcases goesOn with ⟨rest, rfl⟩
          exact notNext rfl
      | cons next before =>
          have same := (List.cons_prefix_cons.1 goesOn).1
          exact notMem.2 (same ▸ List.mem_cons_self)

/-- Occurrences are looked for behind a text in which none begins. -/
theorem occurrencesFrom_append (absent : Absent needle after before) (start : Nat) :
    occurrencesFrom needle start 0 (before ++ after) =
      occurrencesFrom needle (start + before.length) 0 after := by
  induction before generalizing start with
  | nil => rfl
  | cons char before ih =>
      rcases absent with ⟨notHere, later⟩
      rw [← List.isPrefixOf_iff_prefix] at notHere
      rw [List.cons_append, occurrencesFrom, if_neg notHere, ih later, List.length_cons,
        Nat.add_right_comm, Nat.add_assoc]

/-- What begins nowhere is not found. -/
theorem findFree?_of_absent {text : Text} (absent : Absent needle [] text) (taken : List Span) :
    findFree? text needle taken = none := by
  have nowhere := occurrencesFrom_append absent 0
  rw [List.append_nil] at nowhere
  rw [findFree?, occurrences, nowhere]
  rfl

/-- The first occurrence is found if it is apart from the places taken. -/
theorem findFree?_append {taken : List Span} (nonempty : needle ≠ [])
    (absent : Absent needle (needle ++ after) before)
    (free : ∀ span ∈ taken, Span.Apart ⟨before.length, needle.length⟩ span) :
    findFree? (before ++ (needle ++ after)) needle taken =
      some ⟨before.length, needle.length⟩ := by
  have here : needle.isPrefixOf (needle ++ after) = true :=
    List.isPrefixOf_iff_prefix.2 (List.prefix_append needle after)
  rw [findFree?, occurrences, occurrencesFrom_append absent, Nat.zero_add]
  rcases List.exists_cons_of_ne_nil nonempty with ⟨char, rest, rfl⟩
  rw [List.cons_append] at here ⊢
  rw [occurrencesFrom, if_pos here, List.map_cons, List.find?_cons_of_pos]
  simpa using free

/-! ## What is found -/

theorem prefix_drop_of_mem_occurrencesFrom {start skip position : Nat} {text : Text}
    (member : position ∈ occurrencesFrom needle start skip text) :
    start ≤ position ∧ needle <+: text.drop (position - start) := by
  induction text generalizing start skip with
  | nil => cases member
  | cons char text ih =>
      have later : ∀ {skip}, position ∈ occurrencesFrom needle (start + 1) skip text →
          start ≤ position ∧ needle <+: (char :: text).drop (position - start) := by
        intro skip member
        obtain ⟨behind, begins⟩ := ih member
        have next : position - start = position - (start + 1) + 1 := by omega
        rw [next, List.drop_succ_cons]
        exact ⟨by omega, begins⟩
      cases skip with
      | succ skip => exact later member
      | zero =>
          rw [occurrencesFrom] at member
          split at member
          · rename_i begins
            cases List.mem_cons.1 member with
            | inl here =>
                rw [here, Nat.sub_self, List.drop_zero]
                exact ⟨Nat.le_refl _, List.isPrefixOf_iff_prefix.1 begins⟩
            | inr there => exact later there
          · exact later member

theorem absent_of_occurrencesFrom_eq_nil {start : Nat} {text : Text}
    (nowhere : occurrencesFrom needle start 0 text = []) : Absent needle [] text := by
  induction text generalizing start with
  | nil => trivial
  | cons char text ih =>
      rw [occurrencesFrom] at nowhere
      split at nowhere
      · cases nowhere
      · rename_i notHere
        rw [List.isPrefixOf_iff_prefix] at notHere
        rw [Absent, List.append_nil]
        exact ⟨notHere, ih nowhere⟩

/-- To begin nowhere is not to be a part of the text. -/
theorem absent_iff_not_infix {text : Text} (nonempty : needle ≠ []) :
    Absent needle [] text ↔ ¬ needle <:+: text := by
  induction text with
  | nil => simp [Absent, nonempty]
  | cons char text ih => rw [Absent, List.append_nil, ih, List.infix_cons_iff, not_or]

/-- Where no place is taken, whatever is a part of the text is found. -/
theorem findFree?_nil_eq_none_iff {text : Text} (nonempty : needle ≠ []) :
    findFree? text needle [] = none ↔ ¬ needle <:+: text := by
  rw [← absent_iff_not_infix nonempty]
  constructor
  · intro notFound
    have nowhere : occurrencesFrom needle 0 0 text = [] := by
      apply List.eq_nil_iff_forall_not_mem.2
      simpa [findFree?, occurrences] using notFound
    exact absent_of_occurrencesFrom_eq_nil nowhere
  · intro absent
    exact findFree?_of_absent absent []

end DateDisplay.Detection
