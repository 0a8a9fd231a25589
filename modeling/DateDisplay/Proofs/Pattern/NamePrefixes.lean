import DateDisplay.Proofs.Pattern.MonthNames
import DateDisplay.Proofs.Text.LowerCase

/-!
# Months named by the beginning of their name

The beginning of a month name names that month or an earlier one, whatever the context, as long
as it does not end behind a capital sigma and in the middle of a word.  There the sigma is
lowered as if its word were over, so that the name no longer begins with it.
-/

namespace DateDisplay.PatternCodec

variable {codec : PatternCodec} {name : Text}

/-- No month is found for a text that no name begins with, letter case aside. -/
theorem findMonth?_eq_none_iff :
    codec.findMonth? name = none ↔
      name ≠ [] → ∀ candidate ∈ codec.monthNames,
        ¬ Text.lowerCase name <+: Text.lowerCase candidate := by
  rw [findMonth?]
  by_cases empty : name = []
  · simp [empty]
  · rw [if_neg (Text.lowerCase_ne_nil empty), List.findIdx?_eq_none_iff]
    simp only [← List.isPrefixOf_iff_prefix, Bool.not_eq_true, ne_eq, empty, not_false_eq_true,
      true_implies]

/-- A text that a name begins with is found there or earlier. -/
theorem exists_findMonth?_le {index : Nat} {candidate : Text} (nonempty : name ≠ [])
    (shown : codec.monthNames[index]? = some candidate)
    (begins : Text.lowerCase name <+: Text.lowerCase candidate) :
    ∃ found ≤ index, codec.findMonth? name = some found := by
  cases result : codec.findMonth? name with
  | none =>
      have member := List.mem_of_getElem? shown
      exact absurd begins (findMonth?_eq_none_iff.1 result nonempty candidate member)
  | some found =>
      refine ⟨found, ?_, rfl⟩
      have notEarlier := (findMonth?_eq_some_iff.1 result).2.2
      apply Nat.le_of_not_lt
      intro earlier
      exact notEarlier candidate (List.mem_of_getElem? (List.getElem?_take_of_lt earlier ▸ shown))
        begins

/-- A month that is found is the one the text stands for in every context. -/
theorem resolveMonthName_of_findMonth? {found : Nat} (result : codec.findMonth? name = some found)
    (context : Context) : codec.resolveMonthName context name = .ofNat found := by
  rw [resolveMonthName, result]

theorem resolveMonthName_of_findMonth?_eq_none (result : codec.findMonth? name = none)
    (context : Context) : codec.resolveMonthName context name = context.unnamedMonth := by
  rw [resolveMonthName, result]

/-- What a month name begins with stands for that month or an earlier one whose name begins
with it too, letter case aside and in every context.  Where it cuts a word behind a capital
sigma, its name does not count; if no other name begins with it, it stands for the month of the
context. -/
theorem resolveMonthName_of_front {index : Nat} {front rest : Text}
    (shown : codec.monthNames[index]? = some (front ++ rest)) (nonempty : front ≠ []) :
    (¬ Text.CutsWord front rest →
      ∃ found ≤ index,
        (∃ candidate, codec.monthNames[found]? = some candidate ∧
          Text.lowerCase front <+: Text.lowerCase candidate) ∧
        ∀ context, codec.resolveMonthName context front = .ofNat found) ∧
    (Text.CutsWord front rest →
      (∀ candidate ∈ codec.monthNames, candidate ≠ front ++ rest →
        ¬ Text.lowerCase front <+: Text.lowerCase candidate) →
      ∀ context, codec.resolveMonthName context front = context.unnamedMonth) := by
  constructor
  · intro whole
    obtain ⟨found, notLater, result⟩ :=
      exists_findMonth?_le nonempty shown (Text.prefix_lowerCase_append_iff.2 whole)
    have begins := (findMonth?_eq_some_iff.1 result).2.1
    exact ⟨found, notLater, begins, resolveMonthName_of_findMonth? result⟩
  · intro cut others
    have result : codec.findMonth? front = none := by
      refine findMonth?_eq_none_iff.2 fun _ candidate member => ?_
      by_cases same : candidate = front ++ rest
      · rw [same, Text.prefix_lowerCase_append_iff]
        exact not_not_intro cut
      · exact others candidate member same
    exact resolveMonthName_of_findMonth?_eq_none result

/-- A name that ends in a capital sigma is recognised as a whole. -/
theorem resolveMonthName_of_whole_greek_name :
    let codec : PatternCodec :=
      ⟨⟨" _dmM_y".toList, .separated ' ', .dayMonthYear, .bare, .name, none⟩,
        ["ΙΟΥΛΙΟΣ".toList, "ΑΥΓΟΥΣΤΟΣ".toList]⟩
    codec.monthNames[1]? = some ("ΑΥΓΟΥΣΤΟΣ".toList ++ []) ∧ "ΑΥΓΟΥΣΤΟΣ".toList ≠ [] ∧
      ¬ Text.CutsWord "ΑΥΓΟΥΣΤΟΣ".toList [] ∧
      ∃ found ≤ 1,
        (∃ candidate, codec.monthNames[found]? = some candidate ∧
          Text.lowerCase "ΑΥΓΟΥΣΤΟΣ".toList <+: Text.lowerCase candidate) ∧
        ∀ context, codec.resolveMonthName context "ΑΥΓΟΥΣΤΟΣ".toList = .ofNat found := by
  intro codec
  have whole : ¬ Text.CutsWord "ΑΥΓΟΥΣΤΟΣ".toList [] := fun cut => absurd cut.goesOn (by decide)
  exact ⟨rfl, by decide, whole,
    (@resolveMonthName_of_front codec 1 "ΑΥΓΟΥΣΤΟΣ".toList [] rfl (by decide)).1 whole⟩

/-- What a Greek name in capitals begins with is read as the month of the context, if it ends
behind a sigma of the name. -/
theorem front_behind_sigma_unrecognised :
    let codec : PatternCodec :=
      ⟨⟨" _dmM_y".toList, .separated ' ', .dayMonthYear, .bare, .name, none⟩,
        ["ΙΑΝΟΥΑΡΙΟΣ", "ΦΕΒΡΟΥΑΡΙΟΣ", "ΜΑΡΤΙΟΣ", "ΑΠΡΙΛΙΟΣ", "ΜΑΪΟΣ", "ΙΟΥΝΙΟΣ", "ΙΟΥΛΙΟΣ",
          "ΑΥΓΟΥΣΤΟΣ", "ΣΕΠΤΕΜΒΡΙΟΣ", "ΟΚΤΩΒΡΙΟΣ", "ΝΟΕΜΒΡΙΟΣ", "ΔΕΚΕΜΒΡΙΟΣ"].map String.toList⟩
    let context : Context := ⟨⟨⟨2013, 1, 12⟩, by decide⟩, some 11⟩
    codec.monthNames[7]? = some ("ΑΥΓΟΥΣ".toList ++ "ΤΟΣ".toList) ∧ "ΑΥΓΟΥΣ".toList ≠ [] ∧
      codec.resolveMonthName context "ΑΥΓΟΥΣ".toList = 11 ∧
      (¬ ∃ found ≤ 7, codec.resolveMonthName context "ΑΥΓΟΥΣ".toList = .ofNat found) ∧
      codec.parse context "5 ΑΥΓΟΥΣ 2024".toList = .parsed ⟨2024, 11, 5⟩ := by
  intro codec context
  have missed : codec.resolveMonthName context "ΑΥΓΟΥΣ".toList = 11 := by decide +kernel
  refine ⟨rfl, by decide, missed, ?_, by decide +kernel⟩
  rintro ⟨found, inBounds, result⟩
  have same := congrArg UInt32.toNat (missed.symm.trans result)
  have eleven : (11 : UInt32).toNat = 11 := rfl
  rw [UInt32.toNat_ofNat_of_lt' (Nat.lt_of_le_of_lt inBounds (by decide)), eleven] at same
  omega

end DateDisplay.PatternCodec
