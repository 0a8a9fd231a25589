/-!
# Sets of characters given by ranges

A character property with many members is written down as the list of its code
point ranges, both ends included, in ascending order.
-/

namespace DateDisplay

/-- Code point ranges, both ends included. -/
abbrev CharRanges := List (Nat × Nat)

namespace CharRanges

/-- Whether the code point of `char` lies in one of the ranges. -/
def contains (ranges : CharRanges) (char : Char) : Bool :=
  ranges.any fun range => range.1 ≤ char.toNat && char.toNat ≤ range.2

theorem contains_iff {ranges : CharRanges} {char : Char} :
    ranges.contains char = true ↔
      ∃ range ∈ ranges, range.1 ≤ char.toNat ∧ char.toNat ≤ range.2 := by
  simp [contains, List.any_eq_true]

end CharRanges

end DateDisplay
