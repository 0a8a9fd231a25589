import Mathlib.Data.Set.Card
import DateDisplay.Proofs.Pattern.FieldTexts

/-!
# Years of two digits

A window expands two digits to a year that ends in them, and keeps every other year.  So of all
the years with the same last two digits there is one that comes back when it is shortened.
Altogether these are a hundred years: with `-` they follow one another from the boundary on,
with `+` they are the two ends of two centuries.
-/

namespace DateDisplay.CenturyWindow

variable {window : CenturyWindow} {year : Int32}

/-! ## The last two digits -/

/-- A year that does not have two digits is kept. -/
theorem resolve_of_not_short (window : CenturyWindow)
    (long : ¬ (0 ≤ year.toInt ∧ year.toInt < 100)) : window.resolve year = year := by
  rw [resolve, if_neg long]

theorem resolve_of_le (window : CenturyWindow) (long : 100 ≤ year.toInt) :
    window.resolve year = year :=
  window.resolve_of_not_short fun short => absurd short.2 (Int.not_lt.2 long)

/-- Expanding a year keeps its last two digits. -/
theorem emod_resolve (window : CenturyWindow) (year : Int32) :
    (window.resolve year).toInt % 100 = year.toInt % 100 := by
  rw [toInt_resolve, base]
  split
  · split <;> omega
  · rfl

theorem shorten_resolve (window : CenturyWindow) (year : Int32) :
    shorten (window.resolve year) = shorten year := by
  rw [shorten, shorten, emod_resolve]

theorem toInt_ofInt_emod (year : Int32) :
    (Int32.ofInt (year.toInt % 100)).toInt = year.toInt % 100 :=
  Int32.toInt_ofInt_of_le (by simp; omega) (by simp; omega)

theorem toInt_ofInt_digits {digits : Nat} (short : digits < 100) :
    (Int32.ofInt digits).toInt = digits :=
  Int32.toInt_ofInt_of_le (by simp) (by simp; omega)

/-- An expanded year is expanded to itself. -/
theorem resolve_emod_resolve (window : CenturyWindow)
    (nonneg : 0 ≤ year.toInt) (short : year.toInt < 100) :
    window.resolve (.ofInt ((window.resolve year).toInt % 100)) = window.resolve year := by
  have same : Int32.ofInt ((window.resolve year).toInt % 100) = year := by
    rw [emod_resolve, Int.emod_eq_of_lt nonneg short, Int32.ofInt_toInt]
  rw [same]

/-- Expanding twice is expanding once, even where a window leaves a year with two digits. -/
theorem resolve_resolve (window : CenturyWindow) (year : Int32) :
    window.resolve (window.resolve year) = window.resolve year := by
  by_cases short : 0 ≤ year.toInt ∧ year.toInt < 100
  · by_cases again : 0 ≤ (window.resolve year).toInt ∧ (window.resolve year).toInt < 100
    · -- Of the years with two digits no two end alike.
      have same : window.resolve year = year := by
        have digits := window.emod_resolve year
        apply Int32.toInt_inj.1
        omega
      rw [same, same]
    · exact window.resolve_of_not_short again
  · rw [window.resolve_of_not_short short, window.resolve_of_not_short short]

/-! ## The years that come back -/

/-- The year comes back from the two digits that it is shortened to. -/
def Survives (window : CenturyWindow) (year : Int32) : Prop :=
  (Decimal.readYear? (shorten year)).map window.resolve = some year

instance (window : CenturyWindow) (year : Int32) : Decidable (window.Survives year) :=
  inferInstanceAs (Decidable (_ = _))

/-- The years of a window: from the boundary on in the century before, and up to it in the
century itself; or the other way round.  A boundary with three digits lies above all years. -/
def Covers (window : CenturyWindow) (year : Int) : Prop :=
  let century : Int := window.century.toNat
  let boundary : Int := min window.boundary.toNat 100
  if window.previousBelow then
    (100 * (century - 2) ≤ year ∧ year < 100 * (century - 2) + boundary) ∨
      (100 * (century - 1) + boundary ≤ year ∧ year < 100 * century)
  else 100 * (century - 2) + boundary ≤ year ∧ year < 100 * (century - 1) + boundary

theorem survives_iff_resolve_emod :
    window.Survives year ↔ window.resolve (.ofInt (year.toInt % 100)) = year := by
  rw [Survives, PatternCodec.readYear?_shorten, Option.map_some, Option.some.injEq]

theorem survives_iff_covers : window.Survives year ↔ window.Covers year.toInt := by
  have short : 0 ≤ year.toInt % 100 ∧ year.toInt % 100 < 100 := by omega
  rw [survives_iff_resolve_emod, ← Int32.toInt_inj, toInt_resolve, toInt_ofInt_emod,
    if_pos short, base, Covers]
  cases window.previousBelow with
  | false =>
      simp only [decide_eq_false_iff_not, Bool.false_eq_true, if_false]
      split <;> omega
  | true =>
      simp only [decide_eq_true_eq, if_true]
      split <;> omega

/-- What survives is what two digits are expanded to. -/
theorem survives_iff_mem_image :
    window.Survives year ↔
      year ∈ (fun digits : Nat => window.resolve (.ofInt digits)) '' Finset.range 100 := by
  rw [survives_iff_resolve_emod]
  constructor
  · intro same
    refine ⟨(year.toInt % 100).toNat, ?_, ?_⟩
    · rw [Finset.mem_coe, Finset.mem_range]
      omega
    · show window.resolve (.ofInt ((year.toInt % 100).toNat : Int)) = year
      rw [Int.toNat_of_nonneg (by omega), same]
  · rintro ⟨digits, member, rfl⟩
    rw [Finset.mem_coe, Finset.mem_range] at member
    have toInt := toInt_ofInt_digits member
    exact window.resolve_emod_resolve (by omega) (by omega)

/-- Exactly a hundred years survive, since no two of them end alike. -/
theorem ncard_survives (window : CenturyWindow) : {year | window.Survives year}.ncard = 100 := by
  have image : {year | window.Survives year} =
      (fun digits : Nat => window.resolve (.ofInt digits)) '' Finset.range 100 :=
    Set.ext fun _ => survives_iff_mem_image
  have injective : Set.InjOn (fun digits : Nat => window.resolve (.ofInt digits))
      (Finset.range 100) := by
    intro left leftMember right rightMember same
    rw [Finset.mem_coe, Finset.mem_range] at leftMember rightMember
    have leftEnds := window.emod_resolve (.ofInt left)
    have rightEnds := window.emod_resolve (.ofInt right)
    rw [show window.resolve (.ofInt left) = window.resolve (.ofInt right) from same, rightEnds,
      toInt_ofInt_digits leftMember, toInt_ofInt_digits rightMember] at leftEnds
    omega
  rw [image, injective.ncard_image, Set.ncard_coe_finset, Finset.card_range]

/-- A window keeps every year that does not have two digits, expands what it has expanded to
the same year, and keeps the last two digits.  The years that come back when they are shortened
are those of the window, a hundred in all. -/
theorem hundred_years_survive (window : CenturyWindow) :
    (∀ year, ¬ (0 ≤ year.toInt ∧ year.toInt < 100) → window.resolve year = year) ∧
    (∀ year, window.resolve (window.resolve year) = window.resolve year) ∧
    (∀ year, (window.resolve year).toInt % 100 = year.toInt % 100) ∧
    (∀ year, window.Survives year ↔ window.Covers year.toInt) ∧
    {year | window.Survives year}.ncard = 100 := by
  refine ⟨?_, ?_, ?_, ?_, ?_⟩
  · exact fun year long => window.resolve_of_not_short long
  · exact window.resolve_resolve
  · exact window.emod_resolve
  · exact fun year => survives_iff_covers
  · exact window.ncard_survives

example : Survives {} 1940 ∧ Survives {} 2039 ∧ ¬ Survives {} 1939 ∧ ¬ Survives {} 2040 := by
  decide

end DateDisplay.CenturyWindow
