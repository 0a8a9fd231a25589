import DateDisplay.Text.Decimal

/-!
# Century windows

A short year keeps the last two digits of a year.  A century window puts it back
into a century: it names a century and a boundary among the two-digit years, and
years on one side of the boundary belong to the century before.

With the window of the 21st century, boundary 40 and previous century above it,
`24` is 2024 and `87` is 1987.
-/

namespace DateDisplay

/-- The rule that expands two-digit years. -/
structure CenturyWindow where
  /-- The century of most short years; 21 means the years from 2000. -/
  century : UInt8 := 21
  /-- The first short year on the upper side. -/
  boundary : UInt8 := 40
  /-- Whether the previous century takes the years below the boundary, or those
  from the boundary on. -/
  previousBelow : Bool := false
  deriving DecidableEq, Repr

namespace CenturyWindow

/-- A window whose two numbers are reduced to two digits each. -/
def reduced (century boundary : UInt8) (previousBelow : Bool) : CenturyWindow :=
  ⟨century % 100, boundary % 100, previousBelow⟩

/-- A number written with two ASCII digits. -/
def twoDigits? (high low : Char) : Option UInt8 :=
  if high.isDigit ∧ low.isDigit then
    some (.ofNat (Nat.ofDigitChars 10 [high, low] 0))
  else none

/-- Whether the sign in front of a suffix puts the previous century below the
boundary. -/
def sign? : Char → Option Bool
  | '+' => some true
  | '-' => some false
  | _ => none

/-- The window that a suffix such as `+2140` describes: a sign, two digits for
the century and two for the boundary. -/
def ofSuffix? : Text → Option CenturyWindow
  | [sign, century₁, century₂, boundary₁, boundary₂] => do
      let previousBelow ← sign? sign
      let century ← twoDigits? century₁ century₂
      let boundary ← twoDigits? boundary₁ boundary₂
      some ⟨century, boundary, previousBelow⟩
  | _ => none

/-- The suffix of a window.  A number of 100 or more takes three digits, which no
pattern accepts. -/
def suffix (window : CenturyWindow) : Text :=
  (if window.previousBelow then '+' else '-') ::
    (Decimal.padded 2 window.century.toNat ++ Decimal.padded 2 window.boundary.toNat)

/-- The first year of the century that a two-digit year falls in. -/
def base (window : CenturyWindow) (year : Int) : Int :=
  let first := 100 * ((window.century.toNat : Int) - 1)
  if decide (year < window.boundary.toNat) = window.previousBelow then first - 100 else first

/-- Expand a two-digit year.  Any other year was written in full and is kept. -/
def resolve (window : CenturyWindow) (year : Int32) : Int32 :=
  if 0 ≤ year.toInt ∧ year.toInt < 100 then
    .ofInt (window.base year.toInt + year.toInt)
  else year

/-- The last two digits of a year. -/
def shorten (year : Int32) : Text :=
  Decimal.padded 2 (year.toInt % 100).toNat

theorem base_bounds (window : CenturyWindow) (year : Int) :
    -200 ≤ window.base year ∧ window.base year ≤ 25400 := by
  have bound := window.century.toNat_lt
  simp only [base]
  split <;> omega

/-- Expanding stays within the range of years. -/
theorem toInt_resolve (window : CenturyWindow) (year : Int32) :
    (window.resolve year).toInt =
      if 0 ≤ year.toInt ∧ year.toInt < 100 then window.base year.toInt + year.toInt
      else year.toInt := by
  rw [resolve]
  split
  · have bounds := window.base_bounds year.toInt
    exact Int32.toInt_ofInt_of_le (by simp; omega) (by simp; omega)
  · rfl

end CenturyWindow

end DateDisplay
