import DateDisplay.Pattern.Grammar

/-!
# The spelling of patterns

What it is for a text to spell a pattern, and what the first fault is of a text
that spells none.  Both are said without the compiler: `Pattern.Spells` puts a
text together from separator, tokens and suffix, and each constructor of
`Pattern.FirstFault` names a fault together with what the checks before it ask.
-/

namespace DateDisplay

/-! ## Century suffixes -/

namespace CenturyWindow

/-- The number that two digits stand for. -/
def pairValue (high low : Char) : Nat :=
  10 * (high.toNat - '0'.toNat) + (low.toNat - '0'.toNat)

/-- The suffix of a window: a sign, two digits for the century and two for the
boundary. -/
inductive IsSuffix : Text → CenturyWindow → Prop where
  | signed (previousBelow : Bool) {century₁ century₂ boundary₁ boundary₂ : Char}
      (digits : ∀ char ∈ [century₁, century₂, boundary₁, boundary₂],
        char.isDigit = true) :
      IsSuffix
        [if previousBelow then '+' else '-', century₁, century₂, boundary₁, boundary₂]
        ⟨.ofNat (pairValue century₁ century₂), .ofNat (pairValue boundary₁ boundary₂),
          previousBelow⟩

theorem twoDigits?_eq_some_iff {high low : Char} {number : UInt8} :
    twoDigits? high low = some number ↔
      (high.isDigit = true ∧ low.isDigit = true) ∧
        UInt8.ofNat (pairValue high low) = number := by
  simp [twoDigits?, pairValue, Nat.ofDigitChars]

theorem sign?_eq_some_iff {sign : Char} {previousBelow : Bool} :
    sign? sign = some previousBelow ↔ sign = if previousBelow then '+' else '-' := by
  constructor
  · intro read
    unfold sign? at read
    split at read <;> cases read <;> rfl
  · rintro rfl
    cases previousBelow <;> rfl

/-- A suffix is read as the window it belongs to, and nothing else is read. -/
theorem ofSuffix?_eq_some_iff {text : Text} {window : CenturyWindow} :
    ofSuffix? text = some window ↔ IsSuffix text window := by
  constructor
  · intro read
    unfold ofSuffix? at read
    split at read
    · simp only [Option.bind_eq_bind, Option.bind_eq_some_iff, Option.some.injEq,
        twoDigits?_eq_some_iff, sign?_eq_some_iff] at read
      rcases read with ⟨previousBelow, rfl, _, ⟨century, rfl⟩, _, ⟨boundary, rfl⟩, rfl⟩
      exact .signed previousBelow (by simp [century, boundary])
    · cases read
  · intro suffix
    cases suffix with
    | signed previousBelow digits =>
        simp only [ofSuffix?, Option.bind_eq_bind, Option.bind_eq_some_iff,
          twoDigits?_eq_some_iff, sign?_eq_some_iff, Option.some.injEq]
        simp only [List.mem_cons, List.not_mem_nil, or_false, forall_eq_or_imp,
          forall_eq] at digits
        rcases digits with ⟨century₁, century₂, boundary₁, boundary₂⟩
        exact ⟨_, rfl, _, ⟨⟨century₁, century₂⟩, rfl⟩, _, ⟨⟨boundary₁, boundary₂⟩, rfl⟩, rfl⟩

end CenturyWindow

namespace Pattern

/-! ## The texts of patterns -/

/-- What a pattern says about the fields of a date. -/
def fields (pattern : Pattern) : Fields :=
  ⟨pattern.order, pattern.day, pattern.month, pattern.year⟩

/-- A text of one of the four lengths in three parts.  Its length tells whether it
has a separator and a suffix. -/
structure Divides (raw : Text) (separator : Option Char) (slots suffix : Text) :
    Prop where
  raw_eq : raw = separator.toList ++ slots ++ suffix
  length_raw : raw.length ∈ [6, 7, 11, 12]
  length_slots : slots.length = 6
  separator_iff : separator.isSome ↔ raw.length = 7 ∨ raw.length = 12
  suffix_iff : suffix.length = 5 ↔ raw.length = 11 ∨ raw.length = 12

/-- The window of a year with this style and suffix: a full year takes neither,
and a short year without a suffix takes the window given. -/
inductive CenturyOf (window : CenturyWindow) :
    YearStyle → Text → Option CenturyWindow → Prop where
  | full : CenturyOf window .full [] none
  | given : CenturyOf window .short [] (some window)
  | written {suffix : Text} {own : CenturyWindow} :
      CenturyWindow.IsSuffix suffix own → CenturyOf window .short suffix (some own)

/-- The text spells the pattern: a separator that no field content clashes with,
the tokens of the three fields in their order, and the suffix of a short year. -/
structure Spells (window : CenturyWindow) (raw suffix : Text) (pattern : Pattern) :
    Prop where
  raw_eq : pattern.raw = raw
  divides : Divides raw pattern.layout.separator? pattern.fields.text suffix
  separator_ne_digit : ∀ separator ∈ pattern.layout.separator?, separator.isDigit = false
  separator_ne_letter : pattern.month = .name →
    ∀ separator ∈ pattern.layout.separator?, Text.isAlphabetic separator = false
  century : CenturyOf window pattern.year suffix pattern.century

/-! ## The faults of all other texts -/

/-- The first fault of the tokens: the tokens before it are known and name
different fields, and the next one is unknown or names one of those fields. -/
inductive SlotFault (slots : Text) : PatternFault → Prop where
  | unknownToken {before : List Token} {first second : Char} {rest : Text} :
      slots = before.flatMap Token.text ++ first :: second :: rest →
      (before.map Token.field).Nodup → (∀ token : Token, token.text ≠ [first, second]) →
      SlotFault slots (.unknownToken [first, second])
  | duplicateField {before : List Token} {token : Token} {rest : Text} :
      slots = before.flatMap Token.text ++ (token.text ++ rest) →
      (before.map Token.field).Nodup → token.field ∈ before.map Token.field →
      SlotFault slots (.duplicateField token.field)

/-- The fault of a year with this style and suffix. -/
inductive CenturyFault (suffix : Text) : YearStyle → PatternFault → Prop where
  | malformed : suffix ≠ [] → (∀ window, ¬ CenturyWindow.IsSuffix suffix window) →
      CenturyFault suffix .short (.malformedCentury suffix)
  | withoutShortYear : suffix ≠ [] → CenturyFault suffix .full .centuryWithoutShortYear

/-- The first fault of a text.  Each constructor assumes what the checks before
its own ask for. -/
inductive FirstFault (raw : Text) : PatternFault → Prop where
  | empty : raw = [] → FirstFault raw .empty
  | invalidLength : raw ≠ [] → raw.length ∉ [6, 7, 11, 12] →
      FirstFault raw (.invalidLength raw.length)
  | slot {separator : Option Char} {slots suffix : Text} {fault : PatternFault} :
      Divides raw separator slots suffix → SlotFault slots fault → FirstFault raw fault
  | separator {separator : Char} {fields : Fields} {suffix : Text} :
      Divides raw (some separator) fields.text suffix →
      separator.isDigit = true ∨
        (fields.month = .name ∧ Text.isAlphabetic separator = true) →
      FirstFault raw (.invalidSeparator separator)
  | century {separator : Option Char} {fields : Fields} {suffix : Text}
      {fault : PatternFault} :
      Divides raw separator fields.text suffix →
      (∀ char ∈ separator, char.isDigit = false) →
      (fields.month = .name → ∀ char ∈ separator, Text.isAlphabetic char = false) →
      CenturyFault suffix fields.year fault → FirstFault raw fault

end Pattern

end DateDisplay
