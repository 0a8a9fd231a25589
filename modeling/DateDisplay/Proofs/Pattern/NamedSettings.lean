import Mathlib.Data.List.Basic
import DateDisplay.Pattern.Settings
import DateDisplay.Proofs.Pattern.Acceptance
import DateDisplay.Proofs.Text.Numbers

/-!
# Settings and the patterns they spell

Whatever is changed about settings, numbers between which nothing stands stay padded.  The
text of settings compiles to what they say, unless the separator clashes with a field or the
century does not fit its two digits.  A century that is too wide makes a text that is too
long; where one character too many makes up for the separator that is missing, the tokens
are out of step.
-/

namespace DateDisplay

/-! ## Written century windows -/

namespace CenturyWindow

/-- A number below 100 is written with the two digits that it is read from. -/
theorem exists_padded_eq_pair {number : UInt8} (small : number.toNat < 100) :
    ∃ high low, Decimal.padded 2 number.toNat = [high, low] ∧
      twoDigits? high low = some number := by
  have length : (Decimal.padded 2 number.toNat).length = 2 :=
    (Decimal.length_padded_eq_iff (by decide)).2 small
  have read := Decimal.read?_padded 2 number.toNat
  rcases List.length_eq_two.1 length with ⟨high, low, pair⟩
  refine ⟨high, low, pair, ?_⟩
  rw [pair, Decimal.read?, Option.ite_none_right_eq_some] at read
  rcases read with ⟨⟨-, digits⟩, value⟩
  have both : high.isDigit ∧ low.isDigit := by
    simpa using digits
  rw [twoDigits?, if_pos both, Option.some.inj value, UInt8.ofNat_toNat]

/-- The suffix of a window is read as the window. -/
theorem isSuffix_suffix {window : CenturyWindow} (century : window.century.toNat < 100)
    (boundary : window.boundary.toNat < 100) : IsSuffix window.suffix window := by
  rcases exists_padded_eq_pair century with ⟨century₁, century₂, centuryText, centuryRead⟩
  rcases exists_padded_eq_pair boundary with
    ⟨boundary₁, boundary₂, boundaryText, boundaryRead⟩
  rw [← ofSuffix?_eq_some_iff, suffix, centuryText, boundaryText]
  simp only [List.cons_append, List.nil_append, ofSuffix?, sign?_eq_some_iff.2 rfl,
    centuryRead, boundaryRead]
  rfl

/-- Each number of a suffix takes two digits or three. -/
theorem length_padded_two (number : UInt8) :
    (Decimal.padded 2 number.toNat).length = if number.toNat < 100 then 2 else 3 := by
  have bound := number.toNat_lt
  split
  · exact (Decimal.length_padded_eq_iff (by decide)).2 ‹_›
  · rename_i large
    have most : (Decimal.digits number.toNat).length ≤ 3 :=
      (Nat.length_toDigits_le_iff (by decide) (by decide)).2 (by omega)
    have more : ¬ (Decimal.digits number.toNat).length ≤ 2 := fun two =>
      large ((Nat.length_toDigits_le_iff (by decide) (by decide)).1 two)
    rw [Decimal.length_padded]
    omega

theorem length_suffix (window : CenturyWindow) :
    window.suffix.length =
      1 + ((if window.century.toNat < 100 then 2 else 3) +
        (if window.boundary.toNat < 100 then 2 else 3)) := by
  rw [suffix, List.length_cons, List.length_append, length_padded_two, length_padded_two]
  omega

end CenturyWindow

/-! ## Tokens out of step -/

namespace Pattern

/-- A token is a character for the style and one for the field, and no character is both. -/
theorem Token.exists_mem_text_eq (token : Token) :
    ∃ style ∈ ['0', '_', 'm'], ∃ letter ∈ ['d', 'M', 'y'], token.text = [style, letter] := by
  cases token with
  | day style => cases style <;> exact ⟨_, by decide, _, by decide, rfl⟩
  | month style => cases style <;> exact ⟨_, by decide, _, by decide, rfl⟩
  | year style => cases style <;> exact ⟨_, by decide, _, by decide, rfl⟩

/-- The second character of a token begins no token. -/
theorem Token.text_ne_of_second {token other : Token} {first second next : Char}
    (tokenText : token.text = [first, second]) : other.text ≠ [second, next] := by
  intro otherText
  rcases token.exists_mem_text_eq with ⟨_, -, letter, isLetter, text⟩
  rcases other.exists_mem_text_eq with ⟨style, isStyle, _, -, otherEq⟩
  rw [tokenText] at text
  rw [otherText] at otherEq
  cases text
  cases otherEq
  simp only [List.mem_cons, List.not_mem_nil, or_false] at isLetter isStyle
  rcases isLetter with rfl | rfl | rfl <;> simp at isStyle

theorem Fields.exists_text_eq (fields : Fields) :
    ∃ first second third : Token, fields.text = first.text ++ (second.text ++ third.text) := by
  rcases fields with ⟨order, day, month, year⟩
  cases order <;> exact ⟨_, _, _, by simp [Fields.text, FieldOrder.toList]; rfl⟩

theorem Fields.length_text (fields : Fields) : fields.text.length = 6 := by
  rw [Fields.text_eq_flatMap, length_flatMap_text, List.length_map, FieldOrder.length_toList]

/-- Where a suffix of six characters stands behind three tokens and nothing before them, the
first character is taken for a separator, and the characters behind it are no token. -/
theorem firstFault_of_six {fields : Fields} {suffix : Text} (six : suffix.length = 6) :
    ∃ fault, FirstFault (fields.text ++ suffix) fault := by
  rcases fields.exists_text_eq with ⟨first, second, third, text⟩
  rcases first.exists_text_eq with ⟨a, b, firstText⟩
  rcases second.exists_text_eq with ⟨c, d, secondText⟩
  rcases third.exists_text_eq with ⟨e, f, thirdText⟩
  rw [text, firstText, secondText, thirdText]
  match suffix, six with
  | [s, t, u, v, w, x], _ =>
      have divides : Divides ([a, b] ++ ([c, d] ++ [e, f]) ++ [s, t, u, v, w, x]) (some a)
          [b, c, d, e, f, s] [t, u, v, w, x] :=
        ⟨rfl, by simp, rfl, by simp, by simp⟩
      have unknown : SlotFault [b, c, d, e, f, s] (.unknownToken [b, c]) :=
        @SlotFault.unknownToken _ [] b c [d, e, f, s] rfl .nil
          fun token => Token.text_ne_of_second firstText
      exact ⟨_, .slot divides unknown⟩

end Pattern

namespace PatternSettings

variable {settings : PatternSettings}

/-! ## Changes -/

/-- Numbers between which nothing stands are padded. -/
structure Settled (settings : PatternSettings) : Prop where
  day : settings.separator = none → settings.day = .zeroPadded
  month : settings.separator = none → settings.month ≠ .bare

/-- Every change reconciles what it leaves of the other settings. -/
theorem Settled.apply (settled : settings.Settled) (change : Change) :
    (settings.apply change).Settled := by
  cases change with
  | separator char =>
      constructor
      · exact nofun
      · exact nofun
  | noSeparator =>
      constructor
      · exact fun _ => rfl
      · intro _ bare
        simp only [PatternSettings.apply, withoutSeparator] at bare
        split at bare
        · cases bare
        · contradiction
  | paddedDay padded =>
      cases padded with
      | true => exact ⟨fun _ => rfl, settled.month⟩
      | false =>
          constructor <;> intro none <;> cases separator : settings.separator <;>
            simp [PatternSettings.apply, withPaddedDay, requireSeparator, separator] at none
  | paddedMonth padded =>
      cases padded with
      | true => exact ⟨settled.day, nofun⟩
      | false =>
          constructor <;> intro none <;> cases separator : settings.separator <;>
            simp [PatternSettings.apply, withPaddedMonth, requireSeparator, separator] at none
  | monthNames => exact ⟨settled.day, nofun⟩
  | shortYear short => exact ⟨settled.day, settled.month⟩
  | century window => exact ⟨settled.day, settled.month⟩
  | order order => exact ⟨settled.day, settled.month⟩

/-- Hence so does every list of changes. -/
theorem Settled.of_mem_history {start : PatternSettings} (settled : start.Settled)
    {changes : List Change} (member : settings ∈ start.history changes) :
    settings.Settled := by
  induction changes generalizing start with
  | nil =>
      rw [List.mem_singleton.1 member]
      exact settled
  | cons change changes ih =>
      rcases List.mem_cons.1 member with rfl | later
      · exact settled
      · exact ih (settled.apply change) later

/-- The settings that others are made from: those at first and the common patterns. -/
def common : List PatternSettings :=
  [{}, isoDate, dottedDate, shortDottedDate, slashedDate, packedDate]

theorem settled_of_mem_common (member : settings ∈ common) : settings.Settled := by
  simp only [common, List.mem_cons, List.not_mem_nil, or_false] at member
  rcases member with rfl | rfl | rfl | rfl | rfl | rfl <;> exact ⟨by decide, by decide⟩

/-! ## The pattern of settings -/

/-- The layout that a separator, or its absence, stands for. -/
def layout (settings : PatternSettings) : Pattern.Layout :=
  match settings.separator with
  | some separator => .separated separator
  | none => .packed

/-- The pattern that settings describe. -/
def pattern (settings : PatternSettings) : Pattern where
  raw := settings.text
  layout := settings.layout
  order := settings.order
  day := settings.day
  month := settings.month
  century :=
    match settings.year with
    | .short => some settings.century
    | .full => none

/-- What stands behind the tokens. -/
def suffix (settings : PatternSettings) : Text :=
  match settings.year with
  | .short => settings.century.suffix
  | .full => []

@[simp] theorem separator?_layout (settings : PatternSettings) :
    settings.layout.separator? = settings.separator := by
  rw [layout]
  split <;> simp_all [Pattern.Layout.separator?]

@[simp] theorem year_pattern (settings : PatternSettings) :
    settings.pattern.year = settings.year := by
  cases year : settings.year <;> simp [Pattern.year, pattern, year]

@[simp] theorem fields_pattern (settings : PatternSettings) :
    settings.pattern.fields = settings.fields := by
  rw [Pattern.fields, year_pattern]
  rfl

/-- The settings are within what a pattern text can say. -/
structure Allowed (settings : PatternSettings) : Prop where
  separator_ne_digit : ∀ separator ∈ settings.separator, separator.isDigit = false
  separator_ne_letter : settings.month = .name →
    ∀ separator ∈ settings.separator, Text.isAlphabetic separator = false
  century_lt : settings.year = .short →
    settings.century.century.toNat < 100 ∧ settings.century.boundary.toNat < 100

/-- The numbers of a century tell how many characters its suffix takes. -/
theorem length_suffix_iff (settings : PatternSettings) :
    settings.suffix = [] ∨ settings.suffix.length = 5 ↔
      (settings.year = .short →
        settings.century.century.toNat < 100 ∧ settings.century.boundary.toNat < 100) := by
  cases year : settings.year with
  | full => simp [suffix, year]
  | short =>
      have nonempty : settings.century.suffix ≠ [] := List.cons_ne_nil _ _
      have length := settings.century.length_suffix
      simp only [suffix, year, nonempty, false_or, true_implies]
      split at length <;> split at length <;> omega

/-- Where they take too many, they take one or two more. -/
theorem length_suffix_of_wide
    (wide : ¬ (settings.suffix = [] ∨ settings.suffix.length = 5)) :
    settings.suffix.length = 6 ∨ settings.suffix.length = 7 := by
  cases year : settings.year with
  | full => simp [suffix, year] at wide
  | short =>
      have length := settings.century.length_suffix
      simp only [suffix, year] at wide ⊢
      split at length <;> split at length <;> omega

theorem length_text (settings : PatternSettings) :
    settings.text.length =
      settings.separator.toList.length + 6 + settings.suffix.length := by
  rw [← settings.fields.length_text, ← List.length_append, ← List.length_append]
  rfl

/-- A text whose suffix has the right length is taken apart where it was put together. -/
theorem divides_text (narrow : settings.suffix = [] ∨ settings.suffix.length = 5) :
    Pattern.Divides settings.text settings.separator settings.fields.text
      settings.suffix := by
  have length := settings.length_text
  rw [← List.length_eq_zero_iff] at narrow
  constructor
  case raw_eq => rfl
  case length_raw =>
    cases separator : settings.separator <;> simp [separator] at length ⊢ <;> omega
  case length_slots => exact settings.fields.length_text
  case separator_iff =>
    cases separator : settings.separator <;> simp [separator] at length ⊢ <;> omega
  case suffix_iff =>
    cases separator : settings.separator <;> simp [separator] at length <;> omega

/-- Settings that are allowed spell their pattern. -/
theorem Allowed.spells (allowed : settings.Allowed) (window : CenturyWindow) :
    Pattern.Spells window settings.text settings.suffix settings.pattern := by
  constructor
  case raw_eq => rfl
  case divides =>
    rw [fields_pattern]
    simpa [pattern] using divides_text (settings.length_suffix_iff.2 allowed.century_lt)
  case separator_ne_digit => simpa [pattern] using allowed.separator_ne_digit
  case separator_ne_letter => simpa [pattern] using allowed.separator_ne_letter
  case century =>
    rw [year_pattern]
    cases year : settings.year with
    | full =>
        simp only [suffix, pattern, year]
        exact .full
    | short =>
        rcases allowed.century_lt year with ⟨century, boundary⟩
        simp only [suffix, pattern, year]
        exact .written (CenturyWindow.isSuffix_suffix century boundary)

/-- A suffix of another length makes a text that spells no pattern. -/
theorem exists_firstFault_of_wide
    (wide : ¬ (settings.suffix = [] ∨ settings.suffix.length = 5)) :
    ∃ fault, Pattern.FirstFault settings.text fault := by
  have longer := length_suffix_of_wide wide
  by_cases missing : settings.separator = none ∧ settings.suffix.length = 6
  · have text : settings.text = settings.fields.text ++ settings.suffix := by
      rw [PatternSettings.text, missing.1]
      rfl
    rw [text]
    exact Pattern.firstFault_of_six missing.2
  · have length := settings.length_text
    refine ⟨_, .invalidLength ?_ ?_⟩
    · intro empty
      rw [empty, List.length_nil] at length
      omega
    · cases separator : settings.separator <;> rw [separator] at length missing <;>
        simp at length missing ⊢ <;> omega

/-- Settings that are not allowed have a text with a fault. -/
theorem exists_firstFault_of_not_allowed (forbidden : ¬ settings.Allowed) :
    ∃ fault, Pattern.FirstFault settings.text fault := by
  by_cases narrow : settings.suffix = [] ∨ settings.suffix.length = 5
  · apply Classical.byContradiction
    intro faultless
    apply forbidden
    have unclashed : ∀ char ∈ settings.separator, ¬ Pattern.Clashes char settings.month := by
      intro char member clashes
      apply faultless
      have divides := divides_text narrow
      rw [Option.mem_def.1 member] at divides
      exact ⟨_, .separator divides clashes⟩
    rcases Pattern.forall_not_clashes_iff.1 unclashed with ⟨noDigit, noLetter⟩
    exact ⟨noDigit, noLetter, settings.length_suffix_iff.1 narrow⟩
  · exact exists_firstFault_of_wide narrow

/-- The text of settings compiles to their pattern or to none, whatever the window that is
given for short years. -/
theorem compileWith_text_eq_ok_iff (window : CenturyWindow) {pattern : Pattern} :
    Pattern.compileWith window settings.text = .ok pattern ↔
      settings.Allowed ∧ pattern = settings.pattern := by
  by_cases allowed : settings.Allowed
  · have compiled := Pattern.compileWith_eq_ok_iff.2 ⟨_, allowed.spells window⟩
    rw [compiled, Except.ok.injEq]
    constructor
    · intro same
      exact ⟨allowed, same.symm⟩
    · intro made
      exact made.2.symm
  · rcases exists_firstFault_of_not_allowed allowed with ⟨fault, firstFault⟩
    rw [Pattern.compileWith, Pattern.read_of_firstFault firstFault]
    constructor
    · intro compiled
      cases compiled
    · intro made
      exact absurd made.1 allowed

/-- However settings were made, their numbers are padded where no separator is, and they
compile exactly when they are allowed, to the pattern that they describe.  A century of
three digits compiles to nothing at all. -/
theorem compile_iff_allowed_of_history {start : PatternSettings} (known : start ∈ common)
    {changes : List Change} (member : settings ∈ start.history changes) :
    settings.Settled ∧
    (∀ pattern, settings.compile = .ok pattern ↔
      settings.Allowed ∧ pattern = settings.pattern) ∧
    (settings.year = .short →
      ¬ (settings.century.century.toNat < 100 ∧ settings.century.boundary.toNat < 100) →
      ∀ window pattern, Pattern.compileWith window settings.text ≠ .ok pattern) := by
  refine ⟨(settled_of_mem_common known).of_mem_history member, ?_, ?_⟩
  · intro pattern
    exact compileWith_text_eq_ok_iff settings.century
  · intro short wide window pattern compiled
    exact wide (((compileWith_text_eq_ok_iff window).1 compiled).1.century_lt short)

/-- Without a separator, a century of three digits makes a text as long as one with a
separator; it does not compile, as it did with two digits. -/
theorem compile_of_wide_century :
    let changes : List Change := [.noSeparator, .century ⟨121, 40, true⟩]
    let narrow := shortDottedDate.withoutSeparator
    let wide := narrow.withCentury ⟨121, 40, true⟩
    (shortDottedDate ∈ common ∧ narrow ∈ shortDottedDate.history changes ∧
      wide ∈ shortDottedDate.history changes) ∧
    narrow.compile = .ok ⟨"0d0M0y-2140".toList, .packed, .dayMonthYear, .zeroPadded,
      .zeroPadded, some ⟨21, 40, false⟩⟩ ∧
    wide.text = "0d0M0y+12140".toList ∧
    ∀ window pattern, Pattern.compileWith window wide.text ≠ .ok pattern := by
  intro changes narrow wide
  have known : shortDottedDate ∈ common := by decide
  have inNarrow : narrow ∈ shortDottedDate.history changes := by decide
  have inWide : wide ∈ shortDottedDate.history changes := by decide
  have allowed : narrow.Allowed := by
    constructor
    · exact nofun
    · exact nofun
    · exact fun _ => by decide
  refine ⟨⟨known, inNarrow, inWide⟩, ?_, by decide, ?_⟩
  · exact ((compile_iff_allowed_of_history known inNarrow).2.1 _).2 ⟨allowed, by decide⟩
  · exact (compile_iff_allowed_of_history known inWide).2.2 rfl (by decide)

end PatternSettings

end DateDisplay
