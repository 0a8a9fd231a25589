import DateDisplay.Proofs.Pattern.Outline

/-!
# Which texts are patterns

A text compiles exactly when it spells a pattern, and then to the pattern it
spells.  Every other text is rejected with its first fault, the checks being made
in the order of length, tokens from left to right, separator and century.
-/

namespace DateDisplay.Pattern

/-! ## Separator and century -/

/-- A separator clashes with nothing when it is no digit and, among month names, no
letter. -/
theorem forall_not_clashes_iff {separator : Option Char} {month : MonthStyle} :
    (∀ char ∈ separator, ¬ Clashes char month) ↔
      (∀ char ∈ separator, char.isDigit = false) ∧
        (month = .name → ∀ char ∈ separator, Text.isAlphabetic char = false) := by
  constructor
  · intro allowed
    constructor
    · intro char member
      simpa using fun digit => allowed char member (.inl digit)
    · intro named char member
      simpa using fun letter => allowed char member (.inr ⟨named, letter⟩)
  · rintro ⟨noDigit, noLetter⟩ char member (digit | ⟨named, letter⟩)
    · simp [noDigit char member] at digit
    · simp [noLetter named char member] at letter

theorem checkSeparator_eq_ok_iff {layout : Layout} {month : MonthStyle} :
    checkSeparator layout month = .ok () ↔
      ∀ separator ∈ layout.separator?, ¬ Clashes separator month := by
  cases layout with
  | packed => simp [checkSeparator, Layout.separator?]
  | separated separator =>
      simp only [checkSeparator, Layout.separator?, Option.mem_def, Option.some.injEq,
        forall_eq']
      split <;> simp_all

theorem checkSeparator_eq_error_iff {layout : Layout} {month : MonthStyle}
    {fault : PatternFault} :
    checkSeparator layout month = .error fault ↔
      ∃ separator, layout.separator? = some separator ∧ Clashes separator month ∧
        fault = .invalidSeparator separator := by
  cases layout with
  | packed => simp [checkSeparator, Layout.separator?]
  | separated separator =>
      simp only [checkSeparator, Layout.separator?, Option.some.injEq]
      split <;> simp_all [eq_comm]

theorem readCentury_eq_ok_iff {window : CenturyWindow} {year : YearStyle} {suffix : Text}
    {century : Option CenturyWindow} :
    readCentury window year suffix = .ok century ↔ CenturyOf window year suffix century := by
  constructor
  · intro result
    unfold readCentury at result
    split at result
    · cases result
      exact .given
    · split at result
      · rename_i own suffixRead
        cases result
        exact .written (CenturyWindow.ofSuffix?_eq_some_iff.1 suffixRead)
      · cases result
    · cases result
      exact .full
    · cases result
  · intro century
    cases century with
    | full => rfl
    | given => rfl
    | written isSuffix =>
        have suffixRead := CenturyWindow.ofSuffix?_eq_some_iff.2 isSuffix
        cases isSuffix
        simp only [readCentury, suffixRead]

theorem readCentury_eq_error_iff {window : CenturyWindow} {year : YearStyle}
    {suffix : Text} {fault : PatternFault} :
    readCentury window year suffix = .error fault ↔ CenturyFault suffix year fault := by
  constructor
  · intro result
    unfold readCentury at result
    split at result
    · cases result
    · rename_i nonempty
      split at result
      · cases result
      · rename_i notRead
        cases result
        refine .malformed (fun empty => nonempty empty) fun window isSuffix => ?_
        rw [CenturyWindow.ofSuffix?_eq_some_iff.2 isSuffix] at notRead
        cases notRead
    · cases result
    · rename_i nonempty
      cases result
      exact .withoutShortYear fun empty => nonempty empty
  · intro centuryFault
    cases centuryFault with
    | malformed nonempty noSuffix =>
        have notRead : CenturyWindow.ofSuffix? suffix = none :=
          Option.eq_none_iff_forall_ne_some.2 fun window suffixRead =>
            noSuffix window (CenturyWindow.ofSuffix?_eq_some_iff.1 suffixRead)
        cases suffix with
        | nil => exact absurd rfl nonempty
        | cons sign digits => simp only [readCentury, notRead]
    | withoutShortYear nonempty =>
        cases suffix with
        | nil => exact absurd rfl nonempty
        | cons sign digits => rfl

/-! ## The whole text -/

/-- The separator tells the layout. -/
theorem Layout.separator?_inj {left right : Layout} :
    left.separator? = right.separator? ↔ left = right := by
  cases left <;> cases right <;> simp [separator?]

/-- A text is taken apart where its parts meet. -/
theorem Divides.exists_outline {raw slots suffix : Text} {separator : Option Char}
    (divides : Divides raw separator slots suffix) :
    ∃ outline, Outline.ofText raw = .ok outline ∧ outline.layout.separator? = separator ∧
      outline.slots = slots ∧ outline.suffix = suffix := by
  obtain ⟨layout, rfl⟩ : ∃ layout : Layout, layout.separator? = separator := by
    cases separator with
    | none => exact ⟨.packed, rfl⟩
    | some separator => exact ⟨.separated separator, rfl⟩
  match slots, divides.length_slots, divides with
  | [a, b, c, d, e, f], _, divides =>
      exact ⟨⟨layout, (a, b), (c, d), (e, f), suffix⟩,
        Outline.ofText_eq_ok_iff.2 divides, rfl, rfl, rfl⟩

/-- A year has a window exactly when it is short. -/
theorem CenturyOf.year_eq {window : CenturyWindow} {year : YearStyle} {suffix : Text}
    {century : Option CenturyWindow} (centuryOf : CenturyOf window year suffix century) :
    (if century.isSome then YearStyle.short else .full) = year := by
  cases centuryOf <;> rfl

theorem read_eq_ok_iff {window : CenturyWindow} {raw : Text} {pattern : Pattern} :
    read window raw = .ok pattern ↔ ∃ suffix, Spells window raw suffix pattern := by
  constructor
  · intro result
    simp only [read, bind_eq_ok_iff] at result
    rcases result with
      ⟨outline, outlined, fields, fieldsRead, ⟨⟩, checked, century, centuryRead, made⟩
    cases made
    have divides := Outline.ofText_eq_ok_iff.1 outlined
    have centuryOf := readCentury_eq_ok_iff.1 centuryRead
    rcases forall_not_clashes_iff.1 (checkSeparator_eq_ok_iff.1 checked) with
      ⟨noDigit, noLetter⟩
    rw [readFields_eq_ok_iff.1 fieldsRead] at divides
    refine ⟨outline.suffix, rfl, ?_, noDigit, noLetter, ?_⟩
    · simpa only [Pattern.fields, year, centuryOf.year_eq] using divides
    · simpa only [year, centuryOf.year_eq] using centuryOf
  · rintro ⟨suffix, spells⟩
    rcases spells.divides.exists_outline with ⟨outline, outlined, separator, slots, rfl⟩
    have layout := Layout.separator?_inj.1 separator
    have allowed : ∀ char ∈ outline.layout.separator?, ¬ Clashes char pattern.fields.month := by
      rw [layout]
      exact forall_not_clashes_iff.2 ⟨spells.separator_ne_digit, spells.separator_ne_letter⟩
    simp only [read, bind_eq_ok_iff]
    refine ⟨outline, outlined, pattern.fields, readFields_eq_ok_iff.2 slots, (),
      checkSeparator_eq_ok_iff.2 allowed, pattern.century,
      readCentury_eq_ok_iff.2 spells.century, ?_⟩
    rw [layout, ← spells.raw_eq]
    rfl

theorem firstFault_of_read {window : CenturyWindow} {raw : Text} {fault : PatternFault}
    (result : read window raw = .error fault) : FirstFault raw fault := by
  simp only [read, bind_eq_error_iff] at result
  rcases result with noOutline | ⟨outline, outlined, rest⟩
  · rcases Outline.ofText_eq_error_iff.1 noOutline with ⟨rfl, rfl⟩ | ⟨nonempty, length, rfl⟩
    · exact .empty rfl
    · exact .invalidLength nonempty length
  have divides := Outline.ofText_eq_ok_iff.1 outlined
  rcases rest with notRead | ⟨fields, fieldsRead, rest⟩
  · exact .slot divides (readFields_eq_error_iff.1 notRead)
  rw [readFields_eq_ok_iff.1 fieldsRead] at divides
  rcases rest with clash | ⟨⟨⟩, checked, rest⟩
  · rcases checkSeparator_eq_error_iff.1 clash with ⟨separator, layout, clashes, rfl⟩
    rw [layout] at divides
    exact .separator divides clashes
  rcases forall_not_clashes_iff.1 (checkSeparator_eq_ok_iff.1 checked) with
    ⟨noDigit, noLetter⟩
  rcases rest with notRead | ⟨century, centuryRead, impossible⟩
  · exact .century divides noDigit noLetter (readCentury_eq_error_iff.1 notRead)
  · cases impossible

theorem read_of_firstFault {window : CenturyWindow} {raw : Text} {fault : PatternFault}
    (firstFault : FirstFault raw fault) : read window raw = .error fault := by
  simp only [read, bind_eq_error_iff]
  cases firstFault with
  | empty isEmpty =>
      exact .inl (Outline.ofText_eq_error_iff.2 (.inl ⟨isEmpty, rfl⟩))
  | invalidLength nonempty length =>
      exact .inl (Outline.ofText_eq_error_iff.2 (.inr ⟨nonempty, length, rfl⟩))
  | slot divides slotFault =>
      rcases divides.exists_outline with ⟨outline, outlined, rfl, rfl, rfl⟩
      exact .inr ⟨outline, outlined, .inl (readFields_eq_error_iff.2 slotFault)⟩
  | @separator separator fields _ divides clashes =>
      rcases divides.exists_outline with ⟨outline, outlined, layout, slots, rfl⟩
      exact .inr ⟨outline, outlined, .inr ⟨fields, readFields_eq_ok_iff.2 slots,
        .inl (checkSeparator_eq_error_iff.2 ⟨separator, layout, clashes, rfl⟩)⟩⟩
  | @century _ fields _ _ divides noDigit noLetter centuryFault =>
      rcases divides.exists_outline with ⟨outline, outlined, rfl, slots, rfl⟩
      have allowed := forall_not_clashes_iff.2 ⟨noDigit, noLetter⟩
      exact .inr ⟨outline, outlined, .inr ⟨fields, readFields_eq_ok_iff.2 slots,
        .inr ⟨(), checkSeparator_eq_ok_iff.2 allowed,
          .inl (readCentury_eq_error_iff.2 centuryFault)⟩⟩⟩

theorem compileWith_eq_ok_iff {window : CenturyWindow} {raw : Text} {pattern : Pattern} :
    compileWith window raw = .ok pattern ↔ ∃ suffix, Spells window raw suffix pattern := by
  rw [← read_eq_ok_iff, compileWith]
  cases read window raw <;> constructor <;> rintro ⟨⟩ <;> rfl

theorem isDigit_separator {window : CenturyWindow} {raw : Text} {pattern : Pattern}
    {separator : Char} (accepted : compileWith window raw = .ok pattern)
    (separated : pattern.layout = .separated separator) : separator.isDigit = false := by
  rcases compileWith_eq_ok_iff.1 accepted with ⟨suffix, spells⟩
  apply spells.separator_ne_digit
  rw [separated]
  rfl

/-- Compiling is exact.  A text compiles to the patterns it spells and to nothing
else, and is rejected with its own text and its first fault and with nothing else. -/
theorem compileWith_iff_spells_or_firstFault (window : CenturyWindow) (raw : Text) :
    (∀ pattern, compileWith window raw = .ok pattern ↔
      ∃ suffix, Spells window raw suffix pattern) ∧
    (∀ error, compileWith window raw = .error error ↔
      error.pattern = raw ∧ FirstFault raw error.fault) := by
  constructor
  · exact fun pattern => compileWith_eq_ok_iff
  · rintro ⟨pattern, fault⟩
    constructor
    · intro result
      cases readResult : read window raw with
      | ok pattern =>
          rw [compileWith, readResult] at result
          cases result
      | error fault =>
          rw [compileWith, readResult] at result
          cases result
          exact ⟨rfl, firstFault_of_read readResult⟩
    · rintro ⟨rfl, firstFault⟩
      rw [compileWith, read_of_firstFault firstFault]
      rfl

/-- Of four faults the first counts: a day named twice stands before the unknown
token, the separator and the suffix. -/
example : compileWith {} "10d_d0x+21a0".toList =
    .error ⟨"10d_d0x+21a0".toList, .duplicateField .day⟩ := by
  rfl

end DateDisplay.Pattern
