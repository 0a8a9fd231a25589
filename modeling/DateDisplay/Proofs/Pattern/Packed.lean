import Mathlib.Algebra.Order.BigOperators.Group.List
import Mathlib.Algebra.Order.Group.Nat
import Mathlib.Algebra.Ring.Nat
import DateDisplay.Proofs.Pattern.FieldTexts

/-!
# Packed dates read back

Packed text is told apart by the widths of its fields alone.  A date whose fields
take exactly their widths is cut where they meet.  No field takes less than its
width, so that any other date is too long, and for a full year nothing too long is
cut at all: a number that outgrows its width is never cut into another date.
-/

namespace DateDisplay

namespace Pattern

/-! ## Cutting by width -/

/-- Texts that take their widths are found again in their junction. -/
theorem cut_flatten {fields : List DateField} {width : DateField → Nat}
    {texts : DateField → Text}
    (exact : ∀ field ∈ fields, (texts field).length = width field) :
    cut (fields.map fun field => (field, width field)) (fields.map texts).flatten =
      some (fields.map fun field => (field, texts field)) := by
  induction fields with
  | nil => rfl
  | cons field fields ih =>
      have fits := exact field List.mem_cons_self
      have rest := ih fun other member => exact other (List.mem_cons_of_mem _ member)
      simp only [List.map_cons, List.flatten_cons, cut, List.drop_left' fits,
        List.take_left' fits, rest, Option.map_some]

/-- What is longer than all widths together is not cut. -/
theorem cut_eq_none_of_lt {widths : List (DateField × Nat)} {text : Text}
    (long : (widths.map Prod.snd).sum < text.length) : cut widths text = none := by
  induction widths generalizing text with
  | nil =>
      cases text with
      | nil => contradiction
      | cons char rest => rfl
  | cons entry widths ih =>
      have rest : cut widths (text.drop entry.2) = none := by
        apply ih
        simp only [List.map_cons, List.sum_cons] at long
        rw [List.length_drop]
        omega
      simp only [cut, rest, Option.map_none]

variable {pattern : Pattern}

theorem packedWidth_eq_sum (pattern : Pattern) :
    pattern.packedWidth = (pattern.order.toList.map pattern.width).sum :=
  List.sum_eq_foldl.symm

/-- Texts that take their widths take the width of the pattern together. -/
theorem length_flatten_of_width {texts : DateField → Text}
    (exact : ∀ field, (texts field).length = pattern.width field) :
    (pattern.order.toList.map texts).flatten.length = pattern.packedWidth := by
  rw [List.length_flatten, List.map_map, packedWidth_eq_sum]
  congr 1
  apply List.map_congr_left
  intro field _
  exact exact field

/-- Where all fields are present, each has its own width. -/
theorem map_sliceWidth {length : Nat} (long : 4 < length)
    (own : pattern.year = .short → length ≠ pattern.packedWidth + 2) :
    ((pattern.fieldsOfLength length).map fun field =>
        (field, pattern.sliceWidth length field)) =
      pattern.order.toList.map fun field => (field, pattern.width field) := by
  have fields : pattern.fieldsOfLength length = pattern.order.toList := by
    rw [fieldsOfLength, if_neg (by omega), if_neg (by omega)]
  rw [fields]
  apply List.map_congr_left
  intro field _
  rw [sliceWidth, if_neg]
  rintro ⟨-, short, same⟩
  exact own short same

/-- The digits of three fields that take their widths are cut where they meet. -/
theorem slice_flatten {texts : DateField → Text}
    (ascii : ∀ field, ∀ char ∈ texts field, Text.isAscii char = true)
    (exact : ∀ field, (texts field).length = pattern.width field) :
    pattern.slice (pattern.order.toList.map texts).flatten =
      some (pattern.order.toList.map fun field => (field, texts field)) := by
  have allAscii : (pattern.order.toList.map texts).flatten.all Text.isAscii = true := by
    simpa [List.all_eq_true] using fun field char member => ascii field char member
  have length := length_flatten_of_width exact
  have wide := pattern.packedWidth_eq
  rw [slice, if_pos allAscii, length, map_sliceWidth]
  · exact cut_flatten fun field _ => exact field
  · split at wide <;> omega
  · omega

/-- With a full year nothing longer than the pattern is cut. -/
theorem slice_eq_none_of_lt {text : Text} (full : pattern.year = .full)
    (long : pattern.packedWidth < text.length) : pattern.slice text = none := by
  have wide := pattern.packedWidth_eq
  rw [slice]
  split
  · rw [map_sliceWidth]
    · apply cut_eq_none_of_lt
      simpa [List.map_map, Function.comp_def, packedWidth_eq_sum] using long
    · split at wide <;> omega
    · simp [full]
  · rfl

end Pattern

namespace PatternCodec

variable {codec : PatternCodec} {context : Context} {date : CalendarDate}

section Packed

variable (packed : codec.pattern.layout = .packed)

include packed

theorem format_of_packed : codec.format date = (codec.fieldTexts date).flatten := by
  simp only [format, packed]

/-- Where no field shows anything blank, neither does the date. -/
theorem trim_format_of_packed
    (inked : ∀ field, ∀ char ∈ codec.fieldText date field, Text.isBlank char = false)
    (nonempty : codec.fieldText date .day ≠ []) :
    Text.trim (codec.format date) = codec.format date ∧ codec.format date ≠ [] := by
  rw [format_of_packed packed, fieldTexts]
  constructor
  · apply Text.trim_of_forall_isBlank_eq_false
    intro char member
    rcases List.mem_flatten.1 member with ⟨text, textMember, charMember⟩
    rcases List.mem_map.1 textMember with ⟨field, -, rfl⟩
    exact inked field char charMember
  · intro empty
    exact nonempty (List.flatten_eq_nil_iff.1 empty _
      (List.mem_map_of_mem (codec.pattern.order.mem_toList .day)))

/-! ## The widths of written fields -/

theorem numberText_of_packed (bare : Bool) (number : Nat) :
    numberText codec.pattern.layout bare number = Decimal.padded 2 number := by
  rw [packed]
  cases bare <;> rfl

theorem yearText_of_packed (full : codec.pattern.century = none) :
    codec.yearText date = Decimal.signedPadded 4 date.year.toInt := by
  simp only [yearText, Pattern.year_eq_full_iff.2 full, packed]

theorem length_dayText_iff :
    (codec.dayText date).length = codec.pattern.width .day ↔ date.day.toNat ≤ 99 := by
  have width : codec.pattern.width .day = 2 := rfl
  rw [dayText, numberText_of_packed packed, width, Decimal.length_padded_eq_iff (by decide)]
  omega

theorem length_monthText_iff (numeric : codec.pattern.month ≠ .name) :
    (codec.monthText date).length = codec.pattern.width .month ↔ date.month.toNat ≤ 98 := by
  have width : codec.pattern.width .month = 2 := rfl
  have number := date.toNat_monthNumber
  rw [monthText_eq_numberText numeric, numberText_of_packed packed, width,
    Decimal.length_padded_eq_iff (by decide)]
  omega

theorem length_yearText_iff :
    (codec.yearText date).length = codec.pattern.width .year ↔
      (codec.pattern.year = .full → -999 ≤ date.year.toInt ∧ date.year.toInt ≤ 9999) := by
  simp only [Pattern.year_eq_full_iff, Pattern.width]
  cases century : codec.pattern.century with
  | some window =>
      rw [yearText_of_short century, CenturyWindow.shorten]
      simp [Decimal.length_padded_eq_iff]
      omega
  | none =>
      rw [yearText_of_packed packed century]
      simp [Decimal.length_signedPadded_eq_iff]
      split <;> omega

/-- Day and year take their widths when these hold their digits. -/
theorem length_fieldText_of_number {field : DateField} (number : field ≠ .month)
    (day : date.day.toNat ≤ 99)
    (year : codec.pattern.year = .full → 0 ≤ date.year.toInt ∧ date.year.toInt ≤ 9999) :
    (codec.fieldText date field).length = codec.pattern.width field := by
  cases field with
  | month => contradiction
  | day => exact (length_dayText_iff packed).2 day
  | year =>
      apply (length_yearText_iff packed).2
      intro full
      obtain ⟨nonneg, bounded⟩ := year full
      exact ⟨by omega, bounded⟩

/-- No field is narrower than its width. -/
theorem width_le_length_fieldText {field : DateField}
    (numeric : field = .month → codec.pattern.month ≠ .name) :
    codec.pattern.width field ≤ (codec.fieldText date field).length := by
  cases field with
  | day =>
      rw [fieldText, dayText, numberText_of_packed packed]
      exact Decimal.width_le_length_padded _ _
  | month =>
      rw [fieldText, monthText_eq_numberText (numeric rfl), numberText_of_packed packed]
      exact Decimal.width_le_length_padded _ _
  | year =>
      rw [fieldText, Pattern.width]
      cases century : codec.pattern.century with
      | some window =>
          rw [yearText_of_short century]
          exact Decimal.width_le_length_padded _ _
      | none =>
          rw [yearText_of_packed packed century]
          exact Decimal.width_le_length_signedPadded _ _

/-! ## Dates with a month number -/

variable (numeric : codec.pattern.month ≠ .name)

include numeric

/-- All three fields take exactly their widths. -/
theorem forall_length_fieldText_iff :
    (∀ field, (codec.fieldText date field).length = codec.pattern.width field) ↔
      date.day.toNat ≤ 99 ∧ date.month.toNat ≤ 98 ∧
        (codec.pattern.year = .full → -999 ≤ date.year.toInt ∧ date.year.toInt ≤ 9999) := by
  rw [← length_dayText_iff packed, ← length_monthText_iff packed numeric,
    ← length_yearText_iff packed]
  constructor
  · intro exact
    exact ⟨exact .day, exact .month, exact .year⟩
  · rintro ⟨day, month, year⟩ field
    cases field with
    | day => exact day
    | month => exact month
    | year => exact year

theorem read?_format_of_packed :
    codec.read? context (codec.format date) =
      (codec.pattern.slice (codec.format date)).bind (codec.assemble? context) := by
  rw [read?, segments_of_packed packed numeric]

/-- A date whose fields take their widths is read field by field. -/
theorem read?_format_of_width
    (exact : ∀ field, (codec.fieldText date field).length = codec.pattern.width field) :
    codec.read? context (codec.format date) =
      codec.readTexts? context (codec.fieldText date) := by
  have ascii : ∀ field, ∀ char ∈ codec.fieldText date field, Text.isAscii char = true := by
    intro field char member
    rcases mem_fieldText (fun _ => numeric) member with digit | ⟨rfl, -⟩
    · exact Text.isAscii_of_isDigit digit
    · rfl
  rw [read?_format_of_packed packed numeric, format_of_packed packed, fieldTexts,
    Pattern.slice_flatten ascii exact, Option.bind_some, assemble?_map_toList]

/-- With a full year a date that does not fit the widths is not read. -/
theorem read?_format_of_not_width (full : codec.pattern.year = .full)
    (inexact : ¬ ∀ field, (codec.fieldText date field).length = codec.pattern.width field) :
    codec.read? context (codec.format date) = none := by
  -- No field is narrower than its width, so that one wider field is not made up for.
  have long : codec.pattern.packedWidth < (codec.format date).length := by
    have least := fun field =>
      @width_le_length_fieldText codec date packed field fun _ => numeric
    rcases Classical.not_forall.1 inexact with ⟨field, different⟩
    have wider : codec.pattern.width field < (codec.fieldText date field).length :=
      Nat.lt_of_le_of_ne (least field) (Ne.symm different)
    rw [format_of_packed packed, fieldTexts, List.length_flatten, Pattern.packedWidth_eq_sum,
      List.map_map]
    exact List.sum_lt_sum _ _ (fun field _ => least field)
      ⟨field, codec.pattern.order.mem_toList field, wider⟩
  rw [read?_format_of_packed packed numeric, Pattern.slice_eq_none_of_lt full long,
    Option.bind_none]

theorem trim_format_of_numbers :
    Text.trim (codec.format date) = codec.format date ∧ codec.format date ≠ [] := by
  have inked : ∀ field, ∀ char ∈ codec.fieldText date field, Text.isBlank char = false :=
    fun _ _ member => isBlank_of_mem_fieldText (fun _ => numeric) member
  have nonempty : codec.fieldText date .day ≠ [] := fieldText_ne_nil fun _ => numeric
  exact trim_format_of_packed packed inked nonempty

theorem parse_format_of_width
    (exact : ∀ field, (codec.fieldText date field).length = codec.pattern.width field) :
    codec.parse context (codec.format date) =
      if date.month.toNat ≤ 11 ∧ (codec.pattern.year = .full → 0 ≤ date.year.toInt) then
        .parsed (codec.pattern.retained date)
      else .invalid := by
  rcases @trim_format_of_numbers codec date packed numeric with ⟨trimmed, nonempty⟩
  apply parse_of_read?_eq_ite trimmed nonempty
  rw [read?_format_of_width packed numeric exact, readTexts?_fieldText numeric]

theorem parse_format_of_not_width (full : codec.pattern.year = .full)
    (inexact : ¬ ∀ field, (codec.fieldText date field).length = codec.pattern.width field) :
    codec.parse context (codec.format date) = .invalid := by
  rcases @trim_format_of_numbers codec date packed numeric with ⟨trimmed, nonempty⟩
  rw [parse_of_trim_eq_self trimmed nonempty,
    read?_format_of_not_width packed numeric full inexact]

end Packed

/-- A packed date with a month number is read back where its fields take their
widths.  With a full year every other date is invalid, so that a text too wide is
never cut into another date; with a short year the year may be any. -/
theorem parse_format_of_packed (packed : codec.pattern.layout = .packed)
    (numeric : codec.pattern.month ≠ .name) (context : Context) :
    (codec.pattern.century = none → ∀ date : CalendarDate,
      codec.parse context (codec.format date) =
        if date.day.toNat ≤ 99 ∧ date.month.toNat ≤ 11 ∧
            0 ≤ date.year.toInt ∧ date.year.toInt ≤ 9999 then
          .parsed date
        else .invalid) ∧
    (∀ window, codec.pattern.century = some window → ∀ date : CalendarDate,
      date.day.toNat ≤ 99 → date.month.toNat ≤ 11 →
        codec.parse context (codec.format date) =
          .parsed { date with
            year := window.resolve (.ofInt (date.year.toInt % 100)) }) := by
  constructor
  · intro century date
    have full := Pattern.year_eq_full_iff.2 century
    by_cases exact : ∀ field, (codec.fieldText date field).length = codec.pattern.width field
    · rcases (forall_length_fieldText_iff packed numeric).1 exact with ⟨day, -, year⟩
      rw [parse_format_of_width packed numeric exact, Pattern.retained_of_full century]
      simp only [full, true_implies, day, true_and, (year full).2, and_true]
    · have unfit : ¬ (date.day.toNat ≤ 99 ∧ date.month.toNat ≤ 11 ∧
          0 ≤ date.year.toInt ∧ date.year.toInt ≤ 9999) := by
        rintro ⟨day, month, nonneg, year⟩
        apply exact
        exact (forall_length_fieldText_iff packed numeric).2
          ⟨day, by omega, fun _ => ⟨by omega, year⟩⟩
      rw [parse_format_of_not_width packed numeric full exact, if_neg unfit]
  · intro window century date day month
    have short : codec.pattern.year ≠ .full := by
      simp [Pattern.year_eq_full_iff, century]
    have exact : ∀ field, (codec.fieldText date field).length = codec.pattern.width field :=
      (forall_length_fieldText_iff packed numeric).2
        ⟨day, by omega, fun full => absurd full short⟩
    rw [parse_format_of_width packed numeric exact,
      if_pos ⟨month, fun full => absurd full short⟩, Pattern.retained_of_short century]

/-- A full year of four digits comes back and one of five does not; a short year of
five digits comes back as its last two tell. -/
theorem parse_format_of_packed_full_and_short :
    let full : Pattern :=
      ⟨"_y0M0d".toList, .packed, .yearMonthDay, .zeroPadded, .zeroPadded, none⟩
    let short : Pattern :=
      ⟨"_d_M0y".toList, .packed, .dayMonthYear, .bare, .bare, some {}⟩
    let context : Context := ⟨⟨⟨2013, 1, 12⟩, by decide⟩, none⟩
    (full.layout = .packed ∧ full.month ≠ .name ∧ full.century = none ∧
      parse ⟨full, []⟩ context (format ⟨full, []⟩ ⟨476, 8, 4⟩) = .parsed ⟨476, 8, 4⟩ ∧
      parse ⟨full, []⟩ context (format ⟨full, []⟩ ⟨12024, 2, 5⟩) = .invalid) ∧
    (short.layout = .packed ∧ short.month ≠ .name ∧ short.century = some {} ∧
      parse ⟨short, []⟩ context (format ⟨short, []⟩ ⟨12024, 2, 5⟩) =
        .parsed ⟨2024, 2, 5⟩) := by
  refine ⟨⟨rfl, by decide, rfl, ?_, ?_⟩, ⟨rfl, by decide, rfl, ?_⟩⟩
  · exact (@parse_format_of_packed ⟨_, []⟩ rfl (by decide) _).1 rfl ⟨476, 8, 4⟩
  · exact (@parse_format_of_packed ⟨_, []⟩ rfl (by decide) _).1 rfl ⟨12024, 2, 5⟩
  · exact (@parse_format_of_packed ⟨_, []⟩ rfl (by decide) _).2 {} rfl ⟨12024, 2, 5⟩
      (by decide) (by decide)

end PatternCodec

end DateDisplay
