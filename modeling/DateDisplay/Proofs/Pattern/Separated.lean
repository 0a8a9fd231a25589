import DateDisplay.Proofs.Pattern.Acceptance
import DateDisplay.Proofs.Pattern.FieldTexts

/-!
# Separated dates read back

A written date is split where its separators were put, unless a field shows the
separator itself: then there are too many pieces, and the text is invalid.  Hence
a date with a month number comes back as the pattern shows it or not at all.
-/

namespace DateDisplay

/-! ## Splitting joined texts -/

namespace Text

variable {separator : Char}

/-- There is one piece more than there are separators. -/
theorem length_splitOn (text : Text) :
    (text.splitOn separator).length = text.count separator + 1 := by
  induction text with
  | nil => rfl
  | cons char rest ih =>
      rw [List.splitOn_cons_eq_if_modifyHead, List.count_cons]
      split
      · rw [List.length_cons, ih]
      · rw [List.length_modifyHead, ih, Nat.add_zero]

/-- Joining keeps the separators of the texts and adds one between every two. -/
theorem count_intercalate (first : Text) (texts : List Text) :
    ([separator].intercalate (first :: texts)).count separator =
      (first :: texts).flatten.count separator + texts.length := by
  induction texts generalizing first with
  | nil => simp
  | cons second texts ih =>
      simp only [List.intercalate_cons_cons, List.count_append, ih, List.flatten_cons,
        List.length_cons, List.count_singleton_self]
      omega

/-- Joining trimmed texts gives a trimmed text, even with a blank separator. -/
theorem trim_intercalate {first : Text} {texts : List Text}
    (trimmed : ∀ text ∈ first :: texts, trim text = text ∧ text ≠ []) :
    trim ([separator].intercalate (first :: texts)) =
        [separator].intercalate (first :: texts) ∧
      [separator].intercalate (first :: texts) ≠ [] := by
  induction texts generalizing first with
  | nil => simpa using trimmed first
  | cons second texts ih =>
      rcases trimmed first List.mem_cons_self with ⟨firstTrimmed, firstNonempty⟩
      rcases ih fun text member => trimmed text (List.mem_cons_of_mem _ member) with
        ⟨restTrimmed, restNonempty⟩
      rw [List.intercalate_cons_cons]
      constructor
      · exact trim_append_append firstTrimmed firstNonempty restTrimmed restNonempty
      · simp [firstNonempty]

/-- Where the separator is no blank, the texts may even be empty. -/
theorem trim_intercalate_of_inked {first second third : Text}
    (inked : isBlank separator = false) (firstTrimmed : trim first = first)
    (thirdTrimmed : trim third = third) :
    trim ([separator].intercalate [first, second, third]) =
      [separator].intercalate [first, second, third] := by
  have separatorTrimmed : trim [separator] = [separator] := by
    rw [trim_eq_self_iff]
    simp [inked]
  have middleTrimmed : trim ([separator] ++ second ++ [separator]) =
      [separator] ++ second ++ [separator] :=
    trim_append_append separatorTrimmed (List.cons_ne_nil _ _) separatorTrimmed
      (List.cons_ne_nil _ _)
  have whole := trim_append_append_of_inked firstTrimmed middleTrimmed (by simp) thirdTrimmed
  simpa [List.intercalate_cons_cons] using whole

end Text

theorem FieldOrder.exists_toList_eq (order : FieldOrder) :
    ∃ first second third, order.toList = [first, second, third] := by
  cases order <;> exact ⟨_, _, _, rfl⟩

/-- The texts of the fields are found again between the separators, if none of them shows the
separator itself. -/
theorem FieldOrder.splitOn_intercalate {separator : Char} (order : FieldOrder)
    {texts : DateField → Text} (free : ∀ field, separator ∉ texts field) :
    ([separator].intercalate (order.toList.map texts)).splitOn separator =
      order.toList.map texts := by
  apply List.splitOn_intercalate
  · intro text member
    rcases List.mem_map.1 member with ⟨field, -, rfl⟩
    exact free field
  · simp [← List.length_eq_zero_iff]

namespace PatternCodec

variable {codec : PatternCodec} {context : Context} {date : CalendarDate}

/-! ## Reading a separated date -/

section Separated

variable {separator : Char} (separated : codec.pattern.layout = .separated separator)

include separated

theorem format_of_separated :
    codec.format date = [separator].intercalate (codec.fieldTexts date) := by
  simp only [format, separated]

/-- Where every field is trimmed, so is the date. -/
theorem trim_format_of_separated
    (trimmed : ∀ field, Text.trim (codec.fieldText date field) = codec.fieldText date field)
    (nonempty : ∀ field, codec.fieldText date field ≠ []) :
    Text.trim (codec.format date) = codec.format date ∧ codec.format date ≠ [] := by
  rcases codec.pattern.order.exists_toList_eq with ⟨first, second, third, order⟩
  rw [format_of_separated separated, fieldTexts, order]
  apply Text.trim_intercalate
  intro text member
  rw [← List.map_cons] at member
  rcases List.mem_map.1 member with ⟨field, -, rfl⟩
  exact ⟨trimmed field, nonempty field⟩

/-- Three texts with separators between them are read one by one, if none of them shows the
separator itself. -/
theorem read?_intercalate {texts : DateField → Text} (free : ∀ field, separator ∉ texts field)
    (trimmed : ∀ field, Text.trim (texts field) = texts field) :
    codec.read? context ([separator].intercalate (codec.pattern.order.toList.map texts)) =
      codec.readTexts? context texts := by
  have pieces := codec.pattern.order.splitOn_intercalate free
  have kept : (codec.pattern.order.toList.map texts).map Text.trim =
      codec.pattern.order.toList.map texts := by
    rw [List.map_map]
    apply List.map_congr_left
    intro field _
    exact trimmed field
  have split : codec.pattern.segments
      ([separator].intercalate (codec.pattern.order.toList.map texts)) =
      some (codec.pattern.order.toList.map fun field => (field, texts field)) := by
    simp only [Pattern.segments, separated, Pattern.split, pieces, kept]
    rw [← FieldOrder.zip_map_toList]
    simp [Pattern.fieldsOfPieces]
  rw [read?, split, Option.bind_some, assemble?_map_toList]

/-- A date is read field by field where no field shows the separator. -/
theorem read?_format_of_separated
    (free : ∀ field, separator ∉ codec.fieldText date field)
    (trimmed : ∀ field, Text.trim (codec.fieldText date field) = codec.fieldText date field) :
    codec.read? context (codec.format date) =
      codec.readTexts? context (codec.fieldText date) := by
  rw [format_of_separated separated, fieldTexts, read?_intercalate separated free trimmed]

/-- A date is not read where a field shows the separator. -/
theorem read?_format_of_mem {field : DateField}
    (member : separator ∈ codec.fieldText date field) :
    codec.read? context (codec.format date) = none := by
  rcases codec.pattern.order.exists_toList_eq with ⟨first, second, third, order⟩
  have shown : separator ∈ (codec.fieldTexts date).flatten := by
    apply List.mem_flatten.2
    exact ⟨_, List.mem_map_of_mem (codec.pattern.order.mem_toList field), member⟩
  have pieces : 4 ≤ ((codec.format date).splitOn separator).length := by
    rw [format_of_separated separated, Text.length_splitOn, fieldTexts, order, List.map_cons,
      Text.count_intercalate]
    have positive := List.count_pos_iff.2 shown
    simp only [fieldTexts, order, List.map_cons, List.map_nil, List.length_cons,
      List.length_nil] at positive ⊢
    omega
  have split : codec.pattern.segments (codec.format date) = none := by
    simp only [Pattern.segments, separated, Pattern.split, List.length_map]
    rcases Nat.exists_eq_add_of_le' pieces with ⟨more, count⟩
    rw [count]
    rfl
  rw [read?, split, Option.bind_none]

end Separated

/-! ## Dates with a month number -/

/-- A separated date with a month number is read back as the pattern retains it,
whatever the separator.  Where the month is not one of twelve, or a minus sign is
shown, it is invalid; it is never read as another date. -/
theorem parse_format_of_separated {window : CenturyWindow} {raw : Text} {separator : Char}
    (accepted : Pattern.compileWith window raw = .ok codec.pattern)
    (separated : codec.pattern.layout = .separated separator)
    (numeric : codec.pattern.month ≠ .name) (context : Context) (date : CalendarDate) :
    codec.parse context (codec.format date) =
      if date.month.toNat ≤ 11 ∧ (codec.pattern.year = .full → 0 ≤ date.year.toInt) then
        .parsed (codec.pattern.retained date)
      else .invalid := by
  have trimmed := fun field => @trim_fieldText codec date field fun _ => numeric
  have nonempty := fun field => @fieldText_ne_nil codec date field fun _ => numeric
  rcases trim_format_of_separated separated trimmed nonempty with
    ⟨formatTrimmed, formatNonempty⟩
  by_cases free : ∀ field, separator ∉ codec.fieldText date field
  · apply parse_of_read?_eq_ite formatTrimmed formatNonempty
    rw [read?_format_of_separated separated free trimmed, readTexts?_fieldText numeric]
  · -- The separator is no digit, so what the field shows of it is a minus sign.
    rcases Classical.not_forall.1 free with ⟨field, shown⟩
    have member := Classical.not_not.1 shown
    rw [parse_of_trim_eq_self formatTrimmed formatNonempty,
      read?_format_of_mem separated member]
    rcases mem_fieldText (fun _ => numeric) member with digit | ⟨-, notTold⟩
    · rw [Pattern.isDigit_separator accepted separated] at digit
      contradiction
    · rw [if_neg fun told => notTold told.2]

/-- With blanks between the fields a date comes back; with hyphens a year before year
zero does not. -/
theorem parse_format_of_blank_and_hyphen :
    let blank : Pattern :=
      ⟨" _d_M0y".toList, .separated ' ', .dayMonthYear, .bare, .bare, some {}⟩
    let hyphen : Pattern :=
      ⟨"-_y0M0d".toList, .separated '-', .yearMonthDay, .zeroPadded, .zeroPadded, none⟩
    let context : Context := ⟨⟨⟨2013, 1, 12⟩, by decide⟩, none⟩
    (Pattern.compileWith {} " _d_M0y".toList = .ok blank ∧ blank.layout = .separated ' ' ∧
      blank.month ≠ .name ∧
      parse ⟨blank, []⟩ context (format ⟨blank, []⟩ ⟨1987, 10, 5⟩) = .parsed ⟨1987, 10, 5⟩) ∧
    (Pattern.compileWith {} "-_y0M0d".toList = .ok hyphen ∧ hyphen.layout = .separated '-' ∧
      hyphen.month ≠ .name ∧
      parse ⟨hyphen, []⟩ context (format ⟨hyphen, []⟩ ⟨-44, 2, 15⟩) = .invalid) := by
  refine ⟨⟨rfl, rfl, by decide, ?_⟩, ⟨rfl, rfl, by decide, ?_⟩⟩
  · exact @parse_format_of_separated ⟨_, []⟩ {} " _d_M0y".toList ' ' rfl rfl (by decide) _ _
  · exact @parse_format_of_separated ⟨_, []⟩ {} "-_y0M0d".toList '-' rfl rfl (by decide) _ _

end PatternCodec

end DateDisplay
