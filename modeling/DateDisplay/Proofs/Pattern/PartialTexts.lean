import DateDisplay.Proofs.Pattern.Packed
import DateDisplay.Proofs.Pattern.ShortYears
import DateDisplay.Proofs.Pattern.YearTwins

/-!
# Partial texts completed

A text that leaves fields out means the text that shows them, with the numbers of the reference
day.  Between separators the completed text has three pieces; packed it has eight digits, so
that even a pattern with a short year reads the full one.  It does not matter whether what was
typed can be read: both texts are read as the same date, or both are invalid.  Only where
nothing was typed is there nothing to complete.
-/

namespace DateDisplay

namespace Pattern

variable {pattern : Pattern} {separator : Char} {text : Text} {pieces : List Segment}

/-- The texts of the fields, arranged as the pattern shows them. -/
def arranged (pattern : Pattern) (texts : DateField → Text) : Text :=
  match pattern.layout with
  | .separated separator => [separator].intercalate (pattern.order.toList.map texts)
  | .packed => (pattern.order.toList.map texts).flatten

/-- The least year that a pattern reads from its own digits. -/
def leastYear (pattern : Pattern) : Int :=
  if pattern.century.isSome then 100 else 0

/-! ## The pieces of a partial text -/

theorem Splits.nodup (splits : pattern.Splits separator text pieces) :
    (pieces.map Prod.fst).Nodup := by
  rw [splits.fields]
  exact pattern.order.nodup_toList.filter _

/-- A piece is what trimming leaves of a part without separators. -/
theorem Splits.exists_part (splits : pattern.Splits separator text pieces) {segment : Segment}
    (member : segment ∈ pieces) : ∃ part, separator ∉ part ∧ Text.trim part = segment.2 := by
  obtain ⟨parts, -, free, trimmed⟩ := splits.texts
  have shown : segment.2 ∈ parts.map Text.trim := trimmed ▸ List.mem_map_of_mem member
  obtain ⟨part, inParts, same⟩ := List.mem_map.1 shown
  exact ⟨part, free part inParts, same⟩

theorem Splits.trim_eq_self (splits : pattern.Splits separator text pieces) {segment : Segment}
    (member : segment ∈ pieces) : Text.trim segment.2 = segment.2 := by
  obtain ⟨part, -, same⟩ := splits.exists_part member
  rw [← same, Text.trim_trim]

theorem Splits.separator_notMem (splits : pattern.Splits separator text pieces)
    {segment : Segment} (member : segment ∈ pieces) : separator ∉ segment.2 := by
  obtain ⟨part, free, same⟩ := splits.exists_part member
  rw [← same]
  exact mt Text.mem_of_mem_trim free

/-- Where a blank separates, a trimmed text of at most two pieces has no empty one. -/
theorem Splits.forall_ne_nil (splits : pattern.Splits separator text pieces)
    (blank : Text.isBlank separator = true) (trimmed : Text.trim text = text)
    (nonempty : text ≠ []) (few : text.count separator ≤ 1) :
    ∀ segment ∈ pieces, segment.2 ≠ [] := by
  obtain ⟨parts, whole, -, shown⟩ := splits.texts
  have inked : ∀ part ∈ parts, Text.trim part ≠ [] := by
    match parts, whole with
    | [], whole => exact absurd whole.symm nonempty
    | [part], whole =>
        rw [List.intercalate_singleton] at whole
        simpa [whole, trimmed] using nonempty
    | [left, right], whole =>
        rw [List.intercalate_cons_cons, List.intercalate_singleton] at whole
        rw [← whole] at trimmed
        have both := Text.trim_ne_nil_of_blank_between blank trimmed
        simpa using both
    | first :: second :: third :: rest, whole =>
        have separators := @Text.count_intercalate separator first (second :: third :: rest)
        rw [whole, List.length_cons, List.length_cons] at separators
        omega
  intro segment member
  have inParts : segment.2 ∈ parts.map Text.trim := shown ▸ List.mem_map_of_mem member
  obtain ⟨part, partMember, same⟩ := List.mem_map.1 inParts
  rw [← same]
  exact inked part partMember

/-- So few characters do not tell a year. -/
theorem Slices.year_notMem (slices : pattern.Slices text pieces) (few : text.length ≤ 4) :
    .year ∉ pieces.map Prod.fst := by
  intro told
  rw [slices.fields] at told
  have many : 5 ≤ text.length := of_decide_eq_true (List.mem_filter.1 told).2
  omega

/-- Two characters are one slice and four are two, none of them short. -/
theorem Slices.forall_length_eq_two (slices : pattern.Slices text pieces)
    (even : text.length = 2 ∨ text.length = 4) : ∀ segment ∈ pieces, segment.2.length = 2 := by
  have total := congrArg List.length slices.joined
  have bounded : ∀ segment ∈ pieces, segment.2.length ≤ 2 := by
    rintro ⟨field, piece⟩ member
    have room := slices.filled.length_le member
    cases field with
    | year => exact absurd (List.mem_map_of_mem member) (slices.year_notMem (by omega))
    | _ => exact room
  have fields := congrArg List.length slices.fields
  rw [List.length_map] at fields
  cases even with
  | inl two =>
      rw [two, fieldsTold_of_le_two (by decide) (by decide)] at fields
      obtain ⟨only, rfl⟩ := List.length_eq_one_iff.1 fields
      simp only [List.forall_mem_singleton]
      simpa [two] using total
  | inr four =>
      have count : pieces.length = 2 := by
        rw [fields, four, fieldsTold_of_le_four (by decide) (by decide), dayAndMonth]
        cases pattern.order <;> rfl
      obtain ⟨first, second, rfl⟩ := List.length_eq_two.1 count
      have firstBound := bounded first List.mem_cons_self
      have secondBound := bounded second (List.mem_cons_of_mem _ List.mem_cons_self)
      have sum : first.2.length + second.2.length = 4 := by simpa [four] using total
      simp only [List.mem_cons, List.not_mem_nil, or_false, forall_eq_or_imp, forall_eq]
      omega

end Pattern

namespace PatternCodec

variable {codec : PatternCodec} {context : Context} {text : Text} {separator : Char}
  {pieces : List Pattern.Segment}

/-! ## The completed text -/

/-- The codec that shows years in full and pads numbers only where nothing stands between the
fields: there a day or a month takes two digits and a year four. -/
def plain (codec : PatternCodec) : PatternCodec :=
  { codec with
    pattern := { codec.pattern with day := .bare, month := .bare, century := none } }

/-- What a field shows in the completed text: its piece, or else its number on the reference
day. -/
def completedText (codec : PatternCodec) (context : Context) (pieces : List Pattern.Segment)
    (field : DateField) : Text :=
  (pieces.lookup field).getD (codec.plain.fieldText context.reference.date field)

/-- The text that shows all three fields. -/
def completed (codec : PatternCodec) (context : Context) (pieces : List Pattern.Segment) :
    Text :=
  codec.pattern.arranged (codec.completedText context pieces)

theorem plain_month_ne_name (codec : PatternCodec) : codec.plain.pattern.month ≠ .name :=
  nofun

/-- What a completed text shows is a piece, or a number of the reference day. -/
theorem completedText_cases (codec : PatternCodec) (context : Context)
    (pieces : List Pattern.Segment) (field : DateField) :
    (field, codec.completedText context pieces field) ∈ pieces ∨
      (field ∉ pieces.map Prod.fst ∧ codec.completedText context pieces field =
        codec.plain.fieldText context.reference.date field) := by
  rw [completedText]
  cases found : pieces.lookup field with
  | none =>
      right
      refine ⟨fun member => ?_, rfl⟩
      obtain ⟨segment, inPieces, rfl⟩ := List.mem_map.1 member
      have differs := List.lookup_eq_none_iff.1 found segment inPieces
      simp at differs
  | some piece =>
      left
      obtain ⟨before, after, split, -⟩ := List.lookup_eq_some_iff.1 found
      rw [split]
      exact List.mem_append_right _ List.mem_cons_self

theorem completedText_ne_nil (inked : ∀ segment ∈ pieces, segment.2 ≠ []) (field : DateField) :
    codec.completedText context pieces field ≠ [] := by
  rcases codec.completedText_cases context pieces field with member | ⟨-, shown⟩
  · exact inked _ member
  · rw [shown]
    exact fieldText_ne_nil fun _ => codec.plain_month_ne_name

/-- Where no field has two pieces, each shows its own. -/
theorem map_completedText (distinct : (pieces.map Prod.fst).Nodup) :
    (pieces.map Prod.fst).map (codec.completedText context pieces) = pieces.map Prod.snd := by
  rw [List.map_map]
  apply List.map_congr_left
  rintro ⟨field, piece⟩ member
  have found := (lookup_eq_some_iff_mem distinct).2 member
  simp only [Function.comp_apply, completedText, found, Option.getD_some]

/-! ## Reading the completed text -/

theorem readField?_eq_read?_getD {α : Type} {field : DateField} {read? : Text → Option α}
    {shown : Text} {kept : α} (read : read? shown = some kept) :
    readField? pieces field read? kept = read? ((pieces.lookup field).getD shown) := by
  rw [readField?]
  cases pieces.lookup field with
  | none => exact read.symm
  | some piece => rfl

theorem nonneg_of_leastYear_le {year : Int} (told : codec.pattern.leastYear ≤ year) :
    0 ≤ year := by
  rw [Pattern.leastYear] at told
  split at told <;> omega

/-- The month of the reference day is read back from its number. -/
theorem readMonth?_plain (numeric : codec.pattern.month ≠ .name) :
    codec.readMonth? context (codec.plain.monthText context.reference.date) =
      some context.reference.date.month := by
  have inYear := context.reference.isReal.month_lt
  have read := @readMonth?_monthText codec.plain context context.reference.date
    codec.plain_month_ne_name
  rw [readMonth?_of_numeric codec.plain_month_ne_name, if_pos (Nat.lt_succ_iff.1 inYear)] at read
  rw [readMonth?_of_numeric numeric, read]

section Told

variable (told : codec.pattern.leastYear ≤ context.reference.date.year.toInt)

include told

/-- The year of the reference day is read back from its digits. -/
theorem readYear?_plain :
    codec.readYear? (codec.plain.yearText context.reference.date) =
      some context.reference.date.year := by
  obtain ⟨width, shown⟩ := @exists_yearText_of_full codec.plain context.reference.date rfl
  rw [readYear?, shown, Decimal.readYear?_signedPadded, if_pos (nonneg_of_leastYear_le told),
    Option.map_some]
  cases century : codec.pattern.century with
  | none => rfl
  | some window =>
      have long : 100 ≤ context.reference.date.year.toInt := by
        simpa [Pattern.leastYear, century] using told
      exact congrArg some (window.resolve_of_le long)

/-- The numbers of the reference day are nothing but digits. -/
theorem isDigit_of_mem_plain {field : DateField} {char : Char}
    (member : char ∈ codec.plain.fieldText context.reference.date field) :
    char.isDigit = true :=
  isDigit_of_mem_fieldText (fun _ => codec.plain_month_ne_name)
    (fun _ => nonneg_of_leastYear_le told) member

/-- Segments and the completed text tell the same date. -/
theorem assemble?_eq_readTexts?_completedText (numeric : codec.pattern.month ≠ .name)
    (distinct : (pieces.map Prod.fst).Nodup) :
    codec.assemble? context pieces =
      codec.readTexts? context (codec.completedText context pieces) := by
  rw [assemble?, foldlM_setField? distinct, readField?_eq_read?_getD readCount?_dayText,
    readField?_eq_read?_getD (readMonth?_plain numeric),
    readField?_eq_read?_getD (readYear?_plain told)]
  rfl

end Told

/-- Blanks at the ends do not count. -/
theorem parse_trim (codec : PatternCodec) (context : Context) (text : Text) :
    codec.parse context (Text.trim text) = codec.parse context text := by
  simp only [parse, Text.trim_trim]

/-- Two texts that show something are read alike where their trimmed forms are. -/
theorem parse_eq_parse_of_read? {other : Text} (nonempty : Text.trim text ≠ [])
    (otherTrimmed : Text.trim other = other) (otherNonempty : other ≠ [])
    (same : codec.read? context (Text.trim text) = codec.read? context other) :
    codec.parse context text = codec.parse context other := by
  simp only [parse, otherTrimmed, if_neg nonempty, if_neg otherNonempty, same]

/-! ## Between separators -/

section Separated

theorem trim_completedText (splits : codec.pattern.Splits separator text pieces)
    (field : DateField) :
    Text.trim (codec.completedText context pieces field) =
      codec.completedText context pieces field := by
  rcases codec.completedText_cases context pieces field with member | ⟨-, shown⟩
  · exact splits.trim_eq_self member
  · rw [shown]
    exact trim_fieldText fun _ => codec.plain_month_ne_name

theorem separator_notMem_completedText (noDigit : separator.isDigit = false)
    (told : codec.pattern.leastYear ≤ context.reference.date.year.toInt)
    (splits : codec.pattern.Splits separator text pieces) (field : DateField) :
    separator ∉ codec.completedText context pieces field := by
  rcases codec.completedText_cases context pieces field with member | ⟨-, shown⟩
  · exact splits.separator_notMem member
  · rw [shown]
    exact notMem_fieldText noDigit (fun _ => codec.plain_month_ne_name)
      fun _ => nonneg_of_leastYear_le told

variable (separated : codec.pattern.layout = .separated separator)

include separated

theorem completed_of_separated :
    codec.completed context pieces =
      [separator].intercalate
        (codec.pattern.order.toList.map (codec.completedText context pieces)) := by
  simp only [completed, Pattern.arranged, separated]

/-- Completing a trimmed text leaves it trimmed. -/
theorem trim_completed_of_separated (splits : codec.pattern.Splits separator text pieces)
    (trimmed : Text.trim text = text) (nonempty : text ≠ []) (few : text.count separator ≤ 1) :
    Text.trim (codec.completed context pieces) = codec.completed context pieces := by
  have fieldTrimmed := @trim_completedText codec context text separator pieces splits
  obtain ⟨first, second, third, order⟩ := codec.pattern.order.exists_toList_eq
  rw [completed_of_separated separated, order]
  by_cases blank : Text.isBlank separator = true
  · have inked := splits.forall_ne_nil blank trimmed nonempty few
    refine (Text.trim_intercalate ?_).1
    intro shown member
    rw [← List.map_cons] at member
    obtain ⟨field, -, rfl⟩ := List.mem_map.1 member
    exact ⟨fieldTrimmed field, completedText_ne_nil inked field⟩
  · have inked : Text.isBlank separator = false := Bool.eq_false_iff.2 blank
    exact Text.trim_intercalate_of_inked inked (fieldTrimmed first) (fieldTrimmed third)

variable (noDigit : separator.isDigit = false)
  (told : codec.pattern.leastYear ≤ context.reference.date.year.toInt)

include noDigit told

theorem splitOn_completed (splits : codec.pattern.Splits separator text pieces) :
    (codec.completed context pieces).splitOn separator =
      codec.pattern.order.toList.map (codec.completedText context pieces) := by
  rw [completed_of_separated separated]
  exact codec.pattern.order.splitOn_intercalate
    (separator_notMem_completedText noDigit told splits)

/-- A separated text of at most two pieces is read as the completed one. -/
theorem parse_completed_of_separated (numeric : codec.pattern.month ≠ .name)
    (splits : codec.pattern.Splits separator (Text.trim text) pieces)
    (nonempty : Text.trim text ≠ []) (few : (Text.trim text).count separator ≤ 1) :
    codec.parse context text = codec.parse context (codec.completed context pieces) := by
  have completedTrimmed := @trim_completed_of_separated codec context _ separator pieces separated
    splits (Text.trim_trim text) nonempty few
  have completedNonempty : codec.completed context pieces ≠ [] := by
    intro empty
    have shown := splitOn_completed separated noDigit told splits
    rw [empty] at shown
    have length := congrArg List.length shown
    simp at length
  have segments : codec.pattern.segments (Text.trim text) = some pieces := by
    rw [Pattern.segments, separated]
    exact Pattern.split_eq_some_iff_splits.2 splits
  apply parse_eq_parse_of_read? nonempty completedTrimmed completedNonempty
  rw [read?, segments, Option.bind_some,
    assemble?_eq_readTexts?_completedText told numeric splits.nodup,
    completed_of_separated separated,
    read?_intercalate separated (separator_notMem_completedText noDigit told splits)
      (trim_completedText splits)]

end Separated

/-! ## Packed -/

section Packed

variable (slices : codec.pattern.Slices text pieces)

include slices

/-- The fields that were typed show what was typed. -/
theorem flatten_completedText :
    ((codec.pattern.order.toList.filter fun field =>
      Pattern.leastDigits field ≤ text.length).map
        (codec.completedText context pieces)).flatten = text := by
  have fields : codec.pattern.order.toList.filter
      (fun field => Pattern.leastDigits field ≤ text.length) = pieces.map Prod.fst :=
    slices.fields.symm
  rw [fields, map_completedText slices.nodup, slices.joined]

theorem trim_completed_of_packed (packed : codec.pattern.layout = .packed)
    (trimmed : Text.trim text = text) :
    Text.trim (codec.completed context pieces) = codec.completed context pieces := by
  have inked := slices.filled.forall_ne_nil fun field =>
    (codec.pattern.digitRoom_bounds _ field).1
  have typed := @flatten_completedText codec context text pieces slices
  simp only [completed, Pattern.arranged, packed]
  refine Text.trim_flatten_of_filter ?_ ?_ (typed.symm ▸ trimmed)
  · exact completedText_ne_nil inked
  · intro field untold
    rcases codec.completedText_cases context pieces field with member | ⟨-, shown⟩
    · have told : field ∈ pieces.map Prod.fst := List.mem_map_of_mem member
      rw [slices.fields] at told
      rw [(List.mem_filter.1 told).2] at untold
      cases untold
    · rw [shown]
      exact trim_fieldText fun _ => codec.plain_month_ne_name

theorem isAscii_of_mem_completedText (ascii : text.all Text.isAscii = true)
    (told : codec.pattern.leastYear ≤ context.reference.date.year.toInt) {field : DateField}
    {char : Char} (member : char ∈ codec.completedText context pieces field) :
    Text.isAscii char = true := by
  rcases codec.completedText_cases context pieces field with isPiece | ⟨-, shown⟩
  · apply List.all_eq_true.1 ascii
    rw [← slices.joined]
    exact List.mem_flatten_of_mem (List.mem_map_of_mem isPiece) member
  · rw [shown] at member
    exact Text.isAscii_of_isDigit (isDigit_of_mem_plain told member)

variable (packed : codec.pattern.layout = .packed)
  (even : text.length = 2 ∨ text.length = 4)
  (told : codec.pattern.leastYear ≤ context.reference.date.year.toInt)
  (small : context.reference.date.year.toInt ≤ 9999)

include packed even told small

/-- The fields of the completed text take the widths of the twin with a full year. -/
theorem length_completedText (field : DateField) :
    (codec.completedText context pieces field).length =
      codec.withFullYear.pattern.width field := by
  rcases codec.completedText_cases context pieces field with member | ⟨-, shown⟩
  · rw [slices.forall_length_eq_two even _ member]
    cases field with
    | year => exact absurd (List.mem_map_of_mem member) (slices.year_notMem (by omega))
    | _ => rfl
  · have plainPacked : codec.plain.pattern.layout = .packed := packed
    have day := context.reference.isReal.day_le
    have month := context.reference.isReal.month_lt
    have nonneg := nonneg_of_leastYear_le told
    rw [shown]
    exact (forall_length_fieldText_iff plainPacked codec.plain_month_ne_name).2
      ⟨by omega, by omega, fun _ => ⟨by omega, small⟩⟩ field

/-- The completed text has eight characters. -/
theorem length_completed : (codec.completed context pieces).length = 8 := by
  have width := @Pattern.length_flatten_of_width codec.withFullYear.pattern
    (codec.completedText context pieces) (length_completedText slices packed even told small)
  rw [Pattern.packedWidth_eq] at width
  simp only [completed, Pattern.arranged, packed]
  exact width

/-- A packed text of two or four characters is read as the completed one. -/
theorem parse_completed_of_packed (numeric : codec.pattern.month ≠ .name)
    (ascii : text.all Text.isAscii = true) (trimmed : Text.trim text = text) :
    codec.parse context text = codec.parse context (codec.completed context pieces) := by
  have nonempty : text ≠ [] := by
    apply List.ne_nil_of_length_pos
    omega
  have completedTrimmed : Text.trim (codec.completed context pieces) = _ :=
    trim_completed_of_packed slices packed trimmed
  have eight := length_completed slices packed even told small
  have completedNonempty : codec.completed context pieces ≠ [] := by
    apply List.ne_nil_of_length_pos
    omega
  -- Eight characters are cut alike with a short year and a full one.
  have cut : codec.pattern.slice (codec.completed context pieces) =
      some (codec.pattern.order.toList.map fun field =>
        (field, codec.completedText context pieces field)) := by
    have found := @Pattern.slice_flatten codec.withFullYear.pattern
      (codec.completedText context pieces)
      (fun _ _ => isAscii_of_mem_completedText slices ascii told)
      (length_completedText slices packed even told small)
    rw [← Pattern.slice_withFullYear (.inr eight)]
    simp only [completed, Pattern.arranged, packed]
    exact found
  have segments : codec.pattern.segments text = some pieces := by
    rw [segments_of_packed packed numeric]
    exact ((Pattern.slice_eq_some_iff_slices nonempty).2 ⟨ascii, slices⟩).1
  rw [← trimmed] at segments
  apply parse_eq_parse_of_read? (trimmed.symm ▸ nonempty) completedTrimmed completedNonempty
  rw [read?, segments, Option.bind_some, read?, segments_of_packed packed numeric, cut,
    Option.bind_some, assemble?_map_toList,
    assemble?_eq_readTexts?_completedText told numeric slices.nodup]

end Packed

/-- A partial text of a pattern with a month number means the text that is completed from the
reference day, where the pattern reads the year of that day from its own digits.  Between
separators this holds for every text of one or two pieces that shows something, whatever the
pieces are: the completed text has three.  Packed it holds for two and four ASCII characters:
the completed text has eight. -/
theorem parse_eq_parse_completed {window : CenturyWindow} {raw : Text}
    (accepted : Pattern.compileWith window raw = .ok codec.pattern)
    (numeric : codec.pattern.month ≠ .name) (context : Context)
    (told : codec.pattern.leastYear ≤ context.reference.date.year.toInt) (text : Text) :
    (∀ separator, codec.pattern.layout = .separated separator → Text.trim text ≠ [] →
      ((Text.trim text).splitOn separator).length ≤ 2 →
        ∃ pieces, codec.pattern.Splits separator (Text.trim text) pieces ∧
          ((codec.completed context pieces).splitOn separator).length = 3 ∧
          codec.parse context text = codec.parse context (codec.completed context pieces)) ∧
    (codec.pattern.layout = .packed → context.reference.date.year.toInt ≤ 9999 →
      (Text.trim text).all Text.isAscii = true →
      (Text.trim text).length = 2 ∨ (Text.trim text).length = 4 →
        ∃ pieces, codec.pattern.Slices (Text.trim text) pieces ∧
          (codec.completed context pieces).length = 8 ∧
          codec.parse context text = codec.parse context (codec.completed context pieces)) := by
  constructor
  · intro separator separated nonempty fewPieces
    have noDigit := Pattern.isDigit_separator accepted separated
    rw [Text.length_splitOn] at fewPieces
    obtain ⟨pieces, splits⟩ := (@Pattern.exists_splits_iff codec.pattern separator _).2
      (show (Text.trim text).count separator ≤ 2 by omega)
    refine ⟨pieces, splits, ?_, ?_⟩
    · rw [splitOn_completed separated noDigit told splits, List.length_map,
        FieldOrder.length_toList]
    · exact parse_completed_of_separated separated noDigit told numeric splits nonempty (by omega)
  · intro packed small ascii even
    have nonempty : Text.trim text ≠ [] := by
      apply List.ne_nil_of_length_pos
      omega
    obtain ⟨pieces, slices⟩ := (@Pattern.exists_slices_iff codec.pattern _ nonempty).2
      (.inl (by omega))
    refine ⟨pieces, slices, length_completed slices packed even told small, ?_⟩
    rw [← parse_completed_of_packed slices packed even told small numeric ascii
      (Text.trim_trim text), parse_trim]

/-- Blanks at the ends and a piece that is no number do not matter; a pattern with a short year
reads the full one of the reference day. -/
theorem parse_eq_parse_completed_hyphen_and_packed :
    let hyphen : PatternCodec :=
      ⟨⟨"-_y_d0M".toList, .separated '-', .yearDayMonth, .bare, .zeroPadded, none⟩, []⟩
    let packed : PatternCodec :=
      ⟨⟨"0M0y0d".toList, .packed, .monthYearDay, .zeroPadded, .zeroPadded, some {}⟩, []⟩
    let context : Context := ⟨⟨⟨2013, 1, 12⟩, by decide⟩, none⟩
    (Pattern.compileWith {} "-_y_d0M".toList = .ok hyphen.pattern ∧ hyphen.pattern.month ≠ .name ∧
      hyphen.pattern.leastYear ≤ context.reference.date.year.toInt ∧
      Text.trim " 5 ".toList ≠ [] ∧ ((Text.trim " 5 ".toList).splitOn '-').length ≤ 2 ∧
      hyphen.parse context " 5 ".toList = hyphen.parse context "2013-5-2".toList) ∧
    Pattern.compileWith {} "0M0y0d".toList = .ok packed.pattern ∧ packed.pattern.month ≠ .name ∧
      packed.pattern.leastYear ≤ context.reference.date.year.toInt ∧
      packed.parse context "0x".toList = packed.parse context "0220130x".toList ∧
      packed.parse context "0305".toList = packed.parse context "03201305".toList := by
  intro hyphen packed context
  have hyphenTexts := @parse_eq_parse_completed hyphen {} "-_y_d0M".toList rfl (by decide)
    context (by decide)
  have packedTexts := @parse_eq_parse_completed packed {} "0M0y0d".toList rfl (by decide)
    context (by decide)
  refine ⟨⟨rfl, by decide, by decide, by decide, by decide, ?_⟩, rfl, by decide, by decide,
    ?_, ?_⟩
  · obtain ⟨pieces, splits, -, same⟩ :=
      (hyphenTexts " 5 ".toList).1 '-' rfl (by decide) (by decide)
    have found : pieces = [(.day, "5".toList)] :=
      splits.unique (Pattern.split_eq_some_iff_splits.1 rfl)
    have completed : hyphen.completed context [(.day, "5".toList)] = "2013-5-2".toList := by
      decide
    rw [same, found, completed]
  · obtain ⟨pieces, slices, -, same⟩ :=
      (packedTexts "0x".toList).2 rfl (by decide) (by decide) (by decide)
    have found : pieces = [(.day, "0x".toList)] :=
      slices.unique ⟨rfl, rfl, .last (by decide) (by decide)⟩
    have completed : packed.completed context [(.day, "0x".toList)] = "0220130x".toList := by
      decide
    rw [same, found, completed]
  · obtain ⟨pieces, slices, -, same⟩ :=
      (packedTexts "0305".toList).2 rfl (by decide) (by decide) (by decide)
    have found : pieces = [(.month, "03".toList), (.day, "05".toList)] :=
      slices.unique ⟨rfl, rfl, .cons rfl (.last (by decide) (by decide))⟩
    have completed : packed.completed context [(.month, "03".toList), (.day, "05".toList)] =
        "03201305".toList := by
      decide
    rw [same, found, completed]

/-- A blank text has one piece, which shows nothing.  It is empty, and the text completed from
it is invalid. -/
theorem blank_text_not_completed :
    let codec : PatternCodec :=
      ⟨⟨"-0d0M_y".toList, .separated '-', .dayMonthYear, .zeroPadded, .zeroPadded, none⟩, []⟩
    let context : Context := ⟨⟨⟨2013, 1, 12⟩, by decide⟩, none⟩
    Pattern.compileWith {} "-0d0M_y".toList = .ok codec.pattern ∧
      codec.pattern.month ≠ .name ∧
      ((Text.trim []).splitOn '-').length = 1 ∧
      codec.pattern.Splits '-' (Text.trim []) [(.day, [])] ∧
      codec.completed context [(.day, [])] = "-2-2013".toList ∧
      codec.parse context [] = .empty ∧
      codec.parse context (codec.completed context [(.day, [])]) = .invalid ∧
      codec.parse context [] ≠ codec.parse context (codec.completed context [(.day, [])]) := by
  intro codec context
  have blank : codec.parse context [] = .empty := rfl
  have completed : codec.parse context (codec.completed context [(.day, [])]) = .invalid := by
    decide
  refine ⟨rfl, by decide, rfl, Pattern.split_eq_some_iff_splits.1 rfl, by decide, blank,
    completed, ?_⟩
  rw [blank, completed]
  decide

end PatternCodec

end DateDisplay
