import DateDisplay.Proofs.Pattern.NamedSettings
import DateDisplay.Proofs.Pattern.SeparatedGrammar

/-!
# Short and full years side by side

A pattern with a short year has a twin that shows years in full and everything else the same
way.  Where both find the same segments in a text, they read the same date from it, except
that a year that was typed goes through the window of the short one.  Between separators they
always find the same segments, and among packed numbers they do where no year is typed or
where all of its four digits are.
-/

namespace DateDisplay

/-! ## Changing the year -/

/-- The date with its year changed. -/
def CalendarDate.mapYear (change : Int32 → Int32) (date : CalendarDate) : CalendarDate :=
  { date with year := change date.year }

/-- What was read, with the year of a date changed. -/
def ParseOutcome.mapYear (change : Int32 → Int32) : ParseOutcome → ParseOutcome
  | .parsed date => .parsed (date.mapYear change)
  | outcome => outcome

namespace Pattern

variable {pattern : Pattern} {separator : Char} {text : Text} {pieces : List Segment}

/-! ## The pattern with a full year -/

/-- The settings that ask for a full year and else for what the pattern shows. -/
def fullYearSettings (pattern : Pattern) : PatternSettings where
  separator := pattern.layout.separator?
  day := pattern.day
  month := pattern.month
  year := .full
  order := pattern.order

/-- The pattern that shows years in full and everything else the same way. -/
def withFullYear (pattern : Pattern) : Pattern :=
  { pattern with raw := pattern.fullYearSettings.text, century := none }

theorem pattern_fullYearSettings (pattern : Pattern) :
    pattern.fullYearSettings.pattern = pattern.withFullYear := by
  have layout : pattern.fullYearSettings.layout = pattern.layout :=
    Layout.separator?_inj.1 (PatternSettings.separator?_layout _)
  rw [PatternSettings.pattern, layout]
  rfl

/-- With an accepted pattern the one with a full year is accepted as well, and a window for
short years does not matter to it. -/
theorem compileWith_withFullYear {given : CenturyWindow} {raw : Text}
    (accepted : compileWith given raw = .ok pattern) (other : CenturyWindow) :
    compileWith other pattern.withFullYear.raw = .ok pattern.withFullYear := by
  obtain ⟨suffix, spells⟩ := compileWith_eq_ok_iff.1 accepted
  have allowed : pattern.fullYearSettings.Allowed := by
    constructor
    case separator_ne_digit => exact spells.separator_ne_digit
    case separator_ne_letter => exact spells.separator_ne_letter
    case century_lt => exact nofun
  rw [← pattern_fullYearSettings]
  exact (PatternSettings.compileWith_text_eq_ok_iff other).2 ⟨allowed, rfl⟩

/-! ## The segments of both -/

theorem segments_withFullYear_of_separated (separated : pattern.layout = .separated separator) :
    pattern.withFullYear.segments text = pattern.segments text := by
  have fullSeparated : pattern.withFullYear.layout = .separated separator := separated
  rw [segments, segments, separated, fullSeparated]
  rfl

/-- A separated text tells a year when it has three pieces. -/
theorem year_mem_iff_of_split (found : pattern.split separator text = some pieces) :
    .year ∈ pieces.map Prod.fst ↔ (text.splitOn separator).length = 3 := by
  have splits := split_eq_some_iff_splits.1 found
  have few := splits.few
  rw [splits.fields, Text.length_splitOn]
  simp [leastPieces]
  omega

theorem year_mem_fieldsOfLength_iff {length : Nat} :
    .year ∈ pattern.fieldsOfLength length ↔ 4 < length := by
  rw [fieldsOfLength]
  split
  · simp
    omega
  · split
    · simp [dayAndMonth]
      omega
    · simp
      omega

/-- Both cut a text alike that tells no year, or one of four digits. -/
theorem slice_withFullYear (room : text.length ≤ 4 ∨ text.length = 8) :
    pattern.withFullYear.slice text = pattern.slice text := by
  have widths : ∀ field ∈ pattern.fieldsOfLength text.length,
      pattern.withFullYear.sliceWidth text.length field =
        pattern.sliceWidth text.length field := by
    intro field member
    rw [sliceWidth_eq_digitRoom, sliceWidth_eq_digitRoom]
    cases field with
    | day => rfl
    | month => rfl
    | year =>
        have long := year_mem_fieldsOfLength_iff.1 member
        have eight : text.length = 8 := by omega
        simp [digitRoom, eight]
  have cuts : ((pattern.withFullYear.fieldsOfLength text.length).map fun field =>
        (field, pattern.withFullYear.sliceWidth text.length field)) =
      (pattern.fieldsOfLength text.length).map fun field =>
        (field, pattern.sliceWidth text.length field) := by
    apply List.map_congr_left
    intro field member
    rw [widths field member]
  rw [slice, slice, cuts]

end Pattern

namespace PatternCodec

variable {codec : PatternCodec} {context : Context} {text : Text}
  {pieces : List Pattern.Segment} {window : CenturyWindow}

/-- The codec that shows years in full and everything else the same way. -/
def withFullYear (codec : PatternCodec) : PatternCodec :=
  { codec with pattern := codec.pattern.withFullYear }

/-! ## Reading the same segments -/

/-- Without a typed year both read the same date. -/
theorem assemble?_withFullYear_of_notMem (distinct : (pieces.map Prod.fst).Nodup)
    (untold : .year ∉ pieces.map Prod.fst) :
    codec.assemble? context pieces = codec.withFullYear.assemble? context pieces := by
  rw [assemble?, assemble?, foldlM_setField? distinct, foldlM_setField? distinct,
    readField?_of_notMem untold, readField?_of_notMem untold]
  rfl

theorem parse_withFullYear_of_notMem
    (same : codec.withFullYear.pattern.segments (Text.trim text) =
      codec.pattern.segments (Text.trim text))
    (untold : ∀ pieces, codec.pattern.segments (Text.trim text) = some pieces →
      .year ∉ pieces.map Prod.fst) :
    codec.parse context text = codec.withFullYear.parse context text := by
  have read : codec.read? context (Text.trim text) =
      codec.withFullYear.read? context (Text.trim text) := by
    rw [read?, read?, same]
    apply Option.bind_congr
    intro pieces found
    exact assemble?_withFullYear_of_notMem (Pattern.nodup_of_segments found) (untold pieces found)
  simp only [parse, read]

section TypedYear

variable (short : codec.pattern.century = some window)

include short

theorem readYear?_of_withFullYear (piece : Text) :
    codec.readYear? piece = (codec.withFullYear.readYear? piece).map window.resolve := by
  simp only [readYear?, short, Option.map_map]
  rfl

/-- A typed year goes through the window of the short one. -/
theorem assemble?_withFullYear_of_mem (distinct : (pieces.map Prod.fst).Nodup)
    (told : .year ∈ pieces.map Prod.fst) :
    codec.assemble? context pieces =
      (codec.withFullYear.assemble? context pieces).map (·.mapYear window.resolve) := by
  obtain ⟨⟨_, piece⟩, member, rfl⟩ := List.mem_map.1 told
  rw [assemble?, assemble?, foldlM_setField? distinct, foldlM_setField? distinct,
    readField?_of_mem distinct member, readField?_of_mem distinct member,
    readYear?_of_withFullYear short]
  simp only [Option.bind_eq_bind, Option.map_bind, Option.bind_map, Function.comp_def]
  rfl

theorem parse_withFullYear_of_mem
    (same : codec.withFullYear.pattern.segments (Text.trim text) =
      codec.pattern.segments (Text.trim text))
    (told : ∀ pieces, codec.pattern.segments (Text.trim text) = some pieces →
      .year ∈ pieces.map Prod.fst) :
    codec.parse context text =
      (codec.withFullYear.parse context text).mapYear window.resolve := by
  have read : codec.read? context (Text.trim text) =
      (codec.withFullYear.read? context (Text.trim text)).map (·.mapYear window.resolve) := by
    rw [read?, read?, same, Option.map_bind]
    apply Option.bind_congr
    intro pieces found
    exact assemble?_withFullYear_of_mem short (Pattern.nodup_of_segments found)
      (told pieces found)
  rw [parse, parse]
  split
  · rfl
  · rw [read]
    cases codec.withFullYear.read? context (Text.trim text) <;> rfl

end TypedYear

/-! ## Separated texts -/

theorem parse_of_other_pieces {separator : Char}
    (separated : codec.pattern.layout = .separated separator)
    (other : ((Text.trim text).splitOn separator).length ≠ 3) :
    codec.parse context text = codec.withFullYear.parse context text := by
  apply parse_withFullYear_of_notMem (Pattern.segments_withFullYear_of_separated separated)
  intro pieces found
  rw [Pattern.segments, separated] at found
  rwa [Pattern.year_mem_iff_of_split found]

theorem parse_of_three_pieces {separator : Char}
    (short : codec.pattern.century = some window)
    (separated : codec.pattern.layout = .separated separator)
    (three : ((Text.trim text).splitOn separator).length = 3) :
    codec.parse context text =
      (codec.withFullYear.parse context text).mapYear window.resolve := by
  apply parse_withFullYear_of_mem short (Pattern.segments_withFullYear_of_separated separated)
  intro pieces found
  rw [Pattern.segments, separated] at found
  exact (Pattern.year_mem_iff_of_split found).2 three

/-! ## Packed numbers -/

section Packed

variable (packed : codec.pattern.layout = .packed) (numeric : codec.pattern.month ≠ .name)

include packed numeric

theorem segments_withFullYear_of_packed (room : text.length ≤ 4 ∨ text.length = 8) :
    codec.withFullYear.pattern.segments text = codec.pattern.segments text := by
  have fullFound : codec.withFullYear.pattern.segments text =
      codec.withFullYear.pattern.slice text := segments_of_packed packed numeric
  rw [fullFound, segments_of_packed packed numeric]
  exact Pattern.slice_withFullYear room

/-- A packed text tells a year when it is longer than day and month. -/
theorem year_mem_iff_of_packed (found : codec.pattern.segments text = some pieces) :
    .year ∈ pieces.map Prod.fst ↔ 4 < text.length := by
  rw [segments_of_packed packed numeric] at found
  rw [Pattern.map_fst_slice found, Pattern.year_mem_fieldsOfLength_iff]

theorem parse_of_length_le_four (few : (Text.trim text).length ≤ 4) :
    codec.parse context text = codec.withFullYear.parse context text := by
  apply parse_withFullYear_of_notMem (segments_withFullYear_of_packed packed numeric (.inl few))
  intro pieces found
  rw [year_mem_iff_of_packed packed numeric found]
  exact Nat.not_lt.2 few

theorem parse_of_length_eight (short : codec.pattern.century = some window)
    (eight : (Text.trim text).length = 8) :
    codec.parse context text =
      (codec.withFullYear.parse context text).mapYear window.resolve := by
  apply parse_withFullYear_of_mem short
    (segments_withFullYear_of_packed packed numeric (.inr eight))
  intro pieces found
  rw [year_mem_iff_of_packed packed numeric found, eight]
  decide

end Packed

/-- An accepted pattern with a short year has a twin with a full year, which is accepted as
well, and on every text the two agree as follows.  Between separators, with month numbers or
names, the year of three pieces goes through the window and nothing else differs.  Packed with
a month number, they read at most four characters alike, and from eight characters the same
date but for the window. -/
theorem parse_eq_parse_withFullYear {given : CenturyWindow} {raw : Text}
    (accepted : Pattern.compileWith given raw = .ok codec.pattern)
    (short : codec.pattern.century = some window) (context : Context) (text : Text) :
    (∀ other, Pattern.compileWith other codec.pattern.withFullYear.raw =
      .ok codec.withFullYear.pattern) ∧
    (∀ separator, codec.pattern.layout = .separated separator →
      (((Text.trim text).splitOn separator).length = 3 →
        codec.parse context text =
          (codec.withFullYear.parse context text).mapYear window.resolve) ∧
      (((Text.trim text).splitOn separator).length ≠ 3 →
        codec.parse context text = codec.withFullYear.parse context text)) ∧
    (codec.pattern.layout = .packed → codec.pattern.month ≠ .name →
      ((Text.trim text).length ≤ 4 →
        codec.parse context text = codec.withFullYear.parse context text) ∧
      ((Text.trim text).length = 8 →
        codec.parse context text =
          (codec.withFullYear.parse context text).mapYear window.resolve)) := by
  refine ⟨Pattern.compileWith_withFullYear accepted, ?_, ?_⟩
  · intro separator separated
    exact ⟨parse_of_three_pieces short separated, parse_of_other_pieces separated⟩
  · intro packed numeric
    exact ⟨parse_of_length_le_four packed numeric, parse_of_length_eight packed numeric short⟩

/-- A short year is expanded where the twin keeps it, with a month name as well; a date
without a year is the same for both, and so is one of eight digits, whose year no window
changes. -/
theorem parse_eq_parse_withFullYear_blank_and_packed :
    let blank : PatternCodec :=
      ⟨⟨" 0ymM_d+2130".toList, .separated ' ', .yearMonthDay, .bare, .name,
        some ⟨21, 30, true⟩⟩, CalendarNames.english.months⟩
    let packed : PatternCodec :=
      ⟨⟨"0M0y0d".toList, .packed, .monthYearDay, .zeroPadded, .zeroPadded, some {}⟩, []⟩
    let context : Context := ⟨⟨⟨2013, 1, 12⟩, by decide⟩, some 7⟩
    (Pattern.compileWith {} " 0ymM_d+2130".toList = .ok blank.pattern ∧
      blank.pattern.century = some ⟨21, 30, true⟩ ∧
      blank.withFullYear.pattern.raw = " _ymM_d".toList ∧
      (((Text.trim " 29 Ju 5".toList).splitOn ' ').length = 3 ∧
        blank.withFullYear.parse context " 29 Ju 5".toList = .parsed ⟨29, 5, 5⟩ ∧
        blank.parse context " 29 Ju 5".toList = .parsed ⟨1929, 5, 5⟩) ∧
      ((Text.trim "Ju 5".toList).splitOn ' ').length ≠ 3 ∧
        blank.parse context "Ju 5".toList = blank.withFullYear.parse context "Ju 5".toList) ∧
    Pattern.compileWith {} "0M0y0d".toList = .ok packed.pattern ∧
      packed.pattern.century = some {} ∧ packed.pattern.month ≠ .name ∧
      ((Text.trim "031".toList).length ≤ 4 ∧
        packed.parse context "031".toList = packed.withFullYear.parse context "031".toList) ∧
      (Text.trim "03202405".toList).length = 8 ∧
        packed.parse context "03202405".toList =
          (packed.withFullYear.parse context "03202405".toList).mapYear
            (CenturyWindow.resolve {}) := by
  intro blank packed context
  have blankTwin := fun text =>
    @parse_eq_parse_withFullYear blank _ {} " 0ymM_d+2130".toList rfl rfl context text
  have packedTwin := fun text =>
    @parse_eq_parse_withFullYear packed _ {} "0M0y0d".toList rfl rfl context text
  have three : ((Text.trim " 29 Ju 5".toList).splitOn ' ').length = 3 := by decide
  have told : blank.withFullYear.parse context " 29 Ju 5".toList = .parsed ⟨29, 5, 5⟩ := by
    decide
  refine ⟨⟨rfl, rfl, rfl, ⟨three, told, ?_⟩, by decide, ?_⟩, rfl, rfl, by decide,
    ⟨by decide, ?_⟩, by decide, ?_⟩
  · rw [((blankTwin _).2.1 ' ' rfl).1 three, told]
    rfl
  · exact ((blankTwin _).2.1 ' ' rfl).2 (by decide)
  · exact ((packedTwin _).2.2 rfl (by decide)).1 (by decide)
  · exact ((packedTwin _).2.2 rfl (by decide)).2 (by decide)

end PatternCodec

end DateDisplay
