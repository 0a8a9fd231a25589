import DateDisplay.Proofs.Pattern.FittingDates
import DateDisplay.Proofs.Pattern.MonthNames
import DateDisplay.Proofs.Pattern.ShortYears
import DateDisplay.Proofs.Pattern.YearTwins

/-!
# Full years typed for short ones

A pattern with a short year is also given dates whose year is written in full.  Between
separators and among packed numbers such a year is kept as it was typed.  Beside a packed
month name the year takes two digits and no more: the other two are left over, and the text is
invalid.
-/

namespace DateDisplay

namespace Pattern

variable {pattern : Pattern}

/-! ## The digits of a walk -/

/-- The number of digits that a field takes beside a month name. -/
def digitWidth (pattern : Pattern) : DateField → Nat
  | .month => 0
  | field => pattern.width field

theorem countP_isDigit_head_le (field : DateField) (text : Text) :
    (pattern.head field text).countP Char.isDigit ≤ pattern.digitWidth field := by
  have number : ∀ width, ((text.take width).takeWhile Char.isDigit).countP Char.isDigit ≤ width :=
    fun width => List.countP_le_length.trans
      ((List.takeWhile_prefix _).length_le.trans (List.length_take_le _ _))
  cases field with
  | day => exact number _
  | year => exact number _
  | month =>
      apply Nat.le_of_eq
      apply List.countP_eq_zero.2
      intro char member digit
      have letter := List.mem_takeWhile_imp member
      rw [Text.isAlphabetic_of_isDigit digit] at letter
      contradiction

/-- A walk passes no more digits than its numbers are wide. -/
theorem countP_isDigit_le_of_walkFields {fields : List DateField} {text : Text}
    {segments : List Segment} (found : pattern.walkFields fields text = some segments) :
    text.countP Char.isDigit ≤ (fields.map pattern.digitWidth).sum := by
  induction fields generalizing text segments with
  | nil =>
      cases text with
      | nil => exact Nat.le_refl 0
      | cons char rest => cases found
  | cons field fields ih =>
      cases text with
      | nil => exact Nat.zero_le _
      | cons char rest =>
          -- With a segment or without one, the walk goes on behind what the field takes.
          obtain ⟨others, othersFound⟩ : ∃ others, pattern.walkFields fields
              ((char :: rest).drop (pattern.head field (char :: rest)).length) = some others := by
            simp only [walkFields] at found
            split at found
            · exact ⟨_, found⟩
            · obtain ⟨others, othersFound, -⟩ := Option.map_eq_some_iff.1 found
              exact ⟨others, othersFound⟩
          have headDigits := pattern.countP_isDigit_head_le field (char :: rest)
          have restDigits := ih othersFound
          have digits := congrArg (List.countP Char.isDigit)
            (pattern.head_append_drop field (char :: rest))
          rw [List.countP_append] at digits
          rw [List.map_cons, List.sum_cons]
          omega

/-- Where the year is short, nothing with more than four digits is passed. -/
theorem walk_eq_none_of_digits {window : CenturyWindow} {text : Text}
    (short : pattern.century = some window) (many : 4 < text.countP Char.isDigit) :
    pattern.walk text = none := by
  rw [Option.eq_none_iff_forall_ne_some]
  intro segments found
  have bound := countP_isDigit_le_of_walkFields found
  have four : (pattern.order.toList.map pattern.digitWidth).sum = 4 := by
    cases pattern.order <;> simp [FieldOrder.toList, digitWidth, width, short]
  omega

/-! ## Separators -/

/-- What is made of digits, and of letters where months have names, does not show the
separator. -/
theorem separator_notMem {given : CenturyWindow} {raw text : Text} {separator : Char}
    (accepted : compileWith given raw = .ok pattern)
    (separated : pattern.layout = .separated separator)
    (inked : ∀ char ∈ text,
      char.isDigit = true ∨ (pattern.month = .name ∧ Text.isAlphabetic char = true)) :
    separator ∉ text := by
  obtain ⟨suffix, spells⟩ := compileWith_eq_ok_iff.1 accepted
  have member : separator ∈ pattern.layout.separator? := by
    rw [separated]
    rfl
  intro shown
  rcases inked separator shown with digit | ⟨named, letter⟩
  · rw [spells.separator_ne_digit separator member] at digit
    contradiction
  · rw [spells.separator_ne_letter named separator member] at letter
    contradiction

end Pattern

namespace PatternCodec

variable {codec : PatternCodec} {context : Context} {date : CalendarDate}

/-! ## English names -/

/-- Where months are shown by name, the names are the English ones. -/
def NamesEnglish (codec : PatternCodec) : Prop :=
  codec.pattern.month = .name → codec.monthNames = CalendarNames.english.months

/-- Each month is the first to match its English name, which is made of letters. -/
theorem exists_firstNamed_of_english {month : UInt32}
    (english : codec.monthNames = CalendarNames.english.months) (inYear : month.toNat ≤ 11) :
    ∃ name, codec.FirstNamed month name ∧ ∀ char ∈ name, Text.isAlphabetic char = true := by
  have table : ∀ index : Fin 12, ∃ name ∈ CalendarNames.english.months[index.val]?,
      name ≠ [] ∧ name.all Text.isAlphabetic = true ∧
        ∀ earlier ∈ CalendarNames.english.months.take index,
          ¬ Text.lowerCase name <+: Text.lowerCase earlier := by
    decide
  obtain ⟨name, shown, nonempty, letters, first⟩ := table ⟨month.toNat, by omega⟩
  rw [← english] at shown first
  exact ⟨name, ⟨shown, nonempty, first⟩, List.all_eq_true.1 letters⟩

section EnglishDates

variable (names : codec.NamesEnglish) (inYear : date.month.toNat ≤ 11)

include names inYear

theorem fieldText_ne_nil_of_english (field : DateField) : codec.fieldText date field ≠ [] := by
  by_cases named : codec.pattern.month = .name
  · obtain ⟨name, firstNamed, -⟩ := exists_firstNamed_of_english (names named) inYear
    exact fieldText_ne_nil_of_name named firstNamed field
  · exact fieldText_ne_nil fun _ => named

/-- A date that shows no minus sign is made of digits, and of letters where it shows a
name. -/
theorem mem_fieldText_of_english (nonneg : 0 ≤ date.year.toInt) {field : DateField}
    {char : Char} (member : char ∈ codec.fieldText date field) :
    char.isDigit = true ∨
      (codec.pattern.month = .name ∧ Text.isAlphabetic char = true) := by
  by_cases name : field = .month ∧ codec.pattern.month = .name
  · obtain ⟨rfl, named⟩ := name
    obtain ⟨text, firstNamed, letters⟩ := exists_firstNamed_of_english (names named) inYear
    have shown : codec.fieldText date .month = text := monthText_of_name named firstNamed
    rw [shown] at member
    exact .inr ⟨named, letters char member⟩
  · exact .inl (isDigit_of_mem_fieldText (fun month named => name ⟨month, named⟩)
      (fun _ => nonneg) member)

theorem isBlank_of_mem_fieldText_of_english (nonneg : 0 ≤ date.year.toInt) {field : DateField}
    {char : Char} (member : char ∈ codec.fieldText date field) : Text.isBlank char = false := by
  rcases mem_fieldText_of_english names inYear nonneg member with digit | ⟨-, letter⟩
  · exact Text.isBlank_of_isDigit digit
  · exact Text.isBlank_of_isAlphabetic letter

variable {given : CenturyWindow} {raw : Text}
  (accepted : Pattern.compileWith given raw = .ok codec.pattern)

include accepted

/-- An accepted pattern reads back what it shows, by number or by English name. -/
theorem parse_format_of_english (day : date.day.toNat ≤ 99)
    (year : 0 ≤ date.year.toInt ∧ date.year.toInt ≤ 9999) :
    codec.parse context (codec.format date) = .parsed (codec.pattern.retained date) := by
  by_cases named : codec.pattern.month = .name
  · obtain ⟨name, firstNamed, letters⟩ := exists_firstNamed_of_english (names named) inYear
    cases layout : codec.pattern.layout with
    | packed =>
        exact parse_format_of_packed_name named firstNamed layout letters day fun _ => year
    | separated separator =>
        have noDigit := Pattern.isDigit_separator accepted layout
        have trimmed : Text.trim name = name :=
          Text.trim_of_forall_isBlank_eq_false fun char shown =>
            Text.isBlank_of_isAlphabetic (letters char shown)
        have free : separator ∉ name := Pattern.separator_notMem accepted layout
          fun char shown => .inr ⟨named, letters char shown⟩
        exact parse_format_of_separated_name named firstNamed layout noDigit trimmed free
          fun _ => year.1
  · exact parse_format_of_fits accepted named
      ⟨inYear, fun _ => year.1, fun _ => day, fun _ _ => year.2⟩ context

/-- A separated date has its three fields for pieces. -/
theorem length_splitOn_format {separator : Char}
    (separated : codec.pattern.layout = .separated separator) (nonneg : 0 ≤ date.year.toInt) :
    ((Text.trim (codec.format date)).splitOn separator).length = 3 := by
  have free : ∀ field, separator ∉ codec.fieldText date field := fun field =>
    Pattern.separator_notMem accepted separated fun char shown =>
      mem_fieldText_of_english names inYear nonneg shown
  have trimmed : ∀ field, Text.trim (codec.fieldText date field) = codec.fieldText date field :=
    fun field => Text.trim_of_forall_isBlank_eq_false fun char shown =>
      isBlank_of_mem_fieldText_of_english names inYear nonneg shown
  have formatTrimmed := (trim_format_of_separated separated trimmed
    (fieldText_ne_nil_of_english names inYear)).1
  rw [formatTrimmed, format_of_separated separated, fieldTexts,
    codec.pattern.order.splitOn_intercalate free, List.length_map, FieldOrder.length_toList]

end EnglishDates

/-! ## Packed dates with a full year -/

section Packed

variable (packed : codec.pattern.layout = .packed)

include packed

theorem length_format_of_width
    (exact : ∀ field, (codec.fieldText date field).length = codec.pattern.width field) :
    (codec.format date).length = codec.pattern.packedWidth := by
  rw [format_of_packed packed, fieldTexts]
  exact Pattern.length_flatten_of_width exact

/-- A day takes two digits or more, and a full year four. -/
theorem six_le_countP_isDigit_format (full : codec.pattern.century = none)
    (nonneg : 0 ≤ date.year.toInt) : 6 ≤ (codec.format date).countP Char.isDigit := by
  have digits : ∀ field ≠ .month, codec.pattern.width field ≤
      (codec.fieldText date field).countP Char.isDigit := by
    intro field number
    have numeric : field = .month → codec.pattern.month ≠ .name := fun month =>
      absurd month number
    have all : ∀ char ∈ codec.fieldText date field, char.isDigit = true :=
      fun _ member => isDigit_of_mem_fieldText numeric (fun _ => nonneg) member
    rw [List.countP_eq_length.2 all]
    exact width_le_length_fieldText packed numeric
  have day := digits .day nofun
  have year := digits .year nofun
  simp only [Pattern.width, full] at day year
  rw [format_of_packed packed, fieldTexts, List.countP_flatten, List.map_map]
  cases codec.pattern.order <;> simp [FieldOrder.toList] at day year ⊢ <;> omega

end Packed

section FullYear

variable {given window : CenturyWindow} {raw : Text}
  (names : codec.NamesEnglish) (inYear : date.month.toNat ≤ 11)
  (year : 100 ≤ date.year.toInt ∧ date.year.toInt ≤ 9999)

include names inYear year

/-- The pattern with a full year reads back what it shows, and a window changes nothing. -/
theorem mapYear_parse_format_withFullYear
    (accepted : Pattern.compileWith given raw = .ok codec.pattern) (day : date.day.toNat ≤ 99) :
    (codec.withFullYear.parse context (codec.withFullYear.format date)).mapYear
      window.resolve = .parsed date := by
  have fullAccepted : Pattern.compileWith given _ = .ok codec.withFullYear.pattern :=
    Pattern.compileWith_withFullYear accepted given
  have told : codec.withFullYear.parse context (codec.withFullYear.format date) = .parsed date :=
    parse_format_of_english names inYear fullAccepted day ⟨by omega, year.2⟩
  rw [told, ParseOutcome.mapYear, CalendarDate.mapYear, window.resolve_of_le year.1]

variable (short : codec.pattern.century = some window)

include short

theorem parse_withFullYear_of_separated
    (accepted : Pattern.compileWith given raw = .ok codec.pattern) (day : date.day.toNat ≤ 99)
    {separator : Char} (separated : codec.pattern.layout = .separated separator) :
    codec.parse context (codec.withFullYear.format date) = .parsed date := by
  have fullAccepted : Pattern.compileWith given _ = .ok codec.withFullYear.pattern :=
    Pattern.compileWith_withFullYear accepted given
  have fullNames : codec.withFullYear.NamesEnglish := names
  have fullSeparated : codec.withFullYear.pattern.layout = .separated separator := separated
  have nonneg : 0 ≤ date.year.toInt := by omega
  have three := length_splitOn_format fullNames inYear fullAccepted fullSeparated nonneg
  rw [parse_of_three_pieces short separated three]
  exact mapYear_parse_format_withFullYear names inYear year accepted day

theorem parse_withFullYear_of_numbers
    (accepted : Pattern.compileWith given raw = .ok codec.pattern) (day : date.day.toNat ≤ 99)
    (packed : codec.pattern.layout = .packed) (numeric : codec.pattern.month ≠ .name) :
    codec.parse context (codec.withFullYear.format date) = .parsed date := by
  have fullPacked : codec.withFullYear.pattern.layout = .packed := packed
  have fullNumeric : codec.withFullYear.pattern.month ≠ .name := numeric
  have exact : ∀ field, (codec.withFullYear.fieldText date field).length =
      codec.withFullYear.pattern.width field := by
    apply (forall_length_fieldText_iff fullPacked fullNumeric).2
    exact ⟨day, by omega, fun _ => by omega⟩
  have trimmed := (@trim_format_of_numbers _ date fullPacked fullNumeric).1
  have eight : (Text.trim (codec.withFullYear.format date)).length = 8 := by
    rw [trimmed, length_format_of_width fullPacked exact, Pattern.packedWidth_eq]
    rfl
  rw [parse_of_length_eight packed numeric short eight]
  exact mapYear_parse_format_withFullYear names inYear year accepted day

/-- Two of the six digits are left over. -/
theorem parse_withFullYear_of_packed_name (packed : codec.pattern.layout = .packed)
    (named : codec.pattern.month = .name) :
    codec.parse context (codec.withFullYear.format date) = .invalid := by
  have fullPacked : codec.withFullYear.pattern.layout = .packed := packed
  have fullNames : codec.withFullYear.NamesEnglish := names
  have nonneg : 0 ≤ date.year.toInt := by omega
  have many := six_le_countP_isDigit_format fullPacked rfl nonneg
  have walked : codec.pattern.segments (codec.withFullYear.format date) = none := by
    rw [segments_of_packed_name packed named]
    exact Pattern.walk_eq_none_of_digits short (by omega)
  have inked := fun field char =>
    @isBlank_of_mem_fieldText_of_english _ date fullNames inYear nonneg field char
  have nonempty := fieldText_ne_nil_of_english fullNames inYear .day
  obtain ⟨trimmed, formatNonempty⟩ := trim_format_of_packed fullPacked inked nonempty
  rw [parse_of_trim_eq_self trimmed formatNonempty, read?, walked, Option.bind_none]

end FullYear

/-- A date of the years from 100 to 9999, written with a full year, is read by an accepted
pattern with a short one: the year is kept as it was typed, in every order, between separators
with month numbers or English names, and packed with a month number.  Packed with a month name
it is invalid. -/
theorem parse_format_withFullYear {given window : CenturyWindow} {raw : Text}
    (accepted : Pattern.compileWith given raw = .ok codec.pattern)
    (short : codec.pattern.century = some window)
    (names : codec.NamesEnglish)
    (day : 1 ≤ date.day.toNat ∧ date.day.toNat ≤ 31) (inYear : date.month.toNat ≤ 11)
    (year : 100 ≤ date.year.toInt ∧ date.year.toInt ≤ 9999) (context : Context) :
    codec.parse context (codec.withFullYear.format date) =
      if codec.pattern.layout = .packed ∧ codec.pattern.month = .name then .invalid
      else .parsed date := by
  have dayFits : date.day.toNat ≤ 99 := by omega
  cases layout : codec.pattern.layout with
  | separated separator =>
      rw [if_neg fun packedName => nomatch packedName.1]
      exact parse_withFullYear_of_separated names inYear year short accepted dayFits layout
  | packed =>
      by_cases named : codec.pattern.month = .name
      · rw [if_pos ⟨rfl, named⟩]
        exact parse_withFullYear_of_packed_name names inYear year short layout named
      · rw [if_neg fun packedName => named packedName.2]
        exact parse_withFullYear_of_numbers names inYear year short accepted dayFits layout named

/-- Beside blanks the year stands where a short one is shown, packed it makes a text of eight
digits; both windows would change a short year. -/
theorem parse_format_withFullYear_blank_and_packed :
    let blank : PatternCodec :=
      ⟨⟨" 0ymM_d+2130".toList, .separated ' ', .yearMonthDay, .bare, .name,
        some ⟨21, 30, true⟩⟩, CalendarNames.english.months⟩
    let packed : PatternCodec :=
      ⟨⟨"0M0y0d".toList, .packed, .monthYearDay, .zeroPadded, .zeroPadded, some {}⟩, []⟩
    let context : Context := ⟨⟨⟨2013, 1, 12⟩, by decide⟩, none⟩
    let date : CalendarDate := ⟨1987, 7, 31⟩
    (Pattern.compileWith {} " 0ymM_d+2130".toList = .ok blank.pattern ∧
      blank.pattern.century = some ⟨21, 30, true⟩ ∧ blank.NamesEnglish ∧
      blank.withFullYear.format date = "1987 August 31".toList ∧
      blank.parse context "1987 August 31".toList = .parsed date) ∧
    Pattern.compileWith {} "0M0y0d".toList = .ok packed.pattern ∧
      packed.pattern.century = some {} ∧ packed.NamesEnglish ∧
      packed.withFullYear.format date = "08198731".toList ∧
      packed.parse context "08198731".toList = .parsed date := by
  intro blank packed context date
  have blankNames : blank.NamesEnglish := fun _ => rfl
  have packedNames : packed.NamesEnglish := nofun
  have blankShown : blank.withFullYear.format date = "1987 August 31".toList := by decide
  have packedShown : packed.withFullYear.format date = "08198731".toList := by decide
  have blankTold := @parse_format_withFullYear blank date {} _ " 0ymM_d+2130".toList rfl rfl
    blankNames (by decide) (by decide) (by decide) context
  have packedTold := @parse_format_withFullYear packed date {} _ "0M0y0d".toList rfl rfl
    packedNames (by decide) (by decide) (by decide) context
  rw [blankShown, if_neg (by decide)] at blankTold
  rw [packedShown, if_neg (by decide)] at packedTold
  exact ⟨⟨rfl, rfl, blankNames, blankShown, blankTold⟩, rfl, rfl, packedNames, packedShown,
    packedTold⟩

/-- Packed with a name, the text of a full year is invalid: two digits are left over. -/
theorem full_year_behind_packed_name_invalid :
    let codec : PatternCodec :=
      ⟨⟨"0dmM0y".toList, .packed, .dayMonthYear, .zeroPadded, .name, some {}⟩,
        CalendarNames.english.months⟩
    let context : Context := ⟨⟨⟨2013, 1, 12⟩, by decide⟩, none⟩
    Pattern.compileWith {} "0dmM0y".toList = .ok codec.pattern ∧
      codec.withFullYear.pattern.raw = "0dmM_y".toList ∧
      codec.withFullYear.format ⟨1999, 2, 5⟩ = "05March1999".toList ∧
      codec.parse context "05March1999".toList = .invalid := by
  intro codec context
  exact ⟨rfl, rfl, by decide, by decide⟩

end PatternCodec

end DateDisplay
