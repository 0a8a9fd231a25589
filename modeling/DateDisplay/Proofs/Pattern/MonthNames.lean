import Mathlib.Data.List.TakeWhile
import DateDisplay.Proofs.Pattern.Packed
import DateDisplay.Proofs.Pattern.Separated

/-!
# Dates with a month name read back

A name stands for the first month whose name it begins, letter case aside.  Hence a
date whose month is the first to match its own name comes back: between separators
when the name does not show the separator, and packed when the name is made of
letters, since a run of letters ends where the digits of the next field begin.
-/

namespace DateDisplay

namespace Pattern

variable {pattern : Pattern}

/-! ## Walking from field to field -/

/-- A number is taken as far as its width reaches. -/
theorem head_append_of_digits {field : DateField} {text : Text} (rest : Text)
    (number : field ≠ .month) (digits : ∀ char ∈ text, char.isDigit = true)
    (fits : text.length = pattern.width field) :
    pattern.head field (text ++ rest) = text := by
  have taken : ((text ++ rest).take (pattern.width field)).takeWhile Char.isDigit = text := by
    rw [List.take_left' fits]
    exact List.takeWhile_eq_self_iff.2 digits
  cases field with
  | month => contradiction
  | day => exact taken
  | year => exact taken

/-- A name is taken as far as its letters go, when a digit or nothing follows. -/
theorem head_append_of_letters {text rest : Text}
    (letters : ∀ char ∈ text, Text.isAlphabetic char = true)
    (digits : ∀ char ∈ rest, char.isDigit = true) :
    pattern.head .month (text ++ rest) = text := by
  have stops : rest.takeWhile Text.isAlphabetic = [] := by
    cases rest with
    | nil => rfl
    | cons char rest =>
        have digit := digits char List.mem_cons_self
        simp [Text.isAlphabetic_of_isDigit digit]
  rw [head, List.takeWhile_append_of_pos letters, stops, List.append_nil]

theorem walkFields_cons_append {field : DateField} {fields : List DateField}
    {text rest : Text} (head : pattern.head field (text ++ rest) = text)
    (nonempty : text ≠ []) :
    pattern.walkFields (field :: fields) (text ++ rest) =
      (pattern.walkFields fields rest).map ((field, text) :: ·) := by
  cases text with
  | nil => contradiction
  | cons char text =>
      rw [List.cons_append] at head ⊢
      simp [walkFields, head]

/-- The texts of different fields are found again in their junction: numbers by their
widths, and the name because no letter follows it. -/
theorem walkFields_flatten {fields : List DateField} {texts : DateField → Text}
    (nodup : fields.Nodup) (nonempty : ∀ field, texts field ≠ [])
    (digits : ∀ field ≠ .month, ∀ char ∈ texts field, char.isDigit = true)
    (exact : ∀ field ≠ .month, (texts field).length = pattern.width field)
    (letters : ∀ char ∈ texts .month, Text.isAlphabetic char = true) :
    pattern.walkFields fields (fields.map texts).flatten =
      some (fields.map fun field => (field, texts field)) := by
  induction fields with
  | nil => rfl
  | cons field fields ih =>
      rcases List.nodup_cons.1 nodup with ⟨notLater, restNodup⟩
      have head : pattern.head field (texts field ++ (fields.map texts).flatten) =
          texts field := by
        by_cases name : field = .month
        · -- No field occurs twice, so that only numbers follow the name.
          subst name
          apply head_append_of_letters letters
          intro char member
          rcases List.mem_flatten.1 member with ⟨text, textMember, charMember⟩
          rcases List.mem_map.1 textMember with ⟨later, laterMember, rfl⟩
          apply digits later _ char charMember
          rintro rfl
          exact notLater laterMember
        · exact head_append_of_digits _ name (digits field name) (exact field name)
      rw [List.map_cons, List.flatten_cons, walkFields_cons_append head (nonempty field),
        ih restNodup]
      rfl

end Pattern

namespace PatternCodec

variable {codec : PatternCodec} {context : Context} {date : CalendarDate} {name : Text}

/-! ## Resolving a name -/

/-- A name stands for the first month that it begins, letter case aside. -/
theorem findMonth?_eq_some_iff {index : Nat} :
    codec.findMonth? name = some index ↔
      name ≠ [] ∧
      (∃ candidate, codec.monthNames[index]? = some candidate ∧
        Text.lowerCase name <+: Text.lowerCase candidate) ∧
      ∀ earlier ∈ codec.monthNames.take index,
        ¬ Text.lowerCase name <+: Text.lowerCase earlier := by
  rw [findMonth?]
  by_cases empty : name = []
  · simp [empty]
  · rw [if_neg (Text.lowerCase_ne_nil empty), List.findIdx?_eq_some_iff_getElem]
    constructor
    · rintro ⟨inBounds, begins, notEarlier⟩
      refine ⟨empty, ⟨_, List.getElem?_eq_getElem inBounds,
        List.isPrefixOf_iff_prefix.1 begins⟩, ?_⟩
      intro earlier member beginsEarlier
      rcases List.mem_take_iff_getElem.1 member with ⟨position, before, rfl⟩
      exact notEarlier position (by omega) (List.isPrefixOf_iff_prefix.2 beginsEarlier)
    · rintro ⟨-, ⟨candidate, found, begins⟩, notEarlier⟩
      rcases List.getElem?_eq_some_iff.1 found with ⟨inBounds, rfl⟩
      refine ⟨inBounds, List.isPrefixOf_iff_prefix.2 begins, ?_⟩
      intro position before beginsEarlier
      apply notEarlier codec.monthNames[position]
      · exact List.mem_take_iff_getElem.2 ⟨position, by omega, rfl⟩
      · exact List.isPrefixOf_iff_prefix.1 beginsEarlier

/-- A month is the first to match its own name: it has a name, and no earlier name
begins with it, letter case aside. -/
structure FirstNamed (codec : PatternCodec) (month : UInt32) (name : Text) : Prop where
  shown : codec.monthNames[month.toNat]? = some name
  nonempty : name ≠ []
  first : ∀ earlier ∈ codec.monthNames.take month.toNat,
    ¬ Text.lowerCase name <+: Text.lowerCase earlier

theorem FirstNamed.findMonth?_eq {month : UInt32} (firstNamed : codec.FirstNamed month name) :
    codec.findMonth? name = some month.toNat :=
  findMonth?_eq_some_iff.2 ⟨firstNamed.nonempty,
    ⟨name, firstNamed.shown, List.prefix_rfl⟩, firstNamed.first⟩

/-! ## Dates with a month name -/

section Named

variable (named : codec.pattern.month = .name) (firstNamed : codec.FirstNamed date.month name)

include named firstNamed

theorem monthText_of_name : codec.monthText date = name := by
  simp only [monthText, named, monthName, firstNamed.shown, Option.getD_some]

/-- The fields of a date are read back, its month by name. -/
theorem readTexts?_fieldText_of_name :
    codec.readTexts? context (codec.fieldText date) =
      if codec.pattern.year = .full → 0 ≤ date.year.toInt then
        some (codec.pattern.retained date)
      else none := by
  have month : codec.readMonth? context (codec.monthText date) = some date.month := by
    simp only [readMonth?, named, monthText_of_name named firstNamed, resolveMonthName,
      firstNamed.findMonth?_eq, UInt32.ofNat_toNat]
  simp only [readTexts?, fieldText, readCount?_dayText, month, readYear?_yearText]
  split <;> rfl

theorem fieldText_ne_nil_of_name (field : DateField) : codec.fieldText date field ≠ [] := by
  by_cases month : field = .month
  · rw [month, fieldText, monthText_of_name named firstNamed]
    exact firstNamed.nonempty
  · exact fieldText_ne_nil fun same => absurd same month

/-- Between separators a name comes back that needs no trimming and does not show the
separator. -/
theorem parse_format_of_separated_name {separator : Char}
    (separated : codec.pattern.layout = .separated separator)
    (noDigit : separator.isDigit = false) (trimmed : Text.trim name = name)
    (free : separator ∉ name) (told : codec.pattern.year = .full → 0 ≤ date.year.toInt) :
    codec.parse context (codec.format date) = .parsed (codec.pattern.retained date) := by
  have month : codec.fieldText date .month = name := monthText_of_name named firstNamed
  have fieldTrimmed : ∀ field,
      Text.trim (codec.fieldText date field) = codec.fieldText date field := by
    intro field
    by_cases same : field = .month
    · rw [same, month, trimmed]
    · exact trim_fieldText fun equal => absurd equal same
  have fieldFree : ∀ field, separator ∉ codec.fieldText date field := by
    intro field
    by_cases same : field = .month
    · rw [same, month]
      exact free
    · exact notMem_fieldText noDigit (fun equal => absurd equal same) told
  have nonempty := fieldText_ne_nil_of_name named firstNamed
  rcases trim_format_of_separated separated fieldTrimmed nonempty with
    ⟨formatTrimmed, formatNonempty⟩
  rw [parse_of_trim_eq_self formatTrimmed formatNonempty,
    read?_format_of_separated separated fieldFree fieldTrimmed,
    readTexts?_fieldText_of_name named firstNamed, if_pos told]

/-- A packed name comes back that is made of letters, between numbers that take their
widths. -/
theorem parse_format_of_packed_name (packed : codec.pattern.layout = .packed)
    (letters : ∀ char ∈ name, Text.isAlphabetic char = true) (day : date.day.toNat ≤ 99)
    (told : codec.pattern.year = .full → 0 ≤ date.year.toInt ∧ date.year.toInt ≤ 9999) :
    codec.parse context (codec.format date) = .parsed (codec.pattern.retained date) := by
  have month : codec.fieldText date .month = name := monthText_of_name named firstNamed
  have nonempty := fieldText_ne_nil_of_name named firstNamed
  have digits : ∀ field ≠ .month, ∀ char ∈ codec.fieldText date field,
      char.isDigit = true := by
    intro field number char member
    exact isDigit_of_mem_fieldText (fun same => absurd same number)
      (fun full => (told full).1) member
  have exact : ∀ field ≠ .month,
      (codec.fieldText date field).length = codec.pattern.width field := by
    intro field number
    exact length_fieldText_of_number packed number day told
  have inked : ∀ field, ∀ char ∈ codec.fieldText date field, Text.isBlank char = false := by
    intro field char member
    by_cases same : field = .month
    · rw [same, month] at member
      exact Text.isBlank_of_isAlphabetic (letters char member)
    · exact Text.isBlank_of_isDigit (digits field same char member)
  have walked : codec.pattern.segments (codec.format date) =
      some (codec.pattern.order.toList.map fun field =>
        (field, codec.fieldText date field)) := by
    rw [segments_of_packed_name packed named, Pattern.walk, format_of_packed packed, fieldTexts]
    exact Pattern.walkFields_flatten codec.pattern.order.nodup_toList nonempty digits exact
      (month ▸ letters)
  rcases trim_format_of_packed packed inked (nonempty .day) with
    ⟨formatTrimmed, formatNonempty⟩
  rw [parse_of_trim_eq_self formatTrimmed formatNonempty, read?, walked, Option.bind_some,
    assemble?_map_toList, readTexts?_fieldText_of_name named firstNamed,
    if_pos fun full => (told full).1]

end Named

/-- A date whose month is the first to match its own name is read back as the pattern
retains it.  Between separators the name needs no more than to stand without blanks at
its ends and without the separator; packed, it has to be made of letters, and the
numbers have to take their widths. -/
theorem parse_format_of_monthName {window : CenturyWindow} {raw : Text}
    (accepted : Pattern.compileWith window raw = .ok codec.pattern)
    (named : codec.pattern.month = .name) (firstNamed : codec.FirstNamed date.month name)
    (context : Context) :
    (∀ separator, codec.pattern.layout = .separated separator →
      Text.trim name = name → separator ∉ name →
      (codec.pattern.year = .full → 0 ≤ date.year.toInt) →
        codec.parse context (codec.format date) =
          .parsed (codec.pattern.retained date)) ∧
    (codec.pattern.layout = .packed →
      (∀ char ∈ name, Text.isAlphabetic char = true) → date.day.toNat ≤ 99 →
      (codec.pattern.year = .full → 0 ≤ date.year.toInt ∧ date.year.toInt ≤ 9999) →
        codec.parse context (codec.format date) =
          .parsed (codec.pattern.retained date)) := by
  constructor
  · intro separator separated trimmed free told
    have noDigit := Pattern.isDigit_separator accepted separated
    exact parse_format_of_separated_name named firstNamed separated noDigit trimmed free told
  · intro packed letters day told
    exact parse_format_of_packed_name named firstNamed packed letters day told

/-- The second name begins with the first, yet each is the first to match itself. -/
theorem parse_format_of_extended_name :
    let names : List Text := ["Mai".toList, "MAIO".toList]
    let hyphen : Pattern :=
      ⟨"-_ymM0d".toList, .separated '-', .yearMonthDay, .zeroPadded, .name, none⟩
    let packed : Pattern :=
      ⟨"0d0ymM".toList, .packed, .dayYearMonth, .zeroPadded, .name, some {}⟩
    let context : Context := ⟨⟨⟨2013, 6, 12⟩, by decide⟩, none⟩
    FirstNamed ⟨hyphen, names⟩ 1 "MAIO".toList ∧
    (Pattern.compileWith {} "-_ymM0d".toList = .ok hyphen ∧ hyphen.month = .name ∧
      parse ⟨hyphen, names⟩ context (format ⟨hyphen, names⟩ ⟨1987, 1, 5⟩) =
        .parsed ⟨1987, 1, 5⟩) ∧
    (Pattern.compileWith {} "0d0ymM".toList = .ok packed ∧ packed.month = .name ∧
      parse ⟨packed, names⟩ context (format ⟨packed, names⟩ ⟨-13, 1, 5⟩) =
        .parsed ⟨1987, 1, 5⟩) := by
  have first : ∀ earlier ∈ ["Mai".toList],
      ¬ Text.lowerCase "MAIO".toList <+: Text.lowerCase earlier := by decide
  have letters : ∀ char ∈ "MAIO".toList, Text.isAlphabetic char = true :=
    List.all_eq_true.1 rfl
  have firstNamed : ∀ pattern,
      FirstNamed ⟨pattern, ["Mai".toList, "MAIO".toList]⟩ 1 "MAIO".toList :=
    fun _ => ⟨rfl, by decide, first⟩
  refine ⟨firstNamed _, ⟨rfl, rfl, ?_⟩, ⟨rfl, rfl, ?_⟩⟩
  · exact (@parse_format_of_monthName ⟨_, _⟩ ⟨1987, 1, 5⟩ _ {} "-_ymM0d".toList rfl rfl
      (firstNamed _) _).1 '-' rfl (by decide) (by decide) (by decide)
  · exact (@parse_format_of_monthName ⟨_, _⟩ ⟨-13, 1, 5⟩ _ {} "0d0ymM".toList rfl rfl
      (firstNamed _) _).2 rfl letters (by decide) (by decide)

end PatternCodec

end DateDisplay
