import DateDisplay.Proofs.Pattern.MonthNames

/-!
# Dates whose month has no name

A month without a name shows nothing.  Between separators its piece is there and empty: no name
begins with it, so that the month is the one for unknown names.  Packed text has no piece for
it at all, and the month is that of the reference day, as if it had not been typed.
-/

namespace DateDisplay

/-- The other two fields stand around a month in the middle. -/
theorem FieldOrder.exists_toList_eq_of_middle {order : FieldOrder}
    (middle : order.position .month = 1) :
    ∃ first third, first ≠ .month ∧ third ≠ .month ∧ order.toList = [first, .month, third] := by
  cases order with
  | dayMonthYear => exact ⟨.day, .year, by decide, by decide, rfl⟩
  | yearMonthDay => exact ⟨.year, .day, by decide, by decide, rfl⟩
  | dayYearMonth => cases middle
  | monthDayYear => cases middle
  | monthYearDay => cases middle
  | yearDayMonth => cases middle

namespace Pattern

variable {pattern : Pattern} {fields : List DateField}

/-! ## Walking past a missing name -/

@[simp] theorem walkFields_nil (fields : List DateField) :
    pattern.walkFields fields [] = some [] := by
  cases fields <;> rfl

/-- A name that is missing has no segment. -/
theorem walkFields_cons_of_head_nil {text : Text} (missing : pattern.head .month text = []) :
    pattern.walkFields (.month :: fields) text = pattern.walkFields fields text := by
  cases text with
  | nil => simp only [walkFields_nil]
  | cons char text => simp [walkFields, missing]

/-- Where the month shows nothing, the texts of the other fields are found in their junction. -/
theorem walkFields_flatten_of_missing {texts : DateField → Text} (missing : texts .month = [])
    (nonempty : ∀ field ≠ .month, texts field ≠ [])
    (digits : ∀ field ≠ .month, ∀ char ∈ texts field, char.isDigit = true)
    (exact : ∀ field ≠ .month, (texts field).length = pattern.width field) :
    pattern.walkFields fields (fields.map texts).flatten =
      some ((fields.filter (· ≠ .month)).map fun field => (field, texts field)) := by
  induction fields with
  | nil => rfl
  | cons field fields ih =>
      rw [List.map_cons, List.flatten_cons]
      by_cases month : field = .month
      · subst month
        have rest : ∀ char ∈ (fields.map texts).flatten, char.isDigit = true := by
          intro char member
          obtain ⟨text, textMember, charMember⟩ := List.mem_flatten.1 member
          obtain ⟨later, -, rfl⟩ := List.mem_map.1 textMember
          apply digits later _ char charMember
          rintro rfl
          rw [missing] at charMember
          cases charMember
        have head : pattern.head .month (fields.map texts).flatten = [] :=
          @head_append_of_letters pattern [] _ nofun rest
        rw [missing, List.nil_append, walkFields_cons_of_head_nil head, ih,
          List.filter_cons_of_neg (by decide)]
      · have head := head_append_of_digits (fields.map texts).flatten month (digits field month)
          (exact field month)
        rw [walkFields_cons_append head (nonempty field month), ih,
          List.filter_cons_of_pos (by simpa using month)]
        rfl

end Pattern

namespace PatternCodec

variable {codec : PatternCodec} {context : Context} {date : CalendarDate}

/-! ## Fields without a month -/

/-- Where the month has no segment, it is that of the reference day. -/
theorem assemble?_map_filter (order : FieldOrder) (texts : DateField → Text) :
    codec.assemble? context ((order.toList.filter (· ≠ .month)).map fun field =>
        (field, texts field)) = (do
      let day ← Decimal.readCount? (texts .day)
      let year ← codec.readYear? (texts .year)
      some ⟨year, context.reference.date.month, day⟩) := by
  cases day : Decimal.readCount? (texts .day) <;>
    cases year : codec.readYear? (texts .year) <;>
    cases order <;>
    simp [assemble?, FieldOrder.toList, setField?, day, year]

section Unnamed

variable (named : codec.pattern.month = .name) (unnamed : codec.monthName date.month = [])
  (told : codec.pattern.year = .full → 0 ≤ date.year.toInt)

include named

/-- An empty name is unknown. -/
theorem readMonth?_nil : codec.readMonth? context [] = some context.unnamedMonth := by
  simp only [readMonth?, named]
  rfl

include unnamed

theorem fieldText_month_of_unnamed : codec.fieldText date .month = [] := by
  simp only [fieldText, monthText, named, unnamed]

include told

theorem isDigit_of_mem_fieldText_of_unnamed {field : DateField} {char : Char}
    (member : char ∈ codec.fieldText date field) : char.isDigit = true := by
  by_cases month : field = .month
  · rw [month, fieldText_month_of_unnamed named unnamed] at member
    cases member
  · exact isDigit_of_mem_fieldText (fun same => absurd same month) told member

/-! ## Between separators -/

theorem readTexts?_fieldText_of_unnamed :
    codec.readTexts? context (codec.fieldText date) =
      some { codec.pattern.retained date with month := context.unnamedMonth } := by
  have month : codec.readMonth? context (codec.monthText date) = some context.unnamedMonth := by
    have missing : codec.monthText date = [] := fieldText_month_of_unnamed named unnamed
    rw [missing, readMonth?_nil named]
  simp only [readTexts?, fieldText, readCount?_dayText, month, readYear?_yearText, if_pos told]
  rfl

/-- Between separators a month without a name in the middle is read as an unknown name. -/
theorem parse_format_of_separated_unnamed {separator : Char}
    (separated : codec.pattern.layout = .separated separator)
    (noDigit : separator.isDigit = false)
    (middle : codec.pattern.order.position .month = 1) :
    codec.parse context (codec.format date) =
      .parsed { codec.pattern.retained date with month := context.unnamedMonth } := by
  have month := fieldText_month_of_unnamed named unnamed
  have free : ∀ field, separator ∉ codec.fieldText date field := by
    intro field member
    have digit := isDigit_of_mem_fieldText_of_unnamed named unnamed told member
    rw [noDigit] at digit
    cases digit
  have trimmed : ∀ field,
      Text.trim (codec.fieldText date field) = codec.fieldText date field := by
    intro field
    apply Text.trim_of_forall_isBlank_eq_false
    intro char member
    exact Text.isBlank_of_isDigit
      (isDigit_of_mem_fieldText_of_unnamed named unnamed told member)
  -- The other two fields show something, so that no separator stands at an end.
  obtain ⟨first, third, firstNumber, thirdNumber, order⟩ :=
    FieldOrder.exists_toList_eq_of_middle middle
  have firstNonempty : codec.fieldText date first ≠ [] :=
    fieldText_ne_nil fun same => absurd same firstNumber
  have thirdNonempty : codec.fieldText date third ≠ [] :=
    fieldText_ne_nil fun same => absurd same thirdNumber
  have shown : codec.format date =
      codec.fieldText date first ++ [separator, separator] ++ codec.fieldText date third := by
    rw [format_of_separated separated, fieldTexts, order]
    simp [List.intercalate_cons_cons, month]
  have formatTrimmed : Text.trim (codec.format date) = codec.format date := by
    rw [shown]
    exact Text.trim_append_append (trimmed first) firstNonempty (trimmed third) thirdNonempty
  have formatNonempty : codec.format date ≠ [] := by
    rw [shown]
    simp [firstNonempty]
  rw [parse_of_trim_eq_self formatTrimmed formatNonempty,
    read?_format_of_separated separated free trimmed,
    readTexts?_fieldText_of_unnamed named unnamed told]

/-! ## Packed -/

/-- Packed, a month without a name counts as left out. -/
theorem parse_format_of_packed_unnamed (packed : codec.pattern.layout = .packed)
    (day : date.day.toNat ≤ 99) (small : codec.pattern.year = .full → date.year.toInt ≤ 9999) :
    codec.parse context (codec.format date) =
      .parsed { codec.pattern.retained date with month := context.reference.date.month } := by
  have digits : ∀ field, ∀ char ∈ codec.fieldText date field, char.isDigit = true :=
    fun _ _ member => isDigit_of_mem_fieldText_of_unnamed named unnamed told member
  have nonempty : ∀ field ≠ .month, codec.fieldText date field ≠ [] :=
    fun _ number => fieldText_ne_nil fun same => absurd same number
  have exact : ∀ field ≠ .month,
      (codec.fieldText date field).length = codec.pattern.width field := by
    intro field number
    exact length_fieldText_of_number packed number day fun full => ⟨told full, small full⟩
  have walked : codec.pattern.segments (codec.format date) =
      some ((codec.pattern.order.toList.filter (· ≠ .month)).map fun field =>
        (field, codec.fieldText date field)) := by
    rw [segments_of_packed_name packed named, Pattern.walk, format_of_packed packed, fieldTexts]
    exact Pattern.walkFields_flatten_of_missing (fieldText_month_of_unnamed named unnamed)
      nonempty (fun field _ => digits field) exact
  have assembled : codec.assemble? context
      ((codec.pattern.order.toList.filter (· ≠ .month)).map fun field =>
        (field, codec.fieldText date field)) =
      some { codec.pattern.retained date with month := context.reference.date.month } := by
    rw [assemble?_map_filter]
    simp only [fieldText, readCount?_dayText, readYear?_yearText, if_pos told]
    rfl
  have inked : ∀ field, ∀ char ∈ codec.fieldText date field, Text.isBlank char = false :=
    fun field char member => Text.isBlank_of_isDigit (digits field char member)
  obtain ⟨formatTrimmed, formatNonempty⟩ :=
    trim_format_of_packed packed inked (nonempty .day (by decide))
  rw [parse_of_trim_eq_self formatTrimmed formatNonempty, read?, walked, Option.bind_some,
    assembled]

end Unnamed

/-- A date whose month has no name comes back from a pattern with full years and the month in
the middle when the month for unknown names is its own and separators stand between the fields.
Packed, it comes back with the month of the reference day instead. -/
theorem parse_format_of_unnamed_month {window : CenturyWindow} {raw : Text}
    (accepted : Pattern.compileWith window raw = .ok codec.pattern)
    (named : codec.pattern.month = .name) (full : codec.pattern.century = none)
    (middle : codec.pattern.order.position .month = 1)
    (unnamed : codec.monthName date.month = []) (nonneg : 0 ≤ date.year.toInt)
    (context : Context) :
    (∀ separator, codec.pattern.layout = .separated separator →
      context.fallbackMonth = some date.month →
        codec.parse context (codec.format date) = .parsed date) ∧
    (codec.pattern.layout = .packed → date.day.toNat ≤ 99 → date.year.toInt ≤ 9999 →
      codec.parse context (codec.format date) =
        .parsed { date with month := context.reference.date.month }) := by
  have told : codec.pattern.year = .full → 0 ≤ date.year.toInt := fun _ => nonneg
  constructor
  · intro separator separated kept
    have noDigit := Pattern.isDigit_separator accepted separated
    have month : context.unnamedMonth = date.month := by
      rw [Context.unnamedMonth, kept, Option.getD_some]
    rw [parse_format_of_separated_unnamed named unnamed told separated noDigit middle, month,
      Pattern.retained_of_full full]
  · intro packed day small
    rw [parse_format_of_packed_unnamed named unnamed told packed day fun _ => small,
      Pattern.retained_of_full full]

/-- With two names March has none.  It is kept between blanks, and packed it becomes the
reference day's January. -/
theorem parse_format_of_unnamed_month_march :
    let names : List Text := ["Mai".toList, "MAIO".toList]
    let blank : Pattern :=
      ⟨" _ymM_d".toList, .separated ' ', .yearMonthDay, .bare, .name, none⟩
    let packed : Pattern :=
      ⟨"0dmM_y".toList, .packed, .dayMonthYear, .zeroPadded, .name, none⟩
    let context : Context := ⟨⟨⟨2013, 0, 12⟩, by decide⟩, some 2⟩
    (Pattern.compileWith {} " _ymM_d".toList = .ok blank ∧ blank.month = .name ∧
      blank.century = none ∧ blank.order.position .month = 1 ∧
      monthName ⟨blank, names⟩ 2 = [] ∧ context.fallbackMonth = some 2 ∧
      parse ⟨blank, names⟩ context (format ⟨blank, names⟩ ⟨2024, 2, 5⟩) =
        .parsed ⟨2024, 2, 5⟩) ∧
    (Pattern.compileWith {} "0dmM_y".toList = .ok packed ∧ packed.month = .name ∧
      packed.century = none ∧ packed.order.position .month = 1 ∧
      monthName ⟨packed, names⟩ 2 = [] ∧
      parse ⟨packed, names⟩ context (format ⟨packed, names⟩ ⟨2024, 2, 5⟩) =
        .parsed ⟨2024, 0, 5⟩) := by
  refine ⟨⟨rfl, rfl, rfl, rfl, rfl, rfl, ?_⟩, ⟨rfl, rfl, rfl, rfl, rfl, ?_⟩⟩
  · exact (@parse_format_of_unnamed_month ⟨_, _⟩ ⟨2024, 2, 5⟩ {} " _ymM_d".toList rfl rfl rfl
      rfl rfl (by decide) _).1 ' ' rfl rfl
  · exact (@parse_format_of_unnamed_month ⟨_, _⟩ ⟨2024, 2, 5⟩ {} "0dmM_y".toList rfl rfl rfl
      rfl rfl (by decide) _).2 rfl (by decide) (by decide)

/-- The two layouts do not agree: packed, the month of the field's value is not kept. -/
theorem packed_unnamed_month_not_kept :
    let packed : Pattern :=
      ⟨"0dmM_y".toList, .packed, .dayMonthYear, .zeroPadded, .name, none⟩
    let context : Context := ⟨⟨⟨2013, 1, 12⟩, by decide⟩, some 2⟩
    Pattern.compileWith {} "0dmM_y".toList = .ok packed ∧ packed.order.position .month = 1 ∧
      monthName ⟨packed, []⟩ 2 = [] ∧ context.fallbackMonth = some 2 ∧
      parse ⟨packed, []⟩ context (format ⟨packed, []⟩ ⟨2024, 2, 5⟩) = .parsed ⟨2024, 1, 5⟩ ∧
      parse ⟨packed, []⟩ context (format ⟨packed, []⟩ ⟨2024, 2, 5⟩) ≠
        .parsed ⟨2024, 2, 5⟩ := by
  intro packed context
  have read : parse ⟨packed, []⟩ context (format ⟨packed, []⟩ ⟨2024, 2, 5⟩) =
      .parsed ⟨2024, 1, 5⟩ := by
    decide
  refine ⟨rfl, rfl, rfl, rfl, read, ?_⟩
  rw [read]
  decide

end PatternCodec

end DateDisplay
