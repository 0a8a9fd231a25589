import DateDisplay.Pattern.Reading
import DateDisplay.Proofs.Text.Numbers
import DateDisplay.Proofs.Text.Trimming

/-!
# Field texts read back

Every field of a date is written on its own and read on its own.  Once a text is
cut where the fields meet, the date read depends neither on their order nor on the
context, except for a month name: days and years come back as far as the pattern
shows them, and a month number comes back when it is one of twelve.
-/

namespace DateDisplay

/-- The date that a text of the pattern still tells.  A full year is told as it
is; a short year is told by its last two digits, which the window expands. -/
def Pattern.retained (pattern : Pattern) (date : CalendarDate) : CalendarDate :=
  { date with
    year :=
      match pattern.century with
      | some window => window.resolve (.ofInt (date.year.toInt % 100))
      | none => date.year }

theorem Pattern.retained_of_full {pattern : Pattern} {date : CalendarDate}
    (full : pattern.century = none) : pattern.retained date = date := by
  simp only [retained, full]

theorem Pattern.retained_of_short {pattern : Pattern} {date : CalendarDate}
    {window : CenturyWindow} (short : pattern.century = some window) :
    pattern.retained date =
      { date with year := window.resolve (.ofInt (date.year.toInt % 100)) } := by
  simp only [retained, short]

theorem FieldOrder.zip_map_toList {α : Type} (order : FieldOrder) (image : DateField → α) :
    order.toList.zip (order.toList.map image) =
      order.toList.map fun field => (field, image field) := by
  cases order <;> rfl

theorem Pattern.year_eq_full_iff {pattern : Pattern} :
    pattern.year = .full ↔ pattern.century = none := by
  cases century : pattern.century <;> simp [Pattern.year, century]

namespace PatternCodec

variable {codec : PatternCodec} {context : Context} {date : CalendarDate}

/-! ## Reading a text -/

theorem parse_eq_parsed_iff {text : Text} :
    codec.parse context text = .parsed date ↔
      Text.trim text ≠ [] ∧ codec.read? context (Text.trim text) = some date := by
  by_cases empty : Text.trim text = []
  · simp [parse, empty]
  · cases read : codec.read? context (Text.trim text) <;> simp [parse, empty, read]

/-- A text that needs no trimming is read as it is. -/
theorem parse_of_trim_eq_self {text : Text} (trimmed : Text.trim text = text)
    (nonempty : text ≠ []) :
    codec.parse context text =
      match codec.read? context text with
      | some date => .parsed date
      | none => .invalid := by
  cases result : codec.read? context text <;> simp [parse, trimmed, nonempty, result]

theorem parse_of_read?_eq_ite {text : Text} {told : Prop} [Decidable told]
    (trimmed : Text.trim text = text) (nonempty : text ≠ [])
    (read : codec.read? context text = if told then some date else none) :
    codec.parse context text = if told then .parsed date else .invalid := by
  rw [parse_of_trim_eq_self trimmed nonempty, read]
  by_cases shown : told
  · simp only [if_pos shown]
  · simp only [if_neg shown]

/-- A packed text with a month number is cut by width. -/
theorem segments_of_packed {text : Text} (packed : codec.pattern.layout = .packed)
    (numeric : codec.pattern.month ≠ .name) :
    codec.pattern.segments text = codec.pattern.slice text := by
  have numbers : codec.pattern.usesMonthNames = false := by
    simpa [Pattern.usesMonthNames] using numeric
  simp only [Pattern.segments, packed, numbers, Bool.false_eq_true, if_false]

/-- A packed text with a month name is walked. -/
theorem segments_of_packed_name {text : Text} (packed : codec.pattern.layout = .packed)
    (named : codec.pattern.month = .name) :
    codec.pattern.segments text = codec.pattern.walk text := by
  have names : codec.pattern.usesMonthNames = true := by
    simp [Pattern.usesMonthNames, named]
  simp only [Pattern.segments, packed, names, if_true]

/-! ## Assembling three fields -/

/-- The date whose three fields have these texts. -/
def readTexts? (codec : PatternCodec) (context : Context) (texts : DateField → Text) :
    Option CalendarDate := do
  let day ← Decimal.readCount? (texts .day)
  let month ← codec.readMonth? context (texts .month)
  let year ← codec.readYear? (texts .year)
  some ⟨year, month, day⟩

/-- With a text for every field nothing is left of the reference day, and the order
of the fields does not matter. -/
theorem assemble?_map_toList (order : FieldOrder) (texts : DateField → Text) :
    codec.assemble? context (order.toList.map fun field => (field, texts field)) =
      codec.readTexts? context texts := by
  cases day : Decimal.readCount? (texts .day) <;>
    cases month : codec.readMonth? context (texts .month) <;>
    cases year : codec.readYear? (texts .year) <;>
    cases order <;>
    simp [assemble?, FieldOrder.toList, setField?, readTexts?, day, month, year]

/-! ## Reading one field -/

theorem readCount?_numberText (layout : Pattern.Layout) (bare : Bool) (count : UInt32) :
    Decimal.readCount? (numberText layout bare count.toNat) = some count := by
  unfold numberText
  split
  · exact Decimal.readCount?_of_read? (Decimal.read?_digits _)
  · exact Decimal.readCount?_of_read? (Decimal.read?_padded _ _)

/-- Days are read back in every style. -/
theorem readCount?_dayText : Decimal.readCount? (codec.dayText date) = some date.day :=
  readCount?_numberText ..

theorem monthText_eq_numberText (numeric : codec.pattern.month ≠ .name) :
    codec.monthText date =
      numberText codec.pattern.layout (codec.pattern.month == .bare)
        date.monthNumber.toNat := by
  rw [monthText]
  split
  · contradiction
  · rfl

theorem readMonth?_of_numeric {text : Text} (numeric : codec.pattern.month ≠ .name) :
    codec.readMonth? context text =
      (Decimal.readCount? text).bind CalendarDate.monthOfNumber? := by
  rw [readMonth?]
  split
  · contradiction
  · rfl

/-- Month numbers are read back when they name one of twelve months. -/
theorem readMonth?_monthText (numeric : codec.pattern.month ≠ .name) :
    codec.readMonth? context (codec.monthText date) =
      if date.month.toNat ≤ 11 then some date.month else none := by
  rw [readMonth?_of_numeric numeric, monthText_eq_numberText numeric, readCount?_numberText,
    Option.bind_some, CalendarDate.monthOfNumber?_monthNumber]
  simp only [Nat.lt_succ_iff]

theorem yearText_of_short {window : CenturyWindow}
    (short : codec.pattern.century = some window) :
    codec.yearText date = CenturyWindow.shorten date.year := by
  simp [yearText, Pattern.year, short]

/-- Full years are padded only where nothing stands between the fields. -/
theorem exists_yearText_of_full (date : CalendarDate)
    (full : codec.pattern.century = none) :
    ∃ width, codec.yearText date = Decimal.signedPadded width date.year.toInt := by
  simp only [yearText, Pattern.year_eq_full_iff.2 full]
  cases codec.pattern.layout with
  | packed => exact ⟨4, rfl⟩
  | separated separator => exact ⟨0, (Decimal.signedPadded_zero _).symm⟩

/-- The last two digits of a year are read back. -/
theorem readYear?_shorten (year : Int32) :
    Decimal.readYear? (CenturyWindow.shorten year) = some (.ofInt (year.toInt % 100)) := by
  have toInt : (Int32.ofInt (year.toInt % 100)).toInt = year.toInt % 100 :=
    Int32.toInt_ofInt_of_le (by simp; omega) (by simp; omega)
  refine Decimal.readYear?_of_read? ?_ (by omega)
  rw [CenturyWindow.shorten, Decimal.read?_padded, toInt]
  congr 1
  omega

/-- Years are read back as far as the pattern shows them, unless a minus sign is
shown. -/
theorem readYear?_yearText :
    codec.readYear? (codec.yearText date) =
      if codec.pattern.year = .full → 0 ≤ date.year.toInt then
        some (codec.pattern.retained date).year
      else none := by
  simp only [Pattern.year_eq_full_iff]
  cases century : codec.pattern.century with
  | some window =>
      rw [readYear?, yearText_of_short century, readYear?_shorten]
      simp [Pattern.retained, century]
  | none =>
      rcases exists_yearText_of_full date century with ⟨width, text⟩
      rw [readYear?, text, Decimal.readYear?_signedPadded]
      split <;> simp_all [Pattern.retained]

/-- The three fields of a date, read back where months are numbers. -/
theorem readTexts?_fieldText (numeric : codec.pattern.month ≠ .name) :
    codec.readTexts? context (codec.fieldText date) =
      if date.month.toNat ≤ 11 ∧ (codec.pattern.year = .full → 0 ≤ date.year.toInt) then
        some (codec.pattern.retained date)
      else none := by
  simp only [readTexts?, fieldText, readCount?_dayText, readMonth?_monthText numeric,
    readYear?_yearText]
  by_cases inYear : date.month.toNat ≤ 11
  · simp only [inYear, if_true, true_and]
    split <;> rfl
  · simp only [inYear, if_false, false_and]
    rfl

/-! ## The characters of a field -/

theorem mem_numberText {layout : Pattern.Layout} {bare : Bool} {number : Nat} {char : Char}
    (member : char ∈ numberText layout bare number) : char.isDigit = true := by
  unfold numberText at member
  split at member
  · exact Decimal.isDigit_of_mem_digits member
  · exact Decimal.isDigit_of_mem_padded member

theorem numberText_ne_nil (layout : Pattern.Layout) (bare : Bool) (number : Nat) :
    numberText layout bare number ≠ [] := by
  unfold numberText
  split
  · exact Decimal.digits_ne_nil _
  · exact Decimal.padded_ne_nil _ _

/-- A year is written as some number, which is negative only where the pattern
shows a minus sign. -/
theorem exists_yearText_eq (codec : PatternCodec) (date : CalendarDate) :
    ∃ width number, codec.yearText date = Decimal.signedPadded width number ∧
      (number < 0 → ¬ (codec.pattern.year = .full → 0 ≤ date.year.toInt)) := by
  cases century : codec.pattern.century with
  | some window =>
      have nonneg : ¬ date.year.toInt % 100 < 0 := by omega
      refine ⟨2, date.year.toInt % 100, ?_, fun negative => absurd negative nonneg⟩
      rw [yearText_of_short century, CenturyWindow.shorten, Decimal.signedPadded,
        if_neg nonneg]
      congr 1
      omega
  | none =>
      rcases exists_yearText_of_full date century with ⟨width, text⟩
      refine ⟨width, date.year.toInt, text, fun negative told => ?_⟩
      have nonneg := told (Pattern.year_eq_full_iff.2 century)
      omega

/-- Numbers are made of digits, but for the minus sign of a year shown in full. -/
theorem mem_fieldText {field : DateField} {char : Char}
    (numeric : field = .month → codec.pattern.month ≠ .name)
    (member : char ∈ codec.fieldText date field) :
    char.isDigit = true ∨
      (char = '-' ∧ ¬ (codec.pattern.year = .full → 0 ≤ date.year.toInt)) := by
  cases field with
  | day => exact .inl (mem_numberText member)
  | month =>
      rw [fieldText, monthText_eq_numberText (numeric rfl)] at member
      exact .inl (mem_numberText member)
  | year =>
      rcases exists_yearText_eq codec date with ⟨width, number, text, notTold⟩
      rw [fieldText, text] at member
      rcases Decimal.mem_signedPadded member with digit | ⟨sign, negative⟩
      · exact .inl digit
      · exact .inr ⟨sign, notTold negative⟩

/-- Where no minus sign is shown, there are only digits. -/
theorem isDigit_of_mem_fieldText {field : DateField} {char : Char}
    (numeric : field = .month → codec.pattern.month ≠ .name)
    (told : codec.pattern.year = .full → 0 ≤ date.year.toInt)
    (member : char ∈ codec.fieldText date field) : char.isDigit = true := by
  rcases mem_fieldText numeric member with digit | ⟨-, notTold⟩
  · exact digit
  · exact absurd told notTold

/-- Hence what is no digit is not shown, such as a separator. -/
theorem notMem_fieldText {field : DateField} {char : Char} (noDigit : char.isDigit = false)
    (numeric : field = .month → codec.pattern.month ≠ .name)
    (told : codec.pattern.year = .full → 0 ≤ date.year.toInt) :
    char ∉ codec.fieldText date field := by
  intro member
  rw [isDigit_of_mem_fieldText numeric told member] at noDigit
  cases noDigit

theorem fieldText_ne_nil {field : DateField}
    (numeric : field = .month → codec.pattern.month ≠ .name) :
    codec.fieldText date field ≠ [] := by
  cases field with
  | day => exact numberText_ne_nil _ _ _
  | month =>
      rw [fieldText, monthText_eq_numberText (numeric rfl)]
      exact numberText_ne_nil _ _ _
  | year =>
      rcases exists_yearText_eq codec date with ⟨width, number, text, -⟩
      rw [fieldText, text]
      exact Decimal.signedPadded_ne_nil _ _

theorem isBlank_of_mem_fieldText {field : DateField} {char : Char}
    (numeric : field = .month → codec.pattern.month ≠ .name)
    (member : char ∈ codec.fieldText date field) : Text.isBlank char = false := by
  rcases mem_fieldText numeric member with digit | ⟨rfl, -⟩
  · exact Text.isBlank_of_isDigit digit
  · rfl

/-- A field that shows a number stands without blanks. -/
theorem trim_fieldText {field : DateField}
    (numeric : field = .month → codec.pattern.month ≠ .name) :
    Text.trim (codec.fieldText date field) = codec.fieldText date field := by
  apply Text.trim_of_forall_isBlank_eq_false
  intro char member
  exact isBlank_of_mem_fieldText numeric member

/-! ## Months shown by number -/

section Numbers

variable {pattern : Pattern} (numbers : pattern.usesMonthNames = false)
  (left right : List Text)

include numbers

/-- A pattern that shows no month names writes dates without them. -/
theorem format_congr (date : CalendarDate) :
    format ⟨pattern, left⟩ date = format ⟨pattern, right⟩ date := by
  have numeric : pattern.month ≠ .name := by
    simpa [Pattern.usesMonthNames] using numbers
  have texts : fieldText ⟨pattern, left⟩ date = fieldText ⟨pattern, right⟩ date := by
    funext field
    cases field with
    | month =>
        simp only [fieldText]
        rw [monthText_eq_numberText numeric, monthText_eq_numberText numeric]
    | _ => rfl
  simp only [format, fieldTexts, texts]

/-- It reads dates without them as well. -/
theorem parse_congr (context : Context) (text : Text) :
    parse ⟨pattern, left⟩ context text = parse ⟨pattern, right⟩ context text := by
  have numeric : pattern.month ≠ .name := by
    simpa [Pattern.usesMonthNames] using numbers
  have fields : setField? ⟨pattern, left⟩ context = setField? ⟨pattern, right⟩ context := by
    funext date ⟨field, text⟩
    cases field with
    | month => simp only [setField?, readMonth?]
    | _ => rfl
  have assembled : assemble? ⟨pattern, left⟩ context = assemble? ⟨pattern, right⟩ context := by
    funext segments
    simp only [assemble?, fields]
  simp only [parse, read?, assembled]

end Numbers

end PatternCodec

end DateDisplay
