import DateDisplay.Proofs.Locale.NumericLayout
import DateDisplay.Proofs.Pattern.Separated

/-!
# Detectors that agree with patterns

A layout that joins padded fields by one character can be written as a display pattern.
Both show a date by the same text, and what the detector of the layout reads as a date,
the pattern reads as that date whatever the context.  The two work differently: one
matches a template with the whole text, the other splits it and trims the pieces.
-/

namespace DateDisplay

/-! ## Joined layouts -/

namespace DateLayout

/-- How the layout notation writes a padded field. -/
def fieldFormat (year : YearStyle) : DateField → Text
  | .day => ['%', 'd']
  | .month => ['%', 'm']
  | .year =>
      match year with
      | .full => ['%', 'Y']
      | .short => ['%', 'y']

/-- How the layout notation writes a character that stands for itself. -/
def literalFormat (char : Char) : Text :=
  if char = '%' then ['%', '%'] else [char]

/-- The fields, joined by a separator. -/
def joinedFormat (separator : Char) (order : FieldOrder) (year : YearStyle) : Text :=
  (literalFormat separator).intercalate (order.toList.map (fieldFormat year))

theorem ofFormat_literalFormat_append (char : Char) (rest : Text) :
    ofFormat (literalFormat char ++ rest) = .literal char :: ofFormat rest := by
  unfold literalFormat
  split
  · rename_i percent
    rw [percent]
    rfl
  · rename_i different
    simp [ofFormat, different]

end DateLayout

/-- A separator between every two fields, and nothing around them. -/
def Frame.joining (separator : Char) (order : FieldOrder) : Frame where
  before field := if order.toList.head? = some field then [] else [separator]
  behind := []

/-- The layout of padded fields with a separator between every two of them. -/
def NumericLayout.joined (separator : Char) (order : FieldOrder) (year : YearStyle) :
    NumericLayout where
  order := order
  bareDay := false
  bareMonth := false
  year := year
  frame := .joining separator order

/-- The pattern of padded fields behind a separator. -/
def Pattern.joined (window : CenturyWindow) (separator : Char) (order : FieldOrder)
    (year : YearStyle) : Pattern where
  raw := separator :: Fields.text ⟨order, .zeroPadded, .zeroPadded, year⟩
  layout := .separated separator
  order := order
  day := .zeroPadded
  month := .zeroPadded
  century :=
    match year with
    | .full => none
    | .short => some window

namespace Frame

theorem noDigits_joining {separator : Char} (noDigit : separator.isDigit = false)
    (order : FieldOrder) : (joining separator order).NoDigits where
  before field char member := by
    simp only [joining] at member
    split at member
    · cases member
    · rw [List.mem_singleton.1 member]
      exact noDigit
  behind := nofun

theorem ascii_joining {separator : Char} (ascii : Text.isAscii separator = true)
    (order : FieldOrder) : (joining separator order).ascii = joining separator order := by
  simp only [Frame.ascii, joining, mk.injEq]
  constructor
  · funext field
    split
    · rfl
    · simp [Text.asciiOnly, ascii]
  · rfl

/-- A joined text is its fields with the separator between them. -/
theorem text_joining (separator : Char) (order : FieldOrder) (shown : DateField → Text) :
    (joining separator order).text shown order.toList =
      [separator].intercalate (order.toList.map shown) := by
  cases order <;> simp [FieldOrder.toList, text, joining]

end Frame

section Joined

variable {separator : Char} (noDigit : separator.isDigit = false) (order : FieldOrder)
  (year : YearStyle) (window : CenturyWindow)

/-- The notation of a joined layout is read as that layout. -/
theorem DateLayout.ofFormat_joinedFormat (separator : Char) :
    ofFormat (joinedFormat separator order year) =
      (NumericLayout.joined separator order year).items := by
  have followed (field : DateField) (rest : Text) :
      ofFormat (fieldFormat year field ++ rest) =
        (NumericLayout.joined separator order year).item field :: ofFormat rest := by
    cases field <;> cases year <;> rfl
  have last (field : DateField) : ofFormat (fieldFormat year field) =
      [(NumericLayout.joined separator order year).item field] := by
    rw [← List.append_nil (fieldFormat year field), followed]
    rfl
  cases order <;>
    simp [joinedFormat, FieldOrder.toList, followed, last, ofFormat_literalFormat_append,
      NumericLayout.items, NumericLayout.joined, Frame.joining]

theorem Pattern.fields_joined (separator : Char) :
    (joined window separator order year).fields = ⟨order, .zeroPadded, .zeroPadded, year⟩ := by
  cases year <;> rfl

include noDigit in
theorem Pattern.compileWith_joined :
    compileWith window (separator :: Fields.text ⟨order, .zeroPadded, .zeroPadded, year⟩) =
      .ok (joined window separator order year) := by
  have length : (Fields.text ⟨order, .zeroPadded, .zeroPadded, year⟩).length = 6 := by
    cases order <;> cases year <;> rfl
  rw [compileWith_eq_ok_iff]
  refine ⟨[], rfl, ?_, ?_, nofun, ?_⟩
  · rw [fields_joined]
    constructor <;> simp [joined, Layout.separator?, length]
  · rintro _ ⟨⟩
    exact noDigit
  · cases year
    · exact .given
    · exact .full

/-- Layout and pattern show the same fields in the years of four digits. -/
theorem NumericLayout.shown_joined (separator : Char) (names : CalendarNames)
    (monthNames : List Text) {day : RealDate}
    (inYears : 1000 ≤ day.date.year.toInt ∧ day.date.year.toInt ≤ 9999) :
    (joined separator order year).shown names day =
      PatternCodec.fieldText ⟨.joined window separator order year, monthNames⟩ day.date := by
  funext field
  cases field with
  | day => rfl
  | month =>
      have inYear := day.isReal.month_lt
      have number : day.date.monthNumber.toNat = day.date.month.toNat + 1 := by
        rw [CalendarDate.toNat_monthNumber]
        omega
      show Decimal.padded 2 (day.date.month.toNat + 1) =
        Decimal.padded 2 day.date.monthNumber.toNat
      rw [number]
  | year =>
      rw [shown_year (by omega)]
      cases year with
      | short => rfl
      | full =>
          have same : day.date.year.toInt.toNat = day.date.year.toInt.natAbs := by omega
          have large : 10 ^ 3 ≤ day.date.year.toInt.natAbs := by omega
          show Decimal.padded 4 day.date.year.toInt.toNat = Decimal.signed day.date.year.toInt
          rw [same, Decimal.padded_of_pow_le (by decide) large, Decimal.signed, if_neg (by omega)]

/-- Both read three texts as the same date. -/
theorem DetectedLayout.readTexts?_joined (separator : Char) (monthNames : List Text)
    (context : Context) (texts : DateField → Text) :
    ((Frame.joining separator order).detected year order window).readTexts? texts =
      PatternCodec.readTexts? ⟨.joined window separator order year, monthNames⟩ context
        texts := by
  simp only [DetectedLayout.readTexts?, PatternCodec.readTexts?, PatternCodec.readYear?]
  cases Decimal.readYear? (texts .year) <;> cases year <;> rfl

end Joined

/-! ## Agreement -/

/-- A trimmed text that a detected layout of joined fields reads, the pattern reads. -/
theorem PatternCodec.read?_of_detected {window : CenturyWindow} {separator : Char}
    (noDigit : separator.isDigit = false) {order : FieldOrder} {year : YearStyle} {text : Text}
    {date : CalendarDate}
    (read : ((Frame.joining separator order).detected year order window).read? text = some date)
    (monthNames : List Text) (context : Context) :
    read? ⟨.joined window separator order year, monthNames⟩ context text = some date := by
  rcases Option.bind_eq_some_iff.1 read with ⟨captures, captured, fields⟩
  rcases Frame.exists_shown_of_captures? captured with ⟨shown, rfl, rfl, shows⟩
  have free : ∀ field, separator ∉ shown field := by
    intro field member
    rw [(shows field).digits separator member] at noDigit
    cases noDigit
  have trimmed : ∀ field, Text.trim (shown field) = shown field := fun field =>
    Text.trim_of_forall_isBlank_eq_false fun char member =>
      Text.isBlank_of_isDigit ((shows field).digits char member)
  calc
    read? ⟨.joined window separator order year, monthNames⟩ context
        ((Frame.joining separator order).text shown order.toList)
      = readTexts? ⟨.joined window separator order year, monthNames⟩ context shown := by
        rw [Frame.text_joining]
        exact read?_intercalate rfl free trimmed
    _ = ((Frame.joining separator order).detected year order window).readTexts? shown :=
        (DetectedLayout.readTexts?_joined ..).symm
    _ = some date := (DetectedLayout.foldlM_setField? _ order shown _).symm.trans fields

/-- The detector of a joined layout and the codec of its pattern.  They show every day of
the years from 1000 to 9999 alike, and an ASCII text that the detector reads as a date is
the same date to the codec. -/
theorem Detector.agrees_with_pattern {separator : Char} (ascii : Text.isAscii separator = true)
    (noDigit : separator.isDigit = false) (order : FieldOrder) (year : YearStyle)
    (window : CenturyWindow) (tag : Text) (names : CalendarNames) (monthNames : List Text) :
    let layout := DateLayout.ofFormat (DateLayout.joinedFormat separator order year)
    let detector := ofRenderer window (.ofLayout tag names layout)
    ∃ pattern, Pattern.compileWith window
        (separator :: Pattern.Fields.text ⟨order, .zeroPadded, .zeroPadded, year⟩) = .ok pattern ∧
      (∀ day : RealDate, 1000 ≤ day.date.year.toInt ∧ day.date.year.toInt ≤ 9999 →
        detector.format day.date = PatternCodec.format ⟨pattern, monthNames⟩ day.date) ∧
      ∀ text, (∀ char ∈ text, Text.isAscii char = true) → ∀ date,
        detector.parse text = .parsed date →
          ∀ context, PatternCodec.parse ⟨pattern, monthNames⟩ context text = .parsed date := by
  intro layout detector
  have items : layout = (NumericLayout.joined separator order year).items :=
    DateLayout.ofFormat_joinedFormat order year separator
  have detects : detector.layout =
      some ((Frame.joining separator order).detected year order window) := by
    have found := (NumericLayout.joined separator order year).layout_ofRenderer
      (Frame.noDigits_joining noDigit order) window tag names
    rw [← items] at found
    exact found.trans (by rw [NumericLayout.joined, Frame.ascii_joining ascii])
  refine ⟨.joined window separator order year,
    Pattern.compileWith_joined noDigit order year window, ?_, ?_⟩
  · intro day inYears
    have rendered := (NumericLayout.joined separator order year).asciiOnly_render names day
      (by omega)
    rw [← items, NumericLayout.shown_joined order year window separator names monthNames inYears,
      NumericLayout.joined, Frame.ascii_joining ascii, Frame.text_joining] at rendered
    rw [format, RealDate.real?_date]
    exact rendered
  · intro text isAscii date parsed context
    rcases parse_eq_parsed_iff.1 parsed with ⟨nonempty, read⟩
    rw [Text.asciiOnly, List.filter_eq_self.2 isAscii] at nonempty read
    rw [detects, Option.bind_some] at read
    exact PatternCodec.parse_eq_parsed_iff.2
      ⟨nonempty, PatternCodec.read?_of_detected noDigit read monthNames context⟩

/-- A separator that the notation of layouts doubles, and numbers without their zeros. -/
theorem Detector.agrees_with_pattern_percent :
    let detector := ofRenderer {}
      (.ofLayout "en_US".toList .english (DateLayout.ofFormat "%d%%%m%%%y".toList))
    let pattern := Pattern.joined {} '%' .dayMonthYear .short
    let context : Context := ⟨⟨⟨2013, 1, 12⟩, by decide⟩, none⟩
    (Text.isAscii '%' = true ∧ ('%').isDigit = false) ∧
      Pattern.compileWith {} "%0d0M0y".toList = .ok pattern ∧
      detector.format ⟨2024, 2, 7⟩ = PatternCodec.format ⟨pattern, []⟩ ⟨2024, 2, 7⟩ ∧
      detector.parse " 7%3%24".toList = .parsed ⟨2024, 2, 7⟩ ∧
      PatternCodec.parse ⟨pattern, []⟩ context " 7%3%24".toList = .parsed ⟨2024, 2, 7⟩ := by
  intro detector pattern context
  have compiled : Pattern.compileWith {} "%0d0M0y".toList = .ok pattern := rfl
  have parsed : detector.parse " 7%3%24".toList = .parsed ⟨2024, 2, 7⟩ := by decide
  rcases @agrees_with_pattern '%' rfl rfl .dayMonthYear .short {} "en_US".toList
    .english [] with ⟨other, accepted, shows, reads⟩
  have same : pattern = other := Except.ok.inj (compiled.symm.trans accepted)
  rw [← same] at shows reads
  exact ⟨⟨rfl, rfl⟩, compiled, shows ⟨⟨2024, 2, 7⟩, by decide⟩ (by decide), parsed,
    reads _ (List.all_eq_true.1 rfl) _ parsed context⟩

end DateDisplay
