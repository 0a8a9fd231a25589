import DateDisplay.Proofs.Locale.Reading

/-!
# Numeric layouts

A numeric layout shows day, month and year as numbers, in any order and with any texts
around them.  What a detector writes in such a layout it reads back, as far as the
layout shows the year, if the ends of the bare numbers can be seen.
-/

namespace DateDisplay

/-- A layout that shows the three fields as numbers. -/
structure NumericLayout where
  order : FieldOrder
  /-- Whether a day of one digit is shown without a zero in front. -/
  bareDay : Bool
  /-- Whether a month of one digit is shown without a zero in front. -/
  bareMonth : Bool
  year : YearStyle
  /-- The literal texts around the fields. -/
  frame : Frame

/-- The ASCII characters of a frame. -/
def Frame.ascii (frame : Frame) : Frame where
  before field := Text.asciiOnly (frame.before field)
  behind := Text.asciiOnly frame.behind

theorem Frame.NoDigits.ascii {frame : Frame} (noDigits : frame.NoDigits) :
    frame.ascii.NoDigits where
  before field char member := noDigits.before field char (List.mem_filter.1 member).1
  behind char member := noDigits.behind char (List.mem_filter.1 member).1

namespace NumericLayout

/-- The padding of a number of one digit. -/
def padding (bare : Bool) : Padding :=
  if bare then .none else .zero

/-- The item of a field. -/
def item (layout : NumericLayout) : DateField → LayoutItem
  | .day => .day (padding layout.bareDay)
  | .month => .month (padding layout.bareMonth)
  | .year =>
      match layout.year with
      | .full => .fullYear
      | .short => .shortYear

/-- The items from left to right. -/
def items (layout : NumericLayout) : DateLayout :=
  layout.order.toList.flatMap (fun field =>
    (layout.frame.before field).map LayoutItem.literal ++ [layout.item field]) ++
    layout.frame.behind.map LayoutItem.literal

/-- Whether a field may show fewer digits on one day than on another. -/
def isBare (layout : NumericLayout) : DateField → Bool
  | .day => layout.bareDay
  | .month => layout.bareMonth
  | .year => false

/-- The texts of a layout can be taken apart.  Only ASCII characters count. -/
structure Readable (layout : NumericLayout) : Prop where
  noDigits : layout.frame.NoDigits
  inked : layout.frame.ascii.Inked layout.order.toList
  /-- Some text separates a bare number from the next number. -/
  separated : ∀ left right, [left, right] <:+: layout.order.toList →
    layout.isBare left = true → layout.frame.ascii.before right ≠ []

/-- The date that a text in the layout still tells; a short year goes through the
window. -/
def retained (layout : NumericLayout) (window : CenturyWindow) (date : CalendarDate) :
    CalendarDate :=
  match layout.year with
  | .full => date
  | .short => { date with year := window.resolve (.ofInt (date.year.toInt % 100)) }

variable {layout : NumericLayout} {names : CalendarNames} {day : RealDate}

/-! ## What the fields show -/

/-- The text of a field. -/
def shown (layout : NumericLayout) (names : CalendarNames) (day : RealDate)
    (field : DateField) : Text :=
  (layout.item field).render names day

theorem read?_padding (bare : Bool) (number : Nat) :
    Decimal.read? ((padding bare).text number) = some number := by
  cases bare
  · exact Decimal.read?_padded 2 number
  · exact Decimal.read?_digits number

theorem isRun_padding {number : Nat} (bare : Bool) (small : number < 100) :
    Template.IsRun 2 ((padding bare).text number) := by
  cases bare
  · exact Template.isRun_padded (by decide) small
  · refine ⟨Decimal.digits_ne_nil number, fun _ => Decimal.isDigit_of_mem_digits, ?_⟩
    exact (Nat.length_toDigits_le_iff (by decide) (by decide)).2 small

theorem shown_year (inYears : 0 ≤ day.date.year.toInt ∧ day.date.year.toInt ≤ 9999) :
    layout.shown names day .year =
      match layout.year with
      | .full => Decimal.padded 4 day.date.year.toInt.toNat
      | .short => CenturyWindow.shorten day.date.year := by
  cases year : layout.year with
  | full =>
      have notNegative : ¬ day.date.year.toInt < 0 := by omega
      simp [shown, item, year, LayoutItem.render, LayoutItem.fullYearText, notNegative, inYears.2]
  | short => simp [shown, item, year, LayoutItem.render, CenturyWindow.shorten]

/-- Every field shows digits, and no more than a field of its kind may have. -/
theorem isRun_shown (layout : NumericLayout) (names : CalendarNames)
    (inYears : 0 ≤ day.date.year.toInt ∧ day.date.year.toInt ≤ 9999) (field : DateField) :
    Template.IsRun (layout.year.mostDigits field) (layout.shown names day field) := by
  cases field with
  | day =>
      have small := day.isReal.day_le
      exact isRun_padding layout.bareDay (by omega)
  | month =>
      have small := day.isReal.month_lt
      exact isRun_padding layout.bareMonth (by omega)
  | year =>
      rw [shown_year inYears]
      cases layout.year with
      | full =>
          have small : day.date.year.toInt.toNat < 10 ^ 4 := by omega
          exact Template.isRun_padded (by decide) small
      | short =>
          have small : (day.date.year.toInt % 100).toNat < 10 ^ 2 := by omega
          exact Template.isRun_padded (by decide) small

/-- A field that is not bare always shows as many digits as it may. -/
theorem length_shown (inYears : 0 ≤ day.date.year.toInt ∧ day.date.year.toInt ≤ 9999)
    {field : DateField} (notBare : layout.isBare field = false) :
    (layout.shown names day field).length = layout.year.mostDigits field := by
  cases field with
  | day =>
      have small := day.isReal.day_le
      rw [shown, item, show layout.bareDay = false from notBare]
      exact (Decimal.length_padded_eq_iff (by decide)).2 (by omega)
  | month =>
      have small := day.isReal.month_lt
      rw [shown, item, show layout.bareMonth = false from notBare]
      exact (Decimal.length_padded_eq_iff (by decide)).2 (by omega)
  | year =>
      rw [shown_year inYears]
      cases layout.year with
      | full => exact (Decimal.length_padded_eq_iff (by decide)).2 (by omega)
      | short => exact (Decimal.length_padded_eq_iff (by decide)).2 (by omega)

/-- The year that the digits stand for, before it goes through a window. -/
def told (layout : NumericLayout) (year : Int32) : Int32 :=
  match layout.year with
  | .full => year
  | .short => .ofInt (year.toInt % 100)

/-- What the fields show is read as the numbers of the date. -/
theorem tells_shown (layout : NumericLayout) (names : CalendarNames)
    (inYears : 0 ≤ day.date.year.toInt ∧ day.date.year.toInt ≤ 9999) :
    Tells (layout.shown names day) { day.date with year := layout.told day.date.year } where
  day := Decimal.readCount?_of_read? (read?_padding layout.bareDay _)
  month := by
    have inYear := day.isReal.month_lt
    have number : day.date.monthNumber.toNat = day.date.month.toNat + 1 := by
      rw [CalendarDate.toNat_monthNumber]
      omega
    have read : Decimal.readCount? (layout.shown names day .month) =
        some day.date.monthNumber :=
      Decimal.readCount?_of_read? (number ▸ read?_padding layout.bareMonth _)
    rw [read, Option.bind_some, CalendarDate.monthOfNumber?_monthNumber, if_pos inYear]
  year := by
    rw [shown_year inYears, told]
    cases layout.year with
    | full =>
        have same : day.date.year.toInt.toNat = day.date.year.toInt.natAbs := by omega
        exact Decimal.readYear?_of_read? (same ▸ Decimal.read?_padded 4 _) inYears.1
    | short => exact PatternCodec.readYear?_shorten day.date.year

/-! ## Renderings -/

theorem asciiOnly_eq_self {text : Text} (digits : ∀ char ∈ text, char.isDigit = true) :
    Text.asciiOnly text = text :=
  List.filter_eq_self.2 fun char member => Text.isAscii_of_isDigit (digits char member)

theorem flatMap_render_literal (names : CalendarNames) (day : RealDate) (text : Text) :
    (text.map LayoutItem.literal).flatMap (LayoutItem.render names day) = text := by
  induction text with
  | nil => rfl
  | cons char text ih => rw [List.map_cons, List.flatMap_cons, ih]; rfl

/-- A rendering is the text of the fields in the frame. -/
theorem asciiOnly_render (layout : NumericLayout) (names : CalendarNames) (day : RealDate)
    (inYears : 0 ≤ day.date.year.toInt ∧ day.date.year.toInt ≤ 9999) :
    Text.asciiOnly (layout.items.render names day) =
      layout.frame.ascii.text (layout.shown names day) layout.order.toList := by
  rw [items, DateLayout.render, List.flatMap_append, flatMap_render_literal]
  induction layout.order.toList with
  | nil => rfl
  | cons field fields ih =>
      have kept := asciiOnly_eq_self (layout.isRun_shown names inYears field).digits
      rw [shown] at kept
      rw [Frame.text, ← ih, List.flatMap_cons, List.flatMap_append, List.flatMap_append,
        flatMap_render_literal, List.append_assoc, List.append_assoc, Text.asciiOnly_append,
        Text.asciiOnly_append, List.flatMap_singleton, kept]
      rfl

/-- On the sample day every layout shows the same digits. -/
theorem shown_sampleDay (layout : NumericLayout) (names : CalendarNames) :
    layout.shown names sampleDay = sampleText layout.year := by
  funext field
  rcases layout with ⟨order, bareDay, bareMonth, year, frame⟩
  cases field with
  | day => cases bareDay <;> rfl
  | month => cases bareMonth <;> rfl
  | year => cases year <;> rfl

/-! ## Round trips -/

/-- A layout without digits of its own is detected, whatever else it shows. -/
theorem layout_ofRenderer (noDigits : layout.frame.NoDigits) (window : CenturyWindow)
    (tag : Text) (names : CalendarNames) :
    (Detector.ofRenderer window (.ofLayout tag names layout.items)).layout =
      some (layout.frame.ascii.detected layout.year layout.order window) := by
  have rendering := layout.asciiOnly_render names sampleDay (by decide)
  rw [shown_sampleDay] at rendering
  exact (congrArg _ rendering).trans
    (Frame.ofRendering?_text noDigits.ascii layout.order window)

/-- A field of a readable layout ends where it shows all its digits, or before a text
that is no number. -/
theorem Readable.delimits (readable : layout.Readable) (names : CalendarNames)
    (inYears : 0 ≤ day.date.year.toInt ∧ day.date.year.toInt ≤ 9999) :
    layout.frame.ascii.Delimits (layout.shown names day) layout.year.mostDigits
      layout.order.toList := by
  intro left right isInfix
  cases bare : layout.isBare left with
  | false => exact .inl (length_shown inYears bare)
  | true => exact .inr (readable.separated left right isInfix bare)

theorem resolveYear_told (layout : NumericLayout) (window : CenturyWindow)
    (date : CalendarDate) :
    { date with
      year := (layout.frame.ascii.detected layout.year layout.order window).resolveYear
        (layout.told date.year) } = layout.retained window date := by
  simp only [retained, told, Frame.detected, DetectedLayout.resolveYear]
  cases layout.year <;> rfl

/-- The detector of a readable layout knows its order, and reads back what it writes of
every day in the years from 0 to 9999. -/
theorem detector_parse_format (readable : layout.Readable) (window : CenturyWindow)
    (tag : Text) (names : CalendarNames) :
    let detector := Detector.ofRenderer window (.ofLayout tag names layout.items)
    detector.layout.map DetectedLayout.order = some layout.order ∧
      ∀ day : RealDate, 0 ≤ day.date.year.toInt → day.date.year.toInt ≤ 9999 →
        detector.parse (detector.format day.date) =
          .parsed (layout.retained window day.date) := by
  intro detector
  have detects := layout_ofRenderer readable.noDigits window tag names
  refine ⟨by rw [detects]; rfl, fun day first last => ?_⟩
  have inYears := And.intro first last
  have same : Text.asciiOnly (detector.format day.date) =
      layout.frame.ascii.text (layout.shown names day) layout.order.toList := by
    rw [Detector.format, RealDate.real?_date, Text.asciiOnly_idem]
    exact layout.asciiOnly_render names day inYears
  rw [Detector.parse_text detects same readable.noDigits.ascii readable.inked
    (layout.isRun_shown names inYears) (readable.delimits names inYears).parted
    (layout.tells_shown names inYears)]
  exact congrArg _ (layout.resolveYear_told window day.date)

/-- A bare month, a short year and a day right behind it, between two characters that
are left out. -/
theorem detector_parse_format_monthYearDay :
    let layout : NumericLayout := {
      order := .monthYearDay
      bareDay := false
      bareMonth := true
      year := .short
      frame := {
        before := fun
          | .day => []
          | .month => ['\u200f']
          | .year => ['.']
        behind := ['日'] } }
    let detector := Detector.ofRenderer {} (.ofLayout "en_US".toList .english layout.items)
    layout.Readable ∧
      DateLayout.ofFormat ("\u200f%-m.%y%d日".toList) = layout.items ∧
      detector.format ⟨2024, 2, 5⟩ = "3.2405".toList ∧
      detector.parse (detector.format ⟨2024, 2, 5⟩) = .parsed ⟨2024, 2, 5⟩ := by
  intro layout detector
  have noDigits : layout.frame.NoDigits := by
    constructor
    · intro field char member
      cases field with
      | day => cases member
      | month => rw [List.mem_singleton.1 member]; rfl
      | year => rw [List.mem_singleton.1 member]; rfl
    · intro char member
      rw [List.mem_singleton.1 member]
      rfl
  have inked : layout.frame.ascii.Inked layout.order.toList := by
    constructor
    · rintro _ ⟨⟩
      rfl
    · rfl
  have separated : ∀ left right, [left, right] <:+: layout.order.toList →
      layout.isBare left = true → layout.frame.ascii.before right ≠ [] := by
    intro left right isInfix bare
    cases left with
    | month => cases right <;> revert isInfix <;> decide
    | _ => cases bare
  have readable : layout.Readable := ⟨noDigits, inked, separated⟩
  refine ⟨readable, rfl, rfl, ?_⟩
  exact (detector_parse_format readable {} "en_US".toList .english).2
    ⟨⟨2024, 2, 5⟩, by decide⟩ (by decide) (by decide)

end NumericLayout

end DateDisplay
