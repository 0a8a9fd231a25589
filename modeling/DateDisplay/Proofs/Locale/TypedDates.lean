import DateDisplay.Proofs.Locale.NumericLayout

/-!
# Dates typed without padding

A layout shows days and months with two digits, but a date may be typed without their
zeros.  Where an ASCII character stands behind a number its end can be seen.  Other
characters are left out, so that numbers with nothing else between them run together; the
detector then gives each number as many digits as it may have, and reads the typed date
only if the numbers meet where it divides the digits.
-/

namespace DateDisplay

/-! ## Numbers told by texts -/

theorem CalendarDate.eq_add_one_of_monthOfNumber? {number month : UInt32}
    (read : monthOfNumber? number = some month) : number = month + 1 := by
  rw [monthOfNumber?] at read
  split at read
  · cases read
    exact (UInt32.sub_add_cancel number 1).symm
  · cases read

/-- Two texts of one frame that tell the same positive numbers have the same fields. -/
theorem Frame.map_eq_of_text_eq {frame : Frame} {shown other : DateField → Text}
    (positive : ∀ field, ∃ number, 0 < number ∧ Decimal.read? (shown field) = some number ∧
      Decimal.read? (other field) = some number) {fields : List DateField}
    (same : frame.text other fields = frame.text shown fields) :
    fields.map other = fields.map shown := by
  induction fields with
  | nil => rfl
  | cons field fields ih =>
      rw [text, text, List.append_cancel_left_eq] at same
      rcases positive field with ⟨number, isPositive, shownRead, otherRead⟩
      have sameField : other field = shown field := by
        rcases List.prefix_or_prefix_of_prefix (List.prefix_append (other field) _)
          ⟨_, same.symm⟩ with isPrefix | isPrefix
        · exact Decimal.eq_of_prefix_of_read? isPrefix isPositive otherRead shownRead
        · exact (Decimal.eq_of_prefix_of_read? isPrefix isPositive shownRead otherRead).symm
      rw [sameField, List.append_cancel_left_eq] at same
      rw [List.map_cons, List.map_cons, sameField, ih same]

/-- Fields that tell the same date show the same numbers. -/
theorem Tells.read?_eq {shown other : DateField → Text} {date : CalendarDate}
    (left : Tells shown date) (right : Tells other date) (field : DateField) :
    Decimal.read? (other field) = Decimal.read? (shown field) := by
  cases field with
  | day => rw [Decimal.read?_of_readCount? left.day, Decimal.read?_of_readCount? right.day]
  | year => rw [Decimal.read?_of_readYear? left.year, Decimal.read?_of_readYear? right.year]
  | month =>
      rcases Option.bind_eq_some_iff.1 left.month with ⟨leftNumber, leftRead, leftMonth⟩
      rcases Option.bind_eq_some_iff.1 right.month with ⟨rightNumber, rightRead, rightMonth⟩
      rw [Decimal.read?_of_readCount? leftRead, Decimal.read?_of_readCount? rightRead,
        CalendarDate.eq_add_one_of_monthOfNumber? leftMonth,
        CalendarDate.eq_add_one_of_monthOfNumber? rightMonth]

/-- A layout with full years reads the date that its texts tell. -/
theorem DetectedLayout.tells_of_readTexts? {layout : DetectedLayout} (full : layout.century = none)
    {texts : DateField → Text} {date : CalendarDate} (read : layout.readTexts? texts = some date) :
    Tells texts date := by
  simp only [readTexts?, resolveYear, full, Option.bind_eq_bind] at read
  rcases Option.bind_eq_some_iff.1 read with ⟨day, dayRead, read⟩
  rcases Option.bind_eq_some_iff.1 read with ⟨month, monthRead, read⟩
  rcases Option.bind_eq_some_iff.1 read with ⟨year, yearRead, read⟩
  cases read
  exact ⟨dayRead, monthRead, yearRead⟩

/-- A detected layout with full years reads a date that is shown in its frame exactly when
the fields can be told apart. -/
theorem Frame.read?_text_iff {frame : Frame} {order : FieldOrder} {shown : DateField → Text}
    {date : CalendarDate} (noDigits : frame.NoDigits)
    (shows : ∀ field, Template.IsRun (YearStyle.full.mostDigits field) (shown field))
    (tells : Tells shown date)
    (positive : ∀ field, ∃ number, 0 < number ∧ Decimal.read? (shown field) = some number)
    (window : CenturyWindow) :
    (frame.detected .full order window).read? (frame.text shown order.toList) = some date ↔
      frame.Parted shown YearStyle.full.mostDigits order.toList := by
  constructor
  · intro read
    rcases Option.bind_eq_some_iff.1 read with ⟨captures, captured, fields⟩
    rcases exists_shown_of_captures? captured with ⟨other, rfl, same, -⟩
    have texts := (DetectedLayout.foldlM_setField? _ order other _).symm.trans fields
    have otherTells : Tells other date := DetectedLayout.tells_of_readTexts? rfl texts
    have sameNumbers : ∀ field, ∃ number, 0 < number ∧
        Decimal.read? (shown field) = some number ∧ Decimal.read? (other field) = some number := by
      intro field
      rcases positive field with ⟨number, isPositive, numberRead⟩
      exact ⟨number, isPositive, numberRead, (tells.read?_eq otherTells field).trans numberRead⟩
    rw [map_eq_of_text_eq sameNumbers same] at captured
    exact (captures?_text_iff noDigits shows order.toList).1 captured
  · intro parted
    exact read?_text noDigits shows parted tells window

namespace NumericLayout

/-- The layout of a frame that shows the year in full, and days and months padded or not. -/
def inFrame (frame : Frame) (order : FieldOrder) (bare : Bool) : NumericLayout where
  order := order
  bareDay := bare
  bareMonth := bare
  year := .full
  frame := frame

variable {frame : Frame} {order : FieldOrder} {day : RealDate}

/-- Days and months count from one, so that every field shows a positive number. -/
theorem exists_read?_shown (bare : Bool) (names : CalendarNames)
    (inYears : 1000 ≤ day.date.year.toInt ∧ day.date.year.toInt ≤ 9999) (field : DateField) :
    ∃ number, 0 < number ∧
      Decimal.read? ((inFrame frame order bare).shown names day field) = some number := by
  cases field with
  | day =>
      rcases day.isReal with ⟨-, -, first, -⟩
      exact ⟨_, first, read?_padding bare _⟩
  | month => exact ⟨_, Nat.succ_pos _, read?_padding bare _⟩
  | year =>
      rw [shown_year (by omega)]
      exact ⟨day.date.year.toInt.toNat, by omega, Decimal.read?_padded 4 _⟩

/-- A date typed into a layout without zeros is read as that date exactly when each of its
numbers that has one digit is followed by an ASCII character, or by nothing but numbers of
one digit until such a character. -/
theorem detector_parse_typed_iff (noDigits : frame.NoDigits)
    (inked : frame.ascii.Inked order.toList) (window : CenturyWindow) (tag : Text)
    (names : CalendarNames)
    (inYears : 1000 ≤ day.date.year.toInt ∧ day.date.year.toInt ≤ 9999) :
    let padded := inFrame frame order false
    let typed := inFrame frame order true
    (Detector.ofRenderer window (.ofLayout tag names padded.items)).parse
        (typed.items.render names day) = .parsed day.date ↔
      frame.ascii.Parted (typed.shown names day) YearStyle.full.mostDigits order.toList := by
  intro padded typed
  have notNegative : 0 ≤ day.date.year.toInt ∧ day.date.year.toInt ≤ 9999 := by omega
  have detects : (Detector.ofRenderer window (.ofLayout tag names padded.items)).layout =
      some (frame.ascii.detected .full order window) :=
    padded.layout_ofRenderer noDigits window tag names
  have text : Text.asciiOnly (typed.items.render names day) =
      frame.ascii.text (typed.shown names day) order.toList :=
    typed.asciiOnly_render names day notNegative
  have shows : ∀ field, Template.IsRun (YearStyle.full.mostDigits field)
      (typed.shown names day field) := typed.isRun_shown names notNegative
  have nonempty : order.toList ≠ [] := List.ne_nil_of_mem (order.mem_toList .day)
  rw [Detector.parse_eq_parsed_iff, detects, text, Option.bind_some,
    Frame.trim_text inked nonempty shows, and_iff_right (Frame.text_ne_nil nonempty shows)]
  exact Frame.read?_text_iff noDigits.ascii shows (typed.tells_shown names notNegative)
    (exists_read?_shown true names inYears) window

/-- Signs alone between the numbers: a month and a day of one digit each are read, but of a
month of one digit and a day of two the month gets both of its digits. -/
theorem detector_parse_typed_signs :
    let frame : Frame := {
      before := fun
        | .day => ['月']
        | .month => ['年']
        | .year => []
      behind := ['日'] }
    let detector := Detector.ofRenderer {}
      (.ofLayout "ja_JP".toList .english (DateLayout.ofFormat "%Y年%m月%d日".toList))
    (frame.NoDigits ∧ frame.ascii.Inked FieldOrder.yearMonthDay.toList) ∧
      detector.parse "2024年3月5日".toList = .parsed ⟨2024, 2, 5⟩ ∧
      detector.parse "2024年1月11日".toList ≠ .parsed ⟨2024, 0, 11⟩ := by
  intro frame detector
  have noDigits : frame.NoDigits := by
    constructor
    · intro field char member
      cases field with
      | day => rw [List.mem_singleton.1 member]; rfl
      | month => rw [List.mem_singleton.1 member]; rfl
      | year => cases member
    · intro char member
      rw [List.mem_singleton.1 member]
      rfl
  have inked : frame.ascii.Inked FieldOrder.yearMonthDay.toList := by
    constructor
    · rintro _ ⟨⟩
      rfl
    · rfl
  have padded : DateLayout.ofFormat "%Y年%m月%d日".toList =
      (inFrame frame .yearMonthDay false).items := rfl
  let march : RealDate := ⟨⟨2024, 2, 5⟩, by decide⟩
  let january : RealDate := ⟨⟨2024, 0, 11⟩, by decide⟩
  have marchText : "2024年3月5日".toList =
      (inFrame frame .yearMonthDay true).items.render .english march := by decide
  have januaryText : "2024年1月11日".toList =
      (inFrame frame .yearMonthDay true).items.render .english january := by decide
  have marchLaw := @detector_parse_typed_iff frame .yearMonthDay march noDigits inked {}
    "ja_JP".toList .english (by decide)
  have januaryLaw := @detector_parse_typed_iff frame .yearMonthDay january noDigits inked {}
    "ja_JP".toList .english (by decide)
  refine ⟨⟨noDigits, inked⟩, ?_, ?_⟩
  · show Detector.parse (.ofRenderer _ (.ofLayout _ _ (DateLayout.ofFormat _))) _ = _
    rw [padded, marchText]
    exact marchLaw.2 ⟨.inl (by decide), .inr (.inr ⟨by decide, trivial⟩), .inr trivial, trivial⟩
  · show Detector.parse (.ofRenderer _ (.ofLayout _ _ (DateLayout.ofFormat _))) _ ≠ _
    rw [padded, januaryText]
    intro read
    rcases januaryLaw.1 read with ⟨-, two | text | one, -⟩
    · exact absurd two (by decide)
    · exact text rfl
    · exact absurd one.1 (by decide)

/-- Without the signs the eleventh of January is the first of November.  And where a blank
stands in front of the sign at the end, no text matches. -/
theorem detector_parse_typed_misread :
    let signs := Detector.ofRenderer {}
      (.ofLayout "ja_JP".toList .english (DateLayout.ofFormat "%Y年%m月%d日".toList))
    let blank := Detector.ofRenderer {}
      (.ofLayout "ja_JP".toList .english (DateLayout.ofFormat "%Y/%m/%dx 日".toList))
    let january : RealDate := ⟨⟨2024, 0, 11⟩, by decide⟩
    ((DateLayout.ofFormat "%Y年%-m月%-d日".toList).render .english january =
        "2024年1月11日".toList ∧
      signs.parse "2024年1月11日".toList = .parsed ⟨2024, 10, 1⟩) ∧
    ((DateLayout.ofFormat "%Y/%-m/%-dx 日".toList).render .english january =
        "2024/1/11x 日".toList ∧
      blank.parse "2024/1/11x 日".toList = .invalid) := by
  decide

end NumericLayout

end DateDisplay
