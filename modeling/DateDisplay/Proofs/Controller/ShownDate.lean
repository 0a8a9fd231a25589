import DateDisplay.Proofs.Controller.Announcements
import DateDisplay.Proofs.Locale.Agreement
import DateDisplay.Proofs.Locale.TypedDates

/-!
# The shown date under a new locale

When a locale is announced, the controller reads the text of its field in the old layout and
writes the date in the new one.  Between layouts that show the whole year nothing is lost of
a date that names a day.  A text such as that of the thirtieth of February reads as a date as
well, but names no day; no layout has a text for it, so nothing is shown in its place.
-/

namespace DateDisplay

open Controller

/-! ## Layouts with full years -/

/-- Padded numbers can be told apart with nothing between them. -/
theorem NumericLayout.readable_of_padded {layout : NumericLayout}
    (noDigits : layout.frame.NoDigits) (inked : layout.frame.ascii.Inked layout.order.toList)
    (day : layout.bareDay = false) (month : layout.bareMonth = false) : layout.Readable where
  noDigits := noDigits
  inked := inked
  separated := by
    intro left right _ bare
    cases left with
    | day => exact absurd bare (by simp [isBare, day])
    | month => exact absurd bare (by simp [isBare, month])
    | year => cases bare

/-- A separator that is no digit may stand between padded numbers. -/
theorem NumericLayout.readable_joined {separator : Char} (noDigit : separator.isDigit = false)
    (order : FieldOrder) (year : YearStyle) : (joined separator order year).Readable := by
  apply readable_of_padded (Frame.noDigits_joining noDigit order)
  · constructor
    · intro field isFirst
      have first : order.toList.head? = some field := isFirst
      simp [joined, Frame.ascii, Frame.joining, first, Text.asciiOnly]
    · rfl
  · rfl
  · rfl

/-- The renderer shows every day in this layout, with its year in full. -/
structure Renderer.ShowsFullYears (renderer : Renderer) (layout : NumericLayout) : Prop where
  full : layout.year = .full
  readable : layout.Readable
  render : ∃ names, renderer.render = layout.items.render names

theorem Renderer.showsFullYears_joined {separator : Char} (noDigit : separator.isDigit = false)
    (order : FieldOrder) (tag : Text) (names : CalendarNames) :
    (ofLayout tag names (NumericLayout.joined separator order .full).items).ShowsFullYears
      (.joined separator order .full) where
  full := rfl
  readable := NumericLayout.readable_joined noDigit order .full
  render := ⟨names, rfl⟩

namespace Detector

variable {renderer : Renderer} {layout : NumericLayout}

theorem layout_of_showsFullYears (shows : renderer.ShowsFullYears layout)
    (window : CenturyWindow) :
    (ofRenderer window renderer).layout =
      some (layout.frame.ascii.detected .full layout.order window) := by
  obtain ⟨names, render⟩ := shows.render
  have detects := layout.layout_ofRenderer shows.readable.noDigits window [] names
  rw [shows.full] at detects
  rw [← detects, ofRenderer, render]
  rfl

/-- What such a detector writes of a day of the years from 0 to 9999 it reads as that day. -/
theorem parse_format_of_showsFullYears (shows : renderer.ShowsFullYears layout)
    (window : CenturyWindow) (day : RealDate)
    (inYears : 0 ≤ day.date.year.toInt ∧ day.date.year.toInt ≤ 9999) :
    (ofRenderer window renderer).parse ((ofRenderer window renderer).format day.date) =
      .parsed day.date := by
  obtain ⟨names, render⟩ := shows.render
  have text : Text.asciiOnly ((ofRenderer window renderer).format day.date) =
      layout.frame.ascii.text (layout.shown names day) layout.order.toList := by
    rw [format, RealDate.real?_date, Text.asciiOnly_idem, ofRenderer, render]
    exact layout.asciiOnly_render names day inYears
  have runs := layout.isRun_shown names inYears
  have delimits := shows.readable.delimits names inYears
  have tells := layout.tells_shown names inYears
  rw [shows.full] at runs delimits
  rw [NumericLayout.told, shows.full] at tells
  exact parse_text (layout_of_showsFullYears shows window) text shows.readable.noDigits.ascii
    shows.readable.inked runs delimits.parted tells

/-- It reads no year but from 0 to 9999. -/
theorem year_of_parse_of_showsFullYears (shows : renderer.ShowsFullYears layout)
    {window : CenturyWindow} {text : Text} {date : CalendarDate}
    (reads : (ofRenderer window renderer).parse text = .parsed date) :
    0 ≤ date.year.toInt ∧ date.year.toInt ≤ 9999 := by
  obtain ⟨-, read⟩ := parse_eq_parsed_iff.1 reads
  rw [layout_of_showsFullYears shows, Option.bind_some] at read
  obtain ⟨captures, captured, fields⟩ := Option.bind_eq_some_iff.1 read
  obtain ⟨shown, rfl, -, runs⟩ := Frame.exists_shown_of_captures? captured
  have texts := (DetectedLayout.foldlM_setField? _ layout.order shown _).symm.trans fields
  have tells : Tells shown date := DetectedLayout.tells_of_readTexts? rfl texts
  have nonneg := Decimal.nonneg_of_readYear? tells.year
  have small : date.year.toInt.toNat < 10 ^ 4 :=
    Decimal.lt_of_read? (Decimal.read?_of_readYear? tells.year) (runs .year).bounded
  omega

end Detector

/-- A date that names no day has no text in a locale's layout. -/
theorem Detector.format_of_not_isReal (detector : Detector) {date : CalendarDate}
    (notReal : ¬ date.IsReal) : detector.format date = [] := by
  simp only [format, CalendarDate.real?, dif_neg notReal]

/-- There is nothing to read in no text. -/
theorem Detector.parse_nil (detector : Detector) : detector.parse [] = .empty := rfl

namespace Controller

variable {setup : Setup} {controller : Controller}

/-! ## Announcing a locale -/

/-- In the locale's own layout a date that is shown is shown again in the new one. -/
theorem changeLocale_of_read (mode : controller.mode = .locale) {locale : Text}
    (differs : locale ≠ controller.locale) {date : CalendarDate}
    (reads : controller.detector.parse controller.field.text = .parsed date) :
    let detector := Detector.forLocale setup.provider setup.options locale
    controller.changeLocale setup locale =
      { controller with
        field := controller.field.display (detector.format date)
        locale
        detector
        stale := false } := by
  simp only [changeLocale, if_neg differs, mode, reads, rebuildDetector]

/-- In the locale's own layout the detector is that of the locale announced last. -/
theorem Follows.detector_eq {announced : Announcements}
    (follows : controller.Follows setup announced) (mode : controller.mode = .locale) :
    controller.detector = .forLocale setup.provider setup.options controller.locale := by
  have governs := follows.governs
  rw [mode] at governs
  rw [follows.locale]
  exact follows.detector (follows.fresh governs.display_of_locale)

/-- A new locale keeps the date that the field shows, if the layouts of both locales show
the whole year and the date names a day.  A date that names no day is not shown any more:
the field is left without a text. -/
theorem changeLocale_keeps_real_date {setup : Setup} {locale : Text} {field : HostField}
    {operations : List Operation} {state : Controller}
    (reached : (start setup locale field).final setup operations = state)
    (mode : state.mode = .locale) {tag : Text} {current latest : NumericLayout}
    (showsCurrent : (Detector.chooseRenderer setup.provider setup.options
      state.locale).ShowsFullYears current)
    (showsLatest : (Detector.chooseRenderer setup.provider setup.options
      tag).ShowsFullYears latest)
    {date : CalendarDate} (reads : state.detector.parse state.field.text = .parsed date) :
    let next := (state.perform setup (.changeLocale tag)).next
    next.detector = .forLocale setup.provider setup.options tag ∧
    next.field.value = state.field.value ∧
    (date.IsReal ∨ tag = state.locale →
      next.detector.parse next.field.text = .parsed date) ∧
    (¬ date.IsReal → tag ≠ state.locale →
      next.field.text = [] ∧ next.detector.parse next.field.text = .empty) := by
  intro next
  have follows := (follows_start setup locale field).run operations
  rw [reached] at follows
  have detector := follows.detector_eq mode
  by_cases same : tag = state.locale
  · have unchanged : next = state := by
      simp only [next, perform, changeLocale, same, if_true]
    rw [unchanged, same]
    exact ⟨detector, rfl, fun _ => reads, fun _ differs => absurd rfl differs⟩
  · have changed : next = _ := changeLocale_of_read mode same reads
    rw [detector] at reads
    have inYears := Detector.year_of_parse_of_showsFullYears showsCurrent reads
    rw [changed]
    refine ⟨rfl, rfl, ?_, ?_⟩
    · intro kept
      have real : date.IsReal := kept.resolve_right same
      exact Detector.parse_format_of_showsFullYears showsLatest setup.options.century
        ⟨date, real⟩ inYears
    · intro notReal _
      rw [HostField.text_display, Detector.format_of_not_isReal _ notReal]
      exact ⟨rfl, Detector.parse_nil _⟩

/-- From the American layout to the German one, after a pattern was set and cleared. -/
theorem changeLocale_keeps_fifth_of_march :
    let setup : Setup := {
      provider := fun tag => .ok (.ofLayout tag .english
        (if tag = "de_DE".toList then NumericLayout.joined '.' .dayMonthYear .full
          else .joined '/' .monthDayYear .full).items)
      today := ⟨⟨2013, 1, 12⟩, by decide⟩ }
    let state := (start setup "en_US".toList {}).final setup
      [.setPattern (some "_y0M0d".toList), .setPattern none, .typeText "3/5/2024".toList]
    let next := (state.perform setup (.changeLocale "de_DE".toList)).next
    state.mode = .locale ∧
      state.detector.parse state.field.text = .parsed ⟨2024, 2, 5⟩ ∧
      next.field.text = "05.03.2024".toList ∧
      next.detector.parse next.field.text = .parsed ⟨2024, 2, 5⟩ := by
  intro setup state
  have reads : state.detector.parse state.field.text = .parsed ⟨2024, 2, 5⟩ := by decide
  have real : CalendarDate.IsReal ⟨2024, 2, 5⟩ := by decide
  obtain ⟨-, -, keeps, -⟩ := @changeLocale_keeps_real_date setup _ _ _ state rfl rfl
    "de_DE".toList _ _
    (Renderer.showsFullYears_joined rfl .monthDayYear "en_US".toList .english)
    (Renderer.showsFullYears_joined rfl .dayMonthYear "de_DE".toList .english) _ reads
  exact ⟨rfl, reads, by decide, keeps (.inl real)⟩

/-- Between the same layouts the text of the thirtieth of February is lost. -/
theorem changeLocale_loses_thirtieth_of_february :
    let american := NumericLayout.joined '/' .monthDayYear .full
    let german := NumericLayout.joined '.' .dayMonthYear .full
    let setup : Setup := {
      provider := fun tag => .ok (.ofLayout tag .english
        (if tag = "de_DE".toList then german else american).items)
      today := ⟨⟨2013, 1, 12⟩, by decide⟩ }
    let state := (start setup "en_US".toList {}).final setup [.typeText "02/30/2024".toList]
    let next := (state.perform setup (.changeLocale "de_DE".toList)).next
    state.mode = .locale ∧
      (Detector.chooseRenderer setup.provider setup.options state.locale).ShowsFullYears
        american ∧
      (Detector.chooseRenderer setup.provider setup.options "de_DE".toList).ShowsFullYears
        german ∧
      state.detector.parse state.field.text = .parsed ⟨2024, 1, 30⟩ ∧
      next.field.text = [] ∧
      next.detector.parse next.field.text ≠ .parsed ⟨2024, 1, 30⟩ := by
  intro american german setup state next
  have empty : next.field.text = [] := by decide
  refine ⟨rfl, Renderer.showsFullYears_joined rfl _ _ _, Renderer.showsFullYears_joined rfl _ _ _,
    by decide, empty, ?_⟩
  rw [empty, Detector.parse_nil]
  exact nofun

end Controller

end DateDisplay
