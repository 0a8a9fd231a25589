import DateDisplay.Locale.Table
import DateDisplay.Proofs.Locale.DetectedFrame
import DateDisplay.Proofs.Locale.Reading
import Mathlib.Data.List.Infix

/-!
# The rendering that a layout was detected from

A detected layout fits the rendering of the sample day that it was detected from: every field
shows as many digits as it may, so that it is read in full whatever digits stand around it.  But
a text is trimmed before it is read, and the rendering is not.  With a blank at one of its ends
the layout fits no trimmed text at all, not even its own rendering.
-/

namespace DateDisplay

/-! ## The sample day -/

/-- The numbers that the sample day shows. -/
def sampleNumbers : YearStyle → CalendarDate
  | .full => ⟨1987, 10, 22⟩
  | .short => ⟨87, 10, 22⟩

theorem tells_sampleText (style : YearStyle) :
    Tells (sampleText style) (sampleNumbers style) := by
  cases style <;> exact ⟨rfl, rfl, rfl⟩

/-- Every field of the sample day shows all the digits it may. -/
theorem length_sampleText (style : YearStyle) (field : DateField) :
    (sampleText style field).length = style.mostDigits field := by
  cases style <;> cases field <;> rfl

theorem isRun_sampleText (style : YearStyle) (field : DateField) :
    Template.IsRun (style.mostDigits field) (sampleText style field) where
  nonempty := by cases style <;> cases field <;> decide
  digits := List.all_eq_true.1 (by cases style <;> cases field <;> rfl)
  bounded := Nat.le_of_eq (length_sampleText style field)

namespace Frame

variable {frame : Frame} {style : YearStyle} {order : FieldOrder} {window : CenturyWindow}

/-- The layout of a frame reads the sample day in it. -/
theorem read?_sampleText :
    (frame.detected style order window).read? (frame.text (sampleText style) order.toList) =
      some ⟨(frame.detected style order window).resolveYear (sampleNumbers style).year,
        10, 22⟩ := by
  rw [read?_of_captures (captures?_text_of_length (isRun_sampleText style)
    (length_sampleText style) order.toList) (tells_sampleText style)]
  cases style <;> rfl

/-- With a blank at an end of the frame no trimmed text is read. -/
theorem read?_trim_of_not_inked (notInked : ¬ frame.Inked order.toList) (text : Text) :
    (frame.detected style order window).read? (Text.trim text) = none := by
  rw [DetectedLayout.read?, Option.bind_eq_bind, Option.bind_eq_none_iff]
  intro captures captured
  obtain ⟨shown, -, whole, shows⟩ := exists_shown_of_captures? captured
  have nonempty : order.toList ≠ [] := List.ne_nil_of_mem (order.mem_toList .day)
  apply absurd _ notInked
  rw [← trim_text_eq_self_iff nonempty shows, whole, Text.trim_trim]

end Frame

namespace Detector

/-- Whatever a renderer shows for the sample day, a layout detected from it reads that rendering
back, with the year of four digits if there is one and else the year that the window makes of
`87`, unless the rendering begins or ends with a blank: then it is invalid. -/
theorem parse_format_sampleDay (window : CenturyWindow) (renderer : Renderer)
    (detected : (ofRenderer window renderer).layout.isSome) :
    (ofRenderer window renderer).parse ((ofRenderer window renderer).format sampleDay.date) =
      if Text.trim (Text.asciiOnly (renderer.render sampleDay)) =
          Text.asciiOnly (renderer.render sampleDay) then
        .parsed {
          year := if "1987".toList <:+: Text.asciiOnly (renderer.render sampleDay) then 1987
            else window.resolve 87
          month := 10
          day := 22 }
      else .invalid := by
  obtain ⟨layout, found⟩ := Option.isSome_iff_exists.1 detected
  obtain ⟨frame, style, order, rfl, whole, full⟩ :=
    DetectedLayout.exists_frame_of_ofRendering? found
  have format : (ofRenderer window renderer).format sampleDay.date =
      Text.asciiOnly (renderer.render sampleDay) := by
    rw [Detector.format, RealDate.real?_date]
    rfl
  have nonempty : order.toList ≠ [] := List.ne_nil_of_mem (order.mem_toList .day)
  have inkedIff : Text.trim (frame.text (sampleText style) order.toList) =
      frame.text (sampleText style) order.toList ↔ frame.Inked order.toList :=
    Frame.trim_text_eq_self_iff nonempty (isRun_sampleText style)
  rw [format, parse, Text.asciiOnly_idem, found, Option.bind_some, whole]
  by_cases inked : frame.Inked order.toList
  · have trimmed := inkedIff.2 inked
    have year : (frame.detected style order window).resolveYear (sampleNumbers style).year =
        if "1987".toList <:+: frame.text (sampleText style) order.toList then 1987
          else window.resolve 87 := by
      have full : style = .full ↔
          "1987".toList <:+: frame.text (sampleText style) order.toList := whole ▸ full
      cases style with
      | full =>
          rw [if_pos (full.1 rfl)]
          rfl
      | short =>
          rw [if_neg fun shown => YearStyle.noConfusion (full.2 shown)]
          rfl
    rw [if_pos trimmed, trimmed, Frame.read?_sampleText,
      if_neg (Frame.text_ne_nil nonempty (isRun_sampleText style)), year]
  · have notBlank : Text.trim (frame.text (sampleText style) order.toList) ≠ [] := by
      intro blank
      have shown : '2' ∈ frame.text (sampleText style) order.toList := by
        rw [Frame.text_eq_append frame _ (order.mem_toList .day)]
        simp [sampleText]
      exact absurd (Text.trim_eq_nil_iff.1 blank _ shown) (by decide)
    rw [if_neg (mt inkedIff.1 inked), Frame.read?_trim_of_not_inked inked, if_neg notBlank]

/-- Digits that occur twice do no harm, wherever they are found; a blank behind them does. -/
theorem parse_format_sampleDay_repeated :
    let window : CenturyWindow := ⟨20, 88, true⟩
    let twice : Renderer := ⟨"twice".toList, [], fun _ => "1122 (87) 11/22/87".toList⟩
    let blank : Renderer := ⟨"blank".toList, [], fun _ => "22.11.1987 年".toList⟩
    ((ofRenderer window twice).layout.isSome ∧
      (ofRenderer window twice).parse ((ofRenderer window twice).format sampleDay.date) =
        .parsed ⟨1887, 10, 22⟩) ∧
    (ofRenderer window blank).layout.isSome ∧
      (ofRenderer window blank).parse ((ofRenderer window blank).format sampleDay.date) =
        .invalid := by
  intro window twice blank
  refine ⟨⟨by decide, ?_⟩, by decide, ?_⟩
  · rw [parse_format_sampleDay window twice (by decide), if_pos (by decide),
      if_neg (by decide +kernel)]
    rfl
  · rw [parse_format_sampleDay window blank (by decide), if_neg (by decide)]

/-- In Hong Kong the weekday stands behind a date in Chinese characters, which leave a blank
behind.  The layout is detected, and reads no date that it shows. -/
theorem known_locale_misses_own_rendering :
    let detector := Detector.forLocale LocaleTable.provider {} "zh_HK".toList
    detector.layout.isSome ∧
      detector.format sampleDay.date = "19871122 ".toList ∧
      detector.parse (detector.format sampleDay.date) = .invalid := by
  decide +kernel

end Detector

end DateDisplay
