import DateDisplay.Proofs.Controller.Steps
import DateDisplay.Proofs.Pattern.FieldTexts

/-!
# The display follows the announcements

The controller makes a detector only where it needs one, and remembers that it is
stale until then.  None of this can be seen: what it writes and reads is told by the
announcements alone, that is, by the display that was set last and by the locales
announced last, then and now.
-/

namespace DateDisplay

open Controller

/-! ## What was announced -/

/-- What a run has announced so far. -/
structure Announcements where
  /-- The locale announced last. -/
  locale : Text
  /-- The display set last. -/
  display : Display := .locale
  /-- The locale that was announced last when the display was set. -/
  displayLocale : Text := locale

/-- The locale announced last, the first one being that of the field. -/
def announcedLocale (locale : Text) (operations : List Operation) : Text :=
  operations.foldl
    (fun announced operation =>
      match operation with
      | .changeLocale locale => locale
      | _ => announced)
    locale

namespace Announcements

/-- The announcements after an operation.  A display pattern that does not compile
announces nothing. -/
def next (setup : Setup) (announced : Announcements) : Operation → Announcements
  | .setPattern text =>
      match Display.ofText setup.options.century text with
      | .ok display => { announced with display, displayLocale := announced.locale }
      | .error _ => announced
  | .changeLocale locale => { announced with locale }
  | _ => announced

/-- The detector of the locale announced last. -/
def detector (setup : Setup) (announced : Announcements) : Detector :=
  .forLocale setup.provider setup.options announced.locale

/-- The month names of the locale under which the display was set. -/
def monthNames (setup : Setup) (announced : Announcements) : List Text :=
  (Detector.forLocale setup.provider setup.options announced.displayLocale).monthNames

theorem locale_foldl (setup : Setup) (announced : Announcements)
    (operations : List Operation) :
    (operations.foldl (next setup) announced).locale =
      announcedLocale announced.locale operations := by
  induction operations generalizing announced with
  | nil => rfl
  | cons operation operations ih =>
      rw [List.foldl_cons, ih, announcedLocale, announcedLocale, List.foldl_cons]
      cases operation with
      | setPattern text =>
          cases chosen : Display.ofText setup.options.century text <;>
            simp only [next, chosen]
      | _ => rfl

/-- Announcements that are not of a display leave the display alone. -/
theorem display_foldl {setup : Setup} {operations : List Operation}
    (announced : Announcements)
    (rejected : ∀ text, .setPattern text ∈ operations →
      ∃ error, Display.ofText setup.options.century text = .error error) :
    (operations.foldl (next setup) announced).display = announced.display ∧
      (operations.foldl (next setup) announced).displayLocale = announced.displayLocale := by
  induction operations generalizing announced with
  | nil => exact ⟨rfl, rfl⟩
  | cons operation operations ih =>
      have kept : (announced.next setup operation).display = announced.display ∧
          (announced.next setup operation).displayLocale = announced.displayLocale := by
        cases operation with
        | setPattern text =>
            rcases rejected text List.mem_cons_self with ⟨error, rejected⟩
            simp only [next, rejected, and_self]
        | _ => exact ⟨rfl, rfl⟩
      rw [List.foldl_cons, ← kept.1, ← kept.2]
      exact ih _ fun text member => rejected text (List.mem_cons_of_mem _ member)

/-- The mode is that of the display.  Only a pattern that shows month names has to
have the right ones. -/
def Governs (setup : Setup) (announced : Announcements) (mode : Mode) : Prop :=
  match announced.display with
  | .locale => mode = .locale
  | .remote => ∃ delegation, mode = .delegated delegation
  | .pattern pattern => ∃ monthNames, mode = .pattern ⟨pattern, monthNames⟩ ∧
      (pattern.usesMonthNames = true → monthNames = announced.monthNames setup)

/-- The display does not change while a stretch of delegation moves on. -/
theorem Governs.next {setup : Setup} {announced : Announcements} {mode : Mode}
    (governs : announced.Governs setup mode) (field : HostField) (operation : Operation) :
    announced.Governs setup (mode.next field operation) := by
  unfold Governs at governs ⊢
  split at governs
  · rw [governs]
    rfl
  · rcases governs with ⟨delegation, rfl⟩
    exact ⟨_, rfl⟩
  · rcases governs with ⟨monthNames, rfl, named⟩
    exact ⟨monthNames, rfl, named⟩

theorem Governs.mode_of_locale {setup : Setup} {announced : Announcements} {mode : Mode}
    (governs : announced.Governs setup mode) (isLocale : announced.display = .locale) :
    mode = .locale := by
  simpa only [Governs, isLocale] using governs

theorem Governs.display_of_locale {setup : Setup} {announced : Announcements}
    (governs : announced.Governs setup .locale) : announced.display = .locale := by
  unfold Governs at governs
  split at governs
  · assumption
  · rcases governs with ⟨_, ⟨⟩⟩
  · rcases governs with ⟨_, ⟨⟩, -⟩

end Announcements

namespace Controller

/-- The controller follows the announcements. -/
structure Follows (setup : Setup) (controller : Controller) (announced : Announcements) :
    Prop where
  locale : controller.locale = announced.locale
  /-- A detector that is not stale is the right one. -/
  detector : controller.stale = false → controller.detector = announced.detector setup
  /-- The locale's own layout is never shown by a stale detector. -/
  fresh : announced.display = .locale → controller.stale = false
  governs : announced.Governs setup controller.mode

variable {setup : Setup} {controller : Controller} {announced : Announcements}

theorem follows_start (setup : Setup) (locale : Text) (field : HostField) :
    (start setup locale field).Follows setup { locale } where
  locale := rfl
  detector := fun _ => rfl
  fresh := fun _ => rfl
  governs := by rfl

namespace Follows

/-- A refreshed detector is the right one. -/
theorem refreshDetector (follows : controller.Follows setup announced) :
    (controller.refreshDetector setup).locale = announced.locale ∧
      (controller.refreshDetector setup).stale = false ∧
      (controller.refreshDetector setup).detector = announced.detector setup := by
  cases stale : controller.stale with
  | true =>
      simp only [Controller.refreshDetector, stale, rebuildDetector, follows.locale,
        Announcements.detector, if_true, and_self]
  | false =>
      simp only [Controller.refreshDetector, stale, Bool.false_eq_true, if_false]
      exact ⟨follows.locale, trivial, follows.detector stale⟩

/-- Turning to a display follows its announcement. -/
theorem turnTo (follows : controller.Follows setup announced) (display : Display) :
    (controller.turnTo setup display).Follows setup
      { announced with display, displayLocale := announced.locale } := by
  rcases follows.refreshDetector with ⟨locale, refreshed, detector⟩
  cases display with
  | locale =>
      constructor
      · exact locale
      · exact fun _ => detector
      · exact fun _ => refreshed
      · rfl
  | remote =>
      rw [turnTo_remote]
      constructor
      · exact follows.locale
      · exact follows.detector
      · exact fun isLocale => Display.noConfusion isLocale
      · exact ⟨_, rfl⟩
  | pattern pattern =>
      simp only [Controller.turnTo, usePattern]
      split
      · constructor
        · exact locale
        · exact fun _ => detector
        · exact fun _ => refreshed
        · exact ⟨_, rfl, fun _ => by rw [detector]; rfl⟩
      · rename_i noNames
        constructor
        · exact follows.locale
        · exact follows.detector
        · exact fun isLocale => Display.noConfusion isLocale
        · exact ⟨_, rfl, fun names => absurd names noNames⟩

/-- Announcing a locale is followed, at once or later. -/
theorem changeLocale (follows : controller.Follows setup announced) (locale : Text) :
    (controller.changeLocale setup locale).Follows setup { announced with locale } := by
  simp only [Controller.changeLocale]
  split
  · rename_i same
    rw [same, follows.locale]
    exact follows
  · split
    · rename_i mode
      have governs := follows.governs
      rw [mode] at governs
      split <;>
        exact ⟨rfl, fun _ => rfl, fun _ => rfl, by rw [rebuildDetector, mode]; exact governs⟩
    · rename_i notLocale
      constructor
      · rfl
      · exact fun fresh => Bool.noConfusion fresh
      · exact fun isLocale => absurd (follows.governs.mode_of_locale isLocale) notLocale
      · exact follows.governs

/-- Whatever else happens announces nothing. -/
theorem perform_other (follows : controller.Follows setup announced) {operation : Operation}
    (noPattern : ∀ text, operation ≠ .setPattern text)
    (noLocale : ∀ locale, operation ≠ .changeLocale locale) :
    (controller.perform setup operation).next.Follows setup announced := by
  rcases @locale_perform setup controller operation noPattern noLocale with
    ⟨locale, detector, stale⟩
  constructor
  · rw [locale, follows.locale]
  · rw [stale, detector]
    exact follows.detector
  · rw [stale]
    exact follows.fresh
  · rw [mode_perform operation noPattern]
    exact follows.governs.next controller.field operation

theorem perform (follows : controller.Follows setup announced) (operation : Operation) :
    (controller.perform setup operation).next.Follows setup
      (announced.next setup operation) := by
  cases operation with
  | setPattern text =>
      cases chosen : Display.ofText setup.options.century text with
      | ok display =>
          rw [perform_setPattern_of_ok chosen]
          simpa only [Announcements.next, chosen] using follows.turnTo display
      | error error =>
          rw [perform_setPattern_of_error chosen]
          simpa only [Announcements.next, chosen] using follows
  | changeLocale locale => exact follows.changeLocale locale
  | _ => exact follows.perform_other (by simp) (by simp)

theorem run (follows : controller.Follows setup announced) (operations : List Operation) :
    (controller.final setup operations).Follows setup
      (operations.foldl (Announcements.next setup) announced) := by
  induction operations generalizing controller announced with
  | nil => exact follows
  | cons operation operations ih =>
      rw [final_cons, List.foldl_cons]
      exact ih (follows.perform operation)

end Follows

/-! ## Formatting and parsing -/

/-- In the locale's layout dates are written and read by the detector of the locale
announced last. -/
theorem Follows.format_and_parse_of_locale (follows : controller.Follows setup announced)
    (mode : controller.mode = .locale) :
    (∀ date, controller.format date =
      ⟨(announced.detector setup).format date, none, controller⟩) ∧
    ∀ text, controller.parse setup text =
      ⟨(announced.detector setup).parse text, none, controller⟩ := by
  have governs := follows.governs
  rw [mode] at governs
  have detector := follows.detector (follows.fresh governs.display_of_locale)
  simp only [format, parse, mode, detector, implies_true, and_self]

/-- In a pattern dates are written and read by the codec of the pattern. -/
theorem Follows.format_and_parse_of_pattern (follows : controller.Follows setup announced)
    {pattern : Pattern} (display : announced.display = .pattern pattern) :
    let codec : PatternCodec := ⟨pattern, announced.monthNames setup⟩
    (∀ date, controller.format date = ⟨codec.format date, none, controller⟩) ∧
    ∀ text, controller.parse setup text =
      ⟨codec.parse (.forValue setup.today controller.field.value) text, none, controller⟩ := by
  intro codec
  have governs := follows.governs
  simp only [Announcements.Governs, display] at governs
  rcases governs with ⟨monthNames, mode, named⟩
  simp only [format, parse, mode]
  cases names : pattern.usesMonthNames with
  | true => simp only [codec, named names, implies_true, and_self]
  | false =>
      constructor
      · intro date
        rw [PatternCodec.format_congr names monthNames]
      · intro text
        rw [PatternCodec.parse_congr names monthNames]

/-- What the controller writes and reads depends on the announcements alone.  In the
locale's own layout it is what a detector made afresh for the locale announced last
writes and reads.  Under a pattern it is what the codec of the pattern does, with the
month names of the locale that was announced last when the pattern was set, until
another display pattern is accepted. -/
theorem format_and_parse_follow_announcements (setup : Setup) (locale : Text)
    (field : HostField) (operations : List Operation) :
    let controller := (start setup locale field).final setup operations
    let detectorOf := Detector.forLocale setup.provider setup.options
    (controller.mode = .locale →
      let detector := detectorOf (announcedLocale locale operations)
      (∀ date, controller.format date = ⟨detector.format date, none, controller⟩) ∧
        ∀ text, controller.parse setup text = ⟨detector.parse text, none, controller⟩) ∧
    ∀ before raw after pattern,
      operations = before ++ .setPattern (some raw) :: after →
      Pattern.compileWith setup.options.century raw = .ok pattern →
      (∀ text, .setPattern text ∈ after →
        ∃ error, controller.setPattern setup text = .error error) →
      let codec : PatternCodec :=
        ⟨pattern, (detectorOf (announcedLocale locale before)).monthNames⟩
      (∀ date, controller.format date = ⟨codec.format date, none, controller⟩) ∧
        ∀ text, controller.parse setup text =
          ⟨codec.parse (.forValue setup.today controller.field.value) text, none,
            controller⟩ := by
  intro controller detectorOf
  have follows := (follows_start setup locale field).run operations
  constructor
  · intro mode
    have shown := follows.format_and_parse_of_locale mode
    rwa [Announcements.detector, Announcements.locale_foldl] at shown
  · intro before raw after pattern parts accepted rejected codec
    have chosen := Display.ofText_of_compileWith accepted
    have kept : ∀ text, .setPattern text ∈ after →
        ∃ error, Display.ofText setup.options.century text = .error error := by
      intro text member
      rcases rejected text member with ⟨error, rejected⟩
      rw [setPattern_eq] at rejected
      cases result : Display.ofText setup.options.century text with
      | ok display => simp [result, Except.map] at rejected
      | error error => exact ⟨error, rfl⟩
    have announced : operations.foldl (Announcements.next setup) { locale } =
        after.foldl (Announcements.next setup)
          { before.foldl (Announcements.next setup) { locale } with
            display := .pattern pattern
            displayLocale := announcedLocale locale before } := by
      rw [parts, List.foldl_append, List.foldl_cons]
      simp only [Announcements.next, chosen, Announcements.locale_foldl]
    rcases Announcements.display_foldl _ kept with ⟨display, displayLocale⟩
    rw [← announced] at display displayLocale
    have shown := follows.format_and_parse_of_pattern display
    rwa [Announcements.monthNames, displayLocale] at shown

/-- A pattern set under German names keeps them when the locale changes back; the
locale's own layout does not. -/
theorem format_and_parse_follow_german_names :
    let german : Renderer :=
      ⟨"de_DE".toList, ["Januar", "Februar", "März"].map String.toList, fun _ => []⟩
    let setup : Setup := {
      provider := fun tag => .ok (if tag = "de_DE".toList then german else .iso)
      today := ⟨⟨2013, 1, 12⟩, by decide⟩ }
    let pattern : Pattern :=
      ⟨" _dmM_y".toList, .separated ' ', .dayMonthYear, .bare, .name, none⟩
    let controller := start setup "en_US".toList {}
    let before : List Operation := [.changeLocale "de_DE".toList]
    let after : List Operation := [.setPattern (some "0d".toList), .changeLocale "en_US".toList]
    let named := controller.final setup (before ++ .setPattern (some " _dmM_y".toList) :: after)
    let back := controller.final setup (before ++ [.changeLocale "en_US".toList])
    (Pattern.compileWith setup.options.century " _dmM_y".toList = .ok pattern ∧
      (∀ text, .setPattern text ∈ after → ∃ error, named.setPattern setup text = .error error) ∧
      (named.format ⟨2024, 2, 5⟩).answer = "5 März 2024".toList) ∧
    (back.mode = .locale ∧ (back.format ⟨2024, 2, 5⟩).answer = "2024-03-05".toList) := by
  intro german setup pattern controller before after named back
  have rejected : ∀ text, .setPattern text ∈ after →
      ∃ error, named.setPattern setup text = .error error := by
    intro text member
    simp only [after, List.mem_cons, Operation.setPattern.injEq, reduceCtorEq, List.not_mem_nil,
      or_false] at member
    rw [member]
    exact ⟨_, rfl⟩
  refine ⟨⟨rfl, rejected, ?_⟩, rfl, ?_⟩
  · have follows := (format_and_parse_follow_announcements setup "en_US".toList {}
      (before ++ .setPattern (some " _dmM_y".toList) :: after)).2 before _ after pattern rfl rfl
      rejected
    rw [follows.1]
    rfl
  · have follows := (format_and_parse_follow_announcements setup "en_US".toList {}
      (before ++ [.changeLocale "en_US".toList])).1 rfl
    rw [follows.1]
    rfl

end Controller

end DateDisplay
