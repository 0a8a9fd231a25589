import DateDisplay.Proofs.Controller.Announcements
import DateDisplay.Proofs.Controller.FieldWrites
import DateDisplay.Proofs.Controller.SingleRequest

/-!
# The end of delegation

A display pattern that takes over from the authority finds a field whose text may be a
placeholder and whose date may not be committed yet.  It settles both by itself: the date
behind the placeholder is committed, what formatting has shown is shown anew, and what was
typed is left alone.  From then on the authority is not heard until delegation is turned on
again.
-/

namespace DateDisplay

open Controller

/-! ## Where delegation is off -/

namespace Display

/-- Only one text asks for delegation. -/
theorem eq_serverPattern_of_ofText {window : CenturyWindow} {text : Option Text}
    (chosen : ofText window text = .ok .remote) : text = some serverPattern := by
  simp only [ofText] at chosen
  split at chosen
  · cases chosen
  · split at chosen
    · rename_i nonempty isServer
      cases text with
      | none => exact absurd rfl nonempty
      | some raw => exact congrArg some isServer
    · cases compiled : Pattern.compileWith window (text.getD []) <;> rw [compiled] at chosen <;>
        cases chosen

theorem ofText_of_empty {window : CenturyWindow} {text : Option Text}
    (empty : text.getD [] = []) : ofText window text = .ok .locale := by
  simp only [ofText, empty, if_true]

end Display

namespace Controller

variable {setup : Setup} {controller : Controller}

/-- Delegation stays off unless it is asked for. -/
theorem delegation?_perform (off : controller.mode.delegation? = none) {operation : Operation}
    (notEntered : operation ≠ .setPattern (some serverPattern)) :
    (controller.perform setup operation).next.mode.delegation? = none := by
  by_cases setsPattern : ∃ text, operation = .setPattern text
  · rcases setsPattern with ⟨text, rfl⟩
    cases chosen : Display.ofText setup.options.century text with
    | error error =>
        rw [perform_setPattern_of_error chosen]
        exact off
    | ok display =>
        rw [perform_setPattern_of_ok chosen]
        cases display with
        | locale => exact delegation?_turnTo_locale setup controller
        | pattern pattern => exact delegation?_turnTo_pattern setup controller pattern
        | remote =>
            apply absurd _ notEntered
            rw [Display.eq_serverPattern_of_ofText chosen]
  · rw [mode_perform operation (not_exists.1 setsPattern)]
    cases mode : controller.mode with
    | delegated delegation =>
        rw [mode] at off
        cases off
    | _ => rfl

theorem delegation?_final (off : controller.mode.delegation? = none)
    {operations : List Operation} (notEntered : .setPattern (some serverPattern) ∉ operations) :
    (controller.final setup operations).mode.delegation? = none := by
  induction operations generalizing controller with
  | nil => exact off
  | cons operation operations ih =>
      rw [List.mem_cons, not_or] at notEntered
      rw [final_cons]
      exact ih (delegation?_perform off (Ne.symm notEntered.1)) notEntered.2

/-- Where delegation is off no completion is taken. -/
theorem perform_completion_of_off (off : controller.mode.delegation? = none)
    {operation : Operation} {role : Role} (completion : operation.completes = some role) :
    controller.perform setup operation = ⟨.accepted false, none, controller⟩ := by
  rcases perform_completion completion with ⟨awaited, awaiting, -, -⟩ | ⟨-, performed⟩
  · rw [awaited?_eq, off] at awaiting
    cases awaiting
  · exact performed

end Controller

/-! ## What delegation leaves behind -/

namespace Delegation

/-- The date that the field is left with: the one being formatted, or else its value. -/
def lastValue (delegation : Delegation) (value : Option CalendarDate) : Option CalendarDate :=
  match delegation.awaited with
  | some (.rendering pending) => some pending
  | _ => value

/-- How often a date is committed in leaving: once, for a date being formatted that the
field does not hold yet. -/
def lastCommits (delegation : Delegation) (value : Option CalendarDate) : Nat :=
  match delegation.awaited with
  | some (.rendering pending) => if value = some pending then 0 else 1
  | _ => 0

/-- The text that the field is left with. -/
def lastText (delegation : Delegation) (field : HostField)
    (formatValue : Option CalendarDate → Text) : Text :=
  if delegation.shownByFormat then formatValue (delegation.lastValue field.value)
  else field.text

theorem leave_eq (delegation : Delegation) (field : HostField)
    (formatValue : Option CalendarDate → Text) :
    delegation.leave field formatValue =
      ⟨delegation.lastText field formatValue, delegation.lastValue field.value,
        field.commits + delegation.lastCommits field.value⟩ := by
  rcases field with ⟨text, value, commits⟩
  rcases delegation with ⟨_ | (pending | typed), shownByFormat⟩
  · cases shownByFormat <;> rfl
  · by_cases held : value = some pending
    · cases shownByFormat <;>
        simp [leave, lastText, lastValue, lastCommits, held, HostField.display]
    · cases shownByFormat <;>
        simp [leave, lastText, lastValue, lastCommits, held, HostField.display, HostField.commit]
  · cases shownByFormat <;> rfl

end Delegation

namespace Controller

variable {setup : Setup} {controller : Controller} {delegation : Delegation}

/-- A display that ends delegation shows the field's date by its own means. -/
theorem field_turnTo_of_delegated (delegated : controller.mode = .delegated delegation)
    {display : Display} (off : (controller.turnTo setup display).mode.delegation? = none) :
    (controller.turnTo setup display).field =
      delegation.leave controller.field fun value =>
        ((controller.turnTo setup display).formatValue value).answer := by
  rcases field_refreshDetector setup controller with ⟨field, mode⟩
  cases display with
  | remote =>
      rw [turnTo_remote] at off
      cases off
  | locale =>
      have formats : (fun value => ((controller.turnTo setup .locale).formatValue value).answer) =
          (controller.refreshDetector setup).detector.formatValue := by
        funext value
        cases value <;> rfl
      rw [formats, turnTo, useLocale, field_switch, field, mode, delegated]
      rfl
  | pattern pattern =>
      have formats : (fun value =>
          ((controller.turnTo setup (.pattern pattern)).formatValue value).answer) =
          PatternCodec.formatValue ⟨pattern,
            (if pattern.usesMonthNames then controller.refreshDetector setup
              else controller).detector.monthNames⟩ := by
        funext value
        cases value <;> rfl
      rw [formats, turnTo, usePattern, field_switch]
      split
      · rw [field, mode, delegated]
        rfl
      · rw [delegated]
        rfl

/-- The end of a stretch of delegation, after which dates are written and read by these
two. -/
structure Ends (setup : Setup) (controller : Controller) (delegation : Delegation)
    (write : CalendarDate → Text) (read : Text → ParseOutcome)
    (reply : Reply Controller Result) : Prop where
  answer : reply.answer = .done
  request : reply.request = none
  /-- Nothing is awaited any more. -/
  off : reply.next.mode.delegation? = none
  value : reply.next.field.value = delegation.lastValue controller.field.value
  commits : reply.next.field.commits =
    controller.field.commits + delegation.lastCommits controller.field.value
  text : reply.next.field.text =
    delegation.lastText controller.field fun value => value.elim [] write
  format : ∀ date, reply.next.format date = ⟨write date, none, reply.next⟩
  parse : ∀ text, reply.next.parse setup text = ⟨read text, none, reply.next⟩
  /-- The authority is not heard until delegation is turned on again. -/
  deaf : ∀ operations, .setPattern (some serverPattern) ∉ operations →
    ∀ completion role, Operation.completes completion = some role →
      (reply.next.final setup operations).perform setup completion =
        ⟨.accepted false, none, reply.next.final setup operations⟩

/-- A display that is not delegation ends it, and what it writes is what the field shows. -/
theorem ends_of_turnTo (delegated : controller.mode = .delegated delegation)
    {pattern : Option Text} {display : Display}
    (chosen : Display.ofText setup.options.century pattern = .ok display)
    (off : (controller.turnTo setup display).mode.delegation? = none)
    {write : CalendarDate → Text} {read : Text → ParseOutcome}
    (writes : ∀ date, (controller.turnTo setup display).format date =
      ⟨write date, none, controller.turnTo setup display⟩)
    (reads : ∀ text, (controller.turnTo setup display).parse setup text =
      ⟨read text, none, controller.turnTo setup display⟩) :
    controller.Ends setup delegation write read
      (controller.perform setup (.setPattern pattern)) := by
  have shows : (fun value => ((controller.turnTo setup display).formatValue value).answer) =
      fun value => value.elim [] write := by
    funext value
    cases value with
    | none => rfl
    | some date => rw [formatValue, writes, Option.elim_some]
  have field := field_turnTo_of_delegated delegated off
  rw [shows, Delegation.leave_eq] at field
  rw [perform_setPattern_of_ok chosen]
  constructor
  case answer => rfl
  case request => rfl
  case off => exact off
  case value => rw [field]
  case commits => rw [field]
  case text => rw [field]
  case format => exact writes
  case parse => exact reads
  case deaf =>
    intro operations notEntered completion role completes
    exact perform_completion_of_off (delegation?_final off notEntered) completes

/-- Whatever led to it, a display pattern ends delegation in one way.  The field holds the
date being formatted, which is committed unless it is held already, or else keeps its value.
What formatting has shown last, a date being formatted among it, is shown anew by what takes
over: the detector of the locale announced last, or the compiled pattern with its month
names. -/
theorem setPattern_ends_delegation (setup : Setup) (locale : Text) (field : HostField)
    (operations : List Operation) {delegation : Delegation}
    (delegated : ((start setup locale field).final setup operations).mode =
      .delegated delegation) :
    let state := (start setup locale field).final setup operations
    let latest := Detector.forLocale setup.provider setup.options
      (announcedLocale locale operations)
    (∀ date, delegation.awaited = some (.rendering date) → delegation.shownByFormat = true) ∧
    (∀ pattern, pattern.getD [] = [] →
      let reply := state.perform setup (.setPattern pattern)
      reply.next.mode = .locale ∧
        state.Ends setup delegation latest.format latest.parse reply) ∧
    (∀ raw pattern, Pattern.compileWith setup.options.century raw = .ok pattern →
      let codec : PatternCodec := ⟨pattern, latest.monthNames⟩
      let context := Context.forValue setup.today (delegation.lastValue state.field.value)
      let reply := state.perform setup (.setPattern (some raw))
      reply.next.pattern? = some pattern ∧
        state.Ends setup delegation codec.format (codec.parse context) reply) := by
  intro state latest
  have records : state.Records _ :=
    @Records.run setup (start setup locale field) [] rfl operations
  have follows := (follows_start setup locale field).run operations
  have announced := Announcements.locale_foldl setup { locale } operations
  refine ⟨(records.of_mode delegated).rendering_shown, ?_, ?_⟩
  · intro pattern empty reply
    have chosen := @Display.ofText_of_empty setup.options.century pattern empty
    have taken := (follows.turnTo .locale).format_and_parse_of_locale rfl
    rw [Announcements.detector, announced] at taken
    constructor
    · simp only [reply, perform_setPattern_of_ok chosen]
      rfl
    · exact ends_of_turnTo delegated chosen (delegation?_turnTo_locale setup state) taken.1
        taken.2
  · intro raw pattern accepted codec context reply
    have chosen := Display.ofText_of_compileWith accepted
    have off := delegation?_turnTo_pattern setup state pattern
    have taken := (follows.turnTo (.pattern pattern)).format_and_parse_of_pattern rfl
    rw [Announcements.monthNames, announced, field_turnTo_of_delegated delegated off,
      Delegation.leave_eq] at taken
    constructor
    · simp only [reply, perform_setPattern_of_ok chosen]
      rfl
    · exact ends_of_turnTo delegated chosen off taken.1 taken.2

/-- A pattern with German month names commits the date being formatted, shows it and does
not hear its rendering.  The locale's layout leaves a text that is being read alone. -/
theorem setPattern_ends_delegation_under_german_names :
    let german : Renderer :=
      ⟨"de_DE".toList, ["Januar", "Februar", "März"].map String.toList, fun _ => []⟩
    let setup : Setup := {
      provider := fun tag => .ok (if tag = "de_DE".toList then german else .iso)
      today := ⟨⟨2013, 1, 12⟩, by decide⟩ }
    let controller := start setup "en_US".toList {}
    let rendering := controller.final setup [.setPattern (some serverPattern),
      .format (some ⟨2024, 2, 5⟩), .changeLocale "de_DE".toList]
    let reading := controller.final setup [.setPattern (some serverPattern),
      .typeText "morgen".toList, .parse "morgen".toList]
    let named := rendering.perform setup (.setPattern (some " _dmM_y".toList))
    let typed := reading.perform setup (.setPattern none)
    (rendering.mode = .delegated ⟨some (.rendering ⟨2024, 2, 5⟩), true⟩ ∧
      named.request = none ∧ named.next.field.text = "5 März 2024".toList ∧
      named.next.field.value = some ⟨2024, 2, 5⟩ ∧ named.next.field.commits = 1 ∧
      named.next.perform setup (.completeFormat "5. März".toList) =
        ⟨.accepted false, none, named.next⟩) ∧
    (reading.mode = .delegated ⟨some (.reading "morgen".toList), false⟩ ∧
      typed.request = none ∧ typed.next.field.text = "morgen".toList ∧
      typed.next.field.value = none ∧ typed.next.field.commits = 0) := by
  intro german setup controller rendering reading named typed
  have ends : rendering.Ends setup _ _ _ named :=
    ((setPattern_ends_delegation setup "en_US".toList {} _ rfl).2.2 " _dmM_y".toList
      ⟨" _dmM_y".toList, .separated ' ', .dayMonthYear, .bare, .name, none⟩ rfl).2
  have endsReading : reading.Ends setup _ _ _ typed :=
    ((setPattern_ends_delegation setup "en_US".toList {} _ rfl).2.1 none rfl).2
  constructor
  · refine ⟨rfl, ends.request, ?_, ends.value, ends.commits, ?_⟩
    · rw [ends.text]
      rfl
    · exact ends.deaf [] List.not_mem_nil (.completeFormat "5. März".toList) _ rfl
  · exact ⟨rfl, endsReading.request, endsReading.text, endsReading.value, endsReading.commits⟩

end Controller

end DateDisplay
