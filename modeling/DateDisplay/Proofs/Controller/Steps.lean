import DateDisplay.Controller

/-!
# What one operation does

What an operation on a controller does is told here without going through its
branches.  What a display pattern asks for does not depend on the state.  Every
other operation leaves the mode as it is, except that a stretch of delegation moves
on by what the operation asks for and by what it completes.
-/

namespace DateDisplay

open Controller

/-! ## Displays -/

/-- What a display pattern asks for. -/
inductive Display where
  /-- The layout of the locale. -/
  | locale
  /-- Delegation to the remote authority. -/
  | remote
  /-- A compiled pattern. -/
  | pattern (pattern : Pattern)

namespace Display

/-- What a text asks for as a display pattern; the window is for a short year
without a suffix. -/
def ofText (window : CenturyWindow) (text : Option Text) : Except PatternError Display :=
  let raw := text.getD []
  if raw = [] then .ok .locale
  else if raw = serverPattern then .ok .remote
  else (Pattern.compileWith window raw).map .pattern

/-- A text that compiles is neither empty nor the pattern for delegation. -/
theorem ofText_of_compileWith {window : CenturyWindow} {raw : Text} {pattern : Pattern}
    (accepted : Pattern.compileWith window raw = .ok pattern) :
    ofText window (some raw) = .ok (.pattern pattern) := by
  have nonempty : raw ≠ [] := by
    rintro rfl
    cases accepted
  have notServer : raw ≠ serverPattern := by
    rintro rfl
    cases accepted
  simp only [ofText, Option.getD_some, if_neg nonempty, if_neg notServer, accepted]
  rfl

end Display

/-- Turn to a display. -/
def Controller.turnTo (setup : Setup) (controller : Controller) : Display → Controller
  | .locale => controller.useLocale setup
  | .remote => controller.delegate
  | .pattern pattern => controller.usePattern setup pattern

theorem Controller.setPattern_eq (setup : Setup) (controller : Controller)
    (text : Option Text) :
    controller.setPattern setup text =
      (Display.ofText setup.options.century text).map (controller.turnTo setup) := by
  simp only [setPattern, Display.ofText]
  split
  · rfl
  · split
    · rfl
    · cases Pattern.compileWith setup.options.century (text.getD []) <;> rfl

/-! ## Delegation moving on -/

namespace Controller.Operation

/-- The answer that an operation asks for where nothing is awaited yet. -/
def asks (field : HostField) : Operation → Option Awaited
  | .format value => value.map .rendering
  | .parse text => if Text.trim text = [] then none else some (.reading text)
  | .redisplay => field.value.map .rendering
  | _ => none

/-- The direction of the request whose answer an operation brings. -/
def completes : Operation → Option Role
  | .completeFormat _ => some .formatting
  | .completeParse _ => some .parsing
  | _ => none

/-- Nothing blank is ever read. -/
theorem trim_ne_nil_of_asks {field : HostField} {operation : Operation} {text : Text}
    (asks : operation.asks field = some (.reading text)) : Text.trim text ≠ [] := by
  cases operation with
  | parse text =>
      by_cases blank : Text.trim text = [] <;> simp [Operation.asks, blank] at asks
      exact asks ▸ blank
  | format value => cases value <;> cases asks
  | redisplay => cases value : field.value <;> simp [Operation.asks, value] at asks
  | _ => cases asks

end Controller.Operation

/-- The field after the answer that an operation brings was taken. -/
def HostField.settle (field : HostField) : Awaited → Operation → HostField
  | .rendering date, .completeFormat text => (field.display text).commit date
  | .reading _, .completeParse date => date.elim field field.commit
  | _, _ => field

namespace Delegation

/-- Await an answer.  A date being formatted is shown by formatting. -/
def await (delegation : Delegation) : Awaited → Delegation
  | .rendering date => ⟨some (.rendering date), true⟩
  | .reading text => { delegation with awaited := some (.reading text) }

/-- Take the answer that was awaited.  A text that was read is not shown by
formatting. -/
def settle (delegation : Delegation) : Awaited → Delegation
  | .rendering _ => { delegation with awaited := none }
  | .reading _ => ⟨none, false⟩

/-- The stretch after an operation that sets no display pattern. -/
def next (delegation : Delegation) (field : HostField) (operation : Operation) :
    Delegation :=
  match delegation.awaited with
  | none => (operation.asks field).elim delegation delegation.await
  | some awaited =>
      if operation.completes = some awaited.role then delegation.settle awaited
      else delegation

/-- The request that an operation issues. -/
def requestOf (delegation : Delegation) (field : HostField) (operation : Operation) :
    Option Request :=
  match delegation.awaited with
  | none => (operation.asks field).map Awaited.request
  | some _ => none

/-- An operation that asks for nothing, and completes nothing that is awaited, is not
noticed. -/
theorem next_of_neither {delegation : Delegation} {field : HostField}
    {operation : Operation} (asksNothing : operation.asks field = none)
    (completesNothing : ∀ awaited ∈ delegation.awaited,
      operation.completes ≠ some awaited.role) :
    delegation.next field operation = delegation := by
  cases awaiting : delegation.awaited with
  | none => simp only [next, awaiting, asksNothing, Option.elim_none]
  | some awaited => simp only [next, awaiting, if_neg (completesNothing awaited awaiting)]

end Delegation

namespace Mode

/-- The stretch of delegation that is on. -/
def delegation? : Mode → Option Delegation
  | .delegated delegation => some delegation
  | _ => none

/-- The mode after an operation that sets no display pattern. -/
def next (mode : Mode) (field : HostField) (operation : Operation) : Mode :=
  match mode with
  | .delegated delegation => .delegated (delegation.next field operation)
  | mode => mode

/-- The request that an operation issues; outside delegation there is none. -/
def requestOf (mode : Mode) (field : HostField) (operation : Operation) : Option Request :=
  mode.delegation?.bind (·.requestOf field operation)

theorem next_of_neither {mode : Mode} {field : HostField} {operation : Operation}
    (asksNothing : operation.asks field = none)
    (completesNothing : ∀ awaited ∈ mode.delegation?.bind Delegation.awaited,
      operation.completes ≠ some awaited.role) : mode.next field operation = mode := by
  cases mode with
  | delegated delegation =>
      rw [next, Delegation.next_of_neither asksNothing completesNothing]
  | _ => rfl

/-- An operation that neither asks for an answer nor brings one is not noticed. -/
theorem next_of_host {mode : Mode} {field : HostField} {operation : Operation}
    (asksNothing : operation.asks field = none)
    (completesNothing : operation.completes = none) : mode.next field operation = mode :=
  next_of_neither asksNothing fun _ _ => by simp [completesNothing]

theorem requestOf_of_not_asks {mode : Mode} {field : HostField} {operation : Operation}
    (asksNothing : operation.asks field = none) : mode.requestOf field operation = none := by
  cases mode with
  | delegated delegation =>
      cases awaited : delegation.awaited <;>
        simp [requestOf, delegation?, Delegation.requestOf, awaited, asksNothing]
  | _ => rfl

/-- A request is issued where delegation is on and awaits nothing, for what the
operation asks for. -/
theorem requestOf_eq_some_iff {mode : Mode} {field : HostField} {operation : Operation}
    {request : Request} :
    mode.requestOf field operation = some request ↔
      (∃ delegation, mode = .delegated delegation ∧ delegation.awaited = none) ∧
        (operation.asks field).map Awaited.request = some request := by
  cases mode with
  | delegated delegation =>
      cases awaiting : delegation.awaited <;>
        simp [requestOf, delegation?, Delegation.requestOf, awaiting]
  | _ => simp [requestOf, delegation?]

end Mode

namespace Controller

variable {setup : Setup} {controller : Controller}

theorem awaited?_eq (controller : Controller) :
    controller.awaited? = controller.mode.delegation?.bind Delegation.awaited := by
  cases mode : controller.mode <;> simp only [awaited?, mode] <;> rfl

/-- An answer is awaited by a stretch of delegation. -/
theorem awaited?_eq_some_iff {awaited : Awaited} :
    controller.awaited? = some awaited ↔
      ∃ delegation, controller.mode = .delegated delegation ∧
        delegation.awaited = some awaited := by
  cases mode : controller.mode <;> simp [awaited?, mode]

/-! ## Turning to a display -/

@[simp] theorem delegation?_turnTo_locale (setup : Setup) (controller : Controller) :
    (controller.turnTo setup .locale).mode.delegation? = none := rfl

@[simp] theorem delegation?_turnTo_pattern (setup : Setup) (controller : Controller)
    (pattern : Pattern) :
    (controller.turnTo setup (.pattern pattern)).mode.delegation? = none := rfl

/-- Delegation that is on goes on. -/
theorem turnTo_remote (setup : Setup) (controller : Controller) :
    controller.turnTo setup .remote =
      { controller with mode := .delegated (controller.mode.delegation?.getD {}) } := by
  rcases controller with ⟨field, locale, detector, stale, mode⟩
  cases mode <;> rfl

/-! ## Single operations -/

theorem formatValue_eq (controller : Controller) (value : Option CalendarDate) :
    (controller.formatValue value).request =
        controller.mode.requestOf controller.field (.format value) ∧
      (controller.formatValue value).next =
        { controller with mode := controller.mode.next controller.field (.format value) } := by
  rcases controller with ⟨field, locale, detector, stale, mode⟩
  cases value with
  | none =>
      rw [Mode.requestOf_of_not_asks rfl, Mode.next_of_host rfl rfl]
      exact ⟨rfl, rfl⟩
  | some date =>
      cases mode with
      | delegated delegation =>
          rcases delegation with ⟨awaited, shownByFormat⟩
          rcases awaited with _ | (_ | _) <;> exact ⟨rfl, rfl⟩
      | _ => exact ⟨rfl, rfl⟩

theorem parse_eq (controller : Controller) (text : Text) :
    (controller.parse setup text).request =
        controller.mode.requestOf controller.field (.parse text) ∧
      (controller.parse setup text).next =
        { controller with mode := controller.mode.next controller.field (.parse text) } := by
  rcases controller with ⟨field, locale, detector, stale, mode⟩
  cases mode with
  | delegated delegation =>
      rcases delegation with ⟨awaited, shownByFormat⟩
      rcases awaited with _ | (_ | _)
      · by_cases blank : Text.trim text = [] <;>
          simp [parse, Delegation.parse, Mode.requestOf, Mode.next, Mode.delegation?,
            Delegation.requestOf, Delegation.next, Operation.asks, blank, Delegation.await]
      · exact ⟨rfl, rfl⟩
      · exact ⟨rfl, rfl⟩
  | _ => exact ⟨rfl, rfl⟩

/-- A completion is taken where its kind of answer is awaited, and changes nothing
anywhere else. -/
theorem perform_completion {operation : Operation} {role : Role}
    (completion : operation.completes = some role) :
    (∃ awaited, controller.awaited? = some awaited ∧ awaited.role = role ∧
      controller.perform setup operation =
        ⟨.accepted true, none,
          { controller with
            mode := controller.mode.next controller.field operation
            field := controller.field.settle awaited operation }⟩) ∨
    ((∀ awaited ∈ controller.awaited?, awaited.role ≠ role) ∧
      controller.perform setup operation = ⟨.accepted false, none, controller⟩) := by
  rcases controller with ⟨field, locale, detector, stale, mode⟩
  cases mode with
  | delegated delegation =>
      rcases delegation with ⟨awaited, shownByFormat⟩
      cases awaited with
      | none =>
          right
          constructor
          · intro awaited awaiting
            cases awaiting
          · cases operation <;> cases completion <;> rfl
      | some awaited =>
          by_cases same : awaited.role = role
          · left
            refine ⟨awaited, rfl, same, ?_⟩
            cases awaited <;> cases operation <;> cases completion <;> cases same <;> rfl
          · right
            constructor
            · rintro _ ⟨⟩
              exact same
            · cases awaited <;> cases operation <;> cases completion <;>
                first
                | rfl
                | exact absurd rfl same
  | _ =>
      right
      constructor
      · intro awaited awaiting
        cases awaiting
      · cases operation <;> cases completion <;> rfl

theorem perform_setPattern_of_ok {text : Option Text} {display : Display}
    (chosen : Display.ofText setup.options.century text = .ok display) :
    controller.perform setup (.setPattern text) =
      ⟨.done, none, controller.turnTo setup display⟩ := by
  simp only [perform, setPattern_eq, chosen, Except.map]

theorem perform_setPattern_of_error {text : Option Text} {error : PatternError}
    (rejected : Display.ofText setup.options.century text = .error error) :
    controller.perform setup (.setPattern text) = ⟨.failed error, none, controller⟩ := by
  simp only [perform, setPattern_eq, rejected, Except.map]

/-! ## All operations -/

theorem request_perform (operation : Operation) :
    (controller.perform setup operation).request =
      controller.mode.requestOf controller.field operation := by
  cases operation with
  | setPattern text =>
      rw [Mode.requestOf_of_not_asks rfl]
      cases chosen : Display.ofText setup.options.century text with
      | ok display => rw [perform_setPattern_of_ok chosen]
      | error error => rw [perform_setPattern_of_error chosen]
  | format value => exact (controller.formatValue_eq value).1
  | parse text => exact (controller.parse_eq text).1
  | redisplay => exact (controller.formatValue_eq _).1
  | _ => exact (Mode.requestOf_of_not_asks rfl).symm

/-- A completion is accepted exactly when its kind of answer is awaited. -/
theorem answer_perform_eq_accepted_iff {operation : Operation} :
    (controller.perform setup operation).answer = .accepted true ↔
      ∃ awaited, controller.awaited? = some awaited ∧
        operation.completes = some awaited.role := by
  cases completion : operation.completes with
  | some role =>
      rcases perform_completion completion with
        ⟨awaited, awaiting, same, performed⟩ | ⟨other, performed⟩
      · rw [performed]
        exact iff_of_true rfl ⟨awaited, awaiting, by rw [same]⟩
      · rw [performed]
        refine iff_of_false (by simp) ?_
        rintro ⟨awaited, awaiting, same⟩
        exact other awaited awaiting (Option.some.inj same).symm
  | none =>
      cases operation with
      | setPattern text =>
          cases chosen : Display.ofText setup.options.century text with
          | ok display => simp [perform_setPattern_of_ok chosen]
          | error error => simp [perform_setPattern_of_error chosen]
      | completeFormat text => cases completion
      | completeParse date => cases completion
      | _ => simp [perform]

theorem mode_perform_completion {operation : Operation} {role : Role}
    (completion : operation.completes = some role)
    (asksNothing : operation.asks controller.field = none) :
    (controller.perform setup operation).next.mode =
      controller.mode.next controller.field operation := by
  rcases perform_completion completion with
    ⟨awaited, awaiting, same, performed⟩ | ⟨other, performed⟩
  · rw [performed]
  · rw [performed, Mode.next_of_neither asksNothing]
    rw [← awaited?_eq, completion]
    intro awaited awaiting same
    exact other awaited awaiting (Option.some.inj same).symm

/-- An operation that sets no display pattern moves the mode on. -/
theorem mode_perform (operation : Operation)
    (noPattern : ∀ text, operation ≠ .setPattern text) :
    (controller.perform setup operation).next.mode =
      controller.mode.next controller.field operation := by
  cases operation with
  | setPattern text => exact absurd rfl (noPattern text)
  | changeLocale locale =>
      rw [Mode.next_of_host rfl rfl]
      simp only [perform, changeLocale]
      split
      · rfl
      · split
        · split <;> rfl
        · rfl
  | format value => simp only [perform, formatValue_eq]
  | parse text => simp only [perform, parse_eq]
  | completeFormat text => exact mode_perform_completion rfl rfl
  | completeParse date => exact mode_perform_completion rfl rfl
  | redisplay => simp only [perform, formatValue_eq]; rfl
  | _ => rw [Mode.next_of_host rfl rfl]; rfl

/-- What the controller knows of locales is changed by announcing one, and by turning
to a display, and by nothing else. -/
theorem locale_perform {operation : Operation}
    (noPattern : ∀ text, operation ≠ .setPattern text)
    (noLocale : ∀ locale, operation ≠ .changeLocale locale) :
    (controller.perform setup operation).next.locale = controller.locale ∧
      (controller.perform setup operation).next.detector = controller.detector ∧
      (controller.perform setup operation).next.stale = controller.stale := by
  cases completion : operation.completes with
  | some role =>
      rcases perform_completion completion with ⟨awaited, -, -, performed⟩ | ⟨-, performed⟩ <;>
        rw [performed] <;> exact ⟨rfl, rfl, rfl⟩
  | none =>
      cases operation with
      | setPattern text => exact absurd rfl (noPattern text)
      | changeLocale locale => exact absurd rfl (noLocale locale)
      | format value => simp [perform, formatValue_eq]
      | parse text => simp [perform, parse_eq]
      | completeFormat text => cases completion
      | completeParse date => cases completion
      | redisplay => simp [perform, formatValue_eq]
      | _ => exact ⟨rfl, rfl, rfl⟩

/-! ## Runs -/

/-- The controller that a run ends with. -/
def final (setup : Setup) (controller : Controller) (operations : List Operation) :
    Controller :=
  ((controller.run setup operations).getLast?.map Reply.next).getD controller

@[simp] theorem final_nil (setup : Setup) (controller : Controller) :
    controller.final setup [] = controller := rfl

@[simp] theorem final_cons (setup : Setup) (controller : Controller)
    (operation : Operation) (operations : List Operation) :
    controller.final setup (operation :: operations) =
      (controller.perform setup operation).next.final setup operations := by
  simp only [final, run, List.getLast?_cons]
  cases run setup (controller.perform setup operation).next operations |>.getLast? <;> rfl

end Controller

end DateDisplay
