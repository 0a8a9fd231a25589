import DateDisplay.Proofs.Controller.Steps

/-!
# Changes of the display pattern

Setting a display pattern fails only where the pattern does not compile, and then nothing
has changed.  Where it succeeds it leaves nothing to do: set once more, the same pattern
finds a fresh detector if it needs one, the codec that it asks for, and a delegation that is
either over or goes on.  Hence failed and repeated changes can be left out of any run.
-/

namespace DateDisplay

open Controller

namespace Display

/-- A text fails as a display pattern exactly when it stands for a pattern that does not
compile. -/
theorem ofText_eq_error_iff {window : CenturyWindow} {text : Option Text} {error : PatternError} :
    ofText window text = .error error ↔
      ∃ raw, text = some raw ∧ raw ≠ [] ∧ raw ≠ serverPattern ∧
        Pattern.compileWith window raw = .error error := by
  cases text with
  | none => simp [ofText]
  | some raw =>
      simp only [ofText, Option.getD_some, Option.some.injEq, exists_eq_left']
      split
      · rename_i empty
        simp [empty]
      · rename_i nonempty
        split
        · rename_i server
          simp [server]
        · rename_i notServer
          cases compiled : Pattern.compileWith window raw <;>
            simp [nonempty, notServer, Except.map]

end Display

namespace Controller

variable {setup : Setup} {controller : Controller}

/-! ## Setting a pattern twice -/

theorem stale_refreshDetector (setup : Setup) (controller : Controller) :
    (controller.refreshDetector setup).stale = false := by
  rw [refreshDetector]
  cases stale : controller.stale with
  | true => rfl
  | false => exact stale

/-- A detector that is not stale is kept. -/
theorem refreshDetector_of_fresh (fresh : controller.stale = false) :
    controller.refreshDetector setup = controller := by
  rw [refreshDetector, fresh]
  rfl

/-- Going over to a mode other than delegation ends delegation only once. -/
theorem switch_of_mode {mode : Mode} (off : mode.delegation? = none)
    (same : controller.mode = mode) (formatValue : Option CalendarDate → Text) :
    controller.switch mode formatValue = controller := by
  obtain ⟨field, locale, detector, stale, before⟩ := controller
  cases same
  cases before with
  | delegated delegation => cases off
  | _ => rfl

theorem useLocale_of_fresh (fresh : controller.stale = false) (mode : controller.mode = .locale) :
    controller.useLocale setup = controller := by
  rw [useLocale, refreshDetector_of_fresh fresh]
  exact switch_of_mode rfl mode _

/-- A pattern is in use already if its codec is, and if no month names are to be refreshed. -/
theorem usePattern_of_mode {pattern : Pattern}
    (fresh : pattern.usesMonthNames = true → controller.stale = false)
    (mode : controller.mode = .pattern ⟨pattern, controller.detector.monthNames⟩) :
    controller.usePattern setup pattern = controller := by
  have kept : (if pattern.usesMonthNames then controller.refreshDetector setup else controller) =
      controller := by
    split
    · rename_i names
      exact refreshDetector_of_fresh (fresh names)
    · rfl
  rw [usePattern, kept]
  exact switch_of_mode rfl mode _

/-- Turning to a display again changes nothing. -/
theorem turnTo_turnTo (setup : Setup) (controller : Controller) (display : Display) :
    (controller.turnTo setup display).turnTo setup display =
      controller.turnTo setup display := by
  cases display with
  | remote =>
      rw [turnTo_remote, turnTo_remote]
      rfl
  | locale =>
      apply useLocale_of_fresh
      · exact stale_refreshDetector setup controller
      · rfl
  | pattern pattern =>
      apply usePattern_of_mode
      · intro names
        simp only [turnTo, usePattern, names, if_true]
        exact stale_refreshDetector setup controller
      · rfl

/-! ## One change -/

/-- A change of the display pattern is refused as a whole or turns to a display. -/
theorem perform_setPattern_cases (setup : Setup) (controller : Controller)
    (pattern : Option Text) :
    (∃ error, Display.ofText setup.options.century pattern = .error error ∧
      controller.perform setup (.setPattern pattern) = ⟨.failed error, none, controller⟩) ∨
    ∃ display, Display.ofText setup.options.century pattern = .ok display ∧
      controller.perform setup (.setPattern pattern) =
        ⟨.done, none, controller.turnTo setup display⟩ := by
  cases chosen : Display.ofText setup.options.century pattern with
  | error error => exact .inl ⟨error, rfl, perform_setPattern_of_error chosen⟩
  | ok display => exact .inr ⟨display, rfl, perform_setPattern_of_ok chosen⟩

/-- It is refused exactly where the pattern does not compile. -/
theorem answer_perform_setPattern_iff {pattern : Option Text} {error : PatternError} :
    (controller.perform setup (.setPattern pattern)).answer = .failed error ↔
      ∃ raw, pattern = some raw ∧ raw ≠ [] ∧ raw ≠ serverPattern ∧
        Pattern.compileWith setup.options.century raw = .error error := by
  rw [← Display.ofText_eq_error_iff]
  obtain ⟨other, chosen, performed⟩ | ⟨display, chosen, performed⟩ :=
    perform_setPattern_cases setup controller pattern
  · rw [performed, chosen, Result.failed.injEq, Except.error.injEq]
  · rw [performed, chosen]
    exact iff_of_false nofun nofun

/-- A refused change leaves everything as it was. -/
theorem next_perform_setPattern_of_failed {pattern : Option Text} {error : PatternError}
    (failed : (controller.perform setup (.setPattern pattern)).answer = .failed error) :
    (controller.perform setup (.setPattern pattern)).next = controller := by
  obtain ⟨other, -, performed⟩ | ⟨display, -, performed⟩ :=
    perform_setPattern_cases setup controller pattern
  · rw [performed]
  · rw [performed] at failed
    cases failed

/-- A change made again is answered in the same way and does nothing more. -/
theorem perform_setPattern_again (setup : Setup) (controller : Controller)
    (pattern : Option Text) :
    (controller.perform setup (.setPattern pattern)).next.perform setup (.setPattern pattern) =
      ⟨(controller.perform setup (.setPattern pattern)).answer, none,
        (controller.perform setup (.setPattern pattern)).next⟩ := by
  obtain ⟨error, -, performed⟩ | ⟨display, chosen, performed⟩ :=
    perform_setPattern_cases setup controller pattern
  · rw [performed]
    exact performed
  · rw [performed, perform_setPattern_of_ok chosen, turnTo_turnTo]

/-- Delegation that is on goes on, with whatever it awaits. -/
theorem perform_setPattern_server {delegation : Delegation}
    (on : controller.mode = .delegated delegation) :
    controller.perform setup (.setPattern (some serverPattern)) =
      ⟨.done, none, controller⟩ := by
  have kept : controller.turnTo setup .remote = controller := by
    rw [turnTo_remote, on]
    exact congrArg (fun mode => { controller with mode }) on.symm
  rw [@perform_setPattern_of_ok setup controller _ .remote rfl, kept]

/-! ## Runs -/

theorem final_append (setup : Setup) (controller : Controller) (before after : List Operation) :
    controller.final setup (before ++ after) =
      (controller.final setup before).final setup after := by
  induction before generalizing controller with
  | nil => rfl
  | cons operation before ih => rw [List.cons_append, final_cons, final_cons, ih]

/-- An operation that changes nothing where it is performed can be left out of a run. -/
theorem final_of_unchanged {before : List Operation} {operation : Operation}
    (unchanged : ((controller.final setup before).perform setup operation).next =
      controller.final setup before) (after : List Operation) :
    controller.final setup (before ++ operation :: after) =
      controller.final setup (before ++ after) := by
  rw [final_append, final_cons, unchanged, ← final_append]

/-- A change of the display pattern is made as a whole or not at all, and once is enough.
It fails exactly where a text other than the empty one and that for delegation does not
compile, with the error of the compiler, and then everything is as it was.  It never issues a
request, and what it does is not done again when it is repeated, so that delegation which is
on goes on with whatever it awaits.  No run can be told from the one without its failed and
its repeated changes. -/
theorem setPattern_atomic_and_idempotent (setup : Setup) (controller : Controller)
    (operations : List Operation) (pattern : Option Text) :
    let state := controller.final setup operations
    let change := Operation.setPattern pattern
    let reply := state.perform setup change
    (reply.answer = .done ∨ ∃ error, reply.answer = .failed error) ∧
    (∀ error, reply.answer = .failed error ↔
      ∃ raw, pattern = some raw ∧ raw ≠ [] ∧ raw ≠ serverPattern ∧
        Pattern.compileWith setup.options.century raw = .error error) ∧
    (∀ error, reply.answer = .failed error → reply.next = state ∧
      ∀ later, controller.final setup (operations ++ change :: later) =
        controller.final setup (operations ++ later)) ∧
    reply.request = none ∧
    reply.next.perform setup change = ⟨reply.answer, none, reply.next⟩ ∧
    (∀ later, controller.final setup (operations ++ change :: change :: later) =
      controller.final setup (operations ++ change :: later)) ∧
    (∀ delegation, state.mode = .delegated delegation →
      state.perform setup (.setPattern (some serverPattern)) = ⟨.done, none, state⟩) := by
  intro state change reply
  have again : reply.next.perform setup change = ⟨reply.answer, none, reply.next⟩ :=
    perform_setPattern_again setup state pattern
  refine ⟨?_, fun error => answer_perform_setPattern_iff, ?_, ?_, again, ?_, ?_⟩
  · obtain ⟨error, -, performed⟩ | ⟨display, -, performed⟩ :=
      perform_setPattern_cases setup state pattern
    · exact .inr ⟨error, congrArg Reply.answer performed⟩
    · exact .inl (congrArg Reply.answer performed)
  · intro error failed
    have unchanged : reply.next = state := next_perform_setPattern_of_failed failed
    exact ⟨unchanged, final_of_unchanged unchanged⟩
  · obtain ⟨error, -, performed⟩ | ⟨display, -, performed⟩ :=
      perform_setPattern_cases setup state pattern <;>
    exact congrArg Reply.request performed
  · intro later
    -- The run up to the second change ends with the state that the first one leaves.
    have first : controller.final setup (operations ++ [change]) = reply.next := by
      rw [final_append, final_cons, final_nil]
    have unchanged : ((controller.final setup (operations ++ [change])).perform setup change).next =
        controller.final setup (operations ++ [change]) := by
      rw [first, again]
    have leftOut := final_of_unchanged unchanged later
    rwa [List.append_assoc, List.append_assoc] at leftOut
  · intro delegation on
    exact perform_setPattern_server on

/-- Neither a pattern that is too short nor delegation asked for again disturbs a text that is
being read. -/
theorem setPattern_keeps_reading :
    let setup : Setup := { provider := fun _ => .ok .iso, today := ⟨⟨2013, 1, 12⟩, by decide⟩ }
    let controller := start setup "en_US".toList {}
    let operations : List Operation :=
      [.setPattern (some serverPattern), .typeText "soon".toList, .parse "soon".toList]
    let state := controller.final setup operations
    let short := state.perform setup (.setPattern (some "0d".toList))
    state.mode = .delegated ⟨some (.reading "soon".toList), false⟩ ∧
      short.answer = .failed ⟨"0d".toList, .invalidLength 2⟩ ∧ short.next = state ∧
      state.perform setup (.setPattern (some serverPattern)) = ⟨.done, none, state⟩ := by
  intro setup controller operations state short
  have mode : state.mode = .delegated ⟨some (.reading "soon".toList), false⟩ := rfl
  have changes := setPattern_atomic_and_idempotent setup controller operations
  have refused := (changes (some "0d".toList)).2.2.1
  have goesOn := (changes none).2.2.2.2.2.2
  exact ⟨mode, rfl, (refused _ rfl).1, goesOn _ mode⟩

end Controller

end DateDisplay
