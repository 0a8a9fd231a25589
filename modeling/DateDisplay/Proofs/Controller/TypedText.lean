import DateDisplay.Proofs.Controller.LeavingDelegation

/-!
# Typed texts and the end of delegation

A text that waits to be read was typed, and no rendering of a value should take its place.
Delegation does not notice that it was typed, only that it has been read: until then it takes
the field for shown by formatting if a rendering was requested before.  Which request came
before is therefore what decides whether the text outlives delegation.
-/

namespace DateDisplay

open Controller

/-- A text that is still to be read is replaced exactly where formatting counts as the last to
have shown one. -/
theorem Delegation.leave_of_reading {delegation : Delegation} {text : Text}
    (awaits : delegation.awaited = some (.reading text)) (field : HostField)
    (formatValue : Option CalendarDate → Text) :
    delegation.leave field formatValue =
      if delegation.shownByFormat then field.display (formatValue field.value) else field := by
  simp only [leave, awaits]

namespace Display

/-- Every pattern but that for delegation that is accepted turns to a display which is not
delegation. -/
theorem exists_ofText {window : CenturyWindow} {text : Option Text}
    (accepted : text.getD [] = [] ∨
      ∃ raw pattern, text = some raw ∧ Pattern.compileWith window raw = .ok pattern) :
    ∃ display, ofText window text = .ok display ∧ ∀ setup controller,
      (Controller.turnTo setup controller display).mode.delegation? = none := by
  obtain empty | ⟨raw, pattern, rfl, compiled⟩ := accepted
  · exact ⟨.locale, ofText_of_empty empty, delegation?_turnTo_locale⟩
  · refine ⟨.pattern pattern, ofText_of_compileWith compiled, ?_⟩
    intro setup controller
    exact delegation?_turnTo_pattern setup controller pattern

end Display

namespace Controller

variable {setup : Setup} {controller : Controller} {delegation : Delegation} {text : Text}

/-- The field after delegation has ended while a text was to be read. -/
theorem field_turnTo_of_reading (delegated : controller.mode = .delegated delegation)
    (awaits : delegation.awaited = some (.reading text)) {display : Display}
    (off : (controller.turnTo setup display).mode.delegation? = none) :
    (controller.turnTo setup display).field =
      if delegation.shownByFormat then
        controller.field.display
          ((controller.turnTo setup display).formatValue controller.field.value).answer
      else controller.field := by
  rw [field_turnTo_of_delegated delegated off, Delegation.leave_of_reading awaits]

/-- The text to be read is what was requested last. -/
theorem Records.exists_earlier {session : Session} (records : controller.Records session)
    (awaiting : controller.awaited? = some (.reading text)) :
    ∃ earlier, session.requests = earlier ++ [.parse text] ∧
      session.requestsShown = earlier := by
  have outstanding : session.outstanding? = some (.parse text) := by
    rw [records.outstanding, awaiting]
    rfl
  obtain ⟨earlier, requests⟩ :=
    List.getLast?_eq_some_iff.1 (Session.getLast?_requests_of_outstanding? outstanding)
  refine ⟨earlier, requests, ?_⟩
  simp only [Session.requestsShown, outstanding, requests, List.dropLast_concat]

/-- A pattern that ends delegation while a text is to be read leaves the value of the field
alone.  It leaves the typed text alone as well unless the request before it in the session was
for a rendering; after a rendering the value is shown in its place. -/
theorem leaving_keeps_typed_text_unless_rendered (setup : Setup) (locale : Text)
    (field : HostField) (operations : List Operation) {text : Text}
    (awaiting : ((start setup locale field).final setup operations).awaited? =
      some (.reading text))
    {pattern : Option Text} (accepted : pattern.getD [] = [] ∨
      ∃ raw compiled, pattern = some raw ∧
        Pattern.compileWith setup.options.century raw = .ok compiled) :
    let state := (start setup locale field).final setup operations
    let session := Session.ofRun setup (start setup locale field) operations
    let next := (state.perform setup (.setPattern pattern)).next
    next.mode.delegation? = none ∧
    ∃ earlier, session.requests = earlier ++ [.parse text] ∧
      next.field.value = state.field.value ∧
      next.field.commits = state.field.commits ∧
      (earlier.getLast?.map Request.role ≠ some .formatting →
        next.field.text = state.field.text) ∧
      (earlier.getLast?.map Request.role = some .formatting →
        next.field.text = (next.formatValue state.field.value).answer) := by
  intro state session next
  have records : state.Records session :=
    @Records.run setup (start setup locale field) [] rfl operations
  obtain ⟨delegation, delegated, awaits⟩ := awaited?_eq_some_iff.1 awaiting
  obtain ⟨earlier, requests, shown⟩ := records.exists_earlier awaiting
  obtain ⟨display, chosen, off⟩ := Display.exists_ofText accepted
  have turned : next = state.turnTo setup display :=
    congrArg Reply.next (perform_setPattern_of_ok chosen)
  have left := field_turnTo_of_reading delegated awaits (off setup state)
  have shown_iff := (records.of_mode delegated).shown_iff
  rw [shown] at shown_iff
  rw [← turned] at left
  refine ⟨by rw [turned]; exact off setup state, earlier, requests, ?_, ?_, ?_, ?_⟩
  · rw [left]
    split <;> rfl
  · rw [left]
    split <;> rfl
  · intro notRendered
    rw [left, if_neg (fun byFormat => notRendered (shown_iff.1 byFormat))]
  · intro rendered
    rw [left, if_pos (shown_iff.2 rendered)]
    rfl

/-- Once a reading has arrived in between, the next typed text is safe. -/
theorem leaving_keeps_text_typed_after_reading :
    let setup : Setup := { provider := fun _ => .ok .iso, today := ⟨⟨2013, 1, 12⟩, by decide⟩ }
    let first := start setup "en_US".toList {}
    let operations : List Operation :=
      [.setPattern (some serverPattern), .format (some ⟨2024, 2, 5⟩),
        .completeFormat "5 March 2024".toList, .typeText "tomorrow".toList,
        .parse "tomorrow".toList, .completeParse (some ⟨2024, 2, 6⟩),
        .typeText "next week".toList, .parse "next week".toList]
    let state := first.final setup operations
    let next := (state.perform setup (.setPattern (some "_y0M0d".toList))).next
    state.awaited? = some (.reading "next week".toList) ∧
      (Session.ofRun setup first operations).requests =
        [.format 2024 3 5, .parse "tomorrow".toList] ++ [.parse "next week".toList] ∧
      next.field = ⟨"next week".toList, some ⟨2024, 2, 6⟩, 2⟩ := by
  intro setup first operations state next
  have awaiting : state.awaited? = some (.reading "next week".toList) := rfl
  have requests : (Session.ofRun setup first operations).requests =
      [.format 2024 3 5, .parse "tomorrow".toList] ++ [.parse "next week".toList] := rfl
  obtain ⟨-, earlier, split, value, commits, kept, -⟩ :=
    leaving_keeps_typed_text_unless_rendered setup "en_US".toList {} operations awaiting
      (.inr ⟨"_y0M0d".toList, _, rfl, rfl⟩)
  have same : earlier = [.format 2024 3 5, .parse "tomorrow".toList] :=
    (List.append_inj_left' (requests.symm.trans split) rfl).symm
  have text := kept (by rw [same]; decide)
  refine ⟨awaiting, requests, ?_⟩
  exact congr (congr (congrArg HostField.mk text) value) commits

/-- A text typed after a rendering is replaced by the value that the field showed before. -/
theorem typed_text_replaced_after_rendering :
    let setup : Setup := { provider := fun _ => .ok .iso, today := ⟨⟨2013, 1, 12⟩, by decide⟩ }
    let state := (start setup "en_US".toList {}).final setup
      [.setPattern (some serverPattern), .format (some ⟨2024, 2, 5⟩),
        .completeFormat "5 March 2024".toList, .typeText "tomorrow".toList,
        .parse "tomorrow".toList]
    let next := (state.perform setup (.setPattern none)).next
    state.awaited? = some (.reading "tomorrow".toList) ∧
      state.field.text = "tomorrow".toList ∧
      next.field.text = "2024-03-05".toList ∧ next.field.text ≠ state.field.text := by
  intro setup state next
  have before : state.field.text = "tomorrow".toList := rfl
  have after : next.field.text = "2024-03-05".toList := rfl
  refine ⟨rfl, before, after, ?_⟩
  rw [before, after]
  decide

end Controller

end DateDisplay
