import DateDisplay.Proofs.Controller.Steps

/-!
# What a controller writes to its field

A controller shows a text in its field on three occasions, and commits a date to it on
three.  Nothing else that it is asked to do changes the field, so that the commits of a
field are as many as the occasions in its history.
-/

namespace DateDisplay

open Controller

/-! ## Leaving delegation -/

namespace Delegation

variable {delegation : Delegation} {field : HostField}
  {formatValue : Option CalendarDate → Text}

theorem text_leave (hidden : delegation.shownByFormat = false) :
    (delegation.leave field formatValue).text = field.text := by
  simp only [leave, hidden, Bool.false_eq_true, if_false]
  split
  · split <;> rfl
  · rfl

theorem leave_of_differs {date : CalendarDate}
    (awaits : delegation.awaited = some (.rendering date)) (differs : field.value ≠ some date) :
    (delegation.leave field formatValue).value = some date ∧
      (delegation.leave field formatValue).commits = field.commits + 1 := by
  simp only [leave, awaits, if_neg differs]
  split <;> exact ⟨rfl, rfl⟩

theorem leave_of_held
    (held : ∀ date, delegation.awaited = some (.rendering date) → field.value = some date) :
    (delegation.leave field formatValue).value = field.value ∧
      (delegation.leave field formatValue).commits = field.commits := by
  rcases delegation with ⟨awaited, shownByFormat⟩
  rcases awaited with _ | (pending | text)
  · cases shownByFormat <;> exact ⟨rfl, rfl⟩
  · simp only [leave, if_pos (held pending rfl)]
    split <;> exact ⟨rfl, rfl⟩
  · cases shownByFormat <;> exact ⟨rfl, rfl⟩

end Delegation

/-- The host writes to the field itself, past the controller. -/
def Controller.Operation.byHost : Operation → Bool
  | .typeText _ | .setValue _ | .redisplay => true
  | _ => false

namespace Controller

variable {setup : Setup} {controller : Controller}

/-! ## Occasions -/

/-- A display pattern ends a stretch of delegation. -/
structure Leaves (setup : Setup) (controller : Controller) (delegation : Delegation)
    (pattern : Option Text) : Prop where
  delegated : controller.mode = .delegated delegation
  ends : ∃ next, controller.setPattern setup pattern = .ok next ∧ next.mode.delegation? = none

/-- The occasions on which a controller shows a text in its field. -/
inductive ShowsText (setup : Setup) (controller : Controller) : Operation → Prop where
  /-- Another locale is announced while the field shows a date in the locale's layout. -/
  | newLocale {locale : Text} {date : CalendarDate} (mode : controller.mode = .locale)
      (differs : locale ≠ controller.locale)
      (reads : controller.detector.parse controller.field.text = .parsed date) :
      ShowsText setup controller (.changeLocale locale)
  /-- A rendering arrives that is awaited. -/
  | rendered {text : Text}
      (accepted : (controller.perform setup (.completeFormat text)).answer = .accepted true) :
      ShowsText setup controller (.completeFormat text)
  /-- Delegation ends while the field shows what formatting made. -/
  | left {pattern : Option Text} {delegation : Delegation}
      (leaves : controller.Leaves setup delegation pattern)
      (shown : delegation.shownByFormat = true) : ShowsText setup controller (.setPattern pattern)

/-- The occasions on which a controller commits a date to its field. -/
inductive Commits (setup : Setup) (controller : Controller) : Operation → CalendarDate → Prop where
  /-- The rendering of the date arrives and is awaited. -/
  | rendered {text : Text} {date : CalendarDate}
      (awaits : controller.awaited? = some (.rendering date)) :
      Commits setup controller (.completeFormat text) date
  /-- The date arrives as a reading that is awaited. -/
  | read {date : CalendarDate}
      (accepted : (controller.perform setup (.completeParse (some date))).answer =
        .accepted true) :
      Commits setup controller (.completeParse (some date)) date
  /-- Delegation ends while the rendering of the date is awaited. -/
  | left {pattern : Option Text} {delegation : Delegation} {date : CalendarDate}
      (leaves : controller.Leaves setup delegation pattern)
      (awaits : delegation.awaited = some (.rendering date))
      (differs : controller.field.value ≠ some date) :
      Commits setup controller (.setPattern pattern) date

/-- What a controller is asked to do without any consequence for its field. -/
inductive Spares (setup : Setup) (controller : Controller) : Operation → Prop where
  | format (value : Option CalendarDate) : Spares setup controller (.format value)
  | parse (text : Text) : Spares setup controller (.parse text)
  /-- The display pattern does not compile. -/
  | failed {pattern : Option Text} {error : PatternError}
      (rejected : controller.setPattern setup pattern = .error error) :
      Spares setup controller (.setPattern pattern)
  /-- Delegation is off before, whether or not it is turned on. -/
  | switched (pattern : Option Text) (off : controller.mode.delegation? = none) :
      Spares setup controller (.setPattern pattern)
  /-- Delegation is turned on, or goes on. -/
  | delegated : Spares setup controller (.setPattern (some serverPattern))
  /-- The locale is remembered for later. -/
  | deferred (locale : Text) (mode : controller.mode ≠ .locale) :
      Spares setup controller (.changeLocale locale)
  | sameLocale : Spares setup controller (.changeLocale controller.locale)
  /-- The completion is not awaited. -/
  | ignored {operation : Operation} {role : Role} (completion : operation.completes = some role)
      (rejected : (controller.perform setup operation).answer = .accepted false) :
      Spares setup controller operation

/-! ## Setting a display pattern -/

theorem field_refreshDetector (setup : Setup) (controller : Controller) :
    (controller.refreshDetector setup).field = controller.field ∧
      (controller.refreshDetector setup).mode = controller.mode := by
  rw [refreshDetector]
  split <;> exact ⟨rfl, rfl⟩

theorem field_switch (controller : Controller) (mode : Mode)
    (formatValue : Option CalendarDate → Text) :
    (controller.switch mode formatValue).field =
      controller.mode.delegation?.elim controller.field
        fun delegation => delegation.leave controller.field formatValue := by
  rcases controller with ⟨field, locale, detector, stale, before⟩
  cases before <;> rfl

/-- Turning to a display other than delegation leaves the delegation that is on. -/
theorem field_turnTo (setup : Setup) (controller : Controller) (display : Display) :
    (controller.turnTo setup display).mode.delegation? ≠ none ∧
      (controller.turnTo setup display).field = controller.field ∨
    (controller.turnTo setup display).mode.delegation? = none ∧ ∃ formatValue,
      (controller.turnTo setup display).field = controller.mode.delegation?.elim controller.field
        fun delegation => delegation.leave controller.field formatValue := by
  rcases field_refreshDetector setup controller with ⟨field, mode⟩
  cases display with
  | remote =>
      left
      rw [turnTo_remote]
      exact ⟨nofun, rfl⟩
  | locale =>
      right
      refine ⟨rfl, (controller.refreshDetector setup).detector.formatValue, ?_⟩
      rw [turnTo, useLocale, field_switch, field, mode]
  | pattern pattern =>
      right
      refine ⟨rfl, ?_⟩
      simp only [turnTo, usePattern, field_switch]
      split
      · rw [field, mode]
        exact ⟨_, rfl⟩
      · exact ⟨_, rfl⟩

/-- A display pattern writes to the field only where it ends a stretch of delegation. -/
theorem field_perform_setPattern (setup : Setup) (controller : Controller)
    (pattern : Option Text) :
    (∃ delegation formatValue, controller.Leaves setup delegation pattern ∧
      (controller.perform setup (.setPattern pattern)).next.field =
        delegation.leave controller.field formatValue) ∨
    (∀ delegation, ¬ controller.Leaves setup delegation pattern) ∧
      (controller.perform setup (.setPattern pattern)).next.field = controller.field := by
  have set := controller.setPattern_eq setup pattern
  cases chosen : Display.ofText setup.options.century pattern with
  | error error =>
      right
      rw [perform_setPattern_of_error chosen]
      refine ⟨?_, rfl⟩
      rintro delegation ⟨-, next, accepted, -⟩
      rw [set, chosen] at accepted
      cases accepted
  | ok display =>
      rw [chosen] at set
      rw [perform_setPattern_of_ok chosen]
      rcases field_turnTo setup controller display with ⟨on, field⟩ | ⟨off, formatValue, field⟩
      · right
        refine ⟨?_, field⟩
        rintro delegation ⟨-, next, accepted, off⟩
        rw [set] at accepted
        cases accepted
        exact on off
      · cases mode : controller.mode with
        | delegated delegation =>
            left
            rw [mode] at field
            exact ⟨delegation, formatValue, ⟨mode, _, set, off⟩, field⟩
        | _ =>
            right
            rw [mode] at field
            refine ⟨?_, field⟩
            rintro delegation ⟨delegated, -⟩
            rw [mode] at delegated
            cases delegated

/-! ## Single operations -/

/-- Announcing a locale writes to the field only where it shows a date anew. -/
theorem field_changeLocale (setup : Setup) (controller : Controller) (locale : Text) :
    (controller.changeLocale setup locale).field = controller.field ∨
      controller.ShowsText setup (.changeLocale locale) ∧ ∃ text,
        (controller.changeLocale setup locale).field = controller.field.display text := by
  rw [changeLocale]
  split
  · exact .inl rfl
  · rename_i differs
    split
    · rename_i mode
      cases reads : controller.detector.parse controller.field.text with
      | parsed date => exact .inr ⟨.newLocale mode differs reads, _, rfl⟩
      | _ => exact .inl rfl
    · exact .inl rfl

/-- The text of the field stays as it is, but for the occasions on which the controller
shows one, and for what the host writes. -/
theorem text_perform (setup : Setup) (controller : Controller) (operation : Operation) :
    (controller.perform setup operation).next.field.text = controller.field.text ∨
      controller.ShowsText setup operation ∨ operation.byHost = true := by
  cases operation with
  | setPattern pattern =>
      rcases field_perform_setPattern setup controller pattern with
        ⟨delegation, formatValue, leaves, field⟩ | ⟨-, field⟩
      · rw [field]
        cases shown : delegation.shownByFormat with
        | true => exact .inr (.inl (.left leaves shown))
        | false => exact .inl (Delegation.text_leave shown)
      · exact .inl (by rw [field])
  | changeLocale locale =>
      rcases field_changeLocale setup controller locale with field | ⟨shows, -⟩
      · exact .inl (congrArg HostField.text field)
      · exact .inr (.inl shows)
  | format value => exact .inl (by simp only [perform, formatValue_eq])
  | parse text => exact .inl (by simp only [perform, parse_eq])
  | completeFormat text =>
      rcases @perform_completion setup controller (.completeFormat text) _ rfl with
        ⟨awaited, -, -, performed⟩ | ⟨-, performed⟩
      · exact .inr (.inl (.rendered (by rw [performed])))
      · exact .inl (by rw [performed])
  | completeParse date =>
      rcases @perform_completion setup controller (.completeParse date) _ rfl with
        ⟨awaited, -, same, performed⟩ | ⟨-, performed⟩
      · cases awaited with
        | rendering pending => cases same
        | reading text =>
            rw [performed]
            cases date <;> exact .inl rfl
      · exact .inl (by rw [performed])
  | _ => exact .inr (.inr rfl)

/-- A date that is committed is the value of the field from then on. -/
theorem Commits.field_perform {operation : Operation} {date : CalendarDate}
    (commits : controller.Commits setup operation date) :
    (controller.perform setup operation).next.field.value = some date ∧
      (controller.perform setup operation).next.field.commits =
        controller.field.commits + 1 := by
  cases commits with
  | @rendered text _ awaits =>
      rcases @perform_completion setup controller (.completeFormat text) _ rfl with
        ⟨awaited, awaiting, -, performed⟩ | ⟨other, -⟩
      · rw [awaits] at awaiting
        cases awaiting
        rw [performed]
        exact ⟨rfl, rfl⟩
      · exact absurd rfl (other _ awaits)
  | read accepted =>
      rcases @perform_completion setup controller (.completeParse (some date)) _ rfl with
        ⟨awaited, -, same, performed⟩ | ⟨-, performed⟩
      · cases awaited with
        | rendering pending => cases same
        | reading text =>
            rw [performed]
            exact ⟨rfl, rfl⟩
      · rw [performed] at accepted
        cases accepted
  | @left pattern delegation _ leaves awaits differs =>
      rcases field_perform_setPattern setup controller pattern with
        ⟨other, formatValue, otherLeaves, field⟩ | ⟨stays, -⟩
      · have same := leaves.delegated.symm.trans otherLeaves.delegated
        cases same
        rw [field]
        exact Delegation.leave_of_differs awaits differs
      · exact absurd leaves (stays delegation)

/-- Where nothing is committed the value stays as it is, unless the host sets it. -/
theorem field_perform_of_not_commits {operation : Operation}
    (nothing : ∀ date, ¬ controller.Commits setup operation date) :
    ((controller.perform setup operation).next.field.value = controller.field.value ∨
      operation.byHost = true) ∧
      (controller.perform setup operation).next.field.commits = controller.field.commits := by
  cases operation with
  | setPattern pattern =>
      rcases field_perform_setPattern setup controller pattern with
        ⟨delegation, formatValue, leaves, field⟩ | ⟨-, field⟩
      · have held : ∀ date, delegation.awaited = some (.rendering date) →
            controller.field.value = some date := fun date awaits =>
          Classical.not_not.1 fun differs => nothing date (.left leaves awaits differs)
        rw [field]
        rcases @Delegation.leave_of_held delegation controller.field formatValue held with
          ⟨value, commits⟩
        exact ⟨.inl value, commits⟩
      · rw [field]
        exact ⟨.inl rfl, rfl⟩
  | changeLocale locale =>
      rcases field_changeLocale setup controller locale with field | ⟨-, text, field⟩
      · simp only [perform, field, true_or, and_self]
      · simp only [perform, field, HostField.value_display, HostField.commits_display, true_or,
          and_self]
  | format value => simp only [perform, formatValue_eq, true_or, and_self]
  | parse text => simp only [perform, parse_eq, true_or, and_self]
  | completeFormat text =>
      rcases @perform_completion setup controller (.completeFormat text) _ rfl with
        ⟨awaited, awaiting, same, performed⟩ | ⟨-, performed⟩
      · cases awaited with
        | rendering date => exact absurd (.rendered awaiting) (nothing date)
        | reading text => cases same
      · rw [performed]
        exact ⟨.inl rfl, rfl⟩
  | completeParse date =>
      rcases @perform_completion setup controller (.completeParse date) _ rfl with
        ⟨awaited, -, same, performed⟩ | ⟨-, performed⟩
      · cases awaited with
        | rendering pending => cases same
        | reading text =>
            cases date with
            | some date => exact absurd (.read (by rw [performed])) (nothing date)
            | none =>
                rw [performed]
                exact ⟨.inl rfl, rfl⟩
      · rw [performed]
        exact ⟨.inl rfl, rfl⟩
  | redisplay =>
      refine ⟨.inr rfl, ?_⟩
      simp only [perform, formatValue_eq, HostField.commits_display]
  | _ => exact ⟨.inr rfl, rfl⟩

/-- What spares the field leaves it as it was. -/
theorem Spares.field_perform {operation : Operation}
    (spares : controller.Spares setup operation) :
    (controller.perform setup operation).next.field = controller.field := by
  cases spares with
  | format value => simp only [perform, formatValue_eq]
  | parse text => simp only [perform, parse_eq]
  | failed rejected => simp only [perform, rejected]
  | switched pattern off =>
      rcases field_perform_setPattern setup controller pattern with
        ⟨delegation, formatValue, leaves, -⟩ | ⟨-, field⟩
      · rw [leaves.delegated] at off
        cases off
      · exact field
  | delegated =>
      rw [@perform_setPattern_of_ok setup controller _ .remote rfl, turnTo_remote]
  | deferred locale mode =>
      rcases field_changeLocale setup controller locale with field | ⟨shows, -⟩
      · exact field
      · cases shows with
        | newLocale isLocale => exact absurd isLocale mode
  | sameLocale => simp only [perform, changeLocale, if_true]
  | ignored completion rejected =>
      rcases @perform_completion setup controller operation _ completion with
        ⟨awaited, -, -, performed⟩ | ⟨-, performed⟩
      · rw [performed] at rejected
        cases rejected
      · rw [performed]

/-! ## Counting commits -/

/-- The commits of a field tell when the controller commits a date. -/
theorem exists_commits_iff {operation : Operation} :
    (∃ date, controller.Commits setup operation date) ↔
      (controller.perform setup operation).next.field.commits = controller.field.commits + 1 := by
  constructor
  · rintro ⟨date, commits⟩
    exact commits.field_perform.2
  · intro counted
    apply Classical.byContradiction
    intro nothing
    have kept := (field_perform_of_not_commits (not_exists.1 nothing)).2
    omega

instance (setup : Setup) (controller : Controller) (operation : Operation) :
    Decidable (∃ date, controller.Commits setup operation date) :=
  decidable_of_iff _ exists_commits_iff.symm

/-- How often a date is committed in a run. -/
def countCommits (setup : Setup) (controller : Controller) : List Operation → Nat
  | [] => 0
  | operation :: operations =>
      (if ∃ date, controller.Commits setup operation date then 1 else 0) +
        countCommits setup (controller.perform setup operation).next operations

theorem commits_perform (setup : Setup) (controller : Controller) (operation : Operation) :
    (controller.perform setup operation).next.field.commits = controller.field.commits +
      if ∃ date, controller.Commits setup operation date then 1 else 0 := by
  split
  · rename_i commits
    exact exists_commits_iff.1 commits
  · rename_i nothing
    exact (field_perform_of_not_commits (not_exists.1 nothing)).2

theorem commits_final (setup : Setup) (controller : Controller) (operations : List Operation) :
    (controller.final setup operations).field.commits =
      controller.field.commits + controller.countCommits setup operations := by
  induction operations generalizing controller with
  | nil => rfl
  | cons operation operations ih =>
      rw [final_cons, ih, commits_perform, countCommits, Nat.add_assoc]

theorem value_perform (setup : Setup) (controller : Controller) (operation : Operation) :
    (controller.perform setup operation).next.field.value = controller.field.value ∨
      (∃ date, controller.Commits setup operation date ∧
        (controller.perform setup operation).next.field.value = some date) ∨
      operation.byHost = true := by
  by_cases commits : ∃ date, controller.Commits setup operation date
  · rcases commits with ⟨date, commits⟩
    exact .inr (.inl ⟨date, commits, commits.field_perform.1⟩)
  · rcases (field_perform_of_not_commits (not_exists.1 commits)).1 with kept | host
    · exact .inl kept
    · exact .inr (.inr host)

/-- At every moment of a run the field and the authority are written to on their
occasions alone, and the field has been committed to as often as there was one. -/
theorem field_written_on_occasions (setup : Setup) (controller : Controller)
    (operations : List Operation) (operation : Operation) :
    let state := controller.final setup operations
    let reply := state.perform setup operation
    (reply.next.field.text = state.field.text ∨
      state.ShowsText setup operation ∨ operation.byHost = true) ∧
    (reply.next.field.value = state.field.value ∨
      (∃ date, state.Commits setup operation date ∧ reply.next.field.value = some date) ∨
      operation.byHost = true) ∧
    (reply.next.field.commits = state.field.commits +
      if ∃ date, state.Commits setup operation date then 1 else 0) ∧
    state.field.commits = controller.field.commits + controller.countCommits setup operations ∧
    (state.Spares setup operation → reply.next.field = state.field) ∧
    (reply.request = none ∨ (operation.asks state.field).isSome = true ∧
      ∃ delegation, state.mode = .delegated delegation ∧ delegation.awaited = none) := by
  intro state reply
  refine ⟨text_perform setup state operation, value_perform setup state operation,
    commits_perform setup state operation, commits_final setup controller operations,
    Spares.field_perform, ?_⟩
  cases issued : reply.request with
  | none => exact .inl rfl
  | some request =>
      rw [request_perform, Mode.requestOf_eq_some_iff] at issued
      rcases issued with ⟨idle, asks⟩
      rcases Option.map_eq_some_iff.1 asks with ⟨awaited, asks, -⟩
      exact .inr ⟨by rw [asks]; rfl, idle⟩

/-- A rendering, a reading and the end of delegation commit one date each. -/
theorem field_written_three_times :
    let setup : Setup := {
      provider := fun _ => .ok .iso
      today := ⟨⟨2013, 1, 12⟩, by decide⟩ }
    let controller := start setup "iso".toList {}
    let operations : List Operation := [
      .setPattern (some serverPattern), .format (some ⟨2024, 2, 5⟩),
      .completeFormat "5 March 2024".toList, .parse "tomorrow".toList,
      .completeParse (some ⟨2024, 2, 6⟩), .format (some ⟨1999, 11, 31⟩)]
    let state := controller.final setup operations
    let next := (state.perform setup (.setPattern none)).next
    state.field = ⟨"5 March 2024".toList, some ⟨2024, 2, 6⟩, 2⟩ ∧
      next.field = ⟨"1999-12-31".toList, some ⟨1999, 11, 31⟩, 3⟩ ∧
      state.Commits setup (.setPattern none) ⟨1999, 11, 31⟩ ∧
      controller.countCommits setup operations = 2 ∧
      state.Spares setup (.format none) ∧
      (state.perform setup (.format none)).next.field = state.field := by
  intro setup controller operations state next
  have field : state.field = ⟨"5 March 2024".toList, some ⟨2024, 2, 6⟩, 2⟩ := by rfl
  have commits : state.Commits setup (.setPattern none) ⟨1999, 11, 31⟩ :=
    .left ⟨rfl, _, rfl, rfl⟩ rfl (by rw [field]; decide)
  have written := field_written_on_occasions setup controller operations
  have counted := (written (.setPattern none)).2.2.2.1
  refine ⟨field, by rfl, commits, ?_, .format none, (written (.format none)).2.2.2.2.1 (.format none)⟩
  rw [field] at counted
  exact (Nat.zero_add _).symm.trans counted.symm

end Controller

end DateDisplay
