import DateDisplay.Proofs.Controller.Steps

/-!
# Answers in the order of the requests

The authority answers the requests one after the other, each at most once and as late
as it likes.  A controller knows of an answer only its direction, so it takes the first
answer of the direction that it awaits.  This is the right one as long as no request of
an earlier stretch of delegation is still unanswered.  Otherwise the field may show the
text of one date and hold another.
-/

namespace DateDisplay

open Controller

/-! ## Exchanges -/

/-- The direction of a request. -/
def Request.role : Request → Role
  | format .. => .formatting
  | parse _ => .parsing

/-- A controller and an authority that answers it. -/
structure Exchange where
  controller : Controller
  /-- The requests without an answer, the oldest one first. -/
  unanswered : List Request := []

/-- What can happen between a controller and the authority. -/
inductive ExchangeEvent where
  /-- An operation on the controller.  A completion is the answer to the oldest
  request. -/
  | operation (operation : Operation)
  /-- The oldest request is given up and will never be answered. -/
  | silence

namespace Exchange

/-- The exchange after an event; `none` if there is no request for it. -/
def step? (setup : Setup) (exchange : Exchange) : ExchangeEvent → Option Exchange
  | .operation operation =>
      let reply := exchange.controller.perform setup operation
      match operation.completes with
      | none => some ⟨reply.next, exchange.unanswered ++ reply.request.toList⟩
      | some role =>
          match exchange.unanswered with
          | request :: later => if request.role = role then some ⟨reply.next, later⟩ else none
          | [] => none
  | .silence =>
      match exchange.unanswered with
      | _ :: later => some ⟨exchange.controller, later⟩
      | [] => none

/-- The exchange after a list of events. -/
def run? (setup : Setup) (exchange : Exchange) (events : List ExchangeEvent) :
    Option Exchange :=
  events.foldlM (step? setup) exchange

/-- Delegation that is turned on is turned on where every request has been answered or
given up. -/
def StartsAfresh (setup : Setup) (exchange : Exchange) : List ExchangeEvent → Prop
  | [] => True
  | event :: events => ∀ next ∈ exchange.step? setup event,
      (exchange.controller.mode.delegation? = none →
        next.controller.mode.delegation? ≠ none → exchange.unanswered = []) ∧
      next.StartsAfresh setup events

instance decidableStartsAfresh (setup : Setup) :
    (exchange : Exchange) → (events : List ExchangeEvent) →
      Decidable (exchange.StartsAfresh setup events)
  | _, [] => .isTrue trivial
  | exchange, event :: events =>
      have (next : Exchange) := decidableStartsAfresh setup next events
      inferInstanceAs (Decidable (∀ next ∈ exchange.step? setup event, _ ∧ _))

/-- What is awaited is what was requested last, unless that was given up. -/
def AwaitsLast (exchange : Exchange) : Prop :=
  ∀ awaited, exchange.controller.awaited? = some awaited →
    ∀ request, exchange.unanswered.getLast? = some request → request = awaited.request

/-- While delegation is on no request but the awaited one is without an answer. -/
def AwaitsAll (exchange : Exchange) : Prop :=
  exchange.controller.mode.delegation? ≠ none → ∀ request later,
    exchange.unanswered = request :: later →
      later = [] ∧ exchange.controller.awaited?.map Awaited.request = some request

end Exchange

/-! ## What is awaited after a step -/

namespace Controller

variable (setup : Setup) (controller : Controller) {operation : Operation}

/-- An operation that brings no answer asks for one, or leaves what is awaited alone, or
turns delegation off. -/
theorem perform_host (host : operation.completes = none) :
    (controller.awaited? = none ∧ ∃ awaited,
      (controller.perform setup operation).request = some awaited.request ∧
        (controller.perform setup operation).next.awaited? = some awaited) ∨
    ((controller.perform setup operation).request = none ∧
      ((controller.perform setup operation).next.awaited? = controller.awaited? ∨
        (controller.perform setup operation).next.mode.delegation? = none)) := by
  by_cases setsPattern : ∃ text, operation = .setPattern text
  · rcases setsPattern with ⟨text, rfl⟩
    right
    cases chosen : Display.ofText setup.options.century text with
    | error error =>
        rw [perform_setPattern_of_error chosen]
        exact ⟨rfl, .inl rfl⟩
    | ok display =>
        rw [perform_setPattern_of_ok chosen]
        refine ⟨rfl, ?_⟩
        cases display with
        | remote =>
            left
            rw [awaited?_eq, awaited?_eq, turnTo_remote]
            cases controller.mode <;> rfl
        | _ => exact .inr rfl
  · simp only [awaited?_eq, request_perform, mode_perform operation (not_exists.1 setsPattern)]
    cases controller.mode with
    | delegated delegation =>
        simp only [Mode.requestOf, Mode.delegation?, Mode.next, Delegation.next,
          Delegation.requestOf, Option.bind_some, host]
        cases awaiting : delegation.awaited with
        | some awaited => simp [awaiting]
        | none =>
            cases asks : operation.asks controller.field with
            | none => simp [awaiting]
            | some awaited =>
                left
                refine ⟨rfl, awaited, rfl, ?_⟩
                cases awaited <;> rfl
    | _ => exact .inr ⟨rfl, .inl rfl⟩

/-- An answer that is taken is not awaited any more; any other changes nothing. -/
theorem perform_answer {role : Role} (completion : operation.completes = some role) :
    ((controller.perform setup operation).next.awaited? = none ∧
      (controller.mode.delegation? = none →
        (controller.perform setup operation).next.mode.delegation? = none)) ∨
    (controller.perform setup operation).next = controller := by
  rcases perform_completion completion with ⟨awaited, awaiting, same, performed⟩ | ⟨-, performed⟩
  · left
    rcases awaited?_eq_some_iff.1 awaiting with ⟨delegation, mode, awaits⟩
    rw [performed, awaited?_eq, mode]
    simp only [Mode.next, Delegation.next, awaits, completion, same, if_true]
    cases awaited <;> simp [Mode.delegation?, Delegation.settle]
  · right
    rw [performed]

end Controller

namespace Exchange

variable {setup : Setup} {exchange next : Exchange} {event : ExchangeEvent}

/-- What can happen in a step: an operation of the host, an answer, and silence. -/
theorem step?_cases (step : exchange.step? setup event = some next) :
    (∃ operation, event = .operation operation ∧ operation.completes = none ∧
      next = ⟨(exchange.controller.perform setup operation).next, exchange.unanswered ++
        (exchange.controller.perform setup operation).request.toList⟩) ∨
    (∃ operation request later, event = .operation operation ∧
      operation.completes = some request.role ∧ exchange.unanswered = request :: later ∧
      next = ⟨(exchange.controller.perform setup operation).next, later⟩) ∨
    (∃ request later, event = .silence ∧ exchange.unanswered = request :: later ∧
      next = ⟨exchange.controller, later⟩) := by
  cases event with
  | operation operation =>
      cases completion : operation.completes with
      | none =>
          simp only [step?, completion, Option.some.injEq] at step
          exact .inl ⟨operation, rfl, completion, step.symm⟩
      | some role =>
          cases unanswered : exchange.unanswered with
          | nil => simp [step?, completion, unanswered] at step
          | cons request later =>
              simp only [step?, completion, unanswered, Option.ite_none_right_eq_some,
                Option.some.injEq] at step
              rcases step with ⟨rfl, rfl⟩
              exact .inr (.inl ⟨operation, request, later, rfl, completion, rfl, rfl⟩)
  | silence =>
      cases unanswered : exchange.unanswered with
      | nil => simp [step?, unanswered] at step
      | cons request later =>
          simp only [step?, unanswered, Option.some.injEq] at step
          exact .inr (.inr ⟨request, later, rfl, rfl, step.symm⟩)

/-! ## What is awaited in a run -/

theorem AwaitsLast.step (awaitsLast : exchange.AwaitsLast)
    (step : exchange.step? setup event = some next) : next.AwaitsLast := by
  intro awaited awaiting newest isNewest
  rcases step?_cases step with ⟨operation, -, host, rfl⟩ |
    ⟨operation, request, later, -, completion, unanswered, rfl⟩ |
    ⟨request, later, -, unanswered, rfl⟩
  · rcases perform_host setup exchange.controller host with
      ⟨-, asked, issued, asking⟩ | ⟨nothing, same | off⟩
    · rw [asking] at awaiting
      simp only [issued, Option.toList_some, List.getLast?_concat] at isNewest
      cases awaiting
      exact (Option.some.inj isNewest).symm
    · rw [same] at awaiting
      simp only [nothing, Option.toList_none, List.append_nil] at isNewest
      exact awaitsLast awaited awaiting newest isNewest
    · simp [awaited?_eq, off] at awaiting
  · rcases perform_answer setup exchange.controller completion with
      ⟨taken, -⟩ | unchanged
    · simp [taken] at awaiting
    · rw [unchanged] at awaiting
      refine awaitsLast awaited awaiting newest ?_
      rw [unanswered, List.getLast?_cons, isNewest, Option.getD_some]
  · refine awaitsLast awaited awaiting newest ?_
    rw [unanswered, List.getLast?_cons, isNewest, Option.getD_some]

/-- Where nothing is awaited nothing is unanswered. -/
theorem AwaitsAll.unanswered_eq_nil (awaitsAll : exchange.AwaitsAll)
    (idle : exchange.controller.awaited? = none)
    (on : exchange.controller.mode.delegation? ≠ none) : exchange.unanswered = [] := by
  cases unanswered : exchange.unanswered with
  | nil => rfl
  | cons request later =>
      have awaits := (awaitsAll on request later unanswered).2
      simp [idle] at awaits

theorem AwaitsAll.step (awaitsAll : exchange.AwaitsAll)
    (step : exchange.step? setup event = some next)
    (afresh : exchange.controller.mode.delegation? = none →
      next.controller.mode.delegation? ≠ none → exchange.unanswered = []) :
    next.AwaitsAll := by
  intro on oldest others unanswered'
  -- An answer, or silence, takes away the only request that there was.
  have noOthers : exchange.controller.mode.delegation? ≠ none → ∀ request later,
      exchange.unanswered = request :: later → later ≠ oldest :: others := by
    intro on request later unanswered
    rw [(awaitsAll on request later unanswered).1]
    exact nofun
  rcases step?_cases step with ⟨operation, -, host, rfl⟩ |
    ⟨operation, request, later, -, completion, unanswered, rfl⟩ |
    ⟨request, later, -, unanswered, rfl⟩
  · rcases perform_host setup exchange.controller host with
      ⟨idle, asked, issued, asking⟩ | ⟨nothing, same | off⟩
    · have none_unanswered : exchange.unanswered = [] := by
        by_cases before : exchange.controller.mode.delegation? = none
        · exact afresh before on
        · exact awaitsAll.unanswered_eq_nil idle before
      simp only [none_unanswered, issued, Option.toList_some, List.nil_append,
        List.cons.injEq] at unanswered'
      rw [asking, ← unanswered'.1]
      exact ⟨unanswered'.2.symm, rfl⟩
    · simp only [nothing, Option.toList_none, List.append_nil] at unanswered'
      have before : exchange.controller.mode.delegation? ≠ none := by
        intro before
        rw [afresh before on] at unanswered'
        cases unanswered'
      rw [same]
      exact awaitsAll before oldest others unanswered'
    · exact absurd off on
  · have before : exchange.controller.mode.delegation? ≠ none := by
      rcases perform_answer setup exchange.controller completion with
        ⟨-, stays⟩ | unchanged
      · exact fun off => on (stays off)
      · exact unchanged ▸ on
    exact absurd unanswered' (noOthers before request later unanswered)
  · exact absurd unanswered' (noOthers on request later unanswered)

theorem AwaitsLast.run (awaitsLast : exchange.AwaitsLast) {events : List ExchangeEvent}
    (run : exchange.run? setup events = some next) : next.AwaitsLast := by
  induction events generalizing exchange with
  | nil =>
      cases run
      exact awaitsLast
  | cons event events ih =>
      rcases Option.bind_eq_some_iff.1 run with ⟨between, step, rest⟩
      exact ih (awaitsLast.step step) rest

theorem AwaitsAll.run (awaitsAll : exchange.AwaitsAll) {events : List ExchangeEvent}
    (afresh : exchange.StartsAfresh setup events)
    (run : exchange.run? setup events = some next) : next.AwaitsAll := by
  induction events generalizing exchange with
  | nil =>
      cases run
      exact awaitsAll
  | cons event events ih =>
      rcases Option.bind_eq_some_iff.1 run with ⟨between, step, rest⟩
      rcases afresh between step with ⟨entry, afresh⟩
      exact ih (awaitsAll.step step entry) afresh rest

end Exchange

namespace Controller

variable {setup : Setup}

/-- An answer that is accepted settles the request that was issued last.  Where
delegation was never turned on with an earlier request still unanswered, that is the very
request that it answers: the field shows the text of exactly the date that it holds, or
holds the reading of exactly the text that was to be read. -/
theorem accepted_answer_settles_last_request (locale : Text) (field : HostField)
    (events : List ExchangeEvent) (exchange next : Exchange) (operation : Operation)
    (reached : Exchange.run? setup ⟨start setup locale field, []⟩ events = some exchange)
    (answers : exchange.step? setup (.operation operation) = some next)
    (accepted : (exchange.controller.perform setup operation).answer = .accepted true) :
    ∃ awaited, exchange.controller.awaited? = some awaited ∧
      next.controller.field = exchange.controller.field.settle awaited operation ∧
      exchange.unanswered.getLast? = some awaited.request ∧
      (Exchange.StartsAfresh setup ⟨start setup locale field, []⟩ events →
        exchange.unanswered = [awaited.request]) := by
  have awaitsLast : exchange.AwaitsLast :=
    Exchange.AwaitsLast.run (by simp [Exchange.AwaitsLast, awaited?, start]) reached
  rcases answer_perform_eq_accepted_iff.1 accepted with ⟨awaited, awaiting, completion⟩
  rcases Exchange.step?_cases answers with ⟨_, ⟨⟩, host, -⟩ |
    ⟨_, request, later, ⟨⟩, -, unanswered, rfl⟩ | ⟨_, _, ⟨⟩, -⟩
  · simp [host] at completion
  refine ⟨awaited, awaiting, ?_, ?_, fun afresh => ?_⟩
  · rcases @perform_completion setup exchange.controller _ _ completion with
      ⟨_, awaits, -, performed⟩ | ⟨other, -⟩
    · rw [awaiting] at awaits
      cases awaits
      rw [performed]
    · exact absurd rfl (other awaited awaiting)
  · cases newest : exchange.unanswered.getLast? with
    | none => simp [unanswered] at newest
    | some last => rw [awaitsLast awaited awaiting last newest]
  · have awaitsAll : exchange.AwaitsAll :=
      Exchange.AwaitsAll.run (fun on => absurd rfl on) afresh reached
    have on : exchange.controller.mode.delegation? ≠ none := by
      rcases awaited?_eq_some_iff.1 awaiting with ⟨delegation, mode, -⟩
      simp [mode, Mode.delegation?]
    rcases awaitsAll on request later unanswered with ⟨rfl, awaits⟩
    rw [awaiting] at awaits
    rw [unanswered, ← Option.some.inj awaits]

/-- A first request is given up before delegation starts again; the text shown is then
the one asked for the date that is held. -/
theorem accepted_answer_settles_request_after_silence :
    let setup : Setup := { provider := fun _ => .ok .iso, today := ⟨⟨2013, 1, 12⟩, by decide⟩ }
    let first : Exchange := ⟨start setup "en_US".toList {}, []⟩
    let events : List ExchangeEvent :=
      [.operation (.setPattern (some serverPattern)), .operation (.format (some ⟨2024, 2, 5⟩)),
        .operation (.setPattern none), .silence,
        .operation (.setPattern (some serverPattern)), .operation (.format (some ⟨1999, 11, 31⟩))]
    let answer : Operation := .completeFormat "31 December 1999".toList
    ∃ exchange next, first.run? setup events = some exchange ∧
      exchange.step? setup (.operation answer) = some next ∧
      (exchange.controller.perform setup answer).answer = .accepted true ∧
      first.StartsAfresh setup events ∧
      exchange.unanswered = [.format 1999 12 31] ∧
      next.controller.field = ⟨"31 December 1999".toList, some ⟨1999, 11, 31⟩, 2⟩ := by
  intro setup first events answer
  have afresh : first.StartsAfresh setup events := by decide
  refine ⟨_, _, rfl, rfl, rfl, afresh, ?_⟩
  rcases accepted_answer_settles_last_request "en_US".toList {} events _ _ answer rfl rfl rfl
    with ⟨awaited, awaiting, settled, -, only⟩
  cases awaiting
  exact ⟨only afresh, settled⟩

/-- Where delegation starts again too early, the text of an earlier date is shown for the
date that is held. -/
theorem stale_answer_shows_earlier_date :
    let setup : Setup := { provider := fun _ => .ok .iso, today := ⟨⟨2013, 1, 12⟩, by decide⟩ }
    let first : Exchange := ⟨start setup "en_US".toList {}, []⟩
    let events : List ExchangeEvent :=
      [.operation (.setPattern (some serverPattern)), .operation (.format (some ⟨2024, 2, 5⟩)),
        .operation (.setPattern none),
        .operation (.setPattern (some serverPattern)), .operation (.format (some ⟨1999, 11, 31⟩))]
    let answer : Operation := .completeFormat "5 March 2024".toList
    ∃ exchange next, first.run? setup events = some exchange ∧
      exchange.step? setup (.operation answer) = some next ∧
      (exchange.controller.perform setup answer).answer = .accepted true ∧
      exchange.unanswered.head? = some (.format 2024 3 5) ∧
      exchange.controller.awaited?.map Awaited.request = some (.format 1999 12 31) ∧
      next.controller.field = ⟨"5 March 2024".toList, some ⟨1999, 11, 31⟩, 2⟩ := by
  intro setup first events answer
  exact ⟨_, _, rfl, rfl, rfl, rfl, rfl, rfl⟩

end Controller

end DateDisplay
