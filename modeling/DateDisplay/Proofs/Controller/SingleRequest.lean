import DateDisplay.Proofs.Controller.Exchange

/-!
# One request at a time

The requests and answers of a delegation session are written down as it goes on.
Whatever operations follow each other, the last request of the session is the one
that is awaited, until its answer is accepted, and no other is issued meanwhile.
-/

namespace DateDisplay

open Controller

/-! ## Sessions -/

/-- What the authority notices of a delegation session. -/
inductive SessionEvent where
  /-- A request was issued to it. -/
  | issued (request : Request)
  /-- A completion was accepted from it. -/
  | accepted
  deriving DecidableEq

/-- The events of a delegation session, the first one first. -/
abbrev Session := List SessionEvent

namespace SessionEvent

/-- The event is a request. -/
def isIssued : SessionEvent → Bool
  | issued _ => true
  | accepted => false

/-- The request that is issued. -/
def request? : SessionEvent → Option Request
  | issued request => some request
  | accepted => none

/-- The events that a reply stands for. -/
def ofReply (reply : Reply Controller Result) : Session :=
  reply.request.toList.map issued ++
    if reply.answer = .accepted true then [accepted] else []

end SessionEvent

namespace Session

/-- The last request, while nothing was accepted after it. -/
def outstanding? (session : Session) : Option Request :=
  match session.getLast? with
  | some (.issued request) => some request
  | _ => none

/-- All requests, the first one first. -/
def requests (session : Session) : List Request :=
  session.filterMap SessionEvent.request?

/-- The requests but for a text that is still to be read. -/
def requestsShown (session : Session) : List Request :=
  match session.outstanding? with
  | some (.parse _) => session.requests.dropLast
  | _ => session.requests

/-- The session after a reply.  A session lasts as long as delegation is on. -/
def extend (session : Session) (reply : Reply Controller Result) : Session :=
  if reply.next.mode.delegation?.isSome then session ++ SessionEvent.ofReply reply else []

/-- The session at the end of a run; it is empty where delegation is off. -/
def ofRun (setup : Setup) (controller : Controller) (operations : List Operation) : Session :=
  (controller.run setup operations).foldl extend []

@[simp] theorem outstanding?_nil : outstanding? [] = none := rfl

@[simp] theorem outstanding?_append_issued (session : Session) (request : Request) :
    outstanding? (session ++ [.issued request]) = some request := by
  simp [outstanding?]

@[simp] theorem outstanding?_append_accepted (session : Session) :
    outstanding? (session ++ [.accepted]) = none := by
  simp [outstanding?]

@[simp] theorem requests_append_issued (session : Session) (request : Request) :
    requests (session ++ [.issued request]) = session.requests ++ [request] := by
  simp [requests, SessionEvent.request?]

@[simp] theorem requests_append_accepted (session : Session) :
    requests (session ++ [.accepted]) = session.requests := by
  simp [requests, SessionEvent.request?]

theorem requestsShown_of_not_parse {session : Session}
    (notParse : ∀ text, session.outstanding? ≠ some (.parse text)) :
    session.requestsShown = session.requests := by
  rw [requestsShown]
  split
  · rename_i text outstanding
    exact absurd outstanding (notParse text)
  · rfl

@[simp] theorem requestsShown_append_accepted (session : Session) :
    requestsShown (session ++ [.accepted]) = session.requests := by
  rw [requestsShown_of_not_parse (by simp), requests_append_accepted]

@[simp] theorem requestsShown_append_format (session : Session) (year : Int32)
    (month day : UInt32) :
    requestsShown (session ++ [.issued (.format year month day)]) =
      session.requests ++ [.format year month day] := by
  rw [requestsShown_of_not_parse (by simp), requests_append_issued]

@[simp] theorem requestsShown_append_parse (session : Session) (text : Text) :
    requestsShown (session ++ [.issued (.parse text)]) = session.requests := by
  simp [requestsShown]

theorem getLast?_requests_of_outstanding? {session : Session} {request : Request}
    (outstanding : session.outstanding? = some request) :
    session.requests.getLast? = some request := by
  obtain ⟨before, rfl⟩ : ∃ before, session = before ++ [.issued request] := by
    rw [outstanding?] at outstanding
    split at outstanding
    · rename_i last
      cases outstanding
      exact List.getLast?_eq_some_iff.1 last
    · cases outstanding
  rw [requests_append_issued, List.getLast?_concat]

end Session

/-! ## Sessions and what is awaited -/

/-- What is awaited agrees with the session so far. -/
structure Delegation.Records (delegation : Delegation) (session : Session) : Prop where
  /-- The last request is the one whose answer is awaited. -/
  outstanding : session.outstanding? = delegation.awaited.map Awaited.request
  /-- Every other request was answered. -/
  count : session.countP SessionEvent.isIssued =
    session.count .accepted + delegation.awaited.toList.length
  reading_ne_blank : ∀ text, delegation.awaited = some (.reading text) → Text.trim text ≠ []
  rendering_shown : ∀ date, delegation.awaited = some (.rendering date) →
    delegation.shownByFormat = true
  /-- A rendering was requested last, a text that is still to be read apart. -/
  shown_iff : delegation.shownByFormat = true ↔
    session.requestsShown.getLast?.map Request.role = some .formatting

namespace Delegation.Records

variable {delegation : Delegation} {session : Session}

theorem nil : Records {} [] := by
  constructor <;> simp [Session.requestsShown, Session.requests]

/-- Unless a text is to be read, all requests count for what is shown. -/
theorem requestsShown_eq (records : delegation.Records session)
    (notReading : ∀ text, delegation.awaited ≠ some (.reading text)) :
    session.requestsShown = session.requests := by
  apply Session.requestsShown_of_not_parse
  intro text outstanding
  rw [records.outstanding] at outstanding
  cases awaiting : delegation.awaited with
  | none => simp [awaiting] at outstanding
  | some awaited =>
      cases awaited with
      | rendering date => simp [awaiting, Awaited.request] at outstanding
      | reading other => exact notReading other awaiting

/-- Where nothing is awaited an answer may be asked for. -/
theorem await (records : delegation.Records session) (idle : delegation.awaited = none)
    {field : HostField} {operation : Operation} {awaited : Awaited}
    (asks : operation.asks field = some awaited) :
    (delegation.await awaited).Records (session ++ [.issued awaited.request]) := by
  have awaiting : (delegation.await awaited).awaited = some awaited := by
    cases awaited <;> rfl
  constructor
  · rw [Session.outstanding?_append_issued, awaiting, Option.map_some]
  · have count := records.count
    rw [idle] at count
    simp [awaiting, count, SessionEvent.isIssued]
  · intro text isReading
    rw [awaiting] at isReading
    cases isReading
    exact Operation.trim_ne_nil_of_asks asks
  · intro date isRendering
    rw [awaiting] at isRendering
    cases isRendering
    rfl
  · cases awaited with
    | rendering date => simp [Delegation.await, Awaited.request, Request.role]
    | reading text =>
        rw [Awaited.request, Session.requestsShown_append_parse,
          ← records.requestsShown_eq (by simp [idle])]
        exact records.shown_iff

/-- What is awaited may be accepted. -/
theorem settle (records : delegation.Records session) {awaited : Awaited}
    (awaiting : delegation.awaited = some awaited) :
    (delegation.settle awaited).Records (session ++ [.accepted]) := by
  have idle : (delegation.settle awaited).awaited = none := by
    cases awaited <;> rfl
  constructor
  · rw [Session.outstanding?_append_accepted, idle, Option.map_none]
  · have count := records.count
    rw [awaiting] at count
    simp [idle, count, SessionEvent.isIssued]
  · simp [idle]
  · simp [idle]
  · rw [Session.requestsShown_append_accepted]
    cases awaited with
    | rendering date =>
        rw [← records.requestsShown_eq (by simp [awaiting])]
        exact records.shown_iff
    | reading text =>
        have last : session.requests.getLast? = some (.parse text) := by
          apply Session.getLast?_requests_of_outstanding?
          rw [records.outstanding, awaiting]
          rfl
        simp [last, Delegation.settle, Request.role]

/-- The session goes on by the request that an operation issues, or by the
completion that is accepted of it. -/
theorem next (records : delegation.Records session) (field : HostField)
    (operation : Operation) {accepted : Prop} [Decidable accepted]
    (accepted_iff : accepted ↔ ∃ awaited, delegation.awaited = some awaited ∧
      operation.completes = some awaited.role) :
    (delegation.next field operation).Records
      (session ++ ((delegation.requestOf field operation).toList.map .issued ++
        if accepted then [.accepted] else [])) := by
  cases idle : delegation.awaited with
  | none =>
      have notAccepted : ¬ accepted := by simp [accepted_iff, idle]
      cases asks : operation.asks field with
      | none => simpa [Delegation.next, requestOf, idle, asks, notAccepted] using records
      | some awaited =>
          simpa [Delegation.next, requestOf, idle, asks, notAccepted] using
            records.await idle asks
  | some awaited =>
      by_cases completes : operation.completes = some awaited.role
      · have isAccepted : accepted := accepted_iff.2 ⟨awaited, idle, completes⟩
        simpa [Delegation.next, requestOf, idle, completes, isAccepted] using
          records.settle idle
      · have notAccepted : ¬ accepted := by simp [accepted_iff, idle, completes]
        simpa [Delegation.next, requestOf, idle, completes, notAccepted] using records

end Delegation.Records

namespace Controller

variable {setup : Setup} {controller : Controller} {session : Session}

/-- The session is that of the delegation that is on; where none is on there is no
session. -/
def Records (controller : Controller) (session : Session) : Prop :=
  match controller.mode.delegation? with
  | some delegation => delegation.Records session
  | none => session = []

theorem Records.of_mode {delegation : Delegation} (records : controller.Records session)
    (mode : controller.mode = .delegated delegation) : delegation.Records session := by
  simpa [Records, mode, Mode.delegation?] using records

theorem Records.turnTo (records : controller.Records session) (display : Display) :
    (controller.turnTo setup display).Records
      (session.extend ⟨.done, none, controller.turnTo setup display⟩) := by
  cases display with
  | locale => simp [Records, Session.extend]
  | pattern pattern => simp [Records, Session.extend]
  | remote =>
      rw [turnTo_remote]
      cases on : controller.mode.delegation? with
      | some delegation =>
          simp only [Records, on] at records
          simpa [Records, Session.extend, SessionEvent.ofReply, Mode.delegation?] using records
      | none =>
          simp only [Records, on] at records
          simpa [Records, Session.extend, SessionEvent.ofReply, Mode.delegation?, records] using
            Delegation.Records.nil

/-- Every operation keeps the record. -/
theorem Records.perform (records : controller.Records session) (operation : Operation) :
    (controller.perform setup operation).next.Records
      (session.extend (controller.perform setup operation)) := by
  by_cases setsPattern : ∃ text, operation = .setPattern text
  · rcases setsPattern with ⟨text, rfl⟩
    cases chosen : Display.ofText setup.options.century text with
    | ok display =>
        rw [perform_setPattern_of_ok chosen]
        exact records.turnTo display
    | error error =>
        rw [perform_setPattern_of_error chosen]
        cases on : controller.mode.delegation? <;>
          simp_all [Records, Session.extend, SessionEvent.ofReply]
  · have mode := @mode_perform setup controller operation (not_exists.1 setsPattern)
    cases before : controller.mode with
    | delegated delegation =>
        have accepted_iff := @answer_perform_eq_accepted_iff setup controller operation
        simp only [awaited?_eq, before, Mode.delegation?, Option.bind_some] at accepted_iff
        simpa [Records, mode, before, Mode.next, Mode.delegation?, Session.extend,
          SessionEvent.ofReply, request_perform, Mode.requestOf] using
          (records.of_mode before).next controller.field operation accepted_iff
    | _ => simp [Records, mode, before, Mode.next, Mode.delegation?, Session.extend]

/-- Hence so does every run. -/
theorem Records.run (records : controller.Records session) (operations : List Operation) :
    (controller.final setup operations).Records
      ((controller.run setup operations).foldl Session.extend session) := by
  induction operations generalizing controller session with
  | nil => exact records
  | cons operation operations ih =>
      rw [final_cons, Controller.run, List.foldl_cons]
      exact ih (records.perform operation)

theorem Records.outstanding (records : controller.Records session) :
    session.outstanding? = controller.awaited?.map Awaited.request := by
  rw [awaited?_eq]
  cases on : controller.mode.delegation? with
  | some delegation =>
      simp only [Records, on] at records
      exact records.outstanding
  | none =>
      simp only [Records, on] at records
      rw [records]
      rfl

theorem Records.count (records : controller.Records session) :
    session.countP SessionEvent.isIssued =
      session.count .accepted + controller.awaited?.toList.length := by
  rw [awaited?_eq]
  cases on : controller.mode.delegation? with
  | some delegation =>
      simp only [Records, on] at records
      exact records.count
  | none =>
      simp only [Records, on] at records
      rw [records]
      rfl

/-- At every moment of a run at most one request is in flight. -/
theorem single_request_in_flight (setup : Setup) (locale : Text) (field : HostField)
    (operations : List Operation) (operation : Operation) :
    let controller := (start setup locale field).final setup operations
    let session := Session.ofRun setup (start setup locale field) operations
    let reply := controller.perform setup operation
    (∀ request, reply.request = some request ↔
      (∃ delegation, controller.mode = .delegated delegation ∧ delegation.awaited = none) ∧
        (operation.asks controller.field).map Awaited.request = some request) ∧
    (controller.awaited? = none ↔ session.outstanding? = none) ∧
    (∀ date, controller.awaited? = some (.rendering date) →
      session.outstanding? = some (.format date.year date.monthNumber date.day) ∧
        ∃ delegation, controller.mode = .delegated delegation ∧
          delegation.shownByFormat = true) ∧
    (∀ text, controller.awaited? = some (.reading text) →
      session.outstanding? = some (.parse text) ∧ Text.trim text ≠ []) ∧
    (reply.answer = .accepted true ↔
      ∃ awaited, controller.awaited? = some awaited ∧
        operation.completes = some awaited.role) ∧
    session.countP SessionEvent.isIssued =
      session.count .accepted + controller.awaited?.toList.length := by
  intro controller session reply
  have records : controller.Records session :=
    @Records.run setup (start setup locale field) [] rfl operations
  refine ⟨fun request => ?_, ?_, fun date awaiting => ?_, fun text awaiting => ?_,
    answer_perform_eq_accepted_iff, records.count⟩
  · rw [request_perform, Mode.requestOf_eq_some_iff]
  · rw [records.outstanding, Option.map_eq_none_iff]
  · rcases awaited?_eq_some_iff.1 awaiting with ⟨delegation, mode, awaited⟩
    refine ⟨?_, delegation, mode, (records.of_mode mode).rendering_shown date awaited⟩
    rw [records.outstanding, awaiting]
    rfl
  · rcases awaited?_eq_some_iff.1 awaiting with ⟨delegation, mode, awaited⟩
    refine ⟨?_, (records.of_mode mode).reading_ne_blank text awaited⟩
    rw [records.outstanding, awaiting]
    rfl

end Controller

end DateDisplay
