import DateDisplay.HostField
import DateDisplay.Text.Blank

/-!
# Delegation to a remote authority

A remote authority formats and parses dates, but answers later.  A `Delegation`
answers the field at once with a placeholder and waits for at most one answer:

```text
              format date: request, show the ISO date
  waiting for nothing ──────────────────────────────▶ waiting for a rendering
              parse text: request, pending
  waiting for nothing ──────────────────────────────▶ waiting for a reading
              completion of that kind
  waiting for nothing ◀────────────────────────────── waiting
```

While an answer is awaited nothing new is requested.  Parsing then gives back the
date being formatted, and formatting the text being parsed.
-/

namespace DateDisplay

/-- What the remote authority is asked for. -/
inductive Request where
  /-- A rendering of a date; the month counts from one. -/
  | format (year : Int32) (month day : UInt32)
  /-- A reading of a text. -/
  | parse (text : Text)
  deriving DecidableEq, Repr

/-- Which answer is awaited. -/
inductive Awaited where
  /-- The rendering of a date. -/
  | rendering (date : CalendarDate)
  /-- The reading of a text. -/
  | reading (text : Text)
  deriving DecidableEq, Repr

/-- The request for an answer. -/
def Awaited.request : Awaited → Request
  | rendering date => .format date.year date.monthNumber date.day
  | reading text => .parse text

/-- The direction of a request. -/
inductive Role where
  | formatting
  | parsing
  deriving DecidableEq, Repr

/-- The direction of the request for an answer. -/
def Awaited.role : Awaited → Role
  | rendering _ => .formatting
  | reading _ => .parsing

/-- What a call answers at once, the request it issues if any, and the state it
leaves behind. -/
structure Reply (State Answer : Type) where
  answer : Answer
  request : Option Request
  next : State

/-- One stretch of delegation. -/
structure Delegation where
  /-- The answer that is awaited. -/
  awaited : Option Awaited := none
  /-- Whether the field's text was last made by formatting. -/
  shownByFormat : Bool := false
  deriving DecidableEq, Repr

namespace Delegation

/-- The text of a date: its ISO form, until the authority's rendering arrives. -/
def format (delegation : Delegation) (date : CalendarDate) : Reply Delegation Text :=
  match delegation.awaited with
  | some (.reading text) => ⟨text, none, delegation⟩
  | some (.rendering pending) => ⟨pending.iso, none, delegation⟩
  | none =>
      let awaited := .rendering date
      ⟨date.iso, some awaited.request, ⟨some awaited, true⟩⟩

/-- The reading of a text: pending, until the authority's reading arrives. -/
def parse (delegation : Delegation) (text : Text) : Reply Delegation ParseOutcome :=
  match delegation.awaited with
  | some (.rendering pending) => ⟨.parsed pending, none, delegation⟩
  | some (.reading _) => ⟨.pending, none, delegation⟩
  | none =>
      if Text.trim text = [] then ⟨.empty, none, delegation⟩
      else
        let awaited := .reading text
        ⟨.pending, some awaited.request, { delegation with awaited := some awaited }⟩

/-- Take the authority's rendering: the field shows it and holds the date.
`none` if no rendering is awaited. -/
def completeFormat? (delegation : Delegation) (field : HostField) (text : Text) :
    Option (Delegation × HostField) :=
  match delegation.awaited with
  | some (.rendering date) =>
      some ({ delegation with awaited := none }, (field.display text).commit date)
  | _ => none

/-- Take the authority's reading: the field holds the date, if there is one.
`none` if no reading is awaited. -/
def completeParse? (delegation : Delegation) (field : HostField)
    (date : Option CalendarDate) : Option (Delegation × HostField) :=
  match delegation.awaited with
  | some (.reading _) =>
      some ({ delegation with awaited := none, shownByFormat := false },
        date.elim field field.commit)
  | _ => none

/-- The field after delegation has ended.  A date still waiting for its rendering
is the one the field shows, so it is committed; and what formatting has shown is
shown again by the codec that takes over. -/
def leave (delegation : Delegation) (field : HostField)
    (formatValue : Option CalendarDate → Text) : HostField :=
  let field :=
    match delegation.awaited with
    | some (.rendering pending) =>
        if field.value = some pending then field else field.commit pending
    | _ => field
  if delegation.shownByFormat then field.display (formatValue field.value) else field

end Delegation

end DateDisplay
