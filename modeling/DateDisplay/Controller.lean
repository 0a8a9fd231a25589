import DateDisplay.Delegation
import DateDisplay.Locale.Detector
import DateDisplay.Pattern.Grammar
import DateDisplay.Pattern.Reading

/-!
# The controller of a date field

All formatting and parsing of a field goes through its controller.  It works in
one of three modes: the layout of the locale, a display pattern, or delegation to
a remote authority.

A change of the locale is followed at once only in the first mode.  Otherwise the
detector is stale until a mode needs it again: the locale's own layout, or a
pattern that shows the locale's month names.

`perform` is one operation on a controller, and `run` performs a list of them.
-/

namespace DateDisplay

/-- What a controller depends on and does not change. -/
structure Setup where
  provider : RendererProvider
  options : Options := {}
  /-- Fills the fields that partial input leaves out. -/
  today : RealDate

/-- How the field's dates are written and read. -/
inductive Mode where
  /-- By the locale's own layout. -/
  | locale
  /-- By a display pattern. -/
  | pattern (codec : PatternCodec)
  /-- By a remote authority. -/
  | delegated (delegation : Delegation)

/-- A field and the way its dates are written and read. -/
structure Controller where
  field : HostField
  /-- The locale announced last. -/
  locale : Text
  detector : Detector
  /-- Whether the locale has changed since the detector was made. -/
  stale : Bool := false
  mode : Mode := .locale

namespace Controller

/-- The display pattern that asks for delegation. -/
def serverPattern : Text :=
  "$server".toList

/-- The controller of a field in a locale. -/
def start (setup : Setup) (locale : Text) (field : HostField) : Controller where
  field := field
  locale := locale
  detector := .forLocale setup.provider setup.options locale

/-- The compiled pattern, in pattern mode. -/
def pattern? (controller : Controller) : Option Pattern :=
  match controller.mode with
  | .pattern codec => some codec.pattern
  | _ => none

/-- The answer that is awaited, in delegated mode. -/
def awaited? (controller : Controller) : Option Awaited :=
  match controller.mode with
  | .delegated delegation => delegation.awaited
  | _ => none

/-- Make the detector of the locale announced last. -/
def rebuildDetector (setup : Setup) (controller : Controller) : Controller :=
  { controller with
    detector := .forLocale setup.provider setup.options controller.locale
    stale := false }

/-- Make the detector of the locale announced last, if it is not there yet. -/
def refreshDetector (setup : Setup) (controller : Controller) : Controller :=
  if controller.stale then controller.rebuildDetector setup else controller

/-- Go over to a mode that writes values with `formatValue`, leaving delegation if
it was on. -/
def switch (controller : Controller) (mode : Mode)
    (formatValue : Option CalendarDate → Text) : Controller :=
  let field :=
    match controller.mode with
    | .delegated delegation => delegation.leave controller.field formatValue
    | _ => controller.field
  { controller with mode, field }

/-- Show dates in the locale's own layout. -/
def useLocale (setup : Setup) (controller : Controller) : Controller :=
  let controller := controller.refreshDetector setup
  controller.switch .locale controller.detector.formatValue

/-- Show dates by a pattern, with the month names of the locale. -/
def usePattern (setup : Setup) (controller : Controller) (pattern : Pattern) : Controller :=
  let controller :=
    if pattern.usesMonthNames then controller.refreshDetector setup else controller
  let codec : PatternCodec := ⟨pattern, controller.detector.monthNames⟩
  controller.switch (.pattern codec) codec.formatValue

/-- Hand dates to the remote authority.  Delegation that is on already goes on. -/
def delegate (controller : Controller) : Controller :=
  match controller.mode with
  | .delegated _ => controller
  | _ => { controller with mode := .delegated {} }

/-- Set the display pattern.  None, or an empty one, stands for the locale's
layout; one that does not compile changes nothing. -/
def setPattern (setup : Setup) (controller : Controller) (pattern : Option Text) :
    Except PatternError Controller :=
  let raw := pattern.getD []
  if raw = [] then .ok (controller.useLocale setup)
  else if raw = serverPattern then .ok controller.delegate
  else (Pattern.compileWith setup.options.century raw).map (controller.usePattern setup)

/-- Announce a locale.  In the locale's own layout a date that is shown is shown
again in the new one. -/
def changeLocale (setup : Setup) (controller : Controller) (locale : Text) : Controller :=
  if locale = controller.locale then controller
  else
    match controller.mode with
    | .locale =>
        let shown := controller.detector.parse controller.field.text
        let rebuilt := rebuildDetector setup { controller with locale }
        match shown with
        | .parsed date =>
            { rebuilt with field := rebuilt.field.display (rebuilt.detector.format date) }
        | _ => rebuilt
    | _ => { controller with locale, stale := true }

/-- The text of a date. -/
def format (controller : Controller) (date : CalendarDate) : Reply Controller Text :=
  match controller.mode with
  | .locale => ⟨controller.detector.format date, none, controller⟩
  | .pattern codec => ⟨codec.format date, none, controller⟩
  | .delegated delegation =>
      let reply := delegation.format date
      ⟨reply.answer, reply.request, { controller with mode := .delegated reply.next }⟩

/-- The text of a value; no value has no text. -/
def formatValue (controller : Controller) : Option CalendarDate → Reply Controller Text
  | some date => controller.format date
  | none => ⟨[], none, controller⟩

/-- The reading of a text. -/
def parse (setup : Setup) (controller : Controller) (text : Text) :
    Reply Controller ParseOutcome :=
  match controller.mode with
  | .locale => ⟨controller.detector.parse text, none, controller⟩
  | .pattern codec =>
      ⟨codec.parse (.forValue setup.today controller.field.value) text, none, controller⟩
  | .delegated delegation =>
      let reply := delegation.parse text
      ⟨reply.answer, reply.request, { controller with mode := .delegated reply.next }⟩

/-- Take the authority's rendering of a date; `none` if none is awaited. -/
def completeFormat? (controller : Controller) (text : Text) : Option Controller :=
  match controller.mode with
  | .delegated delegation =>
      (delegation.completeFormat? controller.field text).map fun (delegation, field) =>
        { controller with mode := .delegated delegation, field }
  | _ => none

/-- Take the authority's reading of a text; `none` if none is awaited. -/
def completeParse? (controller : Controller) (date : Option CalendarDate) :
    Option Controller :=
  match controller.mode with
  | .delegated delegation =>
      (delegation.completeParse? controller.field date).map fun (delegation, field) =>
        { controller with mode := .delegated delegation, field }
  | _ => none

/-- What can happen to a controller and its field. -/
inductive Operation where
  | setPattern (pattern : Option Text)
  | changeLocale (locale : Text)
  | format (value : Option CalendarDate)
  | parse (text : Text)
  | completeFormat (text : Text)
  | completeParse (date : Option CalendarDate)
  /-- The user types a text into the field. -/
  | typeText (text : Text)
  /-- The host sets the field's value. -/
  | setValue (value : Option CalendarDate)
  /-- The host lets the field show its value. -/
  | redisplay
  deriving DecidableEq, Repr

/-- What an operation answers. -/
inductive Result where
  | done
  | failed (error : PatternError)
  | text (text : Text)
  | outcome (outcome : ParseOutcome)
  /-- Whether a completion was awaited. -/
  | accepted (isAwaited : Bool)
  deriving DecidableEq, Repr

/-- Perform one operation. -/
def perform (setup : Setup) (controller : Controller) : Operation → Reply Controller Result
  | .setPattern pattern =>
      match controller.setPattern setup pattern with
      | .ok next => ⟨.done, none, next⟩
      | .error error => ⟨.failed error, none, controller⟩
  | .changeLocale locale => ⟨.done, none, controller.changeLocale setup locale⟩
  | .format value =>
      let reply := controller.formatValue value
      ⟨.text reply.answer, reply.request, reply.next⟩
  | .parse text =>
      let reply := controller.parse setup text
      ⟨.outcome reply.answer, reply.request, reply.next⟩
  | .completeFormat text =>
      let next := controller.completeFormat? text
      ⟨.accepted next.isSome, none, next.getD controller⟩
  | .completeParse date =>
      let next := controller.completeParse? date
      ⟨.accepted next.isSome, none, next.getD controller⟩
  | .typeText text =>
      ⟨.done, none, { controller with field := controller.field.display text }⟩
  | .setValue value =>
      ⟨.done, none, { controller with field := { controller.field with value } }⟩
  | .redisplay =>
      let reply := controller.formatValue controller.field.value
      let shown := reply.next.field.display reply.answer
      ⟨.done, reply.request, { reply.next with field := shown }⟩

/-- Perform operations one after the other, keeping every reply. -/
def run (setup : Setup) (controller : Controller) :
    List Operation → List (Reply Controller Result)
  | [] => []
  | operation :: operations =>
      let reply := controller.perform setup operation
      reply :: run setup reply.next operations

end Controller

end DateDisplay
