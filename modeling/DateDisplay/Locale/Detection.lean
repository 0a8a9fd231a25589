import DateDisplay.Date.Gregorian
import DateDisplay.Locale.Template
import DateDisplay.Pattern.CenturyWindow
import DateDisplay.Pattern.Field

/-!
# Detecting a layout from one rendering

The order of the fields and the text between them are recovered from the
rendering of a sample day whose three numbers are all different, the 22nd of
November 1987.  The year is looked for first, in full or else by its last two
digits, then the month, then the day, each outside the places already taken.

```text
11/22/1987    ^(\d{1,2})/(\d{1,2})/(\d{1,4})$      month, day, year
22.11.87      ^(\d{1,2})\.(\d{1,2})\.(\d{1,2})$    day, month, short year
```
-/

namespace DateDisplay

/-- The day whose rendering is examined. -/
def sampleDay : RealDate where
  date := ⟨1987, 10, 22⟩
  isReal := by decide

/-- A place in a text. -/
structure Span where
  start : Nat
  length : Nat
  deriving DecidableEq, Repr

namespace Span

/-- The first position after a span. -/
def stop (span : Span) : Nat :=
  span.start + span.length

/-- Whether two spans have no position in common. -/
def Apart (left right : Span) : Prop :=
  left.stop ≤ right.start ∨ right.stop ≤ left.start

instance (left right : Span) : Decidable (Apart left right) :=
  inferInstanceAs (Decidable (_ ∨ _))

end Span

namespace Detection

/-- Where `needle` occurs in the rest of a text that begins at position `start`,
from left to right.  The first `skip` characters belong to the occurrence before,
and an occurrence does not overlap the one before. -/
def occurrencesFrom (needle : Text) : (start skip : Nat) → Text → List Nat
  | _, _, [] => []
  | start, skip + 1, _ :: rest => occurrencesFrom needle (start + 1) skip rest
  | start, 0, char :: rest =>
      if needle.isPrefixOf (char :: rest) then
        start :: occurrencesFrom needle (start + 1) (needle.length - 1) rest
      else occurrencesFrom needle (start + 1) 0 rest

/-- The places where `needle` occurs in a text, from left to right. -/
def occurrences (needle text : Text) : List Span :=
  (occurrencesFrom needle 0 0 text).map (⟨·, needle.length⟩)

/-- The first occurrence of `needle` apart from the places taken. -/
def findFree? (text needle : Text) (taken : List Span) : Option Span :=
  (occurrences needle text).find? fun span => taken.all fun other => span.Apart other

end Detection

/-- Where a rendering of the sample day shows its fields. -/
structure Located where
  day : Span
  month : Span
  year : Span
  /-- Whether the year shows all its digits or the last two. -/
  style : YearStyle
  deriving DecidableEq, Repr

namespace Located

open Detection

/-- The place of the year, and how it is shown. -/
def findYear? (text : Text) : Option (Span × YearStyle) :=
  match findFree? text ['1', '9', '8', '7'] [] with
  | some span => some (span, .full)
  | none => (findFree? text ['8', '7'] []).map fun span => (span, .short)

/-- The fields of the sample day in a rendering of it. -/
def find? (text : Text) : Option Located := do
  let (year, style) ← findYear? text
  let month ← findFree? text ['1', '1'] [year]
  let day ← findFree? text ['2', '2'] [year, month]
  some { day, month, year, style }

/-- The place of a field. -/
def span (located : Located) : DateField → Span
  | .day => located.day
  | .month => located.month
  | .year => located.year

/-- The fields from left to right. -/
def order (located : Located) : FieldOrder :=
  .ofPositions located.day.start located.month.start located.year.start

/-- The largest number of digits of a field. -/
def mostDigits (located : Located) : DateField → Nat
  | .year => match located.style with
    | .full => 4
    | .short => 2
  | _ => 2

/-- The pieces of a text from position `cursor` on, with runs of digits in place
of the fields. -/
def templateFrom (located : Located) (text : Text) : (cursor : Nat) → List DateField → Template
  | cursor, [] => [.literal (text.drop cursor)]
  | cursor, field :: fields =>
      let span := located.span field
      .literal ((text.drop cursor).take (span.start - cursor)) ::
        .digits (located.mostDigits field) :: located.templateFrom text span.stop fields

/-- A text with runs of digits in place of the fields. -/
def template (located : Located) (text : Text) : Template :=
  located.templateFrom text 0 located.order.toList

end Located

/-- What a rendering of the sample day says about a locale. -/
structure DetectedLayout where
  order : FieldOrder
  template : Template
  /-- The window of a short year; a full year has none. -/
  century : Option CenturyWindow
  deriving DecidableEq, Repr

/-- The layout behind a rendering of the sample day; the window reads short years.

Every template is taken to have a regular expression that can be compiled.  A compiler that
limits the size of what it compiles refuses that of a very long rendering, which then has no
layout although its fields are found; this limit is left out. -/
def DetectedLayout.ofRendering? (window : CenturyWindow) (text : Text) : Option DetectedLayout :=
  (Located.find? text).map fun located => {
    order := located.order
    template := located.template text
    century := match located.style with
      | .full => none
      | .short => some window }

end DateDisplay
