import DateDisplay.Pattern.Basic
import DateDisplay.Text.Alphabetic
import DateDisplay.Text.Blank

/-!
# Segments of a text

Reading by a pattern begins with finding out which piece of the text belongs to
which field.  There are three ways to do so:

```text
"05-03"    split at the separator; three pieces are the fields by slot, two are
           day and month in the order of the pattern, one is the day
"0503"     cut by width; up to two digits are the day, up to four are day and
           month, more are all fields
"05Mar24"  walk from field to field, a month name taking a run of letters
```

A text that leaves something over, or does not have such a shape, has no
segments.
-/

namespace DateDisplay.Pattern

/-- A piece of text and the field it belongs to. -/
abbrev Segment := DateField × Text

/-- The fields but the year, in the order of the pattern. -/
def dayAndMonth (pattern : Pattern) : List DateField :=
  pattern.order.toList.filter (· != .year)

/-- The fields of a separated text with this number of pieces. -/
def fieldsOfPieces (pattern : Pattern) : Nat → Option (List DateField)
  | 1 => some [.day]
  | 2 => some pattern.dayAndMonth
  | 3 => some pattern.order.toList
  | _ => none

/-- The segments between separators, trimmed. -/
def split (pattern : Pattern) (separator : Char) (text : Text) : Option (List Segment) :=
  let pieces := (text.splitOn separator).map Text.trim
  (pattern.fieldsOfPieces pieces.length).map (·.zip pieces)

/-- The fields of a packed text of digits with this number of characters. -/
def fieldsOfLength (pattern : Pattern) (length : Nat) : List DateField :=
  if length ≤ 2 then [.day]
  else if length ≤ 4 then pattern.dayAndMonth
  else pattern.order.toList

/-- The width of a field in a packed text with this number of characters.  A text
two characters longer than a pattern with a short year holds a full one. -/
def sliceWidth (pattern : Pattern) (length : Nat) (field : DateField) : Nat :=
  if field = .year ∧ pattern.year = .short ∧ length = pattern.packedWidth + 2 then 4
  else pattern.width field

/-- Cut a text into consecutive pieces of at most the given widths.  The last
pieces may be shorter; nothing may be left over. -/
def cut : List (DateField × Nat) → Text → Option (List Segment)
  | [], [] => some []
  | [], _ :: _ => none
  | (field, width) :: rest, text =>
      (cut rest (text.drop width)).map ((field, text.take width) :: ·)

/-- The segments of a packed text with three numeric fields. -/
def slice (pattern : Pattern) (text : Text) : Option (List Segment) :=
  if text.all Text.isAscii then
    cut ((pattern.fieldsOfLength text.length).map fun field =>
      (field, pattern.sliceWidth text.length field)) text
  else none

/-- The part of a packed text that its first field takes: a month name takes a
run of letters, a number takes digits up to its width. -/
def head (pattern : Pattern) : DateField → Text → Text
  | .month, text => text.takeWhile Text.isAlphabetic
  | field, text => (text.take (pattern.width field)).takeWhile Char.isDigit

/-- The segments from these fields on.  A month name that is missing has no
segment, and neither have fields after the end of the text. -/
def walkFields (pattern : Pattern) : List DateField → Text → Option (List Segment)
  | _, [] => some []
  | [], _ :: _ => none
  | field :: fields, text =>
      let head := pattern.head field text
      let rest := pattern.walkFields fields (text.drop head.length)
      if field = .month ∧ head = [] then rest else rest.map ((field, head) :: ·)

/-- The segments of a packed text with a month name. -/
def walk (pattern : Pattern) (text : Text) : Option (List Segment) :=
  pattern.walkFields pattern.order.toList text

/-- The segments of a text that is trimmed and not empty. -/
def segments (pattern : Pattern) (text : Text) : Option (List Segment) :=
  match pattern.layout with
  | .separated separator => pattern.split separator text
  | .packed => if pattern.usesMonthNames then pattern.walk text else pattern.slice text

/-- Cutting loses nothing. -/
theorem flatten_cut {widths : List (DateField × Nat)} {text : Text} {segments : List Segment}
    (result : cut widths text = some segments) :
    (segments.map Prod.snd).flatten = text := by
  induction widths generalizing text segments with
  | nil =>
      cases text with
      | nil => cases result; rfl
      | cons char text => cases result
  | cons entry rest ih =>
      rcases Option.map_eq_some_iff.1 result with ⟨tail, tailResult, rfl⟩
      simp [ih tailResult, List.take_append_drop]

end DateDisplay.Pattern
