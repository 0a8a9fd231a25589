import DateDisplay.Locale.Detector
import DateDisplay.Pattern.Codec

/-!
# Reports

A report is a list of lines, and a line a list of fragments.  A fragment may have
a style, which colour output writes as an escape sequence around its text, and a
width that it is padded to.
-/

namespace DateDisplay

/-- What a fragment of a report is about. -/
inductive ReportStyle where
  | title
  | heading
  | key
  | result
  | problem
  | note
  deriving DecidableEq, Repr

/-- The parameters of the escape sequence for a style. -/
def ReportStyle.parameters : ReportStyle → Text
  | title => "1;36".toList
  | heading => "90".toList
  | key => "1".toList
  | result => "32".toList
  | problem => "33".toList
  | note => "2".toList

/-- A piece of a line. -/
structure Fragment where
  text : Text
  style : Option ReportStyle := none
  /-- The fragment is filled up with spaces to this number of characters, those of
  escape sequences counting too. -/
  width : Nat := 0
  deriving DecidableEq, Repr

namespace Fragment

/-- A fragment without a style. -/
def plain (text : Text) : Fragment :=
  { text }

/-- A fragment with a style. -/
def styled (style : ReportStyle) (text : Text) : Fragment :=
  { text, style := some style }

/-- Fill a fragment up to a width. -/
def padTo (fragment : Fragment) (width : Nat) : Fragment :=
  { fragment with width }

/-- The escape sequence that selects a graphic rendition by its parameters. -/
def escapeSequence (parameters : Text) : Text :=
  '\x1b' :: '[' :: parameters ++ ['m']

/-- The characters of a fragment, with or without colour. -/
def render (color : Bool) (fragment : Fragment) : Text :=
  let shown :=
    match fragment.style, color with
    | some style, true =>
        escapeSequence style.parameters ++ fragment.text ++ escapeSequence ['0']
    | _, _ => fragment.text
  shown.rightpad fragment.width ' '

end Fragment

/-- Lines of fragments. -/
abbrev Report := List (List Fragment)

namespace Report

/-- The characters of a report; each of its lines ends with a line break. -/
def render (color : Bool) (report : Report) : Text :=
  report.flatMap fun line => line.flatMap (Fragment.render color) ++ ['\n']

/-- Two spaces in front of a line. -/
def indented (line : List Fragment) : List Fragment :=
  .plain [' ', ' '] :: line

/-- A title after an empty line. -/
def titled (text : Text) : Report :=
  [[], [.styled .title ("⚙  ".toList ++ text)]]

/-- The heading of a section after an empty line. -/
def headed (name : String) : Report :=
  [[], [.styled .heading ("━━━ ".toList ++ name.toList ++ " ━━━".toList)]]

/-- A name, padded to a column, and what it stands for. -/
def entry (column : Nat) (name : String) (content : Fragment) : List Fragment :=
  indented [(Fragment.plain name.toList).padTo column, .plain [' '], content]

/-- A date and how it is shown. -/
def sample (date : CalendarDate) (shown : Text) : Report :=
  headed "Example" ++
    [indented [.plain (date.iso ++ " → ".toList), .styled .result shown]]

/-- The report on reading a text. -/
def ofOutcome (text : Text) : ParseOutcome → Report
  | .parsed date => [[.styled .result date.iso]]
  | .empty => [[.styled .note "(empty)".toList]]
  | .pending => [[.styled .note "(pending)".toList]]
  | .invalid =>
      [[.styled .problem
        ("✗ \"".toList ++ text ++ "\" does not fit the display pattern".toList)]]

/-- The style of a field, by its name. -/
def styleLabel (pattern : Pattern) : DateField → Text
  | .day => pattern.day.label
  | .month => pattern.month.label
  | .year => pattern.year.label

/-- The separator, or why there is none. -/
def separator (layout : Pattern.Layout) : Fragment :=
  match layout.separator? with
  | some separator => .plain ("'".toList ++ [separator] ++ "'".toList)
  | none => .styled .note "none (fixed-width fields)".toList

/-- The fields of a pattern, numbered from the left. -/
def fields (pattern : Pattern) : Report :=
  (pattern.order.toList.zipIdx 1).map fun (field, slot) =>
    indented [
      .plain (Decimal.digits slot ++ ". ".toList),
      (Fragment.styled .key field.name).padTo 6,
      .plain [' '],
      .styled .note (styleLabel pattern field)]

/-- How a century window reads its lowest, its boundary and its highest year. -/
def century (window : CenturyWindow) : Report :=
  let boundary := window.boundary.toNat
  let resolved := fun (year : Nat) =>
    Decimal.padded 2 year ++ " → ".toList ++
      Decimal.signed (window.resolve (.ofNat year)).toInt
  headed "Century" ++ [indented [
    .plain "suffix ".toList,
    .styled .key window.suffix,
    .plain ("  │  ".toList ++ resolved 0 ++ "  │  ".toList ++ resolved boundary ++
      "  │  ".toList ++ resolved 99)]]

/-- The report on a pattern. -/
def ofPattern (codec : PatternCodec) (date : CalendarDate) : Report :=
  let pattern := codec.pattern
  let names :=
    "month names: ".toList ++ ", ".toList.intercalate codec.monthNames
  titled ("Pattern: \"".toList ++ pattern.raw ++ "\"".toList) ++
    headed "Layout" ++
    [entry 10 "layout" (.plain pattern.layout.label),
      entry 10 "separator" (separator pattern.layout)] ++
    headed "Fields" ++ fields pattern ++
    pattern.century.elim [] century ++
    sample date (codec.format date) ++
    (if pattern.usesMonthNames then [indented [.styled .note names]] else []) ++
    [[]]

/-- The report on the layout detected for a locale. -/
def detected : Option DetectedLayout → Report
  | some layout =>
      let names := layout.order.toList.map DateField.name
      [entry 6 "order" (.plain (" · ".toList.intercalate names)),
        entry 6 "regex" (.styled .note layout.template.regex)]
  | none => [
      indented [.styled .problem
        "Could not locate day, month and year in the locale's rendering".toList],
      indented [.styled .note
        "Every parse will be rejected; set a display pattern instead".toList]]

/-- The report on a locale. -/
def ofLocale (detector : Detector) (date : CalendarDate) : Report :=
  titled ("Locale: ".toList ++ detector.locale) ++
    headed "Detected layout" ++ detected detector.layout ++
    sample date (detector.format date) ++
    [[]]

end Report

end DateDisplay
