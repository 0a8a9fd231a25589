import DateDisplay.Pattern.Grammar

/-!
# Named settings of a pattern

`PatternSettings` states a pattern through named settings and writes the text
that the compiler reads.  Settings that cannot hold together are reconciled when
they are made: unpadded numbers need a separator, and giving up the separator
pads them.
-/

namespace DateDisplay

/-- The settings of a pattern; at first `YYYY-MM-DD`. -/
structure PatternSettings where
  separator : Option Char := some '-'
  day : DayStyle := .zeroPadded
  month : MonthStyle := .zeroPadded
  year : YearStyle := .full
  /-- The window of a short year. -/
  century : CenturyWindow := {}
  order : FieldOrder := .yearMonthDay
  deriving DecidableEq, Repr

namespace PatternSettings

/-- Put a separator between the fields. -/
def withSeparator (settings : PatternSettings) (separator : Char) : PatternSettings :=
  { settings with separator := some separator }

/-- Put nothing between the fields; numbers are then padded. -/
def withoutSeparator (settings : PatternSettings) : PatternSettings :=
  { settings with
    separator := none
    day := .zeroPadded
    month := if settings.month = .bare then .zeroPadded else settings.month }

/-- Put a hyphen between the fields if nothing is there yet. -/
def requireSeparator (settings : PatternSettings) : PatternSettings :=
  { settings with separator := settings.separator.or (some '-') }

/-- Write days with two digits, or as they are. -/
def withPaddedDay (settings : PatternSettings) : Bool → PatternSettings
  | true => { settings with day := .zeroPadded }
  | false => requireSeparator { settings with day := .bare }

/-- Write months as numbers, with two digits or as they are. -/
def withPaddedMonth (settings : PatternSettings) : Bool → PatternSettings
  | true => { settings with month := .zeroPadded }
  | false => requireSeparator { settings with month := .bare }

/-- Write months by name. -/
def withMonthNames (settings : PatternSettings) : PatternSettings :=
  { settings with month := .name }

/-- Write the last two digits of years, or all. -/
def withShortYear (settings : PatternSettings) (short : Bool) : PatternSettings :=
  { settings with year := if short then .short else .full }

/-- Read short years by this window. -/
def withCentury (settings : PatternSettings) (window : CenturyWindow) : PatternSettings :=
  { settings with century := window }

/-- Show the fields in this order. -/
def withOrder (settings : PatternSettings) (order : FieldOrder) : PatternSettings :=
  { settings with order }

/-- What the settings say about the fields. -/
def fields (settings : PatternSettings) : Pattern.Fields :=
  ⟨settings.order, settings.day, settings.month, settings.year⟩

/-- The pattern text: separator, tokens, and the window of a short year. -/
def text (settings : PatternSettings) : Text :=
  settings.separator.toList ++ settings.fields.text ++
    match settings.year with
    | .short => settings.century.suffix
    | .full => []

/-- Compile the pattern text of the settings. -/
def compile (settings : PatternSettings) : Except PatternError Pattern :=
  Pattern.compileWith settings.century settings.text

/-- One change of the settings. -/
inductive Change where
  | separator (separator : Char)
  | noSeparator
  | paddedDay (padded : Bool)
  | paddedMonth (padded : Bool)
  | monthNames
  | shortYear (short : Bool)
  | century (window : CenturyWindow)
  | order (order : FieldOrder)

/-- The settings after one change. -/
def apply (settings : PatternSettings) : Change → PatternSettings
  | .separator separator => settings.withSeparator separator
  | .noSeparator => settings.withoutSeparator
  | .paddedDay padded => settings.withPaddedDay padded
  | .paddedMonth padded => settings.withPaddedMonth padded
  | .monthNames => settings.withMonthNames
  | .shortYear short => settings.withShortYear short
  | .century window => settings.withCentury window
  | .order order => settings.withOrder order

/-- The settings at the start and after each of a list of changes. -/
def history (settings : PatternSettings) : List Change → List PatternSettings
  | [] => [settings]
  | change :: changes => settings :: history (settings.apply change) changes

/-! ## Common patterns -/

/-- Dates such as `2024-03-05`. -/
def isoDate : PatternSettings := {}

/-- Dates such as `05.03.2024`. -/
def dottedDate : PatternSettings :=
  isoDate.withOrder .dayMonthYear |>.withSeparator '.'

/-- Dates such as `5.3.24`, read as the years from 1940 to 2039. -/
def shortDottedDate : PatternSettings :=
  dottedDate.withPaddedDay false |>.withPaddedMonth false |>.withShortYear true
    |>.withCentury (.reduced 21 40 false)

/-- Dates such as `3/5/2024`. -/
def slashedDate : PatternSettings :=
  isoDate.withOrder .monthDayYear |>.withSeparator '/' |>.withPaddedDay false
    |>.withPaddedMonth false

/-- Dates such as `20240305`. -/
def packedDate : PatternSettings :=
  isoDate.withoutSeparator

end PatternSettings

end DateDisplay
