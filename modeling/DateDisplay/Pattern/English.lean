import DateDisplay.Locale.Names
import DateDisplay.Pattern.Grammar
import DateDisplay.Pattern.Reading

/-!
# Patterns with English month names

One call each for writing and reading a date by the text of a pattern.
-/

namespace DateDisplay.Pattern

/-- The codec of a pattern text with English month names. -/
def englishCodec (raw : Text) : Except PatternError PatternCodec :=
  (compile raw).map fun pattern => ⟨pattern, CalendarNames.english.months⟩

/-- A date as the pattern text shows it. -/
def formatEnglish (raw : Text) (date : CalendarDate) : Except PatternError Text :=
  (englishCodec raw).map fun codec => codec.format date

/-- Read a text by the pattern text. -/
def parseEnglish (raw : Text) (context : Context) (text : Text) :
    Except PatternError ParseOutcome :=
  (englishCodec raw).map fun codec => codec.parse context text

end DateDisplay.Pattern
