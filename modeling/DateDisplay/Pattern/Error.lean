import DateDisplay.Pattern.Field
import DateDisplay.Text.Decimal

/-!
# Faults of a pattern

Every way in which a text fails to be a display pattern, and how a message says
so.
-/

namespace DateDisplay

/-- What is wrong with a text that is no pattern. -/
inductive PatternFault where
  /-- There is no text. -/
  | empty
  /-- The text has a number of characters that no pattern has. -/
  | invalidLength (length : Nat)
  /-- Two characters name no field style. -/
  | unknownToken (token : Text)
  /-- A field is named a second time, so another one is missing. -/
  | duplicateField (field : DateField)
  /-- The separator could be mistaken for a part of a field. -/
  | invalidSeparator (separator : Char)
  /-- The text after the fields is no century window. -/
  | malformedCentury (suffix : Text)
  /-- There is a century window, but no short year to read with it. -/
  | centuryWithoutShortYear
  deriving DecidableEq, Repr

/-- A fault and the text that has it. -/
structure PatternError where
  pattern : Text
  fault : PatternFault
  deriving DecidableEq, Repr

namespace PatternError

/-- A text between backquotes. -/
def quoted (text : Text) : Text :=
  "`".toList ++ text ++ "`".toList

/-- The message about a faulty pattern. -/
def message (error : PatternError) : Text :=
  match error.fault with
  | .empty => "date pattern is empty".toList
  | .invalidLength length =>
      "date pattern ".toList ++ quoted error.pattern ++ " has length ".toList ++
        Decimal.digits length ++ ", expected 6, 7, 11 or 12 characters".toList
  | .unknownToken token =>
      "unrecognized field token ".toList ++ quoted token ++ " in date pattern ".toList ++
        quoted error.pattern
  | .duplicateField field =>
      field.name ++ " appears more than once in date pattern ".toList ++ quoted error.pattern
  | .invalidSeparator separator =>
      "separator ".toList ++ quoted [separator] ++ " in date pattern ".toList ++
        quoted error.pattern ++ " clashes with field content".toList
  | .malformedCentury suffix =>
      "malformed century suffix ".toList ++ quoted suffix ++ " in date pattern ".toList ++
        quoted error.pattern
  | .centuryWithoutShortYear =>
      "date pattern ".toList ++ quoted error.pattern ++
        " has a century suffix but no short year field".toList

end PatternError

end DateDisplay
