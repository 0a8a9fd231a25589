import DateDisplay.CommandLine.Help
import DateDisplay.Controller
import DateDisplay.Date.Iso

/-!
# Arguments of the command line

Arguments are read from left to right.  Options may stand anywhere before `--`;
the first other word is the command, and further words are joined to its input.

```text
-p pattern  --pattern pattern  --pattern=pattern
-l locale   --locale locale    --locale=locale
            --reference date   --reference=date
--color  --no-color  -h  --help  -V  --version  --
```

An option that is given again replaces its earlier value.
-/

namespace DateDisplay.CommandLine

/-- An option with a value. -/
inductive ValueOption where
  | pattern
  | locale
  | reference
  deriving DecidableEq, Repr

/-- The long form of an option. -/
def ValueOption.flag : ValueOption → Text
  | pattern => "--pattern".toList
  | locale => "--locale".toList
  | reference => "--reference".toList

/-- What is wrong with a list of arguments. -/
inductive ArgumentError where
  | missingValue (option : ValueOption)
  | invalidReference (value : Text)
  | unknownOption (argument : Text)
  /-- The pattern asks for a remote authority. -/
  | serverPattern
  /-- There is nothing to format. -/
  | missingDate
  | invalidDate (value : Text)
  /-- Explanations take no input. -/
  | unexpectedInput (input : Text)
  | unknownCommand (command : Text)
  | missingCommand
  deriving DecidableEq, Repr

namespace ArgumentError

/-- A text between straight quotes. -/
def quoted (text : Text) : Text :=
  "'".toList ++ text ++ "'".toList

/-- The message about a date that cannot be read. -/
def dateMessage (name : String) (value : Text) : Text :=
  "error: invalid ".toList ++ name.toList ++ " ".toList ++ quoted value ++
    " (expected YYYY-MM-DD)".toList

/-- The message about arguments that cannot be followed. -/
def message : ArgumentError → Text
  | missingValue option => "error: ".toList ++ option.flag ++ " expects a value".toList
  | invalidReference value => dateMessage "--reference" value
  | unknownOption argument => "error: unknown option ".toList ++ quoted argument
  | serverPattern =>
      "error: ".toList ++ quoted Controller.serverPattern ++
        " needs a remote authority and cannot be used here".toList
  | missingDate => "error: format expects a date".toList
  | invalidDate value => dateMessage "date" value
  | unexpectedInput input => "error: explain takes no input, got ".toList ++ quoted input
  | unknownCommand command =>
      "error: unknown command ".toList ++ quoted command ++ "\n\n".toList ++ helpText
  | missingCommand => "error: no command given\n\n".toList ++ helpText

end ArgumentError

/-- What one argument means where an option may stand. -/
inductive Argument where
  | help
  | version
  | color (isOn : Bool)
  /-- An option whose value is the next argument. -/
  | detached (option : ValueOption)
  /-- An option that brings its value along. -/
  | attached (option : ValueOption) (value : Text)
  /-- All arguments that follow are words. -/
  | endOfOptions
  | unknown (text : Text)
  | word (text : Text)
  deriving DecidableEq, Repr

namespace Argument

/-- The value of an argument `option=value`; the part up to the equals sign may be
given more than once. -/
def attachedValue? (option : ValueOption) (text : Text) : Option Text :=
  let lead := option.flag ++ ['=']
  (Text.after? lead text).map (Text.stripAll lead)

/-- An option that brings its value along. -/
def readAttached? (text : Text) : Option Argument :=
  [ValueOption.pattern, .locale, .reference].findSome? fun option =>
    (attachedValue? option text).map (attached option)

/-- The options without a value, and those whose value is the next argument. -/
def readFlag? (text : Text) : Option Argument :=
  if text = "-h".toList ∨ text = "--help".toList then some help
  else if text = "-V".toList ∨ text = "--version".toList then some version
  else if text = "--color".toList then some (color true)
  else if text = "--no-color".toList then some (color false)
  else if text = "-p".toList ∨ text = ValueOption.pattern.flag then some (detached .pattern)
  else if text = "-l".toList ∨ text = ValueOption.locale.flag then some (detached .locale)
  else if text = ValueOption.reference.flag then some (detached .reference)
  else if text = "--".toList then some endOfOptions
  else none

/-- The meaning of an argument.  A hyphen alone is a word. -/
def ofText (text : Text) : Argument :=
  match (readFlag? text).or (readAttached? text) with
  | some argument => argument
  | none =>
      match text with
      | '-' :: _ :: _ => unknown text
      | _ => word text

end Argument

/-- What the arguments read so far say. -/
structure Given where
  command : Option Text := none
  operands : List Text := []
  pattern : Option Text := none
  locale : Text := defaultLocale
  reference : Option RealDate := none
  color : Bool := false
  deriving DecidableEq

namespace Given

/-- Take the value of an option. -/
def setOption (given : Given) (value : Text) : ValueOption → Except ArgumentError Given
  | .pattern => .ok { given with pattern := some value }
  | .locale => .ok { given with locale := value }
  | .reference =>
      match RealDate.ofIso? value with
      | some day => .ok { given with reference := some day }
      | none => .error (.invalidReference value)

/-- Take a word: the command, or else input for it. -/
def addWord (given : Given) (word : Text) : Given :=
  match given.command with
  | none => { given with command := some word }
  | some _ => { given with operands := given.operands ++ [word] }

end Given

/-- What is to be done. -/
inductive Command where
  | format (day : RealDate)
  | parse (text : Text)
  | explain
  deriving DecidableEq

/-- A command and the settings it works with. -/
structure Config where
  command : Command
  pattern : Option Text
  locale : Text
  reference : Option RealDate
  color : Bool
  deriving DecidableEq

namespace Given

/-- The command of its name and input. -/
def readCommand (command : Option Text) (input : Text) : Except ArgumentError Command :=
  match command with
  | none => .error .missingCommand
  | some command =>
      if command = "format".toList then
        let input := Text.trim input
        if input = [] then .error .missingDate
        else
          match RealDate.ofIso? input with
          | some day => .ok (.format day)
          | none => .error (.invalidDate input)
      else if command = "parse".toList then .ok (.parse input)
      else if command = "explain".toList then
        if input = [] then .ok .explain else .error (.unexpectedInput input)
      else .error (.unknownCommand command)

/-- The configuration that all arguments together ask for. -/
def config (given : Given) : Except ArgumentError Config :=
  if given.pattern = some Controller.serverPattern then .error .serverPattern
  else
    (readCommand given.command ([' '].intercalate given.operands)).map fun command => {
      command, pattern := given.pattern, locale := given.locale,
      reference := given.reference, color := given.color }

end Given

/-- What the arguments ask for. -/
inductive Invocation where
  | help
  | version
  | run (config : Config)
  deriving DecidableEq

/-- Read the arguments that follow what is given. -/
def readArguments (given : Given) : List Text → Except ArgumentError Invocation
  | [] => given.config.map .run
  | argument :: rest =>
      match Argument.ofText argument with
      | .help => .ok .help
      | .version => .ok .version
      | .color isOn => readArguments { given with color := isOn } rest
      | .detached option =>
          match rest with
          | [] => .error (.missingValue option)
          | value :: rest =>
              match given.setOption value option with
              | .ok given => readArguments given rest
              | .error error => .error error
      | .attached option value =>
          match given.setOption value option with
          | .ok given => readArguments given rest
          | .error error => .error error
      | .endOfOptions =>
          ({ given with operands := given.operands ++ rest }).config.map .run
      | .unknown text => .error (.unknownOption text)
      | .word word => readArguments (given.addWord word) rest

/-- What a list of arguments asks for. -/
def Invocation.ofArguments (arguments : List Text) : Except ArgumentError Invocation :=
  readArguments {} arguments

end DateDisplay.CommandLine
