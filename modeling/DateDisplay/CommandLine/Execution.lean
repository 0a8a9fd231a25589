import DateDisplay.CommandLine.Arguments
import DateDisplay.CommandLine.Report
import DateDisplay.Locale.Table

/-!
# Executing a command line

A command line formats a date, parses a text or explains a layout.  Executing it
gives the exit code and what is written to the two output streams:

```text
0  success
1  a malformed pattern, or a text that does not fit
2  arguments that cannot be followed
```

The log, which goes to the error stream too, is left out.  Unless it is turned off, it warns of a
locale that is not known, and of one in whose rendering no layout can be detected, before anything
else is written.
-/

namespace DateDisplay.CommandLine

/-- How a run of the program ends. -/
structure Execution where
  code : UInt32
  /-- What is written to the output stream. -/
  output : Text := []
  /-- What is written to the error stream, apart from the log. -/
  errors : Text := []
  deriving DecidableEq, Repr

namespace Execution

/-- A run that succeeds. -/
def success (output : Text) : Execution where
  code := 0
  output := output

/-- A run that fails with a message. -/
def failure (code : UInt32) (output message : Text) : Execution where
  code := code
  output := output
  errors := message ++ ['\n']

end Execution

/-- How dates are written and read: by the locale's layout or by a pattern. -/
inductive Codec where
  | locale (detector : Detector)
  | pattern (codec : PatternCodec)

namespace Codec

/-- The codec that a configuration asks for. -/
def ofConfig (provider : RendererProvider) (config : Config) : Except PatternError Codec :=
  let detector := Detector.forLocale provider {} config.locale
  match config.pattern with
  | some raw => (Pattern.compile raw).map fun pattern => .pattern ⟨pattern, detector.monthNames⟩
  | none => .ok (.locale detector)

/-- The text of a date. -/
def format (date : CalendarDate) : Codec → Text
  | locale detector => detector.format date
  | pattern codec => codec.format date

/-- The reading of a text. -/
def parse (context : Context) (text : Text) : Codec → ParseOutcome
  | locale detector => detector.parse text
  | pattern codec => codec.parse context text

/-- The report that explains the codec by an example. -/
def explain (date : CalendarDate) : Codec → Report
  | locale detector => .ofLocale detector date
  | pattern codec => .ofPattern codec date

end Codec

/-- Read a text and report on it. -/
def executeParse (codec : Codec) (reference : RealDate) (color : Bool) (text : Text) :
    Execution :=
  let outcome := codec.parse { reference } text
  let output := (Report.ofOutcome text outcome).render color
  match outcome with
  | .invalid =>
      .failure 1 output ("error: could not parse ".toList ++ ArgumentError.quoted text)
  | _ => .success output

/-- Carry out a configuration; `today` fills missing fields if no reference day is
given. -/
def executeConfig (provider : RendererProvider) (today : RealDate) (config : Config) :
    Execution :=
  let reference := config.reference.getD today
  match Codec.ofConfig provider config with
  | .error error => .failure 1 [] ("error: ".toList ++ error.message)
  | .ok codec =>
      match config.command with
      | .format day => .success (codec.format day.date ++ ['\n'])
      | .parse text => executeParse codec reference config.color text
      | .explain => .success ((codec.explain reference.date).render config.color)

/-- Carry out a command line. -/
def execute (provider : RendererProvider) (today : RealDate) (arguments : List Text) :
    Execution :=
  match Invocation.ofArguments arguments with
  | .error error => .failure 2 [] error.message
  | .ok .help => .success (helpText ++ ['\n'])
  | .ok .version => .success (versionText ++ ['\n'])
  | .ok (.run config) => executeConfig provider today config

end DateDisplay.CommandLine
