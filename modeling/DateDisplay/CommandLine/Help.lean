import DateDisplay.Text.Basic

/-!
# Help and version of the command line
-/

namespace DateDisplay.CommandLine

/-- The locale of dates unless another one is given. -/
def defaultLocale : Text :=
  "en_US".toList

/-- Name and version of the program. -/
def versionText : Text :=
  "datepat 0.1.0".toList

/-- The lines of the help text. -/
def helpLines : List String := [
  "datepat 0.1.0",
  "",
  "Format and parse dates through display patterns or a locale's own layout.",
  "",
  "Usage:",
  "  datepat [OPTIONS] format <YYYY-MM-DD>",
  "  datepat [OPTIONS] parse [--] <text...>",
  "  datepat [OPTIONS] explain",
  "",
  "Options:",
  "  -p, --pattern <pattern>    Display pattern, e.g. \"-0d0M0y\" or \" _dmM_y\".",
  "                             Without one the locale's layout is used.",
  "  -l, --locale <tag>         Locale for layout and month names. Default: en_US",
  "  --reference <YYYY-MM-DD>   Date filling fields partial input leaves out.",
  "                             Default: today",
  "  --color                    Force ANSI color output.",
  "  --no-color                 Disable ANSI color output.",
  "  -h, --help                 Show this help message.",
  "  -V, --version              Print version information.",
  "",
  "Environment:",
  "  DATEPAT_LOG                Log filter, e.g. debug. Default: warn",
  "",
  "Exit codes:",
  "  0  Success.",
  "  1  Malformed pattern or text that does not fit it.",
  "  2  Invalid arguments."]

/-- The help text; each of its lines ends with a line break. -/
def helpText : Text :=
  helpLines.flatMap fun line => line.toList ++ ['\n']

end DateDisplay.CommandLine
