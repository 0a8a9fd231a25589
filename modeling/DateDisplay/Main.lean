import DateDisplay.CommandLine.Execution
import Std.Time.Format

/-!
# The program

Runs the command line on the locales of the table and the current date.  No log is written.
-/

namespace DateDisplay

/-- The first day of 1970, for want of a clock. -/
def epoch : RealDate where
  date := ⟨1970, 0, 1⟩
  isReal := by decide

/-- The current date. -/
def today : IO RealDate := do
  let now ← Std.Time.PlainDate.now
  let day := RealDate.ofNumbers? now.year.toInt now.month.toNat now.day.toNat
  return day.getD epoch

end DateDisplay

/-- Run the command line with these arguments. -/
def main (arguments : List String) : IO UInt32 := do
  let execution :=
    DateDisplay.CommandLine.execute DateDisplay.LocaleTable.provider (← DateDisplay.today)
      (arguments.map String.toList)
  IO.print (String.ofList execution.output)
  IO.eprint (String.ofList execution.errors)
  return execution.code
