import DateDisplay.Text.Basic

/-!
# Names of months and weekdays

What a language calls the months, from January on, and the days of the week,
from Sunday on.
-/

namespace DateDisplay

/-- The names of months and weekdays, in full and shortened. -/
structure CalendarNames where
  months : List Text
  shortMonths : List Text
  weekdays : List Text
  shortWeekdays : List Text
  deriving DecidableEq, Repr

namespace CalendarNames

/-- The English names of the months. -/
def englishMonths : List String :=
  ["January", "February", "March", "April", "May", "June", "July", "August",
    "September", "October", "November", "December"]

/-- The English names; a short name is the first three letters. -/
def english : CalendarNames where
  months := englishMonths.map String.toList
  shortMonths :=
    ["Jan", "Feb", "Mar", "Apr", "May", "Jun", "Jul", "Aug", "Sep", "Oct", "Nov",
      "Dec"].map String.toList
  weekdays :=
    ["Sunday", "Monday", "Tuesday", "Wednesday", "Thursday", "Friday",
      "Saturday"].map String.toList
  shortWeekdays :=
    ["Sun", "Mon", "Tue", "Wed", "Thu", "Fri", "Sat"].map String.toList

end CalendarNames

end DateDisplay
