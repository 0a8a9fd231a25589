import DateDisplay.Date.Gregorian

/-!
# What reading a partial date falls back on

A text may leave fields out.  They are taken from a reference day, except that a
month name nobody knows keeps the month of the field's value, where it has one.
-/

namespace DateDisplay

/-- Where the fields come from that a text does not say. -/
structure Context where
  /-- Fills the fields that partial input leaves out. -/
  reference : RealDate
  /-- Taken for a month name that matches nothing; without one, the month of the
  reference day is. -/
  fallbackMonth : Option UInt32 := none
  deriving DecidableEq

namespace Context

/-- The context for a field that holds `value` on the day `today`. -/
def forValue (today : RealDate) (value : Option CalendarDate) : Context :=
  ⟨today, value.map (·.month)⟩

/-- The month of a name that matches nothing. -/
def unnamedMonth (context : Context) : UInt32 :=
  context.fallbackMonth.getD context.reference.date.month

end Context

end DateDisplay
