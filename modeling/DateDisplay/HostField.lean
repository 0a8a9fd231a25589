import DateDisplay.Date.Basic

/-!
# The host's input field

A field shows a text and holds a value.  It counts how often a value was committed
to it by the controller.
-/

namespace DateDisplay

/-- An input field for a date. -/
structure HostField where
  /-- What is shown or typed. -/
  text : Text := []
  value : Option CalendarDate := none
  /-- How often a value was committed. -/
  commits : Nat := 0
  deriving DecidableEq, Repr

namespace HostField

/-- Show a text. -/
def display (field : HostField) (text : Text) : HostField :=
  { field with text }

/-- Hold a date. -/
def commit (field : HostField) (date : CalendarDate) : HostField :=
  { field with value := some date, commits := field.commits + 1 }

@[simp] theorem value_display (field : HostField) (text : Text) :
    (field.display text).value = field.value := rfl

@[simp] theorem commits_display (field : HostField) (text : Text) :
    (field.display text).commits = field.commits := rfl

@[simp] theorem text_display (field : HostField) (text : Text) :
    (field.display text).text = text := rfl

@[simp] theorem value_commit (field : HostField) (date : CalendarDate) :
    (field.commit date).value = some date := rfl

@[simp] theorem commits_commit (field : HostField) (date : CalendarDate) :
    (field.commit date).commits = field.commits + 1 := rfl

@[simp] theorem text_commit (field : HostField) (date : CalendarDate) :
    (field.commit date).text = field.text := rfl

end HostField

end DateDisplay
