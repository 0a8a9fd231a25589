import DateDisplay.Date.Basic
import DateDisplay.Locale.Detection
import DateDisplay.Locale.Renderer
import DateDisplay.Text.Blank

/-!
# Dates in a locale's own layout

A `Detector` shows dates as a renderer does, and reads them back by the layout
detected from one of its renderings.  Characters outside ASCII, such as direction
marks and unit signs, are left out of both.
-/

namespace DateDisplay

/-- Settings that do not depend on a field. -/
structure Options where
  /-- The window of short years that name none themselves. -/
  century : CenturyWindow := {}
  /-- The locale shown instead of one that is not known. -/
  fallbackLocale : Text := "en_US".toList
  deriving DecidableEq, Repr

/-- A renderer, and the layout detected from it, if its fields could be found. -/
structure Detector where
  renderer : Renderer
  layout : Option DetectedLayout

namespace DetectedLayout

/-- The year of a number: a short year goes through the window. -/
def resolveYear (layout : DetectedLayout) (year : Int32) : Int32 :=
  match layout.century with
  | some window => window.resolve year
  | none => year

/-- Let the digits of a field set it. -/
def setField? (layout : DetectedLayout) (date : CalendarDate) :
    DateField × Text → Option CalendarDate
  | (.day, text) => (Decimal.readCount? text).map fun day => { date with day }
  | (.month, text) =>
      ((Decimal.readCount? text).bind CalendarDate.monthOfNumber?).map fun month =>
        { date with month }
  | (.year, text) =>
      (Decimal.readYear? text).map fun year => { date with year := layout.resolveYear year }

/-- Read a text that is trimmed and not empty. -/
def read? (layout : DetectedLayout) (text : Text) : Option CalendarDate := do
  let captures ← layout.template.captures? text
  (layout.order.toList.zip captures).foldlM layout.setField? ⟨0, 0, 1⟩

end DetectedLayout

namespace Detector

/-- The detector of a renderer; the window reads short years. -/
def ofRenderer (window : CenturyWindow) (renderer : Renderer) : Detector where
  renderer := renderer
  layout := DetectedLayout.ofRendering? window (Text.asciiOnly (renderer.render sampleDay))

/-- The renderer of a locale, else that of the fallback locale, else ISO dates. -/
def chooseRenderer (provider : RendererProvider) (options : Options) (tag : Text) : Renderer :=
  match provider tag with
  | .ok renderer => renderer
  | .error _ =>
      match provider options.fallbackLocale with
      | .ok renderer => renderer
      | .error _ => .iso

/-- The detector of a locale. -/
def forLocale (provider : RendererProvider) (options : Options) (tag : Text) : Detector :=
  ofRenderer options.century (chooseRenderer provider options tag)

/-- The locale that is shown. -/
def locale (detector : Detector) : Text :=
  detector.renderer.tag

/-- The month names of the locale. -/
def monthNames (detector : Detector) : List Text :=
  detector.renderer.monthNames

/-- The date in the locale's layout; a date that names no day has no text. -/
def format (detector : Detector) (date : CalendarDate) : Text :=
  match date.real? with
  | some day => Text.asciiOnly (detector.renderer.render day)
  | none => []

/-- The text of a field's value; no value is shown as no text. -/
def formatValue (detector : Detector) : Option CalendarDate → Text
  | some date => detector.format date
  | none => []

/-- Read a text in the locale's layout. -/
def parse (detector : Detector) (text : Text) : ParseOutcome :=
  let text := Text.trim (Text.asciiOnly text)
  if text = [] then .empty
  else
    match detector.layout.bind (·.read? text) with
    | some date => .parsed date
    | none => .invalid

end Detector

end DateDisplay
