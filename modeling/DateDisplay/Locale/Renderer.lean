import DateDisplay.Locale.Layout

/-!
# Renderers

A renderer is the native date display of one locale, together with its month
names.  A provider knows renderers by tag.
-/

namespace DateDisplay

/-- The native date display of one locale. -/
structure Renderer where
  /-- The locale that is rendered. -/
  tag : Text
  /-- The names of the months, January first. -/
  monthNames : List Text
  /-- The default text of a day. -/
  render : RealDate → Text

namespace Renderer

/-- The renderer of a layout. -/
def ofLayout (tag : Text) (names : CalendarNames) (layout : DateLayout) : Renderer where
  tag := tag
  monthNames := names.months
  render := layout.render names

/-- Dates as `YYYY-MM-DD` with English month names, for want of a locale. -/
def iso : Renderer :=
  ofLayout "iso".toList .english .iso

end Renderer

/-- Why a locale has no renderer. -/
inductive LocaleError where
  /-- No locale is known by this tag. -/
  | unsupported (tag : Text)
  deriving DecidableEq, Repr

/-- The message about a locale without a renderer. -/
def LocaleError.message : LocaleError → Text
  | unsupported tag => "unsupported locale `".toList ++ tag ++ "`".toList

/-- Finds the renderer of a locale by its tag. -/
abbrev RendererProvider := Text → Except LocaleError Renderer

end DateDisplay
