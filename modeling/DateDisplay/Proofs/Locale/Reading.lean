import DateDisplay.Locale.Detector
import DateDisplay.Proofs.Locale.SampleDay
import DateDisplay.Proofs.Pattern.FieldTexts

/-!
# Reading by a detected layout

What was detected in one frame reads every text in the same frame: the fields get their
texts back, and each of them is read as the number that it shows.
-/

namespace DateDisplay

/-! ## Fields -/

/-- The texts of the fields are read as those of a date. -/
structure Tells (shown : DateField → Text) (date : CalendarDate) : Prop where
  day : Decimal.readCount? (shown .day) = some date.day
  month : (Decimal.readCount? (shown .month)).bind CalendarDate.monthOfNumber? =
    some date.month
  year : Decimal.readYear? (shown .year) = some date.year

namespace DetectedLayout

/-- The date whose three fields have these texts. -/
def readTexts? (layout : DetectedLayout) (texts : DateField → Text) : Option CalendarDate := do
  let day ← Decimal.readCount? (texts .day)
  let month ← (Decimal.readCount? (texts .month)).bind CalendarDate.monthOfNumber?
  let year ← Decimal.readYear? (texts .year)
  some ⟨layout.resolveYear year, month, day⟩

/-- All fields are set, in whatever order. -/
theorem foldlM_setField? (layout : DetectedLayout) (order : FieldOrder)
    (texts : DateField → Text) (start : CalendarDate) :
    (order.toList.zip (order.toList.map texts)).foldlM layout.setField? start =
      layout.readTexts? texts := by
  rw [FieldOrder.zip_map_toList]
  cases day : Decimal.readCount? (texts .day) <;>
    cases month : (Decimal.readCount? (texts .month)).bind CalendarDate.monthOfNumber? <;>
    cases year : Decimal.readYear? (texts .year) <;>
    cases order <;>
    simp [FieldOrder.toList, setField?, readTexts?, day, month, year]

theorem readTexts?_of_tells (layout : DetectedLayout) {shown : DateField → Text}
    {date : CalendarDate} (tells : Tells shown date) :
    layout.readTexts? shown = some { date with year := layout.resolveYear date.year } := by
  simp [readTexts?, tells.day, tells.month, tells.year]

end DetectedLayout

namespace Frame

variable {frame : Frame} {shown : DateField → Text} {style : YearStyle}

/-- A detected layout reads a text whose fields it captures. -/
theorem read?_of_captures {order : FieldOrder} {date : CalendarDate} {text : Text}
    {window : CenturyWindow}
    (captured : (frame.template style.mostDigits order.toList).captures? text =
      some (order.toList.map shown)) (tells : Tells shown date) :
    (frame.detected style order window).read? text =
      some { date with
        year := (frame.detected style order window).resolveYear date.year } := by
  have layoutCaptured : (frame.detected style order window).template.captures? text =
      some (order.toList.map shown) := captured
  rw [DetectedLayout.read?, layoutCaptured, Option.bind_eq_bind, Option.bind_some]
  exact (DetectedLayout.foldlM_setField? _ order shown _).trans
    (DetectedLayout.readTexts?_of_tells _ tells)

/-- A detected layout reads the texts of its frame. -/
theorem read?_text {order : FieldOrder} {date : CalendarDate} (noDigits : frame.NoDigits)
    (shows : ∀ field, Template.IsRun (style.mostDigits field) (shown field))
    (parted : frame.Parted shown style.mostDigits order.toList) (tells : Tells shown date)
    (window : CenturyWindow) :
    (frame.detected style order window).read? (frame.text shown order.toList) =
      some { date with
        year := (frame.detected style order window).resolveYear date.year } :=
  read?_of_captures ((captures?_text_iff noDigits shows order.toList).2 parted) tells

/-! ## The ends of a text -/

/-- A text in the frame neither starts nor ends with a blank character. -/
structure Inked (frame : Frame) (fields : List DateField) : Prop where
  front : ∀ field ∈ fields.head?, (frame.before field).head?.all (!Text.isBlank ·) = true
  back : frame.behind.getLast?.all (!Text.isBlank ·) = true

theorem getLast?_text {most : DateField → Nat}
    (back : frame.behind.getLast?.all (!Text.isBlank ·) = true)
    (shows : ∀ field, Template.IsRun (most field) (shown field)) (fields : List DateField) :
    (frame.text shown fields).getLast?.all (!Text.isBlank ·) = true := by
  induction fields with
  | nil => exact back
  | cons field fields ih =>
      have last := List.getLast?_eq_some_getLast (shows field).nonempty
      have inked := Text.isBlank_of_isDigit
        ((shows field).digits _ (List.getLast_mem (shows field).nonempty))
      rw [text, List.getLast?_append, List.getLast?_append, last]
      cases rest : (frame.text shown fields).getLast? with
      | none => simp [inked]
      | some char => simpa [rest] using ih

theorem trim_text {most : DateField → Nat} {fields : List DateField}
    (inked : frame.Inked fields) (nonempty : fields ≠ [])
    (shows : ∀ field, Template.IsRun (most field) (shown field)) :
    Text.trim (frame.text shown fields) = frame.text shown fields := by
  refine Text.trim_eq_self ?_ (getLast?_text inked.back shows fields)
  rcases List.exists_cons_of_ne_nil nonempty with ⟨field, fields, rfl⟩
  have front := inked.front field rfl
  rcases List.exists_cons_of_ne_nil (shows field).nonempty with ⟨first, rest, text⟩
  have digit : Text.isBlank first = false :=
    Text.isBlank_of_isDigit ((shows field).digits first (text ▸ List.mem_cons_self))
  cases literal : frame.before field with
  | nil => simp [Frame.text, literal, text, digit]
  | cons char literal' => simpa [Frame.text, literal] using front

theorem behind_suffix_text (frame : Frame) (shown : DateField → Text)
    (fields : List DateField) : frame.behind <:+ frame.text shown fields := by
  induction fields with
  | nil => exact List.suffix_refl _
  | cons field fields ih =>
      exact (ih.trans (List.suffix_append _ _)).trans (List.suffix_append _ _)

/-- Whether a text in the frame needs trimming does not depend on what the fields show. -/
theorem trim_text_eq_self_iff {most : DateField → Nat} {fields : List DateField}
    (nonempty : fields ≠ []) (shows : ∀ field, Template.IsRun (most field) (shown field)) :
    Text.trim (frame.text shown fields) = frame.text shown fields ↔ frame.Inked fields := by
  constructor
  · intro trimmed
    obtain ⟨front, back⟩ := Text.trim_eq_self_iff.1 trimmed
    constructor
    case front =>
      intro field first
      obtain ⟨fields, rfl⟩ := List.head?_eq_some_iff.1 first
      cases literal : frame.before field with
      | nil => rfl
      | cons char rest => simpa [text, literal] using front
    case back =>
      obtain ⟨ahead, whole⟩ := behind_suffix_text frame shown fields
      cases last : frame.behind.getLast? with
      | none => rfl
      | some char =>
          rw [← whole, List.getLast?_append, last, Option.some_or] at back
          exact back
  · intro inked
    exact trim_text inked nonempty shows

theorem text_ne_nil {most : DateField → Nat} {fields : List DateField} (nonempty : fields ≠ [])
    (shows : ∀ field, Template.IsRun (most field) (shown field)) : frame.text shown fields ≠ [] := by
  rcases List.exists_cons_of_ne_nil nonempty with ⟨field, fields, rfl⟩
  simp [text, (shows field).nonempty]

end Frame

/-- A detector reads a date from what is left of a text without its blank ends. -/
theorem Detector.parse_eq_parsed_iff {detector : Detector} {text : Text} {date : CalendarDate} :
    detector.parse text = .parsed date ↔
      Text.trim (Text.asciiOnly text) ≠ [] ∧
        detector.layout.bind (·.read? (Text.trim (Text.asciiOnly text))) = some date := by
  by_cases empty : Text.trim (Text.asciiOnly text) = []
  · simp [parse, empty]
  · cases read : detector.layout.bind (·.read? (Text.trim (Text.asciiOnly text))) <;>
      simp only [parse, empty, read, if_false] <;> simp [empty]

/-- A detector reads every text that shows a date in the frame of its layout. -/
theorem Detector.parse_text {detector : Detector} {frame : Frame} {style : YearStyle}
    {order : FieldOrder} {window : CenturyWindow} {shown : DateField → Text} {date : CalendarDate}
    {text : Text} (detects : detector.layout = some (frame.detected style order window))
    (same : Text.asciiOnly text = frame.text shown order.toList) (noDigits : frame.NoDigits)
    (inked : frame.Inked order.toList)
    (shows : ∀ field, Template.IsRun (style.mostDigits field) (shown field))
    (parted : frame.Parted shown style.mostDigits order.toList) (tells : Tells shown date) :
    detector.parse text = .parsed { date with
      year := (frame.detected style order window).resolveYear date.year } := by
  have nonempty : order.toList ≠ [] := List.ne_nil_of_mem (order.mem_toList .day)
  rw [parse_eq_parsed_iff, same, Frame.trim_text inked nonempty shows, detects, Option.bind_some]
  exact ⟨Frame.text_ne_nil nonempty shows, Frame.read?_text noDigits shows parted tells window⟩

end DateDisplay
