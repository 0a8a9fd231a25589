import DateDisplay.Proofs.Locale.FreePlaces

/-!
# The frame of a rendering

Whatever a rendering of the sample day shows besides, the fields found in it stand where they
were found, each apart from the others.  So they divide the rendering into a frame and the
texts of the sample day, and what is detected is the layout of that frame.
-/

namespace DateDisplay

open Detection

theorem FieldOrder.pairwise_ofPositions {position : DateField → Nat}
    (distinct : ∀ left right, left ≠ right → position left ≠ position right) :
    (ofPositions (position .day) (position .month) (position .year)).toList.Pairwise
      fun left right => position left < position right := by
  have dayMonth := distinct .day .month (by decide)
  have dayYear := distinct .day .year (by decide)
  have monthYear := distinct .month .year (by decide)
  unfold ofPositions
  repeat' split
  all_goals
    simp only [toList, List.pairwise_cons, List.mem_cons, List.not_mem_nil, or_false,
      forall_eq_or_imp, forall_eq, false_imp_iff, implies_true, List.Pairwise.nil, and_true]
    omega

namespace Frame

variable {frame : Frame} {field : DateField} {fields : List DateField} {literal : Text}

/-- The frame with another text in front of a field. -/
def putBefore (frame : Frame) (field : DateField) (literal : Text) : Frame :=
  { frame with before := fun other => if other = field then literal else frame.before other }

theorem text_putBefore (absent : field ∉ fields) (shown : DateField → Text) :
    (frame.putBefore field literal).text shown fields = frame.text shown fields := by
  induction fields with
  | nil => rfl
  | cons other fields ih =>
      rw [List.mem_cons, not_or] at absent
      rw [text, text, ih absent.2, putBefore]
      simp only [if_neg (Ne.symm absent.1)]

theorem template_putBefore (absent : field ∉ fields) (most : DateField → Nat) :
    (frame.putBefore field literal).template most fields = frame.template most fields := by
  induction fields with
  | nil => rfl
  | cons other fields ih =>
      rw [List.mem_cons, not_or] at absent
      rw [template, template, ih absent.2, putBefore]
      simp only [if_neg (Ne.symm absent.1)]

end Frame

/-! ## Places -/

namespace Located

variable {located : Located} {text : Text}

/-- A text shows the fields of the sample day at these places, each apart from the others. -/
structure Shows (located : Located) (text : Text) : Prop where
  begins : ∀ field, sampleText located.style field <+: text.drop (located.span field).start
  length : ∀ field, (located.span field).length = (sampleText located.style field).length
  apart : ∀ left right, left ≠ right → Span.Apart (located.span left) (located.span right)

/-- Every field found stands at its place. -/
theorem Places.shows (places : located.Places text) : located.Shows text where
  begins := by
    intro field
    cases field with
    | day => exact places.day.free.begins
    | month => exact places.month.free.begins
    | year => exact places.year.firstFree.free.begins
  length := by
    intro field
    cases field with
    | day => exact places.day.free.length
    | month => exact places.month.free.length
    | year => exact places.year.firstFree.free.length
  apart := by
    have monthYear : Span.Apart located.month located.year :=
      places.month.free.apart located.year (by simp)
    have dayYear : Span.Apart located.day located.year :=
      places.day.free.apart located.year (by simp)
    have dayMonth : Span.Apart located.day located.month :=
      places.day.free.apart located.month (by simp)
    intro left right different
    match left, right with
    | .day, .month => exact dayMonth
    | .day, .year => exact dayYear
    | .month, .year => exact monthYear
    | .month, .day => exact dayMonth.symm
    | .year, .day => exact dayYear.symm
    | .year, .month => exact monthYear.symm
    | .day, .day | .month, .month | .year, .year => contradiction

variable (shows : located.Shows text)

include shows

/-- From left to right every field ends before the next begins. -/
theorem Shows.pairwise_order :
    located.order.toList.Pairwise fun left right =>
      (located.span left).stop ≤ (located.span right).start := by
  have positive : ∀ field, 0 < (located.span field).length := by
    intro field
    rw [shows.length]
    cases field <;> cases located.style <;> decide
  have distinct : ∀ left right, left ≠ right →
      (located.span left).start ≠ (located.span right).start := by
    intro left right different same
    have leftPositive := positive left
    have rightPositive := positive right
    rcases shows.apart left right different with before | behind
    · simp only [Span.stop] at before
      omega
    · simp only [Span.stop] at behind
      omega
  have increasing := FieldOrder.pairwise_ofPositions distinct
  refine increasing.imp_of_mem fun {left right} _ _ ordered => ?_
  have different : left ≠ right := by
    rintro rfl
    exact absurd ordered (Nat.lt_irrefl _)
  rcases shows.apart left right different with before | behind
  · exact before
  · have rightPositive := positive right
    simp only [Span.stop] at behind
    omega

/-- The fields from a position on divide the rest of the text. -/
theorem Shows.exists_frame_of_pairwise {fields : List DateField} {cursor : Nat}
    (nodup : fields.Nodup) (ahead : ∀ field ∈ fields, cursor ≤ (located.span field).start)
    (increasing : fields.Pairwise fun left right =>
      (located.span left).stop ≤ (located.span right).start) :
    ∃ frame : Frame, text.drop cursor = frame.text (sampleText located.style) fields ∧
      located.templateFrom text cursor fields = frame.template located.mostDigits fields := by
  induction fields generalizing cursor with
  | nil => exact ⟨⟨fun _ => [], text.drop cursor⟩, rfl, rfl⟩
  | cons field fields ih =>
      rw [List.nodup_cons] at nodup
      rw [List.pairwise_cons] at increasing
      obtain ⟨frame, rest, template⟩ := ih nodup.2 increasing.1 increasing.2
      have start := ahead field List.mem_cons_self
      let literal := (text.drop cursor).take ((located.span field).start - cursor)
      have toField : text.drop cursor = literal ++ text.drop (located.span field).start := by
        have skipped : text.drop (located.span field).start =
            (text.drop cursor).drop ((located.span field).start - cursor) := by
          rw [List.drop_drop, Nat.add_sub_cancel' start]
        rw [skipped, List.take_append_drop]
      have pastField : text.drop (located.span field).start =
          sampleText located.style field ++ text.drop (located.span field).stop := by
        rw [Span.stop, shows.length, ← List.drop_drop]
        exact (List.prefix_iff_eq_append.1 (shows.begins field)).symm
      refine ⟨frame.putBefore field literal, ?_, ?_⟩
      · rw [toField, pastField, rest, Frame.text, Frame.text_putBefore nodup.1]
        simp only [Frame.putBefore, if_true]
      · rw [templateFrom, template, Frame.template, Frame.template_putBefore nodup.1]
        simp only [Frame.putBefore, if_true, literal]

end Located

/-- A layout is detected where the rendering is some frame around the sample day, and it is the
layout of that frame.  The year is a full one exactly when the rendering shows all its
digits. -/
theorem DetectedLayout.exists_frame_of_ofRendering? {window : CenturyWindow} {text : Text}
    {layout : DetectedLayout} (detected : ofRendering? window text = some layout) :
    ∃ (frame : Frame) (style : YearStyle) (order : FieldOrder),
      layout = frame.detected style order window ∧
      text = frame.text (sampleText style) order.toList ∧
      (style = .full ↔ sampleText .full .year <:+: text) := by
  obtain ⟨located, found, rfl⟩ := Option.map_eq_some_iff.1 detected
  have places := Located.find?_eq_some_iff.1 found
  have shows := places.shows
  obtain ⟨frame, whole, template⟩ := shows.exists_frame_of_pairwise
    located.order.nodup_toList (fun _ _ => Nat.zero_le _) shows.pairwise_order
  have most : located.mostDigits = located.style.mostDigits := by
    funext field
    cases field <;> rfl
  refine ⟨frame, located.style, located.order, ?_, whole, places.year.style_eq_full_iff⟩
  rw [Located.template, template, most]
  rfl

end DateDisplay
