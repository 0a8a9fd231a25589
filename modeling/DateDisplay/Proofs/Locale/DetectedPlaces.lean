import DateDisplay.Locale.Detector
import DateDisplay.Proofs.Locale.DetectedFrame
import DateDisplay.Proofs.Locale.FreePlaces
import DateDisplay.Proofs.Locale.RegexText
import DateDisplay.Proofs.Text.Bytes

/-!
# The places of a detected layout

The fields found in a rendering of the sample day stand in it, each apart from the others.  So
the text between one field and the next can be cut out of it, by bytes as well as by characters,
since a rendering is examined without the characters outside ASCII.  What is cut out makes up the
regular expression of the layout, which stands for that rendering again.
-/

namespace DateDisplay

open Detection

namespace Located

variable {located : Located} {text : Text}

/-- The template of a text from a byte offset on, if every text between two fields begins and
ends at a boundary, and does not end before it begins. -/
def templateBytesFrom? (located : Located) (text : Text) :
    (cursor : Nat) → List DateField → Option Template
  | cursor, [] =>
      (text.between? cursor text.byteLength).map fun literal => [.literal literal]
  | cursor, field :: fields => do
      let literal ← text.between? cursor (located.span field).start
      let pieces ← located.templateBytesFrom? text (located.span field).stop fields
      some (.literal literal :: .digits (located.mostDigits field) :: pieces)

/-- The template of a text, cut out of it by bytes. -/
def templateBytes? (located : Located) (text : Text) : Option Template :=
  located.templateBytesFrom? text 0 located.order.toList

variable (shows : located.Shows text)

include shows

theorem Shows.stop_le (field : DateField) : (located.span field).stop ≤ text.length := by
  have begins := (shows.begins field).length_le
  have positive := List.length_pos_iff.2 (sampleText_ne_nil located.style field)
  rw [List.length_drop] at begins
  rw [Span.stop, shows.length]
  omega

/-- What stands at the place of a field is what the sample day shows for it. -/
theorem Shows.take_drop_span (field : DateField) :
    (text.drop (located.span field).start).take (located.span field).length =
      sampleText located.style field := by
  rw [shows.length]
  exact (List.prefix_iff_eq_take.1 (shows.begins field)).symm

/-- From left to right every field begins before the next, and ends before it begins. -/
theorem Shows.pairwise_places :
    located.order.toList.Pairwise fun left right =>
      (located.span left).start < (located.span right).start ∧
        (located.span left).stop ≤ (located.span right).start := by
  refine shows.pairwise_order.imp fun {left right} ordered => ⟨?_, ordered⟩
  have positive := List.length_pos_iff.2 (sampleText_ne_nil located.style left)
  rw [← shows.length] at positive
  exact Nat.lt_of_lt_of_le (Nat.lt_add_of_pos_right positive) ordered

/-- The texts between the fields are cut out by bytes as they are by characters. -/
theorem Shows.templateBytesFrom?_eq (ascii : ∀ char ∈ text, Text.isAscii char = true)
    {fields : List DateField} {cursor : Nat} (inside : cursor ≤ text.length)
    (ahead : ∀ field ∈ fields, cursor ≤ (located.span field).start)
    (increasing : fields.Pairwise fun left right =>
      (located.span left).stop ≤ (located.span right).start) :
    located.templateBytesFrom? text cursor fields =
      some (located.templateFrom text cursor fields) := by
  induction fields generalizing cursor with
  | nil =>
      rw [templateBytesFrom?, Text.byteLength_of_ascii ascii,
        Text.between?_of_ascii ascii inside (Nat.le_refl _),
        List.take_of_length_le (List.length_drop ▸ Nat.le_refl _)]
      rfl
  | cons field fields ih =>
      rw [List.pairwise_cons] at increasing
      have start : (located.span field).start ≤ text.length :=
        Nat.le_trans (Nat.le_add_right _ _) (shows.stop_le field)
      rw [templateBytesFrom?, ih (shows.stop_le field) increasing.1 increasing.2,
        Text.between?_of_ascii ascii (ahead field List.mem_cons_self) start]
      rfl

theorem Shows.templateBytes?_eq (ascii : ∀ char ∈ text, Text.isAscii char = true) :
    located.templateBytes? text = some (located.template text) :=
  shows.templateBytesFrom?_eq ascii (Nat.zero_le _) (fun _ _ => Nat.zero_le _)
    shows.pairwise_order

/-- The regular expression of the layout, with what was found in place of its groups, stands for
the text that was examined. -/
theorem Shows.restores_regex_iff {whole : Text} :
    Template.Restores (located.template text).regex
        (located.order.toList.map fun field =>
          (text.drop (located.span field).start).take (located.span field).length) whole ↔
      whole = text := by
  obtain ⟨frame, divided, template⟩ := shows.exists_frame_of_pairwise
    located.order.nodup_toList (fun _ _ => Nat.zero_le _) shows.pairwise_order
  have found : (fun field => (text.drop (located.span field).start).take
      (located.span field).length) = sampleText located.style :=
    funext shows.take_drop_span
  rw [Located.template, template, found, Template.restores_regex_iff, ← divided]
  rfl

end Located

namespace Detector

open Located

/-- Whatever a renderer shows for the sample day, the places found in it lie in the text that is
examined, apart from one another, and nothing is detected exactly when a field has no free place.
A layout that is detected has every field once, from left to right; it is cut out at boundaries
that follow one another, and with what was found in place of its groups its regular expression
stands for the text examined.  Its year is short exactly when the text does not show `1987`. -/
theorem detection_finds_places_apart (window : CenturyWindow) (renderer : Renderer) :
    let text := Text.asciiOnly (renderer.render sampleDay)
    let layout := (ofRenderer window renderer).layout
    (∀ year style, findYear? text = some (year, style) → year.stop ≤ text.length ∧
      ∀ month, findFree? text (sampleText style .month) [year] = some month →
        (month.stop ≤ text.length ∧ Span.Apart month year) ∧
        ∀ day, findFree? text (sampleText style .day) [year, month] = some day →
          day.stop ≤ text.length ∧ Span.Apart day year ∧ Span.Apart day month) ∧
    (layout = none ↔ Misses text) ∧
    ∀ detected, layout = some detected → ∃ located : Located, located.Places text ∧
      (∀ field, (located.span field).stop ≤ text.length) ∧
      (∀ field, detected.order.toList.count field = 1) ∧
      (detected.order.toList.Pairwise fun left right =>
        (located.span left).start < (located.span right).start ∧
          (located.span left).stop ≤ (located.span right).start) ∧
      located.templateBytes? text = some detected.template ∧
      ("1987".toList <:+: text → detected.century = none) ∧
      (¬ "1987".toList <:+: text → detected.century = some window) ∧
      ∀ whole, Template.Restores detected.template.regex
        (detected.order.toList.map fun field =>
          (text.drop (located.span field).start).take (located.span field).length) whole ↔
        whole = text := by
  intro text layout
  have ascii : ∀ char ∈ text, Text.isAscii char = true := fun char member =>
    List.of_mem_filter member
  refine ⟨fun year style yearFound => ?_, ?_, fun detected found => ?_⟩
  · have yearFree := (findYear?_eq_some_iff.1 yearFound).firstFree.free
    refine ⟨yearFree.stop_le (sampleText_ne_nil _ _), fun month monthFound => ?_⟩
    have monthFree := (findFree?_sampleText_eq_some_iff.1 monthFound).free
    refine ⟨⟨monthFree.stop_le (sampleText_ne_nil _ _), monthFree.apart year (by simp)⟩,
      fun day dayFound => ?_⟩
    have dayFree := (findFree?_sampleText_eq_some_iff.1 dayFound).free
    exact ⟨dayFree.stop_le (sampleText_ne_nil _ _), dayFree.apart year (by simp),
      dayFree.apart month (by simp)⟩
  · exact Option.map_eq_none_iff.trans find?_eq_none_iff
  · obtain ⟨located, locatedFound, rfl⟩ := Option.map_eq_some_iff.1 found
    have places := find?_eq_some_iff.1 locatedFound
    have shows := places.shows
    have full := places.year.style_eq_full_iff
    refine ⟨located, places, shows.stop_le, fun field => ?_, shows.pairwise_places,
      shows.templateBytes?_eq ascii, fun shown => ?_, fun notShown => ?_, fun whole => ?_⟩
    · cases located.order <;> cases field <;> rfl
    · rw [full.2 shown]
    · cases style : located.style with
      | full => exact absurd (full.1 style) notShown
      | short => rfl
    · exact shows.restores_regex_iff

end Detector

end DateDisplay
