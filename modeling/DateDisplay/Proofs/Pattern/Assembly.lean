import DateDisplay.Proofs.Pattern.FieldTexts

/-!
# Segments and the date they set

No text has two segments for one field.  Hence a date is assembled field by field: from the
segment of the field, or else from the reference day.  Packed segments are no longer than
their fields are wide.
-/

namespace DateDisplay

namespace Pattern

variable {pattern : Pattern}

/-! ## The fields of the segments -/

theorem fieldsOfPieces_spec {count : Nat} {fields : List DateField}
    (found : pattern.fieldsOfPieces count = some fields) :
    fields.length = count ∧ fields.Nodup := by
  unfold fieldsOfPieces dayAndMonth at found
  split at found
  · cases found
    decide
  · cases found
    cases pattern.order <;> decide
  · cases found
    exact ⟨pattern.order.length_toList, pattern.order.nodup_toList⟩
  · cases found

/-- Splitting gives every piece a field. -/
theorem map_fst_split {separator : Char} {text : Text} {segments : List Segment}
    (found : pattern.split separator text = some segments) :
    pattern.fieldsOfPieces (text.splitOn separator).length = some (segments.map Prod.fst) := by
  simp only [split, List.length_map] at found
  rcases Option.map_eq_some_iff.1 found with ⟨fields, fieldsFound, rfl⟩
  have enough : fields.length ≤ ((text.splitOn separator).map Text.trim).length := by
    simp only [(fieldsOfPieces_spec fieldsFound).1, List.length_map, Nat.le_refl]
  rw [List.map_fst_zip enough, fieldsFound]

/-- Cutting gives every width a piece. -/
theorem map_fst_cut {widths : List (DateField × Nat)} {text : Text} {segments : List Segment}
    (found : cut widths text = some segments) :
    segments.map Prod.fst = widths.map Prod.fst := by
  induction widths generalizing text segments with
  | nil =>
      cases text with
      | nil =>
          cases found
          rfl
      | cons char rest => cases found
  | cons entry widths ih =>
      rcases Option.map_eq_some_iff.1 found with ⟨tail, tailFound, rfl⟩
      rw [List.map_cons, List.map_cons, ih tailFound]

/-- No piece is longer than the width it was cut by. -/
theorem length_le_of_cut {widths : List (DateField × Nat)} {text : Text}
    {segments : List Segment} (found : cut widths text = some segments) {field : DateField}
    {piece : Text} (member : (field, piece) ∈ segments) :
    ∃ width, (field, width) ∈ widths ∧ piece.length ≤ width := by
  induction widths generalizing text segments with
  | nil =>
      cases text with
      | nil =>
          cases found
          cases member
      | cons char rest => cases found
  | cons entry widths ih =>
      rcases Option.map_eq_some_iff.1 found with ⟨tail, tailFound, rfl⟩
      rcases List.mem_cons.1 member with here | there
      · cases here
        exact ⟨entry.2, List.mem_cons_self, List.length_take_le _ _⟩
      · rcases ih tailFound there with ⟨width, inWidths, short⟩
        exact ⟨width, List.mem_cons_of_mem _ inWidths, short⟩

theorem nodup_fieldsOfLength (pattern : Pattern) (length : Nat) :
    (pattern.fieldsOfLength length).Nodup := by
  unfold fieldsOfLength dayAndMonth
  split
  · decide
  · split
    · exact pattern.order.nodup_toList.filter _
    · exact pattern.order.nodup_toList

/-- Slicing gives each of the fields that a text is long enough for a piece. -/
theorem map_fst_slice {text : Text} {segments : List Segment}
    (found : pattern.slice text = some segments) :
    segments.map Prod.fst = pattern.fieldsOfLength text.length := by
  rw [slice, Option.ite_none_right_eq_some] at found
  rw [map_fst_cut found.2, List.map_map]
  exact List.map_id _

theorem length_le_of_slice {text : Text} {segments : List Segment}
    (found : pattern.slice text = some segments) {field : DateField} {piece : Text}
    (member : (field, piece) ∈ segments) :
    piece.length ≤ pattern.sliceWidth text.length field := by
  rw [slice, Option.ite_none_right_eq_some] at found
  rcases length_le_of_cut found.2 member with ⟨width, inWidths, short⟩
  rcases List.mem_map.1 inWidths with ⟨other, -, same⟩
  cases same
  exact short

/-- What a field takes stands at the front of the text. -/
theorem head_append_drop (field : DateField) (text : Text) :
    pattern.head field text ++ text.drop (pattern.head field text).length = text := by
  apply List.prefix_iff_eq_append.1
  cases field with
  | month => exact List.takeWhile_prefix _
  | day => exact (List.takeWhile_prefix _).trans (List.take_prefix _ _)
  | year => exact (List.takeWhile_prefix _).trans (List.take_prefix _ _)

/-- Walking passes the fields in their order, though some may get no segment. -/
theorem map_fst_walkFields {fields : List DateField} {text : Text} {segments : List Segment}
    (found : pattern.walkFields fields text = some segments) :
    List.Sublist (segments.map Prod.fst) fields := by
  induction fields generalizing text segments with
  | nil =>
      cases text with
      | nil =>
          cases found
          exact List.Sublist.refl _
      | cons char rest => cases found
  | cons field fields ih =>
      cases text with
      | nil =>
          cases found
          exact List.nil_sublist _
      | cons char rest =>
          simp only [walkFields] at found
          split at found
          · exact (ih found).cons field
          · rcases Option.map_eq_some_iff.1 found with ⟨tail, tailFound, rfl⟩
            exact (ih tailFound).cons_cons field

/-- No field has two segments. -/
theorem nodup_of_segments {text : Text} {segments : List Segment}
    (found : pattern.segments text = some segments) : (segments.map Prod.fst).Nodup := by
  unfold Pattern.segments at found
  split at found
  · exact (fieldsOfPieces_spec (map_fst_split found)).2
  · split at found
    · exact pattern.order.nodup_toList.sublist (map_fst_walkFields found)
    · rw [map_fst_slice found]
      exact pattern.nodup_fieldsOfLength _

end Pattern

namespace PatternCodec

variable {codec : PatternCodec} {context : Context} {segments : List Pattern.Segment}

/-! ## The date -/

/-- A field is read from its segment, if it has one, and is otherwise kept. -/
def readField? {α : Type} (segments : List Pattern.Segment) (field : DateField)
    (read? : Text → Option α) (kept : α) : Option α :=
  (segments.lookup field).elim (some kept) read?

section ReadField

variable {α : Type} {field other : DateField} {piece : Text} {read? : Text → Option α}
  {kept value : α}

theorem readField?_cons_self :
    readField? ((field, piece) :: segments) field read? kept = read? piece := by
  simp [readField?]

theorem readField?_cons_of_ne (different : field ≠ other) :
    readField? ((other, piece) :: segments) field read? kept =
      readField? segments field read? kept := by
  have notSame : (field == other) = false := beq_false_of_ne different
  rw [readField?, List.lookup_cons, notSame, readField?]

theorem readField?_of_notMem (absent : field ∉ segments.map Prod.fst) :
    readField? segments field read? kept = some kept := by
  have notFound : segments.lookup field = none := by
    rw [List.lookup_eq_none_iff]
    intro segment member
    apply bne_iff_ne.2
    intro same
    apply absent
    rw [same]
    exact List.mem_map_of_mem member
  rw [readField?, notFound, Option.elim_none]

/-- A field with a segment is read from it. -/
theorem readField?_of_mem (distinct : (segments.map Prod.fst).Nodup)
    (member : (field, piece) ∈ segments) : readField? segments field read? kept = read? piece := by
  induction segments with
  | nil => cases member
  | cons segment segments ih =>
      rw [List.map_cons, List.nodup_cons] at distinct
      obtain ⟨absent, distinct⟩ := distinct
      cases List.mem_cons.1 member with
      | inl here =>
          rw [← here]
          exact readField?_cons_self
      | inr there =>
          have different : field ≠ segment.1 := by
            intro same
            rw [← same] at absent
            exact absent (List.mem_map_of_mem there)
          rw [← ih distinct there]
          exact readField?_cons_of_ne different

/-- Where every segment of a field can be read, so can the field. -/
theorem readField?_eq_some_elim {value : Text → α}
    (reads : ∀ piece, (field, piece) ∈ segments → read? piece = some (value piece)) :
    readField? segments field read? kept = some ((segments.lookup field).elim kept value) := by
  rw [readField?]
  cases found : segments.lookup field with
  | none => rfl
  | some piece =>
      obtain ⟨before, after, split, -⟩ := List.lookup_eq_some_iff.1 found
      apply reads
      rw [split]
      exact List.mem_append_right _ List.mem_cons_self

theorem readField?_eq_some (read : readField? segments field read? kept = some value) :
    (segments.lookup field = none ∧ value = kept) ∨
      ∃ piece, (field, piece) ∈ segments ∧ segments.lookup field = some piece ∧
        read? piece = some value := by
  rw [readField?] at read
  cases found : segments.lookup field with
  | none =>
      rw [found] at read
      exact .inl ⟨rfl, (Option.some.inj read).symm⟩
  | some piece =>
      rw [found] at read
      rcases List.lookup_eq_some_iff.1 found with ⟨before, after, rfl, -⟩
      exact .inr ⟨piece, by simp, rfl, read⟩

end ReadField

/-- The date after the segments have set their fields, each of them at most one. -/
theorem foldlM_setField? (distinct : (segments.map Prod.fst).Nodup) (date : CalendarDate) :
    segments.foldlM (codec.setField? context) date = (do
      let day ← readField? segments .day Decimal.readCount? date.day
      let month ← readField? segments .month (codec.readMonth? context) date.month
      let year ← readField? segments .year codec.readYear? date.year
      pure ⟨year, month, day⟩) := by
  induction segments generalizing date with
  | nil => rfl
  | cons segment segments ih =>
      rcases segment with ⟨field, piece⟩
      rw [List.map_cons, List.nodup_cons] at distinct
      rcases distinct with ⟨absent, distinct⟩
      have rest := ih distinct
      rw [List.foldlM_cons]
      -- The rest of the segments leaves the field of the first one as it is.
      cases field with
      | day =>
          cases read : Decimal.readCount? piece <;>
            simp [setField?, readField?_cons_self, readField?_cons_of_ne,
              readField?_of_notMem absent, read, rest]
      | month =>
          cases read : codec.readMonth? context piece <;>
            simp [setField?, readField?_cons_self, readField?_cons_of_ne,
              readField?_of_notMem absent, read, rest]
      | year =>
          cases read : codec.readYear? piece <;>
            simp [setField?, readField?_cons_self, readField?_cons_of_ne,
              readField?_of_notMem absent, read, rest]

/-- A text that is read has segments, and each field of the date comes from its segment or
else from the reference day. -/
theorem exists_segments_of_read? {text : Text} {date : CalendarDate}
    (read : codec.read? context text = some date) :
    ∃ segments, codec.pattern.segments text = some segments ∧
      readField? segments .day Decimal.readCount? context.reference.date.day =
        some date.day ∧
      readField? segments .month (codec.readMonth? context) context.reference.date.month =
        some date.month ∧
      readField? segments .year codec.readYear? context.reference.date.year =
        some date.year := by
  rcases Option.bind_eq_some_iff.1 read with ⟨segments, found, assembled⟩
  rw [assemble?, foldlM_setField? (Pattern.nodup_of_segments found)] at assembled
  rcases Option.bind_eq_some_iff.1 assembled with ⟨day, dayRead, assembled⟩
  rcases Option.bind_eq_some_iff.1 assembled with ⟨month, monthRead, assembled⟩
  rcases Option.bind_eq_some_iff.1 assembled with ⟨year, yearRead, assembled⟩
  cases assembled
  exact ⟨segments, found, dayRead, monthRead, yearRead⟩

end PatternCodec

end DateDisplay
