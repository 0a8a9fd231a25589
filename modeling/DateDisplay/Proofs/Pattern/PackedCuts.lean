import DateDisplay.Proofs.Pattern.Assembly
import DateDisplay.Proofs.Text.Bytes

/-!
# Cutting packed texts

A packed text is cut from left to right, and what is cut off belongs to one field after the
other.  Nothing is lost on the way, and a walk takes as much for every field as it may.

The places of the cuts are counted in bytes, of which a letter may take several.  `sliceBytes`
and `walkBytes` cut that way and record where.  No cut falls inside a character, outside the
text or before the cut made last, so that the segments are those that `slice` and `walk` find
character by character.
-/

namespace DateDisplay.Pattern

variable {pattern : Pattern}

/-! ## The whole text -/

/-- Segments that make up a text, for different fields in the order of the pattern. -/
structure Covers (pattern : Pattern) (text : Text) (segments : List Segment) : Prop where
  whole : (segments.map Prod.snd).flatten = text
  ordered : List.Sublist (segments.map Prod.fst) pattern.order.toList
  nodup : (segments.map Prod.fst).Nodup

theorem sublist_fieldsOfLength (pattern : Pattern) (length : Nat) :
    List.Sublist (pattern.fieldsOfLength length) pattern.order.toList := by
  unfold fieldsOfLength dayAndMonth
  split
  · exact List.singleton_sublist.2 (pattern.order.mem_toList .day)
  · split
    · exact List.filter_sublist
    · exact List.Sublist.refl _

theorem covers_slice {text : Text} {segments : List Segment}
    (found : pattern.slice text = some segments) : pattern.Covers text segments where
  whole := by
    rw [slice, Option.ite_none_right_eq_some] at found
    exact flatten_cut found.2
  ordered := by
    rw [map_fst_slice found]
    exact pattern.sublist_fieldsOfLength _
  nodup := by
    rw [map_fst_slice found]
    exact pattern.nodup_fieldsOfLength _

/-- Walking loses nothing. -/
theorem flatten_walkFields {fields : List DateField} {text : Text} {segments : List Segment}
    (found : pattern.walkFields fields text = some segments) :
    (segments.map Prod.snd).flatten = text := by
  induction fields generalizing text segments with
  | nil =>
      cases text with
      | nil =>
          cases found
          rfl
      | cons char rest => cases found
  | cons field fields ih =>
      cases text with
      | nil =>
          cases found
          rfl
      | cons char rest =>
          have parts := pattern.head_append_drop field (char :: rest)
          simp only [walkFields] at found
          split at found
          · rename_i missing
            rw [ih found, missing.2]
            rfl
          · obtain ⟨tail, tailFound, rfl⟩ := Option.map_eq_some_iff.1 found
            rw [List.map_cons, List.flatten_cons, ih tailFound]
            exact parts

theorem covers_walk {text : Text} {segments : List Segment}
    (found : pattern.walk text = some segments) : pattern.Covers text segments where
  whole := flatten_walkFields found
  ordered := map_fst_walkFields found
  nodup := pattern.order.nodup_toList.sublist (map_fst_walkFields found)

/-! ## Segments of a walk -/

theorem head_of_number {field : DateField} (number : field ≠ .month) (text : Text) :
    pattern.head field text = (text.take (pattern.width field)).takeWhile Char.isDigit := by
  cases field with
  | month => contradiction
  | day => rfl
  | year => rfl

/-- A run that is shorter than it may be ends at the end of the text or at a character that does
not belong to it. -/
theorem head?_drop_takeWhile_take {kind : Char → Bool} {most : Nat} {text : Text}
    (short : ((text.take most).takeWhile kind).length < most) :
    ∀ next ∈ (text.drop ((text.take most).takeWhile kind).length).head?, kind next = false := by
  induction text generalizing most with
  | nil => simp
  | cons char text ih =>
      cases most with
      | zero => exact absurd short (Nat.not_lt_zero _)
      | succ most =>
          by_cases member : kind char = true
          · rw [List.take_succ_cons, List.takeWhile_cons_of_pos member, List.length_cons]
              at short ⊢
            exact ih (Nat.lt_of_succ_lt_succ short)
          · simpa [List.takeWhile_cons_of_neg member] using member

/-- A segment between what was passed and what is left takes all that it may: a number as many
digits as it is wide, unless something else follows; a name all letters around, of which there
is one at least. -/
structure TakesAll (pattern : Pattern) (passed : Text) (segment : Segment) (left : Text) :
    Prop where
  number : segment.1 ≠ .month →
    (∀ char ∈ segment.2, char.isDigit = true) ∧ segment.2.length ≤ pattern.width segment.1 ∧
      (segment.2.length < pattern.width segment.1 → ∀ next ∈ left.head?, next.isDigit = false)
  name : segment.1 = .month →
    segment.2 ≠ [] ∧ (∀ char ∈ segment.2, Text.isAlphabetic char = true) ∧
      (∀ last ∈ passed.getLast?, Text.isAlphabetic last = false) ∧
      ∀ next ∈ left.head?, Text.isAlphabetic next = false

theorem takesAll_head {field : DateField} {passed text : Text}
    (digits : field = .month → ∀ char ∈ passed, char.isDigit = true)
    (shown : ¬ (field = .month ∧ pattern.head field text = [])) :
    pattern.TakesAll passed (field, pattern.head field text)
      (text.drop (pattern.head field text).length) where
  number := by
    intro number
    simp only [head_of_number number]
    refine ⟨fun char => List.mem_takeWhile_imp, ?_, head?_drop_takeWhile_take⟩
    exact (List.takeWhile_prefix _).length_le.trans (List.length_take_le _ _)
  name := by
    rintro rfl
    refine ⟨fun missing => shown ⟨rfl, missing⟩, fun char => List.mem_takeWhile_imp, ?_, ?_⟩
    · intro last member
      exact Text.isAlphabetic_of_isDigit (digits rfl last (List.mem_of_getLast? member))
    · -- A name may be as long as the text, so that its run is always shorter than it may be.
      have short : ((text.take (text.length + 1)).takeWhile Text.isAlphabetic).length <
          text.length + 1 := by
        rw [List.take_of_length_le (Nat.le_succ _)]
        exact Nat.lt_succ_of_le (List.takeWhile_prefix _).length_le
      have stops := head?_drop_takeWhile_take short
      rw [List.take_of_length_le (Nat.le_succ _)] at stops
      exact stops

/-- Every segment of a walk takes all that it may.  In front of a name only digits were
passed. -/
theorem takesAll_of_walkFields {fields : List DateField} {passed text : Text}
    {before behind : List Segment} {segment : Segment} (nodup : fields.Nodup)
    (digits : .month ∈ fields → ∀ char ∈ passed, char.isDigit = true)
    (found : pattern.walkFields fields text = some (before ++ segment :: behind)) :
    pattern.TakesAll (passed ++ (before.map Prod.snd).flatten) segment
      (behind.map Prod.snd).flatten := by
  induction fields generalizing text passed before with
  | nil =>
      cases text with
      | nil => simp [walkFields] at found
      | cons char rest => cases found
  | cons field fields ih =>
      cases text with
      | nil => simp [walkFields] at found
      | cons char rest =>
          obtain ⟨notLater, restNodup⟩ := List.nodup_cons.1 nodup
          simp only [walkFields] at found
          split at found
          · rename_i missing
            refine ih restNodup (fun later => ?_) found
            rw [missing.1] at notLater
            contradiction
          · rename_i shown
            obtain ⟨tail, tailFound, same⟩ := Option.map_eq_some_iff.1 found
            cases before with
            | nil =>
                cases same
                rw [flatten_walkFields tailFound, List.map_nil, List.flatten_nil, List.append_nil]
                refine takesAll_head (fun month => digits ?_) shown
                rw [month]
                exact List.mem_cons_self
            | cons first before =>
                cases same
                rw [List.map_cons, List.flatten_cons, ← List.append_assoc]
                refine ih restNodup (fun later => ?_) tailFound
                have number : field ≠ .month := fun month => notLater (month ▸ later)
                intro char member
                cases List.mem_append.1 member with
                | inl inPassed => exact digits (List.mem_cons_of_mem _ later) char inPassed
                | inr inHead =>
                    rw [head_of_number number] at inHead
                    exact List.mem_takeWhile_imp inHead

/-! ## Cutting at byte offsets -/

/-- Where a text was cut, and the segments that came of it. -/
structure Cutting where
  /-- The offsets of the cuts from the beginning of the text, in the order of cutting. -/
  offsets : List Nat
  /-- The segments, if the text has any.  There is no result at all if the text was to be cut
  where it has no boundary. -/
  result : Option (Option (List Segment))
  deriving DecidableEq

namespace Cutting

/-- A cut before all others, with what it adds to the segments. -/
def after (offset : Nat) (add : List Segment → List Segment) (later : Cutting) : Cutting where
  offsets := offset :: later.offsets
  result := later.result.map fun segments => segments.map add

/-- All cuts are made at boundaries of a text, none of them before the last one, and the first
not before `start`. -/
structure Sound (text : Text) (start : Nat) (cutting : Cutting) : Prop where
  boundary : ∀ offset ∈ cutting.offsets, text.IsBoundary offset
  within : ∀ offset ∈ cutting.offsets, offset ≤ text.byteLength
  ordered : (start :: cutting.offsets).Pairwise (· ≤ ·)

theorem Sound.nil {text : Text} {start : Nat} {result : Option (Option (List Segment))} :
    Sound text start ⟨[], result⟩ where
  boundary := by
    intro offset member
    cases member
  within := by
    intro offset member
    cases member
  ordered := List.pairwise_singleton _ _

theorem Sound.after {text : Text} {start stop : Nat} {add : List Segment → List Segment}
    {later : Cutting} (ordered : start ≤ stop) (boundary : text.IsBoundary stop)
    (sound : later.Sound text stop) : (later.after stop add).Sound text start where
  boundary := by
    intro offset member
    cases List.mem_cons.1 member with
    | inl here => exact here ▸ boundary
    | inr there => exact sound.boundary offset there
  within := by
    intro offset member
    cases List.mem_cons.1 member with
    | inl here => exact here ▸ boundary.le
    | inr there => exact sound.within offset there
  ordered := by
    refine List.pairwise_cons.2 ⟨fun offset member => ?_, sound.ordered⟩
    cases List.mem_cons.1 member with
    | inl here => exact here ▸ ordered
    | inr there => exact ordered.trans ((List.pairwise_cons.1 sound.ordered).1 offset there)

end Cutting

/-- The pieces of a text from one offset on, each as wide as it may be. -/
def cutBytes (text : Text) : (start : Nat) → List (DateField × Nat) → Cutting
  | start, [] => ⟨[], some (if start = text.byteLength then some [] else none)⟩
  | start, (field, width) :: widths =>
      let stop := min (start + width) text.byteLength
      match text.between? start stop with
      | some piece => (cutBytes text stop widths).after stop ((field, piece) :: ·)
      | none => ⟨[stop], none⟩

/-- Cut a packed text with three numeric fields by their widths in bytes.  Two bytes are the day
and are not cut. -/
def sliceBytes (pattern : Pattern) (text : Text) : Cutting :=
  if text.all Text.isAscii then
    if text.byteLength ≤ 2 then ⟨[], some (some [(.day, text)])⟩
    else cutBytes text 0 ((pattern.fieldsOfLength text.byteLength).map fun field =>
      (field, pattern.sliceWidth text.byteLength field))
  else ⟨[], some none⟩

/-- How many bytes a field takes from the front of a text: those before the first character that
is no letter, or one for each digit. -/
def headBytes (pattern : Pattern) : DateField → Text → Nat
  | .month, text =>
      (Text.findByte? (fun char => !Text.isAlphabetic char) text).getD text.byteLength
  | field, text => ((text.take (pattern.width field)).takeWhile Char.isDigit).length

/-- The segments of the rest of a text, which begins at an offset. -/
def walkBytesFrom (pattern : Pattern) : (start : Nat) → List DateField → Text → Cutting
  | _, _, [] => ⟨[], some (some [])⟩
  | _, [], _ :: _ => ⟨[], some none⟩
  | start, field :: fields, rest =>
      let stop := start + pattern.headBytes field rest
      match rest.splitAtByte? (pattern.headBytes field rest) with
      | some (head, tail) =>
          (pattern.walkBytesFrom stop fields tail).after stop fun segments =>
            if field = .month ∧ head = [] then segments else (field, head) :: segments
      | none => ⟨[stop], none⟩

/-- Cut a packed text with a month name, field by field. -/
def walkBytes (pattern : Pattern) (text : Text) : Cutting :=
  pattern.walkBytesFrom 0 pattern.order.toList text

/-! ## Cuts by width -/

theorem cutBytes_cons {front rest : Text} (ascii : ∀ char ∈ rest, Text.isAscii char = true)
    (field : DateField) (width : Nat) (widths : List (DateField × Nat)) :
    cutBytes (front ++ rest) front.byteLength ((field, width) :: widths) =
      (cutBytes (front ++ rest) (Text.byteLength (front ++ rest.take width)) widths).after
        (Text.byteLength (front ++ rest.take width)) ((field, rest.take width) :: ·) := by
  have taken : Text.byteLength (rest.take width) = min width rest.length := by
    rw [Text.byteLength_of_ascii fun char member => ascii char (List.mem_of_mem_take member),
      List.length_take]
  have stop : min (front.byteLength + width) (Text.byteLength (front ++ rest)) =
      Text.byteLength (front ++ rest.take width) := by
    rw [Text.byteLength_append, Text.byteLength_append, Text.byteLength_of_ascii ascii, taken,
      Nat.add_min_add_left]
  have piece : Text.between? front.byteLength (Text.byteLength (front ++ rest.take width))
      (front ++ rest) = some (rest.take width) := by
    have cut := Text.between?_append front (rest.take width) (rest.drop width)
    rwa [List.take_append_drop, ← Text.byteLength_append] at cut
  simp only [cutBytes, stop, piece]

theorem cutBytes_spec {front rest : Text} (ascii : ∀ char ∈ rest, Text.isAscii char = true)
    (widths : List (DateField × Nat)) :
    (cutBytes (front ++ rest) front.byteLength widths).Sound (front ++ rest) front.byteLength ∧
      (cutBytes (front ++ rest) front.byteLength widths).result = some (cut widths rest) := by
  induction widths generalizing front rest with
  | nil =>
      refine ⟨.nil, ?_⟩
      cases rest with
      | nil => simp [cutBytes, cut]
      | cons char rest =>
          have positive := char.utf8Size_pos
          simp only [cutBytes, cut, Text.byteLength_append, Text.byteLength_cons]
          rw [if_neg (by omega)]
  | cons entry widths ih =>
      obtain ⟨field, width⟩ := entry
      have whole : front ++ rest = (front ++ rest.take width) ++ rest.drop width := by
        rw [List.append_assoc, List.take_append_drop]
      obtain ⟨sound, result⟩ := @ih (front ++ rest.take width) (rest.drop width)
        fun char member => ascii char (List.mem_of_mem_drop member)
      rw [← whole] at sound result
      rw [cutBytes_cons ascii]
      constructor
      · refine sound.after ?_ ?_
        · rw [Text.byteLength_append]
          exact Nat.le_add_right _ _
        · rw [whole]
          exact Text.isBoundary_append _ _
      · rw [Cutting.after, result]
        rfl

/-- Cutting by widths is sound, and finds the segments that are found character by
character. -/
theorem sliceBytes_spec (pattern : Pattern) (text : Text) :
    (pattern.sliceBytes text).Sound text 0 ∧
      (pattern.sliceBytes text).result = some (pattern.slice text) := by
  rw [sliceBytes, slice]
  split
  · rename_i ascii
    rw [List.all_eq_true] at ascii
    rw [Text.byteLength_of_ascii ascii]
    split
    · rename_i short
      refine ⟨.nil, ?_⟩
      rw [fieldsOfLength, if_pos short]
      have width : pattern.sliceWidth text.length .day = 2 := by simp [sliceWidth, width]
      simp [cut, width, List.take_of_length_le short, List.drop_eq_nil_of_le short]
    · exact @cutBytes_spec [] text ascii _
  · exact ⟨.nil, rfl⟩

/-! ## Cuts of a walk -/

/-- The bytes of a head are counted, though a digit is counted as a character. -/
theorem headBytes_eq (field : DateField) (text : Text) :
    pattern.headBytes field text = (pattern.head field text).byteLength := by
  have digits : ∀ width, ((text.take width).takeWhile Char.isDigit).length =
      Text.byteLength ((text.take width).takeWhile Char.isDigit) := by
    intro width
    refine (Text.byteLength_of_ascii fun char member => ?_).symm
    exact Text.isAscii_of_isDigit (List.mem_takeWhile_imp member)
  cases field with
  | month => exact Text.getD_findByte? Text.isAlphabetic text
  | day => exact digits _
  | year => exact digits _

theorem walkBytesFrom_cons (start : Nat) (field : DateField) (fields : List DateField)
    {text : Text} (nonempty : text ≠ []) :
    pattern.walkBytesFrom start (field :: fields) text =
      (pattern.walkBytesFrom (start + (pattern.head field text).byteLength) fields
        (text.drop (pattern.head field text).length)).after
          (start + (pattern.head field text).byteLength) fun segments =>
            if field = .month ∧ pattern.head field text = [] then segments
            else (field, pattern.head field text) :: segments := by
  have split : text.splitAtByte? (pattern.head field text).byteLength =
      some (pattern.head field text, text.drop (pattern.head field text).length) :=
    Text.splitAtByte?_eq_some_iff.2 ⟨(pattern.head_append_drop field text).symm, rfl⟩
  cases text with
  | nil => contradiction
  | cons char rest => simp only [walkBytesFrom, headBytes_eq, split]

theorem walkBytesFrom_spec (fields : List DateField) (front rest : Text) :
    (pattern.walkBytesFrom front.byteLength fields rest).Sound (front ++ rest)
        front.byteLength ∧
      (pattern.walkBytesFrom front.byteLength fields rest).result =
        some (pattern.walkFields fields rest) := by
  induction fields generalizing front rest with
  | nil =>
      cases rest with
      | nil => exact ⟨.nil, rfl⟩
      | cons char rest => exact ⟨.nil, rfl⟩
  | cons field fields ih =>
      cases rest with
      | nil => exact ⟨.nil, rfl⟩
      | cons char rest =>
          have parts := pattern.head_append_drop field (char :: rest)
          obtain ⟨sound, result⟩ := ih (front ++ pattern.head field (char :: rest))
            ((char :: rest).drop (pattern.head field (char :: rest)).length)
          rw [List.append_assoc, parts, Text.byteLength_append] at sound
          rw [Text.byteLength_append] at result
          have boundary := Text.isBoundary_append (front ++ pattern.head field (char :: rest))
            ((char :: rest).drop (pattern.head field (char :: rest)).length)
          rw [List.append_assoc, parts, Text.byteLength_append] at boundary
          rw [walkBytesFrom_cons _ _ _ (List.cons_ne_nil char rest)]
          refine ⟨sound.after (Nat.le_add_right _ _) boundary, ?_⟩
          simp only [Cutting.after, result, walkFields, Option.map_some]
          split <;> simp

/-- A packed text is never cut inside a character, outside of itself or before the last cut,
whatever the pattern and the text.  What the cuts give are the segments of the text, and where it
has segments, they cover it.  In a walk every segment takes all that it may. -/
theorem packed_text_cut_into_segments (pattern : Pattern) (text : Text) :
    ((pattern.sliceBytes text).Sound text 0 ∧
      (pattern.sliceBytes text).result = some (pattern.slice text)) ∧
    ((pattern.walkBytes text).Sound text 0 ∧
      (pattern.walkBytes text).result = some (pattern.walk text)) ∧
    (∀ segments, pattern.slice text = some segments ∨ pattern.walk text = some segments →
      pattern.Covers text segments) ∧
    ∀ before segment behind, pattern.walk text = some (before ++ segment :: behind) →
      pattern.TakesAll (before.map Prod.snd).flatten segment (behind.map Prod.snd).flatten := by
  refine ⟨pattern.sliceBytes_spec text, ?_, ?_, ?_⟩
  · exact walkBytesFrom_spec pattern.order.toList [] text
  · intro segments found
    cases found with
    | inl sliced => exact covers_slice sliced
    | inr walked => exact covers_walk walked
  · intro before segment behind found
    -- Nothing was passed before the first segment.
    refine @takesAll_of_walkFields _ _ [] _ _ _ _ pattern.order.nodup_toList ?_ found
    intro _ char member
    cases member

/-- A letter of two bytes is passed as a whole. -/
example :
    let pattern : Pattern := ⟨"0dmM_y".toList, .packed, .dayMonthYear, .zeroPadded, .name, none⟩
    pattern.walkBytes "05März2024".toList =
      ⟨[2, 7, 11], some (some [(.day, "05".toList), (.month, "März".toList),
        (.year, "2024".toList)])⟩ := by
  decide +kernel

end DateDisplay.Pattern
