import DateDisplay.Proofs.Locale.Frame
import DateDisplay.Proofs.Locale.Occurrences

/-!
# The sample day in a frame

Where no digits stand around the fields, each field of the sample day is found in its
place: two ones stand together in the month alone, twos in the day alone, and a nine or
an eight in the year alone.
-/

namespace DateDisplay

open Detection

/-- What the fields of the sample day show. -/
def sampleText (style : YearStyle) : DateField → Text
  | .day => ['2', '2']
  | .month => ['1', '1']
  | .year =>
      match style with
      | .full => ['1', '9', '8', '7']
      | .short => ['8', '7']

/-- The most digits of a field. -/
def YearStyle.mostDigits (style : YearStyle) : DateField → Nat
  | .year =>
      match style with
      | .full => 4
      | .short => 2
  | _ => 2

theorem FieldOrder.ofPositions_eq {order : FieldOrder} {position : DateField → Nat}
    (increasing : order.toList.Pairwise fun left right => position left < position right) :
    ofPositions (position .day) (position .month) (position .year) = order := by
  cases order <;>
    simp only [toList, List.pairwise_cons, List.mem_cons, List.not_mem_nil, or_false,
      forall_eq_or_imp, forall_eq] at increasing <;>
    simp only [ofPositions] <;>
    grind

variable {frame : Frame} {style : YearStyle}

namespace Frame

/-! ## Absence in front of a field -/

/-- A text of which no occurrence begins in another field, or around the fields, does not
occur in front of its own. -/
theorem absent_upTo {needle : Text} {shown : DateField → Text} {target : DateField}
    (around : ∀ field after, Absent needle after (frame.before field))
    (others : ∀ field, field ≠ target → ∀ after, Absent needle after (shown field))
    (fields : List DateField) (after : Text) :
    Absent needle after (frame.upTo shown target fields) := by
  induction fields with
  | nil => trivial
  | cons field fields ih =>
      rw [upTo]
      split
      · exact around field after
      · rename_i different
        exact absent_append (around field _) (absent_append (others field different _) ih)

theorem NoDigits.absent_before (noDigits : frame.NoDigits) {first : Char} {rest : Text}
    (digit : first.isDigit = true) (field : DateField) (after : Text) :
    Absent (first :: rest) after (frame.before field) := by
  refine absent_of_notMem fun member => ?_
  rw [noDigits.before field first member] at digit
  cases digit

/-- The ones of a year do not stand together. -/
theorem absent_month {field : DateField} (different : field ≠ .month) (after : Text) :
    Absent ['1', '1'] after (sampleText style field) := by
  cases field with
  | day => exact absent_of_notMem (by simp [sampleText])
  | month => exact absurd rfl different
  | year => cases style <;> simp [sampleText, Absent]

theorem absent_day {field : DateField} (different : field ≠ .day) (after : Text) :
    Absent ['2', '2'] after (sampleText style field) := by
  cases field with
  | day => exact absurd rfl different
  | month => exact absent_of_notMem (by simp [sampleText])
  | year => cases style <;> exact absent_of_notMem (by simp [sampleText])

theorem absent_shortYear {field : DateField} (different : field ≠ .year) (after : Text) :
    Absent ['8', '7'] after (sampleText style field) := by
  cases field with
  | year => exact absurd rfl different
  | _ => exact absent_of_notMem (by simp [sampleText])

/-- Only a year in full has a nine. -/
theorem eq_year_of_nine_mem {field : DateField} (member : '9' ∈ sampleText style field) :
    field = .year ∧ style = .full := by
  cases field <;> cases style <;> simp [sampleText] at member ⊢

/-! ## Finding the fields -/

/-- A field is found if it does not occur earlier and its place is not taken. -/
theorem findFree?_text {shown : DateField → Text} {target : DateField}
    {fields : List DateField} {taken : List Span} (member : target ∈ fields)
    (nonempty : shown target ≠ [])
    (absent : ∀ after, after.head? = (shown target).head? →
      Absent (shown target) after (frame.upTo shown target fields))
    (free : ∀ span ∈ taken, Span.Apart (frame.span shown fields target) span) :
    findFree? (frame.text shown fields) (shown target) taken =
      some (frame.span shown fields target) := by
  rw [text_eq_append frame shown member]
  refine findFree?_append nonempty (absent _ ?_) free
  rcases List.exists_cons_of_ne_nil nonempty with ⟨first, rest, shows⟩
  rw [shows]
  rfl

theorem findYear?_text (noDigits : frame.NoDigits) (order : FieldOrder) :
    Located.findYear? (frame.text (sampleText style) order.toList) =
      some (frame.span (sampleText style) order.toList .year, style) := by
  have nine : ∀ field, '9' ∉ frame.before field := fun field member =>
    Bool.noConfusion (noDigits.before field '9' member)
  cases style with
  | full =>
      have found : findFree? (frame.text (sampleText .full) order.toList)
          ['1', '9', '8', '7'] [] = some (frame.span (sampleText .full) order.toList .year) := by
        refine findFree?_text (order.mem_toList .year) nofun (fun after first => ?_) nofun
        -- The month shows ones as well; what tells a year from it is the nine.
        refine absent_of_second_notMem (fun member => ?_) (by rw [first]; simp [sampleText])
        rcases mem_upTo member with ⟨field, around⟩ | ⟨field, different, shown⟩
        · exact nine field around
        · exact different (eq_year_of_nine_mem shown).1
      rw [Located.findYear?, found]
  | short =>
      have notFull : findFree? (frame.text (sampleText .short) order.toList)
          ['1', '9', '8', '7'] [] = none := by
        refine findFree?_of_absent (absent_of_second_notMem (fun member => ?_) nofun) []
        rcases mem_text member with ⟨field, around | shown⟩ | behind
        · exact nine field around
        · cases (eq_year_of_nine_mem shown).2
        · exact Bool.noConfusion (noDigits.behind '9' behind)
      have found : findFree? (frame.text (sampleText .short) order.toList) ['8', '7'] [] =
          some (frame.span (sampleText .short) order.toList .year) := by
        refine findFree?_text (order.mem_toList .year) nofun (fun after _ => ?_) nofun
        exact absent_upTo (noDigits.absent_before rfl) (fun _ => absent_shortYear) _ after
      rw [Located.findYear?, notFull, found]
      rfl

/-- Where the fields of the sample day are. -/
def located (frame : Frame) (style : YearStyle) (order : FieldOrder) : Located where
  day := frame.span (sampleText style) order.toList .day
  month := frame.span (sampleText style) order.toList .month
  year := frame.span (sampleText style) order.toList .year
  style := style

@[simp] theorem span_located (order : FieldOrder) (field : DateField) :
    (frame.located style order).span field =
      frame.span (sampleText style) order.toList field := by
  cases field <;> rfl

/-- Every field of the sample day is found in its place. -/
theorem find?_text (noDigits : frame.NoDigits) (order : FieldOrder) :
    Located.find? (frame.text (sampleText style) order.toList) =
      some (frame.located style order) := by
  have apart {left right : DateField} (different : left ≠ right) :=
    apart_span frame (sampleText style) order.nodup_toList
      (order.mem_toList left) (order.mem_toList right) different
  have monthFound : findFree? (frame.text (sampleText style) order.toList) ['1', '1']
      [frame.span (sampleText style) order.toList .year] =
        some (frame.span (sampleText style) order.toList .month) := by
    refine findFree?_text (order.mem_toList .month) nofun (fun after _ => ?_) ?_
    · exact absent_upTo (noDigits.absent_before rfl) (fun _ => absent_month) _ after
    · simpa using apart (by decide)
  have dayFound : findFree? (frame.text (sampleText style) order.toList) ['2', '2']
      [frame.span (sampleText style) order.toList .year,
        frame.span (sampleText style) order.toList .month] =
        some (frame.span (sampleText style) order.toList .day) := by
    refine findFree?_text (order.mem_toList .day) nofun (fun after _ => ?_) ?_
    · exact absent_upTo (noDigits.absent_before rfl) (fun _ => absent_day) _ after
    · simpa using ⟨apart (by decide), apart (by decide)⟩
  simp only [Located.find?, findYear?_text noDigits order, Option.bind_eq_bind,
    Option.bind_some, monthFound, dayFound]
  rfl

/-! ## Taking the rendering apart -/

theorem order_located (order : FieldOrder) : (frame.located style order).order = order := by
  have increasing : order.toList.Pairwise fun left right =>
      (frame.span (sampleText style) order.toList left).start <
        (frame.span (sampleText style) order.toList right).start := by
    refine (pairwise_stop_le_start frame (sampleText style) order.nodup_toList).imp ?_
    intro left right ordered
    have shows : 0 < (sampleText style left).length := by
      cases left <;> cases style <;> decide
    exact Nat.lt_of_lt_of_le (Nat.lt_add_of_pos_right shows) ordered
  exact FieldOrder.ofPositions_eq increasing

theorem template_located (order : FieldOrder) :
    (frame.located style order).template (frame.text (sampleText style) order.toList) =
      frame.template style.mostDigits order.toList := by
  have most : (frame.located style order).mostDigits = style.mostDigits := by
    funext field
    cases field <;> rfl
  have places : ∀ field ∈ order.toList, (frame.located style order).span field =
      ⟨([] : Text).length + (frame.upTo (sampleText style) field order.toList).length,
        (sampleText style field).length⟩ := by
    intro field _
    rw [span_located, List.length_nil, Nat.zero_add]
    rfl
  rw [Located.template, order_located, ← most]
  exact templateFrom_text [] order.nodup_toList places

/-- The layout of a frame with an order of fields in it. -/
def detected (frame : Frame) (style : YearStyle) (order : FieldOrder)
    (window : CenturyWindow) : DetectedLayout where
  order := order
  template := frame.template style.mostDigits order.toList
  century :=
    match style with
    | .full => none
    | .short => some window

/-- A layout without digits of its own is detected from its rendering of the sample
day. -/
theorem ofRendering?_text (noDigits : frame.NoDigits) (order : FieldOrder)
    (window : CenturyWindow) :
    DetectedLayout.ofRendering? window (frame.text (sampleText style) order.toList) =
      some (frame.detected style order window) := by
  rw [DetectedLayout.ofRendering?, find?_text noDigits order, Option.map_some, order_located,
    template_located]
  rfl

end Frame

end DateDisplay
