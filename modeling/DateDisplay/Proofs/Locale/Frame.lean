import DateDisplay.Locale.Detection
import DateDisplay.Proofs.Locale.Captures
import Mathlib.Data.List.Basic
import Mathlib.Data.List.Pairwise

/-!
# Frames around fields

A frame is what stays the same when a layout shows one date or another: a text in front
of each field and one behind the last.  With texts for the fields it makes up a whole
text, with runs of digits for the fields a template.
-/

namespace DateDisplay

/-- Three values are those of the three fields. -/
theorem FieldOrder.exists_eq_map_toList {α : Type} (order : FieldOrder) {values : List α}
    (length : values.length = 3) : ∃ image, values = order.toList.map image := by
  rcases List.length_eq_three.1 length with ⟨first, second, third, rfl⟩
  refine ⟨fun field => [first, second, third][order.position field]?.getD first, ?_⟩
  cases order <;> rfl

/-- The texts around the fields of a date. -/
structure Frame where
  before : DateField → Text
  behind : Text

namespace Frame

/-- The whole text, given what each field shows. -/
def text (frame : Frame) (shown : DateField → Text) : List DateField → Text
  | [] => frame.behind
  | field :: fields => frame.before field ++ (shown field ++ frame.text shown fields)

/-- The template of the texts in which each field shows at most so many digits. -/
def template (frame : Frame) (most : DateField → Nat) : List DateField → Template
  | [] => [.literal frame.behind]
  | field :: fields =>
      .literal (frame.before field) :: .digits (most field) :: frame.template most fields

/-- No digit stands around the fields. -/
structure NoDigits (frame : Frame) : Prop where
  before : ∀ field, ∀ char ∈ frame.before field, char.isDigit = false
  behind : ∀ char ∈ frame.behind, char.isDigit = false

variable {frame : Frame} {shown : DateField → Text} {most : DateField → Nat}

/-! ## Filling the template -/

@[simp] theorem fill_template (fields : List DateField) :
    (frame.template most fields).fill (fields.map shown) = frame.text shown fields := by
  induction fields with
  | nil => simp [template, text, Template.fill]
  | cons field fields ih => simp [template, text, Template.fill, ih]

theorem noDigits_template (noDigits : frame.NoDigits) (fields : List DateField) :
    (frame.template most fields).NoDigits := by
  induction fields with
  | nil =>
      rintro literal member
      cases List.mem_singleton.1 member
      exact noDigits.behind
  | cons field fields ih =>
      rintro literal (_ | ⟨_, _ | ⟨_, member⟩⟩)
      · exact noDigits.before field
      · exact ih literal member

theorem takes_template (shows : ∀ field, Template.IsRun (most field) (shown field))
    (fields : List DateField) : (frame.template most fields).Takes (fields.map shown) := by
  induction fields with
  | nil => rfl
  | cons field fields ih => exact ⟨shows field, ih⟩

/-- From these fields on, up to the next text between fields, each shows one digit. -/
def Single (frame : Frame) (shown : DateField → Text) : List DateField → Prop
  | [] => True
  | field :: fields =>
      frame.before field ≠ [] ∨ ((shown field).length = 1 ∧ frame.Single shown fields)

/-- The fields can be told apart by reading as many digits as possible: each shows all that
its piece may take, or the fields behind it cannot do without any of their own. -/
def Parted (frame : Frame) (shown : DateField → Text) (most : DateField → Nat) :
    List DateField → Prop
  | [] => True
  | field :: fields =>
      ((shown field).length = most field ∨ frame.Single shown fields) ∧
        frame.Parted shown most fields

theorem single_template (fields : List DateField) :
    (frame.template most fields).Single (fields.map shown) ↔ frame.Single shown fields := by
  induction fields with
  | nil => exact iff_of_true (.inr trivial) trivial
  | cons field fields ih => exact or_congr_right (and_congr_right fun _ => ih)

theorem parted_template (fields : List DateField) :
    (frame.template most fields).Parted (fields.map shown) ↔
      frame.Parted shown most fields := by
  induction fields with
  | nil => exact Iff.rfl
  | cons field fields ih => exact and_congr (or_congr_right (single_template fields)) ih

/-- Matching gives every field its text back exactly when the fields can be told apart. -/
theorem captures?_text_iff (noDigits : frame.NoDigits)
    (shows : ∀ field, Template.IsRun (most field) (shown field)) (fields : List DateField) :
    (frame.template most fields).captures? (frame.text shown fields) =
        some (fields.map shown) ↔ frame.Parted shown most fields := by
  rw [← parted_template, ← fill_template]
  exact Template.captures?_fill_iff (noDigits_template noDigits fields)
    (takes_template shows fields)

/-- Fields that show all the digits their pieces may take get their texts back whatever stands
around them, digits included. -/
theorem captures?_text_of_length (shows : ∀ field, Template.IsRun (most field) (shown field))
    (full : ∀ field, (shown field).length = most field) (fields : List DateField) :
    (frame.template most fields).captures? (frame.text shown fields) =
      some (fields.map shown) := by
  induction fields with
  | nil =>
      have behind := Text.after?_append frame.behind []
      rw [List.append_nil] at behind
      simp [template, text, Template.captures?, behind]
  | cons field fields ih =>
      rw [template, text, Template.captures?, Text.after?_append, Option.bind_eq_bind,
        Option.bind_some, Template.captures?_digits_eq_some_iff]
      refine ⟨shown field, _, _, rfl, rfl, shows field, ih, ?_⟩
      intro longer after split isLonger more
      have bounded := isLonger.bounded
      have all := full field
      omega

/-- A field that shows fewer digits than its piece may take has some text between itself
and the next field. -/
def Delimits (frame : Frame) (shown : DateField → Text) (most : DateField → Nat)
    (fields : List DateField) : Prop :=
  ∀ left right, [left, right] <:+: fields →
    (shown left).length = most left ∨ frame.before right ≠ []

theorem Delimits.parted {fields : List DateField}
    (delimits : frame.Delimits shown most fields) : frame.Parted shown most fields := by
  induction fields with
  | nil => trivial
  | cons field fields ih =>
      refine ⟨?_, ih fun left right isInfix =>
        delimits left right (isInfix.trans (List.suffix_cons field fields).isInfix)⟩
      cases fields with
      | nil => exact .inr trivial
      | cons next fields =>
          exact (delimits field next (List.prefix_append [field, next] fields).isInfix).imp_right
            .inl

/-- Whatever a template captures, every field has a run of its own. -/
theorem length_of_takes {fields : List DateField} {captures : List Text}
    (takes : (frame.template most fields).Takes captures) : captures.length = fields.length := by
  induction fields generalizing captures with
  | nil =>
      rw [show captures = [] from takes]
      rfl
  | cons field fields ih =>
      cases captures with
      | nil => exact takes.elim
      | cons run captures => rw [List.length_cons, ih takes.2, List.length_cons]

theorem isRun_of_takes {fields : List DateField}
    (takes : (frame.template most fields).Takes (fields.map shown)) :
    ∀ field ∈ fields, Template.IsRun (most field) (shown field) := by
  induction fields with
  | nil => nofun
  | cons field fields ih =>
      rintro other (_ | ⟨_, member⟩)
      · exact takes.1
      · exact ih takes.2 other member

/-- A text that matches is in the frame. -/
theorem exists_shown_of_captures? {order : FieldOrder} {text : Text} {captures : List Text}
    (result : (frame.template most order.toList).captures? text = some captures) :
    ∃ shown, captures = order.toList.map shown ∧ frame.text shown order.toList = text ∧
      ∀ field, Template.IsRun (most field) (shown field) := by
  have takes := Template.takes_captures result
  obtain ⟨shown, rfl⟩ : ∃ shown, captures = order.toList.map shown :=
    order.exists_eq_map_toList ((length_of_takes takes).trans order.length_toList)
  refine ⟨shown, rfl, ?_, fun field => isRun_of_takes takes field (order.mem_toList field)⟩
  rw [← fill_template]
  exact Template.fill_captures result

/-! ## Places -/

/-- What stands in front of a field. -/
def upTo (frame : Frame) (shown : DateField → Text) (target : DateField) :
    List DateField → Text
  | [] => []
  | field :: fields =>
      if field = target then frame.before field
      else frame.before field ++ (shown field ++ frame.upTo shown target fields)

/-- What stands behind a field. -/
def beyond (frame : Frame) (shown : DateField → Text) (target : DateField) :
    List DateField → Text
  | [] => []
  | field :: fields =>
      if field = target then frame.text shown fields
      else frame.beyond shown target fields

/-- The place of a field. -/
def span (frame : Frame) (shown : DateField → Text) (fields : List DateField)
    (target : DateField) : Span :=
  ⟨(frame.upTo shown target fields).length, (shown target).length⟩

/-- A field stands between what is in front of it and what is behind it. -/
theorem text_eq_append (frame : Frame) (shown : DateField → Text) {target : DateField}
    {fields : List DateField} (member : target ∈ fields) :
    frame.text shown fields =
      frame.upTo shown target fields ++ (shown target ++ frame.beyond shown target fields) := by
  induction fields with
  | nil => cases member
  | cons field fields ih =>
      by_cases here : field = target
      · subst here
        simp only [text, upTo, beyond, if_true]
      · have later : target ∈ fields := (List.mem_cons.1 member).resolve_left (Ne.symm here)
        simp only [text, upTo, beyond, if_neg here, ih later, List.append_assoc]

theorem mem_text {char : Char} {fields : List DateField}
    (member : char ∈ frame.text shown fields) :
    (∃ field, char ∈ frame.before field ∨ char ∈ shown field) ∨ char ∈ frame.behind := by
  induction fields with
  | nil => exact .inr member
  | cons field fields ih =>
      simp only [text, List.mem_append] at member
      rcases member with member | member | member
      · exact .inl ⟨field, .inl member⟩
      · exact .inl ⟨field, .inr member⟩
      · exact ih member

/-- In front of a field only other fields are shown. -/
theorem mem_upTo {char : Char} {target : DateField} {fields : List DateField}
    (member : char ∈ frame.upTo shown target fields) :
    (∃ field, char ∈ frame.before field) ∨ ∃ field, field ≠ target ∧ char ∈ shown field := by
  induction fields with
  | nil => cases member
  | cons field fields ih =>
      simp only [upTo] at member
      split at member
      · exact .inl ⟨field, member⟩
      · rename_i different
        simp only [List.mem_append] at member
        rcases member with member | member | member
        · exact .inl ⟨field, member⟩
        · exact .inr ⟨field, different, member⟩
        · exact ih member

/-- Every field stands behind those named before it. -/
theorem pairwise_stop_le_start (frame : Frame) (shown : DateField → Text)
    {fields : List DateField} (nodup : fields.Nodup) :
    fields.Pairwise fun left right =>
      (frame.span shown fields left).stop ≤ (frame.span shown fields right).start := by
  induction fields with
  | nil => exact .nil
  | cons field fields ih =>
      rcases List.nodup_cons.1 nodup with ⟨notMem, nodup⟩
      have start : ∀ other ∈ fields, (frame.span shown (field :: fields) other).start =
          (frame.before field).length + ((shown field).length +
            (frame.span shown fields other).start) := by
        intro other member
        have different : field ≠ other := fun same => notMem (same ▸ member)
        simp only [span, upTo, if_neg different, List.length_append]
      refine List.pairwise_cons.2 ⟨fun other member => ?_, ?_⟩
      · rw [start other member]
        simp only [Span.stop, span, upTo, if_true]
        omega
      · refine (ih nodup).imp_of_mem fun {left right} leftMember rightMember ordered => ?_
        rw [start right rightMember, Span.stop, start left leftMember]
        simp only [Span.stop, span] at ordered ⊢
        omega

/-- Different fields stand in different places. -/
theorem apart_span (frame : Frame) (shown : DateField → Text) {fields : List DateField}
    (nodup : fields.Nodup) {left right : DateField} (leftMember : left ∈ fields)
    (rightMember : right ∈ fields) (different : left ≠ right) :
    Span.Apart (frame.span shown fields left) (frame.span shown fields right) := by
  have ordered : fields.Pairwise fun left right =>
      Span.Apart (frame.span shown fields left) (frame.span shown fields right) :=
    (pairwise_stop_le_start frame shown nodup).imp .inl
  have : Std.Symm fun left right =>
      Span.Apart (frame.span shown fields left) (frame.span shown fields right) :=
    ⟨fun _ _ => Or.symm⟩
  exact ordered.forall leftMember rightMember different

/-- Cutting the fields out of a text leaves its template. -/
theorem templateFrom_text {located : Located} {fields : List DateField} (cut : Text)
    (nodup : fields.Nodup)
    (places : ∀ field ∈ fields, located.span field =
      ⟨cut.length + (frame.upTo shown field fields).length, (shown field).length⟩) :
    located.templateFrom (cut ++ frame.text shown fields) cut.length fields =
      frame.template located.mostDigits fields := by
  induction fields generalizing cut with
  | nil => simp [Located.templateFrom, template, text]
  | cons field fields ih =>
      rcases List.nodup_cons.1 nodup with ⟨notMem, nodup⟩
      have place := places field List.mem_cons_self
      simp only [upTo, if_true] at place
      have stop : (located.span field).stop =
          (cut ++ (frame.before field ++ shown field)).length := by
        simp only [place, Span.stop, List.length_append]
        omega
      have later : ∀ other ∈ fields, located.span other =
          ⟨(cut ++ (frame.before field ++ shown field)).length +
            (frame.upTo shown other fields).length, (shown other).length⟩ := by
        intro other member
        have different : field ≠ other := fun same => notMem (same ▸ member)
        rw [places other (List.mem_cons_of_mem _ member), upTo, if_neg different]
        simp only [List.length_append, Nat.add_assoc]
      have rest := ih _ nodup later
      rw [List.append_assoc, List.append_assoc] at rest
      rw [Located.templateFrom, stop, text, rest, List.drop_left, place, Nat.add_sub_cancel_left,
        List.take_left, template]

end Frame

end DateDisplay
