import Mathlib.Data.List.Basic
import DateDisplay.CommandLine.Report
import DateDisplay.Proofs.Date.Iso
import DateDisplay.Proofs.Text.EscapeSequences

/-!
# Reports without their escape sequences

Colour writes escape sequences around the styled fragments of a report.  When they are taken
out again, every fragment is left with its own text and with the spaces that fill it up.  Those
spaces are what colour changes, since escape sequences count for the width of a fragment.
-/

namespace DateDisplay

open Text

namespace Fragment

/-- The room that escape sequences take in a fragment. -/
def markRoom (color : Bool) (fragment : Fragment) : Nat :=
  if color then fragment.style.elim 0 fun style => style.parameters.length + 7 else 0

/-- The spaces that fill a fragment up. -/
def filling (color : Bool) (fragment : Fragment) : Text :=
  List.replicate (fragment.width - (fragment.text.length + fragment.markRoom color)) ' '

/-- What is left of a fragment without escape sequences. -/
def shown (color : Bool) (fragment : Fragment) : Text :=
  unstyled fragment.text ++ fragment.filling color

theorem isParameter_of_mem_parameters {style : ReportStyle} :
    ∀ char ∈ style.parameters, isParameter char = true := by
  rw [← List.all_eq_true]
  cases style <;> rfl

theorem unstyled_escapeSequence_append {parameters : Text}
    (all : ∀ char ∈ parameters, isParameter char = true) (rest : Text) :
    unstyled (escapeSequence parameters ++ rest) = unstyled rest := by
  have whole : escapeSequence parameters ++ rest =
      '\x1b' :: '[' :: (parameters ++ 'm' :: rest) := by
    simp [escapeSequence]
  rw [whole, unstyled_sequence_append all]

theorem endsSequences_escapeSequence_append (parameters rest : Text) :
    EndsSequences (escapeSequence parameters ++ rest) := by
  intro char first
  obtain rfl := Option.some.inj first
  rfl

theorem length_escapeSequence (parameters : Text) :
    (escapeSequence parameters).length = parameters.length + 3 := by
  simp [escapeSequence]

theorem render_of_styled {fragment : Fragment} {style : ReportStyle}
    (styled : fragment.style = some style) :
    fragment.render true =
      escapeSequence style.parameters ++
        (fragment.text ++ (escapeSequence ['0'] ++ fragment.filling true)) := by
  have length : (escapeSequence style.parameters ++ fragment.text ++
      escapeSequence ['0']).length = fragment.text.length + fragment.markRoom true := by
    simp only [List.length_append, length_escapeSequence, markRoom, if_true, styled,
      Option.elim_some, List.length_singleton]
    omega
  simp only [render, styled, List.rightpad]
  rw [length]
  simp only [filling, List.append_assoc]

theorem render_of_plain {fragment : Fragment} {color : Bool}
    (plain : color = false ∨ fragment.style = none) :
    fragment.render color = fragment.text ++ fragment.filling color := by
  have room : fragment.markRoom color = 0 := by
    obtain rfl | unstyled := plain
    · rfl
    · rw [markRoom, unstyled, Option.elim_none, ite_self]
  rw [filling, room, Nat.add_zero]
  obtain rfl | unstyled := plain
  · cases style : fragment.style <;> simp only [render, style, List.rightpad]
  · simp only [render, unstyled, List.rightpad]

/-- A fragment leaves its text and its filling, unless its text runs into what follows. -/
theorem unstyled_render_append (fragment : Fragment) (color : Bool) {next : Text}
    (apart : '\x1b' ∉ fragment.text ∨ EndsSequences next) :
    unstyled (fragment.render color ++ next) = fragment.shown color ++ unstyled next := by
  have filled : unstyled (fragment.filling color ++ next) =
      fragment.filling color ++ unstyled next := unstyled_spaces_append _ next
  -- a styled text is followed by its own closing sequence, so that only a plain one needs `apart`
  by_cases plain : color = false ∨ fragment.style = none
  · rw [render_of_plain plain, List.append_assoc, shown, List.append_assoc, ← filled]
    obtain noEscape | ends := apart
    · rw [unstyled_append_of_notMem noEscape, unstyled_of_notMem noEscape]
    · exact unstyled_append_of_endsSequences (ends.spaces_append _)
  · obtain ⟨colored, isStyled⟩ := not_or.1 plain
    obtain ⟨style, styled⟩ := Option.ne_none_iff_exists'.1 isStyled
    obtain rfl := eq_true_of_ne_false colored
    have closing : ∀ char ∈ ['0'], isParameter char = true := List.forall_mem_singleton.2 rfl
    rw [render_of_styled styled, List.append_assoc,
      unstyled_escapeSequence_append isParameter_of_mem_parameters, List.append_assoc,
      List.append_assoc, unstyled_append_of_endsSequences
        (endsSequences_escapeSequence_append ['0'] (fragment.filling true ++ next)),
      unstyled_escapeSequence_append closing, filled, shown, List.append_assoc]

/-- Without a style, or without a width, colour makes no difference. -/
theorem shown_eq_of_unfilled {fragment : Fragment}
    (unfilled : fragment.style ≠ none → fragment.width = 0) (color : Bool) :
    fragment.shown color = fragment.shown false := by
  by_cases plain : fragment.style = none
  · have room : ∀ color, fragment.markRoom color = 0 := by
      intro color
      rw [markRoom, plain, Option.elim_none, ite_self]
    rw [shown, shown, filling, filling, room, room]
  · have empty : ∀ color, fragment.filling color = [] := by
      intro color
      rw [filling, unfilled plain, Nat.zero_sub, List.replicate_zero]
    rw [shown, shown, empty, empty]

theorem filter_shown (fragment : Fragment) (color : Bool) :
    (fragment.shown color).filter (· ≠ ' ') = (unstyled fragment.text).filter (· ≠ ' ') := by
  rw [shown, List.filter_append, filling, List.filter_replicate_of_neg (by decide),
    List.append_nil]

end Fragment

/-! ## Whole reports -/

namespace Report

/-- No fragment has an escape character of its own, except at the end of a line. -/
def Tidy (report : Report) : Prop :=
  ∀ line ∈ report, ∀ fragment ∈ line.dropLast, '\x1b' ∉ fragment.text

/-- What is left of a report without escape sequences. -/
def shown (color : Bool) (report : Report) : Text :=
  report.flatMap fun line => line.flatMap (Fragment.shown color) ++ ['\n']

theorem unstyled_line {line : List Fragment}
    (tidy : ∀ fragment ∈ line.dropLast, '\x1b' ∉ fragment.text) (color : Bool) (rest : Text) :
    unstyled (line.flatMap (Fragment.render color) ++ '\n' :: rest) =
      line.flatMap (Fragment.shown color) ++ '\n' :: unstyled rest := by
  have newline : EndsSequences ('\n' :: rest) := by
    intro char first
    obtain rfl := Option.some.inj first
    rfl
  have broken : unstyled ('\n' :: rest) = '\n' :: unstyled rest :=
    unstyled_append_of_notMem (by decide : '\x1b' ∉ ['\n']) rest
  induction line with
  | nil => exact broken
  | cons fragment others ih =>
      cases others with
      | nil =>
          simp only [List.flatMap_cons, List.flatMap_nil, List.append_nil]
          rw [Fragment.unstyled_render_append fragment color (.inr newline), broken]
      | cons second others =>
          rw [List.dropLast_cons_cons, List.forall_mem_cons] at tidy
          rw [List.flatMap_cons, List.append_assoc,
            Fragment.unstyled_render_append fragment color (.inl tidy.1), ih tidy.2]
          simp only [List.flatMap_cons, List.append_assoc]

/-- Every line of a report ends with a line break, and no sequence goes on behind it. -/
theorem unstyled_render {report : Report} (tidy : report.Tidy) (color : Bool) :
    unstyled (report.render color) = report.shown color := by
  induction report with
  | nil => exact unstyled_nil
  | cons line report ih =>
      obtain ⟨first, others⟩ := List.forall_mem_cons.1 tidy
      rw [render, List.flatMap_cons, List.append_assoc, List.singleton_append,
        unstyled_line first color]
      change _ ++ '\n' :: unstyled (render color report) = _
      rw [ih others]
      simp only [shown, List.flatMap_cons, List.append_assoc, List.singleton_append]

/-! ## Where colour does not show -/

/-- Colour leaves no trace but escape sequences: the report is tidy, and nothing with a style is
filled up. -/
structure Even (report : Report) : Prop where
  tidy : report.Tidy
  unfilled : ∀ line ∈ report, ∀ fragment ∈ line, fragment.style ≠ none → fragment.width = 0

theorem shown_append (color : Bool) (first second : Report) :
    shown color (first ++ second) = first.shown color ++ second.shown color :=
  List.flatMap_append

theorem Tidy.append {first second : Report} (left : first.Tidy) (right : second.Tidy) :
    Tidy (first ++ second) :=
  List.forall_mem_append.2 ⟨left, right⟩

theorem even_nil : Even [] where
  tidy := List.forall_mem_nil _
  unfilled := List.forall_mem_nil _

theorem Even.append {first second : Report} (left : first.Even) (right : second.Even) :
    Even (first ++ second) :=
  ⟨left.tidy.append right.tidy, List.forall_mem_append.2 ⟨left.unfilled, right.unfilled⟩⟩

theorem Even.shown_eq {report : Report} (even : report.Even) (color : Bool) :
    report.shown color = report.shown false := by
  apply List.flatMap_congr
  intro line lineMember
  congr 1
  apply List.flatMap_congr
  intro fragment member
  exact Fragment.shown_eq_of_unfilled (even.unfilled line lineMember fragment member) color

theorem Even.unstyled_render_eq {report : Report} (even : report.Even) :
    unstyled (report.render true) = unstyled (report.render false) := by
  rw [unstyled_render even.tidy, unstyled_render even.tidy, even.shown_eq true]

/-- At most spaces differ. -/
theorem filter_shown (report : Report) (color : Bool) :
    (report.shown color).filter (· ≠ ' ') = (report.shown false).filter (· ≠ ' ') := by
  simp only [shown, List.filter_flatMap, List.filter_append, Fragment.filter_shown]

theorem Tidy.filter_unstyled_render {report : Report} (tidy : report.Tidy) :
    (unstyled (report.render true)).filter (· ≠ ' ') =
      (unstyled (report.render false)).filter (· ≠ ' ') := by
  rw [unstyled_render tidy, unstyled_render tidy, filter_shown]

/-! ## The reports of the program -/

theorem escape_notMem_of_digits {text : Text} (digits : ∀ char ∈ text, char.isDigit = true) :
    '\x1b' ∉ text := by
  intro member
  cases digits _ member

theorem escape_notMem_iso (date : CalendarDate) : '\x1b' ∉ date.iso := by
  intro member
  obtain digit | hyphen := CalendarDate.mem_iso member
  · cases digit
  · cases hyphen

theorem escape_notMem_suffix (window : CenturyWindow) : '\x1b' ∉ window.suffix := by
  have padded : ∀ number, '\x1b' ∉ Decimal.padded 2 number :=
    fun _ => escape_notMem_of_digits fun _ => Decimal.isDigit_of_mem_padded
  rw [CenturyWindow.suffix, List.mem_cons, List.mem_append, not_or, not_or]
  refine ⟨?_, padded _, padded _⟩
  split <;> decide

variable (text : Text) (date : CalendarDate)

theorem even_titled : Even (titled text) where
  tidy := by simp [Tidy, titled]
  unfilled := by simp [titled, Fragment.styled]

theorem even_headed (name : String) : Even (headed name) where
  tidy := by simp [Tidy, headed]
  unfilled := by simp [headed, Fragment.styled]

theorem even_sample (shown : Text) : Even (sample date shown) := by
  apply (even_headed "Example").append
  constructor
  · have arrow : '\x1b' ∉ date.iso ++ " → ".toList :=
      fun member => (List.mem_append.1 member).elim (escape_notMem_iso date) (by decide)
    simpa [Tidy, indented, Fragment.plain] using arrow
  · simp [indented, Fragment.plain, Fragment.styled]

theorem even_ofOutcome (outcome : ParseOutcome) : Even (ofOutcome text outcome) := by
  cases outcome <;> constructor <;> simp [Tidy, ofOutcome, Fragment.styled]

theorem even_entry (column : Nat) {name : String} (plain : '\x1b' ∉ name.toList)
    {content : Fragment} (unfilled : content.width = 0) : Even [entry column name content] where
  tidy := by simpa [Tidy, entry, indented, Fragment.plain, Fragment.padTo] using plain
  unfilled := by simp [entry, indented, Fragment.plain, Fragment.padTo, unfilled]

theorem even_empty : Even [[]] where
  tidy := by simp [Tidy]
  unfilled := by simp

theorem even_detected (layout : Option DetectedLayout) : Even (detected layout) := by
  cases layout with
  | none =>
      constructor
      · simp [Tidy, detected, indented, Fragment.plain]
      · simp [detected, indented, Fragment.plain, Fragment.styled]
  | some layout =>
      exact Even.append (even_entry 6 (by decide) rfl) (even_entry 6 (by decide) rfl)

theorem even_ofLocale (detector : Detector) : Even (ofLocale detector date) :=
  ((((even_titled _).append (even_headed _)).append (even_detected _)).append
    (even_sample date _)).append even_empty

/-! ## Fields in columns

The names of fields are the only fragments with a style that are filled up. -/

theorem even_century (window : CenturyWindow) : Even (century window) := by
  apply (even_headed "Century").append
  constructor
  · simpa [Tidy, indented, Fragment.plain, Fragment.styled] using escape_notMem_suffix window
  · simp [indented, Fragment.plain, Fragment.styled]

theorem width_separator (layout : Pattern.Layout) : (separator layout).width = 0 := by
  cases layout <;> rfl

theorem tidy_fields (pattern : Pattern) : Tidy (fields pattern) := by
  intro line lineMember fragment member
  obtain ⟨⟨field, slot⟩, -, rfl⟩ := List.mem_map.1 lineMember
  have number : '\x1b' ∉ Decimal.digits slot ++ ". ".toList := by
    rw [List.mem_append, not_or]
    exact ⟨escape_notMem_of_digits fun _ => Decimal.isDigit_of_mem_digits, by decide⟩
  have name : '\x1b' ∉ field.name := by cases field <;> decide
  simp only [indented, List.dropLast_cons_cons, List.dropLast_singleton, List.mem_cons,
    List.not_mem_nil, or_false] at member
  obtain rfl | rfl | rfl | rfl := member
  · decide
  · exact number
  · exact name
  · decide

/-- The report on a pattern is even but for its fields. -/
theorem exists_ofPattern_eq (codec : PatternCodec) :
    ∃ front back : Report, front.Even ∧ back.Even ∧
      ofPattern codec date = front ++ (fields codec.pattern ++ back) := by
  have names : ∀ shown : Text, Even (if codec.pattern.usesMonthNames then
      [indented [.styled .note shown]] else []) := by
    intro shown
    split
    · constructor
      · simp [Tidy, indented, Fragment.plain]
      · simp [indented, Fragment.plain, Fragment.styled]
    · exact even_nil
  have window : Even (codec.pattern.century.elim [] century) := by
    cases codec.pattern.century with
    | none => exact even_nil
    | some window => exact even_century window
  have layout : Even [entry 10 "layout" (.plain codec.pattern.layout.label),
      entry 10 "separator" (separator codec.pattern.layout)] :=
    Even.append (even_entry 10 (by decide) rfl) (even_entry 10 (by decide) (width_separator _))
  have front := (((even_titled ("Pattern: \"".toList ++ codec.pattern.raw ++ "\"".toList)).append
    (even_headed "Layout")).append layout).append (even_headed "Fields")
  have back := ((window.append (even_sample date (codec.format date))).append
    (names ("month names: ".toList ++ ", ".toList.intercalate codec.monthNames))).append even_empty
  refine ⟨_, _, front, back, ?_⟩
  simp only [ofPattern, List.append_assoc]

theorem tidy_ofPattern (codec : PatternCodec) : Tidy (ofPattern codec date) := by
  obtain ⟨front, back, frontEven, backEven, whole⟩ := exists_ofPattern_eq date codec
  rw [whole]
  exact frontEven.tidy.append ((tidy_fields _).append backEven.tidy)

theorem length_shown_name (field : DateField) :
    (((Fragment.styled .key field.name).padTo 6).shown true).length <
      (((Fragment.styled .key field.name).padTo 6).shown false).length := by
  simp only [Fragment.shown, List.length_append]
  apply Nat.add_lt_add_left
  cases field <;> decide

theorem length_shown_lt {report : Report} (nonempty : report ≠ [])
    (shorter : ∀ line ∈ report, (line.flatMap (Fragment.shown true)).length <
      (line.flatMap (Fragment.shown false)).length) :
    (report.shown true).length < (report.shown false).length := by
  induction report with
  | nil => exact absurd rfl nonempty
  | cons line report ih =>
      obtain ⟨first, others⟩ := List.forall_mem_cons.1 shorter
      -- behind the first line there may be none that is shorter, but none is longer
      have rest : (shown true report).length ≤ (shown false report).length := by
        by_cases empty : report = []
        · rw [empty]
          exact Nat.le_refl _
        · exact Nat.le_of_lt (ih empty others)
      have split : ∀ color, (shown color (line :: report)).length =
          (line.flatMap (Fragment.shown color)).length + 1 + (shown color report).length := by
        intro color
        rw [shown, List.flatMap_cons, List.length_append, List.length_append,
          List.length_singleton]
        rfl
      rw [split, split]
      omega

theorem length_shown_fields (pattern : Pattern) :
    ((fields pattern).shown true).length < ((fields pattern).shown false).length := by
  apply length_shown_lt
  · cases order : pattern.order <;> simp [fields, order, FieldOrder.toList]
  · intro line member
    obtain ⟨⟨field, slot⟩, -, rfl⟩ := List.mem_map.1 member
    have even : ∀ fragment : Fragment, fragment.width = 0 →
        fragment.shown true = fragment.shown false :=
      fun _ width => Fragment.shown_eq_of_unfilled (fun _ => width) true
    have name := length_shown_name field
    simp only [indented, List.flatMap_cons, List.flatMap_nil, List.length_append]
    rw [even _ rfl, even (.plain _) rfl, even (.plain [' ']) rfl, even (.styled .note _) rfl]
    omega

/-- In colour the names of fields are not filled up to their column. -/
theorem unstyled_render_ofPattern_ne (codec : PatternCodec) :
    unstyled ((ofPattern codec date).render true) ≠
      unstyled ((ofPattern codec date).render false) := by
  obtain ⟨front, back, frontEven, backEven, whole⟩ := exists_ofPattern_eq date codec
  have tidy := tidy_ofPattern date codec
  rw [unstyled_render tidy, unstyled_render tidy, whole]
  intro same
  -- the parts around the fields cancel out
  have lengths := congrArg List.length same
  simp only [shown_append, List.length_append, frontEven.shown_eq true, backEven.shown_eq true]
    at lengths
  have shorter := length_shown_fields codec.pattern
  omega

end Report

end DateDisplay
