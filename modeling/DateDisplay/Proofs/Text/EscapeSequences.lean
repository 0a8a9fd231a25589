import DateDisplay.Text.Basic

/-!
# Texts without escape sequences

A sequence for graphic rendition is an escape character and an opening bracket, digits and
semicolons, and the letter `m`.  A text that is followed by something which cannot go on with
such a sequence loses its own sequences and nothing else.
-/

namespace DateDisplay.Text

/-- Whether a character is part of the parameters of an escape sequence. -/
def isParameter (char : Char) : Bool :=
  char.isDigit || char == ';'

/-- What follows the parameters and the last letter of an escape sequence. -/
def afterParameters? (text : Text) : Option Text :=
  after? ['m'] (text.dropWhile isParameter)

/-- What follows the escape sequence that a text begins with. -/
def afterSequence? (text : Text) : Option Text :=
  (after? ['\x1b', '['] text).bind afterParameters?

theorem length_lt_of_afterSequence? {text rest : Text} (found : afterSequence? text = some rest) :
    rest.length < text.length := by
  obtain ⟨behind, begins, closes⟩ := Option.bind_eq_some_iff.1 found
  have parameters : (behind.dropWhile isParameter).length ≤ behind.length :=
    (List.dropWhile_sublist isParameter).length_le
  rw [after?_eq_some_iff.1 closes] at parameters
  rw [after?_eq_some_iff.1 begins]
  simp only [List.length_append, List.length_cons, List.length_nil] at parameters ⊢
  omega

/-- A text without its escape sequences. -/
def unstyled (text : Text) : Text :=
  match text with
  | [] => []
  | char :: rest =>
      match _ : afterSequence? (char :: rest) with
      | some behind => unstyled behind
      | none => char :: unstyled rest
termination_by text.length
decreasing_by
  · exact length_lt_of_afterSequence? ‹_›
  · exact Nat.lt_succ_self rest.length

@[simp] theorem unstyled_nil : unstyled [] = [] := by
  rw [unstyled]

theorem unstyled_of_afterSequence? {text rest : Text} (found : afterSequence? text = some rest) :
    unstyled text = unstyled rest := by
  cases text with
  | nil => cases found
  | cons char text =>
      rw [unstyled]
      split
      · rename_i behind other
        rw [Option.some.inj (found.symm.trans other)]
      · rename_i other
        rw [found] at other
        cases other

theorem unstyled_cons {char : Char} {rest : Text} (none : afterSequence? (char :: rest) = none) :
    unstyled (char :: rest) = char :: unstyled rest := by
  rw [unstyled]
  split
  · rename_i other
    rw [none] at other
    cases other
  · rfl

/-! ## Junctions -/

/-- Whether a character may go on with an escape sequence that has begun. -/
def continues (char : Char) : Bool :=
  char == '[' || isParameter char || char == 'm'

/-- A text with which no escape sequence goes on. -/
def EndsSequences (text : Text) : Prop :=
  ∀ char ∈ text.head?, continues char = false

section Junctions

variable {text next : Text}

theorem after?_singleton_append {char : Char} (differs : next.head? ≠ some char) :
    after? [char] (text ++ next) = (after? [char] text).map (· ++ next) := by
  cases text with
  | cons first rest => by_cases same : char = first <;> simp [after?, same]
  | nil =>
      cases next with
      | nil => rfl
      | cons first rest =>
          have other : char ≠ first := fun same => differs (congrArg some same.symm)
          simp [after?, other]

variable (ends : EndsSequences next)

include ends

theorem head?_ne_of_endsSequences {char : Char} (goesOn : continues char = true) :
    next.head? ≠ some char := by
  intro first
  rw [ends char first] at goesOn
  cases goesOn

theorem dropWhile_isParameter_of_endsSequences : next.dropWhile isParameter = next := by
  cases next with
  | nil => rfl
  | cons char rest =>
      apply List.dropWhile_cons_of_neg
      intro parameter
      have stops := ends char rfl
      simp [continues, parameter] at stops

theorem afterParameters?_append :
    afterParameters? (text ++ next) = (afterParameters? text).map (· ++ next) := by
  have dropped : (text ++ next).dropWhile isParameter =
      text.dropWhile isParameter ++ next := by
    rw [List.dropWhile_append, dropWhile_isParameter_of_endsSequences ends]
    split
    · rename_i empty
      rw [List.isEmpty_iff.1 empty, List.nil_append]
    · rfl
  rw [afterParameters?, dropped, after?_singleton_append (head?_ne_of_endsSequences ends rfl),
    afterParameters?]

/-- The sequence at the front of a text does not run into the next one. -/
theorem afterSequence?_append (nonempty : text ≠ []) :
    afterSequence? (text ++ next) = (afterSequence? text).map (· ++ next) := by
  obtain ⟨char, text, rfl⟩ := List.exists_cons_of_ne_nil nonempty
  by_cases escape : '\x1b' = char
  · have bracket : ∀ rest, after? ['\x1b', '['] (char :: rest) = after? ['['] rest := by
      intro rest
      rw [after?, if_pos escape]
    rw [afterSequence?, List.cons_append, bracket,
      after?_singleton_append (head?_ne_of_endsSequences ends rfl), afterSequence?, bracket]
    cases after? ['['] text with
    | none => rfl
    | some rest => exact afterParameters?_append ends
  · simp only [List.cons_append, afterSequence?, after?, if_neg escape, Option.bind_none,
      Option.map_none]

/-- A text keeps its sequences to itself where the next one ends them. -/
theorem unstyled_append_of_endsSequences :
    unstyled (text ++ next) = unstyled text ++ unstyled next := by
  induction text using unstyled.induct with
  | case1 => rw [List.nil_append, unstyled_nil, List.nil_append]
  | case2 char rest behind found ih =>
      have foundLater : afterSequence? (char :: rest ++ next) = some (behind ++ next) := by
        rw [afterSequence?_append ends (List.cons_ne_nil _ _), found, Option.map_some]
      rw [unstyled_of_afterSequence? foundLater, ih, unstyled_of_afterSequence? found]
  | case3 char rest missing ih =>
      have missingLater : afterSequence? (char :: (rest ++ next)) = none := by
        rw [← List.cons_append, afterSequence?_append ends (List.cons_ne_nil _ _), missing,
          Option.map_none]
      rw [List.cons_append, unstyled_cons missingLater, ih, unstyled_cons missing,
        List.cons_append]

end Junctions

/-- Without an escape character there is no sequence. -/
theorem unstyled_append_of_notMem {text : Text} (plain : '\x1b' ∉ text) (next : Text) :
    unstyled (text ++ next) = text ++ unstyled next := by
  induction text with
  | nil => rfl
  | cons char rest ih =>
      obtain ⟨notEscape, others⟩ := not_or.1 (mt List.mem_cons.2 plain)
      have missing : afterSequence? (char :: (rest ++ next)) = none := by
        simp only [afterSequence?, after?, if_neg notEscape, Option.bind_none]
      rw [List.cons_append, unstyled_cons missing, ih others, List.cons_append]

theorem unstyled_of_notMem {text : Text} (plain : '\x1b' ∉ text) : unstyled text = text := by
  have alone := unstyled_append_of_notMem plain []
  rwa [List.append_nil, unstyled_nil, List.append_nil] at alone

theorem unstyled_sequence_append {parameters : Text}
    (all : ∀ char ∈ parameters, isParameter char = true) (rest : Text) :
    unstyled ('\x1b' :: '[' :: (parameters ++ 'm' :: rest)) = unstyled rest := by
  apply unstyled_of_afterSequence?
  have closes : (parameters ++ 'm' :: rest).dropWhile isParameter = 'm' :: rest :=
    (List.dropWhile_append_of_pos all).trans (List.dropWhile_cons_of_neg (by decide))
  change afterParameters? (parameters ++ 'm' :: rest) = some rest
  rw [afterParameters?, closes]
  rfl

theorem EndsSequences.spaces_append {next : Text} (ends : EndsSequences next) (count : Nat) :
    EndsSequences (List.replicate count ' ' ++ next) := by
  cases count with
  | zero => exact ends
  | succ count =>
      intro char first
      obtain rfl := Option.some.inj first
      rfl

theorem unstyled_spaces_append (count : Nat) (next : Text) :
    unstyled (List.replicate count ' ' ++ next) = List.replicate count ' ' ++ unstyled next := by
  apply unstyled_append_of_notMem
  intro escape
  cases List.eq_of_mem_replicate escape

end DateDisplay.Text
