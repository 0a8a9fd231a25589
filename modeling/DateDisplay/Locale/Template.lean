import DateDisplay.Text.Basic

/-!
# Templates of texts with numbers in them

A template is a list of pieces, each a literal text or a run of digits.  Matching
a text against it captures the runs.  A run takes as many digits as it may, and
gives digits back from the right only where the rest would not match otherwise.

`regex` writes a template as the regular expression that matches the same texts.
-/

namespace DateDisplay

/-- One piece of a template. -/
inductive TemplatePiece where
  | literal (text : Text)
  /-- At least one and at most `most` digits. -/
  | digits (most : Nat)
  deriving DecidableEq, Repr

/-- The pieces of a text from left to right. -/
abbrev Template := List TemplatePiece

namespace Template

/-- The runs of at most `most` digits that a text begins with, the longest first. -/
def runs (most : Nat) (text : Text) : List Text :=
  let run := (text.take most).takeWhile Char.isDigit
  (List.range run.length).reverse.map fun dropped => run.take (dropped + 1)

/-- The digits that the pieces capture, if the whole text matches. -/
def captures? : Template → Text → Option (List Text)
  | [], [] => some []
  | [], _ :: _ => none
  | .literal literal :: pieces, text => do
      let rest ← Text.after? literal text
      captures? pieces rest
  | .digits most :: pieces, text =>
      (runs most text).findSome? fun run =>
        (captures? pieces (text.drop run.length)).map (run :: ·)

/-- The text of a template with these runs of digits in it. -/
def fill : Template → List Text → Text
  | [], _ => []
  | .literal literal :: pieces, runs => literal ++ fill pieces runs
  | .digits _ :: pieces, run :: runs => run ++ fill pieces runs
  | .digits _ :: pieces, [] => fill pieces []

theorem eq_append_of_mem_runs {most : Nat} {text run : Text} (member : run ∈ runs most text) :
    run ++ text.drop run.length = text := by
  simp only [runs, List.mem_map] at member
  rcases member with ⟨dropped, -, rfl⟩
  have leading : ((text.take most).takeWhile Char.isDigit).take (dropped + 1) <+: text :=
    (List.take_prefix _ _).trans ((List.takeWhile_prefix _).trans (List.take_prefix _ _))
  rw [← List.prefix_iff_eq_append]
  exact leading

/-- Filling the captured runs in gives the text back. -/
theorem fill_captures {template : Template} {text : Text} {captures : List Text}
    (result : template.captures? text = some captures) : template.fill captures = text := by
  induction template generalizing text captures with
  | nil =>
      cases text with
      | nil => rfl
      | cons char rest => cases result
  | cons piece pieces ih =>
      cases piece with
      | literal literal =>
          rcases Option.bind_eq_some_iff.1 result with ⟨rest, split, found⟩
          rw [fill, ih found, Text.after?_eq_some_iff.1 split]
      | digits most =>
          rcases List.exists_of_findSome?_eq_some result with ⟨run, member, found⟩
          rcases Option.map_eq_some_iff.1 found with ⟨tail, tailFound, rfl⟩
          rw [fill, ih tailFound]
          exact eq_append_of_mem_runs member

/-- The characters that mean something in a regular expression. -/
def metacharacters : List Char :=
  ['\\', '.', '+', '*', '?', '(', ')', '|', '[', ']', '{', '}', '^', '$', '#', '&', '-', '~']

/-- A text as a regular expression that matches it alone. -/
def escape (text : Text) : Text :=
  text.flatMap fun char => if metacharacters.contains char then ['\\', char] else [char]

/-- A piece as a regular expression; runs of digits are groups. -/
def pieceRegex : TemplatePiece → Text
  | .literal literal => escape literal
  | .digits most => "(\\d\x7b1,".toList ++ Nat.toDigits 10 most ++ "\x7d)".toList

/-- The regular expression that matches the same whole texts. -/
def regex (template : Template) : Text :=
  '^' :: template.flatMap pieceRegex ++ ['$']

end Template

end DateDisplay
