import DateDisplay.Proofs.Controller.Steps
import DateDisplay.Proofs.Text.Trimming

/-!
# Blank texts

There is nothing to read in a blank text.  Whatever the mode, it issues no request and
changes nothing.  It reads as empty, except that a stretch of delegation which awaits an
answer does not look at the text: it repeats the date that is being formatted, or says that
the reading is pending.
-/

namespace DateDisplay

/-- What every text reads as while an answer is awaited. -/
def Awaited.placeholder : Awaited → ParseOutcome
  | .rendering date => .parsed date
  | .reading _ => .pending

section Blank

variable {text : Text} (blank : ∀ char ∈ text, Text.isBlank char = true)

include blank

/-- Leaving out the characters beyond ASCII leaves a blank text blank. -/
theorem Detector.parse_of_blank (detector : Detector) : detector.parse text = .empty := by
  have nothing : Text.trim (Text.asciiOnly text) = [] := by
    apply Text.trim_eq_nil_iff.2
    intro char member
    exact blank char (List.mem_filter.1 member).1
  simp only [parse, nothing, if_true]

theorem PatternCodec.parse_of_blank (codec : PatternCodec) (context : Context) :
    codec.parse context text = .empty := by
  simp only [parse, Text.trim_eq_nil_iff.2 blank, if_true]

theorem Delegation.parse_of_blank (delegation : Delegation) :
    delegation.parse text =
      ⟨delegation.awaited.elim .empty Awaited.placeholder, none, delegation⟩ := by
  rcases delegation with ⟨_ | (_ | _), shownByFormat⟩
  · simp only [parse, Text.trim_eq_nil_iff.2 blank, if_true, Option.elim_none]
  · rfl
  · rfl

namespace Controller

/-- In every mode a blank text issues no request and leaves the controller and its field as
they are.  It reads as empty where no answer is awaited, and elsewhere as any other text. -/
theorem parse_blank_changes_nothing (setup : Setup) (controller : Controller) :
    (controller.parse setup text).request = none ∧
    (controller.parse setup text).next = controller ∧
    (controller.awaited? = none → (controller.parse setup text).answer = .empty) ∧
    ∀ awaited, controller.awaited? = some awaited →
      (controller.parse setup text).answer = awaited.placeholder := by
  rcases controller with ⟨field, locale, detector, stale, mode⟩
  cases mode with
  | locale =>
      refine ⟨rfl, rfl, fun _ => ?_, nofun⟩
      exact detector.parse_of_blank blank
  | pattern codec =>
      refine ⟨rfl, rfl, fun _ => ?_, nofun⟩
      exact codec.parse_of_blank blank _
  | delegated delegation =>
      simp only [parse, awaited?, delegation.parse_of_blank blank]
      refine ⟨trivial, trivial, ?_, ?_⟩
      · intro idle
        rw [idle, Option.elim_none]
      · intro awaited awaiting
        rw [awaiting, Option.elim_some]

end Controller

end Blank

namespace Controller

/-- An ideographic space reads as empty under a pattern and where delegation is idle, and as
pending where a reading is awaited. -/
theorem parse_of_ideographic_space :
    let setup : Setup := { provider := fun _ => .ok .iso, today := ⟨⟨2013, 1, 12⟩, by decide⟩ }
    let controller := start setup "ja_JP".toList {}
    let packed := controller.final setup [.setPattern (some "_y0M0d".toList)]
    let idle := controller.final setup [.setPattern (some serverPattern)]
    let awaiting := idle.final setup [.parse "明日".toList]
    (∀ char ∈ "\u3000".toList, Text.isBlank char = true) ∧
    (packed.awaited? = none ∧ (packed.parse setup "\u3000".toList).answer = .empty) ∧
    (idle.awaited? = none ∧ (idle.parse setup "\u3000".toList).answer = .empty) ∧
    (awaiting.awaited? = some (.reading "明日".toList) ∧
      (awaiting.parse setup "\u3000".toList).answer = .pending ∧
      (awaiting.parse setup "\u3000".toList).request = none) := by
  intro setup controller packed idle awaiting
  have blank : ∀ char ∈ "\u3000".toList, Text.isBlank char = true :=
    List.forall_mem_singleton.2 rfl
  refine ⟨blank, ⟨rfl, ?_⟩, ⟨rfl, ?_⟩, rfl, ?_, ?_⟩
  · exact (parse_blank_changes_nothing blank setup packed).2.2.1 rfl
  · exact (parse_blank_changes_nothing blank setup idle).2.2.1 rfl
  · exact (parse_blank_changes_nothing blank setup awaiting).2.2.2 _ rfl
  · exact (parse_blank_changes_nothing blank setup awaiting).1

/-- While a rendering is awaited, a blank text reads as the date that is being formatted and
not as empty. -/
theorem blank_text_reads_as_pending_date :
    let setup : Setup := { provider := fun _ => .ok .iso, today := ⟨⟨2013, 1, 12⟩, by decide⟩ }
    let state := (start setup "en_US".toList {}).final setup
      [.setPattern (some serverPattern), .format (some ⟨2024, 2, 5⟩)]
    (∀ char ∈ "  ".toList, Text.isBlank char = true) ∧
      (state.parse setup "  ".toList).answer = .parsed ⟨2024, 2, 5⟩ ∧
      (state.parse setup "  ".toList).answer ≠ .empty := by
  intro setup state
  have blank : ∀ char ∈ "  ".toList, Text.isBlank char = true :=
    List.forall_mem_cons.2 ⟨rfl, List.forall_mem_singleton.2 rfl⟩
  have reads : (state.parse setup "  ".toList).answer = .parsed ⟨2024, 2, 5⟩ := rfl
  refine ⟨blank, reads, ?_⟩
  rw [reads]
  exact nofun

end Controller

end DateDisplay
