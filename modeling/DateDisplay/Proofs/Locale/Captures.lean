import DateDisplay.Locale.Template
import DateDisplay.Proofs.Text.Numbers

/-!
# Captures of filled templates

A template captures one run of digits for each of its pieces, and fills with them to the
text again.  Where a text can be divided in more than one way, earlier runs are longest.
Hence a filled template captures what it was filled with exactly when no run could have
been longer: each has as many digits as its piece may take, or is followed by text, or by
nothing but runs of one digit.
-/

namespace DateDisplay.Template

/-! ## Runs -/

/-- A run of digits that a piece may capture. -/
structure IsRun (most : Nat) (run : Text) : Prop where
  nonempty : run ≠ []
  digits : ∀ char ∈ run, char.isDigit = true
  bounded : run.length ≤ most

/-- A padded number is a run of digits if it fits its width. -/
theorem isRun_padded {width number : Nat} (wide : 0 < width) (small : number < 10 ^ width) :
    IsRun width (Decimal.padded width number) where
  nonempty := Decimal.padded_ne_nil width number
  digits _ := Decimal.isDigit_of_mem_padded
  bounded := Nat.le_of_eq ((Decimal.length_padded_eq_iff wide).2 small)

/-- A run at the front of a text is the beginning of all digits there. -/
theorem takeWhile_take_append {most : Nat} {run : Text} (isRun : IsRun most run) (rest : Text) :
    ((run ++ rest).take most).takeWhile Char.isDigit =
      run ++ (rest.take (most - run.length)).takeWhile Char.isDigit := by
  rw [List.take_append, List.take_of_length_le isRun.bounded,
    List.takeWhile_append_of_pos isRun.digits]

/-- The runs that a piece tries are those at the front of the text. -/
theorem mem_runs_iff {most : Nat} {text run : Text} :
    run ∈ runs most text ↔ IsRun most run ∧ run <+: text := by
  constructor
  · intro member
    refine ⟨?_, ⟨_, eq_append_of_mem_runs member⟩⟩
    simp only [runs, List.mem_map, List.mem_reverse, List.mem_range] at member
    rcases member with ⟨dropped, inside, rfl⟩
    constructor
    · exact List.ne_nil_of_length_pos (by rw [List.length_take]; omega)
    · intro char shown
      exact List.all_eq_true.1 List.all_takeWhile char (List.mem_of_mem_take shown)
    · have leading := (List.takeWhile_prefix (p := Char.isDigit) (l := text.take most)).length_le
      rw [List.length_take] at leading ⊢
      omega
  · rintro ⟨isRun, rest, rfl⟩
    have positive := List.length_pos_iff.2 isRun.nonempty
    simp only [runs, List.mem_map, List.mem_reverse, List.mem_range]
    rw [takeWhile_take_append isRun]
    refine ⟨run.length - 1, by rw [List.length_append]; omega, ?_⟩
    rw [Nat.sub_add_cancel positive, List.take_left]

/-- Longer runs are tried first. -/
theorem pairwise_length_runs (most : Nat) (text : Text) :
    (runs most text).Pairwise fun former latter => latter.length < former.length := by
  simp only [runs, List.pairwise_map, List.pairwise_reverse]
  refine List.pairwise_lt_range.imp_of_mem fun _ inside less => ?_
  rw [List.mem_range] at inside
  rw [List.length_take, List.length_take]
  omega

/-- The run that counts is the longest with a result. -/
theorem findSome?_runs_eq_some_iff {α : Type} {most : Nat} {text : Text}
    {result? : Text → Option α} {result : α} :
    (runs most text).findSome? result? = some result ↔
      ∃ run ∈ runs most text, result? run = some result ∧
        ∀ longer ∈ runs most text, run.length < longer.length → result? longer = none := by
  constructor
  · intro found
    rcases List.findSome?_eq_some_iff.1 found with ⟨former, run, latter, split, first, failed⟩
    have shorter := pairwise_length_runs most text
    rw [split, List.pairwise_append, List.pairwise_cons] at shorter
    rw [split]
    refine ⟨run, by simp, first, fun longer member more => ?_⟩
    rcases List.mem_append.1 member with member | member
    · exact failed longer member
    · rcases List.mem_cons.1 member with rfl | member
      · omega
      · have less := shorter.2.1.1 longer member
        omega
  · rintro ⟨run, member, first, failed⟩
    rcases List.append_of_mem member with ⟨former, latter, split⟩
    have shorter := pairwise_length_runs most text
    rw [split, List.pairwise_append] at shorter
    have before : former.findSome? result? = none := by
      rw [List.findSome?_eq_none_iff]
      intro longer inside
      exact failed longer (by simp [split, inside])
        (shorter.2.2 longer inside run List.mem_cons_self)
    rw [split, List.findSome?_append, before, Option.none_or, List.findSome?_cons, first]

/-- What a piece of digits captures is the longest run after which the rest matches. -/
theorem captures?_digits_eq_some_iff {most : Nat} {pieces : Template} {text : Text}
    {captures : List Text} :
    captures? (.digits most :: pieces) text = some captures ↔
      ∃ run rest others, text = run ++ rest ∧ captures = run :: others ∧ IsRun most run ∧
        captures? pieces rest = some others ∧
        ∀ longer after, text = longer ++ after → IsRun most longer →
          run.length < longer.length → captures? pieces after = none := by
  rw [captures?, findSome?_runs_eq_some_iff]
  simp only [mem_runs_iff, Option.map_eq_some_iff, Option.map_eq_none_iff]
  constructor
  · rintro ⟨run, ⟨isRun, rest, rfl⟩, ⟨others, found, rfl⟩, failed⟩
    rw [List.drop_left] at found
    refine ⟨run, rest, others, rfl, rfl, isRun, found, fun longer after split isLonger more => ?_⟩
    have none := failed longer ⟨isLonger, after, split.symm⟩ more
    rwa [split, List.drop_left] at none
  · rintro ⟨run, rest, others, rfl, rfl, isRun, found, failed⟩
    refine ⟨run, ⟨isRun, rest, rfl⟩, ⟨others, by rwa [List.drop_left], rfl⟩, ?_⟩
    rintro longer ⟨isLonger, after, split⟩ more
    rw [← split, List.drop_left]
    exact failed longer after split.symm isLonger more

/-! ## Sound and complete -/

/-- One run for every piece that takes digits. -/
def Takes : Template → List Text → Prop
  | [], runs => runs = []
  | .literal _ :: pieces, runs => Takes pieces runs
  | .digits most :: pieces, run :: runs => IsRun most run ∧ Takes pieces runs
  | .digits _ :: _, [] => False

theorem takes_captures {template : Template} {text : Text} {captures : List Text}
    (result : template.captures? text = some captures) : template.Takes captures := by
  induction template generalizing text captures with
  | nil =>
      cases text with
      | nil =>
          cases result
          rfl
      | cons char rest => cases result
  | cons piece pieces ih =>
      cases piece with
      | literal literal =>
          rcases Option.bind_eq_some_iff.1 result with ⟨rest, -, found⟩
          exact ih found
      | digits most =>
          rcases captures?_digits_eq_some_iff.1 result with
            ⟨run, rest, others, -, rfl, isRun, found, -⟩
          exact ⟨isRun, ih found⟩

/-- Some division of a filled template is found, though maybe another one. -/
theorem captures?_fill_ne_none {template : Template} {runs : List Text}
    (takes : template.Takes runs) : template.captures? (template.fill runs) ≠ none := by
  induction template generalizing runs with
  | nil => nofun
  | cons piece pieces ih =>
      cases piece with
      | literal literal =>
          rw [fill, captures?, Text.after?_append, Option.bind_eq_bind, Option.bind_some]
          exact ih takes
      | digits most =>
          cases runs with
          | nil => exact takes.elim
          | cons run others =>
              rcases takes with ⟨isRun, takes⟩
              intro failed
              rw [fill, captures?, List.findSome?_eq_none_iff] at failed
              have rest := failed run (mem_runs_iff.2 ⟨isRun, List.prefix_append _ _⟩)
              rw [List.drop_left, Option.map_eq_none_iff] at rest
              exact ih takes rest

/-! ## Where runs end -/

/-- The literal texts of a template have no digits. -/
def NoDigits (template : Template) : Prop :=
  ∀ literal, .literal literal ∈ template → ∀ char ∈ literal, char.isDigit = false

/-- All runs up to the next literal text have one digit. -/
def Single : Template → List Text → Prop
  | [], _ => True
  | .literal literal :: pieces, runs => literal ≠ [] ∨ Single pieces runs
  | .digits _ :: pieces, run :: runs => run.length = 1 ∧ Single pieces runs
  | .digits _ :: _, [] => False

/-- No run could be longer: it has all the digits that its piece may take, or what follows
cannot do without any of its own. -/
def Parted : Template → List Text → Prop
  | [], _ => True
  | .literal _ :: pieces, runs => Parted pieces runs
  | .digits most :: pieces, run :: runs =>
      (run.length = most ∨ Single pieces runs) ∧ Parted pieces runs
  | .digits _ :: _, [] => False

/-- Runs of one digit have none to give away. -/
theorem Single.eq_nil {template : Template} {runs others : List Text} {more : Text}
    (single : template.Single runs) (noDigits : template.NoDigits) (takes : template.Takes runs)
    (otherTakes : template.Takes others) (digits : ∀ char ∈ more, char.isDigit = true)
    (same : more ++ template.fill others = template.fill runs) : more = [] := by
  induction template generalizing runs others more with
  | nil => simpa [fill] using same
  | cons piece pieces ih =>
      have later : NoDigits pieces := fun literal member =>
        noDigits literal (List.mem_cons_of_mem _ member)
      cases piece with
      | literal literal =>
          cases literal with
          | nil => exact ih (single.resolve_left (absurd rfl)) later takes otherTakes digits same
          | cons first literal =>
              cases more with
              | nil => rfl
              | cons char more =>
                  have digit := digits char List.mem_cons_self
                  rw [List.cons_append, fill, List.cons_append] at same
                  rw [(List.cons.inj same).1,
                    noDigits _ List.mem_cons_self first List.mem_cons_self] at digit
                  cases digit
      | digits most =>
          cases runs with
          | nil => exact takes.elim
          | cons run runs =>
          cases others with
          | nil => exact otherTakes.elim
          | cons other others =>
              rcases single with ⟨one, single⟩
              rcases List.length_eq_one_iff.1 one with ⟨char, rfl⟩
              cases more with
              | nil => rfl
              | cons first more =>
                  rw [fill, fill, List.cons_append, List.singleton_append, List.cons.injEq,
                    ← List.append_assoc] at same
                  have allDigits : ∀ char ∈ more ++ other, char.isDigit = true := by
                    intro char member
                    rcases List.mem_append.1 member with member | member
                    · exact digits char (List.mem_cons_of_mem _ member)
                    · exact otherTakes.1.digits char member
                  have none := ih single later takes.2 otherTakes.2 allDigits same.2
                  exact absurd (List.append_eq_nil_iff.1 none).2 otherTakes.1.nonempty

/-- Otherwise the first digit can be given away, each run taking the first digit of the
next one until a run has some left. -/
theorem exists_shifted {template : Template} {runs : List Text} (takes : template.Takes runs)
    (notSingle : ¬ template.Single runs) :
    ∃ char others, char.isDigit = true ∧ template.Takes others ∧
      char :: template.fill others = template.fill runs := by
  induction template generalizing runs with
  | nil => exact absurd trivial notSingle
  | cons piece pieces ih =>
      cases piece with
      | literal literal =>
          rcases not_or.1 notSingle with ⟨empty, notSingle⟩
          rw [Classical.not_not.1 empty]
          exact ih takes notSingle
      | digits most =>
          cases runs with
          | nil => exact takes.elim
          | cons run runs =>
          rcases takes with ⟨isRun, takes⟩
          rcases List.exists_cons_of_ne_nil isRun.nonempty with ⟨first, run, rfl⟩
          have digit := isRun.digits first List.mem_cons_self
          cases run with
          | nil =>
              have rest : ¬ Single pieces runs := fun single => notSingle ⟨rfl, single⟩
              rcases ih takes rest with ⟨char, others, isDigit, othersTake, same⟩
              refine ⟨first, [char] :: others, digit, ⟨⟨?_, ?_, isRun.bounded⟩, othersTake⟩, ?_⟩
              · exact List.cons_ne_nil char []
              · simpa using isDigit
              · rw [fill, fill, ← same]
                rfl
          | cons second run =>
              have bounded := isRun.bounded
              rw [List.length_cons] at bounded
              refine ⟨first, (second :: run) :: runs, digit, ⟨⟨?_, ?_, by omega⟩, takes⟩, rfl⟩
              · exact List.cons_ne_nil second run
              · exact fun char member => isRun.digits char (List.mem_cons_of_mem _ member)

/-- A filled template captures what it was filled with exactly when no run could have been
longer. -/
theorem captures?_fill_iff {template : Template} {runs : List Text}
    (noDigits : template.NoDigits) (takes : template.Takes runs) :
    template.captures? (template.fill runs) = some runs ↔ template.Parted runs := by
  induction template generalizing runs with
  | nil =>
      rw [show runs = [] from takes]
      exact iff_of_true rfl trivial
  | cons piece pieces ih =>
      have later : NoDigits pieces := fun literal member =>
        noDigits literal (List.mem_cons_of_mem _ member)
      cases piece with
      | literal literal =>
          rw [fill, captures?, Text.after?_append, Option.bind_eq_bind, Option.bind_some]
          exact ih later takes
      | digits most =>
          cases runs with
          | nil => exact takes.elim
          | cons run runs =>
          rcases takes with ⟨isRun, takes⟩
          rw [fill, captures?_digits_eq_some_iff, Parted, ← ih later takes]
          constructor
          · rintro ⟨found, rest, others, split, same, -, matched, failed⟩
            cases same
            obtain rfl := List.append_cancel_left split
            refine ⟨?_, matched⟩
            -- A digit that the rest can give away would have been taken.
            refine Classical.or_iff_not_imp_left.2 fun notFull => ?_
            refine Classical.not_not.1 fun notSingle => ?_
            rcases exists_shifted takes notSingle with ⟨char, others, digit, othersTake, same⟩
            refine captures?_fill_ne_none othersTake
              (failed (run ++ [char]) (fill pieces others) ?_ ⟨?_, ?_, ?_⟩ ?_)
            · rw [← same, List.append_assoc, List.singleton_append]
            · simp
            · intro other member
              rcases List.mem_append.1 member with member | member
              · exact isRun.digits other member
              · rw [List.mem_singleton.1 member]
                exact digit
            · have bounded := isRun.bounded
              rw [List.length_append, List.length_singleton]
              omega
            · simp
          · rintro ⟨ends, matched⟩
            refine ⟨run, fill pieces runs, runs, rfl, rfl, isRun, matched, ?_⟩
            intro longer after split isLonger more
            have bounded := isLonger.bounded
            have single := ends.resolve_left (by omega)
            -- What a longer run takes would be missing from the rest.
            obtain ⟨extra, rfl⟩ : run <+: longer :=
              List.prefix_of_prefix_length_le (List.prefix_append run _) ⟨after, split.symm⟩
                (by omega)
            rw [List.append_assoc, List.append_cancel_left_eq] at split
            refine Option.eq_none_iff_forall_ne_some.2 fun captured found => ?_
            have none := single.eq_nil later takes (takes_captures found)
              (fun char member => isLonger.digits char (List.mem_append_right run member))
              (by rw [fill_captures found, split])
            simp [none] at more

end DateDisplay.Template
