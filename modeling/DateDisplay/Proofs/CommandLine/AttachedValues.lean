import DateDisplay.Proofs.CommandLine.Arguments

/-!
# Values behind an equals sign

The value of an option may be the next argument or stand behind an equals sign, and both mean
the same unless the value repeats what is in front of it, flag and equals sign.  Such
repetitions are dropped in one argument and kept in two.
-/

namespace DateDisplay

/-! ## Dropping repetitions -/

namespace Text

variable {lead text : Text}

theorem length_stripUpTo_le (lead : Text) (rounds : Nat) (text : Text) :
    (stripUpTo lead rounds text).length ≤ text.length := by
  induction rounds generalizing text with
  | zero => exact Nat.le_refl _
  | succ rounds ih =>
      rw [stripUpTo]
      split
      · rename_i rest begins
        rw [after?_eq_some_iff.1 begins, List.length_append]
        exact Nat.le_add_left_of_le (ih rest)
      · exact Nat.le_refl _

/-- Nothing is dropped exactly where there is nothing to drop. -/
theorem stripAll_eq_self_iff (nonempty : lead ≠ []) :
    stripAll lead text = text ↔ ¬ lead <+: text := by
  constructor
  · rintro kept ⟨rest, rfl⟩
    have shorter := length_stripUpTo_le lead (rest.length + (lead.length - 1)) rest
    have positive := List.length_pos_iff.2 nonempty
    have rounds : (lead ++ rest).length = rest.length + (lead.length - 1) + 1 := by
      rw [List.length_append]
      omega
    have dropped := congrArg List.length kept
    simp only [stripAll, rounds, stripUpTo, after?_append] at dropped
    omega
  · intro notPrefix
    have noRest : after? lead text = none := by
      apply Option.eq_none_iff_forall_ne_some.2
      intro rest begins
      exact notPrefix ⟨rest, (after?_eq_some_iff.1 begins).symm⟩
    rw [stripAll]
    cases text.length with
    | zero => rfl
    | succ rounds => simp only [stripUpTo, noRest]

end Text

namespace CommandLine

/-! ## One argument and two -/

theorem readArguments_attached (given : Given) (option : ValueOption) (value : Text)
    (after : List Text) :
    readArguments given ((option.lead ++ value) :: after) =
      readArguments given (option.flag :: Text.stripAll option.lead value :: after) := by
  rw [readArguments_of_attached given after (Argument.ofText_lead_append option value),
    readArguments_of_detached given after (Argument.ofText_of_mem_flags option.flag_mem_flags)]

/-- What means the same everywhere means the same behind arguments. -/
theorem AllowsOption.readArguments_congr {before left right : List Text}
    (allows : AllowsOption before)
    (same : ∀ given, readArguments given left = readArguments given right) (given : Given) :
    readArguments given (before ++ left) = readArguments given (before ++ right) := by
  obtain ⟨next, read⟩ | ⟨result, -, settled⟩ := allows.readsOn given
  · rw [read, read, same]
  · rw [settled, settled]

/-! ## Values that tell the two apart -/

/-- An option with the command to explain. -/
def explaining (option : ValueOption) (value : Text) : Except ArgumentError Invocation :=
  readArguments {} [option.flag, value, "explain".toList]

theorem explaining_pattern (raw : Text) :
    explaining .pattern raw =
      if raw = Controller.serverPattern then .error .serverPattern
      else .ok (.run ⟨.explain, some raw, defaultLocale, none, false⟩) := by
  change ({ command := some "explain".toList, pattern := some raw } : Given).config.map
    Invocation.run = _
  simp only [Given.config, Option.some_inj]
  split <;> rfl

theorem explaining_reference (value : Text) :
    explaining .reference value =
      (RealDate.ofIso? value).elim (.error (.invalidReference value)) fun day =>
        .ok (.run ⟨.explain, none, defaultLocale, some day, false⟩) := by
  have meaning := Argument.ofText_of_mem_flags ValueOption.reference.flag_mem_flags
  rw [explaining, readArguments_of_detached {} _ meaning, Given.setOption]
  cases RealDate.ofIso? value <;> rfl

/-- No other value says the same as one that begins with the option itself: that is neither the
pattern for delegation nor a day. -/
theorem eq_of_explaining_eq {option : ValueOption} {value other : Text}
    (begins : option.lead <+: value)
    (same : explaining option other = explaining option value) : other = value := by
  obtain ⟨rest, rfl⟩ := begins
  cases option with
  | pattern =>
      have notServer : ValueOption.pattern.lead ++ rest ≠ Controller.serverPattern := by
        intro server
        cases server
      rw [explaining_pattern, explaining_pattern, if_neg notServer] at same
      split at same
      · cases same
      · injection same with run
        injection run with config
        exact Option.some.inj (congrArg Config.pattern config)
  | locale =>
      injection same with run
      injection run with config
      exact congrArg Config.locale config
  | reference =>
      have notDay : RealDate.ofIso? (ValueOption.reference.lead ++ rest) = none := rfl
      rw [explaining_reference, explaining_reference, notDay, Option.elim_none] at same
      cases day : RealDate.ofIso? other with
      | none =>
          rw [day, Option.elim_none] at same
          injection same with error
          injection error
      | some day =>
          rw [day] at same
          cases same

/-- In one argument with its flag, a value means what it means as the next argument when every
repetition of flag and equals sign in front of it is dropped.  So the two forms are the same,
wherever an option may stand and whatever follows, exactly for the values that do not begin
with flag and equals sign. -/
theorem readArguments_attached_iff (option : ValueOption) (value : Text) :
    (∀ (color : Bool) (before after : List Text), AllowsOption before →
      readArguments { color } (before ++ (option.flag ++ '=' :: value) :: after) =
        readArguments { color }
          (before ++ option.flag :: Text.stripAll (option.flag ++ ['=']) value :: after)) ∧
    ((∀ (color : Bool) (before after : List Text), AllowsOption before →
      readArguments { color } (before ++ (option.flag ++ '=' :: value) :: after) =
        readArguments { color } (before ++ option.flag :: value :: after)) ↔
      ¬ option.flag ++ ['='] <+: value) := by
  have attached : ∀ color before after, AllowsOption before →
      readArguments { color } (before ++ (option.flag ++ '=' :: value) :: after) =
        readArguments { color }
          (before ++ option.flag :: Text.stripAll option.lead value :: after) := by
    intro color before after allows
    apply allows.readArguments_congr
    intro given
    rw [List.append_cons]
    exact readArguments_attached given option value after
  have nonempty : option.lead ≠ [] := List.append_ne_nil_of_right_ne_nil _ (List.cons_ne_nil _ _)
  refine ⟨attached, ?_, ?_⟩
  · intro same begins
    have both := (attached false [] ["explain".toList] .nil).symm.trans
      (same false [] ["explain".toList] .nil)
    have kept := eq_of_explaining_eq begins both
    exact (Text.stripAll_eq_self_iff nonempty).1 kept begins
  · intro notPrefix color before after allows
    rw [attached color before after allows, (Text.stripAll_eq_self_iff nonempty).2 notPrefix]

/-- Behind a locale that looks like the end of the options, a refused day is quoted alike. -/
theorem readArguments_attached_reference :
    let before := ["-l", "--", "parse"].map String.toList
    let value := "--locale=yesterday".toList
    AllowsOption before ∧ ¬ ValueOption.reference.flag ++ ['='] <+: value ∧
      readArguments {} (before ++ ["--reference=--locale=yesterday".toList]) =
        .error (.invalidReference value) ∧
      readArguments {} (before ++ ["--reference".toList, value]) =
        .error (.invalidReference value) := by
  intro before value
  have allows : AllowsOption before :=
    @AllowsOption.valued .locale _ _ _ (by decide)
      (.single (fun option => by cases option <;> decide) (by decide) .nil)
  have notPrefix : ¬ ValueOption.reference.flag ++ ['='] <+: value := by decide
  have same := (readArguments_attached_iff .reference value).2.2 notPrefix false before [] allows
  exact ⟨allows, notPrefix, same.trans rfl, rfl⟩

/-- A pattern that begins with its option has another meaning in one argument than in two. -/
theorem attached_pattern_loses_repetition :
    let day : RealDate := ⟨⟨2024, 2, 5⟩, by decide⟩
    let attached := ["--pattern=--pattern=-0d0M_y", "format", "2024-03-05"].map String.toList
    let detached := ["--pattern", "--pattern=-0d0M_y", "format", "2024-03-05"].map String.toList
    readArguments {} attached =
        .ok (.run ⟨.format day, some "-0d0M_y".toList, defaultLocale, none, false⟩) ∧
      readArguments {} detached =
        .ok (.run ⟨.format day, some "--pattern=-0d0M_y".toList, defaultLocale, none, false⟩) ∧
      readArguments {} attached ≠ readArguments {} detached := by
  intro day attached detached
  have attachedRead : readArguments {} attached =
      .ok (.run ⟨.format day, some "-0d0M_y".toList, defaultLocale, none, false⟩) := rfl
  have detachedRead : readArguments {} detached =
      .ok (.run ⟨.format day, some "--pattern=-0d0M_y".toList, defaultLocale, none, false⟩) := rfl
  refine ⟨attachedRead, detachedRead, ?_⟩
  rw [attachedRead, detachedRead]
  intro same
  have patterns := congrArg Config.pattern (Invocation.run.inj (Except.ok.inj same))
  exact absurd patterns (by decide)

end CommandLine

end DateDisplay
