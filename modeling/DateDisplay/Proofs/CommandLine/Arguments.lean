import DateDisplay.CommandLine.Arguments

/-!
# Arguments one by one

What an argument means is told by its text alone, and reading a list of arguments goes from
left to right.  Behind arguments none of which waits for a value or ends the options, an option
may stand; reading them comes to a state from which whatever follows is read, or is over
already.
-/

namespace DateDisplay.CommandLine

/-- The flags of an option, for a value in the next argument. -/
def ValueOption.flags : ValueOption → List Text
  | pattern => ["-p".toList, ValueOption.pattern.flag]
  | locale => ["-l".toList, ValueOption.locale.flag]
  | reference => [ValueOption.reference.flag]

theorem ValueOption.flag_mem_flags (option : ValueOption) : option.flag ∈ option.flags := by
  cases option with
  | pattern => exact List.mem_cons_of_mem _ List.mem_cons_self
  | locale => exact List.mem_cons_of_mem _ List.mem_cons_self
  | reference => exact List.mem_cons_self

/-- What stands before the value of an option in one argument. -/
def ValueOption.lead (option : ValueOption) : Text :=
  option.flag ++ ['=']

namespace Argument

variable {text : Text} {option : ValueOption}

theorem head?_of_readFlag? {argument : Argument}
    (read : readFlag? text = some argument) : text.head? = some '-' := by
  unfold readFlag? at read
  repeat' split at read
  all_goals
    first
    | cases read; done
    | rename_i flag
      rcases flag with rfl | rfl <;> rfl

theorem head?_of_readAttached? {argument : Argument}
    (read : readAttached? text = some argument) : text.head? = some '-' := by
  rcases List.exists_of_findSome?_eq_some read with ⟨option, -, value⟩
  rw [attachedValue?, Option.map_map, Option.map_eq_some_iff] at value
  rcases value with ⟨rest, begins, -⟩
  rw [Text.after?_eq_some_iff.1 begins]
  cases option <;> rfl

/-- What does not begin with a hyphen is a word. -/
theorem ofText_eq_word (plain : text.head? ≠ some '-') : ofText text = .word text := by
  have noFlag : readFlag? text = none :=
    Option.eq_none_iff_forall_ne_some.2 fun _ read => plain (head?_of_readFlag? read)
  have noValue : readAttached? text = none :=
    Option.eq_none_iff_forall_ne_some.2 fun _ read => plain (head?_of_readAttached? read)
  rw [ofText, noFlag, noValue, Option.none_or]
  rintro first rest rfl
  exact plain rfl

theorem ofText_of_mem_flags (member : text ∈ option.flags) : ofText text = .detached option := by
  cases option <;> simp only [ValueOption.flags, List.mem_cons, List.not_mem_nil, or_false]
    at member
  · obtain rfl | rfl := member <;> rfl
  · obtain rfl | rfl := member <;> rfl
  · obtain rfl := member
    rfl

theorem ofText_lead_append (option : ValueOption) (value : Text) :
    ofText (option.lead ++ value) = .attached option (Text.stripAll option.lead value) := by
  cases option <;> rfl

theorem text_of_readFlag? {argument : Argument} (read : readFlag? text = some argument) :
    argument = .help ∨ argument = .version ∨ (∃ isOn, argument = .color isOn) ∨
      (∃ option : ValueOption, argument = .detached option ∧ text ∈ option.flags) ∨
      (argument = .endOfOptions ∧ text = "--".toList) := by
  unfold readFlag? at read
  split at read
  · cases read
    exact .inl rfl
  split at read
  · cases read
    exact .inr (.inl rfl)
  split at read
  · cases read
    exact .inr (.inr (.inl ⟨true, rfl⟩))
  split at read
  · cases read
    exact .inr (.inr (.inl ⟨false, rfl⟩))
  split at read
  · rename_i isPattern
    cases read
    refine .inr (.inr (.inr (.inl ⟨.pattern, rfl, ?_⟩)))
    simpa only [ValueOption.flags, List.mem_cons, List.not_mem_nil, or_false] using isPattern
  split at read
  · rename_i isLocale
    cases read
    refine .inr (.inr (.inr (.inl ⟨.locale, rfl, ?_⟩)))
    simpa only [ValueOption.flags, List.mem_cons, List.not_mem_nil, or_false] using isLocale
  split at read
  · rename_i isReference
    cases read
    exact .inr (.inr (.inr (.inl ⟨.reference, rfl, List.mem_singleton.2 isReference⟩)))
  split at read
  · rename_i isEnd
    cases read
    exact .inr (.inr (.inr (.inr ⟨rfl, isEnd⟩)))
  · cases read

theorem exists_attached_of_readAttached? {argument : Argument}
    (read : readAttached? text = some argument) :
    ∃ option value, argument = .attached option value := by
  obtain ⟨option, -, found⟩ := List.exists_of_findSome?_eq_some read
  obtain ⟨value, -, rfl⟩ := Option.map_eq_some_iff.1 found
  exact ⟨option, value, rfl⟩

theorem ofText_cases (text : Text) :
    readFlag? text = some (ofText text) ∨
      (∃ option value, ofText text = .attached option value) ∨
      ofText text = .unknown text ∨ ofText text = .word text := by
  unfold ofText
  cases flag : readFlag? text with
  | some argument => exact .inl rfl
  | none =>
      refine .inr ?_
      cases attached : readAttached? text with
      | some argument => exact .inl (exists_attached_of_readAttached? attached)
      | none =>
          simp only [Option.none_or]
          split
          · exact .inr (.inl rfl)
          · exact .inr (.inr rfl)

theorem mem_flags_of_ofText (meaning : ofText text = .detached option) : text ∈ option.flags := by
  obtain flag | ⟨_, _, other⟩ | other | other := ofText_cases text
  · rw [meaning] at flag
    obtain other | other | ⟨_, other⟩ | ⟨_, same, member⟩ | ⟨other, -⟩ := text_of_readFlag? flag
    · cases other
    · cases other
    · cases other
    · cases same
      exact member
    · cases other
  all_goals
    rw [meaning] at other
    cases other

theorem eq_of_ofText_endOfOptions (meaning : ofText text = .endOfOptions) :
    text = "--".toList := by
  obtain flag | ⟨_, _, other⟩ | other | other := ofText_cases text
  · rw [meaning] at flag
    obtain other | other | ⟨_, other⟩ | ⟨_, other, -⟩ | ⟨-, same⟩ := text_of_readFlag? flag
    · cases other
    · cases other
    · cases other
    · cases other
    · exact same
  all_goals
    rw [meaning] at other
    cases other

end Argument

/-! ## Reading on -/

section Reading

variable (given : Given) (rest : List Text)

theorem readArguments_of_detached {argument : Text} {option : ValueOption}
    (meaning : Argument.ofText argument = .detached option) (value : Text) :
    readArguments given (argument :: value :: rest) =
      (given.setOption value option).bind fun next => readArguments next rest := by
  simp only [readArguments, meaning]
  cases given.setOption value option <;> rfl

theorem readArguments_of_attached {argument value : Text} {option : ValueOption}
    (meaning : Argument.ofText argument = .attached option value) :
    readArguments given (argument :: rest) =
      (given.setOption value option).bind fun next => readArguments next rest := by
  simp only [readArguments, meaning]
  cases given.setOption value option <;> rfl

theorem readArguments_of_color {argument : Text} {isOn : Bool}
    (meaning : Argument.ofText argument = .color isOn) :
    readArguments given (argument :: rest) = readArguments { given with color := isOn } rest := by
  simp only [readArguments, meaning]

theorem readArguments_of_help {argument : Text} (meaning : Argument.ofText argument = .help) :
    readArguments given (argument :: rest) = .ok .help := by
  simp only [readArguments, meaning]

theorem readArguments_of_version {argument : Text}
    (meaning : Argument.ofText argument = .version) :
    readArguments given (argument :: rest) = .ok .version := by
  simp only [readArguments, meaning]

theorem readArguments_of_unknown {argument text : Text}
    (meaning : Argument.ofText argument = .unknown text) :
    readArguments given (argument :: rest) = .error (.unknownOption text) := by
  simp only [readArguments, meaning]

theorem readArguments_of_word {argument word : Text}
    (meaning : Argument.ofText argument = .word word) :
    readArguments given (argument :: rest) = readArguments (given.addWord word) rest := by
  simp only [readArguments, meaning]

theorem readArguments_word {word : Text} (plain : word.head? ≠ some '-') :
    readArguments given (word :: rest) = readArguments (given.addWord word) rest :=
  readArguments_of_word given rest (Argument.ofText_eq_word plain)

theorem readArguments_endOfOptions :
    readArguments given ("--".toList :: rest) =
      ({ given with operands := given.operands ++ rest } : Given).config.map .run :=
  rfl

end Reading

/-- An option may stand behind these arguments: none of them is `--`, and no flag among them
waits for its value.  A value may be any text. -/
inductive AllowsOption : List Text → Prop where
  | nil : AllowsOption []
  | single {argument : Text} {before : List Text} :
      (∀ option : ValueOption, argument ∉ option.flags) → argument ≠ "--".toList →
      AllowsOption before → AllowsOption (argument :: before)
  | valued {option : ValueOption} {flag value : Text} {before : List Text} :
      flag ∈ option.flags → AllowsOption before → AllowsOption (flag :: value :: before)

/-- Reading comes through some arguments to a state from which all that follows is read, or it
is over with them, without coming to a command. -/
def ReadsOn (given : Given) (before : List Text) : Prop :=
  (∃ next, ∀ rest, readArguments given (before ++ rest) = readArguments next rest) ∨
    ∃ result, (∀ config, result ≠ .ok (.run config)) ∧
      ∀ rest, readArguments given (before ++ rest) = result

namespace ReadsOn

variable {given next : Given} {group before : List Text}

theorem of_step (step : ∀ rest, readArguments given (group ++ rest) = readArguments next rest)
    (behind : ReadsOn next before) : ReadsOn given (group ++ before) := by
  unfold ReadsOn at behind ⊢
  simp only [List.append_assoc, step]
  exact behind

theorem of_result {result : Except ArgumentError Invocation}
    (noCommand : ∀ config, result ≠ .ok (.run config))
    (step : ∀ rest, readArguments given (group ++ rest) = result) :
    ReadsOn given (group ++ before) := by
  refine .inr ⟨result, noCommand, fun rest => ?_⟩
  rw [List.append_assoc, step]

/-- The value of an option is taken, or it is refused whatever follows. -/
theorem of_setOption {value : Text} {option : ValueOption}
    (step : ∀ rest, readArguments given (group ++ rest) =
      (given.setOption value option).bind fun next => readArguments next rest)
    (behind : ∀ next, ReadsOn next before) : ReadsOn given (group ++ before) := by
  cases taken : given.setOption value option with
  | ok next =>
      apply of_step _ (behind next)
      intro rest
      rw [step, taken, Except.bind]
  | error error =>
      have refused : ∀ rest, readArguments given (group ++ rest) = .error error := by
        intro rest
        rw [step, taken, Except.bind]
      exact of_result (fun _ => by simp) refused

end ReadsOn

theorem AllowsOption.readsOn {before : List Text} (allows : AllowsOption before)
    (given : Given) : ReadsOn given before := by
  induction allows generalizing given with
  | nil => exact .inl ⟨given, fun _ => rfl⟩
  | @single argument before noFlag notEnd _ ih =>
      change ReadsOn given ([argument] ++ before)
      cases meaning : Argument.ofText argument with
      | help => exact .of_result (fun _ => by simp) (readArguments_of_help given · meaning)
      | version => exact .of_result (fun _ => by simp) (readArguments_of_version given · meaning)
      | color isOn => exact .of_step (readArguments_of_color given · meaning) (ih _)
      | detached option => exact absurd (Argument.mem_flags_of_ofText meaning) (noFlag option)
      | attached option value =>
          exact .of_setOption (readArguments_of_attached given · meaning) ih
      | endOfOptions => exact absurd (Argument.eq_of_ofText_endOfOptions meaning) notEnd
      | unknown text =>
          exact .of_result (fun _ => by simp) (readArguments_of_unknown given · meaning)
      | word text => exact .of_step (readArguments_of_word given · meaning) (ih _)
  | @valued option flag value before member _ ih =>
      have meaning := Argument.ofText_of_mem_flags member
      change ReadsOn given ([flag, value] ++ before)
      exact .of_setOption (readArguments_of_detached given · meaning value) ih

end DateDisplay.CommandLine
