import DateDisplay.Proofs.CommandLine.Arguments

/-!
# Options and words side by side

Options and words may be mixed at will in front of `--`.  An option changes a setting and a
word does not, so that the two sequences can be read one after the other; and of the options
for one setting the last one counts.
-/

namespace DateDisplay.CommandLine

/-! ## Options and words -/

/-- What an option changes. -/
inductive Setting where
  | color (isOn : Bool)
  | pattern (raw : Text)
  | locale (tag : Text)
  | reference (day : RealDate)

namespace Setting

/-- Whether colour is asked for, by a setting about that. -/
def color? : Setting → Option Bool
  | color isOn => some isOn
  | _ => none

/-- The pattern that is set. -/
def pattern? : Setting → Option Text
  | pattern raw => some raw
  | _ => none

/-- The locale that is set. -/
def locale? : Setting → Option Text
  | locale tag => some tag
  | _ => none

/-- The reference day that is set. -/
def reference? : Setting → Option RealDate
  | reference day => some day
  | _ => none

end Setting

/-- An option with this value changes a setting.  Patterns and locales are taken as they are, and
a reference day has to be one. -/
inductive ValueOption.Sets : ValueOption → Text → Setting → Prop where
  | pattern (raw : Text) : Sets .pattern raw (.pattern raw)
  | locale (tag : Text) : Sets .locale tag (.locale tag)
  | reference {value : Text} {day : RealDate} :
      RealDate.ofIso? value = some day → Sets .reference value (.reference day)

/-- These arguments are a well-formed option that changes a setting.  In one argument with its
flag, a value is what stands behind the equals sign, less every repetition of what stands in
front. -/
inductive Writes : List Text → Setting → Prop where
  | color : Writes ["--color".toList] (.color true)
  | noColor : Writes ["--no-color".toList] (.color false)
  | detached {option : ValueOption} {flag value : Text} {setting : Setting} :
      flag ∈ option.flags → option.Sets value setting → Writes [flag, value] setting
  | attached {option : ValueOption} {value : Text} {setting : Setting} :
      option.Sets (Text.stripAll option.lead value) setting →
        Writes [option.lead ++ value] setting

/-- A well-formed option with all its arguments. -/
structure OptionGroup where
  arguments : List Text
  setting : Setting
  writes : Writes arguments setting

/-- A word: it is empty, a hyphen alone, or does not begin with a hyphen. -/
structure Operand where
  text : Text
  isWord : text = ['-'] ∨ text.head? ≠ some '-'

/-- The arguments mix some options with some words and keep the order of both. -/
inductive Interleaves : List OptionGroup → List Operand → List Text → Prop where
  | nil : Interleaves [] [] []
  | option {groups : List OptionGroup} {operands : List Operand} {arguments : List Text}
      (group : OptionGroup) :
      Interleaves groups operands arguments →
        Interleaves (group :: groups) operands (group.arguments ++ arguments)
  | operand {groups : List OptionGroup} {operands : List Operand} {arguments : List Text}
      (operand : Operand) :
      Interleaves groups operands arguments →
        Interleaves groups (operand :: operands) (operand.text :: arguments)

namespace Given

/-- What is given once an option has been read. -/
def apply (given : Given) : Setting → Given
  | .color isOn => { given with color := isOn }
  | .pattern raw => { given with pattern := some raw }
  | .locale tag => { given with locale := tag }
  | .reference day => { given with reference := some day }

/-- What is given once some options and some words have been read. -/
def extended (given : Given) (settings : List Setting) (words : List Text) : Given :=
  words.foldl addWord (settings.foldl apply given)

theorem setOption_of_sets {option : ValueOption} {value : Text} {setting : Setting}
    (sets : option.Sets value setting) (given : Given) :
    given.setOption value option = .ok (given.apply setting) := by
  cases sets with
  | pattern raw => rfl
  | locale tag => rfl
  | reference valid => simp only [setOption, valid, apply]

/-! ## One step -/

theorem addWord_apply (given : Given) (setting : Setting) (word : Text) :
    (given.apply setting).addWord word = (given.addWord word).apply setting := by
  cases setting <;> cases command : given.command <;> simp only [apply, addWord, command]

end Given

variable {groups : List OptionGroup} {operands : List Operand} {arguments : List Text}

theorem readArguments_group (group : OptionGroup) (given : Given) (rest : List Text) :
    readArguments given (group.arguments ++ rest) =
      readArguments (given.apply group.setting) rest := by
  obtain ⟨arguments, setting, writes⟩ := group
  cases writes with
  | color => rfl
  | noColor => rfl
  | detached flag sets =>
      have meaning := Argument.ofText_of_mem_flags flag
      change readArguments given (_ :: _ :: rest) = _
      rw [readArguments_of_detached given rest meaning, Given.setOption_of_sets sets, Except.bind]
  | @attached option value _ sets =>
      have meaning := Argument.ofText_lead_append option value
      change readArguments given (_ :: rest) = _
      rw [readArguments_of_attached given rest meaning, Given.setOption_of_sets sets, Except.bind]

theorem readArguments_operand (operand : Operand) (given : Given) (rest : List Text) :
    readArguments given (operand.text :: rest) =
      readArguments (given.addWord operand.text) rest := by
  obtain hyphen | plain := operand.isWord
  · rw [hyphen]
    rfl
  · exact readArguments_word given rest plain

/-! ## All steps -/

theorem Given.extended_addWord (given : Given) (settings : List Setting) (word : Text)
    (words : List Text) :
    (given.addWord word).extended settings words = given.extended settings (word :: words) := by
  unfold extended
  rw [List.foldl_cons]
  congr 1
  induction settings generalizing given with
  | nil => rfl
  | cons setting settings ih =>
      rw [List.foldl_cons, List.foldl_cons, ← addWord_apply, ih]

/-- Whatever the order in which options and words take turns, reading them is reading the
options and then the words. -/
theorem Interleaves.readArguments_append (mixed : Interleaves groups operands arguments)
    (given : Given) (rest : List Text) :
    readArguments given (arguments ++ rest) =
      readArguments
        (given.extended (groups.map OptionGroup.setting) (operands.map Operand.text)) rest := by
  induction mixed generalizing given with
  | nil => rfl
  | option group _ ih =>
      rw [List.append_assoc, readArguments_group, ih]
      rfl
  | operand operand _ ih =>
      rw [List.cons_append, readArguments_operand, ih, Given.extended_addWord]
      rfl

namespace Given

/-- Of the settings that write a field the last one counts. -/
theorem foldl_apply_eq_or {α : Type} {field : Given → Option α} {written? : Setting → Option α}
    (step : ∀ given setting, field (apply given setting) = (written? setting).or (field given))
    (settings : List Setting) (given : Given) :
    field (settings.foldl apply given) =
      (settings.filterMap written?).getLast?.or (field given) := by
  induction settings generalizing given with
  | nil => rfl
  | cons setting settings ih =>
      rw [List.foldl_cons, ih, step]
      cases written : written? setting with
      | none => rw [List.filterMap_cons_none written, Option.none_or]
      | some value =>
          rw [List.filterMap_cons_some written, List.getLast?_cons, Option.some_or]
          cases (settings.filterMap written?).getLast? <;> rfl

/-- A field that no setting writes keeps its value. -/
theorem foldl_apply_eq {α : Type} {field : Given → α}
    (step : ∀ given setting, field (apply given setting) = field given)
    (settings : List Setting) (given : Given) :
    field (settings.foldl apply given) = field given := by
  induction settings generalizing given with
  | nil => rfl
  | cons setting settings ih => rw [List.foldl_cons, ih, step]

/-- What the settings alone say. -/
theorem foldl_apply (settings : List Setting) (color : Bool) :
    settings.foldl apply { color } =
      { pattern := (settings.filterMap Setting.pattern?).getLast?
        locale := (settings.filterMap Setting.locale?).getLast?.getD defaultLocale
        reference := (settings.filterMap Setting.reference?).getLast?
        color := (settings.filterMap Setting.color?).getLast?.getD color } := by
  have command := @foldl_apply_eq _ Given.command
    (fun _ setting => by cases setting <;> rfl) settings { color }
  have operands := @foldl_apply_eq _ Given.operands
    (fun _ setting => by cases setting <;> rfl) settings { color }
  have pattern := @foldl_apply_eq_or _ Given.pattern Setting.pattern?
    (fun _ setting => by cases setting <;> rfl) settings { color }
  have locale := @foldl_apply_eq_or _ (some ·.locale) Setting.locale?
    (fun _ setting => by cases setting <;> rfl) settings { color }
  have reference := @foldl_apply_eq_or _ Given.reference Setting.reference?
    (fun _ setting => by cases setting <;> rfl) settings { color }
  have isOn := @foldl_apply_eq_or _ (some ·.color) Setting.color?
    (fun _ setting => by cases setting <;> rfl) settings { color }
  rw [Option.or_none] at pattern reference
  rw [Option.or_some, Option.some_inj] at locale isOn
  rw [← pattern, ← locale, ← reference, ← isOn]
  generalize settings.foldl apply { color } = last at command operands ⊢
  obtain ⟨_, _, _, _, _, _⟩ := last
  cases command
  cases operands
  rfl

/-- Behind a command every word is an operand. -/
theorem foldl_addWord_of_command (given : Given) {command : Text}
    (isGiven : given.command = some command) (words : List Text) :
    words.foldl addWord given = { given with operands := given.operands ++ words } := by
  induction words generalizing given with
  | nil => rw [List.foldl_nil, List.append_nil]
  | cons word words ih =>
      have added : given.addWord word = { given with operands := given.operands ++ [word] } := by
        simp only [addWord, isGiven]
      rw [List.foldl_cons, added, ih { given with operands := given.operands ++ [word] } isGiven,
        List.append_assoc, List.singleton_append]

/-- The first word is the command. -/
theorem foldl_addWord {given : Given} (noCommand : given.command = none)
    (noOperands : given.operands = []) (words : List Text) :
    words.foldl addWord given = { given with command := words.head?, operands := words.tail } := by
  cases words with
  | nil => rw [List.head?_nil, List.tail_nil, List.foldl_nil, ← noCommand, ← noOperands]
  | cons word words =>
      have added : given.addWord word = { given with command := some word } := by
        simp only [addWord, noCommand]
      rw [List.foldl_cons, added, foldl_addWord_of_command _ rfl, noOperands, List.nil_append]
      rfl

end Given

/-- At the end, or behind `--`, everything is known. -/
theorem readArguments_ending (given : Given) (further : Option (List Text)) :
    readArguments given (further.elim [] ("--".toList :: ·)) =
      ({ given with operands := given.operands ++ further.getD [] } : Given).config.map .run := by
  cases further with
  | none => rw [Option.elim_none, Option.getD_none, List.append_nil, readArguments]
  | some rest => exact readArguments_endOfOptions given rest

/-- However options and words are mixed in front of `--`, the result is the same.  The first word
is the command, and the other words with everything behind `--`, joined by single spaces, are its
input; of the options for pattern, locale, reference day and colour the last ones count. -/
theorem readArguments_of_interleaves {first second : List Text}
    (oneWay : Interleaves groups operands first) (otherWay : Interleaves groups operands second)
    (color : Bool) (further : Option (List Text)) :
    let settings := groups.map OptionGroup.setting
    let words := operands.map Operand.text
    let ending := further.elim [] ("--".toList :: ·)
    readArguments { color } (first ++ ending) = readArguments { color } (second ++ ending) ∧
    readArguments { color } (first ++ ending) =
      if (settings.filterMap Setting.pattern?).getLast? = some Controller.serverPattern then
        .error .serverPattern
      else
        (Given.readCommand words.head?
          ([' '].intercalate (words.tail ++ further.getD []))).map fun command => .run {
            command
            pattern := (settings.filterMap Setting.pattern?).getLast?
            locale := (settings.filterMap Setting.locale?).getLast?.getD defaultLocale
            reference := (settings.filterMap Setting.reference?).getLast?
            color := (settings.filterMap Setting.color?).getLast?.getD color } := by
  intro settings words ending
  have read := oneWay.readArguments_append { color } ending
  refine ⟨read.trans (otherWay.readArguments_append { color } ending).symm, ?_⟩
  rw [read, Given.extended, Given.foldl_apply, Given.foldl_addWord rfl rfl, readArguments_ending,
    Given.config]
  split
  · rfl
  · generalize Given.readCommand words.head? _ = command
    cases command <;> rfl

/-- Two hyphens are a pattern where one is expected, and a hyphen alone and an empty word are
words. -/
theorem readArguments_of_interleaves_parse :
    let day : RealDate := ⟨⟨2024, 1, 29⟩, by decide⟩
    let groups : List OptionGroup := [
      ⟨["-p".toList, "--".toList], .pattern "--".toList, .detached (by decide) (.pattern _)⟩,
      ⟨["--reference=2024-02-29".toList], .reference day,
        @Writes.attached .reference _ _ (.reference (by decide))⟩,
      ⟨["--no-color".toList], .color false, .noColor⟩,
      ⟨["--pattern".toList, "-0d0M0y".toList], .pattern "-0d0M0y".toList,
        .detached (by decide) (.pattern _)⟩]
    let operands : List Operand :=
      [⟨"parse".toList, by decide⟩, ⟨"-".toList, by decide⟩, ⟨[], by decide⟩]
    let first := ["-p", "--", "parse", "--reference=2024-02-29", "-", "", "--no-color",
      "--pattern", "-0d0M0y"].map String.toList
    let second := ["parse", "-", "-p", "--", "--reference=2024-02-29", "--no-color", "",
      "--pattern", "-0d0M0y"].map String.toList
    let ending := ["--", "--color", "5"].map String.toList
    let config : Config :=
      ⟨.parse "-  --color 5".toList, some "-0d0M0y".toList, defaultLocale, some day, false⟩
    Interleaves groups operands first ∧ Interleaves groups operands second ∧
      readArguments { color := true } (first ++ ending) = .ok (.run config) ∧
      readArguments { color := true } (second ++ ending) = .ok (.run config) := by
  intro day groups operands first second ending config
  have oneWay : Interleaves groups operands first :=
    .option _ (.operand _ (.option _ (.operand _ (.operand _ (.option _ (.option _ .nil))))))
  have otherWay : Interleaves groups operands second :=
    .operand _ (.operand _ (.option _ (.option _ (.option _ (.operand _ (.option _ .nil))))))
  obtain ⟨same, result⟩ := readArguments_of_interleaves oneWay otherWay true
    (some ["--color".toList, "5".toList])
  exact ⟨oneWay, otherWay, result, same.symm.trans result⟩

end DateDisplay.CommandLine
