import DateDisplay.CommandLine.Execution
import DateDisplay.Proofs.CommandLine.Arguments
import DateDisplay.Proofs.CommandLine.StyledReports

/-!
# Colour on and off

A flag for colour changes nothing in a configuration but its colour, and nothing at all where a
later flag follows.  A run in colour ends like the run without, and what it writes is the same
text with escape sequences in it; but when a pattern is explained, the names of its fields lose
the spaces that fill up their column.
-/

namespace DateDisplay.CommandLine

open Text

/-! ## Colour among the arguments -/

/-- The same invocation with this colour. -/
def Invocation.withColor (color : Bool) : Invocation → Invocation
  | help => help
  | version => version
  | run config => run { config with color }

namespace Given

variable (given : Given) (color : Bool)

theorem setOption_color (value : Text) (option : ValueOption) :
    ({ given with color } : Given).setOption value option =
      (given.setOption value option).map ({ · with color }) := by
  cases option with
  | pattern => rfl
  | locale => rfl
  | reference =>
      simp only [setOption]
      cases RealDate.ofIso? value <;> rfl

theorem addWord_color (word : Text) :
    ({ given with color } : Given).addWord word = { given.addWord word with color } := by
  simp only [addWord]
  cases given.command <;> rfl

theorem config_color :
    ({ given with color } : Given).config.map Invocation.run =
      (given.config.map Invocation.run).map (Invocation.withColor color) := by
  simp only [config]
  split
  · rfl
  · cases readCommand given.command ([' '].intercalate given.operands) <;> rfl

end Given

theorem map_withColor_of_noCommand {result : Except ArgumentError Invocation}
    (noCommand : ∀ config, result ≠ .ok (.run config)) (color : Bool) :
    Except.map (Invocation.withColor color) result = result := by
  cases result with
  | error error => rfl
  | ok invocation =>
      cases invocation with
      | help => rfl
      | version => rfl
      | run config => exact absurd rfl (noCommand config)

/-- The colour from before goes through the reading of some arguments and touches nothing else,
unless the last flag among them replaces it. -/
def PassesColor (given : Given) (rest : List Text) : Prop :=
  ∃ result, ∃ last : Option Bool, ∀ color, readArguments { given with color } rest =
    Except.map (Invocation.withColor (last.getD color)) result

namespace PassesColor

variable {given next : Given} {group rest : List Text}

theorem of_step (step : ∀ color,
      readArguments { given with color } group = readArguments { next with color } rest)
    (behind : PassesColor next rest) : PassesColor given group := by
  obtain ⟨result, last, read⟩ := behind
  exact ⟨result, last, fun color => (step color).trans (read color)⟩

theorem of_result {result : Except ArgumentError Invocation}
    (noCommand : ∀ config, result ≠ .ok (.run config))
    (step : ∀ given, readArguments given group = result) : PassesColor given group := by
  refine ⟨result, none, fun color => ?_⟩
  rw [step, map_withColor_of_noCommand noCommand]

/-- Taking the value of an option leaves the colour alone. -/
theorem of_setOption {value : Text} {option : ValueOption}
    (step : ∀ given, readArguments given group =
      (given.setOption value option).bind fun next => readArguments next rest)
    (taken : given.setOption value option = .ok next) (behind : PassesColor next rest) :
    PassesColor given group := by
  apply of_step _ behind
  intro color
  rw [step, Given.setOption_color, taken]
  rfl

theorem of_setOption_error {value : Text} {option : ValueOption} {error : ArgumentError}
    (step : ∀ given, readArguments given group =
      (given.setOption value option).bind fun next => readArguments next rest)
    (refused : given.setOption value option = .error error) : PassesColor given group := by
  refine ⟨.error error, none, fun color => ?_⟩
  rw [step, Given.setOption_color, refused]
  rfl

end PassesColor

/-- The induction follows the reading; only a flag for colour forgets the colour from before. -/
theorem passesColor (given : Given) (rest : List Text) : PassesColor given rest := by
  induction given, rest using readArguments.induct with
  | case1 given => exact ⟨_, none, given.config_color⟩
  | case2 given argument rest meaning =>
      exact .of_result (fun _ => by simp) (readArguments_of_help · rest meaning)
  | case3 given argument rest meaning =>
      exact .of_result (fun _ => by simp) (readArguments_of_version · rest meaning)
  | case4 given argument rest isOn meaning ih =>
      obtain ⟨result, last, read⟩ := ih
      refine ⟨result, some (last.getD isOn), fun color => ?_⟩
      rw [readArguments_of_color _ rest meaning]
      exact read isOn
  | case5 given argument option meaning =>
      have step : ∀ given, readArguments given [argument] = .error (.missingValue option) := by
        simp only [readArguments, meaning, implies_true]
      exact .of_result (fun _ => by simp) step
  | case6 given argument option meaning value rest next taken ih =>
      exact .of_setOption (readArguments_of_detached · rest meaning value) taken ih
  | case7 given argument option meaning value rest error refused =>
      exact .of_setOption_error (readArguments_of_detached · rest meaning value) refused
  | case8 given argument rest option value meaning next taken ih =>
      exact .of_setOption (readArguments_of_attached · rest meaning) taken ih
  | case9 given argument rest option value meaning error refused =>
      exact .of_setOption_error (readArguments_of_attached · rest meaning) refused
  | case10 given argument rest meaning =>
      let extended : Given := { given with operands := given.operands ++ rest }
      refine ⟨extended.config.map .run, none, fun color => ?_⟩
      simp only [readArguments, meaning]
      exact extended.config_color color
  | case11 given argument rest text meaning =>
      exact .of_result (fun _ => by simp) (readArguments_of_unknown · rest meaning)
  | case12 given argument rest word meaning ih =>
      apply PassesColor.of_step _ ih
      intro color
      rw [readArguments_of_word _ rest meaning, Given.addWord_color]

/-- In one place, the two flags for colour lead to the same result or to configurations that
differ in their colour. -/
theorem AllowsOption.readArguments_flags {before : List Text} (allows : AllowsOption before)
    (given : Given) (after : List Text) :
    let colored := readArguments given (before ++ "--color".toList :: after)
    let plain := readArguments given (before ++ "--no-color".toList :: after)
    colored = plain ∨
      ∃ config : Config, colored = .ok (.run { config with color := true }) ∧
        plain = .ok (.run { config with color := false }) := by
  intro colored plain
  obtain ⟨next, read⟩ | ⟨result, -, settled⟩ := allows.readsOn given
  · obtain ⟨result, last, behind⟩ := passesColor next after
    have coloredRead : colored = Except.map (Invocation.withColor (last.getD true)) result :=
      (read _).trans (behind true)
    have plainRead : plain = Except.map (Invocation.withColor (last.getD false)) result :=
      (read _).trans (behind false)
    rw [coloredRead, plainRead]
    cases last with
    | some isOn => exact .inl rfl
    | none =>
        -- what is no command has no colour that could differ
        by_cases noCommand : ∀ config, result ≠ .ok (.run config)
        · left
          rw [map_withColor_of_noCommand noCommand, map_withColor_of_noCommand noCommand]
        · right
          simp only [not_forall, not_not] at noCommand
          obtain ⟨config, rfl⟩ := noCommand
          exact ⟨config, rfl, rfl⟩
  · exact .inl ((settled _).trans (settled _).symm)

/-! ## What is written -/

/-- The configuration asks to explain a pattern, and the pattern is well-formed. -/
def ExplainsPattern (config : Config) : Prop :=
  config.command = .explain ∧
    ∃ raw pattern, config.pattern = some raw ∧ Pattern.compile raw = .ok pattern

section Written

variable (provider : RendererProvider) (config : Config)

theorem exists_ofConfig_eq_pattern_iff :
    (∃ codec, Codec.ofConfig provider config = .ok (.pattern codec)) ↔
      ∃ raw pattern, config.pattern = some raw ∧ Pattern.compile raw = .ok pattern := by
  unfold Codec.ofConfig
  constructor
  · rintro ⟨codec, chosen⟩
    split at chosen
    · rename_i raw given
      cases compiled : Pattern.compile raw with
      | error error =>
          rw [compiled] at chosen
          cases chosen
      | ok pattern => exact ⟨raw, pattern, given, compiled⟩
    · cases chosen
  · rintro ⟨raw, pattern, given, compiled⟩
    rw [given]
    simp only [compiled]
    exact ⟨_, rfl⟩

/-- The text of a date on a line of its own is a report, too. -/
theorem render_line (text : Text) (color : Bool) :
    Report.render color [[.plain text]] = text ++ ['\n'] := by
  simp [Report.render, Fragment.render, Fragment.plain, List.rightpad]

theorem even_line (text : Text) : Report.Even [[.plain text]] where
  tidy := by simp [Report.Tidy]
  unfilled := by simp [Fragment.plain]

theorem executeParse_eq (codec : Codec) (reference : RealDate) (text : Text) :
    ∃ code errors outcome, ∀ color, executeParse codec reference color text =
      ⟨code, (Report.ofOutcome text outcome).render color, errors⟩ := by
  simp only [executeParse]
  split
  · rename_i invalid
    exact ⟨_, _, .invalid, fun color => by rw [invalid]; rfl⟩
  · exact ⟨_, _, _, fun color => rfl⟩

/-- What a run writes is a report, in colour and without. -/
theorem exists_report (today : RealDate) :
    ∃ code errors, ∃ report : Report,
      (∀ color, executeConfig provider today { config with color } =
        ⟨code, report.render color, errors⟩) ∧
      (¬ ExplainsPattern config ∧ report.Even ∨
        ExplainsPattern config ∧ ∃ codec date, report = .ofPattern codec date) := by
  rw [ExplainsPattern, ← exists_ofConfig_eq_pattern_iff provider config]
  have same : ∀ color, Codec.ofConfig provider { config with color } =
      Codec.ofConfig provider config := fun _ => rfl
  simp only [executeConfig, same]
  cases Codec.ofConfig provider config with
  | error error =>
      refine ⟨1, _, [], fun _ => rfl, .inl ⟨?_, Report.even_nil⟩⟩
      rintro ⟨-, codec, chosen⟩
      cases chosen
  | ok codec =>
      cases command : config.command with
      | format day =>
          refine ⟨0, [], [[.plain (codec.format day.date)]], fun color => ?_,
            .inl ⟨?_, even_line _⟩⟩
          · rw [render_line]
            rfl
          · rintro ⟨explains, -⟩
            cases explains
      | parse text =>
          obtain ⟨code, errors, outcome, executed⟩ :=
            executeParse_eq codec (config.reference.getD today) text
          refine ⟨code, errors, _, executed, .inl ⟨?_, Report.even_ofOutcome text outcome⟩⟩
          rintro ⟨explains, -⟩
          cases explains
      | explain =>
          cases codec with
          | locale detector =>
              refine ⟨0, [], _, fun _ => rfl, .inl ⟨?_, Report.even_ofLocale _ detector⟩⟩
              rintro ⟨-, codec, chosen⟩
              cases chosen
          | pattern codec =>
              exact ⟨0, [], _, fun _ => rfl, .inr ⟨⟨rfl, codec, rfl⟩, codec, _, rfl⟩⟩

end Written

/-! ## Two runs -/

/-- Two runs end alike, and their outputs differ in escape sequences and spaces at most. -/
structure Execution.Alike (first second : Execution) : Prop where
  code : first.code = second.code
  errors : first.errors = second.errors
  output : (unstyled first.output).filter (· ≠ ' ') = (unstyled second.output).filter (· ≠ ' ')

/-- With a flag for colour and with the one against it, in the same place, a run ends with the
same code and the same errors, and writes the same text but for escape sequences and spaces.
Spaces differ exactly where the flag decides and a pattern is explained. -/
theorem execute_color (provider : RendererProvider) (today : RealDate) {before : List Text}
    (allows : AllowsOption before) (after : List Text) :
    let colored := before ++ "--color".toList :: after
    let plain := before ++ "--no-color".toList :: after
    (execute provider today colored).Alike (execute provider today plain) ∧
    (unstyled (execute provider today colored).output =
        unstyled (execute provider today plain).output ↔
      ¬ ∃ config, ExplainsPattern config ∧
        Invocation.ofArguments colored = .ok (.run { config with color := true }) ∧
        Invocation.ofArguments plain = .ok (.run { config with color := false })) := by
  intro colored plain
  obtain same | ⟨config, coloredRead, plainRead⟩ := allows.readArguments_flags {} after
  · have sameRun : execute provider today colored = execute provider today plain := by
      rw [execute, execute]
      unfold Invocation.ofArguments
      rw [same]
    rw [sameRun]
    refine ⟨⟨rfl, rfl, rfl⟩, iff_of_true rfl ?_⟩
    rintro ⟨config, -, coloredRead, plainRead⟩
    have both := coloredRead.symm.trans (same.trans plainRead)
    cases congrArg Config.color (Invocation.run.inj (Except.ok.inj both))
  · have coloredRun : execute provider today colored =
        executeConfig provider today { config with color := true } := by
      rw [execute, Invocation.ofArguments, coloredRead]
    have plainRun : execute provider today plain =
        executeConfig provider today { config with color := false } := by
      rw [execute, Invocation.ofArguments, plainRead]
    obtain ⟨code, errors, report, executed, which⟩ := exists_report provider config today
    rw [coloredRun, plainRun, executed, executed]
    obtain ⟨notExplained, even⟩ | ⟨explained, codec, date, rfl⟩ := which
    · refine ⟨⟨rfl, rfl, even.tidy.filter_unstyled_render⟩,
        iff_of_true even.unstyled_render_eq ?_⟩
      rintro ⟨other, explained, otherRead, -⟩
      have same := Invocation.run.inj (Except.ok.inj (otherRead.symm.trans coloredRead))
      obtain ⟨command, pattern, -⟩ := Config.mk.inj same
      rw [ExplainsPattern, command, pattern] at explained
      exact notExplained explained
    · refine ⟨⟨rfl, rfl, (Report.tidy_ofPattern date codec).filter_unstyled_render⟩,
        iff_of_false (Report.unstyled_render_ofPattern_ne date codec) ?_⟩
      exact not_not.2 ⟨config, explained, coloredRead, plainRead⟩

/-- A locale that looks like the end of the options is explained in the same words. -/
theorem execute_color_locale :
    let today : RealDate := ⟨⟨2024, 2, 5⟩, by decide⟩
    let before := ["-l", "--"].map String.toList
    let colored := before ++ "--color".toList :: ["explain".toList]
    let plain := before ++ "--no-color".toList :: ["explain".toList]
    AllowsOption before ∧
      unstyled (execute LocaleTable.provider today colored).output =
        unstyled (execute LocaleTable.provider today plain).output := by
  intro today before colored plain
  have allows : AllowsOption before := @AllowsOption.valued .locale _ _ _ (by decide) .nil
  have boundary := (execute_color LocaleTable.provider today allows ["explain".toList]).2
  refine ⟨allows, boundary.2 ?_⟩
  rintro ⟨config, ⟨-, raw, _, given, -⟩, read, -⟩
  have noPattern : Invocation.ofArguments colored =
      .ok (.run ⟨.explain, none, "--".toList, none, true⟩) := rfl
  have same := Invocation.run.inj (Except.ok.inj (read.symm.trans noPattern))
  have pattern : config.pattern = none := congrArg Config.pattern same
  rw [pattern] at given
  cases given

/-- In colour the names of the fields are not filled up to their column. -/
theorem colored_pattern_loses_columns :
    let today : RealDate := ⟨⟨2024, 2, 5⟩, by decide⟩
    let run := fun flag => execute LocaleTable.provider today
      ([flag, "-p", "-0d0M_y", "--reference", "2024-03-05", "explain"].map String.toList)
    (run "--color").code = 0 ∧ (run "--no-color").code = 0 ∧
      "  1. day ZeroPadded\n".toList <:+: unstyled (run "--color").output ∧
      "  1. day    ZeroPadded\n".toList <:+: unstyled (run "--no-color").output ∧
      unstyled (run "--color").output ≠ unstyled (run "--no-color").output := by
  decide +kernel

end DateDisplay.CommandLine
