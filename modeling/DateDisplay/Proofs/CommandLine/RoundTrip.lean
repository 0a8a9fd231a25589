import DateDisplay.CommandLine.Execution
import DateDisplay.Proofs.CommandLine.Arguments
import DateDisplay.Proofs.Date.Iso
import DateDisplay.Proofs.Pattern.FittingDates

/-!
# Command lines that undo each other

What the program prints for a day by a pattern, it reads back by the same pattern: the
output of `format` as the input of `parse` gives the ISO date again, as far as the
pattern shows it.  The text stands behind `--`, so that it may begin with a hyphen.
-/

namespace DateDisplay.CommandLine

/-! ## Arguments -/

section Reading

variable (given : Given) (rest : List Text)

theorem readArguments_pattern (raw : Text) :
    readArguments given ("-p".toList :: raw :: rest) =
      readArguments { given with pattern := some raw } rest :=
  rfl

theorem readArguments_reference {value : Text} {day : RealDate}
    (valid : RealDate.ofIso? value = some day) :
    readArguments given ("--reference".toList :: value :: rest) =
      readArguments { given with reference := some day } rest := by
  have argument : Argument.ofText "--reference".toList = .detached .reference := rfl
  simp only [readArguments, argument, Given.setOption, valid]

end Reading

/-! ## Command lines with a pattern -/

section Pattern

variable {raw : Text} {pattern : Pattern}

/-- The pattern that delegates is no display pattern. -/
theorem ne_serverPattern_of_compile (accepted : Pattern.compile raw = .ok pattern) :
    raw ≠ Controller.serverPattern := by
  rintro rfl
  cases accepted

/-- The configuration of a command with a display pattern and one input. -/
theorem config_of_readCommand (accepted : Pattern.compile raw = .ok pattern)
    {name input : Text} {command : Command}
    (read : Given.readCommand (some name) input = .ok command) (reference : Option RealDate) :
    ({ command := some name, operands := [input], pattern := some raw, reference } : Given).config =
      .ok ⟨command, some raw, defaultLocale, reference, false⟩ := by
  have notServer : some raw ≠ some Controller.serverPattern :=
    fun same => ne_serverPattern_of_compile accepted (Option.some.inj same)
  simp only [Given.config, if_neg notServer, List.intercalate_singleton, read, Except.map]

/-- The command line that formats a day. -/
theorem ofArguments_format (accepted : Pattern.compile raw = .ok pattern) {day : RealDate}
    (inYears : 0 ≤ day.date.year.toInt ∧ day.date.year.toInt ≤ 9999) :
    Invocation.ofArguments ["-p".toList, raw, "format".toList, day.date.iso] =
      .ok (.run ⟨.format day, some raw, defaultLocale, none, false⟩) := by
  rcases day.date.exists_iso_eq_cons inYears.1 with ⟨char, digits, iso, digit⟩
  have plain : day.date.iso.head? ≠ some '-' := by
    rw [iso]
    rintro ⟨⟩
    cases digit
  have nonempty : day.date.iso ≠ [] := by
    rw [iso]
    exact List.cons_ne_nil char digits
  have command : Given.readCommand (some "format".toList) day.date.iso = .ok (.format day) := by
    simp only [Given.readCommand, if_true, CalendarDate.trim_iso, if_neg nonempty,
      RealDate.ofIso?_iso day inYears]
  rw [Invocation.ofArguments, readArguments_pattern, readArguments_word _ _ (by decide),
    readArguments_word _ _ plain, readArguments]
  exact congrArg (Except.map Invocation.run) (config_of_readCommand accepted command none)

/-- The command line that reads a text. -/
theorem ofArguments_parse (accepted : Pattern.compile raw = .ok pattern) {value : Text}
    {reference : RealDate} (valid : RealDate.ofIso? value = some reference) (text : Text) :
    Invocation.ofArguments
        ["-p".toList, raw, "--reference".toList, value, "parse".toList, "--".toList, text] =
      .ok (.run ⟨.parse text, some raw, defaultLocale, some reference, false⟩) := by
  have command : Given.readCommand (some "parse".toList) text = .ok (.parse text) := rfl
  rw [Invocation.ofArguments, readArguments_pattern, readArguments_reference _ _ valid,
    readArguments_word _ _ (by decide), readArguments_endOfOptions]
  exact congrArg (Except.map Invocation.run)
    (config_of_readCommand accepted command (some reference))

/-- A text that is read as a date is reported by its ISO form. -/
theorem executeParse_of_parsed {codec : Codec} {reference : RealDate} {text : Text}
    {date : CalendarDate} (read : codec.parse { reference } text = .parsed date) :
    executeParse codec reference false text = .success (date.iso ++ ['\n']) := by
  have report : (Report.ofOutcome text (.parsed date)).render false = date.iso ++ ['\n'] := by
    simp [Report.ofOutcome, Report.render, Fragment.render, Fragment.styled, List.rightpad]
  simp only [executeParse, read, report]

/-- What `format` prints for a day of the years from 0 to 9999 by a pattern with a month
number, `parse` reads as that day, whatever the reference day.  A short year comes back in
the century of the window. -/
theorem execute_parse_of_format (accepted : Pattern.compile raw = .ok pattern)
    (numeric : pattern.month ≠ .name) {value : Text} {reference : RealDate}
    (valid : RealDate.ofIso? value = some reference) (provider : RendererProvider)
    (today later : RealDate) {day : RealDate}
    (inYears : 0 ≤ day.date.year.toInt ∧ day.date.year.toInt ≤ 9999) :
    ∃ shown,
      execute provider today ["-p".toList, raw, "format".toList, day.date.iso] =
        ⟨0, shown ++ ['\n'], []⟩ ∧
      execute provider later
          ["-p".toList, raw, "--reference".toList, value, "parse".toList, "--".toList, shown] =
        ⟨0, (pattern.retained day.date).iso ++ ['\n'], []⟩ := by
  let codec : PatternCodec := ⟨pattern, (Detector.forLocale provider {} defaultLocale).monthNames⟩
  have chosen : ∀ command reference, Codec.ofConfig provider
      ⟨command, some raw, defaultLocale, reference, false⟩ = .ok (.pattern codec) := by
    intro command reference
    simp only [Codec.ofConfig, accepted]
    rfl
  refine ⟨codec.format day.date, ?_, ?_⟩
  · rw [execute, ofArguments_format accepted inYears]
    simp only [executeConfig, chosen]
    rfl
  · have read := @PatternCodec.parse_format_of_isReal codec day {} raw accepted numeric
      { reference } inYears
    rw [execute, ofArguments_parse accepted valid]
    simp only [executeConfig, chosen, Option.getD_some]
    exact executeParse_of_parsed read

/-- Bare fields between hyphens, the short year in front: the window takes 24 back to the
century before. -/
theorem execute_parse_of_format_short_year :
    let pattern : Pattern :=
      ⟨"-0y_d_M+2150".toList, .separated '-', .yearDayMonth, .bare, .bare, some ⟨21, 50, true⟩⟩
    let day : RealDate := ⟨⟨2024, 1, 29⟩, by decide⟩
    Pattern.compile "-0y_d_M+2150".toList = .ok pattern ∧
    pattern.month ≠ .name ∧
    RealDate.ofIso? "2024-02-29".toList = some day ∧
    (0 ≤ day.date.year.toInt ∧ day.date.year.toInt ≤ 9999) ∧
    ∃ shown,
      execute LocaleTable.provider day
          ["-p".toList, "-0y_d_M+2150".toList, "format".toList, "2024-02-29".toList] =
        ⟨0, shown ++ ['\n'], []⟩ ∧
      execute LocaleTable.provider day
          ["-p".toList, "-0y_d_M+2150".toList, "--reference".toList, "2024-02-29".toList,
            "parse".toList, "--".toList, shown] =
        ⟨0, "1924-02-29".toList ++ ['\n'], []⟩ := by
  intro pattern day
  have accepted : Pattern.compile "-0y_d_M+2150".toList = .ok pattern := rfl
  have numeric : pattern.month ≠ .name := by decide
  have valid : RealDate.ofIso? "2024-02-29".toList = some day := by decide
  have inYears : 0 ≤ day.date.year.toInt ∧ day.date.year.toInt ≤ 9999 := by decide
  have written : day.date.iso = "2024-02-29".toList := by decide
  have kept : (pattern.retained day.date).iso = "1924-02-29".toList := by decide
  refine ⟨accepted, numeric, valid, inYears, ?_⟩
  rw [← written, ← kept]
  rw [← written] at valid
  exact execute_parse_of_format accepted numeric valid LocaleTable.provider day day inYears

end Pattern

end DateDisplay.CommandLine
