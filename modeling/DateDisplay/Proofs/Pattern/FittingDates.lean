import DateDisplay.Proofs.Pattern.Packed
import DateDisplay.Proofs.Pattern.Separated

/-!
# Dates that fit a pattern

With a month number a date comes back in both layouts, as far as the pattern shows it, if it
shows no minus sign and, in a packed text, no number wider than its field.  The days of the
years from 0 to 9999 are such dates, whatever the pattern.
-/

namespace DateDisplay

/-- A date of one of the twelve months that is within what a text of the pattern can tell. -/
structure Pattern.Fits (pattern : Pattern) (date : CalendarDate) : Prop where
  month_le : date.month.toNat ≤ 11
  year_nonneg : pattern.year = .full → 0 ≤ date.year.toInt
  day_le : pattern.layout = .packed → date.day.toNat ≤ 99
  year_le : pattern.layout = .packed → pattern.year = .full → date.year.toInt ≤ 9999

namespace PatternCodec

variable {codec : PatternCodec} {date : CalendarDate} {day : RealDate}

/-- In both layouts a date that fits is read as the pattern retains it. -/
theorem parse_format_of_fits {window : CenturyWindow} {raw : Text}
    (accepted : Pattern.compileWith window raw = .ok codec.pattern)
    (numeric : codec.pattern.month ≠ .name) (fits : codec.pattern.Fits date)
    (context : Context) :
    codec.parse context (codec.format date) = .parsed (codec.pattern.retained date) := by
  have told : date.month.toNat ≤ 11 ∧ (codec.pattern.year = .full → 0 ≤ date.year.toInt) :=
    ⟨fits.month_le, fits.year_nonneg⟩
  cases layout : codec.pattern.layout with
  | packed =>
      have exact : ∀ field,
          (codec.fieldText date field).length = codec.pattern.width field := by
        apply (forall_length_fieldText_iff layout numeric).2
        refine ⟨fits.day_le layout, Nat.le_trans fits.month_le (by decide), fun full => ?_⟩
        have nonneg := fits.year_nonneg full
        exact ⟨by omega, fits.year_le layout full⟩
      rw [parse_format_of_width layout numeric exact, if_pos told]
  | separated separator =>
      have noDigit := Pattern.isDigit_separator accepted layout
      have free : ∀ field, separator ∉ codec.fieldText date field :=
        fun _ => notMem_fieldText noDigit (fun _ => numeric) told.2
      have trimmed := fun field => @trim_fieldText codec date field fun _ => numeric
      have nonempty := fun field => @fieldText_ne_nil codec date field fun _ => numeric
      rcases trim_format_of_separated layout trimmed nonempty with
        ⟨formatTrimmed, formatNonempty⟩
      rw [parse_of_trim_eq_self formatTrimmed formatNonempty,
        read?_format_of_separated layout free trimmed, readTexts?_fieldText numeric,
        if_pos told]

theorem parse_format_of_isReal {window : CenturyWindow} {raw : Text}
    (accepted : Pattern.compileWith window raw = .ok codec.pattern)
    (numeric : codec.pattern.month ≠ .name) (context : Context)
    (inYears : 0 ≤ day.date.year.toInt ∧ day.date.year.toInt ≤ 9999) :
    codec.parse context (codec.format day.date) =
      .parsed (codec.pattern.retained day.date) := by
  apply parse_format_of_fits accepted numeric
  constructor
  · exact Nat.le_of_lt_succ day.isReal.month_lt
  · exact fun _ => inYears.1
  · exact fun _ => Nat.le_trans day.isReal.day_le (by decide)
  · exact fun _ _ => inYears.2

end PatternCodec

end DateDisplay
