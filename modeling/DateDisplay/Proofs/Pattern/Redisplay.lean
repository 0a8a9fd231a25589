import DateDisplay.Proofs.Pattern.Assembly
import DateDisplay.Proofs.Pattern.FittingDates
import DateDisplay.Proofs.Pattern.ShortYears

/-!
# What was typed, displayed again

Reading gives no dates but those that the pattern can show, whatever was typed, as long as
the reference day is one of them.  So a date that was read is shown and read again without a
change, except that a short year typed in full comes back as its last two digits tell.
-/

namespace DateDisplay

/-- The text says the year itself, as this number. -/
def Pattern.TellsYear (pattern : Pattern) (text : Text) (year : Nat) : Prop :=
  ∃ segments piece, pattern.segments (Text.trim text) = some segments ∧
    segments.lookup .year = some piece ∧ Decimal.read? piece = some year

namespace PatternCodec

variable {codec : PatternCodec} {context : Context} {text : Text} {date : CalendarDate}

/-- A date is shown as what the pattern retains of it. -/
theorem format_retained (codec : PatternCodec) (date : CalendarDate) :
    codec.format (codec.pattern.retained date) = codec.format date := by
  cases century : codec.pattern.century with
  | none => rw [Pattern.retained_of_full century]
  | some window =>
      have texts : codec.fieldText (codec.pattern.retained date) = codec.fieldText date := by
        rw [Pattern.retained_of_short century]
        funext field
        cases field with
        | day => rfl
        | month => rfl
        | year =>
            rw [fieldText, fieldText, yearText_of_short century, yearText_of_short century,
              CenturyWindow.shorten_resolve, CenturyWindow.shorten,
              CenturyWindow.toInt_ofInt_emod, Int.emod_emod, CenturyWindow.shorten]
      simp only [format, fieldTexts, texts]

/-! ## The dates that are read -/

/-- A numeric month is one of twelve, whether it was read or is that of a day. -/
theorem month_le_of_readField? {segments : List Pattern.Segment} {day : RealDate}
    {month : UInt32} (numeric : codec.pattern.month ≠ .name)
    (read : readField? segments .month (codec.readMonth? context) day.date.month =
      some month) : month.toNat ≤ 11 := by
  rcases readField?_eq_some read with ⟨-, rfl⟩ | ⟨piece, -, -, pieceRead⟩
  · exact Nat.le_of_lt_succ day.isReal.month_lt
  · rw [readMonth?_of_numeric numeric] at pieceRead
    rcases Option.bind_eq_some_iff.1 pieceRead with ⟨number, -, inYear⟩
    exact CalendarDate.toNat_le_of_monthOfNumber? inYear

/-- A full year is that of the reference day, or it was read from digits. -/
theorem year_of_readField? {segments : List Pattern.Segment} {kept year : Int32}
    (full : codec.pattern.year = .full)
    (read : readField? segments .year codec.readYear? kept = some year) :
    year = kept ∨
      ∃ piece, (DateField.year, piece) ∈ segments ∧ Decimal.readYear? piece = some year := by
  rcases readField?_eq_some read with ⟨-, rfl⟩ | ⟨piece, member, -, pieceRead⟩
  · exact .inl rfl
  · rw [readYear?, Pattern.year_eq_full_iff.1 full] at pieceRead
    exact .inr ⟨piece, member, by simpa using pieceRead⟩

/-- Packed numbers have no more digits than their fields are wide. -/
theorem length_le_of_packed {segments : List Pattern.Segment} {field : DateField}
    {piece : Text} (packed : codec.pattern.layout = .packed)
    (numeric : codec.pattern.month ≠ .name)
    (found : codec.pattern.segments text = some segments)
    (member : (field, piece) ∈ segments) :
    piece.length ≤ codec.pattern.sliceWidth text.length field := by
  rw [segments_of_packed packed numeric] at found
  exact Pattern.length_le_of_slice found member

/-- With a reference day in the range of the pattern nothing is read that does not fit. -/
theorem fits_of_parse (numeric : codec.pattern.month ≠ .name)
    (parsed : codec.parse context text = .parsed date)
    (reference_nonneg : codec.pattern.year = .full → 0 ≤ context.reference.date.year.toInt)
    (reference_le : codec.pattern.layout = .packed → codec.pattern.year = .full →
      context.reference.date.year.toInt ≤ 9999) : codec.pattern.Fits date := by
  rcases exists_segments_of_read? (parse_eq_parsed_iff.1 parsed).2 with
    ⟨segments, found, day, month, year⟩
  constructor
  case month_le => exact month_le_of_readField? numeric month
  case year_nonneg =>
    intro full
    rcases year_of_readField? full year with kept | ⟨piece, -, pieceRead⟩
    · rw [kept]
      exact reference_nonneg full
    · exact Decimal.nonneg_of_readYear? pieceRead
  case day_le =>
    intro packed
    rcases readField?_eq_some day with ⟨-, kept⟩ | ⟨piece, member, -, pieceRead⟩
    · rw [kept]
      exact Nat.le_trans context.reference.isReal.day_le (by decide)
    · have short : piece.length ≤ 2 := length_le_of_packed packed numeric found member
      have small := Decimal.lt_of_read? (Decimal.read?_of_readCount? pieceRead) short
      omega
  case year_le =>
    intro packed full
    rcases year_of_readField? full year with kept | ⟨piece, member, pieceRead⟩
    · rw [kept]
      exact reference_le packed full
    · have short : piece.length ≤ 4 := by
        have bound := length_le_of_packed packed numeric found member
        rw [Pattern.sliceWidth, if_neg (by simp [full]), Pattern.width,
          Pattern.year_eq_full_iff.1 full] at bound
        exact bound
      have small := Decimal.lt_of_read? (Decimal.read?_of_readYear? pieceRead) short
      omega

/-- A year that the text says with one or two digits is the one that the pattern retains. -/
theorem retained_of_tellsYear (parsed : codec.parse context text = .parsed date)
    {year : Nat} (tells : codec.pattern.TellsYear text year) (short : year < 100) :
    codec.pattern.retained date = date := by
  cases century : codec.pattern.century with
  | none => exact Pattern.retained_of_full century
  | some window =>
      rcases exists_segments_of_read? (parse_eq_parsed_iff.1 parsed).2 with
        ⟨segments, found, -, -, yearRead⟩
      rcases tells with ⟨others, piece, othersFound, pieceFound, pieceRead⟩
      rw [found] at othersFound
      cases othersFound
      rw [readField?, pieceFound, Option.elim_some, readYear?, century] at yearRead
      rcases Option.map_eq_some_iff.1 yearRead with ⟨typed, typedRead, resolved⟩
      have same : typed.toInt.toNat = year := by
        rw [Decimal.read?_of_readYear? typedRead] at pieceRead
        exact Option.some.inj pieceRead
      have nonneg := Decimal.nonneg_of_readYear? typedRead
      have expanded : window.resolve typed = date.year := resolved
      rw [Pattern.retained_of_short century, ← expanded,
        CenturyWindow.resolve_emod_resolve window nonneg (by omega), expanded]

/-- What was read from any text is displayed in a form that is read in the same way, in any
context.  A full year comes back as it is; a short year comes back as its last two digits
tell, which is how it is displayed, and as it is where the text said no more than these. -/
theorem parse_format_of_parse {window : CenturyWindow} {raw : Text}
    (accepted : Pattern.compileWith window raw = .ok codec.pattern)
    (numeric : codec.pattern.month ≠ .name)
    (parsed : codec.parse context text = .parsed date) (other : Context) :
    (codec.pattern.century = none → 0 ≤ context.reference.date.year.toInt →
      (codec.pattern.layout = .packed → context.reference.date.year.toInt ≤ 9999) →
      codec.parse other (codec.format date) = .parsed date) ∧
    (∀ own, codec.pattern.century = some own →
      let kept := { date with year := own.resolve (.ofInt (date.year.toInt % 100)) }
      codec.parse other (codec.format date) = .parsed kept ∧
        codec.format kept = codec.format date ∧
        ∀ year, codec.pattern.TellsYear text year → year < 100 → kept = date) := by
  constructor
  · intro century nonneg small
    have fits := fits_of_parse numeric parsed (fun _ => nonneg) fun packed _ => small packed
    rw [parse_format_of_fits accepted numeric fits, Pattern.retained_of_full century]
  · intro own century kept
    have short : codec.pattern.year ≠ .full := by
      simp [Pattern.year_eq_full_iff, century]
    have retained : codec.pattern.retained date = kept := Pattern.retained_of_short century
    have fits := fits_of_parse numeric parsed (fun full => absurd full short)
      fun _ full => absurd full short
    rw [← retained]
    refine ⟨parse_format_of_fits accepted numeric fits other, codec.format_retained date, ?_⟩
    intro year tells small
    exact retained_of_tellsYear parsed tells small

/-- A day and a month without a year come back with the year of the reference day.  A year
typed in full comes back in the century of the window, one typed with two digits as it is. -/
theorem parse_format_of_parse_partial_and_full :
    let full : Pattern :=
      ⟨"_y0M0d".toList, .packed, .yearMonthDay, .zeroPadded, .zeroPadded, none⟩
    let short : Pattern :=
      ⟨" _d_M0y".toList, .separated ' ', .dayMonthYear, .bare, .bare, some {}⟩
    let context : Context := ⟨⟨⟨2013, 1, 12⟩, by decide⟩, none⟩
    let other : Context := ⟨⟨⟨-44, 2, 15⟩, by decide⟩, some 7⟩
    (Pattern.compileWith {} "_y0M0d".toList = .ok full ∧ full.month ≠ .name ∧
      parse ⟨full, []⟩ context "0506".toList = .parsed ⟨2013, 4, 6⟩ ∧
      parse ⟨full, []⟩ other (format ⟨full, []⟩ ⟨2013, 4, 6⟩) = .parsed ⟨2013, 4, 6⟩) ∧
    (Pattern.compileWith {} " _d_M0y".toList = .ok short ∧ short.month ≠ .name ∧
      parse ⟨short, []⟩ context " 5 3 1887".toList = .parsed ⟨1887, 2, 5⟩ ∧
      parse ⟨short, []⟩ other (format ⟨short, []⟩ ⟨1887, 2, 5⟩) = .parsed ⟨1987, 2, 5⟩ ∧
      parse ⟨short, []⟩ context "5 3 87".toList = .parsed ⟨1987, 2, 5⟩ ∧
      short.TellsYear "5 3 87".toList 87 ∧
      parse ⟨short, []⟩ other (format ⟨short, []⟩ ⟨1987, 2, 5⟩) = .parsed ⟨1987, 2, 5⟩) := by
  intro full short context other
  have dayAndMonth : parse ⟨full, []⟩ context "0506".toList = .parsed ⟨2013, 4, 6⟩ := by
    decide
  have inFull : parse ⟨short, []⟩ context " 5 3 1887".toList = .parsed ⟨1887, 2, 5⟩ := by
    decide
  have inShort : parse ⟨short, []⟩ context "5 3 87".toList = .parsed ⟨1987, 2, 5⟩ := by
    decide
  have tells : short.TellsYear "5 3 87".toList 87 := ⟨_, _, rfl, rfl, rfl⟩
  have fullAccepted : Pattern.compileWith {} "_y0M0d".toList = .ok full := rfl
  have shortAccepted : Pattern.compileWith {} " _d_M0y".toList = .ok short := rfl
  refine ⟨⟨rfl, by decide, dayAndMonth, ?_⟩, ⟨rfl, by decide, inFull, ?_, inShort, tells, ?_⟩⟩
  · exact (@parse_format_of_parse ⟨full, []⟩ context _ _ {} _ fullAccepted (by decide)
      dayAndMonth other).1 rfl (by decide) fun _ => by decide
  · exact ((@parse_format_of_parse ⟨short, []⟩ context _ _ {} _ shortAccepted (by decide)
      inFull other).2 {} rfl).1
  · rcases (@parse_format_of_parse ⟨short, []⟩ context _ _ {} _ shortAccepted (by decide)
      inShort other).2 {} rfl with ⟨reread, -, same⟩
    rw [same 87 tells (by decide)] at reread
    exact reread

end PatternCodec

end DateDisplay
