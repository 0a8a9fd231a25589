import DateDisplay.Locale.Names
import DateDisplay.Proofs.Pattern.Readable
import DateDisplay.Proofs.Pattern.Separated

/-!
# What separated pieces tell

The separators of a text divide it into pieces, and their number says which fields it tells:
the day alone, day and month, or all three.  The order is that of the pattern, and blanks
around a piece do not count, not even where the separator is a blank itself.  A text with more
pieces tells nothing.
-/

namespace DateDisplay

namespace Text

variable {separator : Char} {text : Text}

/-- No piece shows the separator. -/
theorem notMem_of_mem_splitOn {piece : Text} (member : piece ∈ text.splitOn separator) :
    separator ∉ piece := by
  -- All separators of the text stand between its pieces, so that none is left for a piece.
  have joined : [separator].intercalate (text.splitOn separator) = text :=
    List.intercalate_splitOn separator
  have length := @length_splitOn separator text
  cases pieces : text.splitOn separator with
  | nil => exact absurd pieces (List.splitOn_ne_nil _ _)
  | cons first rest =>
      rw [pieces] at joined length member
      have counted := @count_intercalate separator first rest
      rw [joined] at counted
      rw [List.length_cons] at length
      have none : (first :: rest).flatten.count separator = 0 := by omega
      intro shown
      exact List.count_eq_zero.1 none (List.mem_flatten_of_mem member shown)

end Text

namespace Pattern

variable {pattern : Pattern} {separator : Char} {text : Text} {pieces : List Segment}

/-! ## The fields that pieces tell -/

/-- The number of pieces from which on a separated text tells a field. -/
def leastPieces : DateField → Nat
  | .day => 1
  | .month => 2
  | .year => 3

/-- The trimmed pieces in which a separated text gives its fields their texts. -/
structure Splits (pattern : Pattern) (separator : Char) (text : Text)
    (pieces : List Segment) : Prop where
  few : text.count separator ≤ 2
  fields : pieces.map Prod.fst =
    pattern.order.toList.filter fun field => leastPieces field ≤ text.count separator + 1
  texts : ∃ parts, [separator].intercalate parts = text ∧
    (∀ part ∈ parts, separator ∉ part) ∧ pieces.map Prod.snd = parts.map Text.trim

theorem fieldsOfPieces_eq_some_iff {separators : Nat} {fields : List DateField} :
    pattern.fieldsOfPieces (separators + 1) = some fields ↔
      separators ≤ 2 ∧
        fields = pattern.order.toList.filter fun field => leastPieces field ≤ separators + 1 := by
  have told : pattern.fieldsOfPieces (separators + 1) =
      if separators ≤ 2 then
        some (pattern.order.toList.filter fun field => leastPieces field ≤ separators + 1)
      else none := by
    match separators with
    | 0 | 1 | 2 =>
        simp only [fieldsOfPieces, dayAndMonth]
        cases pattern.order <;> rfl
    | separators + 3 => simp [fieldsOfPieces]
  rw [told, Option.ite_none_right_eq_some, Option.some.injEq, eq_comm (a := fields)]

/-- Splitting finds the pieces and nothing else. -/
theorem split_eq_some_iff_splits :
    pattern.split separator text = some pieces ↔ pattern.Splits separator text pieces := by
  constructor
  · intro found
    have fields := map_fst_split found
    rw [Text.length_splitOn, fieldsOfPieces_eq_some_iff] at fields
    refine ⟨fields.1, fields.2, text.splitOn separator, List.intercalate_splitOn _, ?_, ?_⟩
    · exact fun part member => Text.notMem_of_mem_splitOn member
    · obtain ⟨named, namedFound, rfl⟩ := Option.map_eq_some_iff.1 found
      have length := (fieldsOfPieces_spec namedFound).1
      rw [List.map_snd_zip (Nat.le_of_eq length.symm)]
  · intro splits
    obtain ⟨parts, joined, free, trimmed⟩ := splits.texts
    have present : parts ≠ [] := by
      rintro rfl
      have day : DateField.day ∈ pieces.map Prod.fst := by
        rw [splits.fields]
        simp [leastPieces]
      rw [List.map_eq_nil_iff.1 trimmed] at day
      cases day
    have found : text.splitOn separator = parts := by
      rw [← joined, List.splitOn_intercalate _ free present]
    rw [split, List.length_map, Text.length_splitOn,
      fieldsOfPieces_eq_some_iff.2 ⟨splits.few, splits.fields⟩, Option.map_some, found, ← trimmed,
      ← List.zip_of_prod rfl rfl]

theorem Splits.unique {other : List Segment} (splits : pattern.Splits separator text pieces)
    (otherSplits : pattern.Splits separator text other) : pieces = other := by
  have found := split_eq_some_iff_splits.2 splits
  rw [split_eq_some_iff_splits.2 otherSplits] at found
  exact (Option.some.inj found).symm

/-- There are such pieces exactly when the text has at most two separators. -/
theorem exists_splits_iff :
    (∃ pieces, pattern.Splits separator text pieces) ↔ text.count separator ≤ 2 := by
  constructor
  · rintro ⟨pieces, splits⟩
    exact splits.few
  · intro few
    have fields : pattern.fieldsOfPieces (text.count separator + 1) = some _ :=
      fieldsOfPieces_eq_some_iff.2 ⟨few, rfl⟩
    obtain ⟨pieces, found⟩ : ∃ pieces, pattern.split separator text = some pieces := by
      rw [split, List.length_map, Text.length_splitOn, fields, Option.map_some]
      exact ⟨_, rfl⟩
    exact ⟨pieces, split_eq_some_iff_splits.1 found⟩

/-! ## Separated dates -/

/-- What a separated text is: a text with at most two separators and a readable piece for
each of the fields it tells. -/
structure IsSeparatedDate (pattern : Pattern) (separator : Char) (text : Text) : Prop where
  few : text.count separator ≤ 2
  readable : ∀ pieces, pattern.Splits separator text pieces →
    ∀ segment ∈ pieces, pattern.Readable segment

end Pattern

namespace PatternCodec

variable {codec : PatternCodec} {context : Context} {text : Text} {date : CalendarDate}
  {separator : Char}

section Separated

variable (separated : codec.pattern.layout = .separated separator)

include separated

theorem read?_eq_some_iff_splits :
    codec.read? context text = some date ↔
      ∃ pieces, codec.pattern.Splits separator text pieces ∧
        (∀ segment ∈ pieces, codec.pattern.Readable segment) ∧
        codec.toldDate context pieces = date := by
  simp only [read?_eq_some_iff, Pattern.segments, separated, Pattern.split_eq_some_iff_splits]

/-- A text is read exactly when it is a separated date. -/
theorem exists_read?_iff_isSeparatedDate :
    (∃ date, codec.read? context text = some date) ↔
      codec.pattern.IsSeparatedDate separator text := by
  simp only [read?_eq_some_iff_splits separated]
  constructor
  · rintro ⟨date, pieces, splits, readable, -⟩
    refine ⟨splits.few, fun other otherSplits => ?_⟩
    rw [otherSplits.unique splits]
    exact readable
  · intro isDate
    obtain ⟨pieces, splits⟩ := Pattern.exists_splits_iff.2 isDate.few
    exact ⟨_, pieces, splits, isDate.readable pieces splits, rfl⟩

end Separated

/-- A separated pattern, with month numbers or names, reads the texts with at most two
separators whose pieces are digits where a number is asked for: a day of 32 bits, a month of
the year, a year of 31 bits.  Every other text that shows something is invalid.  One piece is
the day, two are day and month in their order, three are the fields of the slots; the rest is
that of the reference day.  A month name is never a fault. -/
theorem parse_of_separated_pieces (separated : codec.pattern.layout = .separated separator)
    (context : Context) (nonempty : Text.trim text ≠ []) :
    ((∃ date, codec.parse context text = .parsed date) ↔
      codec.pattern.IsSeparatedDate separator (Text.trim text)) ∧
    (¬ codec.pattern.IsSeparatedDate separator (Text.trim text) →
      codec.parse context text = .invalid) ∧
    ∀ date, codec.parse context text = .parsed date →
      ∃ pieces, codec.pattern.Splits separator (Text.trim text) pieces ∧
        date = codec.toldDate context pieces := by
  have parsedIff : ∀ date, codec.parse context text = .parsed date ↔
      codec.read? context (Text.trim text) = some date := by
    intro date
    rw [parse_eq_parsed_iff]
    exact and_iff_right nonempty
  have isDateIff := @exists_read?_iff_isSeparatedDate codec context (Text.trim text) separator
    separated
  refine ⟨?_, ?_, ?_⟩
  · rw [← isDateIff]
    exact exists_congr parsedIff
  · intro other
    have unread : codec.read? context (Text.trim text) = none := by
      rw [Option.eq_none_iff_forall_ne_some]
      intro date read
      exact other (isDateIff.1 ⟨date, read⟩)
    simp only [parse, if_neg nonempty, unread]
  · intro date parsed
    obtain ⟨pieces, splits, -, told⟩ :=
      (read?_eq_some_iff_splits separated).1 ((parsedIff date).1 parsed)
    exact ⟨pieces, splits, told.symm⟩

/-- Where a blank separates, blanks at the ends do not count, and one more in between makes a
piece too many.  Two pieces are month and day where the pattern shows them so; a month that no
name begins with, and the missing year, are those of the context. -/
theorem parse_of_separated_pieces_blank :
    let pattern : Pattern :=
      ⟨" 0ymM_d+2130".toList, .separated ' ', .yearMonthDay, .bare, .name,
        some ⟨21, 30, true⟩⟩
    let codec : PatternCodec := ⟨pattern, CalendarNames.english.months⟩
    let context : Context := ⟨⟨⟨2013, 1, 12⟩, by decide⟩, some 7⟩
    pattern.layout = .separated ' ' ∧
      (Text.trim "  29 Ju 5 ".toList ≠ [] ∧
        pattern.IsSeparatedDate ' ' (Text.trim "  29 Ju 5 ".toList) ∧
        ∃ pieces, pattern.Splits ' ' (Text.trim "  29 Ju 5 ".toList) pieces ∧
          ⟨1929, 5, 5⟩ = codec.toldDate context pieces) ∧
      (Text.trim "29  Ju 5".toList ≠ [] ∧
        codec.parse context "29  Ju 5".toList = .invalid) ∧
      Text.trim "? 5".toList ≠ [] ∧
        pattern.IsSeparatedDate ' ' (Text.trim "? 5".toList) ∧
        ∃ pieces, pattern.Splits ' ' (Text.trim "? 5".toList) pieces ∧
          ⟨2013, 7, 5⟩ = codec.toldDate context pieces := by
  intro pattern codec context
  have full : codec.parse context "  29 Ju 5 ".toList = .parsed ⟨1929, 5, 5⟩ := by decide
  have short : codec.parse context "? 5".toList = .parsed ⟨2013, 7, 5⟩ := by decide
  have fullGrammar := @parse_of_separated_pieces codec "  29 Ju 5 ".toList ' ' rfl context
    (by decide)
  have shortGrammar := @parse_of_separated_pieces codec "? 5".toList ' ' rfl context (by decide)
  refine ⟨rfl, ⟨by decide, ?_, ?_⟩, ⟨by decide, ?_⟩, by decide, ?_, ?_⟩
  · exact fullGrammar.1.1 ⟨_, full⟩
  · exact fullGrammar.2.2 _ full
  · apply (@parse_of_separated_pieces codec "29  Ju 5".toList ' ' rfl context (by decide)).2.1
    intro isDate
    exact absurd isDate.few (by decide)
  · exact shortGrammar.1.1 ⟨_, short⟩
  · exact shortGrammar.2.2 _ short

end PatternCodec

end DateDisplay
