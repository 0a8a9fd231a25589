import DateDisplay.Proofs.Pattern.PackedGrammar

/-!
# Readable segments

Whether a segment can be read depends neither on the segments beside it nor on the context:
a number has to be digits below a bound, and a month name may be anything.  So a text is read
exactly when it has segments and all of them are readable.  The date takes each field from
its segment, or else from the reference day.
-/

namespace DateDisplay

/-! ## Numbers below a bound -/

namespace Decimal

variable {text : Text}

/-- A text of digits that stands for a number below a bound. -/
structure IsNumberBelow (bound : Nat) (text : Text) : Prop where
  nonempty : text ≠ []
  digits : text.all Char.isDigit = true
  small : number text < bound

theorem readCount?_eq_some_iff {count : UInt32} :
    readCount? text = some count ↔
      IsNumberBelow 0x100000000 text ∧ .ofNat (number text) = count := by
  constructor
  · intro read
    obtain ⟨⟨nonempty, digits⟩, value⟩ := read?_eq_some_iff.1 (read?_of_readCount? read)
    rw [value, UInt32.ofNat_toNat]
    exact ⟨⟨nonempty, digits, value ▸ count.toNat_lt⟩, rfl⟩
  · rintro ⟨isNumber, rfl⟩
    rw [readCount?, read?_of_digits isNumber.nonempty isNumber.digits, Option.bind_some,
      if_pos isNumber.small]

theorem readYear?_eq_some_iff {year : Int32} :
    readYear? text = some year ↔
      IsNumberBelow 0x80000000 text ∧ .ofInt (number text) = year := by
  constructor
  · intro read
    obtain ⟨⟨nonempty, digits⟩, value⟩ := read?_eq_some_iff.1 (read?_of_readYear? read)
    have nonneg := nonneg_of_readYear? read
    have bound := year.toInt_lt
    rw [value, Int.toNat_of_nonneg nonneg, Int32.ofInt_toInt]
    exact ⟨⟨nonempty, digits, by omega⟩, rfl⟩
  · rintro ⟨isNumber, rfl⟩
    rw [readYear?, read?_of_digits isNumber.nonempty isNumber.digits, Option.bind_some,
      if_pos isNumber.small]

/-- A month number is read when it is one of twelve. -/
theorem bind_monthOfNumber?_eq_some_iff {month : UInt32} :
    (readCount? text).bind CalendarDate.monthOfNumber? = some month ↔
      (IsNumberBelow 13 text ∧ 1 ≤ number text) ∧ .ofNat (number text - 1) = month := by
  constructor
  · intro read
    obtain ⟨count, countRead, named⟩ := Option.bind_eq_some_iff.1 read
    obtain ⟨isNumber, rfl⟩ := readCount?_eq_some_iff.1 countRead
    rw [CalendarDate.monthOfNumber?_ofNat isNumber.small, Option.ite_none_right_eq_some,
      Option.some.injEq] at named
    obtain ⟨⟨positive, inYear⟩, value⟩ := named
    exact ⟨⟨⟨isNumber.nonempty, isNumber.digits, by omega⟩, positive⟩, value⟩
  · rintro ⟨⟨isNumber, positive⟩, rfl⟩
    have inYear := isNumber.small
    have small : number text < 0x100000000 := by omega
    have countRead : readCount? text = some (.ofNat (number text)) :=
      readCount?_eq_some_iff.2 ⟨⟨isNumber.nonempty, isNumber.digits, small⟩, rfl⟩
    rw [countRead, Option.bind_some, CalendarDate.monthOfNumber?_ofNat small,
      if_pos ⟨positive, by omega⟩]

end Decimal

/-! ## One segment -/

/-- A segment whose field can be read from it: a number that fits, a month number being one
of twelve, or any month name. -/
def Pattern.Readable (pattern : Pattern) : Pattern.Segment → Prop
  | (.day, piece) => Decimal.IsNumberBelow 0x100000000 piece
  | (.month, piece) =>
      pattern.month = .name ∨ (Decimal.IsNumberBelow 13 piece ∧ 1 ≤ Decimal.number piece)
  | (.year, piece) => Decimal.IsNumberBelow 0x80000000 piece

theorem Pattern.forall_readable_iff {pattern : Pattern} {pieces : List Pattern.Segment} :
    (∀ segment ∈ pieces, pattern.Readable segment) ↔
      (∀ piece, (.day, piece) ∈ pieces → pattern.Readable (.day, piece)) ∧
      (∀ piece, (.month, piece) ∈ pieces → pattern.Readable (.month, piece)) ∧
      (∀ piece, (.year, piece) ∈ pieces → pattern.Readable (.year, piece)) := by
  constructor
  · intro readable
    exact ⟨fun _ => readable _, fun _ => readable _, fun _ => readable _⟩
  · rintro ⟨day, month, year⟩ ⟨field, piece⟩ member
    cases field with
    | day => exact day piece member
    | month => exact month piece member
    | year => exact year piece member

namespace PatternCodec

variable {codec : PatternCodec} {context : Context} {text : Text} {date : CalendarDate}
  {pieces : List Pattern.Segment}

/-- The month that a segment tells, by name or number. -/
def toldMonth (codec : PatternCodec) (context : Context) (piece : Text) : UInt32 :=
  match codec.pattern.month with
  | .name => codec.resolveMonthName context piece
  | _ => .ofNat (Decimal.number piece - 1)

theorem readMonth?_eq_some_iff {piece : Text} {month : UInt32} :
    codec.readMonth? context piece = some month ↔
      codec.pattern.Readable (.month, piece) ∧ codec.toldMonth context piece = month := by
  by_cases named : codec.pattern.month = .name
  · simp only [readMonth?, named, Option.some.injEq, Pattern.Readable, true_or, toldMonth,
      true_and]
  · have told : codec.toldMonth context piece = .ofNat (Decimal.number piece - 1) := by
      rw [toldMonth]
      split
      · contradiction
      · rfl
    rw [readMonth?_of_numeric named, Decimal.bind_monthOfNumber?_eq_some_iff, told]
    simp only [Pattern.Readable, named, false_or]

theorem readYear?_eq_some_iff {piece : Text} {year : Int32} :
    codec.readYear? piece = some year ↔
      codec.pattern.Readable (.year, piece) ∧
        codec.pattern.typedYear (Decimal.number piece) = year := by
  rw [readYear?, Option.map_eq_some_iff]
  simp only [Decimal.readYear?_eq_some_iff, Pattern.Readable, Pattern.typedYear]
  constructor
  · rintro ⟨typed, ⟨isNumber, rfl⟩, rfl⟩
    exact ⟨isNumber, by cases codec.pattern.century <;> rfl⟩
  · rintro ⟨isNumber, rfl⟩
    exact ⟨_, ⟨isNumber, rfl⟩, by cases codec.pattern.century <;> rfl⟩

/-! ## All segments -/

/-- Where no field has two segments, the one found is the one that is there. -/
theorem lookup_eq_some_iff_mem {field : DateField} {piece : Text}
    (distinct : (pieces.map Prod.fst).Nodup) :
    pieces.lookup field = some piece ↔ (field, piece) ∈ pieces := by
  constructor
  · intro found
    obtain ⟨before, after, rfl, -⟩ := List.lookup_eq_some_iff.1 found
    exact List.mem_append_right _ List.mem_cons_self
  · intro member
    obtain ⟨before, after, rfl⟩ := List.append_of_mem member
    rw [List.map_append, List.map_cons, List.nodup_append] at distinct
    refine List.lookup_eq_some_iff.2 ⟨before, after, rfl, fun other inBefore => ?_⟩
    exact bne_iff_ne.2
      (distinct.2.2 _ (List.mem_map_of_mem inBefore) _ List.mem_cons_self).symm

theorem readField?_eq_some_iff {α : Type} {field : DateField} {read? : Text → Option α}
    {readable : Text → Prop} {told : Text → α} {kept value : α}
    (distinct : (pieces.map Prod.fst).Nodup)
    (reads : ∀ {piece value}, read? piece = some value ↔ readable piece ∧ told piece = value) :
    readField? pieces field read? kept = some value ↔
      (∀ piece, (field, piece) ∈ pieces → readable piece) ∧
        (pieces.lookup field).elim kept told = value := by
  simp only [← lookup_eq_some_iff_mem distinct, readField?]
  cases pieces.lookup field with
  | none => simp
  | some piece => simp [reads]

/-- The date that segments tell.  A field without a segment is that of the reference day. -/
def toldDate (codec : PatternCodec) (context : Context) (pieces : List Pattern.Segment) :
    CalendarDate where
  day := (pieces.lookup .day).elim context.reference.date.day fun piece =>
    .ofNat (Decimal.number piece)
  month := (pieces.lookup .month).elim context.reference.date.month (codec.toldMonth context)
  year := (pieces.lookup .year).elim context.reference.date.year fun piece =>
    codec.pattern.typedYear (Decimal.number piece)

/-- A text is read exactly when it has segments and all of them are readable, and then as the
date that they tell. -/
theorem read?_eq_some_iff :
    codec.read? context text = some date ↔
      ∃ pieces, codec.pattern.segments text = some pieces ∧
        (∀ segment ∈ pieces, codec.pattern.Readable segment) ∧
        codec.toldDate context pieces = date := by
  rw [read?, Option.bind_eq_some_iff]
  refine exists_congr fun pieces => and_congr_right fun found => ?_
  have distinct := Pattern.nodup_of_segments found
  rw [assemble?, foldlM_setField? distinct, Pattern.forall_readable_iff]
  simp only [Option.bind_eq_bind, Option.bind_eq_some_iff,
    readField?_eq_some_iff distinct Decimal.readCount?_eq_some_iff,
    readField?_eq_some_iff distinct readMonth?_eq_some_iff,
    readField?_eq_some_iff distinct readYear?_eq_some_iff]
  constructor
  · rintro ⟨day, ⟨dayReadable, rfl⟩, month, ⟨monthReadable, rfl⟩, year,
      ⟨yearReadable, rfl⟩, made⟩
    exact ⟨⟨dayReadable, monthReadable, yearReadable⟩, Option.some.inj made⟩
  · rintro ⟨⟨dayReadable, monthReadable, yearReadable⟩, rfl⟩
    exact ⟨_, ⟨dayReadable, rfl⟩, _, ⟨monthReadable, rfl⟩, _, ⟨yearReadable, rfl⟩, rfl⟩

end PatternCodec

end DateDisplay
