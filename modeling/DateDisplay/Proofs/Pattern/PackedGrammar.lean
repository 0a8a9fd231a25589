import Mathlib.Algebra.Order.Group.Nat
import Mathlib.Algebra.Ring.Nat
import DateDisplay.Proofs.Pattern.Assembly

/-!
# What packed digits tell

A packed text with a month number is nothing but digits, and their number says which
fields it tells: the day alone, day and month, or all three.  From left to right each field
takes the digits it has room for, and only the last may get fewer.  So there is one way at
most to divide the digits among the fields, and at some lengths there is none.
-/

namespace DateDisplay

/-- A number that fits its word names a month when it is one of twelve. -/
theorem CalendarDate.monthOfNumber?_ofNat {number : Nat} (small : number < 0x100000000) :
    monthOfNumber? (.ofNat number) =
      if 1 ≤ number ∧ number ≤ 12 then some (.ofNat (number - 1)) else none := by
  have inYear : (1 ≤ UInt32.ofNat number ∧ UInt32.ofNat number ≤ 12) ↔
      1 ≤ number ∧ number ≤ 12 := by
    simp [UInt32.le_iff_toNat_le, Nat.mod_eq_of_lt small]
  rw [monthOfNumber?]
  by_cases named : 1 ≤ number ∧ number ≤ 12
  · rw [if_pos named, if_pos (inYear.2 named), UInt32.ofNat_sub named.1]
    rfl
  · rw [if_neg named, if_neg (mt inYear.1 named)]

namespace Pattern

variable {pattern : Pattern} {room : DateField → Nat} {text : Text} {pieces : List Segment}

/-! ## Dividing digits among fields -/

/-- Pieces that fill the room of their fields, except that the last may be shorter. -/
inductive Fills (room : DateField → Nat) : List Segment → Prop where
  | last {field : DateField} {piece : Text} (nonempty : piece ≠ [])
      (fits : piece.length ≤ room field) : Fills room [(field, piece)]
  | cons {field : DateField} {piece : Text} {pieces : List Segment}
      (full : piece.length = room field) (rest : Fills room pieces) :
      Fills room ((field, piece) :: pieces)

theorem Fills.ne_nil (filled : Fills room pieces) : pieces ≠ [] := by
  cases filled <;> exact List.cons_ne_nil _ _

/-- Where every field has room, every piece has a character. -/
theorem Fills.forall_ne_nil (positive : ∀ field, 0 < room field) (filled : Fills room pieces) :
    ∀ segment ∈ pieces, segment.2 ≠ [] := by
  induction filled with
  | last nonempty _ =>
      intro segment member
      rw [List.mem_singleton.1 member]
      exact nonempty
  | @cons field piece pieces full _ ih =>
      intro segment member
      cases List.mem_cons.1 member with
      | inl here =>
          rw [here]
          apply List.ne_nil_of_length_pos
          rw [full]
          exact positive field
      | inr there => exact ih segment there

theorem Fills.length_le (filled : Fills room pieces) {field : DateField} {piece : Text}
    (member : (field, piece) ∈ pieces) : piece.length ≤ room field := by
  induction filled with
  | last _ fits =>
      cases List.mem_singleton.1 member
      exact fits
  | cons full _ ih =>
      cases List.mem_cons.1 member with
      | inl here =>
          cases here
          exact Nat.le_of_eq full
      | inr there => exact ih there

/-- Pieces that fill their fields are found again by cutting. -/
theorem Fills.cut_eq_some (filled : Fills room pieces) :
    cut ((pieces.map Prod.fst).map fun field => (field, room field))
      (pieces.map Prod.snd).flatten = some pieces := by
  induction filled with
  | last _ fits => simp [cut, List.take_of_length_le fits, List.drop_eq_nil_of_le fits]
  | cons full _ ih =>
      simp only [List.map_cons, List.flatten_cons, cut, List.drop_left' full,
        List.take_left' full, ih, Option.map_some]

/-- Cutting fills the fields unless it leaves one of them empty. -/
theorem fills_of_cut {fields : List DateField} (present : pieces ≠ [])
    (inked : ∀ segment ∈ pieces, segment.2 ≠ [])
    (found : cut (fields.map fun field => (field, room field)) text = some pieces) :
    Fills room pieces := by
  induction fields generalizing text pieces with
  | nil =>
      have fields := map_fst_cut found
      exact absurd (List.map_eq_nil_iff.1 fields) present
  | cons field fields ih =>
      obtain ⟨rest, restFound, same⟩ := Option.map_eq_some_iff.1 found
      subst same
      have headInked : text.take (room field) ≠ [] := inked (field, _) List.mem_cons_self
      have restInked : ∀ segment ∈ rest, segment.2 ≠ [] := fun segment member =>
        inked segment (List.mem_cons_of_mem _ member)
      cases rest with
      | nil => exact .last headInked (List.length_take_le _ _)
      | cons next others =>
          have restFills : Fills room (next :: others) :=
            ih (List.cons_ne_nil _ _) restInked restFound
          have left : text.drop (room field) ≠ [] := by
            rw [← flatten_cut restFound]
            simp [restInked next List.mem_cons_self]
          have longer : room field < text.length :=
            Nat.lt_of_not_le (mt List.drop_eq_nil_of_le left)
          exact .cons (List.length_take_of_le (Nat.le_of_lt longer)) restFills

/-- Divided digits are more than all fields but the last have room for, and no more than all
of them have. -/
theorem Fills.length_bounds (filled : Fills room pieces) :
    ((pieces.map Prod.fst).dropLast.map room).sum < (pieces.map Prod.snd).flatten.length ∧
      (pieces.map Prod.snd).flatten.length ≤ ((pieces.map Prod.fst).map room).sum := by
  induction filled with
  | last nonempty fits => simpa [List.length_pos_iff] using ⟨nonempty, fits⟩
  | @cons field piece pieces full filled ih =>
      have more : pieces.map Prod.fst ≠ [] := mt List.map_eq_nil_iff.1 filled.ne_nil
      simp only [List.map_cons, List.dropLast_cons_of_ne_nil more, List.sum_cons,
        List.flatten_cons, List.length_append, full]
      omega

/-- So many digits can be divided. -/
theorem exists_fills_of_length {fields : List DateField}
    (more : (fields.dropLast.map room).sum < text.length)
    (fits : text.length ≤ (fields.map room).sum) :
    ∃ pieces : List Segment, pieces.map Prod.fst = fields ∧
      (pieces.map Prod.snd).flatten = text ∧ Fills room pieces := by
  induction fields generalizing text with
  | nil => exact absurd more (Nat.not_lt.2 fits)
  | cons field fields ih =>
      cases fields with
      | nil =>
          refine ⟨[(field, text)], rfl, List.append_nil text, .last ?_ fits⟩
          exact List.length_pos_iff.1 more
      | cons next others =>
          -- The first field takes all it has room for, and the rest is divided in turn.
          simp only [List.dropLast_cons_cons, List.map_cons, List.sum_cons] at more fits ih
          have full : room field ≤ text.length := by omega
          have restDivided := @ih (text.drop (room field))
          rw [List.length_drop] at restDivided
          obtain ⟨pieces, sameFields, joined, filled⟩ := restDivided (by omega) (by omega)
          refine ⟨(field, text.take (room field)) :: pieces, ?_, ?_, ?_⟩
          · rw [List.map_cons, sameFields]
          · rw [List.map_cons, List.flatten_cons, joined, List.take_append_drop]
          · exact .cons (List.length_take_of_le full) filled

/-! ## The fields that digits tell -/

/-- The number of digits from which on a packed text tells a field. -/
def leastDigits : DateField → Nat
  | .day => 1
  | .month => 3
  | .year => 5

/-- The fields that this many digits tell, in the order of the pattern. -/
def fieldsTold (pattern : Pattern) (length : Nat) : List DateField :=
  pattern.order.toList.filter fun field => leastDigits field ≤ length

/-- How many digits a field has room for in a text of this many.  Eight digits have room for
a full year, even where the pattern shows a short one. -/
def digitRoom (pattern : Pattern) (length : Nat) : DateField → Nat
  | .year => if pattern.year = .full ∨ length = 8 then 4 else 2
  | _ => 2

/-- The pieces in which a packed text gives its fields their digits. -/
structure Slices (pattern : Pattern) (text : Text) (pieces : List Segment) : Prop where
  fields : pieces.map Prod.fst = pattern.fieldsTold text.length
  joined : (pieces.map Prod.snd).flatten = text
  filled : Fills (pattern.digitRoom text.length) pieces

/-- The width of the rightmost field. -/
def lastWidth (pattern : Pattern) : Nat :=
  pattern.width (pattern.order.toList.getLastD .year)

/-- The lengths of packed texts: up to four digits, as many as leave no field but the last
short of its width, and with a short year also the eight digits of a full one. -/
def AllowsLength (pattern : Pattern) (length : Nat) : Prop :=
  length ≤ 4 ∨
    (pattern.packedWidth - pattern.lastWidth < length ∧ length ≤ pattern.packedWidth) ∨
    (pattern.year = .short ∧ length = 8)

instance (pattern : Pattern) (length : Nat) : Decidable (pattern.AllowsLength length) :=
  inferInstanceAs (Decidable (_ ∨ _))

theorem fieldsTold_of_le_two {length : Nat} (positive : 0 < length) (short : length ≤ 2) :
    pattern.fieldsTold length = [.day] := by
  have month : ¬ 3 ≤ length := by omega
  have year : ¬ 5 ≤ length := by omega
  have day : 1 ≤ length := positive
  unfold fieldsTold
  cases pattern.order <;> simp [FieldOrder.toList, leastDigits, day, month, year]

theorem fieldsTold_of_le_four {length : Nat} (long : 2 < length) (short : length ≤ 4) :
    pattern.fieldsTold length = pattern.dayAndMonth := by
  have month : 3 ≤ length := long
  have year : ¬ 5 ≤ length := by omega
  have day : 1 ≤ length := by omega
  unfold fieldsTold dayAndMonth
  cases pattern.order <;> simp [FieldOrder.toList, leastDigits, day, month, year]

theorem fieldsTold_of_four_lt {length : Nat} (long : 4 < length) :
    pattern.fieldsTold length = pattern.order.toList := by
  apply List.filter_eq_self.2
  intro field _
  apply decide_eq_true
  cases field <;> simp only [leastDigits] <;> omega

theorem fieldsOfLength_eq_fieldsTold {length : Nat} (positive : 0 < length) :
    pattern.fieldsOfLength length = pattern.fieldsTold length := by
  rw [fieldsOfLength]
  split
  · rename_i short
    rw [fieldsTold_of_le_two positive short]
  · rename_i long
    split
    · rename_i short
      rw [fieldsTold_of_le_four (Nat.lt_of_not_le long) short]
    · rename_i longer
      rw [fieldsTold_of_four_lt (Nat.lt_of_not_le longer)]

theorem sliceWidth_eq_digitRoom (pattern : Pattern) (length : Nat) :
    pattern.sliceWidth length = pattern.digitRoom length := by
  have wide := pattern.packedWidth_eq
  funext field
  cases century : pattern.century <;> rw [century] at wide <;>
    cases field <;> simp [sliceWidth, digitRoom, width, year, century, wide]

/-- Every field has room for a digit, and none for more than four. -/
theorem digitRoom_bounds (pattern : Pattern) (length : Nat) (field : DateField) :
    0 < pattern.digitRoom length field ∧ pattern.digitRoom length field ≤ 4 := by
  cases field with
  | year =>
      rw [digitRoom]
      split <;> decide
  | _ => simp [digitRoom]

/-! ## The slices of a text -/

/-- The segments of a text, none of them empty, are its slices. -/
theorem slice_eq_some_iff_slices (nonempty : text ≠ []) :
    (pattern.slice text = some pieces ∧ ∀ segment ∈ pieces, segment.2 ≠ []) ↔
      text.all Text.isAscii = true ∧ pattern.Slices text pieces := by
  have fields : pattern.fieldsOfLength text.length = pattern.fieldsTold text.length :=
    fieldsOfLength_eq_fieldsTold (List.length_pos_iff.2 nonempty)
  rw [slice, Option.ite_none_right_eq_some, sliceWidth_eq_digitRoom, fields]
  constructor
  · intro found
    obtain ⟨⟨ascii, found⟩, inked⟩ := found
    have joined := flatten_cut found
    have present : pieces ≠ [] := by
      intro empty
      rw [empty] at joined
      exact nonempty joined.symm
    have told := map_fst_cut found
    rw [List.map_map, Function.comp_def, List.map_id'] at told
    exact ⟨ascii, told, joined, fills_of_cut present inked found⟩
  · intro sliced
    obtain ⟨ascii, slices⟩ := sliced
    have found := slices.filled.cut_eq_some
    rw [slices.fields, slices.joined] at found
    exact ⟨⟨ascii, found⟩, slices.filled.forall_ne_nil fun field =>
      (pattern.digitRoom_bounds _ field).1⟩

/-- A text has no other slices. -/
theorem Slices.unique {other : List Segment} (slices : pattern.Slices text pieces)
    (otherSlices : pattern.Slices text other) : pieces = other := by
  have found := slices.filled.cut_eq_some
  have otherFound := otherSlices.filled.cut_eq_some
  rw [slices.fields, slices.joined] at found
  rw [otherSlices.fields, otherSlices.joined, found] at otherFound
  exact Option.some.inj otherFound

theorem Slices.nodup (slices : pattern.Slices text pieces) :
    (pieces.map Prod.fst).Nodup := by
  rw [slices.fields]
  exact pattern.order.nodup_toList.filter _

/-- The room of the fields told bounds the lengths that the pattern allows. -/
theorem allowsLength_iff_sum {length : Nat} (positive : 0 < length) :
    pattern.AllowsLength length ↔
      (((pattern.fieldsTold length).dropLast.map (pattern.digitRoom length)).sum < length ∧
        length ≤ ((pattern.fieldsTold length).map (pattern.digitRoom length)).sum) := by
  rw [AllowsLength]
  by_cases day : length ≤ 2
  · rw [fieldsTold_of_le_two positive day]
    simp [digitRoom]
    omega
  · by_cases month : length ≤ 4
    · rw [fieldsTold_of_le_four (by omega) month, dayAndMonth]
      cases pattern.order <;> simp [FieldOrder.toList, digitRoom] <;> omega
    · rw [fieldsTold_of_four_lt (by omega), packedWidth_eq, lastWidth]
      by_cases eight : length = 8
      · rw [eight]
        cases pattern.order <;> cases century : pattern.century <;>
          simp [FieldOrder.toList, digitRoom, width, year, century]
      · cases pattern.order <;> cases century : pattern.century <;>
          simp [FieldOrder.toList, digitRoom, width, year, century, eight] <;> omega

/-- There are slices at exactly the lengths that the pattern allows. -/
theorem exists_slices_iff (nonempty : text ≠ []) :
    (∃ pieces, pattern.Slices text pieces) ↔ pattern.AllowsLength text.length := by
  rw [allowsLength_iff_sum (List.length_pos_iff.2 nonempty)]
  constructor
  · intro sliced
    obtain ⟨pieces, slices⟩ := sliced
    have bounds := slices.filled.length_bounds
    rwa [slices.fields, slices.joined] at bounds
  · intro bounds
    obtain ⟨pieces, fields, joined, filled⟩ := exists_fills_of_length bounds.1 bounds.2
    exact ⟨pieces, fields, joined, filled⟩

/-! ## Packed numbers -/

/-- What a packed text with a month number is: as many digits as the pattern allows, those of
the month, where there are any, naming one of twelve. -/
structure IsPackedDate (pattern : Pattern) (text : Text) : Prop where
  digits : text.all Char.isDigit = true
  length : pattern.AllowsLength text.length
  month : ∀ pieces piece, pattern.Slices text pieces → (.month, piece) ∈ pieces →
    1 ≤ Decimal.number piece ∧ Decimal.number piece ≤ 12

/-- The year that a typed number stands for. -/
def typedYear (pattern : Pattern) (number : Nat) : Int32 :=
  pattern.century.elim (.ofInt number) fun window => window.resolve (.ofInt number)

/-- The date that slices tell on a reference day, which keeps its fields without a slice.  No
slice has more than four digits, so that every number fits its word. -/
def toldDate (pattern : Pattern) (day : CalendarDate) (pieces : List Segment) :
    CalendarDate where
  day := (pieces.lookup .day).elim day.day fun piece => .ofNat (Decimal.number piece)
  month := (pieces.lookup .month).elim day.month fun piece =>
    .ofNat (Decimal.number piece - 1)
  year := (pieces.lookup .year).elim day.year fun piece =>
    pattern.typedYear (Decimal.number piece)

end Pattern

namespace PatternCodec

variable {codec : PatternCodec} {context : Context} {text : Text} {date : CalendarDate}
  {pieces : List Pattern.Segment}

theorem readYear?_of_digits (nonempty : text ≠ []) (digits : text.all Char.isDigit = true)
    (short : text.length ≤ 4) :
    codec.readYear? text = some (codec.pattern.typedYear (Decimal.number text)) := by
  rw [readYear?, Decimal.readYear?_of_digits nonempty digits short, Option.map_some,
    Pattern.typedYear]
  cases codec.pattern.century <;> rfl

/-- A text that reads as a year is made of digits. -/
theorem exists_read?_of_readYear? {year : Int32} (read : codec.readYear? text = some year) :
    ∃ value, Decimal.read? text = some value := by
  obtain ⟨typed, typedRead, -⟩ := Option.map_eq_some_iff.1 read
  exact ⟨_, Decimal.read?_of_readYear? typedRead⟩

section Numeric

variable (numeric : codec.pattern.month ≠ .name)

include numeric

theorem readMonth?_of_digits (nonempty : text ≠ []) (digits : text.all Char.isDigit = true)
    (short : text.length ≤ 4) :
    codec.readMonth? context text =
      if 1 ≤ Decimal.number text ∧ Decimal.number text ≤ 12 then
        some (.ofNat (Decimal.number text - 1))
      else none := by
  have small := Decimal.lt_of_read? (Decimal.read?_of_digits nonempty digits) short
  rw [readMonth?_of_numeric numeric, Decimal.readCount?_of_digits nonempty digits short,
    Option.bind_some, CalendarDate.monthOfNumber?_ofNat (by omega)]

theorem exists_read?_of_readMonth? {month : UInt32}
    (read : codec.readMonth? context text = some month) :
    ∃ value, Decimal.read? text = some value := by
  rw [readMonth?_of_numeric numeric] at read
  obtain ⟨count, countRead, -⟩ := Option.bind_eq_some_iff.1 read
  exact ⟨_, Decimal.read?_of_readCount? countRead⟩

variable (packed : codec.pattern.layout = .packed)

include packed

/-! ## Reading digits -/

/-- Slices of digits, the month being one of twelve, are read as the date they tell. -/
theorem read?_of_slices (nonempty : text ≠ []) (digits : text.all Char.isDigit = true)
    (slices : codec.pattern.Slices text pieces)
    (month : ∀ piece, (.month, piece) ∈ pieces →
      1 ≤ Decimal.number piece ∧ Decimal.number piece ≤ 12) :
    codec.read? context text =
      some (codec.pattern.toldDate context.reference.date pieces) := by
  have ascii : text.all Text.isAscii = true :=
    List.all_eq_true.2 fun char member =>
      Text.isAscii_of_isDigit (List.all_eq_true.1 digits char member)
  obtain ⟨found, inked⟩ :=
    (Pattern.slice_eq_some_iff_slices nonempty).2 ⟨ascii, slices⟩
  have pieceDigits : ∀ segment ∈ pieces, segment.2.all Char.isDigit = true := by
    intro segment member
    apply List.all_eq_true.2
    intro char inPiece
    apply List.all_eq_true.1 digits
    rw [← slices.joined]
    exact List.mem_flatten_of_mem (List.mem_map_of_mem member) inPiece
  have short : ∀ segment ∈ pieces, segment.2.length ≤ 4 := fun segment member =>
    Nat.le_trans (slices.filled.length_le member)
      (codec.pattern.digitRoom_bounds _ segment.1).2
  have dayRead : readField? pieces .day Decimal.readCount? context.reference.date.day = _ :=
    readField?_eq_some_elim fun piece member =>
      Decimal.readCount?_of_digits (inked _ member) (pieceDigits _ member) (short _ member)
  have monthRead : readField? pieces .month (codec.readMonth? context)
      context.reference.date.month = _ :=
    readField?_eq_some_elim fun piece member => by
      rw [readMonth?_of_digits numeric (inked _ member) (pieceDigits _ member)
        (short _ member), if_pos (month piece member)]
  have yearRead : readField? pieces .year codec.readYear? context.reference.date.year = _ :=
    readField?_eq_some_elim fun piece member =>
      readYear?_of_digits (inked _ member) (pieceDigits _ member) (short _ member)
  rw [read?, segments_of_packed packed numeric, found, Option.bind_some, assemble?,
    foldlM_setField? slices.nodup, dayRead, monthRead, yearRead]
  rfl

/-- What is read is made of digits, has slices, and names a month. -/
theorem exists_slices_of_read? (nonempty : text ≠ [])
    (read : codec.read? context text = some date) :
    text.all Char.isDigit = true ∧
      ∃ pieces, codec.pattern.Slices text pieces ∧
        ∀ piece, (.month, piece) ∈ pieces →
          1 ≤ Decimal.number piece ∧ Decimal.number piece ≤ 12 := by
  obtain ⟨pieces, found, dayRead, monthRead, yearRead⟩ := exists_segments_of_read? read
  have distinct := Pattern.nodup_of_segments found
  rw [segments_of_packed packed numeric] at found
  -- Each piece is read as its field, and nothing but digits is.
  have numbers : ∀ segment ∈ pieces, ∃ value, Decimal.read? segment.2 = some value := by
    intro segment member
    obtain ⟨field, piece⟩ := segment
    cases field with
    | day =>
        rw [readField?_of_mem distinct member] at dayRead
        exact ⟨_, Decimal.read?_of_readCount? dayRead⟩
    | month =>
        rw [readField?_of_mem distinct member] at monthRead
        exact exists_read?_of_readMonth? numeric monthRead
    | year =>
        rw [readField?_of_mem distinct member] at yearRead
        exact exists_read?_of_readYear? yearRead
  have inked : ∀ segment ∈ pieces, segment.2 ≠ [] := by
    intro segment member
    obtain ⟨value, pieceRead⟩ := numbers segment member
    exact (Decimal.read?_eq_some_iff.1 pieceRead).1.1
  have pieceDigits : ∀ segment ∈ pieces, segment.2.all Char.isDigit = true := by
    intro segment member
    obtain ⟨value, pieceRead⟩ := numbers segment member
    exact (Decimal.read?_eq_some_iff.1 pieceRead).1.2
  obtain ⟨-, slices⟩ := (Pattern.slice_eq_some_iff_slices nonempty).1 ⟨found, inked⟩
  refine ⟨?_, pieces, slices, ?_⟩
  · rw [← slices.joined, List.all_flatten, List.all_map]
    exact List.all_eq_true.2 pieceDigits
  · intro piece member
    have short : piece.length ≤ 4 := Nat.le_trans (slices.filled.length_le member)
      (codec.pattern.digitRoom_bounds _ _).2
    rw [readField?_of_mem distinct member, readMonth?_of_digits numeric (inked _ member)
      (pieceDigits _ member) short, Option.ite_none_right_eq_some] at monthRead
    exact monthRead.1

/-- A text is read exactly when it is a packed date. -/
theorem exists_read?_iff (nonempty : text ≠ []) :
    (∃ date, codec.read? context text = some date) ↔ codec.pattern.IsPackedDate text := by
  constructor
  · intro wasRead
    obtain ⟨date, read⟩ := wasRead
    obtain ⟨digits, pieces, slices, month⟩ :=
      exists_slices_of_read? numeric packed nonempty read
    refine ⟨digits, (Pattern.exists_slices_iff nonempty).1 ⟨pieces, slices⟩, ?_⟩
    intro other piece otherSlices member
    rw [otherSlices.unique slices] at member
    exact month piece member
  · intro isDate
    obtain ⟨pieces, slices⟩ := (Pattern.exists_slices_iff nonempty).2 isDate.length
    exact ⟨_, read?_of_slices numeric packed nonempty isDate.digits slices
      fun piece => isDate.month pieces piece slices⟩

end Numeric

/-- A packed pattern with a month number reads the texts that are nothing but digits, as many
as it allows, with a month of the year among them; every other text that shows something is
invalid.  The fields that so many digits tell are those of consecutive slices that leave
nothing over, and the rest are those of the reference day. -/
theorem parse_of_packed_digits (packed : codec.pattern.layout = .packed)
    (numeric : codec.pattern.month ≠ .name) (context : Context)
    (nonempty : Text.trim text ≠ []) :
    ((∃ date, codec.parse context text = .parsed date) ↔
      codec.pattern.IsPackedDate (Text.trim text)) ∧
    (¬ codec.pattern.IsPackedDate (Text.trim text) →
      codec.parse context text = .invalid) ∧
    ∀ date, codec.parse context text = .parsed date →
      ∃ pieces, codec.pattern.Slices (Text.trim text) pieces ∧
        date = codec.pattern.toldDate context.reference.date pieces := by
  have parsedIff : ∀ date, codec.parse context text = .parsed date ↔
      codec.read? context (Text.trim text) = some date := by
    intro date
    rw [parse_eq_parsed_iff]
    exact ⟨And.right, fun read => ⟨nonempty, read⟩⟩
  have isDateIff := @exists_read?_iff codec context _ numeric packed nonempty
  refine ⟨?_, ?_, ?_⟩
  · rw [← isDateIff]
    exact exists_congr parsedIff
  · intro other
    have unread : codec.read? context (Text.trim text) = none := by
      rw [Option.eq_none_iff_forall_ne_some]
      intro date read
      exact other (isDateIff.1 ⟨date, read⟩)
    simp only [parse, if_neg nonempty, unread]
  · intro date parsed
    have read := (parsedIff date).1 parsed
    obtain ⟨digits, pieces, slices, month⟩ :=
      exists_slices_of_read? numeric packed nonempty read
    rw [read?_of_slices numeric packed nonempty digits slices month] at read
    exact ⟨pieces, slices, (Option.some.inj read).symm⟩

/-- A short year typed in full is read with blanks around it; a digit less leaves no way to
divide the digits. -/
theorem parse_of_packed_digits_eight_and_seven :
    let short : Pattern :=
      ⟨"_d_M0y".toList, .packed, .dayMonthYear, .bare, .bare, some {}⟩
    let context : Context := ⟨⟨⟨2013, 1, 12⟩, by decide⟩, none⟩
    short.layout = .packed ∧ short.month ≠ .name ∧
      (Text.trim " 05032024 ".toList ≠ [] ∧ short.IsPackedDate "05032024".toList ∧
        ∃ pieces, short.Slices "05032024".toList pieces ∧
          ⟨2024, 2, 5⟩ = short.toldDate context.reference.date pieces) ∧
      Text.trim "0503202".toList ≠ [] ∧
        parse ⟨short, []⟩ context "0503202".toList = .invalid := by
  intro short context
  have read : parse ⟨short, []⟩ context " 05032024 ".toList = .parsed ⟨2024, 2, 5⟩ := by
    decide
  have whole := @parse_of_packed_digits ⟨short, []⟩ " 05032024 ".toList rfl (by decide)
    context (by decide)
  refine ⟨rfl, by decide, ⟨by decide, ?_, ?_⟩, by decide, ?_⟩
  · exact whole.1.1 ⟨_, read⟩
  · exact whole.2.2 _ read
  · apply (@parse_of_packed_digits ⟨short, []⟩ "0503202".toList rfl (by decide)
      context (by decide)).2.1
    intro isDate
    exact absurd isDate.length (by decide)

end PatternCodec

end DateDisplay
