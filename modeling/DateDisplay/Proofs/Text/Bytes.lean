import DateDisplay.Text.Basic

/-!
# Texts in bytes

In UTF-8 a character takes one to four bytes.  A place in a text can therefore be given as a
number of bytes, but only some of these numbers are places: one inside a character is not, and
neither is one past the end.  Cutting a text at a number of bytes succeeds at its places alone.
-/

namespace DateDisplay.Text

/-- The number of bytes of a text. -/
def byteLength (text : Text) : Nat :=
  (String.ofList text).utf8ByteSize

/-- A number of bytes after which a character of the text begins, or the text ends. -/
def IsBoundary (text : Text) (offset : Nat) : Prop :=
  String.Pos.Raw.IsValid (String.ofList text) ⟨offset⟩

variable {text front back : Text} {offset start stop : Nat}

@[simp] theorem byteLength_nil : byteLength [] = 0 := by
  simp [byteLength]

@[simp] theorem byteLength_append (left right : Text) :
    byteLength (left ++ right) = byteLength left + byteLength right := by
  rw [byteLength, String.ofList_append, String.utf8ByteSize_append]
  rfl

@[simp] theorem byteLength_cons (char : Char) (text : Text) :
    byteLength (char :: text) = char.utf8Size + byteLength text := by
  have single : byteLength [char] = char.utf8Size := by
    rw [byteLength, ← String.singleton_eq_ofList, String.utf8ByteSize_singleton]
  rw [← single, ← byteLength_append]
  rfl

/-- Where only ASCII characters stand, bytes are counted like characters. -/
theorem byteLength_of_ascii (ascii : ∀ char ∈ text, isAscii char = true) :
    byteLength text = text.length := by
  induction text with
  | nil => exact byteLength_nil
  | cons char text ih =>
      have small : char.toNat < 0x80 := by
        simpa [isAscii] using ascii char List.mem_cons_self
      have one : char.utf8Size = 1 := by
        rw [Char.utf8Size_eq_one_iff, UInt32.le_iff_toNat_le]
        exact Nat.le_of_lt_succ small
      rw [byteLength_cons, one, List.length_cons, Nat.add_comm,
        ih fun other member => ascii other (List.mem_cons_of_mem _ member)]

/-- A boundary parts the text in two. -/
theorem isBoundary_iff :
    IsBoundary text offset ↔ ∃ front back, text = front ++ back ∧ offset = byteLength front := by
  rw [IsBoundary, String.Pos.Raw.isValid_ofList]
  constructor
  · rintro ⟨count, same⟩
    exact ⟨text.take count, text.drop count, (List.take_append_drop count text).symm, same⟩
  · rintro ⟨front, back, rfl, same⟩
    refine ⟨front.length, ?_⟩
    rw [List.take_left' rfl]
    exact same

theorem isBoundary_append (front back : Text) : IsBoundary (front ++ back) (byteLength front) :=
  isBoundary_iff.2 ⟨front, back, rfl, rfl⟩

theorem IsBoundary.le (boundary : IsBoundary text offset) : offset ≤ byteLength text := by
  obtain ⟨front, back, rfl, rfl⟩ := isBoundary_iff.1 boundary
  rw [byteLength_append]
  exact Nat.le_add_right _ _

/-! ## Cutting -/

/-- The parts of a text before and behind a boundary. -/
def splitAtByte? : (offset : Nat) → Text → Option (Text × Text)
  | 0, text => some ([], text)
  | _ + 1, [] => none
  | offset + 1, char :: rest =>
      if char.utf8Size ≤ offset + 1 then
        (splitAtByte? (offset + 1 - char.utf8Size) rest).map fun parts =>
          (char :: parts.1, parts.2)
      else none

/-- The text from one boundary to another that is not before it. -/
def between? (start stop : Nat) (text : Text) : Option Text := do
  let upToStop ← splitAtByte? stop text
  let fromStart ← splitAtByte? start upToStop.1
  some fromStart.2

/-- Only the text without characters takes no bytes. -/
theorem byteLength_eq_zero_iff : byteLength text = 0 ↔ text = [] := by
  cases text with
  | nil => simp
  | cons char text =>
      have positive := char.utf8Size_pos
      simp only [byteLength_cons, reduceCtorEq, iff_false]
      omega

theorem splitAtByte?_zero (text : Text) : splitAtByte? 0 text = some ([], text) := by
  cases text <;> rfl

/-- Characters are passed as long as the offset lies behind them. -/
theorem splitAtByte?_cons {char : Char} (positive : 0 < offset) :
    splitAtByte? offset (char :: text) =
      if char.utf8Size ≤ offset then
        (splitAtByte? (offset - char.utf8Size) text).map fun parts =>
          (char :: parts.1, parts.2)
      else none := by
  cases offset with
  | zero => exact absurd positive (Nat.lt_irrefl 0)
  | succ offset => rfl

/-- A text can be split behind every front of it. -/
theorem splitAtByte?_append (front back : Text) :
    splitAtByte? (byteLength front) (front ++ back) = some (front, back) := by
  induction front with
  | nil => exact splitAtByte?_zero back
  | cons char front ih =>
      have positive : 0 < char.utf8Size + byteLength front :=
        Nat.add_pos_left char.utf8Size_pos _
      rw [byteLength_cons, List.cons_append, splitAtByte?_cons positive,
        if_pos (Nat.le_add_right _ _), Nat.add_sub_cancel_left, ih]
      rfl

/-- Splitting succeeds at boundaries alone, and nothing is lost. -/
theorem splitAtByte?_eq_some_iff :
    splitAtByte? offset text = some (front, back) ↔
      text = front ++ back ∧ offset = byteLength front := by
  constructor
  · intro split
    induction text generalizing offset front with
    | nil =>
        cases offset with
        | zero =>
            cases split
            exact ⟨rfl, byteLength_nil.symm⟩
        | succ offset => cases split
    | cons char text ih =>
        cases Nat.eq_zero_or_pos offset with
        | inl zero =>
            rw [zero, splitAtByte?_zero] at split
            cases split
            exact ⟨rfl, zero.trans byteLength_nil.symm⟩
        | inr positive =>
            rw [splitAtByte?_cons positive, Option.ite_none_right_eq_some] at split
            obtain ⟨reaches, split⟩ := split
            obtain ⟨⟨rest, behind⟩, found, same⟩ := Option.map_eq_some_iff.1 split
            cases same
            obtain ⟨whole, length⟩ := ih found
            rw [byteLength_cons, whole, ← length]
            exact ⟨rfl, (Nat.add_sub_cancel' reaches).symm⟩
  · rintro ⟨rfl, rfl⟩
    exact splitAtByte?_append front back

/-- Splitting fails inside a character and past the end. -/
theorem isSome_splitAtByte?_iff :
    (splitAtByte? offset text).isSome = true ↔ IsBoundary text offset := by
  rw [Option.isSome_iff_exists, isBoundary_iff]
  constructor
  · rintro ⟨⟨front, back⟩, split⟩
    exact ⟨front, back, splitAtByte?_eq_some_iff.1 split⟩
  · rintro ⟨front, back, parts⟩
    exact ⟨(front, back), splitAtByte?_eq_some_iff.2 parts⟩

/-- What is cut out of a text stands in it from the one offset to the other. -/
theorem between?_append (before piece behind : Text) :
    between? (byteLength before) (byteLength before + byteLength piece)
      (before ++ (piece ++ behind)) = some piece := by
  have upToStop : splitAtByte? (byteLength before + byteLength piece)
      (before ++ (piece ++ behind)) = some (before ++ piece, behind) := by
    rw [← byteLength_append, ← List.append_assoc]
    exact splitAtByte?_append _ _
  rw [between?, upToStop]
  simp [splitAtByte?_append]

/-- Cutting out succeeds from one boundary to another that is not before it. -/
theorem isSome_between?_iff :
    (between? start stop text).isSome = true ↔
      start ≤ stop ∧ IsBoundary text start ∧ IsBoundary text stop := by
  rw [Option.isSome_iff_exists]
  constructor
  · rintro ⟨piece, cut⟩
    obtain ⟨⟨front, back⟩, upToStop, cut⟩ := Option.bind_eq_some_iff.1 cut
    obtain ⟨⟨before, rest⟩, fromStart, -⟩ := Option.bind_eq_some_iff.1 cut
    obtain ⟨rfl, rfl⟩ := splitAtByte?_eq_some_iff.1 upToStop
    obtain ⟨rfl, rfl⟩ := splitAtByte?_eq_some_iff.1 fromStart
    rw [List.append_assoc]
    refine ⟨?_, isBoundary_append before _, ?_⟩
    · rw [byteLength_append]
      exact Nat.le_add_right _ _
    · rw [← List.append_assoc]
      exact isBoundary_append _ back
  · rintro ⟨ordered, atStart, atStop⟩
    obtain ⟨before, rest, rfl, rfl⟩ := isBoundary_iff.1 atStart
    obtain ⟨front, back, whole, rfl⟩ := isBoundary_iff.1 atStop
    obtain ⟨piece, rfl⟩ : before <+: front := by
      rcases List.prefix_or_prefix_of_prefix (List.prefix_append before rest)
        (whole ▸ List.prefix_append front back) with shorter | ⟨more, rfl⟩
      · exact shorter
      · -- The front that is longer in characters is not longer in bytes.
        have none : byteLength more = 0 := by
          rw [byteLength_append] at ordered
          omega
        obtain rfl := byteLength_eq_zero_iff.1 none
        exact ⟨[], by rw [List.append_nil, List.append_nil]⟩
    rw [whole, List.append_assoc, byteLength_append]
    exact ⟨piece, between?_append before piece back⟩

/-- Where only ASCII characters stand, a text is cut out as if its characters were counted. -/
theorem between?_of_ascii (ascii : ∀ char ∈ text, isAscii char = true) (ordered : start ≤ stop)
    (within : stop ≤ text.length) :
    between? start stop text = some ((text.drop start).take (stop - start)) := by
  have before : byteLength (text.take start) = start := by
    rw [byteLength_of_ascii fun char member => ascii char (List.mem_of_mem_take member),
      List.length_take, Nat.min_eq_left (Nat.le_trans ordered within)]
  have piece : byteLength ((text.drop start).take (stop - start)) = stop - start := by
    rw [byteLength_of_ascii fun char member =>
        ascii char (List.mem_of_mem_drop (List.mem_of_mem_take member)),
      List.length_take, List.length_drop, Nat.min_eq_left (Nat.sub_le_sub_right within start)]
  have cut := between?_append (text.take start) ((text.drop start).take (stop - start))
    ((text.drop start).drop (stop - start))
  rwa [List.take_append_drop, List.take_append_drop, before, piece,
    Nat.add_sub_cancel' ordered] at cut

/-! ## Searching -/

/-- How many bytes stand before the first character of a kind. -/
def findByte? (wanted : Char → Bool) : Text → Option Nat
  | [] => none
  | char :: rest =>
      if wanted char then some 0
      else (findByte? wanted rest).map fun offset => char.utf8Size + offset

/-- A run of characters of a kind takes all the bytes before the first other character. -/
theorem getD_findByte? (kind : Char → Bool) (text : Text) :
    (findByte? (fun char => !kind char) text).getD (byteLength text) =
      byteLength (text.takeWhile kind) := by
  induction text with
  | nil => rfl
  | cons char text ih =>
      by_cases member : kind char = true
      · rw [List.takeWhile_cons_of_pos member, byteLength_cons, byteLength_cons, ← ih]
        cases found : findByte? (fun char => !kind char) text <;>
          simp [findByte?, member, found]
      · rw [List.takeWhile_cons_of_neg member]
        simp [findByte?, member]

end DateDisplay.Text
