import DateDisplay.Proofs.Pattern.Spelling

/-!
# Reading the parts of a pattern text

A text of one of the four lengths has one outline.  The fields read from an
outline are those whose tokens stand in its slots; where no fields are read, the
slots have a fault, and it is the one reported.
-/

namespace DateDisplay

/-! ## Steps that may fail -/

section Steps

variable {ε α β : Type} {step : Except ε α} {next : α → Except ε β}

theorem bind_eq_ok_iff {result : β} :
    (step >>= next) = .ok result ↔
      ∃ value, step = .ok value ∧ next value = .ok result := by
  cases step <;> simp [bind, Except.bind]

theorem bind_eq_error_iff {fault : ε} :
    (step >>= next) = .error fault ↔
      step = .error fault ∨ ∃ value, step = .ok value ∧ next value = .error fault := by
  cases step <;> simp [bind, Except.bind]

end Steps

namespace Pattern

/-! ## Taking a text apart -/

theorem Divides.suffix_nil_or_five {raw slots suffix : Text} {separator : Option Char}
    (divides : Divides raw separator slots suffix) :
    suffix = [] ∨ suffix.length = 5 := by
  rcases divides with ⟨rfl, length_raw, length_slots, separator_iff, -⟩
  rw [← List.length_eq_zero_iff]
  simp only [List.length_append, length_slots, List.mem_cons, List.not_mem_nil,
    or_false] at length_raw separator_iff
  cases separator <;>
    simp only [Option.toList, Option.isSome, List.length_cons, List.length_nil,
      Bool.false_eq_true, true_iff, false_iff] at length_raw separator_iff <;>
    omega

namespace Outline

/-- The characters where the tokens stand. -/
def slots (outline : Outline) : Text :=
  [outline.first.1, outline.first.2, outline.second.1, outline.second.2,
    outline.third.1, outline.third.2]

/-- The length of a text leaves no choice of an outline. -/
theorem ofText_eq_ok_iff {raw : Text} {outline : Outline} :
    ofText raw = .ok outline ↔
      Divides raw outline.layout.separator? outline.slots outline.suffix := by
  constructor
  · intro result
    unfold ofText at result
    split at result <;> cases result <;>
      exact ⟨rfl, by simp, rfl, by simp [Layout.separator?], by simp⟩
  · intro divides
    have suffixLength := divides.suffix_nil_or_five
    rcases outline with ⟨layout, ⟨a, b⟩, ⟨c, d⟩, ⟨e, f⟩, suffix⟩
    rw [divides.raw_eq]
    rcases suffixLength with rfl | five
    · cases layout <;> rfl
    · match suffix, five with
      | [s, t, u, v, w], _ => cases layout <;> rfl

/-- A text of one of the four lengths has an outline. -/
theorem exists_ofText_eq_ok {raw : Text} (length : raw.length ∈ [6, 7, 11, 12]) :
    ∃ outline, ofText raw = .ok outline := by
  simp only [List.mem_cons, List.not_mem_nil, or_false] at length
  rcases length with six | seven | eleven | twelve
  · match raw, six with
    | [_, _, _, _, _, _], _ => exact ⟨_, rfl⟩
  · match raw, seven with
    | [_, _, _, _, _, _, _], _ => exact ⟨_, rfl⟩
  · match raw, eleven with
    | [_, _, _, _, _, _, _, _, _, _, _], _ => exact ⟨_, rfl⟩
  · match raw, twelve with
    | [_, _, _, _, _, _, _, _, _, _, _, _], _ => exact ⟨_, rfl⟩

theorem ofText_eq_error_iff {raw : Text} {fault : PatternFault} :
    ofText raw = .error fault ↔
      (raw = [] ∧ fault = .empty) ∨
        (raw ≠ [] ∧ raw.length ∉ [6, 7, 11, 12] ∧ fault = .invalidLength raw.length) := by
  constructor
  · intro result
    have length : raw.length ∉ [6, 7, 11, 12] := by
      intro length
      rcases exists_ofText_eq_ok length with ⟨outline, outlined⟩
      rw [result] at outlined
      cases outlined
    unfold ofText at result
    split at result <;> cases result
    · exact .inl ⟨rfl, rfl⟩
    · rename_i nonempty _ _ _ _
      exact .inr ⟨nonempty, length, rfl⟩
  · rintro (⟨rfl, rfl⟩ | ⟨nonempty, length, rfl⟩)
    · rfl
    · unfold ofText
      split
      · exact absurd rfl nonempty
      · simp at length
      · simp at length
      · simp at length
      · simp at length
      · rfl

end Outline

/-! ## Reading the tokens -/

namespace Token

/-- A token is two characters long. -/
theorem exists_text_eq (token : Token) : ∃ first second, token.text = [first, second] := by
  cases token with
  | day style => cases style <;> exact ⟨_, _, rfl⟩
  | month style => cases style <;> exact ⟨_, _, rfl⟩
  | year style => cases style <;> exact ⟨_, _, rfl⟩

theorem ofChars?_eq_none_iff {first second : Char} :
    ofChars? first second = none ↔ ∀ token : Token, token.text ≠ [first, second] := by
  rw [Option.eq_none_iff_forall_ne_some]
  exact forall_congr' fun token => not_congr (ofChars?_eq_some_iff.trans eq_comm)

end Token

theorem readToken_eq_ok_iff {pair : Char × Char} {token : Token} :
    readToken pair = .ok token ↔ token.text = [pair.1, pair.2] := by
  rw [@eq_comm Text, ← Token.ofChars?_eq_some_iff, readToken]
  cases Token.ofChars? pair.1 pair.2 <;> simp

theorem readToken_eq_error_iff {pair : Char × Char} {fault : PatternFault} :
    readToken pair = .error fault ↔
      (∀ token : Token, token.text ≠ [pair.1, pair.2]) ∧
        fault = .unknownToken [pair.1, pair.2] := by
  rw [← Token.ofChars?_eq_none_iff, readToken]
  cases Token.ofChars? pair.1 pair.2 <;> simp [eq_comm]

namespace Fields

/-- Three tokens make fields exactly when they are the tokens of these fields in
their order. -/
theorem ofTokens?_eq_some_iff {first second third : Token} {fields : Fields} :
    ofTokens? first second third = some fields ↔
      fields.order.toList.map fields.token = [first, second, third] := by
  constructor
  · intro made
    unfold ofTokens? at made
    split at made <;> cases made <;> rfl
  · intro tokens
    rcases fields with ⟨order, day, month, year⟩
    cases order <;> cases tokens <;> rfl

/-- Three tokens make fields unless one of them repeats a field. -/
theorem ofTokens?_eq_none_iff {first second third : Token}
    (distinct : second.field ≠ first.field) :
    ofTokens? first second third = none ↔
      third.field ∈ [first.field, second.field] := by
  cases first <;> cases second <;> cases third <;>
    simp_all [ofTokens?, Token.field]

theorem text_eq_flatMap (fields : Fields) :
    fields.text = (fields.order.toList.map fields.token).flatMap Token.text := by
  rw [text, List.flatMap_map]

end Fields

namespace Fields

@[simp] theorem field_token (fields : Fields) (field : DateField) :
    (fields.token field).field = field := by
  cases field <;> rfl

/-- The tokens of fields name different fields. -/
theorem nodup_tokens (fields : Fields) :
    ((fields.order.toList.map fields.token).map Token.field).Nodup := by
  have identity : Token.field ∘ fields.token = id := funext fields.field_token
  rw [List.map_map, identity, List.map_id]
  exact fields.order.nodup_toList

end Fields

/-- Tokens take two characters each. -/
theorem length_flatMap_text (tokens : List Token) :
    (tokens.flatMap Token.text).length = 2 * tokens.length := by
  induction tokens with
  | nil => rfl
  | cons token tokens ih =>
      rcases token.exists_text_eq with ⟨_, _, tokenText⟩
      simp only [List.flatMap_cons, List.length_append, ih, tokenText, List.length_cons,
        List.length_nil]
      omega

section Slots

variable {outline : Outline} {first second third : Token}

/-- The characters of an outline's slots, when its tokens are known. -/
theorem Outline.slots_eq_flatMap
    (firstText : first.text = [outline.first.1, outline.first.2])
    (secondText : second.text = [outline.second.1, outline.second.2])
    (thirdText : third.text = [outline.third.1, outline.third.2]) :
    outline.slots = [first, second, third].flatMap Token.text := by
  simp [slots, firstText, secondText, thirdText]

/-- Before two characters of the slots there is room for two tokens. -/
theorem Outline.length_tokens_le {before : List Token} {char other : Char} {rest : Text}
    (slots : outline.slots = before.flatMap Token.text ++ char :: other :: rest) :
    before.length ≤ 2 := by
  have lengths := congrArg List.length slots
  simp only [Outline.slots, List.length_append, length_flatMap_text, List.length_cons,
    List.length_nil] at lengths
  omega

/-- Three known tokens, of which the first two name different fields, are left to
be put together. -/
theorem readFields_of_text_eq
    (firstText : first.text = [outline.first.1, outline.first.2])
    (secondText : second.text = [outline.second.1, outline.second.2])
    (thirdText : third.text = [outline.third.1, outline.third.2])
    (distinct : second.field ≠ first.field) :
    readFields outline =
      (Fields.ofTokens? first second third).elim (.error (.duplicateField third.field))
        .ok := by
  rw [readFields, readToken_eq_ok_iff.2 firstText, readToken_eq_ok_iff.2 secondText,
    readToken_eq_ok_iff.2 thirdText]
  cases made : Fields.ofTokens? first second third <;>
    simp [bind, Except.bind, distinct, made] <;> rfl

end Slots

/-- The fields read are those whose tokens stand in the slots. -/
theorem readFields_eq_ok_iff {outline : Outline} {fields : Fields} :
    readFields outline = .ok fields ↔ outline.slots = fields.text := by
  constructor
  · intro result
    simp only [readFields, bind_eq_ok_iff, readToken_eq_ok_iff] at result
    rcases result with ⟨first, firstText, second, secondText, rest⟩
    split at rest
    · cases rest
    · simp only [bind_eq_ok_iff, readToken_eq_ok_iff] at rest
      rcases rest with ⟨third, thirdText, rest⟩
      split at rest
      · rename_i made
        cases rest
        rw [Outline.slots_eq_flatMap firstText secondText thirdText,
          Fields.text_eq_flatMap, Fields.ofTokens?_eq_some_iff.1 made]
      · cases rest
  · intro slots
    obtain ⟨first, second, third, tokens⟩ : ∃ first second third,
        fields.order.toList.map fields.token = [first, second, third] := by
      rcases fields with ⟨order, day, month, year⟩
      cases order <;> exact ⟨_, _, _, rfl⟩
    have distinct := fields.nodup_tokens
    rcases first.exists_text_eq with ⟨_, _, firstText⟩
    rcases second.exists_text_eq with ⟨_, _, secondText⟩
    rcases third.exists_text_eq with ⟨_, _, thirdText⟩
    rw [Fields.text_eq_flatMap, tokens] at slots
    simp [Outline.slots, firstText, secondText, thirdText] at slots
    rcases slots with ⟨rfl, rfl, rfl, rfl, rfl, rfl⟩
    simp [tokens] at distinct
    rw [readFields_of_text_eq firstText secondText thirdText (Ne.symm distinct.1.1),
      Fields.ofTokens?_eq_some_iff.2 tokens, Option.elim_some]

/-- Tokens that are not read have a fault. -/
theorem slotFault_of_readFields {outline : Outline} {fault : PatternFault}
    (result : readFields outline = .error fault) : SlotFault outline.slots fault := by
  simp only [readFields, bind_eq_error_iff, readToken_eq_ok_iff,
    readToken_eq_error_iff] at result
  rcases result with ⟨unknown, rfl⟩ |
    ⟨first, firstText, ⟨unknown, rfl⟩ | ⟨second, secondText, rest⟩⟩
  · exact @SlotFault.unknownToken _ [] _ _ _ rfl .nil unknown
  · exact @SlotFault.unknownToken _ [first] _ _ [outline.third.1, outline.third.2]
      (by simp [firstText, Outline.slots]) (by simp) unknown
  · split at rest
    · rename_i repeated
      cases rest
      exact @SlotFault.duplicateField _ [first] second [outline.third.1, outline.third.2]
        (by simp [firstText, secondText, Outline.slots]) (by simp) (by simp [repeated])
    · rename_i distinct
      have nodup : ([first, second].map Token.field).Nodup := by
        simpa using Ne.symm distinct
      simp only [bind_eq_error_iff, readToken_eq_ok_iff, readToken_eq_error_iff] at rest
      rcases rest with ⟨unknown, rfl⟩ | ⟨third, thirdText, rest⟩
      · exact @SlotFault.unknownToken _ [first, second] _ _ []
          (by simp [firstText, secondText, Outline.slots]) nodup unknown
      · split at rest
        · cases rest
        · rename_i notMade
          cases rest
          exact @SlotFault.duplicateField _ [first, second] third []
            (by simp [firstText, secondText, thirdText, Outline.slots]) nodup
            ((Fields.ofTokens?_eq_none_iff distinct).1 notMade)

/-- Two characters that are no token, after tokens of different fields. -/
theorem readFields_of_unknownToken {outline : Outline} {before : List Token}
    {first second : Char} {rest : Text}
    (slots : outline.slots = before.flatMap Token.text ++ first :: second :: rest)
    (distinct : (before.map Token.field).Nodup)
    (unknown : ∀ token : Token, token.text ≠ [first, second]) :
    readFields outline = .error (.unknownToken [first, second]) := by
  match before, Outline.length_tokens_le slots, distinct with
  | [], _, _ =>
      simp [Outline.slots] at slots
      rcases slots with ⟨rfl, rfl, -⟩
      rw [readFields, readToken_eq_error_iff.2 ⟨unknown, rfl⟩]
      rfl
  | [token], _, _ =>
      rcases token.exists_text_eq with ⟨_, _, tokenText⟩
      simp [Outline.slots, tokenText] at slots
      rcases slots with ⟨rfl, rfl, rfl, rfl, -⟩
      rw [readFields, readToken_eq_ok_iff.2 tokenText,
        readToken_eq_error_iff.2 ⟨unknown, rfl⟩]
      rfl
  | [token, other], _, distinct =>
      rcases token.exists_text_eq with ⟨_, _, tokenText⟩
      rcases other.exists_text_eq with ⟨_, _, otherText⟩
      simp [Outline.slots, tokenText, otherText] at slots
      rcases slots with ⟨rfl, rfl, rfl, rfl, rfl, rfl, -⟩
      have different : other.field ≠ token.field := by
        simpa [eq_comm] using distinct
      rw [readFields, readToken_eq_ok_iff.2 tokenText, readToken_eq_ok_iff.2 otherText,
        readToken_eq_error_iff.2 ⟨unknown, rfl⟩]
      simp [bind, Except.bind, different]

/-- A token whose field one of the tokens before it names. -/
theorem readFields_of_duplicateField {outline : Outline} {before : List Token}
    {token : Token} {rest : Text}
    (slots : outline.slots = before.flatMap Token.text ++ (token.text ++ rest))
    (distinct : (before.map Token.field).Nodup)
    (repeated : token.field ∈ before.map Token.field) :
    readFields outline = .error (.duplicateField token.field) := by
  rcases token.exists_text_eq with ⟨_, _, tokenText⟩
  rw [tokenText] at slots
  match before, Outline.length_tokens_le slots, distinct with
  | [], _, _ => simp at repeated
  | [first], _, _ =>
      rcases first.exists_text_eq with ⟨_, _, firstText⟩
      simp [Outline.slots, firstText] at slots
      rcases slots with ⟨rfl, rfl, rfl, rfl, -⟩
      have same : token.field = first.field := by
        simpa using repeated
      rw [readFields, readToken_eq_ok_iff.2 firstText, readToken_eq_ok_iff.2 tokenText]
      simp [bind, Except.bind, same]
      rfl
  | [first, second], _, distinct =>
      rcases first.exists_text_eq with ⟨_, _, firstText⟩
      rcases second.exists_text_eq with ⟨_, _, secondText⟩
      simp [Outline.slots, firstText, secondText] at slots
      rcases slots with ⟨rfl, rfl, rfl, rfl, rfl, rfl, -⟩
      have different : second.field ≠ first.field := by
        simpa [eq_comm] using distinct
      rw [readFields_of_text_eq firstText secondText tokenText different,
        (Fields.ofTokens?_eq_none_iff different).2 repeated, Option.elim_none]

/-- The fields are not read exactly when the slots have a fault. -/
theorem readFields_eq_error_iff {outline : Outline} {fault : PatternFault} :
    readFields outline = .error fault ↔ SlotFault outline.slots fault := by
  constructor
  · exact slotFault_of_readFields
  · intro slotFault
    cases slotFault with
    | unknownToken slots distinct unknown =>
        exact readFields_of_unknownToken slots distinct unknown
    | duplicateField slots distinct repeated =>
        exact readFields_of_duplicateField slots distinct repeated

end Pattern

end DateDisplay
