import DateDisplay.Locale.Tag
import DateDisplay.Proofs.Text.Trimming

/-!
# Spellings of locale tags

A tag spells a language, then perhaps a script, a region, and a suffix for codeset and
modifier.  Only the language and the region are kept, so that two tags which agree on them up
to letter case lead to the same names of locales: their candidates differ in nothing but the
tags themselves.
-/

namespace DateDisplay

/-- No decimal digit of any script is a letter of the ASCII alphabet. -/
theorem Text.isAlpha_of_isDecimalDigit {char : Char} (digit : isDecimalDigit char = true) :
    char.isAlpha = false := by
  have notInRange : CharRanges.contains [(65, 90), (97, 122)] char = false :=
    CharRanges.contains_eq_false (by decide +kernel) digit
  rw [Bool.eq_false_iff] at notInRange ⊢
  intro letter
  apply notInRange
  simpa [CharRanges.contains] using Text.isAlpha_iff.1 letter

/-- The upper case of a letter is that of its lower case. -/
theorem Text.toUpper_toLower (char : Char) : char.toLower.toUpper = char.toUpper := by
  by_cases upper : char.val ≥ 'A'.val ∧ char.val ≤ 'Z'.val
  · -- The capital letters are few enough to be tried one after the other.
    have every : ∀ place < 26,
        (Char.ofNat (65 + place)).toLower.toUpper = (Char.ofNat (65 + place)).toUpper := by
      decide
    have bounds : 65 ≤ char.toNat ∧ char.toNat ≤ 90 := by
      simpa [UInt32.le_iff_toNat_le] using upper
    have here := every (char.toNat - 65) (by omega)
    rwa [Nat.add_sub_cancel' bounds.1, Char.ofNat_toNat] at here
  · have unchanged : char.toLower = char := dif_neg upper
    rw [unchanged]

namespace LocaleTag

/-! ## What a tag is made of -/

/-- `part` is a hyphen or an underscore, and then `block`, which has `count` characters of a
class. -/
structure IsPart (count : Nat) (inClass : Char → Bool) (block part : Text) : Prop where
  joined : part = '-' :: block ∨ part = '_' :: block
  length : block.length = count
  members : ∀ char ∈ block, inClass char = true

/-- The script of a tag: nothing, or four letters. -/
inductive WritesScript : Text → Prop where
  | missing : WritesScript []
  | letters {block part : Text} : IsPart 4 Char.isAlpha block part → WritesScript part

/-- The region of a tag: nothing, two letters, or three digits of whatever script. -/
inductive WritesRegion : Option Text → Text → Prop where
  | missing : WritesRegion none []
  | letters {region part : Text} :
      IsPart 2 Char.isAlpha region part → WritesRegion (some region) part
  | digits {region part : Text} :
      IsPart 3 Text.isDecimalDigit region part → WritesRegion (some region) part

/-- The suffix of a tag: nothing, or a codeset or modifier on one line. -/
inductive WritesSuffix : Text → Prop where
  | missing : WritesSuffix []
  | marked {mark : Char} {rest : Text} :
      mark = '.' ∨ mark = '@' → '\n' ∉ rest → WritesSuffix (mark :: rest)

/-- A text spells a tag: its language, of two or three letters, comes first, and the other
parts follow in their order. -/
structure Spells (tag : LocaleTag) (text : Text) : Prop where
  language_length : tag.language.length = 2 ∨ tag.language.length = 3
  language_letters : ∀ char ∈ tag.language, char.isAlpha = true
  parts : ∃ script region suffix,
    WritesScript script ∧ WritesRegion tag.region region ∧ WritesSuffix suffix ∧
      text = tag.language ++ (script ++ (region ++ suffix))

/-! ## Reading the parts -/

variable {count : Nat} {inClass : Char → Bool} {text block part rest : Text}

theorem block?_eq_some_iff :
    block? count inClass text = some (block, rest) ↔
      text = block ++ rest ∧ block.length = count ∧ ∀ char ∈ block, inClass char = true := by
  simp only [block?, Option.ite_none_right_eq_some, Option.some.injEq, Prod.mk.injEq,
    List.all_eq_true]
  constructor
  · rintro ⟨⟨length, members⟩, rfl, rfl⟩
    exact ⟨(List.take_append_drop count text).symm, length, members⟩
  · rintro ⟨rfl, rfl, members⟩
    simp only [List.take_left, List.drop_left, and_self, and_true, true_and]
    exact members

theorem part?_eq_some_iff :
    part? count inClass text = some (block, rest) ↔
      ∃ part, IsPart count inClass block part ∧ text = part ++ rest := by
  cases text with
  | nil =>
      simp only [part?, reduceCtorEq, false_iff, not_exists, not_and]
      intro part isPart empty
      obtain rfl | rfl := isPart.joined <;> cases empty
  | cons joint text =>
      simp only [part?, Option.ite_none_right_eq_some, block?_eq_some_iff]
      constructor
      · rintro ⟨isJoint, rfl, length, members⟩
        refine ⟨joint :: block, ⟨?_, length, members⟩, rfl⟩
        obtain rfl | rfl := isJoint
        · exact .inl rfl
        · exact .inr rfl
      · rintro ⟨part, isPart, whole⟩
        obtain rfl | rfl := isPart.joined <;> obtain ⟨rfl, rfl⟩ := List.cons.inj whole
        · exact ⟨.inl rfl, rfl, isPart.length, isPart.members⟩
        · exact ⟨.inr rfl, rfl, isPart.length, isPart.members⟩

theorem isSuffix_iff : isSuffix text = true ↔ WritesSuffix text := by
  cases text with
  | nil => exact ⟨fun _ => .missing, fun _ => rfl⟩
  | cons mark rest =>
      have oneLine : rest.all (· != '\n') = true ↔ '\n' ∉ rest := by
        rw [List.all_eq_true]
        exact ⟨fun others member => absurd rfl (bne_iff_ne.1 (others '\n' member)),
          fun notMem char member => bne_iff_ne.2 fun same => notMem (same ▸ member)⟩
      rw [isSuffix, Bool.and_eq_true, Bool.or_eq_true, beq_iff_eq, beq_iff_eq, oneLine]
      constructor
      · rintro ⟨isMark, notMem⟩
        exact .marked isMark notMem
      · intro suffix
        cases suffix with
        | marked isMark notMem => exact ⟨isMark, notMem⟩

/-! ## Which part is which

Script and region begin alike, but the letters of a region are too few for a script, and behind
a suffix's mark nothing is taken for either. -/

theorem part?_append (isPart : IsPart count inClass block part) (rest : Text) :
    part? count inClass (part ++ rest) = some (block, rest) :=
  part?_eq_some_iff.2 ⟨part, isPart, rfl⟩

/-- A part has no more letters than follow its joint. -/
theorem IsPart.part?_eq_none (isPart : IsPart count inClass block part) {wanted : Nat}
    (few : ((block ++ rest).takeWhile Char.isAlpha).length < wanted) :
    part? wanted Char.isAlpha (part ++ rest) = none := by
  apply Option.eq_none_iff_forall_ne_some.2
  intro found read
  obtain ⟨other, isOther, whole⟩ := part?_eq_some_iff.1 read
  have same : block ++ rest = found.1 ++ found.2 := by
    obtain rfl | rfl := isPart.joined <;> obtain rfl | rfl := isOther.joined <;>
      exact (List.cons.inj whole).2
  rw [same, List.takeWhile_append_of_pos isOther.members, List.length_append, isOther.length]
    at few
  omega

theorem IsPart.takeWhile_isAlpha (isPart : IsPart count inClass block part) (rest : Text) :
    (part ++ rest).takeWhile Char.isAlpha = [] := by
  obtain rfl | rfl := isPart.joined <;> rfl

namespace WritesSuffix

theorem takeWhile_isAlpha (suffix : WritesSuffix text) : text.takeWhile Char.isAlpha = [] := by
  cases suffix with
  | missing => rfl
  | marked isMark oneLine => obtain rfl | rfl := isMark <;> rfl

theorem part?_eq_none (suffix : WritesSuffix text) : part? count inClass text = none := by
  cases suffix with
  | missing => rfl
  | marked isMark oneLine => obtain rfl | rfl := isMark <;> rfl

end WritesSuffix

namespace WritesRegion

variable {region : Option Text} {suffix : Text}

theorem takeWhile_isAlpha (isRegion : WritesRegion region part) (isSuffix : WritesSuffix suffix) :
    (part ++ suffix).takeWhile Char.isAlpha = [] := by
  cases isRegion with
  | missing => exact isSuffix.takeWhile_isAlpha
  | letters isPart => exact isPart.takeWhile_isAlpha suffix
  | digits isPart => exact isPart.takeWhile_isAlpha suffix

/-- Three digits have no letter in front. -/
theorem takeWhile_isAlpha_digits (digits : IsPart 3 Text.isDecimalDigit block part)
    (rest : Text) : (block ++ rest).takeWhile Char.isAlpha = [] := by
  have length := digits.length
  cases block with
  | nil => cases length
  | cons first others =>
      have digit := digits.members first List.mem_cons_self
      rw [List.cons_append, List.takeWhile_cons_of_neg]
      rw [Text.isAlpha_of_isDecimalDigit digit]
      exact Bool.false_ne_true

/-- A region is not taken for a script. -/
theorem part?_script_eq_none (isRegion : WritesRegion region part)
    (isSuffix : WritesSuffix suffix) : part? 4 Char.isAlpha (part ++ suffix) = none := by
  cases isRegion with
  | missing => exact isSuffix.part?_eq_none
  | letters isPart =>
      apply isPart.part?_eq_none
      rw [List.takeWhile_append_of_pos isPart.members, isSuffix.takeWhile_isAlpha,
        List.append_nil, isPart.length]
      decide
  | digits isPart =>
      apply isPart.part?_eq_none
      rw [takeWhile_isAlpha_digits isPart]
      decide

theorem region?_append (isRegion : WritesRegion region part) (isSuffix : WritesSuffix suffix) :
    region? (part ++ suffix) = (region, suffix) := by
  cases isRegion with
  | missing => simp only [region?, List.nil_append, isSuffix.part?_eq_none, Option.or_none]
  | letters isPart => simp only [region?, part?_append isPart, Option.some_or]
  | digits isPart =>
      have notLetters : part? 2 Char.isAlpha (part ++ suffix) = none := by
        apply isPart.part?_eq_none
        rw [takeWhile_isAlpha_digits isPart]
        decide
      simp only [region?, notLetters, Option.none_or, part?_append isPart]

end WritesRegion

theorem WritesScript.takeWhile_isAlpha (isScript : WritesScript part)
    (noLetters : rest.takeWhile Char.isAlpha = []) :
    (part ++ rest).takeWhile Char.isAlpha = [] := by
  cases isScript with
  | missing => exact noLetters
  | letters isPart => exact isPart.takeWhile_isAlpha rest

theorem WritesScript.afterScript_append (isScript : WritesScript part)
    (noScript : part? 4 Char.isAlpha rest = none) : afterScript (part ++ rest) = rest := by
  cases isScript with
  | missing => simp only [afterScript, List.nil_append, noScript]
  | letters isPart => simp only [afterScript, part?_append isPart]

/-! ## Reading tags -/

variable {tag : LocaleTag}

theorem ofText?_of_spells (spells : tag.Spells text) : ofText? text = some tag := by
  obtain ⟨script, region, suffix, isScript, isRegion, isSuffix, rfl⟩ := spells.parts
  have noLetters := isScript.takeWhile_isAlpha (isRegion.takeWhile_isAlpha isSuffix)
  have language : (tag.language ++ (script ++ (region ++ suffix))).takeWhile Char.isAlpha =
      tag.language := by
    rw [List.takeWhile_append_of_pos spells.language_letters, noLetters, List.append_nil]
  have behind := isScript.afterScript_append (isRegion.part?_script_eq_none isSuffix)
  simp only [ofText?, language, List.drop_left, behind, isRegion.region?_append isSuffix,
    isSuffix_iff.2 isSuffix, spells.language_length, and_self, if_true]

theorem exists_script (text : Text) :
    ∃ script, WritesScript script ∧ text = script ++ afterScript text := by
  cases read : part? 4 Char.isAlpha text with
  | none => exact ⟨[], .missing, by simp only [afterScript, read, List.nil_append]⟩
  | some found =>
      obtain ⟨part, isPart, whole⟩ := part?_eq_some_iff.1 read
      exact ⟨part, .letters isPart, by simp only [afterScript, read, ← whole]⟩

theorem exists_region (text : Text) :
    ∃ part, WritesRegion (region? text).1 part ∧ text = part ++ (region? text).2 := by
  cases letters : part? 2 Char.isAlpha text with
  | some found =>
      obtain ⟨part, isPart, whole⟩ := part?_eq_some_iff.1 letters
      simp only [region?, letters, Option.some_or]
      exact ⟨part, .letters isPart, whole⟩
  | none =>
      cases digits : part? 3 Text.isDecimalDigit text with
      | some found =>
          obtain ⟨part, isPart, whole⟩ := part?_eq_some_iff.1 digits
          simp only [region?, letters, digits, Option.none_or]
          exact ⟨part, .digits isPart, whole⟩
      | none =>
          simp only [region?, letters, digits, Option.none_or]
          exact ⟨[], .missing, rfl⟩

theorem spells_of_ofText? (read : ofText? text = some tag) : tag.Spells text := by
  simp only [ofText?, Option.ite_none_right_eq_some, Option.some.injEq] at read
  obtain ⟨⟨length, isSuffix⟩, rfl⟩ := read
  obtain ⟨script, isScript, behind⟩ :=
    exists_script (text.drop (text.takeWhile Char.isAlpha).length)
  obtain ⟨part, isRegion, rest⟩ :=
    exists_region (afterScript (text.drop (text.takeWhile Char.isAlpha).length))
  refine ⟨length, fun _ => List.mem_takeWhile_imp, script, part, _, isScript, isRegion,
    isSuffix_iff.1 isSuffix, ?_⟩
  rw [← rest, ← behind]
  exact (List.prefix_iff_eq_append.1 (List.takeWhile_prefix Char.isAlpha)).symm

/-- A tag is read from exactly the texts that spell it. -/
theorem ofText?_eq_some_iff : ofText? text = some tag ↔ tag.Spells text :=
  ⟨spells_of_ofText?, ofText?_of_spells⟩

/-! ## Candidates -/

/-- The name of a locale is more than a language. -/
theorem name_ne_lowerLanguage (tag : LocaleTag) : tag.name ≠ tag.lowerLanguage := by
  intro same
  have length := congrArg List.length same
  rw [name, List.length_append, List.length_cons] at length
  omega

theorem candidates_of_spells (spells : tag.Spells (Text.trim text)) :
    candidates text = [Text.trim text, tag.name, tag.lowerLanguage].eraseDups := by
  simp only [candidates, ofText?_of_spells spells]

theorem candidates_of_not_spells (unread : ¬ ∃ tag : LocaleTag, tag.Spells (Text.trim text)) :
    candidates text = [Text.trim text] := by
  have noTag : ofText? (Text.trim text) = none :=
    Option.eq_none_iff_forall_ne_some.2 fun tag read => unread ⟨tag, spells_of_ofText? read⟩
  simp only [candidates, noTag]

theorem mem_candidates_iff (spells : tag.Spells (Text.trim text)) {candidate : Text} :
    candidate ∈ candidates text ↔
      candidate = Text.trim text ∨ candidate ∈ [tag.name, tag.lowerLanguage] := by
  rw [candidates_of_spells spells, List.mem_eraseDups, List.mem_cons]

/-- Only the tag itself can be met again among the names. -/
theorem candidates_eq_cons_filter (spells : tag.Spells (Text.trim text)) :
    candidates text =
      Text.trim text ::
        [tag.name, tag.lowerLanguage].filter fun name => !name == Text.trim text := by
  rw [candidates_of_spells spells, List.eraseDups_cons]
  have apart := tag.name_ne_lowerLanguage.symm
  by_cases isName : tag.name = Text.trim text <;>
    by_cases isLanguage : tag.lowerLanguage = Text.trim text <;>
    simp [isName, isLanguage, apart, List.eraseDups_cons]

/-- The tag itself comes first, and at most two names that differ from it follow. -/
theorem exists_candidates_eq_cons (text : Text) :
    ∃ others, candidates text = Text.trim text :: others ∧ others.length ≤ 2 ∧ others.Nodup ∧
      Text.trim text ∉ others := by
  by_cases read : ∃ tag : LocaleTag, tag.Spells (Text.trim text)
  · obtain ⟨tag, spells⟩ := read
    refine ⟨_, candidates_eq_cons_filter spells, List.length_filter_le _ _, ?_, ?_⟩
    · apply List.Nodup.sublist List.filter_sublist
      simp [tag.name_ne_lowerLanguage]
    · intro member
      simpa using (List.mem_filter.1 member).2
  · exact ⟨[], candidates_of_not_spells read, Nat.zero_le 2, List.nodup_nil, List.not_mem_nil⟩

/-- Two tags of one language and one region, letter case aside, have the same names. -/
theorem names_eq_of_same {other : LocaleTag}
    (language : tag.language.map Char.toLower = other.language.map Char.toLower)
    (region : tag.region.map (List.map Char.toUpper) = other.region.map (List.map Char.toUpper)) :
    tag.lowerLanguage = other.lowerLanguage ∧ tag.name = other.name := by
  have upperLanguage : tag.language.map Char.toUpper = other.language.map Char.toUpper := by
    have upper := congrArg (List.map Char.toUpper) language
    simpa [Function.comp_def, Text.toUpper_toLower] using upper
  have shown : ∀ tag : LocaleTag, tag.upperRegion =
      (tag.region.map (List.map Char.toUpper)).getD (tag.language.map Char.toUpper) :=
    fun tag => (Option.getD_map _ _ _).symm
  have upperRegion : tag.upperRegion = other.upperRegion := by
    rw [shown, shown, region, upperLanguage]
  refine ⟨language, ?_⟩
  rw [name, name, upperRegion, LocaleTag.lowerLanguage, LocaleTag.lowerLanguage, language]

/-- The candidates of a text are one to three and all different, the trimmed text first.  If
that spells a tag, then the name made of language and region and the language alone follow, as
far as they are not there yet; otherwise nothing does.  So two texts that spell one language and
one region, letter case aside, have the same candidates but for themselves. -/
theorem candidates_normalize_spelling (text : Text) :
    (candidates text).Nodup ∧
    (1 ≤ (candidates text).length ∧ (candidates text).length ≤ 3) ∧
    (candidates text).head? = some (Text.trim text) ∧
    ((¬ ∃ tag : LocaleTag, tag.Spells (Text.trim text)) →
      candidates text = [Text.trim text]) ∧
    ∀ tag : LocaleTag, tag.Spells (Text.trim text) →
      candidates text =
        [Text.trim text,
          tag.language.map Char.toLower ++
            '_' :: (tag.region.getD tag.language).map Char.toUpper,
          tag.language.map Char.toLower].eraseDups ∧
      ∀ (otherText : Text) (other : LocaleTag), other.Spells (Text.trim otherText) →
        tag.language.map Char.toLower = other.language.map Char.toLower →
        tag.region.map (List.map Char.toUpper) = other.region.map (List.map Char.toUpper) →
        ∃ common : List Text,
          (∀ candidate, candidate ∈ candidates text ↔
            candidate = Text.trim text ∨ candidate ∈ common) ∧
          ∀ candidate, candidate ∈ candidates otherText ↔
            candidate = Text.trim otherText ∨ candidate ∈ common := by
  obtain ⟨others, list, few, distinct, notMem⟩ := exists_candidates_eq_cons text
  refine ⟨?_, ?_, ?_, candidates_of_not_spells, ?_⟩
  · rw [list]
    exact List.nodup_cons.2 ⟨notMem, distinct⟩
  · rw [list, List.length_cons]
    omega
  · rw [list, List.head?_cons]
  · intro tag spells
    refine ⟨candidates_of_spells spells, ?_⟩
    intro otherText other otherSpells language region
    obtain ⟨sameLanguage, sameName⟩ := names_eq_of_same language region
    refine ⟨[tag.name, tag.lowerLanguage], fun _ => mem_candidates_iff spells, ?_⟩
    rw [sameLanguage, sameName]
    exact fun _ => mem_candidates_iff otherSpells

/-- Script, joints, letter case and modifier make no difference. -/
theorem candidates_normalize_serbian :
    let tag : LocaleTag := ⟨"sr".toList, some "RS".toList⟩
    let other : LocaleTag := ⟨"SR".toList, some "rs".toList⟩
    tag.Spells (Text.trim "sr-Latn-RS".toList) ∧ other.Spells (Text.trim " SR_rs@latin".toList) ∧
    tag.language.map Char.toLower = other.language.map Char.toLower ∧
    tag.region.map (List.map Char.toUpper) = other.region.map (List.map Char.toUpper) ∧
    candidates "sr-Latn-RS".toList = ["sr-Latn-RS".toList, "sr_RS".toList, "sr".toList] ∧
    ∃ common : List Text,
      (∀ candidate, candidate ∈ candidates "sr-Latn-RS".toList ↔
        candidate = "sr-Latn-RS".toList ∨ candidate ∈ common) ∧
      ∀ candidate, candidate ∈ candidates " SR_rs@latin".toList ↔
        candidate = "SR_rs@latin".toList ∨ candidate ∈ common := by
  intro tag other
  have spells : tag.Spells (Text.trim "sr-Latn-RS".toList) := spells_of_ofText? (by decide)
  have otherSpells : other.Spells (Text.trim " SR_rs@latin".toList) :=
    spells_of_ofText? (by decide)
  have language : tag.language.map Char.toLower = other.language.map Char.toLower := by decide
  have region : tag.region.map (List.map Char.toUpper) =
      other.region.map (List.map Char.toUpper) := by decide
  obtain ⟨-, -, -, -, told⟩ := candidates_normalize_spelling "sr-Latn-RS".toList
  obtain ⟨list, same⟩ := told tag spells
  refine ⟨spells, otherSpells, language, region, ?_, ?_⟩
  · rw [list]
    decide
  · exact same " SR_rs@latin".toList other otherSpells language region

end LocaleTag

end DateDisplay
