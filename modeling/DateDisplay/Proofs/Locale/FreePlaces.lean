import DateDisplay.Proofs.Locale.SampleDay

/-!
# Free places

A text is searched from left to right: the search stops at the first place where what is looked
for begins, and goes on behind the end of it, so that no two places overlap.  Of the places found
some may already be taken by another field, in whole or in part.  The first that is free is the
one that counts.  Nothing is detected in a rendering of the sample day when a field has no free
place.
-/

namespace DateDisplay

namespace Detection

variable {needle text : Text} {taken : List Span} {start position : Nat} {span : Span}

/-- The first place from `start` on where `needle` begins. -/
structure BeginsFirst (needle text : Text) (start position : Nat) : Prop where
  ahead : start ≤ position
  begins : needle <+: text.drop position
  first : ∀ earlier, start ≤ earlier → earlier < position → ¬ needle <+: text.drop earlier

/-- The places of `needle` when it is looked for from `start` on, each behind the end of the
one before. -/
inductive Occurs (needle text : Text) : (start position : Nat) → Prop where
  | first {start position : Nat} (found : BeginsFirst needle text start position) :
      Occurs needle text start position
  | later {start before position : Nat} (found : BeginsFirst needle text start before)
      (behind : Occurs needle text (before + needle.length) position) :
      Occurs needle text start position

/-- A place of `needle` that is apart from the places taken. -/
structure Free (text needle : Text) (taken : List Span) (span : Span) : Prop where
  length : span.length = needle.length
  occurs : Occurs needle text 0 span.start
  apart : ∀ other ∈ taken, Span.Apart span other

/-- The leftmost of the free places. -/
structure FirstFree (text needle : Text) (taken : List Span) (span : Span) : Prop where
  free : Free text needle taken span
  first : ∀ other, Free text needle taken other → span.start ≤ other.start

/-! ## Searching finds the places -/

theorem BeginsFirst.unique {other : Nat} (left : BeginsFirst needle text start position)
    (right : BeginsFirst needle text start other) : position = other := by
  rcases Nat.lt_trichotomy position other with before | same | behind
  · exact absurd left.begins (right.first position left.ahead before)
  · exact same
  · exact absurd right.begins (left.first other right.ahead behind)

/-- What is found begins in the text, not before the start of the search. -/
theorem Occurs.begins (occurs : Occurs needle text start position) :
    start ≤ position ∧ needle <+: text.drop position := by
  induction occurs with
  | first found => exact ⟨found.ahead, found.begins⟩
  | later found _ ih =>
      exact ⟨Nat.le_trans found.ahead (Nat.le_trans (Nat.le_add_right _ _) ih.1), ih.2⟩

/-- Where `needle` begins at the start, it is found there and then behind its end. -/
theorem occurs_iff_of_begins (begins : needle <+: text.drop start) :
    Occurs needle text start position ↔
      position = start ∨ Occurs needle text (start + needle.length) position := by
  have here : BeginsFirst needle text start start :=
    ⟨Nat.le_refl _, begins, fun earlier ahead before => absurd before (Nat.not_lt.2 ahead)⟩
  constructor
  · intro occurs
    cases occurs with
    | first found => exact .inl (found.unique here)
    | later found behind => exact .inr (found.unique here ▸ behind)
  · rintro (rfl | behind)
    · exact .first here
    · exact .later here behind

/-- Where `needle` does not begin at the start, it is looked for from the next character on. -/
theorem occurs_iff_of_not_begins (notHere : ¬ needle <+: text.drop start) :
    Occurs needle text start position ↔ Occurs needle text (start + 1) position := by
  have skip : ∀ place, BeginsFirst needle text start place ↔
      BeginsFirst needle text (start + 1) place := by
    intro place
    constructor
    · intro found
      have different : start ≠ place := fun same => notHere (same ▸ found.begins)
      exact ⟨Nat.lt_of_le_of_ne found.ahead different, found.begins,
        fun earlier ahead => found.first earlier (Nat.le_of_succ_le ahead)⟩
    · intro found
      refine ⟨Nat.le_of_succ_le found.ahead, found.begins, fun earlier ahead before => ?_⟩
      cases Nat.eq_or_lt_of_le ahead with
      | inl same => exact same ▸ notHere
      | inr behind => exact found.first earlier behind before
  constructor
  · intro occurs
    cases occurs with
    | first found => exact .first ((skip _).1 found)
    | later found behind => exact .later ((skip _).1 found) behind
  · intro occurs
    cases occurs with
    | first found => exact .first ((skip _).2 found)
    | later found behind => exact .later ((skip _).2 found) behind

/-- The places that a search lists are those that are found from left to right. -/
theorem mem_occurrencesFrom_iff (nonempty : needle ≠ []) {skip : Nat} {rest : Text}
    (behind : text.drop start = rest) :
    position ∈ occurrencesFrom needle start skip rest ↔
      Occurs needle text (start + skip) position := by
  induction rest generalizing start skip with
  | nil =>
      refine iff_of_false List.not_mem_nil fun occurs => ?_
      obtain ⟨ahead, begins⟩ := occurs.begins
      have short := List.drop_eq_nil_iff.1 behind
      rw [List.drop_eq_nil_of_le (by omega)] at begins
      exact nonempty (List.prefix_nil.1 begins)
  | cons char rest ih =>
      have next : text.drop (start + 1) = rest := by
        rw [← List.drop_drop, behind]
        rfl
      cases skip with
      | succ skip =>
          rw [occurrencesFrom, ih next, Nat.add_right_comm, Nat.add_assoc]
      | zero =>
          rw [occurrencesFrom]
          split
          · rename_i begins
            rw [List.isPrefixOf_iff_prefix, ← behind] at begins
            have length := List.length_pos_iff.2 nonempty
            have behindIt : start + 1 + (needle.length - 1) = start + needle.length := by omega
            rw [List.mem_cons, ih next, behindIt, Nat.add_zero, occurs_iff_of_begins begins]
          · rename_i notHere
            rw [List.isPrefixOf_iff_prefix, ← behind] at notHere
            rw [ih next]
            exact (occurs_iff_of_not_begins notHere).symm

theorem mem_occurrences_iff (nonempty : needle ≠ []) :
    span ∈ occurrences needle text ↔
      span.length = needle.length ∧ Occurs needle text 0 span.start := by
  have listed : ∀ position, position ∈ occurrencesFrom needle 0 0 text ↔
      Occurs needle text 0 position := fun _ =>
    mem_occurrencesFrom_iff nonempty List.drop_zero
  rw [occurrences, List.mem_map]
  constructor
  · rintro ⟨position, member, rfl⟩
    exact ⟨rfl, (listed position).1 member⟩
  · rintro ⟨length, occurs⟩
    exact ⟨span.start, (listed _).2 occurs, by rw [← length]⟩

/-- Places are listed from left to right. -/
theorem pairwise_occurrencesFrom (start skip : Nat) (text : Text) :
    (occurrencesFrom needle start skip text).Pairwise (· < ·) := by
  induction text generalizing start skip with
  | nil => exact List.Pairwise.nil
  | cons char text ih =>
      cases skip with
      | succ skip => exact ih _ _
      | zero =>
          rw [occurrencesFrom]
          split
          · refine List.pairwise_cons.2 ⟨fun later member => ?_, ih _ _⟩
            exact (prefix_drop_of_mem_occurrencesFrom member).1
          · exact ih _ _

/-- Nothing is found where no place is free. -/
theorem findFree?_eq_none_iff (nonempty : needle ≠ []) :
    findFree? text needle taken = none ↔ ∀ span, ¬ Free text needle taken span := by
  rw [findFree?, List.find?_eq_none]
  constructor
  · intro notFound span free
    apply notFound span ((mem_occurrences_iff nonempty).2 ⟨free.length, free.occurs⟩)
    simpa using free.apart
  · intro notFree span member apart
    obtain ⟨length, occurs⟩ := (mem_occurrences_iff nonempty).1 member
    exact notFree span ⟨length, occurs, by simpa using apart⟩

/-- What is found is the first place that is free. -/
theorem firstFree_of_findFree? (nonempty : needle ≠ [])
    (found : findFree? text needle taken = some span) : FirstFree text needle taken span := by
  have increasing : (occurrences needle text).Pairwise fun left right =>
      left.start < right.start := by
    rw [occurrences, List.pairwise_map]
    exact pairwise_occurrencesFrom 0 0 text
  obtain ⟨apart, before, behind, listed, taken⟩ := List.find?_eq_some_iff_append.1 found
  rw [listed, List.pairwise_append, List.pairwise_cons] at increasing
  have member : span ∈ occurrences needle text := by
    rw [listed]
    exact List.mem_append_right _ List.mem_cons_self
  obtain ⟨length, occurs⟩ := (mem_occurrences_iff nonempty).1 member
  refine ⟨⟨length, occurs, by simpa using apart⟩, fun other free => ?_⟩
  have otherMember := (mem_occurrences_iff nonempty).2 ⟨free.length, free.occurs⟩
  rw [listed, List.mem_append, List.mem_cons] at otherMember
  rcases otherMember with earlier | here | later
  · -- A place before the one found was passed over, so that it is not free.
    have notFree := taken other earlier
    rw [Bool.not_eq_true', List.all_eq_false] at notFree
    obtain ⟨place, inTaken, touches⟩ := notFree
    exact absurd (decide_eq_true (free.apart place inTaken)) touches
  · exact Nat.le_of_eq (here ▸ rfl)
  · exact Nat.le_of_lt (increasing.2.1.1 other later)

theorem findFree?_eq_some_iff (nonempty : needle ≠ []) :
    findFree? text needle taken = some span ↔ FirstFree text needle taken span := by
  refine ⟨firstFree_of_findFree? nonempty, fun firstFree => ?_⟩
  cases found : findFree? text needle taken with
  | none => exact absurd firstFree.free ((findFree?_eq_none_iff nonempty).1 found span)
  | some other =>
      have otherFirst := firstFree_of_findFree? nonempty found
      have start := Nat.le_antisymm (otherFirst.first span firstFree.free)
        (firstFree.first other otherFirst.free)
      have length := otherFirst.free.length.trans firstFree.free.length.symm
      cases other
      cases span
      cases start
      cases length
      rfl

theorem Free.begins (free : Free text needle taken span) : needle <+: text.drop span.start :=
  free.occurs.begins.2

theorem Free.stop_le (nonempty : needle ≠ []) (free : Free text needle taken span) :
    span.stop ≤ text.length := by
  have positive := List.length_pos_iff.2 nonempty
  have fits := free.begins.length_le
  rw [List.length_drop] at fits
  rw [Span.stop, free.length]
  omega

end Detection

/-! ## The fields of the sample day -/

namespace Located

open Detection

variable {text : Text} {located : Located}

/-- The place of the year: the first one of all its digits, or else of the last two. -/
inductive YearPlace (text : Text) : Span → YearStyle → Prop where
  | full {place : Span} (found : FirstFree text (sampleText .full .year) [] place) :
      YearPlace text place .full
  | short {place : Span} (notFull : ∀ span, ¬ Free text (sampleText .full .year) [] span)
      (found : FirstFree text (sampleText .short .year) [] place) : YearPlace text place .short

/-- Every field is at its first place that is free when it is looked for: the year before the
month, and the month before the day. -/
structure Places (located : Located) (text : Text) : Prop where
  year : YearPlace text located.year located.style
  month : FirstFree text (sampleText located.style .month) [located.year] located.month
  day : FirstFree text (sampleText located.style .day) [located.year, located.month] located.day

/-- A field has no place that is free when it is looked for. -/
inductive Misses (text : Text) : Prop where
  | year (notFull : ∀ span, ¬ Free text (sampleText .full .year) [] span)
      (notShort : ∀ span, ¬ Free text (sampleText .short .year) [] span)
  | month {year : Span} {style : YearStyle} (yearPlace : YearPlace text year style)
      (notFree : ∀ span, ¬ Free text (sampleText style .month) [year] span)
  | day {year month : Span} {style : YearStyle} (yearPlace : YearPlace text year style)
      (monthPlace : FirstFree text (sampleText style .month) [year] month)
      (notFree : ∀ span, ¬ Free text (sampleText style .day) [year, month] span)

theorem sampleText_ne_nil (style : YearStyle) (field : DateField) :
    sampleText style field ≠ [] := by
  cases style <;> cases field <;> decide

variable {style : YearStyle} {field : DateField} {taken : List Span} {place : Span}

theorem findFree?_sampleText_eq_some_iff :
    findFree? text (sampleText style field) taken = some place ↔
      FirstFree text (sampleText style field) taken place :=
  findFree?_eq_some_iff (sampleText_ne_nil style field)

theorem findFree?_sampleText_eq_none_iff :
    findFree? text (sampleText style field) taken = none ↔
      ∀ span, ¬ Free text (sampleText style field) taken span :=
  findFree?_eq_none_iff (sampleText_ne_nil style field)

theorem YearPlace.firstFree (yearPlace : YearPlace text place style) :
    FirstFree text (sampleText style .year) [] place := by
  cases yearPlace with
  | full found => exact found
  | short _ found => exact found

/-- All digits of the year are found wherever they stand, as no place is taken yet. -/
theorem YearPlace.style_eq_full_iff (yearPlace : YearPlace text place style) :
    style = .full ↔ sampleText .full .year <:+: text := by
  cases yearPlace with
  | full found =>
      exact iff_of_true rfl (found.free.begins.isInfix.trans (List.drop_suffix _ _).isInfix)
  | short notFull _ =>
      refine iff_of_false (by decide) ?_
      rw [← findFree?_nil_eq_none_iff (sampleText_ne_nil .full .year),
        findFree?_sampleText_eq_none_iff]
      exact notFull

theorem findYear?_eq_some_iff :
    findYear? text = some (place, style) ↔ YearPlace text place style := by
  rw [findYear?]
  constructor
  · intro found
    split at found
    · rename_i full
      cases found
      exact .full (findFree?_sampleText_eq_some_iff.1 full)
    · rename_i notFull
      obtain ⟨span, short, same⟩ := Option.map_eq_some_iff.1 found
      cases same
      exact .short (findFree?_sampleText_eq_none_iff.1 notFull)
        (findFree?_sampleText_eq_some_iff.1 short)
  · intro yearPlace
    cases yearPlace with
    | full found =>
        have full : findFree? text ['1', '9', '8', '7'] [] = some place :=
          findFree?_sampleText_eq_some_iff.2 found
        rw [full]
    | short notFull found =>
        have none : findFree? text ['1', '9', '8', '7'] [] = none :=
          findFree?_sampleText_eq_none_iff.2 notFull
        have short : findFree? text ['8', '7'] [] = some place :=
          findFree?_sampleText_eq_some_iff.2 found
        rw [none, short]
        rfl

theorem findYear?_eq_none_iff :
    findYear? text = none ↔ (∀ span, ¬ Free text (sampleText .full .year) [] span) ∧
      ∀ span, ¬ Free text (sampleText .short .year) [] span := by
  rw [← findFree?_sampleText_eq_none_iff, ← findFree?_sampleText_eq_none_iff, findYear?]
  constructor
  · intro notFound
    split at notFound
    · cases notFound
    · rename_i notFull
      exact ⟨notFull, Option.map_eq_none_iff.1 notFound⟩
  · rintro ⟨notFull, notShort⟩
    have none : findFree? text ['1', '9', '8', '7'] [] = none := notFull
    rw [none]
    exact Option.map_eq_none_iff.2 notShort

/-- The fields are found at their places. -/
theorem find?_eq_some_iff : find? text = some located ↔ located.Places text := by
  constructor
  · intro found
    obtain ⟨⟨year, style⟩, yearFound, found⟩ := Option.bind_eq_some_iff.1 found
    obtain ⟨month, monthFound, found⟩ := Option.bind_eq_some_iff.1 found
    obtain ⟨day, dayFound, found⟩ := Option.bind_eq_some_iff.1 found
    cases found
    exact ⟨findYear?_eq_some_iff.1 yearFound, findFree?_sampleText_eq_some_iff.1 monthFound,
      findFree?_sampleText_eq_some_iff.1 dayFound⟩
  · intro places
    refine Option.bind_eq_some_iff.2 ⟨_, findYear?_eq_some_iff.2 places.year, ?_⟩
    refine Option.bind_eq_some_iff.2 ⟨_, findFree?_sampleText_eq_some_iff.2 places.month, ?_⟩
    exact Option.bind_eq_some_iff.2 ⟨_, findFree?_sampleText_eq_some_iff.2 places.day, rfl⟩

theorem find?_of_findYear? {year : Span} (yearFound : findYear? text = some (year, style)) :
    find? text = (findFree? text (sampleText style .month) [year]).bind fun month =>
      (findFree? text (sampleText style .day) [year, month]).map fun day =>
        ⟨day, month, year, style⟩ := by
  rw [find?, yearFound]
  simp only [Option.map_eq_bind]
  rfl

/-- Nothing is found exactly when a field has no place left. -/
theorem find?_eq_none_iff : find? text = none ↔ Misses text := by
  cases yearFound : findYear? text with
  | none =>
      obtain ⟨notFull, notShort⟩ := findYear?_eq_none_iff.1 yearFound
      refine iff_of_true ?_ (.year notFull notShort)
      rw [find?, yearFound]
      rfl
  | some found =>
      obtain ⟨year, style⟩ := found
      have yearPlace := findYear?_eq_some_iff.1 yearFound
      rw [find?_of_findYear? yearFound]
      cases monthFound : findFree? text (sampleText style .month) [year] with
      | none =>
          have notFree := findFree?_sampleText_eq_none_iff.1 monthFound
          exact iff_of_true rfl (.month yearPlace notFree)
      | some month =>
          have monthPlace := findFree?_sampleText_eq_some_iff.1 monthFound
          rw [Option.bind_some, Option.map_eq_none_iff, findFree?_sampleText_eq_none_iff]
          refine ⟨.day yearPlace monthPlace, fun misses => ?_⟩
          -- Year and month are not missed, since each has only one place to be found at.
          cases misses with
          | year notFull notShort =>
              have none := findYear?_eq_none_iff.2 ⟨notFull, notShort⟩
              rw [yearFound] at none
              cases none
          | month otherYear notFree =>
              have same := findYear?_eq_some_iff.2 otherYear
              rw [yearFound] at same
              cases same
              exact absurd monthPlace.free (notFree month)
          | day otherYear otherMonth notFree =>
              have same := findYear?_eq_some_iff.2 otherYear
              rw [yearFound] at same
              cases same
              have same := findFree?_sampleText_eq_some_iff.2 otherMonth
              rw [monthFound] at same
              cases same
              exact notFree

/-- The digits of the month are there, but one of them is the first of the year. -/
example : find? "2211987".toList = none := by decide

end Located

end DateDisplay
