import Mathlib.Data.List.Nodup
import Mathlib.Tactic.Lemma
import XoLedger.Proofs.Text.Ranges
import XoLedger.Text.Composed

/-!
# What the table of composites is like

Every character is made up in one way at most, its second part never has parts, and its first part
has parts of its own once at most. No character below the sign for less has a part in it, nor has
one past the second plane. All of that is checked entry by entry, on masks of the table's columns,
and the syllables, which are made up by arithmetic, fit in.
-/

namespace XoLedger

/-! ### Classes -/

/-- The code points whose class is not zero. -/
def classRanges : Ranges :=
  combiningClasses.map fun entry => (entry.1, entry.2.1)

lemma combiningClass_eq_zero {n : Nat} (h : classRanges.mask.testBit n = false) :
    combiningClass n = 0 := by
  unfold combiningClass
  split
  · rename_i first last place hfind
    have hmem : (first, last) ∈ classRanges :=
      List.mem_map.mpr ⟨_, List.mem_of_find?_eq_some hfind, rfl⟩
    have hin : first ≤ n ∧ n ≤ last := by simpa using List.find?_some hfind
    rw [Ranges.testBit_mask.mpr ⟨_, hmem, hin⟩] at h
    cases h
  · rfl

/-- The code points that syllables are made of, and the syllables. -/
def isHangul (n : Nat) : Bool :=
  (firstLead ≤ n && n < beforeTrail + 28) || isSyllable n

lemma isSyllable_iff {n : Nat} : isSyllable n = true ↔ 0xAC00 ≤ n ∧ n < 0xD7A4 := by
  simp only [isSyllable, Bool.and_eq_true, decide_eq_true_eq]
  rfl

lemma isHangul_iff {n : Nat} :
    isHangul n = true ↔ 0x1100 ≤ n ∧ n < 0x11C3 ∨ 0xAC00 ≤ n ∧ n < 0xD7A4 := by
  rw [isHangul, Bool.or_eq_true, Bool.and_eq_true, decide_eq_true_eq, decide_eq_true_eq,
    isSyllable_iff]
  rfl

/-- No character has a class that is in ASCII, past the second plane, or one of the syllables and
their parts. -/
lemma forall_classRanges : ∀ r ∈ classRanges, 128 ≤ r.1 ∧ r.2 < 0x20000 ∧
    (r.2 < 0x1100 ∨ 0x11C3 ≤ r.1 ∧ r.2 < 0xAC00 ∨ 0xD7A4 ≤ r.1) := by
  decide +kernel

lemma combiningClass_of_plain {n : Nat} (h : n < 128 ∨ 0x20000 ≤ n ∨ isHangul n = true) :
    combiningClass n = 0 := by
  refine combiningClass_eq_zero (Bool.eq_false_iff.mpr fun hbit => ?_)
  obtain ⟨r, hr, hfirst, hlast⟩ := Ranges.testBit_mask.mp hbit
  have := forall_classRanges r hr
  rw [isHangul_iff] at h
  omega

/-! ### The table -/

/-- Whether a composite is in the range of the table: neither it nor its parts are syllables or
their parts. -/
def Composite.isRegular (c : Composite) : Bool :=
  0x3C ≤ c.first && 128 ≤ c.second && 128 ≤ c.whole
    && [c.first, c.second, c.whole].all fun n => n < 0x20000 && !isHangul n

/-- What is checked of a table. -/
def isTidy (cs : List Composite) : Bool :=
  let wholes := mask (cs.map (·.whole))
  let bases := mask ((cs.filter fun c => !wholes.testBit c.first).map (·.whole))
  areApart 0 (cs.map (·.whole)) && cs.all fun c =>
    c.isRegular && !classRanges.mask.testBit c.first && !wholes.testBit c.second
      && (!wholes.testBit c.first || bases.testBit c.first)

/-- A table in which every character has its parts once, and these have none but for the first,
whose parts have none. -/
structure IsTidy (cs : List Composite) : Prop where
  /-- Every character is made up in one way. -/
  nodup : (cs.map (·.whole)).Nodup
  /-- All composites are in range. -/
  regular : ∀ c ∈ cs, c.isRegular = true
  /-- What comes first is no mark. -/
  first_class : ∀ c ∈ cs, combiningClass c.first = 0
  /-- What comes second is not made up. -/
  second : ∀ c ∈ cs, ∀ d ∈ cs, d.whole ≠ c.second
  /-- What comes first may be made up, but then not of parts that are made up. -/
  first : ∀ c ∈ cs, ∀ d ∈ cs, d.whole = c.first → ∀ e ∈ cs, e.whole ≠ d.first

lemma IsTidy.of_isTidy {cs : List Composite} (h : isTidy cs = true) : IsTidy cs := by
  simp only [isTidy, Bool.and_eq_true, List.all_eq_true, Bool.not_eq_true', Bool.or_eq_true] at h
  obtain ⟨hapart, hall⟩ := h
  have hnodup := (nodup_of_areApart [] hapart).1
  have hwhole : ∀ n, (mask (cs.map (·.whole))).testBit n = false ↔ ∀ d ∈ cs, d.whole ≠ n := by
    intro n
    rw [← Bool.not_eq_true, testBit_mask]
    simp
  refine ⟨hnodup, fun c hc => (hall c hc).1.1.1,
    fun c hc => combiningClass_eq_zero (hall c hc).1.1.2,
    fun c hc => (hwhole _).mp (hall c hc).1.2, ?_⟩
  intro c hc d hd heq
  rcases (hall c hc).2 with hnone | hbase
  · exact absurd heq ((hwhole _).mp hnone d hd)
  · rw [testBit_mask, List.mem_map] at hbase
    obtain ⟨b, hb, hbeq⟩ := hbase
    obtain ⟨hb, hfirst⟩ := List.mem_filter.mp hb
    obtain rfl : b = d := List.inj_on_of_nodup_map hnodup hb hd (hbeq.trans heq.symm)
    exact (hwhole _).mp (by simpa using hfirst)

/-- The composites of rows that are given by their characters. -/
def compositesIn (rows : List (List Char)) : List Composite :=
  rows.flatMap fun row => (splitChars ';' row).flatMap readEntry

lemma composites_eq {rows : List (List Char)} (h : compositionRows = rows.map String.ofList) :
    composites = compositesIn rows := by
  rw [composites, h, compositesIn, List.flatMap_map]
  simp only [String.toList_ofList]

/-- Rows are taken for the lists of their characters one by one. -/
lemma exists_rows_cons {P : List (List Char) → Prop} {row : List Char} {rows : List String}
    (h : ∃ rest, rows = rest.map String.ofList ∧ P (row :: rest)) :
    ∃ all, String.ofList row :: rows = all.map String.ofList ∧ P all := by
  obtain ⟨rest, rfl, hrest⟩ := h
  exact ⟨row :: rest, rfl, hrest⟩

lemma exists_rows_isTidy :
    ∃ rows, compositionRows = rows.map String.ofList ∧ isTidy (compositesIn rows) = true := by
  unfold compositionRows
  dsimp only
  repeat refine exists_rows_cons ?_
  exact ⟨[], rfl, by decide +kernel⟩

lemma isTidy_composites : IsTidy composites := by
  obtain ⟨rows, hrows, htidy⟩ := exists_rows_isTidy
  rw [composites_eq hrows]
  exact .of_isTidy htidy

/-! ### Parts and wholes -/

variable {a b n : Nat}

lemma syllableParts_of_syllable? (h : syllable? a b = some n) :
    isSyllable n = true ∧ syllableParts n = (a, b) := by
  unfold syllable? at h
  split at h
  · rename_i hlead
    simp only [firstLead, firstVowel, firstSyllable] at hlead h
    have hn : n = 0xAC00 + ((a - 0x1100) * 21 + (b - 0x1161)) * 28 := (Option.some.inj h).symm
    have hindex : n - 0xAC00 = ((a - 0x1100) * 21 + (b - 0x1161)) * 28 := by omega
    rw [isSyllable_iff, syllableParts, firstSyllable, hindex, if_pos (by omega), firstLead,
      firstVowel, Prod.mk.injEq]
    omega
  · split at h
    · rename_i htrail
      rw [isSyllable_iff] at htrail
      simp only [beforeTrail, firstSyllable] at htrail h
      have hn : n = a + (b - 0x11A7) := (Option.some.inj h).symm
      have hrest : (n - 0xAC00) % 28 = b - 0x11A7 := by omega
      rw [isSyllable_iff, syllableParts, firstSyllable, hrest, if_neg (by omega), beforeTrail,
        Prod.mk.injEq]
      omega
    · cases h

/-- A character with parts is a syllable or has an entry. -/
lemma parts?_cases (h : parts? n = some (a, b)) :
    isSyllable n = true ∧ syllableParts n = (a, b) ∨ ⟨a, b, n⟩ ∈ composites := by
  unfold parts? at h
  split at h
  · rename_i hn
    exact .inl ⟨hn, Option.some.inj h⟩
  · obtain ⟨⟨first, second, whole⟩, hfind, heq⟩ := Option.map_eq_some_iff.mp h
    obtain rfl : whole = n := by simpa using List.find?_some hfind
    obtain ⟨rfl, rfl⟩ := Prod.mk.inj heq
    exact .inr (List.mem_of_find?_eq_some hfind)

lemma regular_of_mem (h : ⟨a, b, n⟩ ∈ composites) :
    0x3C ≤ a ∧ 128 ≤ b ∧ 128 ≤ n ∧ (a < 0x20000 ∧ isHangul a = false) ∧
      (b < 0x20000 ∧ isHangul b = false) ∧ n < 0x20000 ∧ isHangul n = false := by
  simpa [Composite.isRegular, and_assoc] using isTidy_composites.regular _ h

lemma isSyllable_eq_false (h : isHangul n = false) : isSyllable n = false :=
  (Bool.or_eq_false_iff.mp h).2

/-- A composite has the parts of its entry. -/
lemma parts?_of_mem (h : ⟨a, b, n⟩ ∈ composites) : parts? n = some (a, b) := by
  obtain ⟨-, -, -, -, -, -, hhangul⟩ := regular_of_mem h
  rw [parts?, isSyllable_eq_false hhangul]
  cases hfind : composites.find? (·.whole = n) with
  | none => simpa using List.find?_eq_none.mp hfind _ h
  | some c =>
    have hwhole : c.whole = n := by simpa using List.find?_some hfind
    obtain rfl := List.inj_on_of_nodup_map isTidy_composites.nodup
      (List.mem_of_find?_eq_some hfind) h hwhole
    rfl

/-- What is made up of two parts has these parts. -/
lemma parts?_of_whole? (h : whole? a b = some n) : parts? n = some (a, b) := by
  unfold whole? at h
  split at h
  · rename_i m hsyllable
    obtain rfl := Option.some.inj h
    obtain ⟨hn, hparts⟩ := syllableParts_of_syllable? hsyllable
    rw [parts?, if_pos hn, hparts]
  · obtain ⟨⟨first, second, whole⟩, hfind, rfl⟩ := Option.map_eq_some_iff.mp h
    obtain ⟨rfl, rfl⟩ : first = a ∧ second = b := by simpa using List.find?_some hfind
    exact parts?_of_mem (List.mem_of_find?_eq_some hfind)

lemma syllableParts_of_open (h : (n - firstSyllable) % 28 = 0) : syllableParts n =
    (firstLead + (n - firstSyllable) / (21 * 28), firstVowel + (n - firstSyllable) / 28 % 21) := by
  unfold syllableParts
  exact if_pos h

lemma syllableParts_of_closed (h : (n - firstSyllable) % 28 ≠ 0) : syllableParts n =
    (n - (n - firstSyllable) % 28, beforeTrail + (n - firstSyllable) % 28) := by
  unfold syllableParts
  exact if_neg h

/-- The parts of a syllable are a consonant and a vowel, or a syllable of such and a consonant. -/
lemma syllableParts_bounds (h : isSyllable n = true) :
    0x1161 ≤ (syllableParts n).2 ∧ (syllableParts n).2 < 0x11C3 ∧
      (0x1100 ≤ (syllableParts n).1 ∧ (syllableParts n).1 < 0x1113 ∨
        isSyllable (syllableParts n).1 = true ∧
          0x1100 ≤ (syllableParts (syllableParts n).1).1 ∧
          (syllableParts (syllableParts n).1).1 < 0x1113) := by
  rw [isSyllable_iff] at h
  by_cases hopen : (n - firstSyllable) % 28 = 0
  · rw [syllableParts_of_open hopen]
    simp only [firstSyllable, firstLead, firstVowel]
    omega
  · have hfirst : (n - (n - firstSyllable) % 28 - firstSyllable) % 28 = 0 := by
      rw [firstSyllable] at hopen ⊢
      omega
    rw [syllableParts_of_closed hopen, syllableParts_of_open hfirst, isSyllable_iff]
    simp only [firstSyllable, firstLead, beforeTrail] at hopen ⊢
    omega

/-- What is no syllable and has no entry has no parts. -/
lemma parts?_eq_none (hsyllable : isSyllable n = false)
    (hentry : ∀ c ∈ composites, c.whole ≠ n) : parts? n = none := by
  rw [parts?, hsyllable, List.find?_eq_none.mpr (by simpa using hentry)]
  rfl

/-- The parts of syllables that are no syllables have no parts. -/
lemma parts?_of_jamo (hlow : 0x1100 ≤ n) (hhigh : n < 0x11C3) : parts? n = none := by
  refine parts?_eq_none ?_ ?_
  · rw [← Bool.not_eq_true, isSyllable_iff]
    omega
  · rintro ⟨a, b, whole⟩ hc rfl
    obtain ⟨-, -, -, -, -, -, hhangul⟩ := regular_of_mem hc
    rw [isHangul_iff.mpr (.inl ⟨hlow, hhigh⟩)] at hhangul
    cases hhangul

/-- The second part of a character has no parts. -/
lemma parts?_second (h : parts? n = some (a, b)) : parts? b = none := by
  rcases parts?_cases h with ⟨hn, hparts⟩ | hmem
  · have hbounds := syllableParts_bounds hn
    rw [hparts] at hbounds
    exact parts?_of_jamo (by omega) hbounds.2.1
  · obtain ⟨-, -, -, -, ⟨-, hhangul⟩, -⟩ := regular_of_mem hmem
    exact parts?_eq_none (isSyllable_eq_false hhangul) (isTidy_composites.second _ hmem)

/-- The first part of the first part of a character has no parts. -/
lemma parts?_first {a' b' : Nat} (h : parts? n = some (a, b)) (h' : parts? a = some (a', b')) :
    parts? a' = none := by
  rcases parts?_cases h with ⟨hn, hparts⟩ | hmem
  · obtain ⟨-, -, hfirst⟩ := syllableParts_bounds hn
    rw [hparts] at hfirst
    rcases hfirst with ⟨hlow, hhigh⟩ | ⟨hsyllable, hlow, hhigh⟩
    · rw [parts?_of_jamo hlow (by omega)] at h'
      cases h'
    · rw [parts?, if_pos hsyllable, Option.some.injEq] at h'
      rw [h'] at hlow hhigh
      exact parts?_of_jamo hlow (by omega)
  · obtain ⟨-, -, -, ⟨-, hhangul⟩, -⟩ := regular_of_mem hmem
    rcases parts?_cases h' with ⟨hsyllable, -⟩ | hmem'
    · rw [isSyllable_eq_false hhangul] at hsyllable
      cases hsyllable
    · obtain ⟨-, -, -, ⟨-, hhangul'⟩, -⟩ := regular_of_mem hmem'
      exact parts?_eq_none (isSyllable_eq_false hhangul')
        (isTidy_composites.first _ hmem _ hmem' rfl)

/-- Where the parts of a character lie, and that the first is no mark. -/
lemma parts?_bounds (h : parts? n = some (a, b)) :
    0x3C ≤ a ∧ 128 ≤ b ∧ 128 ≤ n ∧ a < 0x20000 ∧ b < 0x20000 ∧ n < 0x20000 ∧
      combiningClass a = 0 := by
  rcases parts?_cases h with ⟨hn, hparts⟩ | hmem
  · have hbounds := syllableParts_bounds hn
    rw [hparts] at hbounds
    rw [isSyllable_iff] at hn hbounds
    dsimp only at hbounds
    have hhangul : isHangul a = true := by
      rw [isHangul_iff]
      omega
    refine ⟨?_, ?_, ?_, ?_, ?_, ?_, combiningClass_of_plain (.inr (.inr hhangul))⟩ <;> omega
  · obtain ⟨ha, hb, hn, ⟨ha', -⟩, ⟨hb', -⟩, hn', -⟩ := regular_of_mem hmem
    exact ⟨ha, hb, hn, ha', hb', hn', isTidy_composites.first_class _ hmem⟩

/-- A character that has no parts, is no mark and is never a second part. -/
structure IsInert (n : Nat) : Prop where
  /-- It has no parts. -/
  parts : parts? n = none
  /-- It is no mark. -/
  class_eq : combiningClass n = 0
  /-- Nothing is made up with it as the second part. -/
  second : ∀ m, whole? m n = none

/-- ASCII characters are inert, and so are those from the third plane on. -/
lemma isInert_of_plain (h : n < 128 ∨ 0x20000 ≤ n) : IsInert n where
  parts := by
    rw [Option.eq_none_iff_forall_ne_some]
    rintro ⟨a, b⟩ hparts
    have := parts?_bounds hparts
    omega
  class_eq := combiningClass_of_plain (h.imp_right .inl)
  second := by
    intro m
    rw [Option.eq_none_iff_forall_ne_some]
    intro whole hwhole
    have := parts?_bounds (parts?_of_whole? hwhole)
    omega

/-- Nothing is made up with a low character as the first part. -/
lemma whole?_of_low (h : n < 0x3C) (m : Nat) : whole? n m = none := by
  rw [Option.eq_none_iff_forall_ne_some]
  intro whole hwhole
  have := parts?_bounds (parts?_of_whole? hwhole)
  omega

/-- Nothing is made up with a mark as the first part. -/
lemma whole?_of_mark (h : combiningClass n ≠ 0) (m : Nat) : whole? n m = none := by
  rw [Option.eq_none_iff_forall_ne_some]
  intro whole hwhole
  exact h (parts?_bounds (parts?_of_whole? hwhole)).2.2.2.2.2.2

end XoLedger
