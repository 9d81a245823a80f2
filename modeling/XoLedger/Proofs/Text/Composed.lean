import Mathlib.Tactic.ByContra
import Mathlib.Tactic.Lemma
import XoLedger.Proofs.Text.Composites

/-!
# The composed form is a normal form

A text that is composed again stays as it is (`composed_composed`). For joining loses nothing: what
was joined is taken apart into what it was made of, and a mark that passed others to reach a letter
finds its way back among them, since these are of lower classes than it is (`apart_joinFrom`). And
low characters, among them blanks and dots, are neither made up nor lost: texts can be cut at dots
before they are composed or after.
-/

namespace XoLedger

/-! ### Taking apart -/

section TakeApart

variable {a b n : Nat}

lemma takeApart_of_none (h : parts? n = none) (depth : Nat) : takeApart depth n = [n] := by
  cases depth with
  | zero => rfl
  | succ depth => rw [takeApart, h]

lemma takeApart_succ (h : parts? n = some (a, b)) (depth : Nat) :
    takeApart (depth + 1) n = takeApart depth a ++ [b] := by
  rw [takeApart, h]

/-- No character can be taken apart more often than twice. -/
lemma takeApart_deepest (h : parts? n = some (a, b)) :
    takeApart deepest n = takeApart deepest a ++ [b] := by
  have hfirst : takeApart 2 a = takeApart 3 a := by
    cases ha : parts? a with
    | none => rw [takeApart_of_none ha, takeApart_of_none ha]
    | some parts =>
      have hnone := parts?_first h ha
      rw [takeApart_succ ha, takeApart_succ ha, takeApart_of_none hnone, takeApart_of_none hnone]
  rw [deepest, takeApart_succ h, hfirst]

/-- What a character is taken apart into has no parts. -/
lemma parts?_of_mem_takeApart {m : Nat} (h : m ∈ takeApart deepest n) : parts? m = none := by
  cases hn : parts? n with
  | none =>
    rw [takeApart_of_none hn, List.mem_singleton] at h
    rwa [h]
  | some parts =>
    rw [takeApart_deepest hn, List.mem_append, List.mem_singleton] at h
    rcases h with h | rfl
    · cases ha : parts? parts.1 with
      | none =>
        rw [takeApart_of_none ha, List.mem_singleton] at h
        rwa [h]
      | some parts' =>
        have hnone := parts?_first hn ha
        rw [takeApart_deepest ha, takeApart_of_none hnone, List.mem_append, List.mem_singleton,
          List.mem_singleton] at h
        rcases h with rfl | rfl
        · exact hnone
        · exact parts?_second ha
    · exact parts?_second hn

/-- What holds of the parts of a character with it holds of all that it is taken apart into. -/
lemma forall_mem_takeApart {P : Nat → Prop}
    (hparts : ∀ {n a b}, parts? n = some (a, b) → P n → P a ∧ P b) (depth : Nat) (hn : P n) :
    ∀ m ∈ takeApart depth n, P m := by
  induction depth generalizing n with
  | zero => simpa [takeApart] using hn
  | succ depth ih =>
    cases h : parts? n with
    | none => simpa [takeApart_of_none h] using hn
    | some parts =>
      obtain ⟨ha, hb⟩ := hparts h hn
      intro m hm
      rw [takeApart_succ h, List.mem_append, List.mem_singleton] at hm
      rcases hm with hm | rfl
      · exact ih ha m hm
      · exact hb

end TakeApart

/-! ### Settling -/

/-- Whether marks are in order: none stands before one of a lower class. -/
def AreSettled (ns : List Nat) : Prop :=
  ns.IsChain fun m n => combiningClass n = 0 ∨ combiningClass m ≤ combiningClass n

section Settle

variable {m n : Nat} {ns : List Nat}

lemma mem_settle : m ∈ settle n ns ↔ m = n ∨ m ∈ ns := by
  induction ns with
  | nil => simp [settle]
  | cons n' ns ih =>
    rw [settle]
    split
    · rw [List.mem_cons, ih, List.mem_cons, or_left_comm]
    · rw [List.mem_cons]

lemma mem_foldr_settle : m ∈ ns.foldr settle [] ↔ m ∈ ns := by
  induction ns with
  | nil => rfl
  | cons n ns ih => rw [List.foldr_cons, mem_settle, ih, List.mem_cons]

lemma settle_of_pass (hm : combiningClass m ≠ 0) (hlt : combiningClass m < combiningClass n) :
    settle n (m :: ns) = m :: settle n ns := by
  rw [settle, if_pos ⟨hm, hlt⟩]

/-- What may stand before a text stays there. -/
lemma settle_of_stop (h : ∀ m ∈ ns.head?, combiningClass m = 0 ∨
    combiningClass n ≤ combiningClass m) : settle n ns = n :: ns := by
  cases ns with
  | nil => rfl
  | cons m rest =>
    rw [settle, if_neg]
    rintro ⟨hm, hlt⟩
    rcases h m rfl with h | h
    · exact hm h
    · exact absurd hlt (Nat.not_lt.mpr h)

lemma areSettled_settle (h : AreSettled ns) : AreSettled (settle n ns) := by
  induction ns with
  | nil => exact .singleton n
  | cons m rest ih =>
    obtain ⟨hhead, hrest⟩ := List.isChain_cons.mp h
    by_cases hpass : combiningClass m ≠ 0 ∧ combiningClass m < combiningClass n
    · rw [settle_of_pass hpass.1 hpass.2]
      refine List.isChain_cons.mpr ⟨?_, ih hrest⟩
      intro k hk
      -- after `m` stands what stood there, or the new character
      cases rest with
      | nil =>
        cases hk
        exact .inr hpass.2.le
      | cons k' rest =>
        rw [settle] at hk
        split at hk
        · cases hk
          exact hhead _ rfl
        · cases hk
          exact .inr hpass.2.le
    · rw [settle, if_neg hpass]
      refine List.isChain_cons.mpr ⟨?_, h⟩
      intro k hk
      cases hk
      omega

lemma areSettled_foldr (ns : List Nat) : AreSettled (ns.foldr settle []) := by
  induction ns with
  | nil => exact .nil
  | cons n ns ih => exact areSettled_settle ih

/-- What is settled stays as it is. -/
lemma foldr_settle_of_areSettled (h : AreSettled ns) : ns.foldr settle [] = ns := by
  induction ns with
  | nil => rfl
  | cons n ns ih =>
    obtain ⟨hhead, hrest⟩ := List.isChain_cons.mp h
    rw [List.foldr_cons, ih hrest, settle_of_stop hhead]

/-- Marks of different classes can be settled in either order. -/
lemma settle_comm (hm : combiningClass m ≠ 0) (hlt : combiningClass m < combiningClass n) :
    settle m (settle n ns) = settle n (settle m ns) := by
  induction ns with
  | nil =>
    have hsettle : settle m [n] = [m, n] := settle_of_stop fun k hk => by
      cases hk
      exact .inr hlt.le
    rw [settle, settle, hsettle, settle_of_pass hm hlt]
    rfl
  | cons k rest ih =>
    by_cases hk : combiningClass k ≠ 0 ∧ combiningClass k < combiningClass m
    · have hk' := hk.2.trans hlt
      rw [settle_of_pass hk.1 hk', settle_of_pass hk.1 hk.2, settle_of_pass hk.1 hk.2,
        settle_of_pass hk.1 hk', ih]
    · have hstop : settle m (k :: rest) = m :: k :: rest := if_neg hk
      rw [hstop, settle_of_pass hm hlt]
      by_cases hk' : combiningClass k ≠ 0 ∧ combiningClass k < combiningClass n
      · rw [settle_of_pass hk'.1 hk'.2]
        exact if_neg hk
      · have hstop' : settle n (k :: rest) = n :: k :: rest := if_neg hk'
        rw [hstop']
        exact if_neg fun h => absurd h.2 (Nat.not_lt.mpr hlt.le)

/-- A mark can be settled before or after marks of lower classes. -/
lemma settle_foldr_comm {kept : List Nat}
    (h : ∀ k ∈ kept, combiningClass k ≠ 0 ∧ combiningClass k < combiningClass n) :
    settle n (kept.foldr settle ns) = kept.foldr settle (settle n ns) := by
  induction kept with
  | nil => rfl
  | cons k kept ih =>
    obtain ⟨hk, hlt⟩ := h k List.mem_cons_self
    rw [List.foldr_cons, List.foldr_cons, ← settle_comm hk hlt,
      ih fun k hk => h k (List.mem_cons_of_mem _ hk)]

end Settle

/-! ### Joining -/

/-- A text taken apart, its marks settled. -/
def apart (ns : List Nat) : List Nat :=
  (ns.flatMap (takeApart deepest)).foldr settle []

/-- A text joined from its first character on. -/
def joined : List Nat → List Nat
  | [] => []
  | n :: rest => joinFrom n [] rest

lemma composed_eq (ns : List Nat) : composed ns = joined (apart ns) :=
  rfl

/-- What stands in front is settled last. -/
lemma apart_append (ms ns : List Nat) :
    apart (ms ++ ns) = (ms.flatMap (takeApart deepest)).foldr settle (apart ns) := by
  rw [apart, List.flatMap_append, List.foldr_append, ← apart]

lemma flatMap_takeApart {ns : List Nat} (h : ∀ n ∈ ns, parts? n = none) :
    ns.flatMap (takeApart deepest) = ns := by
  induction ns with
  | nil => rfl
  | cons n ns ih =>
    rw [List.flatMap_cons, takeApart_of_none (h n List.mem_cons_self),
      ih fun m hm => h m (List.mem_cons_of_mem _ hm)]
    rfl

/-- Marks that wait behind a character, last first, while the rest of a text is joined to it. -/
structure AreKept (kept rest : List Nat) : Prop where
  /-- They are marks that have no parts. -/
  plain : ∀ k ∈ kept, parts? k = none ∧ combiningClass k ≠ 0
  /-- They stand in the order of their classes. -/
  sorted : kept.Pairwise fun k k' => combiningClass k' ≤ combiningClass k
  /-- So does a mark that follows them. -/
  next : ∀ k ∈ kept.head?, ∀ n ∈ rest.head?, combiningClass n = 0 ∨
    combiningClass k ≤ combiningClass n

namespace AreKept

variable {kept rest : List Nat} {n c : Nat}

lemma nil (rest : List Nat) : AreKept [] rest :=
  ⟨List.forall_mem_nil _, .nil, by simp⟩

/-- The last mark is of the highest class. -/
lemma le_of_head (h : AreKept kept rest) (hc : ∀ k ∈ kept.head?, combiningClass k ≤ c) :
    ∀ k ∈ kept, combiningClass k ≤ c := by
  intro k hk
  cases kept with
  | nil => exact absurd hk List.not_mem_nil
  | cons k' kept =>
    rcases List.mem_cons.mp hk with rfl | hk
    · exact hc k rfl
    · exact (List.rel_of_pairwise_cons h.sorted hk).trans (hc k' rfl)

/-- They are taken apart as they are. -/
lemma flatMap_reverse (h : AreKept kept rest) :
    kept.reverse.flatMap (takeApart deepest) = kept.reverse :=
  flatMap_takeApart fun k hk => (h.plain k (List.mem_reverse.mp hk)).1

/-- A mark that reaches the character is of a higher class than all of them. -/
lemma passed (h : AreKept kept rest)
    (hlower : ∀ k ∈ kept.head?, combiningClass k < combiningClass n) :
    ∀ k ∈ kept.reverse, combiningClass k ≠ 0 ∧ combiningClass k < combiningClass n := by
  intro k hk
  have hmem : k ∈ kept := List.mem_reverse.mp hk
  have hpos := (h.plain k hmem).2
  have hle := h.le_of_head (fun k' hk' => Nat.le_sub_one_of_lt (hlower k' hk')) k hmem
  exact ⟨hpos, by omega⟩

/-- They wait on when a mark has passed them. -/
lemma tail (h : AreKept kept (n :: rest)) (hsettled : AreSettled (n :: rest))
    (hlower : ∀ k ∈ kept.head?, combiningClass k < combiningClass n) : AreKept kept rest where
  plain := h.plain
  sorted := h.sorted
  next := by
    intro k hk n' hn'
    have := hlower k hk
    have := (List.isChain_cons.mp hsettled).1 n' hn'
    omega

/-- A mark that does not reach the character waits behind them. -/
lemma cons (h : AreKept kept (n :: rest)) (hsettled : AreSettled (n :: rest))
    (hn : parts? n = none) (hmark : combiningClass n ≠ 0) : AreKept (n :: kept) rest where
  plain := List.forall_mem_cons.mpr ⟨⟨hn, hmark⟩, h.plain⟩
  sorted := by
    refine List.pairwise_cons.mpr ⟨h.le_of_head fun k hk => ?_, h.sorted⟩
    exact (h.next k hk n rfl).resolve_left hmark
  next := by
    intro k hk n' hn'
    cases hk
    exact (List.isChain_cons.mp hsettled).1 n' hn'

end AreKept

/-- What is joined is taken apart again: a mark that reached `start` is taken off it, and settles
where it was, behind the marks that it had passed. -/
lemma apart_joinFrom {start : Nat} {kept rest : List Nat} (hkept : AreKept kept rest)
    (hrest : ∀ n ∈ rest, parts? n = none) (hsettled : AreSettled rest) :
    apart (joinFrom start kept rest) =
      (takeApart deepest start ++ kept.reverse ++ rest).foldr settle [] := by
  induction rest generalizing start kept with
  | nil => rw [joinFrom, apart, List.flatMap_cons, hkept.flatMap_reverse, List.append_nil]
  | cons n rest ih =>
    obtain ⟨hn, hrest⟩ := List.forall_mem_cons.mp hrest
    have hsettled' : AreSettled rest := (List.isChain_cons.mp hsettled).2
    rw [joinFrom]
    split
    · -- the mark reaches the start
      rename_i whole hwhole
      obtain ⟨hreached, hwhole⟩ : (kept.head?.all fun m => combiningClass m < combiningClass n) =
          true ∧ whole? start n = some whole := by
        split at hwhole
        · exact ⟨‹_›, hwhole⟩
        · cases hwhole
      have hlower : ∀ k ∈ kept.head?, combiningClass k < combiningClass n := by
        intro k hk
        rw [Option.mem_def.mp hk] at hreached
        simpa using hreached
      rw [ih (hkept.tail hsettled hlower) hrest hsettled',
        takeApart_deepest (parts?_of_whole? hwhole)]
      simp only [List.foldr_append, List.foldr_cons, List.foldr_nil]
      rw [settle_foldr_comm (hkept.passed hlower)]
    · split
      · -- the next letter begins
        rw [apart_append, ih (.nil rest) hrest hsettled', List.flatMap_cons,
          hkept.flatMap_reverse, takeApart_of_none hn]
        simp only [List.foldr_append, List.foldr_cons, List.reverse_nil, List.foldr_nil]
      · -- the mark is kept behind the others
        rename_i hmark
        rw [ih (hkept.cons hsettled hn hmark) hrest hsettled', List.reverse_cons,
          List.append_assoc, List.append_assoc, List.append_assoc]
        rfl

lemma parts?_of_mem_apart {n : Nat} {ns : List Nat} (h : n ∈ apart ns) : parts? n = none := by
  rw [apart, mem_foldr_settle, List.mem_flatMap] at h
  obtain ⟨m, -, hm⟩ := h
  exact parts?_of_mem_takeApart hm

/-- Nothing is lost in the composed form. -/
lemma apart_composed (ns : List Nat) : apart (composed ns) = apart ns := by
  have hsettled : AreSettled (apart ns) := areSettled_foldr _
  have hparts : ∀ n ∈ apart ns, parts? n = none := fun n hn => parts?_of_mem_apart hn
  rw [composed_eq]
  generalize apart ns = ms at hsettled hparts ⊢
  cases ms with
  | nil => rfl
  | cons n rest =>
    obtain ⟨hn, hrest⟩ := List.forall_mem_cons.mp hparts
    rw [joined, apart_joinFrom (.nil rest) hrest (List.isChain_cons.mp hsettled).2,
      takeApart_of_none hn]
    exact foldr_settle_of_areSettled hsettled

/-- **The composed form is a normal form.** -/
theorem composed_composed (ns : List Nat) : composed (composed ns) = composed ns := by
  rw [composed_eq (composed ns), apart_composed, ← composed_eq]

/-! ### What is in the composed form -/

lemma forall_mem_joinFrom {P : Nat → Prop}
    (hwhole : ∀ {a b n}, whole? a b = some n → P a → P b → P n) {start : Nat}
    {kept rest : List Nat} (hstart : P start) (hkept : ∀ n ∈ kept, P n) (hrest : ∀ n ∈ rest, P n) :
    ∀ n ∈ joinFrom start kept rest, P n := by
  induction rest generalizing start kept with
  | nil =>
    rw [joinFrom, List.forall_mem_cons]
    exact ⟨hstart, fun n hn => hkept n (List.mem_reverse.mp hn)⟩
  | cons n rest ih =>
    obtain ⟨hn, hrest⟩ := List.forall_mem_cons.mp hrest
    rw [joinFrom]
    split
    · rename_i whole hjoined
      have hjoined : whole? start n = some whole := by
        split at hjoined
        · exact hjoined
        · cases hjoined
      exact ih (hwhole hjoined hstart hn) hkept hrest
    · split
      · rw [List.forall_mem_append, List.forall_mem_cons]
        exact ⟨⟨hstart, fun n hn => hkept n (List.mem_reverse.mp hn)⟩,
          ih hn (List.forall_mem_nil _) hrest⟩
      · exact ih hstart (List.forall_mem_cons.mpr ⟨hn, hkept⟩) hrest

/-- What holds of parts with their character, and of a character with its parts, holds of the
composed form of a text if it holds of the text. -/
lemma forall_mem_composed {P : Nat → Prop}
    (hparts : ∀ {n a b}, parts? n = some (a, b) → P n → P a ∧ P b)
    (hwhole : ∀ {a b n}, whole? a b = some n → P a → P b → P n) {ns : List Nat}
    (h : ∀ n ∈ ns, P n) : ∀ n ∈ composed ns, P n := by
  have hall : ∀ n ∈ apart ns, P n := by
    intro n hn
    rw [apart, mem_foldr_settle, List.mem_flatMap] at hn
    obtain ⟨m, hm, hn⟩ := hn
    exact forall_mem_takeApart hparts deepest (h m hm) n hn
  rw [composed_eq]
  cases hapart : apart ns with
  | nil => exact List.forall_mem_nil _
  | cons n rest =>
    rw [hapart] at hall
    obtain ⟨hn, hrest⟩ := List.forall_mem_cons.mp hall
    exact forall_mem_joinFrom hwhole hn (List.forall_mem_nil _) hrest

/-- A low character is in the composed form of a text if it is in the text. -/
lemma mem_composed_iff_of_low {n : Nat} (hn : n < 0x3C) {ns : List Nat} :
    n ∈ composed ns ↔ n ∈ ns := by
  have hparts : ∀ {m a b}, parts? m = some (a, b) → m ≠ n → a ≠ n ∧ b ≠ n := by
    intro m a b h _
    have := parts?_bounds h
    omega
  constructor
  · intro hmem
    by_contra hnot
    refine forall_mem_composed hparts ?_ (fun m hm => ne_of_mem_of_not_mem hm hnot) n hmem rfl
    intro a b m h _ _
    have := parts?_bounds (parts?_of_whole? h)
    omega
  · intro hmem
    have hinert : parts? n = none := (isInert_of_plain (.inl (by omega))).parts
    have hapart : n ∈ apart (composed ns) := by
      rw [apart_composed, apart, mem_foldr_settle, List.mem_flatMap]
      exact ⟨n, hmem, by rw [takeApart_of_none hinert]; exact List.mem_singleton_self n⟩
    rw [apart, mem_foldr_settle, List.mem_flatMap] at hapart
    obtain ⟨m, hm, hn⟩ := hapart
    by_contra hnot
    exact forall_mem_takeApart hparts deepest (ne_of_mem_of_not_mem hm hnot) n hn rfl

/-! ### Texts that are composed -/

/-- A text of inert characters is composed. -/
lemma composed_of_isInert {ns : List Nat} (h : ∀ n ∈ ns, IsInert n) : composed ns = ns := by
  have hsettled : AreSettled ns := by
    induction ns with
    | nil => exact .nil
    | cons n ns ih =>
      refine List.isChain_cons.mpr ⟨fun m hm => .inl ?_, ih fun m hm => h m (.tail _ hm)⟩
      exact (h m (.tail _ (List.mem_of_mem_head? hm))).class_eq
  have hapart : apart ns = ns := by
    rw [apart, flatMap_takeApart fun n hn => (h n hn).parts, foldr_settle_of_areSettled hsettled]
  have hjoin : ∀ start, ∀ rest : List Nat, (∀ n ∈ rest, IsInert n) →
      joinFrom start [] rest = start :: rest := by
    intro start rest hrest
    induction rest generalizing start with
    | nil => rfl
    | cons n rest ih =>
      obtain ⟨hn, hrest⟩ := List.forall_mem_cons.mp hrest
      rw [joinFrom]
      simp [hn.second, hn.class_eq, ih n hrest]
  rw [composed_eq, hapart]
  cases ns with
  | nil => rfl
  | cons n rest => exact hjoin n rest fun m hm => h m (.tail _ hm)

/-! ### Cutting at dots -/

/-- The code point of the dot. -/
def dot : Nat := 46

lemma isInert_dot : IsInert dot := isInert_of_plain (.inl (by decide))

lemma settle_append_dot (n : Nat) (ms ns : List Nat) :
    settle n (ms ++ dot :: ns) = settle n ms ++ dot :: ns := by
  induction ms with
  | nil => exact settle_of_stop fun m hm => by cases hm; exact .inl isInert_dot.class_eq
  | cons m ms ih =>
    rw [List.cons_append, settle, settle, ih]
    split <;> rfl

lemma apart_append_dot (ms ns : List Nat) :
    apart (ms ++ dot :: ns) = apart ms ++ dot :: apart ns := by
  have hdot : apart (dot :: ns) = dot :: apart ns := by
    rw [apart, List.flatMap_cons, takeApart_of_none isInert_dot.parts, List.singleton_append,
      List.foldr_cons, ← apart]
    exact settle_of_stop fun m _ => .inr (isInert_dot.class_eq ▸ Nat.zero_le _)
  have hfront : ∀ ms : List Nat, ms.foldr settle (dot :: apart ns) =
      ms.foldr settle [] ++ dot :: apart ns := by
    intro ms
    induction ms with
    | nil => rfl
    | cons m ms ih => rw [List.foldr_cons, List.foldr_cons, ih, settle_append_dot]
  rw [apart_append, hdot, hfront]
  rfl

/-- Behind a character that nothing is joined to, a text is joined as by itself. -/
lemma joinFrom_of_alone {start : Nat} (h : ∀ n, whole? start n = none) (kept ns : List Nat) :
    joinFrom start kept ns = start :: kept.reverse ++ joined ns := by
  induction ns generalizing start kept with
  | nil => rw [joinFrom, joined, List.append_nil]
  | cons n ns ih =>
    have hnone : (if (kept.head?.all fun m => combiningClass m < combiningClass n) = true
        then whole? start n else none) = none := by
      rw [h, ite_self]
    rw [joinFrom, hnone]
    split
    · contradiction
    · split
      · rw [joined]
      · rename_i hmark
        rw [ih h, joined, ih (whole?_of_mark hmark)]
        simp

lemma joinFrom_append_dot (start : Nat) (kept ms ns : List Nat) :
    joinFrom start kept (ms ++ dot :: ns) = joinFrom start kept ms ++ dot :: joined ns := by
  have hdot : ∀ n, whole? dot n = none := whole?_of_low (by decide)
  induction ms generalizing start kept with
  | nil =>
    have hstart : joinFrom start kept (dot :: ns) =
        start :: kept.reverse ++ joinFrom dot [] ns := by
      rw [joinFrom, isInert_dot.second, ite_self]
      exact if_pos isInert_dot.class_eq
    rw [List.nil_append, hstart, joinFrom_of_alone hdot]
    rfl
  | cons m ms ih =>
    rw [List.cons_append, joinFrom, joinFrom]
    split
    · exact ih _ _
    · split
      · rw [ih, List.append_assoc]
      · exact ih _ _

/-- A text with a dot is composed on both sides of it. -/
lemma composed_append_dot (ms ns : List Nat) :
    composed (ms ++ dot :: ns) = composed ms ++ dot :: composed ns := by
  rw [composed_eq, apart_append_dot, composed_eq, composed_eq]
  cases apart ms with
  | nil => exact joinFrom_of_alone (whole?_of_low (by decide)) [] _
  | cons m ms => exact joinFrom_append_dot m [] ms _

end XoLedger
