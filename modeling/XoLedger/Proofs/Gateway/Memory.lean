import Mathlib.Data.String.Basic
import XoLedger.Gateway.Memory
import XoLedger.Proofs.Game.Address
import XoLedger.Proofs.Gateway.Retry
import XoLedger.Proofs.Record

/-!
# A ledger in memory holds the games that were put there

The entries of a ledger in memory stand in the order of their addresses, so storing a value adds
one entry and takes away the one that had its address. As long as no two names share an address,
the entries are the records of the games on a shelf (`MemoryLedger.Holds`), and what is fetched are
the records of those games whose addresses start with what is asked for.
-/

namespace XoLedger

/-! ### Shelves -/

/-- Games by their names. -/
def Shelf : Type := String → Option Game

namespace Shelf

/-- No games. -/
def empty : Shelf := fun _ => none

/-- The shelf with a game under its name. -/
def put (shelf : Shelf) (g : Game) : Shelf := fun name =>
  if name = g.name then some g else shelf name

/-- The shelf without the game of a name. -/
def remove (shelf : Shelf) (name : String) : Shelf := fun other =>
  if other = name then none else shelf other

lemma put_eq_some_iff {shelf : Shelf} {g g' : Game} {name : String} :
    shelf.put g name = some g' ↔
      (name = g.name ∧ g' = g) ∨ (name ≠ g.name ∧ shelf name = some g') := by
  unfold put
  split_ifs with hsame
  · simp [hsame, eq_comm]
  · simp [hsame]

lemma remove_eq_some_iff {shelf : Shelf} {name other : String} {g : Game} :
    shelf.remove name other = some g ↔ other ≠ name ∧ shelf other = some g := by
  unfold remove
  split_ifs with hsame
  · simp [hsame]
  · simp [hsame]

end Shelf

namespace MemoryLedger

/-! ### Entries -/

/-- Entries stand in the order of their addresses, and no two have the same. -/
def AreOrdered (entries : List (String × String)) : Prop :=
  entries.Pairwise fun e e' => e.1 < e'.1

/-- What is stored once a value is: that value, and what is stored elsewhere. -/
lemma mem_insertEntry {entries : List (String × String)} (h : AreOrdered entries)
    {address data : String} {e : String × String} :
    e ∈ insertEntry address data entries ↔ e = (address, data) ∨ (e ∈ entries ∧ e.1 ≠ address) := by
  induction entries with
  | nil => simp [insertEntry]
  | cons first rest ih =>
    obtain ⟨hfirst, hrest⟩ := List.pairwise_cons.mp h
    obtain ⟨a, d⟩ := first
    rw [insertEntry]
    split_ifs with hsame hless
    · -- the first entry is replaced
      subst hsame
      have hother : e ∈ rest → e.1 ≠ address := fun he => (hfirst e he).ne'
      rw [List.mem_cons, List.mem_cons]
      constructor
      · rintro (rfl | he)
        · exact .inl rfl
        · exact .inr ⟨.inr he, hother he⟩
      · rintro (rfl | ⟨rfl | he, hne⟩)
        · exact .inl rfl
        · exact absurd rfl hne
        · exact .inr he
    · -- the value comes before all entries
      have hother : e ∈ (a, d) :: rest → e.1 ≠ address := by
        intro he
        rcases List.mem_cons.mp he with rfl | he
        · exact hless.ne'
        · exact (hless.trans (hfirst e he)).ne'
      rw [List.mem_cons]
      constructor
      · rintro (rfl | he)
        · exact .inl rfl
        · exact .inr ⟨he, hother he⟩
      · rintro (rfl | ⟨he, -⟩)
        · exact .inl rfl
        · exact .inr he
    · rw [List.mem_cons, ih hrest, List.mem_cons]
      constructor
      · rintro (rfl | rfl | ⟨he, hne⟩)
        · exact .inr ⟨.inl rfl, fun heq => hsame heq.symm⟩
        · exact .inl rfl
        · exact .inr ⟨.inr he, hne⟩
      · rintro (rfl | ⟨rfl | he, hne⟩)
        · exact .inr (.inl rfl)
        · exact .inl rfl
        · exact .inr (.inr ⟨he, hne⟩)

/-- Storing a value keeps the order. -/
lemma areOrdered_insertEntry {entries : List (String × String)} (h : AreOrdered entries)
    (address data : String) : AreOrdered (insertEntry address data entries) := by
  induction entries with
  | nil => exact List.pairwise_singleton _ _
  | cons first rest ih =>
    obtain ⟨hfirst, hrest⟩ := List.pairwise_cons.mp h
    obtain ⟨a, d⟩ := first
    rw [insertEntry]
    split_ifs with hsame hless
    · subst hsame
      exact List.pairwise_cons.mpr ⟨hfirst, hrest⟩
    · refine List.pairwise_cons.mpr ⟨?_, h⟩
      intro e he
      rcases List.mem_cons.mp he with rfl | he
      · exact hless
      · exact hless.trans (hfirst e he)
    · refine List.pairwise_cons.mpr ⟨?_, ih hrest⟩
      intro e he
      rcases (mem_insertEntry hrest).mp he with rfl | ⟨he, -⟩
      · exact lt_of_le_of_ne (not_lt.mp hless) fun heq => hsame heq.symm
      · exact hfirst e he

/-! ### Games on a shelf -/

/-- A ledger holds the games on a shelf, whose names are among `names`, and is not told to fail. -/
structure Holds (names : List String) (l : MemoryLedger) (shelf : Shelf) : Prop where
  /-- The entries are in order. -/
  ordered : AreOrdered l.entries
  /-- The entries are the records of the games. -/
  mem_entries : ∀ e, e ∈ l.entries ↔
    ∃ g, shelf g.name = some g ∧ e = (Address.ofName g.name, Record.encode g)
  /-- Games stand under their names. -/
  name_eq : ∀ name g, shelf name = some g → g.name = name
  /-- Games can be stored. -/
  isCommaFree : ∀ name g, shelf name = some g → g.IsCommaFree
  /-- No other names are used. -/
  mem_names : ∀ name g, shelf name = some g → name ∈ names
  /-- No call fails. -/
  failures : l.failures = 0

/-- Names have addresses of their own. -/
def AreApart (names : List String) : Prop :=
  ∀ a ∈ names, ∀ b ∈ names, Address.ofName a = Address.ofName b → a = b

instance (names : List String) : Decidable (AreApart names) :=
  inferInstanceAs (Decidable (∀ a ∈ names, ∀ b ∈ names, _))

/-- Fewer names have addresses of their own, too. -/
lemma AreApart.mono {names fewer : List String} (h : AreApart names) (hsub : fewer ⊆ names) :
    AreApart fewer :=
  fun a ha b hb => h a (hsub ha) b (hsub hb)

/-- The entries that a question about an address is answered with. -/
def entriesAt (l : MemoryLedger) (address : String) : List StateEntry :=
  (l.entries.filter fun e => address.toList.isPrefixOf e.1.toList).map fun e => ⟨e.1, e.2⟩

/-- The ledger after it was asked about an address. -/
def afterFetch (l : MemoryLedger) (address : String) : MemoryLedger :=
  { l with stateCalls := l.stateCalls ++ [address] }

namespace Holds

variable {names : List String} {l : MemoryLedger} {shelf : Shelf}

/-- A new ledger holds nothing. -/
lemma empty (names : List String) : Holds names {} Shelf.empty where
  ordered := List.Pairwise.nil
  mem_entries := by simp [Shelf.empty]
  name_eq := by simp [Shelf.empty]
  isCommaFree := by simp [Shelf.empty]
  mem_names := by simp [Shelf.empty]
  failures := rfl

/-- A game that is stored stands under its name, instead of the one that stood there. -/
lemma putGame (h : l.Holds names shelf) (hapart : AreApart names) {g : Game}
    (hg : g.IsCommaFree) (hname : g.name ∈ names) :
    (l.putGame g).Holds names (shelf.put g) where
  ordered := areOrdered_insertEntry h.ordered _ _
  mem_entries := by
    intro e
    rw [MemoryLedger.putGame, putRaw, mem_insertEntry h.ordered, h.mem_entries]
    constructor
    · rintro (rfl | ⟨⟨g', hg', rfl⟩, hne⟩)
      · exact ⟨g, Shelf.put_eq_some_iff.mpr (.inl ⟨rfl, rfl⟩), rfl⟩
      · refine ⟨g', Shelf.put_eq_some_iff.mpr (.inr ⟨fun heq => hne ?_, hg'⟩), rfl⟩
        rw [heq]
    · rintro ⟨g', hg', rfl⟩
      rcases Shelf.put_eq_some_iff.mp hg' with ⟨-, rfl⟩ | ⟨hother, hg'⟩
      · exact .inl rfl
      · refine .inr ⟨⟨g', hg', rfl⟩, fun heq => hother ?_⟩
        exact hapart _ (h.mem_names _ _ hg') _ hname heq
  name_eq := by
    intro name g' hg'
    rcases Shelf.put_eq_some_iff.mp hg' with ⟨rfl, rfl⟩ | ⟨-, hg'⟩
    · rfl
    · exact h.name_eq name g' hg'
  isCommaFree := by
    intro name g' hg'
    rcases Shelf.put_eq_some_iff.mp hg' with ⟨rfl, rfl⟩ | ⟨-, hg'⟩
    · exact hg
    · exact h.isCommaFree name g' hg'
  mem_names := by
    intro name g' hg'
    rcases Shelf.put_eq_some_iff.mp hg' with ⟨rfl, -⟩ | ⟨-, hg'⟩
    · exact hname
    · exact h.mem_names name g' hg'
  failures := h.failures

/-- A game that is removed is gone, and no other is. -/
lemma removeGame (h : l.Holds names shelf) (hapart : AreApart names) {name : String}
    (hname : name ∈ names) : (l.removeGame name).Holds names (shelf.remove name) where
  ordered := h.ordered.filter _
  mem_entries := by
    intro e
    rw [MemoryLedger.removeGame, List.mem_filter, h.mem_entries, decide_eq_true_eq]
    constructor
    · rintro ⟨⟨g, hg, rfl⟩, hne⟩
      refine ⟨g, Shelf.remove_eq_some_iff.mpr ⟨fun heq => hne ?_, hg⟩, rfl⟩
      rw [heq]
    · rintro ⟨g, hg, rfl⟩
      obtain ⟨hother, hg⟩ := Shelf.remove_eq_some_iff.mp hg
      refine ⟨⟨g, hg, rfl⟩, fun heq => hother ?_⟩
      exact hapart _ (h.mem_names _ _ hg) _ hname heq
  name_eq := fun other g hg => h.name_eq other g (Shelf.remove_eq_some_iff.mp hg).2
  isCommaFree := fun other g hg => h.isCommaFree other g (Shelf.remove_eq_some_iff.mp hg).2
  mem_names := fun other g hg => h.mem_names other g (Shelf.remove_eq_some_iff.mp hg).2
  failures := h.failures

/-- Asking changes nothing that is held. -/
lemma afterFetch (h : l.Holds names shelf) (address : String) :
    (l.afterFetch address).Holds names shelf :=
  ⟨h.ordered, h.mem_entries, h.name_eq, h.isCommaFree, h.mem_names, h.failures⟩

/-- The answer to a question about an address are the records of the games at addresses that start
with it. -/
lemma mem_entriesAt (h : l.Holds names shelf) {address : String} {entry : StateEntry} :
    entry ∈ l.entriesAt address ↔
      ∃ g, shelf g.name = some g ∧ address.toList <+: (Address.ofName g.name).toList ∧
        entry = ⟨Address.ofName g.name, Record.encode g⟩ := by
  simp only [entriesAt, List.mem_map, List.mem_filter, h.mem_entries, List.isPrefixOf_iff_prefix]
  constructor
  · rintro ⟨e, ⟨⟨g, hg, rfl⟩, hprefix⟩, rfl⟩
    exact ⟨g, hg, hprefix, rfl⟩
  · rintro ⟨g, hg, hprefix, rfl⟩
    exact ⟨_, ⟨⟨g, hg, rfl⟩, hprefix⟩, rfl⟩

/-- What the record of a game on the shelf is read as. -/
lemma decode_encode (h : l.Holds names shelf) {g : Game} (hg : shelf g.name = some g) :
    Record.decode (Record.encode g) = .ok g :=
  Record.decode_encode_iff.mpr ⟨rfl, h.isCommaFree _ _ hg⟩

/-- Under the digits that all games share stands every game. -/
lemma mem_entriesAt_gamePrefix (h : l.Holds names shelf) {entry : StateEntry} :
    entry ∈ l.entriesAt Address.gamePrefix ↔
      ∃ g, shelf g.name = some g ∧ entry = ⟨Address.ofName g.name, Record.encode g⟩ := by
  rw [h.mem_entriesAt]
  constructor
  · rintro ⟨g, hg, -, rfl⟩
    exact ⟨g, hg, rfl⟩
  · rintro ⟨g, hg, rfl⟩
    exact ⟨g, hg, Address.gamePrefix_isPrefix g.name, rfl⟩

/-- At the address of a name stands the game with that name and no other. -/
lemma mem_entriesAt_ofName (h : l.Holds names shelf) (hapart : AreApart names) {name : String}
    (hname : name ∈ names) {entry : StateEntry} :
    entry ∈ l.entriesAt (Address.ofName name) ↔
      ∃ g, shelf name = some g ∧ entry = ⟨Address.ofName name, Record.encode g⟩ := by
  rw [h.mem_entriesAt]
  constructor
  · rintro ⟨g, hg, hprefix, rfl⟩
    have hsame := hapart _ hname _ (h.mem_names _ _ hg) (Address.ofName_isPrefix_iff.mp hprefix)
    rw [hsame]
    exact ⟨g, hg, rfl⟩
  · rintro ⟨g, hg, rfl⟩
    obtain rfl := h.name_eq name g hg
    exact ⟨g, hg, List.prefix_rfl, rfl⟩

/-- No game stands twice in an answer. -/
lemma nodup_decode (h : l.Holds names shelf) (address : String) :
    ((l.entriesAt address).map fun entry => Record.decode entry.data).Nodup := by
  have hordered : (l.entriesAt address).Pairwise fun e e' => e.address < e'.address := by
    rw [entriesAt, List.pairwise_map]
    exact h.ordered.filter _
  rw [List.Nodup, List.pairwise_map]
  refine hordered.imp_of_mem fun {entry entry'} he he' hlt heq => ?_
  obtain ⟨g, hg, -, rfl⟩ := h.mem_entriesAt.mp he
  obtain ⟨g', hg', -, rfl⟩ := h.mem_entriesAt.mp he'
  rw [h.decode_encode hg, h.decode_encode hg', Except.ok.injEq] at heq
  subst heq
  exact lt_irrefl _ hlt

end Holds

/-! ### Fetching -/

/-- A gateway tells what a ledger in memory holds. -/
def IsReader (gateway : Gateway MemoryLedger) : Prop :=
  ∀ (l : MemoryLedger) (address : String), l.failures = 0 →
    ((gateway.fetch address).run l).value = .ok (l.entriesAt address) ∧
      ((gateway.fetch address).run l).world = l.afterFetch address

/-- The ledger itself does. -/
lemma isReader_gateway : IsReader gateway := by
  intro l address h
  have hpasses : ¬ 0 < (l.afterFetch address).failures := by
    rw [Nat.not_lt, Nat.le_zero]
    exact h
  have hfetch : fetch address l = (.ok (l.entriesAt address), l.afterFetch address) := by
    unfold fetch unlessFailing
    exact if_neg hpasses
  rw [gateway, ExceptT.run_mk, Act.change, hfetch]
  exact ⟨rfl, rfl⟩

/-- Where nothing fails, nothing is tried again. -/
lemma IsReader.retrying {gateway : Gateway MemoryLedger} (h : IsReader gateway)
    (policy : RetryPolicy) : IsReader (gateway.retrying policy) := by
  intro l address hfailures
  have hfetched := h l address hfailures
  rw [Gateway.retrying, RetryPolicy.repeatCall_run_of_ok hfetched.1]
  exact hfetched

end MemoryLedger

end XoLedger
