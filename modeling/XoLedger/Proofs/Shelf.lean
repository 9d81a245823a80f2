import Mathlib.Data.List.Nodup
import XoLedger.Proofs.Gateway.Memory
import XoLedger.Proofs.Projection

/-!
# A ledger in memory is read as a shelf of games

Games are put into a ledger in memory and removed from it, and a projector reads all of them or one
by its name, in any order. As long as no two of the names have the same address, the projector
gives the answers of a shelf that holds one game to a name: a game is read as it was last put, a
name without a game is not found, and the list of all games is what stands on the shelf. Trying
again makes no difference where nothing fails.
-/

namespace XoLedger.Shelf

/-! ### What a shelf answers -/

/-- What can be done to a shelf. -/
inductive Command where
  /-- Put a game there. -/
  | put (g : Game)
  /-- Remove the game of a name. -/
  | remove (name : String)
  /-- Read all games. -/
  | refreshAll
  /-- Read the game of a name. -/
  | refreshOne (name : String)

/-- The names that a command uses. -/
def Command.names : Command → List String
  | put g => [g.name]
  | remove name | refreshOne name => [name]
  | refreshAll => []

/-- The games that a command stores. -/
def Command.games : Command → List Game
  | put g => [g]
  | remove _ | refreshAll | refreshOne _ => []

/-- The shelf after a command. -/
def after (shelf : Shelf) : Command → Shelf
  | .put g => shelf.put g
  | .remove name => shelf.remove name
  | .refreshAll | .refreshOne _ => shelf

/-- What a shelf answers to a command. -/
inductive IsAnswer (shelf : Shelf) : Command → Projector.Answer → Prop where
  /-- A game is put there. -/
  | stored (g : Game) : IsAnswer shelf (.put g) .done
  /-- The game of a name, if there is one, is removed. -/
  | removed (name : String) : IsAnswer shelf (.remove name) .done
  /-- The games on the shelf are listed, each of them once, in order. -/
  | listed {snapshot : Snapshot} (mem : ∀ g, g ∈ snapshot.games ↔ shelf g.name = some g)
      (nodup : snapshot.games.Nodup) (sorted : snapshot.games.Pairwise Game.MayPrecede) :
      IsAnswer shelf .refreshAll (.list (.ok snapshot))
  /-- The game of the name is on the shelf. -/
  | found {name : String} {g : Game} (h : shelf name = some g) :
      IsAnswer shelf (.refreshOne name) (.game (.ok g))
  /-- There is no game of the name. -/
  | missing {name reason : String} (h : shelf name = none) :
      IsAnswer shelf (.refreshOne name) (.game (.error (.notFound reason)))

/-- What a shelf answers to one command after the other. -/
inductive AreAnswers : Shelf → List Command → List Projector.Answer → Prop where
  /-- Nothing is asked. -/
  | nil (shelf : Shelf) : AreAnswers shelf [] []
  /-- One command is answered, and the others by the shelf that is left. -/
  | cons {shelf : Shelf} {command : Command} {commands : List Command}
      {answer : Projector.Answer} {answers : List Projector.Answer}
      (first : IsAnswer shelf command answer)
      (others : AreAnswers (shelf.after command) commands answers) :
      AreAnswers shelf (command :: commands) (answer :: answers)

/-! ### What a projector answers -/

/-- Does what it is told, to the ledger or to the projector that reads it. -/
def obey (p : Projector MemoryLedger) :
    Command → Act MemoryLedger (Projector.Answer × Projector MemoryLedger)
  | .put g => Act.change fun l => ((.done, p), l.putGame g)
  | .remove name => Act.change fun l => ((.done, p), l.removeGame name)
  | .refreshAll => p.obey .refreshAll
  | .refreshOne name => p.obey (.refreshOne name)

/-- What comes back when one thing is done after the other. -/
def answers (p : Projector MemoryLedger) (l : MemoryLedger) : List Command → List Projector.Answer
  | [] => []
  | command :: commands =>
    let t := obey p command l
    t.value.1 :: answers t.value.2 t.world commands

open MemoryLedger

variable {names : List String} {p : Projector MemoryLedger} {l : MemoryLedger} {shelf : Shelf}

/-- All games are read off the ledger as they stand on the shelf. -/
lemma isAnswer_refreshAll (hp : IsReader p.gateway) (h : l.Holds names shelf) :
    IsAnswer shelf .refreshAll (p.obey .refreshAll l).value.1 ∧
      (p.obey .refreshAll l).world = l.afterFetch Address.gamePrefix ∧
      (p.obey .refreshAll l).value.2.gateway = p.gateway := by
  have hnow := Projector.obey_transition p l .refreshAll
  obtain ⟨hvalue, hworld⟩ := hp l Address.gamePrefix h.failures
  generalize p.obey .refreshAll l = t at hnow ⊢
  obtain ⟨⟨answer, p'⟩, events, l'⟩ := t
  simp only at hnow ⊢
  cases hnow with
  | @listed entries snapshot fetched isOf =>
    rw [hvalue, Except.ok.injEq] at fetched
    subst fetched
    obtain ⟨⟨games, hgames, hperm⟩, hsorted, -⟩ := isOf
    have hmem : ∀ g, g ∈ games ↔ shelf g.name = some g := by
      intro g
      have hread : g ∈ games ↔
          .ok g ∈ (l.entriesAt Address.gamePrefix).map fun e => Record.decode e.data := by
        rw [hgames]
        simp
      rw [hread, List.mem_map]
      constructor
      · rintro ⟨entry, hentry, hdecode⟩
        obtain ⟨g', hg', rfl⟩ := h.mem_entriesAt_gamePrefix.mp hentry
        rw [h.decode_encode hg', Except.ok.injEq] at hdecode
        exact hdecode ▸ hg'
      · intro hg
        exact ⟨_, h.mem_entriesAt_gamePrefix.mpr ⟨g, hg, rfl⟩, h.decode_encode hg⟩
    have hnodup : games.Nodup := by
      have hrecords := h.nodup_decode Address.gamePrefix
      rw [hgames] at hrecords
      exact List.Nodup.of_map Except.ok hrecords
    refine ⟨.listed (fun g => ?_) (hperm.nodup_iff.mpr hnodup) hsorted, hworld, rfl⟩
    rw [hperm.mem_iff, hmem]
  | listNotFetched fetched =>
    rw [hvalue] at fetched
    cases fetched
  | @listNotRead entries entry e fetched mem unreadable =>
    rw [hvalue, Except.ok.injEq] at fetched
    subst fetched
    obtain ⟨g, hg, rfl⟩ := h.mem_entriesAt_gamePrefix.mp mem
    rw [h.decode_encode hg] at unreadable
    cases unreadable

/-- One game is read off the ledger as it stands on the shelf. -/
lemma isAnswer_refreshOne (hp : IsReader p.gateway) (h : l.Holds names shelf)
    (hapart : AreApart names) {name : String} (hname : name ∈ names) :
    IsAnswer shelf (.refreshOne name) (p.obey (.refreshOne name) l).value.1 ∧
      (p.obey (.refreshOne name) l).world = l.afterFetch (Address.ofName name) ∧
      (p.obey (.refreshOne name) l).value.2.gateway = p.gateway := by
  have hnow := Projector.obey_transition p l (.refreshOne name)
  obtain ⟨hvalue, hworld⟩ := hp l (Address.ofName name) h.failures
  -- whatever stands at the address is the record of the game on the shelf
  have hfirst : ∀ {entry rest},
      ((p.gateway.fetch (Address.ofName name)).run l).value = .ok (entry :: rest) →
        ∃ g, shelf name = some g ∧ Record.decode entry.data = .ok g := by
    intro entry rest fetched
    rw [hvalue, Except.ok.injEq] at fetched
    have hentry : entry ∈ l.entriesAt (Address.ofName name) := by
      rw [fetched]
      exact List.mem_cons_self
    obtain ⟨g, hg, rfl⟩ := (h.mem_entriesAt_ofName hapart hname).mp hentry
    obtain rfl := h.name_eq name g hg
    exact ⟨g, hg, h.decode_encode hg⟩
  generalize p.obey (.refreshOne name) l = t at hnow ⊢
  obtain ⟨⟨answer, p'⟩, events, l'⟩ := t
  simp only at hnow ⊢
  cases hnow with
  | focused fetched read =>
    obtain ⟨g, hg, hread⟩ := hfirst fetched
    rw [hread, Except.ok.injEq] at read
    subst read
    exact ⟨.found hg, hworld, rfl⟩
  | focusNotFetched fetched =>
    rw [hvalue] at fetched
    cases fetched
  | focusMissing fetched =>
    refine ⟨.missing ?_, hworld, rfl⟩
    rw [hvalue, Except.ok.injEq] at fetched
    rw [Option.eq_none_iff_forall_ne_some]
    intro g hg
    have hentry := (h.mem_entriesAt_ofName hapart hname).mpr ⟨g, hg, rfl⟩
    rw [fetched] at hentry
    exact absurd hentry List.not_mem_nil
  | focusNotRead fetched unreadable =>
    obtain ⟨g, -, hread⟩ := hfirst fetched
    rw [hread] at unreadable
    cases unreadable

/-- One command is answered as by the shelf, and the ledger holds what is left on it. -/
lemma obey_isAnswer (hp : IsReader p.gateway) (h : l.Holds names shelf) (hapart : AreApart names)
    {command : Command} (hnames : command.names ⊆ names)
    (hgames : ∀ g ∈ command.games, g.IsCommaFree) :
    IsAnswer shelf command (obey p command l).value.1 ∧
      (obey p command l).world.Holds names (shelf.after command) ∧
      (obey p command l).value.2.gateway = p.gateway := by
  cases command with
  | put g =>
    have hg := hgames g List.mem_cons_self
    exact ⟨.stored g, h.putGame hapart hg (hnames List.mem_cons_self), rfl⟩
  | remove name =>
    exact ⟨.removed name, h.removeGame hapart (hnames List.mem_cons_self), rfl⟩
  | refreshAll =>
    obtain ⟨hanswer, hworld, hgateway⟩ := isAnswer_refreshAll hp h
    refine ⟨hanswer, ?_, hgateway⟩
    rw [obey, hworld]
    exact h.afterFetch _
  | refreshOne name =>
    obtain ⟨hanswer, hworld, hgateway⟩ :=
      isAnswer_refreshOne hp h hapart (hnames List.mem_cons_self)
    refine ⟨hanswer, ?_, hgateway⟩
    rw [obey, hworld]
    exact h.afterFetch _

/-- Whatever is done, a ledger that holds a shelf is read as that shelf. -/
lemma answers_areAnswers (hp : IsReader p.gateway) (h : l.Holds names shelf)
    (hapart : AreApart names) {commands : List Command}
    (hnames : commands.flatMap Command.names ⊆ names)
    (hgames : ∀ g ∈ commands.flatMap Command.games, g.IsCommaFree) :
    AreAnswers shelf commands (answers p l commands) := by
  induction commands generalizing p l shelf with
  | nil => exact .nil shelf
  | cons command commands ih =>
    rw [List.flatMap_cons, List.append_subset] at hnames
    rw [List.flatMap_cons, List.forall_mem_append] at hgames
    obtain ⟨hanswer, hholds, hgateway⟩ := obey_isAnswer hp h hapart hnames.1 hgames.1
    refine .cons hanswer (ih ?_ hholds hnames.2 hgames.2)
    rw [hgateway]
    exact hp

/-- **A ledger in memory is read as a shelf of games.** Games without commas are put into a new
ledger in memory and removed from it, and a projector reads them, through the ledger itself or
through any policy of trying again. If the names that are used have addresses of their own, every
answer is the one of a shelf: a game is read as it was last put under its name, a name is not found
under which nothing was put or what was put has been removed, and the list has exactly the games on
the shelf, each once and in order. -/
theorem answers_are_of_shelf {gateway : Gateway MemoryLedger}
    (hgateway : gateway = MemoryLedger.gateway ∨
      ∃ policy, gateway = MemoryLedger.gateway.retrying policy)
    {commands : List Command} (hapart : AreApart (commands.flatMap Command.names))
    (hgames : ∀ g ∈ commands.flatMap Command.games, g.IsCommaFree) :
    AreAnswers .empty commands (answers (.start gateway) {} commands) := by
  have hreader : IsReader gateway := by
    rcases hgateway with rfl | ⟨policy, rfl⟩
    · exact isReader_gateway
    · exact isReader_gateway.retrying policy
  exact answers_areAnswers hreader (.empty _) hapart (List.Subset.refl _) hgames

/-- A game is put twice and another one is removed, and three calls may be made for each answer. -/
theorem answers_are_of_shelf_replaced :
    let opened : Game := ⟨"Tic", "---------", .firstToMove, "", ""⟩
    let moved : Game := ⟨"Tic", "X--------", .secondToMove, "02aa", ""⟩
    let other : Game := ⟨"tac", "---------", .unset, "", ""⟩
    let commands : List Command := [.put other, .put opened, .refreshOne "Tic", .put moved,
      .refreshAll, .remove "tac", .refreshOne "tac", .refreshOne "Tic", .refreshAll]
    AreApart (commands.flatMap Command.names) ∧
      (∀ g ∈ commands.flatMap Command.games, g.IsCommaFree) ∧
      AreAnswers .empty commands
        (answers (.start (MemoryLedger.gateway.retrying ⟨3, 1500⟩)) {} commands) := by
  intro opened moved other commands
  have hne : Address.ofName "Tic" ≠ Address.ofName "tac" := by decide +kernel
  have htwo : AreApart ["Tic", "tac"] := by simp [AreApart, hne, hne.symm]
  have hapart : AreApart (commands.flatMap Command.names) := htwo.mono (by decide)
  have hgames : ∀ g ∈ commands.flatMap Command.games, g.IsCommaFree := by decide
  exact ⟨hapart, hgames, answers_are_of_shelf (.inr ⟨_, rfl⟩) hapart hgames⟩

end XoLedger.Shelf
