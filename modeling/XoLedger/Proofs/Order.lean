import Mathlib.Data.List.Nodup
import Mathlib.Data.List.Perm.Basic
import XoLedger.Proofs.Projection

/-!
# The published order is that of the names

A gateway may tell entries in any order. What is published of them is sorted, and the order depends
on the names alone: by their lowercase forms, and by the names themselves where these agree. Only
games of one name are equal in that order, and those stay as they were told. So where every name
occurs once, two answers with the same entries lead to one list.
-/

namespace XoLedger

namespace Game

variable {a b : Game}

lemma MayPrecede.refl (a : Game) : a.MayPrecede a :=
  .inr ⟨rfl, le_rfl⟩

/-- Two games stand before one another exactly if they have one name. -/
lemma mayPrecede_antisymm_iff : a.MayPrecede b ∧ b.MayPrecede a ↔ a.name = b.name := by
  constructor
  · rintro ⟨hab, hba⟩
    rcases hab with hab | ⟨hlower, hab⟩ <;> rcases hba with hba | ⟨hlower', hba⟩
    · exact absurd hba hab.asymm
    · exact absurd hlower' hab.ne'
    · exact absurd hlower hba.ne'
    · exact le_antisymm hab hba
  · intro h
    exact ⟨.inr ⟨by rw [h], h.le⟩, .inr ⟨by rw [h], h.ge⟩⟩

/-- Sorting does not change the order of games of one name. -/
lemma filter_name_mergeSort (games : List Game) (name : String) :
    (games.mergeSort precedes).filter (·.name = name) = games.filter (·.name = name) := by
  have hnamesakes : (games.filter (·.name = name)).Pairwise fun a b => a.precedes b = true := by
    refine List.pairwise_of_forall_mem_list fun a ha b hb => ?_
    have hname : a.name = b.name := by
      rw [of_decide_eq_true (List.mem_filter.mp ha).2, of_decide_eq_true (List.mem_filter.mp hb).2]
    exact (precedes_iff a b).mpr (mayPrecede_antisymm_iff.mpr hname).1
  have hsorted : (games.filter (·.name = name)).Sublist (games.mergeSort precedes) :=
    List.sublist_mergeSort precedes_trans precedes_total hnamesakes List.filter_sublist
  have hkept := hsorted.filter (·.name = name)
  rw [List.filter_filter] at hkept
  simp only [Bool.and_self] at hkept
  exact (hkept.eq_of_length ((List.mergeSort_perm games precedes).filter _).length_eq.symm).symm

/-- Where every name occurs once, the same games are sorted to the same list. -/
lemma mergeSort_eq_of_perm {games games' : List Game} (hperm : games.Perm games')
    (hnames : (games.map name).Nodup) :
    games.mergeSort precedes = games'.mergeSort precedes := by
  have hsame : (games.mergeSort precedes).Perm (games'.mergeSort precedes) :=
    (List.mergeSort_perm games precedes).trans
      (hperm.trans (List.mergeSort_perm games' precedes).symm)
  refine hsame.eq_of_pairwise ?_ (pairwise_mergeSort_precedes games)
    (pairwise_mergeSort_precedes games')
  intro a b ha hb hab hba
  have hmem : a ∈ games := (List.mergeSort_perm games precedes).mem_iff.mp ha
  have hmem' : b ∈ games :=
    hperm.mem_iff.mpr ((List.mergeSort_perm games' precedes).mem_iff.mp hb)
  exact List.inj_on_of_nodup_map hnames hmem hmem' (mayPrecede_antisymm_iff.mp ⟨hab, hba⟩)

end Game

/-! ### Answers in another order -/

/-- The games of the same entries are the same games. -/
lemma exists_readGames_of_perm {entries entries' : List StateEntry} {games : List Game}
    (hperm : entries.Perm entries') (h : readGames entries = .ok games) :
    ∃ games', readGames entries' = .ok games' ∧ games.Perm games' := by
  have hgames := readGames_eq_ok_iff.mp h
  have hread := (hperm.map fun entry => Record.decode entry.data).symm
  rcases readGames_cases entries' with ⟨games', hgames', hmap⟩ | ⟨entry, hmem, e, -, hentry⟩
  · rw [hgames, hmap, List.map_perm_map_iff Except.ok_injective] at hread
    exact ⟨games', hgames', hread.symm⟩
  · obtain ⟨g, -, hg⟩ := exists_decode_of_mem hgames (hperm.mem_iff.mpr hmem)
    rw [hentry] at hg
    cases hg

namespace Projector

variable {σ σ' : Type}

/-- **The published order is that of the names.** A game may stand before another if its lowercase
name comes first, or is the same and its name does not come later; every two games may stand in one
order or the other, and in both exactly if they have one name. Whatever is told and read is
published in that order, games of one name as they were told. And if no name occurs twice, two
answers with the same entries are published as the same list, whichever gateways told them and
whatever was published before. -/
theorem published_order_of_names :
    ((∀ a b : Game, a.precedes b = true ↔ a.MayPrecede b) ∧
      (∀ a : Game, a.MayPrecede a) ∧
      (∀ a b c : Game, a.MayPrecede b → b.MayPrecede c → a.MayPrecede c) ∧
      (∀ a b : Game, a.MayPrecede b ∨ b.MayPrecede a) ∧
      ∀ a b : Game, a.MayPrecede b ∧ b.MayPrecede a ↔ a.name = b.name) ∧
    (∀ (p : Projector σ) (world : σ) (entries : List StateEntry) (games : List Game),
      ((p.gateway.fetch Address.gamePrefix).run world).value = .ok entries →
      entries.map (fun entry => Record.decode entry.data) = games.map .ok →
        ∃ snapshot : Snapshot,
          (p.refreshAll world).value =
            (.ok snapshot, { p with games := p.games.replace snapshot }) ∧
          snapshot.games.Perm games ∧ snapshot.games.Pairwise Game.MayPrecede ∧
          ∀ name, snapshot.games.filter (·.name = name) = games.filter (·.name = name)) ∧
    ∀ (p : Projector σ) (p' : Projector σ') (world : σ) (world' : σ')
        (entries entries' : List StateEntry) (games : List Game),
      ((p.gateway.fetch Address.gamePrefix).run world).value = .ok entries →
      ((p'.gateway.fetch Address.gamePrefix).run world').value = .ok entries' →
      entries.Perm entries' →
      entries.map (fun entry => Record.decode entry.data) = games.map .ok →
      (games.map Game.name).Nodup →
        ∃ snapshot : Snapshot,
          (p.refreshAll world).value =
            (.ok snapshot, { p with games := p.games.replace snapshot }) ∧
          (p'.refreshAll world').value =
            (.ok snapshot, { p' with games := p'.games.replace snapshot }) := by
  refine ⟨⟨Game.precedes_iff, Game.MayPrecede.refl, fun _ _ _ => Game.MayPrecede.trans,
    Game.MayPrecede.total, fun _ _ => Game.mayPrecede_antisymm_iff⟩, ?_, ?_⟩
  · intro p world entries games hfetched hgames
    exact ⟨⟨games.mergeSort Game.precedes, true⟩,
      refreshAll_of_readGames hfetched (readGames_eq_ok_iff.mpr hgames),
      List.mergeSort_perm games Game.precedes, Game.pairwise_mergeSort_precedes games,
      Game.filter_name_mergeSort games⟩
  · intro p p' world world' entries entries' games hfetched hfetched' hperm hgames hnames
    have hread := readGames_eq_ok_iff.mpr hgames
    obtain ⟨games', hread', hperm'⟩ := exists_readGames_of_perm hperm hread
    refine ⟨⟨games.mergeSort Game.precedes, true⟩, refreshAll_of_readGames hfetched hread, ?_⟩
    rw [Game.mergeSort_eq_of_perm hperm' hnames]
    exact refreshAll_of_readGames hfetched' hread'

/-- Two ledgers tell three games, two of which have names that differ in case only, in opposite
orders. The same list is published of both. -/
theorem published_order_of_names_in_case :
    let games : List Game := [⟨"tic", "---------", .firstToMove, "", ""⟩,
      ⟨"Toe", "X--------", .secondToMove, "k", ""⟩, ⟨"Tic", "---------", .unset, "", ""⟩]
    let entries := games.map fun g => ("5b7349", Record.encode g)
    let p := start MemoryLedger.gateway
    ∃ snapshot : Snapshot,
      (p.refreshAll { entries }).value =
        (.ok snapshot, { p with games := p.games.replace snapshot }) ∧
      (p.refreshAll { entries := entries.reverse }).value =
        (.ok snapshot, { p with games := p.games.replace snapshot }) := by
  intro games entries p
  have hperm : (entries.map fun e => (⟨e.1, e.2⟩ : StateEntry)).Perm
      (entries.reverse.map fun e => ⟨e.1, e.2⟩) :=
    (List.reverse_perm entries).symm.map _
  exact published_order_of_names.2.2 p p { entries } { entries := entries.reverse }
    (entries.map fun e => ⟨e.1, e.2⟩) (entries.reverse.map fun e => ⟨e.1, e.2⟩) games
    (by decide +kernel) (by decide +kernel) hperm (by decide +kernel) (by decide +kernel)

end Projector

end XoLedger
