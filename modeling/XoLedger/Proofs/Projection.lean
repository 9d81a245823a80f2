import Mathlib.Data.String.Basic
import Mathlib.Tactic.Lemma
import XoLedger.Gateway.Memory
import XoLedger.Projection
import XoLedger.Proofs.Act
import XoLedger.Proofs.Outcome

/-!
# What is published is what was last read

A projector is told to read all games, to read one game, or to read from another gateway, in any
order, and each fetch is answered in any way. `Transition` says what one command may do: a list or
a game that is published comes from the one fetch that the command makes, and a command that fails
changes nothing that is published. By induction over the run, what is published after any step is
what the last successful command of its kind returned.
-/

namespace XoLedger

/-! ### The order of games -/

/-- Whether a game may stand before another: the lowercase names decide, and the names themselves
between names that differ in case only. -/
def Game.MayPrecede (a b : Game) : Prop :=
  lowercase a.name < lowercase b.name ∨ (lowercase a.name = lowercase b.name ∧ a.name ≤ b.name)

namespace Game

lemma precedes_iff (a b : Game) : a.precedes b = true ↔ a.MayPrecede b := by
  simp only [precedes, MayPrecede, Bool.or_eq_true, Bool.and_eq_true, Bool.not_eq_true',
    decide_eq_true_eq, decide_eq_false_iff_not, not_lt]

lemma MayPrecede.trans {a b c : Game} (hab : a.MayPrecede b) (hbc : b.MayPrecede c) :
    a.MayPrecede c := by
  rcases hab with hab | ⟨hab, hab'⟩ <;> rcases hbc with hbc | ⟨hbc, hbc'⟩
  · exact .inl (hab.trans hbc)
  · exact .inl (hbc ▸ hab)
  · exact .inl (hab ▸ hbc)
  · exact .inr ⟨hab.trans hbc, hab'.trans hbc'⟩

lemma MayPrecede.total (a b : Game) : a.MayPrecede b ∨ b.MayPrecede a := by
  rcases lt_trichotomy (lowercase a.name) (lowercase b.name) with h | h | h
  · exact .inl (.inl h)
  · rcases le_total a.name b.name with hn | hn
    · exact .inl (.inr ⟨h, hn⟩)
    · exact .inr (.inr ⟨h.symm, hn⟩)
  · exact .inr (.inl h)

lemma precedes_trans (a b c : Game) (hab : a.precedes b = true) (hbc : b.precedes c = true) :
    a.precedes c = true := by
  rw [precedes_iff] at hab hbc ⊢
  exact hab.trans hbc

lemma precedes_total (a b : Game) : (a.precedes b || b.precedes a) = true := by
  rw [Bool.or_eq_true, precedes_iff, precedes_iff]
  exact MayPrecede.total a b

/-- Sorted games are in order. -/
lemma pairwise_mergeSort_precedes (games : List Game) :
    (games.mergeSort precedes).Pairwise MayPrecede :=
  (List.pairwise_mergeSort precedes_trans precedes_total games).imp fun h =>
    (precedes_iff _ _).mp h

end Game

/-! ### Reading entries -/

/-- The entries of a list are all read, or one of them is not. -/
lemma readGames_cases (entries : List StateEntry) :
    (∃ games, readGames entries = .ok games ∧
      entries.map (fun entry => Record.decode entry.data) = games.map .ok) ∨
    (∃ entry ∈ entries, ∃ e, readGames entries = .error (entry, e) ∧
      Record.decode entry.data = .error e) := by
  induction entries with
  | nil => exact .inl ⟨[], rfl, rfl⟩
  | cons entry rest ih =>
    rw [readGames]
    cases hentry : Record.decode entry.data with
    | error e => exact .inr ⟨entry, List.mem_cons_self, e, rfl, hentry⟩
    | ok g =>
      rcases ih with ⟨games, hrest, hgames⟩ | ⟨bad, hbad, e, hrest, he⟩
      · refine .inl ⟨g :: games, ?_, ?_⟩
        · rw [hrest]
          rfl
        · rw [List.map_cons, List.map_cons, hgames, hentry]
      · refine .inr ⟨bad, List.mem_cons_of_mem entry hbad, e, ?_, he⟩
        rw [hrest]
        rfl

/-- Where all entries are games, each of them is one of the games. -/
lemma exists_decode_of_mem {entries : List StateEntry} {games : List Game}
    (hgames : entries.map (fun entry => Record.decode entry.data) = games.map .ok)
    {entry : StateEntry} (hmem : entry ∈ entries) :
    ∃ g ∈ games, Record.decode entry.data = .ok g := by
  have hmem' := List.mem_map_of_mem (f := fun entry => Record.decode entry.data) hmem
  rw [hgames] at hmem'
  obtain ⟨g, hg, hread⟩ := List.mem_map.mp hmem'
  exact ⟨g, hg, hread.symm⟩

/-- Entries are read as games exactly if each of them is one. -/
lemma readGames_eq_ok_iff {entries : List StateEntry} {games : List Game} :
    readGames entries = .ok games ↔
      entries.map (fun entry => Record.decode entry.data) = games.map .ok := by
  rcases readGames_cases entries with ⟨read, hread, hmap⟩ | ⟨entry, hmem, e, hread, hentry⟩
  · rw [hread, hmap, Except.ok.injEq, Except.ok_injective.list_map.eq_iff]
  · refine iff_of_false (by simp [hread]) fun hgames => ?_
    obtain ⟨g, -, hg⟩ := exists_decode_of_mem hgames hmem
    rw [hentry] at hg
    cases hg

/-- A list of games was made from entries: their games, none left out and none twice, in order. -/
structure Snapshot.IsOf (snapshot : Snapshot) (entries : List StateEntry) : Prop where
  /-- Every entry is a game, and these are the games. -/
  perm : ∃ games, entries.map (fun entry => Record.decode entry.data) = games.map .ok ∧
    snapshot.games.Perm games
  /-- The games are in order. -/
  sorted : snapshot.games.Pairwise Game.MayPrecede
  /-- The list comes from a ledger. -/
  refreshed : snapshot.refreshed = true

/-- Games in order are a list of the entries that they were read from. -/
lemma Snapshot.isOf_of_readGames {entries : List StateEntry} {games : List Game}
    (h : readGames entries = .ok games) :
    Snapshot.IsOf ⟨games.mergeSort Game.precedes, true⟩ entries where
  perm := ⟨games, readGames_eq_ok_iff.mp h, List.mergeSort_perm games Game.precedes⟩
  sorted := Game.pairwise_mergeSort_precedes games
  refreshed := rfl

namespace Projector

variable {σ : Type}

/-! ### Commands and steps -/

/-- What a projector can be told to do. -/
inductive Command (σ : Type) where
  /-- Read all games. -/
  | refreshAll
  /-- Read one game. -/
  | refreshOne (name : String)
  /-- Read from another gateway from now on. -/
  | replaceGateway (gateway : Gateway σ)

/-- What comes back from a command. -/
inductive Answer where
  /-- All games, or why not. -/
  | list (result : Except Fault Snapshot)
  /-- One game, or why not. -/
  | game (result : Except Fault Game)
  /-- Nothing. -/
  | done

/-- The list that a command returned, if it was to read one and succeeded. -/
def Answer.snapshot? : Answer → Option Snapshot
  | list (.ok snapshot) => some snapshot
  | _ => none

/-- The game that a command returned, if it was to read one and succeeded. -/
def Answer.game? : Answer → Option Game
  | game (.ok g) => some g
  | _ => none

/-- Whether a command failed. -/
def Answer.isFailure : Answer → Bool
  | list (.error _) | game (.error _) => true
  | _ => false

/-- The gateway that a command installs. -/
def Command.gateway? : Command σ → Option (Gateway σ)
  | replaceGateway gateway => some gateway
  | _ => none

/-- Does what it is told. -/
def obey (p : Projector σ) : Command σ → Act σ (Answer × Projector σ)
  | .refreshAll => do
    let (result, p) ← p.refreshAll
    return (.list result, p)
  | .refreshOne name => do
    let (result, p) ← p.refreshOne name
    return (.game result, p)
  | .replaceGateway gateway => return (.done, p.withGateway gateway)

/-- One step of a run. -/
structure Step (σ : Type) where
  /-- The projector before. -/
  before : Projector σ
  /-- The world before. -/
  world : σ
  /-- What the projector was told. -/
  command : Command σ
  /-- What came back. -/
  answer : Answer
  /-- The projector afterwards. -/
  after : Projector σ
  /-- The world afterwards. -/
  next : σ

/-- The steps in which a projector does one thing after the other. -/
def run (p : Projector σ) (world : σ) : List (Command σ) → List (Step σ)
  | [] => []
  | command :: commands =>
    let t := p.obey command world
    ⟨p, world, command, t.value.1, t.value.2, t.world⟩ :: run t.value.2 t.world commands

/-! ### One step -/

/-- What one command does to a projector. Every fetch goes to the gateway that is installed, and is
all that happens to the world. -/
inductive Transition (p : Projector σ) (world : σ) :
    Command σ → Answer → Projector σ → σ → Prop where
  /-- All entries are games, and the list of them is published. -/
  | listed {entries : List StateEntry} {snapshot : Snapshot}
      (fetched : ((p.gateway.fetch Address.gamePrefix).run world).value = .ok entries)
      (isOf : snapshot.IsOf entries) :
      Transition p world .refreshAll (.list (.ok snapshot))
        { p with games := p.games.replace snapshot }
        ((p.gateway.fetch Address.gamePrefix).run world).world
  /-- There is no answer to read a list from. -/
  | listNotFetched {fault : Fault}
      (fetched : ((p.gateway.fetch Address.gamePrefix).run world).value = .error fault) :
      Transition p world .refreshAll (.list (.error fault)) p
        ((p.gateway.fetch Address.gamePrefix).run world).world
  /-- One entry, wherever it stands, is no game. -/
  | listNotRead {entries : List StateEntry} {entry : StateEntry} {e : Record.Error}
      (fetched : ((p.gateway.fetch Address.gamePrefix).run world).value = .ok entries)
      (mem : entry ∈ entries) (unreadable : Record.decode entry.data = .error e) :
      Transition p world .refreshAll (.list (.error e.toFault)) p
        ((p.gateway.fetch Address.gamePrefix).run world).world
  /-- The first entry is a game, which is published. -/
  | focused {name : String} {entry : StateEntry} {rest : List StateEntry} {g : Game}
      (fetched : ((p.gateway.fetch (Address.ofName name)).run world).value = .ok (entry :: rest))
      (read : Record.decode entry.data = .ok g) :
      Transition p world (.refreshOne name) (.game (.ok g))
        { p with focus := p.focus.replace (some g) }
        ((p.gateway.fetch (Address.ofName name)).run world).world
  /-- There is no answer to read a game from. -/
  | focusNotFetched {name : String} {fault : Fault}
      (fetched : ((p.gateway.fetch (Address.ofName name)).run world).value = .error fault) :
      Transition p world (.refreshOne name) (.game (.error fault)) p
        ((p.gateway.fetch (Address.ofName name)).run world).world
  /-- There is no entry. -/
  | focusMissing {name reason : String}
      (fetched : ((p.gateway.fetch (Address.ofName name)).run world).value = .ok []) :
      Transition p world (.refreshOne name) (.game (.error (.notFound reason))) p
        ((p.gateway.fetch (Address.ofName name)).run world).world
  /-- The first entry is no game. -/
  | focusNotRead {name : String} {entry : StateEntry} {rest : List StateEntry} {e : Record.Error}
      (fetched : ((p.gateway.fetch (Address.ofName name)).run world).value = .ok (entry :: rest))
      (unreadable : Record.decode entry.data = .error e) :
      Transition p world (.refreshOne name) (.game (.error e.toFault)) p
        ((p.gateway.fetch (Address.ofName name)).run world).world
  /-- Another gateway is installed, and nothing is fetched. -/
  | replaced (gateway : Gateway σ) :
      Transition p world (.replaceGateway gateway) .done { p with gateway } world

/-- What a reading of all games does. -/
lemma refreshAll_transition (p : Projector σ) (world : σ) :
    Transition p world .refreshAll (.list (p.refreshAll world).value.1)
      (p.refreshAll world).value.2 (p.refreshAll world).world := by
  rw [refreshAll, Act.bind_apply, Gateway.readSnapshot]
  cases fetched : ((p.gateway.fetch Address.gamePrefix).run world).value with
  | error fault =>
    rw [Course.bind_run_of_error fetched]
    exact .listNotFetched fetched
  | ok entries =>
    rw [Course.bind_run_of_ok fetched]
    rcases readGames_cases entries with ⟨games, hgames, -⟩ | ⟨entry, hmem, e, herror, hentry⟩
    · have isOf := Snapshot.isOf_of_readGames hgames
      rw [hgames]
      exact .listed fetched isOf
    · rw [herror]
      exact .listNotRead fetched hmem hentry

/-- Entries that are fetched and read are published in the order of the names. -/
lemma refreshAll_of_readGames {p : Projector σ} {world : σ} {entries : List StateEntry}
    {games : List Game}
    (hfetched : ((p.gateway.fetch Address.gamePrefix).run world).value = .ok entries)
    (hgames : readGames entries = .ok games) :
    (p.refreshAll world).value =
      (.ok ⟨games.mergeSort Game.precedes, true⟩,
        { p with games := p.games.replace ⟨games.mergeSort Game.precedes, true⟩ }) := by
  rw [refreshAll, Act.bind_apply, Gateway.readSnapshot, Course.bind_run_of_ok hfetched, hgames]
  rfl

/-- What a reading of one game does. -/
lemma refreshOne_transition (p : Projector σ) (world : σ) (name : String) :
    Transition p world (.refreshOne name) (.game (p.refreshOne name world).value.1)
      (p.refreshOne name world).value.2 (p.refreshOne name world).world := by
  rw [refreshOne, Act.bind_apply, Gateway.readGame]
  cases fetched : ((p.gateway.fetch (Address.ofName name)).run world).value with
  | error fault =>
    rw [Course.bind_run_of_error fetched]
    exact .focusNotFetched fetched
  | ok entries =>
    rw [Course.bind_run_of_ok fetched]
    cases entries with
    | nil => exact .focusMissing fetched
    | cons entry rest =>
      cases read : Record.decode entry.data with
      | error e =>
        simp only [read]
        exact .focusNotRead fetched read
      | ok g =>
        simp only [read]
        exact .focused fetched read

/-- What a command does is one of the transitions. -/
theorem obey_transition (p : Projector σ) (world : σ) (command : Command σ) :
    Transition p world command (p.obey command world).value.1 (p.obey command world).value.2
      (p.obey command world).world := by
  cases command with
  | refreshAll => exact refreshAll_transition p world
  | refreshOne name => exact refreshOne_transition p world name
  | replaceGateway gateway => exact .replaced gateway

namespace Transition

variable {p p' : Projector σ} {world world' : σ} {command : Command σ} {answer : Answer}

/-- The list of games is replaced by the one that is returned, if one is. -/
lemma games_eq (h : Transition p world command answer p' world') :
    p'.games = answer.snapshot?.toList.foldl Cell.replace p.games := by
  cases h <;> rfl

/-- The game that is looked at is replaced by the one that is returned, if one is. -/
lemma focus_eq (h : Transition p world command answer p' world') :
    p'.focus = (answer.game?.toList.map some).foldl Cell.replace p.focus := by
  cases h <;> rfl

/-- The gateway is replaced by the one that is given, if one is. -/
lemma gateway_eq (h : Transition p world command answer p' world') :
    p'.gateway = command.gateway?.getD p.gateway := by
  cases h <;> rfl

/-- A command that fails changes nothing that is published. -/
lemma eq_of_isFailure (h : Transition p world command answer p' world')
    (hfail : answer.isFailure = true) : p' = p := by
  cases h with
  | listed | focused | replaced => exact absurd hfail (by simp [Answer.isFailure])
  | listNotFetched | listNotRead | focusNotFetched | focusMissing | focusNotRead => rfl

/-- A reading of all games leaves the game alone that is looked at. -/
lemma focus_of_refreshAll (h : Transition p world command answer p' world')
    (hcommand : command = .refreshAll) : p'.focus = p.focus := by
  cases h with
  | listed | listNotFetched | listNotRead => rfl
  | focused | focusNotFetched | focusMissing | focusNotRead | replaced =>
    exact absurd hcommand (by simp)

/-- A reading of one game leaves the list alone. -/
lemma games_of_refreshOne (h : Transition p world command answer p' world') {name : String}
    (hcommand : command = .refreshOne name) : p'.games = p.games := by
  cases h with
  | focused | focusNotFetched | focusMissing | focusNotRead => rfl
  | listed | listNotFetched | listNotRead | replaced => exact absurd hcommand (by simp)

/-- A reading of all games changes the world by its fetch only. -/
lemma world_of_refreshAll (h : Transition p world command answer p' world')
    (hcommand : command = .refreshAll) :
    world' = ((p.gateway.fetch Address.gamePrefix).run world).world := by
  cases h with
  | listed | listNotFetched | listNotRead => rfl
  | focused | focusNotFetched | focusMissing | focusNotRead | replaced =>
    exact absurd hcommand (by simp)

/-- A reading of one game changes the world by its fetch only. -/
lemma world_of_refreshOne (h : Transition p world command answer p' world') {name : String}
    (hcommand : command = .refreshOne name) :
    world' = ((p.gateway.fetch (Address.ofName name)).run world).world := by
  cases h with
  | focused | focusNotFetched | focusMissing | focusNotRead =>
    rw [Command.refreshOne.inj hcommand]
  | listed | listNotFetched | listNotRead | replaced => exact absurd hcommand (by simp)

/-- Another gateway is all that a replacement of the gateway brings. -/
lemma eq_of_replaceGateway (h : Transition p world command answer p' world') {gateway : Gateway σ}
    (hcommand : command = .replaceGateway gateway) : p' = p.withGateway gateway := by
  cases h with
  | replaced other =>
    rw [Command.replaceGateway.inj hcommand]
    rfl
  | listed | listNotFetched | listNotRead | focused | focusNotFetched | focusMissing
  | focusNotRead => exact absurd hcommand (by simp)

end Transition

lemma world_refreshAll (p : Projector σ) (world : σ) :
    (p.refreshAll world).world = ((p.gateway.fetch Address.gamePrefix).run world).world :=
  (refreshAll_transition p world).world_of_refreshAll rfl

lemma world_refreshOne (p : Projector σ) (world : σ) (name : String) :
    (p.refreshOne name world).world =
      ((p.gateway.fetch (Address.ofName name)).run world).world :=
  (refreshOne_transition p world name).world_of_refreshOne rfl

/-! ### Whole runs -/

/-- The lists that steps returned, in order. -/
def snapshots (steps : List (Step σ)) : List Snapshot :=
  steps.flatMap fun step => step.answer.snapshot?.toList

/-- The games that steps were told to read and returned, in order. -/
def focused (steps : List (Step σ)) : List Game :=
  steps.flatMap fun step => step.answer.game?.toList

/-- The gateways that steps installed, in order. -/
def installed (steps : List (Step σ)) : List (Gateway σ) :=
  steps.flatMap fun step => step.command.gateway?.toList

/-- A cell that is replaced again and again holds the last value, and counts them all. -/
lemma foldl_replace {α : Type} (values : List α) (cell : Cell α) :
    values.foldl Cell.replace cell =
      ⟨values.getLastD cell.value, cell.version + values.length⟩ := by
  induction values generalizing cell with
  | nil => rfl
  | cons value rest ih =>
    rw [List.foldl_cons, ih, List.getLastD_cons, List.length_cons, Cell.replace]
    exact congrArg _ (Nat.succ_add_eq_add_succ cell.version rest.length)

/-- Every step of a run is a transition. -/
theorem run_transition (p : Projector σ) (world : σ) (commands : List (Command σ)) :
    ∀ step ∈ run p world commands,
      Transition step.before step.world step.command step.answer step.after step.next := by
  induction commands generalizing p world with
  | nil => exact fun _ hstep => absurd hstep List.not_mem_nil
  | cons command rest ih =>
    intro step hstep
    rw [run, List.mem_cons] at hstep
    rcases hstep with rfl | hstep
    · exact obey_transition p world command
    · exact ih _ _ step hstep

/-- Before a step, each part of the projector is what the steps so far have put there. -/
lemma before_of_run {p : Projector σ} {world : σ} {commands : List (Command σ)}
    {past later : List (Step σ)} {step : Step σ}
    (h : run p world commands = past ++ step :: later) :
    step.before.gateway = (installed past).getLastD p.gateway ∧
      step.before.games = (snapshots past).foldl Cell.replace p.games ∧
      step.before.focus = ((focused past).map some).foldl Cell.replace p.focus := by
  induction past generalizing p world commands with
  | nil =>
    cases commands with
    | nil => exact absurd h (List.cons_ne_nil _ _).symm
    | cons command rest =>
      rw [run, List.nil_append, List.cons.injEq] at h
      obtain ⟨rfl, -⟩ := h
      exact ⟨rfl, rfl, rfl⟩
  | cons first past ih =>
    cases commands with
    | nil => exact absurd h (List.cons_ne_nil _ _).symm
    | cons command rest =>
      rw [run, List.cons_append, List.cons.injEq] at h
      obtain ⟨hfirst, hrest⟩ := h
      have hnow := obey_transition p world command
      obtain ⟨hgateway, hgames, hfocus⟩ := ih hrest
      rw [hnow.gateway_eq] at hgateway
      rw [hnow.games_eq] at hgames
      rw [hnow.focus_eq] at hfocus
      rw [installed, snapshots, focused, List.flatMap_cons, List.flatMap_cons, List.flatMap_cons,
        List.map_append, List.foldl_append, List.foldl_append, ← hfirst]
      refine ⟨?_, hgames, hfocus⟩
      rw [hgateway]
      cases command.gateway? with
      | none => rfl
      | some gateway => exact List.getLastD_cons.symm

/-- **What is published is what was last read.** Whatever a projector is told and whatever the
gateways answer, after every step the list of games is the one that the last successful reading of
all games returned, the game that is looked at is the one that the last successful reading of one
game returned, and each has been replaced once for each such reading. -/
theorem published_is_last_read (gateway : Gateway σ) (world : σ) (commands : List (Command σ))
    {past later : List (Step σ)} {step : Step σ}
    (h : run (start gateway) world commands = past ++ step :: later) :
    (∀ s ∈ past ++ [step], Transition s.before s.world s.command s.answer s.after s.next) ∧
      step.before.gateway = (installed past).getLastD gateway ∧
      step.after.games = ⟨(snapshots (past ++ [step])).getLastD .empty,
        (snapshots (past ++ [step])).length⟩ ∧
      step.after.focus = ⟨(focused (past ++ [step])).getLast?,
        (focused (past ++ [step])).length⟩ ∧
      (step.answer.isFailure = true → step.after = step.before) ∧
      (step.command = .refreshAll → step.after.focus = step.before.focus) ∧
      (∀ name, step.command = .refreshOne name → step.after.games = step.before.games) ∧
      (∀ other, step.command = .replaceGateway other →
        step.after = step.before.withGateway other) := by
  have hall : ∀ s ∈ past ++ [step],
      Transition s.before s.world s.command s.answer s.after s.next := by
    intro s hs
    refine run_transition (start gateway) world commands s ?_
    rw [h, List.append_cons]
    exact List.mem_append_left later hs
  have hstep := hall step (List.mem_append_right past List.mem_cons_self)
  obtain ⟨hgateway, hgames, hfocus⟩ := before_of_run h
  refine ⟨hall, hgateway, ?_, ?_, hstep.eq_of_isFailure, ?_, ?_, ?_⟩
  · have hfold : step.after.games =
        (snapshots (past ++ [step])).foldl Cell.replace (start gateway).games := by
      rw [hstep.games_eq, hgames, snapshots, snapshots, List.flatMap_append, List.foldl_append,
        List.flatMap_singleton]
    rw [hfold, foldl_replace]
    exact congrArg _ (Nat.zero_add _)
  · have hfold : step.after.focus =
        ((focused (past ++ [step])).map some).foldl Cell.replace (start gateway).focus := by
      rw [hstep.focus_eq, hfocus, focused, focused, List.flatMap_append, List.map_append,
        List.foldl_append, List.flatMap_singleton]
    rw [hfold, foldl_replace, List.length_map, List.getLastD_eq_getLast?, List.getLast?_map]
    refine congrArg₂ _ ?_ (Nat.zero_add _)
    cases (focused (past ++ [step])).getLast? with
    | none => rfl
    | some g => rfl
  · intro hcommand
    exact hstep.focus_of_refreshAll hcommand
  · intro name hcommand
    exact hstep.games_of_refreshOne hcommand
  · intro other hcommand
    exact hstep.eq_of_replaceGateway hcommand

/-- A ledger in memory fails once and then tells its only game, which is published by itself. -/
theorem published_is_last_read_in_memory :
    let g : Game := ⟨"Tic", "---------", .firstToMove, "", ""⟩
    let ledger : MemoryLedger := { entries := [("5b7349", Record.encode g)], failures := 1 }
    ∃ past step,
      run (start MemoryLedger.gateway) ledger [.refreshAll, .refreshAll] = past ++ [step] ∧
        step.after.games = ⟨⟨[g], true⟩, 1⟩ := by
  intro g ledger
  have h := @published_is_last_read _ MemoryLedger.gateway ledger
    [.refreshAll, .refreshAll] [_] [] _ rfl
  obtain ⟨-, -, hgames, -⟩ := h
  refine ⟨[_], _, rfl, hgames.trans ?_⟩
  decide +kernel

end Projector

end XoLedger
