import Mathlib.Data.List.Destutter
import Mathlib.Tactic.Lemma
import XoLedger.Command.Run
import XoLedger.Proofs.Polling

/-!
# What a watch shows

A watch takes notice of one list of games after the other and remembers the one that it has shown
last. It need not remember the one that it has seen last: a list that is not shown is the same as
that one. So each list is shown that differs from the one seen before it, and what is printed are
the lists seen without their repetitions (`watch_shows_changes`). That two lists were read at
different times does not make them different.
-/

namespace XoLedger.Command

/-! ### Lists without repetitions -/

section Changes

variable {α : Type} [DecidableEq α]

/-- Every member of a list that differs from the one before it, in order. -/
def changes (l : List α) : List α :=
  (l.zip l.tail).filterMap fun pair => if pair.1 = pair.2 then none else some pair.2

/-- Of the lists that are seen, those that are shown leave the repetitions out. -/
structure ShowsChanges (seen shown : List α) : Prop where
  /-- What is shown is what is seen without repetitions. -/
  eq_destutter : shown = seen.destutter (· ≠ ·)
  /-- The first one is shown, and then every one that differs from the one before it. -/
  eq_changes : shown = seen.head?.toList ++ changes seen
  /-- No two that are shown one after the other are the same. -/
  isChain : shown.IsChain (· ≠ ·)
  /-- The first one that is shown is the first one that is seen. -/
  head?_eq : shown.head? = seen.head?
  /-- The last one that is shown is the last one that is seen. -/
  getLast?_eq : shown.getLast? = seen.getLast?

lemma changes_cons_cons (a b : α) (l : List α) :
    changes (a :: b :: l) = if a = b then changes (b :: l) else b :: changes (b :: l) := by
  by_cases h : a = b
  · simp [changes, h]
  · simp [changes, h]

/-- Without repetitions, the first one and the changes are left. -/
lemma destutter'_eq_changes (a : α) (l : List α) :
    l.destutter' (· ≠ ·) a = a :: changes (a :: l) := by
  induction l generalizing a with
  | nil => rfl
  | cons b l ih =>
    rw [changes_cons_cons]
    by_cases h : a = b
    · rw [List.destutter'_cons_neg _ (not_not.mpr h), ih, if_pos h, h]
    · rw [List.destutter'_cons_pos _ h, ih, if_neg h]

/-- The last one is left. -/
lemma getLast?_destutter' (a : α) (l : List α) :
    (l.destutter' (· ≠ ·) a).getLast? = (a :: l).getLast? := by
  induction l generalizing a with
  | nil => rfl
  | cons b l ih =>
    rw [List.getLast?_cons_cons]
    by_cases h : a = b
    · rw [List.destutter'_cons_neg _ (not_not.mpr h), ih, h]
    · rw [List.destutter'_cons_pos _ h, ← ih, destutter'_eq_changes, List.getLast?_cons_cons]

lemma showsChanges_destutter (seen : List α) : ShowsChanges seen (seen.destutter (· ≠ ·)) := by
  cases seen with
  | nil => exact ⟨rfl, rfl, .nil, rfl, rfl⟩
  | cons a l =>
    have hchanges : (a :: l).destutter (· ≠ ·) = a :: changes (a :: l) := destutter'_eq_changes a l
    refine ⟨rfl, hchanges, List.isChain_destutter _ _, ?_, getLast?_destutter' a l⟩
    rw [hchanges]
    rfl

end Changes

/-! ### Seeing one list after the other -/

variable {σ : Type}

namespace Watch

/-- Takes notice of lists one after the other. Returns those that are to be shown. -/
def seeAll (w : Watch σ) : List Snapshot → List (List Game) × Watch σ
  | [] => ([], w)
  | snapshot :: rest =>
    let seen := w.see snapshot
    let later := seen.2.seeAll rest
    (seen.1.toList ++ later.1, later.2)

lemma seeAll_append (w : Watch σ) (first later : List Snapshot) :
    (w.seeAll (first ++ later)).1 =
      (w.seeAll first).1 ++ ((w.seeAll first).2.seeAll later).1 := by
  induction first generalizing w with
  | nil => rfl
  | cons snapshot first ih =>
    rw [List.cons_append, seeAll, seeAll, ih, List.append_assoc]

/-- Nothing changes about who reads the lists. -/
lemma client_seeAll (w : Watch σ) (snapshots : List Snapshot) :
    (w.seeAll snapshots).2.client = w.client := by
  induction snapshots generalizing w with
  | nil => rfl
  | cons snapshot rest ih =>
    rw [seeAll, ih, see]
    split_ifs <;> rfl

/-- What is shown depends on what was shown before, and not on who reads the lists. -/
lemma seeAll_congr {w w' : Watch σ} (hshown : w.shown = w'.shown) (snapshots : List Snapshot) :
    (w.seeAll snapshots).1 = (w'.seeAll snapshots).1 := by
  induction snapshots generalizing w w' with
  | nil => rfl
  | cons snapshot rest ih =>
    have hsee : (w.see snapshot).1 = (w'.see snapshot).1 ∧
        (w.see snapshot).2.shown = (w'.see snapshot).2.shown := by
      rw [see, see, hshown]
      split_ifs
      · exact ⟨rfl, hshown⟩
      · exact ⟨rfl, rfl⟩
    rw [seeAll, seeAll, hsee.1, ih hsee.2]

/-- A list that is not shown is the one seen before it, so the one that was shown last is always
the one that was seen last. -/
lemma cons_seeAll (w : Watch σ) {games : List Game} (hshown : w.shown = some games)
    (snapshots : List Snapshot) :
    games :: (w.seeAll snapshots).1 =
      (snapshots.map Snapshot.games).destutter' (· ≠ ·) games := by
  induction snapshots generalizing w games with
  | nil => rfl
  | cons snapshot rest ih =>
    rw [List.map_cons, seeAll, see, hshown]
    by_cases hsame : games = snapshot.games
    · rw [if_pos (congrArg some hsame), List.destutter'_cons_neg _ (not_not.mpr hsame)]
      exact ih w hshown
    · rw [if_neg fun h => hsame (Option.some.inj h), List.destutter'_cons_pos _ hsame]
      exact congrArg (games :: ·) (ih _ rfl)

/-- A watch that has shown nothing yet shows what it sees without repetitions. -/
lemma seeAll_eq_destutter (c : Client σ) (snapshots : List Snapshot) :
    ((⟨c, none⟩ : Watch σ).seeAll snapshots).1 =
      (snapshots.map Snapshot.games).destutter (· ≠ ·) := by
  cases snapshots with
  | nil => rfl
  | cons snapshot rest => exact cons_seeAll ⟨c, some snapshot.games⟩ rfl rest

end Watch

/-! ### Looking again and again -/

/-- The lists that are published by a number of readings, one after the other. -/
def observed : (rounds : Nat) → Projector σ → σ → List Snapshot
  | 0, _, _ => []
  | rounds + 1, p, world =>
    let t := Polling.refresh p world
    (p.refreshAll world).value.1.toOption.toList ++ observed rounds t.value t.world

namespace Watch

/-- A list is seen exactly if a reading has succeeded. -/
lemma look_eq (w : Watch σ) (world : σ) :
    let t := Polling.refresh w.client.projector world
    let seen := ({ w with client := { w.client with projector := t.value } } : Watch σ).seeAll
      (w.client.projector.refreshAll world).value.1.toOption.toList
    (w.look world).value.1.toList = seen.1 ∧ (w.look world).value.2 = seen.2 ∧
      (w.look world).world = t.world := by
  rw [look, Act.bind_apply, Polling.refresh_eq]
  cases hresult : (w.client.projector.refreshAll world).value.1 with
  | error fault => simp [Except.toOption, seeAll]
  | ok snapshot => simp [Except.toOption, seeAll, Cell.replace]

/-- To look again and again is to see what is published meanwhile. -/
lemma run_value (period rounds : Nat) (w : Watch σ) (world : σ) :
    (run period rounds w world).value =
      (w.seeAll (observed rounds w.client.projector world)).1 := by
  induction rounds generalizing w world with
  | zero => rfl
  | succ rounds ih =>
    obtain ⟨hshown, hlater, hworld⟩ := w.look_eq world
    have hvalue : (run period (rounds + 1) w world).value =
        (w.look world).value.1.toList ++
          (run period rounds (w.look world).value.2 (w.look world).world).value := rfl
    rw [hvalue, ih, hshown, hlater, hworld, client_seeAll, ← seeAll_append, observed]
    refine seeAll_congr ?_ _
    rfl

end Watch

/-- **A watch shows every change.** A watch sees lists of games one after the other, whatever they
are and however many have been published in between. It shows the first one, and then each one that
differs from the one seen before it, in order; it never shows the same one twice in a row; and what
it has shown last is what it has seen last. The command prints just these lists, of those that are
published by the readings that succeed. -/
theorem watch_shows_changes (c : Client σ) :
    (∀ snapshots : List Snapshot, ShowsChanges (snapshots.map Snapshot.games)
      ((⟨c, none⟩ : Watch σ).seeAll snapshots).1) ∧
    ∀ (context : Context σ) (world : σ), ∃ shown : List (List Game),
      (perform context c .watch world).value = .success (shown.flatMap watchLines) ∧
        ShowsChanges ((observed context.watchRounds c.projector world).map Snapshot.games)
          shown := by
  have hseen : ∀ snapshots : List Snapshot, ShowsChanges (snapshots.map Snapshot.games)
      ((⟨c, none⟩ : Watch σ).seeAll snapshots).1 := by
    intro snapshots
    rw [Watch.seeAll_eq_destutter]
    exact showsChanges_destutter _
  refine ⟨hseen, fun context world => ⟨_, ?_, hseen _⟩⟩
  rw [← Watch.run_value (Command.watchPeriod c.settings) context.watchRounds ⟨c, none⟩ world]
  rfl

end XoLedger.Command
