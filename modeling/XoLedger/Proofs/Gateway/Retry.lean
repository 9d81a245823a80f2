import Mathlib.Tactic.ByContra
import Mathlib.Tactic.Lemma
import XoLedger.Gateway.Retry
import XoLedger.Proofs.Act

/-!
# What is tried again, and when it ends

A call that is made again and again meets one world after the other. Both loops of a retry policy,
the one for calls that fail and the one for batches that wait, are one loop (`repeatNoted`): it
stops at the first result that is not worth another try, or at the last one that the policy allows,
and ends with it in the world where it was found. Before each further call there is a line about the
last result, and a wait. The loops differ only in what is worth another try, and in the lines.
-/

namespace XoLedger

variable {σ α : Type}

namespace Course

/-- The world after a call has been made some times. -/
def worldAfter (call : Course σ α) (s : σ) : Nat → σ
  | 0 => s
  | n + 1 => (call.run (worldAfter call s n)).world

/-- What a call ends with after it has been made some times before. -/
def valueAfter (call : Course σ α) (s : σ) (n : Nat) : Except Fault α :=
  (call.run (worldAfter call s n)).value

/-- What is observed during a call that has been made some times before. -/
def eventsAfter (call : Course σ α) (s : σ) (n : Nat) : List (Event σ) :=
  (call.run (worldAfter call s n)).events

/-- The first call may as well be made beforehand. -/
lemma worldAfter_next (call : Course σ α) (s : σ) (n : Nat) :
    worldAfter call (call.run s).world n = worldAfter call s (n + 1) := by
  induction n with
  | zero => rfl
  | succ n ih => rw [worldAfter, ih, ← worldAfter]

lemma valueAfter_next (call : Course σ α) (s : σ) (n : Nat) :
    valueAfter call (call.run s).world n = valueAfter call s (n + 1) := by
  rw [valueAfter, worldAfter_next, valueAfter]

lemma eventsAfter_next (call : Course σ α) (s : σ) (n : Nat) :
    eventsAfter call (call.run s).world n = eventsAfter call s (n + 1) := by
  rw [eventsAfter, worldAfter_next, eventsAfter]

end Course

namespace RetryPolicy

open Course

/-! ### Where repeating ends -/

/-- Of at most `most` results the one with index `n` is the last that is asked for: all before it
were worth another try, and it was not, unless there may be no more. -/
structure StopsAt (again : Except Fault α → Prop) (result : Nat → Except Fault α)
    (most n : Nat) : Prop where
  /-- No more results were asked for than may be. -/
  lt : n < most
  /-- Every earlier result was worth another try. -/
  again_of_lt : ∀ i < n, again (result i)
  /-- The last one was not, unless it was the last that may be. -/
  not_again : n + 1 < most → ¬ again (result n)

/-- There is only one such result. -/
lemma StopsAt.unique {again : Except Fault α → Prop} {result : Nat → Except Fault α}
    {most n m : Nat} (hn : StopsAt again result most n) (hm : StopsAt again result most m) :
    n = m := by
  have hle : ∀ {i j : Nat}, StopsAt again result most i → StopsAt again result most j → j ≤ i := by
    intro i j hi hj
    by_contra hle
    have hlt : i < j := Nat.lt_of_not_le hle
    exact hi.not_again (Nat.lt_of_le_of_lt hlt hj.lt) (hj.again_of_lt i hlt)
  exact Nat.le_antisymm (hle hm hn) (hle hn hm)

/-- If all results before the last that may be are worth another try, it comes to that one. -/
lemma StopsAt.succ_eq {again : Except Fault α → Prop} {result : Nat → Except Fault α}
    {most n : Nat} (h : StopsAt again result most n)
    (hall : ∀ i, i + 1 < most → again (result i)) : n + 1 = most := by
  by_contra hne
  have hlt : n + 1 < most := Nat.lt_of_le_of_ne h.lt hne
  exact h.not_again hlt (hall n hlt)

/-- A call was made until it ended with the result with index `n`, and `t` is what came of it. -/
structure IsRepeated (again : Except Fault α → Prop) (call : Course σ α) (s : σ) (most n : Nat)
    (t : Trace σ (Except Fault α)) : Prop where
  /-- It ended where it should. -/
  stopsAt : StopsAt again (valueAfter call s) most n
  /-- The last result counts. -/
  value : t.value = valueAfter call s n
  /-- Nothing but the calls has changed the world. -/
  world : t.world = worldAfter call s (n + 1)

namespace IsRepeated

variable {again : Except Fault α → Prop} {call : Course σ α} {s : σ} {left n : Nat}
  {t t' : Trace σ (Except Fault α)}

/-- One call may be all. -/
lemma once (hvalue : t.value = (call.run s).value) (hworld : t.world = (call.run s).world)
    (hstop : 0 < left → ¬ again (call.run s).value) :
    IsRepeated again call s (left + 1) 0 t where
  stopsAt :=
    { lt := Nat.succ_pos left
      again_of_lt := fun i hi => absurd hi (Nat.not_lt_zero i)
      not_again := fun h => hstop (Nat.lt_of_succ_lt_succ h) }
  value := hvalue
  world := hworld

/-- A call that is worth another try may stand before others. -/
lemma next (h : IsRepeated again call (call.run s).world left n t)
    (hagain : again (call.run s).value) (hvalue : t'.value = t.value)
    (hworld : t'.world = t.world) : IsRepeated again call s (left + 1) (n + 1) t' where
  stopsAt :=
    { lt := Nat.succ_lt_succ h.stopsAt.lt
      again_of_lt := by
        intro i hi
        cases i with
        | zero => exact hagain
        | succ i =>
          rw [← valueAfter_next]
          exact h.stopsAt.again_of_lt i (Nat.lt_of_succ_lt_succ hi)
      not_again := by
        intro hlt
        rw [← valueAfter_next]
        exact h.stopsAt.not_again (Nat.lt_of_succ_lt_succ hlt) }
  value := by rw [hvalue, h.value, valueAfter_next]
  world := by rw [hworld, h.world, worldAfter_next]

/-- A call that leaves the world alone ends the same way however often it is made. -/
lemma of_tells {value : Except Fault α} (hcall : Tells call value) {most : Nat}
    (h : IsRepeated again call s most n t) : t.value = value ∧ t.world = s := by
  have hworld : ∀ n, worldAfter call s n = s := by
    intro n
    induction n with
    | zero => rfl
    | succ n ih => rw [worldAfter, ih, (hcall s).2]
  refine ⟨?_, ?_⟩
  · rw [h.value, valueAfter, hworld, (hcall s).1]
  · rw [h.world, hworld]

end IsRepeated

/-! ### One loop for both -/

/-- Makes a call until there is nothing to note about its result: a line is noted about a result
that is worth another try, and about no other. After the first call, `left` more may follow. -/
def repeatNoted (policy : RetryPolicy)
    (note? : (place : String) → Except Fault α → Option Log.Line) (call : Course σ α) :
    (left : Nat) → Course σ α
  | 0 => call
  | left + 1 => ExceptT.mk do
    let result ← call.run
    match note? (policy.place (left + 1)) result with
    | none => return result
    | some line => do
      Act.note line.level line.message
      Act.pause policy.intervalMs
      (policy.repeatNoted note? call left).run

/-- What was observed while a call was made `n` times and then once more: whatever the calls
observe by themselves, and after each of the first `n` a line about its result and a wait. -/
def IsLogged (policy : RetryPolicy) (note? : String → Except Fault α → Option Log.Line)
    (call : Course σ α) (s : σ) (left n : Nat) (events : List (Event σ)) : Prop :=
  ∃ lines : Nat → Log.Line,
    (∀ i < n, note? (policy.place (left - i)) (valueAfter call s i) = some (lines i)) ∧
      events = (List.range n).flatMap (fun i => eventsAfter call s i ++
          [.line (lines i), .pause policy.intervalMs (worldAfter call s (i + 1))]) ++
        eventsAfter call s n

section Noted

variable {policy : RetryPolicy} {note? : String → Except Fault α → Option Log.Line}
  {call : Course σ α} {s : σ} {left n : Nat} {events : List (Event σ)}

/-- Nothing is noted about one call only. -/
lemma IsLogged.once : IsLogged policy note? call s left 0 (call.run s).events :=
  ⟨fun _ => ⟨.debug, ""⟩, fun _ hi => absurd hi (Nat.not_lt_zero _), rfl⟩

/-- A call whose result is noted may stand before others. -/
lemma IsLogged.next (h : IsLogged policy note? call (call.run s).world left n events)
    {line : Log.Line} (hline : note? (policy.place (left + 1)) (call.run s).value = some line) :
    IsLogged policy note? call s (left + 1) (n + 1) ((call.run s).events ++
      (.line line :: .pause policy.intervalMs (call.run s).world :: events)) := by
  obtain ⟨lines, hlines, rfl⟩ := h
  refine ⟨fun i => i.casesOn line lines, ?_, ?_⟩
  · intro i hi
    cases i with
    | zero => exact hline
    | succ i =>
      rw [← valueAfter_next, Nat.add_sub_add_right]
      exact hlines i (Nat.lt_of_succ_lt_succ hi)
  · rw [List.range_succ_eq_map, List.flatMap_cons, List.flatMap_map]
    simp only [eventsAfter_next, worldAfter_next, List.append_assoc, List.cons_append,
      List.nil_append]
    rfl

/-- A call is made again as long as there is something to note about its result. -/
theorem repeatNoted_isRepeated (policy : RetryPolicy) {again : Except Fault α → Prop}
    (hnote : ∀ place result, again result ↔ (note? place result).isSome = true)
    (call : Course σ α) (left : Nat) (s : σ) :
    ∃ n, IsRepeated again call s (left + 1) n ((policy.repeatNoted note? call left).run s) ∧
      IsLogged policy note? call s left n ((policy.repeatNoted note? call left).run s).events := by
  induction left generalizing s with
  | zero => exact ⟨0, .once rfl rfl fun h => absurd h (Nat.lt_irrefl 0), .once⟩
  | succ left ih =>
    rw [repeatNoted, ExceptT.run_mk, Act.bind_apply]
    have hagain := hnote (policy.place (left + 1)) (call.run s).value
    cases hline : note? (policy.place (left + 1)) (call.run s).value with
    | none =>
      rw [hline] at hagain
      refine ⟨0, .once rfl rfl fun _ h => absurd (hagain.mp h) Bool.false_ne_true, ?_⟩
      simp only [Act.pure_apply, List.append_nil]
      exact .once
    | some line =>
      rw [hline] at hagain
      obtain ⟨n, hn, hlogged⟩ := ih (call.run s).world
      exact ⟨n + 1, hn.next (hagain.mpr rfl) rfl rfl, hlogged.next hline⟩

end Noted

/-! ### What is worth another try -/

/-- A call failed for a reason that may pass. -/
def IsPassingFailure : Except Fault α → Prop
  | .error fault => fault.IsTransient
  | .ok _ => False

/-- A question about a batch failed for a reason that may pass, or the batch has not got its last
status yet. -/
def IsOpenStatus : Except Fault BatchReport → Prop
  | .error fault => fault.IsTransient
  | .ok report => ¬ report.status.IsTerminal

/-- The line about a failure that may pass. -/
def failureNote? (operation place : String) : Except Fault α → Option Log.Line
  | .error fault =>
    if fault.IsTransient then some ⟨.warn, s!"{operation} failed {place}: {fault.message}"⟩
    else none
  | .ok _ => none

/-- The line about such a failure of a question about a batch, or about a status that may change. -/
def statusNote? (batchId place : String) : Except Fault BatchReport → Option Log.Line
  | .error fault => failureNote? "batch_status" place (.error fault : Except Fault BatchReport)
  | .ok report =>
    if report.status.IsTerminal then none
    else some ⟨.debug, s!"Batch {batchId} still {report.status.word} {place}"⟩

lemma isPassingFailure_iff (operation place : String) (result : Except Fault α) :
    IsPassingFailure result ↔ (failureNote? operation place result).isSome = true := by
  cases result with
  | ok a => exact iff_of_false not_false Bool.false_ne_true
  | error fault =>
    by_cases htransient : fault.IsTransient
    · simp [IsPassingFailure, failureNote?, htransient]
    · simp [IsPassingFailure, failureNote?, htransient]

lemma isOpenStatus_iff (batchId place : String) (result : Except Fault BatchReport) :
    IsOpenStatus result ↔ (statusNote? batchId place result).isSome = true := by
  cases result with
  | error fault =>
    exact isPassingFailure_iff "batch_status" place (.error fault : Except Fault BatchReport)
  | ok report =>
    by_cases hterminal : report.status.IsTerminal
    · simp [IsOpenStatus, statusNote?, hterminal]
    · simp [IsOpenStatus, statusNote?, hterminal]

/-! ### The two loops -/

/-- A call is noted and made again after failures that may pass. -/
lemma repeatCall_eq_repeatNoted (policy : RetryPolicy) (operation : String) (call : Course σ α)
    (left : Nat) :
    policy.repeatCall operation call left =
      policy.repeatNoted (failureNote? operation) call left := by
  induction left with
  | zero => rfl
  | succ left ih =>
    rw [repeatCall, repeatNoted, ih]
    refine congrArg ExceptT.mk (congrArg (call.run >>= ·) (funext fun result => ?_))
    cases result with
    | ok a => rfl
    | error fault =>
      by_cases htransient : fault.IsTransient
      · simp only [if_pos htransient, failureNote?, waitAfterFault, bind_assoc]
      · simp only [if_neg htransient, failureNote?]

/-- A question about a batch is noted and asked again while it may get another answer. -/
lemma repeatStatus_eq_repeatNoted (policy : RetryPolicy) (batchId : String)
    (call : Course σ BatchReport) (left : Nat) :
    policy.repeatStatus batchId call left =
      policy.repeatNoted (statusNote? batchId) call left := by
  induction left with
  | zero => rfl
  | succ left ih =>
    rw [repeatStatus, repeatNoted, ih]
    refine congrArg ExceptT.mk (congrArg (call.run >>= ·) (funext fun result => ?_))
    cases result with
    | ok report =>
      by_cases hterminal : report.status.IsTerminal
      · simp only [if_pos hterminal, statusNote?]
      · simp only [if_neg hterminal, statusNote?]
    | error fault =>
      by_cases htransient : fault.IsTransient
      · simp only [if_pos htransient, statusNote?, failureNote?, waitAfterFault, bind_assoc]
      · simp only [if_neg htransient, statusNote?, failureNote?]

/-- A call is made again after failures that may pass. -/
theorem repeatCall_isRepeated (policy : RetryPolicy) (operation : String) (call : Course σ α)
    (left : Nat) (s : σ) :
    ∃ n, IsRepeated IsPassingFailure call s (left + 1) n
      ((policy.repeatCall operation call left).run s) := by
  obtain ⟨n, hn, -⟩ :=
    repeatNoted_isRepeated policy (isPassingFailure_iff operation) call left s
  rw [repeatCall_eq_repeatNoted]
  exact ⟨n, hn⟩

/-- A call that succeeds is not made again. -/
lemma repeatCall_run_of_ok {call : Course σ α} {s : σ} {a : α} (h : (call.run s).value = .ok a)
    (policy : RetryPolicy) (operation : String) (left : Nat) :
    (policy.repeatCall operation call left).run s = call.run s := by
  cases left with
  | zero => rfl
  | succ left =>
    rw [repeatCall, ExceptT.run_mk, Act.bind_apply, h]
    simp only [Act.pure_apply, List.append_nil]
    rw [← h]

/-- A question about a batch is asked again while it may get another answer. -/
theorem repeatStatus_isRepeated (policy : RetryPolicy) (batchId : String)
    (call : Course σ BatchReport) (left : Nat) (s : σ) :
    ∃ n, IsRepeated IsOpenStatus call s (left + 1) n
      ((policy.repeatStatus batchId call left).run s) := by
  obtain ⟨n, hn, -⟩ :=
    repeatNoted_isRepeated policy (isOpenStatus_iff batchId) call left s
  rw [repeatStatus_eq_repeatNoted]
  exact ⟨n, hn⟩

end RetryPolicy

/-! ### One call only -/

/-- A gateway that may make one call only is the gateway itself. -/
lemma Gateway.retrying_of_isSingleShot (g : Gateway σ) {policy : RetryPolicy}
    (h : policy.IsSingleShot) : g.retrying policy = g := by
  have hnone : policy.attempts - 1 = 0 := by
    rw [RetryPolicy.attempts, Nat.max_eq_right h]
  rw [retrying, hnone]
  rfl

end XoLedger
