import Mathlib.Tactic.Common
import XoLedger.Gateway.Memory
import XoLedger.Proofs.Gateway.Calls

/-!
# How often, with what in between, and with which end

A gateway that tries again makes the call it was asked for, and no other, at most as often as its
policy allows. The first result that is not worth another try is returned as it is, or else the last
one; before each further call one line is noted about the last result and one wait is made
(`IsTried`). The calls may as well be counted in a word of 64 bits: the count never passes the
greatest number of calls, so it makes no difference that sums of words wrap around (`countNoted`).
-/

namespace UInt64

/-- A word below another one can be counted up. -/
lemma toNat_add_one_of_lt {n most : UInt64} (h : n < most) : (n + 1).toNat = n.toNat + 1 := by
  have hlt : n.toNat < most.toNat := UInt64.lt_iff_toNat_lt.mp h
  have hmost := most.toNat_lt
  rw [UInt64.toNat_add, UInt64.toNat_one, Nat.mod_eq_of_lt (by omega)]

end UInt64

namespace XoLedger

variable {σ α : Type}

open Course

/-! ### Counting in words -/

namespace RetryPolicy

/-- The loop of a policy with its calls counted in a word: `attempt` is the number of the next call,
and `most` that of the last one there may be. -/
def countNoted (intervalMs : Nat) (most : UInt64)
    (note? : (place : String) → Except Fault α → Option Log.Line) (call : Course σ α)
    (attempt : UInt64) : Course σ α :=
  ExceptT.mk do
    let result ← call.run
    if _ : attempt < most then
      match note? s!"(attempt {attempt.toNat}/{most.toNat})" result with
      | none => return result
      | some line => do
        Act.note line.level line.message
        Act.pause intervalMs
        (countNoted intervalMs most note? call (attempt + 1)).run
    else return result
termination_by most.toNat - attempt.toNat
decreasing_by
  have hlt : attempt.toNat < most.toNat := UInt64.lt_iff_toNat_lt.mp ‹attempt < most›
  have hnext := UInt64.toNat_add_one_of_lt ‹attempt < most›
  omega

/-- The count in a word tells how many calls are left, and never passes the greatest number. -/
lemma countNoted_eq_repeatNoted (policy : RetryPolicy) {most : UInt64}
    (hmost : policy.attempts = most.toNat)
    (note? : String → Except Fault α → Option Log.Line) (call : Course σ α) {left : Nat}
    {attempt : UInt64} (hleft : attempt.toNat + left = most.toNat) :
    countNoted policy.intervalMs most note? call attempt = policy.repeatNoted note? call left := by
  induction left generalizing attempt with
  | zero =>
    have hlast : ¬ attempt < most := by
      rw [UInt64.lt_iff_toNat_lt]
      omega
    rw [countNoted, repeatNoted]
    simp only [dif_neg hlast, bind_pure]
    rfl
  | succ left ih =>
    have hlt : attempt < most := by
      rw [UInt64.lt_iff_toNat_lt]
      omega
    have hplace : policy.place (left + 1) = s!"(attempt {attempt.toNat}/{most.toNat})" := by
      have hattempt : most.toNat - (left + 1) = attempt.toNat := by omega
      rw [place, hmost, hattempt]
    have hnext : (attempt + 1).toNat + left = most.toNat := by
      rw [UInt64.toNat_add_one_of_lt hlt]
      omega
    rw [countNoted, repeatNoted, hplace, ← ih hnext]
    apply congrArg ExceptT.mk
    apply bind_congr
    intro result
    exact dif_pos hlt

/-- The count starts with the first call, and a bound of no calls counts as one. -/
lemma countNoted_one (bound : UInt64) (intervalMs : Nat)
    (note? : String → Except Fault α → Option Log.Line) (call : Course σ α) :
    let policy : RetryPolicy := ⟨bound.toNat, intervalMs⟩
    countNoted intervalMs (max bound 1) note? call 1 =
      policy.repeatNoted note? call (policy.attempts - 1) := by
  intro policy
  have hmost : policy.attempts = (max bound 1).toNat := by
    rw [attempts, UInt64.toNat_max, UInt64.toNat_one]
  have hleft : (1 : UInt64).toNat + (policy.attempts - 1) = (max bound 1).toNat := by
    have hpos : 1 ≤ policy.attempts := Nat.le_max_right _ 1
    rw [UInt64.toNat_one, ← hmost]
    omega
  exact policy.countNoted_eq_repeatNoted hmost note? call hleft

/-! ### What comes of one call -/

/-- What comes of a call that is made up to the greatest number of times: `n` is the index of the
last call. -/
structure IsTried (policy : RetryPolicy) (again : Except Fault α → Prop)
    (note? : (place : String) → Except Fault α → Option Log.Line) (call : Course σ α) (s : σ)
    (n : Nat) (t : Trace σ (Except Fault α)) : Prop
    extends IsRepeated again call s (max 1 policy.maxAttempts) n t where
  /-- Besides what the calls observe by themselves, each but the last is followed by one line about
  its result, with its number and the greatest number, and by one wait. -/
  events : ∃ lines : Nat → Log.Line,
    (∀ i < n, note? s!"(attempt {i + 1}/{max 1 policy.maxAttempts})" (valueAfter call s i) =
      some (lines i)) ∧
    t.events = (List.range n).flatMap (fun i => eventsAfter call s i ++
        [.line (lines i), .pause policy.intervalMs (worldAfter call s (i + 1))]) ++
      eventsAfter call s n

lemma attempts_eq (policy : RetryPolicy) : policy.attempts = max 1 policy.maxAttempts :=
  Nat.max_comm _ _

/-- The number of a call among those there may be. -/
lemma place_eq (policy : RetryPolicy) {i : Nat} (hi : i < policy.attempts) :
    policy.place (policy.attempts - 1 - i) =
      s!"(attempt {i + 1}/{max 1 policy.maxAttempts})" := by
  have hnumber : policy.attempts - (policy.attempts - 1 - i) = i + 1 := by omega
  rw [place, hnumber, attempts_eq]

/-- Every call is tried as the policy says. -/
lemma exists_isTried (policy : RetryPolicy) {again : Except Fault α → Prop}
    {note? : String → Except Fault α → Option Log.Line}
    (hnote : ∀ place result, again result ↔ (note? place result).isSome = true)
    (call : Course σ α) (s : σ) :
    ∃ n, policy.IsTried again note? call s n
      ((policy.repeatNoted note? call (policy.attempts - 1)).run s) := by
  obtain ⟨n, hn, lines, hlines, hevents⟩ :=
    repeatNoted_isRepeated policy hnote call (policy.attempts - 1) s
  have hattempts : policy.attempts - 1 + 1 = max 1 policy.maxAttempts := by
    rw [attempts_eq]
    omega
  rw [hattempts] at hn
  refine ⟨n, hn, lines, ?_, hevents⟩
  intro i hi
  have hlt : i < policy.attempts := by
    rw [attempts_eq]
    exact Nat.lt_trans hi hn.stopsAt.lt
  rw [← policy.place_eq hlt]
  exact hlines i hi

end RetryPolicy

/-! ### Calls that are written down -/

namespace Course

/-- Writing a call down changes nothing else, however often it is made. -/
lemma worldAfter_recorded (call : Call) (x : Course σ α) (s : σ) (calls : List Call) (n : Nat) :
    worldAfter (recorded call x) (s, calls) n =
      (worldAfter x s n, calls ++ List.replicate n call) := by
  induction n with
  | zero => rw [worldAfter, worldAfter, List.replicate_zero, List.append_nil]
  | succ n ih =>
    rw [worldAfter, ih, worldAfter, List.replicate_succ', ← List.append_assoc]
    rfl

lemma valueAfter_recorded (call : Call) (x : Course σ α) (s : σ) (calls : List Call) :
    valueAfter (recorded call x) (s, calls) = valueAfter x s := by
  funext n
  rw [valueAfter, worldAfter_recorded]
  rfl

end Course

namespace RetryPolicy

/-- What is tried over a gateway whose calls are written down is written down as often as it is
tried over the gateway itself. -/
lemma IsTried.world_recorded {policy : RetryPolicy} {again : Except Fault α → Prop}
    {note? : String → Except Fault α → Option Log.Line} {x : Course σ α} {s : σ} {n m : Nat}
    {call : Call} {t : Trace σ (Except Fault α)} {t' : Trace (σ × List Call) (Except Fault α)}
    (h : policy.IsTried again note? x s n t)
    (h' : policy.IsTried again note? (recorded call x) (s, []) m t') :
    t'.world = (t.world, List.replicate (n + 1) call) := by
  have hstops := h'.stopsAt
  rw [valueAfter_recorded] at hstops
  rw [h'.world, h.world, worldAfter_recorded, hstops.unique h.stopsAt, List.nil_append]

/-- A call is tried as the policy says, and written down each time. -/
lemma exists_isTried_recorded (policy : RetryPolicy) {again : Except Fault α → Prop}
    {note? : String → Except Fault α → Option Log.Line}
    (hnote : ∀ place result, again result ↔ (note? place result).isSome = true) (call : Call)
    (x : Course σ α) (s : σ) :
    ∃ n, policy.IsTried again note? x s n
        ((policy.repeatNoted note? x (policy.attempts - 1)).run s) ∧
      ((policy.repeatNoted note? (recorded call x) (policy.attempts - 1)).run (s, [])).world.2 =
        List.replicate (n + 1) call := by
  obtain ⟨n, hn⟩ := policy.exists_isTried hnote x s
  obtain ⟨m, hm⟩ := policy.exists_isTried hnote (recorded call x) (s, [])
  exact ⟨n, hn, congrArg Prod.snd (hn.world_recorded hm)⟩

/-- A call that may fail for a passing reason is tried so. -/
lemma exists_isTried_repeatCall (policy : RetryPolicy) (operation : String) (call : Call)
    (x : Course σ α) (s : σ) :
    ∃ n, policy.IsTried IsPassingFailure (failureNote? operation) x s n
        ((policy.repeatCall operation x (policy.attempts - 1)).run s) ∧
      ((policy.repeatCall operation (recorded call x) (policy.attempts - 1)).run (s, [])).world.2 =
        List.replicate (n + 1) call := by
  rw [repeatCall_eq_repeatNoted, repeatCall_eq_repeatNoted]
  exact policy.exists_isTried_recorded (isPassingFailure_iff operation) call x s

/-- A question about a batch is tried so. -/
lemma exists_isTried_repeatStatus (policy : RetryPolicy) (batchId : String) (call : Call)
    (x : Course σ BatchReport) (s : σ) :
    ∃ n, policy.IsTried IsOpenStatus (statusNote? batchId) x s n
        ((policy.repeatStatus batchId x (policy.attempts - 1)).run s) ∧
      ((policy.repeatStatus batchId (recorded call x) (policy.attempts - 1)).run (s, [])).world.2 =
        List.replicate (n + 1) call := by
  rw [repeatStatus_eq_repeatNoted, repeatStatus_eq_repeatNoted]
  exact policy.exists_isTried_recorded (isOpenStatus_iff batchId) call x s

end RetryPolicy

/-! ### The three calls -/

namespace Gateway

open RetryPolicy

/-- **Asking again about a batch.** Whatever the gateway answers, the question is asked with the
same identifier and the same wait until an answer tells the last status or is a failure that does
not pass, or as often as the policy allows. The last answer is returned as it is. After each of the
others there is one line, about a status that may change or about the failure, and one wait. Any
bound that fits into a word may be counted up to in one. -/
theorem status_tried_again (g : Gateway σ) (policy : RetryPolicy) (batchId : String)
    (waitSecs : UInt64) :
    let question := g.status batchId waitSecs
    let tried := (g.retrying policy).status batchId waitSecs
    let recorded := (g.recorded.retrying policy).status batchId waitSecs
    (∀ s, ∃ n,
      policy.IsTried IsOpenStatus (statusNote? batchId) question s n (tried.run s) ∧
      (recorded.run (s, [])).world.2 = List.replicate (n + 1) (.status batchId waitSecs)) ∧
    ∀ (bound : UInt64) (intervalMs : Nat),
      (g.retrying ⟨bound.toNat, intervalMs⟩).status batchId waitSecs =
        countNoted intervalMs (max bound 1) (statusNote? batchId) question 1 := by
  intro question tried recorded
  constructor
  · intro s
    exact policy.exists_isTried_repeatStatus batchId (.status batchId waitSecs) question s
  · intro bound intervalMs
    rw [countNoted_one]
    exact repeatStatus_eq_repeatNoted _ batchId question _

/-- A question that fails, then tells that the batch waits, and then that nothing is known of it:
with three calls allowed, the third answer is returned. -/
example :
    let t := ((MemoryLedger.gateway.retrying ⟨3, 1500⟩).status "ab" 5).run
      { failures := 1, statuses := [(.pending, []), (.unknown, []), (.committed, [])] }
    t.value = .ok ⟨"ab", .unknown, []⟩ ∧ t.lines =
      [⟨.warn, "batch_status failed (attempt 1/3): Transport error: mock connection refused"⟩,
        ⟨.debug, "Batch ab still PENDING (attempt 2/3)"⟩] :=
  ⟨rfl, by decide +kernel⟩

/-- **Submitting and fetching again.** Whatever the gateway answers, the call is made with the same
argument until it does not fail for a passing reason, or as often as the policy allows. The last
result is returned as it is: what succeeds and what fails for good is never followed by another
call. After each of the other calls there is one warning, and one wait. Any bound that fits into a
word may be counted up to in one. -/
theorem calls_tried_again (g : Gateway σ) (policy : RetryPolicy) :
    (∀ list s, ∃ n,
      policy.IsTried IsPassingFailure (failureNote? "submit_batches") (g.submit list) s n
        (((g.retrying policy).submit list).run s) ∧
      (((g.recorded.retrying policy).submit list).run (s, [])).world.2 =
        List.replicate (n + 1) (.submit list)) ∧
    (∀ address s, ∃ n,
      policy.IsTried IsPassingFailure (failureNote? "fetch_state") (g.fetch address) s n
        (((g.retrying policy).fetch address).run s) ∧
      (((g.recorded.retrying policy).fetch address).run (s, [])).world.2 =
        List.replicate (n + 1) (.fetch address)) ∧
    ∀ (bound : UInt64) (intervalMs : Nat),
      (∀ list, (g.retrying ⟨bound.toNat, intervalMs⟩).submit list =
        countNoted intervalMs (max bound 1) (failureNote? "submit_batches") (g.submit list) 1) ∧
      ∀ address, (g.retrying ⟨bound.toNat, intervalMs⟩).fetch address =
        countNoted intervalMs (max bound 1) (failureNote? "fetch_state") (g.fetch address) 1 := by
  refine ⟨?_, ?_, ?_⟩
  · intro list s
    exact policy.exists_isTried_repeatCall "submit_batches" (.submit list) (g.submit list) s
  · intro address s
    exact policy.exists_isTried_repeatCall "fetch_state" (.fetch address) (g.fetch address) s
  · intro bound intervalMs
    constructor
    · intro list
      rw [countNoted_one]
      exact repeatCall_eq_repeatNoted _ "submit_batches" (g.submit list) _
    · intro address
      rw [countNoted_one]
      exact repeatCall_eq_repeatNoted _ "fetch_state" (g.fetch address) _

end Gateway

end XoLedger
