import XoLedger.Gateway.Basic

/-!
# Gateways that try again

A call that failed for a reason that may pass is made again after a while, and so is the question
about a batch that has not got its last status yet. A policy says how many calls there may be in
all; the last one counts as it is.
-/

namespace XoLedger

/-- How often a call may be made, and how long to wait before the next time. -/
structure RetryPolicy where
  /-- The greatest number of calls. None at all counts as one. -/
  maxAttempts : Nat
  /-- The wait between two calls, in milliseconds. -/
  intervalMs : Nat
deriving DecidableEq, Repr

namespace RetryPolicy

/-- One call and no more. -/
def singleShot : RetryPolicy := ⟨1, 0⟩

/-- Whether there is one call and no more. -/
def IsSingleShot (policy : RetryPolicy) : Prop :=
  policy.maxAttempts ≤ 1

instance (policy : RetryPolicy) : Decidable policy.IsSingleShot :=
  inferInstanceAs (Decidable (_ ≤ _))

/-- The number of calls there may be. -/
def attempts (policy : RetryPolicy) : Nat :=
  max policy.maxAttempts 1

/-- The place of a call among those there may be, when `left` more may follow. -/
def place (policy : RetryPolicy) (left : Nat) : String :=
  s!"(attempt {policy.attempts - left}/{policy.attempts})"

/-- Notes that a call failed, and waits. -/
def waitAfterFault {σ : Type} (policy : RetryPolicy) (operation : String) (left : Nat)
    (fault : Fault) : Act σ Unit := do
  Act.note .warn s!"{operation} failed {policy.place left}: {fault.message}"
  Act.pause policy.intervalMs

/-- Makes a call until it does not fail for a passing reason; after the first, `left` more calls
may follow. -/
def repeatCall {σ α : Type} (policy : RetryPolicy) (operation : String) (call : Course σ α) :
    (left : Nat) → Course σ α
  | 0 => call
  | left + 1 => ExceptT.mk do
    match ← call.run with
    | .error fault =>
      if fault.IsTransient then
        policy.waitAfterFault operation (left + 1) fault
        (policy.repeatCall operation call left).run
      else return .error fault
    | .ok a => return .ok a

/-- Asks about a batch until it has got its last status; after the first time, `left` more
questions may follow. -/
def repeatStatus {σ : Type} (policy : RetryPolicy) (batchId : String)
    (call : Course σ BatchReport) : (left : Nat) → Course σ BatchReport
  | 0 => call
  | left + 1 => ExceptT.mk do
    match ← call.run with
    | .error fault =>
      if fault.IsTransient then
        policy.waitAfterFault "batch_status" (left + 1) fault
        (policy.repeatStatus batchId call left).run
      else return .error fault
    | .ok report =>
      if report.status.IsTerminal then return .ok report
      else
        Act.note .debug s!"Batch {batchId} still {report.status.word} {policy.place (left + 1)}"
        Act.pause policy.intervalMs
        (policy.repeatStatus batchId call left).run

end RetryPolicy

/-- A gateway that tries again. -/
def Gateway.retrying {σ : Type} (g : Gateway σ) (policy : RetryPolicy) : Gateway σ where
  submit list := policy.repeatCall "submit_batches" (g.submit list) (policy.attempts - 1)
  status batchId waitSecs :=
    policy.repeatStatus batchId (g.status batchId waitSecs) (policy.attempts - 1)
  fetch address := policy.repeatCall "fetch_state" (g.fetch address) (policy.attempts - 1)

end XoLedger
