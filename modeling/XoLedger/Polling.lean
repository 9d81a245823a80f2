import XoLedger.Projection

/-!
# Polling

The list of games is read again and again, at even times as far as the reading itself allows: one
that takes too long puts off all that follow. Polling is stopped from outside, maybe in the middle
of a wait; a reading that is broken off there publishes nothing.
-/

namespace XoLedger

/-- The events of the first `ms` milliseconds and the world at their end, if more events follow. -/
def Event.cut {σ : Type} : (ms : Nat) → List (Event σ) → Option (List (Event σ) × σ)
  | _, [] => none
  | ms, .line l :: rest => (cut ms rest).map fun r => (.line l :: r.1, r.2)
  | ms, .pause duration world :: rest =>
    if ms ≤ duration then some ([.pause ms world], world)
    else (cut (ms - duration) rest).map fun r => (.pause duration world :: r.1, r.2)

namespace Polling

/-- The least time between two readings, in milliseconds. -/
def minPeriod : Nat := 100

/-- How late a reading may be before those that follow are put off, in milliseconds. -/
def tolerance : Nat := 5

/-- When the next reading is due, after one that was due at `due` and begun at `begun`. -/
def nextDue (period due begun : Nat) : Nat :=
  if due + tolerance < begun then begun + period else due + period

variable {σ : Type}

/-- One reading. A failure is noted and changes nothing. -/
def refresh (p : Projector σ) : Act σ (Projector σ) := do
  let (result, p) ← p.refreshAll
  match result with
  | .ok _ => return p
  | .error fault => do
    Act.note .warn s!"Game list refresh failed: {fault.message}"
    return p

/-- Polls from the time `now` to the time `stop`, the next reading being due at `due`. -/
def runFrom (period stop : Nat) : (budget now due : Nat) → Projector σ → Act σ (Projector σ)
  | 0, _, _, p => pure p
  | budget + 1, now, due, p =>
    let begun := max now due
    if stop ≤ begun then do
      Act.pause (stop - now)
      return p
    else do
      Act.pause (begun - now)
      fun world =>
        let t := refresh p world
        match Event.cut (stop - begun) t.events with
        | some (events, world) => ⟨p, events, world⟩
        | none =>
          let later :=
            runFrom period stop budget (begun + t.duration) (nextDue period due begun) t.value t.world
          { later with events := t.events ++ later.events }

/-- Polls for `duration` milliseconds. Readings are due at least one period apart, which bounds
their number. -/
def run (period duration : Nat) (p : Projector σ) : Act σ (Projector σ) :=
  let period := max period minPeriod
  runFrom period duration (duration / period + 2) 0 0 p

end Polling

end XoLedger
