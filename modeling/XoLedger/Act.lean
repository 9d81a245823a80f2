import XoLedger.Fault
import XoLedger.Log

/-!
# Acts

An act is what the program does in a world that answers it: a network, a ledger kept in memory, or
several of these at once. It ends with a value and a changed world, and on its way it leaves a
record of what it noted and how long it waited. Each wait remembers the world at its beginning, so
that an act can be broken off in the middle of a wait. A course is an act that may fail.
-/

namespace XoLedger

/-- Something that can be observed while an act goes on, in a world of type `σ`. -/
inductive Event (σ : Type) where
  /-- A line is noted. -/
  | line (line : Log.Line)
  /-- Some milliseconds pass, from this world on. -/
  | pause (ms : Nat) (world : σ)

namespace Event

variable {σ : Type}

/-- The line that an event notes. -/
def line? : Event σ → Option Log.Line
  | line l => some l
  | pause _ _ => none

/-- How long an event takes. -/
def duration : Event σ → Nat
  | line _ => 0
  | pause ms _ => ms

end Event

/-- How an act ends, and what was observed on the way. -/
structure Trace (σ α : Type) where
  /-- The value. -/
  value : α
  /-- The events, in order. -/
  events : List (Event σ)
  /-- The world afterwards. -/
  world : σ

namespace Trace

variable {σ α : Type}

/-- The lines noted on the way. -/
def lines (t : Trace σ α) : List Log.Line :=
  t.events.filterMap Event.line?

/-- How long the act took. -/
def duration (t : Trace σ α) : Nat :=
  (t.events.map Event.duration).foldr (· + ·) 0

end Trace

/-- Something that is done in a world and ends with a value. -/
def Act (σ α : Type) : Type := σ → Trace σ α

namespace Act

variable {σ τ α β : Type}

/-- Ends at once. -/
def done (a : α) : Act σ α := fun s => ⟨a, [], s⟩

/-- Does one act after the other. -/
def andThen (x : Act σ α) (f : α → Act σ β) : Act σ β := fun s =>
  let first := x s
  let second := f first.value first.world
  ⟨second.value, first.events ++ second.events, second.world⟩

instance : Monad (Act σ) where
  pure := done
  bind := andThen

@[simp] theorem pure_apply (a : α) (s : σ) : (pure a : Act σ α) s = ⟨a, [], s⟩ := rfl

@[simp] theorem bind_apply (x : Act σ α) (f : α → Act σ β) (s : σ) :
    (x >>= f) s =
      ⟨(f (x s).value (x s).world).value, (x s).events ++ (f (x s).value (x s).world).events,
        (f (x s).value (x s).world).world⟩ := rfl

instance : LawfulMonad (Act σ) := LawfulMonad.mk' (Act σ)
  (by intro α x; funext s; simp [Functor.map, andThen, done])
  (by intro α β a f; funext s; simp [bind, pure, andThen, done])
  (by intro α β γ x f g; funext s; simp [bind, andThen])

/-- Notes a line. -/
def note (level : Log.Level) (message : String) : Act σ Unit := fun s =>
  ⟨(), [.line ⟨level, message⟩], s⟩

/-- Waits. -/
def pause (ms : Nat) : Act σ Unit := fun s =>
  ⟨(), [.pause ms s], s⟩

/-- Looks at the world. -/
def look : Act σ σ := fun s => ⟨s, [], s⟩

/-- Changes the world. -/
def change (f : σ → α × σ) : Act σ α := fun s =>
  let (a, s') := f s
  ⟨a, [], s'⟩

/-- Does an act in a part of the world. -/
def within (get : σ → τ) (put : τ → σ → σ) (x : Act τ α) : Act σ α := fun s =>
  let t := x (get s)
  { value := t.value
    events := t.events.map fun
      | .line l => .line l
      | .pause ms part => .pause ms (put part s)
    world := put t.world s }

end Act

/-- An act that may fail. -/
abbrev Course (σ α : Type) : Type := ExceptT Fault (Act σ) α

namespace Course

variable {σ τ α : Type}

/-- Does a course in a part of the world. -/
def within (get : σ → τ) (put : τ → σ → σ) (x : Course τ α) : Course σ α :=
  ExceptT.mk (Act.within get put x.run)

/-- Notes a line. -/
def note (level : Log.Level) (message : String) : Course σ Unit :=
  ExceptT.lift (Act.note level message)

/-- A result that is already known. -/
def ofExcept {ε : Type} (toFault : ε → Fault) : Except ε α → Course σ α
  | .ok a => pure a
  | .error e => throw (toFault e)

end Course

end XoLedger
