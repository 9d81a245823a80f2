import XoLedger.Game.Address
import XoLedger.Game.Record
import XoLedger.Gateway.Basic
import XoLedger.Text.Lowercase

/-!
# Projections

What has been read of the ledger's state, for those who want to look at it: the list of all games,
and one game that is looked at closely. Each is replaced as a whole by a reading that succeeds, and
stays as it was after one that fails.
-/

namespace XoLedger

/-! ### What is published -/

/-- A published value, and how often it has been replaced. -/
structure Cell (α : Type) where
  /-- The value. -/
  value : α
  /-- The number of replacements. -/
  version : Nat
deriving DecidableEq, Repr

/-- Replaces a published value. -/
def Cell.replace {α : Type} (cell : Cell α) (value : α) : Cell α :=
  ⟨value, cell.version + 1⟩

/-- The list of games. -/
structure Snapshot where
  /-- The games in order. -/
  games : List Game
  /-- Whether the list comes from a ledger. -/
  refreshed : Bool
deriving DecidableEq, Repr

namespace Snapshot

/-- The list before anything has been read. -/
def empty : Snapshot := ⟨[], false⟩

/-- The game with a given name. -/
def find? (s : Snapshot) (name : String) : Option Game :=
  s.games.find? (·.name = name)

end Snapshot

/-- Whether a game may stand before another: names are ordered without regard to case, and then
with regard to it. -/
def Game.precedes (a b : Game) : Bool :=
  let la := lowercase a.name
  let lb := lowercase b.name
  decide (la < lb) || (decide (la = lb) && !decide (b.name < a.name))

/-! ### Reading -/

/-- The games of entries, or the first entry that is not a game. -/
def readGames : List StateEntry → Except (StateEntry × Record.Error) (List Game)
  | [] => .ok []
  | entry :: rest =>
    match Record.decode entry.data with
    | .error e => .error (entry, e)
    | .ok g => (readGames rest).map (g :: ·)

/-- A record error as a fault. -/
def Record.Error.toFault (e : Record.Error) : Fault :=
  .malformedState e.message

/-- Reads all games from a gateway. -/
def Gateway.readSnapshot {σ : Type} (g : Gateway σ) : Course σ Snapshot := do
  let entries ← g.fetch Address.gamePrefix
  match readGames entries with
  | .error (entry, e) => do
    Course.note .warn
      s!"Undecodable game record at {entry.address}: {e.toFault.message}"
    throw e.toFault
  | .ok games => do
    Course.note .debug s!"Game list refreshed: {games.length} games"
    return ⟨games.mergeSort Game.precedes, true⟩

/-- Reads one game from a gateway. -/
def Gateway.readGame {σ : Type} (g : Gateway σ) (name : String) : Course σ Game := do
  let address := Address.ofName name
  let entries ← g.fetch address
  match entries with
  | [] => throw (.notFound s!"Game {Quoted.text name} not found at {address}")
  | entry :: _ => Course.ofExcept Record.Error.toFault (Record.decode entry.data)

/-! ### Publishing -/

/-- What is published, and the gateway that it is read from. -/
structure Projector (σ : Type) where
  /-- The gateway. -/
  gateway : Gateway σ
  /-- The list of games. -/
  games : Cell Snapshot
  /-- The game that is looked at closely. -/
  focus : Cell (Option Game)

namespace Projector

variable {σ : Type}

/-- The projector before anything has been read. -/
def start (gateway : Gateway σ) : Projector σ where
  gateway := gateway
  games := ⟨.empty, 0⟩
  focus := ⟨none, 0⟩

/-- Takes another gateway for what is read from now on. -/
def withGateway (p : Projector σ) (gateway : Gateway σ) : Projector σ :=
  { p with gateway }

/-- Reads all games and publishes them. -/
def refreshAll (p : Projector σ) : Act σ (Except Fault Snapshot × Projector σ) := do
  match ← p.gateway.readSnapshot.run with
  | .ok snapshot => return (.ok snapshot, { p with games := p.games.replace snapshot })
  | .error fault => return (.error fault, p)

/-- Reads one game and publishes it. -/
def refreshOne (p : Projector σ) (name : String) : Act σ (Except Fault Game × Projector σ) := do
  match ← (p.gateway.readGame name).run with
  | .ok g => return (.ok g, { p with focus := p.focus.replace (some g) })
  | .error fault => return (.error fault, p)

end Projector

end XoLedger
