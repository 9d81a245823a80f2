import XoLedger.Game.Basic
import XoLedger.Json.Decoder

/-!
# Games as structured data

How games, phases and marks are written in JSON and read back. Phases and marks go by their names
here, and not by the words of a record.
-/

namespace XoLedger

open Json

/-- The one of several things with a given name. -/
def readNamed {α : Type} (all : List α) (name : α → String) : Decoder α :=
  readWord fun word =>
    match all.find? fun a => name a = word with
    | some a => .ok a
    | none => .error (.unknownVariant word (all.map name))

/-- Reads a phase. -/
def Phase.read : Decoder Phase :=
  readNamed Phase.all Phase.name

/-- A phase as a value. -/
def Phase.toValue (phase : Phase) : Value :=
  .text phase.name

/-- Reads a mark. -/
def Mark.read : Decoder Mark :=
  readNamed Mark.all Mark.name

/-- A mark as a value. -/
def Mark.toValue (mark : Mark) : Value :=
  .text mark.name

namespace Game

/-- The fields of a game. -/
def shape : Shape Game where
  name := "Game"
  fields := [
    .of "name" .refused readText fun s g => { g with name := s },
    .of "board" .refused readText fun s g => { g with board := s },
    .of "game_state" .refused Phase.read fun phase g => { g with phase },
    .of "player1" .refused readText fun s g => { g with player1 := s },
    .of "player2" .refused readText fun s g => { g with player2 := s }]
  empty := default

/-- A game as a value. -/
def toValue (g : Game) : Value :=
  .object [("name", .text g.name), ("board", .text g.board), ("game_state", g.phase.toValue),
    ("player1", .text g.player1), ("player2", .text g.player2)]

end Game

end XoLedger
