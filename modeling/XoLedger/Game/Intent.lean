import XoLedger.Text.Quoted
import XoLedger.Text.Utf8

/-!
# Intents

What a player wants of a game, and the payload that says so: the game's name, the action and its
argument with commas between them. Since fields are not escaped, a comma in one is refused.
-/

namespace XoLedger

/-- What a player wants to do. -/
inductive Intent where
  /-- Open a new game. -/
  | create
  /-- Put a mark into a cell, counted from one. -/
  | take (space : UInt8)
deriving DecidableEq, Repr

namespace Intent

/-- The word for an intent. -/
def name : Intent → String
  | create => "create"
  | take _ => "take"

/-- The argument of an intent, if it has one. -/
def argument? : Intent → Option String
  | create => none
  | take space => some (toString space.toNat)

end Intent

namespace Payload

/-- The parts of a payload. -/
inductive Part where
  /-- The name of the game. -/
  | gameName
  /-- The word for the action. -/
  | action
  /-- The argument. -/
  | argument
deriving DecidableEq, Repr

/-- How messages call a part. -/
def Part.name : Part → String
  | gameName => "game name"
  | action => "action"
  | argument => "argument"

/-- A part of a payload holds a comma. -/
structure Error where
  /-- The part. -/
  part : Part
  /-- Its text. -/
  value : String
deriving DecidableEq, Repr

/-- The wording of a payload error. -/
def Error.message (e : Error) : String :=
  s!"{e.part.name} may not contain ',': {Quoted.text e.value}"

/-- What stands for a missing argument. -/
def missingArgument : String := "null"

/-- Refuses a text with a comma in it. -/
def refuseComma (part : Part) (value : String) : Except Error Unit :=
  if ',' ∈ value.toList then .error ⟨part, value⟩ else .ok ()

/-- The payload text of three parts. They are checked from left to right. -/
def text (gameName action : String) (argument : Option String) : Except Error String := do
  refuseComma .gameName gameName
  refuseComma .action action
  let argument := argument.getD missingArgument
  refuseComma .argument argument
  return gameName ++ "," ++ action ++ "," ++ argument

/-- The payload of three parts. -/
def encode (gameName action : String) (argument : Option String) : Except Error Bytes :=
  (text gameName action argument).map Utf8.encode

/-- The payload of an intent. -/
def ofIntent (gameName : String) (intent : Intent) : Except Error Bytes :=
  encode gameName intent.name intent.argument?

end Payload

end XoLedger
