import XoLedger.Bytes.Base64
import XoLedger.Game.Basic
import XoLedger.Text.Blank
import XoLedger.Text.Quoted
import XoLedger.Text.Split

/-!
# Records

A game is stored on the ledger as one text of five fields with commas between them, in Base64.
Fields are not escaped, so a comma inside one shifts all that follow; the reader finds too many
fields then and refuses the record.
-/

namespace XoLedger.Record

/-- Why a stored value is not a game. -/
inductive Error where
  /-- The value is not in Base64. -/
  | notBase64 (cause : Base64.Error)
  /-- The octets are not a text. -/
  | notUtf8 (cause : Utf8.Error)
  /-- The text has another number of fields than five. -/
  | badFieldCount (count : Nat) (text : String)
  /-- The third field is no word for a phase. -/
  | unknownPhase (word : String)
deriving DecidableEq, Repr

/-- The wording of a record error. -/
def Error.message : Error → String
  | .notBase64 cause => s!"state is not base64: {cause.message}"
  | .notUtf8 cause => s!"state is not UTF-8: {cause.message}"
  | .badFieldCount count text => s!"expected 5 fields, found {count} in {Quoted.text text}"
  | .unknownPhase word => s!"unknown game state {Quoted.text word}"

/-- What stands between the fields. -/
def separator : Char := ','

/-- Reads the word for a phase. -/
def readPhase (word : String) : Except Error Phase :=
  match Phase.ofWire? word with
  | some phase => .ok phase
  | none => .error (.unknownPhase word)

/-- The five fields as one text. -/
def textOf (g : Game) : String :=
  join separator [g.name, g.board, g.phase.wire, g.player1, g.player2]

/-- The stored value of a game. -/
def encode (g : Game) : String :=
  Base64.encode (Utf8.encode (textOf g))

/-- The game of a text of five fields. -/
def ofText (text : String) : Except Error Game :=
  match split separator text with
  | [name, board, word, player1, player2] =>
    (readPhase word).map fun phase => { name, board, phase, player1, player2 }
  | fields => .error (.badFieldCount fields.length text)

/-- The game of a stored value, which may have white space around it. -/
def decode (value : String) : Except Error Game := do
  let octets ← (Base64.decode (trim value)).mapError .notBase64
  let text ← (Utf8.decode octets).mapError .notUtf8
  ofText text

end XoLedger.Record
