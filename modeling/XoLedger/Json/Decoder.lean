import XoLedger.Json.Value
import XoLedger.Text.Quoted

/-!
# Reading JSON into types

A document is read from left to right into the type that is asked for, so the first thing that does
not fit decides the error, even if the text breaks off later. A reader takes tokens off the front
and returns the rest. Records may be written as objects or as lists of their fields in order;
members that the type does not have are passed over, and a member may not occur twice.
-/

namespace XoLedger.Json

/-! ### Errors -/

/-- A value that stands where another type is expected. -/
inductive Found where
  /-- Nothing. -/
  | null
  /-- A truth value. -/
  | bool (b : Bool)
  /-- A number. -/
  | number (n : Number)
  /-- A text. -/
  | text (s : String)
  /-- A list. -/
  | sequence
  /-- An object. -/
  | map
deriving DecidableEq

/-- How messages show a value. -/
def Found.name : Found → String
  | null => "null"
  | bool b => s!"boolean `{b}`"
  | number (.fraction f) => s!"floating point `{Decimal.floatText f}`"
  | number n => s!"integer `{n.text}`"
  | text s => s!"string {Quoted.text s}"
  | sequence => "sequence"
  | map => "map"

/-- Why a document is not a value of the type asked for. -/
inductive Error where
  /-- The document is not JSON, as far as it was read. -/
  | badSyntax
  /-- A member is missing. -/
  | missingField (name : String)
  /-- A member occurs twice. -/
  | duplicateField (name : String)
  /-- A value of another type. -/
  | wrongType (found : Found) (expected : String)
  /-- A number that the type does not have. -/
  | wrongValue (found : Found) (expected : String)
  /-- A list that ends before all the fields are there. -/
  | wrongLength (length : Nat) (expected : String)
  /-- A word that is none of those the type knows. -/
  | unknownVariant (word : String) (known : List String)
deriving DecidableEq

/-- The wording of a reading error. -/
def Error.message : Error → String
  | badSyntax => "JSON syntax error"
  | missingField name => s!"missing field `{name}`"
  | duplicateField name => s!"duplicate field `{name}`"
  | wrongType found expected => s!"invalid type: {found.name}, expected {expected}"
  | wrongValue found expected => s!"invalid value: {found.name}, expected {expected}"
  | wrongLength length expected => s!"invalid length {length}, expected {expected}"
  | unknownVariant word known =>
    s!"unknown variant `{word}`, expected one of " ++
      ", ".intercalate (known.map fun k => s!"`{k}`")

/-! ### Texts -/

/-- Where the reading of a text's octets stands. A character past the first plane takes two
escapes, the first of which is remembered. -/
inductive EscapeState where
  /-- Between characters. -/
  | plain
  /-- After a backslash. -/
  | escape
  /-- Before as many hexadecimal digits of an escape with this value, which may complete a pair. -/
  | digits (left value : Nat) (high : Option Nat)
  /-- After the first half of a pair. -/
  | half (high : Nat)
  /-- After the first half of a pair and a backslash. -/
  | halfEscape (high : Nat)

/-- The octets that an escape of one letter stands for. -/
def simpleEscape (b : UInt8) : Bytes :=
  if b = 98 then [8]
  else if b = 102 then [12]
  else if b = 110 then [10]
  else if b = 114 then [13]
  else if b = 116 then [9]
  else [b]

/-- The value of a hexadecimal digit. -/
def hexValue (b : UInt8) : Nat :=
  if b ≤ 57 then b.toNat - 48 else if b ≤ 70 then b.toNat - 55 else b.toNat - 87

/-- What an escape with a number comes to: a character's octets, or the first half of a pair. -/
def finishEscape (value : Nat) : Option Nat → Option (Bytes × EscapeState)
  | none =>
    if 0xDC00 ≤ value ∧ value ≤ 0xDFFF then none
    else if 0xD800 ≤ value ∧ value ≤ 0xDBFF then some ([], .half value)
    else some (Utf8.encodeChar (Char.ofNat value), .plain)
  | some high =>
    if 0xDC00 ≤ value ∧ value ≤ 0xDFFF then
      some (Utf8.encodeChar (Char.ofNat (0x10000 + 1024 * (high - 0xD800) + (value - 0xDC00))),
        .plain)
    else none

/-- The octets of a text with its escapes resolved. -/
def unescape : EscapeState → Bytes → Option Bytes
  | .plain, [] => some []
  | _, [] => none
  | .plain, b :: rest =>
    if b = 92 then unescape .escape rest else (unescape .plain rest).map (b :: ·)
  | .escape, b :: rest =>
    if b = 117 then unescape (.digits 4 0 none) rest
    else (unescape .plain rest).map (simpleEscape b ++ ·)
  | .digits left value high, b :: rest =>
    let value := 16 * value + hexValue b
    if 1 < left then unescape (.digits (left - 1) value high) rest
    else
      match finishEscape value high with
      | none => none
      | some (octets, state) => (unescape state rest).map (octets ++ ·)
  | .half high, b :: rest => if b = 92 then unescape (.halfEscape high) rest else none
  | .halfEscape high, b :: rest => if b = 117 then unescape (.digits 4 0 (some high)) rest else none

/-- The text that is written as `raw`. -/
def textOfRaw (raw : Bytes) : Except Error String :=
  match unescape .plain raw with
  | none => .error .badSyntax
  | some octets => (Utf8.decode octets).mapError fun _ => .badSyntax

/-- The number that a numeral stands for. -/
def numberOf (numeral : Numeral) : Except Error Number :=
  match numeral.value? with
  | none => .error .badSyntax
  | some n => .ok n

/-! ### Readers -/

/-- How many lists and objects may lie around a value. -/
def maxDepth : Nat := 127

/-- Reads a value off the front of tokens; `room` says how many lists and objects may be entered. -/
abbrev Decoder (α : Type) := (room : Nat) → List Token → Except Error (α × List Token)

/-- The error for a value of another type than expected. Single values have to be sound; of lists
and objects only the beginning is looked at. -/
def refuse {α : Type} (expected : String) : List Token → Except Error α
  | .null :: _ => .error (.wrongType .null expected)
  | .bool b :: _ => .error (.wrongType (.bool b) expected)
  | .number numeral :: _ => do
    let n ← numberOf numeral
    .error (.wrongType (.number n) expected)
  | .text raw :: _ => do
    let s ← textOfRaw raw
    .error (.wrongType (.text s) expected)
  | .openArray :: _ => .error (.wrongType .sequence expected)
  | .openObject :: _ => .error (.wrongType .map expected)
  | _ => .error .badSyntax

/-- Goes into a list or an object. -/
def enter : Nat → Except Error Nat
  | 0 => .error .badSyntax
  | room + 1 => .ok room

/-- Takes a token off the front. -/
def drop (token : Token) : List Token → Except Error (List Token)
  | [] => .error .badSyntax
  | t :: rest => if t = token then .ok rest else .error .badSyntax

/-- Reads a text. -/
def readText : Decoder String := fun _ tokens =>
  match tokens with
  | .text raw :: rest => do
    let s ← textOfRaw raw
    return (s, rest)
  | _ => refuse "a string" tokens

/-- Reads a number of 64 bits; `type` is what messages call it. -/
def readUInt64 (type : String) : Decoder UInt64 := fun _ tokens =>
  match tokens with
  | .number numeral :: rest => do
    match ← numberOf numeral with
    | .natural n => return (UInt64.ofNat n, rest)
    | .negative n => .error (.wrongValue (.number (.negative n)) type)
    | .fraction f => .error (.wrongType (.number (.fraction f)) type)
  | _ => refuse type tokens

/-- Reads nothing. -/
def readUnit : Decoder Unit := fun _ tokens =>
  match tokens with
  | .null :: rest => .ok ((), rest)
  | _ => refuse "unit" tokens

/-- Reads a value that may be absent. -/
def readOption {α : Type} (read : Decoder α) : Decoder (Option α) := fun room tokens =>
  match tokens with
  | .null :: rest => .ok (none, rest)
  | _ => do
    let (a, rest) ← read room tokens
    return (some a, rest)

/-- Reads one of the words of an enumeration, by itself or as the name of a member that holds
nothing. -/
def readWord {α : Type} (ofWord : String → Except Error α) : Decoder α := fun room tokens =>
  match tokens with
  | .text raw :: rest => do
    let a ← ofWord (← textOfRaw raw)
    return (a, rest)
  | .openObject :: .text raw :: rest => do
    let room ← enter room
    let a ← ofWord (← textOfRaw raw)
    let rest ← drop .colon rest
    let ((), rest) ← readUnit room rest
    let rest ← drop .closeObject rest
    return (a, rest)
  | .openObject :: rest => do
    let _ ← enter room
    refuse "variant identifier" rest
  | _ => .error .badSyntax

/-! ### Lists -/

/-- Where the next item of a list starts, or `none` at its end. -/
def nextItem (first : Bool) : List Token → Except Error (Option (List Token))
  | [] => .error .badSyntax
  | .closeArray :: _ => .ok none
  | token :: rest =>
    if first then .ok (some (token :: rest))
    else if token = .comma ∧ rest ≠ [] ∧ rest.head? ≠ some .closeArray then .ok (some rest)
    else .error .badSyntax

/-- Reads items up to the end of a list. Every item takes a token at least. -/
def readItems {α : Type} (read : List Token → Except Error (α × List Token)) :
    (budget : Nat) → (first : Bool) → List Token → Except Error (List α × List Token)
  | 0, _, _ => .error .badSyntax
  | budget + 1, first, tokens => do
    match ← nextItem first tokens with
    | none =>
      let rest ← drop .closeArray tokens
      return ([], rest)
    | some tokens =>
      let (a, rest) ← read tokens
      let (as, rest) ← readItems read budget false rest
      return (a :: as, rest)

/-- Reads a list. -/
def readList {α : Type} (read : Decoder α) : Decoder (List α) := fun room tokens =>
  match tokens with
  | .openArray :: rest => do
    let room ← enter room
    readItems (read room) (rest.length + 1) true rest
  | _ => refuse "a sequence" tokens

/-! ### Passing over values -/

/-- What may come next in a value that is passed over. -/
inductive SkipState where
  /-- A value. -/
  | value
  /-- The first item of a list, or its end. -/
  | firstItem
  /-- The first member of an object, or its end. -/
  | firstMember
  /-- A further member of an object. -/
  | member
  /-- The colon after a member's name. -/
  | colon
  /-- What follows a value. -/
  | after

/-- Passes over a value. The stack says of each list or object around the place whether it is an
object. Numbers may be out of range, texts need not be UTF-8, and nesting is not limited. -/
def skipFrom : SkipState → (stack : List Bool) → List Token → Except Error (List Token)
  | .after, [], tokens => .ok tokens
  | _, _, [] => .error .badSyntax
  | .colon, stack, token :: rest =>
    if token = .colon then skipFrom .value stack rest else .error .badSyntax
  | .after, isObject :: outer, token :: rest =>
    match token, isObject with
    | .comma, true => skipFrom .member (true :: outer) rest
    | .comma, false => skipFrom .value (false :: outer) rest
    | .closeObject, true => skipFrom .after outer rest
    | .closeArray, false => skipFrom .after outer rest
    | _, _ => .error .badSyntax
  | .member, stack, token :: rest =>
    match token with
    | .text _ => skipFrom .colon stack rest
    | _ => .error .badSyntax
  | .firstMember, stack, token :: rest =>
    match token with
    | .text _ => skipFrom .colon stack rest
    | .closeObject => skipFrom .after stack.tail rest
    | _ => .error .badSyntax
  | .value, stack, token :: rest =>
    match token with
    | .null | .bool _ | .number _ | .text _ => skipFrom .after stack rest
    | .openArray => skipFrom .firstItem (false :: stack) rest
    | .openObject => skipFrom .firstMember (true :: stack) rest
    | _ => .error .badSyntax
  | .firstItem, stack, token :: rest =>
    match token with
    | .closeArray => skipFrom .after stack.tail rest
    | .null | .bool _ | .number _ | .text _ => skipFrom .after stack rest
    | .openArray => skipFrom .firstItem (false :: stack) rest
    | .openObject => skipFrom .firstMember (true :: stack) rest
    | _ => .error .badSyntax

/-- Passes over a value. -/
def skipValue (tokens : List Token) : Except Error (List Token) :=
  skipFrom .value [] tokens

/-! ### Objects -/

/-- Reads members up to the end of an object, after its brace. `step` gets the name of each and the
tokens after it, from the colon on. -/
def readMembers {α : Type} (step : α → String → List Token → Except Error (α × List Token)) :
    (budget : Nat) → α → List Token → Except Error (α × List Token)
  | 0, _, _ => .error .badSyntax
  | budget + 1, a, tokens =>
    match tokens with
    | .text raw :: rest => do
      let (a, rest) ← step a (← textOfRaw raw) rest
      match rest with
      | .closeObject :: rest => return (a, rest)
      | .comma :: rest => readMembers step budget a rest
      | _ => .error .badSyntax
    | _ => .error .badSyntax

/-- Reads the members of an object, after its brace. -/
def readObject {α : Type} (step : α → String → List Token → Except Error (α × List Token))
    (a : α) (tokens : List Token) : Except Error (α × List Token) :=
  match tokens with
  | .closeObject :: rest => .ok (a, rest)
  | _ => readMembers step tokens.length a tokens

/-- Reads a value of any shape. Of members with one name the last counts. -/
def readValue : (room : Nat) → List Token → Except Error (Value × List Token)
  | _, .null :: rest => .ok (.null, rest)
  | _, .bool b :: rest => .ok (.bool b, rest)
  | _, .number numeral :: rest => do
    let n ← numberOf numeral
    return (.number n, rest)
  | _, .text raw :: rest => do
    let s ← textOfRaw raw
    return (.text s, rest)
  | room + 1, .openArray :: rest => do
    let (items, rest) ← readItems (readValue room) (rest.length + 1) true rest
    return (.array items, rest)
  | room + 1, .openObject :: rest => do
    let member (members : List (String × Value)) (key : String) (tokens : List Token) := do
      let tokens ← drop .colon tokens
      let (value, tokens) ← readValue room tokens
      return (Value.insertMember key value members, tokens)
    let (members, rest) ← readObject member [] rest
    return (.object members, rest)
  | _, _ => .error .badSyntax

/-! ### Records -/

/-- What the absence of a field means. -/
inductive Absence where
  /-- The field is required. -/
  | refused
  /-- The field may be left out of an object, but not out of a list. -/
  | refusedInList
  /-- The field may be left out. -/
  | allowed
deriving DecidableEq

/-- A field of a record type: its name, what its absence means, and how its value is taken into a
record. -/
structure Field (α : Type) where
  /-- The name. -/
  name : String
  /-- What its absence means. -/
  absence : Absence
  /-- Reads the value and says how a record changes. -/
  read : Decoder (α → α)

/-- A field of type `β`. -/
def Field.of {α β : Type} (name : String) (absence : Absence) (read : Decoder β)
    (put : β → α → α) : Field α where
  name := name
  absence := absence
  read := fun room tokens => do
    let (b, rest) ← read room tokens
    return (put b, rest)

/-- A record type: its name, its fields in order, and the record before any field is read. -/
structure Shape (α : Type) where
  /-- The name. -/
  name : String
  /-- The fields. -/
  fields : List (Field α)
  /-- The record with every field at its default. -/
  empty : α

namespace Shape

variable {α : Type}

/-- How messages call the record written as a list. -/
def asList (shape : Shape α) : String :=
  let n := shape.fields.length
  let noun := if n = 1 then "element" else "elements"
  s!"struct {shape.name} with {n} {noun}"

/-- Takes one member of an object into a record; `seen` holds the names read before. -/
def member (shape : Shape α) (room : Nat) (state : List String × α) (key : String)
    (tokens : List Token) : Except Error ((List String × α) × List Token) :=
  match shape.fields.find? (·.name = key) with
  | none => do
    let tokens ← drop .colon tokens
    let tokens ← skipValue tokens
    return (state, tokens)
  | some field =>
    if state.1.contains key then .error (.duplicateField key)
    else do
      let tokens ← drop .colon tokens
      let (change, tokens) ← field.read room tokens
      return ((key :: state.1, change state.2), tokens)

/-- Reads fields from the items of a list. Items that are missing at the end are left out. -/
def items (shape : Shape α) (room : Nat) :
    (index : Nat) → List (Field α) → α → List Token → Except Error (α × List Token)
  | _, [], a, tokens => .ok (a, tokens)
  | index, field :: fields, a, tokens => do
    match ← nextItem (index = 0) tokens with
    | none =>
      if field.absence = .allowed then shape.items room (index + 1) fields a tokens
      else .error (.wrongLength index shape.asList)
    | some tokens =>
      let (change, rest) ← field.read room tokens
      shape.items room (index + 1) fields (change a) rest

/-- Reads a record. -/
def read (shape : Shape α) : Decoder α := fun room tokens =>
  match tokens with
  | .openObject :: rest => do
    let room ← enter room
    let ((seen, a), rest) ← readObject (shape.member room) ([], shape.empty) rest
    match shape.fields.find? fun f => f.absence = .refused ∧ !seen.contains f.name with
    | some field => .error (.missingField field.name)
    | none => return (a, rest)
  | .openArray :: rest => do
    let room ← enter room
    let (a, rest) ← shape.items room 0 shape.fields shape.empty rest
    let rest ← drop .closeArray rest
    return (a, rest)
  | _ => refuse s!"struct {shape.name}" tokens

end Shape

/-- Reads a document as a value of the type that `read` reads. -/
def decode {α : Type} (read : Decoder α) (b : Bytes) : Except Error α := do
  let (a, rest) ← read maxDepth (lex b)
  if rest.isEmpty then return a else .error .badSyntax

end XoLedger.Json
