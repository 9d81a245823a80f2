import XoLedger.Text.Utf8
import XoLedger.Wire.Varint

/-!
# Fields on the wire

A message is a sequence of fields in any order. Each field starts with a key, which holds a tag
and says how the value is laid out, so that a reader can pass over fields it does not know. A
reader takes a value off the front of the octets and returns the rest. Nested messages and groups
may go a hundred levels deep.
-/

namespace XoLedger.Wire

/-! ### Errors -/

/-- How a value is laid out. -/
inductive WireType where
  /-- A number of variable length. -/
  | varint
  /-- Eight octets. -/
  | sixtyFourBit
  /-- A length, then as many octets. -/
  | lengthDelimited
  /-- The start of a group of fields. -/
  | startGroup
  /-- The end of a group of fields. -/
  | endGroup
  /-- Four octets. -/
  | thirtyTwoBit
deriving DecidableEq, Repr

/-- The layout with a given number. -/
def WireType.ofNat? : Nat → Option WireType
  | 0 => some .varint
  | 1 => some .sixtyFourBit
  | 2 => some .lengthDelimited
  | 3 => some .startGroup
  | 4 => some .endGroup
  | 5 => some .thirtyTwoBit
  | _ => none

/-- The name of a layout in messages. -/
def WireType.name : WireType → String
  | .varint => "Varint"
  | .sixtyFourBit => "SixtyFourBit"
  | .lengthDelimited => "LengthDelimited"
  | .startGroup => "StartGroup"
  | .endGroup => "EndGroup"
  | .thirtyTwoBit => "ThirtyTwoBit"

/-- What is wrong with octets that are not a message. -/
inductive Cause where
  /-- A number does not end in time or is too large. -/
  | badVarint
  /-- A key has more than 32 bits. -/
  | badKey (key : Nat)
  /-- A key names a layout that there is not. -/
  | badWireType (number : Nat)
  /-- A key has the tag zero. -/
  | zeroTag
  /-- A known field has another layout than its type. -/
  | wrongWireType (found expected : WireType)
  /-- A value is longer than what is left. -/
  | underflow
  /-- A nested message does not end where its length says. -/
  | lengthExceeded
  /-- A text is not UTF-8. -/
  | notUtf8
  /-- A group ends that is not open. -/
  | strayEndGroup
  /-- Messages or groups are nested too deeply. -/
  | tooDeep
deriving DecidableEq, Repr

/-- The wording of a cause. -/
def Cause.message : Cause → String
  | .badVarint => "invalid varint"
  | .badKey key => s!"invalid key value: {key}"
  | .badWireType number => s!"invalid wire type value: {number}"
  | .zeroTag => "invalid tag value: 0"
  | .wrongWireType found expected =>
    s!"invalid wire type: {found.name} (expected {expected.name})"
  | .underflow => "buffer underflow"
  | .lengthExceeded => "delimited length exceeded"
  | .notUtf8 => "invalid string value: data is not UTF-8 encoded"
  | .strayEndGroup => "unexpected end group tag"
  | .tooDeep => "recursion limit reached"

/-- A cause and the fields it was met in, innermost first, each with its message. -/
structure Error where
  /-- The fields around the fault. -/
  path : List (String × String)
  /-- The fault. -/
  cause : Cause
deriving DecidableEq, Repr

/-- The wording of a reading error. -/
def Error.message (e : Error) : String :=
  "failed to decode Protobuf message: " ++
    String.join (e.path.map fun (message, field) => s!"{message}.{field}: ") ++ e.cause.message

/-- A failure outside any field. -/
def fail {α : Type} (cause : Cause) : Except Error α :=
  .error ⟨[], cause⟩

/-- Notes in an error the field in which it was met. -/
def inField {α : Type} (message field : String) (result : Except Error α) : Except Error α :=
  result.mapError fun e => { e with path := e.path ++ [(message, field)] }

/-! ### Keys and values -/

/-- How deeply messages and groups may be nested. -/
def maxDepth : Nat := 100

/-- Reads a number. -/
def readVarint (b : Bytes) : Except Error (Nat × Bytes) :=
  match Varint.read? b with
  | some r => .ok r
  | none => fail .badVarint

/-- The tag of a field and the layout of its value. -/
structure Key where
  /-- The number of the field in its message. -/
  tag : Nat
  /-- The layout of the value. -/
  wire : WireType

/-- Reads a key. -/
def readKey (b : Bytes) : Except Error (Key × Bytes) := do
  let (key, rest) ← readVarint b
  if UInt32.size ≤ key then fail (.badKey key)
  else
    match WireType.ofNat? (key % 8) with
    | none => fail (.badWireType (key % 8))
    | some wire => if key / 8 = 0 then fail .zeroTag else return (⟨key / 8, wire⟩, rest)

/-- Takes `n` octets off the front. -/
def readOctets (n : Nat) (b : Bytes) : Except Error (Bytes × Bytes) :=
  if b.length < n then fail .underflow else .ok (b.take n, b.drop n)

/-- Takes a value of type `β` off the front, given its layout and the depth that is left. -/
abbrev Reader (β : Type) :=
  (depth : Nat) → WireType → Bytes → Except Error (β × Bytes)

/-- Refuses a layout other than the expected one. -/
def expect (expected found : WireType) : Except Error Unit :=
  if found = expected then .ok () else fail (.wrongWireType found expected)

/-- Reads an octet string. -/
def readBytes : Reader Bytes := fun _ wire b => do
  expect .lengthDelimited wire
  let (n, rest) ← readVarint b
  readOctets n rest

/-- Reads a text. -/
def readText : Reader String := fun depth wire b => do
  let (octets, rest) ← readBytes depth wire b
  match Utf8.decode octets with
  | .ok s => return (s, rest)
  | .error _ => fail .notUtf8

/-- Reads a truth value: any number but zero is true. -/
def readFlag : Reader Bool := fun _ wire b => do
  expect .varint wire
  let (n, rest) ← readVarint b
  return (decide (n ≠ 0), rest)

/-! ### Passing over unknown fields -/

/-- Passes over the fields of a group until the key that ends it. Every field takes an octet at
least, so the number of octets bounds the number of fields. -/
def skipGroup (skip : Key → Bytes → Except Error Bytes) (tag : Nat) :
    (budget : Nat) → Bytes → Except Error Bytes
  | 0, _ => fail .badVarint
  | budget + 1, b => do
    let (key, rest) ← readKey b
    if key.wire = .endGroup then
      if key.tag = tag then return rest else fail .strayEndGroup
    else
      let rest ← skip key rest
      skipGroup skip tag budget rest

/-- Passes over the value of a field. -/
def skipField : (depth : Nat) → Key → Bytes → Except Error Bytes
  | 0, _, _ => fail .tooDeep
  | depth + 1, key, b =>
    match key.wire with
    | .varint => do
      let (_, rest) ← readVarint b
      return rest
    | .thirtyTwoBit => do
      let (_, rest) ← readOctets 4 b
      return rest
    | .sixtyFourBit => do
      let (_, rest) ← readOctets 8 b
      return rest
    | .lengthDelimited => do
      let (n, rest) ← readVarint b
      let (_, rest) ← readOctets n rest
      return rest
    | .startGroup => skipGroup (skipField depth) key.tag (b.length + 1) b
    | .endGroup => fail .strayEndGroup

/-! ### Messages -/

/-- Takes the value of one field into a message. -/
abbrev Step (α : Type) := (depth : Nat) → α → Key → Bytes → Except Error (α × Bytes)

/-- Takes fields into a message while more than `limit` octets are left. Every field takes an
octet at least, so the number of octets bounds the number of fields. -/
def readFields {α : Type} (step : Step α) (depth limit : Nat) :
    (budget : Nat) → α → Bytes → Except Error (α × Bytes)
  | 0, m, b => .ok (m, b)
  | budget + 1, m, b =>
    if b.length ≤ limit then .ok (m, b)
    else do
      let (key, rest) ← readKey b
      let (m, rest) ← step depth m key rest
      readFields step depth limit budget m rest

/-- Reads a nested message. Its fields are read from all the octets that are left, and have to end
exactly where the length says. -/
def readMessage {α : Type} (step : Step α) (empty : α) : Reader α := fun depth wire b => do
  expect .lengthDelimited wire
  match depth with
  | 0 => fail .tooDeep
  | depth + 1 =>
    let (n, rest) ← readVarint b
    if rest.length < n then fail .underflow
    else
      let limit := rest.length - n
      let (m, rest) ← readFields step depth limit rest.length empty rest
      if rest.length = limit then return (m, rest) else fail .lengthExceeded

/-- Reads a message that takes up all the octets. -/
def decode {α : Type} (step : Step α) (empty : α) (b : Bytes) : Except Error α := do
  let (m, _) ← readFields step maxDepth 0 b.length empty b
  return m

/-! ### Writing -/

/-- A key. -/
def writeKey (tag : Nat) (wire : Nat) : Bytes :=
  Varint.write (8 * tag + wire)

/-- A field that holds octets, which may be none. -/
def writeBytes (tag : Nat) (b : Bytes) : Bytes :=
  writeKey tag 2 ++ Varint.write b.length ++ b

/-- A field that is left out when it holds no octets. -/
def writeBytesUnlessEmpty (tag : Nat) (b : Bytes) : Bytes :=
  if b = [] then [] else writeBytes tag b

/-- A text, left out when it is empty. -/
def writeText (tag : Nat) (s : String) : Bytes :=
  writeBytesUnlessEmpty tag (Utf8.encode s)

/-- Texts of a repeated field, empty ones too. -/
def writeTexts (tag : Nat) (ss : List String) : Bytes :=
  ss.flatMap fun s => writeBytes tag (Utf8.encode s)

/-- A truth value, left out when it is false. -/
def writeFlag (tag : Nat) (flag : Bool) : Bytes :=
  if flag then writeKey tag 0 ++ [1] else []

end XoLedger.Wire
