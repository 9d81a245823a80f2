import XoLedger.Text.Utf8

/-!
# Tokens of JSON

The octets of a document are cut into tokens. A text keeps its octets as they are written, and a
number its digits, because what they have to satisfy depends on whether anyone wants their value:
a member that nobody asked for may hold octets that are not UTF-8 or a number out of range. Where
no token can be cut the list ends in `Token.broken`.
-/

namespace XoLedger.Json

/-! ### Token type -/

/-- A number as it is written. -/
structure Numeral where
  /-- Whether a minus sign stands in front. -/
  negative : Bool
  /-- The digits before the point. -/
  whole : List Nat
  /-- The digits after the point, if there is one. -/
  fraction : Option (List Nat)
  /-- The exponent, if there is one: whether it is negative, and its digits. -/
  exponent : Option (Bool × List Nat)
deriving DecidableEq, Repr

/-- A token. -/
inductive Token where
  /-- An opening brace. -/
  | openObject
  /-- A closing brace. -/
  | closeObject
  /-- An opening bracket. -/
  | openArray
  /-- A closing bracket. -/
  | closeArray
  /-- A comma. -/
  | comma
  /-- A colon. -/
  | colon
  /-- The word for nothing. -/
  | null
  /-- One of the words for truth values. -/
  | bool (value : Bool)
  /-- A number. -/
  | number (numeral : Numeral)
  /-- A text, as written between its quotes. -/
  | text (raw : Bytes)
  /-- A place where there is no token. -/
  | broken
deriving DecidableEq, Repr

/-! ### Texts -/

/-- Whether an octet is a hexadecimal digit. -/
def isHexDigit (b : UInt8) : Bool :=
  (48 ≤ b && b ≤ 57) || (65 ≤ b && b ≤ 70) || (97 ≤ b && b ≤ 102)

/-- Whether an octet may stand after a backslash by itself. -/
def isSimpleEscape (b : UInt8) : Bool :=
  [34, 92, 47, 98, 102, 110, 114, 116].contains b

/-- Where the scan of a text stands. -/
inductive TextState where
  /-- Between characters. -/
  | plain
  /-- After a backslash. -/
  | escape
  /-- Before as many hexadecimal digits. -/
  | digits (left : Nat)

/-- The octets up to the closing quote and those after it. Control characters and unknown escapes
are refused. -/
def scanText : TextState → Bytes → Option (Bytes × Bytes)
  | _, [] => none
  | .plain, b :: rest =>
    if b = 34 then some ([], rest)
    else if b < 32 then none
    else (scanText (if b = 92 then .escape else .plain) rest).map fun (raw, rest) => (b :: raw, rest)
  | .escape, b :: rest =>
    if b = 117 then (scanText (.digits 4) rest).map fun (raw, rest) => (b :: raw, rest)
    else if isSimpleEscape b then (scanText .plain rest).map fun (raw, rest) => (b :: raw, rest)
    else none
  | .digits left, b :: rest =>
    if isHexDigit b then
      (scanText (if left ≤ 1 then .plain else .digits (left - 1)) rest).map
        fun (raw, rest) => (b :: raw, rest)
    else none

/-! ### Numbers -/

/-- The value of a decimal digit. -/
def decimalDigit? (b : UInt8) : Option Nat :=
  if 48 ≤ b ∧ b ≤ 57 then some (b.toNat - 48) else none

/-- The digits at the front and the octets after them. -/
def takeDigits : Bytes → List Nat × Bytes
  | [] => ([], [])
  | b :: rest =>
    match decimalDigit? b with
    | some d => (d :: (takeDigits rest).1, (takeDigits rest).2)
    | none => ([], b :: rest)

/-- Takes a given octet off the front, if it is there. -/
def takeOctet (octets : List UInt8) : Bytes → Option Bytes
  | [] => none
  | b :: rest => if octets.contains b then some rest else none

/-- Reads the exponent after its letter. -/
def scanExponent (b : Bytes) : Option ((Bool × List Nat) × Bytes) :=
  let negative := (takeOctet [45] b).isSome
  let (ds, rest) := takeDigits ((takeOctet [43, 45] b).getD b)
  if ds = [] then none else some ((negative, ds), rest)

/-- Reads a number: no leading zero, and digits on both sides of a point. -/
def scanNumber (b : Bytes) : Option (Numeral × Bytes) := do
  let negative := (takeOctet [45] b).isSome
  let (whole, rest) := takeDigits ((takeOctet [45] b).getD b)
  if whole = [] ∨ (whole.head? = some 0 ∧ whole.length ≠ 1) then failure
  let (fraction, rest) ←
    match takeOctet [46] rest with
    | none => some (none, rest)
    | some rest =>
      let (ds, rest) := takeDigits rest
      if ds = [] then none else some (some ds, rest)
  let (exponent, rest) ←
    match takeOctet [69, 101] rest with
    | none => some (none, rest)
    | some rest => (scanExponent rest).map fun (e, rest) => (some e, rest)
  return (⟨negative, whole, fraction, exponent⟩, rest)

/-! ### Documents -/

/-- Drops a word off the front, if it is there. -/
def dropWord (word : String) (b : Bytes) : Option Bytes :=
  let w := Utf8.encode word
  if w.isPrefixOf b then some (b.drop w.length) else none

/-- Whether an octet is white space between tokens. -/
def isSpace (b : UInt8) : Bool :=
  b = 32 || b = 9 || b = 10 || b = 13

/-- The token that stands for itself alone, if the octet is one. -/
def single? (b : UInt8) : Option Token :=
  if b = 123 then some .openObject
  else if b = 125 then some .closeObject
  else if b = 91 then some .openArray
  else if b = 93 then some .closeArray
  else if b = 44 then some .comma
  else if b = 58 then some .colon
  else none

/-- Cuts one token off octets that start with `b`, which is not white space. -/
def scan (b : UInt8) (rest : Bytes) : Option (Token × Bytes) :=
  match single? b with
  | some token => some (token, rest)
  | none =>
    if b = 34 then (scanText .plain rest).map fun (raw, rest) => (.text raw, rest)
    else if b = 110 then (dropWord "ull" rest).map fun rest => (.null, rest)
    else if b = 116 then (dropWord "rue" rest).map fun rest => (.bool true, rest)
    else if b = 102 then (dropWord "alse" rest).map fun rest => (.bool false, rest)
    else (scanNumber (b :: rest)).map fun (numeral, rest) => (.number numeral, rest)

/-- Cuts octets into at most `budget` tokens and spaces. -/
def lexFrom : (budget : Nat) → Bytes → List Token
  | 0, _ => []
  | _, [] => []
  | budget + 1, b :: rest =>
    if isSpace b then lexFrom budget rest
    else
      match scan b rest with
      | some (token, rest) => token :: lexFrom budget rest
      | none => [.broken]

/-- The tokens of a document. Each takes an octet at least. -/
def lex (b : Bytes) : List Token :=
  lexFrom b.length b

end XoLedger.Json
