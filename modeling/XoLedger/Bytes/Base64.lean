import XoLedger.Text.Utf8

/-!
# Base64

The standard alphabet with padding. Writing pads to a multiple of four symbols. Reading accepts
exactly what writing produces: padding has to be complete, and the bits that a last symbol leaves
over have to be zero, so no octet string has a second spelling. Of several faults the reader
reports the one that a left-to-right scan in groups of four meets first.
-/

namespace XoLedger.Base64

/-! ### Symbols -/

/-- The symbol of a number below 64. -/
def symbol (n : Nat) : Char :=
  if n < 26 then Char.ofNat (65 + n)
  else if n < 52 then Char.ofNat (71 + n)
  else if n < 62 then Char.ofNat (n - 4)
  else if n = 62 then '+' else '/'

/-- The value of the symbol whose code is `n`. -/
def value? (n : Nat) : Option Nat :=
  if 65 ≤ n ∧ n ≤ 90 then some (n - 65)
  else if 97 ≤ n ∧ n ≤ 122 then some (n - 71)
  else if 48 ≤ n ∧ n ≤ 57 then some (n + 4)
  else if n = 43 then some 62
  else if n = 47 then some 63
  else none

/-- The code of the padding symbol. -/
def pad : UInt8 := 61

/-! ### Writing -/

/-- The symbols of an octet string: four for every three octets, the last group padded. -/
def encodeChars : Bytes → List Char
  | [] => []
  | [a] => [symbol (a.toNat / 4), symbol (a.toNat % 4 * 16), '=', '=']
  | [a, b] =>
    [symbol (a.toNat / 4), symbol (a.toNat % 4 * 16 + b.toNat / 16), symbol (b.toNat % 16 * 4), '=']
  | a :: b :: c :: rest =>
    symbol (a.toNat / 4) :: symbol (a.toNat % 4 * 16 + b.toNat / 16) ::
      symbol (b.toNat % 16 * 4 + c.toNat / 64) :: symbol (c.toNat % 64) :: encodeChars rest

/-- The symbols of an octet string, as a text. -/
def encode (b : Bytes) : String :=
  String.ofList (encodeChars b)

/-! ### Reading -/

/-- Why a text is not the written form of any octet string. -/
inductive Error where
  /-- The octet at this offset is not a symbol that may stand there. -/
  | badSymbol (byte : UInt8) (offset : Nat)
  /-- The last symbol leaves bits over that are not zero. -/
  | badLastSymbol (byte : UInt8) (offset : Nat)
  /-- A last group of one symbol. -/
  | badLength (length : Nat)
  /-- The last group is not padded to four symbols. -/
  | badPadding
deriving DecidableEq, Repr

/-- The wording of a reading error. -/
def Error.message : Error → String
  | .badSymbol byte offset => s!"Invalid symbol {byte.toNat}, offset {offset}."
  | .badLastSymbol byte offset => s!"Invalid last symbol {byte.toNat}, offset {offset}."
  | .badLength length => s!"Invalid input length: {length}"
  | .badPadding => "Invalid padding"

/-- The value of the symbol at `offset`. -/
def valueAt (offset : Nat) (b : UInt8) : Except Error Nat :=
  match value? b.toNat with
  | some v => .ok v
  | none => .error (.badSymbol b offset)

/-- The values of the symbols from `offset` on. -/
def valuesFrom (offset : Nat) : Bytes → Except Error (List Nat)
  | [] => .ok []
  | b :: rest => do
    let v ← valueAt offset b
    let vs ← valuesFrom (offset + 1) rest
    return v :: vs

/-- Reads the last group: two to four symbols, filled up with padding. Padding before the third
place, or with anything after it, is reported at its first symbol. -/
def decodeLast (offset : Nat) (group : Bytes) : Except Error Bytes := do
  let symbols := group.takeWhile (· != pad)
  let padding := group.dropWhile (· != pad)
  let firstPad := offset + symbols.length
  let values ← valuesFrom offset symbols
  if padding ≠ [] ∧ (symbols.length < 2 ∨ padding.any (· != pad)) then
    throw (.badSymbol pad firstPad)
  match values, symbols.getLastD 0 with
  | [], _ => return []
  | [_], _ => throw (.badLength firstPad)
  | [w, x], final =>
    if padding.length ≠ 2 then throw .badPadding
    else if x % 16 ≠ 0 then throw (.badLastSymbol final (offset + 1))
    else return [UInt8.ofNat (4 * w + x / 16)]
  | [w, x, y], final =>
    if padding.length ≠ 1 then throw .badPadding
    else if y % 4 ≠ 0 then throw (.badLastSymbol final (offset + 2))
    else return [UInt8.ofNat (4 * w + x / 16), UInt8.ofNat (x % 16 * 16 + y / 4)]
  | w :: x :: y :: z :: _, _ =>
    return [UInt8.ofNat (4 * w + x / 16), UInt8.ofNat (x % 16 * 16 + y / 4),
      UInt8.ofNat (y % 4 * 64 + z)]

/-- Reads groups of four symbols; what is left when four or fewer remain is the last group. -/
def decodeFrom (offset : Nat) : Bytes → Except Error Bytes
  | a :: b :: c :: d :: e :: rest => do
    let w ← valueAt offset a
    let x ← valueAt (offset + 1) b
    let y ← valueAt (offset + 2) c
    let z ← valueAt (offset + 3) d
    let tail ← decodeFrom (offset + 4) (e :: rest)
    return UInt8.ofNat (4 * w + x / 16) :: UInt8.ofNat (x % 16 * 16 + y / 4) ::
      UInt8.ofNat (y % 4 * 64 + z) :: tail
  | last => decodeLast offset last

/-- The octets that a string of symbols stands for. A stray octet at the very end, one past a
multiple of four, is reported before anything else. -/
def decodeBytes (symbols : Bytes) : Except Error Bytes :=
  match symbols.getLast? with
  | none => .ok []
  | some final =>
    if symbols.length % 4 = 1 ∧ final ≠ pad ∧ value? final.toNat = none then
      .error (.badSymbol final (symbols.length - 1))
    else decodeFrom 0 symbols

/-- The octets that a text of symbols stands for. -/
def decode (s : String) : Except Error Bytes :=
  decodeBytes (Utf8.encode s)

end XoLedger.Base64
