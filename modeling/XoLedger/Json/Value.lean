import XoLedger.Decimal.Shortest
import XoLedger.Json.Token

/-!
# Values of JSON

Values of any shape, and their text without white space. Numbers are kept apart by how they were
written: whole numbers stay exact as far as 64 bits reach, all others are binary fractions.
-/

namespace XoLedger.Json

/-! ### Numbers -/

/-- A number. -/
inductive Number where
  /-- A whole number that is not negative. -/
  | natural (n : Nat)
  /-- The whole number `-n`. -/
  | negative (n : Nat)
  /-- A binary fraction. -/
  | fraction (f : Float)
deriving DecidableEq

/-- The text of a number. -/
def Number.text : Number → String
  | natural n => toString n
  | negative n => s!"-{n}"
  | fraction f => Decimal.floatText f

namespace Numeral

/-- Takes digits into a number as long as it stays below 2^64. Returns it with the number of
digits taken and the digits left over. -/
def takeSignificant : (n taken : Nat) → List Nat → Nat × Nat × List Nat
  | n, taken, [] => (n, taken, [])
  | n, taken, d :: rest =>
    if 10 * n + d < UInt64.size then takeSignificant (10 * n + d) (taken + 1) rest
    else (n, taken, d :: rest)

/-- `n` times ten to the power `e`. The power is applied in steps that stay in range, each of them
rounded; a result past the largest fraction is refused. -/
def scaleFrom : (steps : Nat) → Float → Int → Option Float
  | 0, f, _ => some f
  | steps + 1, f, e =>
    if e.natAbs ≤ 308 then
      let power := Float.ofScientific 1 false e.natAbs
      if 0 ≤ e then
        let product := f * power
        if product.isInf then none else some product
      else some (f / power)
    else if f == 0 then some f
    else if 0 ≤ e then none
    else scaleFrom steps (f / Float.ofScientific 1 false 308) (e + 308)

/-- The fraction `n` times ten to the power `e`. Past the thousandth step a fraction is zero. -/
def scale (n : Nat) (e : Int) : Option Float :=
  scaleFrom 1000 (UInt64.ofNat n).toFloat e

/-- The number of digits read left to right. -/
def ofDigits (ds : List Nat) : Nat :=
  ds.foldl (fun n d => 10 * n + d) 0

/-- The power of ten that the exponent of a numeral adds. -/
def exponentValue (e : Option (Bool × List Nat)) : Int :=
  match e with
  | none => 0
  | some (true, ds) => -(ofDigits ds : Int)
  | some (false, ds) => ofDigits ds

/-- The value of a numeral, or `none` if it lies out of range. Digits past the first that no longer
fit into 64 bits count as zeros before the point and not at all after it. -/
def value? (n : Numeral) : Option Number :=
  let (whole, _, left) := takeSignificant 0 0 n.whole
  if left = [] ∧ n.fraction = none ∧ n.exponent = none then
    if !n.negative then some (.natural whole)
    else if whole = 0 ∨ UInt64.size / 2 < whole then some (.fraction (-(UInt64.ofNat whole).toFloat))
    else some (.negative whole)
  else
    let (significand, taken, _) := takeSignificant whole 0 (n.fraction.getD [])
    let shift : Int := (left.length : Int) - taken
    let exponent := exponentValue n.exponent
    let size : Option Float :=
      if UInt32.size / 2 ≤ exponent.natAbs then
        if significand ≠ 0 ∧ 0 < exponent then none else some 0
      else scale significand (shift + exponent)
    size.map fun f => .fraction (if n.negative then -f else f)

end Numeral

/-! ### Values -/

/-- A value. The members of an object are in the order in which they are written. -/
inductive Value where
  /-- Nothing. -/
  | null
  /-- A truth value. -/
  | bool (b : Bool)
  /-- A number. -/
  | number (n : Number)
  /-- A text. -/
  | text (s : String)
  /-- A list of values. -/
  | array (items : List Value)
  /-- Named values. -/
  | object (members : List (String × Value))

instance : Inhabited Value := ⟨.null⟩

namespace Value

/-- A whole number as a value. -/
def nat (n : Nat) : Value :=
  number (.natural n)

/-- A value that may be absent, absence being shown as nothing. -/
def ofOption {α : Type} (f : α → Value) : Option α → Value
  | some a => f a
  | none => null

/-- Puts a member into its place in the order of names, in place of one of the same name. -/
def insertMember (key : String) (value : Value) : List (String × Value) → List (String × Value)
  | [] => [(key, value)]
  | (k, v) :: rest =>
    if key = k then (key, value) :: rest
    else if key < k then (key, value) :: (k, v) :: rest
    else (k, v) :: insertMember key value rest

/-- A hexadecimal digit. -/
def hexDigit (n : Nat) : Char :=
  if n < 10 then Char.ofNat (48 + n) else Char.ofNat (87 + n)

/-- A character as it is written in a text. -/
def escape (c : Char) : List Char :=
  if c = '"' then ['\\', '"']
  else if c = '\\' then ['\\', '\\']
  else if c = '\n' then ['\\', 'n']
  else if c = '\r' then ['\\', 'r']
  else if c = '\t' then ['\\', 't']
  else if c.toNat = 8 then ['\\', 'b']
  else if c.toNat = 12 then ['\\', 'f']
  else if c.toNat < 32 then
    ['\\', 'u', '0', '0', hexDigit (c.toNat / 16), hexDigit (c.toNat % 16)]
  else [c]

/-- A text between its quotes. -/
def quote (s : String) : List Char :=
  '"' :: s.toList.flatMap escape ++ ['"']

mutual

/-- The text of a value, without white space. -/
def chars : Value → List Char
  | null => "null".toList
  | bool b => (toString b).toList
  | number n => n.text.toList
  | text s => quote s
  | array [] => ['[', ']']
  | array (item :: items) => '[' :: item.chars ++ itemsChars items ++ [']']
  | object [] => ['\x7b', '\x7d']
  | object ((key, value) :: members) =>
    '\x7b' :: quote key ++ ':' :: value.chars ++ membersChars members ++ ['\x7d']

/-- The text of the items after the first. -/
def itemsChars : List Value → List Char
  | [] => []
  | item :: items => ',' :: item.chars ++ itemsChars items

/-- The text of the members after the first. -/
def membersChars : List (String × Value) → List Char
  | [] => []
  | (key, value) :: members => ',' :: quote key ++ ':' :: value.chars ++ membersChars members

end

/-- The text of a value, without white space. -/
def render (v : Value) : String :=
  String.ofList v.chars

end Value

end XoLedger.Json
