import XoLedger.Text.Utf8
import XoLedger.Text.Quoted

/-!
# Hexadecimal

Two digits an octet, the high half first. Writing uses lowercase digits; reading takes either case
and reports the first character that is no digit, or a number of digits that is not even. The
count of digits is settled before any digit is looked at.
-/

namespace XoLedger.Hex

/-! ### Digits -/

/-- The digit of a number below sixteen. -/
def digit (n : Nat) : Char :=
  if n < 10 then Char.ofNat (48 + n) else Char.ofNat (87 + n)

/-- The value of the digit whose code is `n`. -/
def value? (n : Nat) : Option Nat :=
  if 48 ≤ n ∧ n ≤ 57 then some (n - 48)
  else if 97 ≤ n ∧ n ≤ 102 then some (n - 87)
  else if 65 ≤ n ∧ n ≤ 70 then some (n - 55)
  else none

/-! ### Writing -/

/-- The two digits of an octet. -/
def pair (b : UInt8) : List Char :=
  [digit (b.toNat / 16), digit (b.toNat % 16)]

/-- The digits of an octet string. -/
def encodeChars (b : Bytes) : List Char :=
  b.flatMap pair

/-- The digits of an octet string, as a text. -/
def encode (b : Bytes) : String :=
  String.ofList (encodeChars b)

/-! ### Reading -/

/-- Why a text is not a sequence of digit pairs. -/
inductive Error where
  /-- The digits do not come in pairs. -/
  | oddLength
  /-- The octet at this index is no digit. -/
  | badDigit (byte : UInt8) (index : Nat)
deriving DecidableEq, Repr

/-- The wording of a reading error. The offending octet is shown as the character it numbers. -/
def Error.message : Error → String
  | .oddLength => "Odd number of digits"
  | .badDigit byte index =>
    s!"Invalid character {Quoted.char (Char.ofNat byte.toNat)} at position {index}"

/-- Reads digit pairs; `index` counts the octets before. -/
def decodeFrom (index : Nat) : Bytes → Except Error Bytes
  | hi :: lo :: rest =>
    match value? hi.toNat, value? lo.toNat with
    | some h, some l => (decodeFrom (index + 2) rest).map (UInt8.ofNat (16 * h + l) :: ·)
    | none, _ => .error (.badDigit hi index)
    | some _, none => .error (.badDigit lo (index + 1))
  | _ => .ok []

/-- The octets whose digits are the octets of a text. -/
def decodeBytes (digits : Bytes) : Except Error Bytes :=
  if digits.length % 2 = 1 then .error .oddLength else decodeFrom 0 digits

/-- The octets that a text of digits stands for. -/
def decode (s : String) : Except Error Bytes :=
  decodeBytes (Utf8.encode s)

end XoLedger.Hex
