/-!
# Decimal numerals

Reading an unsigned number of 64 bits: an optional plus sign and at least one digit. The digits
are taken from the left, and the first one that is no digit or that leads past the largest number
decides the error.
-/

namespace XoLedger.Numeral

/-- Why a text is not a number. -/
inductive Error where
  /-- The text has no characters. -/
  | empty
  /-- A character is not a digit, or there is only a sign. -/
  | badDigit
  /-- The number does not fit. -/
  | tooLarge
deriving DecidableEq, Repr

/-- The wording of a reading error. -/
def Error.message : Error → String
  | .empty => "cannot parse integer from empty string"
  | .badDigit => "invalid digit found in string"
  | .tooLarge => "number too large to fit in target type"

/-- The value of a decimal digit. -/
def digit? (c : Char) : Option Nat :=
  if '0' ≤ c ∧ c ≤ '9' then some (c.toNat - 48) else none

/-- Reads digits after the number `n`; `bound` is the first number that does not fit. -/
def readDigits (bound n : Nat) : List Char → Except Error Nat
  | [] => .ok n
  | c :: rest =>
    match digit? c with
    | none => .error .badDigit
    | some d => if 10 * n + d < bound then readDigits bound (10 * n + d) rest else .error .tooLarge

/-- Reads a number below `bound` from a list of characters. -/
def readChars (bound : Nat) : List Char → Except Error Nat
  | [] => .error .empty
  | ['+'] => .error .badDigit
  | '+' :: rest => readDigits bound 0 rest
  | cs => readDigits bound 0 cs

/-- Reads a number of 64 bits. -/
def readUInt64 (s : String) : Except Error UInt64 :=
  (readChars UInt64.size s.toList).map UInt64.ofNat

end XoLedger.Numeral
