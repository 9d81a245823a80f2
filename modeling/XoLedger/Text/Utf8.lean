import XoLedger.Bytes.Basic

/-!
# UTF-8

`Utf8.encode` writes characters as octets and `Utf8.decode` reads them back. The reader is a
machine that takes one octet at a time: between characters it looks at a leading octet, inside a
character it knows how many octets are still owed and which values the next one may have. A
refused octet therefore ends the character at the first place where no well-formed text can go on,
which is what the error positions and the replacement of broken parts both count by.
-/

namespace XoLedger.Utf8

/-! ### Writing -/

/-- The octets of one character: one to four, by the size of its scalar value. -/
def encodeChar (c : Char) : Bytes :=
  let n := c.toNat
  if n < 0x80 then [UInt8.ofNat n]
  else if n < 0x800 then [UInt8.ofNat (0xC0 + n / 64), UInt8.ofNat (0x80 + n % 64)]
  else if n < 0x10000 then
    [UInt8.ofNat (0xE0 + n / 4096), UInt8.ofNat (0x80 + n / 64 % 64), UInt8.ofNat (0x80 + n % 64)]
  else
    [UInt8.ofNat (0xF0 + n / 262144), UInt8.ofNat (0x80 + n / 4096 % 64),
      UInt8.ofNat (0x80 + n / 64 % 64), UInt8.ofNat (0x80 + n % 64)]

/-- The octets of a list of characters, in order. -/
def encodeChars (cs : List Char) : Bytes :=
  cs.flatMap encodeChar

/-- The octets of a text. -/
def encode (s : String) : Bytes :=
  encodeChars s.toList

/-! ### Reading one octet at a time -/

/-- What is known inside a character: how many octets are owed, the bounds of the next one, the
bits read so far and how many octets they came from. -/
structure Pending where
  /-- The number of octets still owed. -/
  owed : Nat
  /-- The least value of the next octet. -/
  low : Nat
  /-- The greatest value of the next octet. -/
  high : Nat
  /-- The bits of the octets read so far. -/
  value : Nat
  /-- The number of octets read so far. -/
  seen : Nat

/-- What an octet between characters begins: a character of one octet, a longer one, or nothing. -/
inductive Lead where
  /-- A character by itself. -/
  | single (c : Char)
  /-- The first octet of a longer character. -/
  | multi (pending : Pending)
  /-- No character begins with this octet. -/
  | refused

/-- Reads an octet between characters. The bounds of the second octet shut out overlong forms,
surrogates and values past the last scalar value. -/
def lead (b : Nat) : Lead :=
  if b < 0x80 then .single (Char.ofNat b)
  else if b < 0xC2 then .refused
  else if b < 0xE0 then .multi ⟨1, 0x80, 0xBF, b - 0xC0, 1⟩
  else if b = 0xE0 then .multi ⟨2, 0xA0, 0xBF, 0, 1⟩
  else if b = 0xED then .multi ⟨2, 0x80, 0x9F, 13, 1⟩
  else if b < 0xF0 then .multi ⟨2, 0x80, 0xBF, b - 0xE0, 1⟩
  else if b = 0xF0 then .multi ⟨3, 0x90, 0xBF, 0, 1⟩
  else if b < 0xF4 then .multi ⟨3, 0x80, 0xBF, b - 0xF0, 1⟩
  else if b = 0xF4 then .multi ⟨3, 0x80, 0x8F, 4, 1⟩
  else .refused

/-- What an octet inside a character does. -/
inductive Follow where
  /-- The character is complete. -/
  | done (c : Char)
  /-- More octets are owed. -/
  | more (pending : Pending)
  /-- The octet cannot stand here. -/
  | refused

/-- Reads an octet inside a character. -/
def follow (p : Pending) (b : Nat) : Follow :=
  if p.low ≤ b ∧ b ≤ p.high then
    let value := 64 * p.value + b % 64
    if p.owed ≤ 1 then .done (Char.ofNat value)
    else .more ⟨p.owed - 1, 0x80, 0xBF, value, p.seen + 1⟩
  else .refused

/-! ### Strict reading -/

/-- Why octets are not UTF-8: where the last whole character ends, and how many octets after it
belong to the broken one, or `none` if the text ends inside a character. -/
structure Error where
  /-- The number of octets before the broken character. -/
  validUpTo : Nat
  /-- The length of the broken part, if the octets go on after it. -/
  length? : Option Nat
deriving DecidableEq, Repr

/-- The wording of a reading error. -/
def Error.message (e : Error) : String :=
  match e.length? with
  | some n => s!"invalid utf-8 sequence of {n} bytes from index {e.validUpTo}"
  | none => s!"incomplete utf-8 byte sequence from index {e.validUpTo}"

mutual

/-- Reads from between characters; `pos` counts the octets before. -/
def decodeFrom (pos : Nat) : Bytes → Except Error (List Char)
  | [] => .ok []
  | b :: rest =>
    match lead b.toNat with
    | .single c => (decodeFrom (pos + 1) rest).map (c :: ·)
    | .multi p => decodeInside pos p rest
    | .refused => .error ⟨pos, some 1⟩

/-- Reads from inside a character that began at `pos`. -/
def decodeInside (pos : Nat) (p : Pending) : Bytes → Except Error (List Char)
  | [] => .error ⟨pos, none⟩
  | b :: rest =>
    match follow p b.toNat with
    | .done c => (decodeFrom (pos + p.seen + 1) rest).map (c :: ·)
    | .more q => decodeInside pos q rest
    | .refused => .error ⟨pos, some p.seen⟩

end

/-- The characters that the octets encode. -/
def decodeChars (b : Bytes) : Except Error (List Char) :=
  decodeFrom 0 b

/-- The text that the octets encode. -/
def decode (b : Bytes) : Except Error String :=
  (decodeChars b).map String.ofList

/-! ### Reading with replacement -/

/-- The character that stands for a broken part. -/
def replacement : Char := Char.ofNat 0xFFFD

mutual

/-- Reads from between characters, each broken part as one replacement character. -/
def decodeLossyFrom : Bytes → List Char
  | [] => []
  | b :: rest =>
    match lead b.toNat with
    | .single c => c :: decodeLossyFrom rest
    | .multi p => decodeLossyInside p rest
    | .refused => replacement :: decodeLossyFrom rest

/-- Reads from inside a character. An octet that breaks it off is read again as a first one. -/
def decodeLossyInside (p : Pending) : Bytes → List Char
  | [] => [replacement]
  | b :: rest =>
    match follow p b.toNat with
    | .done c => c :: decodeLossyFrom rest
    | .more q => decodeLossyInside q rest
    | .refused =>
      replacement ::
        match lead b.toNat with
        | .single c => c :: decodeLossyFrom rest
        | .multi q => decodeLossyInside q rest
        | .refused => replacement :: decodeLossyFrom rest

end

/-- The text that the octets encode, with U+FFFD for each part that is not UTF-8. -/
def decodeLossy (b : Bytes) : String :=
  String.ofList (decodeLossyFrom b)

end XoLedger.Utf8
