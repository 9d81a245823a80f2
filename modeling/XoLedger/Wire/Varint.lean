import XoLedger.Bytes.Basic

/-!
# Numbers of variable length

A number is written in groups of seven bits, least significant first, one group to an octet; every
octet but the last has its high bit set. Reading takes at most ten octets and nothing above 64
bits.
-/

namespace XoLedger.Wire.Varint

/-- The octets of a number. -/
def write (n : Nat) : Bytes :=
  if n < 128 then [UInt8.ofNat n] else UInt8.ofNat (128 + n % 128) :: write (n / 128)
termination_by n

/-- Reads at most `room` more octets. The last octet that there is room for holds a single bit. -/
def readFrom : (room : Nat) → Bytes → Option (Nat × Bytes)
  | 0, _ => none
  | _, [] => none
  | room + 1, b :: rest =>
    if b.toNat < 128 then
      if room = 0 ∧ 2 ≤ b.toNat then none else some (b.toNat, rest)
    else (readFrom room rest).map fun (high, rest) => (b.toNat - 128 + 128 * high, rest)

/-- Reads a number of 64 bits and returns the octets after it. -/
def read? (b : Bytes) : Option (Nat × Bytes) :=
  readFrom 10 b

end XoLedger.Wire.Varint
