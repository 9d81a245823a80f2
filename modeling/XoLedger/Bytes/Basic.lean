/-!
# Octet strings

Everything that is hashed, signed or sent is a `Bytes`: a plain list of octets, so that encoders
are list functions and their laws are proved by induction on the list. The file also holds the
big-endian reading of an octet string as a number, which keys, digests and signatures share.
-/

namespace XoLedger

/-- A string of octets. -/
abbrev Bytes := List UInt8

namespace Bytes

/-- The number whose big-endian digits to base 256 are `b`. -/
def toNat (b : Bytes) : Nat :=
  b.foldl (fun n x => 256 * n + x.toNat) 0

/-- The last `width` big-endian digits of `n` to base 256. -/
def ofNat : (width n : Nat) → Bytes
  | 0, _ => []
  | width + 1, n => ofNat width (n / 256) ++ [UInt8.ofNat n]

/-- Every width is kept: short numbers are padded with zero octets on the left. -/
@[simp] theorem length_ofNat (width n : Nat) : (ofNat width n).length = width := by
  induction width generalizing n with
  | zero => rfl
  | succ width ih => simp [ofNat, ih]

end Bytes

end XoLedger
