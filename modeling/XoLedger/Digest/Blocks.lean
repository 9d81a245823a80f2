import XoLedger.Bytes.Basic

/-!
# Messages in blocks

A digest works on blocks of one size. A message is filled up with a one bit, as few zero octets as
will do, and its length in bits.
-/

namespace XoLedger

/-- The consecutive parts of `size` octets; the last one may be shorter. -/
def blocks (size : Nat) (b : Bytes) : List Bytes :=
  if h : size = 0 ∨ b = [] then []
  else b.take size :: blocks size (b.drop size)
termination_by b.length
decreasing_by
  have := List.length_pos_iff.mpr (not_or.mp h).2
  simp only [List.length_drop]
  omega

/-- The message with its padding: a multiple of `blockSize` octets that ends in the number of bits
of the message, written in `lengthSize` octets. -/
def padded (blockSize lengthSize : Nat) (b : Bytes) : Bytes :=
  let used := (b.length + 1 + lengthSize) % blockSize
  b ++ 0x80 :: List.replicate ((blockSize - used) % blockSize) 0 ++
    Bytes.ofNat lengthSize (8 * b.length)

end XoLedger
