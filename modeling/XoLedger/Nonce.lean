import XoLedger.Bytes.Hex
import XoLedger.Text.Split

/-!
# Nonces

A transaction carries a text that no other transaction has, so that saying the same thing twice
gives two transactions. It is a random identifier of 128 bits, six of which say how it was made.
-/

namespace XoLedger.Nonce

/-- Sets the bits that say an identifier is random. -/
def markRandom (octets : Bytes) : Bytes :=
  octets.mapIdx fun i b =>
    if i = 6 then b &&& 0x0F ||| 0x40 else if i = 8 then b &&& 0x3F ||| 0x80 else b

/-- The lengths of the groups in which the digits are written. -/
def groupLengths : List Nat := [8, 4, 4, 4, 12]

/-- Cuts a list into groups of given lengths. -/
def groups : List Nat → List Char → List (List Char)
  | [], _ => []
  | n :: ns, cs => cs.take n :: groups ns (cs.drop n)

/-- The nonce of sixteen random octets. -/
def ofRandom (octets : Bytes) : String :=
  String.ofList (joinChars '-' (groups groupLengths (Hex.encode (markRandom octets)).toList))

/-- Whether a text is a random identifier. -/
def IsRandom (s : String) : Prop :=
  match Hex.decode (String.ofList (splitChars '-' s.toList).flatten) with
  | .ok octets => octets.length = 16 ∧ s = ofRandom octets
  | .error _ => False

instance (s : String) : Decidable (IsRandom s) := by
  unfold IsRandom
  split <;> infer_instance

end XoLedger.Nonce
