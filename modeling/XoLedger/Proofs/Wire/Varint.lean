import Mathlib.Algebra.Ring.Nat
import Mathlib.Tactic.Lemma
import XoLedger.Proofs.Text.Utf8
import XoLedger.Wire.Varint

/-!
# Numbers of variable length are read back

A number of 64 bits is read back from the front of any octets. The induction is on the room that is
left for octets: what is left of the number shrinks with it by seven bits at a time.
-/

namespace XoLedger.Wire.Varint

/-- A written number is not nothing. -/
lemma write_ne_nil (n : Nat) : write n ≠ [] := by
  rw [write]
  by_cases h : n < 128
  · rw [if_pos h]
    exact List.cons_ne_nil _ _
  · rw [if_neg h]
    exact List.cons_ne_nil _ _

/-- A number that fits into the room is read back. All octets but the last hold seven bits. -/
lemma readFrom_write (room n : Nat) (h : n < 2 ^ (7 * room + 1)) (rest : Bytes) :
    readFrom (room + 1) (write n ++ rest) = some (n, rest) := by
  induction room generalizing n with
  | zero =>
    have hn : n < 2 := by simpa using h
    rw [write, if_pos (by omega), List.singleton_append, readFrom,
      Utf8.toNat_ofNat_octet (by omega), if_pos (by omega), if_neg (by omega)]
  | succ room ih =>
    by_cases hn : n < 128
    · rw [write, if_pos hn, List.singleton_append, readFrom, Utf8.toNat_ofNat_octet (by omega),
        if_pos hn, if_neg (by omega)]
    · have hpow : 2 ^ (7 * (room + 1) + 1) = 2 ^ (7 * room + 1) * 128 := by
        rw [show 7 * (room + 1) + 1 = 7 * room + 1 + 7 by omega, Nat.pow_add]
      have hhigh : n / 128 < 2 ^ (7 * room + 1) := by
        rw [Nat.div_lt_iff_lt_mul (by omega), ← hpow]
        exact h
      rw [write, if_neg hn, List.cons_append, readFrom, Utf8.toNat_ofNat_octet (by omega),
        if_neg (by omega), ih _ hhigh, Option.map_some]
      have hsum : 128 + n % 128 - 128 + 128 * (n / 128) = n := by omega
      exact congrArg (fun k => some (k, rest)) hsum

/-- **Reading undoes writing** for numbers of 64 bits. -/
theorem read?_write {n : Nat} (h : n < 2 ^ 64) (rest : Bytes) :
    read? (write n ++ rest) = some (n, rest) :=
  readFrom_write 9 n h rest

end XoLedger.Wire.Varint
