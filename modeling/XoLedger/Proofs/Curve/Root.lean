import Mathlib.FieldTheory.Finite.Basic
import XoLedger.Proofs.Curve.Group

/-!
# Square roots of residues

The number of residues is 3 to the modulus 4, so a power of a square is one of its two roots, and
the two are told apart by their parity. Hence a root is found for every square, and it is the root
that is asked for.
-/

namespace XoLedger.Curve

/-- The power that is taken of a square is a root of it. -/
lemma sq_pow_sq (y : Residue) : ((y ^ 2) ^ ((fieldSize + 1) / 4)) ^ 2 = y ^ 2 := by
  have hexponent : 2 * ((fieldSize + 1) / 4 * 2) = fieldSize + 1 := by decide +kernel
  rw [← pow_mul, ← pow_mul, hexponent, pow_succ, ZMod.pow_card, pow_two]

/-- Of the two roots of a square one is even and one is odd, unless both are zero. -/
lemma val_neg_parity {y : Residue} (hy : y ≠ 0) : (-y).val % 2 ≠ y.val % 2 := by
  have hodd : fieldSize % 2 = 1 := by decide +kernel
  have hlt : y.val < fieldSize := ZMod.val_lt y
  rw [ZMod.neg_val, if_neg hy]
  omega

/-- **The root of a square with a given parity is found.** -/
theorem squareRoot?_eq_some {a parity : ℕ} {y : Residue} (ha : (a : Residue) = y ^ 2)
    (hparity : parity % 2 = y.val % 2) : squareRoot? a parity = some y.val := by
  have hroot : ((Modular.power fieldSize a ((fieldSize + 1) / 4) : ℕ) : Residue) ^ 2 = y ^ 2 := by
    rw [Modular.cast_power, ha, sq_pow_sq]
  have hlt : Modular.power fieldSize a ((fieldSize + 1) / 4) < fieldSize := by
    rw [Modular.power_eq]
    exact Nat.mod_lt _ prime_fieldSize.pos
  have hsquare : Modular.power fieldSize a ((fieldSize + 1) / 4) *
      Modular.power fieldSize a ((fieldSize + 1) / 4) % fieldSize = a % fieldSize := by
    rw [← ZMod.natCast_eq_natCast_iff', Nat.cast_mul, ← pow_two, hroot, ha]
  rw [squareRoot?, if_pos hsquare, hparity]
  rcases sq_eq_sq_iff_eq_or_eq_neg.mp hroot with hcast | hcast
  · rw [val_eq_of_cast_eq hlt hcast, if_pos rfl]
  · rw [val_eq_of_cast_eq hlt hcast, ← ZMod.neg_val', neg_neg]
    by_cases hy : y = 0
    · rw [hy, neg_zero, if_pos rfl]
    · rw [if_neg (val_neg_parity hy)]

end XoLedger.Curve
