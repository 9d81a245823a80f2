import Mathlib.Algebra.Field.ZMod
import Mathlib.Tactic.Lemma
import Mathlib.Tactic.LinearCombination
import XoLedger.Curve.Modular

/-!
# Arithmetic to a modulus is arithmetic of residues

The residues of differences, powers and inverses are the differences, powers and inverses of the
residues. For the inverse this rests on what Euclid's algorithm keeps: each remainder is its
coefficient times the number that was started from.
-/

namespace XoLedger.Modular

variable {m : ℕ}

/-! ### Differences and powers -/

lemma sub_lt (hm : 0 < m) (a b : ℕ) : sub m a b < m :=
  Nat.mod_lt _ hm

/-- The residue of a difference. -/
theorem cast_sub (hm : 0 < m) (a b : ℕ) : ((sub m a b : ℕ) : ZMod m) = a - b := by
  have hle : b % m ≤ m := (Nat.mod_lt b hm).le
  rw [sub, ZMod.natCast_mod, Nat.cast_add, Nat.cast_sub hle, ZMod.natCast_self, ZMod.natCast_mod,
    zero_sub, ← sub_eq_add_neg]

/-- A power by squaring is the power. -/
theorem power_eq (m a e : ℕ) : power m a e = a ^ e % m := by
  induction e using Nat.strong_induction_on generalizing a with
  | _ e ih =>
    by_cases he : e = 0
    · rw [power, if_pos he, he, pow_zero]
    · have hsquare : power m (a * a % m) (e / 2) = a ^ (2 * (e / 2)) % m := by
        rw [ih _ (by omega), ← Nat.pow_mod, pow_mul, pow_two]
      rw [power, if_neg he, hsquare]
      simp only
      by_cases hodd : e % 2 = 1
      · have hsplit : e = 2 * (e / 2) + 1 := by omega
        rw [if_pos hodd, Nat.mul_mod_mod, ← pow_succ', ← hsplit]
      · have hsplit : e = 2 * (e / 2) := by omega
        rw [if_neg hodd, ← hsplit]

/-- The residue of a power. -/
theorem cast_power (a e : ℕ) : ((power m a e : ℕ) : ZMod m) = (a : ZMod m) ^ e := by
  rw [power_eq, ZMod.natCast_mod, Nat.cast_pow]

/-! ### Inverses -/

/-- If two remainders are their coefficients times a number, then the last coefficient times that
number is their greatest common divisor. -/
lemma cast_euclid (a : ZMod m) (r : ℕ) (s : ℤ) (r' : ℕ) (s' : ℤ) (h : (r : ZMod m) = s * a)
    (h' : (r' : ZMod m) = s' * a) : (euclid r s r' s' : ZMod m) * a = (Nat.gcd r r' : ℕ) := by
  induction r, s, r', s' using euclid.induct with
  | case1 s r' s' =>
    rw [euclid, if_pos rfl, Nat.gcd_zero_left, h']
  | case2 r s r' s' hr ih =>
    rw [euclid, if_neg hr, Nat.gcd_rec]
    refine ih ?_ h
    have hdiv : (r' : ZMod m) = r * (r' / r : ℕ) + (r' % r : ℕ) := by
      rw [← Nat.cast_mul, ← Nat.cast_add, Nat.div_add_mod]
    rw [Int.cast_sub, Int.cast_mul, Int.cast_natCast]
    linear_combination h' - hdiv - (r' / r : ℕ) * h

/-- The residue of an inverse, to a prime modulus. -/
theorem cast_inverse [hp : Fact m.Prime] {a : ℕ} (ha : (a : ZMod m) ≠ 0) :
    ((inverse m a : ℕ) : ZMod m) = (a : ZMod m)⁻¹ := by
  have hpos : (0 : ℤ) < m := Int.natCast_pos.mpr hp.out.pos
  have hcoprime : Nat.gcd (a % m) m = 1 := by
    have hdvd : ¬ m ∣ a := fun h => ha ((ZMod.natCast_eq_zero_iff a m).mpr h)
    rw [← Nat.gcd_rec]
    exact (Nat.Prime.coprime_iff_not_dvd hp.out).mpr hdvd
  have heuclid := cast_euclid (a : ZMod m) (a % m) 1 m 0
    (by rw [ZMod.natCast_mod, Int.cast_one, one_mul])
    (by rw [ZMod.natCast_self, Int.cast_zero, zero_mul])
  rw [hcoprime, Nat.cast_one] at heuclid
  have hcast : ((inverse m a : ℕ) : ZMod m) = (euclid (a % m) 1 m 0 : ZMod m) := by
    rw [inverse, ← Int.cast_natCast, Int.toNat_of_nonneg (Int.emod_nonneg _ hpos.ne'),
      ZMod.intCast_mod]
  rw [hcast]
  exact eq_inv_of_mul_eq_one_left heuclid

end XoLedger.Modular
