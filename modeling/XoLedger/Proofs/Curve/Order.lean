import Mathlib.GroupTheory.OrderOfElement
import XoLedger.Proofs.Curve.Group

/-!
# The multiples of the generator

Every pair of numbers that satisfies the curve's equation is a point, so the generator is one. Its
order is the prime `order`: so many copies of it add up to the neutral point, and so two multiples
of it agree exactly if their factors agree to the modulus `order`.
-/

namespace XoLedger.Curve

instance : Fact order.Prime := ⟨prime_order⟩

/-- The field in which secrets and signatures are computed. -/
abbrev Scalar : Type := ZMod order

/-! ### Coordinates that are points -/

/-- The curve has no singular points. -/
lemma discriminant_ne_zero : weierstrass.Δ ≠ 0 := by
  have hdiscriminant : weierstrass.Δ = -((21168 : ℕ) : Residue) := by
    simp only [WeierstrassCurve.Δ, WeierstrassCurve.b₂, WeierstrassCurve.b₄, WeierstrassCurve.b₆,
      WeierstrassCurve.b₈, weierstrass]
    norm_num
  rw [hdiscriminant, neg_ne_zero, Ne, ZMod.natCast_eq_zero_iff]
  decide +kernel

/-- The residues of coordinates that satisfy the equation are on the curve. -/
lemma OnCurve.nonsingular {x y : ℕ} (h : OnCurve x y) :
    weierstrass.Nonsingular (x : Residue) (y : Residue) := by
  have hcast : (y : Residue) * y = x * x * x + 7 := by
    have heq := (ZMod.natCast_eq_natCast_iff' (y * y) (x * x * x + 7) fieldSize).mpr h
    exact_mod_cast heq
  rw [← WeierstrassCurve.Affine.equation_iff_nonsingular_of_Δ_ne_zero discriminant_ne_zero,
    WeierstrassCurve.Affine.equation_iff]
  simp only [weierstrass]
  linear_combination hcast

/-- Coordinates below the size of the field that satisfy the equation are those of a point. -/
theorem exists_coordinates_eq {x y : ℕ} (hx : x < fieldSize) (hy : y < fieldSize)
    (h : OnCurve x y) : ∃ P : Element, coordinates P = .affine x y :=
  ⟨.some x y h.nonsingular, by
    rw [coordinates, ZMod.val_natCast_of_lt hx, ZMod.val_natCast_of_lt hy]⟩

/-- Only the neutral point has no coordinates. -/
lemma coordinates_eq_infinity_iff {P : Element} : coordinates P = .infinity ↔ P = 0 := by
  rcases P with _ | ⟨x, y, h⟩
  · exact ⟨fun _ => rfl, fun _ => rfl⟩
  · refine ⟨fun hcoordinates => ?_, fun hzero => ?_⟩
    · rw [coordinates] at hcoordinates
      exact absurd hcoordinates (by simp)
    · exact absurd hzero (WeierstrassCurve.Affine.Point.some_ne_zero h)

/-- A point and its reflection have the same abscissa. -/
lemma coordinates_neg {P : Element} {x y : ℕ} (h : coordinates P = .affine x y) :
    ∃ y', coordinates (-P) = .affine x y' := by
  rcases P with _ | ⟨x', y', h'⟩
  · exact absurd h (by simp [coordinates])
  · rw [coordinates, Point.affine.injEq] at h
    rw [WeierstrassCurve.Affine.Point.neg_some, coordinates, h.1]
    exact ⟨_, rfl⟩

/-! ### The generator -/

lemma exists_coordinates_eq_generator : ∃ P : Element, coordinates P = generator :=
  exists_coordinates_eq (by decide +kernel) (by decide +kernel) (by decide +kernel)

/-- The generator as a point. -/
noncomputable def base : Element :=
  exists_coordinates_eq_generator.choose

lemma coordinates_base : coordinates base = generator :=
  exists_coordinates_eq_generator.choose_spec

lemma coordinates_nsmul_base (k : ℕ) : coordinates (k • base) = generator.multiply k := by
  rw [coordinates_nsmul, coordinates_base]

/-- As many copies of the generator as there are points add up to nothing. -/
lemma order_nsmul_base : order • base = 0 := by
  have hmultiply : generator.multiply order = .infinity := by
    decide +kernel
  rw [← coordinates_eq_infinity_iff, coordinates_nsmul_base, hmultiply]

/-- **The order of the generator.** -/
theorem addOrderOf_base : addOrderOf base = order := by
  refine addOrderOf_eq_prime order_nsmul_base fun hzero => ?_
  have hcoordinates := coordinates_base
  rw [coordinates_eq_infinity_iff.mpr hzero] at hcoordinates
  exact absurd hcoordinates (by decide)

/-- **Multiples of the generator agree** exactly if their factors do to the modulus of the
order. -/
theorem nsmul_base_eq_iff {k l : ℕ} : k • base = l • base ↔ (k : Scalar) = l := by
  rw [nsmul_eq_nsmul_iff_modEq, addOrderOf_base, ZMod.natCast_eq_natCast_iff]

/-- A multiple of the generator is neutral only if its factor is zero to the modulus of the
order. -/
lemma nsmul_base_eq_zero_iff {k : ℕ} : k • base = 0 ↔ (k : Scalar) = 0 := by
  rw [← zero_nsmul base, nsmul_base_eq_iff, Nat.cast_zero]

/-- Two multiples of the generator are reflections of each other exactly if their factors add up
to zero to the modulus of the order. -/
lemma nsmul_base_eq_neg_iff {k l : ℕ} : k • base = -(l • base) ↔ (k : Scalar) = -l := by
  rw [eq_neg_iff_add_eq_zero, ← add_nsmul, nsmul_base_eq_zero_iff, Nat.cast_add,
    ← eq_neg_iff_add_eq_zero]

end XoLedger.Curve
