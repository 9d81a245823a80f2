import Mathlib.AlgebraicGeometry.EllipticCurve.Affine.Point
import Mathlib.Tactic.Lemma
import Mathlib.Tactic.LinearCombination
import XoLedger.Proofs.Curve.Primes

/-!
# The points are a group

The chord and tangent law on coordinates is the group law of the elliptic curve y² = x³ + 7 over
the field of residues, and taking a multiple by doubling is taking a multiple. So everything that
holds in abelian groups holds for points, whatever their coordinates are.
-/

namespace XoLedger.Curve

instance : Fact fieldSize.Prime := ⟨prime_fieldSize⟩

/-- The field of the coordinates. -/
abbrev Residue : Type := ZMod fieldSize

/-- The curve y² = x³ + 7. -/
def weierstrass : WeierstrassCurve.Affine Residue where
  a₁ := 0
  a₂ := 0
  a₃ := 0
  a₄ := 0
  a₆ := 7

/-- The points of the curve. -/
abbrev Element : Type := weierstrass.Point

/-- The coordinates of a point as numbers. -/
def coordinates : Element → Point
  | .zero => .infinity
  | .some x y _ => .affine x.val y.val

/-! ### Residues and numbers -/

/-- A number below the size of the field is the number of its residue. -/
lemma val_eq_of_cast_eq {a : ℕ} {x : Residue} (hlt : a < fieldSize) (h : (a : Residue) = x) :
    a = x.val := by
  rw [← h, ZMod.val_natCast_of_lt hlt]

lemma sub_val (a b : ℕ) : Modular.sub fieldSize a b = ((a : Residue) - b).val :=
  val_eq_of_cast_eq (Modular.sub_lt prime_fieldSize.pos a b)
    (Modular.cast_sub prime_fieldSize.pos a b)

/-! ### Sums -/

lemma negY_eq (x y : Residue) : weierstrass.negY x y = -y := by
  simp [WeierstrassCurve.Affine.negY, weierstrass]

/-- The third point in which a line meets the curve, reflected. -/
lemma third_val {l : ℕ} {ℓ x₁ y₁ x₂ : Residue} (hl : (l : Residue) = ℓ) :
    third l x₁.val y₁.val x₂.val =
      .affine (weierstrass.addX x₁ x₂ ℓ).val (weierstrass.addY x₁ x₂ y₁ ℓ).val := by
  have hx : Modular.sub fieldSize (l * l) (x₁.val + x₂.val) = (weierstrass.addX x₁ x₂ ℓ).val := by
    rw [sub_val]
    congr 1
    push_cast
    rw [hl, ZMod.natCast_zmod_val, ZMod.natCast_zmod_val]
    simp only [WeierstrassCurve.Affine.addX, weierstrass]
    ring
  rw [third, hx, sub_val, sub_val]
  congr 2
  push_cast
  rw [hl, ZMod.natCast_zmod_val, ZMod.natCast_zmod_val, ZMod.natCast_zmod_val,
    ZMod.natCast_zmod_val]
  simp only [WeierstrassCurve.Affine.addY, WeierstrassCurve.Affine.negAddY, negY_eq]
  ring

/-- The slope of a chord. -/
lemma cast_chord {x₁ y₁ x₂ y₂ : Residue} (hx : x₁ ≠ x₂) :
    ((chord x₁.val y₁.val x₂.val y₂.val : ℕ) : Residue) = weierstrass.slope x₁ x₂ y₁ y₂ := by
  have hne : ((Modular.sub fieldSize x₁.val x₂.val : ℕ) : Residue) ≠ 0 := by
    rw [Modular.cast_sub prime_fieldSize.pos, ZMod.natCast_zmod_val, ZMod.natCast_zmod_val]
    exact sub_ne_zero.mpr hx
  rw [chord, ZMod.natCast_mod, Nat.cast_mul, Modular.cast_inverse hne,
    Modular.cast_sub prime_fieldSize.pos, Modular.cast_sub prime_fieldSize.pos,
    ZMod.natCast_zmod_val, ZMod.natCast_zmod_val, ZMod.natCast_zmod_val, ZMod.natCast_zmod_val,
    WeierstrassCurve.Affine.slope_of_X_ne hx, div_eq_mul_inv]

/-- The slope of a tangent. -/
lemma cast_tangent {x y : Residue} (hy : y ≠ -y) :
    ((tangent x.val y.val : ℕ) : Residue) = weierstrass.slope x x y y := by
  have hne : ((2 * y.val : ℕ) : Residue) ≠ 0 := by
    push_cast
    rw [ZMod.natCast_zmod_val]
    intro hzero
    exact hy (by linear_combination hzero)
  have hslope : weierstrass.slope x x y y = 3 * x * x * (2 * y)⁻¹ := by
    rw [WeierstrassCurve.Affine.slope_of_Y_ne rfl (by rw [negY_eq]; exact hy), negY_eq,
      div_eq_mul_inv]
    simp only [weierstrass]
    congr 1 <;> ring
  rw [tangent, ZMod.natCast_mod, Nat.cast_mul, Modular.cast_inverse hne, hslope]
  push_cast
  rw [ZMod.natCast_zmod_val, ZMod.natCast_zmod_val]

/-- On one abscissa there are only a point and its reflection. -/
lemma eq_or_eq_neg {x y₁ y₂ : Residue} (h₁ : weierstrass.Nonsingular x y₁)
    (h₂ : weierstrass.Nonsingular x y₂) : y₁ = y₂ ∨ y₁ = -y₂ := by
  have hy := WeierstrassCurve.Affine.Y_eq_of_X_eq h₁.1 h₂.1 rfl
  rwa [negY_eq] at hy

/-- **Adding coordinates is adding points.** -/
theorem coordinates_add (P Q : Element) :
    coordinates (P + Q) = (coordinates P).add (coordinates Q) := by
  rcases P with _ | ⟨x₁, y₁, h₁⟩
  · rw [← WeierstrassCurve.Affine.Point.zero_def, zero_add]
    rfl
  rcases Q with _ | ⟨x₂, y₂, h₂⟩
  · rw [← WeierstrassCurve.Affine.Point.zero_def, add_zero]
    rfl
  have hx : x₁.val = x₂.val ↔ x₁ = x₂ := (ZMod.val_injective fieldSize).eq_iff
  have hy : (y₁.val + y₂.val) % fieldSize = 0 ↔ y₁ = -y₂ := by
    rw [← Nat.dvd_iff_mod_eq_zero, ← ZMod.natCast_eq_zero_iff, Nat.cast_add,
      ZMod.natCast_zmod_val, ZMod.natCast_zmod_val, ← eq_neg_iff_add_eq_zero]
  rw [coordinates, coordinates, Point.add]
  by_cases hxx : x₁ = x₂
  · subst hxx
    rw [if_pos rfl]
    -- the two points are reflections of each other, or one and the same
    by_cases hyy : y₁ = -y₂
    · rw [if_pos (hy.mpr hyy),
        WeierstrassCurve.Affine.Point.add_of_Y_eq rfl (by rw [negY_eq]; exact hyy)]
      rfl
    · have heq : y₁ = y₂ := (eq_or_eq_neg h₁ h₂).resolve_right hyy
      subst heq
      rw [if_neg (mt hy.mp hyy), third_val (cast_tangent hyy),
        WeierstrassCurve.Affine.Point.add_of_Y_ne (by rw [negY_eq]; exact hyy)]
      rfl
  · rw [if_neg (mt hx.mp hxx), third_val (cast_chord hxx),
      WeierstrassCurve.Affine.Point.add_of_X_ne hxx]
    rfl

/-- **A multiple by doubling is the multiple.** -/
theorem coordinates_nsmul (k : ℕ) (P : Element) :
    coordinates (k • P) = (coordinates P).multiply k := by
  induction k using Nat.strong_induction_on with
  | _ k ih =>
    by_cases hk : k = 0
    · rw [hk, zero_nsmul, Point.multiply, if_pos rfl]
      rfl
    · have hdouble : coordinates ((2 * (k / 2)) • P) =
          ((coordinates P).multiply (k / 2)).add ((coordinates P).multiply (k / 2)) := by
        rw [two_mul, add_nsmul, coordinates_add, ih _ (by omega)]
      rw [Point.multiply, if_neg hk]
      simp only
      rw [← hdouble]
      by_cases hodd : k % 2 = 1
      · have hsplit : k = 2 * (k / 2) + 1 := by omega
        rw [if_pos hodd, ← coordinates_add, ← succ_nsmul, ← hsplit]
      · have hsplit : k = 2 * (k / 2) := by omega
        rw [if_neg hodd, ← hsplit]

end XoLedger.Curve
