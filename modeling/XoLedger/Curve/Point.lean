import XoLedger.Curve.Modular

/-!
# The curve secp256k1

Points of y² = x³ + 7 over the field of `fieldSize` elements, with the chord and tangent law. The
group has prime order `order`, and every key is a multiple of `generator`. Coordinates are numbers
below `fieldSize`.
-/

namespace XoLedger.Curve

/-- The number of elements of the field. -/
def fieldSize : Nat :=
  0xFFFFFFFFFFFFFFFFFFFFFFFFFFFFFFFFFFFFFFFFFFFFFFFFFFFFFFFEFFFFFC2F

/-- The number of points. -/
def order : Nat :=
  0xFFFFFFFFFFFFFFFFFFFFFFFFFFFFFFFEBAAEDCE6AF48A03BBFD25E8CD0364141

/-- A point of the curve: the one at infinity, or one with coordinates. -/
inductive Point where
  /-- The neutral point. -/
  | infinity
  /-- The point with these coordinates. -/
  | affine (x y : Nat)
deriving DecidableEq, Repr

/-- The point whose multiples are all the points. -/
def generator : Point :=
  .affine 0x79BE667EF9DCBBAC55A06295CE870B07029BFCDB2DCE28D959F2815B16F81798
    0x483ADA7726A3C4655DA4FBFC0E1108A8FD17B448A68554199C47D08FFB10D4B8

/-- The curve's equation for a pair of coordinates. -/
def OnCurve (x y : Nat) : Prop :=
  y * y % fieldSize = (x * x * x + 7) % fieldSize

instance (x y : Nat) : Decidable (OnCurve x y) :=
  inferInstanceAs (Decidable (_ = _))

/-! ### The group law -/

/-- The slope of the tangent at a point. -/
def tangent (x y : Nat) : Nat :=
  3 * x * x * Modular.inverse fieldSize (2 * y) % fieldSize

/-- The slope of the line through two points with different `x`. -/
def chord (x₁ y₁ x₂ y₂ : Nat) : Nat :=
  Modular.sub fieldSize y₁ y₂ * Modular.inverse fieldSize (Modular.sub fieldSize x₁ x₂) % fieldSize

/-- The reflection of the third point in which a line of slope `l` through the points at `x₁`
(with ordinate `y₁`) and `x₂` meets the curve. -/
def third (l x₁ y₁ x₂ : Nat) : Point :=
  let x := Modular.sub fieldSize (l * l) (x₁ + x₂)
  .affine x (Modular.sub fieldSize (l * Modular.sub fieldSize x₁ x) y₁)

/-- The sum of two points. -/
def Point.add : Point → Point → Point
  | .infinity, q => q
  | p, .infinity => p
  | .affine x₁ y₁, .affine x₂ y₂ =>
    if x₁ = x₂ then
      if (y₁ + y₂) % fieldSize = 0 then .infinity else third (tangent x₁ y₁) x₁ y₁ x₂
    else third (chord x₁ y₁ x₂ y₂) x₁ y₁ x₂

/-- The sum of `k` copies of a point, by doubling. -/
def Point.multiply (k : Nat) (p : Point) : Point :=
  if k = 0 then .infinity
  else
    let half := Point.multiply (k / 2) p
    let double := half.add half
    if k % 2 = 1 then double.add p else double
termination_by k

/-! ### Square roots -/

/-- The square root of `a` whose parity is that of `parity`, if `a` is a square. The field size is
3 to the modulus 4, so a power of `a` is a root of it if anything is. -/
def squareRoot? (a parity : Nat) : Option Nat :=
  let y := Modular.power fieldSize a ((fieldSize + 1) / 4)
  if y * y % fieldSize = a % fieldSize then
    some (if y % 2 = parity % 2 then y else (fieldSize - y) % fieldSize)
  else none

end XoLedger.Curve
