import XoLedger.Proofs.Bytes.Hex
import XoLedger.Proofs.Bytes.Numbers
import XoLedger.Proofs.Curve.Order
import XoLedger.Proofs.Curve.Root
import XoLedger.Signature.Key

/-!
# Public keys are read back

The compressed form of a point keeps the abscissa and the parity of the ordinate, and the equation
of the curve leaves one ordinate for them. A private key is not a multiple of the order, so its
public point has coordinates and the public key of every private key is read as that point.
-/

namespace XoLedger

open Curve

namespace PublicKey

/-- The first octet of the compressed form. -/
lemma toNat_tag (y : ℕ) : (UInt8.ofNat (2 + y % 2)).toNat = 2 + y % 2 := by
  rw [UInt8.toNat_ofNat']
  omega

/-- The first octet of the compressed form is one of two. -/
lemma tag_eq (y : ℕ) : UInt8.ofNat (2 + y % 2) = 2 ∨ UInt8.ofNat (2 + y % 2) = 3 := by
  rcases Nat.mod_two_eq_zero_or_one y with heven | hodd
  · rw [heven]
    exact .inl rfl
  · rw [hodd]
    exact .inr rfl

/-- The right side of the equation of the curve is the square of the ordinate. -/
lemma cast_cube {x y : Residue} (h : weierstrass.Nonsingular x y) :
    ((x.val * x.val * x.val + 7 : ℕ) : Residue) = y ^ 2 := by
  have hequation := (WeierstrassCurve.Affine.equation_iff x y).mp h.1
  simp only [weierstrass] at hequation
  push_cast
  rw [ZMod.natCast_zmod_val]
  linear_combination -hequation

/-- **A compressed point is read back.** -/
theorem ofBytes?_compress {P : Element} (hP : P ≠ 0) :
    ofBytes? (compress (coordinates P)) = some (coordinates P) := by
  rcases P with _ | ⟨x, y, h⟩
  · exact absurd rfl hP
  have hx : x.val < fieldSize := ZMod.val_lt x
  have hwidth : x.val < 256 ^ 32 := lt_of_lt_of_le hx (by decide +kernel)
  have hparity : (2 + y.val % 2) % 2 = y.val % 2 := by omega
  rw [coordinates, compress, ofBytes?, if_pos ⟨Bytes.length_ofNat 32 _, tag_eq _⟩,
    Bytes.toNat_ofNat hwidth, toNat_tag, lift, if_pos hx,
    squareRoot?_eq_some (cast_cube h) hparity, Option.map_some]

end PublicKey

namespace PrivateKey

/-- The point of a key is a multiple of the generator. -/
lemma publicPoint_eq (key : PrivateKey) : key.publicPoint = coordinates (key.secret • base) := by
  rw [publicPoint, coordinates_nsmul_base]

/-- A secret is not zero to the modulus of the order. -/
lemma cast_secret_ne_zero (key : PrivateKey) : (key.secret : Scalar) ≠ 0 := by
  rw [Ne, ZMod.natCast_eq_zero_iff]
  exact Nat.not_dvd_of_pos_of_lt key.secret_pos key.secret_lt

end PrivateKey

/-- **The public key of a private key is read** as the point of the private key. -/
theorem PublicKey.decode_publicHex (key : PrivateKey) :
    Hex.decode key.publicHex = .ok (compress key.publicPoint) ∧
      ofBytes? (compress key.publicPoint) = some key.publicPoint := by
  refine ⟨Hex.decode_encode _, ?_⟩
  rw [key.publicPoint_eq]
  exact ofBytes?_compress (mt nsmul_base_eq_zero_iff.mp key.cast_secret_ne_zero)

end XoLedger
