import XoLedger.Proofs.Signature.Key
import XoLedger.Signature.Signer

/-!
# Signatures verify

What signing produces, verifying accepts. With the multiplier `k`, the secret `d` and the message
`z`, the number `s` is `(z + r d) / k`, so the two numbers of a signature lead back to `k` copies of
the generator; the lower form of `s` leads back to the reflection of that point, which has the same
abscissa. Both numbers are in range, so the written form is read back as well.
-/

namespace XoLedger

open Curve

namespace Signature

variable {key : PrivateKey} {message : Bytes} {z k : ℕ} {sig : Signature}

/-! ### The numbers of a signature -/

/-- A number in range is not zero to the modulus of the order. -/
lemma InRange.cast_ne_zero {n : ℕ} (h : InRange n) : (n : Scalar) ≠ 0 := by
  rw [Ne, ZMod.natCast_eq_zero_iff]
  exact Nat.not_dvd_of_pos_of_lt h.1 h.2

/-- A drawn multiplier is in range. -/
lemma inRange_draw? {tries : ℕ} {d : Drawing} (h : d.draw? tries = some k) : InRange k := by
  induction tries generalizing d with
  | zero => exact absurd h (by simp [Drawing.draw?])
  | succ tries ih =>
    rw [Drawing.draw?] at h
    by_cases hrange : InRange (Bytes.toNat (Hmac.sha256 d.key d.value))
    · rw [if_pos hrange, Option.some.injEq] at h
      exact h ▸ hrange
    · rw [if_neg hrange] at h
      exact ih h

/-- The lower form keeps `r`, and its `s` is low, in range, and the old one up to its sign. -/
lemma lower_spec {r s : ℕ} (hs : InRange s) :
    (lower ⟨r, s⟩).r = r ∧ (lower ⟨r, s⟩).IsLow ∧ InRange (lower ⟨r, s⟩).s ∧
      (((lower ⟨r, s⟩).s : Scalar) = s ∨ ((lower ⟨r, s⟩).s : Scalar) = -s) := by
  have hodd : order % 2 = 1 := by decide +kernel
  rw [lower]
  by_cases hlow : (Signature.mk r s).IsLow
  · rw [if_pos hlow]
    exact ⟨rfl, hlow, hs, .inl rfl⟩
  · rw [if_neg hlow]
    obtain ⟨hpos, hlt⟩ := hs
    have hhigh : order / 2 < s := not_le.mp hlow
    refine ⟨rfl, ?_, ⟨?_, ?_⟩, .inr ?_⟩
    · show order - s ≤ order / 2
      omega
    · show 0 < order - s
      omega
    · show order - s < order
      omega
    · rw [Nat.cast_sub hlt.le, ZMod.natCast_self, zero_sub]

/-- A signature of the message `z` that was made with the multiplier `k`. -/
structure MadeWith (key : PrivateKey) (z k : ℕ) (sig : Signature) : Prop where
  /-- `r` is the abscissa of the secret multiple. -/
  abscissa : ∃ x y, coordinates (k • base) = .affine x y ∧ x % order = sig.r
  /-- `r` may stand in a signature. -/
  inRange_r : InRange sig.r
  /-- `s` may stand in a signature. -/
  inRange_s : InRange sig.s
  /-- `s` is low. -/
  isLow : sig.IsLow
  /-- `s` proves the knowledge of the secret, up to its sign. -/
  proof : (sig.s : Scalar) * k = z + sig.r * key.secret ∨
    (sig.s : Scalar) * k = -(z + sig.r * key.secret)

/-- Every signature that a multiplier gives was made with it. -/
lemma madeWith_of_withMultiplier? (hk : InRange k) (h : withMultiplier? key z k = some sig) :
    MadeWith key z k sig := by
  rw [withMultiplier?] at h
  rcases hpoint : generator.multiply k with _ | ⟨x, y⟩
  · rw [hpoint] at h
    exact absurd h (by simp)
  rw [hpoint] at h
  simp only at h
  set s := Modular.inverse order k * (z + x % order * key.secret) % order with hs
  by_cases hzero : x % order = 0 ∨ s = 0
  · rw [if_pos hzero] at h
    exact absurd h (by simp)
  rw [if_neg hzero, Option.some.injEq] at h
  rw [not_or] at hzero
  -- before `s` is lowered, it is the message and the proof divided by the multiplier
  have hcast : (s : Scalar) * k = z + (x % order : ℕ) * key.secret := by
    have hne : (k : Scalar) ≠ 0 := hk.cast_ne_zero
    rw [hs, ZMod.natCast_mod, Nat.cast_mul, Modular.cast_inverse hne, Nat.cast_add, Nat.cast_mul,
      mul_comm, mul_inv_cancel_left₀ hne]
  obtain ⟨hr, hlow, hrange, hsign⟩ := lower_spec (r := x % order)
    ⟨Nat.pos_of_ne_zero hzero.2, Nat.mod_lt _ prime_order.pos⟩
  rw [h] at hr hlow hrange hsign
  refine ⟨⟨x, y, (coordinates_nsmul_base k).trans hpoint, hr.symm⟩, ?_, hrange, hlow, ?_⟩
  · rw [hr]
    exact ⟨Nat.pos_of_ne_zero hzero.1, Nat.mod_lt _ prime_order.pos⟩
  · rcases hsign with hsame | hneg
    · left
      rw [hsame, hr, hcast]
    · right
      rw [hneg, hr, neg_mul, hcast]

/-- Every signature that is given was made with some multiplier. -/
lemma madeWith_of_sign? (h : sign? key message = some sig) :
    ∃ k, MadeWith key (messageNumber message) k sig := by
  obtain ⟨k, hdraw, hmultiplier⟩ := Option.bind_eq_some_iff.mp h
  exact ⟨k, madeWith_of_withMultiplier? (inRange_draw? hdraw) hmultiplier⟩

/-! ### Verifying -/

/-- The point that verifying computes is a multiple of the generator. -/
lemma add_multiply_publicPoint (key : PrivateKey) (u₁ u₂ : ℕ) :
    (generator.multiply u₁).add (key.publicPoint.multiply u₂) =
      coordinates ((u₁ + u₂ * key.secret) • base) := by
  rw [key.publicPoint_eq, ← coordinates_nsmul, ← coordinates_nsmul_base, ← coordinates_add,
    add_nsmul, mul_nsmul']

/-- How often the generator goes into the point that verifying computes. -/
def recovered (key : PrivateKey) (z : ℕ) (sig : Signature) : ℕ :=
  z * Modular.inverse order sig.s % order +
    sig.r * Modular.inverse order sig.s % order * key.secret

namespace MadeWith

/-- The two numbers of a signature lead back to the multiplier, up to its sign. -/
lemma cast_recovered (h : MadeWith key z k sig) :
    (recovered key z sig : Scalar) = k ∨ (recovered key z sig : Scalar) = -k := by
  have hne : (sig.s : Scalar) ≠ 0 := h.inRange_s.cast_ne_zero
  have hsum : (recovered key z sig : Scalar) =
      (sig.s : Scalar)⁻¹ * (z + sig.r * key.secret) := by
    rw [recovered, Nat.cast_add, Nat.cast_mul, ZMod.natCast_mod, ZMod.natCast_mod, Nat.cast_mul,
      Nat.cast_mul, Modular.cast_inverse hne]
    ring
  rw [hsum]
  rcases h.proof with hproof | hproof
  · left
    rw [← hproof, inv_mul_cancel_left₀ hne]
  · right
    rw [← neg_eq_iff_eq_neg.mpr hproof, mul_neg, inv_mul_cancel_left₀ hne]

/-- The point that verifying computes has the abscissa of the secret multiple. -/
lemma exists_recovered (h : MadeWith key z k sig) :
    ∃ x y, (generator.multiply (z * Modular.inverse order sig.s % order)).add
        (key.publicPoint.multiply (sig.r * Modular.inverse order sig.s % order)) = .affine x y ∧
      x % order = sig.r := by
  obtain ⟨x, y, hpoint, hr⟩ := h.abscissa
  rw [add_multiply_publicPoint, ← recovered]
  rcases h.cast_recovered with hsame | hneg
  · rw [nsmul_base_eq_iff.mpr hsame]
    exact ⟨x, y, hpoint, hr⟩
  · rw [nsmul_base_eq_neg_iff.mpr hneg]
    obtain ⟨y', hreflection⟩ := coordinates_neg hpoint
    exact ⟨x, y', hreflection, hr⟩

/-- A signature that was made for a message verifies. -/
lemma verifies (h : MadeWith key (messageNumber message) k sig) :
    sig.verifies message key.publicPoint = true := by
  obtain ⟨x, y, hpoint, hr⟩ := h.exists_recovered
  rw [Signature.verifies, hpoint, decide_eq_true h.isLow, Bool.true_and]
  exact decide_eq_true hr

end MadeWith

/-! ### Written signatures -/

/-- The octets of a signature are read back if its numbers are in range. -/
lemma ofBytes?_toBytes (hr : InRange sig.r) (hs : InRange sig.s) :
    ofBytes? sig.toBytes = some sig := by
  have hwidth : order ≤ 256 ^ 32 := by decide +kernel
  have hlength : sig.toBytes.length = 64 := by
    rw [toBytes, List.length_append, Bytes.length_ofNat, Bytes.length_ofNat]
  have htake : sig.toBytes.take 32 = Bytes.ofNat 32 sig.r :=
    List.take_left' (Bytes.length_ofNat 32 sig.r)
  have hdrop : sig.toBytes.drop 32 = Bytes.ofNat 32 sig.s :=
    List.drop_left' (Bytes.length_ofNat 32 sig.r)
  rw [ofBytes?, htake, hdrop, Bytes.toNat_ofNat (hr.2.trans_le hwidth),
    Bytes.toNat_ofNat (hs.2.trans_le hwidth), if_pos ⟨hlength, hr, hs⟩]

/-- **A written signature is read back** if its numbers are in range. -/
theorem read_hex (hr : InRange sig.r) (hs : InRange sig.s) : read sig.hex = .ok sig := by
  rw [read, hex, Hex.decode_encode]
  simp only
  rw [ofBytes?_toBytes hr hs]

/-- The public key of a private key is read as its point. -/
lemma readKey_publicHex (key : PrivateKey) : readKey key.publicHex = .ok key.publicPoint := by
  rw [readKey, (PublicKey.decode_publicHex key).1]
  simp only
  rw [(PublicKey.decode_publicHex key).2]

/-- **Whatever signing produces, checking accepts** under the public key of the signer. -/
theorem check_hex_of_sign? (h : sign? key message = some sig) :
    check sig.hex message key.publicHex = .ok true := by
  obtain ⟨k, hmade⟩ := madeWith_of_sign? h
  rw [check, readKey_publicHex, read_hex hmade.inRange_r hmade.inRange_s]
  exact congrArg Except.ok hmade.verifies

end Signature

namespace Signer

/-- Signing, as a function: on its arguments the equation would have the signature computed. -/
lemma sign_eq : sign = fun signer message =>
    match Signature.sign? signer.key message with
    | some signature => .ok signature.hex
    | none => .error (.signing "signature error") := rfl

/-- A signer writes the signature of the key, if there is one. -/
lemma sign_eq_ok_iff {signer : Signer} {message : Bytes} {text : String} :
    signer.sign message = .ok text ↔
      ∃ sig, Signature.sign? signer.key message = some sig ∧ sig.hex = text := by
  rw [sign_eq]
  dsimp only
  cases Signature.sign? signer.key message with
  | none => simp
  | some sig => simp

/-- **The signature of a signer is accepted** under the signer's public key. -/
theorem check_of_sign {signer : Signer} {message : Bytes} {signature : String}
    (h : signer.sign message = .ok signature) :
    Signature.check signature message signer.publicKey = .ok true := by
  obtain ⟨sig, hsign, rfl⟩ := sign_eq_ok_iff.mp h
  rw [signer.publicKey_eq]
  exact Signature.check_hex_of_sign? hsign

/-- A signature of a signer is what is written for one that was made with some multiplier. -/
lemma exists_of_sign_eq_ok {signer : Signer} {message : Bytes} {text : String}
    (h : signer.sign message = .ok text) : ∃ sig k, text = sig.hex ∧
      Signature.MadeWith signer.key (Signature.messageNumber message) k sig := by
  obtain ⟨sig, hsign, rfl⟩ := sign_eq_ok_iff.mp h
  obtain ⟨k, hmade⟩ := Signature.madeWith_of_sign? hsign
  exact ⟨sig, k, rfl, hmade⟩

/-- Where there is no signature, the fault says so. -/
lemma exists_of_sign_eq_error {signer : Signer} {message : Bytes} {fault : Fault}
    (h : signer.sign message = .error fault) : ∃ reason, fault = .signing reason := by
  rw [sign_eq] at h
  rcases hsign : Signature.sign? signer.key message with _ | sig
  · simp only [hsign, Except.error.injEq] at h
    exact ⟨_, h.symm⟩
  · simp only [hsign] at h
    exact absurd h (by simp)

end Signer

end XoLedger
