import XoLedger.Signature.Key
import XoLedger.Digest.Hmac

/-!
# Signatures

Signatures serve as identifiers, so one key and one message always give one signature: the secret
number behind it is drawn from key and message, and of the two values of `s` that verify equally
the lower is taken. Verifying refuses the higher one, so a signature has no second form.
-/

namespace XoLedger

/-- A pair of numbers that vouches for a message. -/
structure Signature where
  /-- The abscissa of the secret multiple, to the order. -/
  r : Nat
  /-- The proof that the signer knew the key. -/
  s : Nat
deriving DecidableEq, Repr

namespace Signature

/-- The written form: both numbers in 32 octets. -/
def toBytes (sig : Signature) : Bytes :=
  Bytes.ofNat 32 sig.r ++ Bytes.ofNat 32 sig.s

/-- The written form in digits. -/
def hex (sig : Signature) : String :=
  Hex.encode sig.toBytes

/-- Whether a number may stand in a signature. -/
def InRange (n : Nat) : Prop :=
  0 < n ∧ n < Curve.order

instance (n : Nat) : Decidable (InRange n) :=
  inferInstanceAs (Decidable (_ ∧ _))

/-- The signature that 64 octets stand for, if both numbers are in range. -/
def ofBytes? (b : Bytes) : Option Signature :=
  let sig : Signature := ⟨Bytes.toNat (b.take 32), Bytes.toNat (b.drop 32)⟩
  if b.length = 64 ∧ InRange sig.r ∧ InRange sig.s then some sig else none

/-- Whether `s` is at most half the order. -/
def IsLow (sig : Signature) : Prop :=
  sig.s ≤ Curve.order / 2

instance (sig : Signature) : Decidable sig.IsLow :=
  inferInstanceAs (Decidable (_ ≤ _))

/-- The equivalent signature with the lower `s`. -/
def lower (sig : Signature) : Signature :=
  if sig.IsLow then sig else { sig with s := Curve.order - sig.s }

/-- A message as a number to the order. -/
def messageNumber (message : Bytes) : Nat :=
  Bytes.toNat (Sha256.digest message) % Curve.order

/-! ### The secret multiplier -/

/-- The state of the generator of secret multipliers. -/
structure Drawing where
  /-- The key of the keyed digest. -/
  key : Bytes
  /-- The value that is digested again and again. -/
  value : Bytes

/-- One round of seeding: `mark` tells the rounds apart. -/
def Drawing.mix (d : Drawing) (mark : UInt8) (seed : Bytes) : Drawing :=
  let key := Hmac.sha256 d.key (d.value ++ mark :: seed)
  ⟨key, Hmac.sha256 key d.value⟩

/-- The generator for one key and one message. -/
def Drawing.start (key : PrivateKey) (message : Nat) : Drawing :=
  let seed := key.toBytes ++ Bytes.ofNat 32 message
  ((Drawing.mk (List.replicate 32 0) (List.replicate 32 1)).mix 0 seed).mix 1 seed

/-- The first of at most `tries` drawn numbers that is in range. -/
def Drawing.draw? : (tries : Nat) → Drawing → Option Nat
  | 0, _ => none
  | tries + 1, d =>
    let value := Hmac.sha256 d.key d.value
    if InRange (Bytes.toNat value) then some (Bytes.toNat value)
    else Drawing.draw? tries (Drawing.mk d.key value |>.mix 0 [])

/-! ### Signing and verifying -/

/-- The signature that the multiplier `k` gives, if neither of its numbers is zero. -/
def withMultiplier? (key : PrivateKey) (message k : Nat) : Option Signature :=
  match Curve.generator.multiply k with
  | .infinity => none
  | .affine x _ =>
    let r := x % Curve.order
    let s := Modular.inverse Curve.order k * (message + r * key.secret) % Curve.order
    if r = 0 ∨ s = 0 then none else some (Signature.lower ⟨r, s⟩)

/-- The number of draws before signing gives up. A draw is out of range less often than once in
2 to the 127. -/
def maxDraws : Nat := 64

/-- The signature of a message. -/
def sign? (key : PrivateKey) (message : Bytes) : Option Signature := do
  let z := messageNumber message
  let k ← (Drawing.start key z).draw? maxDraws
  withMultiplier? key z k

/-- Whether a signature vouches for a message under a public key: `s` is low, and the point that
the two numbers lead back to has abscissa `r`. -/
def verifies (sig : Signature) (message : Bytes) (point : Curve.Point) : Bool :=
  let z := messageNumber message
  let w := Modular.inverse Curve.order sig.s
  let u₁ := z * w % Curve.order
  let u₂ := sig.r * w % Curve.order
  decide sig.IsLow &&
    match (Curve.generator.multiply u₁).add (point.multiply u₂) with
    | .infinity => false
    | .affine x _ => decide (x % Curve.order = sig.r)

/-! ### Checking written signatures -/

/-- Why a written signature cannot be checked. -/
inductive CheckError where
  /-- The public key is not a sequence of digits. -/
  | keyNotHex (cause : Hex.Error)
  /-- The public key is not a point of the curve. -/
  | keyNotPoint
  /-- The signature is not a sequence of digits. -/
  | signatureNotHex (cause : Hex.Error)
  /-- The signature is not a pair of numbers in range. -/
  | malformed
deriving DecidableEq, Repr

/-- The wording of a checking error. -/
def CheckError.message : CheckError → String
  | .keyNotHex cause => s!"public key is not hex: {cause.message}"
  | .keyNotPoint => "public key is not a curve point: signature error"
  | .signatureNotHex cause => s!"signature is not hex: {cause.message}"
  | .malformed => "signature is malformed: signature error"

/-- Reads a public key. -/
def readKey (publicKey : String) : Except CheckError Curve.Point :=
  match Hex.decode publicKey with
  | .error cause => .error (.keyNotHex cause)
  | .ok b =>
    match PublicKey.ofBytes? b with
    | none => .error .keyNotPoint
    | some point => .ok point

/-- Reads a signature. -/
def read (signature : String) : Except CheckError Signature :=
  match Hex.decode signature with
  | .error cause => .error (.signatureNotHex cause)
  | .ok b =>
    match ofBytes? b with
    | none => .error .malformed
    | some sig => .ok sig

/-- Checks a written signature of a message under a written public key. The key is read first. -/
def check (signature : String) (message : Bytes) (publicKey : String) : Except CheckError Bool := do
  let point ← readKey publicKey
  let sig ← read signature
  return sig.verifies message point

end Signature

end XoLedger
