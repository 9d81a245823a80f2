import XoLedger.Fault
import XoLedger.Signature.Ecdsa

/-!
# Signers

A private key together with its public key, which is computed once.
-/

namespace XoLedger

/-- One who signs. -/
structure Signer where
  /-- The private key. -/
  key : PrivateKey
  /-- The public key, as digits. -/
  publicKey : String
  /-- The keys belong together. -/
  publicKey_eq : publicKey = key.publicHex

namespace Signer

/-- The one who signs with a key. -/
def ofKey (key : PrivateKey) : Signer := ⟨key, key.publicHex, rfl⟩

/-- The name of the way of signing. -/
def algorithm : String := "secp256k1"

/-- How a signer is shown: by the public key. -/
def shown (signer : Signer) : String :=
  "Secp256k1Signer \x7b public_key: " ++ Quoted.text signer.publicKey ++ ", .. \x7d"

/-- The signature of a message, as digits. -/
def sign (signer : Signer) (message : Bytes) : Except Fault String :=
  match Signature.sign? signer.key message with
  | some signature => .ok signature.hex
  | none => .error (.signing "signature error")

end Signer

end XoLedger
