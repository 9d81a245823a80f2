import XoLedger.Digest.Sha256

/-!
# HMAC

The keyed digest that deterministic nonces are drawn from, over SHA-256.
-/

namespace XoLedger.Hmac

/-- A key as one block: long keys are digested first, short ones filled up with zero octets. -/
def keyBlock (key : Bytes) : Bytes :=
  let k := if key.length > 64 then Sha256.digest key else key
  k ++ List.replicate (64 - k.length) 0

/-- The digest of `message` under `key`. -/
def sha256 (key message : Bytes) : Bytes :=
  let k := keyBlock key
  Sha256.digest (k.map (· ^^^ 0x5C) ++ Sha256.digest (k.map (· ^^^ 0x36) ++ message))

end XoLedger.Hmac
