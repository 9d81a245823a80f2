import XoLedger.Bytes.Hex
import XoLedger.Text.Blank
import XoLedger.Curve.Point

/-!
# Keys

A private key is a number between 1 and the order of the curve, written as 64 hexadecimal digits.
Its public key is a point of the curve, written in compressed form: a first octet for the parity
of the ordinate, then the abscissa. Public keys are read in both the compressed and the full form.
-/

namespace XoLedger

/-! ### Private keys -/

/-- A secret number with an inverse to the order of the curve. -/
structure PrivateKey where
  /-- The number. -/
  secret : Nat
  /-- The number is not zero. -/
  secret_pos : 0 < secret
  /-- The number lies below the order. -/
  secret_lt : secret < Curve.order

namespace PrivateKey

/-- Why a text is not a private key. -/
inductive Error where
  /-- The text is not a sequence of hexadecimal digits. -/
  | notHex (cause : Hex.Error)
  /-- The text stands for another number of octets than 32. -/
  | badSize (size : Nat)
  /-- The number is zero or not below the order of the curve. -/
  | outOfRange
deriving DecidableEq, Repr

/-- The wording of a key error. -/
def Error.message : Error → String
  | .notHex cause => s!"private key is not hex: {cause.message}"
  | .badSize size => s!"private key must be 32 bytes, got {size}"
  | .outOfRange => "private key out of range: signature error"

/-- The key that 32 octets stand for, if their number is in range. -/
def ofBytes? (b : Bytes) : Option PrivateKey :=
  if h : 0 < b.toNat ∧ b.toNat < Curve.order then some ⟨b.toNat, h.1, h.2⟩ else none

/-- Drops one leading `0x`. -/
def withoutMark : List Char → List Char
  | '0' :: 'x' :: rest => rest
  | cs => cs

/-- The key that a text stands for: digits, with white space around them and a mark before them
allowed. -/
def parse (text : String) : Except Error PrivateKey :=
  match Hex.decodeBytes (Utf8.encodeChars (withoutMark (trimChars text.toList))) with
  | .error cause => .error (.notHex cause)
  | .ok b =>
    if b.length ≠ 32 then .error (.badSize b.length)
    else
      match ofBytes? b with
      | some key => .ok key
      | none => .error .outOfRange

/-- The 32 octets of a key. -/
def toBytes (key : PrivateKey) : Bytes :=
  Bytes.ofNat 32 key.secret

/-- The 64 digits of a key. -/
def hex (key : PrivateKey) : String :=
  Hex.encode key.toBytes

end PrivateKey

/-! ### Public keys -/

namespace PublicKey

/-- The written form of a point: parity and abscissa. -/
def compress : Curve.Point → Bytes
  | .infinity => [0]
  | .affine x y => UInt8.ofNat (2 + y % 2) :: Bytes.ofNat 32 x

/-- The point with abscissa `x` and an ordinate of the given parity. -/
def lift (parity x : Nat) : Option Curve.Point :=
  if x < Curve.fieldSize then
    (Curve.squareRoot? (x * x * x + 7) parity).map (.affine x ·)
  else none

/-- The point that octets stand for, in compressed form (33 octets that start with 2 or 3) or in
full (65 octets that start with 4). -/
def ofBytes? : Bytes → Option Curve.Point
  | [] => none
  | tag :: rest =>
    if rest.length = 32 ∧ (tag = 2 ∨ tag = 3) then lift tag.toNat (Bytes.toNat rest)
    else if rest.length = 64 ∧ tag = 4 then
      let x := Bytes.toNat (rest.take 32)
      let y := Bytes.toNat (rest.drop 32)
      if x < Curve.fieldSize ∧ y < Curve.fieldSize ∧ Curve.OnCurve x y then some (.affine x y)
      else none
    else none

end PublicKey

/-- The point that belongs to a private key. -/
def PrivateKey.publicPoint (key : PrivateKey) : Curve.Point :=
  Curve.generator.multiply key.secret

/-- The public key in compressed form, as digits. -/
def PrivateKey.publicHex (key : PrivateKey) : String :=
  Hex.encode (PublicKey.compress key.publicPoint)

/-- How a private key is shown: by its public key. -/
def PrivateKey.shown (key : PrivateKey) : String :=
  "PrivateKey \x7b public_key: " ++ Quoted.text key.publicHex ++ ", .. \x7d"

end XoLedger
