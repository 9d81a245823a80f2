import XoLedger.Bytes.Hex

/-!
# Percent encoding

Octets that may not stand in a part of a URL are written as a percent sign and two digits. Which
octets those are depends on the part; octets above 127 always are. Decoding leaves alone every
percent sign that two digits do not follow.
-/

namespace XoLedger.Url.Percent

/-! ### What is encoded where -/

/-- Control characters. -/
def isControl (b : UInt8) : Bool :=
  b < 32 || b = 127

/-- Whether an octet is one of the characters of a text. -/
def isOneOf (chars : String) (b : UInt8) : Bool :=
  (Utf8.encode chars).contains b

/-- What is encoded in a fragment. -/
def inFragment (b : UInt8) : Bool :=
  isControl b || isOneOf " \"<>`" b

/-- What is encoded in a path. -/
def inPath (b : UInt8) : Bool :=
  inFragment b || isOneOf "#?\x7b\x7d" b

/-- What is encoded in a user name or a password. -/
def inUserinfo (b : UInt8) : Bool :=
  inPath b || isOneOf "/:;=@[\\]^|" b

/-- What is encoded in a query. -/
def inQuery (b : UInt8) : Bool :=
  isControl b || isOneOf " \"#<>" b

/-- What is encoded in the query of a URL with a special scheme. -/
def inSpecialQuery (b : UInt8) : Bool :=
  inQuery b || isOneOf "'" b

/-! ### Encoding and decoding -/

/-- An uppercase hexadecimal digit. -/
def upperDigit (n : Nat) : Char :=
  if n < 10 then Char.ofNat (48 + n) else Char.ofNat (55 + n)

/-- An octet as a percent sign and two digits. -/
def octet (b : UInt8) : List Char :=
  ['%', upperDigit (b.toNat / 16), upperDigit (b.toNat % 16)]

/-- A character, its octets encoded where they have to be. -/
def encodeChar (encoded : UInt8 → Bool) (c : Char) : List Char :=
  (Utf8.encodeChar c).flatMap fun b =>
    if 128 ≤ b || encoded b then octet b else [Char.ofNat b.toNat]

/-- Characters, their octets encoded where they have to be. -/
def encode (encoded : UInt8 → Bool) (cs : List Char) : List Char :=
  cs.flatMap (encodeChar encoded)

/-- The octets with every percent sign and its two digits replaced by what they stand for. -/
def decode : Bytes → Bytes
  | [] => []
  | b :: rest =>
    if b = 37 then
      match rest with
      | hi :: lo :: rest' =>
        match Hex.value? hi.toNat, Hex.value? lo.toNat with
        | some h, some l => UInt8.ofNat (16 * h + l) :: decode rest'
        | _, _ => b :: decode (hi :: lo :: rest')
      | rest => b :: decode rest
    else b :: decode rest

end XoLedger.Url.Percent
