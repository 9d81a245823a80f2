import XoLedger.Nonce
import XoLedger.Proofs.Game.Address
import XoLedger.Proofs.Wire.Size
import XoLedger.Signed

/-!
# Headers of transactions are short

A header is read back if its length can be told in 64 bits. Whatever a player intends with a game
of whatever name, the header has the same few fields: digits of digests and keys, and a nonce. So it
is always short enough.
-/

namespace XoLedger

/-! ### Fields -/

namespace Wire

/-- A number takes fewer octets than it counts, or one. -/
lemma Varint.length_write_le (n : Nat) : (write n).length ≤ n + 1 := by
  induction n using Nat.strongRecOn with
  | ind n ih =>
    by_cases hn : n < 128
    · rw [length_write_of_lt hn]
      omega
    · have hrest := ih (n / 128) (by omega)
      rw [length_write_of_ge hn]
      omega

/-- A text in a field with a small tag takes a few octets for each of its characters. -/
lemma length_writeBytes_encode_le (tag : Nat) (htag : tag < 15) (s : String) :
    (writeBytes tag (Utf8.encode s)).length ≤ 8 * s.toList.length + 2 := by
  have hkey : (writeKey tag WireType.lengthDelimited.number).length = 1 :=
    Varint.length_write_of_lt (by rw [WireType.number]; omega)
  have hsize := Varint.length_write_le (Utf8.encode s).length
  have hoctets := Utf8.length_encode_le s
  rw [length_writeBytes, hkey, List.length_append]
  omega

lemma length_writeText_le (tag : Nat) (htag : tag < 15) (s : String) :
    (writeText tag s).length ≤ 8 * s.toList.length + 2 :=
  Nat.le_trans (length_writeBytesUnlessEmpty_le tag _) (length_writeBytes_encode_le tag htag s)

lemma length_writeTexts_singleton_le (tag : Nat) (htag : tag < 15) (s : String) :
    (writeTexts tag [s]).length ≤ 8 * s.toList.length + 2 := by
  rw [writeTexts, List.flatMap_singleton]
  exact length_writeBytes_encode_le tag htag s

end Wire

/-! ### Texts in headers -/

/-- Some groups of characters with dashes between them are no longer than this. -/
lemma Nonce.length_joinChars_groups_le (lengths : List Nat) (cs : List Char) :
    (joinChars '-' (groups lengths cs)).length ≤ lengths.sum + lengths.length := by
  induction lengths generalizing cs with
  | nil => exact Nat.le_refl 0
  | cons n lengths ih =>
    have hgroup : (cs.take n).length ≤ n := List.length_take_le n cs
    rw [groups, List.sum_cons, List.length_cons]
    cases lengths with
    | nil =>
      rw [groups, joinChars]
      omega
    | cons m lengths =>
      have hrest := ih (cs.drop n)
      rw [groups] at hrest ⊢
      rw [joinChars, List.length_append, List.length_cons]
      · omega
      · exact List.cons_ne_nil _ _

/-- A nonce is short, whatever it is made of. -/
lemma Nonce.length_ofRandom_le (random : Bytes) : (ofRandom random).toList.length ≤ 37 := by
  rw [ofRandom, String.toList_ofList]
  exact length_joinChars_groups_le groupLengths _

/-- A public key has 66 digits at most. -/
lemma Signer.length_publicKey_le (signer : Signer) : signer.publicKey.toList.length ≤ 66 := by
  have hpoint : (PublicKey.compress signer.key.publicPoint).length ≤ 33 := by
    cases signer.key.publicPoint with
    | infinity => decide
    | affine x y =>
      rw [PublicKey.compress, List.length_cons, Bytes.length_ofNat]
  rw [signer.publicKey_eq, PrivateKey.publicHex, Hex.length_encode]
  omega

namespace Transaction

/-- The length of a header can be told in 64 bits. -/
theorem length_header_lt (signer : Signer) (gameName : String) (random payload : Bytes) :
    (headerOf signer.publicKey gameName (Nonce.ofRandom random) payload).encode.length <
      2 ^ 64 := by
  have hkey := signer.length_publicKey_le
  have haddress := Address.length_ofName gameName
  have hdigest := Address.length_hex payload
  have hnonce := Nonce.length_ofRandom_le random
  have h₁ := Wire.length_writeText_le 1 (by decide) signer.publicKey
  have h₃ := Wire.length_writeText_le 3 (by decide) Address.familyName
  have h₄ := Wire.length_writeText_le 4 (by decide) Address.familyVersion
  have h₅ := Wire.length_writeTexts_singleton_le 5 (by decide) (Address.ofName gameName)
  have h₆ := Wire.length_writeText_le 6 (by decide) (Nonce.ofRandom random)
  have h₇ := Wire.length_writeTexts_singleton_le 7 (by decide) (Address.ofName gameName)
  have h₉ := Wire.length_writeText_le 9 (by decide) (Sha512.hex payload)
  have h₁₀ := Wire.length_writeText_le 10 (by decide) signer.publicKey
  have hname : Address.familyName.toList.length = 2 := by decide
  have hversion : Address.familyVersion.toList.length = 3 := by decide
  simp only [headerOf, TransactionHeader.encode, List.length_append]
  have hnone : (Wire.writeTexts 2 []).length = 0 := rfl
  omega

end Transaction

end XoLedger
