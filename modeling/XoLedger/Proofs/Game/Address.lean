import XoLedger.Game.Address
import XoLedger.Proofs.Bytes.Digits
import XoLedger.Proofs.Digest.Blocks

/-!
# The shape of addresses

All addresses of games have the same length and start with the same digits. So the digits find all
games, and an address finds nothing but itself. Behind the digits that are shared stands one half of
the digest of the name, and an address tells no more of the name than that
(`addresses_tell_half_digests`).
-/

namespace XoLedger.Address

/-- A digest has 128 digits. -/
lemma length_hex (b : Bytes) : (Sha512.hex b).toList.length = 128 := by
  rw [Sha512.hex, Hex.length_encode, Sha512.length_digest]

lemma length_gamePrefix : gamePrefix.toList.length = 6 := by
  rw [gamePrefix, String.toList_ofList, List.length_take, length_hex]
  rfl

/-- Every address has 70 digits. -/
lemma length_ofName (name : String) : (ofName name).toList.length = 70 := by
  rw [ofName, String.toList_append, List.length_append, length_gamePrefix, String.toList_ofList,
    List.length_take, length_hex]
  rfl

/-- The digits that all games share find every game. -/
lemma gamePrefix_isPrefix (name : String) : gamePrefix.toList <+: (ofName name).toList := by
  rw [ofName, String.toList_append]
  exact List.prefix_append _ _

/-- An address finds no other. -/
lemma ofName_isPrefix_iff {a b : String} :
    (ofName a).toList <+: (ofName b).toList ↔ ofName a = ofName b := by
  constructor
  · intro h
    exact String.toList_inj.mp (h.eq_of_length ((length_ofName a).trans (length_ofName b).symm))
  · intro h
    exact ⟨[], by rw [List.append_nil, h]⟩

/-! ### Addresses and digests -/

/-- The digits of a digest are in lowercase. -/
lemma mem_digits_of_mem_hex {b : Bytes} {c : Char} (hc : c ∈ (Sha512.hex b).toList) :
    c ∈ Hex.digits := by
  rw [Sha512.hex, Hex.encode, String.toList_ofList] at hc
  exact Hex.mem_digits_of_mem_encodeChars hc

/-- The first digits of a digest are those of its first octets. -/
lemma ofList_take_hex (b : Bytes) (n : Nat) :
    String.ofList ((Sha512.hex b).toList.take (2 * n)) = Hex.encode ((Sha512.digest b).take n) := by
  rw [Sha512.hex, Hex.encode, String.toList_ofList, Hex.encode, Hex.encodeChars_take]

/-- The first digits of a digest are found as well by counting octets: none is cut in two. -/
lemma encode_take_hex (b : Bytes) (n : Nat) :
    Utf8.encode (String.ofList ((Sha512.hex b).toList.take n)) =
      (Utf8.encode (Sha512.hex b)).take n := by
  rw [Utf8.encode, String.toList_ofList, Utf8.encode]
  exact Hex.encodeChars_take_digits
    (fun c hc => Hex.isDigit_of_mem (mem_digits_of_mem_hex hc)) n

/-- The text of a digest is long enough for every cut that is made, counted in octets, too. -/
lemma length_encode_hex (b : Bytes) : (Utf8.encode (Sha512.hex b)).length = 128 := by
  rw [Sha512.hex, Utf8.encode, Hex.encode, String.toList_ofList,
    Hex.length_encodeChars_encodeChars, Sha512.length_digest]

/-- Behind the digits that are shared stand those for one half of a digest. -/
lemma ofName_eq (name : String) :
    ofName name = gamePrefix ++ Hex.encode ((Sha512.digest (Utf8.encode name)).take 32) := by
  rw [ofName, ← ofList_take_hex _ 32]

/-- Addresses differ exactly where these halves do. -/
lemma ofName_eq_iff {a b : String} :
    ofName a = ofName b ↔
      (Sha512.digest (Utf8.encode a)).take 32 = (Sha512.digest (Utf8.encode b)).take 32 := by
  rw [ofName_eq, ofName_eq, String.append_right_inj]
  exact ⟨Hex.encode_injective, congrArg Hex.encode⟩

/-- Every digit of an address is in lowercase. -/
lemma mem_digits_of_mem_ofName {name : String} {c : Char} (hc : c ∈ (ofName name).toList) :
    c ∈ Hex.digits := by
  rw [ofName, gamePrefix, String.toList_append, String.toList_ofList, String.toList_ofList] at hc
  rcases List.mem_append.mp hc with hc | hc
  · exact mem_digits_of_mem_hex (List.mem_of_mem_take hc)
  · exact mem_digits_of_mem_hex (List.mem_of_mem_take hc)

/-- **An address tells half a digest.** Whatever the name, its octets fill whole blocks and have a
digest of 64 octets, written in 128 octets, of which the first 64 are the first 64 digits. The
address has 70 digits in lowercase: those that all addresses begin with, and those for the first
half of the digest. So two names have one address exactly if their digests begin with the same 32
octets, and an address is the beginning of no other. -/
theorem addresses_tell_half_digests (name other : String) :
    let octets := Utf8.encode name
    (∀ block ∈ blocks 128 (padded 128 16 octets), block.length = 128) ∧
      (Sha512.digest octets).length = 64 ∧
      (Utf8.encode (Sha512.hex octets)).length = 128 ∧
      Utf8.encode (String.ofList ((Sha512.hex octets).toList.take 64)) =
        (Utf8.encode (Sha512.hex octets)).take 64 ∧
      (ofName name).toList.length = 70 ∧ (∀ c ∈ (ofName name).toList, c ∈ Hex.digits) ∧
      gamePrefix.toList <+: (ofName name).toList ∧
      ofName name = gamePrefix ++ Hex.encode ((Sha512.digest octets).take 32) ∧
      (ofName name = ofName other ↔
        (Sha512.digest octets).take 32 = (Sha512.digest (Utf8.encode other)).take 32) ∧
      ((ofName name).toList <+: (ofName other).toList → ofName name = ofName other) := by
  intro octets
  have hblocks := (blocks_padded (by decide : 0 < 128) 16 octets).1
  exact ⟨hblocks, Sha512.length_digest octets, length_encode_hex octets, encode_take_hex octets 64,
    length_ofName name, fun c => mem_digits_of_mem_ofName, gamePrefix_isPrefix name,
    ofName_eq name, ofName_eq_iff, ofName_isPrefix_iff.mp⟩

/-- No name at all has an address, too. -/
example : gamePrefix = "5b7349" ∧ ofName "" =
    "5b7349cf83e1357eefb8bdf1542850d66d8007d620e4050b5715dc83f4a921d36ce9ce" := by
  decide +kernel

end XoLedger.Address
