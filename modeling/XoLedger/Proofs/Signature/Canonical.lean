import XoLedger.Proofs.Bytes.Digits
import XoLedger.Proofs.Signature.Ecdsa

/-!
# Signatures have one form

A signature serves as the identifier of what it signs, so it must not have a second form. The
numbers `r` and `s` verify exactly where `r` and the order less `s` would, if only the equation were
checked. Signing gives the one of the two whose `s` is low, written in 128 lowercase digits, and
verifying refuses the other one for every message and every key (`sign_is_canonical`).
-/

namespace XoLedger.Signature

open Curve Hex

/-- A text of 128 digits, the first half of which stands for `r` and the second half for `s`. -/
structure Spells (text : String) (r s : Nat) : Prop where
  /-- The number of digits. -/
  length_eq : text.toList.length = 128
  /-- Their case does not matter. -/
  isDigit : ∀ c ∈ text.toList, IsDigit c
  /-- The first number. -/
  valueOf_take : valueOf (text.toList.take 64) = r
  /-- The second number. -/
  valueOf_drop : valueOf (text.toList.drop 64) = s

/-! ### Texts and numbers -/

/-- The digits of a signature are those of its two numbers. -/
lemma toList_hex (sig : Signature) :
    sig.hex.toList = encodeChars (Bytes.ofNat 32 sig.r) ++ encodeChars (Bytes.ofNat 32 sig.s) := by
  rw [hex, Hex.encode, String.toList_ofList, toBytes, encodeChars, List.flatMap_append]
  rfl

/-- What is written for a signature spells its numbers. -/
lemma spells_hex {sig : Signature} (hr : InRange sig.r) (hs : InRange sig.s) :
    Spells sig.hex sig.r sig.s := by
  have hwidth : order ≤ 256 ^ 32 := by decide +kernel
  have hlength : ∀ n, (encodeChars (Bytes.ofNat 32 n)).length = 64 := fun n => by
    rw [length_encodeChars, Bytes.length_ofNat]
  refine ⟨?_, fun c hc => ?_, ?_, ?_⟩
  · rw [toList_hex, List.length_append, hlength, hlength]
  · rw [toList_hex] at hc
    rcases List.mem_append.mp hc with hc | hc
    · exact isDigit_of_mem (mem_digits_of_mem_encodeChars hc)
    · exact isDigit_of_mem (mem_digits_of_mem_encodeChars hc)
  · rw [toList_hex, List.take_left' (hlength _), valueOf_encodeChars,
      Bytes.toNat_ofNat (hr.2.trans_le hwidth)]
  · rw [toList_hex, List.drop_left' (hlength _), valueOf_encodeChars,
      Bytes.toNat_ofNat (hs.2.trans_le hwidth)]

/-- The digits of a signature are in lowercase. -/
lemma mem_digits_of_mem_hex {sig : Signature} {c : Char} (hc : c ∈ sig.hex.toList) :
    c ∈ digits := by
  rw [hex, Hex.encode, String.toList_ofList] at hc
  exact mem_digits_of_mem_encodeChars hc

/-- A text that spells two numbers is read as these numbers, if they may stand in a signature. -/
lemma Spells.read_eq {text : String} {r s : Nat} (h : Spells text r s) (hr : InRange r)
    (hs : InRange s) : read text = .ok ⟨r, s⟩ := by
  have htake : (text.toList.take 64).length = 2 * 32 := by
    rw [List.length_take, h.length_eq]
    rfl
  have hdrop : (text.toList.drop 64).length = 2 * 32 := by
    rw [List.length_drop, h.length_eq]
  have hlower : encodeChars (toBytes ⟨r, s⟩) = text.toList.map Char.toLower := by
    rw [toBytes, encodeChars, List.flatMap_append, ← encodeChars, ← encodeChars, ← h.valueOf_take,
      ← h.valueOf_drop,
      encodeChars_ofNat_valueOf htake fun c hc => h.isDigit c (List.mem_of_mem_take hc),
      encodeChars_ofNat_valueOf hdrop fun c hc => h.isDigit c (List.mem_of_mem_drop hc),
      ← List.map_append, List.take_append_drop]
  have hdecode : Hex.decode text = .ok (toBytes ⟨r, s⟩) :=
    decodeBytes_eq_ok_iff.mpr ⟨h.isDigit, hlower⟩
  rw [read, hdecode]
  simp only
  rw [ofBytes?_toBytes hr hs]

/-! ### Checking -/

/-- A signature that can be read is checked under every key that can be read, and under no other. -/
lemma check_eq_of_read {text : String} {sig : Signature} (h : read text = .ok sig)
    (data : Bytes) (publicKey : String) :
    check text data publicKey = (readKey publicKey).map fun point => sig.verifies data point := by
  rw [check, h]
  cases readKey publicKey <;> rfl

/-- A signature with a high `s` does not verify. -/
lemma verifies_of_not_isLow {sig : Signature} (h : ¬sig.IsLow) (data : Bytes) (point : Point) :
    sig.verifies data point = false := by
  rw [verifies, decide_eq_false h, Bool.false_and]

/-- The counterpart of a low number is high and in range. -/
lemma order_sub_bounds {s : Nat} (hs : InRange s) (hlow : s ≤ order / 2) :
    InRange (order - s) ∧ ¬order - s ≤ order / 2 := by
  have hodd : order % 2 = 1 := by decide +kernel
  obtain ⟨hpos, hlt⟩ := hs
  exact ⟨⟨by omega, by omega⟩, by omega⟩

/-- **Signatures are canonical.** What signing gives is 128 lowercase digits for two numbers in
range, the second of them at most half the order. It can be checked for every message under every
key that is a point of the curve, and the text with the other second number is accepted for no
message and under no key. -/
theorem sign_is_canonical {signer : Signer} {message : Bytes} {text : String}
    (h : signer.sign message = .ok text) :
    ∃ r s, Spells text r s ∧ (∀ c ∈ text.toList, c ∈ digits) ∧
      (1 ≤ r ∧ r < order) ∧ (1 ≤ s ∧ s ≤ (order - 1) / 2) ∧
      (∀ (data : Bytes) (publicKey : String), (∃ point, readKey publicKey = .ok point) →
        ∃ verdict, check text data publicKey = .ok verdict) ∧
      ∀ counterpart, Spells counterpart r (order - s) → ∀ (data : Bytes) (publicKey : String),
        check counterpart data publicKey = (readKey publicKey).map fun _ => false := by
  have hodd : order % 2 = 1 := by decide +kernel
  obtain ⟨sig, k, rfl, hmade⟩ := signer.exists_of_sign_eq_ok h
  have hlow : sig.s ≤ order / 2 := hmade.isLow
  obtain ⟨hcounterpart, hhigh⟩ := order_sub_bounds hmade.inRange_s hlow
  refine ⟨sig.r, sig.s, spells_hex hmade.inRange_r hmade.inRange_s,
    fun c => mem_digits_of_mem_hex, hmade.inRange_r, ⟨hmade.inRange_s.1, by omega⟩, ?_, ?_⟩
  · rintro data publicKey ⟨point, hpoint⟩
    rw [check_eq_of_read (read_hex hmade.inRange_r hmade.inRange_s), hpoint]
    exact ⟨_, rfl⟩
  · intro counterpart hspells data publicKey
    rw [check_eq_of_read (hspells.read_eq hmade.inRange_r hcounterpart)]
    have hnotLow : ¬IsLow ⟨sig.r, order - sig.s⟩ := hhigh
    simp only [verifies_of_not_isLow hnotLow]

/-- The numbers of the signature of no octets at all with the smallest key. -/
lemma sign?_smallest_key : sign? ⟨1, by decide, by decide⟩ [] = some
    ⟨0x77c8d336572f6f466055b5f70f433851f8f535f6c4fc71133a6cfd71079d03b7,
      0x0ed9f5eb8aa5b266abac35d416c3207e7a538bf5f37649727d7a9823b1069577⟩ := by
  decide +kernel

/-- The smallest key signs no octets at all. The second number has a zero for its first digit. -/
theorem sign_is_canonical_smallest_key :
    let text := "77c8d336572f6f466055b5f70f433851f8f535f6c4fc71133a6cfd71079d03b7" ++
      "0ed9f5eb8aa5b266abac35d416c3207e7a538bf5f37649727d7a9823b1069577"
    (Signer.ofKey ⟨1, by decide, by decide⟩).sign [] = .ok text ∧
    ∃ r s, Spells text r s ∧ (∀ c ∈ text.toList, c ∈ digits) ∧
      (1 ≤ r ∧ r < order) ∧ (1 ≤ s ∧ s ≤ (order - 1) / 2) ∧
      (∀ (data : Bytes) (publicKey : String), (∃ point, readKey publicKey = .ok point) →
        ∃ verdict, check text data publicKey = .ok verdict) ∧
      ∀ counterpart, Spells counterpart r (order - s) → ∀ (data : Bytes) (publicKey : String),
        check counterpart data publicKey = (readKey publicKey).map fun _ => false := by
  have hhex : hex ⟨0x77c8d336572f6f466055b5f70f433851f8f535f6c4fc71133a6cfd71079d03b7,
      0x0ed9f5eb8aa5b266abac35d416c3207e7a538bf5f37649727d7a9823b1069577⟩ =
      "77c8d336572f6f466055b5f70f433851f8f535f6c4fc71133a6cfd71079d03b7" ++
        "0ed9f5eb8aa5b266abac35d416c3207e7a538bf5f37649727d7a9823b1069577" := by
    decide +kernel
  have hsign : (Signer.ofKey ⟨1, by decide, by decide⟩).sign [] = .ok _ :=
    Signer.sign_eq_ok_iff.mpr ⟨_, sign?_smallest_key, rfl⟩
  rw [hhex] at hsign
  exact ⟨hsign, sign_is_canonical hsign⟩

end XoLedger.Signature
