import Mathlib.Tactic.Lemma
import XoLedger.Proofs.Text.Utf8
import XoLedger.Url.Percent

/-!
# What percent encoding leaves behind

Encoded text holds percent signs, digits and what is not encoded, nothing else. So what is encoded
in a part of a URL does not stand in that part, and encoding it once more changes nothing. Decoding
has no effect where there is no percent sign.
-/

namespace XoLedger.Url.Percent

variable {encoded : UInt8 → Bool} {cs : List Char} {c : Char}

lemma encode_append (encoded : UInt8 → Bool) (cs ds : List Char) :
    encode encoded (cs ++ ds) = encode encoded cs ++ encode encoded ds :=
  List.flatMap_append

/-- Digits of octets are decimal digits or capital letters. -/
lemma upperDigit_mem : ∀ n < 16, upperDigit n ∈ "0123456789ABCDEF".toList := by
  decide

/-- What an encoded text consists of: percent signs, digits, and what it is the text of, but for
what is encoded. -/
lemma mem_encode (h : c ∈ encode encoded cs) : c ∈ "%0123456789ABCDEF".toList ∨
    c ∈ cs ∧ c.toNat < 128 ∧ encoded (UInt8.ofNat c.toNat) = false := by
  obtain ⟨d, hmem, hd⟩ := List.mem_flatMap.mp h
  obtain ⟨b, hoctet, hb⟩ := List.mem_flatMap.mp hd
  have hlt : b.toNat < 256 := b.toNat_lt
  split at hb
  · simp only [octet, List.mem_cons, List.not_mem_nil, or_false] at hb
    left
    rcases hb with rfl | rfl | rfl
    · decide
    · exact List.mem_cons_of_mem '%' (upperDigit_mem _ (by omega))
    · exact List.mem_cons_of_mem '%' (upperDigit_mem _ (by omega))
  · rename_i hplain
    rw [Bool.or_eq_true, not_or, decide_eq_true_eq, Bool.not_eq_true,
      UInt8.le_iff_toNat_le] at hplain
    have hascii : b.toNat < 128 := Nat.lt_of_not_le hplain.1
    have htoNat : c.toNat = b.toNat := by
      rw [List.mem_singleton.mp hb]
      exact Utf8.toNat_ofNat_scalar (.inl (by omega))
    have hcs : c ∈ cs := by
      refine Utf8.mem_of_mem_encodeChars (by omega) (List.mem_flatMap.mpr ⟨d, hmem, ?_⟩)
      rwa [htoNat, UInt8.ofNat_toNat]
    refine .inr ⟨hcs, by omega, ?_⟩
    rw [htoNat, UInt8.ofNat_toNat]
    exact hplain.2

/-! ### Texts without anything to encode -/

/-- Whether nothing in a text has to be encoded. -/
def IsFree (encoded : UInt8 → Bool) (cs : List Char) : Prop :=
  ∀ c ∈ cs, c.toNat < 128 ∧ encoded (UInt8.ofNat c.toNat) = false

lemma IsFree.append {ds : List Char} (h : IsFree encoded cs) (h' : IsFree encoded ds) :
    IsFree encoded (cs ++ ds) :=
  List.forall_mem_append.mpr ⟨h, h'⟩

/-- What holds of all ASCII characters that are not encoded holds in such a text. -/
lemma IsFree.forall_mem {P : Char → Prop} (h : IsFree encoded cs)
    (hP : ∀ n < 128, encoded (UInt8.ofNat n) = false → P (Char.ofNat n)) : ∀ c ∈ cs, P c := by
  intro c hc
  obtain ⟨hlt, hfree⟩ := h c hc
  rw [← Char.ofNat_toNat c]
  exact hP c.toNat hlt hfree

/-- What is encoded does not stand in such a text. -/
lemma IsFree.notMem (h : IsFree encoded cs) (hc : encoded (UInt8.ofNat c.toNat) = true) :
    c ∉ cs := by
  intro hmem
  have := (h c hmem).2
  rw [hc] at this
  cases this

/-- Such a text stays as it is. -/
lemma IsFree.encode_eq (h : IsFree encoded cs) : encode encoded cs = cs := by
  induction cs with
  | nil => rfl
  | cons c cs ih =>
    obtain ⟨⟨hlt, hfree⟩, hrest⟩ := List.forall_mem_cons.mp h
    have htoNat : (UInt8.ofNat c.toNat).toNat = c.toNat := Utf8.toNat_ofNat_octet (by omega)
    have hlow : ¬ (128 : UInt8) ≤ UInt8.ofNat c.toNat := by
      rw [UInt8.le_iff_toNat_le, htoNat]
      exact Nat.not_le.mpr hlt
    have hself : encodeChar encoded c = [c] := by
      rw [encodeChar, Utf8.encodeChar, if_pos (by omega)]
      simp [hlow, hfree, htoNat]
    rw [encode, List.flatMap_cons, hself, ← encode, ih hrest]
    rfl

/-- Encoding leaves nothing to encode, unless percent signs or digits are encoded. -/
lemma isFree_encode
    (h : ∀ c ∈ "%0123456789ABCDEF".toList, encoded (UInt8.ofNat c.toNat) = false)
    (cs : List Char) : IsFree encoded (encode encoded cs) := by
  have hascii : ∀ c ∈ "%0123456789ABCDEF".toList, c.toNat < 128 := by simp
  intro c hc
  rcases mem_encode hc with hmem | ⟨-, hfree⟩
  · exact ⟨hascii c hmem, h c hmem⟩
  · exact hfree

/-! ### Decoding -/

/-- Without percent signs there is nothing to decode. -/
lemma decode_eq_self {bs : Bytes} (h : 37 ∉ bs) : decode bs = bs := by
  induction bs with
  | nil => rfl
  | cons b bs ih =>
    rw [List.mem_cons, not_or] at h
    rw [decode.eq_def]
    dsimp only
    rw [if_neg (Ne.symm h.1), ih h.2]

/-- Texts without percent signs have no octets for them. -/
lemma decode_encodeChars (h : '%' ∉ cs) : decode (Utf8.encodeChars cs) = Utf8.encodeChars cs :=
  decode_eq_self fun hmem => h (Utf8.mem_of_mem_encodeChars (c := '%') (by decide) hmem)

end XoLedger.Url.Percent
