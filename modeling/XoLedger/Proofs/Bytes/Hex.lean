import Mathlib.Tactic.Lemma
import XoLedger.Bytes.Hex
import XoLedger.Proofs.Outcome
import XoLedger.Proofs.Text.Utf8

/-!
# Octets are read back from their digits

The digits of an octet string are read as that octet string. Digits are one octet each, so the text
of the digits and its octets have the same shape, and the reader goes over it pair by pair.
-/

namespace XoLedger.Hex

/-- The octet of a digit. -/
def digitByte (n : Nat) : UInt8 :=
  UInt8.ofNat (digit n).toNat

/-- A digit is one octet. -/
lemma encodeChar_digit : ∀ n < 16, Utf8.encodeChar (digit n) = [digitByte n] := by
  decide

/-- A digit has the value it is written for. -/
lemma value?_digitByte : ∀ n < 16, value? (digitByte n).toNat = some n := by
  decide

/-- There are two digits to an octet. -/
lemma length_encodeChars (b : Bytes) : (encodeChars b).length = 2 * b.length := by
  rw [encodeChars, List.length_flatMap]
  simp [pair, Nat.mul_comm]

/-- The text of an octet string has two digits to an octet. -/
lemma length_encode (b : Bytes) : (encode b).toList.length = 2 * b.length := by
  rw [encode, String.toList_ofList, length_encodeChars]

/-- The digits of the first octets are the first digits. -/
lemma encodeChars_take (b : Bytes) (n : Nat) :
    encodeChars (b.take n) = (encodeChars b).take (2 * n) := by
  by_cases hn : n ≤ b.length
  · have hlength : (encodeChars (b.take n)).length = 2 * n := by
      rw [length_encodeChars, List.length_take, Nat.min_eq_left hn]
    conv_rhs => rw [← List.take_append_drop n b, encodeChars, List.flatMap_append]
    exact (List.take_left' hlength).symm
  · have hlong : (encodeChars b).length ≤ 2 * n := by
      rw [length_encodeChars]
      omega
    rw [List.take_of_length_le (Nat.le_of_not_le hn), List.take_of_length_le hlong]

/-- The octets of the digits of an octet. -/
lemma encodeChars_pair (b : UInt8) :
    Utf8.encodeChars (pair b) = [digitByte (b.toNat / 16), digitByte (b.toNat % 16)] := by
  have hlt : b.toNat < 256 := b.toNat_lt
  rw [pair, Utf8.encodeChars, List.flatMap_cons, List.flatMap_singleton,
    encodeChar_digit _ (by omega), encodeChar_digit _ (by omega)]
  rfl

/-- The octets of the digits of an octet string, octet by octet. -/
lemma encodeChars_encodeChars_cons (b : UInt8) (rest : Bytes) :
    Utf8.encodeChars (encodeChars (b :: rest)) =
      digitByte (b.toNat / 16) :: digitByte (b.toNat % 16) ::
        Utf8.encodeChars (encodeChars rest) := by
  rw [encodeChars, List.flatMap_cons, ← encodeChars, Utf8.encodeChars, List.flatMap_append,
    ← Utf8.encodeChars, ← Utf8.encodeChars, encodeChars_pair]
  rfl

/-- Digits have two octets to an octet. -/
lemma length_encodeChars_encodeChars (b : Bytes) :
    (Utf8.encodeChars (encodeChars b)).length = 2 * b.length := by
  induction b with
  | nil => rfl
  | cons x rest ih =>
    rw [encodeChars_encodeChars_cons, List.length_cons, List.length_cons, ih, List.length_cons]
    omega

/-- The digits are read pair by pair. The index only serves the error messages. -/
lemma decodeFrom_encodeChars (index : Nat) (b : Bytes) :
    decodeFrom index (Utf8.encodeChars (encodeChars b)) = .ok b := by
  induction b generalizing index with
  | nil => rfl
  | cons x rest ih =>
    have hlt : x.toNat < 256 := x.toNat_lt
    have hhigh := value?_digitByte (x.toNat / 16) (by omega)
    have hlow := value?_digitByte (x.toNat % 16) (by omega)
    rw [encodeChars_encodeChars_cons, decodeFrom]
    simp only [hhigh, hlow]
    rw [ih, Except.ok_map, Nat.div_add_mod, UInt8.ofNat_toNat]

/-- **Reading undoes writing.** -/
theorem decode_encode (b : Bytes) : decode (encode b) = .ok b := by
  have heven : ¬ (Utf8.encodeChars (encodeChars b)).length % 2 = 1 := by
    rw [length_encodeChars_encodeChars]
    omega
  rw [decode, encode, Utf8.encode, String.toList_ofList, decodeBytes, if_neg heven,
    decodeFrom_encodeChars]

/-- Different octets have different digits. -/
theorem encode_injective {b b' : Bytes} (h : encode b = encode b') : b = b' := by
  have hdecode := decode_encode b
  rw [h, decode_encode] at hdecode
  exact (Except.ok.inj hdecode).symm

end XoLedger.Hex
