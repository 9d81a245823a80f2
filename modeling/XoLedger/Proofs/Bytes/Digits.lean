import Mathlib.Data.List.Basic
import XoLedger.Proofs.Bytes.Hex
import XoLedger.Proofs.Bytes.Numbers

/-!
# Texts of digits

Reading takes digits of either case, and all it takes from them is their number. So a text is read
exactly if it consists of digits in pairs; the octets that come of it are worth what the digits are
worth, and written again they are the same digits in lowercase (`decodeBytes_eq_ok_iff`).
-/

namespace XoLedger.Hex

/-! ### Digits and their values -/

/-- The digits as they are written. -/
def digits : List Char :=
  ['0', '1', '2', '3', '4', '5', '6', '7', '8', '9', 'a', 'b', 'c', 'd', 'e', 'f']

/-- Whether a character is a digit, in either case. -/
def IsDigit (c : Char) : Prop :=
  c.toLower ∈ digits

instance (c : Char) : Decidable (IsDigit c) :=
  inferInstanceAs (Decidable (_ ∈ _))

/-- The value of a digit: its place among the digits. -/
def digitValue (c : Char) : Nat :=
  digits.idxOf c.toLower

/-- The number that digits stand for, the first being worth most. -/
def valueOf (cs : List Char) : Nat :=
  cs.foldl (fun n c => 16 * n + digitValue c) 0

/-- There are no digits beyond ASCII. -/
lemma IsDigit.toNat_lt {c : Char} (h : IsDigit c) : c.toNat < 128 := by
  have hall : ∀ d ∈ digits, d.toNat < 128 := List.forall_iff_forall_mem.mp (by decide)
  by_contra hge
  have hsame : c.toLower = c := by
    refine dif_neg fun hupper => hge ?_
    have : c.toNat ≤ 90 := hupper.2
    omega
  exact hge (hall c (hsame ▸ h))

/-- What the reader takes the codes of ASCII for. -/
lemma value?_ofNat : ∀ n < 128, value? n =
    if IsDigit (Char.ofNat n) then some (digitValue (Char.ofNat n)) else none := by
  decide +kernel

/-- The reader knows a digit by its code. -/
lemma value?_of_isDigit {c : Char} (h : IsDigit c) : value? c.toNat = some (digitValue c) := by
  rw [value?_ofNat _ h.toNat_lt, Char.ofNat_toNat, if_pos h]

/-- The reader takes nothing else for a digit. -/
lemma isDigit_of_value? {c : Char} (h : (value? c.toNat).isSome) : IsDigit c := by
  by_cases hlt : c.toNat < 128
  · rw [value?_ofNat _ hlt, Char.ofNat_toNat] at h
    by_contra hdigit
    rw [if_neg hdigit] at h
    exact absurd h (by decide)
  · rw [value?, if_neg (by omega), if_neg (by omega), if_neg (by omega)] at h
    exact absurd h (by decide)

/-! ### Digits that are written -/

lemma digit_mem : ∀ n < 16, digit n ∈ digits := by
  decide

lemma digitValue_digit : ∀ n < 16, digitValue (digit n) = n := by
  decide

lemma toLower_of_mem : ∀ c ∈ digits, c.toLower = c :=
  List.forall_iff_forall_mem.mp (by decide)

lemma digitValue_lt {c : Char} (h : IsDigit c) : digitValue c < 16 :=
  List.idxOf_lt_length_of_mem h

/-- A digit is written for its value in lowercase. -/
lemma digit_digitValue {c : Char} (h : IsDigit c) : digit (digitValue c) = c.toLower := by
  have hall : ∀ d ∈ digits, digit (digits.idxOf d) = d :=
    List.forall_iff_forall_mem.mp (by decide)
  exact hall c.toLower h

/-- What is written for a number has its value, in either case. -/
lemma digitValue_of_toLower {c : Char} {n : Nat} (hn : n < 16) (h : c.toLower = digit n) :
    digitValue c = n := by
  rw [← digitValue_digit n hn, digitValue, h, digitValue, toLower_of_mem _ (digit_mem n hn)]

/-- The digits of octets are in lowercase. -/
lemma mem_digits_of_mem_encodeChars {b : Bytes} {c : Char} (h : c ∈ encodeChars b) :
    c ∈ digits := by
  obtain ⟨x, -, hc⟩ := List.mem_flatMap.mp h
  have hlt : x.toNat < 256 := x.toNat_lt
  rcases List.mem_pair.mp hc with rfl | rfl
  · exact digit_mem _ (by omega)
  · exact digit_mem _ (by omega)

/-- Lowercase digits are digits. -/
lemma isDigit_of_mem {c : Char} (h : c ∈ digits) : IsDigit c := by
  rwa [IsDigit, toLower_of_mem c h]

/-- The digits of octets are worth what the octets are worth. -/
lemma valueOf_encodeChars (b : Bytes) : valueOf (encodeChars b) = b.toNat := by
  rw [valueOf, Bytes.toNat]
  generalize 0 = start
  induction b generalizing start with
  | nil => rfl
  | cons x rest ih =>
    have hlt : x.toNat < 256 := x.toNat_lt
    have hpair : 16 * (16 * start + digitValue (digit (x.toNat / 16))) +
        digitValue (digit (x.toNat % 16)) = 256 * start + x.toNat := by
      rw [digitValue_digit _ (by omega), digitValue_digit _ (by omega)]
      omega
    rw [encodeChars, List.flatMap_cons, List.foldl_append, ← encodeChars, List.foldl_cons, ← ih]
    simp only [pair, List.foldl_cons, List.foldl_nil, hpair]

/-- The case of digits does not change what they are worth. -/
lemma valueOf_map_toLower {cs : List Char} (h : ∀ c ∈ cs, IsDigit c) :
    valueOf (cs.map Char.toLower) = valueOf cs := by
  rw [valueOf, List.foldl_map, valueOf]
  refine List.foldl_ext _ _ 0 fun n c hc => ?_
  rw [digitValue, digitValue, toLower_of_mem _ (h c hc)]

/-! ### Reading -/

/-- What is read consists of octets that have a value. -/
lemma isSome_of_decodeFrom {index : Nat} {b out : Bytes} (heven : b.length % 2 = 0)
    (h : decodeFrom index b = .ok out) : ∀ x ∈ b, (value? x.toNat).isSome := by
  induction index, b using decodeFrom.induct generalizing out with
  | case1 index high low rest highValue lowValue hlow hhigh ih =>
    simp only [decodeFrom, hhigh, hlow, Except.map_eq_ok_iff] at h
    obtain ⟨tail, htail, -⟩ := h
    rw [List.length_cons, List.length_cons] at heven
    intro x hx
    rcases List.mem_cons.mp hx with rfl | hx
    · rw [hhigh, Option.isSome_some]
    rcases List.mem_cons.mp hx with rfl | hx
    · rw [hlow, Option.isSome_some]
    · exact ih (by omega) htail x hx
  | case2 index high low rest hhigh =>
    simp [decodeFrom, hhigh] at h
  | case3 index high low rest highValue hlow hhigh =>
    simp [decodeFrom, hhigh, hlow] at h
  | case4 b index hshort =>
    rcases b with _ | ⟨high, _ | ⟨low, rest⟩⟩
    · exact fun x hx => absurd hx List.not_mem_nil
    · exact absurd heven (by simp)
    · exact absurd rfl (hshort high low rest)

/-- The octets of digits. -/
lemma encodeChars_of_isDigit {cs : List Char} (h : ∀ c ∈ cs, IsDigit c) :
    Utf8.encodeChars cs = cs.map fun c => UInt8.ofNat c.toNat := by
  rw [Utf8.encodeChars, ← List.flatMap_pure_eq_map]
  refine List.flatMap_congr fun c hc => ?_
  rw [Utf8.encodeChar, if_pos (h c hc).toNat_lt]
  rfl

/-- Digits are cut off the front of a text where as many octets are. -/
lemma encodeChars_take_digits {cs : List Char} (h : ∀ c ∈ cs, IsDigit c) (n : Nat) :
    Utf8.encodeChars (cs.take n) = (Utf8.encodeChars cs).take n := by
  rw [encodeChars_of_isDigit h, encodeChars_of_isDigit fun c hc => h c (List.mem_of_mem_take hc),
    List.map_take]

/-- A text whose octets all have a value consists of digits. -/
lemma forall_isDigit {cs : List Char}
    (h : ∀ x ∈ Utf8.encodeChars cs, (value? x.toNat).isSome) : ∀ c ∈ cs, IsDigit c := by
  intro c hc
  have hall : ∀ x ∈ Utf8.encodeChar c, (value? x.toNat).isSome :=
    fun x hx => h x (List.mem_flatMap.mpr ⟨c, hc, hx⟩)
  by_cases hlt : c.toNat < 128
  · rw [Utf8.encodeChar, if_pos hlt] at hall
    have hoctet := hall _ List.mem_cons_self
    rw [Utf8.toNat_ofNat_octet (by omega)] at hoctet
    exact isDigit_of_value? hoctet
  · -- the octets of a character beyond ASCII have no value
    obtain ⟨x, hx⟩ := List.exists_mem_of_ne_nil _ (Utf8.encodeChar_ne_nil c)
    have hwide := Utf8.le_of_mem_encodeChar (not_lt.mp hlt) hx
    have hsome := hall x hx
    rw [value?, if_neg (by omega), if_neg (by omega), if_neg (by omega)] at hsome
    exact absurd hsome (by decide)

/-- Digits in pairs are, in lowercase, the digits of some octets. -/
lemma exists_encodeChars_eq : ∀ {cs : List Char}, cs.length % 2 = 0 → (∀ c ∈ cs, IsDigit c) →
    ∃ b, encodeChars b = cs.map Char.toLower
  | [], _, _ => ⟨[], rfl⟩
  | [_], heven, _ => absurd heven (by simp)
  | high :: low :: rest, heven, h => by
    rw [List.length_cons, List.length_cons] at heven
    have hrest : rest.length % 2 = 0 := by omega
    obtain ⟨b, hb⟩ := exists_encodeChars_eq hrest
      fun c hc => h c (List.mem_cons_of_mem _ (List.mem_cons_of_mem _ hc))
    have hhigh := h high List.mem_cons_self
    have hlow := h low (List.mem_cons_of_mem _ List.mem_cons_self)
    have hhigh' := digitValue_lt hhigh
    have hlow' := digitValue_lt hlow
    refine ⟨UInt8.ofNat (16 * digitValue high + digitValue low) :: b, ?_⟩
    rw [encodeChars, List.flatMap_cons, ← encodeChars, hb, pair, Utf8.toNat_ofNat_octet (by omega),
      Nat.mul_add_div (by omega), Nat.div_eq_of_lt hlow', Nat.add_zero, Nat.mul_add_mod,
      Nat.mod_eq_of_lt hlow', digit_digitValue hhigh, digit_digitValue hlow]
    rfl

/-- Digits are read, in either case, as the octets whose digits they are in lowercase. -/
lemma decodeFrom_of_toLower (index : Nat) {b : Bytes} {cs : List Char}
    (hdigit : ∀ c ∈ cs, IsDigit c) (h : encodeChars b = cs.map Char.toLower) :
    decodeFrom index (Utf8.encodeChars cs) = .ok b := by
  rw [encodeChars_of_isDigit hdigit]
  induction b generalizing index cs with
  | nil =>
    rw [List.map_eq_nil_iff.mp h.symm]
    rfl
  | cons x rest ih =>
    have hlt : x.toNat < 256 := x.toNat_lt
    rw [encodeChars, List.flatMap_cons, ← encodeChars] at h
    obtain ⟨high, cs', rfl, hhigh, h⟩ := List.map_eq_cons_iff.mp h.symm
    obtain ⟨low, tail, rfl, hlow, h⟩ := List.map_eq_cons_iff.mp h
    have hdigitHigh := hdigit high List.mem_cons_self
    have hdigitLow := hdigit low (List.mem_cons_of_mem _ List.mem_cons_self)
    have hoctet : ∀ {c : Char}, IsDigit c → (UInt8.ofNat c.toNat).toNat = c.toNat :=
      fun hc => Utf8.toNat_ofNat_octet (by have := hc.toNat_lt; omega)
    rw [List.map_cons, List.map_cons, decodeFrom, hoctet hdigitHigh, hoctet hdigitLow,
      value?_of_isDigit hdigitHigh, value?_of_isDigit hdigitLow,
      digitValue_of_toLower (by omega) hhigh, digitValue_of_toLower (by omega) hlow]
    simp only
    rw [ih (index + 2) (fun c hc => hdigit c (List.mem_cons_of_mem _ (List.mem_cons_of_mem _ hc)))
      h.symm, Except.ok_map, Nat.div_add_mod, UInt8.ofNat_toNat]

/-- **What is read, and as what.** A text is read as octets exactly if it consists of digits and,
in lowercase, is what is written for the octets. -/
theorem decodeBytes_eq_ok_iff {cs : List Char} {b : Bytes} :
    decodeBytes (Utf8.encodeChars cs) = .ok b ↔
      (∀ c ∈ cs, IsDigit c) ∧ encodeChars b = cs.map Char.toLower := by
  have hlength : (∀ c ∈ cs, IsDigit c) → (Utf8.encodeChars cs).length = cs.length := by
    intro hdigit
    rw [encodeChars_of_isDigit hdigit, List.length_map]
  constructor
  · intro h
    rw [decodeBytes] at h
    by_cases hodd : (Utf8.encodeChars cs).length % 2 = 1
    · rw [if_pos hodd] at h
      exact absurd h (by simp)
    rw [if_neg hodd] at h
    have hdigit := forall_isDigit (isSome_of_decodeFrom (by omega) h)
    rw [hlength hdigit] at hodd
    obtain ⟨b', hb'⟩ := exists_encodeChars_eq (by omega) hdigit
    rw [decodeFrom_of_toLower 0 hdigit hb', Except.ok.injEq] at h
    exact ⟨hdigit, h ▸ hb'⟩
  · rintro ⟨hdigit, h⟩
    have heven : cs.length = 2 * b.length := by
      rw [← List.length_map Char.toLower, ← h, length_encodeChars]
    rw [decodeBytes, if_neg (by rw [hlength hdigit]; omega), decodeFrom_of_toLower 0 hdigit h]

/-- Texts of digits in pairs are read, and no others. -/
lemma exists_decodeBytes_iff {cs : List Char} :
    (∃ b, decodeBytes (Utf8.encodeChars cs) = .ok b) ↔
      cs.length % 2 = 0 ∧ ∀ c ∈ cs, IsDigit c := by
  constructor
  · rintro ⟨b, h⟩
    obtain ⟨hdigit, hlower⟩ := decodeBytes_eq_ok_iff.mp h
    have hlength := congrArg List.length hlower
    rw [length_encodeChars, List.length_map] at hlength
    exact ⟨by omega, hdigit⟩
  · rintro ⟨heven, hdigit⟩
    obtain ⟨b, hb⟩ := exists_encodeChars_eq heven hdigit
    exact ⟨b, decodeBytes_eq_ok_iff.mpr ⟨hdigit, hb⟩⟩

/-- Digits are, in lowercase, the digits of their number. -/
lemma encodeChars_ofNat_valueOf {cs : List Char} {n : Nat} (hlength : cs.length = 2 * n)
    (hdigit : ∀ c ∈ cs, IsDigit c) :
    encodeChars (Bytes.ofNat n (valueOf cs)) = cs.map Char.toLower := by
  obtain ⟨b, hb⟩ := exists_encodeChars_eq (by omega) hdigit
  have hn : n = b.length := by
    have heq := congrArg List.length hb
    rw [length_encodeChars, List.length_map] at heq
    omega
  have hvalue : valueOf cs = b.toNat := by
    rw [← valueOf_map_toLower hdigit, ← hb, valueOf_encodeChars]
  rw [hn, hvalue, Bytes.ofNat_toNat, hb]

end XoLedger.Hex
