import Mathlib.Data.List.Basic
import Mathlib.Tactic.SplitIfs
import XoLedger.Proofs.Json.Text

/-!
# Numbers in JSON

A whole number is written in decimal. Its digits end where the text goes on with a comma or a
closing bracket, none of them is a leading zero, and they stand for the number as long as it fits
into 64 bits (`scanNumber_natural`, `value?_natural` and their counterparts for negative numbers).
-/

namespace XoLedger.Json

/-! ### Digits -/

/-- The digits of a number, the first being worth most. -/
def digits (n : Nat) : List Nat :=
  (Nat.toDigits 10 n).map fun c => c.toNat - 48

lemma digits_ne_nil (n : Nat) : digits n ≠ [] := by
  rw [digits, ne_eq, List.map_eq_nil_iff]
  exact Nat.toDigits_ne_nil

lemma digits_of_le {n : Nat} (h : 10 ≤ n) : ∃ d, digits n = digits (n / 10) ++ [d] := by
  rw [digits, Nat.toDigits_of_base_le (by decide) h, List.map_append]
  exact ⟨_, rfl⟩

/-- The first digit is a zero for zero alone. -/
lemma eq_zero_of_head?_digits (n : Nat) (h : (digits n).head? = some 0) : n = 0 := by
  induction n using Nat.strongRecOn with
  | ind n ih =>
    by_cases hn : n < 10
    · have hall : ∀ n < 10, (digits n).head? = some n := by decide
      rw [hall n hn] at h
      exact Option.some.inj h
    · obtain ⟨d, hd⟩ := digits_of_le (Nat.not_lt.mp hn)
      rw [hd, List.head?_append_of_ne_nil _ (digits_ne_nil _)] at h
      have := ih (n / 10) (by omega) h
      omega

lemma ofDigits_digits (n : Nat) : Numeral.ofDigits (digits n) = n := by
  rw [Numeral.ofDigits, digits, List.foldl_map]
  exact Nat.ofDigitChars_ten_toDigits

/-! ### Where digits end -/

/-- Whether octets go on with a comma or a closing bracket, if they go on at all. -/
def IsEdge (rest : Bytes) : Prop :=
  ∀ b ∈ rest.head?, b ∈ [(44 : UInt8), 93, 125]

namespace IsEdge

lemma nil : IsEdge [] :=
  fun _ h => absurd h (by simp)

lemma cons {b : UInt8} (h : b ∈ [(44 : UInt8), 93, 125]) (rest : Bytes) : IsEdge (b :: rest) := by
  intro b' hb'
  rw [List.head?_cons, Option.mem_some_iff] at hb'
  exact hb' ▸ h

variable {rest : Bytes}

lemma takeDigits (h : IsEdge rest) : Json.takeDigits rest = ([], rest) := by
  cases rest with
  | nil => rfl
  | cons b rest =>
    have hall : ∀ b ∈ [(44 : UInt8), 93, 125], decimalDigit? b = none :=
      List.forall_iff_forall_mem.mp (by decide)
    rw [Json.takeDigits, hall b (h b rfl)]

/-- Neither a point nor the letter of an exponent follows. -/
lemma takeOctet (h : IsEdge rest) {octets : List UInt8}
    (hoctets : octets.Forall fun b => b ∉ [(44 : UInt8), 93, 125]) :
    Json.takeOctet octets rest = none := by
  cases rest with
  | nil => rfl
  | cons b rest =>
    rw [Json.takeOctet, if_neg]
    rw [List.contains_iff_mem]
    exact fun hmem => List.forall_iff_forall_mem.mp hoctets b hmem (h b rfl)

end IsEdge

/-! ### Reading digits -/

/-- A digit is one octet. -/
lemma encodeChar_of_isDigit {c : Char} (h : c.isDigit = true) :
    ∃ b : UInt8, Utf8.encodeChar c = [b] ∧ (48 ≤ b ∧ b ≤ 57) ∧
      decimalDigit? b = some (c.toNat - 48) := by
  have hbounds : 48 ≤ c.toNat ∧ c.toNat ≤ 57 := by
    simpa [Char.isDigit, UInt32.le_iff_toNat_le] using h
  have hoctet : (UInt8.ofNat c.toNat).toNat = c.toNat := Utf8.toNat_ofNat_octet (by omega)
  have hdigit : 48 ≤ UInt8.ofNat c.toNat ∧ UInt8.ofNat c.toNat ≤ 57 := by
    rw [UInt8.le_iff_toNat_le, UInt8.le_iff_toNat_le, hoctet]
    exact hbounds
  refine ⟨UInt8.ofNat c.toNat, ?_, hdigit, ?_⟩
  · rw [Utf8.encodeChar, if_pos (by omega)]
  · rw [decimalDigit?, if_pos hdigit, hoctet]

lemma takeDigits_append {cs : List Char} (hdigit : ∀ c ∈ cs, c.isDigit = true) {rest : Bytes}
    (hrest : IsEdge rest) : takeDigits (Utf8.encodeChars cs ++ rest) =
      (cs.map fun c => c.toNat - 48, rest) := by
  induction cs with
  | nil => exact hrest.takeDigits
  | cons c cs ih =>
    obtain ⟨b, hoctet, -, hvalue⟩ := encodeChar_of_isDigit (hdigit c List.mem_cons_self)
    rw [Utf8.encodeChars_cons, hoctet, List.singleton_append, List.cons_append, takeDigits, hvalue,
      ih fun c hc => hdigit c (List.mem_cons_of_mem _ hc)]
    rfl

/-- The octets of a whole number. -/
def writtenNat (n : Nat) : Bytes :=
  Utf8.encodeChars (Nat.toDigits 10 n)

lemma takeDigits_writtenNat (n : Nat) {rest : Bytes} (hrest : IsEdge rest) :
    takeDigits (writtenNat n ++ rest) = (digits n, rest) :=
  takeDigits_append (fun _ => Nat.isDigit_of_mem_toDigits (by decide) (by decide)) hrest

/-- A whole number begins with a digit. -/
lemma exists_writtenNat (n : Nat) : ∃ b tail, writtenNat n = b :: tail ∧ 48 ≤ b ∧ b ≤ 57 := by
  obtain ⟨c, cs, hcs⟩ := List.exists_cons_of_ne_nil (Nat.toDigits_ne_nil (n := n) (b := 10))
  have hdigit : c.isDigit = true := Nat.isDigit_of_mem_toDigits (b := 10) (n := n) (by decide)
    (by decide) (hcs ▸ List.mem_cons_self)
  obtain ⟨b, hoctet, hbounds, -⟩ := encodeChar_of_isDigit hdigit
  refine ⟨b, Utf8.encodeChars cs, ?_, hbounds⟩
  rw [writtenNat, hcs, Utf8.encodeChars_cons, hoctet, List.singleton_append]

/-- The digits of a whole number are taken as they are. -/
lemma scanNumber_digits (n : Nat) {rest : Bytes} (hrest : IsEdge rest) {b : Bytes}
    (hb : (takeOctet [45] b).getD b = writtenNat n ++ rest) :
    scanNumber b = some (⟨(takeOctet [45] b).isSome, digits n, none, none⟩, rest) := by
  have hlead : ¬ (digits n = [] ∨ (digits n).head? = some 0 ∧ (digits n).length ≠ 1) := by
    rintro (hnil | ⟨hzero, hlength⟩)
    · exact digits_ne_nil n hnil
    · rw [eq_zero_of_head?_digits n hzero] at hlength
      exact hlength rfl
  rw [scanNumber, hb, takeDigits_writtenNat n hrest]
  dsimp only
  rw [if_neg hlead, hrest.takeOctet (by decide)]
  dsimp only [bind, Option.bind, pure]
  rw [hrest.takeOctet (by decide)]

theorem scanNumber_natural (n : Nat) {rest : Bytes} (hrest : IsEdge rest) :
    scanNumber (writtenNat n ++ rest) = some (⟨false, digits n, none, none⟩, rest) := by
  obtain ⟨b, tail, hwritten, hlow, hhigh⟩ := exists_writtenNat n
  have hsign : takeOctet [45] (writtenNat n ++ rest) = none := by
    rw [hwritten, List.cons_append, takeOctet, if_neg]
    rw [List.contains_iff_mem, List.mem_singleton]
    rintro rfl
    exact absurd hlow (by decide)
  have hscan := scanNumber_digits n hrest (b := writtenNat n ++ rest)
    (by rw [hsign, Option.getD_none])
  rwa [hsign] at hscan

theorem scanNumber_negative (n : Nat) {rest : Bytes} (hrest : IsEdge rest) :
    scanNumber (45 :: (writtenNat n ++ rest)) = some (⟨true, digits n, none, none⟩, rest) :=
  scanNumber_digits n hrest rfl

/-! ### What digits stand for -/

namespace Numeral

/-- More digits never make a number smaller. -/
lemma le_foldl (n : Nat) (ds : List Nat) : n ≤ ds.foldl (fun n d => 10 * n + d) n := by
  induction ds generalizing n with
  | nil => exact Nat.le_refl n
  | cons d ds ih =>
    have := ih (10 * n + d)
    rw [List.foldl_cons]
    omega

/-- Digits of a number that fits are all taken. -/
lemma takeSignificant_eq {n taken : Nat} {ds : List Nat}
    (h : ds.foldl (fun n d => 10 * n + d) n < UInt64.size) :
    takeSignificant n taken ds = (ds.foldl (fun n d => 10 * n + d) n, taken + ds.length, []) := by
  induction ds generalizing n taken with
  | nil => rfl
  | cons d ds ih =>
    rw [List.foldl_cons] at h ⊢
    have hle := le_foldl (10 * n + d) ds
    rw [takeSignificant, if_pos (by omega), ih h, List.length_cons, Nat.add_right_comm,
      Nat.add_assoc]

lemma takeSignificant_digits {n : Nat} (h : n < UInt64.size) :
    takeSignificant 0 0 (digits n) = (n, (digits n).length, []) := by
  have hvalue := ofDigits_digits n
  rw [ofDigits] at hvalue
  rw [takeSignificant_eq (by rwa [hvalue]), hvalue, Nat.zero_add]

theorem value?_natural {n : Nat} (h : n < UInt64.size) :
    value? ⟨false, digits n, none, none⟩ = some (.natural n) := by
  rw [value?, takeSignificant_digits h]
  rfl

theorem value?_negative {n : Nat} (hpos : 0 < n) (h : n ≤ UInt64.size / 2) :
    value? ⟨true, digits n, none, none⟩ = some (.negative n) := by
  have hsize : n < UInt64.size := Nat.lt_of_le_of_lt h (by decide)
  rw [value?, takeSignificant_digits hsize]
  dsimp only
  rw [if_pos ⟨rfl, rfl, rfl⟩, if_neg (by decide), if_neg (by omega)]

end Numeral

/-! ### What is read -/

/-- Whether a number is one that can be read: whole numbers have 64 bits, and zero has no sign. -/
def Number.IsInRange : Number → Prop
  | natural n => n < UInt64.size
  | negative n => 0 < n ∧ n ≤ UInt64.size / 2
  | fraction _ => True

lemma Numeral.takeSignificant_lt {n taken : Nat} {ds : List Nat} (h : n < UInt64.size) :
    (takeSignificant n taken ds).1 < UInt64.size := by
  induction ds generalizing n taken with
  | nil => exact h
  | cons d ds ih =>
    rw [takeSignificant]
    split_ifs with hfits
    · exact ih hfits
    · exact h

/-- What is read is in range. -/
lemma isInRange_of_numberOf {numeral : Numeral} {n : Number} (h : numberOf numeral = .ok n) :
    n.IsInRange := by
  have hsize : (Numeral.takeSignificant 0 0 numeral.whole).1 < UInt64.size :=
    Numeral.takeSignificant_lt (by decide)
  have hvalue : numeral.value? = some n := by
    rw [numberOf] at h
    split at h
    · cases h
    · rename_i hvalue
      rw [hvalue, Except.ok.inj h]
  unfold Numeral.value? at hvalue
  dsimp only at hvalue
  split_ifs at hvalue with hwhole hpositive hzero
  · cases hvalue
    exact hsize
  · cases hvalue
    trivial
  · cases hvalue
    exact ⟨by omega, by omega⟩
  all_goals
    obtain ⟨f, -, rfl⟩ := Option.map_eq_some_iff.mp hvalue
    trivial

end XoLedger.Json
