import Mathlib.Tactic.Lemma
import XoLedger.Proofs.Outcome
import XoLedger.Text.Numeral

/-!
# Which texts are numerals

Digits are read as long as the number that they stand for fits, and once it does not, no further
digit makes it fit again. So a text is read exactly if it is a numeral of a number that fits, with
or without a plus sign in front of it (`readUInt64_eq_ok_iff`). Leading zeros do no harm.
-/

namespace XoLedger.Numeral

/-- A text is a numeral of a number: decimal digits that stand for it, of which there is one at
least, and maybe a plus sign in front of them. -/
def IsNumeral (s : String) (n : Nat) : Prop :=
  ∃ digits : List Char, digits ≠ [] ∧ (∀ c ∈ digits, c.isDigit = true) ∧
    Nat.ofDigitChars 10 digits 0 = n ∧ (s.toList = digits ∨ s.toList = '+' :: digits)

/-- More digits do not make a number smaller. -/
lemma le_ofDigitChars (n : Nat) (cs : List Char) : n ≤ Nat.ofDigitChars 10 cs n := by
  induction cs generalizing n with
  | nil => exact Nat.le_refl n
  | cons c cs ih =>
    rw [Nat.ofDigitChars_cons]
    have hmore := ih (10 * n + (c.toNat - '0'.toNat))
    omega

lemma digit?_of_isDigit {c : Char} (h : c.isDigit = true) :
    digit? c = some (c.toNat - '0'.toNat) := by
  obtain ⟨hlow, hhigh⟩ := Char.isDigit_iff_toNat.mp h
  exact if_pos ⟨hlow, hhigh⟩

lemma digit?_of_not_isDigit {c : Char} (h : ¬ c.isDigit = true) : digit? c = none := by
  refine if_neg ?_
  rintro ⟨hlow, hhigh⟩
  exact h (Char.isDigit_iff_toNat.mpr ⟨hlow, hhigh⟩)

variable {bound n m : Nat}

/-- Digits are read exactly if they are digits, and the number fits. -/
lemma readDigits_eq_ok_iff (hn : n < bound) (cs : List Char) :
    readDigits bound n cs = .ok m ↔
      (∀ c ∈ cs, c.isDigit = true) ∧ Nat.ofDigitChars 10 cs n = m ∧ m < bound := by
  induction cs generalizing n with
  | nil =>
    constructor
    · intro h
      obtain rfl := Except.ok.inj h
      exact ⟨List.forall_mem_nil _, rfl, hn⟩
    · rintro ⟨-, rfl, -⟩
      rfl
  | cons c cs ih =>
    rw [readDigits, Nat.ofDigitChars_cons, List.forall_mem_cons]
    by_cases hdigit : c.isDigit = true
    · rw [digit?_of_isDigit hdigit]
      by_cases hfits : 10 * n + (c.toNat - '0'.toNat) < bound
      · simp only [if_pos hfits, ih hfits, hdigit, true_and]
      · refine iff_of_false (by simp only [if_neg hfits, reduceCtorEq, not_false_eq_true]) ?_
        rintro ⟨-, rfl, hbound⟩
        exact hfits (Nat.lt_of_le_of_lt (le_ofDigitChars _ cs) hbound)
    · rw [digit?_of_not_isDigit hdigit]
      exact iff_of_false (by simp) fun h => hdigit h.1.1

/-- There has to be a digit, with or without a plus sign. -/
lemma readChars_eq_ok_iff (hbound : 0 < bound) (cs : List Char) :
    readChars bound cs = .ok m ↔ ∃ digits, digits ≠ [] ∧
      readDigits bound 0 digits = .ok m ∧ (cs = digits ∨ cs = '+' :: digits) := by
  have hplus : ∀ rest, readDigits bound 0 ('+' :: rest) ≠ .ok m := by
    intro rest h
    have hdigits := ((readDigits_eq_ok_iff hbound _).mp h).1 '+' List.mem_cons_self
    exact absurd hdigits (by decide)
  unfold readChars
  split
  · refine iff_of_false (by simp) ?_
    rintro ⟨digits, hne, -, hdigits | hdigits⟩
    · exact hne hdigits.symm
    · cases hdigits
  · refine iff_of_false (by simp) ?_
    rintro ⟨digits, hne, hread, rfl | hdigits⟩
    · exact hplus [] hread
    · exact hne (List.cons.inj hdigits).2.symm
  · next rest hrest =>
    constructor
    · intro hread
      exact ⟨rest, hrest, hread, .inr rfl⟩
    · rintro ⟨digits, -, hread, rfl | hdigits⟩
      · exact absurd hread (hplus rest)
      · rw [(List.cons.inj hdigits).2]
        exact hread
  · next hnil hsign hplain =>
    constructor
    · intro hread
      exact ⟨cs, hnil, hread, .inl rfl⟩
    · rintro ⟨digits, -, hread, rfl | hdigits⟩
      · exact hread
      · exact absurd hdigits (hplain digits)

/-- **A number is read exactly from its numerals.** Every number of 64 bits is read from each of
its numerals, and from no other text. -/
theorem readUInt64_eq_ok_iff (s : String) (n : UInt64) :
    readUInt64 s = .ok n ↔ IsNumeral s n.toNat := by
  have hsize : 0 < UInt64.size := by decide
  rw [readUInt64, Except.map_eq_ok_iff]
  constructor
  · rintro ⟨m, hread, rfl⟩
    obtain ⟨digits, hne, hdigits, htext⟩ := (readChars_eq_ok_iff hsize _).mp hread
    obtain ⟨hall, hvalue, hbound⟩ := (readDigits_eq_ok_iff hsize _).mp hdigits
    refine ⟨digits, hne, hall, ?_, htext⟩
    rw [hvalue, UInt64.toNat_ofNat_of_lt' hbound]
  · rintro ⟨digits, hne, hall, hvalue, htext⟩
    have hdigits := (readDigits_eq_ok_iff hsize digits).mpr ⟨hall, hvalue, n.toNat_lt⟩
    exact ⟨_, (readChars_eq_ok_iff hsize _).mpr ⟨digits, hne, hdigits, htext⟩, UInt64.ofNat_toNat⟩

end XoLedger.Numeral
