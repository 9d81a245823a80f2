import Mathlib.Data.List.Prime
import Mathlib.NumberTheory.LucasPrimality
import Mathlib.Tactic.Lemma
import Mathlib.Tactic.NormNum.Prime
import XoLedger.Curve.Point
import XoLedger.Proofs.Curve.Modular

/-!
# The two primes of the curve

The number of elements of the field and the number of points are prime. Both are too large for
trial division, so each has a witness: a number whose powers go through all residues but zero,
which shows in its power to the predecessor of the modulus and in those to the fractions of it by
prime factors. The prime factors have witnesses of their own, down to numbers that can be tried.
-/

namespace XoLedger.Curve

/-! ### Witnesses -/

/-- A number, one of its residues, and the prime factors of its predecessor. -/
structure Witness where
  /-- The number that is to be prime. -/
  number : ℕ
  /-- The residue whose powers are looked at. -/
  root : ℕ
  /-- The prime factors, as often as they occur. -/
  factors : List ℕ

namespace Witness

/-- What a witness has to show, if its factors are to be found among some numbers. -/
def Holds (w : Witness) (known : List ℕ) : Prop :=
  w.factors.prod + 1 = w.number ∧ 1 < w.number ∧ (∀ q ∈ w.factors, q ∈ known) ∧
    Modular.power w.number w.root w.factors.prod = 1 ∧
      ∀ q ∈ w.factors, Modular.power w.number w.root (w.factors.prod / q) ≠ 1

instance (w : Witness) (known : List ℕ) : Decidable (w.Holds known) :=
  inferInstanceAs (Decidable (_ ∧ _))

/-- A residue has the power one when the power to the modulus is one. -/
lemma cast_pow_eq_one_iff {p : ℕ} (hp : 1 < p) (a e : ℕ) :
    (a : ZMod p) ^ e = 1 ↔ Modular.power p a e = 1 := by
  have hlt : Modular.power p a e < p := by
    rw [Modular.power_eq]
    exact Nat.mod_lt _ (by omega)
  rw [← Modular.cast_power, ← Nat.cast_one, ZMod.natCast_eq_natCast_iff', Nat.mod_eq_of_lt hlt,
    Nat.mod_eq_of_lt hp]

/-- A number with a witness is prime, if the factors are. -/
lemma Holds.prime {w : Witness} {known : List ℕ} (h : w.Holds known)
    (hknown : ∀ q ∈ known, q.Prime) : w.number.Prime := by
  obtain ⟨hprod, hlt, hmem, hone, hne⟩ := h
  have hpred : w.number - 1 = w.factors.prod := by omega
  refine lucas_primality w.number (w.root : ZMod w.number) ?_ ?_
  · rw [hpred, cast_pow_eq_one_iff hlt]
    exact hone
  · intro q hq hdvd
    rw [hpred] at hdvd ⊢
    obtain ⟨f, hf, hqf⟩ := hq.prime.dvd_prod_iff.mp hdvd
    have heq : q = f := (Nat.prime_dvd_prime_iff_eq hq (hknown f (hmem f hf))).mp hqf
    rw [Ne, cast_pow_eq_one_iff hlt, heq]
    exact hne f hf

/-- Every witness of a list shows what it has to, with the factors among some numbers and the
numbers of the witnesses before it. -/
def AllHold : List Witness → (known : List ℕ) → Prop
  | [], _ => True
  | w :: ws, known => w.Holds known ∧ AllHold ws (w.number :: known)

instance decidableAllHold : (ws : List Witness) → (known : List ℕ) → Decidable (AllHold ws known)
  | [], _ => .isTrue trivial
  | w :: ws, known =>
    have := decidableAllHold ws (w.number :: known)
    inferInstanceAs (Decidable (_ ∧ _))

/-- All numbers with witnesses are prime. -/
lemma AllHold.prime {ws : List Witness} {known : List ℕ} (h : AllHold ws known)
    (hknown : ∀ q ∈ known, q.Prime) : ∀ w ∈ ws, w.number.Prime := by
  induction ws generalizing known with
  | nil => exact fun _ hw => absurd hw List.not_mem_nil
  | cons first rest ih =>
    have hfirst : first.number.Prime := h.1.prime hknown
    intro w hw
    rcases List.mem_cons.mp hw with rfl | hw
    · exact hfirst
    · refine ih h.2 ?_ w hw
      intro q hq
      rcases List.mem_cons.mp hq with rfl | hq
      · exact hfirst
      · exact hknown q hq

/-- Prime numbers that are small enough to be tried. -/
def small : List ℕ :=
  [2, 3, 5, 7, 11, 13, 17, 19, 29, 31, 41, 53, 59, 97, 109, 113, 149, 293, 461, 631, 797, 971,
    1373, 1627, 1871, 2011, 2621, 2657, 2731, 4051, 4423, 5323, 7723, 9349, 13441, 16699, 20113,
    24809, 28181, 41201, 85831, 96557]

/-- Witnesses for the two primes of the curve and for the large factors that they rest on. -/
def curve : List Witness :=
  [⟨120233, 3, [2, 2, 2, 7, 19, 113]⟩,
    ⟨305873, 3, [2, 2, 2, 2, 7, 2731]⟩,
    ⟨1206781, 10, [2, 2, 3, 5, 20113]⟩,
    ⟨1627771, 3, [2, 3, 5, 29, 1871]⟩,
    ⟨4681609, 23, [2, 2, 2, 3, 97, 2011]⟩,
    ⟨7240687, 3, [2, 3, 1206781]⟩,
    ⟨13331831, 13, [2, 5, 971, 1373]⟩,
    ⟨44706919, 6, [2, 3, 797, 9349]⟩,
    ⟨107590001, 3, [2, 2, 2, 2, 5, 5, 5, 5, 7, 29, 53]⟩,
    ⟨545358713, 5, [2, 2, 2, 41, 59, 28181]⟩,
    ⟨297159362677, 2, [2, 2, 3, 3, 11, 461, 1627771]⟩,
    ⟨107361793816595537, 3, [2, 2, 2, 2, 16699, 85831, 4681609]⟩,
    ⟨173378833005251801, 6, [2, 2, 2, 5, 5, 2621, 24809, 13331831]⟩,
    ⟨174723607534414371449, 3, [2, 2, 2, 17, 59, 4051, 120233, 44706919]⟩,
    ⟨22149492674086928081353, 5, [2, 2, 2, 3, 5323, 173378833005251801]⟩,
    ⟨132896956044521568488119, 6, [2, 3, 22149492674086928081353]⟩,
    ⟨29047611873442575647497758179, 2, [2, 293, 305873, 545358713, 297159362677]⟩,
    ⟨341948486974166000522343609283189, 2, [2, 2, 3, 3, 3, 109, 29047611873442575647497758179]⟩,
    ⟨255515944373312847190720520512484175977, 3,
      [2, 2, 2, 7, 7, 11, 1627, 2657, 4423, 41201, 96557, 7240687, 107590001]⟩,
    ⟨205115282021455665897114700593932402728804164701536103180137503955397371, 10,
      [2, 3, 5, 29, 29, 31, 7723, 132896956044521568488119,
        255515944373312847190720520512484175977]⟩,
    ⟨order, 7, [2, 2, 2, 2, 2, 2, 3, 149, 631, 107361793816595537, 174723607534414371449,
      341948486974166000522343609283189]⟩,
    ⟨fieldSize, 3, [2, 3, 7, 13441,
      205115282021455665897114700593932402728804164701536103180137503955397371]⟩]

lemma prime_of_mem_small : ∀ q ∈ small, q.Prime := by
  norm_num [small]

lemma allHold_curve : AllHold curve small := by
  decide +kernel

/-- A number whose witness is among those is prime. -/
lemma prime_of_mem_curve {p : ℕ} (h : p ∈ curve.map number) : p.Prime := by
  obtain ⟨w, hw, rfl⟩ := List.mem_map.mp h
  exact allHold_curve.prime prime_of_mem_small w hw

end Witness

/-! ### The two primes -/

/-- **The field has a prime number of elements.** -/
theorem prime_fieldSize : fieldSize.Prime :=
  Witness.prime_of_mem_curve (by decide +kernel)

/-- **The curve has a prime number of points.** -/
theorem prime_order : order.Prime :=
  Witness.prime_of_mem_curve (by decide +kernel)

end XoLedger.Curve
