import Mathlib.Data.List.Chain
import Mathlib.Data.Nat.Bitwise
import Mathlib.Tactic.Lemma
import XoLedger.Text.Ranges

/-!
# Sets of code points as masks

A set of code points is one large number as well, with a bit for each of them. To find a code point
in it takes one step, where ranges are searched, so what is said about all entries of a table is
checked on masks.
-/

namespace XoLedger

/-! ### Lists -/

/-- The bits of some code points. -/
def mask : List Nat → Nat
  | [] => 0
  | n :: rest => mask rest ||| 1 <<< n

lemma testBit_mask {ns : List Nat} {n : Nat} : (mask ns).testBit n = true ↔ n ∈ ns := by
  induction ns with
  | nil => simp [mask]
  | cons m rest ih =>
    have hbit : (1 <<< m).testBit n = decide (m = n) := by
      rw [Nat.one_shiftLeft, Nat.testBit_two_pow]
    rw [mask, Nat.testBit_or, hbit, Bool.or_eq_true, ih, decide_eq_true_eq, List.mem_cons, or_comm,
      eq_comm]

/-- Whether code points differ from each other and from those in `seen`. -/
def areApart (seen : Nat) : List Nat → Bool
  | [] => true
  | n :: rest => !seen.testBit n && areApart (seen ||| 1 <<< n) rest

lemma nodup_of_areApart {ns : List Nat} (seen : List Nat) (h : areApart (mask seen) ns = true) :
    ns.Nodup ∧ ∀ n ∈ ns, n ∉ seen := by
  induction ns generalizing seen with
  | nil => exact ⟨.nil, List.forall_mem_nil _⟩
  | cons n rest ih =>
    rw [areApart, Bool.and_eq_true, Bool.not_eq_true', ← Bool.not_eq_true, testBit_mask] at h
    obtain ⟨hnodup, hapart⟩ := ih (n :: seen) h.2
    refine ⟨List.nodup_cons.mpr ⟨fun hmem => hapart n hmem List.mem_cons_self, hnodup⟩, ?_⟩
    intro m hm
    rcases List.mem_cons.mp hm with rfl | hm
    · exact h.1
    · exact fun hseen => hapart m hm (List.mem_cons_of_mem n hseen)

/-! ### Ranges -/

namespace Ranges

/-- The bits of all code points in some ranges. -/
def mask : Ranges → Nat
  | [] => 0
  | (first, last) :: rest => mask rest ||| (2 ^ (last + 1 - first) - 1) <<< first

lemma testBit_mask {ranges : Ranges} {n : Nat} :
    ranges.mask.testBit n = true ↔ ∃ r ∈ ranges, r.1 ≤ n ∧ n ≤ r.2 := by
  induction ranges with
  | nil => simp [mask]
  | cons r rest ih =>
    obtain ⟨first, last⟩ := r
    rw [mask, Nat.testBit_or, Nat.testBit_shiftLeft, Nat.testBit_two_pow_sub_one, Bool.or_eq_true,
      ih, Bool.and_eq_true, decide_eq_true_eq, decide_eq_true_eq, List.exists_mem_cons_iff, or_comm]
    refine or_congr_left ?_
    dsimp only
    omega

/-- What is found in some ranges lies in one of them. -/
lemma exists_of_contains {ranges : Ranges} {n : Nat} (h : ranges.contains n = true) :
    ∃ r ∈ ranges, r.1 ≤ n ∧ n ≤ r.2 := by
  induction ranges with
  | nil => simp [contains] at h
  | cons r rest ih =>
    obtain ⟨first, last⟩ := r
    rw [contains, Bool.and_eq_true, Bool.or_eq_true, decide_eq_true_eq, decide_eq_true_eq] at h
    obtain ⟨hfirst, hlast | hrest⟩ := h
    · exact ⟨_, List.mem_cons_self, hfirst, hlast⟩
    · obtain ⟨r, hr, hn⟩ := ih hrest
      exact ⟨r, List.mem_cons_of_mem _ hr, hn⟩

/-- Whether ranges are in ascending order. -/
def IsAscending (ranges : Ranges) : Prop :=
  ranges.IsChain fun r s => r.1 ≤ s.1

instance (ranges : Ranges) : Decidable ranges.IsAscending :=
  inferInstanceAs (Decidable (ranges.IsChain _))

/-- In ascending order, what lies in one of the ranges is found. -/
lemma contains_iff {ranges : Ranges} (h : ranges.IsAscending) {n : Nat} :
    ranges.contains n = true ↔ ∃ r ∈ ranges, r.1 ≤ n ∧ n ≤ r.2 := by
  refine ⟨exists_of_contains, ?_⟩
  have htrans : IsTrans (Nat × Nat) fun r s => r.1 ≤ s.1 := ⟨fun _ _ _ => Nat.le_trans⟩
  have hpairwise := List.isChain_iff_pairwise.mp h
  clear h
  rintro ⟨r, hr, hfirst, hlast⟩
  induction ranges with
  | nil => exact absurd hr List.not_mem_nil
  | cons s rest ih =>
    obtain ⟨hs, hrest⟩ := List.pairwise_cons.mp hpairwise
    rw [contains, Bool.and_eq_true, Bool.or_eq_true, decide_eq_true_eq, decide_eq_true_eq]
    rcases List.mem_cons.mp hr with rfl | hr
    · exact ⟨hfirst, .inl hlast⟩
    · exact ⟨(hs r hr).trans hfirst, .inr (ih hrest hr)⟩

lemma contains_iff_testBit {ranges : Ranges} (h : ranges.IsAscending) {n : Nat} :
    ranges.contains n = true ↔ ranges.mask.testBit n = true := by
  rw [contains_iff h, testBit_mask]

end Ranges

end XoLedger
