import Mathlib.Algebra.Ring.Nat
import Mathlib.Data.List.Induction
import Mathlib.Tactic.Lemma
import XoLedger.Proofs.Outcome
import XoLedger.Proofs.Text.Split
import XoLedger.Url.Ipv4

/-!
# Four octets with points between them

What is written for an address of 32 bits is read as the address: its octets are written in
decimal, and each is read as itself.
-/

namespace XoLedger.Url.Ipv4

/-- An octet as it is written. -/
def group (octet : Nat) : List Char := Nat.toDigits 10 octet

/-- The octets of an address, the highest first. -/
def octets (address : Nat) : List Nat :=
  [address / 16777216 % 256, address / 65536 % 256, address / 256 % 256, address % 256]

lemma lt_of_mem_octets {address octet : Nat} (h : octet ∈ octets address) : octet < 256 := by
  simp only [octets, List.mem_cons, List.not_mem_nil, or_false] at h
  omega

/-- The written form of an octet: digits that stand for it. -/
lemma part?_group : ∀ octet < 256, part? (group octet) = some octet ∧
    ((group octet).all fun c => '0' ≤ c && c ≤ '9') = true := by
  decide +kernel

lemma isDigit_of_mem_group {octet : Nat} {c : Char} (h : c ∈ group octet) : c.isDigit = true :=
  Nat.isDigit_of_mem_toDigits (by decide) (by decide) h

lemma toList_text (address : Nat) :
    (text address).toList = joinChars '.' ((octets address).map group) := by
  have hgroup : ∀ n : Nat, (toString n).toList = group n := by
    intro n
    rw [Nat.toString_eq_ofList_toDigits, String.toList_ofList, group]
  simp only [text, octets, List.map_cons, List.map_nil, joinChars, ← hgroup, String.toList_append,
    List.append_assoc]
  rfl

/-- A written address holds digits and points. -/
lemma mem_text {address : Nat} {c : Char} (h : c ∈ (text address).toList) :
    c = '.' ∨ c.isDigit = true := by
  refine or_iff_not_imp_left.mpr fun hne => ?_
  rw [toList_text, mem_joinChars_iff hne] at h
  obtain ⟨_, hpart, hc⟩ := h
  obtain ⟨octet, -, rfl⟩ := List.mem_map.mp hpart
  exact isDigit_of_mem_group hc

/-- The parts of a written address are its octets. -/
lemma parts_text (address : Nat) : parts (text address).toList = (octets address).map group := by
  have hsplit : splitChars '.' (text address).toList = (octets address).map group := by
    rw [toList_text]
    refine splitChars_joinChars (by simp [octets]) fun part hpart hmem => ?_
    obtain ⟨octet, -, rfl⟩ := List.mem_map.mp hpart
    exact absurd (isDigit_of_mem_group hmem) (by decide)
  have hlast : ((octets address).map group).getLast? ≠ some [] := by
    simp [octets, group]
  unfold parts
  dsimp only
  rw [hsplit, if_neg fun h => hlast h.2]

/-- A written address ends in a number. -/
lemma endsInNumber_text (address : Nat) : endsInNumber (text address).toList = true := by
  have hdigits := (part?_group (address % 256) (Nat.mod_lt _ (by decide))).2
  have hne : group (address % 256) ≠ [] := Nat.toDigits_ne_nil
  obtain ⟨c, cs, hgroup⟩ := List.exists_cons_of_ne_nil hne
  have hlast : ((octets address).map group).getLast? = some (group (address % 256)) := rfl
  unfold endsInNumber
  rw [parts_text, hlast, hgroup]
  dsimp only
  rw [← hgroup, hdigits, Bool.true_or]

/-- Four octets are the address that they are the octets of. -/
lemma ofNumbers?_octets {address : Nat} (h : address < 2 ^ 32) :
    ofNumbers? (octets address) = some address := by
  simp [ofNumbers?, octets]
  omega

/-- **A written address** is read as itself. -/
theorem parse?_text {address : Nat} (h : address < 2 ^ 32) :
    parse? (text address).toList = some address := by
  have hparts : ((octets address).map group).mapM part? = some (octets address) := by
    rw [Option.mapM_eq_some_iff, List.forall₂_map_left_iff, List.forall₂_same]
    exact fun octet hoctet => (part?_group octet (lt_of_mem_octets hoctet)).1
  rw [parse?, parts_text, hparts]
  exact ofNumbers?_octets h

/-- Octets one after the other are a number of as many octets. -/
lemma foldl_lt {octets : List Nat} (h : ∀ octet ∈ octets, octet < 256) :
    octets.foldl (fun n x => 256 * n + x) 0 < 256 ^ octets.length := by
  induction octets using List.reverseRecOn with
  | nil => decide
  | append_singleton octets octet ih =>
    obtain ⟨hoctets, hoctet⟩ := List.forall_mem_append.mp h
    have hlt : octet < 256 := hoctet octet (List.mem_singleton_self octet)
    have := ih hoctets
    rw [List.foldl_append, List.foldl_cons, List.foldl_nil, List.length_append,
      List.length_singleton, Nat.pow_succ]
    omega

/-- What is read has 32 bits. -/
theorem lt_of_parse? {host : List Char} {address : Nat} (h : parse? host = some address) :
    address < 2 ^ 32 := by
  obtain ⟨numbers, -, h⟩ := Option.bind_eq_some_iff.mp h
  unfold ofNumbers? at h
  split at h
  · cases h
  · rename_i last _
    dsimp only at h
    split_ifs at h with hbad
    cases h
    generalize numbers.dropLast = first at hbad ⊢
    have hcount : first.length ≤ 3 := by omega
    have hoctets : ∀ octet ∈ first, octet < 256 := by
      intro octet hoctet
      by_contra hge
      refine hbad (.inr (.inl (List.any_eq_true.mpr ⟨octet, hoctet, ?_⟩)))
      rw [decide_eq_true_eq]
      omega
    have hhigh := foldl_lt hoctets
    have hlast : last < 256 ^ (4 - first.length) := by
      have : ¬ Nat.pow 256 (4 - first.length) ≤ last := fun hle => hbad (.inr (.inr hle))
      exact Nat.lt_of_not_le this
    generalize first.foldl (fun n x => 256 * n + x) 0 = high at hhigh ⊢
    calc high * 256 ^ (4 - first.length) + last
        < (high + 1) * 256 ^ (4 - first.length) := by rw [Nat.succ_mul]; omega
      _ ≤ 256 ^ first.length * 256 ^ (4 - first.length) := Nat.mul_le_mul_right _ hhigh
      _ = 256 ^ 4 := by rw [← Nat.pow_add, Nat.add_sub_cancel' (by omega)]

end XoLedger.Url.Ipv4
