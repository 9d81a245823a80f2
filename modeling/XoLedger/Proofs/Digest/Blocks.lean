import Mathlib.Data.Nat.Basic
import Mathlib.Tactic.Lemma
import XoLedger.Digest.Blocks

/-!
# A message of any length fills whole blocks

A digest works on blocks of one size and has no rule for a shorter one. The padding leaves none: its
length makes up for what the message lacks, also where the message ends so near to the end of a
block that the number of bits has to go into the next one. Cutting the result into blocks loses
nothing of it.
-/

namespace XoLedger

/-- What is missing to a whole number of blocks is filled up. -/
lemma dvd_add_missing (size n : Nat) (h : 0 < size) : size ∣ n + (size - n % size) % size := by
  have hrest : n % size < size := Nat.mod_lt n h
  have hparts : size * (n / size) + n % size = n := Nat.div_add_mod n size
  have hfull : n + (size - n % size) = size * (n / size + 1) := by
    rw [Nat.mul_succ]
    omega
  rw [Nat.dvd_iff_mod_eq_zero, Nat.add_mod_mod, hfull, Nat.mul_mod_right]

/-- The padding ends where a block ends. -/
lemma dvd_length_padded {blockSize : Nat} (h : 0 < blockSize) (lengthSize : Nat) (b : Bytes) :
    blockSize ∣ (padded blockSize lengthSize b).length := by
  have hmissing := dvd_add_missing blockSize (b.length + 1 + lengthSize) h
  have hlength : (padded blockSize lengthSize b).length = b.length + 1 + lengthSize +
      (blockSize - (b.length + 1 + lengthSize) % blockSize) % blockSize := by
    simp only [padded, List.length_append, List.length_cons, List.length_replicate,
      Bytes.length_ofNat]
    omega
  rwa [hlength]

variable {size : Nat}

/-- The first block is cut off the front. -/
lemma blocks_of_ne_nil (hsize : size ≠ 0) {b : Bytes} (hb : b ≠ []) :
    blocks size b = b.take size :: blocks size (b.drop size) := by
  rw [blocks, dif_neg (not_or.mpr ⟨hsize, hb⟩)]

lemma blocks_nil (size : Nat) : blocks size [] = [] := by
  rw [blocks, dif_pos (.inr rfl)]

/-- Nothing is lost between blocks. -/
lemma flatten_blocks (hsize : size ≠ 0) (b : Bytes) : (blocks size b).flatten = b := by
  induction b using blocks.induct size with
  | case1 b h =>
    obtain rfl := h.resolve_left hsize
    rw [blocks_nil, List.flatten_nil]
  | case2 b h ih =>
    rw [blocks_of_ne_nil hsize (not_or.mp h).2, List.flatten_cons, ih, List.take_append_drop]

/-- Octets for a whole number of blocks give whole blocks only. -/
lemma length_of_mem_blocks (hsize : size ≠ 0) {b : Bytes} (hb : size ∣ b.length) :
    ∀ block ∈ blocks size b, block.length = size := by
  induction b using blocks.induct size with
  | case1 b h =>
    obtain rfl := h.resolve_left hsize
    rw [blocks_nil]
    exact List.forall_mem_nil _
  | case2 b h ih =>
    have hne : b ≠ [] := (not_or.mp h).2
    have hle : size ≤ b.length := Nat.le_of_dvd (List.length_pos_iff.mpr hne) hb
    rw [blocks_of_ne_nil hsize hne, List.forall_mem_cons]
    refine ⟨by rw [List.length_take, Nat.min_eq_left hle], ih ?_⟩
    rw [List.length_drop]
    exact Nat.dvd_sub hb (Nat.dvd_refl size)

/-- The blocks of a message with its padding are whole, and make up all of it. -/
theorem blocks_padded {blockSize : Nat} (h : 0 < blockSize) (lengthSize : Nat) (b : Bytes) :
    (∀ block ∈ blocks blockSize (padded blockSize lengthSize b), block.length = blockSize) ∧
      (blocks blockSize (padded blockSize lengthSize b)).flatten =
        padded blockSize lengthSize b :=
  have hne : blockSize ≠ 0 := Nat.ne_of_gt h
  ⟨length_of_mem_blocks hne (dvd_length_padded h lengthSize b), flatten_blocks hne _⟩

end XoLedger
