import Mathlib.Tactic.Lemma
import XoLedger.Proofs.Outcome
import XoLedger.Proofs.Wire.Varint
import XoLedger.Wire.Field

/-!
# Fields are read back

A written field is read back from the front of any octets, and written fields that stand one after
the other are taken into a message one after the other. `Takes` says that octets take a message
from one value to another, wherever they stand and however deeply the message is nested; it holds
for nothing, for a field, and for one part after the other, and that is all there is to a message.
-/

namespace XoLedger.Wire

/-! ### Keys and values -/

/-- A key is read back, if there is such a layout and the tag fits. -/
lemma readKey_writeKey {tag number : Nat} {wire : WireType}
    (hwire : WireType.ofNat? number = some wire) (hnumber : number < 8) (hpos : 0 < tag)
    (hlt : tag < 2 ^ 29) (rest : Bytes) :
    readKey (writeKey tag number ++ rest) = .ok (⟨tag, wire⟩, rest) := by
  have hkey : ¬ UInt32.size ≤ 8 * tag + number := by
    rw [UInt32.size]
    omega
  have hmod : (8 * tag + number) % 8 = number := by omega
  have hdiv : (8 * tag + number) / 8 = tag := by omega
  have hread : readVarint (writeKey tag number ++ rest) = .ok (8 * tag + number, rest) := by
    rw [readVarint, writeKey, Varint.read?_write (by omega)]
  rw [readKey, hread, Except.ok_bind]
  simp only
  rw [if_neg hkey, hmod, hwire, hdiv]
  simp only
  rw [if_neg (by omega)]
  rfl

/-- Octets with their length before them are read back. -/
lemma readBytes_write {b : Bytes} (h : b.length < 2 ^ 64) (depth : Nat) (rest : Bytes) :
    readBytes depth .lengthDelimited (Varint.write b.length ++ b ++ rest) = .ok (b, rest) := by
  have hread : readVarint (Varint.write b.length ++ b ++ rest) = .ok (b.length, b ++ rest) := by
    rw [readVarint, List.append_assoc, Varint.read?_write h]
  have hlength : ¬ (b ++ rest).length < b.length := by
    rw [List.length_append]
    omega
  rw [readBytes, expect, if_pos rfl, Except.ok_bind, hread, Except.ok_bind]
  simp only
  rw [readOctets, if_neg hlength, List.take_left, List.drop_left]

/-- A text with its length before it is read back. -/
lemma readText_write {s : String} (h : (Utf8.encode s).length < 2 ^ 64) (depth : Nat)
    (rest : Bytes) :
    readText depth .lengthDelimited
      (Varint.write (Utf8.encode s).length ++ Utf8.encode s ++ rest) = .ok (s, rest) := by
  rw [readText, readBytes_write h, Except.ok_bind]
  simp only
  rw [Utf8.decode_encode]
  rfl

/-! ### Sequences of fields -/

section Takes

variable {α : Type} {step : Step α} {depth : Nat} {b b' : Bytes} {m m' m'' : α}

/-- Octets take a message from one value to another, whatever octets follow. What is left of the
budget is enough for those. -/
def Takes (step : Step α) (depth : Nat) (b : Bytes) (m m' : α) : Prop :=
  ∀ limit budget rest, limit ≤ rest.length → b.length + rest.length ≤ budget →
    ∃ budget', rest.length ≤ budget' ∧
      readFields step depth limit budget m (b ++ rest) =
        readFields step depth limit budget' m' rest

/-- A step takes a value with a given layout off the front, and puts it into its place. -/
def IsStepBy {β : Type} (read : Reader β) (step : Step α) (depth tag : Nat) (wire : WireType)
    (m : α) (put : β → α) : Prop :=
  ∃ message field, ∀ b, step depth m ⟨tag, wire⟩ b =
    inField message field (do
      let (value, rest) ← read depth wire b
      return (put value, rest))

namespace Takes

/-- Nothing takes a message nowhere. -/
lemma nil : Takes step depth [] m m := by
  intro limit budget rest _ hbudget
  exact ⟨budget, by simpa using hbudget, rfl⟩

/-- What is taken in two parts is taken as a whole. -/
lemma append (h : Takes step depth b m m') (h' : Takes step depth b' m' m'') :
    Takes step depth (b ++ b') m m'' := by
  intro limit budget rest hlimit hbudget
  rw [List.length_append] at hbudget
  have hlength : (b' ++ rest).length = b'.length + rest.length := List.length_append
  obtain ⟨budget₁, hbudget₁, hread₁⟩ := h limit budget (b' ++ rest) (by omega) (by omega)
  obtain ⟨budget₂, hbudget₂, hread₂⟩ := h' limit budget₁ rest hlimit (by omega)
  refine ⟨budget₂, hbudget₂, ?_⟩
  rw [List.append_assoc, hread₁, hread₂]

/-- A field takes a message to what its step makes of it. -/
lemma field {key : Key} {octets value : Bytes}
    (hkey : ∀ rest, readKey (octets ++ rest) = .ok (key, rest)) (hne : octets ≠ [])
    (hstep : ∀ rest, step depth m key (value ++ rest) = .ok (m', rest)) :
    Takes step depth (octets ++ value) m m' := by
  intro limit budget rest hlimit hbudget
  have hpos : 0 < octets.length := List.length_pos_iff.mpr hne
  rw [List.length_append] at hbudget
  obtain ⟨budget, rfl⟩ := Nat.exists_eq_add_of_le' (show 1 ≤ budget by omega)
  have hmore : ¬ (octets ++ value ++ rest).length ≤ limit := by
    rw [List.length_append, List.length_append]
    omega
  refine ⟨budget, by omega, ?_⟩
  rw [readFields, if_neg hmore, List.append_assoc, hkey, Except.ok_bind]
  simp only
  rw [hstep, Except.ok_bind]

/-- Octets that take the empty message somewhere are read as what they take it to. -/
lemma decode {empty : α} (h : Takes step maxDepth b empty m) :
    Wire.decode step empty b = .ok m := by
  obtain ⟨budget, -, hread⟩ := h 0 b.length [] (Nat.le_refl 0) (Nat.le_refl _)
  rw [List.append_nil] at hread
  have hend : readFields step maxDepth 0 budget m [] = .ok (m, []) := by
    cases budget with
    | zero => rfl
    | succ budget => rfl
  rw [Wire.decode, hread, hend]
  rfl

/-- A field takes a message to the one with the field's value in its place, if the value is read
back. -/
lemma value {β : Type} {read : Reader β} {tag number : Nat} {wire : WireType} {put : β → α}
    (hstep : IsStepBy read step depth tag wire m put)
    (hwire : WireType.ofNat? number = some wire) (hnumber : number < 8) (hpos : 0 < tag)
    (hlt : tag < 2 ^ 29) {octets : Bytes} {v : β}
    (hread : ∀ rest, read depth wire (octets ++ rest) = .ok (v, rest)) :
    Takes step depth (writeKey tag number ++ octets) m (put v) := by
  obtain ⟨message, field, hstep⟩ := hstep
  refine Takes.field (readKey_writeKey hwire hnumber hpos hlt) (Varint.write_ne_nil _)
    fun rest => ?_
  rw [hstep, hread]
  rfl

end Takes

end Takes

end XoLedger.Wire
