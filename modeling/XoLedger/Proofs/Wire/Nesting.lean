import Mathlib.Tactic.Lemma
import XoLedger.Proofs.Wire.Size

/-!
# Messages within messages are read back

A submission holds batches, a batch holds transactions, and each of them is a message with its
length before it. A nested message is read one level deeper than the one around it, from octets
that go on behind it, and has to end where its length says; that is what `Takes` says of a message
in front of any rest. So the messages are read back from the inside outwards, at any depth that is
enough for them. `isReadBack_messages` puts this together for the five messages of the ledger, with
what follows: no two of them are written alike, and what has been read can be written and read
again.
-/

namespace XoLedger

namespace Wire

variable {α β : Type} {step : Step α} {depth tag : Nat}

/-! ### Nested messages -/

/-- A message with its length before it is read back, one level deeper. -/
lemma readMessage_write {inner : Step β} {empty value : β} {b : Bytes}
    (htakes : Takes inner depth b empty value) (h : b.length < 2 ^ 64) (rest : Bytes) :
    readMessage inner empty (depth + 1) .lengthDelimited (Varint.write b.length ++ b ++ rest) =
      .ok (value, rest) := by
  have hread : readVarint (Varint.write b.length ++ b ++ rest) = .ok (b.length, b ++ rest) := by
    rw [readVarint, List.append_assoc, Varint.read?_write h]
  have hlength : (b ++ rest).length = b.length + rest.length := List.length_append
  have hlimit : (b ++ rest).length - b.length = rest.length := by omega
  obtain ⟨budget, hbudget, hfields⟩ :=
    htakes rest.length (b ++ rest).length rest (Nat.le_refl _) (by omega)
  -- what is left starts where the length says, so no more fields are read
  have hstop : readFields inner depth rest.length budget value rest = .ok (value, rest) := by
    cases budget with
    | zero => rfl
    | succ budget => rw [readFields, if_pos (Nat.le_refl _)]
  rw [readMessage, expect, if_pos rfl, Except.ok_bind]
  simp only
  rw [hread, Except.ok_bind]
  simp only
  rw [if_neg (by omega), hlimit, hfields, hstop, Except.ok_bind]
  simp only [if_true]
  rfl

namespace Takes

/-- Octets that are written take a message to the one with the octets in their place, if the place
is empty before. -/
lemma writeBytesUnlessEmpty {m : α} (put : Bytes → α)
    (hstep : IsStepBy readBytes step depth tag .lengthDelimited m put)
    (hempty : put [] = m) (hpos : 0 < tag) (hlt : tag < 2 ^ 29) {b : Bytes}
    (h : (Wire.writeBytesUnlessEmpty tag b).length < 2 ^ 64) :
    Takes step depth (Wire.writeBytesUnlessEmpty tag b) m (put b) := by
  unfold Wire.writeBytesUnlessEmpty at h ⊢
  by_cases hnil : b = []
  · rw [if_pos hnil, hnil, hempty]
    exact Takes.nil
  · rw [if_neg hnil] at h ⊢
    have hb : b.length < 2 ^ 64 := by
      rw [writeBytes, List.length_append] at h
      omega
    rw [writeBytes, List.append_assoc]
    exact Takes.value hstep rfl (by omega) hpos hlt (readBytes_write hb depth)

/-- The same for a truth value, if it is false before. -/
lemma writeFlag {m : α} (put : Bool → α)
    (hstep : IsStepBy readFlag step depth tag .varint m put) (hempty : put false = m)
    (hpos : 0 < tag) (hlt : tag < 2 ^ 29) (flag : Bool) :
    Takes step depth (Wire.writeFlag tag flag) m (put flag) := by
  cases flag with
  | false =>
    rw [hempty]
    exact Takes.nil
  | true =>
    have hread : ∀ rest, readFlag depth .varint ([1] ++ rest) = .ok (true, rest) := by
      intro rest
      rfl
    exact Takes.value hstep rfl (by omega) hpos hlt hread

/-- Messages that are written one after the other are put behind those that are there. -/
lemma writeMessages {inner : Step β} {empty : β} {encode : β → Bytes} (put : List β → α)
    (hstep : ∀ before, IsStepBy (readMessage inner empty) step (depth + 1) tag .lengthDelimited
      (put before) fun value => put (before ++ [value]))
    (hpos : 0 < tag) (hlt : tag < 2 ^ 29)
    (hinner : ∀ value, (encode value).length < 2 ^ 64 →
      Takes inner depth (encode value) empty value)
    {values : List β}
    (h : (values.flatMap fun value => writeBytes tag (encode value)).length < 2 ^ 64)
    (before : List β) :
    Takes step (depth + 1) (values.flatMap fun value => writeBytes tag (encode value))
      (put before) (put (before ++ values)) := by
  induction values generalizing before with
  | nil =>
    rw [List.append_nil]
    exact Takes.nil
  | cons value values ih =>
    rw [List.flatMap_cons, List.length_append] at h
    rw [List.flatMap_cons, List.append_cons]
    have hvalue : (encode value).length < 2 ^ 64 := by
      rw [writeBytes, List.length_append] at h
      omega
    have hfirst : Takes step (depth + 1) (writeBytes tag (encode value)) (put before)
        (put (before ++ [value])) := by
      rw [writeBytes, List.append_assoc]
      exact Takes.value (hstep before) rfl (by omega) hpos hlt
        (readMessage_write (hinner value hvalue) hvalue)
    exact hfirst.append (ih (by omega) (before ++ [value]))

end Takes

end Wire

open Wire

/-! ### Transactions, batches and submissions -/

/-- A transaction is taken from its octets at any depth. -/
lemma Transaction.takes_encode (depth : Nat) {m : Transaction} (h : m.encode.length < 2 ^ 64) :
    Takes step depth m.encode {} m := by
  obtain ⟨header, headerSignature, payload⟩ := m
  simp only [encode, List.length_append] at h
  let m₀ : Transaction := {}
  let m₁ : Transaction := { m₀ with header }
  let m₂ : Transaction := { m₁ with headerSignature }
  have h₁ : Takes step depth (writeBytesUnlessEmpty 1 header) m₀ m₁ :=
    Takes.writeBytesUnlessEmpty (fun octets => { m₀ with header := octets })
      ⟨"Transaction", "header", fun _ => rfl⟩ rfl (by omega) (by omega) (by omega)
  have h₂ : Takes step depth (writeText 2 headerSignature) m₁ m₂ :=
    Takes.writeText (fun s => { m₁ with headerSignature := s })
      ⟨"Transaction", "header_signature", fun _ => rfl⟩ rfl (by omega) (by omega) (by omega)
  have h₃ : Takes step depth (writeBytesUnlessEmpty 3 payload) m₂ { m₂ with payload } :=
    Takes.writeBytesUnlessEmpty (fun octets => { m₂ with payload := octets })
      ⟨"Transaction", "payload", fun _ => rfl⟩ rfl (by omega) (by omega) (by omega)
  exact (h₁.append h₂).append h₃

/-- A batch is taken from its octets where one more level is left for its transactions. -/
lemma Batch.takes_encode (depth : Nat) {m : Batch} (h : m.encode.length < 2 ^ 64) :
    Takes step (depth + 1) m.encode {} m := by
  obtain ⟨header, headerSignature, transactions, trace⟩ := m
  simp only [encode, List.length_append] at h
  let m₀ : Batch := {}
  let m₁ : Batch := { m₀ with header }
  let m₂ : Batch := { m₁ with headerSignature }
  let m₃ : Batch := { m₂ with transactions }
  have h₁ : Takes step (depth + 1) (writeBytesUnlessEmpty 1 header) m₀ m₁ :=
    Takes.writeBytesUnlessEmpty (fun octets => { m₀ with header := octets })
      ⟨"Batch", "header", fun _ => rfl⟩ rfl (by omega) (by omega) (by omega)
  have h₂ : Takes step (depth + 1) (writeText 2 headerSignature) m₁ m₂ :=
    Takes.writeText (fun s => { m₁ with headerSignature := s })
      ⟨"Batch", "header_signature", fun _ => rfl⟩ rfl (by omega) (by omega) (by omega)
  have h₃ : Takes step (depth + 1)
      (transactions.flatMap fun t => writeBytes 3 t.encode) m₂ m₃ :=
    Takes.writeMessages (fun ts => { m₂ with transactions := ts })
      (fun _ => ⟨"Batch", "transactions", fun _ => rfl⟩) (by omega) (by omega)
      (fun _ ht => Transaction.takes_encode depth ht) (by omega) []
  have h₄ : Takes step (depth + 1) (writeFlag 4 trace) m₃ { m₃ with trace } :=
    Takes.writeFlag (fun flag => { m₃ with trace := flag })
      ⟨"Batch", "trace", fun _ => rfl⟩ rfl (by omega) (by omega) trace
  exact ((h₁.append h₂).append h₃).append h₄

/-- A submission is taken from its octets where two more levels are left. -/
lemma BatchList.takes_encode (depth : Nat) {m : BatchList} (h : m.encode.length < 2 ^ 64) :
    Takes step (depth + 2) m.encode {} m :=
  Takes.writeMessages BatchList.mk (fun _ => ⟨"BatchList", "batches", fun _ => rfl⟩)
    (by omega) (by omega) (fun _ hbatch => Batch.takes_encode depth hbatch) h []

/-! ### All messages -/

/-- What is written is read back, as long as its octets can be counted in 64 bits. -/
structure Wire.IsReadBack {α : Type} (encode : α → Bytes)
    (decode : Bytes → Except Wire.Error α) : Prop where
  /-- Every message is read back. -/
  decode_encode : ∀ m, (encode m).length < 2 ^ 64 → decode (encode m) = .ok m
  /-- No two messages are written alike. -/
  encode_injective : ∀ m m', (encode m).length < 2 ^ 64 → encode m = encode m' → m = m'
  /-- What is read, from whatever octets, takes no more octets to write. -/
  length_encode_le : ∀ b m, decode b = .ok m → (encode m).length ≤ b.length
  /-- What is read, from whatever octets, is read again after it has been written. -/
  decode_again : ∀ b m, decode b = .ok m → (encode m).length < 2 ^ 64 → decode (encode m) = .ok m

/-- All of this follows from reading back and from frugal steps. -/
lemma Wire.IsReadBack.of_isFrugal {α : Type} {step : Step α} {empty : α} {encode : α → Bytes}
    (hdecode : ∀ {m}, (encode m).length < 2 ^ 64 → Wire.decode step empty (encode m) = .ok m)
    (hstep : step.IsFrugal encode) (hempty : encode empty = []) :
    IsReadBack encode (Wire.decode step empty) where
  decode_encode _ h := hdecode h
  encode_injective m m' h heq := by
    have hm : Wire.decode step empty (encode m) = .ok m := hdecode h
    have hm' : Wire.decode step empty (encode m') = .ok m' := hdecode (heq ▸ h)
    rw [heq, hm'] at hm
    exact (Except.ok.inj hm).symm
  length_encode_le _ _ h := length_le_of_decode hstep hempty h
  decode_again _ _ _ h := hdecode h

/-- **All messages are read back.** Each of the five messages of the ledger is read back from what
is written for it, with any texts and octets in it and any number of messages nested in it. So no
two are written alike, and what is read from any octets is no longer when it is written, and is
read again. -/
theorem isReadBack_messages :
    Wire.IsReadBack TransactionHeader.encode TransactionHeader.decode ∧
      Wire.IsReadBack Transaction.encode Transaction.decode ∧
      Wire.IsReadBack BatchHeader.encode BatchHeader.decode ∧
      Wire.IsReadBack Batch.encode Batch.decode ∧
      Wire.IsReadBack BatchList.encode BatchList.decode := by
  have htransaction : ∀ {m : Transaction}, m.encode.length < 2 ^ 64 →
      Transaction.decode m.encode = .ok m :=
    fun h => (Transaction.takes_encode maxDepth h).decode
  have hbatch : ∀ {m : Batch}, m.encode.length < 2 ^ 64 → Batch.decode m.encode = .ok m :=
    fun h => (Batch.takes_encode (maxDepth - 1) h).decode
  have hlist : ∀ {m : BatchList}, m.encode.length < 2 ^ 64 →
      BatchList.decode m.encode = .ok m :=
    fun h => (BatchList.takes_encode (maxDepth - 2) h).decode
  exact ⟨.of_isFrugal TransactionHeader.decode_encode TransactionHeader.step_isFrugal rfl,
    .of_isFrugal htransaction Transaction.step_isFrugal rfl,
    .of_isFrugal BatchHeader.decode_encode BatchHeader.step_isFrugal rfl,
    .of_isFrugal hbatch Batch.step_isFrugal rfl,
    .of_isFrugal hlist BatchList.step_isFrugal rfl⟩

end XoLedger
