import Mathlib.Tactic.Lemma
import XoLedger.Proofs.Wire.Message

/-!
# What is read has no longer written form

A number may be written with more octets than it needs, a single field may come twice, and fields
that are not known are passed over. So octets that are read may differ from what is written for the
message, but they are never shorter. Each value costs at least as many octets to read as it takes
to write (`Costs`), so a step adds no more to the written form of a message than it takes off the
octets (`Step.IsFrugal`); by induction over the fields the same holds for the whole message.
-/

namespace XoLedger.Wire

/-! ### Numbers -/

namespace Varint

/-- Seven bits take one octet. -/
lemma length_write_of_lt {n : Nat} (h : n < 128) : (write n).length = 1 := by
  rw [write, if_pos h]
  rfl

/-- Every seven bits more take one octet more. -/
lemma length_write_of_ge {n : Nat} (h : ¬ n < 128) :
    (write n).length = (write (n / 128)).length + 1 := by
  rw [write, if_neg h]
  rfl

/-- A greater number takes no fewer octets. -/
lemma length_write_mono {n k : Nat} (h : n ≤ k) : (write n).length ≤ (write k).length := by
  induction n using Nat.strongRecOn generalizing k with
  | ind n ih =>
    by_cases hn : n < 128
    · rw [length_write_of_lt hn]
      exact List.length_pos_iff.mpr (write_ne_nil k)
    · rw [length_write_of_ge hn, length_write_of_ge (by omega : ¬ k < 128)]
      exact Nat.succ_le_succ (ih (n / 128) (by omega) (by omega))

/-- A number that is read took at least as many octets as it takes to write it. -/
lemma length_write_of_readFrom {room n : Nat} {b rest : Bytes}
    (h : readFrom room b = some (n, rest)) : (write n).length + rest.length ≤ b.length := by
  induction room generalizing n b with
  | zero => simp [readFrom] at h
  | succ room ih =>
    cases b with
    | nil => simp [readFrom] at h
    | cons x b =>
      rw [readFrom] at h
      by_cases hx : x.toNat < 128
      · rw [if_pos hx] at h
        split at h
        · cases h
        · cases h
          rw [length_write_of_lt hx, List.length_cons]
          omega
      · rw [if_neg hx, Option.map_eq_some_iff] at h
        obtain ⟨⟨high, left⟩, hread, heq⟩ := h
        cases heq
        have hhigh := ih hread
        have hlt := x.toNat_lt
        rw [List.length_cons]
        by_cases hn : x.toNat - 128 + 128 * high < 128
        · rw [length_write_of_lt hn]
          omega
        · rw [length_write_of_ge hn,
            show (x.toNat - 128 + 128 * high) / 128 = high by omega]
          omega

end Varint

/-! ### Keys and values -/

/-- The same for the numbers in a message. -/
lemma length_write_of_readVarint {n : Nat} {b rest : Bytes} (h : readVarint b = .ok (n, rest)) :
    (Varint.write n).length + rest.length ≤ b.length := by
  unfold readVarint at h
  cases hread : Varint.read? b with
  | none => simp [hread, fail] at h
  | some r =>
    simp only [hread, Except.ok.injEq] at h
    subst h
    exact Varint.length_write_of_readFrom hread

/-- The number of a layout in keys. -/
def WireType.number : WireType → Nat
  | .varint => 0
  | .sixtyFourBit => 1
  | .lengthDelimited => 2
  | .startGroup => 3
  | .endGroup => 4
  | .thirtyTwoBit => 5

/-- A layout has one number. -/
lemma WireType.number_of_ofNat? {n : Nat} {wire : WireType} (h : WireType.ofNat? n = some wire) :
    n = wire.number := by
  unfold WireType.ofNat? at h
  split at h <;> cases h <;> rfl

/-- How many octets it takes to write a key. -/
def Key.length (key : Key) : Nat :=
  (writeKey key.tag key.wire.number).length

/-- A key that is read took at least as many octets as it takes to write it. -/
lemma length_of_readKey {key : Key} {b rest : Bytes} (h : readKey b = .ok (key, rest)) :
    key.length + rest.length ≤ b.length := by
  rw [readKey, Except.bind_eq_ok_iff] at h
  obtain ⟨⟨n, left⟩, hn, h⟩ := h
  have hread := length_write_of_readVarint hn
  simp only at h
  split at h
  · simp [fail] at h
  · cases hwire : WireType.ofNat? (n % 8) with
    | none => simp [hwire, fail] at h
    | some wire =>
      simp only [hwire] at h
      split at h
      · simp [fail] at h
      · cases h
        rw [Key.length, writeKey]
        rw [← WireType.number_of_ofNat? hwire, show 8 * (n / 8) + n % 8 = n by omega]
        exact hread

/-- Octets that are taken off are gone from the rest. -/
lemma length_of_readOctets {n : Nat} {b octets rest : Bytes}
    (h : readOctets n b = .ok (octets, rest)) :
    octets.length = n ∧ octets.length + rest.length = b.length := by
  unfold readOctets at h
  split at h
  · simp [fail] at h
  · cases h
    rw [List.length_take, List.length_drop]
    omega

/-- An expected layout is the one that was found. -/
lemma eq_of_expect {expected found : WireType} (h : expect expected found = .ok ()) :
    found = expected := by
  unfold expect at h
  split at h
  · assumption
  · simp [fail] at h

/-- A reader takes values of one layout, and for each at least as many octets as it costs. -/
def Costs {β : Type} (read : Reader β) (layout : WireType) (cost : β → Nat) : Prop :=
  ∀ depth wire b v rest, read depth wire b = .ok (v, rest) →
    wire = layout ∧ cost v + rest.length ≤ b.length

/-- Octets cost as much as they take with their length before them. -/
lemma costs_readBytes :
    Costs readBytes .lengthDelimited fun b => (Varint.write b.length ++ b).length := by
  intro depth wire b octets rest h
  rw [readBytes, Except.bind_eq_ok_iff] at h
  obtain ⟨⟨⟩, hwire, h⟩ := h
  rw [Except.bind_eq_ok_iff] at h
  obtain ⟨⟨n, left⟩, hn, h⟩ := h
  have hread := length_write_of_readVarint hn
  obtain ⟨rfl, hleft⟩ := length_of_readOctets h
  refine ⟨eq_of_expect hwire, ?_⟩
  simp only [List.length_append]
  omega

/-- A text costs as much as its octets. -/
lemma costs_readText :
    Costs readText .lengthDelimited fun s =>
      (Varint.write (Utf8.encode s).length ++ Utf8.encode s).length := by
  intro depth wire b s rest h
  rw [readText, Except.bind_eq_ok_iff] at h
  obtain ⟨⟨octets, left⟩, hread, h⟩ := h
  cases hs : Utf8.decode octets with
  | error e => simp [hs, fail] at h
  | ok t =>
    simp only [hs] at h
    cases h
    beta_reduce
    rw [← Utf8.eq_encode_of_decode hs]
    exact costs_readBytes _ _ _ _ _ hread

/-- A truth value costs an octet. -/
lemma costs_readFlag : Costs readFlag .varint fun _ => 1 := by
  intro depth wire b flag rest h
  rw [readFlag, Except.bind_eq_ok_iff] at h
  obtain ⟨⟨⟩, hwire, h⟩ := h
  rw [Except.bind_eq_ok_iff] at h
  obtain ⟨⟨n, left⟩, hn, h⟩ := h
  cases h
  have hread := length_write_of_readVarint hn
  have hpos := List.length_pos_iff.mpr (Varint.write_ne_nil n)
  refine ⟨eq_of_expect hwire, ?_⟩
  beta_reduce
  omega

/-! ### Unknown fields -/

/-- Passing over a group puts nothing back, if passing over its fields does not. -/
lemma length_of_skipGroup {skip : Key → Bytes → Except Error Bytes} {tag budget : Nat}
    {b rest : Bytes} (hskip : ∀ key b rest, skip key b = .ok rest → rest.length ≤ b.length)
    (h : skipGroup skip tag budget b = .ok rest) : rest.length ≤ b.length := by
  induction budget generalizing b with
  | zero => simp [skipGroup, fail] at h
  | succ budget ih =>
    rw [skipGroup, Except.bind_eq_ok_iff] at h
    obtain ⟨⟨key, left⟩, hkey, h⟩ := h
    have hread := length_of_readKey hkey
    simp only at h
    split at h
    · split at h
      · cases h
        omega
      · simp [fail] at h
    · rw [Except.bind_eq_ok_iff] at h
      obtain ⟨left', hleft, h⟩ := h
      have := hskip _ _ _ hleft
      have := ih h
      omega

/-- Passing over a field puts nothing back. -/
lemma length_of_skipField {depth : Nat} {key : Key} {b rest : Bytes}
    (h : skipField depth key b = .ok rest) : rest.length ≤ b.length := by
  induction depth generalizing key b rest with
  | zero => simp [skipField, fail] at h
  | succ depth ih =>
    unfold skipField at h
    cases hwire : key.wire with
    | varint =>
      simp only [hwire] at h
      rw [Except.bind_eq_ok_iff] at h
      obtain ⟨⟨n, left⟩, hn, h⟩ := h
      obtain rfl : left = rest := Except.ok.inj h
      have := length_write_of_readVarint hn
      omega
    | thirtyTwoBit | sixtyFourBit =>
      simp only [hwire] at h
      rw [Except.bind_eq_ok_iff] at h
      obtain ⟨⟨octets, left⟩, hn, h⟩ := h
      obtain rfl : left = rest := Except.ok.inj h
      have := length_of_readOctets hn
      omega
    | lengthDelimited =>
      simp only [hwire] at h
      rw [Except.bind_eq_ok_iff] at h
      obtain ⟨⟨n, left⟩, hn, h⟩ := h
      rw [Except.bind_eq_ok_iff] at h
      obtain ⟨⟨octets, left'⟩, hoctets, h⟩ := h
      obtain rfl : left' = rest := Except.ok.inj h
      have hread := length_write_of_readVarint hn
      have hleft : octets.length = n ∧ octets.length + left'.length = left.length :=
        length_of_readOctets hoctets
      omega
    | startGroup =>
      simp only [hwire] at h
      exact length_of_skipGroup (fun _ _ _ hskip => ih hskip) h
    | endGroup => simp [hwire, fail] at h

/-! ### Steps -/

/-- A step puts no more into a message than it takes off the octets, the key included. -/
def Step.IsFrugal {α : Type} (step : Step α) (encode : α → Bytes) : Prop :=
  ∀ depth m key b m' rest, step depth m key b = .ok (m', rest) →
    (encode m').length + rest.length ≤ (encode m).length + key.length + b.length

section IsFrugal

variable {α β : Type} {step : Step α} {encode : α → Bytes}

/-- So do all the steps of a message together. -/
lemma length_of_readFields (hstep : step.IsFrugal encode) {depth limit budget : Nat} {m m' : α}
    {b rest : Bytes} (h : readFields step depth limit budget m b = .ok (m', rest)) :
    (encode m').length + rest.length ≤ (encode m).length + b.length := by
  induction budget generalizing m b with
  | zero =>
    cases h
    exact Nat.le_refl _
  | succ budget ih =>
    rw [readFields] at h
    split at h
    · cases h
      exact Nat.le_refl _
    · rw [Except.bind_eq_ok_iff] at h
      obtain ⟨⟨key, left⟩, hkey, h⟩ := h
      rw [Except.bind_eq_ok_iff] at h
      obtain ⟨⟨m₁, left'⟩, hfield, h⟩ := h
      have hread := length_of_readKey hkey
      have htaken := hstep _ _ _ _ _ _ hfield
      have hrest := ih h
      omega

/-- A nested message costs as much as its octets. -/
lemma costs_readMessage (hstep : step.IsFrugal encode) {empty : α} (hempty : encode empty = []) :
    Costs (readMessage step empty) .lengthDelimited fun m =>
      (Varint.write (encode m).length ++ encode m).length := by
  intro depth wire b m rest h
  unfold readMessage at h
  rw [Except.bind_eq_ok_iff] at h
  obtain ⟨⟨⟩, hwire, h⟩ := h
  refine ⟨eq_of_expect hwire, ?_⟩
  cases depth with
  | zero => simp [fail] at h
  | succ depth =>
    simp only at h
    rw [Except.bind_eq_ok_iff] at h
    obtain ⟨⟨n, left⟩, hn, h⟩ := h
    have hread := length_write_of_readVarint hn
    simp only at h
    split at h
    · simp [fail] at h
    · rw [Except.bind_eq_ok_iff] at h
      obtain ⟨⟨m₁, left'⟩, hfields, h⟩ := h
      have hlength := length_of_readFields hstep hfields
      rw [hempty, List.length_nil] at hlength
      simp only at h
      split at h
      · rename_i hlimit
        cases h
        -- the fields end where the length `n` says, so the message is no longer than `n`
        have hle : (encode m).length ≤ n := by omega
        have hmono := Varint.length_write_mono hle
        simp only [List.length_append]
        omega
      · simp [fail] at h

/-- Octets that are read as a message are no shorter than what is written for it. -/
lemma length_le_of_decode (hstep : step.IsFrugal encode) {empty : α} (hempty : encode empty = [])
    {m : α} {b : Bytes} (h : Wire.decode step empty b = .ok m) :
    (encode m).length ≤ b.length := by
  rw [Wire.decode, Except.bind_eq_ok_iff] at h
  obtain ⟨⟨m₁, left⟩, hfields, h⟩ := h
  obtain rfl : m₁ = m := Except.ok.inj h
  have hlength := length_of_readFields hstep hfields
  rw [hempty, List.length_nil] at hlength
  omega

/-! ### Fields -/

section Fields

variable {tag depth : Nat} {key : Key} {m m' : α} {b rest : Bytes} {message field : String}

/-- A field adds no more to a message than it takes off the octets, if its value does not. -/
lemma le_of_inField (encode : α → Bytes) {read : Reader β} {layout : WireType} {cost : β → Nat}
    (hread : Costs read layout cost) (put : β → α)
    (h : inField message field (do
      let (v, rest) ← read depth key.wire b
      return (put v, rest)) = .ok (m', rest))
    (htag : key.tag = tag)
    (hput : ∀ v, (encode (put v)).length ≤
      (encode m).length + ((writeKey tag layout.number).length + cost v)) :
    (encode m').length + rest.length ≤ (encode m).length + key.length + b.length := by
  rw [inField, Except.mapError_eq_ok_iff, Except.bind_eq_ok_iff] at h
  obtain ⟨⟨v, left⟩, hv, h⟩ := h
  cases h
  obtain ⟨hwire, hcost⟩ := hread _ _ _ _ _ hv
  have hlength := hput v
  rw [Key.length, hwire, htag]
  omega

/-- An unknown field adds nothing. -/
lemma le_of_skipField (encode : α → Bytes)
    (h : (do
      let rest ← skipField depth key b
      return (m, rest)) = Except.ok (m', rest)) :
    (encode m').length + rest.length ≤ (encode m).length + key.length + b.length := by
  rw [Except.bind_eq_ok_iff] at h
  obtain ⟨left, hskip, h⟩ := h
  cases h
  have hleft := length_of_skipField hskip
  omega

/-- Octets in a field take their key, their length and themselves. -/
lemma length_writeBytes (tag : Nat) (b : Bytes) :
    (writeBytes tag b).length =
      (writeKey tag WireType.lengthDelimited.number).length +
        (Varint.write b.length ++ b).length := by
  rw [writeBytes, List.append_assoc, List.length_append]
  rfl

/-- Leaving out a field makes nothing longer. -/
lemma length_writeBytesUnlessEmpty_le (tag : Nat) (b : Bytes) :
    (writeBytesUnlessEmpty tag b).length ≤ (writeBytes tag b).length := by
  unfold writeBytesUnlessEmpty
  split
  · exact Nat.zero_le _
  · exact Nat.le_refl _

/-- A truth value takes an octet and its key, if anything. -/
lemma length_writeFlag_le (tag : Nat) (flag : Bool) :
    (writeFlag tag flag).length ≤ (writeKey tag WireType.varint.number).length + 1 := by
  cases flag with
  | false => exact Nat.zero_le _
  | true => exact Nat.le_of_eq List.length_append

/-- A single field of octets. -/
lemma le_of_bytesField (encode : α → Bytes) (put : Bytes → α)
    (h : inField message field (do
      let (v, rest) ← readBytes depth key.wire b
      return (put v, rest)) = .ok (m', rest))
    (htag : key.tag = tag)
    (hput : ∀ v, (encode (put v)).length ≤
      (encode m).length + (writeBytesUnlessEmpty tag v).length) :
    (encode m').length + rest.length ≤ (encode m).length + key.length + b.length := by
  refine le_of_inField encode costs_readBytes put h htag fun v => ?_
  have hfield := length_writeBytesUnlessEmpty_le tag v
  have hlength := hput v
  rw [length_writeBytes] at hfield
  omega

/-- A single field that is a text. -/
lemma le_of_textField (encode : α → Bytes) (put : String → α)
    (h : inField message field (do
      let (v, rest) ← readText depth key.wire b
      return (put v, rest)) = .ok (m', rest))
    (htag : key.tag = tag)
    (hput : ∀ v, (encode (put v)).length ≤ (encode m).length + (writeText tag v).length) :
    (encode m').length + rest.length ≤ (encode m).length + key.length + b.length := by
  refine le_of_inField encode costs_readText put h htag fun v => ?_
  have hfield := length_writeBytesUnlessEmpty_le tag (Utf8.encode v)
  have hlength := hput v
  rw [length_writeBytes] at hfield
  rw [writeText] at hlength
  omega

/-- A repeated field of texts. -/
lemma le_of_textsField (encode : α → Bytes) (put : String → α)
    (h : inField message field (do
      let (v, rest) ← readText depth key.wire b
      return (put v, rest)) = .ok (m', rest))
    (htag : key.tag = tag)
    (hput : ∀ v, (encode (put v)).length ≤
      (encode m).length + (writeBytes tag (Utf8.encode v)).length) :
    (encode m').length + rest.length ≤ (encode m).length + key.length + b.length := by
  refine le_of_inField encode costs_readText put h htag fun v => ?_
  have hlength := hput v
  rw [length_writeBytes] at hlength
  exact hlength

/-- A repeated field of messages. -/
lemma le_of_messagesField (encode : α → Bytes) {inner : Step β} {encodeInner : β → Bytes}
    (hinner : inner.IsFrugal encodeInner) {empty : β} (hempty : encodeInner empty = [])
    (put : β → α)
    (h : inField message field (do
      let (v, rest) ← readMessage inner empty depth key.wire b
      return (put v, rest)) = .ok (m', rest))
    (htag : key.tag = tag)
    (hput : ∀ v, (encode (put v)).length ≤
      (encode m).length + (writeBytes tag (encodeInner v)).length) :
    (encode m').length + rest.length ≤ (encode m).length + key.length + b.length := by
  refine le_of_inField encode (costs_readMessage hinner hempty) put h htag fun v => ?_
  have hlength := hput v
  rw [length_writeBytes] at hlength
  exact hlength

end Fields

end IsFrugal

end XoLedger.Wire

namespace XoLedger

open Wire

/-! ### The five messages -/

lemma TransactionHeader.step_isFrugal : Step.IsFrugal step encode := by
  intro depth m key b m' rest h
  unfold step at h
  simp only at h
  split at h
  · rename_i htag
    refine le_of_textField encode (fun v => { m with batcherPublicKey := v }) h htag fun v => ?_
    simp only [encode, List.length_append]
    omega
  · rename_i htag
    refine le_of_textsField encode (fun v => { m with dependencies := m.dependencies ++ [v] }) h
      htag fun v => ?_
    simp only [encode, writeTexts, List.flatMap_append, List.flatMap_singleton,
      List.length_append]
    omega
  · rename_i htag
    refine le_of_textField encode (fun v => { m with familyName := v }) h htag fun v => ?_
    simp only [encode, List.length_append]
    omega
  · rename_i htag
    refine le_of_textField encode (fun v => { m with familyVersion := v }) h htag fun v => ?_
    simp only [encode, List.length_append]
    omega
  · rename_i htag
    refine le_of_textsField encode (fun v => { m with inputs := m.inputs ++ [v] }) h htag
      fun v => ?_
    simp only [encode, writeTexts, List.flatMap_append, List.flatMap_singleton,
      List.length_append]
    omega
  · rename_i htag
    refine le_of_textField encode (fun v => { m with nonce := v }) h htag fun v => ?_
    simp only [encode, List.length_append]
    omega
  · rename_i htag
    refine le_of_textsField encode (fun v => { m with outputs := m.outputs ++ [v] }) h htag
      fun v => ?_
    simp only [encode, writeTexts, List.flatMap_append, List.flatMap_singleton,
      List.length_append]
    omega
  · rename_i htag
    refine le_of_textField encode (fun v => { m with payloadSha512 := v }) h htag fun v => ?_
    simp only [encode, List.length_append]
    omega
  · rename_i htag
    refine le_of_textField encode (fun v => { m with signerPublicKey := v }) h htag fun v => ?_
    simp only [encode, List.length_append]
    omega
  · exact le_of_skipField encode h

lemma Transaction.step_isFrugal : Step.IsFrugal step encode := by
  intro depth m key b m' rest h
  unfold step at h
  split at h
  · rename_i htag
    refine le_of_bytesField encode (fun v => { m with header := v }) h htag fun v => ?_
    simp only [encode, List.length_append]
    omega
  · rename_i htag
    refine le_of_textField encode (fun v => { m with headerSignature := v }) h htag fun v => ?_
    simp only [encode, List.length_append]
    omega
  · rename_i htag
    refine le_of_bytesField encode (fun v => { m with payload := v }) h htag fun v => ?_
    simp only [encode, List.length_append]
    omega
  · exact le_of_skipField encode h

lemma BatchHeader.step_isFrugal : Step.IsFrugal step encode := by
  intro depth m key b m' rest h
  unfold step at h
  split at h
  · rename_i htag
    refine le_of_textField encode (fun v => { m with signerPublicKey := v }) h htag fun v => ?_
    simp only [encode, List.length_append]
    omega
  · rename_i htag
    refine le_of_textsField encode (fun v => { m with transactionIds := m.transactionIds ++ [v] })
      h htag fun v => ?_
    simp only [encode, writeTexts, List.flatMap_append, List.flatMap_singleton,
      List.length_append]
    omega
  · exact le_of_skipField encode h

lemma Batch.step_isFrugal : Step.IsFrugal step encode := by
  intro depth m key b m' rest h
  unfold step at h
  split at h
  · rename_i htag
    refine le_of_bytesField encode (fun v => { m with header := v }) h htag fun v => ?_
    simp only [encode, List.length_append]
    omega
  · rename_i htag
    refine le_of_textField encode (fun v => { m with headerSignature := v }) h htag fun v => ?_
    simp only [encode, List.length_append]
    omega
  · rename_i htag
    refine le_of_messagesField encode Transaction.step_isFrugal rfl
      (fun v => { m with transactions := m.transactions ++ [v] }) h htag fun v => ?_
    simp only [encode, List.flatMap_append, List.flatMap_singleton, List.length_append]
    omega
  · rename_i htag
    refine le_of_inField encode costs_readFlag (fun v => { m with trace := v }) h htag fun v => ?_
    have hfield := length_writeFlag_le 4 v
    simp only [encode, List.length_append]
    omega
  · exact le_of_skipField encode h

lemma BatchList.step_isFrugal : Step.IsFrugal step encode := by
  intro depth m key b m' rest h
  unfold step at h
  split at h
  · rename_i htag
    refine le_of_messagesField encode Batch.step_isFrugal rfl
      (fun v => { m with batches := m.batches ++ [v] }) h htag fun v => ?_
    simp only [encode, List.flatMap_append, List.flatMap_singleton, List.length_append]
    omega
  · exact le_of_skipField encode h

end XoLedger
