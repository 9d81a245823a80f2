import Mathlib.Tactic.Lemma
import XoLedger.Proofs.Wire.Field
import XoLedger.Wire.Message

/-!
# Headers are read back

A header is its fields in the order of their tags, those with default values left out. Each field
takes the header from the fields before it to itself, so all of them take the empty header to the
one that was written. The only condition is that no text is longer than a length can say.
-/

namespace XoLedger

namespace Wire

variable {α : Type} {step : Step α} {depth tag : Nat}

/-- A step takes a text and puts it into its place. -/
def IsTextStep (step : Step α) (depth tag : Nat) (m : α) (put : String → α) : Prop :=
  ∃ message field, ∀ b, step depth m ⟨tag, .lengthDelimited⟩ b =
    inField message field (do
      let (s, rest) ← readText depth .lengthDelimited b
      return (put s, rest))

namespace Takes

/-- A text that is written takes a message to the one with the text in its place. -/
lemma writeBytes_encode {m : α} {put : String → α} (hstep : IsTextStep step depth tag m put)
    (hpos : 0 < tag) (hlt : tag < 2 ^ 29) {s : String}
    (h : (writeBytes tag (Utf8.encode s)).length < 2 ^ 64) :
    Takes step depth (writeBytes tag (Utf8.encode s)) m (put s) := by
  have htext : IsStepBy readText step depth tag .lengthDelimited m put := hstep
  rw [writeBytes, List.length_append] at h
  rw [writeBytes, List.append_assoc]
  exact Takes.value htext rfl (by omega) hpos hlt (readText_write (by omega) depth)

/-- The same for a text that is left out when it is empty, if its place is empty before. -/
lemma writeText {m : α} (put : String → α) (hstep : IsTextStep step depth tag m put)
    (hempty : put "" = m) (hpos : 0 < tag) (hlt : tag < 2 ^ 29) {s : String}
    (h : (Wire.writeText tag s).length < 2 ^ 64) :
    Takes step depth (Wire.writeText tag s) m (put s) := by
  rw [Wire.writeText, writeBytesUnlessEmpty] at h ⊢
  by_cases hnil : Utf8.encode s = []
  · have hs : s = "" := Utf8.encode_injective hnil
    rw [if_pos hnil, hs, hempty]
    exact Takes.nil
  · rw [if_neg hnil] at h ⊢
    exact writeBytes_encode hstep hpos hlt h

/-- Texts that are written one after the other are put behind those that are there. -/
lemma writeTexts (put : List String → α)
    (hstep : ∀ before, IsTextStep step depth tag (put before) fun s => put (before ++ [s]))
    (hpos : 0 < tag) (hlt : tag < 2 ^ 29) {ss : List String}
    (h : (Wire.writeTexts tag ss).length < 2 ^ 64) (before : List String) :
    Takes step depth (Wire.writeTexts tag ss) (put before) (put (before ++ ss)) := by
  induction ss generalizing before with
  | nil =>
    rw [List.append_nil]
    exact Takes.nil
  | cons s ss ih =>
    rw [Wire.writeTexts, List.flatMap_cons, List.length_append, ← Wire.writeTexts] at h
    rw [Wire.writeTexts, List.flatMap_cons, List.append_cons]
    have hfirst := writeBytes_encode (hstep before) hpos hlt
      (show (writeBytes tag (Utf8.encode s)).length < 2 ^ 64 by omega)
    exact hfirst.append (ih (by omega) (before ++ [s]))

end Takes

end Wire

open Wire

/-! ### The two headers -/

/-- **A transaction header is read back**, if its octets can be counted in 64 bits. -/
theorem TransactionHeader.decode_encode {m : TransactionHeader} (h : m.encode.length < 2 ^ 64) :
    decode m.encode = .ok m := by
  obtain ⟨batcherPublicKey, dependencies, familyName, familyVersion, inputs, nonce, outputs,
    payloadSha512, signerPublicKey⟩ := m
  simp only [encode, List.length_append] at h
  -- each step starts from the fields before it
  let m₀ : TransactionHeader := {}
  let m₁ : TransactionHeader := { m₀ with batcherPublicKey }
  let m₂ : TransactionHeader := { m₁ with dependencies }
  let m₃ : TransactionHeader := { m₂ with familyName }
  let m₄ : TransactionHeader := { m₃ with familyVersion }
  let m₅ : TransactionHeader := { m₄ with inputs }
  let m₆ : TransactionHeader := { m₅ with nonce }
  let m₇ : TransactionHeader := { m₆ with outputs }
  let m₈ : TransactionHeader := { m₇ with payloadSha512 }
  have h₁ : Takes step maxDepth (writeText 1 batcherPublicKey) m₀ m₁ :=
    Takes.writeText (fun s => { m₀ with batcherPublicKey := s })
      ⟨"TransactionHeader", "batcher_public_key", fun _ => rfl⟩ rfl
      (by omega) (by omega) (by omega)
  have h₂ : Takes step maxDepth (writeTexts 2 dependencies) m₁ m₂ :=
    Takes.writeTexts (fun ss => { m₁ with dependencies := ss })
      (fun _ => ⟨"TransactionHeader", "dependencies", fun _ => rfl⟩)
      (by omega) (by omega) (by omega) []
  have h₃ : Takes step maxDepth (writeText 3 familyName) m₂ m₃ :=
    Takes.writeText (fun s => { m₂ with familyName := s })
      ⟨"TransactionHeader", "family_name", fun _ => rfl⟩ rfl
      (by omega) (by omega) (by omega)
  have h₄ : Takes step maxDepth (writeText 4 familyVersion) m₃ m₄ :=
    Takes.writeText (fun s => { m₃ with familyVersion := s })
      ⟨"TransactionHeader", "family_version", fun _ => rfl⟩ rfl
      (by omega) (by omega) (by omega)
  have h₅ : Takes step maxDepth (writeTexts 5 inputs) m₄ m₅ :=
    Takes.writeTexts (fun ss => { m₄ with inputs := ss })
      (fun _ => ⟨"TransactionHeader", "inputs", fun _ => rfl⟩)
      (by omega) (by omega) (by omega) []
  have h₆ : Takes step maxDepth (writeText 6 nonce) m₅ m₆ :=
    Takes.writeText (fun s => { m₅ with nonce := s })
      ⟨"TransactionHeader", "nonce", fun _ => rfl⟩ rfl
      (by omega) (by omega) (by omega)
  have h₇ : Takes step maxDepth (writeTexts 7 outputs) m₆ m₇ :=
    Takes.writeTexts (fun ss => { m₆ with outputs := ss })
      (fun _ => ⟨"TransactionHeader", "outputs", fun _ => rfl⟩)
      (by omega) (by omega) (by omega) []
  have h₉ : Takes step maxDepth (writeText 9 payloadSha512) m₇ m₈ :=
    Takes.writeText (fun s => { m₇ with payloadSha512 := s })
      ⟨"TransactionHeader", "payload_sha512", fun _ => rfl⟩ rfl
      (by omega) (by omega) (by omega)
  have h₁₀ : Takes step maxDepth (writeText 10 signerPublicKey) m₈ { m₈ with signerPublicKey } :=
    Takes.writeText (fun s => { m₈ with signerPublicKey := s })
      ⟨"TransactionHeader", "signer_public_key", fun _ => rfl⟩ rfl
      (by omega) (by omega) (by omega)
  exact ((((((((h₁.append h₂).append h₃).append h₄).append h₅).append h₆).append h₇).append
    h₉).append h₁₀).decode

/-- **A batch header is read back**, if its octets can be counted in 64 bits. -/
theorem BatchHeader.decode_encode {m : BatchHeader} (h : m.encode.length < 2 ^ 64) :
    decode m.encode = .ok m := by
  obtain ⟨signerPublicKey, transactionIds⟩ := m
  simp only [encode, List.length_append] at h
  let m₀ : BatchHeader := {}
  let m₁ : BatchHeader := { m₀ with signerPublicKey }
  have h₁ : Takes step maxDepth (writeText 1 signerPublicKey) m₀ m₁ :=
    Takes.writeText (fun s => { m₀ with signerPublicKey := s })
      ⟨"BatchHeader", "signer_public_key", fun _ => rfl⟩ rfl
      (by omega) (by omega) (by omega)
  have h₂ : Takes step maxDepth (writeTexts 2 transactionIds) m₁ { m₁ with transactionIds } :=
    Takes.writeTexts (fun ss => { m₁ with transactionIds := ss })
      (fun _ => ⟨"BatchHeader", "transaction_ids", fun _ => rfl⟩)
      (by omega) (by omega) (by omega) []
  exact (h₁.append h₂).decode

end XoLedger
