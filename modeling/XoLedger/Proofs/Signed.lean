import XoLedger.Proofs.Act
import XoLedger.Proofs.Game.Intent
import XoLedger.Proofs.Signature.Ecdsa
import XoLedger.Proofs.Wire.Message
import XoLedger.Signed

/-!
# What signed batches hold

Some moves of a player become a batch: each is made into a signed transaction, and the
transactions are put under a signed header in their order. The headers are read back as what they
were written from, so a reader of the batch finds the digest of each payload, the address of each
game, and the identifiers of the transactions in order; and every signature is accepted. Nothing
but signing can fail on names without commas.
-/

namespace XoLedger

open Course

/-- What a player intends with a game. -/
structure Move where
  /-- The name of the game. -/
  gameName : String
  /-- What is intended with it. -/
  intent : Intent
  /-- What makes the move unlike others of the same content. -/
  nonce : String

variable {σ : Type}

/-! ### Transactions -/

namespace Transaction

/-- A transaction says what a move intends, in the name of a signer. -/
structure SignedFor (signer : Signer) (move : Move) (t : Transaction) : Prop where
  /-- The payload is that of the intent. -/
  payload : Payload.ofIntent move.gameName move.intent = .ok t.payload
  /-- The header is read as what it has to say. -/
  header : t.header.length < 2 ^ 64 → TransactionHeader.decode t.header = .ok
    { batcherPublicKey := signer.publicKey
      dependencies := []
      familyName := "xo"
      familyVersion := "1.0"
      inputs := [Address.ofName move.gameName]
      nonce := move.nonce
      outputs := [Address.ofName move.gameName]
      payloadSha512 := Sha512.hex t.payload
      signerPublicKey := signer.publicKey }
  /-- The signature over the header is accepted. -/
  signature : Signature.check t.headerSignature t.header signer.publicKey = .ok true

/-- How making a transaction ends. -/
def outcome (signer : Signer) (move : Move) : Except Fault Transaction := do
  let payload ← (Payload.ofIntent move.gameName move.intent).mapError fun e =>
    .badRequest e.message
  let header := (headerOf signer.publicKey move.gameName move.nonce payload).encode
  let signature ← signer.sign header
  return { header, headerSignature := signature, payload }

/-- Making a transaction ends like this in every world, and changes none. -/
lemma tells_signed (signer : Signer) (move : Move) :
    Tells (signed signer move.gameName move.intent move.nonce : Course σ Transaction)
      (outcome signer move) := by
  rw [signed, outcome]
  refine (Tells.ofExcept _ _).bind fun payload => (Tells.ofExcept_id _).bind fun signature => ?_
  exact (Tells.note _ _).bind fun _ => Tells.pure _

/-- A transaction that is made says what its move intends. -/
lemma signedFor_of_outcome {signer : Signer} {move : Move} {t : Transaction}
    (h : outcome signer move = .ok t) : t.SignedFor signer move := by
  obtain ⟨payload, hpayload, h⟩ := Except.bind_eq_ok_iff.mp h
  obtain ⟨signature, hsign, h⟩ := Except.bind_eq_ok_iff.mp h
  cases h
  exact ⟨Except.mapError_eq_ok_iff.mp hpayload, fun hlength =>
    TransactionHeader.decode_encode hlength, Signer.check_of_sign hsign⟩

/-- The octets of the header that a move is signed under. -/
def IsHeaderFor (signer : Signer) (move : Move) (header : Bytes) : Prop :=
  ∃ payload, Payload.ofIntent move.gameName move.intent = .ok payload ∧
    header = (headerOf signer.publicKey move.gameName move.nonce payload).encode

/-- On a name without a comma, making a transaction fails only if signing its header does. -/
lemma exists_header_of_outcome {signer : Signer} {move : Move} {fault : Fault}
    (hcomma : ',' ∉ move.gameName.toList) (h : outcome signer move = .error fault) :
    ∃ header, IsHeaderFor signer move header ∧ signer.sign header = .error fault := by
  have hpayload := Payload.ofIntent_of_comma_not_mem hcomma move.intent
  refine ⟨_, ⟨_, hpayload, rfl⟩, ?_⟩
  rw [outcome, hpayload, Except.mapError_ok, Except.ok_bind] at h
  exact Except.bind_pure_eq_error_iff.mp h

/-- **A name with a comma is refused** before anything is signed or noted. -/
theorem signed_of_comma_mem {gameName : String} (h : ',' ∈ gameName.toList) (signer : Signer)
    (intent : Intent) (nonce : String) (world : σ) :
    (signed signer gameName intent nonce).run world =
      ⟨.error (.badRequest (Payload.Error.message ⟨.gameName, gameName⟩)), [], world⟩ := by
  rw [signed, Payload.ofIntent_of_comma_mem h]
  rfl

end Transaction

/-! ### Batches -/

namespace Batch

/-- Makes some moves into transactions, one after the other, and those into a batch. -/
def ofMoves (signer : Signer) (moves : List Move) : Course σ Batch := do
  let transactions ← moves.mapM fun m =>
    Transaction.signed signer m.gameName m.intent m.nonce
  Course.ofExcept id (signed signer transactions)

/-- A batch puts some transactions under the name of a signer. -/
structure SignedOver (signer : Signer) (transactions : List Transaction) (b : Batch) : Prop where
  /-- The transactions are kept as they are and in their order. -/
  keeps : b.transactions = transactions
  /-- The header is read as the signer and the identifiers of the transactions, in order. -/
  header : b.header.length < 2 ^ 64 → BatchHeader.decode b.header = .ok
    { signerPublicKey := signer.publicKey
      transactionIds := transactions.map Transaction.headerSignature }
  /-- The signature over the header is accepted. -/
  signature : Signature.check b.headerSignature b.header signer.publicKey = .ok true
  /-- No log is asked for. -/
  trace : b.trace = false

/-- Some transactions, one at least, become a batch unless signing its header fails. -/
lemma signed_cases (signer : Signer) {transactions : List Transaction} (hne : transactions ≠ []) :
    (∃ batch, signed signer transactions = .ok batch ∧ SignedOver signer transactions batch) ∨
      ∃ fault, signer.sign (headerOf signer.publicKey transactions).encode = .error fault ∧
        signed signer transactions = .error fault := by
  have hsigned : signed signer transactions =
      signer.sign (headerOf signer.publicKey transactions).encode >>= fun signature => pure
        { header := (headerOf signer.publicKey transactions).encode
          headerSignature := signature
          transactions
          trace := false } := by
    rw [signed, if_neg hne]
  rcases hsign : signer.sign (headerOf signer.publicKey transactions).encode
    with fault | signature
  · rw [hsign, Except.error_bind] at hsigned
    exact .inr ⟨fault, rfl, hsigned⟩
  · rw [hsign, Except.ok_bind] at hsigned
    exact .inl ⟨_, hsigned, rfl, fun hlength => BatchHeader.decode_encode hlength,
      Signer.check_of_sign hsign, rfl⟩

/-- The octets of a header that is signed on the way from some moves to a batch. -/
inductive SignedHeader (signer : Signer) (moves : List Move) : Bytes → Prop where
  /-- The header of a transaction. -/
  | transaction {m : Move} {header : Bytes} (hmem : m ∈ moves)
    (hheader : Transaction.IsHeaderFor signer m header) : SignedHeader signer moves header
  /-- The header of the batch, once all transactions are made. -/
  | batch {transactions : List Transaction}
    (hmade : List.Forall₂ (fun m t => Transaction.outcome signer m = .ok t) moves transactions) :
    SignedHeader signer moves (headerOf signer.publicKey transactions).encode

/-- How making a batch ends, in every world. -/
lemma tells_ofMoves (signer : Signer) (moves : List Move) :
    Tells (ofMoves signer moves : Course σ Batch)
      (moves.mapM (Transaction.outcome signer) >>= signed signer) := by
  rw [ofMoves]
  exact (Tells.mapM (Transaction.tells_signed signer) moves).bind fun transactions =>
    Tells.ofExcept_id (signed signer transactions)

/-- **Moves become a signed batch.** If no name holds a comma, then some moves, one at least,
become a batch of one transaction for each of them, in their order; every header in it is read as
what it has to say, and every signature is accepted. Only signing one of the headers can fail. -/
theorem ofMoves_run (signer : Signer) {moves : List Move} (hne : moves ≠ [])
    (hcomma : ∀ m ∈ moves, ',' ∉ m.gameName.toList) (world : σ) :
    (∃ transactions batch, ((ofMoves signer moves).run world).value = .ok batch ∧
      List.Forall₂ (fun m t =>
        ((Transaction.signed signer m.gameName m.intent m.nonce).run world).value = .ok t ∧
          t.SignedFor signer m) moves transactions ∧
      SignedOver signer transactions batch) ∨
    ∃ header fault, SignedHeader signer moves header ∧ signer.sign header = .error fault ∧
      ((ofMoves signer moves).run world).value = .error fault := by
  rw [(tells_ofMoves signer moves world).1]
  rcases Except.mapM_cases (Transaction.outcome signer) moves with
    ⟨transactions, hmapM, hall⟩ | ⟨m, hmem, fault, hfault, hmapM⟩
  · have hlength : moves.length = transactions.length := hall.length_eq
    have htransactions : transactions ≠ [] := by
      rw [← List.length_pos_iff, ← hlength, List.length_pos_iff]
      exact hne
    rw [hmapM, Except.ok_bind]
    rcases signed_cases signer htransactions with ⟨batch, hbatch, hover⟩ | ⟨fault, hfault, hbatch⟩
    · refine .inl ⟨transactions, batch, hbatch, hall.imp fun m t h => ⟨?_, ?_⟩, hover⟩
      · rw [(Transaction.tells_signed signer m world).1, h]
      · exact Transaction.signedFor_of_outcome h
    · exact .inr ⟨_, fault, .batch hall, hfault, hbatch⟩
  · obtain ⟨header, hheader, hsign⟩ :=
      Transaction.exists_header_of_outcome (hcomma m hmem) hfault
    rw [hmapM, Except.error_bind]
    exact .inr ⟨header, fault, .transaction hmem hheader, hsign, rfl⟩

/-- A player with the smallest key opens a game and makes the first mark. -/
theorem ofMoves_run_opening :
    let signer := Signer.ofKey ⟨1, by decide, by decide⟩
    let moves : List Move := [⟨"mine", .create, "a"⟩, ⟨"mine", .take 5, "b"⟩]
    (∃ transactions batch, ((ofMoves signer moves).run ()).value = .ok batch ∧
      List.Forall₂ (fun m t =>
        ((Transaction.signed signer m.gameName m.intent m.nonce).run ()).value = .ok t ∧
          t.SignedFor signer m) moves transactions ∧
      SignedOver signer transactions batch) ∨
    ∃ header fault, SignedHeader signer moves header ∧ signer.sign header = .error fault ∧
      ((ofMoves signer moves).run ()).value = .error fault :=
  ofMoves_run (Signer.ofKey ⟨1, by decide, by decide⟩) (by decide) (by decide) ()

end Batch

end XoLedger
