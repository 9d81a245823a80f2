import XoLedger.Proofs.Game.Payload
import XoLedger.Proofs.Gateway.Calls
import XoLedger.Proofs.Header
import XoLedger.Proofs.Projection
import XoLedger.Proofs.Signed
import XoLedger.Proofs.Submission

/-!
# What a player's intent is on the wire

A player opens a game or takes a cell. Some requests make no sense, and nothing is asked of the
gateway for them. For any other, unless it cannot be signed, the first call submits one batch of one
transaction. Its payload has three fields, and its header names the one address at which the game is
read later.
-/

namespace XoLedger

open Course

/-! ### What a batch says -/

/-- A transaction whose payload has the given fields, and whose header says that one address is
read and written and no other. -/
structure Transaction.Says (t : Transaction) (fields : List String) (address : String) : Prop where
  /-- The payload is cut at its commas. -/
  payload : ∃ text, Utf8.decode t.payload = .ok text ∧ split ',' text = fields
  /-- The header is read. -/
  header : ∃ header, TransactionHeader.decode t.header = .ok header ∧
    header.inputs = [address] ∧ header.outputs = [address]

/-- What is intended with a game, as the fields of a payload. -/
def Intent.fields (intent : Intent) (name : String) : List String :=
  [name, intent.name, intent.argument]

variable {σ : Type} {name : String} {intent : Intent} {random : Bytes}

/-- A transaction that is made says what is intended, at the address of the game. -/
lemma Transaction.says_of_outcome {signer : Signer} {t : Transaction} (hcomma : ',' ∉ name.toList)
    (h : outcome signer ⟨name, intent, Nonce.ofRandom random⟩ = .ok t) :
    t.Says (intent.fields name) (Address.ofName name) := by
  rw [outcome, Payload.ofIntent_of_comma_not_mem hcomma, Except.mapError_ok, Except.ok_bind] at h
  obtain ⟨signature, -, h⟩ := Except.bind_eq_ok_iff.mp h
  cases h
  refine ⟨⟨_, Utf8.decode_encode _, ?_⟩, ⟨_, TransactionHeader.decode_encode ?_, rfl, rfl⟩⟩
  · exact Payload.split_fields hcomma intent.comma_not_mem_name intent.comma_not_mem_argument
  · exact length_header_lt signer name random _

namespace Batch

/-- How making the batch of one move ends. -/
def outcome (signer : Signer) (move : Move) : Except Fault Batch :=
  Transaction.outcome signer move >>= fun t => signed signer [t]

lemma tells_ofIntent (signer : Signer) (move : Move) :
    Tells (ofIntent signer move.gameName move.intent move.nonce : Course σ Batch)
      (outcome signer move) :=
  (Transaction.tells_signed signer move).bind fun t => Tells.ofExcept_id (signed signer [t])

/-- A name with a comma is refused. -/
lemma outcome_of_comma_mem (hcomma : ',' ∈ name.toList) (signer : Signer) (intent : Intent)
    (nonce : String) :
    outcome signer ⟨name, intent, nonce⟩ =
      .error (.badRequest (Payload.Error.message ⟨.gameName, name⟩)) := by
  rw [outcome, Transaction.outcome, Payload.ofIntent_of_comma_mem hcomma]
  rfl

/-- A name without a comma has a batch that says what is intended, unless signing fails. -/
lemma outcome_cases (signer : Signer) (hcomma : ',' ∉ name.toList) (intent : Intent)
    (random : Bytes) :
    (∃ batch t, outcome signer ⟨name, intent, Nonce.ofRandom random⟩ = .ok batch ∧
      batch.transactions = [t] ∧ t.Says (intent.fields name) (Address.ofName name)) ∨
    ∃ header fault, SignedHeader signer [⟨name, intent, Nonce.ofRandom random⟩] header ∧
      signer.sign header = .error fault ∧
      outcome signer ⟨name, intent, Nonce.ofRandom random⟩ = .error fault := by
  rw [outcome]
  cases ht : Transaction.outcome signer ⟨name, intent, Nonce.ofRandom random⟩ with
  | error fault =>
    obtain ⟨header, hheader, hsign⟩ := Transaction.exists_header_of_outcome hcomma ht
    exact .inr ⟨header, fault, .transaction List.mem_cons_self hheader, hsign, rfl⟩
  | ok t =>
    rw [Except.ok_bind]
    rcases signed_cases signer (List.cons_ne_nil t []) with
      ⟨batch, hbatch, hover⟩ | ⟨fault, hsign, hbatch⟩
    · exact .inl ⟨batch, t, hbatch, hover.keeps, Transaction.says_of_outcome hcomma ht⟩
    · exact .inr ⟨_, fault, .batch (.cons ht .nil), hsign, hbatch⟩

end Batch

/-! ### What becomes of a request -/

/-- What a client did for a request, with the calls that it made. -/
abbrev Attempt (σ : Type) : Type := Trace (σ × List Call) (Except Fault SubmissionOutcome)

namespace Attempt

variable {t : Attempt σ} {signer : Signer} {move : Move} {fields : List String} {address : String}

/-- The request makes no sense, and no call is made. -/
def IsRefused (t : Attempt σ) : Prop :=
  (∃ reason, t.value = .error (.badRequest reason)) ∧ t.world.2 = []

/-- A header on the way to a batch cannot be signed, and no call is made. -/
def IsUnsigned (t : Attempt σ) (signer : Signer) (move : Move) : Prop :=
  ∃ header fault, Batch.SignedHeader signer [move] header ∧ signer.sign header = .error fault ∧
    t.value = .error fault ∧ t.world.2 = []

/-- The first call submits one batch of one transaction. -/
def IsSent (t : Attempt σ) (fields : List String) (address : String) : Prop :=
  ∃ batch transaction later, t.world.2 = .submit ⟨[batch]⟩ :: later ∧
    batch.transactions = [transaction] ∧ transaction.Says fields address

/-- What cannot be signed makes sense. -/
lemma IsUnsigned.not_isRefused (h : t.IsUnsigned signer move) : ¬ t.IsRefused := by
  obtain ⟨header, fault, -, hsign, hvalue, -⟩ := h
  obtain ⟨reason, rfl⟩ := Signer.exists_of_sign_eq_error hsign
  rintro ⟨⟨reason', hreason⟩, -⟩
  rw [hvalue] at hreason
  exact absurd hreason (by simp)

/-- What is sent is not refused. -/
lemma IsSent.not_isRefused (h : t.IsSent fields address) : ¬ t.IsRefused := by
  obtain ⟨batch, transaction, later, hcalls, -⟩ := h
  rintro ⟨-, hnone⟩
  rw [hcalls] at hnone
  exact absurd hnone (List.cons_ne_nil _ _)

end Attempt

namespace Client

/-- Where no batch can be made, that is all. -/
lemma play_run_of_error {client : Client σ} {fault : Fault}
    (h : Batch.outcome client.signer ⟨name, intent, Nonce.ofRandom random⟩ = .error fault)
    (world : σ) :
    ((client.play random name intent).run world).value = .error fault ∧
      ((client.play random name intent).run world).world = world := by
  obtain ⟨hvalue, hworld⟩ := Batch.tells_ofIntent client.signer
    ⟨name, intent, Nonce.ofRandom random⟩ world
  rw [h] at hvalue
  rw [play, bind_run_of_error hvalue, hworld]
  exact ⟨rfl, rfl⟩

/-- Where a batch can be made, it is submitted. -/
lemma play_run_of_ok {client : Client σ} {batch : Batch}
    (h : Batch.outcome client.signer ⟨name, intent, Nonce.ofRandom random⟩ = .ok batch)
    (world : σ) :
    ((client.play random name intent).run world).value =
        ((client.submitBatch batch).run world).value ∧
      ((client.play random name intent).run world).world =
        ((client.submitBatch batch).run world).world := by
  obtain ⟨hvalue, hworld⟩ := Batch.tells_ofIntent client.signer
    ⟨name, intent, Nonce.ofRandom random⟩ world
  rw [h] at hvalue
  rw [play, bind_run_of_ok hvalue, hworld]
  exact ⟨rfl, rfl⟩

open Attempt

variable {client : Client (σ × List Call)} {world : σ}

/-- Submitting a batch starts with that call. -/
lemma calls_of_submitBatch (hgateway : client.gateway.PassesOn) (batch : Batch) (world : σ) :
    ∃ later, ((client.submitBatch batch).run (world, [])).world.2 = .submit ⟨[batch]⟩ :: later := by
  obtain ⟨n, hn⟩ := hgateway.submit ⟨[batch]⟩ (world, [])
  rw [List.nil_append, List.replicate_succ] at hn
  -- whether or not the batch is asked about afterwards, the calls so far stay in front
  cases hvalue : ((client.gateway.submit ⟨[batch]⟩).run (world, [])).value with
  | error fault =>
    rw [submitBatch, bind_run_of_error hvalue, hn]
    exact ⟨_, rfl⟩
  | ok submission =>
    obtain ⟨m, hm⟩ := hgateway.status submission.batchId client.settings.batchWaitSecs
      ((client.gateway.submit ⟨[batch]⟩).run (world, [])).world
    rw [(submitBatch_run_of_submitted hvalue).2, hm, hn]
    exact ⟨_, rfl⟩

/-- What is intended with a game is refused exactly if the name holds a comma. Otherwise it is sent,
unless it cannot be signed. -/
lemma play_cases (hgateway : client.gateway.PassesOn) (random : Bytes) (name : String)
    (intent : Intent) (world : σ) :
    let t : Attempt σ := (client.play random name intent).run (world, [])
    (t.IsRefused ↔ ',' ∈ name.toList) ∧
      (t.IsRefused ∨ t.IsUnsigned client.signer ⟨name, intent, Nonce.ofRandom random⟩ ∨
        t.IsSent (intent.fields name) (Address.ofName name)) := by
  intro t
  by_cases hcomma : ',' ∈ name.toList
  · -- nothing is signed and nothing is submitted
    obtain ⟨hvalue, hworld⟩ :=
      play_run_of_error (Batch.outcome_of_comma_mem hcomma client.signer intent _)
        (world, ([] : List Call))
    have hrefused : t.IsRefused := ⟨⟨_, hvalue⟩, congrArg Prod.snd hworld⟩
    exact ⟨iff_of_true hrefused hcomma, .inl hrefused⟩
  · rcases Batch.outcome_cases client.signer hcomma intent random with
      ⟨batch, transaction, hbatch, htransactions, hsays⟩ | ⟨header, fault, hheader, hsign, hfault⟩
    · obtain ⟨later, hcalls⟩ := calls_of_submitBatch hgateway batch world
      rw [← (play_run_of_ok hbatch _).2] at hcalls
      have hsent : t.IsSent (intent.fields name) (Address.ofName name) :=
        ⟨batch, transaction, later, hcalls, htransactions, hsays⟩
      exact ⟨iff_of_false hsent.not_isRefused hcomma, .inr (.inr hsent)⟩
    · obtain ⟨hvalue, hworld⟩ := play_run_of_error hfault (world, ([] : List Call))
      have hunsigned : t.IsUnsigned client.signer ⟨name, intent, Nonce.ofRandom random⟩ :=
        ⟨header, fault, hheader, hsign, hvalue, congrArg Prod.snd hworld⟩
      exact ⟨iff_of_false hunsigned.not_isRefused hcomma, .inr (.inl hunsigned)⟩

/-- A request that is checked first is refused also where the check finds fault with it. -/
lemma checked_cases (hgateway : client.gateway.PassesOn) (random : Bytes) (name : String)
    (intent : Intent) (world : σ) (senseless : Prop) [Decidable senseless] (reason : String) :
    let t : Attempt σ := ExceptT.run (if senseless then throw (.badRequest reason)
      else client.play random name intent) (world, [])
    (t.IsRefused ↔ senseless ∨ ',' ∈ name.toList) ∧
      (t.IsRefused ∨ t.IsUnsigned client.signer ⟨name, intent, Nonce.ofRandom random⟩ ∨
        t.IsSent (intent.fields name) (Address.ofName name)) := by
  intro t
  by_cases hsenseless : senseless
  · have hrefused : t.IsRefused := by
      simp only [t, if_pos hsenseless]
      exact ⟨⟨reason, rfl⟩, rfl⟩
    exact ⟨iff_of_true hrefused (.inl hsenseless), .inl hrefused⟩
  · have hplay : t = (client.play random name intent).run (world, []) := by
      simp only [t, if_neg hsenseless]
    rw [hplay, or_iff_right hsenseless]
    exact play_cases hgateway random name intent world

/-- The game of a name is read at one address, and all games are read at one that finds it. -/
def ReadsAt (client : Client (σ × List Call)) (name address : String) : Prop :=
  (∀ world, ∃ n, (client.refreshOne name (world, [])).world.2 =
    List.replicate (n + 1) (.fetch address)) ∧
  ∃ shared, shared.toList <+: address.toList ∧
    ∀ world, ∃ n, (client.refreshAll (world, [])).world.2 =
      List.replicate (n + 1) (.fetch shared)

/-- Games are read where their names say. -/
lemma readsAt_ofName (hgateway : client.projector.gateway.PassesOn) (name : String) :
    client.ReadsAt name (Address.ofName name) := by
  refine ⟨fun world => ?_, Address.gamePrefix, Address.gamePrefix_isPrefix name, fun world => ?_⟩
  · obtain ⟨n, hn⟩ := hgateway.fetch (Address.ofName name) (world, [])
    rw [← client.projector.world_refreshOne] at hn
    exact ⟨n, hn⟩
  · obtain ⟨n, hn⟩ := hgateway.fetch Address.gamePrefix (world, [])
    rw [← client.projector.world_refreshAll] at hn
    exact ⟨n, hn⟩

/-- A cell is refused exactly if it is not one of the nine on the board. -/
lemma senseless_space_iff (space : UInt8) :
    space = 0 ∨ Game.cells < space.toNat ↔ ¬ (1 ≤ space.toNat ∧ space.toNat ≤ 9) := by
  have hcells : Game.cells = 9 := rfl
  rw [hcells, ← UInt8.toNat_inj, UInt8.toNat_zero]
  omega

/-- **What an intent puts on the wire, and what it keeps off it.** A client, whose gateway may or
may not be tried again, opens a game or takes a cell. It refuses the request and makes no call
exactly if the name of the new game is blank, the cell is not on the board, or the name holds a
comma. In all other cases, unless a header cannot be signed, its first call submits one batch of
one transaction: the payload has the fields for what is intended, and the header reads and writes
one address, at which the client reads the game, and which is found when it reads all games. -/
theorem calls_of_intents {c : Client σ} {client : Client (σ × List Call)}
    (hclient : client = c.recorded ∨ ∃ policy, client = c.recorded.retrying policy)
    (random : Bytes) (name : String) (space : UInt8) (world : σ) :
    let created : Attempt σ := (client.createGame random name).run (world, [])
    let taken : Attempt σ := (client.takeSpace random name space).run (world, [])
    (created.IsRefused ↔ trim name = "" ∨ ',' ∈ name.toList) ∧
      (created.IsRefused ∨
        created.IsUnsigned c.signer ⟨name, .create, Nonce.ofRandom random⟩ ∨
        created.IsSent [name, "create", "null"] (Address.ofName name)) ∧
      (taken.IsRefused ↔
        ¬ (1 ≤ space.toNat ∧ space.toNat ≤ 9) ∨ ',' ∈ name.toList) ∧
      (taken.IsRefused ∨
        taken.IsUnsigned c.signer ⟨name, .take space, Nonce.ofRandom random⟩ ∨
        taken.IsSent [name, "take", toString space.toNat] (Address.ofName name)) ∧
      client.ReadsAt name (Address.ofName name) := by
  intro created taken
  have hpasses : client.signer = c.signer ∧ client.gateway.PassesOn ∧
      client.projector.gateway.PassesOn := by
    rcases hclient with rfl | ⟨policy, rfl⟩
    · exact ⟨rfl, Gateway.passesOn_recorded _, Gateway.passesOn_recorded _⟩
    · exact ⟨rfl, (Gateway.passesOn_recorded _).retrying policy,
        (Gateway.passesOn_recorded _).retrying policy⟩
  obtain ⟨hsigner, hgateway, hprojector⟩ := hpasses
  obtain ⟨hcreated, hcreated'⟩ := checked_cases hgateway random name .create world
    (trim name = "") "Game name is empty"
  obtain ⟨htaken, htaken'⟩ := checked_cases hgateway random name (.take space) world
    (space = 0 ∨ Game.cells < space.toNat)
    s!"Space must be between 1 and {Game.cells}, got {space.toNat}"
  have htaken_iff := htaken.trans (or_congr_left (senseless_space_iff space))
  rw [hsigner] at hcreated' htaken'
  exact ⟨hcreated, hcreated', htaken_iff, htaken', readsAt_ofName hprojector name⟩

/-- A player with the smallest key takes the last cell of a game, with three calls at most for each
answer. The request is not refused. -/
theorem calls_of_intents_last_cell :
    let c : Client MemoryLedger :=
      ofGateway {} (.ofKey ⟨1, by decide, by decide⟩) MemoryLedger.gateway
    let client := c.recorded.retrying ⟨3, 1500⟩
    let taken : Attempt MemoryLedger := (client.takeSpace [7] " Игра 1" 9).run ({}, [])
    ¬ taken.IsRefused ∧
      (taken.IsUnsigned c.signer ⟨" Игра 1", .take 9, Nonce.ofRandom [7]⟩ ∨
        taken.IsSent [" Игра 1", "take", "9"] (Address.ofName " Игра 1")) ∧
      client.ReadsAt " Игра 1" (Address.ofName " Игра 1") := by
  intro c client taken
  have hclient : client = c.recorded ∨ ∃ policy, client = c.recorded.retrying policy :=
    .inr ⟨_, rfl⟩
  obtain ⟨-, -, hrefused, hcases, hreads⟩ := calls_of_intents hclient [7] " Игра 1" 9 {}
  have hsense : ¬ taken.IsRefused := fun h => absurd (hrefused.mp h) (by decide)
  exact ⟨hsense, hcases.resolve_left hsense, hreads⟩

end Client

end XoLedger
