import XoLedger.Nonce
import XoLedger.Polling
import XoLedger.Settings.Basic
import XoLedger.Signed

/-!
# Clients

A client turns what a player wants into a signed batch, submits it and asks once what has become of
it. It also holds what has been read of the ledger. Both go through one gateway, which is built
anew when the URL changes.
-/

namespace XoLedger

/-! ### Outcomes -/

/-- What has become of a submitted batch. -/
structure SubmissionOutcome where
  /-- The identifier of the batch. -/
  batchId : String
  /-- Its status. -/
  status : BatchStatus
  /-- The transactions that were refused. -/
  invalidTransactions : List InvalidTransaction
deriving DecidableEq, Repr

namespace SubmissionOutcome

/-- Whether the batch has taken effect. -/
def isCommitted (o : SubmissionOutcome) : Bool :=
  o.status = .committed

/-- The reasons of refusal, in order. -/
def failureMessages (o : SubmissionOutcome) : List String :=
  o.invalidTransactions.map InvalidTransaction.message

/-- Takes a refused batch for a fault. -/
def ensureCommitted (o : SubmissionOutcome) : Except Fault SubmissionOutcome :=
  if o.status = .invalid then .error (.batchInvalid o.batchId o.failureMessages) else .ok o

/-- What is noted about an outcome. -/
def remark (o : SubmissionOutcome) : Log.Line :=
  match o.status with
  | .committed => ⟨.info, s!"Batch {o.batchId} committed"⟩
  | .invalid => ⟨.warn, s!"Batch {o.batchId} invalid: " ++ "; ".intercalate o.failureMessages⟩
  | status => ⟨.info, s!"Batch {o.batchId} status: {status.word}"⟩

end SubmissionOutcome

/-! ### Clients -/

/-- A client. -/
structure Client (σ : Type) where
  /-- The choices. -/
  settings : Settings
  /-- The player. -/
  signer : Signer
  /-- The gateway for submissions. -/
  gateway : Gateway σ
  /-- What has been read of the ledger. -/
  projector : Projector σ

namespace Client

variable {σ : Type}

/-- The gateway that settings ask for. -/
def dial (carrier : Carrier σ) (settings : Settings) : Except RestApi.Error (Gateway σ) :=
  (RestApi.ofUrl settings.baseUrl).map fun api =>
    let policy := settings.retryPolicy
    if policy.IsSingleShot then api.gateway carrier else (api.gateway carrier).retrying policy

/-- The client with a given gateway. -/
def ofGateway (settings : Settings) (signer : Signer) (gateway : Gateway σ) : Client σ where
  settings := settings
  signer := signer
  gateway := gateway
  projector := .start gateway

/-- The client with the gateway that its settings ask for. -/
def connect (carrier : Carrier σ) (settings : Settings) (signer : Signer) :
    Except RestApi.Error (Client σ) :=
  (dial carrier settings).map (ofGateway settings signer)

/-! ### Submitting -/

/-- Submits a batch and asks what has become of it. -/
def submitBatch (c : Client σ) (batch : Batch) : Course σ SubmissionOutcome := do
  let submission ← c.gateway.submit ⟨[batch]⟩
  Course.note .info s!"Batch submitted: {submission.batchId}"
  let report ← c.gateway.status submission.batchId c.settings.batchWaitSecs
  let outcome : SubmissionOutcome := ⟨submission.batchId, report.status, report.invalidTransactions⟩
  Course.note outcome.remark.level outcome.remark.message
  return outcome

/-- Says what the player intends with a game. `random` are sixteen octets for the nonce. -/
def play (c : Client σ) (random : Bytes) (gameName : String) (intent : Intent) :
    Course σ SubmissionOutcome := do
  let batch ← Batch.ofIntent c.signer gameName intent (Nonce.ofRandom random)
  c.submitBatch batch

/-- Opens a game. Its name may not be blank. -/
def createGame (c : Client σ) (random : Bytes) (name : String) : Course σ SubmissionOutcome :=
  if trim name = "" then throw (.badRequest "Game name is empty")
  else c.play random name .create

/-- Puts a mark into a cell of a game. The cell has to be on the board. -/
def takeSpace (c : Client σ) (random : Bytes) (name : String) (space : UInt8) :
    Course σ SubmissionOutcome :=
  if space = 0 ∨ Game.cells < space.toNat then
    throw (.badRequest s!"Space must be between 1 and {Game.cells}, got {space.toNat}")
  else c.play random name (.take space)

/-! ### Reading and changing -/

/-- Reads all games and publishes them. -/
def refreshAll (c : Client σ) : Act σ (Except Fault Snapshot × Client σ) := do
  let (result, projector) ← c.projector.refreshAll
  return (result, { c with projector })

/-- Reads one game and publishes it. -/
def refreshOne (c : Client σ) (name : String) : Act σ (Except Fault Game × Client σ) := do
  let (result, projector) ← c.projector.refreshOne name
  return (result, { c with projector })

/-- Goes over to another URL, unless it is the one in use. -/
def setUrl (c : Client σ) (carrier : Carrier σ) (url : String) :
    Act σ (Except Fault Unit × Client σ) := do
  if RestApi.withoutSlashes url = c.settings.baseUrl then return (.ok (), c)
  else
    let settings := { c.settings with restApiUrl := url }
    match dial carrier settings with
    | .error e => return (.error e.toFault, c)
    | .ok gateway => do
      Act.note .info s!"REST API URL changed to {settings.baseUrl}"
      return (.ok (), { c with settings, gateway, projector := c.projector.withGateway gateway })

end Client

end XoLedger
