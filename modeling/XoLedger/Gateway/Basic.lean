import XoLedger.Act
import XoLedger.Gateway.Answer
import XoLedger.Url.Parse
import XoLedger.Wire.Message

/-!
# Gateways

A gateway is the way to a ledger, whatever lies behind it: it takes submissions, says what has
become of a batch and tells the state at an address. Each of the three is one course of action in
the world in which the gateway stands.
-/

namespace XoLedger

/-- A submission that was taken. -/
structure Submission where
  /-- Where to ask about it. -/
  link : String
  /-- The identifier of the batch. -/
  batchId : String
deriving DecidableEq, Repr

/-- A way to a ledger. -/
structure Gateway (σ : Type) where
  /-- Submits batches. -/
  submit : BatchList → Course σ Submission
  /-- Asks what has become of a batch; the answer may take as many seconds as are given. -/
  status : (batchId : String) → (waitSecs : UInt64) → Course σ BatchReport
  /-- Asks for the entries at an address, or at all addresses that start with it. -/
  fetch : (address : String) → Course σ (List StateEntry)

/-- A gateway that stands in a part of the world. -/
def Gateway.within {σ τ : Type} (get : σ → τ) (put : τ → σ → σ) (g : Gateway τ) : Gateway σ where
  submit list := Course.within get put (g.submit list)
  status batchId waitSecs := Course.within get put (g.status batchId waitSecs)
  fetch address := Course.within get put (g.fetch address)

/-! ### Status links -/

/-- Why no batch can be read off a link. -/
inductive LinkError where
  /-- The link is not a URL. -/
  | notUrl (link : String) (cause : Url.Error)
  /-- The link names no batch. -/
  | noBatch (link : String)
deriving DecidableEq, Repr

/-- The wording of a link error. -/
def LinkError.message : LinkError → String
  | notUrl link cause => s!"invalid status link {Quoted.text link}: {cause.message}"
  | noBatch link => s!"status link {Quoted.text link} carries no batch id"

/-- The batch that a link asks about: the first value with the name `id`. -/
def batchIdOfLink (link : String) : Except LinkError String :=
  match Url.parse link with
  | .error cause => .error (.notUrl link cause)
  | .ok url =>
    match url.queryPairs.find? (·.1 = "id") with
    | some (_, batchId) => if batchId = "" then .error (.noBatch link) else .ok batchId
    | none => .error (.noBatch link)

/-- A link error as a fault: the gateway gave the link. -/
def LinkError.toFault (e : LinkError) : Fault :=
  .malformedResponse e.message

end XoLedger
