/-!
# Faults

What can go wrong between a player and the ledger, by who is to blame for it. A fault carries the
reason as a text, since the reasons come from the network, from the ledger and from the player's
input alike. Only faults on the wire are worth another try of the same request.
-/

namespace XoLedger

/-- Why an operation on the ledger did not succeed. -/
inductive Fault where
  /-- The request or its answer got lost. -/
  | transport (reason : String)
  /-- The gateway answered with a status other than success. -/
  | http (status : Nat) (body : String)
  /-- The gateway's answer cannot be read. -/
  | malformedResponse (reason : String)
  /-- A record on the ledger cannot be read. -/
  | malformedState (reason : String)
  /-- There is no such game. -/
  | notFound (reason : String)
  /-- No signature could be made. -/
  | signing (reason : String)
  /-- A key cannot be used. -/
  | invalidKey (reason : String)
  /-- The request makes no sense. -/
  | badRequest (reason : String)
  /-- The ledger refused a batch, for these reasons. -/
  | batchInvalid (batchId : String) (reasons : List String)
deriving DecidableEq, Repr

namespace Fault

/-- The wording of a fault. -/
def message : Fault → String
  | transport reason => s!"Transport error: {reason}"
  | http status body => s!"Gateway returned {status}: {body}"
  | malformedResponse reason => s!"Malformed gateway response: {reason}"
  | malformedState reason => s!"Malformed game state: {reason}"
  | notFound reason => s!"Not found: {reason}"
  | signing reason => s!"Signing failed: {reason}"
  | invalidKey reason => s!"Invalid key: {reason}"
  | badRequest reason => s!"Bad request: {reason}"
  | batchInvalid batchId reasons => s!"Batch {batchId} is invalid: " ++ "; ".intercalate reasons

/-- Whether the same request may succeed when it is made again: the fault is in the network, or in
the gateway itself. -/
def IsTransient : Fault → Prop
  | transport _ => True
  | http status _ => 500 ≤ status
  | _ => False

instance : DecidablePred IsTransient
  | transport _ => .isTrue trivial
  | http status _ => inferInstanceAs (Decidable (500 ≤ status))
  | malformedResponse _ | malformedState _ | notFound _ | signing _ | invalidKey _ | badRequest _
  | batchInvalid _ _ => .isFalse not_false

end Fault

end XoLedger
