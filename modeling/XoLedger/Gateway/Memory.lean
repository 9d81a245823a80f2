import XoLedger.Game.Address
import XoLedger.Game.Record
import XoLedger.Gateway.Basic

/-!
# A ledger in memory

A gateway without a ledger behind it. It stores whatever it is told to, takes every submission and
gives the answers about batches that it was given beforehand. It keeps a record of all that it is
asked, and can be told to fail.
-/

namespace XoLedger

/-- A ledger in memory. -/
structure MemoryLedger where
  /-- The values by address, in the order of addresses. -/
  entries : List (String × String) := []
  /-- The submissions that were taken, in order. -/
  submitted : List BatchList := []
  /-- The answers to come about batches. -/
  statuses : List (BatchStatus × List InvalidTransaction) := []
  /-- The questions about batches, in order. -/
  statusCalls : List (String × UInt64) := []
  /-- The addresses asked for, in order. -/
  stateCalls : List String := []
  /-- How many of the next calls fail. -/
  failures : Nat := 0

namespace MemoryLedger

/-! ### Storing -/

/-- Puts a value into its place in the order of addresses, instead of one with the same address. -/
def insertEntry (address data : String) : List (String × String) → List (String × String)
  | [] => [(address, data)]
  | (a, d) :: rest =>
    if address = a then (address, data) :: rest
    else if address < a then (address, data) :: (a, d) :: rest
    else (a, d) :: insertEntry address data rest

/-- Stores a value. -/
def putRaw (l : MemoryLedger) (address data : String) : MemoryLedger :=
  { l with entries := insertEntry address data l.entries }

/-- Stores a game at its address. -/
def putGame (l : MemoryLedger) (g : Game) : MemoryLedger :=
  l.putRaw (Address.ofName g.name) (Record.encode g)

/-- Removes whatever is stored at the address of a game. -/
def removeGame (l : MemoryLedger) (name : String) : MemoryLedger :=
  { l with entries := l.entries.filter (·.1 ≠ Address.ofName name) }

/-- Adds an answer to those to come about batches. -/
def pushStatus (l : MemoryLedger) (status : BatchStatus) (invalid : List InvalidTransaction) :
    MemoryLedger :=
  { l with statuses := l.statuses ++ [(status, invalid)] }

/-- Makes the next calls fail, as many as are given. -/
def failNext (l : MemoryLedger) (count : Nat) : MemoryLedger :=
  { l with failures := count }

/-! ### Calls -/

/-- The fault of a call that was told to fail. -/
def refusal : Fault := .transport "mock connection refused"

/-- Makes a call, or fails if told to. -/
def unlessFailing {α : Type} (l : MemoryLedger) (call : MemoryLedger → α × MemoryLedger) :
    Except Fault α × MemoryLedger :=
  if 0 < l.failures then (.error refusal, { l with failures := l.failures - 1 })
  else
    let (a, l) := call l
    (.ok a, l)

/-- Takes a submission. It is known by the signatures of its batches. -/
def submit (list : BatchList) (l : MemoryLedger) : Except Fault Submission × MemoryLedger :=
  unlessFailing l fun l =>
    let batchId := ",".intercalate (list.batches.map Batch.headerSignature)
    (⟨"http://mock/batch_statuses?id=" ++ batchId, batchId⟩,
      { l with submitted := l.submitted ++ [list] })

/-- Gives the next answer about a batch. Without one the batch has taken effect. -/
def status (batchId : String) (waitSecs : UInt64) (l : MemoryLedger) :
    Except Fault BatchReport × MemoryLedger :=
  let l := { l with statusCalls := l.statusCalls ++ [(batchId, waitSecs)] }
  unlessFailing l fun l =>
    match l.statuses with
    | [] => (⟨batchId, .committed, []⟩, l)
    | (status, invalid) :: rest => (⟨batchId, status, invalid⟩, { l with statuses := rest })

/-- Tells the entries whose addresses start with the one given. -/
def fetch (address : String) (l : MemoryLedger) :
    Except Fault (List StateEntry) × MemoryLedger :=
  let l := { l with stateCalls := l.stateCalls ++ [address] }
  unlessFailing l fun l =>
    ((l.entries.filter fun e => address.toList.isPrefixOf e.1.toList).map fun e => ⟨e.1, e.2⟩, l)

/-- The ledger as a gateway. -/
def gateway : Gateway MemoryLedger where
  submit list := ExceptT.mk (Act.change (submit list))
  status batchId waitSecs := ExceptT.mk (Act.change (status batchId waitSecs))
  fetch address := ExceptT.mk (Act.change (fetch address))

end MemoryLedger

end XoLedger
