import XoLedger.Json.Decoder

/-!
# Answers of the gateway

What the gateway says about submissions, batches and the ledger's state. Parts that some gateways
leave out have a default, so what is read and written again reads as the same.
-/

namespace XoLedger

open Json

/-! ### Submissions -/

/-- The answer to a submission: where to ask about it. -/
structure Acknowledgement where
  /-- The address to ask at. -/
  link : String
deriving Inhabited

namespace Acknowledgement

/-- The fields of an acknowledgement. -/
def shape : Shape Acknowledgement where
  name := "BatchListResponse"
  fields := [.of "link" .refused readText fun s _ => ⟨s⟩]
  empty := default

/-- An acknowledgement as a value. -/
def toValue (a : Acknowledgement) : Value :=
  .object [("link", .text a.link)]

end Acknowledgement

/-! ### Batches -/

/-- What has become of a batch. -/
inductive BatchStatus where
  /-- It has taken effect. -/
  | committed
  /-- It has been refused. -/
  | invalid
  /-- It waits. -/
  | pending
  /-- The gateway knows nothing of it, or says something that has no meaning here. -/
  | unknown
deriving DecidableEq, Repr, Inhabited

namespace BatchStatus

/-- The word for a status. -/
def word : BatchStatus → String
  | committed => "COMMITTED"
  | invalid => "INVALID"
  | pending => "PENDING"
  | unknown => "UNKNOWN"

/-- The name of a status in messages about the program itself. -/
def name : BatchStatus → String
  | committed => "Committed"
  | invalid => "Invalid"
  | pending => "Pending"
  | unknown => "Unknown"

/-- The status with a given word. Words without a meaning are taken for the last one. -/
def ofWord (word : String) : BatchStatus :=
  if word = committed.word then committed
  else if word = invalid.word then invalid
  else if word = pending.word then pending
  else unknown

/-- Whether the status is the last one that the batch gets. -/
def IsTerminal (status : BatchStatus) : Prop :=
  status = committed ∨ status = invalid

instance (status : BatchStatus) : Decidable status.IsTerminal :=
  inferInstanceAs (Decidable (_ ∨ _))

/-- Reads a status. -/
def read : Decoder BatchStatus :=
  readWord fun word => .ok (ofWord word)

/-- A status as a value. -/
def toValue (status : BatchStatus) : Value :=
  .text status.word

end BatchStatus

/-- Why a transaction was refused. -/
structure InvalidTransaction where
  /-- Its identifier. -/
  id : String
  /-- The reason. -/
  message : String
  /-- What the family's rules add to the reason. -/
  extendedData : Option String
deriving DecidableEq, Repr, Inhabited

namespace InvalidTransaction

/-- The fields of a refused transaction. -/
def shape : Shape InvalidTransaction where
  name := "InvalidTransaction"
  fields := [
    .of "id" .allowed readText fun s t => { t with id := s },
    .of "message" .allowed readText fun s t => { t with message := s },
    .of "extended_data" .allowed (readOption readText) fun s t => { t with extendedData := s }]
  empty := default

/-- A refused transaction as a value. -/
def toValue (t : InvalidTransaction) : Value :=
  .object [("id", .text t.id), ("message", .text t.message),
    ("extended_data", .ofOption .text t.extendedData)]

end InvalidTransaction

/-- What the gateway says about one batch. -/
structure BatchReport where
  /-- The identifier of the batch. -/
  id : String
  /-- What has become of it. -/
  status : BatchStatus
  /-- The transactions that were refused. -/
  invalidTransactions : List InvalidTransaction
deriving DecidableEq, Repr, Inhabited

namespace BatchReport

/-- The fields of a report. -/
def shape : Shape BatchReport where
  name := "BatchStatusEntry"
  fields := [
    .of "id" .refused readText fun s r => { r with id := s },
    .of "status" .refused BatchStatus.read fun status r => { r with status },
    .of "invalid_transactions" .allowed (readList InvalidTransaction.shape.read)
      fun all r => { r with invalidTransactions := all }]
  empty := default

/-- A report as a value. -/
def toValue (r : BatchReport) : Value :=
  .object [("id", .text r.id), ("status", r.status.toValue),
    ("invalid_transactions", .array (r.invalidTransactions.map InvalidTransaction.toValue))]

end BatchReport

/-- The answer to a question about batches. -/
structure StatusAnswer where
  /-- The reports. -/
  data : List BatchReport
  /-- The address that was asked. -/
  link : Option String
deriving Inhabited

namespace StatusAnswer

/-- The fields of an answer about batches. -/
def shape : Shape StatusAnswer where
  name := "BatchStatusResponse"
  fields := [
    .of "data" .refused (readList BatchReport.shape.read) fun all a => { a with data := all },
    .of "link" .allowed (readOption readText) fun s a => { a with link := s }]
  empty := default

/-- An answer about batches as a value. -/
def toValue (a : StatusAnswer) : Value :=
  .object [("data", .array (a.data.map BatchReport.toValue)), ("link", .ofOption .text a.link)]

end StatusAnswer

/-! ### State -/

/-- A value that is stored on the ledger. -/
structure StateEntry where
  /-- Where it is stored. -/
  address : String
  /-- The value, in Base64. -/
  data : String
deriving DecidableEq, Repr, Inhabited

namespace StateEntry

/-- The fields of an entry. -/
def shape : Shape StateEntry where
  name := "StateEntry"
  fields := [
    .of "address" .refused readText fun s e => { e with address := s },
    .of "data" .refused readText fun s e => { e with data := s }]
  empty := default

/-- An entry as a value. -/
def toValue (e : StateEntry) : Value :=
  .object [("address", .text e.address), ("data", .text e.data)]

end StateEntry

/-- Where the next part of a long answer starts. Gateways do not agree on the types of these. -/
structure Paging where
  /-- Where this part starts. -/
  start : Option Value
  /-- The number of entries in a part. -/
  limit : Option Value
  /-- Where the next part starts. -/
  nextPosition : Option Value
  /-- The address to ask for the next part. -/
  next : Option Value
deriving Inhabited

namespace Paging

/-- The fields of the paging part. -/
def shape : Shape Paging where
  name := "Paging"
  fields := [
    .of "start" .allowed (readOption readValue) fun v p => { p with start := v },
    .of "limit" .allowed (readOption readValue) fun v p => { p with limit := v },
    .of "next_position" .allowed (readOption readValue) fun v p => { p with nextPosition := v },
    .of "next" .allowed (readOption readValue) fun v p => { p with next := v }]
  empty := default

/-- The paging part as a value. -/
def toValue (p : Paging) : Value :=
  .object [("start", .ofOption id p.start), ("limit", .ofOption id p.limit),
    ("next_position", .ofOption id p.nextPosition), ("next", .ofOption id p.next)]

end Paging

/-- The answer to a question about the state. -/
structure StateAnswer where
  /-- The entries. -/
  data : List StateEntry
  /-- The address that was asked. -/
  link : Option String
  /-- The block that the answer is about. -/
  head : Option String
  /-- Where the answer goes on. -/
  paging : Option Paging
deriving Inhabited

namespace StateAnswer

/-- The fields of an answer about the state. -/
def shape : Shape StateAnswer where
  name := "StateResponse"
  fields := [
    .of "data" .refused (readList StateEntry.shape.read) fun all a => { a with data := all },
    .of "link" .allowed (readOption readText) fun s a => { a with link := s },
    .of "head" .allowed (readOption readText) fun s a => { a with head := s },
    .of "paging" .allowed (readOption Paging.shape.read) fun p a => { a with paging := p }]
  empty := default

/-- An answer about the state as a value. -/
def toValue (a : StateAnswer) : Value :=
  .object [("data", .array (a.data.map StateEntry.toValue)), ("link", .ofOption .text a.link),
    ("head", .ofOption .text a.head), ("paging", .ofOption Paging.toValue a.paging)]

end StateAnswer

end XoLedger
