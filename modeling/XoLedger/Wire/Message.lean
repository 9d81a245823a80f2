import XoLedger.Wire.Field

/-!
# The messages of the ledger

A submission is a list of batches; a batch holds transactions; batches and transactions each carry
a header as octets, since the signature is over exactly those octets. Fields are written in the
order of their tags. In reading, the last value of a single field wins and unknown fields are
passed over.
-/

namespace XoLedger

open Wire

/-! ### Transaction headers -/

/-- What a transaction says about itself. -/
structure TransactionHeader where
  /-- The key that signs the batch. -/
  batcherPublicKey : String := ""
  /-- The transactions that have to come first. -/
  dependencies : List String := []
  /-- The family whose rules apply. -/
  familyName : String := ""
  /-- The version of the rules. -/
  familyVersion : String := ""
  /-- The addresses that are read. -/
  inputs : List String := []
  /-- What makes the transaction unlike others of the same content. -/
  nonce : String := ""
  /-- The addresses that are written. -/
  outputs : List String := []
  /-- The digest of the payload. -/
  payloadSha512 : String := ""
  /-- The key that signs the transaction. -/
  signerPublicKey : String := ""
deriving DecidableEq, Repr

namespace TransactionHeader

/-- The octets of a header. -/
def encode (m : TransactionHeader) : Bytes :=
  writeText 1 m.batcherPublicKey ++ writeTexts 2 m.dependencies ++ writeText 3 m.familyName ++
    writeText 4 m.familyVersion ++ writeTexts 5 m.inputs ++ writeText 6 m.nonce ++
    writeTexts 7 m.outputs ++ writeText 9 m.payloadSha512 ++ writeText 10 m.signerPublicKey

/-- Takes one field into a header. -/
def step : Step TransactionHeader := fun depth m key b =>
  let text (field : String) (put : String → TransactionHeader) :=
    inField "TransactionHeader" field do
      let (s, rest) ← readText depth key.wire b
      return (put s, rest)
  match key.tag with
  | 1 => text "batcher_public_key" fun s => { m with batcherPublicKey := s }
  | 2 => text "dependencies" fun s => { m with dependencies := m.dependencies ++ [s] }
  | 3 => text "family_name" fun s => { m with familyName := s }
  | 4 => text "family_version" fun s => { m with familyVersion := s }
  | 5 => text "inputs" fun s => { m with inputs := m.inputs ++ [s] }
  | 6 => text "nonce" fun s => { m with nonce := s }
  | 7 => text "outputs" fun s => { m with outputs := m.outputs ++ [s] }
  | 9 => text "payload_sha512" fun s => { m with payloadSha512 := s }
  | 10 => text "signer_public_key" fun s => { m with signerPublicKey := s }
  | _ => do
    let rest ← skipField depth key b
    return (m, rest)

/-- Reads a header. -/
def decode (b : Bytes) : Except Wire.Error TransactionHeader :=
  Wire.decode step {} b

end TransactionHeader

/-! ### Transactions -/

/-- A signed change to the ledger. Its signature is also its identifier. -/
structure Transaction where
  /-- The octets of the header. -/
  header : Bytes := []
  /-- The signature over the header. -/
  headerSignature : String := ""
  /-- What the family's rules are applied to. -/
  payload : Bytes := []
deriving DecidableEq, Repr

namespace Transaction

/-- The octets of a transaction. -/
def encode (m : Transaction) : Bytes :=
  writeBytesUnlessEmpty 1 m.header ++ writeText 2 m.headerSignature ++
    writeBytesUnlessEmpty 3 m.payload

/-- Takes one field into a transaction. -/
def step : Step Transaction := fun depth m key b =>
  match key.tag with
  | 1 => inField "Transaction" "header" do
    let (octets, rest) ← readBytes depth key.wire b
    return ({ m with header := octets }, rest)
  | 2 => inField "Transaction" "header_signature" do
    let (s, rest) ← readText depth key.wire b
    return ({ m with headerSignature := s }, rest)
  | 3 => inField "Transaction" "payload" do
    let (octets, rest) ← readBytes depth key.wire b
    return ({ m with payload := octets }, rest)
  | _ => do
    let rest ← skipField depth key b
    return (m, rest)

/-- Reads a transaction. -/
def decode (b : Bytes) : Except Wire.Error Transaction :=
  Wire.decode step {} b

end Transaction

/-! ### Batches -/

/-- What a batch says about itself. -/
structure BatchHeader where
  /-- The key that signs the batch. -/
  signerPublicKey : String := ""
  /-- The identifiers of the transactions, in order. -/
  transactionIds : List String := []
deriving DecidableEq, Repr

namespace BatchHeader

/-- The octets of a batch header. -/
def encode (m : BatchHeader) : Bytes :=
  writeText 1 m.signerPublicKey ++ writeTexts 2 m.transactionIds

/-- Takes one field into a batch header. -/
def step : Step BatchHeader := fun depth m key b =>
  match key.tag with
  | 1 => inField "BatchHeader" "signer_public_key" do
    let (s, rest) ← readText depth key.wire b
    return ({ m with signerPublicKey := s }, rest)
  | 2 => inField "BatchHeader" "transaction_ids" do
    let (s, rest) ← readText depth key.wire b
    return ({ m with transactionIds := m.transactionIds ++ [s] }, rest)
  | _ => do
    let rest ← skipField depth key b
    return (m, rest)

/-- Reads a batch header. -/
def decode (b : Bytes) : Except Wire.Error BatchHeader :=
  Wire.decode step {} b

end BatchHeader

/-- Transactions that take effect together or not at all. -/
structure Batch where
  /-- The octets of the header. -/
  header : Bytes := []
  /-- The signature over the header. -/
  headerSignature : String := ""
  /-- The transactions, in order. -/
  transactions : List Transaction := []
  /-- Whether the ledger is to log more about this batch. -/
  trace : Bool := false
deriving DecidableEq, Repr

namespace Batch

/-- The octets of a batch. -/
def encode (m : Batch) : Bytes :=
  writeBytesUnlessEmpty 1 m.header ++ writeText 2 m.headerSignature ++
    (m.transactions.flatMap fun t => writeBytes 3 t.encode) ++ writeFlag 4 m.trace

/-- Takes one field into a batch. -/
def step : Step Batch := fun depth m key b =>
  match key.tag with
  | 1 => inField "Batch" "header" do
    let (octets, rest) ← readBytes depth key.wire b
    return ({ m with header := octets }, rest)
  | 2 => inField "Batch" "header_signature" do
    let (s, rest) ← readText depth key.wire b
    return ({ m with headerSignature := s }, rest)
  | 3 => inField "Batch" "transactions" do
    let (t, rest) ← readMessage Transaction.step {} depth key.wire b
    return ({ m with transactions := m.transactions ++ [t] }, rest)
  | 4 => inField "Batch" "trace" do
    let (flag, rest) ← readFlag depth key.wire b
    return ({ m with trace := flag }, rest)
  | _ => do
    let rest ← skipField depth key b
    return (m, rest)

/-- Reads a batch. -/
def decode (b : Bytes) : Except Wire.Error Batch :=
  Wire.decode step {} b

end Batch

/-- A submission. -/
structure BatchList where
  /-- The batches, in order. -/
  batches : List Batch := []
deriving DecidableEq, Repr

namespace BatchList

/-- The octets of a submission. -/
def encode (m : BatchList) : Bytes :=
  m.batches.flatMap fun batch => writeBytes 1 batch.encode

/-- Takes one field into a submission. -/
def step : Step BatchList := fun depth m key b =>
  match key.tag with
  | 1 => inField "BatchList" "batches" do
    let (batch, rest) ← readMessage Batch.step {} depth key.wire b
    return ({ m with batches := m.batches ++ [batch] }, rest)
  | _ => do
    let rest ← skipField depth key b
    return (m, rest)

/-- Reads a submission. -/
def decode (b : Bytes) : Except Wire.Error BatchList :=
  Wire.decode step {} b

end BatchList

end XoLedger
