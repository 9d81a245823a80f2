import XoLedger.Act
import XoLedger.Game.Address
import XoLedger.Game.Intent
import XoLedger.Signature.Signer
import XoLedger.Wire.Message

/-!
# Signed transactions and batches

An intent becomes a transaction: a payload, and a header that names the signer, the one address
that is read and written, and the digest of the payload. Transactions become a batch, whose header
lists their signatures in order. Each signature is over the octets of the header.
-/

namespace XoLedger

namespace Transaction

/-- The header of a transaction. -/
def headerOf (publicKey gameName nonce : String) (payload : Bytes) : TransactionHeader where
  batcherPublicKey := publicKey
  dependencies := []
  familyName := Address.familyName
  familyVersion := Address.familyVersion
  inputs := [Address.ofName gameName]
  nonce := nonce
  outputs := [Address.ofName gameName]
  payloadSha512 := Sha512.hex payload
  signerPublicKey := publicKey

/-- The signed transaction that says what a player intends with a game. -/
def signed {σ : Type} (signer : Signer) (gameName : String) (intent : Intent) (nonce : String) :
    Course σ Transaction := do
  let payload ← Course.ofExcept (fun e => .badRequest e.message) (Payload.ofIntent gameName intent)
  let header := (headerOf signer.publicKey gameName nonce payload).encode
  let signature ← Course.ofExcept id (signer.sign header)
  Course.note .debug s!"Built {intent.name} transaction for game {gameName} ({signature})"
  return { header, headerSignature := signature, payload }

end Transaction

namespace Batch

/-- The header of a batch. -/
def headerOf (publicKey : String) (transactions : List Transaction) : BatchHeader where
  signerPublicKey := publicKey
  transactionIds := transactions.map Transaction.headerSignature

/-- The signed batch of some transactions, of which there has to be one at least. -/
def signed (signer : Signer) (transactions : List Transaction) : Except Fault Batch :=
  if transactions = [] then .error (.badRequest "A batch needs at least one transaction")
  else do
    let header := (headerOf signer.publicKey transactions).encode
    let signature ← signer.sign header
    return { header, headerSignature := signature, transactions, trace := false }

/-- The signed batch of one transaction that says what a player intends with a game. -/
def ofIntent {σ : Type} (signer : Signer) (gameName : String) (intent : Intent) (nonce : String) :
    Course σ Batch := do
  let transaction ← Transaction.signed signer gameName intent nonce
  Course.ofExcept id (signed signer [transaction])

end Batch

end XoLedger
