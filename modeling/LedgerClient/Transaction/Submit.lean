import LedgerClient.Message.Receipt
import LedgerClient.Transaction.Interchange

/-!
Sending a frozen transaction, chunk by chunk. A chunk is sent once the one before it was accepted,
and every accepted chunk leaves behind what is needed to send it again.
-/

namespace LedgerClient

/-- A chunk that a node accepted: which node, under which id, and the hash of the body. `sent` is the
transaction as it was then, and `chunk` the place of the chunk. -/
structure TransactionResponse where
  node : AccountId
  id : TransactionId
  hash : Bytes
  sent : Transaction
  chunk : Nat

def TransactionResponse.inspect (response : TransactionResponse) : Inspect :=
  .record "TransactionResponse" [("node_account_id", response.node.inspect),
    ("transaction_id", response.id.inspect), ("hash", .plain (Hex.encode response.hash))]

namespace Transaction

def chunkIdAt (transaction : Transaction) (chunk : Nat) : Option TransactionId := do
  let frozen ← transaction.frozen
  let bodies ← frozen.chunks[chunk]?
  return bodies.id

def requestFor (transaction : Transaction) (chunk : Nat) (node : AccountId) :
    Except Error SignedTransaction :=
  match transaction.frozen with
  | none => .error .notFrozen
  | some frozen => frozen.signedFor chunk node

def response (transaction : Transaction) (chunk : Nat) (node : AccountId) :
    Except Error TransactionResponse := do
  let signed ← transaction.requestFor chunk node
  match transaction.chunkIdAt chunk with
  | none => throw .notFrozen
  | some id => return { node, id, hash := signed.hash, sent := transaction, chunk }

/-- Later chunks refer to the id of the first one, so only the first may get a fresh id, and only if
the client made the id. -/
def chunkRequest (method : Method) (chunk : Nat) :
    Request Transaction SubmitResponse TransactionResponse where
  method := method
  nodes transaction := transaction.frozen.map Frozen.nodes
  id transaction := transaction.chunkIdAt chunk
  encode transaction node := (transaction.requestFor chunk node).map Wire.encode
  decode := Wire.decode
  status := SubmitResponse.precheck
  outcome response mayRegenerate := Outcome.ofStatus response.precheck mayRegenerate
  mayRegenerate transaction := chunk = 0 && transaction.generated
  regenerate := regenerate
  output transaction _ node := transaction.response chunk node

def executionFor (transaction : Transaction) (client : Client) : ExecutionConfig :=
  transaction.execution.getD client.execution

/-- Sends `count` chunks from the one at `chunk` on, up to the first that fails. -/
def submitChunks (config : ExecutionConfig) (transaction : Transaction) (world : World)
    (chunk : Nat) : (count : Nat) → Finished Transaction (List TransactionResponse)
  | 0 => { result := .ok [], state := transaction, world }
  | count + 1 =>
      let sent := (chunkRequest transaction.payload.method chunk).execute config transaction world
      match sent.result with
      | .error error => { result := .error error, state := sent.state, world := sent.world }
      | .ok response =>
          let later := submitChunks config sent.state sent.world (chunk + 1) count
          { later with result := later.result.map (response :: ·) }

/-- Freezes and signs as far as that is still to be done, and sends all chunks. -/
def executeAll (transaction : Transaction) (client : Client) (world : World) :
    Finished Transaction (List TransactionResponse) :=
  let (ready, world) :=
    if transaction.isFrozen then (.ok transaction, world)
    else transaction.freezeWith (some client) world
  match ready with
  | .error error => { result := .error error, state := transaction, world }
  | .ok transaction =>
      match transaction.signWithOperator client with
      | .error error => { result := .error error, state := transaction, world }
      | .ok transaction =>
          submitChunks (transaction.executionFor client) transaction world 0 transaction.chunkCount

/-- Sends all chunks and answers for the first. -/
def execute (transaction : Transaction) (client : Client) (world : World) :
    Finished Transaction TransactionResponse :=
  let sent := transaction.executeAll client world
  { sent with
    result := do
      match ← sent.result with
      | [] => throw .unexpectedResponse
      | response :: _ => return response }

/-- Sends an accepted chunk once more. If it is the whole transaction and the client made its id, it
goes out under a fresh one. -/
def resubmit (response : TransactionResponse) (client : Client) (world : World) :
    Except Error TransactionResponse × World :=
  let transaction := response.sent
  let (ready, world) :=
    if response.chunk = 0 ∧ transaction.chunkCount = 1 ∧ transaction.generated = true then
      transaction.regenerate world
    else (.ok transaction, world)
  match ready with
  | .error error => (.error error, world)
  | .ok transaction =>
      let sent := (chunkRequest transaction.payload.method response.chunk).execute
        (transaction.executionFor client) transaction world
      (sent.result, sent.world)

end Transaction

end LedgerClient
