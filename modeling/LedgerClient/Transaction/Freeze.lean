import LedgerClient.Transaction.Basic

/-!
Freezing a transaction, and giving it a fresh id later. Both write the bodies of all chunks. The
first chunk has the transaction's id, and the others are told apart by a nonce.
-/

namespace LedgerClient.Transaction

/-- How many parts of at most `size` bytes a content is cut into. Even an empty one makes a part. -/
def partCount (size length : Nat) : Nat :=
  max 1 ((length + (size - 1)) / size)

def part (size index : Nat) (content : Bytes) : Bytes :=
  (content.drop (index * size)).take size

def chunkId (root : TransactionId) (index : Nat) : TransactionId :=
  if index = 0 then root else root.withNonce (UInt32.ofNat index)

def chunkTotal (payload : Payload) (chunking : ChunkingConfig) : Nat :=
  match payload.content? with
  | none => 1
  | some content => partCount chunking.chunkSize content.length

def chunkData (payload : Payload) (chunking : ChunkingConfig) (root : TransactionId) (index : Nat) :
    TransactionData :=
  match payload.content? with
  | none => payload.data none
  | some content =>
      payload.data (some
        { index, total := partCount chunking.chunkSize content.length, initialId := root
          content := part chunking.chunkSize index content })

/-- What all bodies of a transaction have in common. -/
structure BodyPlan where
  root : TransactionId
  nodes : List AccountId
  maxFee : UInt64
  validSeconds : UInt64
  memo : String
  payload : Payload
  chunking : ChunkingConfig

namespace BodyPlan

def body (plan : BodyPlan) (index : Nat) (node : AccountId) : TransactionBody where
  transactionId := chunkId plan.root index
  node := node
  maxFee := plan.maxFee
  validSeconds := plan.validSeconds
  memo := plan.memo
  data := chunkData plan.payload plan.chunking plan.root index

/-- A body that is not too long, still without signatures. -/
def checkedBody (plan : BodyPlan) (index : Nat) (node : AccountId) : Except Error SignedTransaction :=
  let body := plan.body index node
  if Wire.size body ≤ plan.chunking.maxTransactionSize then .ok (SignedTransaction.ofBody body)
  else .error (.transactionOversize (Wire.size body) plan.chunking.maxTransactionSize)

def chunk (plan : BodyPlan) (index : Nat) : Except Error FrozenChunk := do
  let signed ← plan.nodes.mapM (plan.checkedBody index)
  return { id := chunkId plan.root index, signed }

def chunks (plan : BodyPlan) : Except Error (List FrozenChunk) :=
  let total := chunkTotal plan.payload plan.chunking
  if plan.chunking.maxChunks < total then
    .error (.maxChunksExceeded total plan.chunking.maxChunks)
  else (List.range total).mapM plan.chunk

end BodyPlan

def planFor (transaction : Transaction) (root : TransactionId) (nodes : List AccountId)
    (maxFee : UInt64) (chunking : ChunkingConfig) : BodyPlan where
  root := root
  nodes := nodes
  maxFee := maxFee
  validSeconds := UInt64.ofNat (transaction.validDuration.nanos / 1000000000)
  memo := transaction.memo
  payload := transaction.payload
  chunking := chunking

/-- The id to freeze with, and whether it is the client's own. -/
def resolveId (transaction : Transaction) (client : Option Client) (world : World) :
    Except Error (TransactionId × Bool) × World :=
  match transaction.id with
  | some id => (.ok (id, transaction.generated), world)
  | none =>
      match client.bind Client.operator with
      | none => (.error (.missingField "transaction_id"), world)
      | some operator =>
          let (id, world) := world.generateId operator.account
          (.ok (id, true), world)

/-- The nodes to freeze for: those that were chosen, or all that the client's network would try. -/
def resolveNodes (transaction : Transaction) (client : Option Client) (world : World) :
    Except Error (List AccountId) × World :=
  match transaction.nodes with
  | some [] => (.error (.configuration .noNodes), world)
  | some nodes => (.ok nodes, world)
  | none =>
      match client with
      | none => (.error (.missingField "node_account_ids"), world)
      | some _ =>
          match world.candidates none with
          | (.error cause, world) => (.error (.configuration cause), world)
          | (.ok nodes, world) => (.ok nodes, world)

/-- The transaction's own fee comes before the client's, and that before the payload's. -/
def resolveFee (transaction : Transaction) (client : Option Client) : UInt64 :=
  match transaction.maxFee, client.bind Client.defaultMaxFee with
  | some maxFee, _ => maxFee
  | none, some maxFee => maxFee
  | none, none => transaction.payload.defaultMaxFee

def resolveChunking (transaction : Transaction) (client : Option Client) : ChunkingConfig :=
  match transaction.chunking, client with
  | some chunking, _ => chunking
  | none, some client => client.chunking
  | none, none => ChunkingConfig.standard

/-- Writes the bodies and lets every signer at hand sign them. -/
def freezeAs (transaction : Transaction) (client : Option Client) (id : TransactionId)
    (generated : Bool) (nodes : List AccountId) : Except Error Transaction := do
  let maxFee := transaction.resolveFee client
  let chunking := transaction.resolveChunking client
  let chunks ← (transaction.planFor id nodes maxFee chunking).chunks
  let frozen := transaction.signers.foldl Frozen.signWith { nodes, maxFee, chunking, chunks }
  return { transaction with id := some id, generated, frozen := some frozen }

/-- Checksums are looked at only with a client that wants it, and before anything else. -/
def checkChecksums (transaction : Transaction) (client : Option Client) (world : World) :
    Except Error Unit :=
  match client with
  | none => .ok ()
  | some client =>
      if client.validatesChecksums then
        (transaction.payload.validateChecksums world.network.ledger).mapError .checksumMismatch
      else .ok ()

/-- Freezes with what the transaction says itself and, where that is not enough, what the client
says. -/
def freezeWith (transaction : Transaction) (client : Option Client) (world : World) :
    Except Error Transaction × World :=
  if transaction.isFrozen then (.error .alreadyFrozen, world)
  else
    match transaction.checkChecksums client world with
    | .error error => (.error error, world)
    | .ok () =>
        match transaction.resolveId client world with
        | (.error error, world) => (.error error, world)
        | (.ok (id, generated), world) =>
            match transaction.resolveNodes client world with
            | (.error error, world) => (.error error, world)
            | (.ok nodes, world) => (transaction.freezeAs client id generated nodes, world)

/-- The first key that signed a body and whose signer is not at hand. -/
def missingSigner? (transaction : Transaction) (frozen : Frozen) : Option PublicKey :=
  frozen.signingKeys.find? fun key => !transaction.signers.any fun signer => signer.key = key

/-- Replaces the id by a fresh one of the same payer. All bodies are written anew, and every key
that had signed them signs again. -/
def regenerate (transaction : Transaction) (world : World) : Except Error Transaction × World :=
  match transaction.frozen, transaction.id with
  | some frozen, some root =>
      match transaction.missingSigner? frozen with
      | some key => (.error (.configuration (.signerUnavailable key)), world)
      | none =>
          let (id, world) := world.generateId root.payer
          match (transaction.planFor id frozen.nodes frozen.maxFee frozen.chunking).chunks with
          | .error error => (.error error, world)
          | .ok chunks =>
              let refrozen := transaction.signers.foldl Frozen.signWith { frozen with chunks }
              (.ok { transaction with id := some id, frozen := some refrozen }, world)
  | _, _ => (.error .notFrozen, world)

end LedgerClient.Transaction
