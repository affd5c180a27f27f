import LedgerClient.Client.Basic
import LedgerClient.Transaction.Payload

/-!
Transactions. One is put together, frozen once, signed any number of times and sent. Freezing writes
the bodies, one for every chunk and node; from then on only signatures are added, until the
transaction is sealed.
-/

namespace LedgerClient

/-- The bodies of one chunk, one for every node in the order of the nodes. -/
structure FrozenChunk where
  id : TransactionId
  signed : List SignedTransaction
deriving DecidableEq

structure Frozen where
  nodes : List AccountId
  maxFee : UInt64
  chunking : ChunkingConfig
  chunks : List FrozenChunk
deriving DecidableEq

namespace Frozen

/-- Signs every body that the signer's key has not signed yet. -/
def signWith (frozen : Frozen) (signer : Signer) : Frozen :=
  { frozen with
    chunks := frozen.chunks.map fun chunk =>
      { chunk with signed := chunk.signed.map (·.signWith signer) } }

/-- The place of a node among those the bodies are for. -/
def place? (frozen : Frozen) (node : AccountId) : Option Nat :=
  frozen.nodes.findIdx? (·.same node)

/-- What is sent to a node for a chunk. -/
def signedFor (frozen : Frozen) (chunk : Nat) (node : AccountId) : Except Error SignedTransaction :=
  match frozen.place? node with
  | none => .error (.configuration (.unknownNode node))
  | some place =>
      match frozen.chunks[chunk]? with
      | none => .error .notFrozen
      | some bodies =>
          match bodies.signed[place]? with
          | none => .error .notFrozen
          | some signed => .ok signed

/-- The keys of all signatures, chunk by chunk and body by body. -/
def signingKeys (frozen : Frozen) : List PublicKey :=
  frozen.chunks.flatMap fun chunk => chunk.signed.flatMap fun signed =>
    signed.signatures.map SignaturePair.key

end Frozen

/-- The flag `generated` says that the client made the id and may make it anew; `signers` are those
whose keys are at hand. -/
structure Transaction where
  payload : Payload
  nodes : Option (List AccountId)
  id : Option TransactionId
  generated : Bool
  maxFee : Option UInt64
  validDuration : Duration
  memo : String
  execution : Option ExecutionConfig
  chunking : Option ChunkingConfig
  frozen : Option Frozen
  signers : List Signer
  isSealed : Bool

namespace Transaction

def defaultValidDuration : Duration := Duration.ofSeconds 120

def ofPayload (payload : Payload) : Transaction where
  payload := payload
  nodes := none
  id := none
  generated := false
  maxFee := none
  validDuration := defaultValidDuration
  memo := ""
  execution := none
  chunking := none
  frozen := none
  signers := []
  isSealed := false

/-! ## What a transaction says about itself -/

def isFrozen (transaction : Transaction) : Bool :=
  transaction.frozen.isSome

def targetNodes (transaction : Transaction) : Option (List AccountId) :=
  match transaction.frozen with
  | some frozen => some frozen.nodes
  | none => transaction.nodes

def offeredFee (transaction : Transaction) : Option UInt64 :=
  match transaction.frozen with
  | some frozen => some frozen.maxFee
  | none => transaction.maxFee

def chunkCount (transaction : Transaction) : Nat :=
  match transaction.frozen with
  | some frozen => frozen.chunks.length
  | none => 0

def signedTransactions (transaction : Transaction) (chunk : Nat) :
    Option (List SignedTransaction) := do
  let frozen ← transaction.frozen
  let bodies ← frozen.chunks[chunk]?
  return bodies.signed

/-! ## Changes before freezing -/

/-- An id that a caller chooses is never replaced. -/
def setId (transaction : Transaction) (id : TransactionId) : Except Error Transaction :=
  if transaction.isFrozen then .error .alreadyFrozen
  else .ok { transaction with id := some id, generated := false }

def setNodes (transaction : Transaction) (nodes : List AccountId) : Except Error Transaction :=
  if transaction.isFrozen then .error .alreadyFrozen
  else .ok { transaction with nodes := some nodes }

def setMaxFee (transaction : Transaction) (maxFee : UInt64) : Except Error Transaction :=
  if transaction.isFrozen then .error .alreadyFrozen
  else .ok { transaction with maxFee := some maxFee }

def setValidDuration (transaction : Transaction) (validDuration : Duration) :
    Except Error Transaction :=
  if transaction.isFrozen then .error .alreadyFrozen
  else .ok { transaction with validDuration }

def setMemo (transaction : Transaction) (memo : String) : Except Error Transaction :=
  if transaction.isFrozen then .error .alreadyFrozen
  else .ok { transaction with memo }

def setChunking (transaction : Transaction) (chunking : ChunkingConfig) :
    Except Error Transaction :=
  if transaction.isFrozen then .error .alreadyFrozen
  else .ok { transaction with chunking := some chunking }

/-- How a transaction is tried may change at any time. -/
def setExecution (transaction : Transaction) (execution : ExecutionConfig) : Transaction :=
  { transaction with execution := some execution }

/-- The transaction as a schedule that carries it out later. -/
def schedule (transaction : Transaction) : Except Error Transaction := do
  let maxFee := transaction.offeredFee.getD transaction.payload.defaultMaxFee
  let data ← transaction.payload.schedulable
  return { ofPayload (.scheduleCreate { maxFee, memo := transaction.memo, data } none "") with
    nodes := transaction.nodes
    execution := transaction.execution }

end Transaction

end LedgerClient
