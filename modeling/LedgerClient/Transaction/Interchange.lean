import LedgerClient.Transaction.Sign

/-!
Frozen transactions as bytes, for co-signers and for those who send them. Bytes that come back are
taken only if their bodies belong together: those of a chunk say the same, all chunks are for the
same nodes, and their ids follow from the first.
-/

namespace LedgerClient.Transaction

def toBytes (transaction : Transaction) : Except Error Bytes :=
  match transaction.frozen with
  | none => .error .notFrozen
  | some frozen =>
      .ok (Wire.encode
        { kind := transaction.payload.kind, chunks := frozen.chunks.map FrozenChunk.signed :
          TransactionList })

/-- The bodies of a chunk, read and compared with the first of them. -/
def checkBodies (kind : TransactionKind) (head : TransactionBody) :
    List TransactionBody → Except Error Unit
  | [] => .ok ()
  | body :: rest =>
      if body.data.kind ≠ kind then .error (.invalid .wrongKind)
      else if body.transactionId.same head.transactionId && body.data.same head.data then
        checkBodies kind head rest
      else .error (.invalid .bodiesDiffer)

def sameNodes (left right : List AccountId) : Bool :=
  left.map EntityId.bare = right.map EntityId.bare

/-- The first body of a chunk and the nodes of all its bodies. -/
def readChunk (kind : TransactionKind) (signed : List SignedTransaction) :
    Except Error (TransactionBody × List AccountId) := do
  let bodies ← signed.mapM fun signed => signed.readBody.mapError .invalidData
  match bodies with
  | [] => throw (.invalid .emptyChunk)
  | head :: _ =>
      checkBodies kind head bodies
      return (head, bodies.map TransactionBody.node)

/-- The chunks after the first one, whose body is `first` and whose nodes are `nodes`. -/
def readLaterChunks (kind : TransactionKind) (first : TransactionBody) (nodes : List AccountId) :
    (index : Nat) → List (List SignedTransaction) → Except Error (List TransactionBody)
  | _, [] => return []
  | index, signed :: rest => do
      let (head, chunkNodes) ← readChunk kind signed
      if !sameNodes nodes chunkNodes then throw (.invalid .nodesDiffer)
      if !head.transactionId.same (chunkId first.transactionId index) then
        throw (.invalid .chunksOutOfOrder)
      return head :: (← readLaterChunks kind first nodes (index + 1) rest)

/-- A transaction of a kind from its list. -/
def ofList (kind : TransactionKind) (list : TransactionList) : Except Error Transaction := do
  if list.kind ≠ kind then throw (.invalid .wrongKind)
  match list.chunks with
  | [] => throw (.invalid .noChunks)
  | signed :: rest =>
      let (first, nodes) ← readChunk kind signed
      let heads := first :: (← readLaterChunks kind first nodes 1 rest)
      let payload ← Payload.ofChunks kind (heads.map TransactionBody.data)
      let chunks := list.chunks.zipWith
        (fun signed head => { id := head.transactionId, signed : FrozenChunk }) heads
      return {
        ofPayload payload with
        nodes := some nodes
        id := some first.transactionId
        maxFee := some first.maxFee
        validDuration := Duration.ofSeconds first.validSeconds.toNat
        memo := first.memo
        frozen := some { nodes, maxFee := first.maxFee, chunking := ChunkingConfig.standard, chunks } }

/-- A transaction of the kind that is asked for, or of the kind that the bytes name. -/
def ofBytes (kind : Option TransactionKind) (bytes : Bytes) : Except Error Transaction := do
  let list : TransactionList ← (Wire.decode bytes).mapError .invalidData
  ofList (kind.getD list.kind) list

end LedgerClient.Transaction
