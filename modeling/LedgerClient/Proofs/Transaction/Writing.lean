import LedgerClient.Proofs.Transaction.Signatures

/-!
What the bodies of a transaction say. Freezing writes them according to a plan, which is made of
what the transaction says itself and what the client adds, and a fresh id has them written again
according to the same plan under that id. So it can be read off the transaction at any time what its
bodies are.
-/

namespace LedgerClient

theorem mapM_eq_map {ε α β : Type} {action : α → Except ε β} {f : α → β}
    (made : ∀ item result, action item = .ok result → result = f item) {items : List α}
    {results : List β} (mapped : items.mapM action = .ok results) : results = items.map f := by
  refine List.forall₂_eq_eq_eq ▸ List.forall₂_map_right_iff.mpr ?_
  exact (mapM_eq_ok mapped).flip.imp fun result item done => made item result done

theorem World.generateId_payer (world : World) (payer : AccountId) :
    (world.generateId payer).1.payer = payer := rfl

namespace Transaction

/-! ## Bodies as they are written -/

namespace BodyPlan

variable {plan : BodyPlan}

def unsignedChunk (plan : BodyPlan) (index : Nat) : FrozenChunk where
  id := chunkId plan.root index
  signed := plan.nodes.map fun node => SignedTransaction.ofBody (plan.body index node)

def total (plan : BodyPlan) : Nat :=
  chunkTotal plan.payload plan.chunking

/-- The bodies of all chunks before anybody signs them. -/
def unsigned (plan : BodyPlan) : Frozen where
  nodes := plan.nodes
  maxFee := plan.maxFee
  chunking := plan.chunking
  chunks := (List.range plan.total).map plan.unsignedChunk

theorem checkedBody_eq {index : Nat} {node : AccountId} {signed : SignedTransaction}
    (checked : plan.checkedBody index node = .ok signed) :
    signed = SignedTransaction.ofBody (plan.body index node) := by
  simp only [checkedBody] at checked
  split at checked
  · cases checked
    rfl
  · cases checked

theorem chunk_eq {index : Nat} {bodies : FrozenChunk} (written : plan.chunk index = .ok bodies) :
    bodies = plan.unsignedChunk index := by
  obtain ⟨signed, checked, made⟩ := bind_eq_ok.mp written
  cases made
  rw [mapM_eq_map (fun _ _ => checkedBody_eq) checked]
  rfl

theorem chunks_eq {chunks : List FrozenChunk} (written : plan.chunks = .ok chunks) :
    chunks = plan.unsigned.chunks := by
  simp only [BodyPlan.chunks] at written
  split at written
  · cases written
  · exact mapM_eq_map (fun _ _ => chunk_eq) written

theorem mem_unsigned {signed : SignedTransaction} (member : signed ∈ plan.unsigned.bodies) :
    ∃ index node, signed = SignedTransaction.ofBody (plan.body index node) := by
  obtain ⟨bodies, inChunks, inBodies⟩ := List.mem_flatMap.mp member
  obtain ⟨index, _, rfl⟩ := List.mem_map.mp inChunks
  obtain ⟨node, _, rfl⟩ := List.mem_map.mp inBodies
  exact ⟨index, node, rfl⟩

end BodyPlan

variable {transaction next : Transaction} {client : Option Client} {world after : World}

/-- Freezing writes the bodies for an id and some nodes, and nothing else comes of it. -/
structure Wrote (transaction next : Transaction) : Prop where
  unfrozen : transaction.frozen = none
  now : ∃ id generated nodes maxFee chunking, next =
    { transaction with
      id := some id, generated
      frozen := some (transaction.signers.foldl Frozen.signWith
        (transaction.planFor id nodes maxFee chunking).unsigned) }

theorem freezeAs_wrote {id : TransactionId} {generated : Bool} {nodes : List AccountId}
    (unfrozen : transaction.frozen = none)
    (written : transaction.freezeAs client id generated nodes = .ok next) :
    transaction.Wrote next := by
  obtain ⟨chunks, planned, made⟩ := bind_eq_ok.mp written
  cases made
  cases BodyPlan.chunks_eq planned
  exact ⟨unfrozen, id, generated, nodes, _, _, rfl⟩

theorem freezeWith_wrote (froze : transaction.freezeWith client world = (.ok next, after)) :
    transaction.Wrote next := by
  obtain ⟨id, generated, nodes, middle, unfrozen, -, -, written⟩ := freezeWith_resolved froze
  exact freezeAs_wrote unfrozen written

/-- A fresh id has the same payer, and has the bodies written again, for the same nodes and with the
same limits. -/
structure Rewrote (transaction next : Transaction) : Prop where
  payer : next.id.map TransactionId.payer = transaction.id.map TransactionId.payer
  now : ∃ before id, transaction.frozen = some before ∧ next =
    { transaction with
      id := some id
      frozen := some (transaction.signers.foldl Frozen.signWith
        (transaction.planFor id before.nodes before.maxFee before.chunking).unsigned) }

theorem regenerate_rewrote (regenerated : transaction.regenerate world = (.ok next, after)) :
    transaction.Rewrote next := by
  simp only [regenerate] at regenerated
  split at regenerated
  · rename_i before root was named
    split at regenerated
    · cases regenerated
    · split at regenerated
      · cases regenerated
      · rename_i chunks planned
        cases regenerated
        cases BodyPlan.chunks_eq planned
        refine ⟨?_, before, _, was, rfl⟩
        rw [named]
        exact congrArg some (world.generateId_payer root.payer)
  · cases regenerated

theorem signAll_grows (frozen : Frozen) (signers : List Signer) :
    frozen.Grows (signers.foldl Frozen.signWith frozen) :=
  Frozen.signWith_all (fun other signer grows => grows.trans (other.signWith_grows signer)) signers
    (.refl frozen)

/-- The bodies are those of the transaction as it is, and only signatures were added. -/
def Written (transaction : Transaction) : Prop :=
  ∀ frozen, transaction.frozen = some frozen → ∃ root, transaction.id = some root ∧
    (transaction.planFor root frozen.nodes frozen.maxFee frozen.chunking).unsigned.Grows frozen

theorem Written.ofUnfrozen (unfrozen : transaction.frozen = none) : transaction.Written := by
  intro frozen stored
  rw [unfrozen] at stored
  cases stored

theorem Wrote.written (wrote : transaction.Wrote next) : next.Written := by
  obtain ⟨id, generated, nodes, maxFee, chunking, rfl⟩ := wrote.now
  intro frozen stored
  cases stored
  have grows := signAll_grows (transaction.planFor id nodes maxFee chunking).unsigned
    transaction.signers
  refine ⟨id, rfl, ?_⟩
  rw [grows.nodes, grows.maxFee, grows.chunking]
  exact grows

theorem Rewrote.written (rewrote : transaction.Rewrote next) : next.Written := by
  obtain ⟨before, id, was, rfl⟩ := rewrote.now
  intro frozen stored
  cases stored
  have grows := signAll_grows
    (transaction.planFor id before.nodes before.maxFee before.chunking).unsigned transaction.signers
  refine ⟨id, rfl, ?_⟩
  rw [grows.nodes, grows.maxFee, grows.chunking]
  exact grows

/-! ## The parts of a content -/

theorem flatMap_part (size count : Nat) (content : Bytes) :
    (List.range count).flatMap (fun index => part size index content) =
      content.take (count * size) := by
  induction count with
  | zero => simp
  | succ count ih =>
      rw [List.range_succ, List.flatMap_append, ih, List.flatMap_singleton, part, Nat.succ_mul,
        List.take_add]

theorem le_partCount {size : Nat} (positive : 0 < size) (length : Nat) :
    length ≤ partCount size length * size := by
  have enough : length ≤ (length + (size - 1)) / size * size := by
    have remainder := Nat.mod_lt (length + (size - 1)) positive
    have parts := Nat.div_add_mod (length + (size - 1)) size
    rw [Nat.mul_comm]
    omega
  exact Nat.le_trans enough (Nat.mul_le_mul_right size (Nat.le_max_right _ _))

/-- The parts of a content put one behind the other are the content again. -/
theorem flatMap_parts {size : Nat} (positive : 0 < size) (content : Bytes) :
    (List.range (partCount size content.length)).flatMap
      (fun index => part size index content) = content := by
  rw [flatMap_part, List.take_of_length_le (le_partCount positive content.length)]

end Transaction

/-- The content that is appended to a file or sent to a topic. -/
def TransactionData.content : TransactionData → Bytes
  | fileAppend _ contents => contents
  | topicMessageSubmit _ message _ => message
  | _ => []

theorem Payload.content_data {payload : Payload} {whole : Bytes}
    (carries : payload.content? = some whole) (chunk : Chunk) :
    (payload.data (some chunk)).content = chunk.content := by
  cases payload <;> first | rfl | cases carries

theorem Transaction.content_chunkData {payload : Payload} {content : Bytes}
    (carries : payload.content? = some content) (chunking : ChunkingConfig) (root : TransactionId)
    (index : Nat) :
    (chunkData payload chunking root index).content = part chunking.chunkSize index content := by
  simp only [chunkData, carries, Payload.content_data carries]

end LedgerClient
