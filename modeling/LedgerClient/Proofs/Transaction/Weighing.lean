import LedgerClient.Proofs.Transaction.Readable
import LedgerClient.Proofs.Transaction.Renewal

/-!
What freezing measures. The size of a body is worked out without writing it, and it is the number of
bytes that writing it takes, as it is for everything on the wire. So the body that is held against the
limit is as long as the one that gets signed and sent, under the id it was frozen with and under any
fresh one.
-/

namespace LedgerClient

/-- What is signed are the bytes of the body, and they are as many as were measured for it. -/
structure SignedTransaction.Weighed (signed : SignedTransaction) (body : TransactionBody)
    (most : Nat) : Prop where
  written : signed.body = Wire.encode body
  measured : Wire.size body = signed.body.length
  within : Wire.size body ≤ most

namespace Transaction

variable {transaction next state : Transaction} {client : Option Client} {world after : World}
  {plan : BodyPlan} {frozen : Frozen} {root : TransactionId}

/-! ## Transactions that follow a plan -/

/-- A frozen transaction holds the bodies of the plan, perhaps under another id than the plan has, and
the limits allow for all of them. -/
structure Follows (plan : BodyPlan) (state : Transaction) (frozen : Frozen) (root : TransactionId) :
    Prop where
  stored : state.frozen = some frozen
  named : state.id = some root
  asks : state.planOf frozen root = plan.under root
  grows : (plan.under root).unsigned.Grows frozen
  allowed : (plan.under root).Allowed

/-- The bodies that were just written are signed by those whose signers are at hand. -/
theorem follows_of_chunks {chunks : List FrozenChunk} {nodes : List AccountId} {maxFee : UInt64}
    {chunking : ChunkingConfig}
    (asks : transaction.planFor root nodes maxFee chunking = plan.under root)
    (written : (transaction.planFor root nodes maxFee chunking).chunks = .ok chunks)
    (generated : Bool) :
    ∃ frozen, Follows plan
      { transaction with
        id := some root, generated
        frozen := some (transaction.signers.foldl Frozen.signWith
          { nodes, maxFee, chunking, chunks }) } frozen root := by
  have allowed := BodyPlan.allowed_of_chunks written
  cases BodyPlan.chunks_eq written
  have grows : (transaction.planFor root nodes maxFee chunking).unsigned.Grows
      (transaction.signers.foldl Frozen.signWith
        { nodes, maxFee, chunking
          chunks := (transaction.planFor root nodes maxFee chunking).unsigned.chunks }) :=
    signAll_grows _ transaction.signers
  refine ⟨_, rfl, rfl, ?_, asks ▸ grows, asks ▸ allowed⟩
  rw [← asks, planOf, grows.nodes, grows.maxFee, grows.chunking]
  rfl

theorem freezeWith_follows (froze : transaction.freezeWith client world = (.ok next, after)) :
    ∃ nodes frozen root, Follows (transaction.planWith client root nodes) next frozen root := by
  obtain ⟨root, generated, nodes, middle, -, -, -, written⟩ := freezeWith_resolved froze
  obtain ⟨chunks, planned, made⟩ := bind_eq_ok.mp written
  cases made
  have asks : transaction.planWith client root nodes =
      (transaction.planWith client root nodes).under root := rfl
  obtain ⟨frozen, follows⟩ := follows_of_chunks asks planned generated
  exact ⟨nodes, frozen, root, follows⟩

theorem Follows.isFrozen (follows : Follows plan state frozen root) : state.isFrozen = true := by
  simp [Transaction.isFrozen, follows.stored]

theorem Follows.step {trusted : Signer → Prop} (step : Step trusted state next)
    (follows : ∃ frozen root, Follows plan state frozen root) :
    ∃ frozen root, Follows plan next frozen root := by
  obtain ⟨held, root, follows⟩ := follows
  have keeps := step.keeps follows.isFrozen
  obtain ⟨grown, stored, grows⟩ := keeps.bodies held follows.stored
  have asks := keeps.upholds.planOf follows.stored stored root
  exact ⟨grown, root, stored, keeps.id.trans follows.named, asks.trans follows.asks,
    follows.grows.trans grows, follows.allowed⟩

/-- Under a fresh id, the bodies are measured once more. -/
theorem Follows.regenerate (regenerated : state.regenerate world = (.ok next, after))
    (follows : ∃ frozen root, Follows plan state frozen root) :
    ∃ frozen root, Follows plan next frozen root := by
  obtain ⟨held, root, follows⟩ := follows
  simp only [Transaction.regenerate, follows.stored, follows.named] at regenerated
  split at regenerated
  · cases regenerated
  · split at regenerated
    · cases regenerated
    · rename_i chunks written
      cases regenerated
      have asks : state.planOf held (world.generateId root.payer).1 =
          plan.under (world.generateId root.payer).1 :=
        congrArg (BodyPlan.under · (world.generateId root.payer).1) follows.asks
      obtain ⟨frozen, renewed⟩ := follows_of_chunks asks written state.generated
      exact ⟨frozen, _, renewed⟩

theorem run_follows (follows : ∃ frozen root, Follows plan state frozen root)
    (operations : List Operation) :
    ∃ frozen root, Follows plan (state.run operations) frozen root := by
  have step : ∀ {before after}, Step (fun _ => True) before after →
      (∃ frozen root, Follows plan before frozen root) →
      ∃ frozen root, Follows plan after frozen root := Follows.step
  exact run_preserves_renewing step Follows.regenerate follows fun _ _ _ _ => trivial

/-! ## What is held and what is sent -/

theorem Follows.weighed (follows : Follows plan state frozen root) {index : Nat}
    {chunk : FrozenChunk} (found : frozen.chunks[index]? = some chunk) :
    List.Forall₂ (fun node signed =>
      signed.Weighed ((plan.under root).body index node) plan.chunking.maxTransactionSize)
      plan.nodes chunk.signed := by
  obtain ⟨inside, grown⟩ := BodyPlan.grown_chunk follows.grows found
  have written := (plan.under root).grown_bodies grown
  have both := (List.forall₂_and_left plan.nodes chunk.signed).mpr
    ⟨follows.allowed.short index inside, written⟩
  refine both.imp ?_
  rintro node signed ⟨short, body⟩
  rw [Wire.length_encode] at short
  exact ⟨body, by rw [body, Wire.length_encode], short⟩

/-- The request is one of the bodies that were measured, with its signatures. -/
def SendsWeighed (plan : BodyPlan) (call : Call) : Prop :=
  ∃ (root : TransactionId) (index : Nat) (node : AccountId) (signed : SignedTransaction),
    call.request = Wire.encode signed ∧
      signed.Weighed ((plan.under root).body index node) plan.chunking.maxTransactionSize

theorem Follows.sendsWeighed {submission : Submission}
    (follows : Follows plan submission.state frozen root) (faithful : submission.Faithful) :
    SendsWeighed plan submission.call := by
  obtain ⟨signed, requested, request⟩ := faithful.stored
  simp only [requestFor, follows.stored] at requested
  obtain ⟨place, chunk, -, inChunks, inPlace⟩ := Frozen.signedFor_held requested
  obtain ⟨node, -, weighed⟩ := forall₂_getElem? (follows.weighed inChunks) inPlace
  exact ⟨root, submission.chunk, node, signed, request, weighed⟩

theorem executeAll_sendsWeighed (follows : ∃ frozen root, Follows plan state frozen root)
    (client : Client) (world : World) :
    ∃ made, world.Exchanged made (state.executeAll client world).world ∧
      ∀ exchange ∈ made, SendsWeighed plan exchange.call := by
  obtain ⟨ready, made, readied, sent⟩ := executeAll_sent state client world
  have steps : Steps (fun _ => True) state ready := readied.steps fun _ _ => trivial
  have states := (sent.submissions.preserves
    (fun held _ regenerated => Follows.regenerate regenerated held)
    (steps.preserves Follows.step follows)).1
  refine ⟨_, sent.exchanged, ?_⟩
  rw [List.forall_mem_map]
  intro submission member
  obtain ⟨frozen, root, follows⟩ := states submission member
  exact follows.sendsWeighed (sent.submissions.faithful submission member)

/-! ## Freezing -/

section Refusals

variable {size most : Nat}

theorem checkChecksums_ne_oversize :
    transaction.checkChecksums client world ≠ .error (.transactionOversize size most) := by
  intro refused
  unfold checkChecksums at refused
  split at refused
  · cases refused
  · split at refused
    · obtain ⟨mismatch, -, same⟩ := mapError_eq_error.mp refused
      cases same
    · cases refused

theorem resolveId_ne_oversize :
    transaction.resolveId client world ≠ (.error (.transactionOversize size most), after) := by
  intro refused
  unfold resolveId at refused
  split at refused
  · cases refused
  · split at refused <;> cases refused

theorem resolveNodes_ne_oversize :
    transaction.resolveNodes client world ≠ (.error (.transactionOversize size most), after) := by
  intro refused
  unfold resolveNodes at refused
  split at refused
  · cases refused
  · cases refused
  · split at refused
    · cases refused
    · split at refused <;> cases refused

/-- Nothing but writing the bodies refuses a transaction for its size. -/
theorem freezeWith_oversize
    (froze : transaction.freezeWith client world =
      (.error (.transactionOversize size most), after)) :
    ∃ root nodes, (transaction.planWith client root nodes).chunks =
      .error (.transactionOversize size most) := by
  unfold freezeWith at froze
  split at froze
  · cases froze
  · split at froze
    · rename_i refused
      cases froze
      exact absurd refused checkChecksums_ne_oversize
    · split at froze
      · rename_i refused
        cases froze
        exact absurd refused resolveId_ne_oversize
      · split at froze
        · rename_i refused
          cases froze
          exact absurd refused resolveNodes_ne_oversize
        · rename_i root generated _ _ _ nodes _ _
          have written := congrArg Prod.fst froze
          rcases bind_eq_error.mp written with failed | ⟨chunks, -, made⟩
          · exact ⟨root, nodes, failed⟩
          · cases made

end Refusals

/-- What freezing measures. It refuses a body for its size exactly by how long it is; what it lets pass
is within the limit, and is what gets signed and sent, whatever is done to the transaction. -/
structure Weighs (transaction : Transaction) (client : Option Client) (world : World) : Prop where
  refused : ∀ size most after,
    transaction.freezeWith client world = (.error (.transactionOversize size most), after) →
      ∃ root index node, size = (Wire.encode (transaction.bodyWith client root index node)).length ∧
        index < transaction.chunksWith client ∧
        most = (transaction.resolveChunking client).maxTransactionSize ∧ most < size
  held : ∀ next after, transaction.freezeWith client world = (.ok next, after) →
    ∀ operations, ∃ frozen root, (next.run operations).frozen = some frozen ∧
      (next.run operations).id = some root ∧
      frozen.chunks.length = transaction.chunksWith client ∧
      ∀ (index : Nat) (chunk : FrozenChunk), frozen.chunks[index]? = some chunk →
        List.Forall₂ (fun node signed =>
          SignedTransaction.Weighed signed (transaction.bodyWith client root index node)
            (transaction.resolveChunking client).maxTransactionSize)
          frozen.nodes chunk.signed
  signed : ∀ next after, transaction.freezeWith client world = (.ok next, after) →
    (∀ signer ∈ transaction.signers, signer.Honest) →
    ∀ operations : List Operation,
      (∀ operation ∈ operations, ∀ signer ∈ operation.signers, signer.Honest) →
      ∀ frozen, (next.run operations).frozen = some frozen →
        ∀ signed ∈ frozen.bodies, signed.WellSigned
  sent : ∀ next after, transaction.freezeWith client world = (.ok next, after) →
    ∀ (operations : List Operation) (sender : Client) (now : World),
      ∃ made, now.Exchanged made ((next.run operations).executeAll sender now).world ∧
        ∀ exchange ∈ made, ∃ (root : TransactionId) (index : Nat) (node : AccountId)
          (signed : SignedTransaction), exchange.call.request = Wire.encode signed ∧
            signed.Weighed (transaction.bodyWith client root index node)
              (transaction.resolveChunking client).maxTransactionSize

theorem freezeWith_refused {size most : Nat}
    (froze : transaction.freezeWith client world =
      (.error (.transactionOversize size most), after)) :
    ∃ root index node, size = (Wire.encode (transaction.bodyWith client root index node)).length ∧
      index < transaction.chunksWith client ∧
      most = (transaction.resolveChunking client).maxTransactionSize ∧ most < size := by
  obtain ⟨root, nodes, failed⟩ := freezeWith_oversize froze
  have comes := (transaction.planWith client root nodes).chunks_comes
  rw [failed] at comes
  cases comes with
  | @oversize index node few inside listed long =>
      rw [planWith_total] at inside
      exact ⟨root, index, node, by rw [planWith_body], inside, rfl, long⟩

theorem planWith_under_body {start : TransactionId} {nodes : List AccountId} (index : Nat)
    (node : AccountId) :
    ((transaction.planWith client start nodes).under root).body index node =
      transaction.bodyWith client root index node :=
  planWith_body index node

theorem Follows.held {nodes : List AccountId} {start : TransactionId}
    (follows : Follows (transaction.planWith client start nodes) state frozen root) :
    frozen.chunks.length = transaction.chunksWith client ∧
      ∀ (index : Nat) (chunk : FrozenChunk), frozen.chunks[index]? = some chunk →
        List.Forall₂ (fun node signed =>
          SignedTransaction.Weighed signed (transaction.bodyWith client root index node)
            (transaction.resolveChunking client).maxTransactionSize)
          frozen.nodes chunk.signed := by
  constructor
  · exact (BodyPlan.grown_length follows.grows).trans planWith_total
  · intro index chunk found
    have weighed := follows.weighed found
    have listed : frozen.nodes = nodes := congrArg BodyPlan.nodes follows.asks
    simp only [planWith_under_body] at weighed
    rw [listed]
    exact weighed

theorem freezeWith_weighs (transaction : Transaction) (client : Option Client) (world : World) :
    transaction.Weighs client world where
  refused _ _ _ froze := freezeWith_refused froze
  held next after froze operations := by
    obtain ⟨nodes, held, start, follows⟩ := freezeWith_follows froze
    obtain ⟨frozen, root, follows⟩ := run_follows ⟨held, start, follows⟩ operations
    exact ⟨frozen, root, follows.stored, follows.named, follows.held⟩
  signed next after froze honest operations trust := by
    have holds : transaction.Holds Signer.Honest SignedTransaction.WellSigned := by
      refine ⟨honest, fun frozen stored => ?_⟩
      rw [(freezeWith_wrote froze).unfrozen] at stored
      cases stored
    have lasting := SignedTransaction.wellSigned_lasting
    exact (run_preserves (Holds.step lasting) (Holds.rewrote lasting)
      (holds.step lasting (.froze (freezeWith_wrote froze))) trust).bodies
  sent next after froze operations sender now := by
    obtain ⟨nodes, held, start, follows⟩ := freezeWith_follows froze
    obtain ⟨made, exchanged, sends⟩ :=
      executeAll_sendsWeighed (run_follows ⟨held, start, follows⟩ operations) sender now
    simp only [SendsWeighed, planWith_under_body] at sends
    exact ⟨made, exchanged, sends⟩

end Transaction

/-! ## All types -/

open Wire

/-- Every value that is written to the wire takes as many bytes as its size says, whether or not it is
within the limits of its reader; and so freezing measures just what is signed and sent. -/
theorem messages_measured :
    (Measured Timestamp ∧ Measured TransactionId ∧ Measured ChunkInfo ∧ Measured AccountAmount ∧
      Measured TransactionKind ∧ Measured TransactionData ∧ Measured SchedulableBody ∧
      Measured TransactionBody ∧ Measured SignaturePair ∧ Measured SignedTransaction ∧
      Measured SubmitResponse ∧ Measured TransactionList ∧ Measured Receipt ∧ Measured Status ∧
      Measured ResponseType ∧ Measured QueryHeader ∧ Measured QueryData ∧ Measured QueryRequest ∧
      Measured AccountBalance ∧ Measured AccountInfo ∧ Measured QueryAnswer ∧
      Measured QueryResponse ∧ ∀ kind, Measured (EntityId kind)) ∧
    (∀ bytes : Bytes, (encodeBlock bytes).length = blockSize bytes) ∧
    (∀ text : String, (encodeText text).length = textSize text) ∧
    ∀ transaction client world, Transaction.Weighs transaction client world := by
  refine ⟨?types, length_encodeBlock, length_encodeText, Transaction.freezeWith_weighs⟩
  refine ⟨?_, ?_, ?_, ?_, ?_, ?_, ?_, ?_, ?_, ?_, ?_, ?_, ?_, ?_, ?_, ?_, ?_, ?_, ?_, ?_, ?_, ?_, ?_⟩
  all_goals infer_instance

end LedgerClient
