import LedgerClient.Proofs.Transaction.Obtainable

/-!
Which id a submission goes out under. The root is the id of the transaction as it is at that moment;
the first chunk carries it as it is, and the ids of the others follow from it.
-/

namespace LedgerClient

/-- On the wire, the request is a body under this id for the node that it is sent to. -/
def Call.Carries (call : Call) (id : TransactionId) : Prop :=
  ∃ signed : SignedTransaction, call.request = Wire.encode signed ∧ signed.IsFor id call.node

/-- What was sent is one of the bodies that the transaction held for the chunk, namely the one that
names the node and the id of the chunk, which is that of the root. -/
structure Submission.SentAsStored (submission : Submission) (root : TransactionId)
    (id : TransactionId) (signed : SignedTransaction) : Prop where
  method : submission.call.method = submission.state.payload.method
  rooted : submission.state.id = some root
  named : submission.state.chunkIdAt submission.chunk = some id
  derived : id.same (Transaction.chunkId root submission.chunk) = true
  stored : ∃ bodies, submission.state.signedTransactions submission.chunk = some bodies ∧
    signed ∈ bodies
  request : submission.call.request = Wire.encode signed
  addressed : signed.IsFor id submission.call.node

theorem SignedTransaction.IsFor.ofSame {signed : SignedTransaction} {id other : TransactionId}
    {node : AccountId} (isFor : signed.IsFor id node) (same : id.same other = true) :
    signed.IsFor other node := by
  obtain ⟨body, written, named, addressed⟩ := isFor
  exact ⟨body, written, TransactionId.same_trans named same, addressed⟩

/-- What was sent goes out under the root that the transaction has then: the first chunk under the
root itself, and the others under ids that follow from it. -/
def Submission.CarriesRoot (submission : Submission) : Prop :=
  ∃ root, submission.state.id = some root ∧
    submission.call.Carries (Transaction.chunkId root submission.chunk)

theorem Submission.SentAsStored.carries {submission : Submission} {root id : TransactionId}
    {signed : SignedTransaction} (sent : submission.SentAsStored root id signed) :
    submission.call.Carries (Transaction.chunkId root submission.chunk) :=
  ⟨signed, sent.request, sent.addressed.ofSame sent.derived⟩

theorem Frozen.signedFor_mem {frozen : Frozen} {chunk : Nat} {node : AccountId}
    {bodies : FrozenChunk} {signed : SignedTransaction}
    (stored : frozen.chunks[chunk]? = some bodies)
    (found : frozen.signedFor chunk node = .ok signed) : signed ∈ bodies.signed := by
  obtain ⟨place, other, -, held, inPlace⟩ := Frozen.signedFor_held found
  rw [stored] at held
  cases held
  exact List.mem_of_getElem? inPlace

theorem Submission.Faithful.sentAsStored {submission : Submission} {chosen : Option TransactionId}
    (faithful : submission.Faithful) (sound : submission.state.Sound chosen) :
    ∃ root id signed, submission.SentAsStored root id signed := by
  obtain ⟨signed, requested, request⟩ := faithful.stored
  cases held : submission.state.frozen with
  | none => simp [Transaction.requestFor, held] at requested
  | some frozen =>
      simp only [Transaction.requestFor, held] at requested
      obtain ⟨root, named, coherent⟩ := sound.coherent frozen held
      obtain ⟨bodies, stored, derived, addressed⟩ := coherent.signedFor requested
      exact ⟨root, bodies.id, signed,
        { method := faithful.method
          rooted := named
          named := by simp [Transaction.chunkIdAt, held, stored]
          derived := derived
          stored := ⟨bodies.signed, by simp [Transaction.signedTransactions, held, stored],
            Frozen.signedFor_mem stored requested⟩
          request := request
          addressed := addressed }⟩

/-- The same transaction sends the same bytes for a chunk whenever it sends to the same node. -/
theorem Submission.Faithful.same_request {earlier later : Submission}
    (first : earlier.Faithful) (second : later.Faithful) (state : later.state = earlier.state)
    (chunk : earlier.chunk = later.chunk)
    (node : earlier.call.node.same later.call.node = true) :
    earlier.call.request = later.call.request := by
  obtain ⟨signed, requested, request⟩ := first.stored
  obtain ⟨other, requestedLater, requestLater⟩ := second.stored
  rw [state, ← chunk] at requestedLater
  cases held : earlier.state.frozen with
  | none => simp [Transaction.requestFor, held] at requested
  | some frozen =>
      simp only [Transaction.requestFor, held] at requested requestedLater
      rw [Frozen.signedFor_same node requested] at requestedLater
      cases requestedLater
      rw [request, requestLater]

namespace Transaction

variable {chosen : Option TransactionId} {transaction : Transaction}

/-- What sending a frozen transaction submits. Every request is what the transaction stores for that
chunk and that node, under the id it has then. Its id only changes after the first chunk was found
expired, where the settings allow it and the client made the id; so an id that the caller chose or
imported stays, and unless an id was replaced, a node is sent the same bytes again. -/
structure SendsStored (chosen : Option TransactionId) (transaction : Transaction) (client : Client)
    (world : World) (made : List Submission) : Prop where
  exchanged : world.Exchanged (made.map fun submission => submission.toExchange)
    (transaction.executeAll client world).world
  submissions : ∃ ready, transaction.signWithOperator client = .ok ready ∧
    Submissions ready made (transaction.executeAll client world).state
  settings : ∀ submission ∈ made, submission.config = transaction.executionFor client
  stored : ∀ submission ∈ made, ∃ root id signed, submission.SentAsStored root id signed
  replaced : ∀ (place : Nat) (earlier later : Submission), made[place]? = some earlier →
    made[place + 1]? = some later → later.state.id ≠ earlier.state.id →
      earlier.Renews ∧ chosen = none
  kept : ∀ id, chosen = some id → ∀ submission ∈ made, submission.state.id = some id
  repeated : ∀ (place distance : Nat) (earlier later : Submission), made[place]? = some earlier →
    made[place + distance]? = some later →
    (∀ (between : Nat) (submission : Submission), place ≤ between → between < place + distance →
      made[between]? = some submission → ¬ submission.Renews) →
    earlier.chunk = later.chunk → earlier.call.node.same later.call.node = true →
      earlier.call.request = later.call.request

theorem executeAll_sends_stored (obtainable : Obtainable chosen transaction)
    (frozen : transaction.isFrozen = true) (client : Client) (world : World) :
    ∃ made, SendsStored chosen transaction client world made := by
  obtain ⟨ready, signed, _, executed⟩ := executeAll_frozen frozen client world
  obtain ⟨made, sent⟩ := submitChunks_sent (transaction.executionFor client) ready world 0
    transaction.chunkCount
  have readySound : ready.Sound chosen := obtainable.sound.signWithOperator signed
  obtain ⟨sound, -⟩ := sent.submissions.sound readySound
  have faithful := sent.submissions.faithful
  refine ⟨made, ?exchanged, ⟨ready, signed, ?submissions⟩, sent.settings, ?stored, ?replaced, ?kept,
    ?repeated⟩
  case exchanged => rw [executed]; exact sent.exchanged
  case submissions => rw [executed]; exact sent.submissions
  case stored =>
    intro submission member
    exact (faithful submission member).sentAsStored (sound submission member)
  case replaced =>
    intro place earlier later found next different
    rcases sent.submissions.consecutive found next with unchanged | renews
    · exact absurd (congrArg Transaction.id unchanged) different
    · have member : earlier ∈ made := List.mem_of_getElem? found
      exact ⟨renews, (sound earlier member).not_chosen renews.generated⟩
  case kept =>
    intro id given submission member
    exact ((sound submission member).kept id given).1
  case repeated =>
    intro place distance earlier later found foundLater current chunk node
    exact (faithful earlier (List.mem_of_getElem? found)).same_request
      (faithful later (List.mem_of_getElem? foundLater))
      (sent.submissions.steady found foundLater current) chunk node

/-- The first chunk is found expired, and goes out again under a fresh id. -/
theorem sample_executeAll_sends_stored : Sample.frozen.isFrozen = true ∧
    ∃ made, SendsStored none Sample.frozen Sample.client
      (Sample.world [Sample.answer .transactionExpired, Sample.answer .ok, Sample.answer .ok])
      made :=
  ⟨Sample.frozen_isFrozen, executeAll_sends_stored Sample.frozen_obtainable Sample.frozen_isFrozen
    Sample.client _⟩

end Transaction

end LedgerClient
