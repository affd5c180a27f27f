import LedgerClient.Proofs.Transaction.Ordering

/-!
What the chunks of a transaction bring to the ledger. A transaction that was put together and frozen
here holds in its bodies what its plan says, whatever was done to it; so the chunks that are sent
bring the parts of its content, one after the other and each of them once.
-/

namespace LedgerClient.Transaction

variable {trusted : Signer → Prop} {transaction before after : Transaction} {frozen : Frozen}
  {chunk : Nat} {node : AccountId} {signed : SignedTransaction} {chosen : Option TransactionId}

/-! ## Bodies stay as they were written -/

theorem Keeps.written (keeps : Keeps before after) (frozen : before.isFrozen = true)
    (written : before.Written) : after.Written := by
  intro grown stored
  obtain ⟨held, storedBefore⟩ := Option.isSome_iff_exists.mp frozen
  obtain ⟨root, named, grows⟩ := written held storedBefore
  obtain ⟨other, storedOther, growsOn⟩ := keeps.bodies held storedBefore
  rw [stored] at storedOther
  cases storedOther
  refine ⟨root, keeps.id.trans named, ?_⟩
  have plan : after.planFor root grown.nodes grown.maxFee grown.chunking =
      before.planFor root held.nodes held.maxFee held.chunking := by
    simp only [planFor, keeps.validDuration, keeps.memo, keeps.payload, growsOn.nodes,
      growsOn.maxFee, growsOn.chunking]
  rw [plan]
  exact grows.trans growsOn

theorem Written.step (step : Step trusted before after) (written : before.Written) :
    after.Written := by
  cases frozen : before.isFrozen with
  | true => exact (step.keeps frozen).written frozen written
  | false =>
      have absent : before.frozen = none := by simpa [isFrozen] using frozen
      cases step with
      | adjusted _ still _ _ => exact .ofUnfrozen still
      | tuned execution => exact .ofUnfrozen absent
      | froze wrote => exact wrote.written
      | signed _ signed =>
          obtain ⟨held, -, stored, -⟩ := signWith_signed signed
          rw [absent] at stored
          cases stored
      | attached signed =>
          obtain ⟨held, _, _, _, -, stored, -⟩ := addSignature_attached signed
          rw [absent] at stored
          cases stored
      | closed closed => simp [close, frozen] at closed

theorem Step.payload_eq (step : Step trusted before after) : after.payload = before.payload := by
  cases step with
  | adjusted _ _ payload _ => exact payload
  | tuned execution => rfl
  | froze wrote =>
      obtain ⟨_, _, _, _, _, rfl⟩ := wrote.now
      rfl
  | signed _ signed =>
      obtain ⟨_, _, _, rfl⟩ := signWith_signed signed
      rfl
  | attached signed =>
      obtain ⟨_, _, _, _, _, _, _, _, _, _, rfl⟩ := addSignature_attached signed
      rfl
  | closed closed =>
      simp only [close] at closed
      split at closed
      · cases closed
        rfl
      · cases closed

/-- The transaction asks for this payload, and if it is frozen, its bodies say so. -/
structure Carries (payload : Payload) (transaction : Transaction) : Prop where
  payload : transaction.payload = payload
  written : transaction.Written

theorem Carries.step {payload : Payload} (step : Step trusted before after)
    (carries : Carries payload before) : Carries payload after :=
  ⟨step.payload_eq.trans carries.payload, carries.written.step step⟩

theorem Carries.rewrote {payload : Payload} (rewrote : before.Rewrote after)
    (carries : Carries payload before) : Carries payload after := by
  refine ⟨?_, rewrote.written⟩
  obtain ⟨_, _, _, rfl⟩ := rewrote.now
  exact carries.payload

theorem run_carries (payload : Payload) (operations : List Operation) :
    Carries payload ((ofPayload payload).run operations) := by
  have initial : Carries payload (ofPayload payload) := ⟨rfl, .ofUnfrozen rfl⟩
  exact run_preserves_always Carries.step Carries.rewrote initial operations

/-! ## Parts of the content -/

theorem BodyPlan.unsigned_body {plan : BodyPlan} {bodies : FrozenChunk} {place : Nat}
    (inChunk : plan.unsigned.chunks[chunk]? = some bodies)
    (held : bodies.signed[place]? = some signed) :
    ∃ listed, signed = SignedTransaction.ofBody (plan.body chunk listed) := by
  simp only [BodyPlan.unsigned, List.getElem?_map, Option.map_eq_some_iff] at inChunk
  obtain ⟨index, inRange, rfl⟩ := inChunk
  obtain ⟨_, rfl⟩ := List.getElem?_eq_some_iff.mp inRange
  simp only [BodyPlan.unsignedChunk, List.getElem_range, List.getElem?_map,
    Option.map_eq_some_iff] at held
  obtain ⟨listed, -, rfl⟩ := held
  exact ⟨listed, rfl⟩

/-- What is sent for a chunk is the body that the plan has for it. -/
theorem Written.requestFor (written : transaction.Written)
    (stored : transaction.frozen = some frozen)
    (found : transaction.requestFor chunk node = .ok signed) :
    ∃ root listed, transaction.id = some root ∧
      signed.body = Wire.encode ((transaction.planFor root frozen.nodes frozen.maxFee
        frozen.chunking).body chunk listed) := by
  obtain ⟨root, named, grows⟩ := written frozen stored
  simp only [Transaction.requestFor, stored] at found
  obtain ⟨place, bodies, -, inChunk, held⟩ := Frozen.signedFor_held found
  obtain ⟨unsigned, planned, grown⟩ := forall₂_getElem? grows.chunks inChunk
  obtain ⟨body, inPlace, grownBody⟩ := forall₂_getElem? grown.signed held
  obtain ⟨listed, rfl⟩ := BodyPlan.unsigned_body planned inPlace
  exact ⟨root, listed, named, grownBody.body⟩

end LedgerClient.Transaction

namespace LedgerClient

/-- On the wire, the request is a body with this content. -/
def Call.Brings (call : Call) (content : Bytes) : Prop :=
  ∃ (signed : SignedTransaction) (body : TransactionBody), call.request = Wire.encode signed ∧
    signed.body = Wire.encode body ∧ body.data.content = content

namespace Transaction

variable {transaction : Transaction} {payload : Payload} {whole : Bytes}
  {chosen : Option TransactionId}

theorem Carries.brings {submission : Submission} {frozen : Frozen}
    (carries : Carries payload submission.state) (faithful : submission.Faithful)
    (stored : submission.state.frozen = some frozen) (content : payload.content? = some whole) :
    submission.call.Brings (part frozen.chunking.chunkSize submission.chunk whole) := by
  obtain ⟨signed, found, request⟩ := faithful.stored
  obtain ⟨root, listed, -, written⟩ := carries.written.requestFor stored found
  refine ⟨signed, _, request, written, ?_⟩
  rw [← carries.payload] at content
  exact content_chunkData content frozen.chunking root submission.chunk

/-- There are as many chunks as the content has parts. -/
theorem Carries.chunkCount {frozen : Frozen} (carries : Carries payload transaction)
    (stored : transaction.frozen = some frozen) (content : payload.content? = some whole) :
    transaction.chunkCount = partCount frozen.chunking.chunkSize whole.length := by
  obtain ⟨root, -, grows⟩ := carries.written frozen stored
  have total : frozen.chunks.length = chunkTotal payload frozen.chunking := by
    rw [← grows.chunks.length_eq]
    simp [BodyPlan.unsigned, BodyPlan.total, planFor, carries.payload]
  simpa only [Transaction.chunkCount, stored, chunkTotal, content] using total

/-- A fresh id changes neither what is asked for nor how it is cut into parts. -/
theorem Carries.submissions {frozen : Frozen} {made : List Submission} {final : Transaction}
    (carries : Carries payload transaction) (stored : transaction.frozen = some frozen)
    (submissions : Submissions transaction made final) (content : payload.content? = some whole) :
    ∀ submission ∈ made,
      submission.call.Brings (part frozen.chunking.chunkSize submission.chunk whole) := by
  have states := (submissions.preserves
    (P := fun state => Carries payload state ∧
      ∃ held, state.frozen = some held ∧ held.chunking = frozen.chunking)
    (fun before _ regenerated => by
      obtain ⟨carried, held, storedHeld, chunking⟩ := before
      obtain ⟨was, now, id, fresh⟩ := regenerate_regenerated regenerated
      have same := fresh.was
      rw [storedHeld] at same
      cases same
      refine ⟨carried.rewrote (regenerate_rewrote regenerated), now, ?_, ?_⟩
      · rw [fresh.now]
      · exact fresh.chunking.trans chunking)
    ⟨carries, frozen, stored, rfl⟩).1
  intro submission member
  obtain ⟨carried, held, storedHeld, chunking⟩ := states submission member
  rw [← chunking]
  exact carried.brings (submissions.faithful submission member) storedHeld content

/-- What sending a transaction submits, and what comes of it. All submissions are chunks of the
transaction as it was made ready, and as it became with each fresh id. No chunk is sent before those
in front of it were accepted, and none again once it was; if all goes well, there is one response
for each chunk, about the submission of it that was accepted. A content that is spread over the
chunks of a transaction that was put together here then has arrived as a whole. -/
structure SendsInOrder (transaction : Transaction) (client : Client) (world : World)
    (made : List Submission) : Prop where
  exchanged : world.Exchanged (made.map fun submission => submission.toExchange)
    (transaction.executeAll client world).world
  submissions : ∃ ready, Readied client transaction ready ∧
    Submissions ready made (transaction.executeAll client world).state
  stored : ∀ submission ∈ made, ∃ root id signed, submission.SentAsStored root id signed
  ordered : Ordered 0 (transaction.executeAll client world).state.chunkCount made
    (transaction.executeAll client world).result
  failed : ∀ chunk,
    (∀ submission ∈ made, submission.chunk = chunk → submission.reply.accepts = false) →
      ∀ submission ∈ made, submission.chunk ≤ chunk
  complete : ∀ payload operations whole, transaction = (ofPayload payload).run operations →
    payload.content? = some whole →
      ∀ responses, (transaction.executeAll client world).result = .ok responses →
        ∃ contents, List.Forall₂ (fun submission content => submission.call.Brings content)
          (made.filter (·.reply.accepts)) contents ∧ contents.flatten = whole

theorem Ordered.failed {count : Nat} {made : List Submission}
    {result : Except Error (List TransactionResponse)} (ordered : Ordered 0 count made result)
    {chunk : Nat}
    (refused : ∀ submission ∈ made, submission.chunk = chunk → submission.reply.accepts = false) :
    ∀ submission ∈ made, submission.chunk ≤ chunk := by
  intro submission member
  by_contra beyond
  obtain ⟨earlier, rest, split⟩ := List.append_of_mem member
  obtain ⟨other, before, same, accepts⟩ :=
    ordered.behind earlier submission rest split chunk (Nat.zero_le chunk) (Nat.lt_of_not_le beyond)
  rw [refused other (by simp [split, before]) same] at accepts
  contradiction

/-- The parts that were accepted, in the order of their chunks, make up the content. -/
theorem Ordered.complete {size : Nat} (positive : 0 < size) {made : List Submission}
    {responses : List TransactionResponse}
    (ordered : Ordered 0 (partCount size whole.length) made (.ok responses))
    (brings : ∀ submission ∈ made, submission.call.Brings (part size submission.chunk whole)) :
    ∃ contents, List.Forall₂ (fun submission content => submission.call.Brings content)
      (made.filter (·.reply.accepts)) contents ∧ contents.flatten = whole := by
  obtain ⟨chunks, -⟩ := ordered.confirmed responses rfl
  refine ⟨(made.filter (·.reply.accepts)).map fun submission => part size submission.chunk whole,
    ?_, ?_⟩
  · refine List.forall₂_map_right_iff.mpr (List.forall₂_same.mpr fun submission member => ?_)
    exact brings submission (List.mem_of_mem_filter member)
  · have parts := flatMap_parts positive whole
    rw [List.range_eq_range', ← chunks, List.flatMap_map] at parts
    exact parts

theorem executeAll_in_order (obtainable : Obtainable chosen transaction) (client : Client)
    (world : World) : ∃ made, SendsInOrder transaction client world made := by
  have prepares := executeAll_prepares transaction client world
  generalize answered : transaction.executeAll client world = sent at prepares
  cases prepares with
  | unfrozen unfrozen quiet =>
      have none : transaction.chunkCount = 0 := by
        have absent : transaction.frozen = .none := by simpa [isFrozen] using unfrozen
        simp [chunkCount, absent]
      refine ⟨[], answered ▸ quiet, ⟨transaction, .unfrozen unfrozen, answered ▸ .nil _⟩, by simp,
        ?_, by simp, ?_⟩
      · rw [answered, none]
        refine ⟨by simp, .nil, by simp, .nil, ?_⟩
        intro responses ok
        cases ok
      · intro _ _ _ _ _ responses ok
        rw [answered] at ok
        cases ok
  | @ready ready middle readied frozen quiet =>
      obtain ⟨made, chunked⟩ := submitChunks_chunked (transaction.executionFor client) ready middle
        0 ready.chunkCount
      have sound := (obtainable.readied readied).sound
      have submissions := chunked.sent.submissions
      have count := (submissions.continues sound).2.chunkCount
      have ordered := chunked.ordered sound
      refine ⟨made, ?exchanged, ⟨ready, readied, answered ▸ submissions⟩, ?stored, ?ordered,
        ?failed, ?complete⟩
      case exchanged => rw [answered]; exact quiet.afterQuiet chunked.sent.exchanged
      case stored =>
        intro submission member
        exact (submissions.faithful submission member).sentAsStored
          ((submissions.sound sound).1 submission member)
      case ordered => rw [answered, count]; exact ordered
      case failed => exact fun chunk refused => ordered.failed refused
      case complete =>
        intro payload operations whole came content responses ok
        rw [answered] at ok
        rw [ok] at ordered
        obtain ⟨held, stored⟩ := Option.isSome_iff_exists.mp frozen
        have steps : Steps (fun _ => True) transaction ready := readied.steps fun _ _ => trivial
        have carries : Carries payload ready :=
          steps.preserves Carries.step (came ▸ run_carries payload operations)
        rw [carries.chunkCount stored content] at ordered
        exact ordered.complete held.chunking.chunkSize_pos
          (carries.submissions stored submissions content)

/-- A message of two chunks, whose first chunk is found expired and goes out again under a fresh
id. -/
theorem sample_executeAll_in_order :
    (((ofPayload (.topicMessageSubmit Sample.topic [1, 2])).run
        [.freeze (some Sample.client) (Sample.world [])]).executeAll Sample.client
        (Sample.world [Sample.answer .transactionExpired, Sample.answer .ok, Sample.answer .ok])
        ).result.toOption.isSome = true ∧
      ∃ made, SendsInOrder ((ofPayload (.topicMessageSubmit Sample.topic [1, 2])).run
        [.freeze (some Sample.client) (Sample.world [])]) Sample.client
        (Sample.world [Sample.answer .transactionExpired, Sample.answer .ok, Sample.answer .ok])
        made := by
  obtain ⟨chosen, obtainable⟩ := run_obtainable (.topicMessageSubmit Sample.topic [1, 2])
    [.freeze (some Sample.client) (Sample.world [])]
  exact ⟨by decide +kernel, executeAll_in_order obtainable Sample.client _⟩

end Transaction

end LedgerClient
