import LedgerClient.Proofs.Transaction.Chunking
import LedgerClient.Proofs.Transaction.Inspection

/-!
Fresh ids. A transaction that was frozen here can get one as long as there is a signer at hand for
every key that has signed it. A fresh id is never longer than another, so bodies that were short
enough once are so under every fresh id; and whoever has signed any body signs all of them again.
-/

namespace LedgerClient

/-! ## Fresh ids are short -/

theorem TransactionId.size_eq (id : TransactionId) : Wire.size id = 37 + Wire.size id.nonce := rfl

/-- No id is shorter than one without a nonce. -/
theorem TransactionId.size_le_of_plain {fresh : TransactionId} (plain : fresh.nonce = none)
    (id : TransactionId) : Wire.size fresh ≤ Wire.size id := by
  have least : 1 ≤ Wire.size id.nonce := by
    cases id.nonce with
    | none => exact Nat.le_refl 1
    | some nonce => exact Nat.le_add_right 1 4
  rw [size_eq, size_eq, plain]
  change 37 + 1 ≤ _
  omega

theorem TransactionBody.size_eq (body : TransactionBody) :
    Wire.size body = Wire.size body.transactionId + Wire.size body.node + Wire.size body.maxFee +
      Wire.size body.validSeconds + Wire.textSize body.memo + Wire.size body.data := rfl

theorem World.generateId_nonce (world : World) (payer : AccountId) :
    (world.generateId payer).1.nonce = none := rfl

namespace Transaction

variable {root fresh : TransactionId} {index : Nat}

theorem chunkId_size_le (plain : fresh.nonce = none) :
    Wire.size (chunkId fresh index) ≤ Wire.size (chunkId root index) := by
  unfold chunkId
  split
  · exact TransactionId.size_le_of_plain plain root
  · exact Nat.le_refl _

theorem chunkInfo_size_le (plain : fresh.nonce = none) (chunk : Chunk) :
    Wire.size (Payload.chunkInfo { chunk with initialId := fresh }) ≤
      Wire.size (Payload.chunkInfo chunk) := by
  unfold Payload.chunkInfo
  split
  · have shorter := TransactionId.size_le_of_plain plain chunk.initialId
    change 1 + (Wire.size fresh + 4 + 4) ≤ 1 + (Wire.size chunk.initialId + 4 + 4)
    omega
  · exact Nat.le_refl _

theorem chunkData_size_le (plain : fresh.nonce = none) (payload : Payload)
    (chunking : ChunkingConfig) :
    Wire.size (chunkData payload chunking fresh index) ≤
      Wire.size (chunkData payload chunking root index) := by
  cases payload with
  | topicMessageSubmit topic message =>
      -- Only a message names the id in its data; the parts are the same under both ids.
      have shorter := chunkInfo_size_le plain
        { index, total := partCount chunking.chunkSize message.length, initialId := root
          content := part chunking.chunkSize index message }
      exact Nat.add_le_add_left (Nat.add_le_add_left shorter _) _
  | _ => exact Nat.le_refl _

namespace BodyPlan

variable {plan : BodyPlan} {node : AccountId}

/-- The same plan for another id. -/
def under (plan : BodyPlan) (root : TransactionId) : BodyPlan :=
  { plan with root }

theorem body_length_le (plain : fresh.nonce = none) :
    (Wire.encode ((plan.under fresh).body index node)).length ≤
      (Wire.encode (plan.body index node)).length := by
  have id : Wire.size (chunkId fresh index) ≤ Wire.size (chunkId plan.root index) :=
    chunkId_size_le plain
  have data : Wire.size (chunkData plan.payload plan.chunking fresh index) ≤
      Wire.size (chunkData plan.payload plan.chunking plan.root index) :=
    chunkData_size_le plain plan.payload plan.chunking
  rw [Wire.length_encode, Wire.length_encode, TransactionBody.size_eq, TransactionBody.size_eq]
  simp only [BodyPlan.body, under]
  omega

/-- The limits allow for the bodies of the plan. -/
structure Allowed (plan : BodyPlan) : Prop where
  few : plan.total ≤ plan.chunking.maxChunks
  short : ∀ index < plan.total, ∀ node ∈ plan.nodes,
    (Wire.encode (plan.body index node)).length ≤ plan.chunking.maxTransactionSize

theorem Allowed.chunks (allowed : plan.Allowed) : plan.chunks = .ok plan.unsigned.chunks := by
  have comes := plan.chunks_comes
  generalize plan.chunks = outcome at comes
  cases comes with
  | tooMany more => exact absurd more (Nat.not_lt.mpr allowed.few)
  | oversize few inside listed long =>
      exact absurd long (Nat.not_lt.mpr (allowed.short _ inside _ listed))
  | written few short => rfl

theorem allowed_of_chunks {chunks : List FrozenChunk} (written : plan.chunks = .ok chunks) :
    plan.Allowed := by
  have comes := plan.chunks_comes
  rw [written] at comes
  cases comes with
  | written few short => exact ⟨few, short⟩

theorem Allowed.under (allowed : plan.Allowed) (plain : fresh.nonce = none) :
    (plan.under fresh).Allowed where
  few := allowed.few
  short index inside node listed :=
    Nat.le_trans (body_length_le plain) (allowed.short index inside node listed)

end BodyPlan

variable {transaction next state : Transaction} {client : Option Client} {world after now : World}
  {frozen : Frozen}

/-! ## The plan of a frozen transaction -/

theorem freezeWith_allowed (froze : transaction.freezeWith client world = (.ok next, after)) :
    ∃ held id, next.frozen = some held ∧ next.id = some id ∧ (next.planOf held id).Allowed := by
  obtain ⟨id, generated, nodes, middle, -, -, -, written⟩ := freezeWith_resolved froze
  obtain ⟨chunks, planned, made⟩ := bind_eq_ok.mp written
  cases made
  have allowed := BodyPlan.allowed_of_chunks planned
  cases BodyPlan.chunks_eq planned
  have grows := signAll_grows (transaction.planFor id nodes (transaction.resolveFee client)
    (transaction.resolveChunking client)).unsigned transaction.signers
  refine ⟨transaction.signers.foldl Frozen.signWith (transaction.planFor id nodes
    (transaction.resolveFee client) (transaction.resolveChunking client)).unsigned, id, rfl, rfl, ?_⟩
  unfold planOf
  rw [grows.nodes, grows.maxFee, grows.chunking]
  exact allowed

/-- Whatever was done to a transaction since it was frozen, its bodies can be written anew under
every fresh id. -/
theorem run_allowed (froze : transaction.freezeWith client world = (.ok next, after))
    (operations : List Operation) :
    ∃ frozen root, (next.run operations).frozen = some frozen ∧
      (next.run operations).id = some root ∧
      ((next.run operations).planOf frozen root).unsigned.Grows frozen ∧
      ∀ fresh : TransactionId, fresh.nonce = none →
        ((next.run operations).planOf frozen fresh).Allowed := by
  have maintains := freezeWith_maintains froze operations
  obtain ⟨held, id, stored, -, allowed⟩ := freezeWith_allowed froze
  obtain ⟨frozen, storedNow, -⟩ := maintains.upholds.frozen held stored
  obtain ⟨root, named, grows⟩ := maintains.written frozen storedNow
  refine ⟨frozen, root, storedNow, named, grows, ?_⟩
  intro fresh plain
  rw [maintains.upholds.planOf stored storedNow fresh]
  exact allowed.under plain

/-! ## Signers at hand -/

theorem missingSigner?_eq_none_iff : state.missingSigner? frozen = none ↔
    ∀ key ∈ frozen.signingKeys, ∃ signer ∈ state.signers, signer.key = key := by
  simp [missingSigner?]

theorem missingSigner?_eq_some {key : PublicKey} (missing : state.missingSigner? frozen = some key) :
    key ∈ frozen.signingKeys ∧ ∀ signer ∈ state.signers, signer.key ≠ key := by
  refine ⟨List.mem_of_find?_eq_some missing, ?_⟩
  have absent := List.find?_some missing
  simpa using absent

theorem regenerate_refused {root : TransactionId} {key : PublicKey}
    (stored : state.frozen = some frozen) (named : state.id = some root)
    (missing : state.missingSigner? frozen = some key) :
    state.regenerate now = (.error (.configuration (.signerUnavailable key)), now) := by
  simp only [regenerate, stored, named, missing]

theorem regenerate_written {root : TransactionId} (stored : state.frozen = some frozen)
    (named : state.id = some root) (present : state.missingSigner? frozen = none)
    (allowed : (state.planOf frozen (now.generateId root.payer).1).Allowed) :
    state.regenerate now =
      (.ok { state with
        id := some (now.generateId root.payer).1
        frozen := some (state.signers.foldl Frozen.signWith
          (state.planOf frozen (now.generateId root.payer).1).unsigned) },
        (now.generateId root.payer).2) := by
  have written := allowed.chunks
  simp only [planOf] at written
  simp only [regenerate, stored, named, present, written]
  rfl

end Transaction

/-! ## Signing anew -/

namespace SignedTransaction

variable {signed : SignedTransaction} {key : PublicKey} {signers : List Signer}

theorem signWith_isSignedBy_iff (signer : Signer) :
    (signed.signWith signer).isSignedBy key = true ↔
      signed.isSignedBy key = true ∨ signer.key = key := by
  cases before : signed.isSignedBy signer.key with
  | true =>
      rw [SignedTransaction.signWith, if_pos before]
      constructor
      · exact .inl
      · rintro (already | rfl)
        · exact already
        · exact before
  | false =>
      have unsigned : signed.isSignedBy (signer.pair signed.body).key = false := before
      rw [SignedTransaction.signWith, before, if_neg Bool.false_ne_true, add_of_unsigned unsigned,
        isSignedBy_iff, isSignedBy_iff, List.map_append, List.mem_append, List.map_singleton,
        List.mem_singleton, eq_comm (a := key)]
      rfl

theorem signAll_isSignedBy_iff :
    (signers.foldl SignedTransaction.signWith signed).isSignedBy key = true ↔
      signed.isSignedBy key = true ∨ ∃ signer ∈ signers, signer.key = key := by
  induction signers generalizing signed with
  | nil => simp
  | cons signer rest ih =>
      rw [List.foldl_cons, ih, signWith_isSignedBy_iff, List.exists_mem_cons_iff, or_assoc]

end SignedTransaction

theorem Frozen.bodies_signAll (frozen : Frozen) (signers : List Signer) :
    (signers.foldl Frozen.signWith frozen).bodies =
      frozen.bodies.map fun signed => signers.foldl SignedTransaction.signWith signed := by
  induction signers generalizing frozen with
  | nil => simp
  | cons signer rest ih =>
      rw [List.foldl_cons, ih, bodies_signWith, List.map_map]
      rfl

namespace Transaction

namespace BodyPlan

variable {plan : BodyPlan} {frozen : Frozen}

/-- The frozen transaction holds the bodies of the plan, and signatures on them. -/
structure Writes (plan : BodyPlan) (frozen : Frozen) : Prop where
  ids : ∀ (index : Nat) (chunk : FrozenChunk), frozen.chunks[index]? = some chunk →
    chunk.id = idOf plan.root index
  bodies : ∀ (index : Nat) (chunk : FrozenChunk), frozen.chunks[index]? = some chunk →
    List.Forall₂ (fun node signed => signed.body = Wire.encode (plan.body index node)) plan.nodes
      chunk.signed

theorem writes_of_grows (grows : plan.unsigned.Grows frozen) : plan.Writes frozen where
  ids _ _ found := (grown_chunk grows found).2.id
  bodies _ _ found := grown_bodies (grown_chunk grows found).2

/-- All ids in a body are those of its plan. -/
theorem body_namesRoot (plan : BodyPlan) (index : Nat) (node : AccountId) :
    (plan.body index node).transactionId = idOf plan.root index ∧
      (plan.body index node).NamesRoot plan.root := by
  refine ⟨rfl, ?_⟩
  unfold TransactionBody.NamesRoot BodyPlan.body
  cases plan.payload with
  | topicMessageSubmit topic message =>
      intro info found
      change Payload.chunkInfo _ = some info at found
      unfold Payload.chunkInfo at found
      split at found
      · cases found
        rfl
      · cases found
  | _ =>
      intro info found
      cases found

end BodyPlan

/-- What a fresh id makes of a frozen transaction. It is the same apart from the id, all ids in its
bodies are those of the fresh one, and every signer at hand has signed each body once. -/
structure Renewed (state renewed : Transaction) (frozen refrozen : Frozen)
    (root fresh : TransactionId) : Prop where
  now : renewed = { state with id := some fresh, frozen := some refrozen }
  payer : fresh.payer = root.payer
  nodes : refrozen.nodes = frozen.nodes
  maxFee : refrozen.maxFee = frozen.maxFee
  chunking : refrozen.chunking = frozen.chunking
  count : refrozen.chunks.length = frozen.chunks.length
  before : (state.planOf frozen root).Writes frozen
  after : (state.planOf frozen fresh).Writes refrozen
  names : ∀ index node,
    ((state.planOf frozen fresh).body index node).transactionId = idOf fresh index ∧
      ((state.planOf frozen fresh).body index node).NamesRoot fresh
  contents : ∀ index node, ((state.planOf frozen fresh).body index node).data.content =
    ((state.planOf frozen root).body index node).data.content
  signed : ∀ signed ∈ refrozen.bodies, signed.WellSigned ∧
    ∀ key, signed.isSignedBy key = true ↔ ∃ signer ∈ state.signers, signer.key = key
  kept : ∀ key ∈ frozen.signingKeys, ∀ signed ∈ refrozen.bodies, signed.isSignedBy key = true

/-- What comes of asking for a fresh id: only a signer may be missing. -/
structure Renews (state : Transaction) (frozen : Frozen) (root fresh : TransactionId)
    (result : Except Error Transaction) : Prop where
  succeeds : (∃ renewed, result = .ok renewed) ↔
    ∀ key ∈ frozen.signingKeys, ∃ signer ∈ state.signers, signer.key = key
  refused : ∀ error, result = .error error → ∃ key ∈ frozen.signingKeys,
    (∀ signer ∈ state.signers, signer.key ≠ key) ∧
      error = .configuration (.signerUnavailable key)
  renewed : ∀ renewed, result = .ok renewed →
    ∃ refrozen, Renewed state renewed frozen refrozen root fresh

variable {transaction next state : Transaction} {client : Option Client} {world after : World}
  {frozen : Frozen} {root fresh : TransactionId}

theorem content_chunkData_eq (payload : Payload) (chunking : ChunkingConfig) (index : Nat) :
    (chunkData payload chunking fresh index).content =
      (chunkData payload chunking root index).content := by
  cases carries : payload.content? with
  | none => simp only [chunkData, carries]
  | some content => rw [content_chunkData carries, content_chunkData carries]

/-- All bodies written anew are signed by those whose signers are at hand. -/
theorem renewed_of_signAll (grows : (state.planOf frozen root).unsigned.Grows frozen)
    (honest : ∀ signer ∈ state.signers, signer.Honest)
    (present : ∀ key ∈ frozen.signingKeys, ∃ signer ∈ state.signers, signer.key = key)
    (payer : fresh.payer = root.payer) :
    let refrozen := state.signers.foldl Frozen.signWith (state.planOf frozen fresh).unsigned
    Renewed state { state with id := some fresh, frozen := some refrozen } frozen refrozen root
      fresh := by
  intro refrozen
  have written := signAll_grows (state.planOf frozen fresh).unsigned state.signers
  have signed : ∀ signed ∈ refrozen.bodies, signed.WellSigned ∧
      ∀ key, signed.isSignedBy key = true ↔ ∃ signer ∈ state.signers, signer.key = key := by
    intro signed member
    refine ⟨Frozen.forall_signAll SignedTransaction.wellSigned_lasting honest
      (forall_unsigned SignedTransaction.wellSigned_lasting _) signed member, ?_⟩
    intro key
    rw [Frozen.bodies_signAll] at member
    obtain ⟨unsigned, held, rfl⟩ := List.mem_map.mp member
    obtain ⟨index, node, rfl⟩ := BodyPlan.mem_unsigned held
    rw [SignedTransaction.signAll_isSignedBy_iff]
    simp [SignedTransaction.isSignedBy, SignedTransaction.ofBody]
  refine ⟨rfl, payer, written.nodes, written.maxFee, written.chunking, ?_,
    BodyPlan.writes_of_grows grows, BodyPlan.writes_of_grows written,
    BodyPlan.body_namesRoot _, ?_, signed, ?_⟩
  · rw [BodyPlan.grown_length written, BodyPlan.grown_length grows]
    rfl
  · intro index node
    exact content_chunkData_eq _ _ index
  · intro key known body member
    exact ((signed body member).2 key).mpr (present key known)

theorem Renews.ofMissing {key : PublicKey} (known : key ∈ frozen.signingKeys)
    (absent : ∀ signer ∈ state.signers, signer.key ≠ key) :
    Renews state frozen root fresh (.error (.configuration (.signerUnavailable key))) where
  succeeds := by
    refine iff_of_false ?_ ?_
    · simp only [reduceCtorEq, exists_false, not_false_eq_true]
    · intro present
      obtain ⟨signer, member, same⟩ := present key known
      exact absent signer member same
  refused error failed := by
    rw [← Except.error.inj failed]
    exact ⟨key, known, absent, rfl⟩
  renewed renewed written := by
    simp only [reduceCtorEq] at written

theorem Renews.ofWritten {renewed : Transaction} {refrozen : Frozen}
    (present : ∀ key ∈ frozen.signingKeys, ∃ signer ∈ state.signers, signer.key = key)
    (written : Renewed state renewed frozen refrozen root fresh) :
    Renews state frozen root fresh (.ok renewed) where
  succeeds := iff_of_true ⟨renewed, rfl⟩ present
  refused error failed := by
    simp only [reduceCtorEq] at failed
  renewed other same := by
    rw [← Except.ok.inj same]
    exact ⟨refrozen, written⟩

/-- A transaction that was frozen here gets a fresh id of the same payer, whatever was done to it
since then, exactly if there is a signer at hand for every key that has signed any of its bodies.
Then it asks for the same under the fresh id, and all of these keys have signed all of it again. -/
theorem regenerate_renews (froze : transaction.freezeWith client world = (.ok next, after))
    (operations : List Operation)
    (honest : ∀ signer ∈ (next.run operations).signers, signer.Honest) (now : World) :
    ∃ frozen root, (next.run operations).frozen = some frozen ∧
      (next.run operations).id = some root ∧
      Renews (next.run operations) frozen root (now.generateId root.payer).1
        ((next.run operations).regenerate now).1 := by
  obtain ⟨frozen, root, stored, named, grows, allowed⟩ := run_allowed froze operations
  refine ⟨frozen, root, stored, named, ?_⟩
  cases missing : (next.run operations).missingSigner? frozen with
  | some key =>
      rw [regenerate_refused stored named missing]
      obtain ⟨known, absent⟩ := missingSigner?_eq_some missing
      exact .ofMissing known absent
  | none =>
      rw [regenerate_written stored named missing (allowed _ (now.generateId_nonce root.payer))]
      have present := missingSigner?_eq_none_iff.mp missing
      exact .ofWritten present
        (renewed_of_signAll grows honest present (now.generateId_payer root.payer))

end Transaction

end LedgerClient

namespace LedgerClient.Sample

open Transaction

/-- A message that was signed here gets a fresh id. -/
theorem frozen_renews :
    message.freezeWith (some client) (world []) =
        (.ok frozen, (message.freezeWith (some client) (world [])).2) ∧
      (∀ signer ∈ (frozen.run [.sign neutral]).signers, signer.Honest) ∧
      ∃ held root, (frozen.run [.sign neutral]).frozen = some held ∧
        (frozen.run [.sign neutral]).id = some root ∧
        Renews (frozen.run [.sign neutral]) held root ((world []).generateId root.payer).1
          ((frozen.run [.sign neutral]).regenerate (world [])).1 := by
  have froze : message.freezeWith (some client) (world []) =
    (.ok frozen, (message.freezeWith (some client) (world [])).2) := rfl
  have remembered : (frozen.run [.sign neutral]).signers = [neutral] := rfl
  have honest : ∀ signer ∈ (frozen.run [.sign neutral]).signers, signer.Honest := by
    rw [remembered]
    simp only [List.mem_singleton, forall_eq]
    exact neutral_honest
  exact ⟨froze, honest, regenerate_renews froze [.sign neutral] honest (world [])⟩

end LedgerClient.Sample
