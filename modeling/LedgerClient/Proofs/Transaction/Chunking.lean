import LedgerClient.Proofs.Transaction.Planned
import LedgerClient.Proofs.Wire.Lengths
import Mathlib.Algebra.Order.Floor.Div

/-!
How freezing cuts a transaction into chunks. The size of a chunk and the length of the content
settle how many chunks there are and which bytes go into each, and the limits settle whether they
are written at all. Each body is described by what the transaction and the client ask for.
-/

namespace LedgerClient

theorem mapM_ok_of_mem {ε α β : Type} {action : α → Except ε β} {items : List α}
    {results : List β} (mapped : items.mapM action = .ok results) {item : α}
    (member : item ∈ items) : ∃ result, action item = .ok result := by
  obtain ⟨place, inside, rfl⟩ := List.getElem_of_mem member
  have matched := mapM_eq_ok mapped
  exact ⟨_, matched.get inside (matched.length_eq ▸ inside)⟩

namespace Payload

/-- How many chunks a payload takes, with so many bytes of its content in each. -/
def chunksOf (payload : Payload) (size : Nat) : Nat :=
  match payload.content? with
  | none => 1
  | some content => max 1 (content.length ⌈/⌉ size)

/-- The bytes of a content that go into a chunk, from the place where it starts to the place where it
stops. -/
def slice (content : Bytes) (size index : Nat) : Bytes :=
  content.extract (index * size) (min (index * size + size) content.length)

/-- The data in the bodies of a chunk. A message says which chunk it is if there are several. -/
def dataOf (payload : Payload) (size : Nat) (root : TransactionId) (index : Nat) :
    TransactionData :=
  match payload with
  | fileAppend file contents => .fileAppend file (slice contents size index)
  | topicMessageSubmit topic message =>
      let count := (topicMessageSubmit topic message).chunksOf size
      .topicMessageSubmit topic (slice message size index)
        (if 1 < count then
          some
            { initialId := root, number := UInt32.ofNat (index + 1), total := UInt32.ofNat count }
        else none)
  | payload => payload.data none

variable {payload : Payload} {size index count : Nat} {content : Bytes}

theorem partCount_eq (positive : 0 < size) (length : Nat) :
    Transaction.partCount size length = max 1 (length ⌈/⌉ size) := by
  rw [Transaction.partCount, Nat.ceilDiv_eq_add_pred_div, Nat.add_sub_assoc positive]

theorem chunkTotal_eq (payload : Payload) (limits : ChunkingConfig) :
    Transaction.chunkTotal payload limits = payload.chunksOf limits.chunkSize := by
  unfold Transaction.chunkTotal chunksOf
  cases payload.content? with
  | none => rfl
  | some content => exact partCount_eq limits.chunkSize_pos content.length

theorem part_eq (size index : Nat) (content : Bytes) :
    Transaction.part size index content = slice content size index := by
  rw [slice, List.extract_eq_take_drop, Transaction.part]
  apply List.take_eq_take_iff.mpr
  rw [List.length_drop]
  omega

theorem chunkData_eq (payload : Payload) (limits : ChunkingConfig) (root : TransactionId)
    (index : Nat) :
    Transaction.chunkData payload limits root index =
      payload.dataOf limits.chunkSize root index := by
  cases payload with
  | transfer | accountCreate | scheduleCreate | scheduleSign => rfl
  | fileAppend file contents =>
      exact congrArg (TransactionData.fileAppend file) (part_eq limits.chunkSize index contents)
  | topicMessageSubmit topic message =>
      have total := chunkTotal_eq (topicMessageSubmit topic message) limits
      have number : UInt32.ofNat index + 1 = UInt32.ofNat (index + 1) := by
        rw [UInt32.ofNat_add]
        rfl
      simp only [Transaction.chunkTotal, content?] at total
      simp only [Transaction.chunkData, dataOf, content?, data, chunkInfo, part_eq, total, number]

/-! ## The parts of a content -/

/-- Every chunk but the last ends within the content. -/
theorem stop_lt (positive : 0 < size) (carries : payload.content? = some content)
    (before : index + 1 < payload.chunksOf size) : (index + 1) * size < content.length := by
  simp only [chunksOf, carries] at before
  have later : index + 1 < content.length ⌈/⌉ size := by omega
  apply Nat.lt_of_not_le
  intro enough
  rw [Nat.mul_comm] at enough
  have most := (ceilDiv_le_iff_le_mul positive).mpr enough
  omega

/-- Every chunk starts within the content, and it starts behind a byte of it unless it is the
first. -/
theorem start_le (positive : 0 < size) (carries : payload.content? = some content)
    (inside : index < payload.chunksOf size) :
    index * size ≤ content.length ∧ (0 < index → index * size < content.length) := by
  cases index with
  | zero => simp
  | succ index =>
      have less := stop_lt positive carries inside
      exact ⟨Nat.le_of_lt less, fun _ => less⟩

theorem length_slice (size index : Nat) (content : Bytes) :
    (slice content size index).length = min size (content.length - index * size) := by
  rw [← part_eq, Transaction.length_part]

theorem content_dataOf (carries : payload.content? = some content) (size : Nat)
    (root : TransactionId) (index : Nat) :
    (payload.dataOf size root index).content = slice content size index := by
  cases payload with
  | fileAppend | topicMessageSubmit =>
      cases carries
      rfl
  | _ => cases carries

/-- How a content is spread over the chunks of its payload. No place at which it is cut is outside of
it, and none is too large for the machine if twice the content is not. -/
structure Spreads (payload : Payload) (size : Nat) (root : TransactionId) (content : Bytes) :
    Prop where
  whole : ((List.range (payload.chunksOf size)).map fun index =>
    (payload.dataOf size root index).content).flatten = content
  full : ∀ index, index + 1 < payload.chunksOf size →
    (payload.dataOf size root index).content.length = size
  last : ∀ index, index < payload.chunksOf size →
    (payload.dataOf size root index).content.length ≤ size
  inside : ∀ index, index < payload.chunksOf size →
    index * size ≤ min (index * size + size) content.length
  bounded : ∀ most, size ≤ most → 2 * content.length ≤ most →
    ∀ index, index < payload.chunksOf size → index * size + size ≤ most

theorem spreads (positive : 0 < size) (carries : payload.content? = some content)
    (root : TransactionId) : payload.Spreads size root content where
  whole := by
    have parts := Transaction.flatMap_parts positive content
    rw [partCount_eq positive] at parts
    simp only [chunksOf, carries, content_dataOf carries, ← part_eq]
    rw [← List.flatMap_def]
    exact parts
  full := by
    intro index before
    have stops := stop_lt positive carries before
    rw [content_dataOf carries, length_slice]
    rw [Nat.succ_mul] at stops
    omega
  last := by
    intro index _
    rw [content_dataOf carries, length_slice]
    exact Nat.min_le_left _ _
  inside := by
    intro index inside
    have starts := (start_le positive carries inside).1
    omega
  bounded := by
    intro most sizeFits contentFits index inside
    cases index with
    | zero => omega
    | succ index =>
        -- A chunk behind the first starts behind a whole one, so the content is longer than one.
        have starts := (start_le positive carries inside).2 (Nat.succ_pos index)
        have one : size ≤ (index + 1) * size := Nat.le_mul_of_pos_left size (Nat.succ_pos index)
        omega

/-- Every chunk of a message says which one it is, unless there is only one. -/
def Marks (payload : Payload) (size : Nat) (root : TransactionId) : Prop :=
  ∀ topic message, payload = topicMessageSubmit topic message →
    ∀ index, index < payload.chunksOf size →
      ∃ info, payload.dataOf size root index =
          .topicMessageSubmit topic (slice message size index) info ∧
        (info.isSome = true ↔ 1 < payload.chunksOf size) ∧
        ∀ given, info = some given → given.initialId = root ∧ given.number.toNat = index + 1 ∧
          given.total.toNat = payload.chunksOf size

theorem marks (root : TransactionId) (few : payload.chunksOf size < 2 ^ 32) :
    payload.Marks size root := by
  rintro topic message rfl index inside
  refine ⟨_, rfl, ?_, ?_⟩
  · by_cases several : 1 < (topicMessageSubmit topic message).chunksOf size
    · simp [several]
    · simp [several]
  · intro given marked
    split at marked
    · cases marked
      -- Neither number wraps around: there are less chunks than it has values.
      refine ⟨rfl, ?_, UInt32.toNat_ofNat_of_lt' few⟩
      have small : index + 1 < 2 ^ 32 := by omega
      exact UInt32.toNat_ofNat_of_lt' small
    · cases marked

end Payload

namespace Transaction

variable {transaction : Transaction} {client : Option Client} {world middle after : World}
  {root : TransactionId} {generated : Bool} {nodes : List AccountId}

/-! ## The bodies of a chunk -/

/-- How many chunks the transaction takes. -/
def chunksWith (transaction : Transaction) (client : Option Client) : Nat :=
  transaction.payload.chunksOf (transaction.resolveChunking client).chunkSize

/-- The chunks behind the first are told apart by a nonce. -/
def idOf (root : TransactionId) (index : Nat) : TransactionId :=
  if index = 0 then root else { root with nonce := some (UInt32.ofNat index) }

/-- The body of a chunk for a node. -/
def bodyWith (transaction : Transaction) (client : Option Client) (root : TransactionId)
    (index : Nat) (node : AccountId) : TransactionBody where
  transactionId := idOf root index
  node := node
  maxFee := transaction.maxFee.getD
    ((client.bind Client.defaultMaxFee).getD transaction.payload.defaultMaxFee)
  validSeconds := UInt64.ofNat (transaction.validDuration.nanos / 1000000000)
  memo := transaction.memo
  data := transaction.payload.dataOf (transaction.resolveChunking client).chunkSize root index

/-- The plan by which freezing writes the bodies. -/
def planWith (transaction : Transaction) (client : Option Client) (root : TransactionId)
    (nodes : List AccountId) : BodyPlan :=
  transaction.planFor root nodes (transaction.resolveFee client)
    (transaction.resolveChunking client)

theorem resolveFee_eq (transaction : Transaction) (client : Option Client) :
    transaction.resolveFee client = transaction.maxFee.getD
      ((client.bind Client.defaultMaxFee).getD transaction.payload.defaultMaxFee) := by
  unfold resolveFee
  cases transaction.maxFee <;> cases client.bind Client.defaultMaxFee <;> rfl

theorem planWith_body (index : Nat) (node : AccountId) :
    (transaction.planWith client root nodes).body index node =
      transaction.bodyWith client root index node := by
  simp only [planWith, planFor, BodyPlan.body, bodyWith, resolveFee_eq, Payload.chunkData_eq]
  rfl

theorem planWith_total :
    (transaction.planWith client root nodes).total = transaction.chunksWith client :=
  Payload.chunkTotal_eq _ _

namespace BodyPlan

variable {plan : BodyPlan}

theorem grown_bodies {index : Nat} {chunk : FrozenChunk}
    (grows : (plan.unsignedChunk index).Grows chunk) :
    List.Forall₂ (fun node signed => signed.body = Wire.encode (plan.body index node)) plan.nodes
      chunk.signed :=
  (List.forall₂_map_left_iff.mp grows.signed).imp fun _ _ grown => grown.body

/-- Writing the bodies fails for too many chunks, and then for a body that is too long. -/
inductive Comes (plan : BodyPlan) : Except Error (List FrozenChunk) → Prop
  | tooMany (more : plan.chunking.maxChunks < plan.total) :
      Comes plan (.error (.maxChunksExceeded plan.total plan.chunking.maxChunks))
  | oversize {index : Nat} {node : AccountId} (few : plan.total ≤ plan.chunking.maxChunks)
      (inside : index < plan.total) (listed : node ∈ plan.nodes)
      (long : plan.chunking.maxTransactionSize < (Wire.encode (plan.body index node)).length) :
      Comes plan (.error (.transactionOversize (Wire.encode (plan.body index node)).length
        plan.chunking.maxTransactionSize))
  | written (few : plan.total ≤ plan.chunking.maxChunks)
      (short : ∀ index < plan.total, ∀ node ∈ plan.nodes,
        (Wire.encode (plan.body index node)).length ≤ plan.chunking.maxTransactionSize) :
      Comes plan (.ok plan.unsigned.chunks)

theorem checkedBody_ok_iff {index : Nat} {node : AccountId} :
    (∃ signed, plan.checkedBody index node = .ok signed) ↔
      (Wire.encode (plan.body index node)).length ≤ plan.chunking.maxTransactionSize := by
  rw [Wire.length_encode]
  unfold checkedBody
  dsimp only
  split
  · rename_i short
    exact iff_of_true ⟨_, rfl⟩ short
  · rename_i long
    refine iff_of_false ?_ long
    rintro ⟨signed, checked⟩
    cases checked

theorem checkedBody_error {index : Nat} {node : AccountId} {error : Error}
    (refused : plan.checkedBody index node = .error error) :
    plan.chunking.maxTransactionSize < (Wire.encode (plan.body index node)).length ∧
      error = .transactionOversize (Wire.encode (plan.body index node)).length
        plan.chunking.maxTransactionSize := by
  rw [Wire.length_encode]
  unfold checkedBody at refused
  dsimp only at refused
  split at refused
  · cases refused
  · rename_i long
    cases refused
    exact ⟨Nat.lt_of_not_le long, rfl⟩

theorem chunk_error {index : Nat} {error : Error} (refused : plan.chunk index = .error error) :
    ∃ node ∈ plan.nodes, plan.checkedBody index node = .error error := by
  rcases bind_eq_error.mp refused with failed | ⟨signed, -, made⟩
  · exact mapM_eq_error failed
  · cases made

theorem chunks_comes (plan : BodyPlan) : plan.Comes plan.chunks := by
  simp only [BodyPlan.chunks]
  by_cases more : plan.chunking.maxChunks < chunkTotal plan.payload plan.chunking
  · rw [if_pos more]
    exact .tooMany more
  · have few : plan.total ≤ plan.chunking.maxChunks := Nat.le_of_not_lt more
    rw [if_neg more]
    cases written : (List.range (chunkTotal plan.payload plan.chunking)).mapM plan.chunk with
    | error error =>
        obtain ⟨index, member, refused⟩ := mapM_eq_error written
        obtain ⟨node, listed, tooLong⟩ := chunk_error refused
        obtain ⟨long, rfl⟩ := checkedBody_error tooLong
        exact .oversize few (List.mem_range.mp member) listed long
    | ok chunks =>
        obtain rfl : chunks = plan.unsigned.chunks := mapM_eq_map (fun _ _ => chunk_eq) written
        refine .written few ?_
        intro index inside node listed
        obtain ⟨bodies, made⟩ := mapM_ok_of_mem written (List.mem_range.mpr inside)
        obtain ⟨signed, checked, -⟩ := bind_eq_ok.mp made
        exact checkedBody_ok_iff.mp (mapM_ok_of_mem checked listed)

end BodyPlan

/-! ## Freezing -/

/-- A frozen transaction has so many chunks, each with a body for every node in their order, and no
body is too long. -/
structure Cut (transaction : Transaction) (client : Option Client) (root : TransactionId)
    (nodes : List AccountId) (frozen : Frozen) : Prop where
  asked : frozen.nodes = nodes
  count : frozen.chunks.length = transaction.chunksWith client
  ids : ∀ (index : Nat) (chunk : FrozenChunk), frozen.chunks[index]? = some chunk →
    chunk.id = idOf root index
  bodies : ∀ (index : Nat) (chunk : FrozenChunk), frozen.chunks[index]? = some chunk →
    List.Forall₂ (fun node signed =>
      signed.body = Wire.encode (transaction.bodyWith client root index node) ∧
        signed.body.length ≤ (transaction.resolveChunking client).maxTransactionSize)
      nodes chunk.signed

/-- What comes of freezing a transaction for some nodes. -/
structure Freezes (transaction : Transaction) (client : Option Client) (root : TransactionId)
    (nodes : List AccountId) (result : Except Error Transaction) : Prop where
  tooMany : ∀ required most, result = .error (.maxChunksExceeded required most) ↔
    most < required ∧ required = transaction.chunksWith client ∧
      most = (transaction.resolveChunking client).maxChunks
  oversize : (∃ size most, result = .error (.transactionOversize size most)) ↔
    transaction.chunksWith client ≤ (transaction.resolveChunking client).maxChunks ∧
      ∃ index < transaction.chunksWith client, ∃ node ∈ nodes,
        (transaction.resolveChunking client).maxTransactionSize <
          (Wire.encode (transaction.bodyWith client root index node)).length
  others : ∀ error, result = .error error →
    (∃ required most, error = .maxChunksExceeded required most) ∨
      ∃ size most, error = .transactionOversize size most
  cut : ∀ next, result = .ok next → ∃ frozen, next.frozen = some frozen ∧
    transaction.Cut client root nodes frozen

theorem cut_signAll
    (short : ∀ index < transaction.chunksWith client, ∀ node ∈ nodes,
      (Wire.encode (transaction.bodyWith client root index node)).length ≤
        (transaction.resolveChunking client).maxTransactionSize) :
    transaction.Cut client root nodes (transaction.signers.foldl Frozen.signWith
      (transaction.planWith client root nodes).unsigned) := by
  have grows := signAll_grows (transaction.planWith client root nodes).unsigned
    transaction.signers
  refine ⟨grows.nodes, (BodyPlan.grown_length grows).trans planWith_total, ?_, ?_⟩
  · intro index chunk found
    exact (BodyPlan.grown_chunk grows found).2.id
  · intro index chunk found
    obtain ⟨inside, grown⟩ := BodyPlan.grown_chunk grows found
    rw [planWith_total] at inside
    have written := BodyPlan.grown_bodies grown
    simp only [planWith_body] at written
    have both := (List.forall₂_and_left nodes chunk.signed).mpr ⟨short index inside, written⟩
    refine both.imp ?_
    rintro node signed ⟨fits, body⟩
    exact ⟨body, body ▸ fits⟩

theorem freezeWith_eq (unfrozen : transaction.frozen = none)
    (valid : transaction.checkChecksums client world = .ok ())
    (named : transaction.resolveId client world = (.ok (root, generated), middle))
    (listed : transaction.resolveNodes client middle = (.ok nodes, after)) :
    transaction.freezeWith client world =
      (transaction.freezeAs client root generated nodes, after) := by
  simp only [freezeWith, isFrozen, unfrozen, Option.isSome_none, Bool.false_eq_true, ↓reduceIte,
    valid, named, listed]

theorem Freezes.ofTooMany
    (more : (transaction.resolveChunking client).maxChunks < transaction.chunksWith client) :
    transaction.Freezes client root nodes (.error (.maxChunksExceeded
      (transaction.chunksWith client) (transaction.resolveChunking client).maxChunks)) where
  tooMany required most := by
    simp only [Except.error.injEq, Error.maxChunksExceeded.injEq]
    constructor
    · rintro ⟨rfl, rfl⟩
      exact ⟨more, rfl, rfl⟩
    · rintro ⟨-, rfl, rfl⟩
      exact ⟨rfl, rfl⟩
  oversize := by
    simp [Nat.not_le.mpr more]
  others error failed := by
    rw [← Except.error.inj failed]
    exact .inl ⟨_, _, rfl⟩
  cut next froze := by
    simp at froze

theorem not_tooMany {required most : Nat}
    (few : transaction.chunksWith client ≤ (transaction.resolveChunking client).maxChunks) :
    ¬ (most < required ∧ required = transaction.chunksWith client ∧
      most = (transaction.resolveChunking client).maxChunks) := by
  rintro ⟨more, rfl, rfl⟩
  exact absurd more (Nat.not_lt.mpr few)

theorem Freezes.ofOversize {index : Nat} {node : AccountId}
    (few : transaction.chunksWith client ≤ (transaction.resolveChunking client).maxChunks)
    (inside : index < transaction.chunksWith client) (listed : node ∈ nodes)
    (long : (transaction.resolveChunking client).maxTransactionSize <
      (Wire.encode (transaction.bodyWith client root index node)).length) :
    transaction.Freezes client root nodes (.error (.transactionOversize
      (Wire.encode (transaction.bodyWith client root index node)).length
      (transaction.resolveChunking client).maxTransactionSize)) where
  tooMany required most := by
    refine iff_of_false ?_ (not_tooMany few)
    simp only [Except.error.injEq, reduceCtorEq, not_false_eq_true]
  oversize := iff_of_true ⟨_, _, rfl⟩ ⟨few, index, inside, node, listed, long⟩
  others error failed := by
    rw [← Except.error.inj failed]
    exact .inr ⟨_, _, rfl⟩
  cut next froze := by
    simp only [reduceCtorEq] at froze

theorem Freezes.ofWritten {next : Transaction} {frozen : Frozen}
    (few : transaction.chunksWith client ≤ (transaction.resolveChunking client).maxChunks)
    (short : ∀ index < transaction.chunksWith client, ∀ node ∈ nodes,
      (Wire.encode (transaction.bodyWith client root index node)).length ≤
        (transaction.resolveChunking client).maxTransactionSize)
    (stored : next.frozen = some frozen) (cut : transaction.Cut client root nodes frozen) :
    transaction.Freezes client root nodes (.ok next) where
  tooMany required most := by
    refine iff_of_false ?_ (not_tooMany few)
    simp only [reduceCtorEq, not_false_eq_true]
  oversize := by
    refine iff_of_false ?_ ?_
    · simp only [reduceCtorEq, exists_false, not_false_eq_true]
    · rintro ⟨-, index, inside, node, listed, long⟩
      exact absurd long (Nat.not_lt.mpr (short index inside node listed))
  others error failed := by
    simp only [reduceCtorEq] at failed
  cut other froze := by
    rw [← Except.ok.inj froze]
    exact ⟨frozen, stored, cut⟩

theorem freezeAs_error {error : Error}
    (failed : (transaction.planWith client root nodes).chunks = .error error) :
    transaction.freezeAs client root generated nodes = .error error :=
  bind_eq_error.mpr (.inl failed)

theorem freezeAs_ok (generated : Bool) {chunks : List FrozenChunk}
    (written : (transaction.planWith client root nodes).chunks = .ok chunks) :
    ∃ next, transaction.freezeAs client root generated nodes = .ok next ∧
      next.frozen = some (transaction.signers.foldl Frozen.signWith
        { nodes, maxFee := transaction.resolveFee client
          chunking := transaction.resolveChunking client, chunks }) :=
  ⟨_, bind_eq_ok.mpr ⟨chunks, written, rfl⟩, rfl⟩

/-- What comes of writing the bodies comes of freezing. -/
theorem freezeAs_freezes (transaction : Transaction) (client : Option Client)
    (root : TransactionId) (generated : Bool) (nodes : List AccountId) :
    transaction.Freezes client root nodes (transaction.freezeAs client root generated nodes) := by
  have comes := (transaction.planWith client root nodes).chunks_comes
  generalize outcome : (transaction.planWith client root nodes).chunks = written at comes
  cases comes with
  | tooMany more =>
      rw [planWith_total] at more outcome
      rw [freezeAs_error outcome]
      exact .ofTooMany more
  | oversize few inside listed long =>
      rw [planWith_total] at few inside
      rw [planWith_body] at long outcome
      rw [freezeAs_error outcome]
      exact .ofOversize few inside listed long
  | written few short =>
      obtain ⟨next, froze, stored⟩ := freezeAs_ok generated outcome
      simp only [planWith_total, planWith_body] at few short
      rw [froze]
      exact .ofWritten few short stored (cut_signAll short)

/-- Freezing cuts a content into as many parts as it takes, unless there are more than are allowed or
a body gets too long, and writes each part for every node. -/
theorem freezeWith_freezes (unfrozen : transaction.frozen = none)
    (valid : transaction.checkChecksums client world = .ok ())
    (named : transaction.resolveId client world = (.ok (root, generated), middle))
    (listed : transaction.resolveNodes client middle = (.ok nodes, after))
    (few : transaction.chunksWith client < 2 ^ 32) :
    transaction.Freezes client root nodes (transaction.freezeWith client world).1 ∧
      (∀ content, transaction.payload.content? = some content →
        transaction.payload.Spreads (transaction.resolveChunking client).chunkSize root content) ∧
      transaction.payload.Marks (transaction.resolveChunking client).chunkSize root ∧
      ∀ index < transaction.chunksWith client, (UInt32.ofNat index).toNat = index := by
  rw [freezeWith_eq unfrozen valid named listed]
  refine ⟨freezeAs_freezes transaction client root generated nodes, ?_, Payload.marks root few, ?_⟩
  · intro content carries
    exact Payload.spreads (transaction.resolveChunking client).chunkSize_pos carries root
  · intro index inside
    exact UInt32.toNat_ofNat_of_lt' (Nat.lt_trans inside few)

end Transaction

end LedgerClient

namespace LedgerClient.Sample

theorem message_freezes : ∃ root generated nodes middle after,
    message.frozen = none ∧
    message.checkChecksums (some client) (world []) = .ok () ∧
    message.resolveId (some client) (world []) = (.ok (root, generated), middle) ∧
    message.resolveNodes (some client) middle = (.ok nodes, after) ∧
    message.chunksWith (some client) < 2 ^ 32 ∧
    message.Freezes (some client) root nodes (message.freezeWith (some client) (world [])).1 := by
  have few : message.chunksWith (some client) < 2 ^ 32 := by decide +kernel
  exact ⟨_, _, _, _, _, rfl, rfl, rfl, rfl, few,
    (Transaction.freezeWith_freezes rfl rfl rfl rfl few).1⟩

end LedgerClient.Sample
