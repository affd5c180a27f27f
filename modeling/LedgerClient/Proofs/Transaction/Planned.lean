import LedgerClient.Proofs.Transaction.Contents
import LedgerClient.Proofs.Wire.Limits
import LedgerClient.Transaction.Interchange

/-!
The plan of a frozen transaction, and what it takes for its bodies to be within the limits of the
wire. The plan follows from what the transaction says, its nodes and its id; whatever is done to a
frozen transaction, only the id of its plan may change.
-/

namespace LedgerClient

open Limits

namespace Transaction

variable {transaction before middle after : Transaction} {held now : Frozen}

/-! ## The plan stays -/

/-- Neither signatures nor a fresh id change what a frozen transaction asks for and of whom. -/
structure Upholds (before after : Transaction) : Prop where
  payload : after.payload = before.payload
  memo : after.memo = before.memo
  validDuration : after.validDuration = before.validDuration
  frozen : ∀ held, before.frozen = some held → ∃ now, after.frozen = some now ∧
    now.nodes = held.nodes ∧ now.maxFee = held.maxFee ∧ now.chunking = held.chunking

theorem Upholds.refl (transaction : Transaction) : Upholds transaction transaction :=
  ⟨rfl, rfl, rfl, fun held stored => ⟨held, stored, rfl, rfl, rfl⟩⟩

theorem Upholds.trans (first : Upholds before middle) (second : Upholds middle after) :
    Upholds before after where
  payload := second.payload.trans first.payload
  memo := second.memo.trans first.memo
  validDuration := second.validDuration.trans first.validDuration
  frozen held stored := by
    obtain ⟨between, storedBetween, nodes, fee, chunking⟩ := first.frozen held stored
    obtain ⟨now, storedNow, nodesNow, feeNow, chunkingNow⟩ := second.frozen between storedBetween
    exact ⟨now, storedNow, nodesNow.trans nodes, feeNow.trans fee, chunkingNow.trans chunking⟩

theorem Upholds.isFrozen (upholds : Upholds before after) (frozen : before.isFrozen = true) :
    after.isFrozen = true := by
  obtain ⟨held, stored⟩ := Option.isSome_iff_exists.mp frozen
  obtain ⟨now, storedNow, -⟩ := upholds.frozen held stored
  simp [Transaction.isFrozen, storedNow]

/-- The plan by which the bodies of a frozen transaction are written under an id. -/
def planOf (transaction : Transaction) (frozen : Frozen) (root : TransactionId) : BodyPlan :=
  transaction.planFor root frozen.nodes frozen.maxFee frozen.chunking

theorem Upholds.planOf (upholds : Upholds before after) (stored : before.frozen = some held)
    (storedNow : after.frozen = some now) (root : TransactionId) :
    after.planOf now root = before.planOf held root := by
  obtain ⟨same, storedSame, nodes, fee, chunking⟩ := upholds.frozen held stored
  rw [storedNow] at storedSame
  cases storedSame
  simp only [Transaction.planOf, planFor, upholds.payload, upholds.memo, upholds.validDuration,
    nodes, fee, chunking]

theorem Keeps.upholds (keeps : Keeps before after) : Upholds before after where
  payload := keeps.payload
  memo := keeps.memo
  validDuration := keeps.validDuration
  frozen held stored := by
    obtain ⟨grown, storedGrown, grows⟩ := keeps.bodies held stored
    exact ⟨grown, storedGrown, grows.nodes, grows.maxFee, grows.chunking⟩

theorem Rewrote.upholds (rewrote : before.Rewrote after) : Upholds before after := by
  obtain ⟨was, id, storedWas, rfl⟩ := rewrote.now
  refine ⟨rfl, rfl, rfl, fun held stored => ?_⟩
  rw [storedWas] at stored
  cases stored
  have grows := signAll_grows (before.planFor id was.nodes was.maxFee was.chunking).unsigned
    before.signers
  exact ⟨_, rfl, grows.nodes, grows.maxFee, grows.chunking⟩

/-- The transaction is still the one that was frozen, and its bodies are those of its plan. -/
structure Maintains (transaction state : Transaction) : Prop where
  upholds : Upholds transaction state
  written : state.Written

variable {trusted : Signer → Prop} {state next : Transaction}

theorem Maintains.step (frozen : transaction.isFrozen = true) (step : Step trusted state next)
    (maintains : transaction.Maintains state) : transaction.Maintains next where
  upholds := maintains.upholds.trans
    (step.keeps (maintains.upholds.isFrozen frozen)).upholds
  written := maintains.written.step step

theorem Maintains.rewrote (rewrote : state.Rewrote next)
    (maintains : transaction.Maintains state) : transaction.Maintains next :=
  ⟨maintains.upholds.trans rewrote.upholds, rewrote.written⟩

theorem run_maintains (frozen : transaction.isFrozen = true) (written : transaction.Written)
    (operations : List Operation) : transaction.Maintains (transaction.run operations) :=
  run_preserves_always (Maintains.step frozen) Maintains.rewrote ⟨.refl transaction, written⟩
    operations

/-- A transaction is never frozen for no node at all. -/
theorem resolveNodes_ne_nil {client : Option Client} {world worldAfter : World}
    {nodes : List AccountId}
    (resolved : transaction.resolveNodes client world = (.ok nodes, worldAfter)) : nodes ≠ [] := by
  simp only [resolveNodes] at resolved
  split at resolved
  · cases resolved
  · rename_i given _
    cases resolved
    exact given
  · split at resolved
    · cases resolved
    · split at resolved
      · cases resolved
      · rename_i found
        cases resolved
        have listed : (world.network.candidates none world.now).1 = .ok nodes :=
          congrArg Prod.fst found
        exact Network.candidates_ne_nil listed

theorem freezeWith_nodes {client : Option Client} {world worldAfter : World}
    (froze : transaction.freezeWith client world = (.ok next, worldAfter)) :
    ∃ frozen, next.frozen = some frozen ∧ frozen.nodes ≠ [] := by
  obtain ⟨id, generated, nodes, middle, -, -, resolved, written⟩ := freezeWith_resolved froze
  obtain ⟨chunks, -, made⟩ := bind_eq_ok.mp written
  cases made
  refine ⟨_, rfl, ?_⟩
  rw [(signAll_grows _ transaction.signers).nodes]
  exact resolveNodes_ne_nil resolved

/-- Whatever is done to a transaction since it was frozen, it is still the one that was frozen. -/
theorem freezeWith_maintains {client : Option Client} {world worldAfter : World}
    (froze : transaction.freezeWith client world = (.ok next, worldAfter))
    (operations : List Operation) : next.Maintains (next.run operations) := by
  obtain ⟨held, stored, -⟩ := freezeWith_nodes froze
  have isFrozen : next.isFrozen = true := by simp [Transaction.isFrozen, stored]
  exact run_maintains isFrozen (freezeWith_wrote froze).written operations

/-! ## The bodies of a plan -/

namespace BodyPlan

variable {plan : BodyPlan} {frozen : Frozen} {chunk : FrozenChunk} {signed : SignedTransaction}
  {index place : Nat}

theorem total_pos (plan : BodyPlan) : 0 < plan.total := by
  unfold total chunkTotal
  split
  · exact Nat.zero_lt_one
  · exact Nat.lt_of_lt_of_le Nat.zero_lt_one (Nat.le_max_left 1 _)

theorem grown_length (grows : plan.unsigned.Grows frozen) : frozen.chunks.length = plan.total := by
  rw [← grows.chunks.length_eq]
  simp [unsigned]

theorem grown_chunk (grows : plan.unsigned.Grows frozen)
    (inChunks : frozen.chunks[index]? = some chunk) :
    index < plan.total ∧ (plan.unsignedChunk index).Grows chunk := by
  obtain ⟨inside, -⟩ := List.getElem?_eq_some_iff.mp inChunks
  rw [grown_length grows] at inside
  obtain ⟨unsigned, planned, grown⟩ := forall₂_getElem? grows.chunks inChunks
  obtain rfl : plan.unsignedChunk index = unsigned := by
    simpa [BodyPlan.unsigned, List.getElem?_range inside] using planned
  exact ⟨inside, grown⟩

theorem grown_body (grows : (plan.unsignedChunk index).Grows chunk)
    (inChunk : chunk.signed[place]? = some signed) :
    ∃ node, plan.nodes[place]? = some node ∧ signed.body = Wire.encode (plan.body index node) := by
  obtain ⟨unsigned, planned, grown⟩ := forall₂_getElem? grows.signed inChunk
  simp only [unsignedChunk, List.getElem?_map, Option.map_eq_some_iff] at planned
  obtain ⟨node, listed, rfl⟩ := planned
  exact ⟨node, listed, grown.body⟩

theorem grown_nodes (grows : (plan.unsignedChunk index).Grows chunk) :
    chunk.signed.length = plan.nodes.length := by
  rw [← grows.signed.length_eq]
  simp [unsignedChunk]

end BodyPlan

end Transaction

/-! ## Bodies within the limits -/

namespace Payload

/-- A payload whose data can be read in every chunk. A content may be longer than what fits into
one, as long as its parts are not. -/
def Fits (chunking : ChunkingConfig) : Payload → Prop
  | transfer transfers => transfers.length ≤ TransactionData.mostTransfers
  | accountCreate key _ memo => Within key ∧ ShortText memo
  | fileAppend _ contents =>
      min chunking.chunkSize contents.length ≤ TransactionData.longestContent
  | topicMessageSubmit _ message =>
      min chunking.chunkSize message.length ≤ TransactionData.longestContent
  | scheduleCreate scheduled _ memo => Within scheduled ∧ ShortText memo
  | scheduleSign _ => True

theorem number_toNat {index total : Nat} (inside : index < total) (few : total < 2 ^ 32) :
    (UInt32.ofNat index + 1).toNat = index + 1 := by
  rw [UInt32.toNat_add, UInt32.toNat_ofNat']
  change (index % 2 ^ 32 + 1) % 2 ^ 32 = index + 1
  omega

theorem chunkInfo_within {chunk : Chunk} (start : Within chunk.initialId)
    (inside : chunk.index < chunk.total) (few : chunk.total < 2 ^ 32) :
    Within (chunkInfo chunk) := by
  unfold chunkInfo
  split
  · rintro _ ⟨⟩
    have number := number_toNat inside few
    have total : (UInt32.ofNat chunk.total).toNat = chunk.total :=
      UInt32.toNat_ofNat_of_lt' few
    refine ⟨start, ?_, ?_⟩
    · rw [number]
      exact Nat.le_add_left 1 _
    · rw [number, total]
      exact inside
  · rintro _ ⟨⟩

end Payload

namespace Transaction

variable {payload : Payload} {chunking : ChunkingConfig} {root : TransactionId}

theorem length_part (size index : Nat) (content : Bytes) :
    (part size index content).length = min size (content.length - index * size) := by
  rw [part, List.length_take, List.length_drop]

/-- The first part is the longest. -/
theorem parts_within {size : Nat} {content : Bytes} {most : Nat} :
    (∀ index < partCount size content.length, (part size index content).length ≤ most) ↔
      min size content.length ≤ most := by
  constructor
  · intro every
    have first := every 0 (Nat.lt_of_lt_of_le Nat.zero_lt_one (Nat.le_max_left 1 _))
    rwa [length_part, Nat.zero_mul, Nat.sub_zero] at first
  · intro first index _
    rw [length_part]
    omega

/-- The data of all chunks is within the limits exactly if the payload fits. -/
theorem chunkData_within_iff (start : Within root.validStart)
    (few : chunkTotal payload chunking < 2 ^ 32) :
    (∀ index < chunkTotal payload chunking, Within (chunkData payload chunking root index)) ↔
      payload.Fits chunking := by
  cases payload with
  | transfer transfers =>
      have single : ∀ P : Prop, (∀ index < 1, P) ↔ P := fun P =>
        ⟨fun every => every 0 Nat.zero_lt_one, fun held _ _ => held⟩
      refine (single _).trans ⟨fun several => several.1.2, fun few => ?_⟩
      exact ⟨⟨Nat.zero_le _, few⟩, fun _ _ => trivial⟩
  | accountCreate key initialBalance memo =>
      exact ⟨fun every => every 0 Nat.zero_lt_one, fun held _ _ => held⟩
  | fileAppend file contents => exact parts_within
  | topicMessageSubmit topic message =>
      refine Iff.trans ⟨fun every index inside => (every index inside).1, ?_⟩ parts_within
      intro every index inside
      exact ⟨every index inside, Payload.chunkInfo_within start inside few⟩
  | scheduleCreate scheduled payer memo =>
      constructor
      · intro every
        obtain ⟨shortInner, inner, short⟩ := every 0 Nat.zero_lt_one
        exact ⟨⟨shortInner, inner⟩, short⟩
      · rintro ⟨⟨shortInner, inner⟩, short⟩ _ _
        exact ⟨shortInner, inner, short⟩
  | scheduleSign schedule => exact ⟨fun _ => trivial, fun _ _ _ => trivial⟩

namespace BodyPlan

variable {plan : BodyPlan}

/-- A plan all of whose bodies can be read, also as one list. -/
structure Fits (plan : BodyPlan) : Prop where
  start : Within plan.root.validStart
  memo : ShortText plan.memo
  payload : plan.payload.Fits plan.chunking
  nodes : plan.nodes.length ≤ TransactionList.mostNodes
  chunks : plan.total ≤ TransactionList.mostChunks

theorem body_within_iff {index : Nat} {node : AccountId} :
    Within (plan.body index node) ↔ Within plan.root.validStart ∧ ShortText plan.memo ∧
      Within (chunkData plan.payload plan.chunking plan.root index) := by
  change Within (chunkId plan.root index).validStart ∧ _ ↔ _
  rw [chunkId_validStart]
  rfl

theorem few_total (chunks : plan.total ≤ TransactionList.mostChunks) : plan.total < 2 ^ 32 :=
  Nat.lt_of_le_of_lt chunks (by decide)

theorem Fits.body (fits : plan.Fits) {index : Nat} (inside : index < plan.total)
    (node : AccountId) : Within (plan.body index node) :=
  body_within_iff.mpr ⟨fits.start, fits.memo,
    (chunkData_within_iff fits.start (few_total fits.chunks)).mpr fits.payload index inside⟩

end BodyPlan

/-! ## The list that is handed on -/

variable {transaction : Transaction} {plan : BodyPlan} {frozen : Frozen}

/-- The list in which a frozen transaction is handed on. -/
def listOf (transaction : Transaction) (frozen : Frozen) : TransactionList where
  kind := transaction.payload.kind
  chunks := frozen.chunks.map FrozenChunk.signed

theorem toBytes_eq (stored : transaction.frozen = some frozen) :
    transaction.toBytes = .ok (Wire.encode (transaction.listOf frozen)) := by
  simp only [toBytes, stored, listOf]

theorem nodes_of_list (grows : plan.unsigned.Grows frozen)
    (list : Within (transaction.listOf frozen)) :
    1 ≤ plan.nodes.length ∧ plan.nodes.length ≤ TransactionList.mostNodes := by
  have inside : 0 < frozen.chunks.length := by
    rw [BodyPlan.grown_length grows]
    exact plan.total_pos
  rw [← BodyPlan.grown_nodes (BodyPlan.grown_chunk grows (List.getElem?_eq_getElem inside)).2]
  exact (list.2 _ (List.mem_map_of_mem (List.getElem_mem inside))).1

/-- The list shows the limits on the number of bodies, and the bodies those on what is in them. -/
theorem fits_of_list (grows : plan.unsigned.Grows frozen)
    (list : Within (transaction.listOf frozen))
    (bodies : ∀ (index place : Nat) (chunk : FrozenChunk) (signed : SignedTransaction)
      (node : AccountId), frozen.chunks[index]? = some chunk → chunk.signed[place]? = some signed →
        plan.nodes[place]? = some node → signed.body = Wire.encode (plan.body index node) →
          Within (plan.body index node)) : plan.Fits := by
  obtain ⟨some, few⟩ := nodes_of_list grows list
  have chunks : plan.total ≤ TransactionList.mostChunks := by
    have most := list.1.2
    simpa [listOf, BodyPlan.grown_length grows] using most
  have within : ∀ index < plan.total, ∃ node, Within (plan.body index node) := by
    intro index inside
    rw [← BodyPlan.grown_length grows] at inside
    have found := List.getElem?_eq_getElem inside
    have grown := (BodyPlan.grown_chunk grows found).2
    rw [← BodyPlan.grown_nodes grown] at some
    have first := List.getElem?_eq_getElem some
    obtain ⟨node, named, written⟩ := BodyPlan.grown_body grown first
    exact ⟨node, bodies index 0 _ _ node found first named written⟩
  obtain ⟨first, firstWithin⟩ := within 0 plan.total_pos
  obtain ⟨start, memo, -⟩ := BodyPlan.body_within_iff.mp firstWithin
  refine ⟨start, memo, ?_, few, chunks⟩
  refine (chunkData_within_iff start (BodyPlan.few_total chunks)).mp fun index inside => ?_
  obtain ⟨node, held⟩ := within index inside
  exact (BodyPlan.body_within_iff.mp held).2.2

end Transaction

end LedgerClient
