import LedgerClient.Proofs.Transaction.Accepting
import LedgerClient.Proofs.Transaction.Endorsing
import LedgerClient.Proofs.Transaction.Planned
import LedgerClient.Proofs.Wire.Refused

/-!
Transactions that go out as bytes and come back. Whatever was frozen here and is within the limits
of the wire is taken back from its bytes: the parts of a content are put together again, and the
bodies and their signatures are those that went out. Only checksums and parts of a second do not
come back.
-/

namespace LedgerClient

open Limits

/-! ## Payloads from the data of chunks -/

namespace Payload

/-- The payload without the checksums of the ids in it. -/
def bare : Payload → Payload
  | transfer transfers => transfer (transfers.map AccountAmount.bare)
  | accountCreate key initialBalance memo => accountCreate key initialBalance memo
  | fileAppend file contents => fileAppend file.bare contents
  | topicMessageSubmit topic message => topicMessageSubmit topic.bare message
  | scheduleCreate scheduled payer memo =>
      scheduleCreate scheduled.bare (payer.map EntityId.bare) memo
  | scheduleSign schedule => scheduleSign schedule.bare

theorem kind_bare (payload : Payload) : payload.bare.kind = payload.kind := by
  cases payload <;> rfl

theorem joinFile_parts (file : FileId) (contents : Bytes) (parts : List Bytes) :
    joinFile (some file) contents (parts.map (TransactionData.fileAppend file)) =
      .ok (fileAppend file (contents ++ parts.flatten)) := by
  induction parts generalizing contents with
  | nil => simp [joinFile]
  | cons part rest ih =>
      have same : file.same file = true := EntityId.same_refl _
      simp only [List.map_cons, joinFile, Option.getD_some, same, ↓reduceIte]
      rw [ih, List.flatten_cons, List.append_assoc]

theorem joinFile_whole (file : FileId) {parts : List Bytes} (some : parts ≠ []) :
    joinFile none [] (parts.map (TransactionData.fileAppend file)) =
      .ok (fileAppend file parts.flatten) := by
  cases parts with
  | nil => exact absurd rfl some
  | cons part rest =>
      have same : file.same file = true := EntityId.same_refl _
      simp only [List.map_cons, joinFile, Option.getD_none, same, ↓reduceIte, List.nil_append]
      rw [joinFile_parts, List.flatten_cons]

/-- A chunk of several says its place and their number, and a single one says nothing. -/
def InPlace (total index : Nat) : Option ChunkInfo → Prop
  | some info => info.number.toNat = index + 1 ∧ info.total.toNat = total
  | none => total = 1

theorem chunkInfo_inPlace {chunk : Chunk} (inside : chunk.index < chunk.total)
    (few : chunk.total < 2 ^ 32) :
    InPlace chunk.total chunk.index ((chunkInfo chunk).map ChunkInfo.bare) := by
  unfold chunkInfo
  split
  · constructor
    · exact number_toNat inside few
    · exact UInt32.toNat_ofNat_of_lt' few
  · rename_i single
    change chunk.total = 1
    omega

theorem joinMessage_cons {total index : Nat} {before : Option TopicId} {topic : TopicId}
    {message part : Bytes} {info : Option ChunkInfo} {rest : List TransactionData}
    (placed : InPlace total index info) (same : before.getD topic = topic) :
    joinMessage total index before message (.topicMessageSubmit topic part info :: rest) =
      joinMessage total (index + 1) (some topic) (message ++ part) rest := by
  have itself : topic.same topic = true := EntityId.same_refl _
  cases info with
  | none =>
      change total = 1 at placed
      simp [joinMessage, same, itself, placed]
  | some info =>
      obtain ⟨number, count⟩ := placed
      simp [joinMessage, same, itself, number, count]

theorem joinMessage_parts {total : Nat} {topic : TopicId} {parts : Nat → Bytes}
    {infos : Nat → Option ChunkInfo} (placed : ∀ index < total, InPlace total index (infos index))
    {count index : Nat} (fits : index + count ≤ total) (message : Bytes) :
    joinMessage total index (some topic) message ((List.range' index count).map fun place =>
        .topicMessageSubmit topic (parts place) (infos place)) =
      .ok (topicMessageSubmit topic (message ++ (List.range' index count).flatMap parts)) := by
  induction count generalizing index message with
  | zero => simp [joinMessage]
  | succ count ih =>
      rw [List.range'_succ, List.map_cons, joinMessage_cons (placed index (by omega)) rfl,
        ih (by omega), List.flatMap_cons, List.append_assoc]

theorem joinMessage_whole {total : Nat} (positive : 0 < total) {topic : TopicId}
    {parts : Nat → Bytes} {infos : Nat → Option ChunkInfo}
    (placed : ∀ index < total, InPlace total index (infos index)) :
    joinMessage total 0 none [] ((List.range total).map fun place =>
        .topicMessageSubmit topic (parts place) (infos place)) =
      .ok (topicMessageSubmit topic ((List.range total).flatMap parts)) := by
  obtain ⟨later, rfl⟩ := Nat.exists_eq_add_one.mpr positive
  rw [List.range_eq_range', List.range'_succ, List.map_cons,
    joinMessage_cons (placed 0 (by omega)) rfl, joinMessage_parts placed (by omega),
    List.flatMap_cons, List.nil_append]

end Payload

namespace Transaction

variable {payload : Payload} {chunking : ChunkingConfig} {root : TransactionId}

/-- The data of all chunks, as they are read, give the payload back. -/
theorem ofChunks_chunkData (few : chunkTotal payload chunking < 2 ^ 32) :
    Payload.ofChunks payload.kind ((List.range (chunkTotal payload chunking)).map fun index =>
      (chunkData payload chunking root index).bare) = .ok payload.bare := by
  cases payload with
  | transfer transfers => rfl
  | accountCreate key initialBalance memo => rfl
  | fileAppend file contents =>
      have nonempty : (List.range (partCount chunking.chunkSize contents.length)).map
          (fun index => part chunking.chunkSize index contents) ≠ [] := by
        simp [partCount]
      have joined := Payload.joinFile_whole file.bare nonempty
      rw [List.map_map, ← List.flatMap_def, flatMap_parts chunking.chunkSize_pos] at joined
      exact joined
  | topicMessageSubmit topic message =>
      have positive : 0 < partCount chunking.chunkSize message.length :=
        Nat.lt_of_lt_of_le Nat.zero_lt_one (Nat.le_max_left 1 _)
      have placed : ∀ index < partCount chunking.chunkSize message.length,
          Payload.InPlace (partCount chunking.chunkSize message.length) index
            ((Payload.chunkInfo
              { index, total := partCount chunking.chunkSize message.length, initialId := root
                content := part chunking.chunkSize index message }).map ChunkInfo.bare) :=
        fun index inside => Payload.chunkInfo_inPlace inside few
      change Payload.joinMessage (List.length _) 0 none [] _ = _
      rw [List.length_map, List.length_range]
      refine (Payload.joinMessage_whole positive placed).trans ?_
      rw [flatMap_parts chunking.chunkSize_pos]
      rfl
  | scheduleCreate scheduled payer memo => rfl
  | scheduleSign schedule => rfl

theorem kind_chunkData (index : Nat) :
    (chunkData payload chunking root index).bare.kind = payload.kind := by
  cases payload <;> rfl

theorem chunkId_bare (root : TransactionId) (index : Nat) :
    (chunkId root index).bare = chunkId root.bare index := by
  unfold chunkId
  split <;> rfl

/-! ## Chunks as they are read -/

section Planned

variable {plan : BodyPlan} {chunk : FrozenChunk} {node : AccountId} {others : List AccountId}
  {index : Nat}

/-- The body of the plan for this chunk and node, as it is read. -/
def BodyPlan.readBody (plan : BodyPlan) (index : Nat) (node : AccountId) : TransactionBody :=
  (plan.body index node).bare

theorem BodyPlan.readBody_eq {held : SignedTransaction} {body : TransactionBody}
    (written : held.body = Wire.encode (plan.body index node)) (read : held.readBody = .ok body) :
    body = plan.readBody index node := by
  rw [SignedTransaction.readBody, written] at read
  have within : Within (plan.body index node) := TransactionBody.decode_encode_iff.mp ⟨body, read⟩
  rw [Wire.decode_encode within] at read
  cases read
  rfl

theorem readAs_planned (listed : plan.nodes = node :: others)
    (grows : (plan.unsignedChunk index).Grows chunk)
    (within : ∀ node, Within (plan.body index node)) :
    ReadAs plan.payload.kind chunk.signed (plan.readBody index node)
      (others.map (plan.readBody index)) := by
  have read : ∀ (node : AccountId) (signed : SignedTransaction),
      (SignedTransaction.ofBody (plan.body index node)).Grows signed →
        signed.readBody = .ok (plan.readBody index node) := by
    intro node signed grown
    rw [SignedTransaction.readBody, grown.body]
    exact Wire.decode_encode (within node)
  constructor
  · rw [← List.map_cons, ← listed, List.forall₂_map_right_iff]
    exact (List.forall₂_map_left_iff.mp grows.signed).flip.imp fun signed node => read node signed
  · rw [← List.map_cons, ← listed, List.forall_mem_map]
    intro other _
    refine ⟨kind_chunkData index, ?_, ?_⟩
    · exact TransactionId.same_refl _
    · simp [TransactionData.same, BodyPlan.readBody, TransactionBody.bare, BodyPlan.body]

theorem nodes_readBody (nodes : List AccountId) :
    (nodes.map (plan.readBody index)).map TransactionBody.node = nodes.map EntityId.bare := by
  rw [List.map_map]
  rfl

theorem readLaterChunks_planned (listed : plan.nodes = node :: others)
    (within : ∀ index < plan.total, ∀ node, Within (plan.body index node)) {count : Nat}
    {chunks : List FrozenChunk} (fits : index + count ≤ plan.total)
    (grows : List.Forall₂ (fun place chunk => (plan.unsignedChunk place).Grows chunk)
      (List.range' index count) chunks) :
    readLaterChunks plan.payload.kind (plan.readBody 0 node) (plan.nodes.map EntityId.bare) index
      (chunks.map FrozenChunk.signed) =
        .ok ((List.range' index count).map fun place => plan.readBody place node) := by
  induction count generalizing index chunks with
  | zero =>
      cases grows
      rfl
  | succ count ih =>
      rw [List.range'_succ] at grows
      cases grows with
      | cons first rest =>
          have readAs := readAs_planned listed first (within index (by omega))
          have sameList : sameNodes (plan.nodes.map EntityId.bare)
              ((plan.readBody index node :: others.map (plan.readBody index)).map
                TransactionBody.node) = true := by
            rw [← List.map_cons, ← listed, nodes_readBody]
            simp [sameNodes]
          have named : (plan.readBody index node).transactionId.same
              (chunkId (plan.readBody 0 node).transactionId index) = true := by
            refine TransactionId.same_iff.mpr ?_
            change (chunkId plan.root index).bare.bare = (chunkId plan.root.bare index).bare
            rw [chunkId_bare]
          rw [List.range'_succ]
          exact readLaterChunks_cons_iff.mpr
            ⟨_, _, rfl, ⟨⟨_, readAs, sameList⟩, named⟩, ih (by omega) rest⟩

/-- The first chunks of what was planned are taken if their data is, and what is made of them are
their first bodies. -/
theorem ofList_firstChunks {frozen : Frozen} {list : TransactionList} {count : Nat}
    {payload : Payload} (listed : plan.nodes = node :: others)
    (grows : plan.unsigned.Grows frozen)
    (within : ∀ index < plan.total, ∀ node, Within (plan.body index node))
    (positive : 0 < count) (inside : count ≤ plan.total) (kind : list.kind = plan.payload.kind)
    (chunks : list.chunks = (frozen.chunks.take count).map FrozenChunk.signed)
    (joined : Payload.ofChunks plan.payload.kind ((List.range count).map fun index =>
      (plan.readBody index node).data) = .ok payload) :
    ofList plan.payload.kind list = .ok (assemble payload (plan.readBody 0 node)
      (plan.nodes.map EntityId.bare) list.chunks
        ((List.range count).map fun index => plan.readBody index node)) := by
  obtain ⟨later, rfl⟩ := Nat.exists_eq_add_one.mpr positive
  have places : List.range (later + 1) = 0 :: List.range' 1 later := by
    rw [List.range_eq_range', List.range'_succ]
  have grown : List.Forall₂ (fun place chunk => (plan.unsignedChunk place).Grows chunk)
      (List.range plan.total) frozen.chunks := List.forall₂_map_left_iff.mp grows.chunks
  have grownFirst := List.forall₂_take (later + 1) grown
  rw [List.take_range, Nat.min_eq_left inside, places] at grownFirst
  generalize frozen.chunks.take (later + 1) = held at grownFirst chunks
  cases grownFirst with
  | @cons _ first _ rest firstGrown restGrown =>
      rw [places] at joined ⊢
      refine ofList_eq_ok_iff.mpr ⟨plan.readBody 0 node, others.map (plan.readBody 0),
        (List.range' 1 later).map fun index => plan.readBody index node, payload,
        ⟨kind, ⟨_, _, chunks, ?first, ?rest⟩, ?joined⟩, ?made⟩
      case first => exact readAs_planned listed firstGrown (within 0 plan.total_pos)
      case rest =>
        rw [← List.map_cons, ← listed, nodes_readBody]
        exact readLaterChunks_planned listed within (by omega) restGrown
      case joined =>
        rw [List.map_cons, List.map_map]
        exact joined
      case made => rw [← List.map_cons, ← listed, nodes_readBody, List.map_cons]

/-- A list of all planned bodies gives back what they were planned for. -/
theorem ofList_planned {frozen : Frozen} {list : TransactionList}
    (listed : plan.nodes = node :: others) (grows : plan.unsigned.Grows frozen)
    (within : ∀ index < plan.total, ∀ node, Within (plan.body index node))
    (few : plan.total < 2 ^ 32) (kind : list.kind = plan.payload.kind)
    (chunks : list.chunks = frozen.chunks.map FrozenChunk.signed) :
    ofList plan.payload.kind list = .ok (assemble plan.payload.bare (plan.readBody 0 node)
      (plan.nodes.map EntityId.bare) list.chunks
        ((List.range plan.total).map fun index => plan.readBody index node)) := by
  have all : frozen.chunks.take plan.total = frozen.chunks :=
    List.take_of_length_le (Nat.le_of_eq (BodyPlan.grown_length grows))
  rw [← all] at chunks
  exact ofList_firstChunks listed grows within plan.total_pos (Nat.le_refl _) kind chunks
    (ofChunks_chunkData few)

end Planned

end Transaction

/-! ## Out and back -/

/-- The list is within the limits of the wire, and so is every body in it. -/
structure TransactionList.Legible (list : TransactionList) : Prop where
  within : Within list
  bodies : ∀ chunk ∈ list.chunks, ∀ signed ∈ chunk, ∃ body : TransactionBody,
    Within body ∧ signed.body = Wire.encode body

/-- These are the lists that a receiver can read, with all that is in them. -/
theorem TransactionList.legible_iff {list : TransactionList} :
    list.Legible ↔ (∃ read, Wire.decode (Wire.encode list) = .ok (read : TransactionList)) ∧
      ∀ chunk ∈ list.chunks, ∀ signed ∈ chunk, ∃ body, signed.readBody = .ok body := by
  constructor
  · intro legible
    refine ⟨Wire.decode_encode_iff.mpr legible.within, fun chunk inList signed inChunk => ?_⟩
    obtain ⟨body, within, written⟩ := legible.bodies chunk inList signed inChunk
    rw [SignedTransaction.readBody, written]
    exact ⟨bare body, Wire.decode_encode within⟩
  · rintro ⟨read, bodies⟩
    refine ⟨Wire.decode_encode_iff.mp read, fun chunk inList signed inChunk => ?_⟩
    obtain ⟨body, decoded⟩ := bodies chunk inList signed inChunk
    have carried : Carried body := Reader.Yields.decode Wire.yields decoded
    exact ⟨body, carried.within, (Wire.encode_decoded decoded).symm⟩

namespace Transaction

variable {transaction next imported : Transaction} {plan : BodyPlan} {frozen : Frozen}

/-- What comes back of a transaction: all of it, but for checksums and parts of a second. -/
structure Returned (transaction imported : Transaction) : Prop where
  isFrozen : imported.isFrozen = true
  kind : imported.payload.kind = transaction.payload.kind
  payload : imported.payload = transaction.payload.bare
  id : imported.id = transaction.id.map TransactionId.bare
  nodes : imported.targetNodes = transaction.targetNodes.map (List.map EntityId.bare)
  fee : imported.offeredFee = transaction.offeredFee
  memo : imported.memo = transaction.memo
  validDuration : imported.validDuration.nanos =
    transaction.validDuration.nanos / 1000000000 * 1000000000
  chunkCount : imported.chunkCount = transaction.chunkCount
  signed : ∀ chunk, imported.signedTransactions chunk = transaction.signedTransactions chunk

/-- A number of seconds that fits into 64 bits is never too long. -/
theorem nanos_ofSeconds (seconds : UInt64) :
    (Duration.ofSeconds seconds.toNat).nanos = seconds.toNat * 1000000000 := by
  have fits := seconds.toNat_lt
  change min (seconds.toNat * 1000000000) (2 ^ 64 * 1000000000 - 1) = _
  omega

theorem validSeconds_toNat (duration : Duration) :
    (UInt64.ofNat (duration.nanos / 1000000000)).toNat = duration.nanos / 1000000000 := by
  have longest : duration.nanos ≤ 2 ^ 64 * 1000000000 - 1 := duration.le_longest
  have fits : duration.nanos / 1000000000 < 2 ^ 64 := by omega
  exact UInt64.toNat_ofNat_of_lt' fits

theorem signedTransactions_eq (stored : transaction.frozen = some frozen) (chunk : Nat) :
    transaction.signedTransactions chunk = (frozen.chunks.map FrozenChunk.signed)[chunk]? := by
  simp only [signedTransactions, stored, Option.bind_eq_bind, Option.bind_some, List.getElem?_map]
  cases frozen.chunks[chunk]? <;> rfl

theorem fits_of_legible (legible : (transaction.listOf frozen).Legible)
    (grows : plan.unsigned.Grows frozen) : plan.Fits := by
  refine fits_of_list grows legible.within ?_
  intro index place chunk signed node inChunks inPlace named written
  obtain ⟨body, within, same⟩ := legible.bodies chunk.signed
    (List.mem_map_of_mem (List.mem_of_getElem? inChunks)) signed (List.mem_of_getElem? inPlace)
  refine TransactionBody.decode_encode_iff.mp ⟨body.bare, ?_⟩
  rw [← written, same]
  exact Wire.decode_encode within

theorem Written.returned (written : transaction.Written) (stored : transaction.frozen = some frozen)
    (legible : (transaction.listOf frozen).Legible) :
    ∃ imported, ofList transaction.payload.kind (transaction.listOf frozen) = .ok imported ∧
      transaction.Returned imported := by
  obtain ⟨root, named, grows⟩ := written frozen stored
  have fits := fits_of_legible legible grows
  obtain ⟨node, others, listed⟩ :=
    List.exists_cons_of_length_pos (nodes_of_list grows legible.within).1
  have made : ofList transaction.payload.kind (transaction.listOf frozen) = .ok _ :=
    ofList_planned listed grows (fun index inside node => fits.body inside node)
      (BodyPlan.few_total fits.chunks) rfl rfl
  have lengths : (transaction.listOf frozen).chunks.length =
      ((List.range (transaction.planOf frozen root).total).map fun index =>
        (transaction.planOf frozen root).readBody index node).length := by
    rw [List.length_map, List.length_range]
    exact (List.length_map _).trans (BodyPlan.grown_length grows)
  refine ⟨_, made, ?_⟩
  constructor
  case isFrozen => rfl
  case kind => exact transaction.payload.kind_bare
  case payload => rfl
  case id => rw [named]; rfl
  case nodes => simp only [targetNodes, stored]; rfl
  case fee => simp only [offeredFee, stored]; rfl
  case memo => rfl
  case validDuration =>
    have seconds := validSeconds_toNat transaction.validDuration
    exact (nanos_ofSeconds _).trans (congrArg (· * 1000000000) seconds)
  case chunkCount =>
    have count := congrArg List.length (map_signed_zipWith lengths)
    rw [List.length_map] at count
    simp only [chunkCount, stored]
    exact count.trans (List.length_map _)
  case signed =>
    intro chunk
    rw [signedTransactions_eq stored, signedTransactions_eq rfl]
    exact congrArg (fun chunks => chunks[chunk]?) (map_signed_zipWith lengths)

/-- Whatever was done to a transaction since it was frozen here, it comes back from its bytes, be
its kind asked for or not. -/
theorem freezeWith_returned {client : Option Client} {world after : World}
    (froze : transaction.freezeWith client world = (.ok next, after)) (operations : List Operation)
    (stored : (next.run operations).frozen = some frozen)
    (legible : ((next.run operations).listOf frozen).Legible) :
    ∃ bytes imported, (next.run operations).toBytes = .ok bytes ∧
      ofBytes (some (next.run operations).payload.kind) bytes = .ok imported ∧
      ofBytes none bytes = .ok imported ∧ (next.run operations).Returned imported := by
  have wrote := (freezeWith_wrote froze).written
  have isFrozen : next.isFrozen = true := by
    obtain ⟨held, storedFirst, -⟩ := freezeWith_nodes froze
    simp [Transaction.isFrozen, storedFirst]
  have written := (run_maintains isFrozen wrote operations).written
  obtain ⟨imported, made, returned⟩ := written.returned stored legible
  have decoded := Wire.decode_encode legible.within
  exact ⟨_, imported, toBytes_eq stored, ofBytes_eq_ok_iff.mpr ⟨_, decoded, made⟩,
    ofBytes_eq_ok_iff.mpr ⟨_, decoded, made⟩, returned⟩

end Transaction

end LedgerClient

/-! ## A message of two chunks -/

namespace LedgerClient.Sample

open Transaction

def exported : Transaction :=
  frozen.run [.sign neutral]

def exportedBodies : Frozen :=
  exported.frozen.get (by decide +kernel)

theorem exported_legible : (exported.listOf exportedBodies).Legible := by
  have read : (Wire.decode (Wire.encode (exported.listOf exportedBodies)) :
      Except DecodeError TransactionList).toOption.isSome = true := by decide +kernel
  have bodies : ∀ chunk ∈ (exported.listOf exportedBodies).chunks, ∀ signed ∈ chunk,
      signed.readBody.toOption.isSome = true := by decide +kernel
  refine TransactionList.legible_iff.mpr
    ⟨⟨_, eq_ok_of_isSome (exported.listOf exportedBodies) read⟩, ?_⟩
  exact fun chunk inList signed inChunk =>
    ⟨_, eq_ok_of_isSome forgedBody (bodies chunk inList signed inChunk)⟩

theorem exported_returned :
    (message.freezeWith (some client) (world [])).1 = .ok frozen ∧
      (exported.listOf exportedBodies).Legible ∧
      ∃ bytes imported, exported.toBytes = .ok bytes ∧
        ofBytes (some .topicMessageSubmit) bytes = .ok imported ∧
        ofBytes none bytes = .ok imported ∧ exported.Returned imported := by
  have froze : message.freezeWith (some client) (world []) =
      (.ok frozen, (message.freezeWith (some client) (world [])).2) := rfl
  have stored : exported.frozen = some exportedBodies := (Option.some_get _).symm
  exact ⟨congrArg Prod.fst froze, exported_legible,
    freezeWith_returned froze [.sign neutral] stored exported_legible⟩

end LedgerClient.Sample
