import LedgerClient.Proofs.Transaction.ChunkIds
import LedgerClient.Proofs.Transaction.Inspection

/-!
Exports whose chunks were moved, left out or doubled on the way. A message is taken only as it went
out, since each part of it says where it stands among how many. What is appended to a file says
nothing of the kind: there the nonces alone show the place of a chunk, and nothing shows that chunks
are missing at the end.
-/

namespace LedgerClient

open Limits

/-- The list is put together from the chunks of another one, in any order and any number. -/
structure TransactionList.Rearranges (list original : TransactionList) : Prop where
  kind : list.kind = original.kind
  chunks : list.chunks ⊆ original.chunks

/-! ## The place that a part of a message names -/

namespace Payload

theorem joinMessage_inPlace {total index : Nat} {topic : Option TopicId} {message : Bytes}
    {chunks : List TransactionData} {payload : Payload}
    (joined : joinMessage total index topic message chunks = .ok payload) :
    ∀ place data, chunks[place]? = some data → InPlace total (index + place) data.chunk? := by
  induction chunks generalizing index topic message with
  | nil =>
      intro place data found
      cases found
  | cons first rest ih =>
      obtain ⟨next, part, info, rfl, inPlace, later⟩ := joinMessage_cons_eq_ok joined
      intro place data found
      cases place with
      | zero =>
          cases found
          exact inPlace
      | succ place =>
          have behind := ih later place data found
          rwa [Nat.add_assoc, Nat.add_comm 1 place] at behind

/-- A part that is in place stands where it was cut, among as many parts as there were. -/
theorem place_of_inPlace {chunk : Chunk} {total place : Nat} (inside : chunk.index < chunk.total)
    (few : chunk.total < 2 ^ 32) (behind : place < total)
    (inPlace : InPlace total place ((chunkInfo chunk).map ChunkInfo.bare)) :
    chunk.index = place ∧ chunk.total = total := by
  unfold chunkInfo at inPlace
  split at inPlace
  · obtain ⟨number, count⟩ := inPlace
    change (UInt32.ofNat chunk.index + 1).toNat = place + 1 at number
    change (UInt32.ofNat chunk.total).toNat = total at count
    rw [number_toNat inside few] at number
    rw [UInt32.toNat_ofNat_of_lt' few] at count
    exact ⟨Nat.succ.inj number, count⟩
  · change total = 1 at inPlace
    omega

end Payload

namespace Transaction

variable {transaction next imported : Transaction} {plan : BodyPlan} {frozen : Frozen}
  {kind : TransactionKind} {list : TransactionList} {first : TransactionBody}
  {others heads : List TransactionBody} {payload : Payload} {place index : Nat}
  {signed : List SignedTransaction}

/-! ## The chunks of a list that is taken -/

/-- The chunk in this place of a list is the one with this index in the plan. -/
structure ReadAt (plan : BodyPlan) (frozen : Frozen) (heads : List TransactionBody) (place : Nat)
    (signed : List SignedTransaction) (index : Nat) : Prop where
  held : ∃ chunk, frozen.chunks[index]? = some chunk ∧ chunk.signed = signed ∧
    chunk.id = chunkId plan.root index
  head : ∃ node, heads[place]? = some (plan.readBody index node)
  numbered : 0 < place → (chunkId plan.root index).nonce = some (UInt32.ofNat place)

theorem ReadAs.planned {chunk : FrozenChunk} {head : TransactionBody}
    (readAs : ReadAs kind chunk.signed head others)
    (grows : (plan.unsignedChunk index).Grows chunk) :
    ∃ node, head = plan.readBody index node := by
  have inFront : (head :: others)[0]? = some head := rfl
  obtain ⟨held, found, read⟩ := forall₂_getElem? readAs.1 inFront
  obtain ⟨node, -, written⟩ := BodyPlan.grown_body grows found
  exact ⟨node, BodyPlan.readBody_eq written read⟩

theorem Behind.numbered {nodes : List AccountId} {node : AccountId}
    (behind : Behind kind first nodes place signed (plan.readBody index node))
    (later : 0 < place) : (chunkId plan.root index).nonce = some (UInt32.ofNat place) := by
  have nonces := congrArg TransactionId.nonce (TransactionId.same_iff.mp behind.named)
  change (chunkId plan.root index).nonce = (chunkId first.transactionId place).nonce at nonces
  rw [nonces, chunkId_nonce later]

theorem Accepts.readAt (accepts : Accepts kind list first others heads payload)
    (grows : plan.unsigned.Grows frozen)
    (chunks : list.chunks ⊆ frozen.chunks.map FrozenChunk.signed)
    (found : list.chunks[place]? = some signed) :
    ∃ index, ReadAt plan frozen (first :: heads) place signed index := by
  obtain ⟨chunk, inChunks, rfl⟩ := List.mem_map.mp (chunks (List.mem_of_getElem? found))
  obtain ⟨index, held⟩ := List.mem_iff_getElem?.mp inChunks
  obtain ⟨-, grown⟩ := BodyPlan.grown_chunk grows held
  obtain ⟨firstSigned, rest, parts, readAs, readRest⟩ := accepts.read
  obtain ⟨lengths, behind⟩ := readLaterChunks_eq_ok_iff.mp readRest
  rw [parts] at found
  have stored : ∃ other, frozen.chunks[index]? = some other ∧ other.signed = chunk.signed ∧
      other.id = chunkId plan.root index := ⟨chunk, held, rfl, grown.id⟩
  cases place with
  | zero =>
      cases found
      obtain ⟨node, rfl⟩ := readAs.planned grown
      exact ⟨index, stored, ⟨node, rfl⟩, fun later => absurd later (Nat.lt_irrefl 0)⟩
  | succ place =>
      obtain ⟨inside, -⟩ := List.getElem?_eq_some_iff.mp found
      have foundHead := List.getElem?_eq_getElem (lengths ▸ Nat.lt_of_succ_lt_succ inside)
      have there := behind place chunk.signed _ found foundHead
      obtain ⟨bodies, readThere, -⟩ := there.read
      obtain ⟨node, named⟩ := readThere.planned grown
      rw [named] at there foundHead
      rw [Nat.add_comm] at there
      exact ⟨index, stored, ⟨node, foundHead⟩, there.numbered⟩

/-! ## Messages -/

theorem chunk?_readBody {topic : TopicId} {message : Bytes} {node : AccountId}
    (carries : plan.payload = .topicMessageSubmit topic message) :
    (plan.readBody index node).data.chunk? = (Payload.chunkInfo
      { index, total := plan.total, initialId := plan.root
        content := part plan.chunking.chunkSize index message }).map ChunkInfo.bare := by
  change (chunkData plan.payload plan.chunking plan.root index).bare.chunk? = _
  rw [BodyPlan.total, carries]
  rfl

/-- Every part stands in its own place, and there are as many as the message was cut into. -/
theorem Accepts.partInPlace (accepts : Accepts .topicMessageSubmit list first others heads payload)
    (grows : plan.unsigned.Grows frozen)
    (chunks : list.chunks ⊆ frozen.chunks.map FrozenChunk.signed) (few : plan.total < 2 ^ 32)
    {topic : TopicId} {message : Bytes} (carries : plan.payload = .topicMessageSubmit topic message)
    (found : list.chunks[place]? = some signed) :
    plan.total = list.chunks.length ∧
      (frozen.chunks.map FrozenChunk.signed)[place]? = some signed := by
  obtain ⟨inside, -⟩ := List.getElem?_eq_some_iff.mp found
  obtain ⟨index, read⟩ := accepts.readAt grows chunks found
  obtain ⟨chunk, held, same, -⟩ := read.held
  obtain ⟨node, head⟩ := read.head
  have data : ((first :: heads).map TransactionBody.data)[place]? =
      some (plan.readBody index node).data := by rw [List.getElem?_map, head, Option.map_some]
  have inPlace := Payload.joinMessage_inPlace accepts.joined place _ data
  rw [List.length_map, ← accepts.length, Nat.zero_add, chunk?_readBody carries] at inPlace
  obtain ⟨here, count⟩ := Payload.place_of_inPlace (BodyPlan.grown_chunk grows held).1 few inside
    inPlace
  change index = place at here
  rw [here] at held
  refine ⟨count, ?_⟩
  rw [List.getElem?_map, held, Option.map_some, same]

theorem Accepts.original (accepts : Accepts .topicMessageSubmit list first others heads payload)
    (grows : plan.unsigned.Grows frozen)
    (chunks : list.chunks ⊆ frozen.chunks.map FrozenChunk.signed) (few : plan.total < 2 ^ 32)
    {topic : TopicId} {message : Bytes}
    (carries : plan.payload = .topicMessageSubmit topic message) :
    list.chunks = frozen.chunks.map FrozenChunk.signed := by
  have whole : list.chunks.length = (frozen.chunks.map FrozenChunk.signed).length := by
    obtain ⟨firstSigned, rest, parts, -, -⟩ := accepts.read
    have inFront : list.chunks[0]? = some firstSigned := by rw [parts]; rfl
    obtain ⟨count, -⟩ := accepts.partInPlace grows chunks few carries inFront
    rw [← count, List.length_map, BodyPlan.grown_length grows]
  refine List.ext_getElem? fun place => ?_
  cases found : list.chunks[place]? with
  | none =>
      rw [List.getElem?_eq_none_iff, whole] at found
      rw [List.getElem?_eq_none_iff.mpr found]
  | some signed => rw [(accepts.partInPlace grows chunks few carries found).2]

/-! ## The first chunks of an append -/

theorem legible_firstChunks {count : Nat} (positive : 0 < count)
    (legible : (transaction.listOf frozen).Legible) :
    (transaction.listOf { frozen with chunks := frozen.chunks.take count }).Legible := by
  obtain ⟨⟨least, most⟩, each⟩ := legible.within
  have kept : (transaction.listOf { frozen with chunks := frozen.chunks.take count }).chunks =
      (transaction.listOf frozen).chunks.take count := List.map_take
  constructor
  · constructor
    · rw [kept, List.length_take]
      omega
    · rw [kept]
      exact fun chunk member => each chunk (List.mem_of_mem_take member)
  · rw [kept]
    exact fun chunk member => legible.bodies chunk (List.mem_of_mem_take member)

/-- The data of the first chunks of an append is that of a shorter one. -/
theorem ofChunks_firstChunks {file : FileId} {contents : Bytes}
    (carries : plan.payload = .fileAppend file contents) (node : AccountId) {count : Nat}
    (positive : 0 < count) :
    Payload.ofChunks .fileAppend ((List.range count).map fun index =>
        (plan.readBody index node).data) =
      .ok (.fileAppend file.bare (contents.take (count * plan.chunking.chunkSize))) := by
  have nonempty : (List.range count).map
      (fun index => part plan.chunking.chunkSize index contents) ≠ [] := by
    simpa using Nat.ne_of_gt positive
  have joined := Payload.joinFile_whole file.bare nonempty
  rw [List.map_map, ← List.flatMap_def, flatMap_part] at joined
  refine Eq.trans (congrArg (Payload.joinFile none []) (List.map_congr_left ?_)) joined
  intro index _
  change (chunkData plan.payload plan.chunking plan.root index).bare = _
  rw [carries]
  rfl

/-! ## What is taken -/

/-- How far the chunks of a list have to be as they went out. -/
structure InOrder (transaction : Transaction) (root : TransactionId) (frozen : Frozen)
    (list : TransactionList) : Prop where
  message : transaction.payload.kind = .topicMessageSubmit → list = transaction.listOf frozen
  numbered : ∀ place signed, 0 < place → list.chunks[place]? = some signed →
    ∃ chunk ∈ frozen.chunks, chunk.signed = signed ∧ chunk.id.nonce = some (UInt32.ofNat place)
  inPlace : root.nonce = none → ∀ place signed, 0 < place → list.chunks[place]? = some signed →
    (transaction.listOf frozen).chunks[place]? = some signed

/-- What becomes of an export whose chunks are moved, left out or doubled. -/
structure GuardsOrder (transaction : Transaction) (root : TransactionId) (frozen : Frozen) :
    Prop where
  taken : ∀ list : TransactionList, list.Rearranges (transaction.listOf frozen) →
    ∀ asked imported, ofBytes asked (Wire.encode list) = .ok imported →
      transaction.InOrder root frozen list
  firstChunks : ∀ file contents, transaction.payload = .fileAppend file contents →
    (transaction.listOf frozen).Legible → ∀ count, 0 < count → count ≤ frozen.chunks.length →
      ∃ imported,
        ofBytes none (Wire.encode
          (transaction.listOf { frozen with chunks := frozen.chunks.take count })) = .ok imported ∧
        ofBytes (some .fileAppend) (Wire.encode
          (transaction.listOf { frozen with chunks := frozen.chunks.take count })) = .ok imported ∧
        imported.payload =
          .fileAppend file.bare (contents.take (count * frozen.chunking.chunkSize))

variable {root : TransactionId} {asked : Option TransactionKind}

theorem guards_message (grows : (transaction.planOf frozen root).unsigned.Grows frozen)
    (few : frozen.chunks.length < 2 ^ 32) (ofKind : transaction.payload.kind = .topicMessageSubmit)
    (rearranges : list.Rearranges (transaction.listOf frozen))
    (taken : ofBytes asked (Wire.encode list) = .ok imported) :
    list = transaction.listOf frozen := by
  obtain ⟨-, made⟩ := ofBytes_encode_eq_ok taken
  obtain ⟨first, others, heads, payload, accepts, -⟩ := ofList_eq_ok_iff.mp made
  have kind : asked.getD list.kind = .topicMessageSubmit := by
    rw [← accepts.sameKind, rearranges.kind]
    exact ofKind
  rw [kind] at accepts
  have carries : ∃ topic message, transaction.payload = .topicMessageSubmit topic message := by
    cases stated : transaction.payload with
    | topicMessageSubmit topic message => exact ⟨topic, message, rfl⟩
    | _ =>
        rw [stated] at ofKind
        cases ofKind
  obtain ⟨topic, message, carries⟩ := carries
  rw [BodyPlan.grown_length grows] at few
  have chunks := accepts.original grows rearranges.chunks few carries
  exact congrArg₂ TransactionList.mk rearranges.kind chunks

theorem guards_readAt (grows : (transaction.planOf frozen root).unsigned.Grows frozen)
    (rearranges : list.Rearranges (transaction.listOf frozen))
    (taken : ofBytes asked (Wire.encode list) = .ok imported)
    (found : list.chunks[place]? = some signed) :
    place < 2 ^ 32 ∧ ∃ heads index,
      ReadAt (transaction.planOf frozen root) frozen heads place signed index := by
  obtain ⟨legible, made⟩ := ofBytes_encode_eq_ok taken
  obtain ⟨first, others, heads, payload, accepts, -⟩ := ofList_eq_ok_iff.mp made
  obtain ⟨inside, -⟩ := List.getElem?_eq_some_iff.mp found
  have most : list.chunks.length ≤ TransactionList.mostChunks := legible.within.1.2
  refine ⟨?_, _, accepts.readAt grows rearranges.chunks found⟩
  exact Nat.lt_of_lt_of_le inside (Nat.le_trans most (by decide))

theorem guards_inPlace (grows : (transaction.planOf frozen root).unsigned.Grows frozen)
    (few : frozen.chunks.length < 2 ^ 32) (plain : root.nonce = none)
    (rearranges : list.Rearranges (transaction.listOf frozen))
    (taken : ofBytes asked (Wire.encode list) = .ok imported) (later : 0 < place)
    (found : list.chunks[place]? = some signed) :
    (transaction.listOf frozen).chunks[place]? = some signed := by
  obtain ⟨fewPlaces, heads, index, read⟩ := guards_readAt grows rearranges taken found
  obtain ⟨chunk, held, same, -⟩ := read.held
  obtain ⟨inside, -⟩ := List.getElem?_eq_some_iff.mp held
  have nonce := read.numbered later
  have here : index = place := by
    rcases Nat.eq_zero_or_pos index with rfl | behind
    · change root.nonce = _ at nonce
      rw [plain] at nonce
      cases nonce
    · rw [chunkId_nonce behind] at nonce
      calc
        index = (UInt32.ofNat index).toNat :=
          (UInt32.toNat_ofNat_of_lt' (Nat.lt_trans inside few)).symm
        _ = (UInt32.ofNat place).toNat := congrArg UInt32.toNat (Option.some.inj nonce)
        _ = place := UInt32.toNat_ofNat_of_lt' fewPlaces
  rw [here] at held
  simp only [listOf, List.getElem?_map, held, Option.map_some, same]

theorem guards_firstChunks (grows : (transaction.planOf frozen root).unsigned.Grows frozen)
    {file : FileId} {contents : Bytes} (carries : transaction.payload = .fileAppend file contents)
    (legible : (transaction.listOf frozen).Legible) {count : Nat} (positive : 0 < count)
    (inside : count ≤ frozen.chunks.length) :
    ∃ imported, ofList .fileAppend
        (transaction.listOf { frozen with chunks := frozen.chunks.take count }) = .ok imported ∧
      imported.payload =
        .fileAppend file.bare (contents.take (count * frozen.chunking.chunkSize)) := by
  have fits := fits_of_legible legible grows
  obtain ⟨node, others, listed⟩ :=
    List.exists_cons_of_length_pos (nodes_of_list grows legible.within).1
  let plan := transaction.planOf frozen root
  have carriesPlan : plan.payload = .fileAppend file contents := carries
  have kind : plan.payload.kind = .fileAppend := by rw [carriesPlan]; rfl
  have joined := ofChunks_firstChunks carriesPlan node positive
  rw [← kind] at joined
  rw [BodyPlan.grown_length grows] at inside
  have made : ofList plan.payload.kind
      (transaction.listOf { frozen with chunks := frozen.chunks.take count }) = .ok _ :=
    ofList_firstChunks listed grows (fun index inside node => fits.body inside node)
      positive inside rfl rfl joined
  rw [kind] at made
  exact ⟨_, made, rfl⟩

/-- A message that went out is taken back only as a whole and in order, and an append only if its
later chunks are numbered by their places. Its first chunks are taken also without the rest. The wire
has 32 bits for the number of chunks, so there are fewer than that in an export. -/
theorem freezeWith_guardsOrder {client : Option Client} {world after : World}
    (froze : transaction.freezeWith client world = (.ok next, after)) (operations : List Operation)
    (stored : (next.run operations).frozen = some frozen)
    (few : frozen.chunks.length < 2 ^ 32) :
    ∃ root, (next.run operations).id = some root ∧
      (next.run operations).GuardsOrder root frozen := by
  obtain ⟨root, named, grows⟩ := (freezeWith_maintains froze operations).written frozen stored
  refine ⟨root, named, ?_⟩
  constructor
  case taken =>
    intro list rearranges asked imported taken
    constructor
    case message => exact fun ofKind => guards_message grows few ofKind rearranges taken
    case numbered =>
      intro place signed later found
      obtain ⟨-, heads, index, read⟩ := guards_readAt grows rearranges taken found
      obtain ⟨chunk, held, same, id⟩ := read.held
      refine ⟨chunk, List.mem_of_getElem? held, same, ?_⟩
      rw [id]
      exact read.numbered later
    case inPlace =>
      intro plain place signed later found
      exact guards_inPlace grows few plain rearranges taken later found
  case firstChunks =>
    intro file contents carries legible count positive inside
    obtain ⟨imported, made, payload⟩ :=
      guards_firstChunks grows carries legible positive inside
    have decoded := Wire.decode_encode (legible_firstChunks positive legible).within
    have kind : ((next.run operations).listOf
        { frozen with chunks := frozen.chunks.take count }).kind = .fileAppend := by
      simp only [listOf, carries]
      rfl
    refine ⟨imported, ofBytes_eq_ok_iff.mpr ⟨_, decoded, ?_⟩,
      ofBytes_eq_ok_iff.mpr ⟨_, decoded, made⟩, payload⟩
    exact kind.symm ▸ made

end Transaction

end LedgerClient

/-! ## The first of two bytes -/

namespace LedgerClient.Sample

open Transaction

def appendSigned : Transaction :=
  appendFrozen.run [.sign neutral]

def appendBodies : Frozen :=
  appendSigned.frozen.get (by decide +kernel)

theorem append_guardsOrder :
    (append.freezeWith (some client) (world [])).1 = .ok appendFrozen ∧
      appendSigned.frozen = some appendBodies ∧ appendBodies.chunks.length < 2 ^ 32 ∧
        ∃ root, appendSigned.id = some root ∧ appendSigned.GuardsOrder root appendBodies := by
  have froze : append.freezeWith (some client) (world []) =
      (.ok appendFrozen, (append.freezeWith (some client) (world [])).2) := rfl
  have stored : appendSigned.frozen = some appendBodies := (Option.some_get _).symm
  have few : appendBodies.chunks.length < 2 ^ 32 := by decide +kernel
  exact ⟨congrArg Prod.fst froze, stored, few,
    freezeWith_guardsOrder froze [.sign neutral] stored few⟩

/-- The export without its second chunk. -/
def appendCut : TransactionList :=
  appendSigned.listOf { appendBodies with chunks := appendBodies.chunks.take 1 }

def appendShort : Transaction :=
  (ofBytes none (Wire.encode appendCut)).toOption.getD append

/-- It is taken, and what is appended then is one of the two bytes. -/
theorem appendCut_taken :
    (append.freezeWith (some client) (world [])).1 = .ok appendFrozen ∧
      appendSigned.frozen = some appendBodies ∧ appendBodies.chunks.length = 2 ∧
      appendCut.Rearranges (appendSigned.listOf appendBodies) ∧
      appendCut ≠ appendSigned.listOf appendBodies ∧
      ofBytes none (Wire.encode appendCut) = .ok appendShort ∧
      appendShort.payload = .fileAppend file [1] := by
  refine ⟨eq_ok_of_isSome append (by decide +kernel), (Option.some_get _).symm,
    by decide +kernel, ?rearranges, ?cut, eq_ok_of_isSome append (by decide +kernel),
    by decide +kernel⟩
  case rearranges =>
    refine ⟨rfl, ?_⟩
    change (appendBodies.chunks.take 1).map FrozenChunk.signed ⊆ _
    exact List.map_subset _ (List.take_subset 1 appendBodies.chunks)
  case cut =>
    intro whole
    have lengths := congrArg (fun list => list.chunks.length) whole
    exact absurd lengths (by decide +kernel)

end LedgerClient.Sample
