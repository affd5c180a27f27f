import LedgerClient.Proofs.Transaction.Interchange

/-!
Transactions that are handed on as they came. Whoever made the bytes, an imported transaction is
exported as these bytes again, and its bodies belong together: those of a chunk have one id and ask
for the same, every chunk is for the same nodes, and the ids of the chunks are numbered through.
The kind at the front of the bytes is that of the bodies, so under another one they are refused.
-/

namespace LedgerClient

open Limits

/-! ## The kind of what is put together -/

namespace Payload

variable {payload : Payload} {rest : List TransactionData} {data : TransactionData}

theorem joinFile_cons_eq_ok {file : Option FileId} {contents : Bytes}
    (joined : joinFile file contents (data :: rest) = .ok payload) :
    ∃ next part, data = .fileAppend next part ∧
      joinFile (some (file.getD next)) (contents ++ part) rest = .ok payload := by
  cases data with
  | fileAppend next part =>
      simp only [joinFile] at joined
      split at joined
      · exact ⟨next, part, rfl, joined⟩
      · cases joined
  | _ => cases joined

theorem joinMessage_cons_eq_ok {total index : Nat} {topic : Option TopicId} {message : Bytes}
    (joined : joinMessage total index topic message (data :: rest) = .ok payload) :
    ∃ next part info, data = .topicMessageSubmit next part info ∧ InPlace total index info ∧
      joinMessage total (index + 1) (some (topic.getD next)) (message ++ part) rest =
        .ok payload := by
  cases data with
  | topicMessageSubmit next part info =>
      cases info with
      | none =>
          simp only [joinMessage] at joined
          split at joined
          · rename_i accepted
            rw [Bool.and_eq_true, decide_eq_true_eq] at accepted
            exact ⟨next, part, none, rfl, accepted.1, joined⟩
          · cases joined
      | some info =>
          simp only [joinMessage] at joined
          split at joined
          · rename_i accepted
            simp only [Bool.and_eq_true, decide_eq_true_eq] at accepted
            exact ⟨next, part, some info, rfl, accepted.1, joined⟩
          · cases joined
  | _ => cases joined

theorem joinFile_kind {file : Option FileId} {contents : Bytes} {chunks : List TransactionData}
    (joined : joinFile file contents chunks = .ok payload) : payload.kind = .fileAppend := by
  induction chunks generalizing file contents with
  | nil =>
      simp only [joinFile] at joined
      split at joined <;> cases joined
      rfl
  | cons data rest ih =>
      obtain ⟨next, part, -, later⟩ := joinFile_cons_eq_ok joined
      exact ih later

theorem joinMessage_kind {total index : Nat} {topic : Option TopicId} {message : Bytes}
    {chunks : List TransactionData}
    (joined : joinMessage total index topic message chunks = .ok payload) :
    payload.kind = .topicMessageSubmit := by
  induction chunks generalizing index topic message with
  | nil =>
      simp only [joinMessage] at joined
      split at joined <;> cases joined
      rfl
  | cons data rest ih =>
      obtain ⟨next, part, info, -, -, later⟩ := joinMessage_cons_eq_ok joined
      exact ih later

theorem ofChunks_kind {kind : TransactionKind} {chunks : List TransactionData}
    (joined : ofChunks kind chunks = .ok payload) : payload.kind = kind := by
  cases kind with
  | fileAppend => exact joinFile_kind joined
  | topicMessageSubmit => exact joinMessage_kind joined
  | _ =>
      obtain ⟨data, -, made⟩ := bind_eq_ok.mp joined
      cases data <;> cases made
      rfl

end Payload

/-! ## Bodies that belong together -/

/-- The chunk has one body for each node, and all of them have its id and ask for the same. -/
def FrozenChunk.Uniform (chunk : FrozenChunk) (kind : TransactionKind) (nodes : List AccountId) :
    Prop :=
  ∃ data : TransactionData, data.kind = kind ∧
    List.Forall₂ (fun signed node => ∃ body, signed.readBody = .ok body ∧
      body.transactionId = chunk.id ∧ body.node = node ∧ body.data = data) chunk.signed nodes

/-- The first of some chunks has the id `root`, and the others have their place as its nonce. -/
structure TransactionId.Numbers (root id : TransactionId) (place : Nat) : Prop where
  first : place = 0 → id = root
  later : 0 < place → ∃ nonce : UInt32, nonce.toNat = place ∧ id = root.withNonce nonce

namespace Transaction

variable {transaction : Transaction} {kind : TransactionKind} {head first : TransactionBody}
  {others : List TransactionBody} {nodes : List AccountId} {signed : List SignedTransaction}
  {index : Nat}

/-- What was read has no checksums. -/
theorem ReadAs.carried (readAs : ReadAs kind signed head others) :
    ∀ body ∈ head :: others, Carried body := by
  intro body member
  obtain ⟨place, found⟩ := List.mem_iff_getElem?.mp member
  obtain ⟨held, -, read⟩ := forall₂_getElem? readAs.1 found
  exact Reader.Yields.decode Wire.yields read

/-- So ids that are the same without checksums are equal, and data as well. -/
theorem ReadAs.alike_eq (readAs : ReadAs kind signed head others) {body : TransactionBody}
    (member : body ∈ head :: others) :
    body.transactionId = head.transactionId ∧ body.data = head.data := by
  have bareHead : head.bare = head := (readAs.carried head List.mem_cons_self).kept
  have bareBody : body.bare = body := (readAs.carried body member).kept
  obtain ⟨-, sameId, sameData⟩ := readAs.2 body member
  constructor
  · calc
      body.transactionId = body.transactionId.bare :=
        (congrArg TransactionBody.transactionId bareBody).symm
      _ = head.transactionId.bare := TransactionId.same_iff.mp sameId
      _ = head.transactionId := congrArg TransactionBody.transactionId bareHead
  · calc
      body.data = body.data.bare := (congrArg TransactionBody.data bareBody).symm
      _ = head.data.bare := of_decide_eq_true sameData
      _ = head.data := congrArg TransactionBody.data bareHead

theorem ReadAs.uniform (readAs : ReadAs kind signed head others) :
    ({ id := head.transactionId, signed } : FrozenChunk).Uniform kind
      ((head :: others).map TransactionBody.node) := by
  refine ⟨head.data, (readAs.2 head List.mem_cons_self).1, List.forall₂_map_right_iff.mpr ?_⟩
  refine List.forall₂_iff_get.mpr ⟨readAs.1.length_eq, fun place inSigned inBodies => ?_⟩
  obtain ⟨sameId, sameData⟩ := readAs.alike_eq (List.get_mem (head :: others) ⟨place, inBodies⟩)
  exact ⟨_, readAs.1.get inSigned inBodies, sameId, rfl, sameData⟩

theorem ReadAs.nodes_bare (readAs : ReadAs kind signed head others) :
    ((head :: others).map TransactionBody.node).map EntityId.bare =
      (head :: others).map TransactionBody.node := by
  rw [List.map_map]
  refine List.map_congr_left fun body member => ?_
  have bareBody : body.bare = body := (readAs.carried body member).kept
  exact congrArg TransactionBody.node bareBody

/-- The first chunk names the nodes, and a later one has to name them again in the same order. -/
theorem Behind.uniform (behind : Behind kind first nodes index signed head)
    (bareNodes : nodes.map EntityId.bare = nodes) :
    ({ id := head.transactionId, signed } : FrozenChunk).Uniform kind nodes := by
  obtain ⟨others, readAs, listed⟩ := behind.read
  have same : nodes = (head :: others).map TransactionBody.node := by
    rw [← bareNodes, ← readAs.nodes_bare]
    exact of_decide_eq_true listed
  rw [same]
  exact readAs.uniform

theorem Behind.numbers (behind : Behind kind first nodes index signed head)
    (bareFirst : first.transactionId.bare = first.transactionId) (later : 0 < index)
    (few : index < 2 ^ 32) : first.transactionId.Numbers head.transactionId index := by
  obtain ⟨others, readAs, -⟩ := behind.read
  have bareHead : head.bare = head := (readAs.carried head List.mem_cons_self).kept
  have named : head.transactionId = first.transactionId.withNonce (UInt32.ofNat index) := by
    calc
      head.transactionId = head.transactionId.bare :=
        (congrArg TransactionBody.transactionId bareHead).symm
      _ = (chunkId first.transactionId index).bare := TransactionId.same_iff.mp behind.named
      _ = chunkId first.transactionId index := by rw [chunkId_bare, bareFirst]
      _ = first.transactionId.withNonce (UInt32.ofNat index) := by
        rw [chunkId, if_neg (Nat.ne_of_gt later)]
  exact ⟨fun none => absurd none (Nat.ne_of_gt later),
    fun _ => ⟨_, UInt32.toNat_ofNat_of_lt' few, named⟩⟩

/-! ## The kind at the front -/

theorem encode_list (list : TransactionList) :
    Wire.encode list = list.kind.tag :: TransactionList.encodeChunks list.chunks := by
  change Wire.encode list.kind.tag ++ _ = _
  rw [Wire.encode_byte]
  rfl

/-- The first body is read as what it is, whatever kind is asked for. -/
theorem ReadAs.kind_eq {otherKind : TransactionKind} {otherHead : TransactionBody}
    {more : List TransactionBody} (readAs : ReadAs kind signed head others)
    (again : ReadAs otherKind signed otherHead more) : kind = otherKind := by
  obtain ⟨bodies, alike⟩ := readAs
  obtain ⟨otherBodies, otherAlike⟩ := again
  cases bodies with
  | cons read _ =>
      cases otherBodies with
      | cons readAgain _ =>
          rw [read] at readAgain
          cases readAgain
          exact (alike head List.mem_cons_self).1.symm.trans
            (otherAlike head List.mem_cons_self).1

/-- No two lists of the same chunks are accepted under different kinds. -/
theorem Accepts.kind_eq {list other : TransactionList} {otherKind : TransactionKind}
    {heads otherHeads more : List TransactionBody} {otherFirst : TransactionBody}
    {payload otherPayload : Payload} (accepts : Accepts kind list first others heads payload)
    (again : Accepts otherKind other otherFirst more otherHeads otherPayload)
    (same : other.chunks = list.chunks) : kind = otherKind := by
  obtain ⟨signed, rest, chunks, readAs, -⟩ := accepts.read
  obtain ⟨otherSigned, otherRest, otherChunks, readAgain, -⟩ := again.read
  rw [same, chunks] at otherChunks
  cases otherChunks
  exact readAs.kind_eq readAgain

theorem relabelled_refused {list : TransactionList} (within : Within list)
    (made : ofList kind list = .ok transaction) {tag : UInt8} (other : tag ≠ kind.tag)
    (asked : Option TransactionKind) :
    ∃ error, ofBytes asked (tag :: TransactionList.encodeChunks list.chunks) = .error error := by
  cases outcome : ofBytes asked (tag :: TransactionList.encodeChunks list.chunks) with
  | error error => exact ⟨error, rfl⟩
  | ok imported =>
      obtain ⟨named, decoded, madeNamed⟩ := ofBytes_eq_ok_iff.mp outcome
      have written := Wire.encode_decoded decoded
      rw [encode_list] at written
      obtain ⟨tagged, -⟩ := List.cons.inj written
      -- The limits of a list do not depend on its kind, so these bytes can be read in one way only.
      have withinNamed : Within { list with kind := named.kind } := within
      have renamed : Wire.decode (Wire.encode { list with kind := named.kind }) =
          .ok { list with kind := named.kind } := Wire.decode_encode withinNamed
      rw [encode_list, tagged, decoded] at renamed
      have same : named = { list with kind := named.kind } := Except.ok.inj renamed
      have chunks : named.chunks = list.chunks := congrArg (fun read => read.chunks) same
      obtain ⟨_, _, _, _, accepts, -⟩ := ofList_eq_ok_iff.mp made
      obtain ⟨_, _, _, _, again, -⟩ := ofList_eq_ok_iff.mp madeNamed
      have kinds : kind = named.kind := (accepts.kind_eq again chunks).trans again.sameKind.symm
      rw [← tagged, ← kinds] at other
      exact absurd rfl other

/-! ## As it came -/

/-- What is known of a transaction that came as these bytes. -/
structure Reproduces (transaction : Transaction) (bytes : Bytes) : Prop where
  exported : transaction.toBytes = .ok bytes
  chunks : ∃ root frozen, transaction.id = some root ∧ transaction.frozen = some frozen ∧
    frozen.chunks ≠ [] ∧
    ∀ place chunk, frozen.chunks[place]? = some chunk →
      root.Numbers chunk.id place ∧ chunk.Uniform transaction.payload.kind frozen.nodes
  labelled : ∃ rest, bytes = transaction.payload.kind.tag :: rest ∧
    ∀ tag, tag ≠ transaction.payload.kind.tag → ∀ asked, ∃ error,
      ofBytes asked (tag :: rest) = .error error

theorem ofList_uniform {list : TransactionList} (within : Within list)
    (made : ofList kind list = .ok transaction) :
    ∃ root frozen, transaction.id = some root ∧ transaction.frozen = some frozen ∧
      transaction.listOf frozen = list ∧
      ∀ place chunk, frozen.chunks[place]? = some chunk →
        root.Numbers chunk.id place ∧ chunk.Uniform transaction.payload.kind frozen.nodes := by
  obtain ⟨first, others, heads, payload, accepts, rfl⟩ := ofList_eq_ok_iff.mp made
  obtain ⟨signed, rest, chunks, readAs, readRest⟩ := accepts.read
  obtain ⟨-, behind⟩ := readLaterChunks_eq_ok_iff.mp readRest
  have payloadKind : payload.kind = kind := Payload.ofChunks_kind accepts.joined
  have most : list.chunks.length ≤ TransactionList.mostChunks := within.1.2
  refine ⟨_, _, rfl, rfl, ?list, ?chunks⟩
  case list =>
    change TransactionList.mk payload.kind (List.map FrozenChunk.signed _) = list
    rw [map_signed_zipWith accepts.length, payloadKind, ← accepts.sameKind]
  case chunks =>
    intro place chunk found
    change _ ∧ chunk.Uniform payload.kind _
    rw [payloadKind]
    obtain ⟨held, head, foundSigned, foundHead, rfl⟩ := List.getElem?_zipWith_eq_some.mp found
    rw [chunks] at foundSigned most
    cases place with
    | zero =>
        cases foundSigned
        cases foundHead
        exact ⟨⟨fun _ => rfl, fun later => absurd later (Nat.lt_irrefl 0)⟩, readAs.uniform⟩
    | succ place =>
        obtain ⟨inside, -⟩ := List.getElem?_eq_some_iff.mp foundSigned
        have bareFirst : first.bare = first := (readAs.carried first List.mem_cons_self).kept
        have later := behind place held head foundSigned foundHead
        rw [Nat.add_comm 1 place] at later
        refine ⟨later.numbers (congrArg TransactionBody.transactionId bareFirst)
          (Nat.succ_pos place) ?_, later.uniform readAs.nodes_bare⟩
        exact Nat.lt_of_lt_of_le inside (Nat.le_trans most (by decide))

/-- An imported transaction goes out as the bytes it came as, and its bodies belong together; these
bytes are refused under any other kind. -/
theorem ofBytes_reproduces {asked : Option TransactionKind} {bytes : Bytes}
    (read : ofBytes asked bytes = .ok transaction) : transaction.Reproduces bytes := by
  obtain ⟨list, decoded, made⟩ := ofBytes_eq_ok_iff.mp read
  have within : Within list := (Reader.Yields.decode Wire.yields decoded).within
  obtain ⟨root, frozen, named, stored, same, uniform⟩ := ofList_uniform within made
  have written : Wire.encode (transaction.listOf frozen) = bytes :=
    same ▸ Wire.encode_decoded decoded
  have kind : asked.getD list.kind = transaction.payload.kind := by
    obtain ⟨_, _, _, _, accepts, -⟩ := ofList_eq_ok_iff.mp made
    rw [← accepts.sameKind, ← same]
    rfl
  rw [kind] at made
  constructor
  case exported => rw [toBytes_eq stored, written]
  case chunks =>
    refine ⟨root, frozen, named, stored, ?_, uniform⟩
    rintro none
    have some : 1 ≤ list.chunks.length := within.1.1
    rw [← same] at some
    simp [listOf, none] at some
  case labelled =>
    refine ⟨_, ?_, fun tag other asked => relabelled_refused within made other asked⟩
    rw [← written, encode_list, ← same]
    rfl

end Transaction

end LedgerClient

/-! ## Two bytes, one after the other -/

namespace LedgerClient.Sample

open Transaction

def file : FileId :=
  EntityId.ofNumbers 0 0 5

def append : Transaction :=
  .ofPayload (.fileAppend file [1, 2])

def appendFrozen : Transaction :=
  (append.freezeWith (some client) (world [])).1.toOption.getD append

def appendBytes : Bytes :=
  appendFrozen.toBytes.toOption.getD []

def appendImported : Transaction :=
  (ofBytes none appendBytes).toOption.getD append

theorem append_read : ofBytes none appendBytes = .ok appendImported :=
  eq_ok_of_isSome append (by decide +kernel)

theorem append_reproduced :
    ofBytes none appendBytes = .ok appendImported ∧ appendImported.Reproduces appendBytes :=
  ⟨append_read, ofBytes_reproduces append_read⟩

end LedgerClient.Sample
