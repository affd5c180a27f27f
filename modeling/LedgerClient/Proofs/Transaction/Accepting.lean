import LedgerClient.Proofs.Transaction.Import

/-!
When bytes are taken for a transaction, and which one. Each chunk is read on its own, and the first
body of a chunk speaks for it: the others are compared with it in their id and in what they ask for,
and it is the first bodies that the transaction is made of.
-/

namespace LedgerClient.Transaction

variable {kind : TransactionKind} {head first : TransactionBody} {nodes : List AccountId}
  {signed : List SignedTransaction} {transaction : Transaction}

/-- The bodies of a chunk, as far as they are compared. -/
def Alike (kind : TransactionKind) (head body : TransactionBody) : Prop :=
  body.data.kind = kind ∧ body.transactionId.same head.transactionId = true ∧
    body.data.same head.data = true

theorem checkBodies_eq_ok_iff {bodies : List TransactionBody} :
    checkBodies kind head bodies = .ok () ↔ ∀ body ∈ bodies, Alike kind head body := by
  induction bodies with
  | nil => simp [checkBodies]
  | cons body rest ih =>
      rw [List.forall_mem_cons, ← ih, checkBodies]
      by_cases named : body.data.kind = kind
      · rw [if_neg (not_not_intro named)]
        by_cases agree : (body.transactionId.same head.transactionId &&
            body.data.same head.data) = true
        · rw [if_pos agree]
          rw [Bool.and_eq_true] at agree
          exact ⟨fun rest => ⟨⟨named, agree⟩, rest⟩, And.right⟩
        · rw [if_neg agree]
          rw [Bool.and_eq_true] at agree
          constructor
          · intro passed
            cases passed
          · intro held
            exact absurd held.1.2 agree
      · rw [if_pos named]
        constructor
        · intro passed
          cases passed
        · intro held
          exact absurd held.1.1 named

/-- What the bodies of a chunk were read as, the first of them in front. -/
def ReadAs (kind : TransactionKind) (signed : List SignedTransaction) (head : TransactionBody)
    (others : List TransactionBody) : Prop :=
  List.Forall₂ (fun signed body => signed.readBody = .ok body) signed (head :: others) ∧
    ∀ body ∈ head :: others, Alike kind head body

theorem readChunk_eq_ok_iff :
    readChunk kind signed = .ok (head, nodes) ↔
      ∃ others, ReadAs kind signed head others ∧
        nodes = (head :: others).map TransactionBody.node := by
  have decoded : ∀ bodies : List TransactionBody,
      signed.mapM (fun signed => signed.readBody.mapError Error.invalidData) = .ok bodies ↔
        List.Forall₂ (fun signed body => signed.readBody = .ok body) signed bodies := by
    intro bodies
    rw [mapM_eq_ok_iff]
    simp only [mapError_eq_ok]
  constructor
  · intro read
    obtain ⟨bodies, found, rest⟩ := bind_eq_ok.mp read
    cases bodies with
    | nil => cases rest
    | cons body others =>
        obtain ⟨⟨⟩, checked, made⟩ := bind_eq_ok.mp rest
        cases made
        exact ⟨others, ⟨(decoded _).mp found, checkBodies_eq_ok_iff.mp checked⟩, rfl⟩
  · rintro ⟨others, ⟨found, alike⟩, rfl⟩
    refine bind_eq_ok.mpr ⟨head :: others, (decoded _).mpr found, ?_⟩
    exact bind_eq_ok.mpr ⟨(), checkBodies_eq_ok_iff.mpr alike, rfl⟩

/-- The chunk behind others at this place, whose first body is `head`. -/
structure Behind (kind : TransactionKind) (first : TransactionBody) (nodes : List AccountId)
    (index : Nat) (signed : List SignedTransaction) (head : TransactionBody) : Prop where
  read : ∃ others, ReadAs kind signed head others ∧
    sameNodes nodes ((head :: others).map TransactionBody.node) = true
  named : head.transactionId.same (chunkId first.transactionId index) = true

theorem readLaterChunks_nil_iff {index : Nat} {heads : List TransactionBody} :
    readLaterChunks kind first nodes index [] = .ok heads ↔ heads = [] := by
  simp [readLaterChunks, pure, Except.pure, eq_comm]

theorem readLaterChunks_cons_iff {index : Nat} {rest : List (List SignedTransaction)}
    {heads : List TransactionBody} :
    readLaterChunks kind first nodes index (signed :: rest) = .ok heads ↔
      ∃ head others, heads = head :: others ∧ Behind kind first nodes index signed head ∧
        readLaterChunks kind first nodes (index + 1) rest = .ok others := by
  constructor
  · intro read
    obtain ⟨⟨head, chunkNodes⟩, readHead, afterHead⟩ := bind_eq_ok.mp read
    obtain ⟨bodies, readAs, rfl⟩ := readChunk_eq_ok_iff.mp readHead
    simp only at afterHead
    split at afterHead
    · contradiction
    · rename_i listed
      split at afterHead
      · contradiction
      · rename_i ordered
        obtain ⟨others, readOthers, made⟩ := bind_eq_ok.mp afterHead
        cases made
        exact ⟨head, others, rfl, ⟨⟨bodies, readAs, by simpa using listed⟩,
          by simpa using ordered⟩, readOthers⟩
  · rintro ⟨head, others, rfl, ⟨⟨bodies, readAs, listed⟩, named⟩, readOthers⟩
    refine bind_eq_ok.mpr ⟨_, readChunk_eq_ok_iff.mpr ⟨bodies, readAs, rfl⟩, ?_⟩
    simp only [listed, named, Bool.not_true, Bool.false_eq_true, ↓reduceIte]
    exact bind_eq_ok.mpr ⟨others, readOthers, rfl⟩

/-- Each of the later chunks is read for itself, at its own place. -/
theorem readLaterChunks_eq_ok_iff {index : Nat} {chunks : List (List SignedTransaction)}
    {heads : List TransactionBody} :
    readLaterChunks kind first nodes index chunks = .ok heads ↔
      chunks.length = heads.length ∧ ∀ place signed head, chunks[place]? = some signed →
        heads[place]? = some head → Behind kind first nodes (index + place) signed head := by
  induction chunks generalizing index heads with
  | nil =>
      rw [readLaterChunks_nil_iff]
      constructor
      · rintro rfl
        exact ⟨rfl, by simp⟩
      · rintro ⟨lengths, -⟩
        exact List.length_eq_zero_iff.mp lengths.symm
  | cons signed rest ih =>
      rw [readLaterChunks_cons_iff]
      constructor
      · rintro ⟨head, others, rfl, behind, readRest⟩
        obtain ⟨lengths, each⟩ := ih.mp readRest
        refine ⟨congrArg Nat.succ lengths, ?_⟩
        intro place other otherHead found foundHead
        cases place with
        | zero =>
            cases found
            cases foundHead
            exact behind
        | succ place =>
            rw [Nat.add_comm place 1, ← Nat.add_assoc]
            exact each place other otherHead found foundHead
      · rintro ⟨lengths, each⟩
        cases heads with
        | nil => cases lengths
        | cons head others =>
            refine ⟨head, others, rfl, each 0 signed head rfl rfl, ih.mpr ⟨Nat.succ.inj lengths, ?_⟩⟩
            intro place other otherHead found foundHead
            rw [Nat.add_assoc, Nat.add_comm 1 place]
            exact each (place + 1) other otherHead found foundHead

/-- The transaction that is made of the first bodies of all chunks, where `first` is that of the
first chunk. -/
def assemble (payload : Payload) (first : TransactionBody) (nodes : List AccountId)
    (chunks : List (List SignedTransaction)) (heads : List TransactionBody) : Transaction :=
  { ofPayload payload with
    nodes := some nodes
    id := some first.transactionId
    maxFee := some first.maxFee
    validDuration := Duration.ofSeconds first.validSeconds.toNat
    memo := first.memo
    frozen := some
      { nodes, maxFee := first.maxFee, chunking := ChunkingConfig.standard
        chunks := chunks.zipWith
          (fun signed head => { id := head.transactionId, signed : FrozenChunk }) heads } }

theorem map_signed_zipWith {chunks : List (List SignedTransaction)} {heads : List TransactionBody}
    (lengths : chunks.length = heads.length) :
    (chunks.zipWith (fun signed head => { id := head.transactionId, signed : FrozenChunk })
      heads).map FrozenChunk.signed = chunks := by
  induction chunks generalizing heads with
  | nil => rfl
  | cons signed rest ih =>
      cases heads with
      | nil => cases lengths
      | cons head later =>
          rw [List.zipWith_cons_cons, List.map_cons, ih (Nat.succ.inj lengths)]

/-- All that is looked at in a list before a transaction is made of it. -/
structure Accepts (kind : TransactionKind) (list : TransactionList) (first : TransactionBody)
    (others heads : List TransactionBody) (payload : Payload) : Prop where
  sameKind : list.kind = kind
  read : ∃ signed rest, list.chunks = signed :: rest ∧ ReadAs kind signed first others ∧
    readLaterChunks kind first ((first :: others).map TransactionBody.node) 1 rest = .ok heads
  joined : Payload.ofChunks kind ((first :: heads).map TransactionBody.data) = .ok payload

/-- Each chunk has a first body. -/
theorem Accepts.length {list : TransactionList} {others heads : List TransactionBody}
    {payload : Payload} (accepts : Accepts kind list first others heads payload) :
    list.chunks.length = (first :: heads).length := by
  obtain ⟨signed, rest, chunks, -, readRest⟩ := accepts.read
  rw [chunks]
  exact congrArg Nat.succ (readLaterChunks_eq_ok_iff.mp readRest).1

theorem ofList_eq_ok_iff {list : TransactionList} :
    ofList kind list = .ok transaction ↔
      ∃ first others heads payload, Accepts kind list first others heads payload ∧
        transaction = assemble payload first ((first :: others).map TransactionBody.node)
          list.chunks (first :: heads) := by
  constructor
  · intro read
    simp only [ofList] at read
    split at read
    · contradiction
    · rename_i sameKind
      split at read
      · contradiction
      · rename_i signed rest chunks
        obtain ⟨⟨first, nodes⟩, readFirst, afterFirst⟩ := bind_eq_ok.mp read
        obtain ⟨others, readAs, rfl⟩ := readChunk_eq_ok_iff.mp readFirst
        obtain ⟨heads, readRest, afterRest⟩ := bind_eq_ok.mp afterFirst
        obtain ⟨payload, joined, made⟩ := bind_eq_ok.mp afterRest
        cases made
        exact ⟨first, others, heads, payload,
          ⟨not_not.mp sameKind, ⟨signed, rest, chunks, readAs, readRest⟩, joined⟩, rfl⟩
  · rintro ⟨first, others, heads, payload,
      ⟨sameKind, ⟨signed, rest, chunks, readAs, readRest⟩, joined⟩, rfl⟩
    simp only [ofList, sameKind, ne_eq, not_true_eq_false, ↓reduceIte, chunks]
    refine bind_eq_ok.mpr ⟨_, readChunk_eq_ok_iff.mpr ⟨others, readAs, rfl⟩, ?_⟩
    refine bind_eq_ok.mpr ⟨heads, readRest, ?_⟩
    exact bind_eq_ok.mpr ⟨payload, joined, rfl⟩

theorem ofBytes_eq_ok_iff {asked : Option TransactionKind} {bytes : Bytes} :
    ofBytes asked bytes = .ok transaction ↔
      ∃ list : TransactionList, Wire.decode bytes = .ok list ∧
        ofList (asked.getD list.kind) list = .ok transaction := by
  rw [ofBytes, bind_eq_ok]
  simp only [mapError_eq_ok]

end LedgerClient.Transaction
