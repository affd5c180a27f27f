import LedgerClient.Proofs.Transaction.Interchange

/-!
What an imported transaction says about its bodies. It reports the fee, the memo and the validity of
the first of them, and nobody compares the others with it in this; nor is it compared which
transaction the parts of a message say they belong to. So what is reported is what all bodies say
exactly if they say the same, as those of a transaction do that was frozen here.
-/

namespace LedgerClient

open Limits

/-- What the data of a message says about its place among others. -/
def TransactionData.chunk? : TransactionData → Option ChunkInfo
  | topicMessageSubmit _ _ chunk => chunk
  | _ => none

namespace TransactionBody

/-- Offered for the same fee and time, with the same memo. -/
structure SameTerms (left right : TransactionBody) : Prop where
  maxFee : left.maxFee = right.maxFee
  memo : left.memo = right.memo
  validSeconds : left.validSeconds = right.validSeconds

/-- If the body is a part of a message, it says that this is the id of the first part. -/
def NamesRoot (body : TransactionBody) (root : TransactionId) : Prop :=
  ∀ info, body.data.chunk? = some info → info.initialId = root

end TransactionBody

namespace Transaction

variable {transaction imported : Transaction} {frozen : Frozen} {plan : BodyPlan}
  {kind : TransactionKind} {first head : TransactionBody} {others heads : List TransactionBody}
  {signed : List SignedTransaction}

/-- The body is among those that the transaction holds. -/
def HoldsBody (transaction : Transaction) (body : TransactionBody) : Prop :=
  ∃ signed ∈ transaction.bodies, signed.readBody = .ok body

instance (transaction : Transaction) (body : TransactionBody) :
    Decidable (transaction.HoldsBody body) :=
  inferInstanceAs (Decidable (∃ signed ∈ transaction.bodies, _))

/-- The body says what the transaction reports. -/
structure Reports (transaction : Transaction) (body : TransactionBody) : Prop where
  fee : transaction.offeredFee = some body.maxFee
  memo : transaction.memo = body.memo
  validDuration : transaction.validDuration.nanos = body.validSeconds.toNat * 1000000000
  root : 1 < transaction.chunkCount → ∀ root, transaction.id = some root → body.NamesRoot root

/-! ## The bodies of an imported transaction -/

theorem ReadAs.read (readAs : ReadAs kind signed head others) :
    ∀ held ∈ signed, ∃ body, held.readBody = .ok body := by
  intro held member
  obtain ⟨place, found⟩ := List.mem_iff_getElem?.mp member
  obtain ⟨body, -, read⟩ := forall₂_getElem? readAs.1.flip found
  exact ⟨body, read⟩

theorem readLaterChunks_read {nodes : List AccountId} {index : Nat}
    {chunks : List (List SignedTransaction)}
    (read : readLaterChunks kind first nodes index chunks = .ok heads) :
    ∀ held ∈ chunks.flatten, ∃ body, held.readBody = .ok body := by
  induction chunks generalizing index heads with
  | nil => exact fun _ member => absurd member List.not_mem_nil
  | cons signed rest ih =>
      obtain ⟨head, later, rfl, behind, readRest⟩ := readLaterChunks_cons_iff.mp read
      obtain ⟨bodies, readAs, -⟩ := behind.read
      rw [List.flatten_cons, List.forall_mem_append]
      exact ⟨readAs.read, ih readRest⟩

theorem bodies_assemble {payload : Payload} {nodes : List AccountId}
    {chunks : List (List SignedTransaction)} (lengths : chunks.length = heads.length) :
    (assemble payload first nodes chunks heads).bodies = chunks.flatten := by
  rw [bodies_eq rfl, Frozen.bodies, List.flatMap_def, map_signed_zipWith lengths]

/-- This is the first body of the first chunk. -/
def StartsWith (transaction : Transaction) (first : TransactionBody) : Prop :=
  ∃ signed, transaction.bodies.head? = some signed ∧ signed.readBody = .ok first

theorem StartsWith.holdsBody (starts : transaction.StartsWith first) :
    transaction.HoldsBody first := by
  obtain ⟨signed, inFront, read⟩ := starts
  exact ⟨signed, List.mem_of_mem_head? inFront, read⟩

/-- All bodies of an imported transaction can be read, and it was made of the first. -/
structure MadeOf (transaction : Transaction) (first : TransactionBody) : Prop where
  readable : ∀ held ∈ transaction.bodies, ∃ body, held.readBody = .ok body
  starts : transaction.StartsWith first
  id : transaction.id = some first.transactionId
  reported : transaction.offeredFee = some first.maxFee ∧ transaction.memo = first.memo ∧
    transaction.validDuration.nanos = first.validSeconds.toNat * 1000000000

theorem ofList_madeOf {list : TransactionList} (made : ofList kind list = .ok imported) :
    imported.bodies = list.chunks.flatten ∧ ∃ first, imported.MadeOf first := by
  obtain ⟨first, others, heads, payload, accepts, rfl⟩ := ofList_eq_ok_iff.mp made
  obtain ⟨signed, rest, chunks, readAs, readRest⟩ := accepts.read
  have readable := readLaterChunks_read readRest
  have bodies : (assemble payload first ((first :: others).map TransactionBody.node) list.chunks
      (first :: heads)).bodies = list.chunks.flatten :=
    bodies_assemble accepts.length
  refine ⟨bodies, first, ?_⟩
  constructor
  case readable =>
    rw [bodies, chunks, List.flatten_cons, List.forall_mem_append]
    exact ⟨readAs.read, readable⟩
  case starts =>
    have inFront : (first :: others)[0]? = some first := rfl
    obtain ⟨firstSigned, found, read⟩ := forall₂_getElem? readAs.1 inFront
    refine ⟨firstSigned, ?_, read⟩
    rw [bodies, chunks, List.flatten_cons, List.head?_append, List.head?_eq_getElem?, found]
    rfl
  case id => rfl
  case reported => exact ⟨rfl, rfl, nanos_ofSeconds first.validSeconds⟩

/-- A list that is taken can be read, with all that is in it. -/
theorem ofBytes_encode_eq_ok {asked : Option TransactionKind} {list : TransactionList}
    (read : ofBytes asked (Wire.encode list) = .ok imported) :
    list.Legible ∧ ofList (asked.getD list.kind) list = .ok imported := by
  obtain ⟨named, decoded, made⟩ := ofBytes_eq_ok_iff.mp read
  have within : Within list := Wire.decode_encode_iff.mp ⟨named, decoded⟩
  rw [Wire.decode_encode within] at decoded
  cases decoded
  obtain ⟨bodies, first, madeOf⟩ := ofList_madeOf made
  refine ⟨TransactionList.legible_iff.mpr ⟨⟨_, Wire.decode_encode within⟩, ?_⟩, made⟩
  intro chunk inList signed inChunk
  apply madeOf.readable
  rw [bodies]
  exact List.mem_flatten.mpr ⟨chunk, inList, inChunk⟩

/-- The first body is reported, so the others have to say the same. -/
theorem MadeOf.reports_iff (made : transaction.MadeOf first) :
    (∀ body, transaction.HoldsBody body → transaction.Reports body) ↔
      (∀ left right, transaction.HoldsBody left → transaction.HoldsBody right →
        left.SameTerms right) ∧
      (1 < transaction.chunkCount → ∀ root, transaction.id = some root →
        ∀ body, transaction.HoldsBody body → body.NamesRoot root) := by
  obtain ⟨fee, memo, validDuration⟩ := made.reported
  constructor
  · intro reports
    refine ⟨fun left right holdsLeft holdsRight => ?_, fun several root named body holds =>
      (reports body holds).root several root named⟩
    have leftReported := reports left holdsLeft
    have rightReported := reports right holdsRight
    refine ⟨?_, leftReported.memo.symm.trans rightReported.memo, ?_⟩
    · exact Option.some.inj (leftReported.fee.symm.trans rightReported.fee)
    · apply UInt64.toNat_inj.mp
      have seconds := leftReported.validDuration.symm.trans rightReported.validDuration
      omega
  · rintro ⟨same, roots⟩ body holds
    have terms := same first body made.starts.holdsBody holds
    refine ⟨?_, memo.trans terms.memo, ?_, fun several root named =>
      roots several root named body holds⟩
    · rw [fee, terms.maxFee]
    · rw [validDuration, terms.validSeconds]

/-! ## Transactions that were frozen here -/

theorem namesRoot_chunkData (payload : Payload) (chunking : ChunkingConfig) (root : TransactionId)
    (index : Nat) :
    ∀ info, (chunkData payload chunking root index).bare.chunk? = some info →
      info.initialId = root.bare := by
  cases payload with
  | topicMessageSubmit topic message =>
      intro info found
      change (Payload.chunkInfo _).map ChunkInfo.bare = some info at found
      unfold Payload.chunkInfo at found
      split at found
      · cases found
        rfl
      · cases found
  | _ =>
      intro info found
      cases found

theorem BodyPlan.holdsBody (grows : plan.unsigned.Grows frozen) {held : SignedTransaction}
    (member : held ∈ frozen.bodies) {body : TransactionBody} (read : held.readBody = .ok body) :
    ∃ index node, body = plan.readBody index node := by
  obtain ⟨chunk, inChunks, inChunk⟩ := List.mem_flatMap.mp member
  obtain ⟨index, found⟩ := List.mem_iff_getElem?.mp inChunks
  obtain ⟨place, inPlace⟩ := List.mem_iff_getElem?.mp inChunk
  obtain ⟨node, -, written⟩ := BodyPlan.grown_body (BodyPlan.grown_chunk grows found).2 inPlace
  exact ⟨index, node, BodyPlan.readBody_eq written read⟩

/-- Its bodies were written with one fee, memo and validity, under one id. -/
theorem Written.imported_reports (written : transaction.Written) {bytes : Bytes}
    (exported : transaction.toBytes = .ok bytes) {asked : Option TransactionKind}
    (read : ofBytes asked bytes = .ok imported) {body : TransactionBody}
    (holds : imported.HoldsBody body) : imported.Reports body := by
  cases stored : transaction.frozen with
  | none => simp [toBytes, stored] at exported
  | some frozen =>
      rw [toBytes_eq stored] at exported
      cases exported
      obtain ⟨legible, made⟩ := ofBytes_encode_eq_ok read
      obtain ⟨bodies, first, madeOf⟩ := ofList_madeOf made
      obtain ⟨root, named, grows⟩ := written frozen stored
      obtain ⟨returned, madeAgain, same⟩ := written.returned stored legible
      have kinds : asked.getD transaction.payload.kind = transaction.payload.kind := by
        obtain ⟨_, _, _, _, accepts, -⟩ := ofList_eq_ok_iff.mp made
        exact accepts.sameKind.symm
      change ofList (asked.getD transaction.payload.kind) (transaction.listOf frozen) = _ at made
      rw [kinds, madeAgain] at made
      cases made
      obtain ⟨held, member, readBody⟩ := holds
      rw [bodies] at member
      obtain ⟨index, node, rfl⟩ := BodyPlan.holdsBody grows
        (by rwa [Frozen.bodies, List.flatMap_def]) readBody
      constructor
      case fee =>
        rw [same.fee]
        simp only [offeredFee, stored]
        rfl
      case memo => exact same.memo
      case validDuration =>
        rw [same.validDuration]
        exact congrArg (· * 1000000000) (validSeconds_toNat transaction.validDuration).symm
      case root =>
        intro _ other namedOther
        rw [same.id, named] at namedOther
        cases namedOther
        exact namesRoot_chunkData _ _ _ _

/-- How far an imported transaction can be taken at its word. -/
structure Inspected (transaction : Transaction) (bytes : Bytes) : Prop where
  readable : ∀ held ∈ transaction.bodies, ∃ body, held.readBody = .ok body
  id : ∃ first, transaction.StartsWith first ∧ transaction.id = some first.transactionId
  exactly : (∀ body, transaction.HoldsBody body → transaction.Reports body) ↔
    (∀ left right, transaction.HoldsBody left → transaction.HoldsBody right →
      left.SameTerms right) ∧
    (1 < transaction.chunkCount → ∀ root, transaction.id = some root →
      ∀ body, transaction.HoldsBody body → body.NamesRoot root)
  own : ∀ payload operations, ((ofPayload payload).run operations).toBytes = .ok bytes →
    ∀ body, transaction.HoldsBody body → transaction.Reports body

/-- The id that is reported is that of the first body. The rest of what is reported is right for all
of the bodies exactly if these have the same fee, memo and validity, and parts of a message name
the id as that of the first part. -/
theorem ofBytes_inspected {asked : Option TransactionKind} {bytes : Bytes}
    (read : ofBytes asked bytes = .ok transaction) : transaction.Inspected bytes := by
  obtain ⟨list, -, made⟩ := ofBytes_eq_ok_iff.mp read
  obtain ⟨-, first, madeOf⟩ := ofList_madeOf made
  refine ⟨madeOf.readable, ⟨first, madeOf.starts, madeOf.id⟩, madeOf.reports_iff, ?own⟩
  case own =>
    intro payload operations exported body holds
    exact (run_carries payload operations).written.imported_reports exported read holds

end Transaction

end LedgerClient

/-! ## Two bodies with different fees -/

namespace LedgerClient.Sample

open Transaction

def offer (node : AccountId) (maxFee : UInt64) : TransactionBody where
  transactionId := TransactionId.make (EntityId.ofNumbers 0 0 1001) { seconds := 1000, nanos := 0 }
  node := node
  maxFee := maxFee
  validSeconds := 120
  memo := ""
  data := .transfer [{ account := EntityId.ofNumbers 0 0 1001, amount := -100 },
    { account := EntityId.ofNumbers 0 0 1002, amount := 100 }]

def cheap : TransactionBody := offer node 100

def costly : TransactionBody := offer (EntityId.ofNumbers 0 0 4) 5000000000

def uneven : TransactionList where
  kind := .transfer
  chunks := [[.ofBody cheap, .ofBody costly]]

def unevenImported : Transaction :=
  (ofBytes none (Wire.encode uneven)).toOption.getD message

theorem uneven_read : ofBytes none (Wire.encode uneven) = .ok unevenImported :=
  eq_ok_of_isSome message (by decide +kernel)

theorem uneven_inspected :
    ofBytes none (Wire.encode uneven) = .ok unevenImported ∧
      unevenImported.Inspected (Wire.encode uneven) :=
  ⟨uneven_read, ofBytes_inspected uneven_read⟩

/-- The transaction is taken and reports the lower fee, while one of its bodies offers the higher
one. -/
theorem uneven_misreported :
    ofBytes none (Wire.encode uneven) = .ok unevenImported ∧
      unevenImported.offeredFee = some 100 ∧ unevenImported.HoldsBody costly ∧
      ¬ unevenImported.Reports costly := by
  have reported : unevenImported.offeredFee = some 100 := by decide +kernel
  refine ⟨uneven_read, reported, by decide +kernel, fun reports => ?_⟩
  have fee := reports.fee
  rw [reported] at fee
  exact absurd (Option.some.inj fee) (by decide)

end LedgerClient.Sample
