import LedgerClient.Proofs.Transaction.Reexport

/-!
The checksums of the ids in a payload. Looking at the checksums of a payload finds one that does not
belong to its id exactly if there is one, wherever the id stands, also inside of what a schedule
carries out. What was imported has no checksums at all, as they do not go over the wire.
-/

namespace LedgerClient

open Limits

variable {kind : EntityKind} {id : EntityId kind} {ledger : LedgerId} {cause : ChecksumMismatch}

namespace EntityId

/-- The id was written with a checksum that is not its own on the ledger, as `cause` says. -/
def Mismatches (id : EntityId kind) (ledger : LedgerId) (cause : ChecksumMismatch) : Prop :=
  ∃ given, id.checksum = some given ∧ given.text ≠ Checksum.expected ledger id.text ∧
    cause =
      { address := id.text, given := given.text, expected := Checksum.expected ledger id.text
        ledger }

/-- The id was written without a checksum, or with its own on the ledger. -/
def Belongs (id : EntityId kind) (ledger : LedgerId) : Prop :=
  ∀ given, id.checksum = some given → given.text = Checksum.expected ledger id.text

theorem validateChecksum_eq_error_iff :
    id.validateChecksum ledger = .error cause ↔ id.Mismatches ledger cause := by
  unfold validateChecksum Checksum.validate Mismatches
  cases id.checksum with
  | none => simp
  | some given =>
      by_cases right : given.text = Checksum.expected ledger id.text
      · simp [right]
      · simp [right, eq_comm]

theorem validateChecksum_eq_ok_iff : id.validateChecksum ledger = .ok () ↔ id.Belongs ledger := by
  unfold validateChecksum Checksum.validate Belongs
  cases id.checksum with
  | none => simp
  | some given => simp

theorem Mismatches.not_belongs (wrong : id.Mismatches ledger cause) : ¬ id.Belongs ledger := by
  obtain ⟨given, written, foreign, -⟩ := wrong
  exact fun belongs => foreign (belongs given written)

theorem not_mismatches_of_bare (bare : id.checksum = none) : ¬ id.Mismatches ledger cause := by
  rintro ⟨given, written, -⟩
  rw [bare] at written
  cases written

end EntityId

/-! ## Where the ids stand -/

/-- An id that stands in the data of a transaction, or in what it schedules. -/
inductive TransactionData.Embeds :
    TransactionData → {kind : EntityKind} → EntityId kind → Prop
  | account {transfers : List AccountAmount} {entry : AccountAmount}
      (listed : entry ∈ transfers) : Embeds (.transfer transfers) entry.account
  | file (file : FileId) (contents : Bytes) : Embeds (.fileAppend file contents) file
  | topic (topic : TopicId) (message : Bytes) (chunk : Option ChunkInfo) :
      Embeds (.topicMessageSubmit topic message chunk) topic
  | payer (fee : UInt64) (inner : String) (data : TransactionData) (payer : AccountId)
      (memo : String) : Embeds (.scheduleCreate fee inner data (some payer) memo) payer
  | scheduled {data : TransactionData} {kind : EntityKind} {id : EntityId kind}
      (embeds : Embeds data id) (fee : UInt64) (inner : String) (payer : Option AccountId)
      (memo : String) : Embeds (.scheduleCreate fee inner data payer memo) id
  | schedule (schedule : ScheduleId) : Embeds (.scheduleSign schedule) schedule

/-- An id of any kind. -/
abbrev AnyId := (kind : EntityKind) × EntityId kind

namespace TransactionData

variable {data : TransactionData}

/-- The ids in the data, in the order in which their checksums are looked at: the payer of a schedule
before what it schedules, and the accounts of a transfer as they are listed. -/
def ids : TransactionData → List AnyId
  | transfer transfers => transfers.map fun entry => ⟨.account, entry.account⟩
  | accountCreate .. => []
  | fileAppend file _ => [⟨.file, file⟩]
  | topicMessageSubmit topic _ _ => [⟨.topic, topic⟩]
  | scheduleCreate _ _ scheduled payer _ => payer.toList.map (⟨.account, ·⟩) ++ scheduled.ids
  | scheduleSign schedule => [⟨.schedule, schedule⟩]

theorem embeds_of_mem (listed : ⟨kind, id⟩ ∈ data.ids) : data.Embeds id := by
  induction data with
  | transfer transfers =>
      obtain ⟨entry, member, same⟩ := List.mem_map.mp listed
      cases same
      exact .account member
  | accountCreate _ _ _ => cases listed
  | fileAppend file contents =>
      cases List.mem_singleton.mp listed
      exact .file file contents
  | topicMessageSubmit topic message chunk =>
      cases List.mem_singleton.mp listed
      exact .topic topic message chunk
  | scheduleSign schedule =>
      cases List.mem_singleton.mp listed
      exact .schedule schedule
  | scheduleCreate fee inner data payer memo ih =>
      rcases List.mem_append.mp listed with paying | inside
      · obtain ⟨payer, given, same⟩ := List.mem_map.mp paying
        cases same
        cases Option.mem_toList.mp given
        exact .payer fee inner data payer memo
      · exact .scheduled (ih inside) fee inner payer memo

theorem mem_ids_iff : ⟨kind, id⟩ ∈ data.ids ↔ data.Embeds id := by
  refine ⟨embeds_of_mem, fun embeds => ?_⟩
  induction embeds with
  | account listed => exact List.mem_map_of_mem listed
  | file _ _ | topic _ _ _ | schedule _ => exact List.mem_singleton_self _
  | payer _ _ _ _ _ => exact List.mem_cons_self
  | scheduled _ _ _ _ _ ih => exact List.mem_append_right _ ih

theorem validateChecksums_eq_forM (data : TransactionData) :
    data.validateChecksums ledger = data.ids.forM fun id => id.2.validateChecksum ledger := by
  induction data with
  | transfer transfers =>
      induction transfers with
      | nil => rfl
      | cons entry rest ih => exact congrArg (entry.account.validateChecksum ledger >>= fun _ => ·) ih
  | accountCreate _ _ _ => rfl
  | fileAppend _ _ | topicMessageSubmit _ _ _ | scheduleSign _ => exact (bind_pure _).symm
  | scheduleCreate _ _ scheduled payer _ ih =>
      cases payer with
      | none => exact ih
      | some payer => exact congrArg (payer.validateChecksum ledger >>= fun _ => ·) ih

/-- Each checksum that is in the data is looked at. -/
theorem validateChecksums_checks (passed : data.validateChecksums ledger = .ok ())
    (embeds : data.Embeds id) : id.validateChecksum ledger = .ok () := by
  rw [validateChecksums_eq_forM] at passed
  exact forM_eq_ok_iff.mp passed ⟨kind, id⟩ (mem_ids_iff.mpr embeds)

/-- What is reported is a checksum that is in the data. -/
theorem validateChecksums_reports (failed : data.validateChecksums ledger = .error cause) :
    ∃ (kind : EntityKind) (id : EntityId kind), data.Embeds id ∧ id.Mismatches ledger cause := by
  rw [validateChecksums_eq_forM] at failed
  obtain ⟨before, ⟨kind, id⟩, after, split, -, wrong⟩ := forM_eq_error_iff.mp failed
  have listed : ⟨kind, id⟩ ∈ data.ids := split ▸ List.mem_append_right before List.mem_cons_self
  exact ⟨kind, id, embeds_of_mem listed, EntityId.validateChecksum_eq_error_iff.mp wrong⟩

theorem checksum_of_bare (embeds : data.Embeds id) (bare : data.bare = data) :
    id.checksum = none := by
  induction embeds with
  | @account transfers entry listed =>
      have kept : transfers.map AccountAmount.bare = transfers := transfer.inj bare
      have same : entry.bare = entry :=
        List.map_eq_map_iff.mp (kept.trans (List.map_id _).symm) entry listed
      rw [← same]
      rfl
  | file file contents =>
      rw [← (fileAppend.inj bare).1]
      rfl
  | topic topic message chunk =>
      rw [← (topicMessageSubmit.inj bare).1]
      rfl
  | payer fee inner data payer memo =>
      have same : payer.bare = payer := Option.some.inj (scheduleCreate.inj bare).2.2.2.1
      rw [← same]
      rfl
  | scheduled _ _ _ _ _ ih => exact ih (scheduleCreate.inj bare).2.2.1
  | schedule schedule =>
      rw [← scheduleSign.inj bare]
      rfl

end TransactionData

namespace Payload

variable {payload : Payload}

/-- An id that stands in a payload, or in what it schedules. -/
def Embeds (payload : Payload) (id : EntityId kind) : Prop :=
  (payload.data none).Embeds id

/-- Splitting a content into chunks changes nothing about the ids that are looked at. -/
theorem validateChecksums_eq (payload : Payload) (chunk : Option Chunk) :
    payload.validateChecksums ledger = (payload.data chunk).validateChecksums ledger := by
  cases payload <;> cases chunk <;> rfl

/-- A wrong checksum anywhere in a payload is found, and what is reported is one of them. -/
theorem validateChecksums_finds (embeds : payload.Embeds id) (wrong : id.Mismatches ledger cause) :
    ∃ reported, payload.validateChecksums ledger = .error reported ∧
      ∃ (kind : EntityKind) (other : EntityId kind), payload.Embeds other ∧
        other.Mismatches ledger reported := by
  rw [validateChecksums_eq payload none]
  cases checked : (payload.data none).validateChecksums ledger with
  | ok value =>
      have passed := TransactionData.validateChecksums_checks checked embeds
      exact absurd (EntityId.validateChecksum_eq_ok_iff.mp passed) wrong.not_belongs
  | error reported => exact ⟨reported, rfl, TransactionData.validateChecksums_reports checked⟩

/-! ## Imported payloads -/

variable {chunks : List TransactionData}

theorem joinFile_file {file : Option FileId} {contents : Bytes}
    (joined : joinFile file contents chunks = .ok payload) :
    ∃ given whole, payload = .fileAppend given whole ∧
      (file = some given ∨ ∃ part, .fileAppend given part ∈ chunks) := by
  induction chunks generalizing file contents with
  | nil =>
      simp only [joinFile] at joined
      split at joined <;> cases joined
      exact ⟨_, _, rfl, .inl rfl⟩
  | cons data rest ih =>
      obtain ⟨next, part, rfl, later⟩ := joinFile_cons_eq_ok joined
      obtain ⟨given, whole, made, known | ⟨other, member⟩⟩ := ih later
      · refine ⟨given, whole, made, ?_⟩
        cases file with
        | none =>
            cases known
            exact .inr ⟨part, List.mem_cons_self⟩
        | some file => exact .inl known
      · exact ⟨given, whole, made, .inr ⟨other, List.mem_cons_of_mem _ member⟩⟩

theorem joinMessage_topic {total index : Nat} {topic : Option TopicId} {message : Bytes}
    (joined : joinMessage total index topic message chunks = .ok payload) :
    ∃ given whole, payload = .topicMessageSubmit given whole ∧
      (topic = some given ∨ ∃ part info, .topicMessageSubmit given part info ∈ chunks) := by
  induction chunks generalizing index topic message with
  | nil =>
      simp only [joinMessage] at joined
      split at joined <;> cases joined
      exact ⟨_, _, rfl, .inl rfl⟩
  | cons data rest ih =>
      obtain ⟨next, part, info, rfl, -, later⟩ := joinMessage_cons_eq_ok joined
      obtain ⟨given, whole, made, known | ⟨other, place, member⟩⟩ := ih later
      · refine ⟨given, whole, made, ?_⟩
        cases topic with
        | none =>
            cases known
            exact .inr ⟨part, info, List.mem_cons_self⟩
        | some topic => exact .inl known
      · exact ⟨given, whole, made, .inr ⟨other, place, List.mem_cons_of_mem _ member⟩⟩

/-- Each id in a payload that was put together stands in the data of one of the chunks. -/
theorem ofChunks_embeds {made : TransactionKind} (joined : ofChunks made chunks = .ok payload)
    (embeds : payload.Embeds id) : ∃ data ∈ chunks, data.Embeds id := by
  cases made with
  | fileAppend =>
      obtain ⟨given, whole, rfl, absent | ⟨part, member⟩⟩ := joinFile_file joined
      · cases absent
      · cases embeds
        exact ⟨_, member, .file given part⟩
  | topicMessageSubmit =>
      obtain ⟨given, whole, rfl, absent | ⟨part, info, member⟩⟩ := joinMessage_topic joined
      · cases absent
      · cases embeds
        exact ⟨_, member, .topic given part info⟩
  | _ =>
      obtain ⟨data, alone, made⟩ := bind_eq_ok.mp joined
      have only : chunks = [data] := by
        unfold single at alone
        split at alone <;> cases alone
        rfl
      cases data <;> cases made
      exact ⟨_, by rw [only]; exact List.mem_singleton_self _, embeds⟩

end Payload

/-- No id in an imported payload has a checksum. -/
theorem Transaction.ofBytes_checksum {asked : Option TransactionKind} {bytes : Bytes}
    {transaction : Transaction} (read : ofBytes asked bytes = .ok transaction)
    (embeds : transaction.payload.Embeds id) : id.checksum = none := by
  obtain ⟨list, -, made⟩ := ofBytes_eq_ok_iff.mp read
  obtain ⟨first, others, heads, payload, accepts, rfl⟩ := ofList_eq_ok_iff.mp made
  obtain ⟨signed, rest, -, readAs, readRest⟩ := accepts.read
  obtain ⟨lengths, behind⟩ := readLaterChunks_eq_ok_iff.mp readRest
  have bare : ∀ head ∈ first :: heads, head.data.bare = head.data := by
    intro head member
    have kept : head.bare = head := by
      rcases List.mem_cons.mp member with rfl | later
      · exact (readAs.carried head List.mem_cons_self).kept
      · obtain ⟨place, inside, found⟩ := List.mem_iff_getElem.mp later
        have inRest : place < rest.length := lengths ▸ inside
        obtain ⟨bodies, readLater, -⟩ := (behind place rest[place] head
          (List.getElem?_eq_getElem inRest) (found ▸ List.getElem?_eq_getElem inside)).read
        exact (readLater.carried head List.mem_cons_self).kept
    exact congrArg TransactionBody.data kept
  obtain ⟨data, member, embedded⟩ := Payload.ofChunks_embeds accepts.joined embeds
  obtain ⟨head, inHeads, rfl⟩ := List.mem_map.mp member
  exact TransactionData.checksum_of_bare embedded (bare head inHeads)

end LedgerClient

namespace LedgerClient.Sample

def guardedClient : Client :=
  { client with validatesChecksums := true }

/-- An account with a checksum that is too long for any ledger. -/
def suspect : AccountId :=
  { shard := 0, realm := 0, num := 123
    checksum := some { letters := ['r', 'm', 'k', 'y', 'k', 'd'], wellFormed := by decide } }

theorem suspect_mismatches (ledger : LedgerId) : ∃ cause, suspect.Mismatches ledger cause := by
  refine ⟨_, _, rfl, ?_, rfl⟩
  intro same
  have letters := congrArg List.length (String.ofList_injective same)
  simp [Checksum.lettersOf] at letters

end LedgerClient.Sample
