import LedgerClient.Proofs.Wire.Canonical
import LedgerClient.Proofs.Wire.Messages

/-!
What is accepted from the wire. Whoever made the bytes, a value that is read from them is within the
limits of its type at every depth and has no checksums in its ids. As every value is also written
back as it was read, the bytes that are accepted are the encodings of such values and nothing else,
each of them for one value only.
-/

namespace LedgerClient

open Reader Limits

namespace Limits

/-- What every value is like that comes over the wire. -/
structure Carried {α : Type} [Limits α] (value : α) : Prop where
  within : Within value
  kept : bare value = value

end Limits

/-- A type of which the wire yields only such values. -/
class YieldsCarried (α : Type) [Wire α] [Limits α] : Prop where
  yields : (Wire.read : Reader α).Yields Carried

namespace Wire

variable {α : Type}

theorem yields [Wire α] [Limits α] [YieldsCarried α] : (Wire.read : Reader α).Yields Carried :=
  YieldsCarried.yields

/-! ## Types without limits -/

instance : YieldsCarried UInt8 := ⟨fun _ _ _ _ => ⟨trivial, rfl⟩⟩
instance : YieldsCarried UInt32 := ⟨fun _ _ _ _ => ⟨trivial, rfl⟩⟩
instance : YieldsCarried UInt64 := ⟨fun _ _ _ _ => ⟨trivial, rfl⟩⟩
instance : YieldsCarried Int64 := ⟨fun _ _ _ _ => ⟨trivial, rfl⟩⟩
instance : YieldsCarried Bool := ⟨fun _ _ _ _ => ⟨trivial, rfl⟩⟩
instance : YieldsCarried Signature := ⟨fun _ _ _ _ => ⟨trivial, rfl⟩⟩
instance : YieldsCarried TransactionKind := ⟨fun _ _ _ _ => ⟨trivial, rfl⟩⟩
instance : YieldsCarried ResponseType := ⟨fun _ _ _ _ => ⟨trivial, rfl⟩⟩

instance {kind : EntityKind} : YieldsCarried (EntityId kind) where
  yields := by
    refine yields.bind fun shard _ => ?_
    refine yields.bind fun realm _ => ?_
    refine yields.bind fun num _ => ?_
    exact yields_pure ⟨trivial, rfl⟩

theorem carried_some [Limits α] {item : α} (carried : Carried item) : Carried (some item) where
  within := by
    rintro _ ⟨⟩
    exact carried.within
  kept := congrArg some carried.kept

theorem carried_none [Limits α] : Carried (none : Option α) where
  within := by rintro _ ⟨⟩
  kept := rfl

instance [Wire α] [Limits α] [YieldsCarried α] : YieldsCarried (Option α) where
  yields := by
    refine yields.bind fun present _ => ?_
    cases present with
    | true => exact yields.bind fun item carried => yields_pure (carried_some carried)
    | false => exact yields_pure carried_none

/-! ## Lengths, lists and texts -/

theorem yields_length {least most : Nat} :
    (readLength least most).Yields fun length => least ≤ length ∧ length ≤ most := by
  have any : (readLengthFrom true 4).Yields fun _ => True := fun _ _ _ _ => trivial
  refine any.bind fun length _ => ?_
  split
  · rename_i between
    exact yields_pure between
  · exact yields_fail

theorem yields_take {count : Nat} : (take count).Yields fun taken => taken.length = count :=
  fun _ _ _ read => (run_take_eq_ok read).1

theorem yields_octets {most : Nat} :
    (readOctets most).Yields fun octets => octets.length ≤ most := by
  refine yields_length.bind fun length between => ?_
  refine yields_take.mono fun taken size => ?_
  rw [size]
  exact between.2

/-- What holds of each item holds of all that are read one after the other. -/
theorem yields_times {item : Reader α} {sort : α → Prop} (each : item.Yields sort) (count : Nat) :
    (readTimes item count).Yields fun items =>
      items.length = count ∧ ∀ value ∈ items, sort value := by
  induction count with
  | zero => exact yields_pure ⟨rfl, fun _ member => absurd member List.not_mem_nil⟩
  | succ count ih =>
      refine each.bind fun first holds => ?_
      refine ih.bind fun others sound => ?_
      obtain ⟨size, rest⟩ := sound
      refine yields_pure ⟨congrArg Nat.succ size, ?_⟩
      rintro value (_ | ⟨_, member⟩)
      · exact holds
      · exact rest value member

theorem yields_items {item : Reader α} {sort : α → Prop} (each : item.Yields sort)
    {least most : Nat} :
    (readList item least most).Yields fun items =>
      (least ≤ items.length ∧ items.length ≤ most) ∧ ∀ value ∈ items, sort value := by
  refine yields_length.bind fun length between => ?_
  refine (yields_times each length).mono fun items sound => ?_
  obtain ⟨rfl, every⟩ := sound
  exact ⟨between, every⟩

theorem map_bare [Limits α] {items : List α} (carried : ∀ item ∈ items, Carried item) :
    items.map bare = items := by
  have kept : items.map bare = items.map id :=
    List.map_congr_left fun item member => (carried item member).kept
  rw [kept, List.map_id]

theorem yields_list [Wire α] [Limits α] [YieldsCarried α] {least most : Nat} :
    (readList (Wire.read : Reader α) least most).Yields fun items =>
      Several least most items ∧ items.map bare = items := by
  refine (yields_items yields).mono fun items sound => ?_
  obtain ⟨between, carried⟩ := sound
  exact ⟨⟨between, fun item member => (carried item member).within⟩, map_bare carried⟩

theorem yields_text : (readText TransactionData.longestMemo).Yields ShortText := by
  have block : (readBlock TransactionData.longestMemo).Yields fun block =>
      block.length ≤ TransactionData.longestMemo := by
    refine yields.bind fun length _ => ?_
    split
    · exact yields_fail
    · rename_i fits
      refine yields_take.mono fun taken size => ?_
      rw [size]
      exact Nat.le_of_not_lt fits
  refine block.bind fun bytes short => ?_
  split
  · rename_i text found
    refine yields_pure ?_
    rw [ShortText, Bytes.ofText_of_text? found]
    exact short
  · exact yields_fail

/-! ## Keys, moments and statuses -/

instance : YieldsCarried PublicKey where
  yields := by
    have any : (readExactly 32).Yields fun _ => True := fun _ _ _ _ => trivial
    refine any.bind fun taken _ => ?_
    dsimp only
    split
    · rename_i point
      exact yields_pure ⟨point, rfl⟩
    · exact yields_fail

instance : YieldsCarried Timestamp where
  yields := by
    refine yields.bind fun seconds _ => ?_
    refine yields.bind fun nanos _ => ?_
    split
    · exact yields_fail
    · rename_i proper
      exact yields_pure ⟨Nat.not_le.mp proper, rfl⟩

end Wire

namespace Status

theorem recognized_ofCode (code : UInt32) : Recognized (ofCode code) := by
  have named : ∀ entry ∈ named, Recognized entry.1 := by
    have recognized : ∀ entry ∈ named, entry.1.isRecognized = true := by decide
    intro entry member
    have known := recognized entry member
    generalize entry.1 = status at known
    cases status with
    | unrecognized code => simp [isRecognized] at known
    | _ => trivial
  unfold ofCode
  split
  · rename_i entry found
    exact named entry (List.mem_of_find?_eq_some found)
  · rename_i missing
    intro entry member same
    have different := List.find?_eq_none.mp missing entry member
    exact different (by simpa using same)

end Status

open Wire

instance : YieldsCarried Status where
  yields := yields.bind fun code _ => yields_pure ⟨Status.recognized_ofCode code, rfl⟩

/-! ## Transactions -/

instance : YieldsCarried TransactionId where
  yields := by
    refine yields.bind fun payer payerCarried => ?_
    refine yields.bind fun validStart startCarried => ?_
    refine yields.bind fun scheduled _ => ?_
    refine yields.bind fun nonce _ => ?_
    refine yields_pure ⟨startCarried.within, ?_⟩
    exact congrArg (TransactionId.mk · validStart scheduled nonce) payerCarried.kept

instance : YieldsCarried ChunkInfo where
  yields := by
    refine yields.bind fun initialId carried => ?_
    refine yields.bind fun number _ => ?_
    refine yields.bind fun total _ => ?_
    split
    · exact yields_fail
    · rename_i placed
      simp only [Bool.or_eq_true, decide_eq_true_eq, not_or, gt_iff_lt, UInt32.not_lt,
        UInt32.le_iff_toNat_le, ← UInt32.toNat_inj] at placed
      obtain ⟨nonzero, inside⟩ := placed
      refine yields_pure ⟨⟨carried.within, Nat.pos_of_ne_zero nonzero, inside⟩, ?_⟩
      exact congrArg (ChunkInfo.mk · number total) carried.kept

instance : YieldsCarried AccountAmount where
  yields := by
    refine yields.bind fun account carried => ?_
    refine yields.bind fun amount _ => ?_
    exact yields_pure ⟨trivial, congrArg (AccountAmount.mk · amount) carried.kept⟩

namespace TransactionData

/-- Data that a schedule may wrap. -/
def Wrapped (data : TransactionData) : Prop :=
  data.kind ≠ .scheduleCreate ∧ Carried data

/-- The data that a schedule wraps has to be of its own sort for the schedule to be carried. -/
theorem yields_fields {scheduled : Reader TransactionData} (inner : scheduled.Yields Wrapped)
    (kind : TransactionKind) :
    (readFields scheduled kind).Yields fun data => data.kind = kind ∧ Carried data := by
  cases kind with
  | transfer =>
      refine yields_list.bind fun transfers sound => ?_
      obtain ⟨several, kept⟩ := sound
      exact yields_pure ⟨rfl, several, congrArg TransactionData.transfer kept⟩
  | accountCreate =>
      refine yields.bind fun key point => ?_
      refine yields.bind fun balance _ => ?_
      refine yields_text.bind fun memo short => ?_
      exact yields_pure ⟨rfl, ⟨point.within, short⟩, rfl⟩
  | fileAppend =>
      refine yields.bind fun file carried => ?_
      refine yields_octets.bind fun contents short => ?_
      refine yields_pure ⟨rfl, short, ?_⟩
      exact congrArg (TransactionData.fileAppend · contents) carried.kept
  | topicMessageSubmit =>
      refine yields.bind fun topic topicCarried => ?_
      refine yields_octets.bind fun message short => ?_
      refine yields.bind fun chunk chunkCarried => ?_
      refine yields_pure ⟨rfl, ⟨short, chunkCarried.within⟩, ?_⟩
      exact congrArg₂ (TransactionData.topicMessageSubmit · message ·) topicCarried.kept
        chunkCarried.kept
  | scheduleCreate =>
      refine yields.bind fun fee _ => ?_
      refine yields_text.bind fun scheduledMemo shortInner => ?_
      refine inner.bind fun wrapped sound => ?_
      refine yields.bind fun payer payerCarried => ?_
      refine yields_text.bind fun memo short => ?_
      obtain ⟨single, carried⟩ := sound
      refine yields_pure ⟨rfl, ⟨shortInner, ⟨single, carried.within⟩, short⟩, ?_⟩
      exact congrArg₂ (TransactionData.scheduleCreate fee scheduledMemo · · memo) carried.kept
        payerCarried.kept
  | scheduleSign =>
      refine yields.bind fun schedule carried => ?_
      exact yields_pure ⟨rfl, trivial, congrArg TransactionData.scheduleSign carried.kept⟩

theorem yields_scheduled : readScheduled.Yields Wrapped := by
  refine yields.bind fun kind _ => ?_
  split
  · exact yields_fail
  · rename_i single
    refine (yields_fields yields_fail kind).mono fun data sound => ?_
    obtain ⟨rfl, carried⟩ := sound
    exact ⟨single, carried⟩

end TransactionData

instance : YieldsCarried TransactionData where
  yields := yields.bind fun kind _ =>
    (TransactionData.yields_fields TransactionData.yields_scheduled kind).mono
      fun _ sound => sound.2

instance : YieldsCarried SchedulableBody where
  yields := by
    refine yields.bind fun maxFee _ => ?_
    refine yields_text.bind fun memo short => ?_
    refine TransactionData.yields_scheduled.bind fun data sound => ?_
    obtain ⟨single, carried⟩ := sound
    refine yields_pure ⟨⟨short, single, carried.within⟩, ?_⟩
    exact congrArg (SchedulableBody.mk maxFee memo) carried.kept

instance : YieldsCarried TransactionBody where
  yields := by
    refine yields.bind fun id idCarried => ?_
    refine yields.bind fun node nodeCarried => ?_
    refine yields.bind fun maxFee _ => ?_
    refine yields.bind fun validSeconds _ => ?_
    refine yields_text.bind fun memo short => ?_
    refine yields.bind fun data dataCarried => ?_
    refine yields_pure ⟨⟨idCarried.within, short, dataCarried.within⟩, ?_⟩
    change TransactionBody.mk (bare id) (bare node) maxFee validSeconds memo (bare data) = _
    rw [idCarried.kept, nodeCarried.kept, dataCarried.kept]

instance : YieldsCarried SignaturePair where
  yields := by
    refine yields.bind fun key point => ?_
    refine yields.bind fun signature _ => ?_
    exact yields_pure ⟨point.within, rfl⟩

instance : YieldsCarried SignedTransaction where
  yields := by
    refine yields_octets.bind fun body short => ?_
    refine yields_list.bind fun signatures sound => ?_
    exact yields_pure ⟨⟨short, sound.1⟩, rfl⟩

instance : YieldsCarried SubmitResponse where
  yields := by
    refine yields.bind fun precheck carried => ?_
    refine yields.bind fun cost _ => ?_
    exact yields_pure ⟨carried.within, rfl⟩

instance : YieldsCarried TransactionList where
  yields := by
    refine yields.bind fun kind _ => ?_
    refine (yields_items yields_list).bind fun chunks sound => ?_
    obtain ⟨between, each⟩ := sound
    exact yields_pure ⟨⟨between, fun chunk member => (each chunk member).1⟩, rfl⟩

/-! ## Receipts, questions and answers -/

instance : YieldsCarried Receipt where
  yields := by
    refine yields.bind fun status statusCarried => ?_
    refine yields.bind fun account accountCarried => ?_
    refine yields.bind fun file fileCarried => ?_
    refine yields.bind fun topic topicCarried => ?_
    refine yields.bind fun schedule scheduleCarried => ?_
    refine yields.bind fun number _ => ?_
    refine yields.bind fun scheduledId idCarried => ?_
    refine yields_pure ⟨⟨statusCarried.within, idCarried.within⟩, ?_⟩
    change Receipt.mk status (bare account) (bare file) (bare topic) (bare schedule) number
      (bare scheduledId) = _
    rw [accountCarried.kept, fileCarried.kept, topicCarried.kept, scheduleCarried.kept,
      idCarried.kept]

instance : YieldsCarried QueryHeader where
  yields := by
    refine yields.bind fun payment carried => ?_
    refine yields.bind fun responseType _ => ?_
    exact yields_pure ⟨carried.within, rfl⟩

instance : YieldsCarried QueryData where
  yields := by
    refine yields.bind fun tag _ => ?_
    split
    · refine yields.bind fun id carried => ?_
      exact yields_pure ⟨carried.within, congrArg QueryData.receipt carried.kept⟩
    · split
      · refine yields.bind fun account carried => ?_
        exact yields_pure ⟨trivial, congrArg QueryData.balance carried.kept⟩
      · split
        · refine yields.bind fun account carried => ?_
          exact yields_pure ⟨trivial, congrArg QueryData.info carried.kept⟩
        · exact yields_fail

instance : YieldsCarried QueryRequest where
  yields := by
    refine yields.bind fun header headerCarried => ?_
    refine yields.bind fun data dataCarried => ?_
    refine yields_pure ⟨⟨headerCarried.within, dataCarried.within⟩, ?_⟩
    exact congrArg (QueryRequest.mk header) dataCarried.kept

instance : YieldsCarried AccountBalance where
  yields := by
    refine yields.bind fun account carried => ?_
    refine yields.bind fun balance _ => ?_
    exact yields_pure ⟨trivial, congrArg (AccountBalance.mk · balance) carried.kept⟩

instance : YieldsCarried AccountInfo where
  yields := by
    refine yields.bind fun account carried => ?_
    refine yields.bind fun key point => ?_
    refine yields.bind fun balance _ => ?_
    refine yields.bind fun deleted _ => ?_
    refine yields_text.bind fun memo short => ?_
    refine yields_pure ⟨⟨point.within, short⟩, ?_⟩
    exact congrArg (AccountInfo.mk · key balance deleted memo) carried.kept

instance : YieldsCarried QueryAnswer where
  yields := by
    refine yields.bind fun tag _ => ?_
    split
    · refine yields.bind fun answer carried => ?_
      exact yields_pure ⟨carried.within, congrArg QueryAnswer.receipt carried.kept⟩
    · split
      · refine yields.bind fun answer carried => ?_
        exact yields_pure ⟨carried.within, congrArg QueryAnswer.balance carried.kept⟩
      · split
        · refine yields.bind fun answer carried => ?_
          exact yields_pure ⟨carried.within, congrArg QueryAnswer.info carried.kept⟩
        · exact yields_fail

instance : YieldsCarried QueryResponse where
  yields := by
    refine yields.bind fun precheck precheckCarried => ?_
    refine yields.bind fun cost _ => ?_
    refine yields.bind fun answer answerCarried => ?_
    refine yields_pure ⟨⟨precheckCarried.within, answerCarried.within⟩, ?_⟩
    exact congrArg (QueryResponse.mk precheck cost) answerCarried.kept

/-! ## All types -/

namespace Wire

/-- Bytes are accepted for a value exactly if they are its encoding and the value is one that the
wire carries. -/
def AcceptsExactly (α : Type) [Wire α] [Limits α] : Prop :=
  ∀ (bytes : Bytes) (value : α), Wire.decode bytes = .ok value ↔
    Wire.encode value = bytes ∧ Within value ∧ bare value = value

theorem acceptsExactly {α : Type} [Wire α] [Limits α] [CanonicalWire α] [YieldsCarried α]
    [ReadsBack α] : AcceptsExactly α := by
  intro bytes value
  constructor
  · intro accepted
    have carried : Carried value := Yields.decode yields accepted
    exact ⟨encode_decoded accepted, carried.within, carried.kept⟩
  · rintro ⟨rfl, within, kept⟩
    rw [decode_encode within, kept]

/-- No message can be written in two ways, and none is accepted beyond its limits. -/
theorem messages_acceptsExactly :
    AcceptsExactly Timestamp ∧ AcceptsExactly TransactionId ∧ AcceptsExactly ChunkInfo ∧
    AcceptsExactly AccountAmount ∧ AcceptsExactly TransactionKind ∧
    AcceptsExactly TransactionData ∧ AcceptsExactly SchedulableBody ∧
    AcceptsExactly TransactionBody ∧ AcceptsExactly SignaturePair ∧
    AcceptsExactly SignedTransaction ∧ AcceptsExactly SubmitResponse ∧
    AcceptsExactly TransactionList ∧ AcceptsExactly Receipt ∧ AcceptsExactly Status ∧
    AcceptsExactly ResponseType ∧ AcceptsExactly QueryHeader ∧ AcceptsExactly QueryData ∧
    AcceptsExactly QueryRequest ∧ AcceptsExactly AccountBalance ∧ AcceptsExactly AccountInfo ∧
    AcceptsExactly QueryAnswer ∧ AcceptsExactly QueryResponse ∧
    ∀ kind, AcceptsExactly (EntityId kind) := by
  refine ⟨?_, ?_, ?_, ?_, ?_, ?_, ?_, ?_, ?_, ?_, ?_, ?_, ?_, ?_, ?_, ?_, ?_, ?_, ?_, ?_, ?_, ?_,
    fun kind => ?_⟩
  all_goals exact acceptsExactly

end Wire

end LedgerClient
