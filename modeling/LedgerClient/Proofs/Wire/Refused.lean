import LedgerClient.Proofs.Wire.Accepted
import LedgerClient.Proofs.Wire.Lengths

/-!
What is refused of the encodings that there are. Anything can be written, also what is beyond the
limits; it is then refused wherever it is read, and nothing else is. For texts this needs that their
length can be written in four bytes, and bodies that are read are never too long for that.
-/

namespace LedgerClient

open Reader Limits

namespace Reader

variable {α β : Type} {reader : Reader α} {next : α → Reader β} {bytes more : Bytes} {value : α}
  {demand weaker later : Prop}

/-- If anything is read where these bytes come first, this is the case. -/
def Demands (reader : Reader α) (bytes : Bytes) (demand : Prop) : Prop :=
  ∀ rest value left, reader.run (bytes ++ rest) = (.ok value, left) → demand

theorem Demands.mono (demands : reader.Demands bytes demand) (implies : demand → weaker) :
    reader.Demands bytes weaker :=
  fun rest value left read => implies (demands rest value left read)

theorem Demands.before (demands : reader.Demands bytes demand) :
    (reader >>= next).Demands bytes demand := by
  intro rest value left read
  obtain ⟨taken, middle, took, -⟩ := run_bind_eq_ok.mp read
  exact demands rest taken middle took

/-- What is demanded before the other bytes are looked at. -/
theorem Demands.first (demands : reader.Demands bytes demand) :
    (reader >>= next).Demands (bytes ++ more) demand := by
  intro rest value left read
  rw [List.append_assoc] at read
  exact demands.before (more ++ rest) value left read

/-- The first bytes are read whatever they are for. -/
theorem Demands.skip (read : reader.Reads bytes value)
    (demands : (next value).Demands more demand) :
    (reader >>= next).Demands (bytes ++ more) demand := by
  intro rest result left done
  rw [List.append_assoc, run_bind_ok (read _)] at done
  exact demands rest result left done

theorem Demands.last (read : reader.Reads bytes value) (demands : (next value).Demands [] demand) :
    (reader >>= next).Demands bytes demand := by
  simpa using Demands.skip read demands

theorem Demands.bind (demands : reader.Demands bytes demand)
    (read : demand → reader.Reads bytes value)
    (others : demand → (next value).Demands more later) :
    (reader >>= next).Demands (bytes ++ more) (demand ∧ later) := by
  intro rest result left done
  have held : demand := demands.first rest result left done
  exact ⟨held, Demands.skip (read held) (others held) rest result left done⟩

theorem demands_unless {condition : Prop} [Decidable condition] {error : DecodeError} :
    (if condition then fail error else reader).Demands bytes (¬ condition) := by
  intro rest value left read held
  rw [if_pos held] at read
  exact run_fail_ne_ok read

theorem demands_if {condition : Prop} [Decidable condition] {error : DecodeError} :
    (if condition then reader else fail error).Demands bytes condition := by
  intro rest value left read
  by_contra missed
  rw [if_neg missed] at read
  exact run_fail_ne_ok read

theorem demands_fail {error : DecodeError} : (fail error : Reader α).Demands bytes demand :=
  fun _ _ _ read => absurd read run_fail_ne_ok

theorem Demands.decode (demands : reader.Demands bytes demand)
    (read : reader.decode bytes = .ok value) : demand := by
  unfold Reader.decode at read
  split at read
  · contradiction
  · rename_i found taken
    refine demands [] found [] ?_
    rw [List.append_nil]
    exact taken
  · contradiction

end Reader

/-- A type whose encodings are refused unless the value is within its limits. -/
class Demanding (α : Type) [Wire α] [Limits α] : Prop where
  demands : ∀ value : α, (Wire.read : Reader α).Demands (Wire.encode value) (Within value)

namespace Wire

variable {α : Type}

theorem demands [Wire α] [Limits α] [Demanding α] (value : α) :
    (Wire.read : Reader α).Demands (Wire.encode value) (Within value) :=
  Demanding.demands value

/-- The limits decide whether an encoding can be read. -/
theorem decode_encode_iff [Wire α] [Limits α] [ReadsBack α] [Demanding α] {value : α} :
    (∃ read, Wire.decode (Wire.encode value) = .ok (read : α)) ↔ Within value := by
  constructor
  · rintro ⟨read, decoded⟩
    exact (demands value).decode decoded
  · exact fun within => ⟨bare value, decode_encode within⟩

instance [Wire α] [Limits α] [Demanding α] : Demanding (Option α) where
  demands value := by
    cases value with
    | none =>
        rintro _ _ _ - _ ⟨⟩
    | some item =>
        have present : (Wire.read : Reader (Option α)).Demands (Wire.encode (some item))
            (Within item) := Demands.skip (reads true) (demands item).before
        refine present.mono ?_
        rintro within _ ⟨⟩
        exact within

/-! ## Lengths, lists and texts -/

theorem ofNat_inj_of_lt {left right : Nat} (leftSmall : left < 256) (rightSmall : right < 256)
    (same : UInt8.ofNat left = UInt8.ofNat right) : left = right := by
  have numbers := UInt8.toNat_inj.mpr same
  rwa [UInt8.toNat_ofNat', UInt8.toNat_ofNat', Nat.mod_eq_of_lt leftSmall,
    Nat.mod_eq_of_lt rightSmall] at numbers

/-- Where a length ends can be seen from its bytes alone. -/
theorem encodeLength_append_inj {left right : Nat} {first second : Bytes}
    (same : encodeLength left ++ first = encodeLength right ++ second) :
    left = right ∧ first = second := by
  induction left using Nat.strongRecOn generalizing right with
  | ind left ih =>
      by_cases leftSmall : left < 128
      · by_cases rightSmall : right < 128
        · rw [encodeLength_of_lt leftSmall, encodeLength_of_lt rightSmall] at same
          obtain ⟨head, tail⟩ := List.cons.inj same
          exact ⟨ofNat_inj_of_lt (by omega) (by omega) head, tail⟩
        · rw [encodeLength_of_lt leftSmall, encodeLength_of_le (Nat.not_lt.mp rightSmall)] at same
          have head := ofNat_inj_of_lt (by omega) (by omega) (List.cons.inj same).1
          omega
      · by_cases rightSmall : right < 128
        · rw [encodeLength_of_le (Nat.not_lt.mp leftSmall), encodeLength_of_lt rightSmall] at same
          have head := ofNat_inj_of_lt (by omega) (by omega) (List.cons.inj same).1
          omega
        · rw [encodeLength_of_le (Nat.not_lt.mp leftSmall),
            encodeLength_of_le (Nat.not_lt.mp rightSmall)] at same
          obtain ⟨head, tail⟩ := List.cons.inj same
          have low := ofNat_inj_of_lt (by omega) (by omega) head
          obtain ⟨high, others⟩ := ih (left / 128) (by omega) tail
          exact ⟨by omega, others⟩

theorem demands_length {least most length : Nat} :
    (readLength least most).Demands (encodeLength length) (least ≤ length ∧ length ≤ most) := by
  intro rest number left read
  obtain ⟨rfl, -⟩ := encodeLength_append_inj (readLength_taken read)
  exact yields_length read

theorem demands_octets {most : Nat} {octets : Bytes} :
    (readOctets most).Demands (encodeOctets octets) (octets.length ≤ most) :=
  demands_length.first.mono And.right

/-- Each item has to be read for those behind it to be. -/
theorem demands_times {item : Reader α} {encode : α → Bytes} {kept : α → α} {demand : α → Prop}
    (each : ∀ value, item.Demands (encode value) (demand value))
    (read : ∀ value, demand value → item.Reads (encode value) (kept value)) (items : List α) :
    (readTimes item items.length).Demands (items.flatMap encode)
      (∀ value ∈ items, demand value) := by
  induction items with
  | nil =>
      intro _ _ _ _ value member
      cases member
  | cons value others ih =>
      refine ((each value).bind (read value) fun _ => ih.before).mono ?_
      exact fun held => List.forall_mem_cons.mpr held

theorem demands_items {item : Reader α} {encode : α → Bytes} {kept : α → α} {demand : α → Prop}
    (each : ∀ value, item.Demands (encode value) (demand value))
    (read : ∀ value, demand value → item.Reads (encode value) (kept value)) {least most : Nat}
    (bounded : most < 2 ^ 32) (items : List α) :
    (readList item least most).Demands (encodeLength items.length ++ items.flatMap encode)
      ((least ≤ items.length ∧ items.length ≤ most) ∧ ∀ value ∈ items, demand value) :=
  demands_length.bind (fun between => reads_length between bounded)
    fun _ => demands_times each read items

theorem demands_list [Wire α] [Limits α] [ReadsBack α] [Demanding α] {least most : Nat}
    (bounded : most < 2 ^ 32) (items : List α) :
    (readList (Wire.read : Reader α) least most).Demands (encodeList items)
      (Several least most items) :=
  demands_items demands (fun value within => reads value within) bounded items

/-- The length of a longer text would be written modulo 2³². -/
theorem demands_text {text : String} (written : textSize text < 2 ^ 32) :
    (readText TransactionData.longestMemo).Demands (encodeText text) (ShortText text) := by
  have fits : (Bytes.ofText text).length < 2 ^ 32 :=
    Nat.lt_of_le_of_lt (Nat.le_add_left _ 4) written
  have value : (UInt32.ofNat (Bytes.ofText text).length).toNat = (Bytes.ofText text).length := by
    rw [UInt32.toNat_ofNat', Nat.mod_eq_of_lt fits]
  have length := reads (UInt32.ofNat (Bytes.ofText text).length)
  simp only [encode, bare, id, value] at length
  have block : (readBlock TransactionData.longestMemo).Demands (encodeText text)
      (¬ (Bytes.ofText text).length > TransactionData.longestMemo) := by
    refine Demands.skip length ?_
    rw [value]
    exact demands_unless
  exact block.before.mono Nat.le_of_not_lt

/-! ## Keys, ids and moments -/

instance : Demanding PublicKey where
  demands key := Demands.last (reads_exactly key.length_bytes) demands_if

instance : Demanding Timestamp where
  demands moment :=
    (Demands.skip (reads moment.seconds) (Demands.last (reads moment.nanos) demands_unless)).mono
      Nat.lt_of_not_le

end Wire

open Wire

/-! ## Transactions -/

instance : Demanding TransactionId where
  demands id := by
    change Demands _ (_ ++ _ ++ _ ++ _) _
    simp only [List.append_assoc]
    exact Demands.skip (reads id.payer) (demands id.validStart).first

instance : Demanding ChunkInfo where
  demands info := by
    change Demands _ (_ ++ _ ++ _) _
    simp only [List.append_assoc]
    refine Demands.mono ((demands info.initialId).bind
      (fun within => reads info.initialId within) fun _ =>
        Demands.skip (reads info.number) (Demands.last (reads info.total) demands_unless)) ?_
    rintro ⟨initial, outside⟩
    simp only [bare, id, Bool.or_eq_true, decide_eq_true_eq, not_or, gt_iff_lt, UInt32.not_lt,
      UInt32.le_iff_toNat_le, ← UInt32.toNat_inj] at outside
    exact ⟨initial, Nat.pos_of_ne_zero outside.1, outside.2⟩

instance : Demanding AccountAmount :=
  ⟨fun _ _ _ _ _ => trivial⟩

namespace TransactionData

/-- The fields are refused beyond the limits, if what a schedule wraps is. -/
theorem demands_fields {scheduled : Reader TransactionData} {data : TransactionData}
    (written : data.fieldsSize < 2 ^ 32)
    (inner : ∀ wrapped : TransactionData, data.kind = .scheduleCreate →
      wrapped.fieldsSize < 2 ^ 32 →
      scheduled.Demands (Wire.encode wrapped) (wrapped.kind ≠ .scheduleCreate ∧ Within wrapped))
    (innerRead : ∀ wrapped : TransactionData, data.kind = .scheduleCreate →
      wrapped.kind ≠ .scheduleCreate → Within wrapped →
      scheduled.Reads (Wire.encode wrapped) wrapped.bare) :
    (readFields scheduled data.kind).Demands data.encodeFields (Within data) := by
  cases data with
  | transfer transfers => exact (demands_list (by decide) transfers).before
  | accountCreate key initialBalance memo =>
      have memoWritten : textSize memo < 2 ^ 32 := by
        simp only [fieldsSize] at written
        omega
      simp only [encodeFields, List.append_assoc]
      exact (demands key).bind (fun point => reads key point) fun _ =>
        Demands.skip (reads initialBalance) (demands_text memoWritten).before
  | fileAppend file contents => exact Demands.skip (reads file) demands_octets.before
  | topicMessageSubmit topic message chunk =>
      simp only [encodeFields, List.append_assoc]
      refine Demands.skip (reads topic) ?_
      exact demands_octets.bind (fun short => reads_octets short (by decide)) fun _ =>
        (demands chunk).before
  | scheduleCreate scheduledFee scheduledMemo wrapped payer memo =>
      simp only [fieldsSize] at written
      have innerMemoWritten : textSize scheduledMemo < 2 ^ 32 := by omega
      have memoWritten : textSize memo < 2 ^ 32 := by omega
      have wrappedWritten : wrapped.fieldsSize < 2 ^ 32 := by omega
      simp only [encodeFields, List.append_assoc]
      refine Demands.skip (reads scheduledFee) ?_
      refine (demands_text innerMemoWritten).bind reads_text fun _ => ?_
      rw [← List.append_assoc]
      refine (inner wrapped rfl wrappedWritten).bind
        (fun sound => innerRead wrapped rfl sound.1 sound.2) fun _ => ?_
      exact Demands.skip (reads payer fun _ _ => trivial) (demands_text memoWritten).before
  | scheduleSign schedule =>
      intro _ _ _ _
      exact trivial

theorem demands_scheduled {data : TransactionData} (written : data.fieldsSize < 2 ^ 32) :
    readScheduled.Demands (Wire.encode data) (data.kind ≠ .scheduleCreate ∧ Within data) := by
  have fields : data.kind ≠ .scheduleCreate →
      (readFields (Reader.fail (.invalid .nestedSchedule)) data.kind).Demands data.encodeFields
        (Within data) := fun single =>
    demands_fields written (fun _ _ _ => demands_fail) fun _ schedule => absurd schedule single
  refine Demands.skip (reads data.kind) ?_
  generalize data.kind = kind at fields
  cases kind with
  | scheduleCreate => exact demands_fail
  | _ => exact (fields (by decide)).mono fun within => ⟨by decide, within⟩

end TransactionData

theorem TransactionBody.demands {body : TransactionBody} (written : Wire.size body < 2 ^ 32) :
    (Wire.read : Reader TransactionBody).Demands (Wire.encode body) (Within body) := by
  change Wire.size body.transactionId + 24 + 8 + 8 + textSize body.memo +
    (1 + body.data.fieldsSize) < 2 ^ 32 at written
  have memoWritten : textSize body.memo < 2 ^ 32 := by omega
  have dataWritten : body.data.fieldsSize < 2 ^ 32 := by omega
  have data : (Wire.read : Reader TransactionData).Demands (Wire.encode body.data)
      (Within body.data) :=
    Demands.skip (reads body.data.kind) <| TransactionData.demands_fields dataWritten
      (fun _ _ small => TransactionData.demands_scheduled small)
      fun _ _ => TransactionData.reads_scheduled
  change Demands _ (_ ++ _ ++ _ ++ _ ++ _ ++ _) _
  simp only [List.append_assoc]
  refine (Wire.demands body.transactionId).bind (fun id => reads body.transactionId id) fun _ => ?_
  refine Demands.skip (reads body.node) ?_
  refine Demands.skip (reads body.maxFee) ?_
  refine Demands.skip (reads body.validSeconds) ?_
  exact (demands_text memoWritten).bind reads_text fun _ => data.before

/-- No body that can be read is so long that this would be in doubt. -/
theorem TransactionBody.decode_encode_iff {body : TransactionBody} :
    (∃ read, Wire.decode (Wire.encode body) = .ok (read : TransactionBody)) ↔ Within body := by
  constructor
  · rintro ⟨read, decoded⟩
    have carried : Carried read := Yields.decode yields decoded
    have written : Wire.size body < 2 ^ 32 := by
      rw [← length_encode, ← encode_decoded decoded]
      exact Nat.lt_of_le_of_lt (TransactionBody.length_le carried.within) (by decide)
    exact (TransactionBody.demands written).decode decoded
  · exact fun within => ⟨bare body, decode_encode within⟩

instance : Demanding SignaturePair :=
  ⟨fun pair => (demands pair.key).first⟩

instance : Demanding SignedTransaction where
  demands _ := demands_octets.bind (fun short => reads_octets short (by decide)) fun _ =>
    (demands_list (by decide) _).before

instance : Demanding TransactionList where
  demands list := by
    have each : ∀ chunk : List SignedTransaction,
        (readList (Wire.read : Reader SignedTransaction) 1 TransactionList.mostNodes).Demands
          (encodeList chunk) (Several 1 TransactionList.mostNodes chunk) :=
      demands_list (by decide)
    refine Demands.skip (reads list.kind) (Demands.before ?_)
    exact demands_items each (fun _ several => reads_list several (by decide)) (by decide)
      list.chunks

end LedgerClient
