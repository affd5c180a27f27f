import LedgerClient.Proofs.Wire.Written

/-!
Every message reads back as it was written. Its parts are read in the order in which they were
written, and each reader leaves what belongs to the next.
-/

namespace LedgerClient

open Reader Limits Wire

/-! ## Transactions -/

instance : ReadsBack TransactionId where
  reads id within := by
    have nonce := reads id.nonce fun _ _ => trivial
    rw [show bare id.nonce = id.nonce from Option.map_id_apply] at nonce
    change Reads _ (_ ++ _ ++ _ ++ _) _
    simp only [List.append_assoc]
    refine (reads id.payer).bind ?_
    refine (reads id.validStart within).bind ?_
    refine (reads id.scheduled).bind ?_
    exact nonce.map

instance : ReadsBack ChunkInfo where
  reads info within := by
    obtain ⟨initial, positive, inside⟩ := within
    have placed : ¬ (info.number = 0 ∨ info.number > info.total) := by
      rw [← UInt32.toNat_inj, gt_iff_lt, UInt32.lt_iff_toNat_lt]
      change ¬ (info.number.toNat = 0 ∨ info.total.toNat < info.number.toNat)
      omega
    change Reads _ (_ ++ _ ++ _) _
    simp only [List.append_assoc]
    refine (reads info.initialId initial).bind ?_
    refine (reads info.number).bind ?_
    refine (reads info.total).last ?_
    simp only [bare, id]
    rw [if_neg (by simpa using placed)]
    exact reads_pure _

instance : ReadsBack AccountAmount where
  reads entry _ := (reads entry.account).bind (reads entry.amount).map

theorem TransactionKind.ofTag?_tag (kind : TransactionKind) : ofTag? kind.tag = some kind := by
  cases kind <;> rfl

instance : ReadsBack TransactionKind where
  reads kind _ := by
    refine (reads kind.tag).last ?_
    simp only [bare, id, TransactionKind.ofTag?_tag]
    exact reads_pure kind

namespace TransactionData

/-- The fields are read back if the data that a schedule wraps is. -/
theorem reads_fields {scheduled : Reader TransactionData} {data : TransactionData}
    (within : Within data)
    (inner : ∀ wrapped : TransactionData, data.kind = .scheduleCreate →
      wrapped.kind ≠ .scheduleCreate → Within wrapped →
      scheduled.Reads (Wire.encode wrapped) wrapped.bare) :
    (readFields scheduled data.kind).Reads data.encodeFields data.bare := by
  cases data with
  | transfer transfers => exact (reads_list within (by decide)).map
  | accountCreate key initialBalance memo =>
      obtain ⟨point, short⟩ := within
      simp only [encodeFields, List.append_assoc]
      refine (reads key point).bind ?_
      refine (reads initialBalance).bind ?_
      exact (reads_text short).map
  | fileAppend file contents =>
      exact (reads file).bind (reads_octets within (by decide)).map
  | topicMessageSubmit topic message chunk =>
      obtain ⟨short, placed⟩ := within
      simp only [encodeFields, List.append_assoc]
      refine (reads topic).bind ?_
      refine (reads_octets short (by decide)).bind ?_
      exact (reads chunk placed).map
  | scheduleCreate scheduledFee scheduledMemo wrapped payer memo =>
      obtain ⟨shortInner, ⟨single, withinInner⟩, short⟩ := within
      have read := inner wrapped rfl single withinInner
      simp only [encodeFields, List.append_assoc]
      refine (reads scheduledFee).bind ?_
      refine (reads_text shortInner).bind ?_
      rw [← List.append_assoc]
      refine read.bind ?_
      refine (reads payer fun _ _ => trivial).bind ?_
      exact (reads_text short).map
  | scheduleSign schedule => exact (reads schedule).map

/-- Data that is not a schedule wraps nothing, so that the reader for what is wrapped plays no
part. -/
theorem reads_scheduled {data : TransactionData} (single : data.kind ≠ .scheduleCreate)
    (within : Within data) : readScheduled.Reads (Wire.encode data) data.bare := by
  have fields : (readFields (Reader.fail (.invalid .nestedSchedule)) data.kind).Reads
      data.encodeFields data.bare :=
    reads_fields within fun _ schedule => absurd schedule single
  refine (reads data.kind).bind ?_
  generalize data.kind = kind at single fields
  cases kind with
  | scheduleCreate => exact absurd rfl single
  | _ => exact fields

end TransactionData

instance : ReadsBack TransactionData where
  reads data within := (reads data.kind).bind
    (TransactionData.reads_fields within fun _ _ => TransactionData.reads_scheduled)

instance : ReadsBack SchedulableBody where
  reads body within := by
    obtain ⟨short, single, data⟩ := within
    change Reads _ (_ ++ _ ++ _) _
    simp only [List.append_assoc]
    refine (reads body.maxFee).bind ?_
    refine (reads_text short).bind ?_
    exact (TransactionData.reads_scheduled single data).map

instance : ReadsBack TransactionBody where
  reads body within := by
    obtain ⟨id, short, data⟩ := within
    change Reads _ (_ ++ _ ++ _ ++ _ ++ _ ++ _) _
    simp only [List.append_assoc]
    refine (reads body.transactionId id).bind ?_
    refine (reads body.node).bind ?_
    refine (reads body.maxFee).bind ?_
    refine (reads body.validSeconds).bind ?_
    refine (reads_text short).bind ?_
    exact (reads body.data data).map

instance : ReadsBack SignaturePair where
  reads pair within := (reads pair.key within).bind (reads pair.signature).map

instance : ReadsBack SignedTransaction where
  reads signed within := by
    obtain ⟨short, few⟩ := within
    have signatures := reads_list few (by decide)
    rw [show signed.signatures.map bare = signed.signatures from List.map_id _] at signatures
    exact (reads_octets short (by decide)).bind signatures.map

instance : ReadsBack SubmitResponse where
  reads response within := (reads response.precheck within).bind (reads response.cost).map

instance : ReadsBack TransactionList where
  reads list within := by
    obtain ⟨chunks, nodes⟩ := within
    have kept : ∀ chunk ∈ list.chunks,
        (readList (Wire.read : Reader SignedTransaction) 1 TransactionList.mostNodes).Reads
          (encodeList chunk) chunk := fun chunk member => by
      have read := reads_list (nodes chunk member) (by decide)
      rwa [show chunk.map bare = chunk from List.map_id _] at read
    have every := (reads_length chunks (by decide)).bind (reads_times kept)
    rw [List.map_id'] at every
    exact (reads list.kind).bind every.map

/-! ## Receipts, questions and answers -/

instance : ReadsBack Receipt where
  reads receipt within := by
    obtain ⟨status, scheduled⟩ := within
    change Reads _ (_ ++ _ ++ _ ++ _ ++ _ ++ _ ++ _) _
    simp only [List.append_assoc]
    refine (reads receipt.status status).bind ?_
    refine (reads receipt.account fun _ _ => trivial).bind ?_
    refine (reads receipt.file fun _ _ => trivial).bind ?_
    refine (reads receipt.topic fun _ _ => trivial).bind ?_
    refine (reads receipt.schedule fun _ _ => trivial).bind ?_
    refine (reads receipt.topicSequenceNumber).bind ?_
    exact (reads receipt.scheduledTransactionId scheduled).map

instance : ReadsBack ResponseType where
  reads responseType _ := by
    cases responseType with
    | answerOnly => exact (reads_byte 0).last (reads_pure _)
    | costAnswer => exact (reads_byte 1).last (reads_pure _)

instance : ReadsBack QueryHeader where
  reads header within := by
    have payment := reads header.payment within
    rw [show bare header.payment = header.payment from Option.map_id_apply] at payment
    exact payment.bind (reads header.responseType).map

instance : ReadsBack QueryData where
  reads data within := by
    cases data with
    | receipt id => exact (reads_byte 0).bind (reads id within).map
    | balance account => exact (reads_byte 1).bind (reads account).map
    | info account => exact (reads_byte 2).bind (reads account).map

instance : ReadsBack QueryRequest where
  reads request within := (reads request.header within.1).bind (reads request.data within.2).map

instance : ReadsBack AccountBalance where
  reads answer _ := (reads answer.account).bind (reads answer.balance).map

instance : ReadsBack AccountInfo where
  reads answer within := by
    obtain ⟨key, short⟩ := within
    change Reads _ (_ ++ _ ++ _ ++ _ ++ _) _
    simp only [List.append_assoc]
    refine (reads answer.account).bind ?_
    refine (reads answer.key key).bind ?_
    refine (reads answer.balance).bind ?_
    refine (reads answer.deleted).bind ?_
    exact (reads_text short).map

instance : ReadsBack QueryAnswer where
  reads answer within := by
    cases answer with
    | receipt answer => exact (reads_byte 0).bind (reads answer within).map
    | balance answer => exact (reads_byte 1).bind (reads answer within).map
    | info answer => exact (reads_byte 2).bind (reads answer within).map

instance : ReadsBack QueryResponse where
  reads response within := by
    change Reads _ (_ ++ _ ++ _) _
    simp only [List.append_assoc]
    refine (reads response.precheck within.1).bind ?_
    refine (reads response.cost).bind ?_
    exact (reads response.answer within.2).map

/-! ## All types -/

/-- Whatever is within the limits of its reader and written to the wire is read back from there
without the checksums of its ids, and what follows it is left to be read. -/
theorem Wire.reads_back_messages :
    ReadsBack Timestamp ∧ ReadsBack TransactionId ∧ ReadsBack ChunkInfo ∧
    ReadsBack AccountAmount ∧ ReadsBack TransactionKind ∧ ReadsBack TransactionData ∧
    ReadsBack SchedulableBody ∧ ReadsBack TransactionBody ∧ ReadsBack SignaturePair ∧
    ReadsBack SignedTransaction ∧ ReadsBack SubmitResponse ∧ ReadsBack TransactionList ∧
    ReadsBack Receipt ∧ ReadsBack Status ∧ ReadsBack QueryHeader ∧ ReadsBack QueryData ∧
    ReadsBack QueryRequest ∧ ReadsBack AccountBalance ∧ ReadsBack AccountInfo ∧
    ReadsBack QueryAnswer ∧ ReadsBack QueryResponse ∧ ∀ kind, ReadsBack (EntityId kind) := by
  refine ⟨?_, ?_, ?_, ?_, ?_, ?_, ?_, ?_, ?_, ?_, ?_, ?_, ?_, ?_, ?_, ?_, ?_, ?_, ?_, ?_, ?_, ?_⟩
  all_goals infer_instance

end LedgerClient
