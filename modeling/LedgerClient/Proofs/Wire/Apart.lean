import LedgerClient.Proofs.Transaction.Bodies
import LedgerClient.Proofs.Wire.Messages

/-!
Which transaction a message on the wire is about. No encoding is the beginning of another one, so
equal bytes start with the same value, whatever follows it; ids are the same up to their checksums.
The values need not be ones that a reader would take.
-/

namespace LedgerClient

open Reader Limits

namespace Wire

variable {α : Type} {first second : Bytes}

/-- A value and what follows it can be told from the bytes. -/
theorem encode_append_eq [Wire α] [Limits α] [ReadsBack α] {left right : α}
    (withinLeft : Within left) (withinRight : Within right)
    (same : encode left ++ first = encode right ++ second) :
    bare left = bare right ∧ first = second := by
  have read := reads left withinLeft first
  rw [same, reads right withinRight second] at read
  obtain ⟨value, rest⟩ := Prod.ext_iff.mp read
  exact ⟨(Except.ok.inj value).symm, rest.symm⟩

theorem byte_inj {left right : Nat} (smallLeft : left < 256) (smallRight : right < 256)
    (same : UInt8.ofNat left = UInt8.ofNat right) : left = right := by
  have values := congrArg UInt8.toNat same
  rwa [UInt8.toNat_ofNat_of_lt' smallLeft, UInt8.toNat_ofNat_of_lt' smallRight] at values

theorem encodeLength_append_eq {left right : Nat}
    (same : encodeLength left ++ first = encodeLength right ++ second) :
    left = right ∧ first = second := by
  -- The first byte says whether more follow, and is the lowest seven bits.
  induction left using Nat.strongRecOn generalizing right with
  | ind left ih =>
      by_cases small : left < 128 <;> by_cases smallRight : right < 128
      · rw [encodeLength_of_lt small, encodeLength_of_lt smallRight] at same
        obtain ⟨byte, rest⟩ := List.cons.inj same
        exact ⟨byte_inj (by omega) (by omega) byte, rest⟩
      · rw [encodeLength_of_lt small, encodeLength_of_le (Nat.le_of_not_lt smallRight)] at same
        have byte := byte_inj (by omega) (by omega) (List.cons.inj same).1
        omega
      · rw [encodeLength_of_le (Nat.le_of_not_lt small), encodeLength_of_lt smallRight] at same
        have byte := byte_inj (by omega) (by omega) (List.cons.inj same).1
        omega
      · rw [encodeLength_of_le (Nat.le_of_not_lt small),
          encodeLength_of_le (Nat.le_of_not_lt smallRight)] at same
        obtain ⟨byte, rest⟩ := List.cons.inj same
        have low := byte_inj (by omega) (by omega) byte
        obtain ⟨high, tail⟩ := ih (left / 128) (by omega) rest
        exact ⟨by omega, tail⟩

theorem encodeOctets_append_eq {left right : Bytes}
    (same : encodeOctets left ++ first = encodeOctets right ++ second) : left = right := by
  simp only [encodeOctets, List.append_assoc] at same
  obtain ⟨length, rest⟩ := encodeLength_append_eq same
  exact (List.append_inj rest length).1

end Wire

theorem TransactionId.encode_append_eq {left right : TransactionId} {first second : Bytes}
    (same : Wire.encode left ++ first = Wire.encode right ++ second) :
    left.same right = true := by
  have parts (id : TransactionId) (rest : Bytes) :
      Wire.encode id ++ rest =
        Wire.encode id.payer ++ (Wire.encode id.validStart.seconds ++
          (Wire.encode id.validStart.nanos ++ (Wire.encode id.scheduled ++
            (Wire.encode id.nonce ++ rest)))) := by
    change (_ ++ (_ ++ _) ++ _ ++ _) ++ _ = _
    simp only [List.append_assoc]
  rw [parts left, parts right] at same
  obtain ⟨payer, same⟩ := Wire.encode_append_eq trivial trivial same
  obtain ⟨seconds, same⟩ := Wire.encode_append_eq trivial trivial same
  obtain ⟨nanos, same⟩ := Wire.encode_append_eq trivial trivial same
  obtain ⟨scheduled, same⟩ := Wire.encode_append_eq trivial trivial same
  obtain ⟨nonce, -⟩ :=
    Wire.encode_append_eq (fun _ _ => trivial) (fun _ _ => trivial) same
  have payers : left.payer.bare = right.payer.bare := payer
  have moments : left.validStart = right.validStart := by
    cases onLeft : left.validStart
    cases onRight : right.validStart
    simp_all [Limits.bare]
  have scheduleds : left.scheduled = right.scheduled := scheduled
  have nonces : left.nonce = right.nonce := by
    simpa [Limits.bare, Option.map_id_apply] using nonce
  simp [TransactionId.same_iff, TransactionId.bare, payers, moments, scheduleds, nonces]

theorem TransactionBody.encode_starts (body : TransactionBody) :
    ∃ rest, Wire.encode body = Wire.encode body.transactionId ++ rest := by
  refine ⟨Wire.encode body.node ++ Wire.encode body.maxFee ++ Wire.encode body.validSeconds ++
    Wire.encodeText body.memo ++ Wire.encode body.data, ?_⟩
  change _ ++ _ ++ _ ++ _ ++ _ ++ _ = _
  simp only [List.append_assoc]

namespace SignedTransaction

variable {signed other : SignedTransaction} {id otherId : TransactionId}
  {node otherNode : AccountId}

theorem body_eq (same : Wire.encode signed = Wire.encode other) : signed.body = other.body :=
  Wire.encodeOctets_append_eq same

/-- A body is for one transaction only. -/
theorem IsFor.same_id (isFor : signed.IsFor id node) (isForOther : other.IsFor otherId otherNode)
    (same : signed.body = other.body) : id.same otherId = true := by
  obtain ⟨body, written, named, -⟩ := isFor
  obtain ⟨otherBody, writtenOther, namedOther, -⟩ := isForOther
  obtain ⟨rest, starts⟩ := body.encode_starts
  obtain ⟨restOther, startsOther⟩ := otherBody.encode_starts
  rw [written, writtenOther, starts, startsOther] at same
  have ids := TransactionId.encode_append_eq same
  simp only [TransactionId.same_iff] at *
  rw [← named, ids, namedOther]

end SignedTransaction

end LedgerClient
