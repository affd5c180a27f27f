import LedgerClient.Message.Query
import LedgerClient.Proofs.Wire.Reading

/-!
Every value on the wire has one encoding: what a reader takes is what would be written for the value
it reads. Lengths are where this could fail, since a number can be padded with empty groups of
seven bits; the reader refuses those.
-/

namespace LedgerClient

open Reader

/-- A type whose values are written back as they were read. -/
class CanonicalWire (α : Type) [Wire α] : Prop where
  canonical : (Wire.read : Reader α).Canonical Wire.encode

namespace Wire

variable {α : Type}

theorem taken_eq [Wire α] [CanonicalWire α] {bytes rest : Bytes} {value : α}
    (read : (Wire.read : Reader α).run bytes = (.ok value, rest)) :
    bytes = Wire.encode value ++ rest :=
  CanonicalWire.canonical read

theorem encode_decoded [Wire α] [CanonicalWire α] {bytes : Bytes} {value : α}
    (decoded : Wire.decode bytes = .ok value) : Wire.encode value = bytes :=
  Canonical.decode CanonicalWire.canonical decoded

/-! ## Numbers and flags -/

instance : CanonicalWire UInt8 where
  canonical bytes value rest read := by
    obtain ⟨taken, middle, took, done⟩ := run_bind_eq_ok.mp read
    obtain ⟨size, rfl⟩ := run_take_eq_ok took
    obtain ⟨rfl, rfl⟩ := run_pure_eq_ok.mp done
    have small : taken.ofBigEndian < 2 ^ 8 := by
      have bound := Bytes.ofBigEndian_lt taken
      rw [size] at bound
      omega
    simp only [encode, UInt8.toNat_ofNat', Nat.mod_eq_of_lt small, Bytes.bigEndian_ofBigEndian size]

instance : CanonicalWire UInt32 where
  canonical bytes value rest read := by
    obtain ⟨taken, middle, took, done⟩ := run_bind_eq_ok.mp read
    obtain ⟨size, rfl⟩ := run_take_eq_ok took
    obtain ⟨rfl, rfl⟩ := run_pure_eq_ok.mp done
    have small : taken.ofBigEndian < 2 ^ 32 := by
      have bound := Bytes.ofBigEndian_lt taken
      rw [size] at bound
      omega
    simp only [encode, UInt32.toNat_ofNat', Nat.mod_eq_of_lt small,
      Bytes.bigEndian_ofBigEndian size]

instance : CanonicalWire UInt64 where
  canonical bytes value rest read := by
    obtain ⟨taken, middle, took, done⟩ := run_bind_eq_ok.mp read
    obtain ⟨size, rfl⟩ := run_take_eq_ok took
    obtain ⟨rfl, rfl⟩ := run_pure_eq_ok.mp done
    have small : taken.ofBigEndian < 2 ^ 64 := by
      have bound := Bytes.ofBigEndian_lt taken
      rw [size] at bound
      omega
    simp only [encode, UInt64.toNat_ofNat', Nat.mod_eq_of_lt small,
      Bytes.bigEndian_ofBigEndian size]

instance : CanonicalWire Int64 where
  canonical bytes value rest read := by
    obtain ⟨number, middle, took, done⟩ := run_bind_eq_ok.mp read
    obtain ⟨rfl, rfl⟩ := run_pure_eq_ok.mp done
    have taken : bytes = Wire.encode number ++ middle := taken_eq took
    exact taken

instance : CanonicalWire Bool where
  canonical bytes value rest read := by
    obtain ⟨byte, middle, took, done⟩ := run_bind_eq_ok.mp read
    rw [taken_eq took]
    split at done
    · rename_i zero
      obtain ⟨rfl, rfl⟩ := run_pure_eq_ok.mp done
      subst zero
      rfl
    · split at done
      · rename_i one
        obtain ⟨rfl, rfl⟩ := run_pure_eq_ok.mp done
        subst one
        rfl
      · exact absurd done run_fail_ne_ok

instance [Wire α] [CanonicalWire α] : CanonicalWire (Option α) where
  canonical bytes value rest read := by
    obtain ⟨present, middle, took, done⟩ := run_bind_eq_ok.mp read
    rw [taken_eq took]
    cases present with
    | true =>
        obtain ⟨item, after, tookItem, final⟩ := run_bind_eq_ok.mp done
        obtain ⟨rfl, rfl⟩ := run_pure_eq_ok.mp final
        rw [taken_eq tookItem, ← List.append_assoc]
        rfl
    | false =>
        obtain ⟨rfl, rfl⟩ := run_pure_eq_ok.mp done
        rfl

/-! ## Lengths, lists and texts -/

theorem encode_byte (byte : UInt8) : Wire.encode byte = [byte] := by
  simp [encode, Bytes.bigEndian, Bytes.littleEndian]

theorem encodeLength_group {byte : UInt8} (continued : 128 ≤ byte.toNat) {high : Nat}
    (positive : 0 < high) :
    encodeLength (byte.toNat - 128 + 128 * high) = byte :: encodeLength high := by
  have bound := byte.toNat_lt
  have large : ¬ byte.toNat - 128 + 128 * high < 128 := by omega
  have group : 128 + (byte.toNat - 128 + 128 * high) % 128 = byte.toNat := by omega
  have others : (byte.toNat - 128 + 128 * high) / 128 = high := by omega
  rw [encodeLength, if_neg large, group, others, UInt8.ofNat_toNat]

theorem encodeLength_small {byte : UInt8} (small : byte.toNat < 128) :
    encodeLength byte.toNat = [byte] := by
  rw [encodeLength, if_pos small, UInt8.ofNat_toNat]

/-- A length takes the bytes it would be written in, and only the first byte of one may be zero. -/
theorem readLengthFrom_taken {first : Bool} {left length : Nat} {bytes rest : Bytes}
    (read : (readLengthFrom first left).run bytes = (.ok length, rest)) :
    bytes = encodeLength length ++ rest ∧ (first = false → 0 < length) := by
  induction left generalizing first length bytes with
  | zero =>
      obtain ⟨byte, middle, took, done⟩ := run_bind_eq_ok.mp read
      have taken := taken_eq took
      rw [encode_byte] at taken
      split at done
      · exact absurd done run_fail_ne_ok
      · rename_i accepted
        obtain ⟨rfl, rfl⟩ := run_pure_eq_ok.mp done
        simp only [Bool.or_eq_true, decide_eq_true_eq, not_or, gt_iff_lt, UInt8.not_lt,
          UInt8.le_iff_toNat_le, ← UInt8.toNat_inj] at accepted
        obtain ⟨nonzero, small⟩ := accepted
        have bound : byte.toNat < 128 := Nat.lt_of_le_of_lt small (by decide)
        exact ⟨by rw [taken, encodeLength_small bound], fun _ => Nat.pos_of_ne_zero nonzero⟩
  | succ left ih =>
      obtain ⟨byte, middle, took, done⟩ := run_bind_eq_ok.mp read
      have taken := taken_eq took
      rw [encode_byte] at taken
      split at done
      · exact absurd done run_fail_ne_ok
      · rename_i accepted
        split at done
        · rename_i small
          obtain ⟨rfl, rfl⟩ := run_pure_eq_ok.mp done
          have bound : byte.toNat < 128 := UInt8.lt_iff_toNat_lt.mp small
          refine ⟨by rw [taken, encodeLength_small bound], fun later => ?_⟩
          subst later
          simp only [Bool.not_false, Bool.and_true, decide_eq_true_eq, ← UInt8.toNat_inj]
            at accepted
          exact Nat.pos_of_ne_zero accepted
        · rename_i large
          obtain ⟨high, after, tookHigh, final⟩ := run_bind_eq_ok.mp done
          obtain ⟨rfl, rfl⟩ := run_pure_eq_ok.mp final
          obtain ⟨others, positive⟩ := ih tookHigh
          have continued : 128 ≤ byte.toNat := by
            simpa [UInt8.lt_iff_toNat_lt] using large
          have high_pos := positive rfl
          refine ⟨?_, fun _ => by omega⟩
          rw [encodeLength_group continued high_pos, taken, others]
          rfl

theorem readLength_taken {least most length : Nat} {bytes rest : Bytes}
    (read : (readLength least most).run bytes = (.ok length, rest)) :
    bytes = encodeLength length ++ rest := by
  obtain ⟨number, middle, took, done⟩ := run_bind_eq_ok.mp read
  split at done
  · obtain ⟨rfl, rfl⟩ := run_pure_eq_ok.mp done
    exact (readLengthFrom_taken took).1
  · exact absurd done run_fail_ne_ok

theorem readOctets_taken {most : Nat} {octets bytes rest : Bytes}
    (read : (readOctets most).run bytes = (.ok octets, rest)) :
    bytes = encodeOctets octets ++ rest := by
  obtain ⟨length, middle, took, done⟩ := run_bind_eq_ok.mp read
  obtain ⟨rfl, rfl⟩ := run_take_eq_ok done
  rw [readLength_taken took, encodeOctets, List.append_assoc]

theorem readTimes_taken {item : Reader α} {encode : α → Bytes} (canonical : item.Canonical encode)
    {count : Nat} {items : List α} {bytes rest : Bytes}
    (read : (readTimes item count).run bytes = (.ok items, rest)) :
    items.length = count ∧ bytes = items.flatMap encode ++ rest := by
  induction count generalizing items bytes with
  | zero =>
      obtain ⟨rfl, rfl⟩ := run_pure_eq_ok.mp read
      exact ⟨rfl, rfl⟩
  | succ count ih =>
      obtain ⟨first, middle, took, others⟩ := run_bind_eq_ok.mp read
      obtain ⟨later, after, tookLater, done⟩ := run_bind_eq_ok.mp others
      obtain ⟨rfl, rfl⟩ := run_pure_eq_ok.mp done
      obtain ⟨size, rfl⟩ := ih tookLater
      refine ⟨congrArg Nat.succ size, ?_⟩
      rw [canonical took, List.flatMap_cons, List.append_assoc]

theorem readList_taken [Wire α] [CanonicalWire α] {least most : Nat} {items : List α}
    {bytes rest : Bytes}
    (read : (readList (Wire.read : Reader α) least most).run bytes = (.ok items, rest)) :
    bytes = encodeList items ++ rest := by
  obtain ⟨length, middle, took, done⟩ := run_bind_eq_ok.mp read
  obtain ⟨rfl, rfl⟩ := readTimes_taken CanonicalWire.canonical done
  rw [readLength_taken took, encodeList, List.append_assoc]

theorem readText_taken {most : Nat} {text : String} {bytes rest : Bytes}
    (read : (readText most).run bytes = (.ok text, rest)) : bytes = encodeText text ++ rest := by
  obtain ⟨block, middle, tookBlock, done⟩ := run_bind_eq_ok.mp read
  obtain ⟨length, after, tookLength, tookBytes⟩ := run_bind_eq_ok.mp tookBlock
  split at tookBytes
  · exact absurd tookBytes run_fail_ne_ok
  · obtain ⟨size, rfl⟩ := run_take_eq_ok tookBytes
    split at done
    · rename_i found
      obtain ⟨rfl, rfl⟩ := run_pure_eq_ok.mp done
      rw [taken_eq tookLength, encodeText, encodeBlock, Bytes.ofText_of_text? found, size,
        List.append_assoc]
      rfl
    · exact absurd done run_fail_ne_ok

/-! ## Keys, ids and moments -/

theorem readExactly_taken {count : Nat} {bytes rest : Bytes}
    {taken : { bytes : Bytes // bytes.length = count }}
    (read : (readExactly count).run bytes = (.ok taken, rest)) : bytes = taken.val ++ rest := by
  simp only [run, readExactly] at read
  split at read
  · simp only [Prod.mk.injEq, Except.ok.injEq] at read
    obtain ⟨rfl, rfl⟩ := read
    exact (List.take_append_drop count bytes).symm
  · simp at read

instance : CanonicalWire PublicKey where
  canonical bytes value rest read := by
    obtain ⟨⟨taken, size⟩, middle, took, done⟩ := run_bind_eq_ok.mp read
    rw [readExactly_taken took]
    dsimp only at done
    split at done
    · obtain ⟨rfl, rfl⟩ := run_pure_eq_ok.mp done
      rfl
    · exact absurd done run_fail_ne_ok

instance : CanonicalWire Signature where
  canonical bytes value rest read := by
    obtain ⟨⟨taken, size⟩, middle, took, done⟩ := run_bind_eq_ok.mp read
    obtain ⟨rfl, rfl⟩ := run_pure_eq_ok.mp done
    exact readExactly_taken took

instance {kind : EntityKind} : CanonicalWire (EntityId kind) where
  canonical bytes value rest read := by
    obtain ⟨shard, first, tookShard, read⟩ := run_bind_eq_ok.mp read
    obtain ⟨realm, second, tookRealm, read⟩ := run_bind_eq_ok.mp read
    obtain ⟨num, third, tookNum, done⟩ := run_bind_eq_ok.mp read
    obtain ⟨rfl, rfl⟩ := run_pure_eq_ok.mp done
    rw [taken_eq tookShard, taken_eq tookRealm, taken_eq tookNum]
    simp [encode, EntityId.ofNumbers]

instance : CanonicalWire Timestamp where
  canonical bytes value rest read := by
    obtain ⟨seconds, first, tookSeconds, read⟩ := run_bind_eq_ok.mp read
    obtain ⟨nanos, second, tookNanos, done⟩ := run_bind_eq_ok.mp read
    rw [taken_eq tookSeconds, taken_eq tookNanos]
    split at done
    · exact absurd done run_fail_ne_ok
    · obtain ⟨rfl, rfl⟩ := run_pure_eq_ok.mp done
      simp [encode]

end Wire

/-! ## Transactions -/

open Wire

instance : CanonicalWire TransactionId where
  canonical bytes value rest read := by
    obtain ⟨payer, first, tookPayer, read⟩ := run_bind_eq_ok.mp read
    obtain ⟨validStart, second, tookStart, read⟩ := run_bind_eq_ok.mp read
    obtain ⟨scheduled, third, tookScheduled, read⟩ := run_bind_eq_ok.mp read
    obtain ⟨nonce, fourth, tookNonce, done⟩ := run_bind_eq_ok.mp read
    obtain ⟨rfl, rfl⟩ := run_pure_eq_ok.mp done
    rw [taken_eq tookPayer, taken_eq tookStart, taken_eq tookScheduled, taken_eq tookNonce]
    simp [encode]

instance : CanonicalWire ChunkInfo where
  canonical bytes value rest read := by
    obtain ⟨initialId, first, tookId, read⟩ := run_bind_eq_ok.mp read
    obtain ⟨number, second, tookNumber, read⟩ := run_bind_eq_ok.mp read
    obtain ⟨total, third, tookTotal, done⟩ := run_bind_eq_ok.mp read
    rw [taken_eq tookId, taken_eq tookNumber, taken_eq tookTotal]
    split at done
    · exact absurd done run_fail_ne_ok
    · obtain ⟨rfl, rfl⟩ := run_pure_eq_ok.mp done
      simp [encode]

instance : CanonicalWire AccountAmount where
  canonical bytes value rest read := by
    obtain ⟨account, first, tookAccount, read⟩ := run_bind_eq_ok.mp read
    obtain ⟨amount, second, tookAmount, done⟩ := run_bind_eq_ok.mp read
    obtain ⟨rfl, rfl⟩ := run_pure_eq_ok.mp done
    rw [taken_eq tookAccount, taken_eq tookAmount]
    simp [encode]

namespace TransactionKind

theorem tag_of_ofTag? {tag : UInt8} {kind : TransactionKind} (found : ofTag? tag = some kind) :
    kind.tag = tag := by
  simpa using List.find?_some found

end TransactionKind

instance : CanonicalWire TransactionKind where
  canonical bytes value rest read := by
    obtain ⟨tag, first, tookTag, done⟩ := run_bind_eq_ok.mp read
    rw [taken_eq tookTag]
    split at done
    · rename_i kind found
      obtain ⟨rfl, rfl⟩ := run_pure_eq_ok.mp done
      rw [← TransactionKind.tag_of_ofTag? found]
      rfl
    · exact absurd done run_fail_ne_ok

namespace TransactionData

/-- The data of a body, as its kind and the fields that follow. -/
def encodeTagged (data : TransactionData) : Bytes :=
  Wire.encode data.kind ++ data.encodeFields

/-- The fields that are read are those of the kind, whatever reads the data that a schedule wraps,
as long as that is canonical. -/
theorem readFields_taken {scheduled : Reader TransactionData}
    (canonical : scheduled.Canonical encodeTagged) {kind : TransactionKind}
    {data : TransactionData} {bytes rest : Bytes}
    (read : (readFields scheduled kind).run bytes = (.ok data, rest)) :
    data.kind = kind ∧ bytes = data.encodeFields ++ rest := by
  cases kind with
  | transfer =>
      obtain ⟨transfers, first, took, done⟩ := run_bind_eq_ok.mp read
      obtain ⟨rfl, rfl⟩ := run_pure_eq_ok.mp done
      exact ⟨rfl, readList_taken took⟩
  | accountCreate =>
      obtain ⟨key, first, tookKey, read⟩ := run_bind_eq_ok.mp read
      obtain ⟨balance, second, tookBalance, read⟩ := run_bind_eq_ok.mp read
      obtain ⟨memo, third, tookMemo, done⟩ := run_bind_eq_ok.mp read
      obtain ⟨rfl, rfl⟩ := run_pure_eq_ok.mp done
      refine ⟨rfl, ?_⟩
      rw [taken_eq tookKey, taken_eq tookBalance, readText_taken tookMemo]
      simp [encodeFields]
  | fileAppend =>
      obtain ⟨file, first, tookFile, read⟩ := run_bind_eq_ok.mp read
      obtain ⟨contents, second, tookContents, done⟩ := run_bind_eq_ok.mp read
      obtain ⟨rfl, rfl⟩ := run_pure_eq_ok.mp done
      refine ⟨rfl, ?_⟩
      rw [taken_eq tookFile, readOctets_taken tookContents]
      simp [encodeFields]
  | topicMessageSubmit =>
      obtain ⟨topic, first, tookTopic, read⟩ := run_bind_eq_ok.mp read
      obtain ⟨message, second, tookMessage, read⟩ := run_bind_eq_ok.mp read
      obtain ⟨chunk, third, tookChunk, done⟩ := run_bind_eq_ok.mp read
      obtain ⟨rfl, rfl⟩ := run_pure_eq_ok.mp done
      refine ⟨rfl, ?_⟩
      rw [taken_eq tookTopic, readOctets_taken tookMessage, taken_eq tookChunk]
      simp [encodeFields]
  | scheduleCreate =>
      obtain ⟨fee, first, tookFee, read⟩ := run_bind_eq_ok.mp read
      obtain ⟨innerMemo, second, tookInnerMemo, read⟩ := run_bind_eq_ok.mp read
      obtain ⟨inner, third, tookInner, read⟩ := run_bind_eq_ok.mp read
      obtain ⟨payer, fourth, tookPayer, read⟩ := run_bind_eq_ok.mp read
      obtain ⟨memo, fifth, tookMemo, done⟩ := run_bind_eq_ok.mp read
      obtain ⟨rfl, rfl⟩ := run_pure_eq_ok.mp done
      refine ⟨rfl, ?_⟩
      rw [taken_eq tookFee, readText_taken tookInnerMemo, canonical tookInner, taken_eq tookPayer,
        readText_taken tookMemo]
      simp [encodeFields, encodeTagged]
  | scheduleSign =>
      obtain ⟨schedule, first, took, done⟩ := run_bind_eq_ok.mp read
      obtain ⟨rfl, rfl⟩ := run_pure_eq_ok.mp done
      exact ⟨rfl, taken_eq took⟩

theorem canonical_fail (error : DecodeError) :
    (Reader.fail error : Reader TransactionData).Canonical encodeTagged :=
  fun _ _ _ read => absurd read run_fail_ne_ok

theorem canonical_readScheduled : readScheduled.Canonical encodeTagged := by
  intro bytes data rest read
  obtain ⟨kind, first, tookKind, read⟩ := run_bind_eq_ok.mp read
  rw [taken_eq tookKind]
  split at read
  · exact absurd read run_fail_ne_ok
  · obtain ⟨rfl, rfl⟩ := readFields_taken (canonical_fail _) read
    rw [encodeTagged, List.append_assoc]

end TransactionData

instance : CanonicalWire TransactionData where
  canonical bytes data rest read := by
    obtain ⟨kind, first, tookKind, read⟩ := run_bind_eq_ok.mp read
    rw [taken_eq tookKind]
    obtain ⟨rfl, rfl⟩ :=
      TransactionData.readFields_taken TransactionData.canonical_readScheduled read
    exact (List.append_assoc ..).symm

instance : CanonicalWire TransactionBody where
  canonical bytes body rest read := by
    obtain ⟨transactionId, first, tookId, read⟩ := run_bind_eq_ok.mp read
    obtain ⟨node, second, tookNode, read⟩ := run_bind_eq_ok.mp read
    obtain ⟨maxFee, third, tookFee, read⟩ := run_bind_eq_ok.mp read
    obtain ⟨validSeconds, fourth, tookSeconds, read⟩ := run_bind_eq_ok.mp read
    obtain ⟨memo, fifth, tookMemo, read⟩ := run_bind_eq_ok.mp read
    obtain ⟨data, sixth, tookData, done⟩ := run_bind_eq_ok.mp read
    obtain ⟨rfl, rfl⟩ := run_pure_eq_ok.mp done
    rw [taken_eq tookId, taken_eq tookNode, taken_eq tookFee, taken_eq tookSeconds,
      readText_taken tookMemo, taken_eq tookData]
    simp [encode]

instance : CanonicalWire SchedulableBody where
  canonical bytes body rest read := by
    obtain ⟨maxFee, first, tookFee, read⟩ := run_bind_eq_ok.mp read
    obtain ⟨memo, second, tookMemo, read⟩ := run_bind_eq_ok.mp read
    obtain ⟨data, third, tookData, done⟩ := run_bind_eq_ok.mp read
    obtain ⟨rfl, rfl⟩ := run_pure_eq_ok.mp done
    rw [taken_eq tookFee, readText_taken tookMemo, TransactionData.canonical_readScheduled tookData]
    simp [encode, TransactionData.encodeTagged]

instance : CanonicalWire SignaturePair where
  canonical bytes pair rest read := by
    obtain ⟨key, first, tookKey, read⟩ := run_bind_eq_ok.mp read
    obtain ⟨signature, second, tookSignature, done⟩ := run_bind_eq_ok.mp read
    obtain ⟨rfl, rfl⟩ := run_pure_eq_ok.mp done
    rw [taken_eq tookKey, taken_eq tookSignature]
    simp [encode]

instance : CanonicalWire SignedTransaction where
  canonical bytes signed rest read := by
    obtain ⟨body, first, tookBody, read⟩ := run_bind_eq_ok.mp read
    obtain ⟨signatures, second, tookSignatures, done⟩ := run_bind_eq_ok.mp read
    obtain ⟨rfl, rfl⟩ := run_pure_eq_ok.mp done
    rw [readOctets_taken tookBody, readList_taken tookSignatures]
    simp [encode]

instance : CanonicalWire TransactionList where
  canonical bytes list rest read := by
    obtain ⟨kind, first, tookKind, read⟩ := run_bind_eq_ok.mp read
    obtain ⟨chunks, second, tookChunks, done⟩ := run_bind_eq_ok.mp read
    obtain ⟨length, third, tookLength, tookItems⟩ := run_bind_eq_ok.mp tookChunks
    obtain ⟨rfl, rfl⟩ := run_pure_eq_ok.mp done
    have chunk : (readList (Wire.read : Reader SignedTransaction) 1
        TransactionList.mostNodes).Canonical encodeList := fun _ _ _ took => readList_taken took
    obtain ⟨rfl, rfl⟩ := readTimes_taken chunk tookItems
    rw [taken_eq tookKind, readLength_taken tookLength]
    simp [encode, TransactionList.encodeChunks]

/-! ## Answers of nodes -/

namespace Status

theorem code_ofCode (code : UInt32) : (ofCode code).code = code := by
  have named : ∀ entry ∈ named, entry.1.code = entry.2.1 := by decide
  unfold ofCode
  split
  · rename_i entry found
    rw [named entry (List.mem_of_find?_eq_some found)]
    simpa using List.find?_some found
  · rfl

end Status

instance : CanonicalWire Status where
  canonical bytes status rest read := by
    obtain ⟨code, middle, took, done⟩ := run_bind_eq_ok.mp read
    obtain ⟨rfl, rfl⟩ := run_pure_eq_ok.mp done
    rw [taken_eq took]
    simp only [encode, Status.code_ofCode]

instance : CanonicalWire SubmitResponse where
  canonical bytes response rest read := by
    obtain ⟨precheck, first, tookPrecheck, read⟩ := run_bind_eq_ok.mp read
    obtain ⟨cost, second, tookCost, done⟩ := run_bind_eq_ok.mp read
    obtain ⟨rfl, rfl⟩ := run_pure_eq_ok.mp done
    rw [taken_eq tookPrecheck, taken_eq tookCost]
    simp [encode]

instance : CanonicalWire Receipt where
  canonical bytes receipt rest read := by
    obtain ⟨status, first, tookStatus, read⟩ := run_bind_eq_ok.mp read
    obtain ⟨account, second, tookAccount, read⟩ := run_bind_eq_ok.mp read
    obtain ⟨file, third, tookFile, read⟩ := run_bind_eq_ok.mp read
    obtain ⟨topic, fourth, tookTopic, read⟩ := run_bind_eq_ok.mp read
    obtain ⟨schedule, fifth, tookSchedule, read⟩ := run_bind_eq_ok.mp read
    obtain ⟨number, sixth, tookNumber, read⟩ := run_bind_eq_ok.mp read
    obtain ⟨scheduledId, seventh, tookScheduledId, done⟩ := run_bind_eq_ok.mp read
    obtain ⟨rfl, rfl⟩ := run_pure_eq_ok.mp done
    rw [taken_eq tookStatus, taken_eq tookAccount, taken_eq tookFile, taken_eq tookTopic,
      taken_eq tookSchedule, taken_eq tookNumber, taken_eq tookScheduledId]
    simp [encode]

/-! ## Questions and their answers -/

theorem Wire.tag_taken {tag : UInt8} {bytes rest : Bytes}
    (read : (Wire.read : Reader UInt8).run bytes = (.ok tag, rest)) : bytes = tag :: rest := by
  rw [taken_eq read, encode_byte]
  rfl

instance : CanonicalWire ResponseType where
  canonical bytes responseType rest read := by
    obtain ⟨tag, first, tookTag, done⟩ := run_bind_eq_ok.mp read
    rw [tag_taken tookTag]
    split at done
    · rename_i answer
      obtain ⟨rfl, rfl⟩ := run_pure_eq_ok.mp done
      subst answer
      rfl
    · split at done
      · rename_i cost
        obtain ⟨rfl, rfl⟩ := run_pure_eq_ok.mp done
        subst cost
        rfl
      · exact absurd done run_fail_ne_ok

instance : CanonicalWire QueryHeader where
  canonical bytes header rest read := by
    obtain ⟨payment, first, tookPayment, read⟩ := run_bind_eq_ok.mp read
    obtain ⟨responseType, second, tookType, done⟩ := run_bind_eq_ok.mp read
    obtain ⟨rfl, rfl⟩ := run_pure_eq_ok.mp done
    rw [taken_eq tookPayment, taken_eq tookType]
    simp [encode]

instance : CanonicalWire QueryData where
  canonical bytes data rest read := by
    obtain ⟨tag, first, tookTag, read⟩ := run_bind_eq_ok.mp read
    rw [tag_taken tookTag]
    split at read
    · rename_i receipt
      obtain ⟨id, second, took, done⟩ := run_bind_eq_ok.mp read
      obtain ⟨rfl, rfl⟩ := run_pure_eq_ok.mp done
      rw [taken_eq took, receipt]
      rfl
    · split at read
      · rename_i balance
        obtain ⟨account, second, took, done⟩ := run_bind_eq_ok.mp read
        obtain ⟨rfl, rfl⟩ := run_pure_eq_ok.mp done
        rw [taken_eq took, balance]
        rfl
      · split at read
        · rename_i info
          obtain ⟨account, second, took, done⟩ := run_bind_eq_ok.mp read
          obtain ⟨rfl, rfl⟩ := run_pure_eq_ok.mp done
          rw [taken_eq took, info]
          rfl
        · exact absurd read run_fail_ne_ok

instance : CanonicalWire QueryRequest where
  canonical bytes request rest read := by
    obtain ⟨header, first, tookHeader, read⟩ := run_bind_eq_ok.mp read
    obtain ⟨data, second, tookData, done⟩ := run_bind_eq_ok.mp read
    obtain ⟨rfl, rfl⟩ := run_pure_eq_ok.mp done
    rw [taken_eq tookHeader, taken_eq tookData]
    simp [encode]

instance : CanonicalWire AccountBalance where
  canonical bytes answer rest read := by
    obtain ⟨account, first, tookAccount, read⟩ := run_bind_eq_ok.mp read
    obtain ⟨balance, second, tookBalance, done⟩ := run_bind_eq_ok.mp read
    obtain ⟨rfl, rfl⟩ := run_pure_eq_ok.mp done
    rw [taken_eq tookAccount, taken_eq tookBalance]
    simp [encode]

instance : CanonicalWire AccountInfo where
  canonical bytes answer rest read := by
    obtain ⟨account, first, tookAccount, read⟩ := run_bind_eq_ok.mp read
    obtain ⟨key, second, tookKey, read⟩ := run_bind_eq_ok.mp read
    obtain ⟨balance, third, tookBalance, read⟩ := run_bind_eq_ok.mp read
    obtain ⟨deleted, fourth, tookDeleted, read⟩ := run_bind_eq_ok.mp read
    obtain ⟨memo, fifth, tookMemo, done⟩ := run_bind_eq_ok.mp read
    obtain ⟨rfl, rfl⟩ := run_pure_eq_ok.mp done
    rw [taken_eq tookAccount, taken_eq tookKey, taken_eq tookBalance, taken_eq tookDeleted,
      readText_taken tookMemo]
    simp [encode]

instance : CanonicalWire QueryAnswer where
  canonical bytes answer rest read := by
    obtain ⟨tag, first, tookTag, read⟩ := run_bind_eq_ok.mp read
    rw [tag_taken tookTag]
    split at read
    · rename_i receipt
      obtain ⟨answer, second, took, done⟩ := run_bind_eq_ok.mp read
      obtain ⟨rfl, rfl⟩ := run_pure_eq_ok.mp done
      rw [taken_eq took, receipt]
      rfl
    · split at read
      · rename_i balance
        obtain ⟨answer, second, took, done⟩ := run_bind_eq_ok.mp read
        obtain ⟨rfl, rfl⟩ := run_pure_eq_ok.mp done
        rw [taken_eq took, balance]
        rfl
      · split at read
        · rename_i info
          obtain ⟨answer, second, took, done⟩ := run_bind_eq_ok.mp read
          obtain ⟨rfl, rfl⟩ := run_pure_eq_ok.mp done
          rw [taken_eq took, info]
          rfl
        · exact absurd read run_fail_ne_ok

instance : CanonicalWire QueryResponse where
  canonical bytes response rest read := by
    obtain ⟨precheck, first, tookPrecheck, read⟩ := run_bind_eq_ok.mp read
    obtain ⟨cost, second, tookCost, read⟩ := run_bind_eq_ok.mp read
    obtain ⟨answer, third, tookAnswer, done⟩ := run_bind_eq_ok.mp read
    obtain ⟨rfl, rfl⟩ := run_pure_eq_ok.mp done
    rw [taken_eq tookPrecheck, taken_eq tookCost, taken_eq tookAnswer]
    simp [encode]

end LedgerClient
