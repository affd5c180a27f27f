import LedgerClient.Proofs.Wire.Limits
import LedgerClient.Proofs.Wire.Reading

/-!
Reading what was written. Whatever follows an encoding, the reader takes the encoding and leaves the
rest, so encodings can be put one after the other; what is read is the value that was written,
without the checksums of its ids.
-/

namespace LedgerClient

open Reader Limits

namespace Bytes

theorem ofLittleEndian_littleEndian {size value : Nat} (small : value < 256 ^ size) :
    ofLittleEndian (littleEndian size value) = value := by
  induction size generalizing value with
  | zero =>
      have none : value = 0 := by omega
      subst none
      rfl
  | succ size ih =>
      have high : value / 256 < 256 ^ size := by
        rw [Nat.pow_succ] at small
        exact Nat.div_lt_of_lt_mul (by omega)
      have others := ih high
      simp only [ofLittleEndian] at others
      simp only [littleEndian, ofLittleEndian, List.foldr_cons, others, UInt8.toNat_ofNat']
      omega

theorem ofBigEndian_bigEndian {size value : Nat} (small : value < 256 ^ size) :
    ofBigEndian (bigEndian size value) = value := by
  rw [ofBigEndian, bigEndian, List.reverse_reverse, ofLittleEndian_littleEndian small]

end Bytes

namespace Reader

variable {α β : Type} {reader : Reader α} {first second : Bytes} {value : α} {result : β}

/-- The reader takes these bytes for the value and leaves what follows them, whatever that is. -/
def Reads (reader : Reader α) (bytes : Bytes) (value : α) : Prop :=
  ∀ rest, reader.run (bytes ++ rest) = (.ok value, rest)

theorem reads_pure (value : α) : (Pure.pure value : Reader α).Reads [] value :=
  fun rest => run_pure value rest

theorem reads_take {count : Nat} {taken : Bytes} (size : taken.length = count) :
    (take count).Reads taken taken :=
  fun rest => run_take_append size rest

theorem Reads.bind {next : α → Reader β} (read : reader.Reads first value)
    (later : (next value).Reads second result) :
    (reader >>= next).Reads (first ++ second) result := by
  intro rest
  rw [List.append_assoc, run_bind_ok (read _), later]

/-- Nothing is left to be read for what comes next. -/
theorem Reads.last {next : α → Reader β} (read : reader.Reads first value)
    (later : (next value).Reads [] result) : (reader >>= next).Reads first result := by
  simpa using read.bind later

theorem Reads.map {f : α → β} (read : reader.Reads first value) :
    (reader >>= fun given => Pure.pure (f given)).Reads first (f value) :=
  read.last (reads_pure (f value))

end Reader

/-- A type whose values, within their limits, are read back as they were written. -/
class ReadsBack (α : Type) [Wire α] [Limits α] : Prop where
  reads : ∀ value : α, Within value →
    (Wire.read : Reader α).Reads (Wire.encode value) (bare value)

namespace Wire

variable {α β : Type}

theorem reads [Wire α] [Limits α] [ReadsBack α] (value : α) (within : Within value := by trivial) :
    (Wire.read : Reader α).Reads (Wire.encode value) (bare value) :=
  ReadsBack.reads value within

theorem decode_encode [Wire α] [Limits α] [ReadsBack α] {value : α} (within : Within value) :
    Wire.decode (Wire.encode value) = .ok (bare value) := by
  have read := reads value within []
  rw [List.append_nil] at read
  simp only [run] at read
  simp only [Wire.decode, Reader.decode, read]

/-! ## Numbers and flags -/

theorem reads_number (size : Nat) {value : Nat} (small : value < 256 ^ size) (next : Nat → β) :
    (Reader.take size >>= fun taken => Pure.pure (next taken.ofBigEndian)).Reads
      (Bytes.bigEndian size value) (next value) := by
  have taken : (Reader.take size).Reads (Bytes.bigEndian size value) (Bytes.bigEndian size value) :=
    reads_take (Bytes.length_bigEndian size value)
  refine taken.last ?_
  rw [Bytes.ofBigEndian_bigEndian small]
  exact reads_pure _

instance : ReadsBack UInt8 where
  reads value _ := by
    have read := reads_number 1 value.toNat_lt UInt8.ofNat
    rwa [UInt8.ofNat_toNat] at read

instance : ReadsBack UInt32 where
  reads value _ := by
    have read := reads_number 4 value.toNat_lt UInt32.ofNat
    rwa [UInt32.ofNat_toNat] at read

instance : ReadsBack UInt64 where
  reads value _ := by
    have read := reads_number 8 value.toNat_lt UInt64.ofNat
    rwa [UInt64.ofNat_toNat] at read

instance : ReadsBack Int64 where
  reads value _ := (reads value.toUInt64).map (f := UInt64.toInt64)

instance : ReadsBack Bool where
  reads value _ := by
    cases value with
    | true => exact (reads (1 : UInt8)).last (reads_pure true)
    | false => exact (reads (0 : UInt8)).last (reads_pure false)

instance [Wire α] [Limits α] [ReadsBack α] : ReadsBack (Option α) where
  reads value within := by
    cases value with
    | none => exact (reads false).last (reads_pure none)
    | some item => exact (reads true).bind (reads item (within item rfl)).map

/-! ## Lengths, lists and texts -/

theorem encodeLength_of_lt {length : Nat} (small : length < 128) :
    encodeLength length = [UInt8.ofNat length] := by
  rw [encodeLength, if_pos small]

theorem encodeLength_of_le {length : Nat} (large : 128 ≤ length) :
    encodeLength length = [UInt8.ofNat (128 + length % 128)] ++ encodeLength (length / 128) := by
  rw [encodeLength, if_neg (Nat.not_lt.mpr large)]
  rfl

theorem reads_byte (byte : UInt8) : (Wire.read : Reader UInt8).Reads [byte] byte := by
  have read := reads byte
  rwa [show Wire.encode byte = [byte] by simp [encode, Bytes.bigEndian, Bytes.littleEndian]] at read

/-- The bytes that may follow bound the length: seven bits in each, and four in the last. Only the
first byte of a length may be zero. -/
theorem reads_lengthFrom {first : Bool} {left length : Nat} (small : length < 16 * 128 ^ left)
    (shown : first = false ∨ left = 0 → 0 < length) :
    (readLengthFrom first left).Reads (encodeLength length) length := by
  induction left generalizing first length with
  | zero =>
      have positive := shown (.inr rfl)
      have bound : length < 16 := by simpa using small
      have value : (UInt8.ofNat length).toNat = length := by
        rw [UInt8.toNat_ofNat']
        omega
      have accepted : ¬ (UInt8.ofNat length = 0 ∨ UInt8.ofNat length > 15) := by
        rw [← UInt8.toNat_inj, gt_iff_lt, UInt8.lt_iff_toNat_lt, value]
        change ¬ (length = 0 ∨ 15 < length)
        omega
      rw [encodeLength_of_lt (by omega)]
      refine (reads_byte _).last ?_
      rw [if_neg (by simpa using accepted), value]
      exact reads_pure length
  | succ left ih =>
      by_cases single : length < 128
      · have value : (UInt8.ofNat length).toNat = length := by
          rw [UInt8.toNat_ofNat']
          omega
        have last : UInt8.ofNat length < 128 := by
          rw [UInt8.lt_iff_toNat_lt, value]
          exact single
        have accepted : ¬ (UInt8.ofNat length = 0 ∧ first = false) := by
          rintro ⟨zero, later⟩
          have positive := shown (.inl later)
          rw [← UInt8.toNat_inj, value] at zero
          exact absurd zero (Nat.ne_of_gt positive)
        rw [encodeLength_of_lt single]
        refine (reads_byte _).last ?_
        rw [if_neg (by simpa using accepted), if_pos last, value]
        exact reads_pure length
      · have value : (UInt8.ofNat (128 + length % 128)).toNat = 128 + length % 128 := by
          rw [UInt8.toNat_ofNat']
          omega
        have continued : ¬ UInt8.ofNat (128 + length % 128) < 128 := by
          rw [UInt8.lt_iff_toNat_lt, value]
          exact Nat.not_lt.mpr (Nat.le_add_right 128 _)
        have accepted : ¬ (UInt8.ofNat (128 + length % 128) = 0 ∧ first = false) := by
          rintro ⟨zero, _⟩
          rw [← UInt8.toNat_inj, value] at zero
          exact absurd zero (by simp)
        have high : length / 128 < 16 * 128 ^ left := by
          rw [Nat.pow_succ] at small
          exact Nat.div_lt_of_lt_mul (by omega)
        have others : (readLengthFrom false left).Reads (encodeLength (length / 128))
            (length / 128) := ih high fun _ => by omega
        rw [encodeLength_of_le (Nat.not_lt.mp single)]
        refine (reads_byte _).bind ?_
        rw [if_neg (by simpa using accepted), if_neg continued, value]
        refine others.last ?_
        rw [show 128 + length % 128 - 128 + 128 * (length / 128) = length by omega]
        exact reads_pure length

theorem reads_length {least most length : Nat} (between : least ≤ length ∧ length ≤ most)
    (bounded : most < 2 ^ 32) : (readLength least most).Reads (encodeLength length) length := by
  have small : length < 16 * 128 ^ 4 := by omega
  refine (reads_lengthFrom small (by simp)).last ?_
  rw [if_pos between]
  exact reads_pure length

theorem reads_octets {most : Nat} {octets : Bytes} (within : octets.length ≤ most)
    (bounded : most < 2 ^ 32) : (readOctets most).Reads (encodeOctets octets) octets :=
  (reads_length ⟨Nat.zero_le _, within⟩ bounded).bind (reads_take rfl)

/-- Items are read one after the other, each as it would be alone. -/
theorem reads_times {item : Reader α} {encode : α → Bytes} {kept : α → α} {items : List α}
    (read : ∀ value ∈ items, item.Reads (encode value) (kept value)) :
    (readTimes item items.length).Reads (items.flatMap encode) (items.map kept) := by
  induction items with
  | nil => exact reads_pure []
  | cons value others ih =>
      have later := ih fun other member => read other (List.mem_cons_of_mem _ member)
      exact (read value List.mem_cons_self).bind later.map

theorem reads_list [Wire α] [Limits α] [ReadsBack α] {least most : Nat} {items : List α}
    (several : Several least most items) (bounded : most < 2 ^ 32) :
    (readList (Wire.read : Reader α) least most).Reads (encodeList items) (items.map bare) :=
  (reads_length several.1 bounded).bind
    (reads_times fun value member => reads value (several.2 value member))

theorem reads_text {text : String} (short : ShortText text) :
    (readText TransactionData.longestMemo).Reads (encodeText text) text := by
  have fits : (Bytes.ofText text).length < 2 ^ 32 := Nat.lt_of_le_of_lt short (by decide)
  have value : (UInt32.ofNat (Bytes.ofText text).length).toNat = (Bytes.ofText text).length := by
    rw [UInt32.toNat_ofNat', Nat.mod_eq_of_lt fits]
  have length := reads (UInt32.ofNat (Bytes.ofText text).length)
  simp only [encode, bare, id, value] at length
  have block : (readBlock TransactionData.longestMemo).Reads (encodeText text)
      (Bytes.ofText text) := by
    refine length.bind ?_
    rw [value, if_neg (Nat.not_lt.mpr short)]
    exact reads_take rfl
  refine block.last ?_
  rw [Bytes.text?_ofText]
  exact reads_pure text

/-! ## Keys, ids and moments -/

theorem reads_exactly {count : Nat} {taken : Bytes} (size : taken.length = count) :
    (readExactly count).Reads taken ⟨taken, size⟩ := by
  intro rest
  subst size
  simp [run, readExactly]

instance : ReadsBack PublicKey where
  reads key within := by
    have point : key.isPoint = true := within
    refine (reads_exactly key.length_bytes).last ?_
    dsimp only
    rw [if_pos point]
    exact reads_pure key

instance : ReadsBack Signature where
  reads signature _ := (reads_exactly signature.length_bytes).last (reads_pure signature)

instance {kind : EntityKind} : ReadsBack (EntityId kind) where
  reads id _ := by
    simp only [encode, List.append_assoc]
    refine (reads id.shard).bind ?_
    refine (reads id.realm).bind ?_
    exact (reads id.num).map

instance : ReadsBack Timestamp where
  reads moment within := by
    have proper : ¬ moment.nanos.toNat ≥ 1000000000 := Nat.not_le.mpr within
    refine (reads moment.seconds).bind ((reads moment.nanos).last ?_)
    simp only [bare, id]
    rw [if_neg proper]
    exact reads_pure moment

end Wire

namespace Status

theorem ofCode_code {status : Status} (recognized : Recognized status) :
    ofCode status.code = status := by
  cases status with
  | unrecognized code =>
      have unnamed : named.find? (·.2.1 = code) = Option.none :=
        List.find?_eq_none.mpr fun entry member => by
          have different := recognized entry member
          simpa using different
      unfold ofCode
      rw [Status.code, unnamed]
  | _ => rfl

end Status

namespace Wire

instance : ReadsBack Status where
  reads status within := by
    have read := (reads status.code).map (f := Status.ofCode)
    simp only [bare, id, Status.ofCode_code within] at read
    exact read

end Wire

end LedgerClient
