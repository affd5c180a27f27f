import LedgerClient.Proofs.Wire.Canonical
import LedgerClient.Proofs.Wire.Limits
import Mathlib.Data.Nat.Log

/-!
How long encodings are. A transaction is held against its size before anything of it is written, and
that size is the number of bytes it takes. Of a body within the limits they are few enough for it to
be carried in a signed transaction.
-/

namespace LedgerClient

open Limits

/-- A type whose encodings are as long as their size says. -/
class Measured (α : Type) [Wire α] : Prop where
  length : ∀ value : α, (Wire.encode value).length = Wire.size value

namespace Wire

variable {α : Type}

theorem length_encode [Wire α] [Measured α] (value : α) :
    (Wire.encode value).length = Wire.size value :=
  Measured.length value

/-! ## Numbers and flags -/

instance : Measured UInt8 := ⟨fun value => Bytes.length_bigEndian 1 value.toNat⟩
instance : Measured UInt32 := ⟨fun value => Bytes.length_bigEndian 4 value.toNat⟩
instance : Measured UInt64 := ⟨fun value => Bytes.length_bigEndian 8 value.toNat⟩
instance : Measured Int64 := ⟨fun value => length_encode value.toUInt64⟩
instance : Measured Bool := ⟨fun value => by cases value <;> rfl⟩

instance [Wire α] [Measured α] : Measured (Option α) where
  length value := by
    cases value with
    | none => exact length_encode false
    | some item =>
        change (Wire.encode true ++ Wire.encode item).length = 1 + Wire.size item
        rw [List.length_append, length_encode, length_encode]
        rfl

/-! ## Lengths, lists and texts -/

theorem log2_div_pow {number : Nat} (power : Nat) (large : 2 ^ power ≤ number) :
    number.log2 = (number / 2 ^ power).log2 + power := by
  induction power with
  | zero => simp
  | succ power ih =>
      have half : 2 ≤ number / 2 ^ power := by
        rw [Nat.le_div_iff_mul_le (Nat.two_pow_pos power), Nat.mul_comm, ← Nat.pow_succ]
        exact large
      have halved : (number / 2 ^ power).log2 = (number / 2 ^ power / 2).log2 + 1 := by
        rw [Nat.log2_def, if_pos half]
      have lower := Nat.pow_le_pow_right (Nat.zero_lt_two) (Nat.le_succ power)
      rw [ih (Nat.le_trans lower large), halved, Nat.div_div_eq_div_mul, Nat.pow_succ]
      omega

/-- Each byte of a length takes seven bits. -/
theorem length_encodeLength (length : Nat) : (encodeLength length).length = lengthSize length := by
  induction length using Nat.strongRecOn with
  | ind length ih =>
      rw [encodeLength, lengthSize]
      split
      · rename_i small
        have bits : length.log2 < 7 := by
          by_cases zero : length = 0
          · subst zero
            decide
          · exact (Nat.log2_lt zero).mpr small
        rw [Nat.div_eq_of_lt bits]
        rfl
      · rename_i large
        have shifted : length.log2 = (length / 128).log2 + 7 :=
          log2_div_pow 7 (Nat.not_lt.mp large)
        have shorter := ih (length / 128) (by omega)
        rw [List.length_cons, shorter, lengthSize]
        omega

theorem lengthSize_le {length bits : Nat} (small : length < 2 ^ bits) :
    lengthSize length ≤ 1 + (bits - 1) / 7 := by
  have fits : length.log2 ≤ bits - 1 := by
    by_cases zero : length = 0
    · subst zero
      exact Nat.zero_le _
    · exact Nat.le_sub_one_of_lt ((Nat.log2_lt zero).mpr small)
  exact Nat.add_le_add_left (Nat.div_le_div_right fits) 1

theorem length_encodeOctets (octets : Bytes) :
    (encodeOctets octets).length = octetsSize octets := by
  rw [encodeOctets, List.length_append, length_encodeLength, octetsSize]

theorem length_flatMap_encode {encode : α → Bytes} {size : α → Nat}
    (each : ∀ item, (encode item).length = size item) (items : List α) :
    (items.flatMap encode).length = total size items := by
  induction items with
  | nil => rfl
  | cons item rest ih => rw [List.flatMap_cons, List.length_append, each, ih, total]

theorem length_encodeList [Wire α] [Measured α] (items : List α) :
    (encodeList items).length = listSize items := by
  rw [encodeList, List.length_append, length_encodeLength, length_flatMap_encode length_encode,
    listSize]

theorem length_encodeBlock (bytes : Bytes) : (encodeBlock bytes).length = blockSize bytes := by
  rw [encodeBlock, List.length_append, Bytes.length_bigEndian, blockSize]

theorem length_encodeText (text : String) : (encodeText text).length = textSize text :=
  length_encodeBlock (Bytes.ofText text)

/-! ## Keys, ids and moments -/

instance : Measured PublicKey := ⟨fun key => key.length_bytes⟩

instance {kind : EntityKind} : Measured (EntityId kind) where
  length id := by simp [encode, size]

instance : Measured PrivateKey := ⟨fun key => key.length_bytes⟩

instance : Measured Signature := ⟨fun signature => signature.length_bytes⟩

instance : Measured Timestamp where
  length moment := by simp [encode, size]

instance : Measured Status := ⟨fun status => length_encode status.code⟩

end Wire

open Wire

/-! ## Transactions -/

instance : Measured TransactionId where
  length id := by
    change (_ ++ _ ++ _ ++ _ : Bytes).length = _ + _ + _ + _
    simp only [List.length_append, length_encode]

instance : Measured ChunkInfo where
  length info := by
    change (_ ++ _ ++ _ : Bytes).length = _ + _ + _
    simp only [List.length_append, length_encode]

instance : Measured AccountAmount where
  length entry := by
    change (_ ++ _ : Bytes).length = _ + _
    simp only [List.length_append, length_encode]

instance : Measured TransactionKind := ⟨fun kind => length_encode kind.tag⟩

namespace TransactionData

theorem length_encodeFields (data : TransactionData) :
    data.encodeFields.length = data.fieldsSize := by
  induction data with
  | transfer transfers => exact length_encodeList transfers
  | accountCreate key initialBalance memo =>
      simp only [encodeFields, fieldsSize, List.length_append, length_encode, length_encodeText]
  | fileAppend file contents =>
      simp only [encodeFields, fieldsSize, List.length_append, length_encode, length_encodeOctets]
  | topicMessageSubmit topic message chunk =>
      simp only [encodeFields, fieldsSize, List.length_append, length_encode, length_encodeOctets]
  | scheduleCreate scheduledFee scheduledMemo scheduled payer memo ih =>
      simp only [encodeFields, fieldsSize, List.length_append, length_encode, length_encodeText, ih]
  | scheduleSign schedule => exact length_encode schedule

end TransactionData

instance : Measured TransactionData where
  length data := by
    change (_ ++ _ : Bytes).length = _ + _
    rw [List.length_append, length_encode, TransactionData.length_encodeFields]

instance : Measured TransactionBody where
  length body := by
    change (_ ++ _ ++ _ ++ _ ++ _ ++ _ : Bytes).length = _ + _ + _ + _ + _ + _
    simp only [List.length_append, length_encode, length_encodeText]

instance : Measured SchedulableBody where
  length body := by
    change (_ ++ _ ++ _ : Bytes).length = _ + _ + _
    simp only [List.length_append, length_encode, length_encodeText]

instance : Measured SignaturePair where
  length pair := by
    change (_ ++ _ : Bytes).length = _ + _
    simp only [List.length_append, length_encode]

instance : Measured SignedTransaction where
  length signed := by
    change (_ ++ _ : Bytes).length = _ + _
    rw [List.length_append, length_encodeOctets, length_encodeList]

instance : Measured SubmitResponse where
  length response := by
    change (_ ++ _ : Bytes).length = _ + _
    simp only [List.length_append, length_encode]

theorem TransactionList.length_encodeChunks (chunks : List (List SignedTransaction)) :
    (encodeChunks chunks).length = chunksSize chunks := by
  rw [encodeChunks, List.length_append, length_encodeLength,
    length_flatMap_encode length_encodeList, chunksSize]

instance : Measured TransactionList where
  length list := by
    change (_ ++ _ : Bytes).length = _ + _
    rw [List.length_append, length_encode, TransactionList.length_encodeChunks]

/-! ## Receipts, questions and answers -/

instance : Measured Receipt where
  length receipt := by
    change (_ ++ _ ++ _ ++ _ ++ _ ++ _ ++ _ : Bytes).length = _ + _ + _ + _ + _ + _ + _
    simp only [List.length_append, length_encode]

instance : Measured ResponseType := ⟨fun responseType => by cases responseType <;> rfl⟩

instance : Measured QueryHeader where
  length header := by
    change (_ ++ _ : Bytes).length = _ + _
    simp only [List.length_append, length_encode]

/-- A tag takes one byte in front of what it tells apart. -/
theorem Wire.length_tagged {α : Type} [Wire α] [Measured α] (tag : UInt8) (value : α) :
    (tag :: Wire.encode value).length = 1 + Wire.size value := by
  rw [List.length_cons, length_encode, Nat.add_comm]

instance : Measured QueryData where
  length data := by
    cases data with
    | receipt id => exact length_tagged 0 id
    | balance account => exact length_tagged 1 account
    | info account => exact length_tagged 2 account

instance : Measured QueryRequest where
  length request := by
    change (_ ++ _ : Bytes).length = _ + _
    simp only [List.length_append, length_encode]

instance : Measured AccountBalance where
  length answer := by
    change (_ ++ _ : Bytes).length = _ + _
    simp only [List.length_append, length_encode]

instance : Measured AccountInfo where
  length answer := by
    change (_ ++ _ ++ _ ++ _ ++ _ : Bytes).length = _ + _ + _ + _ + _
    simp only [List.length_append, length_encode, length_encodeText]

instance : Measured QueryAnswer where
  length answer := by
    cases answer with
    | receipt answer => exact length_tagged 0 answer
    | balance answer => exact length_tagged 1 answer
    | info answer => exact length_tagged 2 answer

instance : Measured QueryResponse where
  length response := by
    change (_ ++ _ ++ _ : Bytes).length = _ + _ + _
    simp only [List.length_append, length_encode]

/-! ## Bodies within the limits -/

theorem textSize_le {text : String} (short : ShortText text) : textSize text ≤ 104 :=
  Nat.add_le_add_left short 4

theorem octetsSize_le {octets : Bytes} (short : octets.length ≤ TransactionData.longestContent) :
    octetsSize octets ≤ TransactionData.longestContent + 3 := by
  have few : octets.length < 2 ^ 21 := Nat.lt_of_le_of_lt short (by decide)
  have prefixed := lengthSize_le few
  unfold octetsSize
  omega

theorem TransactionId.size_le (id : TransactionId) : Wire.size id ≤ 42 := by
  have nonce : Wire.size id.nonce ≤ 5 := by
    cases id.nonce with
    | none => decide
    | some nonce => exact Nat.le_refl 5
  change 24 + 12 + 1 + Wire.size id.nonce ≤ 42
  omega

theorem ChunkInfo.optional_size_le (chunk : Option ChunkInfo) : Wire.size chunk ≤ 51 := by
  cases chunk with
  | none => decide
  | some info =>
      have initial := info.initialId.size_le
      change 1 + (Wire.size info.initialId + 4 + 4) ≤ 51
      omega

namespace TransactionData

theorem transfers_size (transfers : List AccountAmount) :
    total Wire.size transfers = 32 * transfers.length := by
  induction transfers with
  | nil => rfl
  | cons entry rest ih =>
      rw [total, ih, List.length_cons]
      change 24 + 8 + _ = _
      omega

/-- The longest data without a schedule around it. -/
theorem single_size_le {data : TransactionData} (single : data.kind ≠ .scheduleCreate)
    (within : Within data) : data.fieldsSize ≤ longestContent + 78 := by
  cases data with
  | transfer transfers =>
      obtain ⟨⟨-, few⟩, -⟩ := within
      have bound : transfers.length < 2 ^ 7 := Nat.lt_of_le_of_lt few (by decide)
      have prefixed := lengthSize_le bound
      have entries := transfers_size transfers
      change transfers.length ≤ 64 at few
      change lengthSize transfers.length + total Wire.size transfers ≤ 1024 * 1024 + 78
      omega
  | accountCreate key initialBalance memo =>
      have short := textSize_le within.2
      change 32 + 8 + textSize memo ≤ 1024 * 1024 + 78
      omega
  | fileAppend file contents =>
      have short := octetsSize_le within
      change 24 + octetsSize contents ≤ longestContent + 78
      omega
  | topicMessageSubmit topic message chunk =>
      have short := octetsSize_le within.1
      have place := ChunkInfo.optional_size_le chunk
      change 24 + octetsSize message + Wire.size chunk ≤ longestContent + 78
      omega
  | scheduleCreate scheduledFee scheduledMemo scheduled payer memo => exact absurd rfl single
  | scheduleSign schedule =>
      change 24 ≤ 1024 * 1024 + 78
      omega

theorem fieldsSize_le {data : TransactionData} (within : Within data) :
    data.fieldsSize ≤ longestContent + 320 := by
  by_cases single : data.kind = .scheduleCreate
  · cases data with
    | scheduleCreate scheduledFee scheduledMemo scheduled payer memo =>
        obtain ⟨shortInner, ⟨other, inner⟩, short⟩ := within
        have wrapped := single_size_le other inner
        have innerMemo := textSize_le shortInner
        have ownMemo := textSize_le short
        have paid : Wire.size payer ≤ 25 := by
          cases payer with
          | none => decide
          | some payer => exact Nat.le_refl 25
        change 8 + textSize scheduledMemo + (1 + scheduled.fieldsSize) + Wire.size payer +
          textSize memo ≤ longestContent + 320
        omega
    | _ => cases single
  · have bound := single_size_le single within
    omega

end TransactionData

/-- A body that can be read can also be carried. -/
theorem TransactionBody.length_le {body : TransactionBody} (within : Within body) :
    (Wire.encode body).length ≤ SignedTransaction.longestBody := by
  obtain ⟨-, short, data⟩ := within
  have id := body.transactionId.size_le
  have memo := textSize_le short
  have fields := TransactionData.fieldsSize_le data
  rw [length_encode]
  change Wire.size body.transactionId + 24 + 8 + 8 + textSize body.memo +
    (1 + body.data.fieldsSize) ≤ TransactionData.longestContent + 4096
  omega

end LedgerClient
