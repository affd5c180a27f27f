import LedgerClient.Message.Query

/-!
The values that the wire format can carry. A reader holds what it reads against limits: on the
length of texts, contents and lists, on the parts of a second, on the place of a chunk. Values of a
type that pass them are within its limits, and what comes over the wire is such a value without the
checksums of its ids, since those are never written.
-/

namespace LedgerClient

/-- Which values of a type can be read, and what is left of them on the wire. -/
class Limits (α : Type) where
  Within : α → Prop
  bare : α → α

namespace Limits

/-- A type without limits and without ids in its values. -/
@[reducible] def unlimited (α : Type) : Limits α where
  Within _ := True
  bare := id

instance : Limits UInt8 := unlimited UInt8
instance : Limits UInt32 := unlimited UInt32
instance : Limits UInt64 := unlimited UInt64
instance : Limits Int64 := unlimited Int64
instance : Limits Bool := unlimited Bool
instance : Limits Signature := unlimited Signature
instance : Limits TransactionKind := unlimited TransactionKind
instance : Limits ResponseType := unlimited ResponseType

variable {α : Type}

instance [Limits α] : Limits (Option α) where
  Within value := ∀ item, value = some item → Within item
  bare := Option.map bare

/-- Between `least` and `most` items, each within its own limits. -/
def Several [Limits α] (least most : Nat) (items : List α) : Prop :=
  (least ≤ items.length ∧ items.length ≤ most) ∧ ∀ item ∈ items, Within item

def ShortText (text : String) : Prop :=
  (Bytes.ofText text).length ≤ TransactionData.longestMemo

/-! ## Keys, ids and moments -/

instance : Limits PublicKey where
  Within key := key.isPoint = true
  bare := id

instance {kind : EntityKind} : Limits (EntityId kind) where
  Within _ := True
  bare := EntityId.bare

instance : Limits Timestamp where
  Within moment := moment.nanos.toNat < 1000000000
  bare := id

/-- A code is only kept as a number if it has no name. -/
def Recognized : Status → Prop
  | .unrecognized code => ∀ entry ∈ Status.named, entry.2.1 ≠ code
  | _ => True

instance : Limits Status where
  Within := Recognized
  bare := id

instance : Limits TransactionId where
  Within id := Within id.validStart
  bare := TransactionId.bare

instance : Limits ChunkInfo where
  Within info := Within info.initialId ∧ 1 ≤ info.number.toNat ∧
    info.number.toNat ≤ info.total.toNat
  bare := ChunkInfo.bare

/-! ## Transactions -/

instance : Limits AccountAmount where
  Within _ := True
  bare := AccountAmount.bare

/-- A schedule is not wrapped in a schedule. -/
def WithinData : TransactionData → Prop
  | .transfer transfers => Several 0 TransactionData.mostTransfers transfers
  | .accountCreate key _ memo => Within key ∧ ShortText memo
  | .fileAppend _ contents => contents.length ≤ TransactionData.longestContent
  | .topicMessageSubmit _ message chunk =>
      message.length ≤ TransactionData.longestContent ∧ Within chunk
  | .scheduleCreate _ scheduledMemo scheduled _ memo =>
      ShortText scheduledMemo ∧ (scheduled.kind ≠ .scheduleCreate ∧ WithinData scheduled) ∧
        ShortText memo
  | .scheduleSign _ => True

instance : Limits TransactionData where
  Within := WithinData
  bare := TransactionData.bare

instance : Limits SchedulableBody where
  Within body := ShortText body.memo ∧ body.data.kind ≠ .scheduleCreate ∧ Within body.data
  bare := SchedulableBody.bare

instance : Limits TransactionBody where
  Within body := Within body.transactionId ∧ ShortText body.memo ∧ Within body.data
  bare := TransactionBody.bare

instance : Limits SignaturePair where
  Within pair := Within pair.key
  bare := id

instance : Limits SignedTransaction where
  Within signed := signed.body.length ≤ SignedTransaction.longestBody ∧
    Several 0 SignedTransaction.mostSignatures signed.signatures
  bare := id

instance : Limits SubmitResponse where
  Within response := Within response.precheck
  bare := id

instance : Limits TransactionList where
  Within list :=
    (1 ≤ list.chunks.length ∧ list.chunks.length ≤ TransactionList.mostChunks) ∧
      ∀ chunk ∈ list.chunks, Several 1 TransactionList.mostNodes chunk
  bare := id

/-! ## Receipts, questions and answers -/

instance : Limits Receipt where
  Within receipt := Within receipt.status ∧ Within receipt.scheduledTransactionId
  bare := Receipt.bare

instance : Limits QueryHeader where
  Within header := Within header.payment
  bare := id

instance : Limits QueryData where
  Within
    | .receipt id => Within id
    | .balance _ => True
    | .info _ => True
  bare := QueryData.bare

instance : Limits QueryRequest where
  Within request := Within request.header ∧ Within request.data
  bare := QueryRequest.bare

instance : Limits AccountBalance where
  Within _ := True
  bare := AccountBalance.bare

instance : Limits AccountInfo where
  Within info := Within info.key ∧ ShortText info.memo
  bare := AccountInfo.bare

instance : Limits QueryAnswer where
  Within
    | .receipt answer => Within answer
    | .balance answer => Within answer
    | .info answer => Within answer
  bare := QueryAnswer.bare

instance : Limits QueryResponse where
  Within response := Within response.precheck ∧ Within response.answer
  bare := QueryResponse.bare

end Limits

end LedgerClient
