import LedgerClient.Message.TransactionId

/-!
What a transaction does. A schedule wraps the data of another transaction, which the ledger carries
out once enough keys have signed; on the wire a schedule never wraps a schedule.
-/

namespace LedgerClient

inductive TransactionKind where
  | transfer
  | accountCreate
  | fileAppend
  | topicMessageSubmit
  | scheduleCreate
  | scheduleSign
deriving DecidableEq

namespace TransactionKind

def all : List TransactionKind :=
  [transfer, accountCreate, fileAppend, topicMessageSubmit, scheduleCreate, scheduleSign]

def tag : TransactionKind → UInt8
  | transfer => 0
  | accountCreate => 1
  | fileAppend => 2
  | topicMessageSubmit => 3
  | scheduleCreate => 4
  | scheduleSign => 5

def ofTag? (tag : UInt8) : Option TransactionKind :=
  all.find? (·.tag = tag)

def name : TransactionKind → String
  | transfer => "transfer"
  | accountCreate => "account_create"
  | fileAppend => "file_append"
  | topicMessageSubmit => "topic_message_submit"
  | scheduleCreate => "schedule_create"
  | scheduleSign => "schedule_sign"

end TransactionKind

instance : Wire TransactionKind where
  encode kind := Wire.encode kind.tag
  size _ := 1
  read := do
    let tag ← (Wire.read : Reader UInt8)
    match TransactionKind.ofTag? tag with
    | some kind => return kind
    | none => Reader.fail (.invalidEnum tag)

structure AccountAmount where
  account : AccountId
  amount : Int64
deriving DecidableEq

namespace AccountAmount

def bare (entry : AccountAmount) : AccountAmount :=
  { entry with account := entry.account.bare }

def inspect (entry : AccountAmount) : Inspect :=
  .record "AccountAmount" [("account_id", entry.account.inspect),
    ("amount", .plain (toString entry.amount.toInt))]

end AccountAmount

instance : Wire AccountAmount where
  encode entry := Wire.encode entry.account ++ Wire.encode entry.amount
  size entry := Wire.size entry.account + Wire.size entry.amount
  read := do
    let account ← (Wire.read : Reader AccountId)
    let amount ← (Wire.read : Reader Int64)
    return { account, amount }

inductive TransactionData where
  | transfer (transfers : List AccountAmount)
  | accountCreate (key : PublicKey) (initialBalance : UInt64) (memo : String)
  | fileAppend (file : FileId) (contents : Bytes)
  | topicMessageSubmit (topic : TopicId) (message : Bytes) (chunk : Option ChunkInfo)
  | scheduleCreate (scheduledFee : UInt64) (scheduledMemo : String) (scheduled : TransactionData)
      (payer : Option AccountId) (memo : String)
  | scheduleSign (schedule : ScheduleId)
deriving DecidableEq

/-- The part of a transaction that a schedule can wrap. -/
structure SchedulableBody where
  maxFee : UInt64
  memo : String
  data : TransactionData
deriving DecidableEq

namespace TransactionData

def kind : TransactionData → TransactionKind
  | transfer .. => .transfer
  | accountCreate .. => .accountCreate
  | fileAppend .. => .fileAppend
  | topicMessageSubmit .. => .topicMessageSubmit
  | scheduleCreate .. => .scheduleCreate
  | scheduleSign .. => .scheduleSign

/-- The data without the checksums of the ids in it. -/
def bare : TransactionData → TransactionData
  | transfer transfers => transfer (transfers.map AccountAmount.bare)
  | accountCreate key initialBalance memo => accountCreate key initialBalance memo
  | fileAppend file contents => fileAppend file.bare contents
  | topicMessageSubmit topic message chunk =>
      topicMessageSubmit topic.bare message (chunk.map ChunkInfo.bare)
  | scheduleCreate scheduledFee scheduledMemo scheduled payer memo =>
      scheduleCreate scheduledFee scheduledMemo scheduled.bare (payer.map EntityId.bare) memo
  | scheduleSign schedule => scheduleSign schedule.bare

def same (left right : TransactionData) : Bool :=
  left.bare = right.bare

/-- The first checksum that does not belong to its id on the ledger. A schedule's payer comes before
what it schedules. -/
def validateChecksums (ledger : LedgerId) : TransactionData → Except ChecksumMismatch Unit
  | transfer transfers =>
      transfers.forM fun entry => entry.account.validateChecksum ledger
  | accountCreate .. => .ok ()
  | fileAppend file _ => file.validateChecksum ledger
  | topicMessageSubmit topic _ _ => topic.validateChecksum ledger
  | scheduleCreate _ _ scheduled payer _ => do
      if let some payer := payer then payer.validateChecksum ledger
      scheduled.validateChecksums ledger
  | scheduleSign schedule => schedule.validateChecksum ledger

/-! ## On the wire -/

def longestMemo : Nat := 100

def mostTransfers : Nat := 64

def longestContent : Nat := 1024 * 1024

def encodeFields : TransactionData → Bytes
  | transfer transfers => Wire.encodeList transfers
  | accountCreate key initialBalance memo =>
      Wire.encode key ++ Wire.encode initialBalance ++ Wire.encodeText memo
  | fileAppend file contents => Wire.encode file ++ Wire.encodeOctets contents
  | topicMessageSubmit topic message chunk =>
      Wire.encode topic ++ Wire.encodeOctets message ++ Wire.encode chunk
  | scheduleCreate scheduledFee scheduledMemo scheduled payer memo =>
      Wire.encode scheduledFee ++ Wire.encodeText scheduledMemo
        ++ (Wire.encode scheduled.kind ++ scheduled.encodeFields)
        ++ Wire.encode payer ++ Wire.encodeText memo
  | scheduleSign schedule => Wire.encode schedule

def fieldsSize : TransactionData → Nat
  | transfer transfers => Wire.listSize transfers
  | accountCreate key initialBalance memo =>
      Wire.size key + Wire.size initialBalance + Wire.textSize memo
  | fileAppend file contents => Wire.size file + Wire.octetsSize contents
  | topicMessageSubmit topic message chunk =>
      Wire.size topic + Wire.octetsSize message + Wire.size chunk
  | scheduleCreate scheduledFee scheduledMemo scheduled payer memo =>
      Wire.size scheduledFee + Wire.textSize scheduledMemo
        + (Wire.size scheduled.kind + scheduled.fieldsSize)
        + Wire.size payer + Wire.textSize memo
  | scheduleSign schedule => Wire.size schedule

/-- The fields that follow the kind. `scheduled` reads the data that a schedule wraps. -/
def readFields (scheduled : Reader TransactionData) : TransactionKind → Reader TransactionData
  | .transfer => do
      let transfers ← Wire.readList (Wire.read : Reader AccountAmount) 0 mostTransfers
      return transfer transfers
  | .accountCreate => do
      let key ← (Wire.read : Reader PublicKey)
      let initialBalance ← (Wire.read : Reader UInt64)
      let memo ← Wire.readText longestMemo
      return accountCreate key initialBalance memo
  | .fileAppend => do
      let file ← (Wire.read : Reader FileId)
      let contents ← Wire.readOctets longestContent
      return fileAppend file contents
  | .topicMessageSubmit => do
      let topic ← (Wire.read : Reader TopicId)
      let message ← Wire.readOctets longestContent
      let chunk ← (Wire.read : Reader (Option ChunkInfo))
      return topicMessageSubmit topic message chunk
  | .scheduleCreate => do
      let scheduledFee ← (Wire.read : Reader UInt64)
      let scheduledMemo ← Wire.readText longestMemo
      let inner ← scheduled
      let payer ← (Wire.read : Reader (Option AccountId))
      let memo ← Wire.readText longestMemo
      return scheduleCreate scheduledFee scheduledMemo inner payer memo
  | .scheduleSign => do
      let schedule ← (Wire.read : Reader ScheduleId)
      return scheduleSign schedule

/-- A schedule is refused as soon as its kind is read. -/
def readScheduled : Reader TransactionData := do
  match ← (Wire.read : Reader TransactionKind) with
  | .scheduleCreate => Reader.fail (.invalid .nestedSchedule)
  | kind => readFields (Reader.fail (.invalid .nestedSchedule)) kind

end TransactionData

instance : Wire TransactionData where
  encode data := Wire.encode data.kind ++ data.encodeFields
  size data := Wire.size data.kind + data.fieldsSize
  read := do
    let kind ← (Wire.read : Reader TransactionKind)
    TransactionData.readFields TransactionData.readScheduled kind

def SchedulableBody.bare (body : SchedulableBody) : SchedulableBody :=
  { body with data := body.data.bare }

instance : Wire SchedulableBody where
  encode body := Wire.encode body.maxFee ++ Wire.encodeText body.memo ++ Wire.encode body.data
  size body := Wire.size body.maxFee + Wire.textSize body.memo + Wire.size body.data
  read := do
    let maxFee ← (Wire.read : Reader UInt64)
    let memo ← Wire.readText TransactionData.longestMemo
    let data ← TransactionData.readScheduled
    return { maxFee, memo, data }

end LedgerClient
