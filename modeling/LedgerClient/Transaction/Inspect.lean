import LedgerClient.Transaction.Basic

/-!
Transactions laid out for a reader.
-/

namespace LedgerClient

def ChunkInfo.inspect (info : ChunkInfo) : Inspect :=
  .record "ChunkInfo" [("initial_transaction_id", info.initialId.inspect),
    ("number", .number info.number.toNat), ("total", .number info.total.toNat)]

def Inspect.octets (bytes : Bytes) : Inspect :=
  .listOf (fun byte : UInt8 => .number byte.toNat) bytes

namespace TransactionData

def inspectSchedule (scheduledFee : UInt64) (scheduledMemo : String) (scheduled : Inspect)
    (payer : Option AccountId) (memo : String) : Inspect :=
  .record "ScheduleCreate"
    [("scheduled", .record "SchedulableBody" [("max_fee", .number scheduledFee.toNat),
        ("memo", .quoted scheduledMemo), ("data", scheduled)]),
      ("payer", .option EntityId.inspect payer), ("memo", .quoted memo)]

def inspect : TransactionData → Inspect
  | transfer transfers => .record "Transfer" [("transfers", .listOf AccountAmount.inspect transfers)]
  | accountCreate key initialBalance memo =>
      .record "AccountCreate" [("key", .plain (Hex.encode key.bytes)),
        ("initial_balance", .number initialBalance.toNat), ("memo", .quoted memo)]
  | fileAppend file contents =>
      .record "FileAppend" [("file_id", file.inspect), ("contents", .octets contents)]
  | topicMessageSubmit topic message chunk =>
      .record "TopicMessageSubmit" [("topic_id", topic.inspect), ("message", .octets message),
        ("chunk_info", .option ChunkInfo.inspect chunk)]
  | scheduleCreate scheduledFee scheduledMemo scheduled payer memo =>
      inspectSchedule scheduledFee scheduledMemo scheduled.inspect payer memo
  | scheduleSign schedule => .record "ScheduleSign" [("schedule_id", schedule.inspect)]

end TransactionData

/-- A payload looks like the data it becomes, except that a message stands in no chunk. -/
def Payload.inspect : Payload → Inspect
  | topicMessageSubmit topic message =>
      .record "TopicMessageSubmit" [("topic_id", topic.inspect), ("message", .octets message)]
  | payload => (payload.data none).inspect

def Transaction.inspect (transaction : Transaction) : Inspect :=
  .record "Transaction"
    [("data", transaction.payload.inspect),
      ("transaction_id", .option TransactionId.inspect transaction.id),
      ("node_account_ids", .option (.listOf EntityId.inspect) transaction.nodes),
      ("max_fee", .option (fun fee : UInt64 => .number fee.toNat) transaction.maxFee),
      ("memo", .quoted transaction.memo), ("frozen", .bool transaction.isFrozen),
      ("sealed", .bool transaction.isSealed)]

end LedgerClient
