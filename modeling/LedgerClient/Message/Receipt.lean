import LedgerClient.Message.TransactionId

/-!
Receipts: what became of a transaction once the ledger has decided it, and the entity it made.
-/

namespace LedgerClient

structure Receipt where
  status : Status
  account : Option AccountId
  file : Option FileId
  topic : Option TopicId
  schedule : Option ScheduleId
  topicSequenceNumber : UInt64
  scheduledTransactionId : Option TransactionId
deriving DecidableEq

namespace Receipt

def ofStatus (status : Status) : Receipt where
  status := status
  account := none
  file := none
  topic := none
  schedule := none
  topicSequenceNumber := 0
  scheduledTransactionId := none

def isPending (receipt : Receipt) : Bool :=
  receipt.status.isPending

theorem isPending_eq_false_iff {receipt : Receipt} :
    receipt.isPending = false ↔ receipt.status ∉ [.unknown, .busy, .receiptNotFound, .ok] := by
  rw [← Bool.not_eq_true, isPending, Status.isPending_iff]

def bare (receipt : Receipt) : Receipt :=
  { receipt with
    account := receipt.account.map EntityId.bare
    file := receipt.file.map EntityId.bare
    topic := receipt.topic.map EntityId.bare
    schedule := receipt.schedule.map EntityId.bare
    scheduledTransactionId := receipt.scheduledTransactionId.map TransactionId.bare }

end Receipt

instance : Wire Receipt where
  encode receipt := Wire.encode receipt.status ++ Wire.encode receipt.account
    ++ Wire.encode receipt.file ++ Wire.encode receipt.topic ++ Wire.encode receipt.schedule
    ++ Wire.encode receipt.topicSequenceNumber ++ Wire.encode receipt.scheduledTransactionId
  size receipt := Wire.size receipt.status + Wire.size receipt.account + Wire.size receipt.file
    + Wire.size receipt.topic + Wire.size receipt.schedule + Wire.size receipt.topicSequenceNumber
    + Wire.size receipt.scheduledTransactionId
  read := do
    let status ← (Wire.read : Reader Status)
    let account ← (Wire.read : Reader (Option AccountId))
    let file ← (Wire.read : Reader (Option FileId))
    let topic ← (Wire.read : Reader (Option TopicId))
    let schedule ← (Wire.read : Reader (Option ScheduleId))
    let topicSequenceNumber ← (Wire.read : Reader UInt64)
    let scheduledTransactionId ← (Wire.read : Reader (Option TransactionId))
    return { status, account, file, topic, schedule, topicSequenceNumber, scheduledTransactionId }

end LedgerClient
