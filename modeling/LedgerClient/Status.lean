/-!
Status codes, with which nodes answer requests and receipts report outcomes. A code that this
client has no name for is kept as it is.
-/

namespace LedgerClient

inductive Status where
  | ok
  | invalidTransaction
  | payerAccountNotFound
  | invalidNodeAccount
  | transactionExpired
  | invalidTransactionStart
  | invalidTransactionDuration
  | invalidSignature
  | memoTooLong
  | insufficientTxFee
  | insufficientPayerBalance
  | duplicateTransaction
  | busy
  | notSupported
  | invalidFileId
  | invalidAccountId
  | invalidTransactionId
  | receiptNotFound
  | unknown
  | success
  | keyRequired
  | transactionOversize
  | platformTransactionNotCreated
  | invalidTopicId
  | invalidChunkNumber
  | invalidChunkTransactionId
  | platformNotActive
  | invalidScheduleId
  | scheduleAlreadyExecuted
  | throttledAtConsensus
  | unrecognized (code : UInt32)
deriving DecidableEq

namespace Status

/-- The named statuses with their codes and names. -/
def named : List (Status × UInt32 × String) :=
  [(ok, 0, "OK"),
    (invalidTransaction, 1, "INVALID_TRANSACTION"),
    (payerAccountNotFound, 2, "PAYER_ACCOUNT_NOT_FOUND"),
    (invalidNodeAccount, 3, "INVALID_NODE_ACCOUNT"),
    (transactionExpired, 4, "TRANSACTION_EXPIRED"),
    (invalidTransactionStart, 5, "INVALID_TRANSACTION_START"),
    (invalidTransactionDuration, 6, "INVALID_TRANSACTION_DURATION"),
    (invalidSignature, 7, "INVALID_SIGNATURE"),
    (memoTooLong, 8, "MEMO_TOO_LONG"),
    (insufficientTxFee, 9, "INSUFFICIENT_TX_FEE"),
    (insufficientPayerBalance, 10, "INSUFFICIENT_PAYER_BALANCE"),
    (duplicateTransaction, 11, "DUPLICATE_TRANSACTION"),
    (busy, 12, "BUSY"),
    (notSupported, 13, "NOT_SUPPORTED"),
    (invalidFileId, 14, "INVALID_FILE_ID"),
    (invalidAccountId, 15, "INVALID_ACCOUNT_ID"),
    (invalidTransactionId, 17, "INVALID_TRANSACTION_ID"),
    (receiptNotFound, 18, "RECEIPT_NOT_FOUND"),
    (unknown, 21, "UNKNOWN"),
    (success, 22, "SUCCESS"),
    (keyRequired, 26, "KEY_REQUIRED"),
    (transactionOversize, 43, "TRANSACTION_OVERSIZE"),
    (platformTransactionNotCreated, 48, "PLATFORM_TRANSACTION_NOT_CREATED"),
    (invalidTopicId, 150, "INVALID_TOPIC_ID"),
    (invalidChunkNumber, 164, "INVALID_CHUNK_NUMBER"),
    (invalidChunkTransactionId, 165, "INVALID_CHUNK_TRANSACTION_ID"),
    (platformNotActive, 175, "PLATFORM_NOT_ACTIVE"),
    (invalidScheduleId, 201, "INVALID_SCHEDULE_ID"),
    (scheduleAlreadyExecuted, 212, "SCHEDULE_ALREADY_EXECUTED"),
    (throttledAtConsensus, 366, "THROTTLED_AT_CONSENSUS")]

def ofCode (code : UInt32) : Status :=
  match named.find? (fun entry => entry.2.1 = code) with
  | some entry => entry.1
  | none => unrecognized code

def code : Status → UInt32
  | unrecognized code => code
  | status =>
      match named.find? (fun entry => entry.1 = status) with
      | some entry => entry.2.1
      | none => 0

def name (status : Status) : String :=
  match named.find? (fun entry => entry.1 = status) with
  | some entry => entry.2.2
  | none => "UNRECOGNIZED"

def text : Status → String
  | unrecognized code => s!"UNRECOGNIZED({code.toNat})"
  | status => status.name

def isRecognized : Status → Bool
  | unrecognized _ => false
  | _ => true

/-- A receipt with this status is not settled yet. -/
def isPending : Status → Bool
  | unknown | busy | receiptNotFound | ok => true
  | _ => false

theorem isPending_iff {status : Status} :
    status.isPending = true ↔ status ∈ [unknown, busy, receiptNotFound, ok] := by
  unfold isPending
  split <;> simp_all

end Status

end LedgerClient
