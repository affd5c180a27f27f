import LedgerClient.Error
import LedgerClient.Transaction.Transfers

/-!
What a caller asks of a transaction. A payload becomes the data of one body, or, if it carries
content that is too long for one, the data of a chunk for each part of the content; and the data of
all chunks give the payload back.
-/

namespace LedgerClient

inductive Payload where
  | transfer (transfers : List AccountAmount)
  | accountCreate (key : PublicKey) (initialBalance : UInt64) (memo : String)
  | fileAppend (file : FileId) (contents : Bytes)
  | topicMessageSubmit (topic : TopicId) (message : Bytes)
  | scheduleCreate (scheduled : SchedulableBody) (payer : Option AccountId) (memo : String)
  | scheduleSign (schedule : ScheduleId)
deriving DecidableEq

/-- One part of a content: its place counted from zero, how many parts there are, and the id of the
first of them. -/
structure Chunk where
  index : Nat
  total : Nat
  initialId : TransactionId
  content : Bytes

namespace Payload

def kind : Payload → TransactionKind
  | transfer _ => .transfer
  | accountCreate .. => .accountCreate
  | fileAppend .. => .fileAppend
  | topicMessageSubmit .. => .topicMessageSubmit
  | scheduleCreate .. => .scheduleCreate
  | scheduleSign _ => .scheduleSign

/-- The fee that is offered when neither the transaction nor the client names one. -/
def defaultMaxFee : Payload → UInt64
  | transfer _ => 100000000
  | accountCreate .. => 500000000
  | fileAppend .. => 500000000
  | topicMessageSubmit .. => 200000000
  | scheduleCreate .. => 500000000
  | scheduleSign _ => 500000000

def method : Payload → Method
  | transfer _ => { service := .crypto, name := "cryptoTransfer" }
  | accountCreate .. => { service := .crypto, name := "createAccount" }
  | fileAppend .. => { service := .file, name := "appendContent" }
  | topicMessageSubmit .. => { service := .consensus, name := "submitMessage" }
  | scheduleCreate .. => { service := .schedule, name := "createSchedule" }
  | scheduleSign _ => { service := .schedule, name := "signSchedule" }

/-- The content that may be spread over chunks. -/
def content? : Payload → Option Bytes
  | fileAppend _ contents => some contents
  | topicMessageSubmit _ message => some message
  | _ => none

/-- Where a message stands among several chunks; a single chunk says nothing. Both counts have 32
bits. They are exact for fewer than `2 ^ 32` chunks and wrap from there on, where arithmetic that is
checked for overflow would not get past the last number. -/
def chunkInfo (chunk : Chunk) : Option ChunkInfo :=
  if 1 < chunk.total then
    some
      { initialId := chunk.initialId
        number := UInt32.ofNat chunk.index + 1
        total := UInt32.ofNat chunk.total }
  else none

/-- The data of a body. With a chunk, its content stands in for the whole. -/
def data (payload : Payload) (chunk : Option Chunk) : TransactionData :=
  match payload with
  | transfer transfers => .transfer transfers
  | accountCreate key initialBalance memo => .accountCreate key initialBalance memo
  | fileAppend file contents =>
      match chunk with
      | none => .fileAppend file contents
      | some chunk => .fileAppend file chunk.content
  | topicMessageSubmit topic message =>
      match chunk with
      | none => .topicMessageSubmit topic message none
      | some chunk => .topicMessageSubmit topic chunk.content (chunkInfo chunk)
  | scheduleCreate scheduled payer memo =>
      .scheduleCreate scheduled.maxFee scheduled.memo scheduled.data payer memo
  | scheduleSign schedule => .scheduleSign schedule

/-- The payload that asks for this data, with one entry for each account of a transfer. -/
def ofData : TransactionData → Payload
  | .transfer transfers => transfer (Transfers.ofEntries transfers)
  | .accountCreate key initialBalance memo => accountCreate key initialBalance memo
  | .fileAppend file contents => fileAppend file contents
  | .topicMessageSubmit topic message _ => topicMessageSubmit topic message
  | .scheduleCreate maxFee inner data payer memo =>
      scheduleCreate { maxFee, memo := inner, data } payer memo
  | .scheduleSign schedule => scheduleSign schedule

/-- The data that a schedule carries out later. -/
def schedulable (payload : Payload) : Except Error TransactionData :=
  match payload with
  | scheduleCreate .. => .error (.notSchedulable .scheduleCreate)
  | payload => .ok (payload.data none)

def validateChecksums (ledger : LedgerId) (payload : Payload) : Except ChecksumMismatch Unit :=
  match payload with
  | transfer transfers => transfers.forM fun entry => entry.account.validateChecksum ledger
  | accountCreate .. => .ok ()
  | fileAppend file _ => file.validateChecksum ledger
  | topicMessageSubmit topic _ => topic.validateChecksum ledger
  | scheduleCreate scheduled payer _ => do
      if let some payer := payer then payer.validateChecksum ledger
      scheduled.data.validateChecksums ledger
  | scheduleSign schedule => schedule.validateChecksum ledger

/-! ## From the data of chunks -/

def single (chunks : List TransactionData) : Except Error TransactionData :=
  match chunks with
  | [data] => .ok data
  | _ => .error (.invalid .notSingleChunk)

/-- The content of all chunks in order, which have to append to one file. -/
def joinFile (file : Option FileId) (contents : Bytes) : List TransactionData → Except Error Payload
  | [] =>
      match file with
      | some file => .ok (fileAppend file contents)
      | none => .error (.invalid .wrongKind)
  | .fileAppend next part :: rest =>
      let file := file.getD next
      if file.same next then joinFile (some file) (contents ++ part) rest
      else .error (.invalid .differentFiles)
  | _ :: _ => .error (.invalid .wrongKind)

/-- The message of all chunks in order. Each of several has to say its own place and their number,
and all go to one topic. -/
def joinMessage (total index : Nat) (topic : Option TopicId) (message : Bytes) :
    List TransactionData → Except Error Payload
  | [] =>
      match topic with
      | some topic => .ok (topicMessageSubmit topic message)
      | none => .error (.invalid .wrongKind)
  | .topicMessageSubmit next part info :: rest =>
      let topic := topic.getD next
      let inPlace := match info with
        | some info => info.number.toNat = index + 1 && info.total.toNat = total
        | none => total = 1
      if inPlace && topic.same next then
        joinMessage total (index + 1) (some topic) (message ++ part) rest
      else .error (.invalid .inconsistentMessage)
  | _ :: _ => .error (.invalid .wrongKind)

/-- The payload of a kind whose chunks hold this data. -/
def ofChunks (kind : TransactionKind) (chunks : List TransactionData) : Except Error Payload :=
  match kind with
  | .fileAppend => joinFile none [] chunks
  | .topicMessageSubmit => joinMessage chunks.length 0 none [] chunks
  | kind => do
      match kind, ← single chunks with
      | .transfer, .transfer transfers => return transfer transfers
      | .accountCreate, .accountCreate key initialBalance memo =>
          return accountCreate key initialBalance memo
      | .scheduleCreate, .scheduleCreate maxFee inner data payer memo =>
          return scheduleCreate { maxFee, memo := inner, data } payer memo
      | .scheduleSign, .scheduleSign schedule => return scheduleSign schedule
      | _, _ => throw (.invalid .wrongKind)

end Payload

end LedgerClient
