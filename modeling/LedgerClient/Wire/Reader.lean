import LedgerClient.Bytes

/-!
Reading values from the front of a byte string. A reader says what it read or why it could not,
and in both cases what is left: bytes that were taken before a failure stay taken, and a value for
which too few bytes are left takes none.
-/

namespace LedgerClient

/-- A rule that a well-formed encoding still broke. -/
inductive Defect where
  | bytesTooLong
  | notText
  | nanosOutOfRange
  | chunkNumberOutOfRange
  | nestedSchedule
  | wrongKind
  | emptyChunk
  | bodiesDiffer
  | nodesDiffer
  | chunksOutOfOrder
  | noChunks
  | notSingleChunk
  | differentFiles
  | inconsistentMessage
deriving DecidableEq

namespace Defect

def subject : Defect → String
  | bytesTooLong => "Bytes"
  | notText => "String"
  | nanosOutOfRange => "Timestamp"
  | chunkNumberOutOfRange => "ChunkInfo"
  | nestedSchedule => "TransactionData"
  | _ => "TransactionList"

def reason : Defect → String
  | bytesTooLong => "too long"
  | notText => "invalid UTF-8"
  | nanosOutOfRange => "nanos out of range"
  | chunkNumberOutOfRange => "chunk number out of range"
  | nestedSchedule => "schedule create cannot be scheduled"
  | wrongKind => "body does not match transaction kind"
  | emptyChunk => "empty chunk"
  | bodiesDiffer => "bodies of a chunk differ"
  | nodesDiffer => "chunks target different nodes"
  | chunksOutOfOrder => "chunk ids out of order"
  | noChunks => "no chunks"
  | notSingleChunk => "expected a single chunk"
  | differentFiles => "chunks append to different files"
  | inconsistentMessage => "inconsistent message chunks"

end Defect

inductive DecodeError where
  | endOfBuffer
  | extraData (count : Nat)
  | invalidVarint
  | invalidBool
  | invalidEnum (tag : UInt8)
  | invalidLength (length : Nat)
  | invalid (defect : Defect)
  | notAPoint
deriving DecidableEq

def DecodeError.name : DecodeError → String
  | endOfBuffer => "EndOfBuffer"
  | extraData _ => "ExtraData"
  | invalidVarint => "InvalidVarint"
  | invalidBool => "InvalidBool"
  | invalidEnum _ => "InvalidEnum"
  | invalidLength _ => "InvalidLength"
  | invalid _ => "Invalid"
  | notAPoint => "Wrapped"

def DecodeError.message : DecodeError → String
  | endOfBuffer => "Unexpected End-of-Buffer: Not enough bytes remaining to read data"
  | extraData count => s!"Extra Data: {count} bytes remained in buffer after decoding"
  | invalidVarint => "Invalid 4-byte varint"
  | invalidBool => "Invalid Bool: Expected 0 or 1, found different value"
  | invalidEnum tag => s!"Invalid Enum: Expected a valid enum variant, found {tag.toNat}"
  | invalidLength length => s!"Invalid Length: Decoded length {length} is outside the allowed range"
  | invalid defect => s!"Validation Error: Context({defect.subject}), Message({defect.reason})"
  | notAPoint => "Wrapped Error: Context(ed25519)"

def Reader (α : Type) : Type :=
  Bytes → Except DecodeError α × Bytes

namespace Reader

variable {α β : Type}

def run (reader : Reader α) (bytes : Bytes) : Except DecodeError α × Bytes :=
  reader bytes

def pure (value : α) : Reader α :=
  fun bytes => (.ok value, bytes)

def bind (reader : Reader α) (next : α → Reader β) : Reader β :=
  fun bytes =>
    match reader bytes with
    | (.ok value, rest) => next value rest
    | (.error error, rest) => (.error error, rest)

instance : Monad Reader where
  pure := Reader.pure
  bind := Reader.bind

def fail (error : DecodeError) : Reader α :=
  fun bytes => (.error error, bytes)

theorem run_pure (value : α) (bytes : Bytes) :
    (Pure.pure value : Reader α).run bytes = (.ok value, bytes) := rfl

theorem run_fail (error : DecodeError) (bytes : Bytes) :
    (fail error : Reader α).run bytes = (.error error, bytes) := rfl

theorem run_bind_ok {reader : Reader α} {next : α → Reader β} {bytes rest : Bytes} {value : α}
    (taken : reader.run bytes = (.ok value, rest)) :
    (reader >>= next).run bytes = (next value).run rest := by
  change Reader.bind reader next bytes = _
  simp only [run] at taken
  simp [Reader.bind, taken, run]

theorem run_bind_error {reader : Reader α} {next : α → Reader β} {bytes rest : Bytes}
    {error : DecodeError} (failed : reader.run bytes = (.error error, rest)) :
    (reader >>= next).run bytes = (.error error, rest) := by
  change Reader.bind reader next bytes = _
  simp only [run] at failed
  simp [Reader.bind, failed]

def take (count : Nat) : Reader Bytes :=
  fun bytes =>
    let taken := bytes.take count
    if taken.length = count then (.ok taken, bytes.drop count) else (.error .endOfBuffer, bytes)

theorem run_take_append {count : Nat} {taken : Bytes} (size : taken.length = count) (rest : Bytes) :
    (take count).run (taken ++ rest) = (.ok taken, rest) := by
  subst size
  simp [run, take]

def decode (reader : Reader α) (bytes : Bytes) : Except DecodeError α :=
  match reader bytes with
  | (.error error, _) => .error error
  | (.ok value, []) => .ok value
  | (.ok _, rest) => .error (.extraData rest.length)

end Reader

end LedgerClient
