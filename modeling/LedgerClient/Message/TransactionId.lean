import LedgerClient.Wire.Encoding

/-!
Transaction ids. An id names a transaction from its first submission to its receipt, through all
retries: the account that pays for it and the moment from which it is valid. The chunks of one
transaction share both and are told apart by their nonce.
-/

namespace LedgerClient

structure TransactionId where
  payer : AccountId
  validStart : Timestamp
  scheduled : Bool
  nonce : Option UInt32
deriving DecidableEq

namespace TransactionId

def make (payer : AccountId) (validStart : Timestamp) : TransactionId :=
  { payer, validStart, scheduled := false, nonce := none }

/-- How far before the present a fresh id starts: from five to under eight seconds, by the draw. A
node whose clock is slow then does not find it not yet valid. -/
def backdate (draw : Nat) : Duration :=
  Duration.ofNanos (5000000000 + draw % 3000000000)

def generate (payer : AccountId) (now : Timestamp) (draw : Nat) : TransactionId :=
  make payer (now.saturatingSub (backdate draw))

def withNonce (id : TransactionId) (nonce : UInt32) : TransactionId :=
  { id with nonce := some nonce }

def withScheduled (id : TransactionId) (scheduled : Bool) : TransactionId :=
  { id with scheduled }

def bare (id : TransactionId) : TransactionId :=
  { id with payer := id.payer.bare }

def same (left right : TransactionId) : Bool :=
  left.bare = right.bare

def text (id : TransactionId) : String :=
  s!"{id.payer.text}@{id.validStart.text}" ++ (if id.scheduled then "?scheduled" else "")
    ++ (match id.nonce with
      | none => ""
      | some nonce => s!"/{nonce.toNat}")

def inspect (id : TransactionId) : Inspect :=
  .record "TransactionId" [("payer", id.payer.inspect),
    ("valid_start", .record "Timestamp" [("seconds", .number id.validStart.seconds.toNat),
      ("nanos", .number id.validStart.nanos.toNat)]),
    ("scheduled", .bool id.scheduled),
    ("nonce", .option (fun nonce : UInt32 => .number nonce.toNat) id.nonce)]

end TransactionId

instance : Wire TransactionId where
  encode id := Wire.encode id.payer ++ Wire.encode id.validStart ++ Wire.encode id.scheduled
    ++ Wire.encode id.nonce
  size id := Wire.size id.payer + Wire.size id.validStart + Wire.size id.scheduled
    + Wire.size id.nonce
  read := do
    let payer ← (Wire.read : Reader AccountId)
    let validStart ← (Wire.read : Reader Timestamp)
    let scheduled ← (Wire.read : Reader Bool)
    let nonce ← (Wire.read : Reader (Option UInt32))
    return { payer, validStart, scheduled, nonce }

/-- Where a message stands among the chunks of its transaction, counted from one. -/
structure ChunkInfo where
  initialId : TransactionId
  number : UInt32
  total : UInt32
deriving DecidableEq

def ChunkInfo.bare (info : ChunkInfo) : ChunkInfo :=
  { info with initialId := info.initialId.bare }

instance : Wire ChunkInfo where
  encode info := Wire.encode info.initialId ++ Wire.encode info.number ++ Wire.encode info.total
  size info := Wire.size info.initialId + Wire.size info.number + Wire.size info.total
  read := do
    let initialId ← (Wire.read : Reader TransactionId)
    let number ← (Wire.read : Reader UInt32)
    let total ← (Wire.read : Reader UInt32)
    if number = 0 || number > total then Reader.fail (.invalid .chunkNumberOutOfRange)
    else return { initialId, number, total }

end LedgerClient
