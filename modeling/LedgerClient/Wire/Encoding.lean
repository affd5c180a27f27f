import LedgerClient.Wire.Reader
import LedgerClient.Signature.Ed25519
import LedgerClient.Entity.Id
import LedgerClient.Status
import LedgerClient.Time.Timestamp

/-!
The wire format. Numbers have a fixed size, most significant byte first. An optional value follows
a byte that says whether it is there. A list follows its length, which is written seven bits to a
byte, lowest first; texts follow a length of four bytes. Each type says how a value is written, how
long it gets, and how it is read back.
-/

namespace LedgerClient

class Wire (α : Type) where
  encode : α → Bytes
  size : α → Nat
  read : Reader α

namespace Wire

def decode {α : Type} [Wire α] (bytes : Bytes) : Except DecodeError α :=
  (Wire.read : Reader α).decode bytes

/-! ## Numbers and flags -/

instance : Wire UInt8 where
  encode value := Bytes.bigEndian 1 value.toNat
  size _ := 1
  read := do
    let bytes ← Reader.take 1
    return UInt8.ofNat (Bytes.ofBigEndian bytes)

instance : Wire UInt32 where
  encode value := Bytes.bigEndian 4 value.toNat
  size _ := 4
  read := do
    let bytes ← Reader.take 4
    return UInt32.ofNat (Bytes.ofBigEndian bytes)

instance : Wire UInt64 where
  encode value := Bytes.bigEndian 8 value.toNat
  size _ := 8
  read := do
    let bytes ← Reader.take 8
    return UInt64.ofNat (Bytes.ofBigEndian bytes)

/-- Negative amounts are written as their remainder modulo 2⁶⁴. -/
instance : Wire Int64 where
  encode value := Wire.encode value.toUInt64
  size _ := 8
  read := do
    let value ← (Wire.read : Reader UInt64)
    return value.toInt64

instance : Wire Bool where
  encode value := if value then [1] else [0]
  size _ := 1
  read := do
    let byte ← (Wire.read : Reader UInt8)
    if byte = 0 then return false
    else if byte = 1 then return true
    else Reader.fail .invalidBool

instance {α : Type} [Wire α] : Wire (Option α) where
  encode
    | none => Wire.encode false
    | some value => Wire.encode true ++ Wire.encode value
  size
    | none => 1
    | some value => 1 + Wire.size value
  read := do
    if ← (Wire.read : Reader Bool) then
      let value ← (Wire.read : Reader α)
      return some value
    else return none

/-! ## Lengths, lists and texts -/

def encodeLength (length : Nat) : Bytes :=
  if length < 128 then [UInt8.ofNat length]
  else UInt8.ofNat (128 + length % 128) :: encodeLength (length / 128)
termination_by length
decreasing_by omega

def lengthSize (length : Nat) : Nat :=
  1 + Nat.log2 length / 7

/-- A length is at most 32 bits in at most five bytes, and its last byte is not zero unless it is
the only one. `first` says whether this is the first byte, `left` how many may follow. -/
def readLengthFrom (first : Bool) : (left : Nat) → Reader Nat
  | 0 => do
      let byte ← (Wire.read : Reader UInt8)
      if byte = 0 || byte > 15 then Reader.fail .invalidVarint else return byte.toNat
  | left + 1 => do
      let byte ← (Wire.read : Reader UInt8)
      if byte = 0 && !first then Reader.fail .invalidVarint
      else if byte < 128 then return byte.toNat
      else
        let high ← readLengthFrom false left
        return byte.toNat - 128 + 128 * high

def readLength (least most : Nat) : Reader Nat := do
  let length ← readLengthFrom true 4
  if least ≤ length ∧ length ≤ most then return length else Reader.fail (.invalidLength length)

def encodeOctets (bytes : Bytes) : Bytes :=
  encodeLength bytes.length ++ bytes

def octetsSize (bytes : Bytes) : Nat :=
  lengthSize bytes.length + bytes.length

def readOctets (most : Nat) : Reader Bytes := do
  let length ← readLength 0 most
  Reader.take length

def encodeList {α : Type} [Wire α] (items : List α) : Bytes :=
  encodeLength items.length ++ items.flatMap Wire.encode

def total {α : Type} (size : α → Nat) : List α → Nat
  | [] => 0
  | item :: rest => size item + total size rest

def listSize {α : Type} [Wire α] (items : List α) : Nat :=
  lengthSize items.length + total Wire.size items

def readTimes {α : Type} (item : Reader α) : (count : Nat) → Reader (List α)
  | 0 => return []
  | count + 1 => do
      let first ← item
      let rest ← readTimes item count
      return first :: rest

def readList {α : Type} (item : Reader α) (least most : Nat) : Reader (List α) := do
  let length ← readLength least most
  readTimes item length

def encodeBlock (bytes : Bytes) : Bytes :=
  Bytes.bigEndian 4 bytes.length ++ bytes

def blockSize (bytes : Bytes) : Nat :=
  4 + bytes.length

/-- A block that is announced as longer than `most` is refused before its bytes are looked for. -/
def readBlock (most : Nat) : Reader Bytes := do
  let length ← (Wire.read : Reader UInt32)
  if length.toNat > most then Reader.fail (.invalid .bytesTooLong)
  else Reader.take length.toNat

def encodeText (text : String) : Bytes :=
  encodeBlock (Bytes.ofText text)

def textSize (text : String) : Nat :=
  blockSize (Bytes.ofText text)

def readText (most : Nat) : Reader String := do
  let bytes ← readBlock most
  match Bytes.text? bytes with
  | some text => return text
  | none => Reader.fail (.invalid .notText)

/-! ## Keys and signatures -/

def readExactly (count : Nat) : Reader { bytes : Bytes // bytes.length = count } :=
  fun bytes =>
    if size : (bytes.take count).length = count then
      (.ok ⟨bytes.take count, size⟩, bytes.drop count)
    else (.error .endOfBuffer, bytes)

instance : Wire PrivateKey where
  encode key := key.bytes
  size _ := 32
  read := do
    let ⟨bytes, length_bytes⟩ ← readExactly 32
    return { bytes, length_bytes }

/-- Only keys that name a point of the curve are read. -/
instance : Wire PublicKey where
  encode key := key.bytes
  size _ := 32
  read := do
    let ⟨bytes, length_bytes⟩ ← readExactly 32
    let key : PublicKey := { bytes, length_bytes }
    if key.isPoint then return key else Reader.fail .notAPoint

instance : Wire Signature where
  encode signature := signature.bytes
  size _ := 64
  read := do
    let ⟨bytes, length_bytes⟩ ← readExactly 64
    return { bytes, length_bytes }

/-! ## Ids, moments and statuses -/

instance {kind : EntityKind} : Wire (EntityId kind) where
  encode id := Wire.encode id.shard ++ Wire.encode id.realm ++ Wire.encode id.num
  size id := Wire.size id.shard + Wire.size id.realm + Wire.size id.num
  read := do
    let shard ← (Wire.read : Reader UInt64)
    let realm ← (Wire.read : Reader UInt64)
    let num ← (Wire.read : Reader UInt64)
    return EntityId.ofNumbers shard realm num

instance : Wire Timestamp where
  encode moment := Wire.encode moment.seconds ++ Wire.encode moment.nanos
  size moment := Wire.size moment.seconds + Wire.size moment.nanos
  read := do
    let seconds ← (Wire.read : Reader UInt64)
    let nanos ← (Wire.read : Reader UInt32)
    if nanos.toNat ≥ 1000000000 then Reader.fail (.invalid .nanosOutOfRange)
    else return { seconds, nanos }

instance : Wire Status where
  encode status := Wire.encode status.code
  size _ := 4
  read := do
    let code ← (Wire.read : Reader UInt32)
    return Status.ofCode code

end Wire

end LedgerClient
