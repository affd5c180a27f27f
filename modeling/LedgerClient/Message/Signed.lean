import LedgerClient.Message.Data

/-!
Bodies, signatures and the lists in which frozen transactions are exchanged. A body is what gets
signed and sent to one node; its bytes never change once they are written, and only the list of
signatures beside them grows.
-/

namespace LedgerClient

structure TransactionBody where
  transactionId : TransactionId
  node : AccountId
  maxFee : UInt64
  validSeconds : UInt64
  memo : String
  data : TransactionData
deriving DecidableEq

def TransactionBody.bare (body : TransactionBody) : TransactionBody :=
  { body with
    transactionId := body.transactionId.bare
    node := body.node.bare
    data := body.data.bare }

instance : Wire TransactionBody where
  encode body := Wire.encode body.transactionId ++ Wire.encode body.node ++ Wire.encode body.maxFee
    ++ Wire.encode body.validSeconds ++ Wire.encodeText body.memo ++ Wire.encode body.data
  size body := Wire.size body.transactionId + Wire.size body.node + Wire.size body.maxFee
    + Wire.size body.validSeconds + Wire.textSize body.memo + Wire.size body.data
  read := do
    let transactionId ← (Wire.read : Reader TransactionId)
    let node ← (Wire.read : Reader AccountId)
    let maxFee ← (Wire.read : Reader UInt64)
    let validSeconds ← (Wire.read : Reader UInt64)
    let memo ← Wire.readText TransactionData.longestMemo
    let data ← (Wire.read : Reader TransactionData)
    return { transactionId, node, maxFee, validSeconds, memo, data }

structure SignaturePair where
  key : PublicKey
  signature : Signature
deriving DecidableEq

/-- What is signed for a body: the bytes behind the name of their purpose, so that a signature over
a transaction is never one over anything else. -/
def signedMessage (body : Bytes) : Bytes :=
  Wire.encodeOctets (Bytes.ofText "_MERIDIAN_TX") ++ body

def SignaturePair.verifies (pair : SignaturePair) (body : Bytes) : Bool :=
  pair.key.verify (signedMessage body) pair.signature

instance : Wire SignaturePair where
  encode pair := Wire.encode pair.key ++ Wire.encode pair.signature
  size pair := Wire.size pair.key + Wire.size pair.signature
  read := do
    let key ← (Wire.read : Reader PublicKey)
    let signature ← (Wire.read : Reader Signature)
    return { key, signature }

/-- Something that can sign bodies under one key: a private key, or a device that holds one. -/
structure Signer where
  key : PublicKey
  sign : Bytes → Signature

def Signer.pair (signer : Signer) (body : Bytes) : SignaturePair :=
  { key := signer.key, signature := signer.sign body }

def PrivateKey.signer (key : PrivateKey) : Signer :=
  let owner := key.publicKey
  { key := owner, sign := fun body => key.signAs owner (signedMessage body) }

structure SignedTransaction where
  body : Bytes
  signatures : List SignaturePair
deriving DecidableEq

namespace SignedTransaction

def ofBody (body : TransactionBody) : SignedTransaction :=
  { body := Wire.encode body, signatures := [] }

def readBody (signed : SignedTransaction) : Except DecodeError TransactionBody :=
  Wire.decode signed.body

def isSignedBy (signed : SignedTransaction) (key : PublicKey) : Bool :=
  signed.signatures.any (·.key = key)

/-- A key signs once: a second signature of it is dropped. -/
def add (signed : SignedTransaction) (pair : SignaturePair) : SignedTransaction :=
  if signed.isSignedBy pair.key then signed
  else { signed with signatures := signed.signatures ++ [pair] }

def signWith (signed : SignedTransaction) (signer : Signer) : SignedTransaction :=
  if signed.isSignedBy signer.key then signed else signed.add (signer.pair signed.body)

/-- The hash of the body, by which the ledger knows what was sent. -/
def hash (signed : SignedTransaction) : Bytes :=
  Sha256.digest signed.body

def mostSignatures : Nat := 64

def longestBody : Nat := TransactionData.longestContent + 4096

end SignedTransaction

instance : Wire SignedTransaction where
  encode signed := Wire.encodeOctets signed.body ++ Wire.encodeList signed.signatures
  size signed := Wire.octetsSize signed.body + Wire.listSize signed.signatures
  read := do
    let body ← Wire.readOctets SignedTransaction.longestBody
    let signatures ← Wire.readList (Wire.read : Reader SignaturePair) 0
      SignedTransaction.mostSignatures
    return { body, signatures }

/-- A node's answer to a submitted transaction, before it takes part in consensus. -/
structure SubmitResponse where
  precheck : Status
  cost : UInt64
deriving DecidableEq

instance : Wire SubmitResponse where
  encode response := Wire.encode response.precheck ++ Wire.encode response.cost
  size response := Wire.size response.precheck + Wire.size response.cost
  read := do
    let precheck ← (Wire.read : Reader Status)
    let cost ← (Wire.read : Reader UInt64)
    return { precheck, cost }

/-- A frozen transaction as it is handed to co-signers: for every chunk, one signed body for every
node it may be sent to. -/
structure TransactionList where
  kind : TransactionKind
  chunks : List (List SignedTransaction)
deriving DecidableEq

namespace TransactionList

def mostChunks : Nat := 1024

def mostNodes : Nat := 256

def encodeChunks (chunks : List (List SignedTransaction)) : Bytes :=
  Wire.encodeLength chunks.length ++ chunks.flatMap Wire.encodeList

def chunksSize (chunks : List (List SignedTransaction)) : Nat :=
  Wire.lengthSize chunks.length + Wire.total Wire.listSize chunks

end TransactionList

instance : Wire TransactionList where
  encode list := Wire.encode list.kind ++ TransactionList.encodeChunks list.chunks
  size list := Wire.size list.kind + TransactionList.chunksSize list.chunks
  read := do
    let kind ← (Wire.read : Reader TransactionKind)
    let chunks ← Wire.readList
      (Wire.readList (Wire.read : Reader SignedTransaction) 1 TransactionList.mostNodes)
      1 TransactionList.mostChunks
    return { kind, chunks }

end LedgerClient
