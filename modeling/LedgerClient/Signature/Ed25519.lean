import LedgerClient.Signature.Curve
import LedgerClient.Hash.Sha2

/-!
Ed25519 signatures. Signing is deterministic. Checking multiplies the signature equation by the
cofactor and takes keys and commitments in any encoding, also of small order, but refuses a
response at or above the group order; all checkers then agree on every signature.
-/

namespace LedgerClient

structure PrivateKey where
  bytes : Bytes
  length_bytes : bytes.length = 32
deriving DecidableEq

/-- A key as it is written; `PublicKey.isPoint` says whether it names a point of the curve. -/
structure PublicKey where
  bytes : Bytes
  length_bytes : bytes.length = 32
deriving DecidableEq

structure Signature where
  bytes : Bytes
  length_bytes : bytes.length = 64
deriving DecidableEq

open Curve

def PublicKey.isPoint (key : PublicKey) : Bool :=
  (Point.decompress? key.bytes).isSome

namespace Ed25519

/-- The scalar in the first half of a hashed seed: a multiple of the cofactor with its highest bit
in a fixed place. -/
def clamp (bytes : Bytes) : Nat :=
  let scalar := Bytes.ofLittleEndian bytes % Nat.pow 2 254
  Nat.pow 2 254 + (scalar - scalar % 8)

def scalarOfHash (bytes : Bytes) : Nat :=
  Bytes.ofLittleEndian (Sha512.digest bytes) % groupOrder

end Ed25519

open Ed25519

def PrivateKey.scalar (key : PrivateKey) : Nat :=
  clamp ((Sha512.digest key.bytes).take 32)

def PrivateKey.publicKey (key : PrivateKey) : PublicKey where
  bytes := (Point.base.multiply 255 key.scalar).compress
  length_bytes := Point.length_compress _

def PrivateKey.signAs (key : PrivateKey) (owner : PublicKey) (message : Bytes) : Signature where
  bytes :=
    let secret := (Sha512.digest key.bytes).drop 32
    let nonce := scalarOfHash (secret ++ message)
    let commitment := (Point.base.multiply 255 nonce).compress
    let challenge := scalarOfHash (commitment ++ owner.bytes ++ message)
    commitment ++ Bytes.littleEndian 32 ((nonce + challenge * key.scalar) % groupOrder)
  length_bytes := by simp

def PrivateKey.sign (key : PrivateKey) (message : Bytes) : Signature :=
  key.signAs key.publicKey message

def PublicKey.verify (key : PublicKey) (message : Bytes) (signature : Signature) : Bool :=
  let commitment := signature.bytes.take 32
  let response := Bytes.ofLittleEndian (signature.bytes.drop 32)
  match Point.decompress? key.bytes, Point.decompress? commitment with
  | some point, some committed =>
      let challenge := scalarOfHash (commitment ++ key.bytes ++ message)
      let expected := (Point.base.multiply 255 response).plus (point.neg.multiply 255 challenge)
      response < groupOrder && (expected.plus committed.neg).timesCofactor.isIdentity
  | _, _ => false

end LedgerClient
