import LedgerClient.Ledger
import LedgerClient.Text.Inspect

/-!
Address checksums: five letters computed from an address `shard.realm.num` and the ledger it
belongs to. An address copied from one ledger to a client of another is found by its checksum.
-/

namespace LedgerClient

/-- A checksum as it was written behind an address: one to eight lower-case letters. Letters beyond
the five of a correct checksum are kept, so that they are reported as a mismatch. -/
structure Checksum where
  letters : List Char
  wellFormed : 1 ≤ letters.length ∧ letters.length ≤ 8 ∧ letters.all (fun c => 'a' ≤ c && c ≤ 'z') = true
deriving DecidableEq

namespace Checksum

def parse? (letters : List Char) : Option Checksum :=
  if wellFormed : 1 ≤ letters.length ∧ letters.length ≤ 8 ∧
      letters.all (fun c => 'a' ≤ c && c ≤ 'z') = true then
    some { letters, wellFormed }
  else none

def text (checksum : Checksum) : String :=
  String.ofList checksum.letters

def inspect (checksum : Checksum) : Inspect :=
  .quoted checksum.text

/-- The weight of one byte of an address: a point counts ten. -/
def weight (byte : UInt8) : Nat :=
  if byte = 46 then 10 else (byte - 48).toNat

def alternateSums : List Nat → Nat × Nat
  | [] => (0, 0)
  | weight :: rest => (weight + (alternateSums rest).2, (alternateSums rest).1)

def polynomial (modulus : Nat) (values : List Nat) : Nat :=
  values.foldl (fun value next => (31 * value + next) % modulus) 0

/-- Letters for the lowest `count` digits of a number in base 26. -/
def lettersOf : (count value : Nat) → List Char
  | 0, _ => []
  | count + 1, value => lettersOf count (value / 26) ++ [Char.ofNat (97 + value % 26)]

def threeLetters : Nat := 17576

def fiveLetters : Nat := 11881376

/-- The number behind the letters: a permutation of the residues modulo 26⁵ applied to the address
length, the two alternate sums, and the weighted sums of the address and the ledger. -/
def number (ledger : LedgerId) (address : Bytes) : Nat :=
  let weights := address.map weight
  let sums := alternateSums weights
  let ledgerSum := polynomial fiveLetters ((ledger.bytes ++ List.replicate 6 0).map UInt8.toNat)
  let combined := ((weights.length % 5 * 11 + sums.1 % 11) * 11 + sums.2 % 11) * threeLetters
    + polynomial threeLetters weights + ledgerSum
  combined % fiveLetters * 1000003 % fiveLetters

/-- The letters that belong behind an address on a ledger. -/
def expected (ledger : LedgerId) (address : String) : String :=
  String.ofList (lettersOf 5 (number ledger (Bytes.ofText address)))

end Checksum

structure ChecksumMismatch where
  address : String
  given : String
  expected : String
  ledger : LedgerId
deriving DecidableEq

def ChecksumMismatch.message (error : ChecksumMismatch) : String :=
  s!"checksum mismatch for {error.address}: given \x60{error.given}\x60, " ++
    s!"expected \x60{error.expected}\x60 on network {error.ledger.text}"

/-- An address without a checksum is valid on every ledger. -/
def Checksum.validate (ledger : LedgerId) (address : String) (given : Option String) :
    Except ChecksumMismatch Unit :=
  match given with
  | none => .ok ()
  | some given =>
      if given = expected ledger address then .ok ()
      else .error { address, given, expected := expected ledger address, ledger }

end LedgerClient
