import LedgerClient.Bytes

/-!
The SHA-2 family. A message is padded to whole blocks of sixteen words, and each block is folded
into a state of eight words. SHA-256 and SHA-512 differ in the width of a word, the rotations and
the constants, which a `Variant` collects; the folding is the same.
-/

namespace LedgerClient

/-- The operations on machine words that the family is built from. -/
class Sha2.Word (word : Type) extends Add word, AndOp word, OrOp word, XorOp word, Complement word where
  size : Nat
  ofNat : Nat → word
  toNat : word → Nat
  shiftRight : word → Nat → word
  rotateRight : word → Nat → word

instance : Sha2.Word UInt32 where
  size := 4
  ofNat := UInt32.ofNat
  toNat := UInt32.toNat
  shiftRight word count := word >>> UInt32.ofNat count
  rotateRight word count := (word >>> UInt32.ofNat count) ||| (word <<< UInt32.ofNat (32 - count))

instance : Sha2.Word UInt64 where
  size := 8
  ofNat := UInt64.ofNat
  toNat := UInt64.toNat
  shiftRight word count := word >>> UInt64.ofNat count
  rotateRight word count := (word >>> UInt64.ofNat count) ||| (word <<< UInt64.ofNat (64 - count))

namespace Sha2

open Word (shiftRight rotateRight)

structure State (word : Type) where
  a : word
  b : word
  c : word
  d : word
  e : word
  f : word
  g : word
  h : word

/-- What sets one member of the family apart. `bigA` and `bigE` are the rotations of the first and
the fifth word of the state; `early` and `late` are two rotations and a shift that mix the words
fifteen and two places back in the schedule. -/
structure Variant (word : Type) where
  initial : State word
  constants : List word
  bigA : Nat × Nat × Nat
  bigE : Nat × Nat × Nat
  early : Nat × Nat × Nat
  late : Nat × Nat × Nat

variable {word : Type} [Word word]

@[specialize] def rotations (amounts : Nat × Nat × Nat) (value : word) : word :=
  rotateRight value amounts.1 ^^^ rotateRight value amounts.2.1 ^^^ rotateRight value amounts.2.2

@[specialize] def mix (amounts : Nat × Nat × Nat) (value : word) : word :=
  rotateRight value amounts.1 ^^^ rotateRight value amounts.2.1 ^^^ shiftRight value amounts.2.2

@[specialize] def words (word : Type) [Word word] : (count : Nat) → Bytes → List word
  | 0, _ => []
  | count + 1, bytes =>
      Word.ofNat (Bytes.ofBigEndian (bytes.take (Word.size word)))
        :: words word count (bytes.drop (Word.size word))

/-- Appends `count` words, each computed from those two, seven, fifteen and sixteen places back. -/
@[specialize] def extend (variant : Variant word) : (count : Nat) → Array word → Array word
  | 0, schedule => schedule
  | count + 1, schedule =>
      let back (places : Nat) := schedule.getD (schedule.size - places) (Word.ofNat 0)
      let next := back 16 + mix variant.early (back 15) + back 7 + mix variant.late (back 2)
      extend variant count (schedule.push next)

@[specialize] def round (variant : Variant word) (state : State word) (constant scheduled : word) : State word :=
  let choice := (state.e &&& state.f) ^^^ (~~~state.e &&& state.g)
  let first := state.h + rotations variant.bigE state.e + choice + constant + scheduled
  let majority := (state.a &&& state.b) ^^^ (state.a &&& state.c) ^^^ (state.b &&& state.c)
  { a := first + (rotations variant.bigA state.a + majority), b := state.a, c := state.b
    d := state.c, e := state.d + first, f := state.e, g := state.f, h := state.g }

@[specialize] def rounds (variant : Variant word) : State word → List word → List word → State word
  | state, constant :: constants, scheduled :: schedule =>
      rounds variant (round variant state constant scheduled) constants schedule
  | state, _, _ => state

@[specialize] def compress (variant : Variant word) (state : State word) (block : Bytes) : State word :=
  let start := (words word 16 block).toArray
  let schedule := extend variant (variant.constants.length - 16) start
  let last := rounds variant state variant.constants schedule.toList
  { a := state.a + last.a, b := state.b + last.b, c := state.c + last.c, d := state.d + last.d
    e := state.e + last.e, f := state.f + last.f, g := state.g + last.g, h := state.h + last.h }

@[specialize] def compressBlocks (variant : Variant word) : (count : Nat) → State word → Bytes → State word
  | 0, state, _ => state
  | count + 1, state, bytes =>
      let size := 16 * Word.size word
      compressBlocks variant count (compress variant state (bytes.take size)) (bytes.drop size)

/-- A one bit, zeros up to two words short of a block, and the length in bits. -/
def padding (wordSize length : Nat) : Bytes :=
  let block := 16 * wordSize
  let zeros := (2 * block - 1 - 2 * wordSize - length % block) % block
  0x80 :: List.replicate zeros 0 ++ Bytes.bigEndian (2 * wordSize) (8 * length)

def State.bytes (state : State word) : Bytes :=
  [state.a, state.b, state.c, state.d, state.e, state.f, state.g, state.h].flatMap
    fun value => Bytes.bigEndian (Word.size word) (Word.toNat value)

@[specialize] def digest (variant : Variant word) (message : Bytes) : Bytes :=
  let padded := message ++ padding (Word.size word) message.length
  (compressBlocks variant (padded.length / (16 * Word.size word)) variant.initial padded).bytes

@[simp] theorem length_digest (variant : Variant word) (message : Bytes) :
    (digest variant message).length = 8 * Word.size word := by
  simp [digest, State.bytes]
  omega

end Sha2

/-! ## The two members

The state starts from the fractional parts of the square roots of the first eight primes, and the
round constants are those of the cube roots of the first primes, one a round. -/

def Sha256.variant : Sha2.Variant UInt32 where
  initial := {
    a := 0x6a09e667
    b := 0xbb67ae85
    c := 0x3c6ef372
    d := 0xa54ff53a
    e := 0x510e527f
    f := 0x9b05688c
    g := 0x1f83d9ab
    h := 0x5be0cd19
  }
  constants :=
    [0x428a2f98, 0x71374491, 0xb5c0fbcf, 0xe9b5dba5, 0x3956c25b, 0x59f111f1, 0x923f82a4, 0xab1c5ed5,
      0xd807aa98, 0x12835b01, 0x243185be, 0x550c7dc3, 0x72be5d74, 0x80deb1fe, 0x9bdc06a7, 0xc19bf174,
      0xe49b69c1, 0xefbe4786, 0x0fc19dc6, 0x240ca1cc, 0x2de92c6f, 0x4a7484aa, 0x5cb0a9dc, 0x76f988da,
      0x983e5152, 0xa831c66d, 0xb00327c8, 0xbf597fc7, 0xc6e00bf3, 0xd5a79147, 0x06ca6351, 0x14292967,
      0x27b70a85, 0x2e1b2138, 0x4d2c6dfc, 0x53380d13, 0x650a7354, 0x766a0abb, 0x81c2c92e, 0x92722c85,
      0xa2bfe8a1, 0xa81a664b, 0xc24b8b70, 0xc76c51a3, 0xd192e819, 0xd6990624, 0xf40e3585, 0x106aa070,
      0x19a4c116, 0x1e376c08, 0x2748774c, 0x34b0bcb5, 0x391c0cb3, 0x4ed8aa4a, 0x5b9cca4f, 0x682e6ff3,
      0x748f82ee, 0x78a5636f, 0x84c87814, 0x8cc70208, 0x90befffa, 0xa4506ceb, 0xbef9a3f7, 0xc67178f2]
  bigA := (2, 13, 22)
  bigE := (6, 11, 25)
  early := (7, 18, 3)
  late := (17, 19, 10)

def Sha512.variant : Sha2.Variant UInt64 where
  initial := {
    a := 0x6a09e667f3bcc908
    b := 0xbb67ae8584caa73b
    c := 0x3c6ef372fe94f82b
    d := 0xa54ff53a5f1d36f1
    e := 0x510e527fade682d1
    f := 0x9b05688c2b3e6c1f
    g := 0x1f83d9abfb41bd6b
    h := 0x5be0cd19137e2179
  }
  constants :=
    [0x428a2f98d728ae22, 0x7137449123ef65cd, 0xb5c0fbcfec4d3b2f, 0xe9b5dba58189dbbc,
      0x3956c25bf348b538, 0x59f111f1b605d019, 0x923f82a4af194f9b, 0xab1c5ed5da6d8118,
      0xd807aa98a3030242, 0x12835b0145706fbe, 0x243185be4ee4b28c, 0x550c7dc3d5ffb4e2,
      0x72be5d74f27b896f, 0x80deb1fe3b1696b1, 0x9bdc06a725c71235, 0xc19bf174cf692694,
      0xe49b69c19ef14ad2, 0xefbe4786384f25e3, 0x0fc19dc68b8cd5b5, 0x240ca1cc77ac9c65,
      0x2de92c6f592b0275, 0x4a7484aa6ea6e483, 0x5cb0a9dcbd41fbd4, 0x76f988da831153b5,
      0x983e5152ee66dfab, 0xa831c66d2db43210, 0xb00327c898fb213f, 0xbf597fc7beef0ee4,
      0xc6e00bf33da88fc2, 0xd5a79147930aa725, 0x06ca6351e003826f, 0x142929670a0e6e70,
      0x27b70a8546d22ffc, 0x2e1b21385c26c926, 0x4d2c6dfc5ac42aed, 0x53380d139d95b3df,
      0x650a73548baf63de, 0x766a0abb3c77b2a8, 0x81c2c92e47edaee6, 0x92722c851482353b,
      0xa2bfe8a14cf10364, 0xa81a664bbc423001, 0xc24b8b70d0f89791, 0xc76c51a30654be30,
      0xd192e819d6ef5218, 0xd69906245565a910, 0xf40e35855771202a, 0x106aa07032bbd1b8,
      0x19a4c116b8d2d0c8, 0x1e376c085141ab53, 0x2748774cdf8eeb99, 0x34b0bcb5e19b48a8,
      0x391c0cb3c5c95a63, 0x4ed8aa4ae3418acb, 0x5b9cca4f7763e373, 0x682e6ff3d6b2b8a3,
      0x748f82ee5defb2fc, 0x78a5636f43172f60, 0x84c87814a1f0ab72, 0x8cc702081a6439ec,
      0x90befffa23631e28, 0xa4506cebde82bde9, 0xbef9a3f7b2c67915, 0xc67178f2e372532b,
      0xca273eceea26619c, 0xd186b8c721c0c207, 0xeada7dd6cde0eb1e, 0xf57d4f7fee6ed178,
      0x06f067aa72176fba, 0x0a637dc5a2c898a6, 0x113f9804bef90dae, 0x1b710b35131c471b,
      0x28db77f523047d84, 0x32caab7b40c72493, 0x3c9ebe0a15c9bebc, 0x431d67c49c100d4c,
      0x4cc5d4becb3e42b6, 0x597f299cfc657e2a, 0x5fcb6fab3ad6faec, 0x6c44198c4a475817]
  bigA := (28, 34, 39)
  bigE := (14, 18, 41)
  early := (1, 8, 7)
  late := (19, 61, 6)

def Sha256.digest (message : Bytes) : Bytes :=
  Sha2.digest variant message

def Sha512.digest (message : Bytes) : Bytes :=
  Sha2.digest variant message

@[simp] theorem Sha256.length_digest (message : Bytes) : (Sha256.digest message).length = 32 :=
  Sha2.length_digest variant message

@[simp] theorem Sha512.length_digest (message : Bytes) : (Sha512.digest message).length = 64 :=
  Sha2.length_digest variant message

end LedgerClient
