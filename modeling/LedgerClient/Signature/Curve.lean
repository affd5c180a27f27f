import LedgerClient.Bytes

/-!
The twisted Edwards curve −x² + y² = 1 + d·x²·y² over the integers modulo 2²⁵⁵ − 19. Points are
kept in extended coordinates (X : Y : Z : T) with x = X/Z, y = Y/Z and x·y = T/Z, in which the
addition law has no exceptions. Scalars and coordinates are natural numbers.
-/

namespace LedgerClient.Curve

def fieldOrder : Nat :=
  Nat.pow 2 255 - 19

def groupOrder : Nat :=
  Nat.pow 2 252 + 27742317777372353535851937790883648493

def add (left right : Nat) : Nat :=
  (left + right) % fieldOrder

def sub (left right : Nat) : Nat :=
  (left + (fieldOrder - right % fieldOrder)) % fieldOrder

def mul (left right : Nat) : Nat :=
  left * right % fieldOrder

/-- Square and multiply over the lowest `bits` bits of the exponent. -/
def power (base : Nat) : (bits exponent : Nat) → Nat
  | 0, _ => 1
  | bits + 1, exponent =>
      let half := power base bits (exponent / 2)
      let square := mul half half
      if exponent % 2 = 1 then mul square base else square

def inverse (value : Nat) : Nat :=
  power value 255 (fieldOrder - 2)

def curveConstant : Nat :=
  37095705934669439343138083508754565189542113879843219016388785533085940283555

def sqrtMinusOne : Nat :=
  19681161376707505956807079304988542015446066515923890162744021073123829784752

/-- A square root of `numerator / denominator`, if there is one. -/
def sqrtRatio? (numerator denominator : Nat) : Option Nat :=
  let cube := mul denominator (mul denominator denominator)
  let seventh := mul denominator (mul cube cube)
  let exponent := (fieldOrder - 5) / 8
  let root := mul (mul numerator cube) (power (mul numerator seventh) 252 exponent)
  let check := mul denominator (mul root root)
  if check = numerator % fieldOrder then some root
  else if check = sub 0 numerator then some (mul root sqrtMinusOne)
  else none

structure Point where
  x : Nat
  y : Nat
  z : Nat
  t : Nat

namespace Point

def identity : Point :=
  { x := 0, y := 1, z := 1, t := 0 }

def ofAffine (x y : Nat) : Point :=
  { x, y, z := 1, t := mul x y }

def base : Point :=
  ofAffine 15112221349535400772501151409588531511454012693041857206046113283949847762202
    46316835694926478169428394003475163141307993866256225615783033603165251855960

def neg (point : Point) : Point :=
  { point with x := sub 0 point.x, t := sub 0 point.t }

def plus (left right : Point) : Point :=
  let a := mul (sub left.y left.x) (sub right.y right.x)
  let b := mul (add left.y left.x) (add right.y right.x)
  let c := mul (mul left.t right.t) (add curveConstant curveConstant)
  let d := mul (add left.z left.z) right.z
  let e := sub b a
  let f := sub d c
  let g := add d c
  let h := add b a
  { x := mul e f, y := mul g h, z := mul f g, t := mul e h }

def double (point : Point) : Point :=
  let a := mul point.x point.x
  let b := mul point.y point.y
  let c := mul 2 (mul point.z point.z)
  let h := add a b
  let e := sub h (mul (add point.x point.y) (add point.x point.y))
  let g := sub a b
  let f := add c g
  { x := mul e f, y := mul g h, z := mul f g, t := mul e h }

/-- Double and add over the lowest `bits` bits of the scalar. -/
def multiply (point : Point) : (bits scalar : Nat) → Point
  | 0, _ => identity
  | bits + 1, scalar =>
      let twice := (multiply point bits (scalar / 2)).double
      if scalar % 2 = 1 then twice.plus point else twice

def timesCofactor (point : Point) : Point :=
  point.double.double.double

def isIdentity (point : Point) : Bool :=
  point.x % fieldOrder == 0 && point.y % fieldOrder == point.z % fieldOrder

/-- The y-coordinate in 255 bits, and in the last bit whether the x-coordinate is odd. -/
def compress (point : Point) : Bytes :=
  let scale := inverse point.z
  let x := mul point.x scale
  let y := mul point.y scale
  Bytes.littleEndian 32 (y + x % 2 * Nat.pow 2 255)

/-- Any 255 bits are taken for a y-coordinate, also those of the field order and above, and a zero
x-coordinate is taken with either parity. -/
def decompress? (encoded : Bytes) : Option Point := do
  let bits := Bytes.ofLittleEndian encoded
  let y := bits % Nat.pow 2 255 % fieldOrder
  let square := mul y y
  let x ← sqrtRatio? (sub square 1) (add (mul curveConstant square) 1)
  let odd := bits / Nat.pow 2 255 % 2
  return ofAffine (if x % 2 = odd then x else sub 0 x) y

end Point

@[simp] theorem Point.length_compress (point : Point) : point.compress.length = 32 := by
  simp [compress]

end LedgerClient.Curve
