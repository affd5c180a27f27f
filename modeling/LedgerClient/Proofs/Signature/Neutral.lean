import LedgerClient.Proofs.Transaction.Signatures
import Mathlib.Data.ZMod.Basic
import Mathlib.Tactic.Ring

/-!
Keys of small order are taken, the neutral point among them. Under the neutral point, one signature
fits every message: whatever the challenge is, the equation that is checked holds, since every
multiple of the neutral point is the neutral point again.
-/

namespace LedgerClient.Curve

/-! ## Arithmetic modulo the field order -/

@[simp] theorem cast_add (left right : Nat) :
    (add left right : ZMod fieldOrder) = left + right := by
  simp [add]

@[simp] theorem cast_mul (left right : Nat) :
    (mul left right : ZMod fieldOrder) = left * right := by
  simp [mul]

@[simp] theorem cast_sub (left right : Nat) :
    (sub left right : ZMod fieldOrder) = left - right := by
  have within : right % fieldOrder ≤ fieldOrder :=
    Nat.le_of_lt (Nat.mod_lt right (by decide))
  simp [sub, Nat.cast_sub within, sub_eq_add_neg]

namespace Point

variable {point left right : Point}

/-- The neutral point in any of its coordinates. -/
structure Neutral (point : Point) : Prop where
  x : (point.x : ZMod fieldOrder) = 0
  t : (point.t : ZMod fieldOrder) = 0
  y : (point.y : ZMod fieldOrder) = point.z

theorem neutral_identity : identity.Neutral :=
  ⟨Nat.cast_zero, Nat.cast_zero, rfl⟩

theorem Neutral.neg (neutral : point.Neutral) : point.neg.Neutral where
  x := by simp [Point.neg, neutral.x]
  t := by simp [Point.neg, neutral.t]
  y := neutral.y

theorem Neutral.double (neutral : point.Neutral) : point.double.Neutral := by
  constructor <;> simp only [Point.double, cast_add, cast_mul, cast_sub, neutral.x, neutral.y] <;>
    push_cast <;> ring

theorem Neutral.plus (first : left.Neutral) (second : right.Neutral) :
    (left.plus right).Neutral := by
  constructor <;>
    simp only [Point.plus, cast_add, cast_mul, cast_sub, first.x, first.t, first.y, second.x,
      second.t, second.y] <;> ring

/-- No multiple of the neutral point is another point. -/
theorem Neutral.multiply (neutral : point.Neutral) (bits scalar : Nat) :
    (point.multiply bits scalar).Neutral := by
  induction bits generalizing scalar with
  | zero => exact neutral_identity
  | succ bits ih =>
      have twice := (ih (scalar / 2)).double
      simp only [Point.multiply]
      split
      · exact twice.plus neutral
      · exact twice

theorem neutral_multiply_zero (point : Point) (bits : Nat) : (point.multiply bits 0).Neutral := by
  induction bits with
  | zero => exact neutral_identity
  | succ bits ih => simpa [Point.multiply] using ih.double

theorem Neutral.timesCofactor (neutral : point.Neutral) : point.timesCofactor.Neutral :=
  neutral.double.double.double

theorem Neutral.isIdentity (neutral : point.Neutral) : point.isIdentity = true := by
  have x : point.x % fieldOrder = 0 := by
    have same := (ZMod.natCast_eq_natCast_iff' point.x 0 fieldOrder).mp (by simp [neutral.x])
    simpa using same
  have y := (ZMod.natCast_eq_natCast_iff' point.y point.z fieldOrder).mp neutral.y
  simp [Point.isIdentity, x, y]

end Point

end LedgerClient.Curve

namespace LedgerClient.Sample

open Curve

/-- The neutral point as it is written. -/
def neutralBytes : Bytes :=
  1 :: List.replicate 31 0

/-- A signer that has the neutral point for a key and for all its commitments. -/
def neutral : Signer where
  key := { bytes := neutralBytes, length_bytes := rfl }
  sign _ := { bytes := neutralBytes ++ List.replicate 32 0, length_bytes := rfl }

theorem decompress_neutral :
    ∃ point, Point.decompress? neutralBytes = some point ∧ point.Neutral := by
  have coordinates : (Point.decompress? neutralBytes).map
      (fun point => (point.x, point.t, point.y, point.z)) = some (0, 0, 1, 1) := by decide +kernel
  obtain ⟨point, named, same⟩ := Option.map_eq_some_iff.mp coordinates
  simp only [Prod.mk.injEq] at same
  obtain ⟨x, t, y, z⟩ := same
  exact ⟨point, named, by simp [x], by simp [t], by simp [y, z]⟩

theorem neutral_honest : neutral.Honest := by
  intro body
  obtain ⟨point, named, neutralPoint⟩ := decompress_neutral
  have key : (neutral.pair body).key.bytes = neutralBytes := rfl
  have commitment : (neutral.pair body).signature.bytes.take 32 = neutralBytes := rfl
  have response : Bytes.ofLittleEndian ((neutral.pair body).signature.bytes.drop 32) = 0 := by
    change Bytes.ofLittleEndian (List.replicate 32 0) = 0
    decide
  have small : 0 < groupOrder := by decide
  unfold SignaturePair.verifies PublicKey.verify
  simp only [key, commitment, response, named, small, decide_true, Bool.true_and]
  -- The response is zero and the key is neutral, so that both terms of the equation are.
  have expected := (Point.neutral_multiply_zero Point.base 255).plus
    (neutralPoint.neg.multiply 255
      (Ed25519.scalarOfHash (neutralBytes ++ neutralBytes ++ signedMessage body)))
  exact (expected.plus neutralPoint.neg).timesCofactor.isIdentity

end LedgerClient.Sample
