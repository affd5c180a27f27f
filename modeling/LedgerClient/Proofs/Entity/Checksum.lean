import LedgerClient.Entity.Checksum
import Mathlib.Algebra.Group.Nat.Defs

/-!
What the letters of a checksum tell of the address. They are the digits of a number in base 26, and
from this number the length of the address modulo five and its two alternate sums modulo eleven can
be read off again if the ledger is known.
-/

namespace LedgerClient

theorem Bytes.ofText_eq (text : String) :
    ofText text = text.toList.flatMap String.utf8EncodeChar := by
  have listed : ofText (String.ofList text.toList) =
      text.toList.flatMap String.utf8EncodeChar := by
    simp only [ofText, String.toByteArray_ofList, List.utf8Encode, List.data_toByteArray]
  rwa [String.ofList_toList] at listed

namespace Checksum

variable {ledger : LedgerId}

/-! ## The letters -/

theorem letter_injective {left right : Nat} (leftDigit : left < 26) (rightDigit : right < 26)
    (same : Char.ofNat (97 + left) = Char.ofNat (97 + right)) : left = right := by
  have all : ∀ left right : Fin 26, Char.ofNat (97 + left) = Char.ofNat (97 + right) →
      left = right := by decide
  exact congrArg Fin.val (all ⟨left, leftDigit⟩ ⟨right, rightDigit⟩ same)

theorem lettersOf_injective {count left right : Nat}
    (same : lettersOf count left = lettersOf count right) :
    left % 26 ^ count = right % 26 ^ count := by
  induction count generalizing left right with
  | zero => rw [Nat.pow_zero, Nat.mod_one, Nat.mod_one]
  | succ count ih =>
      obtain ⟨higher, lowest⟩ := List.append_inj' same rfl
      have digit := letter_injective (Nat.mod_lt _ (by decide)) (Nat.mod_lt _ (by decide))
        (List.singleton_inj.mp lowest)
      rw [Nat.pow_succ', Nat.mod_mul, Nat.mod_mul, digit, ih higher]

/-! ## The number behind the letters -/

theorem polynomial_lt {modulus : Nat} (positive : 0 < modulus) (values : List Nat) :
    polynomial modulus values < modulus := by
  rcases List.eq_nil_or_concat values with rfl | ⟨earlier, last, rfl⟩
  · exact positive
  · rw [polynomial, List.concat_eq_append, List.foldl_append]
    exact Nat.mod_lt _ positive

/-- The length and the alternate sums of an address in one number. -/
def measure (weights : List Nat) : Nat :=
  (weights.length % 5 * 11 + (alternateSums weights).1 % 11) * 11 + (alternateSums weights).2 % 11

def ledgerSum (ledger : LedgerId) : Nat :=
  polynomial fiveLetters ((ledger.bytes ++ List.replicate 6 0).map UInt8.toNat)

/-- The residue that is permuted. -/
def residue (ledger : LedgerId) (weights : List Nat) : Nat :=
  (measure weights * threeLetters + polynomial threeLetters weights + ledgerSum ledger) % fiveLetters

def scramble (residue : Nat) : Nat :=
  residue * 1000003 % fiveLetters

def unscramble (scrambled : Nat) : Nat :=
  scrambled * 8610443 % fiveLetters

theorem number_eq (address : Bytes) :
    number ledger address = scramble (residue ledger (address.map weight)) :=
  rfl

theorem residue_lt (weights : List Nat) : residue ledger weights < fiveLetters :=
  Nat.mod_lt _ (by decide)

theorem scramble_lt (residue : Nat) : scramble residue < fiveLetters :=
  Nat.mod_lt _ (by decide)

theorem unscramble_scramble {residue : Nat} (within : residue < fiveLetters) :
    unscramble (scramble residue) = residue := by
  simp only [unscramble, scramble, fiveLetters] at within ⊢
  omega

theorem expected_injective {other : LedgerId} {left right : String}
    (same : expected ledger left = expected other right) :
    residue ledger ((Bytes.ofText left).map weight) =
      residue other ((Bytes.ofText right).map weight) := by
  have numbers : number ledger (Bytes.ofText left) = number other (Bytes.ofText right) := by
    have letters := lettersOf_injective (String.ofList_injective same)
    have whole : 26 ^ 5 = fiveLetters := rfl
    rwa [whole, number_eq, number_eq, Nat.mod_eq_of_lt (scramble_lt _),
      Nat.mod_eq_of_lt (scramble_lt _)] at letters
  rw [number_eq, number_eq] at numbers
  rw [← unscramble_scramble (residue_lt _), numbers, unscramble_scramble (residue_lt _)]

/-! ## Lengths and sums -/

theorem measure_lt (weights : List Nat) : measure weights < 605 := by
  unfold measure
  omega

/-- The measure and the weighted sum of the address have room beside each other below 26⁵. -/
theorem residue_injective {left right : List Nat}
    (same : residue ledger left = residue ledger right) : measure left = measure right := by
  have leftMeasure := measure_lt left
  have rightMeasure := measure_lt right
  have leftValue := polynomial_lt (by decide : 0 < threeLetters) left
  have rightValue := polynomial_lt (by decide : 0 < threeLetters) right
  unfold residue at same
  simp only [threeLetters, fiveLetters] at same leftValue rightValue
  omega

/-- The alternate sums of these weights agree modulo eleven. -/
structure SameSums (left right : List Nat) : Prop where
  first : (alternateSums left).1 % 11 = (alternateSums right).1 % 11
  second : (alternateSums left).2 % 11 = (alternateSums right).2 % 11

theorem measure_injective {left right : List Nat} (same : measure left = measure right) :
    left.length % 5 = right.length % 5 ∧ SameSums left right := by
  unfold measure at same
  exact ⟨by omega, by omega, by omega⟩

/-- Addresses with the same checksum on the same ledger have the same length modulo five and the
same alternate sums modulo eleven. -/
theorem expected_sums {left right : String}
    (same : expected ledger left = expected ledger right) :
    (Bytes.ofText left).length % 5 = (Bytes.ofText right).length % 5 ∧
      SameSums ((Bytes.ofText left).map weight) ((Bytes.ofText right).map weight) := by
  simpa using measure_injective (residue_injective (expected_injective same))

end Checksum

end LedgerClient
