import LedgerClient.Entity.Id
import LedgerClient.Proofs.Entity.Checksum
import Mathlib.Data.List.Basic

/-!
Slips of the pen in an address. One letter in place of another, or two neighbours the wrong way
round, change one of the alternate sums by less than eleven, so that the checksum is another one.
-/

namespace LedgerClient

/-- The letters of an address, each in the place that is its weight. -/
def Checksum.alphabet : List Char :=
  ['0', '1', '2', '3', '4', '5', '6', '7', '8', '9', '.']

/-- One letter of an address is typed wrong, or two neighbours are exchanged. -/
inductive Typo : (meant typed : List Char) → Prop
  | replaced (before after : List Char) {meant typed : Char} (known : meant ∈ Checksum.alphabet)
      (letter : typed ∈ Checksum.alphabet) (different : meant ≠ typed) :
      Typo (before ++ meant :: after) (before ++ typed :: after)
  | exchanged (before after : List Char) {first second : Char}
      (known : first ∈ Checksum.alphabet) (letter : second ∈ Checksum.alphabet)
      (different : first ≠ second) :
      Typo (before ++ first :: second :: after) (before ++ second :: first :: after)

namespace Checksum

variable {ledger : LedgerId}

/-! ## Sums of weights -/

namespace SameSums

variable {left right rest : List Nat} {weight other : Nat}

theorem tail (same : SameSums (weight :: left) (weight :: right)) : SameSums left right := by
  obtain ⟨first, second⟩ := same
  simp only [alternateSums] at first second
  exact ⟨second, by omega⟩

theorem of_append {before : List Nat} (same : SameSums (before ++ left) (before ++ right)) :
    SameSums left right := by
  induction before with
  | nil => exact same
  | cons weight before ih => exact ih same.tail

theorem head (same : SameSums (weight :: rest) (other :: rest)) : weight % 11 = other % 11 := by
  have first := same.first
  simp only [alternateSums] at first
  omega

theorem exchanged (same : SameSums (weight :: other :: rest) (other :: weight :: rest)) :
    weight % 11 = other % 11 := by
  have first := same.first
  simp only [alternateSums] at first
  omega

end SameSums

/-! ## Weights of letters -/

def weights (letters : List Char) : List Nat :=
  letters.flatMap fun letter => (String.utf8EncodeChar letter).map weight

theorem weights_text (text : String) :
    (Bytes.ofText text).map weight = weights text.toList := by
  rw [Bytes.ofText_eq, List.map_flatMap, weights]

theorem weights_append (before after : List Char) :
    weights (before ++ after) = weights before ++ weights after :=
  List.flatMap_append

theorem weight_letter {letter : Char} (known : letter ∈ alphabet) :
    (String.utf8EncodeChar letter).map weight = [alphabet.idxOf letter] := by
  have all : (alphabet.all fun letter =>
      (String.utf8EncodeChar letter).map weight = [alphabet.idxOf letter]) = true := by decide
  exact of_decide_eq_true (List.all_eq_true.mp all letter known)

theorem weights_cons {letter : Char} (known : letter ∈ alphabet) (rest : List Char) :
    weights (letter :: rest) = alphabet.idxOf letter :: weights rest := by
  rw [weights, List.flatMap_cons, weight_letter known]
  rfl

/-- Letters are told apart by their weights modulo eleven. -/
theorem eq_of_weight {letter other : Char} (known : letter ∈ alphabet) (also : other ∈ alphabet)
    (same : alphabet.idxOf letter % 11 = alphabet.idxOf other % 11) : letter = other := by
  have inside : alphabet.idxOf letter < 11 := List.idxOf_lt_length_of_mem known
  have within : alphabet.idxOf other < 11 := List.idxOf_lt_length_of_mem also
  rw [Nat.mod_eq_of_lt inside, Nat.mod_eq_of_lt within] at same
  exact (List.idxOf_inj known).mp same

end Checksum

open Checksum

/-! ## Typos -/

theorem Typo.sums_change {meant typed : List Char} (typo : Typo meant typed) :
    ¬ SameSums (weights meant) (weights typed) := by
  intro same
  cases typo with
  | replaced before after known letter different =>
      rw [weights_append, weights_append, weights_cons known, weights_cons letter] at same
      exact different (eq_of_weight known letter same.of_append.head)
  | exchanged before after known letter different =>
      rw [weights_append, weights_append, weights_cons known, weights_cons letter,
        weights_cons letter, weights_cons known] at same
      exact different (eq_of_weight known letter same.of_append.exchanged)

/-- The address that was typed is not taken for the one that was meant: it has another checksum, and
it is refused with the checksum of the one that was meant. That also holds for an id that has this
address, which is to say, that was not written with leading zeros. -/
structure Checksum.TellsApart (ledger : LedgerId) (meant typed : String) : Prop where
  changed : expected ledger typed ≠ expected ledger meant
  refused : validate ledger typed (some (expected ledger meant)) =
    .error { address := typed, given := expected ledger meant, expected := expected ledger typed
             ledger }
  mismatched : ∀ {kind : EntityKind} {id : EntityId kind}, id.text = typed →
    id.checksum.map Checksum.text = some (expected ledger meant) →
      id.validateChecksum ledger =
        .error { address := typed, given := expected ledger meant
                 expected := expected ledger typed, ledger }

/-- On every ledger, an address and what a single typo makes of it are told apart. -/
theorem Typo.noticed {meant typed : String} (typo : Typo meant.toList typed.toList)
    (ledger : LedgerId) : TellsApart ledger meant typed := by
  have changed : expected ledger typed ≠ expected ledger meant := by
    intro same
    have sums := (expected_sums same.symm).2
    rw [weights_text, weights_text] at sums
    exact typo.sums_change sums
  have refused : validate ledger typed (some (expected ledger meant)) =
      .error { address := typed, given := expected ledger meant, expected := expected ledger typed
               ledger } := if_neg changed.symm
  refine ⟨changed, refused, ?_⟩
  rintro kind id rfl given
  rw [EntityId.validateChecksum, given]
  exact refused

/-- Two digits are exchanged. -/
theorem Typo.noticed_exchange : Typo "0.0.123".toList "0.0.132".toList ∧
    TellsApart .mainnet "0.0.123" "0.0.132" := by
  have typo : Typo "0.0.123".toList "0.0.132".toList :=
    .exchanged ['0', '.', '0', '.', '1'] [] (by decide) (by decide) (by decide)
  exact ⟨typo, typo.noticed .mainnet⟩

example : expected .mainnet "0.0.123" = "vfmkw" ∧ expected .mainnet "0.0.132" = "kijgm" := by
  decide +kernel

end LedgerClient
