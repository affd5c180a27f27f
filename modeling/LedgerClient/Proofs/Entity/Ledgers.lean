import LedgerClient.Proofs.Entity.Checksum
import LedgerClient.Proofs.Entity.Rendering
import Mathlib.Data.Nat.ModEq

/-!
Checksums of one ledger on another. Ledgers known by a single byte add different sums to the number
behind the letters, so that each of them refuses the checksums of the others.
-/

namespace LedgerClient

namespace Checksum

variable {ledger other : LedgerId} {byte different : UInt8}

/-! ## Sums of ledgers -/

/-- The byte has the weight that the six zeros behind it leave it. -/
theorem ledgerSum_single (single : ledger.bytes = [byte]) :
    ledgerSum ledger = byte.toNat * 31 ^ 6 % fiveLetters := by
  have small := byte.toNat_lt
  simp [ledgerSum, single, polynomial, fiveLetters]
  omega

theorem ledgerSum_injective (single : ledger.bytes = [byte]) (also : other.bytes = [different])
    (same : ledgerSum ledger = ledgerSum other) : byte = different := by
  have narrow (byte : UInt8) : byte.toNat < fiveLetters := byte.toNat_lt.trans (by decide)
  rw [ledgerSum_single single, ledgerSum_single also] at same
  have cancelled : byte.toNat ≡ different.toNat [MOD fiveLetters] :=
    Nat.ModEq.cancel_right_of_coprime (c := 31 ^ 6) (by decide) same
  exact UInt8.toNat_inj.mp (cancelled.eq_of_lt_of_lt (narrow byte) (narrow different))

/-- The ledger is the only difference between the residues of one address. -/
theorem ledgerSum_of_residue {weights : List Nat}
    (same : residue ledger weights = residue other weights) :
    ledgerSum ledger = ledgerSum other := by
  have within (ledger : LedgerId) : ledgerSum ledger < fiveLetters :=
    polynomial_lt (by decide) _
  have cancelled : ledgerSum ledger ≡ ledgerSum other [MOD fiveLetters] :=
    Nat.ModEq.add_left_cancel' _ same
  exact cancelled.eq_of_lt_of_lt (within ledger) (within other)

theorem expected_ne (single : ledger.bytes = [byte]) (also : other.bytes = [different])
    (apart : byte ≠ different) (address : String) :
    expected ledger address ≠ expected other address :=
  fun same => apart (ledgerSum_injective single also (ledgerSum_of_residue (expected_injective same)))

/-! ## Ids of another ledger -/

/-- The checksums of the first ledger are not taken on the second one. -/
structure KeptApart (ledger other : LedgerId) : Prop where
  differ (address : String) : expected ledger address ≠ expected other address
  refused {kind : EntityKind} (id : EntityId kind) : ∃ read : EntityId kind,
    EntityId.parse kind (id.textWithChecksum ledger) = .ok read ∧
      read.validateChecksum other =
        .error { address := id.text, given := expected ledger id.text
                 expected := expected other id.text, ledger := other }

/-- Of two ledgers that are known by different single bytes, none takes the checksums of the other
for its own. -/
theorem keptApart_of_bytes (single : ledger.bytes = [byte]) (also : other.bytes = [different])
    (apart : byte ≠ different) : KeptApart ledger other where
  differ := expected_ne single also apart
  refused {kind} id := by
    obtain ⟨checksum, _, belongs⟩ := exists_expected ledger id.text
    have foreign := expected_ne single also apart id.text
    refine ⟨id.marked checksum, (EntityId.written_textWithChecksum belongs).parse, ?_⟩
    rw [← belongs] at foreign ⊢
    exact if_neg foreign

/-- The named ledgers. -/
theorem keptApart_named : LedgerId.mainnet.bytes = [0] ∧ LedgerId.testnet.bytes = [1] ∧
    LedgerId.previewnet.bytes = [2] ∧ KeptApart .mainnet .testnet ∧
    KeptApart .testnet .previewnet ∧ KeptApart .previewnet .mainnet :=
  ⟨rfl, rfl, rfl, keptApart_of_bytes rfl rfl (by decide), keptApart_of_bytes rfl rfl (by decide),
    keptApart_of_bytes rfl rfl (by decide)⟩

end Checksum

end LedgerClient
