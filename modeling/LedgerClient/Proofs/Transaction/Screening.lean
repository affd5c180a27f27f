import LedgerClient.Proofs.Transaction.Checksums
import LedgerClient.Proofs.Transaction.Transfers

/-!
Which wrong checksum is found. The ids in a payload are looked at one after the other, and the first
whose checksum is foreign to the ledger is reported; a payload says the same as the data of each of
its chunks. Collected transfers keep the checksum of the first mention of an account only, so a wrong
one in a later mention is never looked at.
-/

namespace LedgerClient

variable {ledger : LedgerId}

/-! ## Data and payloads -/

/-- What comes of looking at the checksums of these ids in their order. -/
structure Screens (ledger : LedgerId) (ids : List AnyId)
    (outcome : Except ChecksumMismatch Unit) : Prop where
  passes_iff : outcome = .ok () ↔ ∀ id ∈ ids, id.2.Belongs ledger
  reports_iff (cause : ChecksumMismatch) : outcome = .error cause ↔
    ∃ before id after, ids = before ++ id :: after ∧
      (∀ other ∈ before, other.2.Belongs ledger) ∧ id.2.Mismatches ledger cause

theorem screens_forM (ledger : LedgerId) (ids : List AnyId) :
    Screens ledger ids (ids.forM fun id => id.2.validateChecksum ledger) where
  passes_iff := by
    simp only [forM_eq_ok_iff, EntityId.validateChecksum_eq_ok_iff]
  reports_iff cause := by
    simp only [forM_eq_error_iff, EntityId.validateChecksum_eq_ok_iff,
      EntityId.validateChecksum_eq_error_iff]

theorem TransactionData.screens (ledger : LedgerId) (data : TransactionData) :
    Screens ledger data.ids (data.validateChecksums ledger) :=
  validateChecksums_eq_forM data ▸ screens_forM ledger data.ids

/-- All ids in the data of a transaction are looked at, those of scheduled data included, and what is
said about a payload is what is said about its data, whichever chunk they are made for. -/
theorem Payload.validateChecksums_screens (ledger : LedgerId) :
    (∀ data : TransactionData, Screens ledger data.ids (data.validateChecksums ledger) ∧
      ∀ {kind : EntityKind} (id : EntityId kind), ⟨kind, id⟩ ∈ data.ids ↔ data.Embeds id) ∧
    ∀ (payload : Payload) (chunk : Option Chunk),
      payload.validateChecksums ledger = (payload.data chunk).validateChecksums ledger :=
  ⟨fun data => ⟨data.screens ledger, fun _ => TransactionData.mem_ids_iff⟩, validateChecksums_eq⟩

/-! ## Collected transfers -/

namespace Transfers

variable {calls : List AccountAmount} {call first : AccountAmount}

/-- The call is the first one for its account. -/
def Introduces (calls : List AccountAmount) (first : AccountAmount) : Prop :=
  ∃ earlier later, calls = earlier ++ first :: later ∧
    ∀ other ∈ earlier, ¬ other.account.same first.account

theorem Introduces.mem (introduces : Introduces calls first) : first ∈ calls := by
  obtain ⟨earlier, later, rfl, -⟩ := introduces
  exact List.mem_append_right earlier List.mem_cons_self

theorem introduces_concat_iff : Introduces (calls ++ [call]) first ↔
    Introduces calls first ∨
      first = call ∧ ∀ other ∈ calls, ¬ other.account.same call.account := by
  constructor
  · rintro ⟨earlier, later, split, fresh⟩
    rcases List.eq_nil_or_concat later with rfl | ⟨later, last, rfl⟩
    · obtain ⟨rfl, same⟩ := List.append_inj' split rfl
      cases same
      exact .inr ⟨rfl, fresh⟩
    · rw [List.concat_eq_append, ← List.cons_append, ← List.append_assoc] at split
      obtain ⟨rfl, -⟩ := List.append_inj' split rfl
      exact .inl ⟨earlier, later, rfl, fresh⟩
  · rintro (⟨earlier, later, rfl, fresh⟩ | ⟨rfl, fresh⟩)
    · exact ⟨earlier, later ++ [call], by simp, fresh⟩
    · exact ⟨calls, [], rfl, fresh⟩

/-- The accounts that have an entry are those that are mentioned. -/
theorem any_accounts_iff {account : AccountId} :
    ((ofEntries calls).map (·.account)).any account.same ↔
      ∃ call ∈ calls, call.account.same account := by
  induction calls using List.reverseRecOn generalizing account with
  | nil => simp [ofEntries]
  | append_singleton calls last ih =>
      rw [ofEntries_concat, accounts_add]
      by_cases known : ((ofEntries calls).map (·.account)).any last.account.same
      · obtain ⟨other, member, same⟩ := ih.mp known
        rw [if_pos known, ih]
        constructor
        · rintro ⟨call, earlier, alike⟩
          exact ⟨call, List.mem_append_left _ earlier, alike⟩
        · rintro ⟨call, listed, alike⟩
          rcases List.mem_append.mp listed with earlier | alone
          · exact ⟨call, earlier, alike⟩
          · cases List.mem_singleton.mp alone
            exact ⟨other, member, (EntityId.same_congr same account).trans alike⟩
      · rw [if_neg known, List.any_append, Bool.or_eq_true, ih]
        simp [EntityId.same_comm account, or_and_right, exists_or]

/-- The entries are written as the calls that introduced their accounts. -/
theorem mem_accounts_iff {account : AccountId} : account ∈ (ofEntries calls).map (·.account) ↔
    ∃ first, Introduces calls first ∧ first.account = account := by
  induction calls using List.reverseRecOn generalizing account with
  | nil =>
      refine ⟨nofun, ?_⟩
      rintro ⟨first, introduces, -⟩
      cases introduces.mem
  | append_singleton calls last ih =>
      simp only [introduces_concat_iff, ofEntries_concat, accounts_add]
      by_cases known : ((ofEntries calls).map (·.account)).any last.account.same
      · obtain ⟨other, member, same⟩ := any_accounts_iff.mp known
        rw [if_pos known, ih]
        refine exists_congr fun first => and_congr_left fun _ => (or_iff_left ?_).symm
        exact fun fresh => fresh.2 other member same
      · have fresh : ∀ other ∈ calls, ¬ other.account.same last.account :=
          fun other member same => known (any_accounts_iff.mpr ⟨other, member, same⟩)
        rw [if_neg known, List.mem_append, ih, List.mem_singleton]
        constructor
        · rintro (⟨first, introduces, same⟩ | rfl)
          · exact ⟨first, .inl introduces, same⟩
          · exact ⟨last, .inr ⟨rfl, fresh⟩, rfl⟩
        · rintro ⟨first, introduces | ⟨rfl, -⟩, same⟩
          · exact .inl ⟨first, introduces, same⟩
          · exact .inr same.symm

theorem exists_introduces (member : call ∈ calls) :
    ∃ first, Introduces calls first ∧ first.account.same call.account := by
  obtain ⟨account, kept, same⟩ :=
    List.any_eq_true.mp (any_accounts_iff.mpr ⟨call, member, EntityId.same_refl _⟩)
  obtain ⟨first, introduces, rfl⟩ := mem_accounts_iff.mp kept
  exact ⟨first, introduces, EntityId.same_comm call.account first.account ▸ same⟩

/-! ## Checksums given to the calls -/

/-- The entries that the calls put together fail on the ledger exactly if one of the calls was given
a checksum that is foreign to it. -/
def Vigilant (ledger : LedgerId) (calls : List AccountAmount) : Prop :=
  (Payload.transfer (ofEntries calls)).validateChecksums ledger ≠ .ok () ↔
    ∃ call ∈ calls, ¬ call.account.Belongs ledger

/-- No call brings a checksum for an account that was introduced without this one. -/
def Uniform (calls : List AccountAmount) : Prop :=
  ∀ call ∈ calls, ∀ first, Introduces calls first → first.account.same call.account →
    call.account.checksum = none ∨ first.account.checksum = call.account.checksum

/-- What the entries that the calls put together tell of the checksums that were given to them. -/
structure Watched (ledger : LedgerId) (calls : List AccountAmount)
    (outcome : Except ChecksumMismatch Unit) : Prop where
  passes : (∀ call ∈ calls, call.account.Belongs ledger) → outcome = .ok ()
  fails_iff : outcome ≠ .ok () ↔ ∃ first, Introduces calls first ∧ ¬ first.account.Belongs ledger
  reports (cause : ChecksumMismatch) : outcome = .error cause →
    ∃ first, Introduces calls first ∧ first.account.Mismatches ledger cause
  vigilant_iff : Vigilant ledger calls ↔ ∀ call ∈ calls, ¬ call.account.Belongs ledger →
    ∃ first, Introduces calls first ∧ ¬ first.account.Belongs ledger
  vigilant : Uniform calls → Vigilant ledger calls

theorem mem_ids_ofEntries_iff {id : AnyId} : id ∈ (TransactionData.transfer (ofEntries calls)).ids ↔
    ∃ first, Introduces calls first ∧ ⟨.account, first.account⟩ = id := by
  constructor
  · intro listed
    obtain ⟨entry, kept, rfl⟩ := List.mem_map.mp listed
    obtain ⟨first, introduces, same⟩ := mem_accounts_iff.mp (List.mem_map_of_mem kept)
    exact ⟨first, introduces, by rw [same]⟩
  · rintro ⟨first, introduces, rfl⟩
    obtain ⟨entry, kept, same⟩ := List.mem_map.mp (mem_accounts_iff.mpr ⟨first, introduces, rfl⟩)
    exact List.mem_map.mpr ⟨entry, kept, by rw [same]⟩

theorem screens_ofEntries (ledger : LedgerId) (calls : List AccountAmount) :
    Screens ledger (TransactionData.transfer (ofEntries calls)).ids
      ((Payload.transfer (ofEntries calls)).validateChecksums ledger) :=
  (TransactionData.transfer (ofEntries calls)).screens ledger

theorem validateChecksums_fails_iff :
    (Payload.transfer (ofEntries calls)).validateChecksums ledger ≠ .ok () ↔
      ∃ first, Introduces calls first ∧ ¬ first.account.Belongs ledger := by
  rw [Ne, (screens_ofEntries ledger calls).passes_iff]
  push Not
  constructor
  · rintro ⟨id, listed, foreign⟩
    obtain ⟨first, introduces, rfl⟩ := mem_ids_ofEntries_iff.mp listed
    exact ⟨first, introduces, foreign⟩
  · rintro ⟨first, introduces, foreign⟩
    exact ⟨_, mem_ids_ofEntries_iff.mpr ⟨first, introduces, rfl⟩, foreign⟩

theorem vigilant_iff_introduced : Vigilant ledger calls ↔
    ∀ call ∈ calls, ¬ call.account.Belongs ledger →
      ∃ first, Introduces calls first ∧ ¬ first.account.Belongs ledger := by
  rw [Vigilant, validateChecksums_fails_iff]
  constructor
  · intro vigilant call member foreign
    exact vigilant.mpr ⟨call, member, foreign⟩
  · intro introduced
    refine ⟨fun ⟨first, introduces, foreign⟩ => ⟨first, introduces.mem, foreign⟩, ?_⟩
    rintro ⟨call, member, foreign⟩
    exact introduced call member foreign

theorem Uniform.vigilant (uniform : Uniform calls) : Vigilant ledger calls := by
  refine vigilant_iff_introduced.mpr fun call member foreign => ?_
  obtain ⟨first, introduces, same⟩ := exists_introduces member
  rcases uniform call member first introduces same with unmarked | marked
  · refine absurd (fun given written => ?_) foreign
    rw [unmarked] at written
    cases written
  · exact ⟨first, introduces, EntityId.eq_of_same same marked ▸ foreign⟩

/-- The checksum of an account counts as it was first given; one that comes with a later mention of
the account is neither kept nor looked at. -/
theorem ofEntries_watched (ledger : LedgerId) (calls : List AccountAmount) :
    Watched ledger calls ((Payload.transfer (ofEntries calls)).validateChecksums ledger) where
  passes belong := by
    by_contra failed
    obtain ⟨first, introduces, foreign⟩ := validateChecksums_fails_iff.mp failed
    exact foreign (belong first introduces.mem)
  fails_iff := validateChecksums_fails_iff
  reports cause failed := by
    obtain ⟨before, id, after, split, -, wrong⟩ :=
      ((screens_ofEntries ledger calls).reports_iff cause).mp failed
    have listed : id ∈ before ++ id :: after := List.mem_append_right before List.mem_cons_self
    obtain ⟨first, introduces, rfl⟩ := mem_ids_ofEntries_iff.mp (split ▸ listed)
    exact ⟨first, introduces, wrong⟩
  vigilant_iff := vigilant_iff_introduced
  vigilant := Uniform.vigilant

end Transfers

namespace Sample

open Transfers

/-- The suspect account is mentioned without its checksum before it is mentioned with it. -/
def mentions : List AccountAmount :=
  [{ account := .ofNumbers 0 0 1001, amount := -2 },
    { account := .ofNumbers 0 0 123, amount := 1 }, { account := suspect, amount := 1 }]

/-- The same calls are found out in the other order. -/
theorem mentions_unwatched :
    ¬ Vigilant .testnet mentions ∧ Vigilant .testnet mentions.reverse := by
  obtain ⟨cause, wrong⟩ := suspect_mismatches .testnet
  constructor
  · intro vigilant
    have failed := vigilant.mpr ⟨⟨suspect, 1⟩, by decide, wrong.not_belongs⟩
    exact failed (by decide +kernel)
  · refine ⟨fun _ => ⟨⟨suspect, 1⟩, by decide, wrong.not_belongs⟩, fun _ => ?_⟩
    decide +kernel

end Sample

end LedgerClient
