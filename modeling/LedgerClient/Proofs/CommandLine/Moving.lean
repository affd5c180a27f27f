import LedgerClient.CommandLine.Report
import LedgerClient.Proofs.Transaction.Obtainable
import LedgerClient.Proofs.Transaction.Transfers

/-!
What a transfer of the command line moves. The recipient gets the amount that was asked for, whatever
it is, and the sender gives as much, unless the amount is the least there is. Its opposite is beyond
the range of amounts, and so the sender gets one less than the recipient gives.
-/

namespace LedgerClient

/-! ## Opposite amounts -/

namespace Amount

variable {amounts : List Int64} {amount : Int64}

theorem eq_minValue_iff : amount = Int64.minValue ↔ amount.toInt = least :=
  Int64.toInt_inj.symm

theorem toInt_negated (amount : Int64) :
    (negated amount).toInt = if amount = Int64.minValue then most else -amount.toInt := by
  have ends : least = -2 ^ 63 ∧ most = 2 ^ 63 - 1 := by decide
  obtain ⟨lower, upper⟩ := fits_toInt amount
  rw [negated, toInt_clamp]
  by_cases lowest : amount = Int64.minValue
  · rw [if_pos lowest, eq_minValue_iff.mp lowest]
    omega
  · rw [if_neg lowest]
    rw [eq_minValue_iff] at lowest
    omega

theorem toInt_negated_eq_iff : (negated amount).toInt = -amount.toInt ↔
    amount ≠ Int64.minValue := by
  rw [toInt_negated]
  by_cases lowest : amount = Int64.minValue
  · subst lowest
    decide
  · simp [lowest]

/-- An amount and its opposite nearly cancel out, and so adding one to the other is exact. -/
theorem toInt_negated_add (amount : Int64) :
    (negated amount).toInt + amount.toInt = if amount = Int64.minValue then -1 else 0 := by
  rw [toInt_negated]
  by_cases lowest : amount = Int64.minValue
  · subst lowest
    decide
  · rw [if_neg lowest, if_neg lowest, Int.add_left_neg]

theorem steady_nil : Steady [] := by
  intro earlier before
  rw [List.prefix_nil.mp before]
  decide

theorem Steady.concat (steady : Steady amounts) (fits : Fits (total (amounts ++ [amount]))) :
    Steady (amounts ++ [amount]) := by
  intro earlier before
  rcases List.prefix_concat_iff.mp before with rfl | before
  · exact fits
  · exact steady earlier before

theorem steady_singleton (amount : Int64) : Steady [amount] :=
  steady_nil.concat (by simpa [total] using fits_toInt amount)

theorem steady_opposites (amount : Int64) : Steady [negated amount, amount] := by
  refine (steady_singleton (negated amount)).concat ?_
  rw [total_concat, total, List.map_singleton, List.sum_singleton, toInt_negated_add]
  split <;> decide

end Amount

/-! ## Changes of a balance -/

namespace Transfers

open Amount

variable {calls entries : List AccountAmount} {account : AccountId}

/-- By how much these entries change the balance of an account. -/
def change (account : AccountId) (entries : List AccountAmount) : Int :=
  total (amountsFor account entries)

theorem change_cons (account : AccountId) (entry : AccountAmount) (rest : List AccountAmount) :
    change account (entry :: rest) =
      if entry.account.same account then entry.amount.toInt + change account rest
      else change account rest := by
  rw [change, amountsFor, List.filter_cons]
  split <;> rfl

theorem change_eq_zero (absent : ∀ entry ∈ entries, ¬ entry.account.same account) :
    change account entries = 0 := by
  rw [change, amountsFor, List.filter_eq_nil_iff.mpr absent]
  rfl

/-- Where an account has one entry, the entry says it all. -/
theorem change_of_once (once : ((entries.map (·.account)).map EntityId.bare).Nodup)
    (account : AccountId) :
    change account entries = ((amountFor account entries).getD 0).toInt := by
  induction entries with
  | nil => rfl
  | cons entry rest ih =>
      obtain ⟨fresh, once⟩ := List.nodup_cons.mp once
      rw [change_cons, amountFor_cons]
      by_cases same : entry.account.same account
      · have absent : ∀ other ∈ rest, ¬ other.account.same account := by
          intro other later alike
          refine fresh (List.mem_map.mpr ⟨other.account, List.mem_map_of_mem later, ?_⟩)
          exact (EntityId.same_iff.mp alike).trans (EntityId.same_iff.mp same).symm
        rw [if_pos same, if_pos same, change_eq_zero absent, Int.add_zero, Option.getD_some]
      · rw [if_neg same, if_neg same, ih once]

/-- Collecting entries changes no balance by more or less, as long as no sum leaves the range. -/
theorem Within.change_ofEntries (within : Within calls) (account : AccountId) :
    change account (ofEntries calls) = change account calls := by
  rw [change_of_once (once_ofEntries calls), getD_amountFor, (within account).accrued, change]

end Transfers

/-! ## Transfers of the command line -/

namespace CommandLine

open Amount Transfers

variable {sender recipient : AccountId} {amount : Int64} {entries : List AccountAmount}

/-- What a sender and a recipient are said to get, before it is collected. -/
def moved (sender recipient : AccountId) (amount : Int64) : List AccountAmount :=
  [{ account := sender, amount := negated amount }, { account := recipient, amount }]

theorem moved_within (sender recipient : AccountId) (amount : Int64) :
    Within (moved sender recipient amount) := by
  intro account
  rw [moved, amountsFor, List.filter_cons, List.filter_cons, List.filter_nil]
  by_cases sends : sender.same account <;> by_cases receives : recipient.same account
  · simpa [sends, receives] using steady_opposites amount
  · simpa [sends, receives] using steady_singleton (negated amount)
  · simpa [sends, receives] using steady_singleton amount
  · simpa [sends, receives] using steady_nil

/-- What comes of a transfer from one account to another, which may be the same one. -/
structure Moves (sender recipient : AccountId) (amount : Int64) (entries : List AccountAmount) :
    Prop where
  received : ¬ sender.same recipient → change recipient entries = amount.toInt
  given_iff : ¬ sender.same recipient →
    (change sender entries = -amount.toInt ↔ amount ≠ Int64.minValue)
  others : ∀ account : AccountId, ¬ sender.same account → ¬ recipient.same account →
    change account entries = 0
  balanced_iff : total (entries.map (·.amount)) = 0 ↔ amount ≠ Int64.minValue
  short : amount = Int64.minValue → total (entries.map (·.amount)) = -1

theorem ofEntries_moves (sender recipient : AccountId) (amount : Int64) :
    Moves sender recipient amount (ofEntries (moved sender recipient amount)) := by
  have within := moved_within sender recipient amount
  have summed : total ((ofEntries (moved sender recipient amount)).map (·.amount)) =
      if amount = Int64.minValue then -1 else 0 := by
    rw [within.total_ofEntries, moved, total_cons, total_cons, ← toInt_negated_add amount]
    simp [total]
  have changed (account : AccountId) :
      change account (ofEntries (moved sender recipient amount)) =
        (if sender.same account then (negated amount).toInt else 0) +
          (if recipient.same account then amount.toInt else 0) := by
    rw [within.change_ofEntries, moved, change_cons, change_cons]
    cases sender.same account <;> cases recipient.same account <;> simp [change, amountsFor, total]
  refine ⟨fun apart => ?_, fun apart => ?_, fun account apart aside => ?_, ?_, ?_⟩
  · rw [changed, if_neg apart, if_pos (EntityId.same_refl recipient), Int.zero_add]
  · have reversed : ¬ recipient.same sender := by rwa [EntityId.same_comm]
    rw [changed, if_pos (EntityId.same_refl sender), if_neg reversed, Int.add_zero,
      toInt_negated_eq_iff]
  · rw [changed, if_neg apart, if_neg aside, Int.zero_add]
  · rw [summed]
    split <;> simp_all
  · intro lowest
    rw [summed, if_pos lowest]

/-- The transfer of the command line, as it is written into bodies, moves the amount exactly and is
balanced except for the least amount. -/
theorem transferPayload_moves (sender recipient : AccountId) (amount : Int64) :
    ∃ entries, (∀ chunk, (transferPayload sender recipient amount).data chunk = .transfer entries) ∧
      Moves sender recipient amount entries :=
  ⟨_, fun _ => rfl, ofEntries_moves sender recipient amount⟩

end CommandLine

namespace Sample

open CommandLine

/-- The operator sends itself the least amount, and the entries add up to less than nothing. -/
theorem leastAmount_unbalanced :
    Arguments.parse ["transfer", "--", "0.0.1001", "-9223372036854775808"] =
        .ok { settingsPath := "meridian.yaml", command := .transfer operator.account .minValue } ∧
      (transferPayload operator.account operator.account .minValue).data none =
        .transfer [{ account := operator.account, amount := -1 }] ∧
      Amount.total [-1] ≠ 0 := by
  decide +kernel

end Sample

end LedgerClient
