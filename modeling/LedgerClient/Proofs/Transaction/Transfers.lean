import LedgerClient.Transaction.Transfers
import Mathlib.Algebra.BigOperators.Group.List.Basic
import Mathlib.Algebra.Ring.Int.Defs
import Mathlib.Data.List.Induction
import Mathlib.Data.List.Nodup
import Mathlib.Order.MinMax

/-!
What the entries of a transfer add up to. Every account has one entry, in the order in which the
accounts were first given, and its amount is the sum of what was given for it, as long as no sum on
the way leaves the range of amounts. A sum that does stops at the end of the range, and what is given
later counts from there.
-/

namespace LedgerClient

namespace Amount

variable {amounts earlier later : List Int64} {sum amount : Int64}

/-! ## Sums of amounts -/

def Fits (value : Int) : Prop :=
  least ≤ value ∧ value ≤ most

instance (value : Int) : Decidable (Fits value) :=
  inferInstanceAs (Decidable (_ ∧ _))

def total (amounts : List Int64) : Int :=
  (amounts.map Int64.toInt).sum

/-- The amounts added up one after the other. -/
def accrued (amounts : List Int64) : Int64 :=
  amounts.foldl plus 0

/-- What is cut off at the upper end of the range, less what is cut off at the lower one, when these
amounts are added to a sum. -/
def cutOff (sum : Int64) : List Int64 → Int
  | [] => 0
  | amount :: rest =>
      sum.toInt + amount.toInt - (plus sum amount).toInt + cutOff (plus sum amount) rest

/-- No sum leaves the range on the way. -/
def Steady (amounts : List Int64) : Prop :=
  ∀ earlier, earlier <+: amounts → Fits (total earlier)

theorem fits_toInt (amount : Int64) : Fits amount.toInt :=
  ⟨amount.minValue_le_toInt, amount.toInt_le⟩

theorem toInt_clamp (value : Int) : (clamp value).toInt = max least (min most value) := by
  have ends : least = -2 ^ 63 ∧ most = 2 ^ 63 - 1 := by decide
  apply Int64.toInt_ofInt_of_le <;> omega

theorem clamp_of_fits {value : Int} (fits : Fits value) : (clamp value).toInt = value := by
  rw [toInt_clamp, min_eq_right fits.2, max_eq_right fits.1]

theorem toInt_plus (fits : Fits (sum.toInt + amount.toInt)) :
    (plus sum amount).toInt = sum.toInt + amount.toInt :=
  clamp_of_fits fits

theorem zero_plus (amount : Int64) : plus 0 amount = amount := by
  rw [plus, Int64.toInt_zero, Int.zero_add]
  exact Int64.toInt_inj.mp (clamp_of_fits (fits_toInt amount))

theorem total_append (earlier later : List Int64) :
    total (earlier ++ later) = total earlier + total later := by
  rw [total, List.map_append, List.sum_append, total, total]

theorem total_concat (amounts : List Int64) (amount : Int64) :
    total (amounts ++ [amount]) = total amounts + amount.toInt := by
  rw [total_append, total, total, List.map_singleton, List.sum_singleton]

theorem total_perm (same : earlier.Perm later) : total earlier = total later :=
  (same.map Int64.toInt).sum_eq

theorem accrued_concat (amounts : List Int64) (amount : Int64) :
    accrued (amounts ++ [amount]) = plus (accrued amounts) amount := by
  rw [accrued, List.foldl_append, List.foldl_cons, List.foldl_nil, accrued]

theorem Steady.start (steady : Steady amounts) (before : earlier <+: amounts) : Steady earlier :=
  fun part begins => steady part (begins.trans before)

theorem Steady.accrued (steady : Steady amounts) : (accrued amounts).toInt = total amounts := by
  induction amounts using List.reverseRecOn with
  | nil => rfl
  | append_singleton amounts amount ih =>
      have reached := ih (steady.start (List.prefix_append _ _))
      have fits := steady _ List.prefix_rfl
      rw [total_concat, ← reached] at fits ⊢
      rw [accrued_concat, toInt_plus fits]

/-- Nothing is lost but what is cut off. -/
theorem foldl_plus_cutOff (amounts : List Int64) (sum : Int64) :
    (amounts.foldl plus sum).toInt + cutOff sum amounts = sum.toInt + total amounts := by
  induction amounts generalizing sum with
  | nil => rfl
  | cons amount rest ih =>
      have later := ih (plus sum amount)
      rw [List.foldl_cons, cutOff, total, List.map_cons, List.sum_cons]
      rw [total] at later
      omega

theorem accrued_exact_iff : (accrued amounts).toInt = total amounts ↔ cutOff 0 amounts = 0 := by
  have split := foldl_plus_cutOff amounts 0
  rw [Int64.toInt_zero, ← Amount.accrued] at split
  omega

end Amount

namespace Transfers

open Amount

variable {calls other entries : List AccountAmount} {entry call : AccountAmount}

/-! ## The entry of an account -/

def amountFor (account : AccountId) (entries : List AccountAmount) : Option Int64 :=
  (entries.find? (·.account.same account)).map (·.amount)

/-- What was given for an account, in the order of the calls. -/
def amountsFor (account : AccountId) (calls : List AccountAmount) : List Int64 :=
  (calls.filter (·.account.same account)).map (·.amount)

theorem amountFor_cons (account : AccountId) (entry : AccountAmount) (rest : List AccountAmount) :
    amountFor account (entry :: rest) =
      if entry.account.same account then some entry.amount else amountFor account rest := by
  rw [amountFor, List.find?_cons]
  cases entry.account.same account <;> rfl

theorem amountFor_add (entries : List AccountAmount) (account : AccountId) (amount : Int64)
    (asked : AccountId) : amountFor asked (add entries account amount) =
      if account.same asked then some (plus ((amountFor asked entries).getD 0) amount)
      else amountFor asked entries := by
  induction entries with
  | nil =>
      rw [add, amountFor_cons]
      cases account.same asked <;> simp [amountFor, zero_plus]
  | cons entry rest ih =>
      rw [add, amountFor_cons]
      by_cases known : entry.account.same account
      · rw [if_pos known, amountFor_cons, EntityId.same_congr known asked]
        cases account.same asked <;> simp
      · rw [if_neg known, amountFor_cons, ih]
        by_cases asks : entry.account.same asked
        · have apart : ¬ account.same asked := by
            rwa [EntityId.same_comm, ← EntityId.same_congr asks]
          simp [asks, apart]
        · simp [asks]

theorem ofEntries_concat (calls : List AccountAmount) (call : AccountAmount) :
    ofEntries (calls ++ [call]) = add (ofEntries calls) call.account call.amount := by
  rw [ofEntries, List.foldl_append, List.foldl_cons, List.foldl_nil, ofEntries]

theorem amountsFor_concat (account : AccountId) (calls : List AccountAmount)
    (call : AccountAmount) : amountsFor account (calls ++ [call]) =
      if call.account.same account then amountsFor account calls ++ [call.amount]
      else amountsFor account calls := by
  rw [amountsFor, List.filter_append, List.map_append, ← amountsFor]
  cases same : call.account.same account <;> simp [same]

theorem amountFor_ofEntries (account : AccountId) (calls : List AccountAmount) :
    amountFor account (ofEntries calls) =
      if amountsFor account calls = [] then none else some (accrued (amountsFor account calls)) := by
  induction calls using List.reverseRecOn with
  | nil => rfl
  | append_singleton calls call ih =>
      rw [ofEntries_concat, amountFor_add, amountsFor_concat, ih]
      by_cases same : call.account.same account
      · rw [if_pos same, if_pos same, accrued_concat]
        by_cases fresh : amountsFor account calls = [] <;> simp [fresh, accrued]
      · rw [if_neg same, if_neg same]

theorem amountFor_of_mem (once : ((entries.map (·.account)).map EntityId.bare).Nodup)
    (member : entry ∈ entries) : amountFor entry.account entries = some entry.amount := by
  induction entries with
  | nil => exact absurd member List.not_mem_nil
  | cons first rest ih =>
      obtain ⟨fresh, once⟩ := List.nodup_cons.mp once
      rw [amountFor_cons]
      rcases List.mem_cons.mp member with rfl | later
      · rw [if_pos (EntityId.same_refl _)]
      · have apart : ¬ first.account.same entry.account := fun same =>
          fresh (List.mem_map.mpr
            ⟨entry.account, List.mem_map_of_mem later, (EntityId.same_iff.mp same).symm⟩)
        rw [if_neg apart, ih once later]

/-! ## The accounts -/

theorem accounts_add (entries : List AccountAmount) (account : AccountId) (amount : Int64) :
    (add entries account amount).map (·.account) =
      if (entries.map (·.account)).any account.same then entries.map (·.account)
      else entries.map (·.account) ++ [account] := by
  induction entries with
  | nil => rfl
  | cons entry rest ih =>
      rw [add, List.map_cons, List.any_cons, EntityId.same_comm account entry.account]
      by_cases known : entry.account.same account
      · simp [known]
      · rw [if_neg known, List.map_cons, ih]
        by_cases later : (rest.map (·.account)).any account.same <;> simp [known, later]

theorem loop_concat {α : Type} (same : α → α → Bool) (items : List α) (item : α) (kept : List α) :
    List.eraseDupsBy.loop same (items ++ [item]) kept =
      if (List.eraseDupsBy.loop same items kept).any (same item)
      then List.eraseDupsBy.loop same items kept
      else List.eraseDupsBy.loop same items kept ++ [item] := by
  induction items generalizing kept with
  | nil =>
      cases known : kept.any (same item) <;> simp [List.eraseDupsBy.loop, known]
  | cons first rest ih =>
      rw [List.cons_append, List.eraseDupsBy.loop, List.eraseDupsBy.loop]
      cases kept.any (same first) <;> exact ih _

/-- The last of some items is kept if it is like none of those before it. -/
theorem eraseDupsBy_concat {α : Type} (same : α → α → Bool) (items : List α) (item : α) :
    (items ++ [item]).eraseDupsBy same =
      if (items.eraseDupsBy same).any (same item) then items.eraseDupsBy same
      else items.eraseDupsBy same ++ [item] :=
  loop_concat same items item []

theorem accounts_ofEntries (calls : List AccountAmount) :
    (ofEntries calls).map (·.account) = (calls.map (·.account)).eraseDupsBy EntityId.same := by
  induction calls using List.reverseRecOn with
  | nil => rfl
  | append_singleton calls call ih =>
      rw [ofEntries_concat, accounts_add, ih, List.map_append, List.map_singleton,
        eraseDupsBy_concat]

theorem once_ofEntries (calls : List AccountAmount) :
    (((ofEntries calls).map (·.account)).map EntityId.bare).Nodup := by
  induction calls using List.reverseRecOn with
  | nil => exact List.nodup_nil
  | append_singleton calls call ih =>
      rw [ofEntries_concat, accounts_add]
      by_cases known : ((ofEntries calls).map (·.account)).any call.account.same
      · rwa [if_pos known]
      · rw [if_neg known, List.map_append]
        refine ih.append (List.nodup_singleton _) (List.disjoint_singleton.mpr fun member => ?_)
        obtain ⟨account, kept, alike⟩ := List.mem_map.mp member
        exact known (List.any_eq_true.mpr ⟨account, kept, EntityId.same_iff.mpr alike.symm⟩)

theorem amount_ofEntries (member : entry ∈ ofEntries calls) :
    entry.amount = accrued (amountsFor entry.account calls) := by
  have found := amountFor_of_mem (once_ofEntries calls) member
  rw [amountFor_ofEntries] at found
  split at found
  · nomatch found
  · exact (Option.some.inj found).symm

/-! ## Totals -/

/-- No sum for any account leaves the range on the way. -/
def Within (calls : List AccountAmount) : Prop :=
  ∀ account, Steady (amountsFor account calls)

theorem Within.start (within : Within (calls ++ [call])) : Within calls := by
  intro account
  have steady := within account
  rw [amountsFor_concat] at steady
  split at steady
  · exact steady.start (List.prefix_append _ _)
  · exact steady

theorem total_cons (entry : AccountAmount) (rest : List AccountAmount) :
    total ((entry :: rest).map (·.amount)) = entry.amount.toInt + total (rest.map (·.amount)) := by
  rw [total, total, List.map_cons, List.map_cons, List.sum_cons]

/-- Only the amount of the account is another one afterwards. -/
theorem total_add (entries : List AccountAmount) (account : AccountId) (amount : Int64) :
    total ((add entries account amount).map (·.amount)) =
      total (entries.map (·.amount)) - ((amountFor account entries).getD 0).toInt +
        (plus ((amountFor account entries).getD 0) amount).toInt := by
  induction entries with
  | nil =>
      have alone : amountFor account [] = none := rfl
      rw [add, total_cons, alone, Option.getD_none, zero_plus]
      simp [total]
  | cons entry rest ih =>
      rw [add, amountFor_cons, total_cons]
      by_cases known : entry.account.same account
      · rw [if_pos known, if_pos known, total_cons, Option.getD_some]
        dsimp only
        omega
      · rw [if_neg known, if_neg known, total_cons, ih]
        omega

theorem getD_amountFor (account : AccountId) (calls : List AccountAmount) :
    (amountFor account (ofEntries calls)).getD 0 = accrued (amountsFor account calls) := by
  rw [amountFor_ofEntries]
  by_cases none : amountsFor account calls = [] <;> simp [none, accrued]

theorem Within.total_ofEntries (within : Within calls) :
    total ((ofEntries calls).map (·.amount)) = total (calls.map (·.amount)) := by
  induction calls using List.reverseRecOn with
  | nil => rfl
  | append_singleton calls call ih =>
      have steady := within call.account
      rw [amountsFor_concat, if_pos (EntityId.same_refl _)] at steady
      have reached := (steady.start (List.prefix_append _ _)).accrued
      have whole := steady.accrued
      rw [accrued_concat, total_concat] at whole
      rw [ofEntries_concat, total_add, getD_amountFor, ih within.start, List.map_append,
        List.map_singleton, total_concat]
      omega

theorem amountsFor_perm (same : calls.Perm other) (account : AccountId) :
    (amountsFor account calls).Perm (amountsFor account other) :=
  (same.filter _).map _

theorem Within.reordered (within : Within calls) (also : Within other) (same : calls.Perm other)
    (account : AccountId) :
    amountFor account (ofEntries calls) = amountFor account (ofEntries other) := by
  have alike := amountsFor_perm same account
  have reached : accrued (amountsFor account calls) = accrued (amountsFor account other) := by
    apply Int64.toInt_inj.mp
    rw [(within account).accrued, (also account).accrued, total_perm alike]
  rw [amountFor_ofEntries, amountFor_ofEntries, reached]
  simp only [← List.length_eq_zero_iff, alike.length_eq]

/-! ## Entries -/

/-- What these entries tell of the calls they were put together by. -/
structure Tallied (calls entries : List AccountAmount) : Prop where
  /-- An account is kept as it was first given, and in that place. -/
  accounts : entries.map (·.account) = (calls.map (·.account)).eraseDupsBy EntityId.same
  once : ((entries.map (·.account)).map EntityId.bare).Nodup
  amounts : ∀ entry ∈ entries, entry.amount = accrued (amountsFor entry.account calls)
  summed : ∀ entry ∈ entries, Steady (amountsFor entry.account calls) →
    entry.amount.toInt = total (amountsFor entry.account calls)
  exact_iff : ∀ entry ∈ entries, entry.amount.toInt = total (amountsFor entry.account calls) ↔
    cutOff 0 (amountsFor entry.account calls) = 0
  reordered : Within calls → ∀ other, Within other → calls.Perm other →
    ∀ account, amountFor account entries = amountFor account (ofEntries other)
  balanced : Within calls → total (entries.map (·.amount)) = total (calls.map (·.amount))

/-- Calls in any number and order are tallied by the entries that they put together. -/
theorem ofEntries_tallied (calls : List AccountAmount) : Tallied calls (ofEntries calls) where
  accounts := accounts_ofEntries calls
  once := once_ofEntries calls
  amounts _ := amount_ofEntries
  summed _ member steady := amount_ofEntries member ▸ steady.accrued
  exact_iff _ member := amount_ofEntries member ▸ accrued_exact_iff
  reordered within _ also same := within.reordered also same
  balanced within := within.total_ofEntries

/-- The largest amount, and then one more and one less for the same account. -/
def overfull : List AccountAmount :=
  [{ account := .ofNumbers 0 0 1001, amount := .maxValue },
    { account := .ofNumbers 0 0 1001, amount := 1 },
    { account := .ofNumbers 0 0 1001, amount := -1 },
    { account := .ofNumbers 0 0 1002, amount := -.maxValue }]

/-- The sum for each account is an amount, and all of them balance, but on the way a sum is cut off:
the entries do not balance, and in another order the amounts are others. -/
theorem overfull_cut :
    (∀ call ∈ overfull, Fits (total (amountsFor call.account overfull))) ∧
      total (overfull.map (·.amount)) = 0 ∧
      (¬ ∀ entry ∈ ofEntries overfull,
        entry.amount.toInt = total (amountsFor entry.account overfull)) ∧
      total ((ofEntries overfull).map (·.amount)) ≠ 0 ∧
      amountFor (.ofNumbers 0 0 1001) (ofEntries overfull) ≠
        amountFor (.ofNumbers 0 0 1001) (ofEntries overfull.reverse) := by
  decide +kernel

end Transfers

end LedgerClient
