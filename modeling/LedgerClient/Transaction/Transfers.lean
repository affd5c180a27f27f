import LedgerClient.Message.Data

/-!
Collecting the entries of a transfer. Amounts for one account are added up in one entry; a sum that
leaves the range of amounts stops at its end.
-/

namespace LedgerClient

namespace Amount

def least : Int := Int64.minValue.toInt

def most : Int := Int64.maxValue.toInt

/-- The amount nearest to `value`. -/
def clamp (value : Int) : Int64 :=
  Int64.ofInt (max least (min most value))

def plus (left right : Int64) : Int64 :=
  clamp (left.toInt + right.toInt)

def negated (amount : Int64) : Int64 :=
  clamp (-amount.toInt)

end Amount

namespace Transfers

/-- Adds to the entry of the account, which keeps the checksum it was first given with, or puts a
new entry at the end. -/
def add (entries : List AccountAmount) (account : AccountId) (amount : Int64) :
    List AccountAmount :=
  match entries with
  | [] => [{ account, amount }]
  | entry :: rest =>
      if entry.account.same account then
        { entry with amount := Amount.plus entry.amount amount } :: rest
      else entry :: add rest account amount

def ofEntries (entries : List AccountAmount) : List AccountAmount :=
  entries.foldl (fun collected entry => add collected entry.account entry.amount) []

end Transfers

end LedgerClient
