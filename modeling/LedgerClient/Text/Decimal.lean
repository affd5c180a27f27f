/-!
Numbers as decimal text, and the numbers that runs of digits stand for.
-/

namespace LedgerClient.Decimal

def padded (width value : Nat) : String :=
  let digits := toString value
  String.ofList (List.replicate (width - digits.length) '0') ++ digits

def isDigit (letter : Char) : Bool :=
  '0' ≤ letter && letter ≤ '9'

def value (digits : List Char) : Nat :=
  digits.foldl (fun value digit => value * 10 + (digit.toNat - '0'.toNat)) 0

end LedgerClient.Decimal
