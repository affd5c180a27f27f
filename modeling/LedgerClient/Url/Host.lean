import LedgerClient.Url.Domain
import LedgerClient.Url.Percent

/-!
Hosts of URLs: domain names, and addresses of version 4 and 6 in all their spellings. A name whose
last label is a number has to be an address.
-/

namespace LedgerClient

inductive UrlError where
  | emptyHost
  | invalidPort
  | invalidIpv4
  | invalidIpv6
  | invalidDomainName
  | invalidDomainCharacter
  | relativeWithoutBase
  | relativeToOpaque
deriving DecidableEq

def UrlError.message : UrlError → String
  | emptyHost => "empty host"
  | invalidPort => "invalid port number"
  | invalidIpv4 => "invalid IPv4 address"
  | invalidIpv6 => "invalid IPv6 address"
  | invalidDomainName => "invalid international domain name"
  | invalidDomainCharacter => "invalid domain character"
  | relativeWithoutBase => "relative URL without a base"
  | relativeToOpaque => "relative URL with a cannot-be-a-base base"

inductive Host where
  | name (text : String)
  | ipv4 (value : Nat)
  | ipv6 (pieces : List Nat)
deriving DecidableEq

namespace Host

def digitsValue? (base : Nat) (digits : List Char) : Option Nat :=
  digits.foldlM (fun value digit => do
    let digit ← Hex.digitValue? digit
    if digit < base then return value * base + digit else none) 0

/-! ## Version 4 -/

/-- A number in decimal, or in octal after `0`, or in hexadecimal after `0x`. -/
def ipv4Number? : List Char → Option Nat
  | [] => none
  | '0' :: 'x' :: digits => digitsValue? 16 digits
  | '0' :: 'X' :: digits => digitsValue? 16 digits
  | '0' :: digit :: digits => digitsValue? 8 (digit :: digits)
  | digits => digitsValue? 10 digits

/-- Labels without the empty one that a point at the end leaves. -/
def dropTrailingEmpty (labels : List (List Char)) : List (List Char) :=
  if labels.getLast? = some [] then labels.dropLast else labels

def endsInNumber (name : List Char) : Bool :=
  match (dropTrailingEmpty (Domain.splitPoints name)).getLast? with
  | none => false
  | some label => (!label.isEmpty && label.all Decimal.isDigit) || (ipv4Number? label).isSome

/-- Up to four numbers; the last one fills all bytes that the others leave. -/
def ipv4? (name : List Char) : Option Nat := do
  let labels := dropTrailingEmpty (Domain.splitPoints name)
  let numbers ← labels.mapM ipv4Number?
  let last ← numbers.getLast?
  let first := numbers.dropLast
  if numbers.length ≤ 4 ∧ first.all (· ≤ 255) ∧ last < Nat.pow 256 (5 - numbers.length) then
    return first.zipIdx.foldl (fun value (number, place) => value + number * Nat.pow 256 (3 - place)) last
  else none

def ipv4Text (value : Nat) : String :=
  s!"{value / 16777216}.{value / 65536 % 256}.{value / 256 % 256}.{value % 256}"

/-! ## Version 6 -/

def splitColons (letters : List Char) : List (List Char) :=
  EntityId.splitAll ':' letters

def hexPiece? (digits : List Char) : Option Nat :=
  if digits.isEmpty || 4 < digits.length then none else digitsValue? 16 digits

def bytePart? (digits : List Char) : Option Nat := do
  let value ← if digits.isEmpty then none else digitsValue? 10 digits
  if value ≤ 255 ∧ (digits.length = 1 ∨ digits.head? ≠ some '0') then return value else none

/-- Pieces between colons; where an address may end in version 4 form, that makes two pieces. -/
def ipv6Pieces? (mayEndIn4 : Bool) : List (List Char) → Option (List Nat)
  | [] => some []
  | [last] =>
      if mayEndIn4 && last.contains '.' then do
        match ← (Domain.splitPoints last).mapM bytePart? with
        | [a, b, c, d] => return [a * 256 + b, c * 256 + d]
        | _ => none
      else do return [← hexPiece? last]
  | piece :: rest => do return (← hexPiece? piece) :: (← ipv6Pieces? mayEndIn4 rest)

/-- The letters before and after the first pair of colons. -/
def splitDoubleColon : List Char → Option (List Char × List Char)
  | [] => none
  | ':' :: ':' :: rest => some ([], rest)
  | letter :: rest => (splitDoubleColon rest).map fun (before, after) => (letter :: before, after)

def ipv6Half? (mayEndIn4 : Bool) (letters : List Char) : Option (List Nat) :=
  if letters.isEmpty then some [] else ipv6Pieces? mayEndIn4 (splitColons letters)

/-- Eight pieces, or fewer around a pair of colons that stands for the missing zeros. -/
def ipv6? (letters : List Char) : Option (List Nat) := do
  match splitDoubleColon letters with
  | none =>
      let pieces ← ipv6Pieces? true (splitColons letters)
      if pieces.length = 8 then return pieces else none
  | some (before, after) =>
      let first ← ipv6Half? false before
      let last ← ipv6Half? true after
      if first.length + last.length ≤ 7 then
        return first ++ List.replicate (8 - first.length - last.length) 0 ++ last
      else none

def zeroRun (pieces : List Nat) : Nat :=
  (pieces.takeWhile (· = 0)).length

def longestZeroRun : (place : Nat) → List Nat → Nat × Nat
  | _, [] => (0, 0)
  | place, piece :: rest =>
      let later := longestZeroRun (place + 1) rest
      let here := zeroRun (piece :: rest)
      if later.2 ≤ here then (place, here) else later

def hexText (value : Nat) : String :=
  String.ofList (Nat.toDigits 16 value)

def colonJoin (pieces : List Nat) : String :=
  ":".intercalate (pieces.map hexText)

/-- The longest run of two zeros or more is left out. -/
def ipv6Text (pieces : List Nat) : String :=
  let run := longestZeroRun 0 pieces
  if run.2 < 2 then colonJoin pieces
  else colonJoin (pieces.take run.1) ++ "::" ++ colonJoin (pieces.drop (run.1 + run.2))

def text : Host → String
  | name text => text
  | ipv4 value => ipv4Text value
  | ipv6 pieces => "[" ++ ipv6Text pieces ++ "]"

/-! ## Names -/

def isForbiddenOpaque (letter : Char) : Bool :=
  ['\x00', '\t', '\n', '\r', ' ', '#', '/', ':', '<', '>', '?', '@', '[', '\\', ']', '^',
    '|'].contains letter

def parseName (rules : Domain.Rules) (letters : List Char) : Except UrlError Host := do
  match Bytes.text? (Percent.decode (Bytes.ofText (String.ofList letters))) with
  | none => .error .invalidDomainName
  | some decoded =>
      match rules.ascii? decoded.toList with
      | none => .error .invalidDomainName
      | some [] => .error .emptyHost
      | some letters =>
          if endsInNumber letters then
            match ipv4? letters with
            | some value => .ok (ipv4 value)
            | none => .error .invalidIpv4
          else .ok (name (String.ofList letters))

/-- Square brackets enclose an address of version 6. `web` says whether other hosts are domain
names or texts without a rule of their own. -/
def parse (rules : Domain.Rules) (web : Bool) (letters : List Char) : Except UrlError Host :=
  match letters with
  | '[' :: rest =>
      if rest.getLast? = some ']' then
        match ipv6? rest.dropLast with
        | some pieces => .ok (ipv6 pieces)
        | none => .error .invalidIpv6
      else .error .invalidIpv6
  | _ =>
      if web then parseName rules letters
      else if letters.any isForbiddenOpaque then .error .invalidDomainCharacter
      else .ok (name (Percent.encode Percent.plainInControls letters))

end Host

end LedgerClient
