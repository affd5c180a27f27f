import LedgerClient.Hex

/-!
Percent encoding. A byte outside a set of plain characters is written as a percent sign and two
upper-case hexadecimal digits. The sets grow from the fragment of a URL to its user name.
-/

namespace LedgerClient.Percent

def upperDigit (value : Nat) : Char :=
  if value < 10 then Char.ofNat (48 + value) else Char.ofNat (55 + value)

def escapeByte (byte : UInt8) : List Char :=
  ['%', upperDigit (byte.toNat / 16), upperDigit (byte.toNat % 16)]

/-- Writes the characters in `plain` as they are and all others as the bytes of their UTF-8 form. -/
def encode (plain : Char → Bool) (letters : List Char) : String :=
  String.ofList (letters.flatMap fun letter =>
    if plain letter then [letter]
    else (Bytes.ofText (String.singleton letter)).flatMap escapeByte)

/-- A percent sign that two digits do not follow stands for itself. -/
def decode : Bytes → Bytes
  | [] => []
  | 37 :: high :: low :: rest =>
      match Hex.digitValue? (Char.ofNat high.toNat), Hex.digitValue? (Char.ofNat low.toNat) with
      | some high, some low => UInt8.ofNat (high * 16 + low) :: decode rest
      | _, _ => 37 :: decode (high :: low :: rest)
  | byte :: rest => byte :: decode rest

def isPrintableBut (others : List Char) (letter : Char) : Bool :=
  ' ' ≤ letter && letter ≤ '~' && !others.contains letter

def plainInControls : Char → Bool := isPrintableBut []

def plainInFragment : Char → Bool := isPrintableBut [' ', '"', '<', '>', '\x60']

def plainInQuery : Char → Bool := isPrintableBut [' ', '"', '#', '<', '>']

/-- Queries of the schemes for the web encode the single quote as well. -/
def plainInWebQuery : Char → Bool := isPrintableBut [' ', '"', '#', '<', '>', '\'']

def plainInPath : Char → Bool :=
  isPrintableBut [' ', '"', '<', '>', '\x60', '#', '?', '\x7b', '\x7d']

def plainInUser : Char → Bool :=
  isPrintableBut [' ', '"', '<', '>', '\x60', '#', '?', '\x7b', '\x7d', '/', ':', ';', '=', '@',
    '[', '\\', ']', '^', '|']

end LedgerClient.Percent
