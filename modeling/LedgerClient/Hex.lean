import LedgerClient.Bytes

/-!
Byte strings as hexadecimal text. Texts are written in lower case without a lead; a text that is
read may be broken by blanks and line ends and may begin with `0x`.
-/

namespace LedgerClient.Hex

def digit (value : Nat) : Char :=
  if value < 10 then Char.ofNat (48 + value) else Char.ofNat (87 + value)

def encode (bytes : Bytes) : String :=
  String.ofList (bytes.flatMap fun byte => [digit (byte.toNat / 16), digit (byte.toNat % 16)])

def digitValue? (letter : Char) : Option Nat :=
  if '0' ≤ letter ∧ letter ≤ '9' then some (letter.toNat - 48)
  else if 'a' ≤ letter ∧ letter ≤ 'f' then some (letter.toNat - 87)
  else if 'A' ≤ letter ∧ letter ≤ 'F' then some (letter.toNat - 55)
  else none

/-- Two digits make a byte; a lone digit at the end makes no text. -/
def decodeDigits : List Char → Option Bytes
  | [] => some []
  | [_] => none
  | high :: low :: rest => do
      let high ← digitValue? high
      let low ← digitValue? low
      let rest ← decodeDigits rest
      return UInt8.ofNat (high * 16 + low) :: rest

def isBlank (letter : Char) : Bool :=
  letter == ' ' || letter == '\t' || letter == '\n' || letter == '\r'

def decode (text : String) : Option Bytes :=
  match text.toList.filter (!isBlank ·) with
  | '0' :: 'x' :: digits => decodeDigits digits
  | digits => decodeDigits digits

end LedgerClient.Hex
