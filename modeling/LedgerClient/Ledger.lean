import LedgerClient.Hex

/-!
The ledgers a client can be set up for. Three are known by name; any other is known by its bytes,
written in hexadecimal. The single bytes 0, 1 and 2 are the named ledgers themselves.
-/

namespace LedgerClient

inductive LedgerId where
  | mainnet
  | testnet
  | previewnet
  | other (bytes : Bytes)
deriving DecidableEq

namespace LedgerId

def bytes : LedgerId → Bytes
  | mainnet => [0]
  | testnet => [1]
  | previewnet => [2]
  | other bytes => bytes

def ofBytes : Bytes → LedgerId
  | [0] => mainnet
  | [1] => testnet
  | [2] => previewnet
  | bytes => other bytes

def name : LedgerId → String
  | mainnet => "Mainnet"
  | testnet => "Testnet"
  | previewnet => "Previewnet"
  | other _ => "Other"

def text : LedgerId → String
  | mainnet => "mainnet"
  | testnet => "testnet"
  | previewnet => "previewnet"
  | other bytes => "0x" ++ Hex.encode bytes

/-- A name, or at least one byte in hexadecimal. -/
def parse? (text : String) : Option LedgerId :=
  if text = "mainnet" then some mainnet
  else if text = "testnet" then some testnet
  else if text = "previewnet" then some previewnet
  else
    match Hex.decode text with
    | some [] => none
    | some bytes => some (ofBytes bytes)
    | none => none

end LedgerId

structure InvalidLedgerId where
  given : String
deriving DecidableEq

def InvalidLedgerId.message (error : InvalidLedgerId) : String :=
  "invalid ledger id: " ++ error.given

def LedgerId.parse (text : String) : Except InvalidLedgerId LedgerId :=
  match parse? text with
  | some ledger => .ok ledger
  | none => .error { given := text }

end LedgerClient
