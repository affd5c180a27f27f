import LedgerClient.Hex
import LedgerClient.Http.Exchange

/-!
Exchanges as lines of text, for a relay that holds the connections to the nodes. A request is a line
with its method, its URL and its body; the reply is a line with a status and a body. Bodies are in
hexadecimal, and any other line means that there was no connection.
-/

namespace LedgerClient

def HttpRequest.line (request : HttpRequest) : String :=
  "POST " ++ request.url.text ++ " " ++ Hex.encode request.body

def HttpReply.ofLine? (line : String) : Option HttpReply := do
  let letters := line.toList.filter fun letter => letter != '\n' && letter != '\r'
  let digits := letters.takeWhile Decimal.isDigit
  let body ← Hex.decode (String.ofList (letters.drop digits.length))
  if digits.length = 3 then
    return { status := { code := Decimal.value digits }, body, isComplete := true }
  else none

end LedgerClient
