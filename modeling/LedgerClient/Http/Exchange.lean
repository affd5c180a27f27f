import LedgerClient.Execution.World

/-!
Calls of methods as exchanges over HTTP. A call posts its request to the path of the method below
the node's own path, and the content of the reply is what the call brings back.
-/

namespace LedgerClient

structure HttpRequest where
  url : Url
  body : Bytes
deriving DecidableEq

namespace HttpRequest

def contentType : String := "application/octet-stream"

def ofCall (address : Url) (method : Method) (body : Bytes) : Except TransportError HttpRequest :=
  match address.join method.path with
  | .ok url => .ok { url, body }
  | .error cause => .error (.url cause)

def target (request : HttpRequest) : String :=
  request.url.pathText ++ request.url.queryText

end HttpRequest

/-- A reply is incomplete when the connection ended before as many bytes came as were announced. -/
structure HttpReply where
  status : HttpStatus
  body : Bytes
  isComplete : Bool
deriving DecidableEq

/-- What a call brings back. There is no reply when no connection could be made. Only a reply with
a status of success is read, and one that announces no content has none. -/
def HttpReply.content : Option HttpReply → Except TransportError Bytes
  | none => .error (.broken .connection "no connection")
  | some reply =>
      if !reply.status.isSuccess then .error (.failed reply.status)
      else if reply.status.code = 204 then .ok []
      else if reply.isComplete then .ok reply.body
      else .error (.broken .body "the reply was cut off")

/-- What becomes of a call whose reply, or the failure to get one, takes so long. -/
def Reply.ofHttp (reply : Option HttpReply) (delay : Duration := Duration.zero) : Reply :=
  match HttpReply.content reply with
  | .ok bytes => .answered bytes delay
  | .error error => .failed error delay

end LedgerClient
