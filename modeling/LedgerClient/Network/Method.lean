import LedgerClient.Http.Status
import LedgerClient.Url.Reference

/-!
The methods that nodes offer, and how a call of one can fail before any reply is read.
-/

namespace LedgerClient

inductive Service where
  | crypto
  | file
  | consensus
  | schedule
deriving DecidableEq

def Service.name : Service → String
  | crypto => "crypto"
  | file => "file"
  | consensus => "consensus"
  | schedule => "schedule"

structure Method where
  service : Service
  name : String
deriving DecidableEq

def Method.path (method : Method) : String :=
  method.service.name ++ "/" ++ method.name

/-- Where an exchange over HTTP broke off. -/
inductive Breakage where
  | timeout
  | connection
  | request
  | body
  | decoding
  | setup
  | redirection
  | upgrade
deriving DecidableEq

/-- Another try may get further, unless the exchange cannot work as it was set up or redirected. -/
def Breakage.isTransient : Breakage → Bool
  | timeout | connection | request | body | decoding => true
  | setup | redirection | upgrade => false

inductive TransportError where
  | broken (breakage : Breakage) (detail : String)
  | failed (status : HttpStatus)
  | url (error : UrlError)
  | unavailable (detail : String)
deriving DecidableEq

namespace TransportError

def name : TransportError → String
  | broken .. => "Reqwest"
  | failed _ => "Failed"
  | url _ => "Url"
  | unavailable _ => "Unavailable"

def message : TransportError → String
  | broken _ detail => "reqwest error: " ++ detail
  | failed status => "failed: " ++ status.text
  | url error => "URL parse error: " ++ error.message
  | unavailable detail => "connection failed: " ++ detail

def chain (error : TransportError) : List String :=
  match error with
  | url cause => [error.message, cause.message]
  | _ => [error.message]

/-- Another node, or the same one later, may answer. -/
def isTransient : TransportError → Bool
  | broken breakage _ => breakage.isTransient
  | failed status => status.isTransient
  | url _ => false
  | unavailable _ => true

end TransportError

end LedgerClient
