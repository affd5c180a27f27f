import LedgerClient.Message.Data
import LedgerClient.Network.Method

/-!
What can go wrong in a client, by cause, with the text a user gets to read.
-/

namespace LedgerClient

inductive ConfigurationError where
  | zeroAttempts
  | backoffRange (least most : Duration)
  | zeroLimit (field : String)
  | unknownNode (node : AccountId)
  | noNodes
  | noOperator
  | signerUnavailable (key : PublicKey)
  | invalidScheme (scheme : String)
deriving DecidableEq

def ConfigurationError.name : ConfigurationError → String
  | zeroAttempts => "ZeroAttempts"
  | backoffRange .. => "BackoffRange"
  | zeroLimit _ => "ZeroLimit"
  | unknownNode _ => "UnknownNode"
  | noNodes => "NoNodes"
  | noOperator => "NoOperator"
  | signerUnavailable _ => "SignerUnavailable"
  | invalidScheme _ => "InvalidScheme"

def ConfigurationError.message : ConfigurationError → String
  | zeroAttempts => "max_attempts must be > 0"
  | backoffRange least most => s!"min backoff {least.text} must not exceed max backoff {most.text}"
  | zeroLimit field => s!"{field} must be > 0"
  | unknownNode node => s!"node {node.text} is not part of the network"
  | noNodes => "no nodes to send to"
  | noOperator => "no operator configured"
  | signerUnavailable key => s!"no signer available for key {Hex.encode key.bytes}"
  | invalidScheme scheme => s!"invalid URL scheme: {scheme} (expected http or https)"

/-- A failure names the transaction it was about where there is one. -/
inductive Error where
  | configuration (cause : ConfigurationError)
  | alreadyFrozen
  | notFrozen
  | missingField (name : String)
  | isSealed
  | checksumMismatch (cause : ChecksumMismatch)
  | precheckRejected (status : Status) (id : Option TransactionId) (node : AccountId)
  | timeout (attempts : Nat) (last : Option Status) (id : Option TransactionId)
  | deadlineExceeded (id : Option TransactionId)
  | receiptThrottled (id : TransactionId)
  | receiptStatus (status : Status) (id : TransactionId)
  | notSchedulable (kind : TransactionKind)
  | transactionOversize (size most : Nat)
  | maxChunksExceeded (required most : Nat)
  | maxQueryPaymentExceeded (cost most : Nat)
  | invalidSignature
  | transport (cause : TransportError)
  | requestFailed (cause : TransportError) (id : Option TransactionId) (node : AccountId)
  | invalidData (cause : DecodeError)
  | invalidResponse (cause : DecodeError) (id : Option TransactionId) (node : AccountId)
  | unexpectedResponse
deriving DecidableEq

namespace Error

def name : Error → String
  | configuration _ => "Configuration"
  | alreadyFrozen => "AlreadyFrozen"
  | notFrozen => "NotFrozen"
  | missingField _ => "MissingField"
  | isSealed => "Sealed"
  | checksumMismatch _ => "ChecksumMismatch"
  | precheckRejected .. => "PrecheckRejected"
  | timeout .. => "Timeout"
  | deadlineExceeded _ => "DeadlineExceeded"
  | receiptThrottled _ => "ReceiptThrottled"
  | receiptStatus .. => "ReceiptStatus"
  | notSchedulable _ => "NotSchedulable"
  | transactionOversize .. => "TransactionOversize"
  | maxChunksExceeded .. => "MaxChunksExceeded"
  | maxQueryPaymentExceeded .. => "MaxQueryPaymentExceeded"
  | invalidSignature => "InvalidSignature"
  | transport _ => "Transport"
  | requestFailed .. => "RequestFailed"
  | invalidData _ => "InvalidData"
  | invalidResponse .. => "InvalidResponse"
  | unexpectedResponse => "UnexpectedResponse"

/-- The name of the cause that a failure of the settings or of the transport wraps. -/
def causeName : Error → Option String
  | configuration cause => some cause.name
  | transport cause => some cause.name
  | requestFailed cause .. => some cause.name
  | _ => none

def describe (id : Option TransactionId) : String :=
  match id with
  | none => "request"
  | some id => id.text

def message : Error → String
  | configuration cause => s!"configuration error: {cause.message}"
  | alreadyFrozen => "transaction is already frozen"
  | notFrozen => "transaction is not frozen"
  | missingField name => s!"missing required field: {name}"
  | isSealed => "transaction is sealed"
  | checksumMismatch cause => cause.message
  | precheckRejected status id node =>
      s!"precheck failed for {describe id} at node {node.text}: {status.text}"
  | timeout attempts last id =>
      let last := match last with
        | none => "none"
        | some status => status.text
      s!"gave up on {describe id} after {attempts} attempts (last status: {last})"
  | deadlineExceeded id => s!"deadline exceeded for {describe id}"
  | receiptThrottled id => s!"{id.text} was throttled at consensus twice"
  | receiptStatus status id => s!"{id.text} failed with status {status.text}"
  | notSchedulable kind => s!"{kind.name} transactions cannot be scheduled"
  | transactionOversize size most => s!"transaction body is {size} bytes (max {most})"
  | maxChunksExceeded required most => s!"content needs {required} chunks (max {most})"
  | maxQueryPaymentExceeded cost most => s!"query cost {cost} exceeds max payment {most}"
  | invalidSignature => "invalid signature"
  | transport cause => s!"transport error: {cause.message}"
  | requestFailed cause id node =>
      s!"request for {describe id} failed at node {node.text}: {cause.message}"
  | invalidData cause => s!"invalid data: {cause.message}"
  | invalidResponse cause id node =>
      s!"node {node.text} answered {describe id} with an undecodable reply: {cause.message}"
  | unexpectedResponse => "unexpected response"

def chain (error : Error) : List String :=
  error.message :: match error with
    | configuration cause => [cause.message]
    | checksumMismatch cause => [cause.message]
    | transport cause => cause.chain
    | requestFailed cause .. => cause.chain
    | invalidData cause => [cause.message]
    | invalidResponse cause .. => [cause.message]
    | _ => []

def transactionId : Error → Option TransactionId
  | precheckRejected _ id _ => id
  | timeout _ _ id => id
  | deadlineExceeded id => id
  | requestFailed _ id _ => id
  | invalidResponse _ id _ => id
  | receiptThrottled id => some id
  | receiptStatus _ id => some id
  | _ => none

/-- Whether the failure came from the network and not from how the client was used. -/
def isNetwork : Error → Bool
  | precheckRejected .. | timeout .. | deadlineExceeded _ | receiptThrottled _ | receiptStatus ..
  | transport _ | requestFailed .. | invalidResponse .. => true
  | _ => false

def invalid (defect : Defect) : Error :=
  invalidData (.invalid defect)

end Error

end LedgerClient
