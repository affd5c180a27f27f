import LedgerClient.Client.Basic
import LedgerClient.Settings.Basic

/-!
Settings that make sense. They are checked one by one in a fixed order, and the first one that fails
is reported.
-/

namespace LedgerClient

inductive LogLevel where
  | error
  | warn
  | info
  | debug
  | trace
deriving DecidableEq

namespace LogLevel

def all : List LogLevel := [error, warn, info, debug, trace]

def name : LogLevel → String
  | error => "ERROR"
  | warn => "WARN"
  | info => "INFO"
  | debug => "DEBUG"
  | trace => "TRACE"

/-- The level by its place from one on. -/
def ofNumber? (number : Nat) : Option LogLevel :=
  if number = 0 then none else all[number - 1]?

/-- A number, with or without a plus sign, or a name in letters of any case. -/
def parse? (text : String) : Option LogLevel :=
  let digits := match text.toList with
    | '+' :: rest => rest
    | letters => letters
  if !digits.isEmpty && digits.all Decimal.isDigit then ofNumber? (Decimal.value digits)
  else all.find? fun level => level.name.toList == text.toList.map Char.toUpper

end LogLevel

structure ValidSettings where
  ledger : LedgerId
  nodes : List (AccountId × Url)
  operator : Option (AccountId × PrivateKey)
  logLevel : LogLevel
  execution : ExecutionConfig
  chunking : ChunkingConfig
  defaultMaxFee : Option UInt64
  maxQueryPayment : UInt64
  validatesChecksums : Bool

namespace Settings

def validAccount (field given : String) : Except SettingsError AccountId :=
  match EntityId.parse .account given with
  | .ok account => .ok account
  | .error _ => .error (.invalidId field given)

def validAddress (rules : Domain.Rules) (given : String) : Except SettingsError Url :=
  match Url.parse given rules with
  | .error _ => .error (.invalidUrl given)
  | .ok url =>
      if !url.isHttp then .error (.invalidScheme given)
      else if url.host.isNone then .error (.invalidUrl given)
      else .ok url

def validNode (rules : Domain.Rules) (node : NodeSettings) :
    Except SettingsError (AccountId × Url) := do
  return (← validAccount "nodes.account_id" node.account, ← validAddress rules node.address)

def validNodes (rules : Domain.Rules) (nodes : List NodeSettings) :
    Except SettingsError (List (AccountId × Url)) :=
  if nodes.isEmpty then .error .noNodes else nodes.mapM (validNode rules)

def validLedger (given : String) : Except SettingsError LedgerId :=
  match LedgerId.parse? given with
  | some ledger => .ok ledger
  | none => .error (.invalidLedger given)

def validLogLevel (given : String) : Except SettingsError LogLevel :=
  match LogLevel.parse? given with
  | some level => .ok level
  | none => .error (.invalidLogLevel given)

def validKey (given : Bytes) : Except SettingsError PrivateKey :=
  (Wire.decode given).mapError .invalidKey

def validOperator (operator : OperatorSettings) : Except SettingsError (AccountId × PrivateKey) := do
  return (← validAccount "operator.account_id" operator.account, ← validKey operator.privateKey)

/-- The limits that must not be zero, in the order in which they are checked. -/
def limits (settings : Settings) : List (String × UInt64) :=
  [("max_attempts", settings.maxAttempts), ("min_backoff_ms", settings.minBackoff),
    ("attempt_timeout_ms", settings.attemptTimeout)]
  ++ settings.requestTimeout.toList.map (("request_timeout_ms", ·))
  ++ [("max_transaction_size", settings.maxTransactionSize), ("chunk_size", settings.chunkSize),
    ("max_chunks", settings.maxChunks)]

def checkLimits : List (String × UInt64) → Except SettingsError Unit
  | [] => .ok ()
  | (field, value) :: rest => if value = 0 then .error (.isZero field) else checkLimits rest

def checkBackoff (settings : Settings) : Except SettingsError Unit :=
  if settings.maxBackoff < settings.minBackoff then
    .error (.backoffRange settings.minBackoff settings.maxBackoff)
  else .ok ()

def milliseconds (count : UInt64) : Duration :=
  Duration.ofMillis count.toNat

def validExecution (settings : Settings) : Except SettingsError ExecutionConfig :=
  match ExecutionConfig.make settings.maxAttempts.toNat (milliseconds settings.minBackoff)
      (milliseconds settings.maxBackoff) with
  | .ok config =>
      .ok { config with
        requestTimeout := settings.requestTimeout.map milliseconds
        attemptTimeout := milliseconds settings.attemptTimeout
        regenerates := settings.regenerates }
  | .error _ => .error (.backoffRange settings.minBackoff settings.maxBackoff)

def validChunking (settings : Settings) : Except SettingsError ChunkingConfig :=
  match ChunkingConfig.make settings.maxTransactionSize.toNat settings.chunkSize.toNat
      settings.maxChunks.toNat with
  | .ok config => .ok config
  | .error _ => .error (.isZero "chunking")

/-- The makers at the end check limits once more that have been checked by then. -/
def validate (settings : Settings) (rules : Domain.Rules := .tableless) :
    Except SettingsError ValidSettings := do
  let ledger ← validLedger settings.ledger
  let nodes ← validNodes rules settings.nodes
  let operator ← settings.operator.mapM validOperator
  let logLevel ← validLogLevel settings.logLevel
  checkLimits settings.limits
  settings.checkBackoff
  let execution ← settings.validExecution
  let chunking ← settings.validChunking
  return {
    ledger, nodes, operator, logLevel, execution, chunking
    defaultMaxFee := settings.defaultMaxFee
    maxQueryPayment := settings.maxQueryPayment
    validatesChecksums := settings.validatesChecksums }

end Settings

/-- A client with these settings, and its network with every node in good health. -/
def Client.ofSettings (settings : ValidSettings) : Except Error (Client × Network) := do
  let network ← match Network.ofDeclarations settings.ledger settings.nodes
      settings.execution.minBackoff settings.execution.maxBackoff with
    | .ok network => pure network
    | .error cause => throw (.configuration cause)
  let operator := settings.operator.map fun (account, key) =>
    ({ account, signer := key.signer } : Operator)
  return ({ operator, execution := settings.execution, chunking := settings.chunking
            defaultMaxFee := settings.defaultMaxFee, maxQueryPayment := settings.maxQueryPayment
            validatesChecksums := settings.validatesChecksums }, network)

end LedgerClient
