import LedgerClient.Text.Inspect
import LedgerClient.Wire.Reader
import LedgerClient.Yaml.Cursor

/-!
The settings of a client as a user writes them down. What they mean is found out later: ids,
addresses and the name of the ledger are still texts here.
-/

namespace LedgerClient

structure NodeSettings where
  account : String
  address : String
deriving DecidableEq

structure OperatorSettings where
  account : String
  privateKey : Bytes
deriving DecidableEq

/-- Times are in milliseconds. Without a timeout a request runs until it has no tries left. -/
structure Settings where
  ledger : String
  nodes : List NodeSettings
  operator : Option OperatorSettings
  logLevel : String
  maxAttempts : UInt64
  minBackoff : UInt64
  maxBackoff : UInt64
  requestTimeout : Option UInt64
  attemptTimeout : UInt64
  regenerates : Bool
  defaultMaxFee : Option UInt64
  maxQueryPayment : UInt64
  maxTransactionSize : UInt64
  chunkSize : UInt64
  maxChunks : UInt64
  validatesChecksums : Bool
deriving DecidableEq

inductive SettingsError where
  | unreadable (cause : YamlError)
  | invalidKey (cause : DecodeError)
  | invalidLedger (given : String)
  | invalidId (field given : String)
  | invalidLogLevel (given : String)
  | isZero (field : String)
  | backoffRange (least most : UInt64)
  | invalidUrl (given : String)
  | invalidScheme (given : String)
  | noNodes
deriving DecidableEq

namespace SettingsError

def name : SettingsError → String
  | unreadable _ => "Parse"
  | invalidKey _ => "InvalidDecode"
  | invalidLedger _ => "InvalidLedger"
  | invalidId .. => "InvalidId"
  | invalidLogLevel _ => "InvalidLogLevel"
  | isZero _ => "InvalidNonZero"
  | backoffRange .. => "InvalidBackoff"
  | invalidUrl _ => "InvalidUrl"
  | invalidScheme _ => "InvalidUrlScheme"
  | noNodes => "NoNodes"

/-- The text for a user. A key is never part of it. -/
def message : SettingsError → String
  | unreadable cause => s!"failed to parse config: {cause.message}"
  | invalidKey _ => "private_key is invalid: <redacted>"
  | invalidLedger given => s!"invalid ledger: {given}"
  | invalidId field given => s!"{field} must be an entity id (shard.realm.num): {given}"
  | invalidLogLevel given => s!"invalid log level: {given}"
  | isZero field => s!"{field} must be > 0 (got 0)"
  | backoffRange least most =>
      s!"min_backoff_ms ({least.toNat}) must not exceed max_backoff_ms ({most.toNat})"
  | invalidUrl given => s!"nodes.address must be a valid URL: {given}"
  | invalidScheme given => s!"nodes.address URL scheme must be http or https: {given}"
  | noNodes => "at least one node is required"

def chain (error : SettingsError) : List String :=
  match error with
  | unreadable cause => [error.message, cause.message]
  | invalidKey cause => [error.message, cause.message]
  | _ => [error.message]

end SettingsError

namespace Settings

/-- The settings for a log. Keys are left out. -/
def redacted (settings : Settings) : Inspect :=
  let number := fun value : UInt64 => Inspect.number value.toNat
  .record "Config"
    [("ledger", .quoted settings.ledger),
      ("nodes", .listOf (fun node => .quoted (node.account ++ "@" ++ node.address)) settings.nodes),
      ("operator", .option (fun operator => .quoted operator.account) settings.operator),
      ("private_key", .quoted "<redacted>"),
      ("log_level", .quoted settings.logLevel),
      ("max_attempts", number settings.maxAttempts),
      ("min_backoff_ms", number settings.minBackoff),
      ("max_backoff_ms", number settings.maxBackoff),
      ("request_timeout_ms", .option number settings.requestTimeout),
      ("attempt_timeout_ms", number settings.attemptTimeout),
      ("regenerate_transaction_id", .bool settings.regenerates),
      ("default_max_transaction_fee", .option number settings.defaultMaxFee),
      ("max_query_payment", number settings.maxQueryPayment),
      ("max_transaction_size", number settings.maxTransactionSize),
      ("chunk_size", number settings.chunkSize),
      ("max_chunks", number settings.maxChunks),
      ("auto_validate_checksums", .bool settings.validatesChecksums)]

end Settings

end LedgerClient
