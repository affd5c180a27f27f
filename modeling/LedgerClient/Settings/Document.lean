import LedgerClient.Settings.Basic
import LedgerClient.Yaml.Value

/-!
Settings as a document. Only the ledger and the nodes have to be given; for everything else there is
a value that holds without it.
-/

namespace LedgerClient

open Yaml (required withDefault)

def NodeSettings.ofNode (document : Yaml.Document) (node : Yaml.Node) : Except YamlError NodeSettings := do
  let fields ← document.fields ["account_id", "address"] node
  return { account := ← required fields "account_id" document.text
           address := ← required fields "address" document.text }

def OperatorSettings.ofNode (document : Yaml.Document) (node : Yaml.Node) :
    Except YamlError OperatorSettings := do
  let fields ← document.fields ["account_id", "private_key"] node
  let account ← required fields "account_id" document.text
  let digits ← required fields "private_key" document.text
  match Hex.decode digits with
  | some privateKey => return { account, privateKey }
  | none => throw (.unexpectedValue "a hex string")

namespace Settings

def fieldNames : List String :=
  ["ledger", "nodes", "operator", "log_level", "max_attempts", "min_backoff_ms", "max_backoff_ms",
    "request_timeout_ms", "attempt_timeout_ms", "regenerate_transaction_id",
    "default_max_transaction_fee", "max_query_payment", "max_transaction_size", "chunk_size",
    "max_chunks", "auto_validate_checksums"]

def ofNode (document : Yaml.Document) (node : Yaml.Node) : Except YamlError Settings := do
  let fields ← document.fields fieldNames node
  let number (name : String) (otherwise : UInt64) : Except YamlError UInt64 :=
    withDefault fields name otherwise document.natural
  let optionalNumber (name : String) (otherwise : Option UInt64) :
      Except YamlError (Option UInt64) :=
    withDefault fields name otherwise (document.optional document.natural)
  let truth (name : String) (otherwise : Bool) : Except YamlError Bool :=
    withDefault fields name otherwise document.bool
  return {
    ledger := ← required fields "ledger" document.text
    nodes := ← required fields "nodes" (document.list (NodeSettings.ofNode document))
    operator := ← withDefault fields "operator" none
      (document.optional (OperatorSettings.ofNode document))
    logLevel := ← withDefault fields "log_level" "info" document.text
    maxAttempts := ← number "max_attempts" 10
    minBackoff := ← number "min_backoff_ms" 250
    maxBackoff := ← number "max_backoff_ms" 8000
    requestTimeout := ← optionalNumber "request_timeout_ms" (some 120000)
    attemptTimeout := ← number "attempt_timeout_ms" 10000
    regenerates := ← truth "regenerate_transaction_id" false
    defaultMaxFee := ← optionalNumber "default_max_transaction_fee" none
    maxQueryPayment := ← number "max_query_payment" 100000000
    maxTransactionSize := ← number "max_transaction_size" 6144
    chunkSize := ← number "chunk_size" 1024
    maxChunks := ← number "max_chunks" 20
    validatesChecksums := ← truth "auto_validate_checksums" true }

def ofText (text : String) : Except SettingsError Settings :=
  match (do let document ← Yaml.Document.ofText text; ofNode document document.root) with
  | .ok settings => .ok settings
  | .error cause => .error (.unreadable cause)

end Settings

end LedgerClient
