import LedgerClient.Execution.Loop
import LedgerClient.Message.Signed

/-!
The settings of a client: who pays, how requests are tried, and which limits hold for what is sent.
-/

namespace LedgerClient

/-- Limits on the bodies of one transaction, none of them zero. -/
structure ChunkingConfig where
  maxTransactionSize : Nat
  chunkSize : Nat
  maxChunks : Nat
  maxTransactionSize_pos : 0 < maxTransactionSize
  chunkSize_pos : 0 < chunkSize
  maxChunks_pos : 0 < maxChunks

namespace ChunkingConfig

def limits (config : ChunkingConfig) : Nat × Nat × Nat :=
  (config.maxTransactionSize, config.chunkSize, config.maxChunks)

theorem limits_inj {left right : ChunkingConfig} : left.limits = right.limits ↔ left = right := by
  cases left
  cases right
  simp [limits]

instance : DecidableEq ChunkingConfig := fun left right =>
  decidable_of_iff (left.limits = right.limits) limits_inj

def make (maxTransactionSize chunkSize maxChunks : Nat) :
    Except ConfigurationError ChunkingConfig :=
  if maxTransactionSize_pos : 0 < maxTransactionSize then
    if chunkSize_pos : 0 < chunkSize then
      if maxChunks_pos : 0 < maxChunks then
        .ok
          { maxTransactionSize, chunkSize, maxChunks
            maxTransactionSize_pos, chunkSize_pos, maxChunks_pos }
      else .error (.zeroLimit "max_chunks")
    else .error (.zeroLimit "chunk_size")
  else .error (.zeroLimit "max_transaction_size")

def standard : ChunkingConfig where
  maxTransactionSize := 6144
  chunkSize := 1024
  maxChunks := 20
  maxTransactionSize_pos := by decide
  chunkSize_pos := by decide
  maxChunks_pos := by decide

end ChunkingConfig

/-- The account that pays for what a client sends, and its signer. -/
structure Operator where
  account : AccountId
  signer : Signer

def Operator.inspect (operator : Operator) : Inspect :=
  .record "Operator" [("account_id", operator.account.inspect), ("signer", .quoted "<redacted>")]

structure Client where
  operator : Option Operator
  execution : ExecutionConfig
  chunking : ChunkingConfig
  defaultMaxFee : Option UInt64
  maxQueryPayment : UInt64
  validatesChecksums : Bool

namespace Client

def standard : Client where
  operator := none
  execution := ExecutionConfig.standard
  chunking := ChunkingConfig.standard
  defaultMaxFee := none
  maxQueryPayment := 100000000
  validatesChecksums := true

/-- The URL of a node, which has to be one for HTTP. -/
def nodeAddress (address : String) (rules : Domain.Rules := .tableless) :
    Except Error Url :=
  match Url.parse address rules with
  | .error cause => .error (.transport (.url cause))
  | .ok url => if url.isHttp then .ok url else .error (.configuration (.invalidScheme url.scheme))

/-- The network for nodes at addresses that are given as text, under the standard backoffs. -/
def networkOf (ledger : LedgerId) (nodes : List (AccountId × String))
    (rules : Domain.Rules := .tableless) : Except Error Network := do
  let declared ← nodes.mapM fun (account, address) =>
    return (account, ← nodeAddress address rules)
  match Network.ofDeclarations ledger declared ExecutionConfig.defaultMinBackoff
      ExecutionConfig.defaultMaxBackoff with
  | .ok network => return network
  | .error cause => throw (.configuration cause)

end Client

end LedgerClient
