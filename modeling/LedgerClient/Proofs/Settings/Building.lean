import LedgerClient.Proofs.Network.Candidates
import LedgerClient.Proofs.Settings.Checks

/-!
Settings that make sense, and the client that is built from them. Whatever passes the checks is taken
by all that is made of it: the client and its network say what the settings say. A key shows in what
is reported of the settings by its length at most.
-/

namespace LedgerClient

/-! ## Settings that make sense -/

structure NodeSettings.Sensible (rules : Domain.Rules) (node : NodeSettings) : Prop where
  account : ∃ account, EntityId.parse .account node.account = .ok account
  address : ∃ url, Url.parse node.address rules = .ok url ∧
    (url.scheme = "http" ∨ url.scheme = "https") ∧ url.host ≠ none

structure OperatorSettings.Sensible (operator : OperatorSettings) : Prop where
  account : ∃ account, EntityId.parse .account operator.account = .ok account
  key : ∃ key, Wire.decode operator.privateKey = .ok (key : PrivateKey)

namespace Settings

variable {rules : Domain.Rules} {settings : Settings} {valid : ValidSettings}

structure Sensible (rules : Domain.Rules) (settings : Settings) : Prop where
  ledger : ∃ ledger, LedgerId.parse? settings.ledger = some ledger
  anyNode : settings.nodes ≠ []
  nodes : ∀ node ∈ settings.nodes, node.Sensible rules
  operator : ∀ operator, settings.operator = some operator → operator.Sensible
  logLevel : ∃ level, LogLevel.parse? settings.logLevel = some level
  bounded : settings.Bounded
  backoff : settings.minBackoff ≤ settings.maxBackoff

theorem node_met_iff {node : NodeSettings} :
    (∀ check ∈ nodeChecks rules node, check.holds) ↔ node.Sensible rules := by
  simp only [nodeChecks, accountCheck, addressChecks, List.forall_mem_cons, Url.isHttp_iff]
  constructor
  · rintro ⟨account, ⟨url, parsed⟩, web, host, -⟩
    exact ⟨account, url, parsed, web url parsed, host url parsed⟩
  · rintro ⟨account, url, parsed, web, host⟩
    have only : ∀ other, Url.parse node.address rules = .ok other → url = other := by
      intro other again
      rw [parsed] at again
      exact Except.ok.inj again
    refine ⟨account, ⟨url, parsed⟩, ?_, ?_, List.forall_mem_nil _⟩
    · intro other again
      rwa [← only other again]
    · intro other again
      rwa [← only other again]

theorem operator_met_iff {operator : OperatorSettings} :
    (∀ check ∈ operatorChecks operator, check.holds) ↔ operator.Sensible := by
  simp only [operatorChecks, accountCheck, keyCheck, List.forall_mem_cons]
  constructor
  · rintro ⟨account, key, -⟩
    exact ⟨account, key⟩
  · rintro ⟨account, key⟩
    exact ⟨account, key, List.forall_mem_nil _⟩

theorem checks_met_iff :
    (∀ check ∈ settings.checks rules, check.holds) ↔ settings.Sensible rules := by
  simp only [checks, List.forall_mem_cons, List.forall_mem_append, List.forall_mem_flatMap,
    node_met_iff, operator_met_iff, Option.mem_toList, limits_met_iff, backoffCheck]
  constructor
  · rintro ⟨ledger, anyNode, nodes, operator, level, bounded, within, -⟩
    exact ⟨ledger, anyNode, nodes, operator, level, bounded, within⟩
  · rintro ⟨ledger, anyNode, nodes, operator, level, bounded, within⟩
    exact ⟨ledger, anyNode, nodes, operator, level, bounded, within, List.forall_mem_nil _⟩

theorem validate_ok_iff :
    (∃ valid, settings.validate rules = .ok valid) ↔ settings.Sensible rules :=
  (validate_decides rules settings).ok_iff.trans checks_met_iff

/-! ## Keys stay hidden -/

/-- The same settings with the operator's key replaced. -/
def withKey (settings : Settings) (key : Bytes) : Settings :=
  { settings with operator := settings.operator.map ({ · with privateKey := key }) }

theorem keyCheck_congr {first second : Bytes} (alike : first.length = second.length) :
    keyCheck first = keyCheck second := by
  simp only [keyCheck, decode_privateKey_iff, alike]

/-- Keys of the same length go through the same checks. -/
theorem checks_withKey {key : Bytes} (alike : ∀ operator, settings.operator = some operator →
    key.length = operator.privateKey.length) :
    (settings.withKey key).checks rules = settings.checks rules := by
  cases given : settings.operator with
  | none => simp only [withKey, checks, limits, backoffCheck, given, Option.map_none]
  | some operator =>
      have same := keyCheck_congr (alike operator given)
      simp only [withKey, checks, limits, backoffCheck, given, Option.map_some, Option.toList_some,
        List.flatMap_singleton, operatorChecks, same]

/-! ## The client -/

end Settings

/-- The id and the address that the texts of a node stand for. -/
def NodeSettings.Denotes (rules : Domain.Rules) (node : NodeSettings)
    (declared : AccountId × Url) : Prop :=
  EntityId.parse .account node.account = .ok declared.1 ∧
    Url.parse node.address rules = .ok declared.2

/-- The operator acts for the account and signs with the key of the settings. -/
def OperatorSettings.Denotes (given : OperatorSettings) (operator : Operator) : Prop :=
  EntityId.parse .account given.account = .ok operator.account ∧
    ∃ key, Wire.decode given.privateKey = .ok (key : PrivateKey) ∧ operator.signer = key.signer

/-- The client with these settings. -/
def ValidSettings.client (valid : ValidSettings) : Client where
  operator := valid.operator.map fun (account, key) => { account, signer := key.signer }
  execution := valid.execution
  chunking := valid.chunking
  defaultMaxFee := valid.defaultMaxFee
  maxQueryPayment := valid.maxQueryPayment
  validatesChecksums := valid.validatesChecksums

namespace Settings

variable {rules : Domain.Rules} {settings : Settings} {valid : ValidSettings}

/-- The client and the network that the settings describe. -/
structure Describes (rules : Domain.Rules) (settings : Settings) (client : Client)
    (network : Network) : Prop where
  ledger : LedgerId.parse? settings.ledger = some network.ledger
  nodes : ∃ declared, List.Forall₂ (NodeSettings.Denotes rules) settings.nodes declared ∧
    Network.Declares declared (milliseconds settings.minBackoff)
      (milliseconds settings.maxBackoff) network
  operator : Option.Rel OperatorSettings.Denotes settings.operator client.operator
  execution : settings.Retries client.execution
  chunking : client.chunking.limits =
    (settings.maxTransactionSize.toNat, settings.chunkSize.toNat, settings.maxChunks.toNat)
  defaultMaxFee : client.defaultMaxFee = settings.defaultMaxFee
  maxQueryPayment : client.maxQueryPayment = settings.maxQueryPayment
  validatesChecksums : client.validatesChecksums = settings.validatesChecksums

theorem validAccount_eq_ok {field given : String} {account : AccountId}
    (accepted : validAccount field given = .ok account) :
    EntityId.parse .account given = .ok account := by
  unfold validAccount at accepted
  split at accepted
  · rename_i parsed
    cases accepted
    exact parsed
  · cases accepted

theorem validAddress_eq_ok {given : String} {url : Url}
    (accepted : validAddress rules given = .ok url) : Url.parse given rules = .ok url := by
  unfold validAddress at accepted
  split at accepted
  · cases accepted
  · rename_i parsed
    split at accepted
    · cases accepted
    · split at accepted
      · cases accepted
      · cases accepted
        exact parsed

theorem validNode_eq_ok {node : NodeSettings} {declared : AccountId × Url}
    (accepted : validNode rules node = .ok declared) : node.Denotes rules declared := by
  obtain ⟨account, named, accepted⟩ := bind_eq_ok.mp accepted
  obtain ⟨url, located, made⟩ := bind_eq_ok.mp accepted
  cases made
  exact ⟨validAccount_eq_ok named, validAddress_eq_ok located⟩

theorem validNodes_eq_ok {nodes : List NodeSettings} {declared : List (AccountId × Url)}
    (accepted : validNodes rules nodes = .ok declared) :
    List.Forall₂ (NodeSettings.Denotes rules) nodes declared ∧ declared ≠ [] := by
  unfold validNodes at accepted
  split at accepted
  · cases accepted
  · rename_i present
    have denoted := (mapM_eq_ok accepted).imp fun _ _ => validNode_eq_ok
    refine ⟨denoted, ?_⟩
    rintro rfl
    cases denoted
    exact present rfl

/-- What passed the checks, and what was made of it. -/
structure Yields (rules : Domain.Rules) (settings : Settings) (valid : ValidSettings) :
    Prop where
  ledger : LedgerId.parse? settings.ledger = some valid.ledger
  nodes : List.Forall₂ (NodeSettings.Denotes rules) settings.nodes valid.nodes ∧ valid.nodes ≠ []
  operator : settings.operator.mapM validOperator = .ok valid.operator
  execution : settings.Retries valid.execution
  chunking : valid.chunking.limits =
    (settings.maxTransactionSize.toNat, settings.chunkSize.toNat, settings.maxChunks.toNat)
  defaultMaxFee : valid.defaultMaxFee = settings.defaultMaxFee
  maxQueryPayment : valid.maxQueryPayment = settings.maxQueryPayment
  validatesChecksums : valid.validatesChecksums = settings.validatesChecksums

theorem validLedger_eq_ok {given : String} {ledger : LedgerId}
    (accepted : validLedger given = .ok ledger) : LedgerId.parse? given = some ledger := by
  unfold validLedger at accepted
  split at accepted
  · rename_i parsed
    cases accepted
    exact parsed
  · cases accepted

theorem validate_yields (accepted : settings.validate rules = .ok valid) :
    settings.Yields rules valid := by
  have sensible := validate_ok_iff.mp ⟨valid, accepted⟩
  obtain ⟨ledger, named, accepted⟩ := bind_eq_ok.mp accepted
  obtain ⟨nodes, declared, accepted⟩ := bind_eq_ok.mp accepted
  obtain ⟨operator, acting, accepted⟩ := bind_eq_ok.mp accepted
  obtain ⟨logLevel, -, accepted⟩ := bind_eq_ok.mp accepted
  obtain ⟨-, -, accepted⟩ := bind_eq_ok.mp accepted
  obtain ⟨-, -, accepted⟩ := bind_eq_ok.mp accepted
  obtain ⟨execution, tried, accepted⟩ := bind_eq_ok.mp accepted
  obtain ⟨chunking, cut, made⟩ := bind_eq_ok.mp accepted
  cases made
  obtain ⟨config, made, retries⟩ := validExecution_ok sensible.bounded sensible.backoff
  obtain ⟨limits, limited, sizes⟩ := validChunking_ok sensible.bounded
  rw [tried] at made
  cases made
  rw [cut] at limited
  cases limited
  exact ⟨validLedger_eq_ok named, validNodes_eq_ok declared, acting, retries, sizes, rfl, rfl, rfl⟩

theorem validOperator_eq_ok {given : OperatorSettings} {operator : AccountId × PrivateKey}
    (accepted : validOperator given = .ok operator) :
    given.Denotes { account := operator.1, signer := operator.2.signer } := by
  obtain ⟨account, named, accepted⟩ := bind_eq_ok.mp accepted
  obtain ⟨key, decoded, made⟩ := bind_eq_ok.mp accepted
  cases made
  exact ⟨validAccount_eq_ok named, key, mapError_eq_ok.mp decoded, rfl⟩

theorem operator_denoted (yields : settings.Yields rules valid) :
    Option.Rel OperatorSettings.Denotes settings.operator valid.client.operator := by
  have acting := yields.operator
  unfold ValidSettings.client
  generalize valid.operator = operator at acting
  cases given : settings.operator with
  | none =>
      rw [given] at acting
      cases acting
      exact .none
  | some operator =>
      rw [given] at acting
      obtain ⟨accepted, named, rfl⟩ := map_eq_ok.mp acting
      exact .some (validOperator_eq_ok named)

theorem ofSettings_describes (yields : settings.Yields rules valid)
    (within : settings.minBackoff ≤ settings.maxBackoff) :
    ∃ network, Client.ofSettings valid = .ok (valid.client, network) ∧
      settings.Describes rules valid.client network := by
  have ordered : valid.execution.minBackoff ≤ valid.execution.maxBackoff := by
    rw [yields.execution.minBackoff, yields.execution.maxBackoff]
    exact milliseconds_le_iff.mpr within
  obtain ⟨network, built, declares⟩ :=
    Network.ofDeclarations_declares valid.ledger yields.nodes.2 ordered
  have made : Client.ofSettings valid = .ok (valid.client, network) := by
    simp only [Client.ofSettings, built]
    rfl
  rw [yields.execution.minBackoff, yields.execution.maxBackoff] at declares
  refine ⟨network, made, ?_⟩
  exact
    { ledger := by rw [Network.ofDeclarations_ledger built, yields.ledger]
      nodes := ⟨valid.nodes, yields.nodes.1, declares⟩
      operator := operator_denoted yields
      execution := yields.execution
      chunking := yields.chunking
      defaultMaxFee := yields.defaultMaxFee
      maxQueryPayment := yields.maxQueryPayment
      validatesChecksums := yields.validatesChecksums }

/-! ## Both layers -/

/-- What comes of validating settings. They are taken exactly if they make sense, and otherwise refused
for the first check that they do not meet, in words that do not depend on the bytes of a key. Of those
that are taken, a client is built as they describe it. -/
structure Judged (rules : Domain.Rules) (settings : Settings) : Prop where
  taken : (∃ valid, settings.validate rules = .ok valid) ↔ settings.Sensible rules
  refused : ∀ error, settings.validate rules = .error error ↔
    Check.Refused (settings.checks rules) error
  redacted : ∀ key : Bytes,
    (∀ operator, settings.operator = some operator → key.length = operator.privateKey.length) →
      ∀ error, (settings.withKey key).validate rules = .error error ↔
        settings.validate rules = .error error
  built : ∀ valid, settings.validate rules = .ok valid →
    ∃ client network, Client.ofSettings valid = .ok (client, network) ∧
      settings.Describes rules client network

/-- This does not depend on how the names of hosts are brought into ASCII. -/
theorem validate_judged (settings : Settings) (rules : Domain.Rules) :
    settings.Judged rules where
  taken := validate_ok_iff
  refused _ := (validate_decides rules settings).error_iff
  redacted key alike error := by
    rw [(validate_decides rules _).error_iff, (validate_decides rules _).error_iff,
      checks_withKey alike]
  built valid accepted := by
    have sensible := validate_ok_iff.mp ⟨valid, accepted⟩
    exact ⟨valid.client, ofSettings_describes (validate_yields accepted) sensible.backoff⟩

end Settings

end LedgerClient
