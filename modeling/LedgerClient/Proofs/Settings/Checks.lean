import LedgerClient.Proofs.Outcomes
import LedgerClient.Settings.Validated

/-!
The checks that settings go through, in their order. Settings make sense exactly if they meet all of
them, and otherwise it is the first that they do not meet that says what is wrong. What is said of a
key depends on its length alone.
-/

namespace LedgerClient

/-- A condition, and what is reported of settings that do not meet it. -/
structure Check where
  holds : Prop
  error : SettingsError

namespace Check

variable {α β : Type} {checks rest : List Check} {error other : SettingsError}

/-- What the first check reports that is not met. -/
inductive Refused : List Check → SettingsError → Prop
  | here {check : Check} {rest : List Check} (fails : ¬ check.holds) :
      Refused (check :: rest) check.error
  | later {check : Check} {rest : List Check} {error : SettingsError} (holds : check.holds)
      (refused : Refused rest error) : Refused (check :: rest) error

theorem Refused.not_all (refused : Refused checks error) : ¬ ∀ check ∈ checks, check.holds := by
  induction refused with
  | here fails => exact fun all => fails (all _ List.mem_cons_self)
  | later holds refused ih => exact fun all => ih (List.forall_mem_cons.mp all).2

theorem Refused.unique (refused : Refused checks error) (again : Refused checks other) :
    error = other := by
  induction refused with
  | here fails =>
      cases again with
      | here _ => rfl
      | later holds _ => exact absurd holds fails
  | later holds refused ih =>
      cases again with
      | here fails => exact absurd holds fails
      | later _ again => exact ih again

theorem Refused.append (refused : Refused checks error) (rest : List Check) :
    Refused (checks ++ rest) error := by
  induction refused with
  | here fails => exact .here fails
  | later holds refused ih => exact .later holds ih

theorem Refused.behind (met : ∀ check ∈ checks, check.holds) (refused : Refused rest error) :
    Refused (checks ++ rest) error := by
  induction checks with
  | nil => exact refused
  | cons check others ih =>
      obtain ⟨holds, met⟩ := List.forall_mem_cons.mp met
      exact .later holds (ih met)

/-- What comes of a step that makes these checks one after the other. -/
inductive Decides (checks : List Check) : Except SettingsError α → Prop
  | passed (met : ∀ check ∈ checks, check.holds) (value : α) : Decides checks (.ok value)
  | failed {error : SettingsError} (refused : Refused checks error) : Decides checks (.error error)

namespace Decides

variable {result first : Except SettingsError α} {next : α → Except SettingsError β} {check : Check}

theorem ok_iff (decides : Decides checks result) :
    (∃ value, result = .ok value) ↔ ∀ check ∈ checks, check.holds := by
  cases decides with
  | passed met value => exact iff_of_true ⟨value, rfl⟩ met
  | failed refused =>
      refine iff_of_false ?_ refused.not_all
      rintro ⟨value, passed⟩
      cases passed

theorem error_iff (decides : Decides checks result) :
    result = .error error ↔ Refused checks error := by
  cases decides with
  | passed met value =>
      refine iff_of_false ?_ fun refused => refused.not_all met
      intro failed
      cases failed
  | failed refused =>
      constructor
      · intro same
        cases same
        exact refused
      · intro again
        rw [refused.unique again]

theorem nothing (value : α) : Decides [] (.ok value) :=
  .passed (List.forall_mem_nil _) value

theorem behind (holds : check.holds) (decides : Decides rest result) :
    Decides (check :: rest) result := by
  cases decides with
  | passed met value => exact .passed (List.forall_mem_cons.mpr ⟨holds, met⟩) value
  | failed refused => exact .failed (.later holds refused)

/-- The checks of a later step come behind those of an earlier one. -/
theorem bind (decides : Decides checks first)
    (onward : ∀ value, first = .ok value → Decides rest (next value)) :
    Decides (checks ++ rest) (first >>= next) := by
  cases decides with
  | passed met value =>
      change Decides (checks ++ rest) (next value)
      have later := onward value rfl
      generalize next value = outcome at later
      cases later with
      | passed metLater value => exact .passed (List.forall_mem_append.mpr ⟨met, metLater⟩) value
      | failed refused => exact .failed (refused.behind met)
  | failed refused => exact .failed (refused.append rest)

theorem map (decides : Decides checks first) (value : α → β) :
    Decides checks (first >>= fun given => .ok (value given)) := by
  have both := decides.bind fun given _ => nothing (value given)
  rwa [List.append_nil] at both

theorem mapM {ι : Type} {action : ι → Except SettingsError α} {each : ι → List Check}
    (items : List ι) (decides : ∀ item, Decides (each item) (action item)) :
    Decides (items.flatMap each) (items.mapM action) := by
  induction items with
  | nil => exact nothing []
  | cons item rest ih =>
      rw [List.mapM_cons, List.flatMap_cons]
      exact (decides item).bind fun value _ => ih.map (value :: ·)

end Decides

end Check

/-! ## The checks of each part -/

namespace Settings

variable (rules : Domain.Rules)

def accountCheck (field given : String) : Check where
  holds := ∃ account, EntityId.parse .account given = .ok account
  error := .invalidId field given

def addressChecks (given : String) : List Check :=
  [{ holds := ∃ url, Url.parse given rules = .ok url
     error := .invalidUrl given },
    { holds := ∀ url, Url.parse given rules = .ok url → url.isHttp = true
      error := .invalidScheme given },
    { holds := ∀ url, Url.parse given rules = .ok url → url.host ≠ none
      error := .invalidUrl given }]

/-- The id comes before the address. -/
def nodeChecks (node : NodeSettings) : List Check :=
  accountCheck "nodes.account_id" node.account :: addressChecks rules node.address

/-- What is wrong with a key of so many bytes. -/
def keyDefect (length : Nat) : DecodeError :=
  if length < 32 then .endOfBuffer else .extraData (length - 32)

def keyCheck (bytes : Bytes) : Check where
  holds := ∃ key, Wire.decode bytes = .ok (key : PrivateKey)
  error := .invalidKey (keyDefect bytes.length)

def operatorChecks (operator : OperatorSettings) : List Check :=
  [accountCheck "operator.account_id" operator.account, keyCheck operator.privateKey]

def limitCheck (limit : String × UInt64) : Check where
  holds := limit.2 ≠ 0
  error := .isZero limit.1

def backoffCheck (settings : Settings) : Check where
  holds := settings.minBackoff ≤ settings.maxBackoff
  error := .backoffRange settings.minBackoff settings.maxBackoff

/-- All checks, in their order. -/
def checks (settings : Settings) : List Check :=
  { holds := ∃ ledger, LedgerId.parse? settings.ledger = some ledger
    error := .invalidLedger settings.ledger } ::
  { holds := settings.nodes ≠ [], error := .noNodes } ::
  (settings.nodes.flatMap (nodeChecks rules) ++
    (settings.operator.toList.flatMap operatorChecks ++
      { holds := ∃ level, LogLevel.parse? settings.logLevel = some level
        error := .invalidLogLevel settings.logLevel } ::
      (settings.limits.map limitCheck ++ [settings.backoffCheck])))

/-! ## Each part makes its checks -/

theorem validAccount_decides (field given : String) :
    Check.Decides [accountCheck field given] (validAccount field given) := by
  unfold validAccount
  cases parsed : EntityId.parse .account given with
  | error cause => exact .failed (.here (by simp [accountCheck, parsed]))
  | ok account => exact .behind ⟨account, parsed⟩ (.nothing account)

theorem validAddress_decides (given : String) :
    Check.Decides (addressChecks rules given) (validAddress rules given) := by
  unfold validAddress addressChecks
  cases parsed : Url.parse given rules with
  | error cause => exact .failed (.here (by simp))
  | ok url =>
      simp only [Except.ok.injEq, forall_eq', exists_eq']
      cases web : url.isHttp with
      | false => exact .failed (.later trivial (.here (by simp)))
      | true =>
          cases host : url.host with
          | none => exact .failed (.later trivial (.later rfl (.here (by simp))))
          | some host => exact .passed (by simp) url

theorem validNode_decides (node : NodeSettings) :
    Check.Decides (nodeChecks rules node) (validNode rules node) :=
  (validAccount_decides "nodes.account_id" node.account).bind fun account _ =>
    (validAddress_decides rules node.address).map fun url => (account, url)

theorem read_privateKey (bytes : Bytes) :
    (Wire.read : Reader PrivateKey) bytes =
      if size : (bytes.take 32).length = 32 then
        (.ok { bytes := bytes.take 32, length_bytes := size }, bytes.drop 32)
      else (.error .endOfBuffer, bytes) := by
  change Reader.bind (Wire.readExactly 32) _ bytes = _
  unfold Reader.bind Wire.readExactly
  by_cases size : (bytes.take 32).length = 32
  · simp only [dif_pos size]
    rfl
  · simp only [dif_neg size]

theorem decode_privateKey (bytes : Bytes) :
    (Wire.decode bytes : Except DecodeError PrivateKey) =
      if size : bytes.length = 32 then .ok { bytes, length_bytes := size }
      else .error (keyDefect bytes.length) := by
  unfold Wire.decode Reader.decode keyDefect
  rw [read_privateKey]
  rcases Nat.lt_trichotomy bytes.length 32 with short | exact | long
  · have few : ¬ (bytes.take 32).length = 32 := by
      rw [List.length_take]
      omega
    rw [dif_neg few, dif_neg (Nat.ne_of_lt short), if_pos short]
  · have whole : bytes.take 32 = bytes := List.take_of_length_le (Nat.le_of_eq exact)
    have enough : (bytes.take 32).length = 32 := by rw [whole, exact]
    rw [dif_pos enough, dif_pos exact]
    simp only [whole, List.drop_of_length_le (Nat.le_of_eq exact)]
  · have enough : (bytes.take 32).length = 32 := by
      rw [List.length_take]
      omega
    have rest : bytes.drop 32 ≠ [] := by
      intro none
      have length := congrArg List.length none
      rw [List.length_drop, List.length_nil] at length
      omega
    rw [dif_pos enough, dif_neg (Nat.ne_of_gt long), if_neg (Nat.lt_asymm long)]
    split
    · rename_i none
      cases none
    · rename_i none
      exact absurd (Prod.ext_iff.mp none).2 rest
    · rename_i other
      cases other
      rw [List.length_drop]

theorem decode_privateKey_iff (bytes : Bytes) :
    (∃ key, Wire.decode bytes = .ok (key : PrivateKey)) ↔ bytes.length = 32 := by
  rw [decode_privateKey]
  split
  · rename_i size
    exact iff_of_true ⟨_, rfl⟩ size
  · rename_i size
    refine iff_of_false ?_ size
    rintro ⟨key, decoded⟩
    cases decoded

theorem validKey_decides (given : Bytes) : Check.Decides [keyCheck given] (validKey given) := by
  rw [validKey, decode_privateKey]
  split
  · rename_i size
    exact .behind ((decode_privateKey_iff given).mpr size) (.nothing _)
  · rename_i size
    exact .failed (.here fun holds => size ((decode_privateKey_iff given).mp holds))

theorem validOperator_decides (operator : OperatorSettings) :
    Check.Decides (operatorChecks operator) (validOperator operator) :=
  (validAccount_decides "operator.account_id" operator.account).bind fun account _ =>
    (validKey_decides operator.privateKey).map fun key => (account, key)

theorem checkLimits_decides (limits : List (String × UInt64)) :
    Check.Decides (limits.map limitCheck) (checkLimits limits) := by
  induction limits with
  | nil => exact .nothing ()
  | cons limit rest ih =>
      rw [checkLimits, List.map_cons]
      split
      · rename_i zero
        exact .failed (.here fun holds => holds zero)
      · rename_i holds
        exact .behind holds ih

theorem checkBackoff_decides (settings : Settings) :
    Check.Decides [settings.backoffCheck] settings.checkBackoff := by
  unfold checkBackoff
  split
  · rename_i beyond
    exact .failed (.here (UInt64.not_le.mpr beyond))
  · rename_i within
    exact .behind (UInt64.not_lt.mp within) (.nothing ())

theorem validLedger_decides (given : String) :
    Check.Decides
      [{ holds := ∃ ledger, LedgerId.parse? given = some ledger, error := .invalidLedger given }]
      (validLedger given) := by
  unfold validLedger
  cases parsed : LedgerId.parse? given with
  | none => exact .failed (.here (by simp))
  | some ledger => exact .behind ⟨ledger, rfl⟩ (.nothing ledger)

theorem validLogLevel_decides (given : String) :
    Check.Decides
      [{ holds := ∃ level, LogLevel.parse? given = some level, error := .invalidLogLevel given }]
      (validLogLevel given) := by
  unfold validLogLevel
  cases parsed : LogLevel.parse? given with
  | none => exact .failed (.here (by simp))
  | some level => exact .behind ⟨level, rfl⟩ (.nothing level)

theorem validNodes_decides (nodes : List NodeSettings) :
    Check.Decides ({ holds := nodes ≠ [], error := .noNodes } :: nodes.flatMap (nodeChecks rules))
      (validNodes rules nodes) := by
  unfold validNodes
  cases nodes with
  | nil => exact .failed (.here fun holds => holds rfl)
  | cons node rest =>
      exact .behind (List.cons_ne_nil node rest) (.mapM (node :: rest) (validNode_decides rules))

theorem validOperators_decides (operator : Option OperatorSettings) :
    Check.Decides (operator.toList.flatMap operatorChecks) (operator.mapM validOperator) := by
  cases operator with
  | none => exact .nothing none
  | some operator =>
      rw [Option.toList_some, List.flatMap_singleton]
      exact (validOperator_decides operator).map some

/-! ## All of them -/

/-- How often and how long a client with these settings tries. -/
structure Retries (settings : Settings) (config : ExecutionConfig) : Prop where
  maxAttempts : config.maxAttempts = settings.maxAttempts.toNat
  minBackoff : config.minBackoff = milliseconds settings.minBackoff
  maxBackoff : config.maxBackoff = milliseconds settings.maxBackoff
  requestTimeout : config.requestTimeout = settings.requestTimeout.map milliseconds
  attemptTimeout : config.attemptTimeout = milliseconds settings.attemptTimeout
  regenerates : config.regenerates = settings.regenerates

/-- No number of milliseconds is too large for a duration. -/
theorem nanos_milliseconds (count : UInt64) :
    (milliseconds count).nanos = count.toNat * 1000000 := by
  have bound := count.toNat_lt
  rw [milliseconds, Duration.ofMillis, Duration.nanos_ofNanos]
  change min (count.toNat * 1000000) (2 ^ 64 * 1000000000 - 1) = _
  omega

theorem milliseconds_le_iff {least most : UInt64} :
    milliseconds least ≤ milliseconds most ↔ least ≤ most := by
  rw [Duration.le_iff, nanos_milliseconds, nanos_milliseconds, UInt64.le_iff_toNat_le]
  omega

/-- No limit is zero. -/
structure Bounded (settings : Settings) : Prop where
  maxAttempts : settings.maxAttempts ≠ 0
  minBackoff : settings.minBackoff ≠ 0
  attemptTimeout : settings.attemptTimeout ≠ 0
  requestTimeout : ∀ timeout, settings.requestTimeout = some timeout → timeout ≠ 0
  maxTransactionSize : settings.maxTransactionSize ≠ 0
  chunkSize : settings.chunkSize ≠ 0
  maxChunks : settings.maxChunks ≠ 0

variable {settings : Settings}

theorem limits_met_iff :
    (∀ check ∈ settings.limits.map limitCheck, check.holds) ↔ settings.Bounded := by
  simp only [limits, List.forall_mem_map, List.forall_mem_append, List.forall_mem_cons,
    Option.mem_toList, limitCheck]
  constructor
  · rintro ⟨⟨⟨attempts, backoff, attempt, -⟩, request⟩, size, part, chunks, -⟩
    exact ⟨attempts, backoff, attempt, request, size, part, chunks⟩
  · rintro ⟨attempts, backoff, attempt, request, size, part, chunks⟩
    exact ⟨⟨⟨attempts, backoff, attempt, List.forall_mem_nil _⟩, request⟩, size, part, chunks,
      List.forall_mem_nil _⟩

theorem toNat_pos {value : UInt64} (nonzero : value ≠ 0) : 0 < value.toNat :=
  Nat.pos_of_ne_zero fun zero => nonzero (UInt64.toNat_inj.mp zero)

/-- After the checks, the makers of limits find nothing more. -/
theorem validExecution_ok (bounded : settings.Bounded)
    (within : settings.minBackoff ≤ settings.maxBackoff) :
    ∃ config, settings.validExecution = .ok config ∧ settings.Retries config := by
  have attempts := toNat_pos bounded.maxAttempts
  have ordered := milliseconds_le_iff.mpr within
  simp only [validExecution, ExecutionConfig.make, dif_pos attempts, dif_pos ordered]
  exact ⟨_, rfl, rfl, rfl, rfl, rfl, rfl, rfl⟩

theorem validChunking_ok (bounded : settings.Bounded) :
    ∃ config, settings.validChunking = .ok config ∧ config.limits =
      (settings.maxTransactionSize.toNat, settings.chunkSize.toNat, settings.maxChunks.toNat) := by
  have size := toNat_pos bounded.maxTransactionSize
  have part := toNat_pos bounded.chunkSize
  have chunks := toNat_pos bounded.maxChunks
  simp only [validChunking, ChunkingConfig.make, dif_pos size, dif_pos part, dif_pos chunks]
  exact ⟨_, rfl, rfl⟩

theorem validate_decides (settings : Settings) :
    Check.Decides (settings.checks rules) (settings.validate rules) := by
  refine (validLedger_decides _).bind fun ledger _ => ?_
  refine (validNodes_decides rules _).bind fun nodes _ => ?_
  refine (validOperators_decides _).bind fun operator _ => ?_
  refine (validLogLevel_decides _).bind fun logLevel _ => ?_
  refine (checkLimits_decides settings.limits).bind fun _ passed => ?_
  refine (checkBackoff_decides settings).bind fun _ ordered => ?_
  have bounded := limits_met_iff.mp ((checkLimits_decides settings.limits).ok_iff.mp ⟨_, passed⟩)
  have within := (checkBackoff_decides settings).ok_iff.mp ⟨_, ordered⟩
  obtain ⟨execution, made, -⟩ :=
    validExecution_ok bounded (within settings.backoffCheck List.mem_cons_self)
  obtain ⟨chunking, limited, -⟩ := validChunking_ok bounded
  rw [made, limited]
  exact .nothing _

end Settings

end LedgerClient
