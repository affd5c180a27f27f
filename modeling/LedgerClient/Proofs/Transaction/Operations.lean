import LedgerClient.Proofs.Transaction.Obtainable
import LedgerClient.Proofs.Transaction.Writing

/-!
What a caller can do with a transaction, one operation after the other. Each operation comes down to
a few steps: settings change before the transaction is frozen, then its bodies are written, and then
signatures are added until it is sealed. Sending takes such steps too, to make the transaction
ready; what it does beyond that is to replace an expired id.
-/

namespace LedgerClient.Transaction

/-- Each operation finds the world as it is at that time. -/
inductive Operation where
  | setId (id : TransactionId)
  | setNodes (nodes : List AccountId)
  | setMaxFee (maxFee : UInt64)
  | setValidDuration (validDuration : Duration)
  | setMemo (memo : String)
  | setChunking (chunking : ChunkingConfig)
  | setExecution (execution : ExecutionConfig)
  | freeze (client : Option Client) (world : World)
  | sign (signer : Signer)
  | addSignature (chunk : Nat) (node : AccountId) (pair : SignaturePair)
  | close
  | execute (client : Client) (world : World)
  | executeAll (client : Client) (world : World)

/-- Those who may be asked for signatures by the operation. -/
def Operation.signers : Operation → List Signer
  | sign signer => [signer]
  | execute client _ | executeAll client _ => (client.operator.map Operator.signer).toList
  | _ => []

/-- An operation that fails leaves the transaction as it was. -/
def unlessFailed (transaction : Transaction) : Except Error Transaction → Transaction
  | .ok next => next
  | .error _ => transaction

/-- Sending may leave a transaction frozen and signed also when it fails. -/
def perform (transaction : Transaction) : Operation → Transaction
  | .setId id => transaction.unlessFailed (transaction.setId id)
  | .setNodes nodes => transaction.unlessFailed (transaction.setNodes nodes)
  | .setMaxFee maxFee => transaction.unlessFailed (transaction.setMaxFee maxFee)
  | .setValidDuration validDuration =>
      transaction.unlessFailed (transaction.setValidDuration validDuration)
  | .setMemo memo => transaction.unlessFailed (transaction.setMemo memo)
  | .setChunking chunking => transaction.unlessFailed (transaction.setChunking chunking)
  | .setExecution execution => transaction.setExecution execution
  | .freeze client world => transaction.unlessFailed (transaction.freezeWith client world).1
  | .sign signer => transaction.unlessFailed (transaction.signWith signer)
  | .addSignature chunk node pair =>
      transaction.unlessFailed (transaction.addSignature chunk node pair)
  | .close => transaction.unlessFailed transaction.close
  | .execute client world => (transaction.execute client world).state
  | .executeAll client world => (transaction.executeAll client world).state

def run (transaction : Transaction) (operations : List Operation) : Transaction :=
  operations.foldl perform transaction

theorem run_append (transaction : Transaction) (earlier later : List Operation) :
    transaction.run (earlier ++ later) = (transaction.run earlier).run later :=
  List.foldl_append

/-! ## Steps -/

/-- What an operation can do to a transaction at once, as long as its id is not replaced. -/
inductive Step (trusted : Signer → Prop) (transaction : Transaction) : Transaction → Prop
  | adjusted {next : Transaction} (unfrozen : transaction.frozen = none)
      (still : next.frozen = none) (payload : next.payload = transaction.payload)
      (signers : next.signers = transaction.signers) : Step trusted transaction next
  | tuned (execution : ExecutionConfig) :
      Step trusted transaction (transaction.setExecution execution)
  | froze {next : Transaction} (wrote : transaction.Wrote next) : Step trusted transaction next
  | signed {next : Transaction} {signer : Signer} (trust : trusted signer)
      (signed : transaction.signWith signer = .ok next) : Step trusted transaction next
  | attached {next : Transaction} {chunk : Nat} {node : AccountId} {pair : SignaturePair}
      (signed : transaction.addSignature chunk node pair = .ok next) : Step trusted transaction next
  | closed {next : Transaction} (closed : transaction.close = .ok next) :
      Step trusted transaction next

/-- Any number of steps. -/
inductive Steps (trusted : Signer → Prop) : Transaction → Transaction → Prop
  | none (transaction : Transaction) : Steps trusted transaction transaction
  | next {transaction middle final : Transaction} (first : Step trusted transaction middle)
      (rest : Steps trusted middle final) : Steps trusted transaction final

variable {trusted : Signer → Prop} {transaction next final : Transaction} {client : Client}
  {world : World}

theorem Step.steps (step : Step trusted transaction next) : Steps trusted transaction next :=
  .next step (.none next)

/-- What every step keeps is kept by any number of them. -/
theorem Steps.preserves {P : Transaction → Prop}
    (kept : ∀ {before after}, Step trusted before after → P before → P after)
    (steps : Steps trusted transaction final) (initial : P transaction) : P final := by
  induction steps with
  | none => exact initial
  | next step rest ih => exact ih (kept step initial)

theorem unlessFailed_steps {result : Except Error Transaction}
    (step : ∀ next, result = .ok next → Step trusted transaction next) :
    Steps trusted transaction (transaction.unlessFailed result) := by
  cases result with
  | error error => exact .none transaction
  | ok next => exact (step next rfl).steps

/-- All settings but one change only before the transaction is frozen. -/
theorem adjusted_steps {changed : Transaction} (frozen : changed.frozen = transaction.frozen)
    (payload : changed.payload = transaction.payload)
    (signers : changed.signers = transaction.signers) :
    Steps trusted transaction (transaction.unlessFailed
      (if transaction.isFrozen then .error .alreadyFrozen else .ok changed)) := by
  refine unlessFailed_steps fun next set => ?_
  split at set
  · cases set
  · rename_i unfrozen
    cases set
    have absent : transaction.frozen = .none := by simpa [isFrozen] using unfrozen
    exact .adjusted absent (frozen.trans absent) payload signers

theorem signWithOperator_steps
    (trust : ∀ operator, client.operator = some operator → trusted operator.signer)
    (signed : transaction.signWithOperator client = .ok next) : Steps trusted transaction next := by
  simp only [signWithOperator] at signed
  split at signed
  · rename_i operator id pays _
    split at signed
    · exact (Step.signed (trust operator pays) signed).steps
    · cases signed
      exact .none transaction
  · cases signed
    exact .none transaction

theorem Readied.steps
    (trust : ∀ operator, client.operator = some operator → trusted operator.signer)
    (readied : Readied client transaction next) : Steps trusted transaction next := by
  cases readied with
  | unfrozen _ => exact .none transaction
  | countersigned _ signed _ => exact signWithOperator_steps trust signed
  | froze _ froze signed _ =>
      exact .next (.froze (freezeWith_wrote froze)) (signWithOperator_steps trust signed)

end Transaction

/-- After this reply the id is replaced: the reply calls for a fresh one, and the transaction can be
written anew. -/
def Submission.Regenerates (submission : Submission) : Prop :=
  submission.Renews ∧ ∃ world next after, submission.state.regenerate world = (.ok next, after)

theorem Submissions.steady_final {start final : Transaction} {made : List Submission}
    (submissions : Submissions start made final)
    (steady : ∀ submission ∈ made, ¬ submission.Regenerates) : final = start := by
  induction submissions with
  | nil => rfl
  | kept faithful rest ih =>
      exact ih fun other member => steady other (List.mem_cons_of_mem _ member)
  | renewed faithful renews regenerated rest ih =>
      exact absurd ⟨renews, _, _, _, regenerated⟩ (steady _ List.mem_cons_self)

namespace Transaction

variable {trusted : Signer → Prop} {transaction : Transaction} {client : Client} {world : World}

/-- Sending the transaction does not replace its id. -/
def SendsSteadily (transaction : Transaction) (client : Client) (world : World) : Prop :=
  ∃ ready made, Readied client transaction ready ∧
    Sent (transaction.executionFor client) ready world made (transaction.executeAll client world) ∧
    ∀ submission ∈ made, ¬ submission.Regenerates

theorem sendsSteadily_of_disabled
    (disabled : (transaction.executionFor client).regenerates = false) (world : World) :
    transaction.SendsSteadily client world := by
  obtain ⟨ready, made, readied, sent⟩ := executeAll_sent transaction client world
  refine ⟨ready, made, readied, sent, fun submission member regenerates => ?_⟩
  have allowed := regenerates.1.allowed
  rw [sent.settings submission member, disabled] at allowed
  contradiction

/-- The operation does not replace the id of the transaction. -/
def Operation.Steady (transaction : Transaction) : Operation → Prop
  | execute client world | executeAll client world => transaction.SendsSteadily client world
  | _ => True

/-- None of the operations replaces the id. -/
def SteadyRun : Transaction → List Operation → Prop
  | _, [] => True
  | transaction, operation :: rest =>
      operation.Steady transaction ∧ SteadyRun (transaction.perform operation) rest

/-- Steps, after which the id is replaced any number of times, or not at all if all is steady. -/
def ComesTo (trusted : Signer → Prop) (transaction next : Transaction) (steady : Prop) : Prop :=
  ∃ ready made, Steps trusted transaction ready ∧ Submissions ready made next ∧
    (steady → next = ready)

theorem Steps.comesTo {next : Transaction} {steady : Prop}
    (steps : Steps trusted transaction next) : ComesTo trusted transaction next steady :=
  ⟨next, [], steps, .nil next, fun _ => rfl⟩

theorem executeAll_comesTo (transaction : Transaction) (world : World)
    (trust : ∀ operator, client.operator = some operator → trusted operator.signer) :
    ComesTo trusted transaction (transaction.executeAll client world).state
      (transaction.SendsSteadily client world) := by
  by_cases steady : transaction.SendsSteadily client world
  · obtain ⟨ready, made, readied, sent, quiet⟩ := steady
    exact ⟨ready, made, readied.steps trust, sent.submissions,
      fun _ => sent.submissions.steady_final quiet⟩
  · obtain ⟨ready, made, readied, sent⟩ := executeAll_sent transaction client world
    exact ⟨ready, made, readied.steps trust, sent.submissions, fun claimed => absurd claimed steady⟩

theorem perform_comesTo (transaction : Transaction) (operation : Operation)
    (trust : ∀ signer ∈ operation.signers, trusted signer) :
    ComesTo trusted transaction (transaction.perform operation)
      (operation.Steady transaction) := by
  cases operation with
  | setId _ | setNodes _ | setMaxFee _ | setValidDuration _ | setMemo _ | setChunking _ =>
      refine Steps.comesTo (adjusted_steps ?_ ?_ ?_) <;> rfl
  | setExecution execution => exact (Step.tuned execution).steps.comesTo
  | freeze client world =>
      refine (unlessFailed_steps fun next froze => .froze ?_).comesTo
      exact freezeWith_wrote (Prod.ext froze rfl)
  | sign signer =>
      refine (unlessFailed_steps fun next signed => .signed ?_ signed).comesTo
      exact trust signer List.mem_cons_self
  | addSignature chunk node pair =>
      exact (unlessFailed_steps fun next signed => .attached signed).comesTo
  | close => exact (unlessFailed_steps fun next closed => .closed closed).comesTo
  | execute client world | executeAll client world =>
      exact executeAll_comesTo transaction world fun operator pays =>
        trust operator.signer (by simp [Operation.signers, pays])

/-- What holds at first, and is kept by every step and by a fresh id, holds after any operations. -/
theorem run_preserves_renewing {P : Transaction → Prop}
    (step : ∀ {before after}, Step trusted before after → P before → P after)
    (renewed : ∀ {before next : Transaction} {world after : World},
      before.regenerate world = (.ok next, after) → P before → P next)
    (initial : P transaction) {operations : List Operation}
    (trust : ∀ operation ∈ operations, ∀ signer ∈ operation.signers, trusted signer) :
    P (transaction.run operations) := by
  induction operations generalizing transaction with
  | nil => exact initial
  | cons operation rest ih =>
      obtain ⟨ready, made, steps, submissions, -⟩ :=
        perform_comesTo transaction operation (trust operation List.mem_cons_self)
      refine ih ?_ fun other member => trust other (List.mem_cons_of_mem _ member)
      refine (submissions.preserves ?_ (steps.preserves step initial)).2
      exact fun held _ regenerated => renewed regenerated held

/-- The same where it only matters that the bodies were written again. -/
theorem run_preserves {P : Transaction → Prop}
    (step : ∀ {before after}, Step trusted before after → P before → P after)
    (renewed : ∀ {before after : Transaction}, before.Rewrote after → P before → P after)
    (initial : P transaction) {operations : List Operation}
    (trust : ∀ operation ∈ operations, ∀ signer ∈ operation.signers, trusted signer) :
    P (transaction.run operations) :=
  run_preserves_renewing step
    (fun regenerated => renewed (regenerate_rewrote regenerated)) initial trust

/-- The same where it does not matter who signs. -/
theorem run_preserves_always {P : Transaction → Prop}
    (step : ∀ {before after}, Step (fun _ => True) before after → P before → P after)
    (renewed : ∀ {before after : Transaction}, before.Rewrote after → P before → P after)
    (initial : P transaction) (operations : List Operation) : P (transaction.run operations) :=
  run_preserves step renewed initial fun _ _ _ _ => trivial

/-- What holds at first and is kept by every step holds after any operations that do not replace the
id. -/
theorem steadyRun_preserves {P : Transaction → Prop}
    (step : ∀ {before after}, Step trusted before after → P before → P after)
    (initial : P transaction) {operations : List Operation}
    (trust : ∀ operation ∈ operations, ∀ signer ∈ operation.signers, trusted signer)
    (steady : transaction.SteadyRun operations) : P (transaction.run operations) := by
  induction operations generalizing transaction with
  | nil => exact initial
  | cons operation rest ih =>
      obtain ⟨ready, made, steps, -, same⟩ :=
        perform_comesTo transaction operation (trust operation List.mem_cons_self)
      refine ih ?_ (fun other member => trust other (List.mem_cons_of_mem _ member)) steady.2
      rw [same steady.1]
      exact steps.preserves step initial

/-! ## What the operations lead to -/

theorem unlessFailed_obtainable {result : Except Error Transaction}
    (obtainable : ∃ chosen, Obtainable chosen transaction)
    (done : ∀ chosen next, Obtainable chosen transaction → result = .ok next →
      ∃ named, Obtainable named next) :
    ∃ chosen, Obtainable chosen (transaction.unlessFailed result) := by
  cases result with
  | error error => exact obtainable
  | ok next =>
      obtain ⟨chosen, held⟩ := obtainable
      exact done chosen next held rfl

theorem perform_obtainable (obtainable : ∃ chosen, Obtainable chosen transaction)
    (operation : Operation) : ∃ chosen, Obtainable chosen (transaction.perform operation) := by
  cases operation with
  | setId id =>
      exact unlessFailed_obtainable obtainable fun _ _ held set => ⟨_, .setId held set⟩
  | setNodes nodes =>
      exact unlessFailed_obtainable obtainable fun _ _ held set => ⟨_, .setNodes held set⟩
  | setMaxFee maxFee =>
      exact unlessFailed_obtainable obtainable fun _ _ held set => ⟨_, .setMaxFee held set⟩
  | setValidDuration validDuration =>
      exact unlessFailed_obtainable obtainable fun _ _ held set => ⟨_, .setValidDuration held set⟩
  | setMemo memo =>
      exact unlessFailed_obtainable obtainable fun _ _ held set => ⟨_, .setMemo held set⟩
  | setChunking chunking =>
      exact unlessFailed_obtainable obtainable fun _ _ held set => ⟨_, .setChunking held set⟩
  | setExecution execution =>
      obtain ⟨chosen, held⟩ := obtainable
      exact ⟨chosen, .setExecution held execution⟩
  | freeze client world =>
      refine unlessFailed_obtainable obtainable fun _ next held froze => ?_
      have whole : transaction.freezeWith client world =
          (.ok next, (transaction.freezeWith client world).2) := Prod.ext froze rfl
      exact ⟨_, .freezeWith held whole⟩
  | sign signer =>
      exact unlessFailed_obtainable obtainable fun _ _ held signed => ⟨_, .signWith held signed⟩
  | addSignature chunk node pair =>
      exact unlessFailed_obtainable obtainable fun _ _ held signed => ⟨_, .addSignature held signed⟩
  | close =>
      exact unlessFailed_obtainable obtainable fun _ _ held closed => ⟨_, .close held closed⟩
  | execute client world | executeAll client world =>
      obtain ⟨chosen, held⟩ := obtainable
      exact ⟨chosen, held.executeAll client world⟩

theorem run_obtainable (payload : Payload) (operations : List Operation) :
    ∃ chosen, Obtainable chosen ((ofPayload payload).run operations) := by
  have kept : ∀ transaction : Transaction, (∃ chosen, Obtainable chosen transaction) →
      ∃ chosen, Obtainable chosen (transaction.run operations) := by
    induction operations with
    | nil => exact fun _ held => held
    | cons operation rest ih =>
        exact fun transaction held => ih _ (perform_obtainable held operation)
  exact kept _ ⟨none, .ofPayload payload⟩

end Transaction

end LedgerClient
