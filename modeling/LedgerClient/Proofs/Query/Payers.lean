import LedgerClient.Proofs.Execution.Untouched
import LedgerClient.Proofs.Query.Resolution
import LedgerClient.Proofs.Transaction.Checksums
import LedgerClient.Proofs.Transaction.Planned

/-!
The account that pays for a transaction. It stands in the id of the transaction, with its checksum if
it was written with one, and fresh ids and the ids of all chunks take it over as it is. Its checksum
is not looked at when the transaction is frozen or sent, but only when the receipt is asked for.
-/

namespace LedgerClient

namespace Transaction

variable {transaction next start frozen : Transaction} {payer : AccountId} {chunk : Nat}
  {id : TransactionId} {client : Client} {world after : World} {trusted : Signer → Prop}

/-- The transaction is frozen, its bodies are those of its plan, and this account pays for it. -/
structure PaidBy (payer : AccountId) (transaction : Transaction) : Prop where
  frozen : transaction.isFrozen = true
  written : transaction.Written
  payer : transaction.id.map TransactionId.payer = some payer

theorem PaidBy.step (step : Step trusted transaction next) (paid : transaction.PaidBy payer) :
    next.PaidBy payer := by
  have keeps := step.keeps paid.frozen
  exact ⟨keeps.isFrozen paid.frozen, paid.written.step step, by rw [keeps.id]; exact paid.payer⟩

theorem PaidBy.rewrote (rewrote : transaction.Rewrote next) (paid : transaction.PaidBy payer) :
    next.PaidBy payer :=
  ⟨rewrote.upholds.isFrozen paid.frozen, rewrote.written, rewrote.payer.trans paid.payer⟩

theorem PaidBy.run (paid : transaction.PaidBy payer) (operations : List Operation) :
    (transaction.run operations).PaidBy payer :=
  run_preserves_always PaidBy.step PaidBy.rewrote paid operations

theorem PaidBy.submissions {made : List Submission} {final : Transaction}
    (paid : transaction.PaidBy payer) (submissions : Submissions transaction made final) :
    ∀ submission ∈ made, submission.state.PaidBy payer :=
  (submissions.preserves
    (fun paid _ regenerated => paid.rewrote (regenerate_rewrote regenerated)) paid).1

theorem chunkId_payer (root : TransactionId) (index : Nat) :
    (chunkId root index).payer = root.payer := by
  unfold chunkId
  split <;> rfl

/-- The chunks are paid for by the account that pays for the first of them. -/
theorem PaidBy.ofChunk (paid : transaction.PaidBy payer)
    (named : transaction.chunkIdAt chunk = some id) : id.payer = payer := by
  cases stored : transaction.frozen with
  | none => simp [chunkIdAt, stored] at named
  | some held =>
      obtain ⟨root, rooted, grows⟩ := paid.written held stored
      cases found : held.chunks[chunk]? with
      | none => simp [chunkIdAt, stored, found] at named
      | some bodies =>
          obtain rfl : bodies.id = id := by simpa [chunkIdAt, stored, found] using named
          obtain ⟨planned, inPlan, grown⟩ := forall₂_getElem? grows.chunks found
          obtain ⟨index, -, rfl⟩ := List.mem_map.mp (List.mem_of_getElem? inPlan)
          have same := paid.payer
          rw [rooted] at same
          rw [grown.id]
          exact (chunkId_payer root index).trans (Option.some.inj same)

/-- Who pays for a transaction that is frozen with a client: the payer of the id that it was given,
or else the client's operator. -/
def payerWith (transaction : Transaction) (client : Client) : Option AccountId :=
  match transaction.id with
  | some id => some id.payer
  | none => client.operator.map Operator.account

theorem freezeWith_paidBy
    (froze : start.freezeWith (some client) world = (.ok frozen, after)) :
    ∃ payer, start.payerWith client = some payer ∧ frozen.PaidBy payer := by
  obtain ⟨id, generated, nodes, middle, -, resolved, -, written⟩ := freezeWith_resolved froze
  have isFrozen : frozen.isFrozen = true := by
    obtain ⟨held, stored, -⟩ := freezeWith_nodes froze
    simp [Transaction.isFrozen, stored]
  have named : frozen.id = some id := by
    obtain ⟨held, rfl, -⟩ := freezeAs_frozen written
    rfl
  refine ⟨id.payer, ?_, isFrozen, (freezeWith_wrote froze).written, by rw [named]; rfl⟩
  unfold payerWith
  cases given : start.id with
  | some own =>
      simp only [resolveId, given] at resolved
      cases resolved
      rfl
  | none =>
      simp only [resolveId, given, Option.bind_some] at resolved
      cases pays : client.operator with
      | none => simp [pays] at resolved
      | some operator =>
          simp only [pays] at resolved
          cases resolved
          exact congrArg some (world.generateId_payer operator.account).symm

theorem regenerate_sameLedger (transaction : Transaction) (world : World) :
    world.SameLedger (transaction.regenerate world).2 := by
  unfold regenerate
  split
  · split
    · rfl
    · dsimp only
      split <;> rfl
  · rfl

theorem chunkRequest_sameLedger (method : Method) (chunk : Nat) (config : ExecutionConfig)
    (transaction : Transaction) (world : World) :
    world.SameLedger ((chunkRequest method chunk).execute config transaction world).world :=
  Request.execute_upheld World.sameLedger_upheld regenerate_sameLedger config transaction world

end Transaction

namespace TransactionResponse

open Transaction (Answers)

variable {response again : TransactionResponse} {responses : List TransactionResponse}
  {transaction : Transaction} {payer : AccountId} {client : Client} {world : World} {error : Error}
  {cause : ChecksumMismatch}

/-- What was accepted is paid for by this account, and so is what is sent again if need be. -/
structure PaidBy (payer : AccountId) (response : TransactionResponse) : Prop where
  sent : response.sent.PaidBy payer
  id : response.id.payer = payer

theorem PaidBy.ofAnswers {submission : Submission} (answers : Answers response submission)
    (paid : submission.state.PaidBy payer) : response.PaidBy payer where
  sent := by rwa [answers.sent]
  id := paid.ofChunk answers.id

theorem PaidBy.ofExecuteAll (paid : transaction.PaidBy payer)
    (sent : (transaction.executeAll client world).result = .ok responses)
    (member : response ∈ responses) : response.PaidBy payer := by
  obtain ⟨ready, made, readied, submitted⟩ := Transaction.executeAll_sent transaction client world
  have steps : Transaction.Steps (fun _ => True) transaction ready :=
    readied.steps fun _ _ => trivial
  have readyPaid : ready.PaidBy payer := steps.preserves Transaction.PaidBy.step paid
  obtain ⟨submission, inside, answers⟩ := submitted.answers responses sent response member
  exact .ofAnswers answers (readyPaid.submissions submitted.submissions submission inside)

theorem PaidBy.ofExecute (paid : transaction.PaidBy payer)
    (sent : (transaction.execute client world).result = .ok response) :
    response.PaidBy payer := by
  obtain ⟨responses, all, taken⟩ := bind_eq_ok.mp sent
  split at taken
  · cases taken
  · cases taken
    exact .ofExecuteAll paid all List.mem_cons_self

/-! ## Sending again -/

theorem PaidBy.resubmit (paid : response.PaidBy payer)
    (sent : (Transaction.resubmit response client world).1 = .ok again) :
    again.PaidBy payer := by
  obtain ⟨made, resent⟩ := resubmit_resent response client world
  obtain ⟨start, final, resends, submissions, delivers⟩ := resent.delivered
  have startPaid : start.PaidBy payer := by
    cases resends with
    | asSent => exact paid.sent
    | renewed _ _ _ regenerated =>
        exact paid.sent.rewrote (Transaction.regenerate_rewrote regenerated)
  rw [sent] at delivers
  cases delivers with
  | accepted split refused answers unchanged =>
      exact .ofAnswers answers (startPaid.submissions submissions _ (by simp [split]))

theorem resubmit_operational
    (failed : (Transaction.resubmit response client world).1 = .error error) :
    error.Operational := by
  have sends := resubmit_sendsAgain response client world
  generalize Transaction.resubmit response client world = answer at sends failed
  cases sends with
  | notRenewed unrenewed =>
      cases failed
      exact (Transaction.regenerate_internal unrenewed).operational
  | sent resends reached =>
      exact (Transaction.chunkRequest_contained _ _).execute (Transaction.chunkRequest_lawful _ _)
        failed

theorem queryReceipt_sameLedger (response : TransactionResponse) (client : Client)
    (world : World) : world.SameLedger (response.queryReceipt client world).2 := by
  simp only [queryReceipt, Query.execute]
  split
  · rfl
  · refine Request.execute_upheld World.sameLedger_upheld ?_ _ _ _
    exact fun _ later => World.sameLedger_upheld.refl later

theorem resubmit_sameLedger (response : TransactionResponse) (client : Client) (world : World) :
    world.SameLedger (Transaction.resubmit response client world).2 := by
  have sends := resubmit_sendsAgain response client world
  have renewed := Transaction.regenerate_sameLedger response.sent world
  generalize Transaction.resubmit response client world = answer at sends
  cases sends with
  | notRenewed unrenewed => rwa [unrenewed] at renewed
  | @sent start middle resends reached =>
      have before : world.SameLedger middle := by
        rcases reached with rfl | rfl
        · rfl
        · exact renewed
      exact (Transaction.chunkRequest_sameLedger _ _ _ start middle).trans before

/-! ## Receipts -/

theorem queryReceipt_refused (validates : client.validatesChecksums = true)
    (wrong : response.id.payer.Mismatches world.network.ledger cause) :
    response.queryReceipt client world = (.error (.checksumMismatch cause), world) := by
  have failed := EntityId.validateChecksum_eq_error_iff.mpr wrong
  simp [queryReceipt, Query.execute, validates, receiptQuery, Query.ofData,
    QueryData.validateChecksums, failed]

/-- The checksum of the payer is the only one that a question for a receipt looks at. -/
theorem queryReceipt_error (failed : (response.queryReceipt client world).1 = .error error) :
    error.Operational ∨ client.validatesChecksums = true ∧
      ∃ cause, response.id.payer.Mismatches world.network.ledger cause := by
  simp only [queryReceipt, Query.execute] at failed
  split at failed
  · rename_i cause checked
    split at checked
    · rename_i validates
      exact .inr ⟨validates, cause, EntityId.validateChecksum_eq_error_iff.mp checked⟩
    · cases checked
  · refine .inl ?_
    exact poll_contained.execute
      ((receiptQuery response.id response.node).answerRequest_lawful QueryAnswer.receipt?) failed

theorem receipt_refused (validates : client.validatesChecksums = true)
    (wrong : response.id.payer.Mismatches world.network.ledger cause) :
    response.receipt client world = (.error (.checksumMismatch cause), world) := by
  simp only [receipt, queryReceipt_refused validates wrong]

/-- A receipt that is not to be had was refused when it was first asked for, or when the transaction
was to be sent again, or when it was asked for once more. -/
theorem receipt_failed (failed : (response.receipt client world).1 = .error error) :
    (response.queryReceipt client world).1 = .error error ∨
      ∃ middle, world.SameLedger middle ∧
        ((Transaction.resubmit response client middle).1 = .error error ∨
          ∃ again after, Transaction.resubmit response client middle = (.ok again, after) ∧
            ((again.queryReceipt client after).1 = .error error ∨
              error = .receiptThrottled again.id)) := by
  have askedLedger := queryReceipt_sameLedger response client world
  unfold receipt at failed
  split at failed
  · rename_i refused
    cases failed
    exact .inl (congrArg Prod.fst refused)
  · rename_i receipt middle answered
    rw [answered] at askedLedger
    split at failed
    · refine .inr ⟨middle, askedLedger, ?_⟩
      split at failed
      · rename_i refused
        cases failed
        exact .inl (congrArg Prod.fst refused)
      · rename_i again after resent
        refine .inr ⟨again, after, resent, ?_⟩
        split at failed
        · rename_i refused
          cases failed
          exact .inl (congrArg Prod.fst refused)
        · split at failed <;> cases failed
          exact .inr rfl
    · cases failed

/-- What is sent again has the same payer, so its checksum is right if it was when the receipt was
first asked for. -/
theorem receipt_not_onChecksum (paid : response.PaidBy payer)
    (right : client.validatesChecksums = true →
      ∀ cause, ¬ payer.Mismatches world.network.ledger cause)
    (failed : (response.receipt client world).1 = .error error) : ¬ error.OnChecksum := by
  have passes {asked : TransactionResponse} {later : World} (askedPaid : asked.PaidBy payer)
      (same : world.SameLedger later)
      (failed : (asked.queryReceipt client later).1 = .error error) : ¬ error.OnChecksum := by
    rcases queryReceipt_error failed with operational | ⟨validates, cause, wrong⟩
    · exact operational.not_onChecksum
    · rw [askedPaid.id, same] at wrong
      exact absurd wrong (right validates cause)
  rcases receipt_failed failed with first | ⟨middle, asked, unsent | ⟨again, after, resent, second⟩⟩
  · exact passes paid (World.sameLedger_upheld.refl world) first
  · exact (resubmit_operational unsent).not_onChecksum
  · have sentLedger := resubmit_sameLedger response client middle
    rw [resent] at sentLedger
    rcases second with refused | rfl
    · exact passes (paid.resubmit (congrArg Prod.fst resent)) (sentLedger.trans asked) refused
    · exact fun onChecksum => onChecksum

/-- Asking for a receipt fails for a checksum exactly if it is that of the payer. -/
theorem PaidBy.receipt_iff (paid : response.PaidBy payer) (client : Client) (world : World)
    (cause : ChecksumMismatch) :
    (response.receipt client world).1 = .error (.checksumMismatch cause) ↔
      client.validatesChecksums = true ∧ payer.Mismatches world.network.ledger cause := by
  constructor
  · intro failed
    by_cases found : client.validatesChecksums = true ∧
        ∃ other, payer.Mismatches world.network.ledger other
    · obtain ⟨validates, other, wrong⟩ := found
      rw [receipt_refused validates (paid.id.symm ▸ wrong)] at failed
      cases failed
      exact ⟨validates, wrong⟩
    · have right : client.validatesChecksums = true →
          ∀ other, ¬ payer.Mismatches world.network.ledger other :=
        fun validates other wrong => found ⟨validates, other, wrong⟩
      exact absurd trivial (receipt_not_onChecksum paid right failed)
  · rintro ⟨validates, wrong⟩
    rw [receipt_refused validates (paid.id.symm ▸ wrong)]

end TransactionResponse

/-- A transaction is frozen with a client, signed and sent. Asking for its receipt with this client
fails for a checksum exactly if the client looks at checksums and that of the payer is wrong; then
the node is not asked. No other checksum is ever found wrong that late. -/
theorem Transaction.freezeWith_receipt_iff {start frozen : Transaction} {client : Client}
    {world after sending : World} {response : TransactionResponse}
    (froze : start.freezeWith (some client) world = (.ok frozen, after))
    (operations : List Operation)
    (sent : ((frozen.run operations).execute client sending).result = .ok response ∨
      ∃ responses, ((frozen.run operations).executeAll client sending).result = .ok responses ∧
        response ∈ responses) :
    ∃ payer, start.payerWith client = some payer ∧ ∀ later cause,
      ((response.receipt client later).1 = .error (.checksumMismatch cause) ↔
        client.validatesChecksums = true ∧ payer.Mismatches later.network.ledger cause) ∧
      ((response.receipt client later).1 = .error (.checksumMismatch cause) →
        (response.receipt client later).2 = later) := by
  obtain ⟨payer, pays, paid⟩ := freezeWith_paidBy froze
  have accepted : response.PaidBy payer := by
    rcases sent with one | ⟨responses, all, member⟩
    · exact .ofExecute (paid.run operations) one
    · exact .ofExecuteAll (paid.run operations) all member
  refine ⟨payer, pays, fun later cause => ⟨accepted.receipt_iff client later cause, ?_⟩⟩
  intro failed
  obtain ⟨validates, wrong⟩ := (accepted.receipt_iff client later cause).mp failed
  rw [TransactionResponse.receipt_refused validates (accepted.id.symm ▸ wrong)]

end LedgerClient

namespace LedgerClient.Sample

open Transaction

/-- A transfer under an id whose payer has a wrong checksum. -/
def suspectPaid : Transaction :=
  (Transaction.ofPayload (.transfer [])).run
    [.setId (.make suspect { seconds := 1000, nanos := 0 })]

def suspectFrozen : Transaction :=
  (suspectPaid.freezeWith (some guardedClient) (world [])).1.toOption.getD suspectPaid

theorem suspectPaid_freezes : suspectPaid.freezeWith (some guardedClient) (world []) =
    (.ok suspectFrozen, (suspectPaid.freezeWith (some guardedClient) (world [])).2) := rfl

theorem suspectPaid_receipt :
    suspectPaid.freezeWith (some guardedClient) (world []) =
        (.ok suspectFrozen, (suspectPaid.freezeWith (some guardedClient) (world [])).2) ∧
      ∃ response, ((suspectFrozen.run []).execute guardedClient (world [answer .ok])).result =
          .ok response ∧
        ∃ payer, suspectPaid.payerWith guardedClient = some payer ∧ ∀ later cause,
          ((response.receipt guardedClient later).1 = .error (.checksumMismatch cause) ↔
            guardedClient.validatesChecksums = true ∧
              payer.Mismatches later.network.ledger cause) ∧
          ((response.receipt guardedClient later).1 = .error (.checksumMismatch cause) →
            (response.receipt guardedClient later).2 = later) := by
  have sent : ((suspectFrozen.run []).execute guardedClient (world [answer .ok])).result =
      .ok _ := rfl
  exact ⟨suspectPaid_freezes, _, sent, freezeWith_receipt_iff suspectPaid_freezes [] (.inl sent)⟩

/-- The client looks at checksums, freezes and sends the transfer, and only finds the wrong checksum
of the payer when it asks for the receipt. -/
theorem suspectPaid_found_late :
    guardedClient.validatesChecksums = true ∧
      suspectPaid.freezeWith (some guardedClient) (world []) =
        (.ok suspectFrozen, (suspectPaid.freezeWith (some guardedClient) (world [])).2) ∧
      ∃ response, (suspectFrozen.execute guardedClient (world [answer .ok])).result =
          .ok response ∧
        ∃ cause, (response.receipt guardedClient (world [receipt .success])).1 =
          .error (.checksumMismatch cause) := by
  have sent : (suspectFrozen.execute guardedClient (world [answer .ok])).result = .ok _ := rfl
  obtain ⟨cause, wrong⟩ := suspect_mismatches (world [receipt .success]).network.ledger
  refine ⟨rfl, suspectPaid_freezes, _, sent, cause, ?_⟩
  rw [TransactionResponse.receipt_refused rfl wrong]

end LedgerClient.Sample
