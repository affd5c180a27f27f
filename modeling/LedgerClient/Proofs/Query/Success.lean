import LedgerClient.Proofs.Query.Resolution

/-!
Which transaction an unsuccessful receipt is about. Asking for a receipt that says success names the
response's own id when the receipt says something else, also where the transaction was sent again
meanwhile and the receipt is that of another id.
-/

namespace LedgerClient.TransactionResponse

variable {chosen : Option TransactionId} {response other : TransactionResponse} {client : Client}
  {world : World} {first later : List Exchange} {resent : List Submission}
  {again : Option TransactionResponse} {answer : Except Error Receipt × World}

theorem requestFor_isFor {transaction : Transaction} {chunk : Nat} {node : AccountId}
    {id : TransactionId} {signed : SignedTransaction} (sound : transaction.Sound chosen)
    (requested : transaction.requestFor chunk node = .ok signed)
    (named : transaction.chunkIdAt chunk = some id) : signed.IsFor id node := by
  cases held : transaction.frozen with
  | none => simp [Transaction.requestFor, held] at requested
  | some frozen =>
      simp only [Transaction.requestFor, held] at requested
      obtain ⟨root, -, coherent⟩ := sound.coherent frozen held
      obtain ⟨bodies, stored, -, isFor⟩ := coherent.signedFor requested
      obtain rfl : bodies.id = id := by
        simpa [Transaction.chunkIdAt, held, stored] using named
      exact isFor

/-- Under an id that is not the client's own, a transaction is sent again under the same id. -/
theorem Resolution.again_same
    (resolution : Resolution chosen response world first resent again later answer)
    (accepted : Accepted chosen response) (given : chosen ≠ none) :
    (again.getD response).id.same response.id = true := by
  cases present : again with
  | none => exact TransactionId.same_refl response.id
  | some other =>
      obtain ⟨submission, last, -, carries⟩ := resolution.accepted other present
      obtain ⟨signed, requested, request⟩ :=
        resolution.unchanged given submission (List.mem_of_getLast? last)
      have isFor := requestFor_isFor accepted.obtainable.sound requested accepted.named
      exact carries.unique ⟨signed, request, isFor⟩

/-- A call for the receipt takes no receipt for an error. -/
theorem Phases.failed (phases : Phases response world first resent again later answer)
    (status : Status) (id : TransactionId) : answer.1 ≠ .error (.receiptStatus status id) := by
  intro failed
  cases phases with
  | once polled settled => exact polled.failed _ failed trivial
  | notAccepted polled throttled sent =>
      cases failed
      exact sent.failed _ rfl trivial
  | again polled throttled sent polledAgain settled => exact polledAgain.failed _ failed trivial
  | twice polled throttled sent polledAgain throttledAgain => cases failed

theorem successfulReceipt_failed {status : Status} {id : TransactionId}
    (phases : Phases response world first resent again later (response.receipt client world))
    (failed : (response.successfulReceipt client world).1 = .error (.receiptStatus status id)) :
    ∃ receipt, (response.receipt client world).1 = .ok receipt ∧ receipt.status = status ∧
      id = response.id := by
  have unsaid := phases.failed status id
  unfold successfulReceipt at failed
  generalize response.receipt client world = answer at failed unsaid ⊢
  obtain ⟨outcome, after⟩ := answer
  cases outcome with
  | error error =>
      cases failed
      exact absurd rfl unsaid
  | ok receipt =>
      dsimp only at failed
      split at failed <;> cases failed
      exact ⟨receipt, rfl, rfl, rfl⟩

/-- A receipt that does not say success is an error that names the id that the node was asked about
exactly if that is the response's own id; so it is if the client may not replace the id. -/
theorem successfulReceipt_names_iff (accepted : Accepted chosen response) (client : Client)
    (world : World) :
    ∃ first resent again later,
      Resolution chosen response world first resent again later (response.receipt client world) ∧
      (response.successfulReceipt client world).2 = (response.receipt client world).2 ∧
      ∀ status id,
        (response.successfulReceipt client world).1 = .error (.receiptStatus status id) →
        ∃ last receipt,
          (first ++ resent.map (fun submission => submission.toExchange) ++ later).getLast? =
            some last ∧
          last.reply.receipt? = some receipt ∧ receipt.status = status ∧
          (last.call.AsksFor id ↔ (again.getD response).id.same response.id = true) ∧
          (chosen ≠ none → last.call.AsksFor id) := by
  obtain ⟨first, resent, again, later, phases⟩ := receipt_phases response client world
  have resolution := phases.resolution accepted.obtainable
  refine ⟨first, resent, again, later, resolution,
    successfulReceipt_world response client world, ?_⟩
  intro status id failed
  obtain ⟨receipt, ok, rfl, rfl⟩ := successfulReceipt_failed phases failed
  obtain ⟨-, -, -, last, found, asks, answered⟩ := resolution.given receipt ok
  have names : last.call.AsksFor response.id ↔ _ := asks.about.iff_same
  exact ⟨last, receipt, found, answered, rfl, names,
    fun foreign => names.mpr (resolution.again_same accepted foreign)⟩

end LedgerClient.TransactionResponse

namespace LedgerClient.Sample

/-- A submission is accepted and throttled, and the next one is accepted and fails. -/
def failing : World :=
  world [answer .ok, receipt .throttledAtConsensus, answer .ok, receipt .insufficientPayerBalance]

/-- The world after the transfer was sent for the first time. -/
def failingSent : World :=
  (transfer.execute client failing).world

/-- Only the last of the replies after that says that the balance does not suffice. -/
theorem failing_only {place : Nat}
    (unsuccessful : (failingSent.replyAt place).receipt?.map Receipt.status =
      some .insufficientPayerBalance) : place = 2 := by
  match place with
  | 0 => exact absurd unsuccessful (by decide +kernel)
  | 1 => exact absurd unsuccessful (by decide +kernel)
  | 2 => rfl
  | later + 3 =>
      have silent : failingSent.replyAt (later + 3) = .silent := rfl
      rw [silent] at unsuccessful
      cases unsuccessful

end LedgerClient.Sample

namespace LedgerClient.TransactionResponse

theorem sample_successfulReceipt_names_iff :
    ∃ response, (Sample.transfer.execute Sample.client Sample.failing).result = .ok response ∧
      Accepted none response ∧ ∃ first resent again later,
        Resolution none response Sample.failingSent first resent again later
          (response.receipt Sample.client Sample.failingSent) ∧
        (response.successfulReceipt Sample.client Sample.failingSent).2 =
          (response.receipt Sample.client Sample.failingSent).2 ∧
        ∀ status id, (response.successfulReceipt Sample.client Sample.failingSent).1 =
            .error (.receiptStatus status id) →
          ∃ last receipt,
            (first ++ resent.map (fun submission => submission.toExchange) ++ later).getLast? =
              some last ∧
            last.reply.receipt? = some receipt ∧ receipt.status = status ∧
            (last.call.AsksFor id ↔ (again.getD response).id.same response.id = true) ∧
            ((none : Option TransactionId) ≠ none → last.call.AsksFor id) := by
  have sent : (Sample.transfer.execute Sample.client Sample.failing).result = .ok _ := rfl
  have accepted : Accepted none _ := .ofExecute (.ofPayload _) sent
  exact ⟨_, sent, accepted,
    successfulReceipt_names_iff accepted Sample.client Sample.failingSent⟩

/-- The error names the id that the transfer had at first, but the receipt that it reports came from
a question about another id. -/
theorem sample_names_other :
    ∃ response id, (Sample.transfer.execute Sample.client Sample.failing).result = .ok response ∧
      (response.successfulReceipt Sample.client Sample.failingSent).1 =
        .error (.receiptStatus .insufficientPayerBalance id) ∧
      ∀ made, Sample.failingSent.Exchanged made
          (response.successfulReceipt Sample.client Sample.failingSent).2 →
        ∀ exchange ∈ made,
          exchange.reply.receipt?.map Receipt.status = some .insufficientPayerBalance →
          ¬ exchange.call.AsksFor id := by
  have sent : (Sample.transfer.execute Sample.client Sample.failing).result = .ok _ := rfl
  let id : TransactionId := .generate Sample.operator.account { seconds := 1000, nanos := 0 } 0
  refine ⟨_, id, sent, rfl, ?_⟩
  intro made exchanged exchange member unsuccessful
  generalize finished : (TransactionResponse.successfulReceipt _ Sample.client
    Sample.failingSent).2 = after at exchanged
  obtain ⟨place, found⟩ := List.getElem?_of_mem member
  have heard := exchanged.replies place exchange found
  obtain rfl : place = 2 := by
    rcases Reply.heard_eq_or_silent (Sample.failingSent.replyAt place) exchange.patience with
      whole | silent
    · exact Sample.failing_only (whole ▸ heard ▸ unsuccessful)
    · rw [heard, silent] at unsuccessful
      cases unsuccessful
  have call : after.calls[3]? = some exchange.call := exchanged.call found
  have asked : after.calls[3]?.all (fun call => !decide (call.AsksFor id)) = true := by
    rw [← finished]
    decide +kernel
  rw [call] at asked
  simpa using asked

end LedgerClient.TransactionResponse
