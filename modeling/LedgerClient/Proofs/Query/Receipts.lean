import LedgerClient.Proofs.Requests

/-!
What asking for a receipt sends: questions to the node, and, where the transaction was throttled,
the chunk once more. The two are told apart by their methods.
-/

namespace LedgerClient

theorem Payload.method_ne (payload : Payload) (data : QueryData) :
    payload.method ≠ data.method := by
  cases payload <;> cases data <;> simp [Payload.method, QueryData.method]

/-- Among all that was exchanged, these are the submissions. -/
def SubmittedIn (payload : Payload) (made : List Exchange) (submissions : List Submission) : Prop :=
  submissions.map (fun submission => submission.toExchange) =
    made.filter fun exchange => exchange.call.method = payload.method

namespace SubmittedIn

variable {payload : Payload} {made first second : List Exchange}

theorem append {left right : List Submission} (before : SubmittedIn payload first left)
    (after : SubmittedIn payload second right) :
    SubmittedIn payload (first ++ second) (left ++ right) := by
  simp only [SubmittedIn, List.map_append, List.filter_append] at *
  rw [before, after]

theorem asked {data : QueryData} (methods : ∀ exchange ∈ made, exchange.call.method = data.method) :
    SubmittedIn payload made [] := by
  simp only [SubmittedIn, List.map_nil]
  refine (List.filter_eq_nil_iff.mpr ?_).symm
  intro exchange member
  simpa [methods exchange member] using (payload.method_ne data).symm

theorem sent {submissions : List Submission}
    (methods : ∀ submission ∈ submissions, submission.call.method = payload.method) :
    SubmittedIn payload (submissions.map fun submission => submission.toExchange) submissions := by
  refine (List.filter_eq_self.mpr ?_).symm
  intro exchange member
  obtain ⟨submission, inside, rfl⟩ := List.mem_map.mp member
  simpa using methods submission inside

end SubmittedIn

theorem Query.answerRequest_exchanged {α : Type} (query : Query) (view : QueryAnswer → Option α)
    (payment : Option Payment) (config : ExecutionConfig) (world : World) :
    ∃ made, world.Exchanged made
      ((query.answerRequest view).execute config payment world).world ∧
      ∀ exchange ∈ made, exchange.call.method = query.data.method := by
  rcases Request.execute_ends (query.answerRequest_lawful view) config payment world with
    ⟨cause, refused, executed⟩ | ⟨nodes, made, found, exchanged, tries, ends⟩
  · rw [executed]
    exact ⟨[], World.exchanged_candidates world _, by simp⟩
  · refine ⟨_, exchanged, ?_⟩
    intro exchange member
    obtain ⟨attempt, inside, rfl⟩ := List.mem_map.mp member
    exact (tries.sends attempt inside).1

namespace TransactionResponse

variable {response : TransactionResponse} {client : Client} {world : World}

theorem queryReceipt_exchanged (response : TransactionResponse) (client : Client) (world : World) :
    ∃ made, world.Exchanged made (response.queryReceipt client world).2 ∧
      ∀ exchange ∈ made, exchange.call.method = (QueryData.receipt response.id).method := by
  simp only [queryReceipt, Query.execute]
  split
  · exact ⟨[], .refl _, by simp⟩
  · exact (receiptQuery response.id response.node).answerRequest_exchanged QueryAnswer.receipt? none
      _ world

/-- What a response is sent again as: the transaction as it was, or, if it has a single chunk and
the client made its id, the same with a fresh one. -/
inductive Resends (response : TransactionResponse) : Transaction → Prop
  | asSent : Resends response response.sent
  | renewed {start : Transaction} {world after : World} (first : response.chunk = 0)
      (single : response.sent.chunkCount = 1) (generated : response.sent.generated = true)
      (regenerated : response.sent.regenerate world = (.ok start, after)) : Resends response start

theorem Resends.payload {start : Transaction} (resends : response.Resends start) :
    start.payload = response.sent.payload := by
  cases resends with
  | asSent => rfl
  | renewed _ _ _ regenerated =>
      obtain ⟨before, frozen, id, fresh⟩ := Transaction.regenerate_regenerated regenerated
      rw [fresh.now]

/-- Whether a call for the receipt sends the transaction again and a node takes it. -/
def resubmits (response : TransactionResponse) (client : Client) (world : World) : Bool :=
  match response.queryReceipt client world with
  | (.ok receipt, after) =>
      receipt.status = .throttledAtConsensus &&
        (Transaction.resubmit response client after).1.isOk
  | (.error _, _) => false

/-- The submissions of a call for the receipt: none, or those of one resubmission. -/
inductive Resubmissions (response : TransactionResponse) (client : Client) :
    List Submission → Bool → Prop
  | none : Resubmissions response client [] false
  | some {start final : Transaction} {made : List Submission}
      {result : Except Error TransactionResponse} (resends : response.Resends start)
      (submissions : Submissions start made final)
      (settings : ∀ submission ∈ made, submission.config = start.executionFor client)
      (delivers : Transaction.Delivers made final result) :
      Resubmissions response client made result.isOk

theorem Resubmissions.methods {made : List Submission} {accepted : Bool}
    (resubmissions : Resubmissions response client made accepted) :
    ∀ submission ∈ made, submission.call.method = response.sent.payload.method := by
  cases resubmissions with
  | none => simp
  | some resends submissions settings delivers =>
      intro submission member
      rw [submissions.methods submission member, resends.payload]

theorem Resends.resubmissions {start : Transaction} (resends : response.Resends start)
    (client : Client) (world : World) :
    ∃ made,
      world.Exchanged (made.map fun submission => submission.toExchange)
        ((Transaction.chunkRequest start.payload.method response.chunk).execute
          (start.executionFor client) start world).world ∧
      Resubmissions response client made
        ((Transaction.chunkRequest start.payload.method response.chunk).execute
          (start.executionFor client) start world).result.isOk := by
  obtain ⟨made, delivered⟩ :=
    Transaction.chunk_delivered (start.executionFor client) start world response.chunk
  have settings : ∀ submission ∈ made, submission.config = start.executionFor client :=
    fun submission member => (delivered.place submission member).2
  exact ⟨made, delivered.exchanged,
    .some resends delivered.submissions settings delivered.ends⟩

/-- How an accepted chunk is sent again: not at all if there is no fresh id for it, and otherwise like
any other chunk. -/
inductive SendsAgain (response : TransactionResponse) (client : Client) (world : World) :
    Except Error TransactionResponse × World → Prop
  | notRenewed {error : Error} {after : World}
      (failed : response.sent.regenerate world = (.error error, after)) :
      SendsAgain response client world (.error error, after)
  | sent {start : Transaction} {middle : World} (resends : response.Resends start)
      (reached : middle = world ∨ middle = (response.sent.regenerate world).2) :
      SendsAgain response client world
        (((Transaction.chunkRequest start.payload.method response.chunk).execute
            (start.executionFor client) start middle).result,
          ((Transaction.chunkRequest start.payload.method response.chunk).execute
            (start.executionFor client) start middle).world)

theorem resubmit_sendsAgain (response : TransactionResponse) (client : Client) (world : World) :
    SendsAgain response client world (Transaction.resubmit response client world) := by
  by_cases fresh : response.chunk = 0 ∧ response.sent.chunkCount = 1 ∧
      response.sent.generated = true
  · simp only [Transaction.resubmit, if_pos fresh]
    cases regenerated : response.sent.regenerate world with
    | mk outcome after =>
        cases outcome with
        | error error => exact .notRenewed regenerated
        | ok start =>
            exact .sent (.renewed fresh.1 fresh.2.1 fresh.2.2 regenerated)
              (.inr (congrArg Prod.snd regenerated).symm)
  · simp only [Transaction.resubmit, if_neg fresh]
    exact .sent .asSent (.inl rfl)

theorem exchanged_reached {middle : World}
    (reached : middle = world ∨ middle = (response.sent.regenerate world).2) :
    world.Exchanged [] middle := by
  rcases reached with rfl | rfl
  · exact .refl _
  · exact Transaction.exchanged_regenerate response.sent world

/-- An accepted chunk is submitted again like any other, unless there is no fresh id for it. -/
theorem resubmit_resubmissions (response : TransactionResponse) (client : Client) (world : World) :
    ∃ made,
      world.Exchanged (made.map fun submission => submission.toExchange)
        (Transaction.resubmit response client world).2 ∧
      Resubmissions response client made (Transaction.resubmit response client world).1.isOk := by
  have sends := resubmit_sendsAgain response client world
  generalize Transaction.resubmit response client world = answer at sends
  cases sends with
  | notRenewed failed =>
      have quiet := Transaction.exchanged_regenerate response.sent world
      rw [failed] at quiet
      exact ⟨[], quiet, .none⟩
  | sent resends reached =>
      obtain ⟨made, exchanged, resubmissions⟩ := resends.resubmissions client _
      exact ⟨made, (exchanged_reached reached).afterQuiet exchanged, resubmissions⟩

/-- A call for the receipt: the questions that are asked, and between them what is submitted again.
-/
theorem receipt_resubmissions (response : TransactionResponse) (client : Client) (world : World) :
    ∃ made submissions, world.Exchanged made (response.receipt client world).2 ∧
      SubmittedIn response.sent.payload made submissions ∧
      Resubmissions response client submissions (response.resubmits client world) := by
  obtain ⟨asked, exchanged, methods⟩ := queryReceipt_exchanged response client world
  have asking : SubmittedIn response.sent.payload asked [] := .asked methods
  unfold receipt resubmits
  generalize response.queryReceipt client world = answered at *
  obtain ⟨outcome, middle⟩ := answered
  cases outcome with
  | error error => exact ⟨asked, [], exchanged, asking, .none⟩
  | ok receipt =>
      by_cases throttled : receipt.status = .throttledAtConsensus
      · simp only [throttled, ↓reduceIte, decide_true, Bool.true_and]
        obtain ⟨made, sent, resubmissions⟩ := resubmit_resubmissions response client middle
        generalize Transaction.resubmit response client middle = again at *
        obtain ⟨result, after⟩ := again
        have sending := asking.append (.sent resubmissions.methods)
        cases result with
        | error error => exact ⟨_, made, exchanged.trans sent, sending, resubmissions⟩
        | ok again =>
            obtain ⟨askedAgain, exchangedAgain, methodsAgain⟩ :=
              queryReceipt_exchanged again client after
            have askingAgain : SubmittedIn response.sent.payload askedAgain [] :=
              .asked methodsAgain
            have asking := sending.append askingAgain
            rw [List.append_nil] at asking
            have final := (exchanged.trans sent).trans exchangedAgain
            refine ⟨_, made, ?_, asking, resubmissions⟩
            dsimp only at final ⊢
            split
            · rename_i found
              rw [found] at final
              exact final
            · rename_i found
              rw [found] at final
              split <;> exact final
      · simp only [throttled, ↓reduceIte, decide_false, Bool.false_and]
        exact ⟨asked, [], exchanged, asking, .none⟩

theorem successfulReceipt_world (response : TransactionResponse) (client : Client) (world : World) :
    (response.successfulReceipt client world).2 = (response.receipt client world).2 := by
  unfold successfulReceipt
  split
  · rename_i found
    rw [found]
  · rename_i found
    rw [found]
    split <;> rfl

end TransactionResponse

end LedgerClient
