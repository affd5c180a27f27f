import LedgerClient.Proofs.Query.Receipts
import LedgerClient.Proofs.Transaction.Roots

/-!
A transaction in the hands of a caller, who sends it, perhaps several times, and asks for the
receipts of what was accepted. All submissions of the session are looked at together, also those
that a throttled receipt brings about.
-/

namespace LedgerClient

/-- A transaction with the responses that were got for it. -/
structure Session where
  transaction : Transaction
  responses : List TransactionResponse
  world : World

namespace Session

inductive Action where
  | execute (client : Client)
  | executeAll (client : Client)
  | receipt (client : Client) (index : Nat)
  | successfulReceipt (client : Client) (index : Nat)

def Action.client : Action → Client
  | execute client => client
  | executeAll client => client
  | receipt client _ => client
  | successfulReceipt client _ => client

/-- The session after a question about one of the responses, if there is that response. -/
def asking (session : Session) (index : Nat) (ask : TransactionResponse → World) : Session :=
  match session.responses[index]? with
  | none => session
  | some response => { session with world := ask response }

/-- Only what succeeds leaves responses behind, and a receipt can only be asked for with one. -/
def act (session : Session) : Action → Session
  | .execute client =>
      let sent := session.transaction.execute client session.world
      { transaction := sent.state
        responses := session.responses ++ sent.result.toOption.toList
        world := sent.world }
  | .executeAll client =>
      let sent := session.transaction.executeAll client session.world
      { transaction := sent.state
        responses := session.responses ++ sent.result.toOption.getD []
        world := sent.world }
  | .receipt client index =>
      session.asking index fun response => (response.receipt client session.world).2
  | .successfulReceipt client index =>
      session.asking index fun response => (response.successfulReceipt client session.world).2

def run (session : Session) (actions : List Action) : Session :=
  actions.foldl act session

/-- What an action submits: nothing, the transaction, or what a response is sent again as. -/
inductive Acts (session : Session) (client : Client) (next : Session) (made : List Submission) :
    Prop
  | idle (unchanged : next = session) (unsent : made = [])
  | sent {ready : Transaction} (readied : Transaction.Readied client session.transaction ready)
      (submissions : Submissions ready made next.transaction)
      (settings : ∀ submission ∈ made, submission.config = session.transaction.executionFor client)
      (responses : ∀ response ∈ next.responses, response ∈ session.responses ∨
        ∃ submission ∈ made, Transaction.Answers response submission)
  | resubmitted {response : TransactionResponse} {accepted : Bool}
      (held : response ∈ session.responses)
      (resubmissions : response.Resubmissions client made accepted)
      (transaction : next.transaction = session.transaction)
      (responses : next.responses = session.responses)

/-- The submissions of a session, action by action, as they are seen on the channel. -/
inductive Submits : Session → List Action → List Submission → Prop
  | nil (session : Session) : Submits session [] []
  | cons {session : Session} {action : Action} {actions : List Action} {made : List Exchange}
      {first later : List Submission}
      (exchanged : session.world.Exchanged made (session.act action).world)
      (submitted : SubmittedIn session.transaction.payload made first)
      (acts : session.Acts action.client (session.act action) first)
      (rest : Submits (session.act action) actions later) :
      Submits session (action :: actions) (first ++ later)

/-- The transaction and all responses are in order, and the responses are for this transaction. -/
structure InOrder (chosen : Option TransactionId) (session : Session) : Prop where
  transaction : session.transaction.Obtainable chosen
  responses : ∀ response ∈ session.responses, response.sent.Obtainable chosen ∧
    response.sent.isFrozen = true ∧ session.transaction.Continues response.sent

variable {chosen : Option TransactionId} {session next : Session} {client : Client}
  {made : List Submission}

theorem Acts.payload (acts : session.Acts client next made) (inOrder : session.InOrder chosen) :
    next.transaction.payload = session.transaction.payload := by
  cases acts with
  | idle unchanged unsent => rw [unchanged]
  | sent readied submissions settings responses =>
      have sound := (inOrder.transaction.readied readied).sound
      exact (submissions.continues sound).2.payload.trans readied.payload
  | resubmitted held resubmissions transaction responses => rw [transaction]

theorem Acts.continues (acts : session.Acts client next made) (inOrder : session.InOrder chosen)
    (frozen : session.transaction.isFrozen = true) :
    session.transaction.Continues next.transaction := by
  cases acts with
  | idle unchanged unsent =>
      rw [unchanged]
      exact .refl _
  | sent readied submissions settings responses =>
      have sound := (inOrder.transaction.readied readied).sound
      exact (readied.ofFrozen frozen).toContinues.trans (submissions.continues sound).2
  | resubmitted held resubmissions transaction responses =>
      rw [transaction]
      exact .refl _

theorem Acts.inOrder (acts : session.Acts client next made) (inOrder : session.InOrder chosen) :
    next.InOrder chosen := by
  have continues := acts.continues inOrder
  cases acts with
  | idle unchanged unsent => rwa [unchanged]
  | sent readied submissions settings responses =>
      have obtainable := inOrder.transaction.readied readied
      obtain ⟨states, final⟩ := obtainable.submissions submissions
      obtain ⟨continuesStates, continuesFinal⟩ := submissions.continues obtainable.sound
      refine ⟨final, ?_⟩
      intro response member
      rcases responses response member with old | ⟨submission, inside, answers⟩
      · obtain ⟨sent, frozen, same⟩ := inOrder.responses response old
        have wasFrozen : session.transaction.isFrozen = true := same.isFrozen.symm.trans frozen
        exact ⟨sent, frozen, (continues wasFrozen).symm.trans same⟩
      · rw [answers.sent]
        exact ⟨states submission inside, Transaction.isFrozen_ofChunkId answers.id,
          continuesFinal.symm.trans (continuesStates submission inside)⟩
  | resubmitted held resubmissions transaction responses =>
      refine ⟨transaction ▸ inOrder.transaction, ?_⟩
      rw [responses, transaction]
      exact inOrder.responses

/-- What is sent for a session is stored by its transaction at that moment, and is sent under the
settings of the transaction or else of the client. -/
theorem Acts.stored (acts : session.Acts client next made) (inOrder : session.InOrder chosen) :
    ∀ submission ∈ made, (∃ root id signed, submission.SentAsStored root id signed) ∧
      submission.config = submission.state.executionFor client := by
  have ofSubmissions {start final : Transaction} (obtainable : start.Obtainable chosen)
      (submissions : Submissions start made final)
      (settings : ∀ submission ∈ made, submission.config = start.executionFor client) :
      ∀ submission ∈ made, (∃ root id signed, submission.SentAsStored root id signed) ∧
        submission.config = submission.state.executionFor client := by
    intro submission member
    have sound := (submissions.sound obtainable.sound).1 submission member
    have same := (submissions.continues obtainable.sound).1 submission member
    refine ⟨(submissions.faithful submission member).sentAsStored sound, ?_⟩
    rw [settings submission member, Transaction.executionFor, Transaction.executionFor,
      same.execution]
  cases acts with
  | idle unchanged unsent => simp [unsent]
  | sent readied submissions settings responses =>
      refine ofSubmissions (inOrder.transaction.readied readied) submissions ?_
      intro submission member
      rw [settings submission member, Transaction.executionFor, Transaction.executionFor,
        readied.execution]
  | @resubmitted response accepted held resubmissions transaction responses =>
      have obtainable := (inOrder.responses response held).1
      cases resubmissions with
      | none => simp
      | some resends submissions settings delivers =>
          cases resends with
          | asSent => exact ofSubmissions obtainable submissions settings
          | renewed _ _ generated regenerated =>
              have renewed := obtainable.regenerate generated regenerated
              exact ofSubmissions renewed submissions settings

theorem acts_ofSent {ready : Transaction}
    (readied : Transaction.Readied client session.transaction ready)
    (sent : Transaction.Sent (session.transaction.executionFor client) ready session.world made
      (session.transaction.executeAll client session.world))
    {responses : List TransactionResponse}
    (answered : ∀ response ∈ responses, ∃ all,
      (session.transaction.executeAll client session.world).result = .ok all ∧ response ∈ all) :
    session.Acts client
      { transaction := (session.transaction.executeAll client session.world).state
        responses := session.responses ++ responses
        world := (session.transaction.executeAll client session.world).world } made := by
  refine .sent readied sent.submissions sent.settings ?_
  intro response member
  rcases List.mem_append.mp member with old | new
  · exact .inl old
  · obtain ⟨all, result, inside⟩ := answered response new
    exact .inr (sent.answers all result response inside)

theorem executeAll_acts {ready : Transaction}
    (readied : Transaction.Readied client session.transaction ready)
    (sent : Transaction.Sent (session.transaction.executionFor client) ready session.world made
      (session.transaction.executeAll client session.world)) :
    session.Acts client (session.act (.executeAll client)) made := by
  refine acts_ofSent readied sent ?_
  intro response member
  cases result : (session.transaction.executeAll client session.world).result with
  | error error => simp [result, Except.toOption] at member
  | ok answered => exact ⟨answered, rfl, by simpa [result, Except.toOption] using member⟩

theorem execute_acts {ready : Transaction}
    (readied : Transaction.Readied client session.transaction ready)
    (sent : Transaction.Sent (session.transaction.executionFor client) ready session.world made
      (session.transaction.executeAll client session.world)) :
    session.Acts client (session.act (.execute client)) made := by
  refine acts_ofSent readied sent ?_
  intro response member
  simp only [Transaction.execute] at member
  cases result : (session.transaction.executeAll client session.world).result with
  | error error => simp [result, bind, Except.bind, Except.toOption] at member
  | ok answered =>
      refine ⟨answered, rfl, ?_⟩
      cases answered with
      | nil =>
          simp [result, bind, Except.bind, throw, throwThe, MonadExceptOf.throw,
            Except.toOption] at member
      | cons other others =>
          obtain rfl : response = other := by
            simpa [result, bind, Except.bind, pure, Except.pure, Except.toOption] using member
          exact List.mem_cons_self

theorem sent_submittedIn {start ready : Transaction} {config : ExecutionConfig} {world : World}
    {finished : Finished Transaction (List TransactionResponse)}
    (readied : Transaction.Readied client start ready)
    (sent : Transaction.Sent config ready world made finished) :
    SubmittedIn start.payload (made.map fun submission => submission.toExchange) made := by
  refine .sent ?_
  intro submission member
  rw [sent.submissions.methods submission member, readied.payload]

theorem receipt_acts (inOrder : session.InOrder chosen) (client : Client) (index : Nat) :
    ∃ exchanges first,
      session.world.Exchanged exchanges (session.act (.receipt client index)).world ∧
      SubmittedIn session.transaction.payload exchanges first ∧
      session.Acts client (session.act (.receipt client index)) first := by
  simp only [act, asking]
  split
  · exact ⟨[], [], .refl _, rfl, .idle rfl rfl⟩
  · rename_i response found
    have held := List.mem_of_getElem? found
    obtain ⟨exchanges, first, exchanged, submitted, resubmissions⟩ :=
      response.receipt_resubmissions client session.world
    rw [(inOrder.responses response held).2.2.payload] at submitted
    exact ⟨exchanges, first, exchanged, submitted, .resubmitted held resubmissions rfl rfl⟩

theorem act_acts (inOrder : session.InOrder chosen) (action : Action) :
    ∃ exchanges first, session.world.Exchanged exchanges (session.act action).world ∧
      SubmittedIn session.transaction.payload exchanges first ∧
      session.Acts action.client (session.act action) first := by
  cases action with
  | executeAll client =>
      obtain ⟨ready, first, readied, sent⟩ :=
        Transaction.executeAll_sent session.transaction client session.world
      exact ⟨_, first, sent.exchanged, sent_submittedIn readied sent, executeAll_acts readied sent⟩
  | execute client =>
      obtain ⟨ready, first, readied, sent⟩ :=
        Transaction.executeAll_sent session.transaction client session.world
      exact ⟨_, first, sent.exchanged, sent_submittedIn readied sent, execute_acts readied sent⟩
  | receipt client index => exact receipt_acts inOrder client index
  | successfulReceipt client index =>
      have same : session.act (.successfulReceipt client index) =
          session.act (.receipt client index) := by
        simp only [act, TransactionResponse.successfulReceipt_world]
      rw [same]
      exact receipt_acts inOrder client index

end Session

end LedgerClient
