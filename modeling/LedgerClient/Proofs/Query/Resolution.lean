import LedgerClient.Proofs.Query.Polling
import LedgerClient.Proofs.Query.Resubmissions
import LedgerClient.Proofs.Transaction.Naming

/-!
What a call for the receipt of an accepted transaction does. It asks the node that accepted the
transaction. If the transaction turns out to be throttled, it is sent again, once, and then the
node that accepted it this time is asked about what it accepted.
-/

namespace LedgerClient

namespace TransactionResponse

open Transaction (Answers Delivers)

/-- A response that a sending of some transaction gave; `chosen` is the id that did not come from
the client, if there is one. -/
inductive Accepted (chosen : Option TransactionId) : TransactionResponse → Prop
  | ofExecuteAll {transaction : Transaction} {client : Client} {world : World}
      {responses : List TransactionResponse} {response : TransactionResponse}
      (obtainable : transaction.Obtainable chosen)
      (sent : (transaction.executeAll client world).result = .ok responses)
      (member : response ∈ responses) : Accepted chosen response
  | ofExecute {transaction : Transaction} {client : Client} {world : World}
      {response : TransactionResponse} (obtainable : transaction.Obtainable chosen)
      (sent : (transaction.execute client world).result = .ok response) : Accepted chosen response

variable {chosen : Option TransactionId} {response again : TransactionResponse} {client : Client}
  {world middle after : World} {first later : List Exchange} {resent : List Submission}

/-- A response is the answer to a submission, and keeps the transaction as it was then. -/
theorem Accepted.answers (accepted : Accepted chosen response) :
    ∃ submission, Answers response submission ∧ submission.state.Obtainable chosen := by
  have ofAll {transaction : Transaction} {client : Client} {world : World}
      {responses : List TransactionResponse} (obtainable : transaction.Obtainable chosen)
      (result : (transaction.executeAll client world).result = .ok responses)
      (member : response ∈ responses) :
      ∃ submission, Answers response submission ∧ submission.state.Obtainable chosen := by
    obtain ⟨ready, made, readied, sent⟩ := Transaction.executeAll_sent transaction client world
    obtain ⟨submission, inside, answers⟩ := sent.answers responses result response member
    exact ⟨submission, answers,
      ((obtainable.readied readied).submissions sent.submissions).1 submission inside⟩
  cases accepted with
  | ofExecuteAll obtainable result member => exact ofAll obtainable result member
  | ofExecute obtainable result =>
      obtain ⟨responses, all, taken⟩ := bind_eq_ok.mp result
      split at taken
      · cases taken
      · cases taken
        exact ofAll obtainable all (by simp)

theorem Accepted.obtainable (accepted : Accepted chosen response) :
    response.sent.Obtainable chosen := by
  obtain ⟨submission, answers, obtainable⟩ := accepted.answers
  rwa [answers.sent]

theorem Accepted.named (accepted : Accepted chosen response) :
    response.sent.chunkIdAt response.chunk = some response.id := by
  obtain ⟨submission, answers, -⟩ := accepted.answers
  rw [answers.sent, answers.chunk]
  exact answers.id

/-! ## The resubmission -/

/-- What sending an accepted chunk again submits. -/
structure Resent (response : TransactionResponse) (world : World) (made : List Submission)
    (answer : Except Error TransactionResponse × World) : Prop where
  exchanged : world.Exchanged (made.map fun submission => submission.toExchange) answer.2
  place : ∀ submission ∈ made, submission.chunk = response.chunk
  delivered : ∃ start final, response.Resends start ∧ Submissions start made final ∧
    Delivers made final answer.1
  failed : ∀ error, answer.1 = .error error → ¬ error.OnReceipt

theorem Resends.toResent {start : Transaction} (resends : response.Resends start)
    (quiet : world.Exchanged [] middle) (config : ExecutionConfig) :
    ∃ made, Resent response world made
      (((Transaction.chunkRequest start.payload.method response.chunk).execute config start
          middle).result,
        ((Transaction.chunkRequest start.payload.method response.chunk).execute config start
          middle).world) := by
  obtain ⟨made, delivered⟩ := Transaction.chunk_delivered config start middle response.chunk
  exact ⟨made, quiet.afterQuiet delivered.exchanged,
    fun submission member => (delivered.place submission member).1,
    ⟨start, _, resends, delivered.submissions, delivered.ends⟩,
    fun _ failed => ((Transaction.chunkRequest_contained _ _).execute
      (Transaction.chunkRequest_lawful _ _) failed).not_onReceipt⟩

theorem resubmit_resent (response : TransactionResponse) (client : Client) (world : World) :
    ∃ made, Resent response world made (Transaction.resubmit response client world) := by
  have sends := resubmit_sendsAgain response client world
  generalize Transaction.resubmit response client world = answer at sends
  cases sends with
  | notRenewed failed =>
      have quiet := Transaction.exchanged_regenerate response.sent world
      rw [failed] at quiet
      refine ⟨[], quiet, by simp, ⟨_, _, .asSent, .nil _, .refused (by simp)⟩, ?_⟩
      intro other same
      cases same
      exact (Transaction.regenerate_internal failed).operational.not_onReceipt
  | sent resends reached => exact resends.toResent (exchanged_reached reached) _

/-! ## The whole call -/

/-- What was asked, sent again and asked once more, with the response to what was sent again. -/
inductive Phases (response : TransactionResponse) (world : World) :
    List Exchange → List Submission → Option TransactionResponse → List Exchange →
      Except Error Receipt × World → Prop
  | once {first : List Exchange} {answer : Except Error Receipt × World}
      (polled : Polled response.id response.node world first answer)
      (settled : ∀ receipt, answer.1 = .ok receipt → receipt.status ≠ .throttledAtConsensus) :
      Phases response world first [] none [] answer
  | notAccepted {first : List Exchange} {resent : List Submission} {receipt : Receipt}
      {middle after : World} {error : Error}
      (polled : Polled response.id response.node world first (.ok receipt, middle))
      (throttled : receipt.status = .throttledAtConsensus)
      (sent : Resent response middle resent (.error error, after)) :
      Phases response world first resent none [] (.error error, after)
  | again {first later : List Exchange} {resent : List Submission} {receipt : Receipt}
      {again : TransactionResponse} {middle after final : World} {answer : Except Error Receipt}
      (polled : Polled response.id response.node world first (.ok receipt, middle))
      (throttled : receipt.status = .throttledAtConsensus)
      (sent : Resent response middle resent (.ok again, after))
      (polledAgain : Polled again.id again.node after later (answer, final))
      (settled : ∀ receipt, answer = .ok receipt → receipt.status ≠ .throttledAtConsensus) :
      Phases response world first resent (some again) later (answer, final)
  | twice {first later : List Exchange} {resent : List Submission} {receipt second : Receipt}
      {again : TransactionResponse} {middle after final : World}
      (polled : Polled response.id response.node world first (.ok receipt, middle))
      (throttled : receipt.status = .throttledAtConsensus)
      (sent : Resent response middle resent (.ok again, after))
      (polledAgain : Polled again.id again.node after later (.ok second, final))
      (throttledAgain : second.status = .throttledAtConsensus) :
      Phases response world first resent (some again) later
        (.error (.receiptThrottled again.id), final)

theorem receipt_phases (response : TransactionResponse) (client : Client) (world : World) :
    ∃ first resent again later,
      Phases response world first resent again later (response.receipt client world) := by
  obtain ⟨first, polled⟩ := queryReceipt_polled response client world
  unfold receipt
  generalize response.queryReceipt client world = answered at polled
  obtain ⟨outcome, middle⟩ := answered
  cases outcome with
  | error error => exact ⟨first, [], none, [], .once polled (by simp)⟩
  | ok receipt =>
      by_cases throttled : receipt.status = .throttledAtConsensus
      · simp only [throttled, ↓reduceIte]
        obtain ⟨resent, sent⟩ := resubmit_resent response client middle
        generalize Transaction.resubmit response client middle = resubmitted at sent
        obtain ⟨result, after⟩ := resubmitted
        cases result with
        | error error => exact ⟨first, resent, none, [], .notAccepted polled throttled sent⟩
        | ok again =>
            obtain ⟨later, polledAgain⟩ := queryReceipt_polled again client after
            refine ⟨first, resent, some again, later, ?_⟩
            dsimp only
            generalize again.queryReceipt client after = answeredAgain at polledAgain
            obtain ⟨outcome, final⟩ := answeredAgain
            cases outcome with
            | error error => exact .again polled throttled sent polledAgain (by simp)
            | ok second =>
                by_cases throttledAgain : second.status = .throttledAtConsensus
                · simp only [throttledAgain, ↓reduceIte]
                  exact .twice polled throttled sent polledAgain throttledAgain
                · simp only [throttledAgain, ↓reduceIte]
                  exact .again polled throttled sent polledAgain (by simpa using throttledAgain)
      · simp only [throttled, ↓reduceIte]
        exact ⟨first, [], none, [], .once polled (by simpa using throttled)⟩

theorem Resends.obtainable {start : Transaction} (resends : response.Resends start)
    (obtainable : response.sent.Obtainable chosen) : start.Obtainable chosen := by
  cases resends with
  | asSent => exact obtainable
  | renewed _ _ generated regenerated => exact .regenerate obtainable generated regenerated

theorem Resent.resubmits {answer : Except Error TransactionResponse × World}
    (sent : Resent response world resent answer) (obtainable : response.sent.Obtainable chosen) :
    ∀ submission ∈ resent, submission.chunk = response.chunk ∧
      ∃ root id signed, submission.SentAsStored root id signed := by
  obtain ⟨start, final, resends, submissions, -⟩ := sent.delivered
  have sound := (submissions.sound (resends.obtainable obtainable).sound).1
  intro submission member
  exact ⟨sent.place submission member,
    (submissions.faithful submission member).sentAsStored (sound submission member)⟩

/-- Under an id that is not the client's own, what is sent again is still what was stored when the
chunk was accepted. -/
theorem Resent.unchanged {answer : Except Error TransactionResponse × World}
    (sent : Resent response world resent answer) (obtainable : response.sent.Obtainable chosen)
    (given : chosen ≠ none) :
    ∀ submission ∈ resent, ∃ signed,
      response.sent.requestFor response.chunk submission.call.node = .ok signed ∧
        submission.call.request = Wire.encode signed := by
  obtain ⟨start, final, resends, submissions, -⟩ := sent.delivered
  have sound := (submissions.sound (resends.obtainable obtainable).sound).1
  have kept : start = response.sent := by
    cases resends with
    | asSent => rfl
    | renewed _ _ generated _ => exact absurd (obtainable.sound.not_chosen generated) given
  have current : ∀ submission ∈ resent, ¬ submission.Renews := fun submission member renews =>
    given ((sound submission member).not_chosen renews.generated)
  intro submission member
  have state := (submissions.unchanged current).1 submission member
  obtain ⟨signed, requested, request⟩ := (submissions.faithful submission member).stored
  rw [state, kept, sent.place submission member] at requested
  exact ⟨signed, requested, request⟩

theorem Resent.accepted {answer : World} (sent : Resent response world resent (.ok again, answer))
    (obtainable : response.sent.Obtainable chosen) :
    ∃ accepted, resent.getLast? = some accepted ∧ Answers again accepted ∧
      accepted.call.Carries again.id := by
  obtain ⟨start, final, resends, submissions, delivers⟩ := sent.delivered
  cases delivers with
  | @accepted earlier last _ split refused answers unchanged =>
      have member : last ∈ resent := by simp [split]
      obtain ⟨root, id, signed, stored⟩ := (sent.resubmits obtainable last member).2
      have same : id = again.id := Option.some.inj (stored.named.symm.trans answers.id)
      refine ⟨last, by simp [split], answers, ?_⟩
      exact ⟨signed, stored.request, same ▸ stored.addressed⟩

/-- A node is asked for the receipt of a transaction. -/
structure Asks (call : Call) (id : TransactionId) (node : AccountId) : Prop where
  method : call.method = (QueryData.receipt id).method
  about : call.AsksFor id
  node : call.node.same node = true

theorem Polled.all_ask {id : TransactionId} {node : AccountId} {made : List Exchange}
    {answer : Except Error Receipt × World} (polled : Polled id node world made answer) :
    ∀ exchange ∈ made, Asks exchange.call id node := fun exchange member =>
  ⟨polled.methods exchange member, polled.asks exchange member, polled.addressed exchange member⟩

/-- The last of these replies has a final receipt that says that the transaction was throttled. -/
def EndsThrottled (made : List Exchange) : Prop :=
  ∃ last receipt, made.getLast? = some last ∧ last.reply.receipt? = some receipt ∧
    receipt.status = .throttledAtConsensus

theorem Polled.endsThrottled_iff {id : TransactionId} {node : AccountId} {made : List Exchange}
    {answer : Except Error Receipt × World} (polled : Polled id node world made answer) :
    EndsThrottled made ↔
      ∃ receipt, answer.1 = .ok receipt ∧ receipt.status = .throttledAtConsensus := by
  constructor
  · rintro ⟨last, receipt, found, given, throttled⟩
    exact ⟨receipt, (polled.answered receipt).mpr ⟨last, found, given⟩, throttled⟩
  · rintro ⟨receipt, ok, throttled⟩
    obtain ⟨last, found, given⟩ := (polled.answered receipt).mp ok
    exact ⟨last, receipt, found, given, throttled⟩

/-- What a call for the receipt of an accepted transaction comes to: the questions at `first`, what
was sent again because the answer was that the transaction was throttled, the response `again` to
it, and then the questions about what was accepted now. -/
structure Resolution (chosen : Option TransactionId) (response : TransactionResponse)
    (world : World) (first : List Exchange) (resent : List Submission)
    (again : Option TransactionResponse) (later : List Exchange)
    (answer : Except Error Receipt × World) : Prop where
  exchanged : world.Exchanged
    (first ++ resent.map (fun submission => submission.toExchange) ++ later) answer.2
  asks : ∀ exchange ∈ first, Asks exchange.call response.id response.node
  throttled : resent ≠ [] → EndsThrottled first
  resubmits : ∀ submission ∈ resent, submission.chunk = response.chunk ∧
    ∃ root id signed, submission.SentAsStored root id signed
  unchanged : chosen ≠ none → ∀ submission ∈ resent, ∃ signed,
    response.sent.requestFor response.chunk submission.call.node = .ok signed ∧
      submission.call.request = Wire.encode signed
  accepted : ∀ other, again = some other → ∃ accepted, resent.getLast? = some accepted ∧
    Answers other accepted ∧ accepted.call.Carries other.id
  asksAgain : ∀ exchange ∈ later, ∃ other, again = some other ∧
    Asks exchange.call other.id other.node
  given : ∀ receipt, answer.1 = .ok receipt → receipt.isPending = false ∧
    receipt.status ∉ [.unknown, .busy, .receiptNotFound, .ok] ∧
    receipt.status ≠ .throttledAtConsensus ∧
    ∃ last, (first ++ resent.map (fun submission => submission.toExchange) ++ later).getLast? =
        some last ∧
      Asks last.call (again.getD response).id (again.getD response).node ∧
      last.reply.receipt? = some receipt
  twice : ∀ id, answer.1 = .error (.receiptThrottled id) ↔
    EndsThrottled later ∧ ∃ other, again = some other ∧ id = other.id

/-- The part of a call that comes after a resubmission was accepted. -/
theorem resolution_again {receipt : Receipt} {final : World} {outcome answer : Except Error Receipt}
    (obtainable : response.sent.Obtainable chosen)
    (polled : Polled response.id response.node world first (.ok receipt, middle))
    (throttled : receipt.status = .throttledAtConsensus)
    (sent : Resent response middle resent (.ok again, after))
    (polledAgain : Polled again.id again.node after later (outcome, final))
    (given : ∀ receipt, answer = .ok receipt →
      outcome = .ok receipt ∧ receipt.status ≠ .throttledAtConsensus)
    (twice : ∀ id, answer = .error (.receiptThrottled id) ↔ EndsThrottled later ∧ id = again.id) :
    Resolution chosen response world first resent (some again) later (answer, final) where
  exchanged := (polled.exchanged.trans sent.exchanged).trans polledAgain.exchanged
  asks := polled.all_ask
  throttled _ := polled.endsThrottled_iff.mpr ⟨receipt, rfl, throttled⟩
  resubmits := sent.resubmits obtainable
  unchanged given := sent.unchanged obtainable given
  accepted other same := by
    cases same
    exact sent.accepted obtainable
  asksAgain exchange member := ⟨again, rfl, polledAgain.all_ask exchange member⟩
  given receipt ok := by
    obtain ⟨reached, settled⟩ := given receipt ok
    obtain ⟨last, found, answered⟩ := (polledAgain.answered receipt).mp reached
    have final := Reply.receipt?_final answered
    exact ⟨final, Receipt.isPending_eq_false_iff.mp final, settled, last, by simp [found],
      polledAgain.all_ask last (List.mem_of_getLast? found), answered⟩
  twice id := by simp [twice id]

/-- A call in which nothing is sent again. -/
theorem Polled.resolution {answer : Except Error Receipt × World}
    (polled : Polled response.id response.node world first answer)
    (settled : ∀ receipt, answer.1 = .ok receipt → receipt.status ≠ .throttledAtConsensus) :
    Resolution chosen response world first [] none [] answer where
  exchanged := by simpa using polled.exchanged
  asks := polled.all_ask
  throttled := by simp
  resubmits := by simp
  unchanged := by simp
  accepted := by simp
  asksAgain := by simp
  given receipt ok := by
    obtain ⟨last, found, given⟩ := (polled.answered receipt).mp ok
    have final := Reply.receipt?_final given
    exact ⟨final, Receipt.isPending_eq_false_iff.mp final, settled receipt ok, last,
      by simpa using found, polled.all_ask last (List.mem_of_getLast? found), given⟩
  twice id := by
    have none : answer.1 ≠ .error (.receiptThrottled id) := fun failed =>
      polled.failed _ failed trivial
    simp [none]

/-- A call in which what is sent again is not accepted. -/
theorem Resent.resolution {receipt : Receipt} {error : Error}
    (obtainable : response.sent.Obtainable chosen)
    (polled : Polled response.id response.node world first (.ok receipt, middle))
    (throttled : receipt.status = .throttledAtConsensus)
    (sent : Resent response middle resent (.error error, after)) :
    Resolution chosen response world first resent none [] (.error error, after) where
  exchanged := by simpa using polled.exchanged.trans sent.exchanged
  asks := polled.all_ask
  throttled _ := polled.endsThrottled_iff.mpr ⟨receipt, rfl, throttled⟩
  resubmits := sent.resubmits obtainable
  unchanged := sent.unchanged obtainable
  accepted := by simp
  asksAgain := by simp
  given := by simp
  twice id := by
    have none : error ≠ .receiptThrottled id := by
      rintro rfl
      exact sent.failed _ rfl trivial
    simp [none]

theorem Phases.resolution {again : Option TransactionResponse}
    {answer : Except Error Receipt × World}
    (phases : Phases response world first resent again later answer)
    (obtainable : response.sent.Obtainable chosen) :
    Resolution chosen response world first resent again later answer := by
  cases phases with
  | once polled settled => exact polled.resolution settled
  | notAccepted polled throttled sent => exact sent.resolution obtainable polled throttled
  | @again _ _ _ _ _ _ _ answer polled throttled sent polledAgain settled =>
      refine resolution_again obtainable polled throttled sent polledAgain
        (fun receipt ok => ⟨ok, settled receipt ok⟩) ?_
      intro id
      have none : answer ≠ .error (.receiptThrottled id) := fun failed =>
        polledAgain.failed _ failed trivial
      have settled : ¬ EndsThrottled later := by
        rw [polledAgain.endsThrottled_iff]
        rintro ⟨receipt, ok, throttled⟩
        exact settled receipt ok throttled
      simp [none, settled]
  | @twice _ _ _ second again _ _ _ polled throttled sent polledAgain throttledAgain =>
      refine resolution_again obtainable polled throttled sent polledAgain (by simp) ?_
      intro id
      have endsThrottled : EndsThrottled later :=
        polledAgain.endsThrottled_iff.mpr ⟨second, rfl, throttledAgain⟩
      simp [endsThrottled, eq_comm]

end TransactionResponse

end LedgerClient
