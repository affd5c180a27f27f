import LedgerClient.Proofs.Deadline
import LedgerClient.Proofs.Execution.Rounds

/-!
The nodes of a request: which one is called next, and what the calls make of their health. Every
request of the client is a run of the loop, so its calls follow each other as the turns of a run do,
and the health of each node is the replay of the calls that were made to it.
-/

namespace LedgerClient

/-! ## Requests as runs -/

/-- A fresh id comes from the source of ids and changes nothing else. -/
theorem Transaction.regenerate_aside (transaction : Transaction) (world : World) :
    ∃ ids, (transaction.regenerate world).2 = { world with ids } := by
  unfold regenerate
  split
  · split
    · exact ⟨world.ids, rfl⟩
    · dsimp only
      split <;> exact ⟨_, rfl⟩
  · exact ⟨world.ids, rfl⟩

theorem Driven.renewsAside {σ ρ α : Type} {request : Request σ ρ α} {state : σ}
    (driven : Driven request state) : request.RenewsAside := by
  cases driven with
  | chunk obtainable inside => exact Transaction.regenerate_aside
  | cost query => exact fun _ world => ⟨world.ids, rfl⟩
  | answer query view payment => exact fun _ world => ⟨world.ids, rfl⟩

theorem Driven.execute_over {σ ρ α : Type} {request : Request σ ρ α} {state : σ}
    (driven : Driven request state) (config : ExecutionConfig) {world : World}
    {nodes : List AccountId} (found : (world.candidates (request.nodes state)).1 = .ok nodes) :
    ∃ made, (Run.ofRequest request config state world nodes).Over made
      (request.execute config state world).world :=
  (Run.execute_closes (driven.servable config).lawful driven.renewsAside config state found).imp
    fun _ => And.left

/-! ## Which node is called -/

/-- All calls of a request follow each other. A node that was busy or had nothing final to say is
asked again when the loop goes on. After any other failure, and when the id was replaced, the
rotation goes on behind the node that was picked last. It picks the first healthy candidate, so not
the same one again while another is healthy, and one that has to be left alone for the shortest time
if none is; and that node is healthy when the call is made. -/
theorem Driven.execute_rotates {σ ρ α : Type} {request : Request σ ρ α} {state : σ}
    (driven : Driven request state) (config : ExecutionConfig) {world : World}
    {nodes : List AccountId} (found : (world.candidates (request.nodes state)).1 = .ok nodes) :
    ∃ made : List Turn,
      world.Exchanged (made.map Turn.toExchange) (request.execute config state world).world ∧
      ∀ earlier turn later, made = earlier ++ turn :: later →
        (Run.ofRequest request config state world nodes).Follows earlier turn := by
  obtain ⟨made, whole⟩ := driven.execute_over config found
  have listed := World.exchanged_candidates world (request.nodes state)
  exact ⟨made, listed.afterQuiet whole.exchanged, whole.turns⟩

namespace Sample

/-- Three nodes, each of which is left alone for a quarter of a second at least. -/
def accounts : List AccountId :=
  [EntityId.ofNumbers 0 0 3, EntityId.ofNumbers 0 0 4, EntityId.ofNumbers 0 0 5]

def trio : Network :=
  { network with
    nodes := accounts.flatMap fun account =>
      network.nodes.map fun node =>
        { node with
          account
          health := Health.make ExecutionConfig.defaultMinBackoff
            ExecutionConfig.defaultMaxBackoff } }

/-- A node that answers a question with this status and nothing more. -/
def refusal (status : Status) : Reply :=
  .answered (Wire.encode ({ precheck := status, cost := 0, answer := none } : QueryResponse))

/-- The first node is busy, and silent when it is asked again. -/
def busyTrio : World :=
  { world [refusal .busy, .silent, refusal .ok] with network := trio }

def balance : Request (Option Payment) QueryResponse AccountBalance :=
  (Query.ofData (.balance node)).answerRequest QueryAnswer.balance?

theorem balance_rotates :
    (busyTrio.candidates (balance.nodes none)).1 = .ok accounts ∧
      ∃ made : List Turn,
        busyTrio.Exchanged (made.map Turn.toExchange) (balance.execute config none busyTrio).world ∧
        ∀ earlier turn later, made = earlier ++ turn :: later →
          (Run.ofRequest balance config none busyTrio accounts).Follows earlier turn := by
  have found : (busyTrio.candidates (balance.nodes none)).1 = .ok accounts := by decide +kernel
  exact ⟨found, (Driven.answer (Query.ofData (.balance node)) QueryAnswer.balance?
    none).execute_rotates config found⟩

example : (balance.execute config none busyTrio).world.calls.map Call.node =
    [EntityId.ofNumbers 0 0 3, EntityId.ofNumbers 0 0 3, EntityId.ofNumbers 0 0 4] := by
  decide +kernel

end Sample

/-! ## What becomes of the nodes -/

/-- The calls that are over before a request that begins at `start` is given up. -/
def ExecutionConfig.completed (config : ExecutionConfig) (start : Instant)
    (made : List Exchange) : List Exchange :=
  made.filter (config.completes (config.requestTimeout.map start.wakeAfter))

namespace Request

variable {σ ρ α : Type}

/-- What a call of the request says about the health of its node once it is over. -/
def judge (request : Request σ ρ α) (config : ExecutionConfig) (state : σ) :
    Exchange → Health → Health :=
  config.judge (request.verdict (request.mayReplace config state))

/-- Whether the reply says anything about its node. -/
def tells (request : Request σ ρ α) (config : ExecutionConfig) (state : σ)
    (exchange : Exchange) : Bool :=
  (request.verdict (request.mayReplace config state) exchange.reply).any Outcome.tells

/-- What a request does to the nodes with the calls it makes. Only the last call may be cut off, and
replies that say nothing about their node might as well not have been given. -/
structure Judges (request : Request σ ρ α) (config : ExecutionConfig) (state : σ)
    (before : World) (made : List Exchange) (after : World) : Prop where
  exchanged : before.Exchanged made after
  completed : config.completed before.now made.dropLast = made.dropLast
  replayed : after.network.nodes = before.network.nodes.map
    (Node.replay (request.judge config state) (config.completed before.now made))
  telling : after.network.nodes = before.network.nodes.map
    (Node.replay (request.judge config state)
      ((config.completed before.now made).filter (request.tells config state)))
  uncalled : ∀ (place : Nat) (node : Node), before.network.nodes[place]? = some node →
    (∀ exchange ∈ made, ¬ node.account.same exchange.call.node) →
      after.network.nodes[place]? = some node

variable {request : Request σ ρ α} {config : ExecutionConfig} {state : σ} {before after : World}
  {made : List Exchange}

theorem Judges.ofReplay (exchanged : before.Exchanged made after)
    (completed : config.completed before.now made.dropLast = made.dropLast)
    (replayed : after.network.nodes = before.network.nodes.map
      (Node.replay (request.judge config state) (config.completed before.now made))) :
    request.Judges config state before made after where
  exchanged := exchanged
  completed := completed
  replayed := replayed
  telling := by
    rw [replayed]
    apply List.map_congr_left
    intro node _
    exact (Node.replay_filter _ (fun _ _ quiet => config.judge_quiet _ quiet) node).symm
  uncalled := by
    intro place node there alone
    rw [replayed, List.getElem?_map, there]
    refine congrArg some (Node.replay_uncalled ?_)
    intro exchange member
    exact alone exchange (List.mem_filter.mp member).1

/-- A request none of whose calls says anything about its node leaves all nodes as they are. -/
theorem Judges.untouched (judges : request.Judges config state before made after)
    (quiet : ∀ exchange ∈ config.completed before.now made,
      request.tells config state exchange = false) :
    after.network.nodes = before.network.nodes := by
  have none : (config.completed before.now made).filter (request.tells config state) = [] := by
    apply List.filter_eq_nil_iff.mpr
    intro exchange member
    simp [quiet exchange member]
  rw [judges.telling, none, Node.map_replay_nil]

end Request

theorem Network.candidates_nodes (network : Network) (chosen : Option (List AccountId))
    (now : Instant) : (network.candidates chosen now).2.nodes = network.nodes := by
  unfold candidates
  split
  · rfl
  · rfl
  · dsimp only
    split <;> rfl

theorem Driven.execute_judged {σ ρ α : Type} {request : Request σ ρ α} {state : σ}
    (driven : Driven request state) (config : ExecutionConfig) (world : World) :
    ∃ made, request.Judges config state world made (request.execute config state world).world := by
  have listed := World.exchanged_candidates world (request.nodes state)
  have kept := world.network.candidates_nodes (request.nodes state) world.now
  cases found : (world.candidates (request.nodes state)).1 with
  | error cause =>
      have ended : (request.execute config state world).world =
          (world.candidates (request.nodes state)).2 := by
        have failed : world.candidates (request.nodes state) =
            (.error cause, (world.candidates (request.nodes state)).2) := Prod.ext found rfl
        unfold Request.execute
        rw [failed]
      refine ⟨[], .ofReplay (ended ▸ listed) rfl ?_⟩
      rw [ended]
      exact kept.trans (Node.map_replay_nil _).symm
  | ok nodes =>
      obtain ⟨made, whole⟩ := driven.execute_over config found
      refine ⟨made.map Turn.toExchange, .ofReplay (listed.afterQuiet whole.exchanged) ?_ ?_⟩
      · apply List.filter_eq_self.mpr
        intro exchange member
        rw [← List.map_dropLast] at member
        obtain ⟨turn, among, rfl⟩ := List.mem_map.mp member
        exact whole.completed turn among
      · rw [whole.network]
        exact congrArg (List.map _) kept

/-- The reply says that there is no final receipt yet. -/
def Reply.saysPending : Reply → Bool
  | .answered bytes _ =>
      match (Wire.decode bytes : Except DecodeError QueryResponse) with
      | .ok response =>
          response.precheck = .receiptNotFound || response.precheck = .unknown ||
            (response.precheck = .ok || response.precheck = .success) &&
              (response.answer.bind QueryAnswer.receipt?).any Receipt.isPending
      | .error _ => false
  | _ => false

theorem Query.verdict_pending {α : Type} {query : Query} {id : TransactionId}
    (asks : query.data = .receipt id) (view : QueryAnswer → Option α) (mayReplace : Bool)
    {reply : Reply} (pending : reply.saysPending = true) :
    (query.answerRequest view).verdict mayReplace reply = some .pending := by
  cases reply with
  | failed cause delay | silent => cases pending
  | answered bytes delay =>
      simp only [Reply.saysPending] at pending
      simp only [Request.verdict, Query.answerRequest]
      cases decoded : (Wire.decode bytes : Except DecodeError QueryResponse) with
      | error cause => simp [decoded] at pending
      | ok response =>
          simp only [decoded, Bool.or_eq_true, Bool.and_eq_true, decide_eq_true_eq] at pending
          have unsettled : query.Unsettled response := by
            refine ⟨⟨id, asks⟩, ?_⟩
            rcases pending with early | ⟨through, undecided⟩
            · exact .inl (by simpa using early.symm)
            · obtain ⟨receipt, given, pending⟩ := (Option.any_eq_true _ _).mp undecided
              exact .inr ⟨by simpa using through, receipt,
                QueryAnswer.bind_receipt?_eq_some.mp given, Status.isPending_iff.mp pending⟩
          exact congrArg some (unsettled.answerOutcome_eq mayReplace)

/-! ## Nodes in the course of requests -/

/-- The health of every node after a request is the replay of the calls to it that were over in time:
a busy or failing node is blamed once when the call is over, a success clears it once, and no other
reply says anything about it. A node that was not called is as before, and a node that is asked for a
receipt as long as the receipt is pending is as before, too. To be blamed is to be left alone for
twice as long from then on, and to be cleared is to be left alone for half as long the next time. -/
theorem execute_judges (config : ExecutionConfig) (world : World) :
    (∀ {σ ρ α : Type} {request : Request σ ρ α} {state : σ}, Driven request state →
      ∃ made, request.Judges config state world made
        (request.execute config state world).world) ∧
    (∀ {α : Type} {query : Query} {id : TransactionId} (view : QueryAnswer → Option α)
      (payment : Option Payment) {made : List Exchange}, query.data = .receipt id →
      world.Exchanged made ((query.answerRequest view).execute config payment world).world →
      (∀ exchange ∈ config.completed world.now made, exchange.reply.saysPending = true) →
        ((query.answerRequest view).execute config payment world).world.network.nodes =
          world.network.nodes) ∧
    ∀ (health : Health) (moment : Instant),
      health.FailsAt moment (health.recordFailure moment) ∧
        health.Succeeds health.recordSuccess := by
  refine ⟨fun driven => driven.execute_judged config world, ?_,
    fun health moment => ⟨health.recordFailure_fails moment, health.recordSuccess_succeeds⟩⟩
  intro α query id view payment made asks exchanged pending
  obtain ⟨other, judges⟩ := (Driven.answer query view payment).execute_judged config world
  obtain rfl := judges.exchanged.unique exchanged
  apply judges.untouched
  intro exchange member
  unfold Request.tells
  rw [Query.verdict_pending asks view _ (pending exchange member)]
  rfl

namespace Sample

/-- All nodes say that they do not know the receipt yet. -/
def unknowing : World :=
  { world [] with network := trio, exhausted := receipt .unknown }

def asking : Query :=
  Query.ofData (.receipt (.generate operator.account { seconds := 1000, nanos := 0 } 0))

theorem asking_judges :
    (∃ made, (asking.answerRequest QueryAnswer.receipt?).Judges config none unknowing made
      ((asking.answerRequest QueryAnswer.receipt?).execute config none unknowing).world) ∧
    ((asking.answerRequest QueryAnswer.receipt?).execute config none unknowing).world.network.nodes =
      unknowing.network.nodes := by
  have judged := execute_judges config unknowing
  obtain ⟨made, judges⟩ := judged.1 (Driven.answer asking QueryAnswer.receipt? none)
  have waits : made.map Exchange.patience = List.replicate 10 (some config.attemptTimeout) :=
    judges.exchanged.waits.symm.trans (by decide +kernel)
  have pending : ∀ exchange ∈ config.completed unknowing.now made,
      exchange.reply.saysPending = true := by
    intro exchange completed
    have member := (List.mem_filter.mp completed).1
    have patient := List.eq_of_mem_replicate (waits ▸ List.mem_map_of_mem member)
    obtain ⟨place, found⟩ := List.getElem?_of_mem member
    have same : exchange.reply = receipt .unknown := judges.exchanged.heard found patient
    rw [same]
    decide +kernel
  exact ⟨⟨made, judges⟩, judged.2.1 QueryAnswer.receipt? none rfl judges.exchanged pending⟩

end Sample

end LedgerClient
