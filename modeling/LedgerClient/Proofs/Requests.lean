import LedgerClient.Proofs.Execution.Budget
import LedgerClient.Proofs.Execution.Failures
import LedgerClient.Proofs.Transaction.Obtainable
import LedgerClient.Query.Basic

/-!
The requests that the client drives: the chunks of transactions, questions, and questions for the
price of an answer. All of them can be sent to each of their nodes at every try, so none ends for a
reason that lies with the request itself.
-/

namespace LedgerClient

namespace Transaction

variable {chosen : Option TransactionId} {transaction : Transaction} {chunk : Nat}
  {config : ExecutionConfig}

theorem chunkRequest_servable (obtainable : Obtainable chosen transaction)
    (inside : chunk < transaction.chunkCount) (config : ExecutionConfig) :
    (chunkRequest transaction.payload.method chunk).Servable config transaction where
  lawful := chunkRequest_lawful _ chunk
  sendable := by
    intro world nodes made final found tries node member
    have submissions := tries_submissions tries rfl
    have sound := (submissions.sound obtainable.sound).2
    have continues := (submissions.continues obtainable.sound).2
    cases stored : final.frozen with
    | none =>
        rw [← continues.chunkCount] at inside
        simp [chunkCount, stored] at inside
    | some frozen =>
        have nodes : transaction.frozen.map Frozen.nodes = some frozen.nodes := by
          rw [← submissions.nodes, stored]
          rfl
        have count : chunk < frozen.chunks.length := by
          rw [← continues.chunkCount] at inside
          simpa [chunkCount, stored] using inside
        obtain ⟨root, _, coherent⟩ := sound.coherent frozen stored
        simp only [chunkRequest, nodes] at found
        obtain ⟨listed, inNodes, same⟩ := Network.candidates_chosen found node member
        obtain ⟨signed, held⟩ := coherent.signedFor_exists count inNodes same
        exact ⟨Wire.encode signed, by simp [chunkRequest, requestFor, stored, held, Except.map]⟩
  usable := by
    intro state node bytes response error encoded refused
    obtain ⟨signed, requested, -⟩ := map_eq_ok.mp encoded
    obtain ⟨value, given⟩ := response_exists requested
    simp [chunkRequest, given] at refused

end Transaction

namespace Query

variable {config : ExecutionConfig}

theorem costRequest_lawful (query : Query) : query.costRequest.Lawful :=
  ⟨fun _ world => .refl world, fun _ _ => rfl, fun _ => rfl⟩

theorem costRequest_servable (query : Query) (config : ExecutionConfig) :
    query.costRequest.Servable config () where
  lawful := query.costRequest_lawful
  sendable _ _ _ _ := ⟨_, rfl⟩
  usable _ refused := by cases refused

theorem answerRequest_lawful {α : Type} (query : Query) (view : QueryAnswer → Option α) :
    (query.answerRequest view).Lawful :=
  ⟨fun _ world => .refl world, fun _ _ => rfl, fun _ => rfl⟩

theorem answerRequest_servable {α : Type} (query : Query) (view : QueryAnswer → Option α)
    (payment : Option Payment) (config : ExecutionConfig) :
    (query.answerRequest view).Servable config payment where
  lawful := query.answerRequest_lawful view
  sendable _ _ _ _ := ⟨_, rfl⟩
  usable _ refused := by
    simp only [answerRequest] at refused
    split at refused
    · cases refused
    · cases refused
      rfl

theorem costRequest_contained (query : Query) : query.costRequest.Contained :=
  ⟨nofun, nofun, nofun⟩

theorem answerRequest_contained {α : Type} (query : Query) (view : QueryAnswer → Option α) :
    (query.answerRequest view).Contained where
  encode failed := by cases failed
  regenerate failed := by cases failed
  output failed := by
    simp only [answerRequest] at failed
    split at failed <;> cases failed
    trivial

end Query

/-- A request as the client drives it, with what it is at first. -/
inductive Driven : {σ ρ α : Type} → Request σ ρ α → σ → Prop
  | chunk {chosen : Option TransactionId} {transaction : Transaction} {chunk : Nat}
      (obtainable : transaction.Obtainable chosen) (inside : chunk < transaction.chunkCount) :
      Driven (Transaction.chunkRequest transaction.payload.method chunk) transaction
  | cost (query : Query) : Driven query.costRequest ()
  | answer {α : Type} (query : Query) (view : QueryAnswer → Option α) (payment : Option Payment) :
      Driven (query.answerRequest view) payment

theorem Driven.servable {σ ρ α : Type} {request : Request σ ρ α} {state : σ}
    (driven : Driven request state) (config : ExecutionConfig) : request.Servable config state := by
  cases driven with
  | chunk obtainable inside => exact Transaction.chunkRequest_servable obtainable inside config
  | cost query => exact query.costRequest_servable config
  | answer query view payment => exact query.answerRequest_servable view payment config

/-- The responses to a request that are not final. Only questions have such responses. -/
inductive Driven.Unsettled : {σ ρ α : Type} → Request σ ρ α → (ρ → Prop) → Prop
  | chunk (method : Method) (chunk : Nat) :
      Unsettled (Transaction.chunkRequest method chunk) fun _ => False
  | cost (query : Query) : Unsettled query.costRequest fun _ => False
  | answer {α : Type} (query : Query) (view : QueryAnswer → Option α) :
      Unsettled (query.answerRequest view) query.Unsettled

/-- What is not final is waited for, and everything else means what its status means. -/
structure Request.TakenBy {σ ρ α : Type} (request : Request σ ρ α) (unsettled : ρ → Prop) :
    Prop where
  pending : ∀ response mayReplace, unsettled response →
    request.outcome response mayReplace = .pending
  decided : ∀ response mayReplace, ¬ unsettled response →
    Outcome.Means mayReplace (request.status response) (request.outcome response mayReplace)

theorem Transaction.chunkRequest_takenBy (method : Method) (chunk : Nat) :
    (chunkRequest method chunk).TakenBy fun _ => False where
  pending _ _ unsettled := unsettled.elim
  decided response mayReplace _ := Outcome.ofStatus_means response.precheck mayReplace

theorem Query.costRequest_takenBy (query : Query) : query.costRequest.TakenBy fun _ => False where
  pending _ _ unsettled := unsettled.elim
  decided response mayReplace _ := Outcome.ofStatus_means response.precheck mayReplace

theorem Query.answerRequest_takenBy {α : Type} (query : Query) (view : QueryAnswer → Option α) :
    (query.answerRequest view).TakenBy query.Unsettled where
  pending _ mayReplace unsettled := unsettled.answerOutcome_eq mayReplace
  decided response mayReplace settled := by
    have means := Outcome.ofStatus_means response.precheck mayReplace
    rwa [← answerOutcome_of_settled settled] at means

theorem Driven.takes {σ ρ α : Type} {request : Request σ ρ α} {state : σ}
    (driven : Driven request state) :
    ∃ unsettled, Driven.Unsettled request unsettled ∧ request.TakenBy unsettled := by
  cases driven with
  | chunk obtainable inside => exact ⟨_, .chunk _ _, Transaction.chunkRequest_takenBy _ _⟩
  | cost query => exact ⟨_, .cost query, query.costRequest_takenBy⟩
  | answer query view payment => exact ⟨_, .answer query view, query.answerRequest_takenBy view⟩

/-- Without a time limit, every request does what the replies say. The first reply that ends it, if
it comes within the tries that the settings allow, takes as many calls as there are replies up to it
and settles the result; if there is no such reply, all tries are used up. Otherwise there was no
node to try, or an expired id could not be replaced. What a reply says depends on its status, and on
whether the answer in it is final. -/
theorem Driven.execute_follows_replies {σ ρ α : Type} {request : Request σ ρ α} {state : σ}
    (driven : Driven request state) {config : ExecutionConfig}
    (unlimited : config.requestTimeout = none) (world : World) :
    (∃ unsettled, Driven.Unsettled request unsettled ∧ request.TakenBy unsettled) ∧
    ∃ made, request.FollowsReplies config state world made (request.execute config state world) :=
  ⟨driven.takes, Request.execute_decided (driven.servable config) unlimited world⟩

/-- A chunk that the node is too busy for at first. -/
theorem sample_execute_follows_replies :
    Sample.config.requestTimeout = none ∧ 0 < Sample.frozen.chunkCount ∧
      (∃ unsettled, Driven.Unsettled (Transaction.chunkRequest Sample.frozen.payload.method 0)
          unsettled ∧
        (Transaction.chunkRequest Sample.frozen.payload.method 0).TakenBy unsettled) ∧
      ∃ made, (Transaction.chunkRequest Sample.frozen.payload.method 0).FollowsReplies Sample.config
        Sample.frozen (Sample.world [Sample.answer .busy, Sample.answer .ok]) made
        ((Transaction.chunkRequest Sample.frozen.payload.method 0).execute Sample.config
          Sample.frozen (Sample.world [Sample.answer .busy, Sample.answer .ok])) := by
  have inside : 0 < Sample.frozen.chunkCount := by
    rw [Sample.frozen_chunkCount]
    decide
  exact ⟨rfl, inside, (Driven.chunk Sample.frozen_obtainable inside).execute_follows_replies rfl _⟩

end LedgerClient
