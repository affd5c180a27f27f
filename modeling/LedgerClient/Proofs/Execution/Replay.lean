import LedgerClient.Proofs.Execution.Exchange

/-!
The health of the nodes as a replay of what was exchanged. A call that is over is judged by what
became of it, and the judgement concerns the node that was called and no other.
-/

namespace LedgerClient

/-- What a reply says about the request and its node, if it lets the loop decide anything. -/
def Request.verdict {σ ρ α : Type} (request : Request σ ρ α) (mayReplace : Bool) :
    Reply → Option Outcome
  | .answered bytes _ =>
      match request.decode bytes with
      | .ok response => some (request.outcome response mayReplace)
      | .error _ => none
  | .failed cause _ => if cause.isTransient then some .nodeFailed else none
  | .silent => some .nodeFailed

/-- The health of a node that was called, after the call has come to this outcome. -/
def Outcome.judge (outcome : Outcome) (moment : Instant) (health : Health) : Health :=
  match outcome with
  | .accepted => health.recordSuccess
  | .nodeBusy | .nodeFailed => health.recordFailure moment
  | .pending | .expired | .fatal _ => health

/-- The outcome says something about the node. -/
def Outcome.tells : Outcome → Bool
  | .accepted | .nodeBusy | .nodeFailed => true
  | .pending | .expired | .fatal _ => false

theorem Outcome.judge_quiet {outcome : Outcome} (quiet : outcome.tells = false)
    (moment : Instant) (health : Health) : outcome.judge moment health = health := by
  cases outcome with
  | accepted | nodeBusy | nodeFailed => cases quiet
  | pending | expired | fatal status => rfl

namespace ExecutionConfig

variable (config : ExecutionConfig) (verdict : Reply → Option Outcome)

/-- When a call is over: with its reply, or when the node is given up. -/
def overAt (exchange : Exchange) : Instant :=
  exchange.reply.overAt exchange.call.time config.attemptTimeout

/-- What a call that is over says about the health of its node. -/
def judge (exchange : Exchange) (health : Health) : Health :=
  match verdict exchange.reply with
  | some outcome => outcome.judge (config.overAt exchange) health
  | none => health

theorem judge_quiet {exchange : Exchange}
    (quiet : (verdict exchange.reply).any Outcome.tells = false) (health : Health) :
    config.judge verdict exchange health = health := by
  unfold judge
  cases heard : verdict exchange.reply with
  | none => rfl
  | some outcome => exact Outcome.judge_quiet (by simpa [heard] using quiet) _ health

/-- Whether the call is over before the request is given up. -/
def completes (deadline : Option Instant) (exchange : Exchange) : Bool :=
  match deadline with
  | some limit => config.overAt exchange ≤ limit
  | none => true

end ExecutionConfig

/-! ## Replaying calls -/

/-- The node after these calls, of which those that were made to it count in their order. -/
def Node.replay (judge : Exchange → Health → Health) (made : List Exchange) (node : Node) : Node :=
  let own := made.filter fun exchange => node.account.same exchange.call.node
  { node with health := own.foldl (fun health exchange => judge exchange health) node.health }

def Network.replay (judge : Exchange → Health → Health) (made : List Exchange)
    (network : Network) : Network :=
  { network with nodes := network.nodes.map (Node.replay judge made) }

variable {judge : Exchange → Health → Health} {made : List Exchange}

@[simp] theorem Node.replay_nil (node : Node) : node.replay judge [] = node := rfl

@[simp] theorem Node.map_replay_nil (nodes : List Node) :
    nodes.map (Node.replay judge []) = nodes :=
  (List.map_congr_left fun node _ => node.replay_nil).trans (List.map_id' _)

@[simp] theorem Network.replay_nil (network : Network) : network.replay judge [] = network := by
  simp only [replay, Node.map_replay_nil]

/-- One more call changes the node that was called, by what is said about it. -/
theorem Network.replay_concat (network : Network) (made : List Exchange) (exchange : Exchange) :
    network.replay judge (made ++ [exchange]) =
      (network.replay judge made).updateHealth exchange.call.node (judge exchange) := by
  simp only [replay, updateHealth, List.map_map, Network.mk.injEq, List.map_inj_left, true_and,
    and_true]
  intro node _
  by_cases called : node.account.same exchange.call.node
  · simp [Node.replay, called]
  · simp [Node.replay, called]

theorem Network.updateHealth_same (network : Network) (account : AccountId)
    {change : Health → Health} (same : ∀ health, change health = health) :
    network.updateHealth account change = network := by
  cases network with
  | mk ledger nodes cursor =>
      have each : (nodes.map fun node =>
          if node.account.same account then { node with health := change node.health }
          else node) = nodes := by
        simp [same]
      simp only [updateHealth, each]

/-- A node that was not called is as before. -/
theorem Node.replay_uncalled {node : Node}
    (uncalled : ∀ exchange ∈ made, ¬ node.account.same exchange.call.node) :
    node.replay judge made = node := by
  have none : made.filter (fun exchange => node.account.same exchange.call.node) = [] := by
    simpa using uncalled
  simp [replay, none]

/-- Calls about which nothing is said can be left out. -/
theorem Node.replay_filter (counts : Exchange → Bool)
    (quiet : ∀ exchange ∈ made, counts exchange = false → ∀ health, judge exchange health = health)
    (node : Node) : node.replay judge (made.filter counts) = node.replay judge made := by
  have folded (health : Health) :
      ((made.filter counts).filter fun exchange => node.account.same exchange.call.node).foldl
          (fun health exchange => judge exchange health) health =
        (made.filter fun exchange => node.account.same exchange.call.node).foldl
          (fun health exchange => judge exchange health) health := by
    induction made generalizing health with
    | nil => rfl
    | cons exchange later ih =>
        have rest (health : Health) := ih (fun other member =>
          quiet other (List.mem_cons_of_mem _ member)) health
        have silent := quiet exchange List.mem_cons_self
        cases counted : counts exchange <;>
          cases own : node.account.same exchange.call.node <;>
          simp_all
  simp only [replay, folded]

end LedgerClient
