import LedgerClient.Proofs.Execution.Replay
import LedgerClient.Proofs.Network.Rotating
import Mathlib.Data.List.Induction

/-!
The turns of a run: which node is called next, and when. Both follow from the turns before. A node
that was busy or had no final answer is asked again. After everything else the rotation goes on from
the last node, and the health it looks at is what the calls so far have made of it.
-/

namespace LedgerClient

/-- A call of the loop, with the place of its node among the candidates. -/
structure Turn extends Exchange where
  place : Nat

/-- The same turn if the caller hangs up. -/
def Turn.cut (turn : Turn) : Turn :=
  { turn with toExchange := turn.toExchange.cut }

namespace Outcome

/-- The node is asked again. -/
def asksAgain : Outcome → Bool
  | .nodeBusy | .pending => true
  | .accepted | .nodeFailed | .expired | .fatal _ => false

/-- The loop waits before it goes on. -/
def backsOff : Outcome → Bool
  | .nodeBusy | .pending | .nodeFailed => true
  | .accepted | .expired | .fatal _ => false

end Outcome

/-- What a run of the loop depends on: its settings, what replies mean to it, the candidates, and
where and until when it runs. -/
structure Run where
  config : ExecutionConfig
  verdict : Reply → Option Outcome
  nodes : List AccountId
  deadline : Option Instant
  origin : World

namespace Run

variable (run : Run)

/-- Whether this moment is not behind the deadline. -/
def inTime (moment : Instant) : Prop :=
  ∀ limit, run.deadline = some limit → moment ≤ limit

/-- The network after these turns. -/
def network (made : List Turn) : Network :=
  run.origin.network.replay (run.config.judge run.verdict) (made.map Turn.toExchange)

/-- How often the loop has backed off. -/
def backoffs (made : List Turn) : Nat :=
  made.countP fun turn => (run.verdict turn.reply).any Outcome.backsOff

/-- When the loop goes on after these turns: when the last call is over, or one backoff later. -/
def resumes (made : List Turn) : Instant :=
  match made.getLast? with
  | none => run.origin.now
  | some last =>
      if (run.verdict last.reply).any Outcome.backsOff then
        (run.config.overAt last.toExchange).wakeAfter
          (run.config.backoff (run.backoffs made.dropLast))
      else run.config.overAt last.toExchange

/-- The place from which the rotation goes on. -/
def next (made : List Turn) : Nat :=
  match made.getLast? with
  | none => 0
  | some last => (last.place + 1) % run.nodes.length

/-- The node that is to be asked again. -/
def kept (made : List Turn) : Option AccountId :=
  match made.getLast? with
  | none => none
  | some last => if (run.verdict last.reply).any Outcome.asksAgain then some last.call.node else none

/-- A turn at a node that the rotation picked when the loop went on. The call is made when the node
has been left alone for long enough, and then the node is healthy, if the clock can tell when that
is. -/
structure Rotates (made : List Turn) (turn : Turn) : Prop where
  picked : Rotation.Picks run.nodes
    (fun account => (run.network made).remaining account (run.resumes made)) (run.next made)
    turn.place turn.call.node
  sent : turn.call.time =
    (run.resumes made).wakeAfter
      ((run.network made).remaining turn.call.node (run.resumes made))
  ready : (run.network made).Recovers turn.call.node →
    (run.network made).remaining turn.call.node turn.call.time = Duration.zero

/-- How a turn follows those before it. -/
inductive Follows (made : List Turn) (turn : Turn) : Prop
  | first (none : made = []) (rotates : run.Rotates made turn)
  | again {last : Turn} (found : made.getLast? = some last)
      (asked : run.verdict last.reply = some .nodeBusy ∨ run.verdict last.reply = some .pending)
      (node : turn.call.node = last.call.node) (place : turn.place = last.place)
      (sent : turn.call.time = run.resumes made)
  | onward {last : Turn} (found : made.getLast? = some last)
      (moved : run.verdict last.reply = some .nodeFailed ∨ run.verdict last.reply = some .expired)
      (rotates : run.Rotates made turn)
      (another : run.nodes.Nodup → ∀ other ∈ run.nodes, other ≠ last.call.node →
        (run.network made).remaining other (run.resumes made) = Duration.zero →
          turn.call.node ≠ last.call.node)

/-- Each of these turns follows those before it. -/
def Turns (made : List Turn) : Prop :=
  ∀ earlier turn later, made = earlier ++ turn :: later → run.Follows earlier turn

variable {run} {made : List Turn} {turn : Turn}

theorem network_concat : run.network (made ++ [turn]) =
    (run.network made).updateHealth turn.call.node
      (run.config.judge run.verdict turn.toExchange) := by
  simp only [network, List.map_append, List.map_cons, List.map_nil, Network.replay_concat]

@[simp] theorem backoffs_concat : run.backoffs (made ++ [turn]) =
    run.backoffs made + if (run.verdict turn.reply).any Outcome.backsOff then 1 else 0 := by
  simp [backoffs, List.countP_singleton]

@[simp] theorem resumes_concat : run.resumes (made ++ [turn]) =
    if (run.verdict turn.reply).any Outcome.backsOff then
      (run.config.overAt turn.toExchange).wakeAfter (run.config.backoff (run.backoffs made))
    else run.config.overAt turn.toExchange := by
  simp [resumes]

@[simp] theorem next_concat :
    run.next (made ++ [turn]) = (turn.place + 1) % run.nodes.length := by
  simp [next]

@[simp] theorem kept_concat : run.kept (made ++ [turn]) =
    if (run.verdict turn.reply).any Outcome.asksAgain then some turn.call.node else none := by
  simp [kept]

theorem Turns.nil : run.Turns [] := by
  intro earlier turn later split
  simp at split

theorem Turns.concat (turns : run.Turns made) (follows : run.Follows made turn) :
    run.Turns (made ++ [turn]) := by
  intro earlier other later split
  rcases List.eq_nil_or_concat later with rfl | ⟨others, final, rfl⟩
  · obtain ⟨rfl, same⟩ := List.append_inj' split rfl
    cases same
    exact follows
  · have regrouped : made ++ [turn] = (earlier ++ other :: others) ++ [final] := by
      rw [split]
      simp
    obtain ⟨before, -⟩ := List.append_inj' regrouped rfl
    exact turns earlier other others before

theorem Turns.before (turns : run.Turns (made ++ [turn])) : run.Turns made := by
  intro earlier other later split
  exact turns earlier other (later ++ [turn]) (by simp [split])

/-- How a turn follows those before does not depend on what becomes of its call. -/
theorem Follows.cut (follows : run.Follows made turn) : run.Follows made turn.cut := by
  cases follows with
  | first none rotates => exact .first none ⟨rotates.picked, rotates.sent, rotates.ready⟩
  | again found asked node place sent => exact .again found asked node place sent
  | onward found moved rotates another =>
      exact .onward found moved ⟨rotates.picked, rotates.sent, rotates.ready⟩ another

theorem Turns.cut (turns : run.Turns (made ++ [turn])) : run.Turns (made ++ [turn.cut]) :=
  turns.before.concat (turns made turn [] rfl).cut

/-- The node of every turn is the candidate at its place. -/
theorem Turns.candidate (turns : run.Turns made) :
    ∀ turn ∈ made, run.nodes[turn.place]? = some turn.call.node := by
  induction made using List.reverseRecOn with
  | nil => simp
  | append_singleton made last ih =>
      have known := ih turns.before
      intro turn member
      rcases List.mem_append.mp member with early | here
      · exact known turn early
      · obtain rfl := List.mem_singleton.mp here
        cases turns made turn [] rfl with
        | first _ rotates => exact rotates.picked.candidate
        | again found _ node place _ =>
            rw [node, place]
            exact known _ (List.mem_of_getLast? found)
        | onward _ _ rotates _ => exact rotates.picked.candidate

end Run

end LedgerClient
