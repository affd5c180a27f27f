import LedgerClient.Execution.Config
import LedgerClient.Execution.World

/-!
The loop that drives every request: pick a node, send, wait for the reply and look at it, and try
again as long as that can help. Time passes only in waits, and a deadline strikes in the first wait
that would pass it; the request is then given up in the middle of what it was doing, also while it
waits for a reply.
-/

namespace LedgerClient

/-- A request as the loop sees it. `σ` is what the request remembers between tries, `ρ` what a node
replies and `α` what comes out in the end. What is made for a node when it is first tried is
remembered by `prepare`; most requests have all they need from the start. -/
structure Request (σ ρ α : Type) where
  method : Method
  nodes : σ → Option (List AccountId)
  id : σ → Option TransactionId
  prepare : σ → AccountId → σ := fun state _ => state
  encode : σ → AccountId → Except Error Bytes
  decode : Bytes → Except DecodeError ρ
  status : ρ → Status
  outcome : ρ → (mayRegenerate : Bool) → Outcome
  mayRegenerate : σ → Bool
  regenerate : σ → World → Except Error σ × World
  output : σ → ρ → AccountId → Except Error α

/-- A request in the middle of its tries. `last` is the status of the last reply that had one, and
`retries` counts the backoffs so far. -/
structure Progress (σ : Type) where
  state : σ
  world : World
  rotation : Rotation
  pinned : Option AccountId
  last : Option Status
  retries : Nat

structure Finished (σ α : Type) where
  result : Except Error α
  state : σ
  world : World

namespace Request

variable {σ ρ α : Type} (request : Request σ ρ α) (config : ExecutionConfig)
  (deadline : Option Instant)

def finish (progress : Progress σ) (result : Except Error α) : Finished σ α :=
  { result, state := progress.state, world := progress.world }

/-- Lets time pass until `moment`, or until the deadline if that is earlier. If this is done for the
sake of a reply, the client is `calling`. -/
def waitUntil (calling : Bool) (progress : Progress σ) (moment : Instant) :
    Except (Finished σ α) (Progress σ) :=
  match deadline with
  | some limit =>
      if limit < moment then
        .error (finish { progress with world := progress.world.breakOff calling limit }
          (.error (.deadlineExceeded (request.id progress.state))))
      else .ok { progress with world := { progress.world with now := moment } }
  | none => .ok { progress with world := { progress.world with now := moment } }

/-- The node for the next try: the one that is kept, or the next of the rotation once it may be
asked again. -/
def choose (progress : Progress σ) : Except (Finished σ α) (AccountId × Progress σ) :=
  match progress.pinned with
  | some node => .ok (node, { progress with pinned := none })
  | none =>
      let network := progress.world.network
      let now := progress.world.now
      match progress.rotation.select fun account => network.remaining account now with
      | none => .error (finish progress (.error (.configuration .noNodes)))
      | some (node, rotation) => do
          let progress ← waitUntil request deadline false { progress with rotation }
            (now.wakeAfter (network.remaining node now))
          return (node, progress)

/-- Waits before another try, if there is one. -/
def backOff (isLast : Bool) (progress : Progress σ) : Except (Finished σ α) (Progress σ) :=
  let delay := config.backoff progress.retries
  let progress := { progress with retries := progress.retries + 1 }
  if isLast then .ok progress
  else waitUntil request deadline false progress (progress.world.now.wakeAfter delay)

/-- The node is blamed and the rotation goes on. -/
def moveOn (isLast : Bool) (progress : Progress σ) (node : AccountId) :
    Except (Finished σ α) (Progress σ) :=
  backOff request config deadline isLast
    { progress with world := progress.world.recordFailure node }

def askAgain (isLast : Bool) (progress : Progress σ) (node : AccountId) :
    Except (Finished σ α) (Progress σ) := do
  let progress ← backOff request config deadline isLast progress
  return { progress with pinned := some node }

def settle (isLast : Bool) (progress : Progress σ) (node : AccountId) (response : ρ) :
    Except (Finished σ α) (Progress σ) :=
  let mayRegenerate := config.regenerates && request.mayRegenerate progress.state
  match request.outcome response mayRegenerate with
  | .accepted =>
      .error (finish { progress with world := progress.world.recordSuccess node }
        (request.output progress.state response node))
  | .fatal status =>
      .error (finish progress (.error (.precheckRejected status (request.id progress.state) node)))
  | .nodeBusy =>
      askAgain request config deadline isLast
        { progress with world := progress.world.recordFailure node } node
  | .pending => askAgain request config deadline isLast progress node
  | .nodeFailed => moveOn request config deadline isLast progress node
  | .expired =>
      match request.regenerate progress.state progress.world with
      | (.error error, world) => .error (finish { progress with world } (.error error))
      | (.ok state, world) => .ok { progress with state, world }

def receive (isLast : Bool) (progress : Progress σ) (node : AccountId) (reply : Reply) :
    Except (Finished σ α) (Progress σ) :=
  match reply with
  | .answered bytes _ =>
      match request.decode bytes with
      | .error cause =>
          .error (finish progress
            (.error (.invalidResponse cause (request.id progress.state) node)))
      | .ok response =>
          settle request config deadline isLast
            { progress with last := some (request.status response) } node response
  | .failed cause _ =>
      if cause.isTransient then moveOn request config deadline isLast progress node
      else
        .error (finish progress
          (.error (.requestFailed cause (request.id progress.state) node)))
  | .silent => moveOn request config deadline isLast progress node

/-- One try. It ends the request or leaves it ready for the next try. -/
def attempt (isLast : Bool) (progress : Progress σ) : Except (Finished σ α) (Progress σ) := do
  let (node, progress) ← choose request deadline progress
  let state := request.prepare progress.state node
  match request.encode state node with
  | .error error => .error (finish progress (.error error))
  | .ok bytes => do
      let sent := progress.world.now
      let (reply, world) := progress.world.call node request.method bytes config.attemptTimeout
      let progress ← waitUntil request deadline true { progress with state, world }
        (reply.overAt sent config.attemptTimeout)
      receive request config deadline isLast progress node reply

def attempts : Nat → Progress σ → Finished σ α
  | 0, progress =>
      finish progress
        (.error (.timeout config.maxAttempts progress.last (request.id progress.state)))
  | left + 1, progress =>
      match attempt request config deadline (left = 0) progress with
      | .error finished => finished
      | .ok progress => attempts left progress

def execute (state : σ) (world : World) : Finished σ α :=
  let deadline := config.requestTimeout.map world.now.wakeAfter
  match world.candidates (request.nodes state) with
  | (.error cause, world) => { result := .error (.configuration cause), state, world }
  | (.ok nodes, world) =>
      attempts request config deadline config.maxAttempts
        { state, world, rotation := Rotation.ofNodes nodes, pinned := none, last := none
          retries := 0 }

end Request

end LedgerClient
