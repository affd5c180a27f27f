import LedgerClient.Execution.Loop

/-!
The course of a request, in which its waits are laid open. Nothing in the loop looks at the deadline
but its waits. So what a request does between them can be told without a deadline, and the loop under
any deadline is this course, cut off in the first pause that lasts too long.
-/

namespace LedgerClient

/-- A course leads to a value, or the request is over on the way; in between it pauses, having come
as far as `progress`, until some moment. In some pauses a reply is waited for. -/
inductive Course (σ α β : Type) where
  | next (value : β)
  | ended (finished : Finished σ α)
  | pause (calling : Bool) (progress : Progress σ) (moment : Instant) (rest : Course σ α β)

namespace Course

variable {σ ρ α β γ : Type}

def bind (first : Course σ α β) (later : β → Course σ α γ) : Course σ α γ :=
  match first with
  | next value => later value
  | ended finished => ended finished
  | pause calling progress moment rest => pause calling progress moment (rest.bind later)

instance : Monad (Course σ α) where
  pure := next
  bind := bind

/-- Time passes until `moment`. -/
def wait (calling : Bool) (progress : Progress σ) (moment : Instant) :
    Course σ α (Progress σ) :=
  pause calling progress moment
    (next { progress with world := { progress.world with now := moment } })

/-- What the course comes to if the request is given up at the deadline. -/
def under (request : Request σ ρ α) (deadline : Option Instant) :
    Course σ α β → Except (Finished σ α) β
  | next value => .ok value
  | ended finished => .error finished
  | pause calling progress moment rest => do
      let _ ← request.waitUntil deadline calling progress moment
      rest.under request deadline

variable {request : Request σ ρ α} {deadline : Option Instant}

theorem under_bind (first : Course σ α β) (later : β → Course σ α γ) :
    (first >>= later).under request deadline =
      first.under request deadline >>= fun value => (later value).under request deadline := by
  change (first.bind later).under request deadline = _
  induction first with
  | next value => rfl
  | ended finished => rfl
  | pause calling progress moment rest ih =>
      simp only [Course.bind, under, ih]
      cases request.waitUntil deadline calling progress moment <;> rfl

theorem under_wait (calling : Bool) (progress : Progress σ) (moment : Instant) :
    (wait calling progress moment).under request deadline =
      request.waitUntil deadline calling progress moment := by
  unfold Request.waitUntil
  cases deadline with
  | none => rfl
  | some limit =>
      simp only [wait, under, Request.waitUntil]
      by_cases early : limit < moment
      · simp only [if_pos early]
        rfl
      · simp only [if_neg early]
        rfl

/-! ## The loop -/

def choose (progress : Progress σ) : Course σ α (AccountId × Progress σ) :=
  match progress.pinned with
  | some node => next (node, { progress with pinned := none })
  | none =>
      let network := progress.world.network
      let now := progress.world.now
      match progress.rotation.select fun account => network.remaining account now with
      | none => ended (Request.finish progress (.error (.configuration .noNodes)))
      | some (node, rotation) => do
          let progress ← wait false { progress with rotation }
            (now.wakeAfter (network.remaining node now))
          return (node, progress)

def backOff (config : ExecutionConfig) (isLast : Bool) (progress : Progress σ) :
    Course σ α (Progress σ) :=
  let delay := config.backoff progress.retries
  let progress := { progress with retries := progress.retries + 1 }
  if isLast then next progress
  else wait false progress (progress.world.now.wakeAfter delay)

def moveOn (config : ExecutionConfig) (isLast : Bool) (progress : Progress σ) (node : AccountId) :
    Course σ α (Progress σ) :=
  backOff config isLast { progress with world := progress.world.recordFailure node }

def askAgain (config : ExecutionConfig) (isLast : Bool) (progress : Progress σ)
    (node : AccountId) : Course σ α (Progress σ) := do
  let progress ← backOff config isLast progress
  return { progress with pinned := some node }

def settle (request : Request σ ρ α) (config : ExecutionConfig) (isLast : Bool)
    (progress : Progress σ) (node : AccountId) (response : ρ) : Course σ α (Progress σ) :=
  let mayRegenerate := config.regenerates && request.mayRegenerate progress.state
  match request.outcome response mayRegenerate with
  | .accepted =>
      ended (Request.finish { progress with world := progress.world.recordSuccess node }
        (request.output progress.state response node))
  | .fatal status =>
      ended (Request.finish progress
        (.error (.precheckRejected status (request.id progress.state) node)))
  | .nodeBusy =>
      askAgain config isLast { progress with world := progress.world.recordFailure node } node
  | .pending => askAgain config isLast progress node
  | .nodeFailed => moveOn config isLast progress node
  | .expired =>
      match request.regenerate progress.state progress.world with
      | (.error error, world) => ended (Request.finish { progress with world } (.error error))
      | (.ok state, world) => next { progress with state, world }

def receive (request : Request σ ρ α) (config : ExecutionConfig) (isLast : Bool)
    (progress : Progress σ) (node : AccountId) (reply : Reply) : Course σ α (Progress σ) :=
  match reply with
  | .answered bytes _ =>
      match request.decode bytes with
      | .error cause =>
          ended (Request.finish progress
            (.error (.invalidResponse cause (request.id progress.state) node)))
      | .ok response =>
          settle request config isLast
            { progress with last := some (request.status response) } node response
  | .failed cause _ =>
      if cause.isTransient then moveOn config isLast progress node
      else
        ended (Request.finish progress
          (.error (.requestFailed cause (request.id progress.state) node)))
  | .silent => moveOn config isLast progress node

def attempt (request : Request σ ρ α) (config : ExecutionConfig) (isLast : Bool)
    (progress : Progress σ) : Course σ α (Progress σ) := do
  let (node, progress) ← choose progress
  let state := request.prepare progress.state node
  match request.encode state node with
  | .error error => ended (Request.finish progress (.error error))
  | .ok bytes => do
      let sent := progress.world.now
      let (reply, world) := progress.world.call node request.method bytes config.attemptTimeout
      let progress ← wait true { progress with state, world }
        (reply.overAt sent config.attemptTimeout)
      receive request config isLast progress node reply

/-- All tries come to an end, so this course leads to no value. -/
def attempts (request : Request σ ρ α) (config : ExecutionConfig) :
    Nat → Progress σ → Course σ α Empty
  | 0, progress =>
      ended (Request.finish progress
        (.error (.timeout config.maxAttempts progress.last (request.id progress.state))))
  | left + 1, progress => do
      let progress ← attempt request config (left = 0) progress
      attempts request config left progress

end Course

namespace Request

variable {σ ρ α : Type} (request : Request σ ρ α) (config : ExecutionConfig)

/-- The whole course of a request, whatever its deadline. -/
def course (state : σ) (world : World) : Course σ α Empty :=
  match world.candidates (request.nodes state) with
  | (.error cause, world) => .ended { result := .error (.configuration cause), state, world }
  | (.ok nodes, world) =>
      Course.attempts request config config.maxAttempts
        { state, world, rotation := Rotation.ofNodes nodes, pinned := none, last := none
          retries := 0 }

end Request

/-! ## The loop under a deadline -/

namespace Course

variable {σ ρ α : Type} (request : Request σ ρ α) (config : ExecutionConfig)
  (deadline : Option Instant)

theorem under_choose (progress : Progress σ) :
    (choose progress).under request deadline = request.choose deadline progress := by
  unfold choose Request.choose
  cases progress.pinned with
  | some node => rfl
  | none =>
      dsimp only
      cases progress.rotation.select fun account =>
          progress.world.network.remaining account progress.world.now with
      | none => rfl
      | some selected =>
          dsimp only
          rw [under_bind, under_wait]
          rfl

theorem under_backOff (isLast : Bool) (progress : Progress σ) :
    (backOff config isLast progress).under request deadline =
      request.backOff config deadline isLast progress := by
  unfold backOff Request.backOff
  cases isLast with
  | true => rfl
  | false => exact under_wait _ _ _

theorem under_moveOn (isLast : Bool) (progress : Progress σ) (node : AccountId) :
    (moveOn config isLast progress node).under request deadline =
      request.moveOn config deadline isLast progress node :=
  under_backOff request config deadline isLast _

theorem under_askAgain (isLast : Bool) (progress : Progress σ) (node : AccountId) :
    (askAgain config isLast progress node).under request deadline =
      request.askAgain config deadline isLast progress node := by
  unfold askAgain Request.askAgain
  rw [under_bind, under_backOff]
  rfl

theorem under_settle (isLast : Bool) (progress : Progress σ) (node : AccountId) (response : ρ) :
    (settle request config isLast progress node response).under request deadline =
      request.settle config deadline isLast progress node response := by
  unfold settle Request.settle
  dsimp only
  cases request.outcome response (config.regenerates && request.mayRegenerate progress.state) with
  | accepted => rfl
  | fatal status => rfl
  | nodeBusy => exact under_askAgain request config deadline isLast _ node
  | pending => exact under_askAgain request config deadline isLast progress node
  | nodeFailed => exact under_moveOn request config deadline isLast progress node
  | expired =>
      obtain ⟨outcome, world⟩ := request.regenerate progress.state progress.world
      cases outcome <;> rfl

theorem under_receive (isLast : Bool) (progress : Progress σ) (node : AccountId) (reply : Reply) :
    (receive request config isLast progress node reply).under request deadline =
      request.receive config deadline isLast progress node reply := by
  unfold receive Request.receive
  cases reply with
  | answered bytes delay =>
      dsimp only
      cases request.decode bytes with
      | error cause => rfl
      | ok response => exact under_settle request config deadline isLast _ node response
  | failed cause delay =>
      dsimp only
      cases cause.isTransient with
      | true => exact under_moveOn request config deadline isLast progress node
      | false => rfl
  | silent => exact under_moveOn request config deadline isLast progress node

theorem under_attempt (isLast : Bool) (progress : Progress σ) :
    (attempt request config isLast progress).under request deadline =
      request.attempt config deadline isLast progress := by
  unfold attempt Request.attempt
  rw [under_bind, under_choose]
  congr 1
  funext ⟨node, chosen⟩
  dsimp only
  cases request.encode (request.prepare chosen.state node) node with
  | error error => rfl
  | ok bytes =>
      dsimp only
      rw [under_bind, under_wait]
      simp only [under_receive]

theorem under_attempts (left : Nat) (progress : Progress σ) :
    (attempts request config left progress).under request deadline =
      .error (request.attempts config deadline left progress) := by
  induction left generalizing progress with
  | zero => rfl
  | succ left ih =>
      unfold attempts Request.attempts
      rw [under_bind, under_attempt]
      cases request.attempt config deadline (left = 0) progress with
      | error finished => rfl
      | ok after => exact ih after

end Course

namespace Request

variable {σ ρ α : Type} (request : Request σ ρ α) (config : ExecutionConfig)

/-- The loop is the course of the request under the deadline that is set for it. -/
theorem under_course (state : σ) (world : World) :
    (request.course config state world).under request
        (config.requestTimeout.map world.now.wakeAfter) =
      .error (request.execute config state world) := by
  unfold course execute
  dsimp only
  obtain ⟨found, after⟩ := world.candidates (request.nodes state)
  cases found with
  | error cause => rfl
  | ok nodes => exact Course.under_attempts request config _ config.maxAttempts _

/-- The settings without a deadline. -/
def unlimited (config : ExecutionConfig) : ExecutionConfig :=
  { config with requestTimeout := none }

theorem attempts_unlimited (left : Nat) (progress : Progress σ) :
    Course.attempts request (unlimited config) left progress =
      Course.attempts request config left progress := by
  induction left generalizing progress with
  | zero => rfl
  | succ left ih =>
      unfold Course.attempts
      exact congrArg (Course.bind (Course.attempt request config (left = 0) progress)) (funext ih)

theorem course_unlimited (state : σ) (world : World) :
    request.course (unlimited config) state world = request.course config state world := by
  unfold course
  obtain ⟨found, after⟩ := world.candidates (request.nodes state)
  cases found with
  | error cause => rfl
  | ok nodes => exact attempts_unlimited request config config.maxAttempts _

end Request

end LedgerClient
