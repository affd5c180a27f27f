import LedgerClient.Proofs.Execution.Course
import LedgerClient.Proofs.Execution.Exchange

/-!
The course of a request in time. Between two pauses everything happens at one instant, and a pause
ends no earlier than it begins. So the instants of a course only grow, and each of its calls is made
between the end of one pause and the beginning of the next, which lasts until the call is over.
-/

namespace LedgerClient

namespace World

variable {before middle after : World} {first second made : List Exchange}

/-- These exchanges lead from one world to the other, and no time passes. -/
structure AtOnce (before : World) (made : List Exchange) (after : World) : Prop where
  exchanged : before.Exchanged made after
  now : after.now = before.now
  times : ∀ exchange ∈ made, exchange.call.time = before.now

theorem AtOnce.quiet (exchanged : before.Exchanged [] after) (now : after.now = before.now) :
    before.AtOnce [] after :=
  ⟨exchanged, now, fun _ member => absurd member List.not_mem_nil⟩

theorem AtOnce.refl (world : World) : world.AtOnce [] world :=
  .quiet (.refl world) rfl

theorem AtOnce.trans (left : before.AtOnce first middle) (right : middle.AtOnce second after) :
    before.AtOnce (first ++ second) after where
  exchanged := left.exchanged.trans right.exchanged
  now := right.now.trans left.now
  times := by
    intro exchange member
    rcases List.mem_append.mp member with early | late
    · exact left.times exchange early
    · exact (right.times exchange late).trans left.now

/-- Nothing is exchanged while time passes. -/
theorem exchanged_wait (world : World) (moment : Instant) :
    world.Exchanged [] { world with now := moment } :=
  .quiet rfl rfl rfl rfl

theorem atOnce_call (world : World) (node : AccountId) (method : Method) (request : Bytes)
    (patience : Duration) :
    world.AtOnce
      [{ call := { time := world.now, node, method, request }
         reply := (world.call node method request patience).1
         patience := some patience }]
      (world.call node method request patience).2 where
  exchanged := exchanged_call world node method request patience
  now := call_now world node method request patience
  times := by simp

/-- The last of these calls is over at this moment. -/
def LastUntil (made : List Exchange) (moment : Instant) : Prop :=
  ∃ earlier last, made = earlier ++ [last] ∧ last.overAt? = some moment

theorem LastUntil.prepend {moment : Instant} (first : List Exchange)
    (lasts : LastUntil second moment) : LastUntil (first ++ second) moment := by
  obtain ⟨earlier, last, rfl, ends⟩ := lasts
  exact ⟨first ++ earlier, last, (List.append_assoc ..).symm, ends⟩

end World

theorem Instant.le_wakeAfter (now : Instant) (duration : Duration) :
    now ≤ now.wakeAfter duration :=
  Instant.le_wakeFrom now _

/-- A fresh id is there at once. -/
def Request.RenewsAtOnce {σ ρ α : Type} (request : Request σ ρ α) : Prop :=
  ∀ (state : σ) (world : World), world.AtOnce [] (request.regenerate state world).2

namespace Course

variable {σ ρ α β γ : Type} {worldOf : β → World} {worldAfter : γ → World}

/-- The course leads from a world through its pauses, each of which begins at the instant to which
the one before has led. A pause in which a reply is waited for follows the call, and is over when
the call is. What is reached in the end is told by `worldOf`. -/
inductive Timely (worldOf : β → World) : World → Course σ α β → Prop
  | next {world : World} {made : List Exchange} {value : β}
      (atOnce : world.AtOnce made (worldOf value)) : Timely worldOf world (next value)
  | ended {world : World} {made : List Exchange} {finished : Finished σ α}
      (atOnce : world.AtOnce made finished.world) : Timely worldOf world (ended finished)
  | pause {world : World} {made : List Exchange} {calling : Bool} {progress : Progress σ}
      {moment : Instant} {rest : Course σ α β} (atOnce : world.AtOnce made progress.world)
      (onward : progress.world.now ≤ moment)
      (awaits : calling = true → World.LastUntil made moment)
      (later : Timely worldOf { progress.world with now := moment } rest) :
      Timely worldOf world (pause calling progress moment rest)

theorem Timely.afterAtOnce {before middle : World} {made : List Exchange} {course : Course σ α β}
    (first : before.AtOnce made middle) (timely : Timely worldOf middle course) :
    Timely worldOf before course := by
  cases timely with
  | next atOnce => exact .next (first.trans atOnce)
  | ended atOnce => exact .ended (first.trans atOnce)
  | pause atOnce onward awaits later =>
      exact .pause (first.trans atOnce) onward (fun calling => (awaits calling).prepend _) later

theorem Timely.bind {world : World} {first : Course σ α β} {later : β → Course σ α γ}
    (timely : Timely worldOf world first)
    (onward : ∀ value, Timely worldAfter (worldOf value) (later value)) :
    Timely worldAfter world (first >>= later) := by
  change Timely worldAfter world (first.bind later)
  induction timely with
  | next atOnce => exact (onward _).afterAtOnce atOnce
  | ended atOnce => exact .ended atOnce
  | pause atOnce forward awaits _ ih => exact .pause atOnce forward awaits ih

theorem timely_wait (α : Type) (progress : Progress σ) {moment : Instant}
    (onward : progress.world.now ≤ moment) :
    Timely Progress.world progress.world (wait false progress moment : Course σ α (Progress σ)) :=
  .pause (.refl _) onward nofun (.next (.refl _))

theorem timely_await (α : Type) {world : World} {made : List Exchange} {progress : Progress σ}
    {moment : Instant} (called : world.AtOnce made progress.world)
    (onward : progress.world.now ≤ moment) (lasts : World.LastUntil made moment) :
    Timely Progress.world world (wait true progress moment : Course σ α (Progress σ)) :=
  .pause called onward (fun _ => lasts) (.next (.refl _))

/-! ## The loop -/

theorem timely_choose (α : Type) (progress : Progress σ) :
    Timely (fun chosen => chosen.2.world) progress.world
      (choose progress : Course σ α (AccountId × Progress σ)) := by
  unfold choose
  cases progress.pinned with
  | some node => exact .next (.refl _)
  | none =>
      dsimp only
      cases progress.rotation.select fun account =>
          progress.world.network.remaining account progress.world.now with
      | none => exact .ended (.refl _)
      | some selected =>
          have waited := timely_wait α { progress with rotation := selected.2, pinned := none }
            (Instant.le_wakeAfter progress.world.now
              (progress.world.network.remaining selected.1 progress.world.now))
          exact waited.bind fun _ => .next (.refl _)

section Config

variable (config : ExecutionConfig) (isLast : Bool) (progress : Progress σ) (node : AccountId)

theorem timely_backOff (α : Type) :
    Timely Progress.world progress.world
      (backOff config isLast progress : Course σ α (Progress σ)) := by
  unfold backOff
  cases isLast with
  | true => exact .next (.refl _)
  | false =>
      apply timely_wait α { progress with retries := progress.retries + 1 }
      exact Instant.le_wakeAfter _ _

theorem timely_moveOn (α : Type) :
    Timely Progress.world progress.world
      (moveOn config isLast progress node : Course σ α (Progress σ)) := by
  have blamed := timely_backOff config isLast
    { progress with world := progress.world.recordFailure node } α
  apply blamed.afterAtOnce
  exact .quiet (World.exchanged_recordFailure progress.world node) rfl

theorem timely_askAgain (α : Type) :
    Timely Progress.world progress.world
      (askAgain config isLast progress node : Course σ α (Progress σ)) :=
  (timely_backOff config isLast progress α).bind fun _ => .next (.refl _)

variable {request : Request σ ρ α}

theorem timely_settle (renews : request.RenewsAtOnce) (response : ρ) :
    Timely Progress.world progress.world
      (settle request config isLast progress node response) := by
  unfold settle
  dsimp only
  cases request.outcome response (config.regenerates && request.mayRegenerate progress.state) with
  | accepted => exact .ended (.quiet (World.exchanged_recordSuccess progress.world node) rfl)
  | fatal status => exact .ended (.refl _)
  | nodeBusy =>
      have asked := timely_askAgain config isLast
        { progress with world := progress.world.recordFailure node } node α
      apply asked.afterAtOnce
      exact .quiet (World.exchanged_recordFailure progress.world node) rfl
  | pending => exact timely_askAgain config isLast progress node α
  | nodeFailed => exact timely_moveOn config isLast progress node α
  | expired =>
      have renewed := renews progress.state progress.world
      revert renewed
      dsimp only
      obtain ⟨outcome, world⟩ := request.regenerate progress.state progress.world
      intro renewed
      cases outcome with
      | error error => exact .ended renewed
      | ok state => exact .next renewed

theorem timely_receive (renews : request.RenewsAtOnce) (reply : Reply) :
    Timely Progress.world progress.world (receive request config isLast progress node reply) := by
  unfold receive
  cases reply with
  | answered bytes delay =>
      dsimp only
      cases request.decode bytes with
      | error cause => exact .ended (.refl _)
      | ok response =>
          exact timely_settle config isLast
            { progress with last := some (request.status response) } node renews response
  | failed cause delay =>
      dsimp only
      cases cause.isTransient with
      | true => exact timely_moveOn config isLast progress node α
      | false => exact .ended (.refl _)
  | silent => exact timely_moveOn config isLast progress node α

theorem timely_attempt (renews : request.RenewsAtOnce) :
    Timely Progress.world progress.world (attempt request config isLast progress) := by
  unfold attempt
  refine (timely_choose α progress).bind fun ⟨node, chosen⟩ => ?_
  dsimp only
  cases request.encode (request.prepare chosen.state node) node with
  | error error => exact .ended (.refl _)
  | ok bytes =>
      have called := World.atOnce_call chosen.world node request.method bytes config.attemptTimeout
      refine Timely.bind (timely_await α called ?_ ⟨[], _, rfl, rfl⟩) fun after =>
        timely_receive config isLast after node renews _
      dsimp only
      rw [World.call_now]
      exact Reply.le_overAt _ _ _

theorem timely_attempts (renews : request.RenewsAtOnce) (left : Nat) :
    Timely Empty.elim progress.world (attempts request config left progress) := by
  induction left generalizing progress with
  | zero => exact .ended (.refl _)
  | succ left ih => exact (timely_attempt config (left = 0) progress renews).bind ih

end Config

end Course

theorem Request.timely_course {σ ρ α : Type} {request : Request σ ρ α}
    (renews : request.RenewsAtOnce) (config : ExecutionConfig) (state : σ) (world : World) :
    (request.course config state world).Timely Empty.elim world := by
  have listed : world.AtOnce [] (world.candidates (request.nodes state)).2 :=
    .quiet (World.exchanged_candidates world _) rfl
  unfold course
  revert listed
  obtain ⟨found, after⟩ := world.candidates (request.nodes state)
  intro listed
  cases found with
  | error cause => exact .ended listed
  | ok nodes =>
      have tried := Course.timely_attempts config
        { state, world := after, rotation := Rotation.ofNodes nodes, pinned := none, last := none
          retries := 0 } renews config.maxAttempts
      exact tried.afterAtOnce listed

end LedgerClient
