import LedgerClient.Execution.Loop

/-!
What a request leaves alone. Between its calls the loop only lets time pass, blames nodes or clears
them, and replaces the request. A relation between worlds that each of these upholds also holds
between the world in which a request begins and the one in which it ends; so the ledger of the
network is the same all along.
-/

namespace LedgerClient

/-- Whatever the loop does to the world, the relation holds from before to after. -/
structure World.Upheld (R : World → World → Prop) : Prop where
  refl : ∀ world, R world world
  trans : ∀ {first second third}, R first second → R second third → R first third
  wait : ∀ (world : World) (moment : Instant), R world { world with now := moment }
  call : ∀ (world : World) (node : AccountId) (method : Method) (request : Bytes)
    (patience : Duration), R world (world.call node method request patience).2
  hangUp : ∀ world : World, R world world.hangUp
  failure : ∀ (world : World) (node : AccountId), R world (world.recordFailure node)
  success : ∀ (world : World) (node : AccountId), R world (world.recordSuccess node)
  candidates : ∀ (world : World) (chosen : Option (List AccountId)),
    R world (world.candidates chosen).2

namespace Request

variable {σ ρ α β γ : Type} {request : Request σ ρ α} {config : ExecutionConfig}
  {deadline : Option Instant} {R : World → World → Prop} {before middle : World}

/-- The relation holds up to the world that a part of the loop leads to, also if the request is over
then. -/
def LeadsTo (R : World → World → Prop) (before : World) (worldOf : β → World) :
    Except (Finished σ α) β → Prop
  | .ok value => R before (worldOf value)
  | .error finished => R before finished.world

theorem LeadsTo.after {worldOf : β → World} {outcome : Except (Finished σ α) β}
    (upheld : World.Upheld R) (first : R before middle)
    (leads : LeadsTo R middle worldOf outcome) : LeadsTo R before worldOf outcome := by
  cases outcome with
  | ok value => exact upheld.trans first leads
  | error finished => exact upheld.trans first leads

theorem LeadsTo.bind {worldOf : β → World} {worldAfter : γ → World}
    {outcome : Except (Finished σ α) β} {next : β → Except (Finished σ α) γ}
    (upheld : World.Upheld R) (leads : LeadsTo R before worldOf outcome)
    (onward : ∀ value, LeadsTo R (worldOf value) worldAfter (next value)) :
    LeadsTo R before worldAfter (outcome >>= next) := by
  cases outcome with
  | ok value => exact (onward value).after upheld leads
  | error finished => exact leads

theorem waitUntil_leadsTo (upheld : World.Upheld R) (calling : Bool) (progress : Progress σ)
    (moment : Instant) :
    LeadsTo R progress.world Progress.world
      (request.waitUntil deadline calling progress moment) := by
  unfold waitUntil
  split
  · split
    · cases calling with
      | true => exact upheld.trans (upheld.hangUp _) (upheld.wait _ _)
      | false => exact upheld.wait _ _
    · exact upheld.wait _ _
  · exact upheld.wait _ _

theorem choose_leadsTo (upheld : World.Upheld R) (progress : Progress σ) :
    LeadsTo R progress.world (fun chosen => chosen.2.world)
      (request.choose deadline progress) := by
  unfold choose
  split
  · exact upheld.refl _
  · dsimp only
    split
    · exact upheld.refl _
    · rename_i node rotation _
      have waits (moment : Instant) : LeadsTo R progress.world Progress.world
          (request.waitUntil deadline false { progress with rotation } moment) :=
        waitUntil_leadsTo upheld false { progress with rotation } moment
      exact (waits _).bind upheld fun after => upheld.refl after.world

theorem backOff_leadsTo (upheld : World.Upheld R) (isLast : Bool) (progress : Progress σ) :
    LeadsTo R progress.world Progress.world
      (request.backOff config deadline isLast progress) := by
  simp only [backOff]
  split
  · exact upheld.refl _
  · exact waitUntil_leadsTo upheld false { progress with retries := progress.retries + 1 } _

theorem moveOn_leadsTo (upheld : World.Upheld R) (isLast : Bool) (progress : Progress σ)
    (node : AccountId) :
    LeadsTo R progress.world Progress.world
      (request.moveOn config deadline isLast progress node) :=
  (backOff_leadsTo upheld isLast { progress with world := _ }).after upheld
    (upheld.failure progress.world node)

theorem askAgain_leadsTo (upheld : World.Upheld R) (isLast : Bool) (progress : Progress σ)
    (node : AccountId) :
    LeadsTo R progress.world Progress.world
      (request.askAgain config deadline isLast progress node) :=
  (backOff_leadsTo upheld isLast progress).bind upheld fun after => upheld.refl after.world

theorem settle_leadsTo (upheld : World.Upheld R)
    (renews : ∀ state world, R world (request.regenerate state world).2) (isLast : Bool)
    (progress : Progress σ) (node : AccountId) (response : ρ) :
    LeadsTo R progress.world Progress.world
      (request.settle config deadline isLast progress node response) := by
  unfold settle
  dsimp only
  cases request.outcome response (config.regenerates && request.mayRegenerate progress.state) with
  | accepted => exact upheld.success progress.world node
  | fatal status => exact upheld.refl _
  | nodeBusy =>
      exact (askAgain_leadsTo upheld isLast { progress with world := _ } node).after upheld
        (upheld.failure progress.world node)
  | pending => exact askAgain_leadsTo upheld isLast progress node
  | nodeFailed => exact moveOn_leadsTo upheld isLast progress node
  | expired =>
      have renewed := renews progress.state progress.world
      dsimp only
      generalize request.regenerate progress.state progress.world = regenerated at renewed
      obtain ⟨outcome, after⟩ := regenerated
      cases outcome <;> exact renewed

theorem receive_leadsTo (upheld : World.Upheld R)
    (renews : ∀ state world, R world (request.regenerate state world).2) (isLast : Bool)
    (progress : Progress σ) (node : AccountId) (reply : Reply) :
    LeadsTo R progress.world Progress.world
      (request.receive config deadline isLast progress node reply) := by
  unfold receive
  cases reply with
  | answered bytes delay =>
      dsimp only
      split
      · exact upheld.refl _
      · rename_i response _
        exact settle_leadsTo upheld renews isLast
          { progress with last := some (request.status response) } node response
  | failed cause delay =>
      dsimp only
      split
      · exact moveOn_leadsTo upheld isLast progress node
      · exact upheld.refl _
  | silent => exact moveOn_leadsTo upheld isLast progress node

theorem attempt_leadsTo (upheld : World.Upheld R)
    (renews : ∀ state world, R world (request.regenerate state world).2) (isLast : Bool)
    (progress : Progress σ) :
    LeadsTo R progress.world Progress.world
      (request.attempt config deadline isLast progress) := by
  refine (choose_leadsTo upheld progress).bind upheld ?_
  rintro ⟨node, chosen⟩
  dsimp only
  split
  · exact upheld.refl _
  · rename_i bytes _
    have called := upheld.call chosen.world node request.method bytes config.attemptTimeout
    have awaits (moment : Instant) : LeadsTo R chosen.world Progress.world
        (request.waitUntil deadline true
          { chosen with state := request.prepare chosen.state node, world := _ } moment) :=
      (waitUntil_leadsTo upheld true _ moment).after upheld called
    exact (awaits _).bind upheld fun after => receive_leadsTo upheld renews isLast after node _

theorem attempts_upheld (upheld : World.Upheld R)
    (renews : ∀ state world, R world (request.regenerate state world).2) (left : Nat)
    (progress : Progress σ) :
    R progress.world (request.attempts config deadline left progress).world := by
  induction left generalizing progress with
  | zero => exact upheld.refl _
  | succ left ih =>
      have leads : LeadsTo R progress.world Progress.world
          (request.attempt config deadline (left = 0) progress) :=
        attempt_leadsTo upheld renews _ progress
      unfold attempts
      generalize request.attempt config deadline (left = 0) progress = outcome at leads
      cases outcome with
      | error finished => exact leads
      | ok after => exact upheld.trans leads (ih after)

theorem execute_upheld (upheld : World.Upheld R)
    (renews : ∀ state world, R world (request.regenerate state world).2)
    (config : ExecutionConfig) (state : σ) (world : World) :
    R world (request.execute config state world).world := by
  have listed := upheld.candidates world (request.nodes state)
  unfold execute
  dsimp only
  generalize world.candidates (request.nodes state) = found at listed
  obtain ⟨outcome, after⟩ := found
  cases outcome with
  | error cause => exact listed
  | ok nodes =>
      exact upheld.trans listed (attempts_upheld upheld renews config.maxAttempts
        { state, world := after, rotation := Rotation.ofNodes nodes, pinned := none, last := none
          retries := 0 })

end Request

/-! ## The ledger -/

theorem Network.candidates_ledger (network : Network) (chosen : Option (List AccountId))
    (now : Instant) : (network.candidates chosen now).2.ledger = network.ledger := by
  unfold candidates
  split
  · rfl
  · rfl
  · dsimp only
    split <;> rfl

/-- The client is still on the same ledger. -/
def World.SameLedger (before after : World) : Prop :=
  after.network.ledger = before.network.ledger

theorem World.sameLedger_upheld : World.Upheld World.SameLedger where
  refl _ := rfl
  trans first second := second.trans first
  wait _ _ := rfl
  call world node method request patience := by
    unfold World.call
    dsimp only
    split <;> rfl
  hangUp _ := rfl
  failure _ _ := rfl
  success _ _ := rfl
  candidates world chosen := world.network.candidates_ledger chosen world.now

end LedgerClient
