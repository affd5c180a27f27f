import LedgerClient.Proofs.Execution.Tries
import LedgerClient.Proofs.Network.Selection

/-!
What the loop does, by its functions. A wait leaves the request as it is or ends it at the deadline,
a try sends one call or none, and the loop is a run of tries.
-/

namespace LedgerClient

/-- The candidates are still all there, and a node that is kept is one of them. -/
structure Progress.Ready {σ : Type} (progress : Progress σ) (nodes : List AccountId) : Prop where
  rotation : progress.rotation.nodes = nodes
  pinned : ∀ node, progress.pinned = some node → node ∈ nodes

namespace Request

variable {σ ρ α : Type} {request : Request σ ρ α} {config : ExecutionConfig}
  {deadline : Option Instant} {nodes : List AccountId}

/-- A wait from `before` on: it passes, or the deadline ends it. -/
inductive Waits (request : Request σ ρ α) (deadline : Option Instant) (nodes : List AccountId)
    (before : Progress σ) : Except (Finished σ α) (Progress σ) → Prop
  | passed {after : Progress σ} (quiet : before.world.Exchanged [] after.world)
      (state : after.state = before.state) (last : after.last = before.last)
      (ready : after.Ready nodes) : Waits request deadline nodes before (.ok after)
  | overdue {finished : Finished σ α} (limited : deadline.isSome = true)
      (quiet : before.world.Exchanged [] finished.world) (state : finished.state = before.state)
      (result : finished.result = .error (.deadlineExceeded (request.id before.state))) :
      Waits request deadline nodes before (.error finished)

theorem waitUntil_waits {progress : Progress σ} (ready : progress.Ready nodes) (moment : Instant) :
    request.Waits deadline nodes progress (request.waitUntil deadline false progress moment) := by
  unfold waitUntil
  cases deadline with
  | none => exact .passed (.quiet rfl rfl rfl rfl) rfl rfl ⟨ready.rotation, ready.pinned⟩
  | some limit =>
      by_cases early : limit < moment
      · simp only [early, ↓reduceIte]
        exact .overdue rfl (.quiet rfl rfl rfl rfl) rfl rfl
      · simp only [early, ↓reduceIte]
        exact .passed (.quiet rfl rfl rfl rfl) rfl rfl ⟨ready.rotation, ready.pinned⟩

theorem Waits.afterQuiet {before middle : Progress σ} {outcome : Except (Finished σ α) (Progress σ)}
    (waits : request.Waits deadline nodes middle outcome)
    (quiet : before.world.Exchanged [] middle.world) (state : middle.state = before.state)
    (last : middle.last = before.last) : request.Waits deadline nodes before outcome := by
  cases waits with
  | passed rest sameState sameLast ready =>
      exact .passed (quiet.afterQuiet rest) (sameState.trans state) (sameLast.trans last) ready
  | overdue limited rest sameState result =>
      exact .overdue limited (quiet.afterQuiet rest) (sameState.trans state) (state ▸ result)

theorem backOff_waits (config : ExecutionConfig) {progress : Progress σ}
    (ready : progress.Ready nodes) (isLast : Bool) :
    request.Waits deadline nodes progress (request.backOff config deadline isLast progress) := by
  simp only [backOff]
  have counted : ({ progress with retries := progress.retries + 1 } : Progress σ).Ready nodes :=
    ⟨ready.rotation, ready.pinned⟩
  split
  · exact .passed (.refl _) rfl rfl counted
  · exact (waitUntil_waits counted _).afterQuiet (.refl _) rfl rfl

theorem moveOn_waits (config : ExecutionConfig) {progress : Progress σ}
    (ready : progress.Ready nodes) (isLast : Bool) (node : AccountId) :
    request.Waits deadline nodes progress
      (request.moveOn config deadline isLast progress node) := by
  have blamed : ({ progress with world := progress.world.recordFailure node } :
      Progress σ).Ready nodes := ⟨ready.rotation, ready.pinned⟩
  exact (backOff_waits config blamed isLast).afterQuiet
    (World.exchanged_recordFailure progress.world node) rfl rfl

theorem askAgain_waits (config : ExecutionConfig) {progress : Progress σ}
    (ready : progress.Ready nodes) (isLast : Bool) {node : AccountId} (candidate : node ∈ nodes) :
    request.Waits deadline nodes progress
      (request.askAgain config deadline isLast progress node) := by
  have waits : request.Waits deadline nodes progress
      (request.backOff config deadline isLast progress) := backOff_waits config ready isLast
  unfold askAgain
  cases outcome : request.backOff config deadline isLast progress with
  | error finished =>
      rw [outcome] at waits
      cases waits with
      | overdue limited quiet state result => exact .overdue limited quiet state result
  | ok after =>
      rw [outcome] at waits
      cases waits with
      | passed quiet state last ready =>
          refine .passed quiet state last ⟨ready.rotation, ?_⟩
          intro kept found
          obtain rfl : node = kept := by simpa using found
          exact candidate

/-- Picking a node for the next try: one of the candidates, once it may be asked, unless the
deadline comes first. -/
inductive Chooses (request : Request σ ρ α) (deadline : Option Instant) (nodes : List AccountId)
    (before : Progress σ) : Except (Finished σ α) (AccountId × Progress σ) → Prop
  | chosen {node : AccountId} {after : Progress σ} (candidate : node ∈ nodes)
      (quiet : before.world.Exchanged [] after.world) (state : after.state = before.state)
      (last : after.last = before.last) (ready : after.Ready nodes) :
      Chooses request deadline nodes before (.ok (node, after))
  | overdue {finished : Finished σ α} (limited : deadline.isSome = true)
      (quiet : before.world.Exchanged [] finished.world) (state : finished.state = before.state)
      (result : finished.result = .error (.deadlineExceeded (request.id before.state))) :
      Chooses request deadline nodes before (.error finished)

theorem choose_chooses {progress : Progress σ} (ready : progress.Ready nodes)
    (nonempty : nodes ≠ []) :
    request.Chooses deadline nodes progress (request.choose deadline progress) := by
  unfold choose
  split
  · rename_i node pinned
    exact .chosen (ready.pinned node pinned) (.refl _) rfl rfl ⟨ready.rotation, by simp⟩
  · have candidates : progress.rotation.nodes ≠ [] := ready.rotation ▸ nonempty
    obtain ⟨node, rotation, selected, member, same⟩ := progress.rotation.select_mem
      (fun account => progress.world.network.remaining account progress.world.now) candidates
    have candidate : node ∈ nodes := ready.rotation ▸ member
    have rotated : ({ progress with rotation } : Progress σ).Ready nodes :=
      ⟨same.trans ready.rotation, ready.pinned⟩
    have waits : request.Waits deadline nodes { progress with rotation }
        (request.waitUntil deadline false { progress with rotation }
          (progress.world.now.wakeAfter
            (progress.world.network.remaining node progress.world.now))) :=
      waitUntil_waits rotated _
    simp only [selected]
    revert waits
    generalize request.waitUntil deadline false _ _ = outcome
    intro waits
    cases waits with
    | passed quiet state last ready =>
        exact .chosen candidate quiet state last ready
    | overdue limited quiet state result => exact .overdue limited quiet state result

/-- One try from `before` on: it ends the request with at most one more call, or it sends one call
and another try may follow. -/
inductive Attempts (request : Request σ ρ α) (config : ExecutionConfig) (deadline : Option Instant)
    (nodes : List AccountId) (before : Progress σ) : Except (Finished σ α) (Progress σ) → Prop
  | stopped {finished : Finished σ α} (made : List (Try σ)) (single : made.length ≤ 1)
      (candidates : ∀ attempt ∈ made, attempt.call.node ∈ nodes)
      (patient : deadline = none →
        ∀ attempt ∈ made, attempt.patience = some config.attemptTimeout)
      (exchanged : before.world.Exchanged (made.map Try.toExchange) finished.world)
      (tries : request.Tries config before.state made finished.state)
      (stops : request.Stops config deadline nodes made finished.state finished.result) :
      Attempts request config deadline nodes before (.error finished)
  | continued {after : Progress σ} {attempt : Try σ} (candidate : attempt.call.node ∈ nodes)
      (patient : attempt.patience = some config.attemptTimeout)
      (prepared : attempt.state = request.prepare before.state attempt.call.node)
      (exchanged : before.world.Exchanged [attempt.toExchange] after.world)
      (sends : request.Sends attempt) (leads : request.Leads config attempt after.state)
      (last : after.last = (request.statusOf attempt.reply).or before.last)
      (ready : after.Ready nodes) :
      Attempts request config deadline nodes before (.ok after)

/-- A call was made in this try, and its reply is still to be looked at. -/
structure Sent (request : Request σ ρ α) (config : ExecutionConfig) (nodes : List AccountId)
    (before : Progress σ) (attempt : Try σ) (sent : Progress σ) : Prop where
  prepared : attempt.state = request.prepare before.state attempt.call.node
  state : sent.state = attempt.state
  candidate : attempt.call.node ∈ nodes
  patient : attempt.patience = some config.attemptTimeout
  exchanged : before.world.Exchanged [attempt.toExchange] sent.world
  sends : request.Sends attempt
  ready : sent.Ready nodes

section Replies

variable {before sent : Progress σ} {attempt : Try σ} {isLast : Bool}

/-- The request is over once its reply is there, and no other call was made. -/
theorem Sent.stopped {finished : Finished σ α}
    (sends : request.Sent config nodes before attempt sent)
    (quiet : sent.world.Exchanged [] finished.world) (state : finished.state = sent.state)
    (stops : request.Stops config deadline nodes [attempt] finished.state finished.result) :
    request.Attempts config deadline nodes before (.error finished) := by
  have tries : request.Tries config before.state [attempt] finished.state := by
    rw [state, sends.state]
    exact .last sends.prepared sends.sends
  exact .stopped [attempt] (Nat.le_refl 1) (List.forall_mem_singleton.mpr sends.candidate)
    (fun _ => List.forall_mem_singleton.mpr sends.patient) (sends.exchanged.thenQuiet quiet) tries
    stops

theorem Sent.continued {after : Progress σ} (sends : request.Sent config nodes before attempt sent)
    (quiet : sent.world.Exchanged [] after.world)
    (leads : request.Leads config attempt after.state)
    (last : after.last = (request.statusOf attempt.reply).or before.last)
    (ready : after.Ready nodes) : request.Attempts config deadline nodes before (.ok after) :=
  .continued sends.candidate sends.patient sends.prepared (sends.exchanged.thenQuiet quiet)
    sends.sends leads last ready

theorem Sent.wait {outcome : Except (Finished σ α) (Progress σ)}
    (sends : request.Sent config nodes before attempt sent)
    (last : sent.last = (request.statusOf attempt.reply).or before.last)
    (retries : request.Retries (request.mayReplace config attempt.state) attempt.reply)
    (current : ¬ request.Expires (request.mayReplace config attempt.state) attempt.reply)
    (waits : request.Waits deadline nodes sent outcome) :
    request.Attempts config deadline nodes before outcome := by
  cases waits with
  | passed quiet state sameLast ready =>
      refine sends.continued quiet ?_ (sameLast.trans last) ready
      rw [state, sends.state]
      exact .kept retries current
  | @overdue finished limited quiet state result =>
      refine sends.stopped quiet state ?_
      rw [result, ← state]
      exact .overdue limited (.cons retries .nil)

/-- A call whose reply is waited for, unless the deadline comes before it. -/
theorem Sent.await (sends : request.Sent config nodes before attempt sent)
    (deadline : Option Instant) (moment : Instant) :
    (∃ after, request.waitUntil deadline true sent moment = .ok after ∧
      request.Sent config nodes before attempt after ∧ after.last = sent.last) ∨
    ∃ finished, request.waitUntil deadline true sent moment = .error finished ∧
      request.Attempts config deadline nodes before (.error finished) := by
  have waited : request.Sent config nodes before attempt
      { sent with world := { sent.world with now := moment } } :=
    { sends with
      exchanged := sends.exchanged.thenQuiet (.quiet rfl rfl rfl rfl)
      ready := ⟨sends.ready.rotation, sends.ready.pinned⟩ }
  unfold waitUntil
  cases deadline with
  | none => exact .inl ⟨_, rfl, waited, rfl⟩
  | some limit =>
      by_cases early : limit < moment
      · refine .inr ⟨_, if_pos early, .stopped [attempt.cut] (Nat.le_refl 1) ?_ nofun ?_ ?_ ?_⟩
        · exact List.forall_mem_singleton.mpr sends.candidate
        · have cut : before.world.Exchanged [attempt.toExchange.cut] sent.world.hangUp :=
            @World.Exchanged.hangUp _ _ [] _ sends.exchanged
          exact cut.thenQuiet (.quiet rfl rfl rfl rfl)
        · have tries : request.Tries config before.state [attempt.cut] attempt.cut.state :=
            .last sends.prepared sends.sends
          exact sends.state ▸ tries
        · exact .overdue rfl (.cons .silent .nil)
      · exact .inl ⟨_, if_neg early, waited, rfl⟩

theorem Sent.settle {finished : Finished σ α}
    (sends : request.Sent config nodes before attempt sent)
    (quiet : sent.world.Exchanged [] finished.world) (unchanged : finished.state = sent.state)
    (settles : request.Settles (request.mayReplace config attempt.state) finished.state
      attempt.call.node attempt.reply finished.result) :
    request.Attempts config deadline nodes before (.error finished) := by
  have same : attempt.state = finished.state := (unchanged.trans sends.state).symm
  exact sends.stopped quiet unchanged (.settled rfl same (same ▸ settles))

theorem settle_attempts (lawful : request.Lawful) {response : ρ} {bytes : Bytes} {delay : Duration}
    (sends : request.Sent config nodes before attempt sent)
    (last : sent.last = (request.statusOf attempt.reply).or before.last)
    (answered : attempt.reply = .answered bytes delay)
    (decoded : request.decode bytes = .ok response) :
    request.Attempts config deadline nodes before
      (request.settle config deadline isLast sent attempt.call.node response) := by
  have unexpired (outcome : request.outcome response (request.mayReplace config attempt.state) ≠
      .expired) : ¬ request.Expires (request.mayReplace config attempt.state) attempt.reply := by
    rintro ⟨other, _, value, same, otherDecoded, expired⟩
    rw [answered] at same
    cases same
    rw [decoded] at otherDecoded
    cases otherDecoded
    exact outcome expired
  have unchanged : attempt.state = sent.state := sends.state.symm
  have allowed : (config.regenerates && request.mayRegenerate sent.state) =
      request.mayReplace config attempt.state := by rw [← unchanged, mayReplace]
  simp only [settle, allowed]
  cases outcome : request.outcome response (request.mayReplace config attempt.state) with
  | accepted =>
      exact sends.settle (World.exchanged_recordSuccess sent.world attempt.call.node) rfl
        (answered ▸ .accepted decoded outcome)
  | fatal status => exact sends.settle (.refl _) rfl (answered ▸ .rejected decoded outcome)
  | nodeBusy =>
      have blamed : ({ sent with world := sent.world.recordFailure attempt.call.node } :
          Progress σ).Ready nodes := ⟨sends.ready.rotation, sends.ready.pinned⟩
      exact sends.wait last (answered ▸ .busy decoded outcome) (unexpired (by simp [outcome]))
        ((askAgain_waits config blamed isLast sends.candidate).afterQuiet
          (World.exchanged_recordFailure sent.world attempt.call.node) rfl rfl)
  | pending =>
      exact sends.wait last (answered ▸ .pending decoded outcome) (unexpired (by simp [outcome]))
        (askAgain_waits config sends.ready isLast sends.candidate)
  | nodeFailed =>
      exact sends.wait last (answered ▸ .nodeFailed decoded outcome)
        (unexpired (by simp [outcome])) (moveOn_waits config sends.ready isLast attempt.call.node)
  | expired =>
      have expires : request.Expires (request.mayReplace config attempt.state) attempt.reply :=
        ⟨bytes, delay, response, answered, decoded, outcome⟩
      have quiet := lawful.quiet sent.state sent.world
      dsimp only
      split
      · rename_i error world failed
        rw [failed] at quiet
        exact sends.stopped quiet rfl (.notRenewed rfl unchanged (unchanged ▸ expires) failed)
      · rename_i next world regenerated
        rw [regenerated] at quiet
        rw [← unchanged] at regenerated
        exact sends.continued quiet (.renewed expires regenerated) last
          ⟨sends.ready.rotation, sends.ready.pinned⟩

theorem receive_attempts (lawful : request.Lawful)
    (sends : request.Sent config nodes before attempt sent)
    (last : sent.last = before.last) :
    request.Attempts config deadline nodes before
      (request.receive config deadline isLast sent attempt.call.node attempt.reply) := by
  unfold receive
  split
  · rename_i bytes delay answered
    cases decoded : request.decode bytes with
    | error cause => exact sends.settle (.refl _) rfl (answered ▸ .undecodable decoded)
    | ok response =>
        have noted : request.Sent config nodes before attempt
            { sent with last := some (request.status response) } :=
          { sends with ready := ⟨sends.ready.rotation, sends.ready.pinned⟩ }
        exact settle_attempts lawful noted (by simp [answered, statusOf, decoded]) answered decoded
  · rename_i cause delay failed
    have unchanged : sent.last = (request.statusOf attempt.reply).or before.last := by
      simp [failed, statusOf, last]
    cases transient : cause.isTransient with
    | true =>
        refine sends.wait unchanged (failed ▸ .transient transient) ?_
          (moveOn_waits config sends.ready isLast attempt.call.node)
        rintro ⟨_, _, _, answered, _⟩
        simp [failed] at answered
    | false => exact sends.settle (.refl _) rfl (failed ▸ .broken transient)
  · rename_i silent
    have unchanged : sent.last = (request.statusOf attempt.reply).or before.last := by
      simp [silent, statusOf, last]
    refine sends.wait unchanged (silent ▸ .silent) ?_
      (moveOn_waits config sends.ready isLast attempt.call.node)
    rintro ⟨_, _, _, answered, _⟩
    simp [silent] at answered

end Replies

/-- A try ends the request or leads to the next one, and sends at most one call. -/
theorem attempt_attempts (lawful : request.Lawful) {progress : Progress σ}
    (ready : progress.Ready nodes) (nonempty : nodes ≠ []) (isLast : Bool) :
    request.Attempts config deadline nodes progress
      (request.attempt config deadline isLast progress) := by
  have chooses : request.Chooses deadline nodes progress (request.choose deadline progress) :=
    choose_chooses ready nonempty
  unfold attempt
  revert chooses
  generalize request.choose deadline progress = choice
  intro chooses
  cases chooses with
  | @overdue finished limited quiet state result =>
      have tries : request.Tries config progress.state [] finished.state := state ▸ .nil _
      exact .stopped [] (Nat.zero_le 1) (by simp) (by simp) quiet tries
        (result ▸ state ▸ .overdue limited .nil)
  | @chosen node middle candidate quiet state last middleReady =>
      simp only [bind, Except.bind]
      cases encoded : request.encode (request.prepare middle.state node) node with
      | error error =>
          have tries : request.Tries config progress.state [] middle.state := state ▸ .nil _
          exact .stopped [] (Nat.zero_le 1) (by simp) (by simp) quiet tries
            (.unsendable .nil candidate encoded)
      | ok bytes =>
          let called := middle.world.call node request.method bytes config.attemptTimeout
          let attempt : Try σ :=
            { call := { time := middle.world.now, node, method := request.method, request := bytes }
              reply := called.1
              patience := some config.attemptTimeout
              state := request.prepare middle.state node }
          have sends : request.Sent config nodes progress attempt
              { middle with
                state := request.prepare middle.state node
                world := called.2 } :=
            { prepared := congrArg (request.prepare · node) state
              state := rfl
              candidate := candidate
              patient := rfl
              exchanged := quiet.afterQuiet
                (World.exchanged_call middle.world node request.method bytes _)
              sends := ⟨rfl, encoded⟩
              ready := ⟨middleReady.rotation, middleReady.pinned⟩ }
          dsimp only
          rcases sends.await deadline (called.1.overAt middle.world.now config.attemptTimeout) with
            ⟨after, waited, stillSent, sameLast⟩ | ⟨finished, cut, attempts⟩
          · rw [waited]
            exact receive_attempts lawful stillSent (sameLast.trans last)
          · rw [cut]
            exact attempts

theorem attempts_ends (lawful : request.Lawful) {left : Nat} {progress : Progress σ}
    (ready : progress.Ready nodes) (nonempty : nodes ≠ []) :
    ∃ made,
      progress.world.Exchanged (made.map Try.toExchange)
        (request.attempts config deadline left progress).world ∧
      request.Tries config progress.state made
        (request.attempts config deadline left progress).state ∧
      request.Ends config deadline nodes left progress.last made
        (request.attempts config deadline left progress).state
        (request.attempts config deadline left progress).result ∧
      (∀ attempt ∈ made, attempt.call.node ∈ nodes) ∧
      (deadline = none → ∀ attempt ∈ made, attempt.patience = some config.attemptTimeout) := by
  induction left generalizing progress with
  | zero =>
      exact ⟨[], .refl _, .nil _, .exhausted rfl .nil, by simp, by simp⟩
  | succ left ih =>
      have step : request.Attempts config deadline nodes progress
          (request.attempt config deadline (left = 0) progress) :=
        attempt_attempts lawful ready nonempty _
      unfold attempts
      revert step
      generalize request.attempt config deadline (left = 0) progress = outcome
      intro step
      cases step with
      | stopped made single candidates patient exchanged tries stops =>
          exact ⟨made, exchanged, tries, .stopped (by omega) stops, candidates, patient⟩
      | @continued after attempt candidate patient prepared exchanged sends leads last ready =>
          obtain ⟨later, rest, tries, ends, candidates, patience⟩ := ih ready
          exact ⟨attempt :: later, exchanged.trans rest, .cons prepared sends leads tries,
            .cons leads.retries (last ▸ ends), List.forall_mem_cons.mpr ⟨candidate, candidates⟩,
            fun unlimited => List.forall_mem_cons.mpr ⟨patient, patience unlimited⟩⟩

/-- What driving a request comes to: it ends at once when there is no node to try, and otherwise is
a run of tries, all of them with nodes that the network gave for it. Each reply is waited for as long
as the settings say, but for a deadline. -/
theorem execute_ends_candidates (lawful : request.Lawful) (config : ExecutionConfig) (state : σ)
    (world : World) :
    (∃ cause, (world.candidates (request.nodes state)).1 = .error cause ∧
      request.execute config state world =
        { result := .error (.configuration cause), state
          world := (world.candidates (request.nodes state)).2 }) ∨
    ∃ nodes made, (world.candidates (request.nodes state)).1 = .ok nodes ∧
      world.Exchanged (made.map Try.toExchange) (request.execute config state world).world ∧
      request.Tries config state made (request.execute config state world).state ∧
      request.Ends config (config.requestTimeout.map world.now.wakeAfter) nodes config.maxAttempts
        none made (request.execute config state world).state
        (request.execute config state world).result ∧
      (∀ attempt ∈ made, attempt.call.node ∈ nodes) ∧
      (config.requestTimeout = none →
        ∀ attempt ∈ made, attempt.patience = some config.attemptTimeout) := by
  unfold execute
  have quiet := World.exchanged_candidates world (request.nodes state)
  dsimp only
  cases found : world.candidates (request.nodes state) with
  | mk answer after =>
      rw [found] at quiet
      cases answer with
      | error cause => exact .inl ⟨cause, rfl, rfl⟩
      | ok nodes =>
          have nonempty : nodes ≠ [] := Network.candidates_ne_nil (congrArg Prod.fst found)
          have ready : ({ state, world := after, rotation := Rotation.ofNodes nodes, pinned := none
                          last := none, retries := 0 } : Progress σ).Ready nodes :=
            ⟨rfl, fun _ kept => by cases kept⟩
          obtain ⟨made, exchanged, tries, ends, candidates, patient⟩ :=
            attempts_ends lawful ready nonempty
          exact .inr ⟨nodes, made, rfl, quiet.afterQuiet exchanged, tries, ends, candidates,
            fun unlimited => patient (by rw [unlimited]; rfl)⟩

theorem execute_ends (lawful : request.Lawful) (config : ExecutionConfig) (state : σ)
    (world : World) :
    (∃ cause, (world.candidates (request.nodes state)).1 = .error cause ∧
      request.execute config state world =
        { result := .error (.configuration cause), state
          world := (world.candidates (request.nodes state)).2 }) ∨
    ∃ nodes made, (world.candidates (request.nodes state)).1 = .ok nodes ∧
      world.Exchanged (made.map Try.toExchange) (request.execute config state world).world ∧
      request.Tries config state made (request.execute config state world).state ∧
      request.Ends config (config.requestTimeout.map world.now.wakeAfter) nodes config.maxAttempts
        none made (request.execute config state world).state
        (request.execute config state world).result := by
  refine (execute_ends_candidates lawful config state world).imp_right ?_
  rintro ⟨nodes, made, found, exchanged, tries, ends, -, -⟩
  exact ⟨nodes, made, found, exchanged, tries, ends⟩

/-- All that a request sends is a run of tries, whatever it comes to. -/
theorem execute_tries (lawful : request.Lawful) (config : ExecutionConfig) (state : σ)
    (world : World) :
    ∃ made, world.Exchanged (made.map Try.toExchange) (request.execute config state world).world ∧
      request.Tries config state made (request.execute config state world).state := by
  rcases execute_ends lawful config state world with
    ⟨cause, none, executed⟩ | ⟨nodes, made, -, exchanged, tries, -⟩
  · rw [executed]
    exact ⟨[], World.exchanged_candidates world _, .nil _⟩
  · exact ⟨made, exchanged, tries⟩

end Request

end LedgerClient
