import LedgerClient.Proofs.Execution.Tries
import LedgerClient.Proofs.Execution.Turns

/-!
The loop takes one turn after the other. Between two turns it stands where the turns so far have led
it, so a try can only add a turn that follows them; and when the run is over, the nodes are what the
completed calls have made of them.
-/

namespace LedgerClient

/-- The try after this outcome is one more turn. -/
def Outcome.goesOn : Outcome → Bool
  | .nodeBusy | .pending | .nodeFailed | .expired => true
  | .accepted | .fatal _ => false

/-- A fresh id takes from the world nothing but what it is made from. -/
def Request.RenewsAside {σ ρ α : Type} (request : Request σ ρ α) : Prop :=
  ∀ (state : σ) (world : World), ∃ ids, (request.regenerate state world).2 = { world with ids }

namespace Run

/-- The run that a request makes, over the candidates it is given. -/
def ofRequest {σ ρ α : Type} (request : Request σ ρ α) (config : ExecutionConfig) (state : σ)
    (world : World) (nodes : List AccountId) : Run where
  config := config
  verdict := request.verdict (request.mayReplace config state)
  nodes := nodes
  deadline := config.requestTimeout.map world.now.wakeAfter
  origin := (world.candidates (request.nodes state)).2

variable {σ ρ α β γ : Type} {run : Run} {request : Request σ ρ α} {made : List Turn} {turn : Turn}

/-- The run reads replies as the request does now. -/
def Reads (run : Run) (request : Request σ ρ α) (state : σ) : Prop :=
  run.verdict = request.verdict (request.mayReplace run.config state)

/-- All calls of these turns are over, and this is the world they have led to. -/
structure Reached (run : Run) (made : List Turn) (world : World) : Prop where
  exchanged : run.origin.Exchanged (made.map Turn.toExchange) world
  network : world.network = run.network made
  inTime : run.inTime world.now
  turns : run.Turns made
  completed : ∀ turn ∈ made, run.config.completes run.deadline turn.toExchange = true

/-- Ready for the next turn. -/
structure Poised (run : Run) (made : List Turn) (progress : Progress σ) : Prop where
  reached : run.Reached made progress.world
  now : progress.world.now = run.resumes made
  rotation : progress.rotation = { nodes := run.nodes, next := run.next made }
  pinned : progress.pinned = run.kept made
  retries : progress.retries = run.backoffs made
  goesOn : ∀ last, made.getLast? = some last → (run.verdict last.reply).any Outcome.goesOn = true

/-- The run is over after these turns. If the last call was not, nothing is known of it. -/
structure Over (run : Run) (made : List Turn) (world : World) : Prop where
  exchanged : run.origin.Exchanged (made.map Turn.toExchange) world
  network : world.network =
    run.origin.network.replay (run.config.judge run.verdict)
      ((made.map Turn.toExchange).filter (run.config.completes run.deadline))
  turns : run.Turns made
  completed : ∀ turn ∈ made.dropLast, run.config.completes run.deadline turn.toExchange = true

theorem Reached.over {world : World} (reached : run.Reached made world) : run.Over made world where
  exchanged := reached.exchanged
  network := by
    have all : (made.map Turn.toExchange).filter (run.config.completes run.deadline) =
        made.map Turn.toExchange := by
      simpa using reached.completed
    rw [all]
    exact reached.network
  turns := reached.turns
  completed turn member := reached.completed turn (List.dropLast_subset made member)

theorem Reached.at {world : World} {moment : Instant} (reached : run.Reached made world)
    (inTime : run.inTime moment) : run.Reached made { world with now := moment } where
  exchanged := reached.exchanged.thenQuiet (.quiet rfl rfl rfl rfl)
  network := reached.network
  inTime := inTime
  turns := reached.turns
  completed := reached.completed

/-- A part of the loop leads to what `P` says, unless the run is over on the way. -/
def Goes (run : Run) (P : β → Prop) : Except (Finished σ α) β → Prop
  | .ok value => P value
  | .error finished => ∃ made, run.Over made finished.world

theorem Goes.bind {P : β → Prop} {Q : γ → Prop} {first : Except (Finished σ α) β}
    {later : β → Except (Finished σ α) γ} (goes : run.Goes P first)
    (onward : ∀ value, P value → run.Goes Q (later value)) : run.Goes Q (first >>= later) := by
  cases first with
  | ok value => exact onward value goes
  | error finished => exact goes

/-! ## Waiting -/

/-- A wait passes in time, or it is cut off at the deadline. -/
theorem waitUntil_cases (run : Run) (request : Request σ ρ α) (calling : Bool)
    (progress : Progress σ) (moment : Instant) :
    (run.inTime moment ∧ request.waitUntil run.deadline calling progress moment =
        .ok { progress with world := { progress.world with now := moment } }) ∨
      ∃ limit finished, run.deadline = some limit ∧ limit < moment ∧
        request.waitUntil run.deadline calling progress moment = .error finished ∧
        finished.world = progress.world.breakOff calling limit := by
  unfold Request.waitUntil inTime
  cases run.deadline with
  | none => exact .inl ⟨by simp, rfl⟩
  | some limit =>
      by_cases late : limit < moment
      · simp only [if_pos late]
        exact .inr ⟨limit, _, rfl, late, rfl, rfl⟩
      · simp only [if_neg late]
        refine .inl ⟨?_, trivial⟩
        rintro _ ⟨⟩
        exact Nat.le_of_not_lt late

/-- What is left to the loop after the calls so far: the health of the nodes is told, and a wait that
is cut off changes nothing of it. -/
theorem Reached.waitUntil (progress : Progress σ) (reached : run.Reached made progress.world)
    (request : Request σ ρ α) (moment : Instant) :
    run.Goes (fun after => run.inTime moment ∧
        after = { progress with world := { progress.world with now := moment } })
      (request.waitUntil run.deadline false progress moment) := by
  rcases run.waitUntil_cases request false progress moment with
    ⟨inTime, waited⟩ | ⟨limit, finished, limited, _, cut, world⟩
  · rw [waited]
    exact ⟨inTime, rfl⟩
  · rw [cut]
    have inTime : run.inTime limit := by
      intro other same
      rw [limited] at same
      cases same
      exact Nat.le_refl _
    exact ⟨made, world ▸ (reached.at inTime).over⟩

/-! ## Deciding upon a node -/

/-- The node of the next call is decided upon, and it is time for the call. -/
structure Decided (run : Run) (made : List Turn) (node : AccountId) (place : Nat)
    (progress : Progress σ) : Prop where
  reached : run.Reached made progress.world
  follows : ∀ turn : Turn, turn.place = place → turn.call.node = node →
    turn.call.time = progress.world.now → run.Follows made turn
  rotation : progress.rotation = { nodes := run.nodes, next := (place + 1) % run.nodes.length }
  pinned : progress.pinned = none
  retries : progress.retries = run.backoffs made

/-- A turn that the rotation decides follows those before, unless a node is asked again. -/
theorem Rotates.follows (reached : run.Turns made) (rotates : run.Rotates made turn)
    (kept : run.kept made = none)
    (goesOn : ∀ last, made.getLast? = some last →
      (run.verdict last.reply).any Outcome.goesOn = true) : run.Follows made turn := by
  cases found : made.getLast? with
  | none => exact .first (List.getLast?_eq_none_iff.mp found) rotates
  | some last =>
      have on := goesOn last found
      simp only [Run.kept, found] at kept
      have moved : run.verdict last.reply = some .nodeFailed ∨
          run.verdict last.reply = some .expired := by
        cases verdict : run.verdict last.reply with
        | none => simp [verdict] at on
        | some outcome =>
            cases outcome <;> simp_all [Outcome.goesOn, Outcome.asksAgain]
      refine .onward found moved rotates ?_
      intro distinct other member different healthy
      have before := reached.candidate last (List.mem_of_getLast? found)
      have picked := rotates.picked
      simp only [next, found] at picked
      exact picked.another distinct before member different healthy

theorem choose_decides {progress : Progress σ} (poised : run.Poised made progress) :
    run.Goes (fun chosen => (∃ place, run.Decided made chosen.1 place chosen.2) ∧
        chosen.2.state = progress.state)
      (request.choose run.deadline progress) := by
  unfold Request.choose
  cases pinned : progress.pinned with
  | some node =>
      have kept := poised.pinned.symm.trans pinned
      have rotation := poised.rotation
      cases found : made.getLast? with
      | none => simp [Run.kept, found] at kept
      | some last =>
          simp only [Run.kept, found] at kept
          simp only [Run.next, found] at rotation
          have asked : run.verdict last.reply = some .nodeBusy ∨
              run.verdict last.reply = some .pending := by
            cases verdict : run.verdict last.reply with
            | none => simp [verdict] at kept
            | some outcome => cases outcome <;> simp_all [Outcome.asksAgain]
          have same : node = last.call.node := by
            split at kept
            · exact (Option.some.inj kept).symm
            · cases kept
          refine ⟨⟨last.place, poised.reached, ?_, rotation, rfl, poised.retries⟩, rfl⟩
          intro turn place atNode time
          exact .again found asked (atNode.trans same) place (time.trans poised.now)
  | none =>
      have kept := poised.pinned.symm.trans pinned
      dsimp only
      split
      · exact ⟨made, poised.reached.over⟩
      · rename_i node rotation selected
        obtain ⟨place, picked, goes⟩ := Rotation.select_picks selected
        rw [poised.rotation] at picked goes
        simp only [poised.reached.network, poised.now] at picked
        have waits := Reached.waitUntil { progress with rotation, pinned := none } poised.reached
          request (progress.world.now.wakeAfter
            (progress.world.network.remaining node progress.world.now))
        refine waits.bind ?_
        rintro _ ⟨inTime, rfl⟩
        refine ⟨⟨place, poised.reached.at inTime, ?_, goes, rfl, poised.retries⟩, rfl⟩
        intro turn atPlace atNode time
        subst atPlace atNode
        rw [poised.reached.network, poised.now] at time
        have ready : (run.network made).Recovers turn.call.node →
            (run.network made).remaining turn.call.node turn.call.time = Duration.zero := by
          intro recovers
          rw [time]
          exact Network.remaining_wakeAfter recovers _
        exact Rotates.follows poised.reached.turns ⟨picked, time, ready⟩ kept poised.goesOn

/-! ## Calling it -/

/-- The call is made, and nothing is done yet about what became of it. -/
structure Called (run : Run) (made : List Turn) (turn : Turn) (world : World) : Prop where
  exchanged : run.origin.Exchanged ((made ++ [turn]).map Turn.toExchange) world
  network : world.network = run.network made
  turns : run.Turns (made ++ [turn])
  completed : ∀ turn ∈ made, run.config.completes run.deadline turn.toExchange = true

theorem Decided.called {node : AccountId} {place : Nat} {progress : Progress σ}
    (decided : run.Decided made node place progress) (method : Method) (bytes : Bytes) :
    run.Called made
      { call := { time := progress.world.now, node, method, request := bytes }
        reply := (progress.world.call node method bytes run.config.attemptTimeout).1
        patience := some run.config.attemptTimeout
        place }
      (progress.world.call node method bytes run.config.attemptTimeout).2 where
  exchanged := by
    rw [List.map_append]
    exact decided.reached.exchanged.trans
      (World.exchanged_call progress.world node method bytes _)
  network := by rw [World.call_network, decided.reached.network]
  turns := decided.reached.turns.concat (decided.follows _ rfl rfl rfl)
  completed := decided.reached.completed

theorem completes_iff {exchange : Exchange} :
    run.config.completes run.deadline exchange = true ↔ run.inTime (run.config.overAt exchange) := by
  unfold ExecutionConfig.completes inTime
  cases run.deadline <;> simp

/-- Once the call is over, its node is judged. -/
theorem Called.reached {before after : World} (called : run.Called made turn before)
    (quiet : before.Exchanged [] after) (now : after.now = run.config.overAt turn.toExchange)
    (inTime : run.inTime after.now)
    (network : after.network = before.network.updateHealth turn.call.node
      (run.config.judge run.verdict turn.toExchange)) : run.Reached (made ++ [turn]) after where
  exchanged := called.exchanged.thenQuiet quiet
  network := by rw [network, network_concat, called.network]
  inTime := inTime
  turns := called.turns
  completed := by
    intro other member
    rcases List.mem_append.mp member with early | here
    · exact called.completed other early
    · obtain rfl := List.mem_singleton.mp here
      exact completes_iff.mpr (now ▸ inTime)

/-- A call that is cut off by the deadline is not held against its node. -/
theorem Called.cut {world : World} {limit : Instant} (called : run.Called made turn world)
    (limited : run.deadline = some limit) (late : limit < run.config.overAt turn.toExchange) :
    run.Over (made ++ [turn.cut]) (world.breakOff true limit) where
  exchanged := by
    have exchanged := called.exchanged
    rw [List.map_append] at exchanged ⊢
    exact exchanged.hangUp.thenQuiet (.quiet rfl rfl rfl rfl)
  network := by
    have all : (made.map Turn.toExchange).filter (run.config.completes run.deadline) =
        made.map Turn.toExchange := by
      simpa using called.completed
    -- Whoever hangs up would have waited for as long as the settings say.
    have overdue : ¬ run.config.overAt turn.cut.toExchange ≤ limit :=
      Nat.not_le.mpr (Nat.lt_of_lt_of_le late (Reply.overAt_le _ _ _))
    have dropped : [turn.cut.toExchange].filter (run.config.completes run.deadline) = [] := by
      simp [ExecutionConfig.completes, limited, overdue]
    rw [List.map_append, List.filter_append, all, List.map_cons, List.map_nil, dropped,
      List.append_nil]
    exact called.network
  turns := called.turns.cut
  completed := by simpa using called.completed

/-! ## After the call -/

/-- When the last call is over. -/
def lastOver (run : Run) (made : List Turn) : Instant :=
  match made.getLast? with
  | none => run.origin.now
  | some last => run.config.overAt last.toExchange

@[simp] theorem lastOver_concat :
    run.lastOver (made ++ [turn]) = run.config.overAt turn.toExchange := by
  simp [lastOver]

/-- The loop goes on after these turns; if no try is left it did not wait for one. -/
structure Resumed (run : Run) (made : List Turn) (isLast : Bool) (progress : Progress σ) :
    Prop where
  reached : run.Reached made progress.world
  now : progress.world.now = if isLast then run.lastOver made else run.resumes made
  rotation : progress.rotation = { nodes := run.nodes, next := run.next made }
  pinned : progress.pinned = run.kept made
  retries : progress.retries = run.backoffs made
  goesOn : ∀ last, made.getLast? = some last → (run.verdict last.reply).any Outcome.goesOn = true

theorem Resumed.poised {progress : Progress σ} (resumed : run.Resumed made false progress) :
    run.Poised made progress :=
  ⟨resumed.reached, resumed.now, resumed.rotation, resumed.pinned, resumed.retries,
    resumed.goesOn⟩

/-- The last call is over and its node judged. -/
structure Judged (run : Run) (made : List Turn) (turn : Turn) (progress : Progress σ) : Prop where
  reached : run.Reached (made ++ [turn]) progress.world
  now : progress.world.now = run.config.overAt turn.toExchange
  rotation : progress.rotation =
    { nodes := run.nodes, next := (turn.place + 1) % run.nodes.length }
  pinned : progress.pinned = none
  retries : progress.retries = run.backoffs made

/-- After a backoff the loop goes on with the rotation, or with the node it keeps. -/
theorem Judged.backOff {progress : Progress σ} (judged : run.Judged made turn progress)
    {outcome : Outcome} (verdict : run.verdict turn.reply = some outcome)
    (backs : outcome.backsOff = true) (goesOn : outcome.goesOn = true) (request : Request σ ρ α)
    (isLast : Bool) :
    run.Goes (fun after =>
        run.Resumed (made ++ [turn]) isLast
          { after with pinned := run.kept (made ++ [turn]) } ∧
        after.pinned = none ∧ after.state = progress.state)
      (request.backOff run.config run.deadline isLast progress) := by
  have last : ∀ last, (made ++ [turn]).getLast? = some last →
      (run.verdict last.reply).any Outcome.goesOn = true := by
    simp [verdict, goesOn]
  have counted : progress.retries + 1 = run.backoffs (made ++ [turn]) := by
    simp [verdict, backs, judged.retries]
  have rotation : progress.rotation =
      { nodes := run.nodes, next := run.next (made ++ [turn]) } := by
    rw [next_concat, judged.rotation]
  unfold Request.backOff
  cases isLast with
  | true =>
      have still : progress.world.now = run.lastOver (made ++ [turn]) := by
        rw [judged.now, lastOver_concat]
      exact ⟨⟨judged.reached, still, rotation, rfl, counted, last⟩, judged.pinned, rfl⟩
  | false =>
      have waits := Reached.waitUntil { progress with retries := progress.retries + 1 }
        judged.reached request (progress.world.now.wakeAfter (run.config.backoff progress.retries))
      have resumes : progress.world.now.wakeAfter (run.config.backoff progress.retries) =
          run.resumes (made ++ [turn]) := by
        simp [verdict, backs, judged.now, judged.retries]
      simp only [Bool.false_eq_true, ↓reduceIte]
      revert waits
      generalize request.waitUntil run.deadline false _ _ = waited
      intro waits
      cases waited with
      | error finished => exact waits
      | ok after =>
          obtain ⟨inTime, rfl⟩ := waits
          exact ⟨⟨judged.reached.at inTime, resumes, rotation, rfl, counted, last⟩,
            judged.pinned, rfl⟩

/-- The last call is made, and its node is to be judged. It is `moment`. -/
structure Awaits (run : Run) (made : List Turn) (turn : Turn) (moment : Instant)
    (progress : Progress σ) : Prop where
  called : run.Called made turn progress.world
  now : progress.world.now = moment
  inTime : run.inTime moment
  rotation : progress.rotation =
    { nodes := run.nodes, next := (turn.place + 1) % run.nodes.length }
  pinned : progress.pinned = none
  retries : progress.retries = run.backoffs made

/-- The last call is over. -/
abbrev Heard (run : Run) (made : List Turn) (turn : Turn) (progress : Progress σ) : Prop :=
  run.Awaits made turn (run.config.overAt turn.toExchange) progress

theorem Awaits.judged {progress : Progress σ} (heard : run.Heard made turn progress) {world : World}
    (quiet : progress.world.Exchanged [] world) (now : world.now = progress.world.now)
    (network : world.network = progress.world.network.updateHealth turn.call.node
      (run.config.judge run.verdict turn.toExchange)) :
    run.Judged made turn { progress with world } where
  reached := heard.called.reached quiet (now.trans heard.now)
    (now.trans heard.now ▸ heard.inTime) network
  now := now.trans heard.now
  rotation := heard.rotation
  pinned := heard.pinned
  retries := heard.retries

/-- Nothing is said about the node, and at most a fresh id is taken. -/
theorem Awaits.unjudged {progress : Progress σ} (heard : run.Heard made turn progress)
    (quiet : (run.verdict turn.reply).any Outcome.tells = false) {world : World}
    (aside : ∃ ids, world = { progress.world with ids }) :
    run.Judged made turn { progress with world } := by
  obtain ⟨ids, rfl⟩ := aside
  have same := progress.world.network.updateHealth_same turn.call.node
    (run.config.judge_quiet run.verdict quiet)
  exact heard.judged (.quiet rfl rfl rfl rfl) rfl same.symm

theorem Awaits.unchanged {progress : Progress σ} (heard : run.Heard made turn progress)
    (quiet : (run.verdict turn.reply).any Outcome.tells = false) :
    run.Judged made turn progress :=
  heard.unjudged quiet ⟨progress.world.ids, rfl⟩

theorem judge_eq {outcome : Outcome} (verdict : run.verdict turn.reply = some outcome) :
    run.config.judge run.verdict turn.toExchange =
      outcome.judge (run.config.overAt turn.toExchange) := by
  funext health
  simp only [ExecutionConfig.judge, verdict]

theorem Awaits.failed {progress : Progress σ} (heard : run.Heard made turn progress)
    {outcome : Outcome} (verdict : run.verdict turn.reply = some outcome)
    (blames : outcome = .nodeBusy ∨ outcome = .nodeFailed) :
    run.Judged made turn
      { progress with world := progress.world.recordFailure turn.call.node } := by
  apply heard.judged (World.exchanged_recordFailure progress.world turn.call.node) rfl
  rw [judge_eq verdict]
  rcases blames with rfl | rfl <;>
    simp only [World.recordFailure, Network.recordFailure, heard.now] <;> rfl

theorem Awaits.moveOn {progress : Progress σ} (heard : run.Heard made turn progress)
    (verdict : run.verdict turn.reply = some .nodeFailed) (request : Request σ ρ α)
    (reads : run.Reads request progress.state) (isLast : Bool) :
    run.Goes (fun after => run.Resumed (made ++ [turn]) isLast after ∧
        run.Reads request after.state)
      (request.moveOn run.config run.deadline isLast progress turn.call.node) := by
  have backed := (heard.failed verdict (.inr rfl)).backOff verdict rfl rfl request isLast
  have kept : run.kept (made ++ [turn]) = none := by simp [verdict, Outcome.asksAgain]
  unfold Request.moveOn
  revert backed
  generalize request.backOff run.config run.deadline isLast _ = outcome
  intro backed
  cases outcome with
  | error finished => exact backed
  | ok after =>
      obtain ⟨resumed, pinned, state⟩ := backed
      refine ⟨⟨resumed.reached, resumed.now, resumed.rotation, pinned.trans kept.symm,
        resumed.retries, resumed.goesOn⟩, ?_⟩
      rw [state]
      exact reads

theorem Judged.askAgain {progress : Progress σ} (judged : run.Judged made turn progress)
    (asked : run.verdict turn.reply = some .nodeBusy ∨ run.verdict turn.reply = some .pending)
    (request : Request σ ρ α) (reads : run.Reads request progress.state) (isLast : Bool) :
    run.Goes (fun after => run.Resumed (made ++ [turn]) isLast after ∧
        run.Reads request after.state)
      (request.askAgain run.config run.deadline isLast progress turn.call.node) := by
  have kept : run.kept (made ++ [turn]) = some turn.call.node := by
    rcases asked with verdict | verdict <;> simp [verdict, Outcome.asksAgain]
  have backed : run.Goes (fun after =>
        run.Resumed (made ++ [turn]) isLast
          { after with pinned := run.kept (made ++ [turn]) } ∧
        after.pinned = none ∧ after.state = progress.state)
      (request.backOff run.config run.deadline isLast progress) := by
    rcases asked with verdict | verdict <;>
      exact judged.backOff verdict rfl rfl request isLast
  unfold Request.askAgain
  refine backed.bind ?_
  rintro after ⟨resumed, -, state⟩
  rw [kept] at resumed
  refine ⟨resumed, ?_⟩
  change run.Reads request after.state
  rw [state]
  exact reads

theorem settle_goes {progress : Progress σ} (heard : run.Heard made turn progress)
    (lawful : request.Lawful) (aside : request.RenewsAside)
    (reads : run.Reads request progress.state) (isLast : Bool) {bytes : Bytes} {response : ρ}
    {delay : Duration} (reply : turn.reply = .answered bytes delay)
    (decoded : request.decode bytes = .ok response) :
    run.Goes (fun after => run.Resumed (made ++ [turn]) isLast after ∧
        run.Reads request after.state)
      (request.settle run.config run.deadline isLast progress turn.call.node response) := by
  have verdict : run.verdict turn.reply =
      some (request.outcome response (request.mayReplace run.config progress.state)) := by
    rw [reads, reply]
    simp only [Request.verdict, decoded]
  unfold Request.settle
  dsimp only
  rw [← Request.mayReplace]
  revert verdict
  cases request.outcome response (request.mayReplace run.config progress.state) with
  | accepted =>
      intro verdict
      have judged : run.Judged made turn
          { progress with world := progress.world.recordSuccess turn.call.node } := by
        apply heard.judged (World.exchanged_recordSuccess progress.world turn.call.node) rfl
        rw [judge_eq verdict]
        rfl
      exact ⟨_, judged.reached.over⟩
  | fatal status =>
      intro verdict
      have judged := heard.unchanged (by rw [verdict]; rfl)
      exact ⟨_, judged.reached.over⟩
  | nodeBusy =>
      intro verdict
      exact (heard.failed verdict (.inl rfl)).askAgain (.inl verdict) request reads isLast
  | pending =>
      intro verdict
      have judged := heard.unchanged (by rw [verdict]; rfl)
      exact judged.askAgain (.inr verdict) request reads isLast
  | nodeFailed =>
      intro verdict
      exact heard.moveOn verdict request reads isLast
  | expired =>
      intro verdict
      have judged := heard.unjudged (by rw [verdict]; rfl) (aside progress.state progress.world)
      dsimp only
      cases renewed : request.regenerate progress.state progress.world with
      | mk outcome world =>
          rw [renewed] at judged
          cases outcome with
          | error error => exact ⟨_, judged.reached.over⟩
          | ok next =>
              refine ⟨⟨judged.reached, ?_, ?_, ?_, ?_, ?_⟩, ?_⟩
              · simpa [verdict, Outcome.backsOff] using judged.now
              · simpa using judged.rotation
              · simpa [verdict, Outcome.asksAgain] using judged.pinned
              · simpa [verdict, Outcome.backsOff] using judged.retries
              · simp [verdict, Outcome.goesOn]
              · simp only [Reads, Request.mayReplace, lawful.steady renewed]
                exact reads

/-- The call goes on until it is over, unless the deadline comes before that. -/
theorem Awaits.hear {progress : Progress σ} (awaits : run.Awaits made turn turn.call.time progress)
    (request : Request σ ρ α) :
    run.Goes (fun after => run.Heard made turn after ∧ after.state = progress.state)
      (request.waitUntil run.deadline true progress (run.config.overAt turn.toExchange)) := by
  rcases run.waitUntil_cases request true progress (run.config.overAt turn.toExchange) with
    ⟨inTime, waited⟩ | ⟨limit, finished, limited, late, cut, world⟩
  · rw [waited]
    have called : run.Called made turn
        { progress.world with now := run.config.overAt turn.toExchange } :=
      ⟨awaits.called.exchanged.thenQuiet (.quiet rfl rfl rfl rfl), awaits.called.network,
        awaits.called.turns, awaits.called.completed⟩
    exact ⟨⟨called, rfl, inTime, awaits.rotation, awaits.pinned, awaits.retries⟩, rfl⟩
  · rw [cut]
    exact ⟨made ++ [turn.cut], world ▸ awaits.called.cut limited late⟩

theorem receive_goes {progress : Progress σ} (heard : run.Heard made turn progress)
    (lawful : request.Lawful) (aside : request.RenewsAside)
    (reads : run.Reads request progress.state) (isLast : Bool) :
    run.Goes (fun after => run.Resumed (made ++ [turn]) isLast after ∧
        run.Reads request after.state)
      (request.receive run.config run.deadline isLast progress turn.call.node turn.reply) := by
  unfold Request.receive
  cases reply : turn.reply with
  | answered bytes delay =>
      dsimp only
      cases decoded : request.decode bytes with
      | error cause =>
          have verdict : run.verdict turn.reply = none := by
            rw [reads, reply]
            simp only [Request.verdict, decoded]
          have judged := heard.unchanged (by rw [verdict]; rfl)
          exact ⟨_, judged.reached.over⟩
      | ok response =>
          have noted : run.Heard made turn
              { progress with last := some (request.status response) } :=
            ⟨heard.called, heard.now, heard.inTime, heard.rotation, heard.pinned, heard.retries⟩
          exact settle_goes noted lawful aside reads isLast reply decoded
  | failed cause delay =>
      dsimp only
      by_cases passing : cause.isTransient
      · have verdict : run.verdict turn.reply = some .nodeFailed := by
          rw [reads, reply]
          simp only [Request.verdict, if_pos passing]
        simp only [if_pos passing]
        exact heard.moveOn verdict request reads isLast
      · have verdict : run.verdict turn.reply = none := by
          rw [reads, reply]
          simp only [Request.verdict, if_neg passing]
        have judged := heard.unchanged (by rw [verdict]; rfl)
        simp only [if_neg passing]
        exact ⟨_, judged.reached.over⟩
  | silent =>
      have verdict : run.verdict turn.reply = some .nodeFailed := by
        rw [reads, reply]
        rfl
      exact heard.moveOn verdict request reads isLast

/-! ## The whole run -/

theorem attempt_goes {progress : Progress σ} (poised : run.Poised made progress)
    (lawful : request.Lawful) (aside : request.RenewsAside)
    (reads : run.Reads request progress.state) (isLast : Bool) :
    run.Goes (fun after => (∃ turn, run.Resumed (made ++ [turn]) isLast after) ∧
        run.Reads request after.state)
      (request.attempt run.config run.deadline isLast progress) := by
  unfold Request.attempt
  refine (choose_decides poised).bind ?_
  rintro ⟨node, chosen⟩ ⟨⟨place, decided⟩, state⟩
  dsimp only at state ⊢
  have reads : run.Reads request (request.prepare chosen.state node) := by
    simp only [Reads, Request.mayReplace, lawful.prepared, state]
    exact reads
  cases encoded : request.encode (request.prepare chosen.state node) node with
  | error error => exact ⟨made, decided.reached.over⟩
  | ok bytes =>
      have called := decided.called request.method bytes
      have awaits : run.Awaits made _ chosen.world.now
          { chosen with
            state := request.prepare chosen.state node
            world :=
              (chosen.world.call node request.method bytes run.config.attemptTimeout).2 } :=
        ⟨called, World.call_now chosen.world node request.method bytes _, decided.reached.inTime,
          decided.rotation, decided.pinned, decided.retries⟩
      refine (awaits.hear request).bind ?_
      rintro after ⟨heard, same⟩
      have received := receive_goes heard lawful aside (same ▸ reads) isLast
      dsimp only at received ⊢
      revert received
      generalize request.receive run.config run.deadline isLast after node _ = outcome
      intro received
      cases outcome with
      | error finished => exact received
      | ok after => exact ⟨⟨_, received.1⟩, received.2⟩

/-- How a run comes to its end: a try ends it, or no try is left after the last of these turns. -/
inductive Closes (run : Run) (request : Request σ ρ α) (made : List Turn) :
    Finished σ α → Prop
  | ended {earlier : List Turn} {progress : Progress σ} {isLast : Bool} {finished : Finished σ α}
      (poised : run.Poised earlier progress)
      (ends : request.attempt run.config run.deadline isLast progress = .error finished) :
      Closes run request made finished
  | exhausted {progress : Progress σ} {result : Except Error α} (called : made ≠ [])
      (resumed : run.Resumed made true progress) :
      Closes run request made (Request.finish progress result)

theorem attempts_over (lawful : request.Lawful) (aside : request.RenewsAside) (left : Nat)
    {made : List Turn} {progress : Progress σ} (resumed : run.Resumed made (left = 0) progress)
    (reads : run.Reads request progress.state) (called : left = 0 → made ≠ []) :
    ∃ made, run.Over made (request.attempts run.config run.deadline left progress).world ∧
      run.Closes request made (request.attempts run.config run.deadline left progress) := by
  induction left generalizing made progress with
  | zero => exact ⟨made, resumed.reached.over, .exhausted (called rfl) resumed⟩
  | succ left ih =>
      have attempted := attempt_goes resumed.poised lawful aside reads (left = 0)
      unfold Request.attempts
      cases outcome : request.attempt run.config run.deadline (left = 0) progress with
      | error finished =>
          rw [outcome] at attempted
          obtain ⟨made, whole⟩ := attempted
          exact ⟨made, whole, .ended resumed.poised outcome⟩
      | ok after =>
          rw [outcome] at attempted
          obtain ⟨⟨turn, onward⟩, reads⟩ := attempted
          exact ih onward reads fun _ => by simp

/-- Every run over some candidates is over at some time, and its turns have followed each other. -/
theorem execute_closes (lawful : request.Lawful) (aside : request.RenewsAside)
    (config : ExecutionConfig) (state : σ) {world : World} {nodes : List AccountId}
    (found : (world.candidates (request.nodes state)).1 = .ok nodes) :
    ∃ made, (ofRequest request config state world nodes).Over made
        (request.execute config state world).world ∧
      (ofRequest request config state world nodes).Closes request made
        (request.execute config state world) := by
  have start : (ofRequest request config state world nodes).Reached []
      (world.candidates (request.nodes state)).2 := by
    refine ⟨.refl _, (Network.replay_nil _).symm, ?_, .nil, by simp⟩
    intro limit limited
    obtain ⟨timeout, -, rfl⟩ := Option.map_eq_some_iff.mp limited
    exact Instant.le_wakeFrom _ _
  have listed : world.candidates (request.nodes state) =
      (.ok nodes, (world.candidates (request.nodes state)).2) := Prod.ext found rfl
  unfold Request.execute
  dsimp only
  rw [listed]
  have begun : (ofRequest request config state world nodes).Resumed [] (config.maxAttempts = 0)
      { state, world := (world.candidates (request.nodes state)).2,
        rotation := Rotation.ofNodes nodes, pinned := none, last := none, retries := 0 } :=
    ⟨start, by split <;> rfl, rfl, rfl, rfl, by simp⟩
  refine attempts_over lawful aside config.maxAttempts begun rfl fun none => ?_
  exact absurd none (Nat.pos_iff_ne_zero.mp config.maxAttempts_pos)

end Run

end LedgerClient
