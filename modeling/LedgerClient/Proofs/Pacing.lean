import LedgerClient.Proofs.Nodes
import LedgerClient.Proofs.Transaction.Naming

/-!
When the calls of a request are made. After a reply that is worth another try the loop backs off, for
longer each time, and then waits for its node if that is still to be left alone. After an expired id
it only waits for the node. After the last reply it does not wait at all.
-/

namespace LedgerClient

/-! ## Timers -/

namespace Instant

/-- A wait of `duration` that began at `start` is over at `moment`: no earlier than it should be, and
no later than whole milliseconds make it. What the clock does not reach is thirty years away. -/
structure Timed (start : Instant) (duration : Duration) (moment : Instant) : Prop where
  notEarly : start.due duration ≤ moment
  rounded : moment.nanos < (start.due duration).nanos + 2 * millisecond
  whole : start.nanos % millisecond = 0 → moment.nanos < (start.due duration).nanos + millisecond
  reached : (start.after duration).isRepresentable → start.after duration ≤ moment

theorem le_due (start : Instant) (duration : Duration) : start ≤ start.due duration := by
  unfold due
  split <;> exact Nat.le_add_right _ _

theorem timed_wakeAfter (start : Instant) (duration : Duration) :
    start.Timed duration (start.wakeAfter duration) := by
  have onward := start.le_due duration
  refine ⟨reaches_wakeFrom start _, ?_, ?_, reaches_wakeAfter⟩ <;>
    · unfold wakeAfter wakeFrom
      split
      · rename_i passed
        simp only [le_iff, millisecond] at onward passed ⊢
        omega
      · rename_i ahead
        simp only [le_iff, millisecond] at onward ahead ⊢
        omega

/-- Nothing to wait for. -/
theorem wakeAfter_zero {now : Instant} (running : now.isRepresentable) :
    now.wakeAfter Duration.zero = now := by
  have still : now.after Duration.zero = now := rfl
  simp only [wakeAfter, due, still, if_pos running, wakeFrom, le_iff, Nat.le_refl, if_true]

end Instant

theorem Network.remaining_ofHealthy {network : Network} {account : AccountId} {now : Instant}
    (healthy : network.isHealthy account now = true) :
    network.remaining account now = Duration.zero := by
  simpa only [isHealthy, decide_eq_true_eq] using healthy

/-! ## Between two calls -/

namespace Run

variable {σ ρ α : Type} {run : Run} {request : Request σ ρ α} {earlier made : List Turn}
  {last next : Turn}

/-- How a call follows the one before it in time. The backoffs are those after the `earlier` turns,
and the health of the nodes is what the calls up to the last one have made of it. -/
inductive Spaced (run : Run) (earlier : List Turn) (last next : Turn) : Prop
  | backedOff {outcome : Outcome} {moment : Instant}
      (verdict : run.verdict last.reply = some outcome) (backs : outcome.backsOff = true)
      (counted : run.backoffs (earlier ++ [last]) = run.backoffs earlier + 1)
      (timed : (run.config.overAt last.toExchange).Timed
        (run.config.backoff (run.backoffs earlier)) moment)
      (notEarly : moment ≤ next.call.time)
      (kept : outcome.asksAgain = true →
        next.call.node = last.call.node ∧ next.call.time = moment)
      (healthy : moment.isRepresentable →
        (run.network (earlier ++ [last])).isHealthy next.call.node moment = true →
          next.call.time = moment)
  | renewed (verdict : run.verdict last.reply = some .expired)
      (counted : run.backoffs (earlier ++ [last]) = run.backoffs earlier)
      (waited : next.call.time = (run.config.overAt last.toExchange).wakeAfter
        ((run.network (earlier ++ [last])).remaining next.call.node
          (run.config.overAt last.toExchange)))
      (healthy : (run.config.overAt last.toExchange).isRepresentable →
        (run.network (earlier ++ [last])).isHealthy next.call.node
            (run.config.overAt last.toExchange) = true →
          next.call.time = run.config.overAt last.toExchange)

theorem Rotates.notEarly (rotates : run.Rotates made next) : run.resumes made ≤ next.call.time := by
  rw [rotates.sent]
  exact Instant.le_wakeAfter _ _

theorem Rotates.prompt (rotates : run.Rotates made next) (running : (run.resumes made).isRepresentable)
    (healthy : (run.network made).isHealthy next.call.node (run.resumes made) = true) :
    next.call.time = run.resumes made := by
  rw [rotates.sent, Network.remaining_ofHealthy healthy, Instant.wakeAfter_zero running]

theorem resumes_backedOff {outcome : Outcome} (verdict : run.verdict last.reply = some outcome)
    (backs : outcome.backsOff = true) : run.resumes (earlier ++ [last]) =
      (run.config.overAt last.toExchange).wakeAfter
        (run.config.backoff (run.backoffs earlier)) := by
  simp [verdict, backs]

theorem resumes_renewed (verdict : run.verdict last.reply = some .expired) :
    run.resumes (earlier ++ [last]) = run.config.overAt last.toExchange := by
  simp [verdict, Outcome.backsOff]

theorem Follows.spaced (follows : run.Follows (earlier ++ [last]) next) :
    run.Spaced earlier last next := by
  have counted {outcome : Outcome} (verdict : run.verdict last.reply = some outcome)
      (backs : outcome.backsOff = true) :
      run.backoffs (earlier ++ [last]) = run.backoffs earlier + 1 := by
    simp [verdict, backs]
  have timed := Instant.timed_wakeAfter (run.config.overAt last.toExchange)
    (run.config.backoff (run.backoffs earlier))
  cases follows with
  | first none _ => simp at none
  | again found asked node _ sent =>
      obtain rfl := by simpa using found
      obtain ⟨outcome, verdict, asks, backs⟩ : ∃ outcome, run.verdict last.reply = some outcome ∧
          outcome.asksAgain = true ∧ outcome.backsOff = true := by
        rcases asked with busy | pending
        · exact ⟨_, busy, rfl, rfl⟩
        · exact ⟨_, pending, rfl, rfl⟩
      rw [resumes_backedOff verdict backs] at sent
      exact .backedOff verdict backs (counted verdict backs) timed (Nat.le_of_eq (by rw [sent]))
        (fun _ => ⟨node, sent⟩) fun _ _ => sent
  | onward found moved rotates _ =>
      obtain rfl := by simpa using found
      have notEarly := rotates.notEarly
      have prompt := rotates.prompt
      have sent := rotates.sent
      rcases moved with failed | expired
      · rw [resumes_backedOff failed rfl] at notEarly prompt
        exact .backedOff failed rfl (counted failed rfl) timed notEarly nofun prompt
      · rw [resumes_renewed expired] at prompt sent
        exact .renewed expired (by simp [expired, Outcome.backsOff]) sent prompt

theorem kept_mem (turns : run.Turns made) {node : AccountId} (kept : run.kept made = some node) :
    node ∈ run.nodes := by
  unfold Run.kept at kept
  split at kept
  · cases kept
  · rename_i last found
    split at kept
    · obtain rfl := Option.some.inj kept
      exact List.mem_of_getElem? (turns.candidate last (List.mem_of_getLast? found))
    · cases kept

theorem Poised.ready {progress : Progress σ} (poised : run.Poised made progress) :
    progress.Ready run.nodes where
  rotation := congrArg Rotation.nodes poised.rotation
  pinned _ kept := kept_mem poised.reached.turns (poised.pinned.symm.trans kept)

/-- A run whose tries are used up is over when its last call is. -/
theorem Closes.rested {finished : Finished σ α} (closes : run.Closes request made finished)
    (lawful : request.Lawful) (contained : request.Contained) (nonempty : run.nodes ≠ [])
    {error : Error} (failed : finished.result = .error error) (timeout : error.IsTimeout) :
    made ≠ [] ∧ finished.world.now = run.lastOver made := by
  cases closes with
  | exhausted called resumed => exact ⟨called, resumed.now⟩
  | @ended _ _ isLast _ poised ends =>
      have step : request.Attempts run.config run.deadline run.nodes _ _ :=
        Request.attempt_attempts lawful poised.ready nonempty isLast
      rw [ends] at step
      cases step with
      | stopped tried single candidates patient exchanged tries stops =>
          rw [failed] at stops
          exact absurd timeout (contained.stops stops).2

end Run

/-! ## Requests -/

theorem Driven.contained {σ ρ α : Type} {request : Request σ ρ α} {state : σ}
    (driven : Driven request state) : request.Contained := by
  cases driven with
  | chunk obtainable inside => exact Transaction.chunkRequest_contained _ _
  | cost query => exact query.costRequest_contained
  | answer query view payment => exact query.answerRequest_contained view

/-- When a request makes its calls: they are paced by what the loop makes of the replies, and a
request whose tries are used up returns when its last call is over. -/
structure Request.Paces {σ ρ α : Type} (request : Request σ ρ α) (config : ExecutionConfig)
    (state : σ) (before : World) (made : List Turn) (finished : Finished σ α) : Prop where
  exchanged : before.Exchanged (made.map Turn.toExchange) finished.world
  spaced : ∀ earlier last next later, made = earlier ++ last :: next :: later →
    ∃ nodes, (before.candidates (request.nodes state)).1 = .ok nodes ∧
      (Run.ofRequest request config state before nodes).Spaced earlier last next
  rested : ∀ error, finished.result = .error error → error.IsTimeout →
    ∃ earlier last, made = earlier ++ [last] ∧
      finished.world.now = config.overAt last.toExchange

/-- Every request of the client is paced. The next call after a reply that is worth another try comes
one backoff later, and only later than that if the node that is picked has to be left alone for
longer. The backoffs count those replies alone. An id that has expired is replaced at once. -/
theorem Driven.execute_paces {σ ρ α : Type} {request : Request σ ρ α} {state : σ}
    (driven : Driven request state) (config : ExecutionConfig) (world : World) :
    ∃ made, request.Paces config state world made (request.execute config state world) := by
  have listed := World.exchanged_candidates world (request.nodes state)
  cases found : (world.candidates (request.nodes state)).1 with
  | error cause =>
      have failed : world.candidates (request.nodes state) =
          (.error cause, (world.candidates (request.nodes state)).2) := Prod.ext found rfl
      unfold Request.execute
      dsimp only
      rw [failed]
      refine ⟨[], listed, by simp, ?_⟩
      rintro error ⟨⟩ timeout
      exact timeout.elim
  | ok nodes =>
      obtain ⟨made, whole, closes⟩ := Run.execute_closes (driven.servable config).lawful
        driven.renewsAside config state found
      refine ⟨made, listed.afterQuiet whole.exchanged, ?_, ?_⟩
      · intro earlier last next later split
        refine ⟨nodes, found, (whole.turns (earlier ++ [last]) next later ?_).spaced⟩
        simp [split]
      · intro error failed timeout
        have nonempty : nodes ≠ [] := Network.candidates_ne_nil found
        obtain ⟨called, rested⟩ := closes.rested (driven.servable config).lawful driven.contained
          nonempty failed timeout
        obtain ⟨earlier, last, rfl⟩ := (List.eq_nil_or_concat' made).resolve_left called
        exact ⟨earlier, last, rfl, rested.trans Run.lastOver_concat⟩

namespace Sample

theorem balance_paces :
    ∃ made, balance.Paces config none busyTrio made (balance.execute config none busyTrio) :=
  (Driven.answer (Query.ofData (.balance node)) QueryAnswer.balance? none).execute_paces config
    busyTrio

example : (balance.execute config none busyTrio).world.calls.map (·.time.nanos / 1000000) =
    [0, 250, 10750] := by
  decide +kernel

end Sample

end LedgerClient
