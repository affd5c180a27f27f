import LedgerClient.Proofs.Execution.Attempt

/-!
What a request without a time limit comes to, told by the replies that are waiting for it, of which
those that come too late are not heard. The first reply that ends a request decides it, if it comes
within the tries that the settings allow; if there is none, all the tries are used up.
-/

namespace LedgerClient.Request

variable {σ ρ α : Type} (request : Request σ ρ α) (config : ExecutionConfig)

/-- The reply at this place is the first that ends the request. -/
structure Decides (mayReplace : Bool) (world : World) (place : Nat) : Prop where
  retried : ∀ earlier, earlier < place →
    request.Retries mayReplace (world.heardAt config.attemptTimeout earlier)
  final : ¬ request.Retries mayReplace (world.heardAt config.attemptTimeout place)

/-- How a request may end whatever the replies: there is no node to try, or a reply says that the id
has expired and it cannot be replaced. -/
inductive Fails (state : σ) (world : World) (made : List (Try σ)) (finished : Finished σ α) : Prop
  | noCandidates {cause : ConfigurationError} (uncalled : made = [])
      (refused : (world.candidates (request.nodes state)).1 = .error cause)
      (result : finished.result = .error (.configuration cause))
  | notRenewed {earlier : List (Try σ)} {last : Try σ} {error : Error} {before after : World}
      (split : made = earlier ++ [last]) (within : made.length ≤ config.maxAttempts)
      (retried : request.Retried config earlier)
      (expires : request.Expires (request.mayReplace config state) last.reply)
      (failed : request.regenerate finished.state before = (.error error, after))
      (result : finished.result = .error error)

/-- What the reply that decides a request makes of it: one call for each reply up to it, and the
result that it settles at the node it came from. -/
structure DecidedBy (state : σ) (world : World) (place : Nat) (made : List (Try σ))
    (finished : Finished σ α) : Prop where
  calls : made.length = place + 1
  result : ∃ last, made[place]? = some last ∧
    request.Settles (request.mayReplace config state) finished.state last.call.node
      (world.heardAt config.attemptTimeout place) finished.result ∧
    ∀ response error, request.output finished.state response last.call.node = .error error →
      error = .unexpectedResponse

/-- All tries are used up. The last status is that of the last reply that could be decoded. -/
structure UsesUp (world : World) (made : List (Try σ)) (finished : Finished σ α) : Prop where
  calls : made.length = config.maxAttempts
  result : finished.result = .error (.timeout config.maxAttempts
    ((List.range config.maxAttempts).filterMap fun place =>
      request.statusOf (world.heardAt config.attemptTimeout place)).getLast?
    (request.id finished.state))

/-- What a request comes to, told by the replies that were waiting: unless it fails for want of a
node or of a fresh id, the first reply that ends it decides it, and without one it uses up its
tries. -/
structure FollowsReplies (state : σ) (world : World) (made : List (Try σ))
    (finished : Finished σ α) : Prop where
  exchanged : world.Exchanged (made.map Try.toExchange) finished.world
  tries : request.Tries config state made finished.state
  outcome : request.Fails config state world made finished ∨
    (∀ place, place < config.maxAttempts →
      request.Decides config (request.mayReplace config state) world place →
        request.DecidedBy config state world place made finished) ∧
    ((∀ place, place < config.maxAttempts →
      request.Retries (request.mayReplace config state)
        (world.heardAt config.attemptTimeout place)) →
        request.UsesUp config world made finished)

/-- A request that can be sent to each of its nodes as long as it is tried, and whose accepted
replies either are of use or are not what was asked for. -/
structure Servable (state : σ) : Prop where
  lawful : request.Lawful
  sendable : ∀ {world : World} {nodes : List AccountId} {made : List (Try σ)} {final : σ},
    (world.candidates (request.nodes state)).1 = .ok nodes →
      request.Tries config state made final →
        ∀ node ∈ nodes, ∃ bytes, request.encode (request.prepare final node) node = .ok bytes
  usable : ∀ {state : σ} {node : AccountId} {bytes : Bytes} {response : ρ} {error : Error},
    request.encode state node = .ok bytes →
      request.output state response node = .error error → error = .unexpectedResponse

variable {request config} {mayReplace : Bool} {state : σ} {world : World}

theorem Decides.place_eq {first second : Nat}
    (decides : request.Decides config mayReplace world first)
    (other : request.Decides config mayReplace world second) : first = second := by
  rcases Nat.lt_trichotomy first second with before | same | after
  · exact absurd (other.retried first before) decides.final
  · exact same
  · exact absurd (decides.retried second after) other.final

theorem Tries.mayReplace_eq (lawful : request.Lawful) {made : List (Try σ)} {final : σ}
    (tries : request.Tries config state made final) :
    (∀ attempt ∈ made, request.mayReplace config attempt.state = request.mayReplace config state) ∧
      request.mayReplace config final = request.mayReplace config state :=
  tries.preserves
    (P := fun other => request.mayReplace config other = request.mayReplace config state)
    (fun node same => by
      rw [← same, Request.mayReplace, Request.mayReplace, lawful.prepared])
    (fun same _ regenerated => by
      rw [← same, Request.mayReplace, Request.mayReplace, lawful.steady regenerated]) rfl

theorem lastStatus_eq {made : List (Try σ)} {after : World}
    (exchanged : world.Exchanged (made.map Try.toExchange) after)
    (patient : ∀ attempt ∈ made, attempt.patience = some config.attemptTimeout) :
    request.lastStatus none made =
      ((List.range made.length).filterMap fun place =>
        request.statusOf (world.heardAt config.attemptTimeout place)).getLast? := by
  have replies : made.map (fun attempt => attempt.reply) =
      (List.range made.length).map (world.heardAt config.attemptTimeout) := by
    simpa [Function.comp_def] using exchanged.replies_eq (List.forall_mem_map.mpr patient)
  have statuses := congrArg (List.filterMap request.statusOf) replies
  simp only [List.filterMap_map, Function.comp_def] at statuses
  simp only [lastStatus, statuses, Option.or_none]

theorem Retried.replies {earlier later : List (Try σ)} {after : World}
    (retried : request.Retried config earlier)
    (same : ∀ attempt ∈ earlier, request.mayReplace config attempt.state = mayReplace)
    (patient : ∀ attempt ∈ earlier, attempt.patience = some config.attemptTimeout)
    (exchanged : world.Exchanged ((earlier ++ later).map Try.toExchange) after) :
    ∀ place, place < earlier.length →
      request.Retries mayReplace (world.heardAt config.attemptTimeout place) := by
  intro place inside
  have member : earlier[place] ∈ earlier := List.getElem_mem inside
  have present :
      ((earlier ++ later).map Try.toExchange)[place]? = some earlier[place].toExchange := by
    rw [List.getElem?_map, List.getElem?_append_left inside, List.getElem?_eq_getElem inside]
    rfl
  rw [← exchanged.heard present (patient _ member), ← same _ member]
  exact retried _ member

/-- A request that its last reply ended: this reply is the first one that can end it. -/
theorem decidedBy_ofSettles (servable : request.Servable config state) (finished : Finished σ α)
    {earlier : List (Try σ)} {last : Try σ}
    (exchanged : world.Exchanged ((earlier ++ [last]).map Try.toExchange) finished.world)
    (tries : request.Tries config state (earlier ++ [last]) finished.state)
    (patient : ∀ attempt ∈ earlier ++ [last], attempt.patience = some config.attemptTimeout)
    (unchanged : last.state = finished.state) (retried : request.Retried config earlier)
    (settles : request.Settles (request.mayReplace config finished.state) finished.state
      last.call.node last.reply finished.result) :
    request.Decides config (request.mayReplace config state) world earlier.length ∧
      request.DecidedBy config state world earlier.length (earlier ++ [last]) finished := by
  obtain ⟨same, sameFinal⟩ := tries.mayReplace_eq servable.lawful
  have replies := retried.replies (fun attempt member => same attempt (by simp [member]))
    (fun attempt member => patient attempt (by simp [member])) exchanged
  have answered : last.reply = world.heardAt config.attemptTimeout earlier.length :=
    exchanged.heard (by simp) (patient last (by simp))
  rw [sameFinal, answered] at settles
  refine ⟨⟨replies, settles.not_retries⟩, by simp, last, by simp, settles, ?_⟩
  intro response error refused
  obtain ⟨_, encoded⟩ := tries.sends last (by simp)
  rw [unchanged] at encoded
  exact servable.usable encoded refused

theorem execute_decided (servable : request.Servable config state)
    (unlimited : config.requestTimeout = none) (world : World) :
    ∃ made,
      request.FollowsReplies config state world made (request.execute config state world) := by
  rcases execute_ends_candidates servable.lawful config state world with
    ⟨cause, refused, executed⟩ | ⟨nodes, made, found, exchanged, tries, ends, -, patience⟩
  · rw [executed]
    exact ⟨[], World.exchanged_candidates world _, .nil _, .inl (.noCandidates rfl refused rfl)⟩
  · have patient := patience unlimited
    rw [unlimited] at ends
    refine ⟨made, exchanged, tries, ?_⟩
    obtain ⟨same, sameFinal⟩ := tries.mayReplace_eq servable.lawful
    generalize request.execute config state world = finished at *
    obtain ⟨result, final, after⟩ := finished
    dsimp only at ends tries exchanged sameFinal ⊢
    cases ends with
    | exhausted all retried =>
        -- No reply is left out, so none of them can have ended the request.
        rw [← List.append_nil made] at exchanged
        have replies := retried.replies same patient exchanged
        rw [List.append_nil] at exchanged
        refine .inr ⟨?_, fun _ => ⟨all, by rw [lastStatus_eq exchanged patient, all]⟩⟩
        intro place within decides
        exact absurd (replies place (by omega)) decides.final
    | stopped within stops =>
        cases stops with
        | settled found unchanged settles =>
            obtain ⟨earlier, rfl, retried⟩ := tries.retried_before found
            obtain ⟨decides, decided⟩ :=
              decidedBy_ofSettles servable ⟨result, final, after⟩ exchanged tries patient unchanged
                retried settles
            rw [decided.calls] at within
            refine .inr ⟨?_, fun all => absurd (all _ within) decides.final⟩
            intro place _ other
            cases decides.place_eq other
            exact decided
        | @notRenewed last error before later found unchanged expires failed =>
            obtain ⟨earlier, rfl, retried⟩ := tries.retried_before found
            rw [sameFinal] at expires
            exact .inl (.notRenewed rfl within retried expires failed rfl)
        | @unsendable node error retried candidate unsent =>
            obtain ⟨bytes, encoded⟩ := servable.sendable found tries node candidate
            rw [unsent] at encoded
            cases encoded
        | overdue limited retried => simp at limited

end LedgerClient.Request
