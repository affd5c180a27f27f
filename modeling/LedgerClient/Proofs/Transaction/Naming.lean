import LedgerClient.Proofs.Execution.Failures
import LedgerClient.Proofs.Transaction.Roots
import LedgerClient.Proofs.Wire.Apart

/-!
Which transaction an error is about. When sending a chunk fails, the error names the id that the
chunk has by then. That is the id of the request that was sent last, unless this request was found
expired and a fresh id took its place: if nothing more is sent, the error names an id that no
request carried.
-/

namespace LedgerClient

namespace Transaction

variable {chosen : Option TransactionId} {transaction start final : Transaction}
  {config : ExecutionConfig} {world : World} {chunk : Nat} {error : Error} {id : TransactionId}

theorem BodyPlan.chunks_internal {plan : BodyPlan} (failed : plan.chunks = .error error) :
    error.Internal := by
  unfold BodyPlan.chunks at failed
  dsimp only at failed
  split at failed
  · cases failed
    trivial
  · obtain ⟨index, -, unwritten⟩ := mapM_eq_error failed
    rcases bind_eq_error.mp unwritten with bodies | ⟨signed, -, made⟩
    · obtain ⟨node, -, oversize⟩ := mapM_eq_error bodies
      unfold BodyPlan.checkedBody at oversize
      dsimp only at oversize
      split at oversize <;> cases oversize
      trivial
    · cases made

theorem regenerate_internal {after : World}
    (failed : transaction.regenerate world = (.error error, after)) : error.Internal := by
  unfold regenerate at failed
  split at failed
  · split at failed
    · cases failed
      trivial
    · dsimp only at failed
      split at failed
      · rename_i unplanned
        cases failed
        exact BodyPlan.chunks_internal unplanned
      · cases failed
  · cases failed
    trivial

theorem Frozen.signedFor_internal {frozen : Frozen} {node : AccountId}
    (failed : frozen.signedFor chunk node = .error error) : error.Internal := by
  unfold Frozen.signedFor at failed
  split at failed
  · cases failed
    trivial
  · split at failed
    · cases failed
      trivial
    · split at failed <;> cases failed
      trivial

theorem requestFor_internal {node : AccountId}
    (failed : transaction.requestFor chunk node = .error error) : error.Internal := by
  unfold requestFor at failed
  split at failed
  · cases failed
    trivial
  · exact Frozen.signedFor_internal failed

theorem response_internal {node : AccountId}
    (failed : transaction.response chunk node = .error error) : error.Internal := by
  rcases bind_eq_error.mp failed with unrequested | ⟨signed, -, unnamed⟩
  · exact requestFor_internal unrequested
  · split at unnamed <;> cases unnamed
    trivial

theorem chunkRequest_contained (method : Method) (chunk : Nat) :
    (chunkRequest method chunk).Contained where
  encode failed := requestFor_internal (map_eq_error.mp failed)
  regenerate failed := regenerate_internal failed
  output failed := response_internal failed

/-- How many chunks were accepted; chunks are sent in order, so the next one is in turn. -/
def inTurn (made : List Submission) : Nat :=
  made.countP fun submission => submission.reply.accepts

/-- Sending the chunks from the one at `chunk` on came to an error that names `id`. -/
structure FailsAt (chunk : Nat) (made : List Submission) (final : Transaction) (error : Error)
    (id : TransactionId) : Prop where
  split : ∃ before tries, made = before ++ tries ∧
    (∀ submission ∈ before, submission.chunk < chunk + inTurn made) ∧
    ∀ submission ∈ tries, submission.chunk = chunk + inTurn made
  named : final.chunkIdAt (chunk + inTurn made) = some id
  left : error.GivesUp ∨ ∃ last, made.getLast? = some last ∧ last.state = final

theorem chunk_failsAt (config : ExecutionConfig) (start : Transaction) (world : World)
    (chunk : Nat) :
    ∃ made, Delivered chunk config start world made
        ((chunkRequest start.payload.method chunk).execute config start world) ∧
      ∀ error id,
        ((chunkRequest start.payload.method chunk).execute config start world).result =
          .error error → error.transactionId = some id →
        FailsAt chunk made
          ((chunkRequest start.payload.method chunk).execute config start world).state error id := by
  have lawful := chunkRequest_lawful start.payload.method chunk
  rcases Request.execute_ends lawful config start world with
    ⟨cause, none, executed⟩ | ⟨nodes, tried, -, exchanged, tries, ends⟩
  · rw [executed]
    refine ⟨[], ⟨World.exchanged_candidates world _, .nil _, by simp, .refused (by simp)⟩, ?_⟩
    intro error id failed named
    cases failed
    cases named
  · have delivered := tries_delivered rfl exchanged tries (ends_delivers tries ends)
    refine ⟨_, delivered, ?_⟩
    intro error id failed named
    have none : inTurn (tried.map (·.submission chunk config)) = 0 := by
      rw [inTurn, delivered.ends.countP_accepts, failed]
      rfl
    rw [failed] at ends
    obtain ⟨current, left⟩ := (chunkRequest_contained _ chunk).anonymous.ends ends named
    refine ⟨⟨[], _, rfl, by simp, ?_⟩, ?_, left.imp_right ?_⟩
    · intro submission member
      rw [none]
      exact (delivered.place submission member).1
    · rw [none]
      exact current
    · rintro ⟨attempt, last, unchanged⟩
      exact ⟨attempt.submission chunk config, by rw [List.getLast?_map, last]; rfl, unchanged⟩

theorem FailsAt.after {first later : List Submission}
    (fails : FailsAt (chunk + 1) later final error id) (accepted : inTurn first = 1)
    (place : ∀ submission ∈ first, submission.chunk = chunk) :
    FailsAt chunk (first ++ later) final error id := by
  have turn : chunk + inTurn (first ++ later) = chunk + 1 + inTurn later := by
    rw [inTurn, List.countP_append, ← inTurn, ← inTurn, accepted, Nat.add_assoc]
  obtain ⟨before, tries, split, earlier, inThis⟩ := fails.split
  refine ⟨⟨first ++ before, tries, by rw [split, List.append_assoc], ?_, ?_⟩, ?_, ?_⟩
  · rw [turn, List.forall_mem_append]
    exact ⟨fun submission member => by rw [place submission member]; omega, earlier⟩
  · rwa [turn]
  · rw [turn]
    exact fails.named
  · refine fails.left.imp_right ?_
    rintro ⟨last, found, unchanged⟩
    exact ⟨last, by simp [List.getLast?_append, found], unchanged⟩

theorem submitChunks_failsAt (config : ExecutionConfig) (start : Transaction) (world : World)
    (chunk count : Nat) :
    ∃ made, Chunked config start world chunk count made
        (submitChunks config start world chunk count) ∧
      ∀ error id, (submitChunks config start world chunk count).result = .error error →
        error.transactionId = some id →
        FailsAt chunk made (submitChunks config start world chunk count).state error id := by
  induction count generalizing start world chunk with
  | zero =>
      refine ⟨[], .done start world chunk, ?_⟩
      intro error id failed
      cases failed
  | succ count ih =>
      obtain ⟨first, delivered, fails⟩ := chunk_failsAt config start world chunk
      have gives : ∀ response,
          ((chunkRequest start.payload.method chunk).execute config start world).result =
            .ok response → _ := fun response => chunkRequest_gives
      simp only [submitChunks]
      generalize (chunkRequest start.payload.method chunk).execute config start world = sent at *
      obtain ⟨result, middle, after⟩ := sent
      cases result with
      | error cause =>
          refine ⟨first, .failed delivered, ?_⟩
          intro error id failed named
          cases failed
          exact fails cause id rfl named
      | ok response =>
          obtain ⟨later, rest, failsLater⟩ := ih middle after (chunk + 1)
          refine ⟨first ++ later, .next delivered (gives response rfl) rest, ?_⟩
          intro error id failed named
          have accepted : inTurn first = 1 := delivered.ends.countP_accepts
          exact (failsLater error id (map_eq_error.mp failed) named).after accepted
            fun submission member => (delivered.place submission member).1

end Transaction

/-- After this submission its transaction got another id, and `final` is what it became. -/
structure Submission.Superseded (submission : Submission) (final : Transaction) : Prop where
  renews : submission.Renews
  renewed : ∃ world after, submission.state.regenerate world = (.ok final, after)
  other : ∀ before now, submission.state.id = some before → final.id = some now →
    before.same now = false

theorem Submissions.after_single {start final : Transaction} {made : List Submission}
    {last : Submission} (submissions : Submissions start made final) (single : made = [last]) :
    final = last.state ∨
      last.Renews ∧ ∃ world after, last.state.regenerate world = (.ok final, after) := by
  cases submissions with
  | nil => cases single
  | kept faithful rest =>
      obtain ⟨rfl, rfl⟩ := List.cons.inj single
      exact .inl (rest.unchanged (by simp)).2
  | renewed faithful renews regenerated rest =>
      obtain ⟨rfl, rfl⟩ := List.cons.inj single
      obtain rfl := (rest.unchanged (by simp)).2
      exact .inr ⟨renews, _, _, regenerated⟩

theorem Submission.not_superseded {submission : Submission} {root : TransactionId}
    (rooted : submission.state.id = some root) :
    ¬ submission.Superseded submission.state := by
  intro superseded
  have other := superseded.other root root rooted rooted
  rw [TransactionId.same_refl] at other
  contradiction

theorem Call.Carries.unique {call : Call} {id other : TransactionId} (carries : call.Carries id)
    (carriesOther : call.Carries other) : id.same other = true := by
  obtain ⟨signed, request, isFor⟩ := carries
  obtain ⟨signedOther, requestOther, isForOther⟩ := carriesOther
  exact isFor.same_id isForOther
    (SignedTransaction.body_eq (request.symm.trans requestOther))

theorem Submission.SentAsStored.carries_iff {submission : Submission}
    {root carried id : TransactionId} {signed : SignedTransaction}
    (sent : submission.SentAsStored root carried signed) :
    submission.call.Carries id ↔ carried.same id = true := by
  have carries : submission.call.Carries carried := ⟨signed, sent.request, sent.addressed⟩
  exact ⟨carries.unique, fun same => ⟨signed, sent.request, sent.addressed.ofSame same⟩⟩

/-- All ids that a request can be said to carry start when the transaction does. -/
theorem Submission.SentAsStored.validStart {submission : Submission}
    {root carried id : TransactionId} {signed : SignedTransaction}
    (sent : submission.SentAsStored root carried signed) (carries : submission.call.Carries id) :
    id.validStart = root.validStart := by
  have named := TransactionId.same_iff.mp (sent.carries_iff.mp carries)
  have derived := TransactionId.same_iff.mp sent.derived
  have starts := congrArg TransactionId.validStart (named.symm.trans derived)
  calc id.validStart = (Transaction.chunkId root submission.chunk).validStart := starts
    _ = root.validStart := Transaction.chunkId_validStart root submission.chunk

/-- A submission after which the id is replaced is superseded exactly if the fresh id is another
one. -/
theorem Submission.superseded_iff {submission : Submission} {final : Transaction}
    {root fresh : TransactionId} {world after : World} (renews : submission.Renews)
    (regenerated : submission.state.regenerate world = (.ok final, after))
    (rooted : submission.state.id = some root) (current : final.id = some fresh) :
    submission.Superseded final ↔ root.same fresh = false := by
  constructor
  · intro superseded
    exact superseded.other root fresh rooted current
  · intro different
    refine ⟨renews, ⟨world, after, regenerated⟩, ?_⟩
    intro old now held renamed
    cases rooted.symm.trans held
    cases current.symm.trans renamed
    exact different

namespace Transaction

variable {chosen : Option TransactionId} {transaction final : Transaction} {chunk : Nat}
  {id root : TransactionId}

theorem Sound.chunkIdAt_same (sound : final.Sound chosen) (named : final.chunkIdAt chunk = some id)
    (rooted : final.id = some root) : id.same (chunkId root chunk) = true := by
  cases stored : final.frozen with
  | none => simp [chunkIdAt, stored] at named
  | some frozen =>
      obtain ⟨other, same, coherent⟩ := sound.coherent frozen stored
      rw [rooted] at same
      cases same
      cases held : frozen.chunks[chunk]? with
      | none => simp [chunkIdAt, stored, held] at named
      | some bodies =>
          obtain rfl : bodies.id = id := by simpa [chunkIdAt, stored, held] using named
          exact (coherent chunk bodies held).1

/-- The id that a chunk was sent under last is the one that it has in the end, unless the id of the
transaction was replaced after that. -/
theorem carries_iff_not_superseded {earlier : List Submission} {last : Submission}
    {start : Transaction} {carried : TransactionId} {signed : SignedTransaction}
    (submissions : Submissions start (earlier ++ [last]) final) (sound : final.Sound chosen)
    (sent : last.SentAsStored root carried signed)
    (named : final.chunkIdAt last.chunk = some id) :
    last.call.Carries id ↔ ¬ last.Superseded final := by
  rw [sent.carries_iff]
  obtain ⟨middle, -, ending⟩ := submissions.split
  rcases ending.after_single rfl with unchanged | ⟨renews, world, after, regenerated⟩
  · subst unchanged
    have same : carried = id := Option.some.inj (sent.named.symm.trans named)
    exact iff_of_true (same ▸ TransactionId.same_refl carried)
      (Submission.not_superseded sent.rooted)
  · obtain ⟨before, frozen, fresh, regeneration⟩ := regenerate_regenerated regenerated
    have current : final.id = some fresh := by rw [regeneration.now]
    -- Only the first chunk can have got a fresh id, and its id is that of the transaction.
    have ofRoot : carried.same root = true := by
      have derived := sent.derived
      rwa [renews.first] at derived
    have ofFresh : id.same fresh = true := by
      have derived := sound.chunkIdAt_same named current
      rwa [renews.first] at derived
    have replaced : carried.same id = true ↔ root.same fresh = true := by
      simp only [TransactionId.same_iff] at ofRoot ofFresh ⊢
      rw [ofRoot, ofFresh]
    rw [replaced, Submission.superseded_iff renews regenerated sent.rooted current,
      Bool.not_eq_false]

/-- What an error that names `id` says of the submissions before it. The last of them was for the
chunk in turn, and it carries `id` unless the transaction got another id after that; then there was
no try or no time left. -/
structure NamesLast (made : List Submission) (final : Transaction) (error : Error)
    (id : TransactionId) (last : Submission) : Prop where
  found : made.getLast? = some last
  turn : last.chunk = inTurn made
  stored : ∃ root carried signed, last.SentAsStored root carried signed
  carries : last.call.Carries id ↔ ¬ last.Superseded final
  givenUp : last.Superseded final → error.GivesUp

theorem FailsAt.namesLast {error : Error} {made : List Submission} {start : Transaction}
    (fails : FailsAt 0 made final error id) (submissions : Submissions start made final)
    (sound : start.Sound chosen)
    (submitted : ∃ submission ∈ made, submission.chunk = inTurn made) :
    ∃ last, NamesLast made final error id last := by
  obtain ⟨before, tries, split, earlier, inThis⟩ := fails.split
  simp only [Nat.zero_add] at earlier inThis
  have tried : tries ≠ [] := by
    rintro rfl
    obtain ⟨submission, member, place⟩ := submitted
    rw [split, List.append_nil] at member
    have lower := earlier submission member
    omega
  obtain ⟨first, last, rfl⟩ : ∃ first last, tries = first ++ [last] :=
    ⟨_, _, (List.dropLast_append_getLast tried).symm⟩
  have turn := inThis last (by simp)
  have found : made.getLast? = some last := by simp [split]
  obtain ⟨states, finalSound⟩ := submissions.sound sound
  have member : last ∈ made := List.mem_of_getLast? found
  obtain ⟨root, carried, signed, sent⟩ :=
    (submissions.faithful last member).sentAsStored (states last member)
  have named := fails.named
  rw [Nat.zero_add, ← turn] at named
  have split' : made = (before ++ first) ++ [last] := by rw [split, List.append_assoc]
  rw [split'] at submissions
  refine ⟨last, found, turn, ⟨root, carried, signed, sent⟩,
    carries_iff_not_superseded submissions finalSound sent named, ?_⟩
  intro superseded
  refine fails.left.resolve_right ?_
  rintro ⟨other, foundOther, unchanged⟩
  cases found.symm.trans foundOther
  subst unchanged
  exact Submission.not_superseded sent.rooted superseded

theorem execute_error {client : Client} {world : World} {error : Error}
    (named : error.transactionId = some id)
    (failed : (transaction.execute client world).result = .error error) :
    (transaction.executeAll client world).result = .error error := by
  rcases bind_eq_error.mp failed with sending | ⟨responses, -, answering⟩
  · exact sending
  · split at answering <;> cases answering
    cases named

/-- An error names the id that the last request for the chunk in turn carried, unless this request
was found expired and the transaction then got another id. -/
theorem executeAll_namesLast (obtainable : Obtainable chosen transaction) (client : Client)
    (world : World) :
    ∃ ready made, Readied client transaction ready ∧
      Sent (transaction.executionFor client) ready world made
        (transaction.executeAll client world) ∧
      ∀ error id, (transaction.executeAll client world).result = .error error ∨
          (transaction.execute client world).result = .error error →
        error.transactionId = some id →
        (∃ submission ∈ made, submission.chunk = inTurn made) →
        ∃ last, NamesLast made (transaction.executeAll client world).state error id last := by
  have prepares := executeAll_prepares transaction client world
  have passedOn {error : Error} {id : TransactionId} (named : error.transactionId = some id) :
      (transaction.execute client world).result = .error error →
        (transaction.executeAll client world).result = .error error :=
    execute_error named
  generalize transaction.executeAll client world = sent at *
  cases prepares with
  | unfrozen unfrozen quiet =>
      refine ⟨transaction, [], .unfrozen unfrozen, ⟨quiet, .nil _, by simp, ?_⟩, ?_⟩
      · intro responses result
        cases result
      · rintro error id - - ⟨submission, member, -⟩
        cases member
  | @ready ready middle readied frozen quiet =>
      obtain ⟨made, chunked, fails⟩ := submitChunks_failsAt (transaction.executionFor client) ready
        middle 0 ready.chunkCount
      have sent := chunked.sent
      refine ⟨ready, made, readied, { sent with exchanged := quiet.afterQuiet sent.exchanged }, ?_⟩
      intro error id failed named submitted
      exact (fails error id (failed.elim (fun all => all) (passedOn named)) named).namesLast
        sent.submissions (obtainable.readied readied).sound submitted

end Transaction

end LedgerClient

namespace LedgerClient.Sample

/-- A client that tries everything only once. -/
def hastyClient : Client :=
  { client with execution := { config with maxAttempts := 1, maxAttempts_pos := Nat.one_pos } }

/-- The world in which the message was frozen. Its id has expired when it is sent. -/
def expired : World :=
  (message.freezeWith (some client) (world [answer .transactionExpired])).2

end LedgerClient.Sample

namespace LedgerClient.Transaction

theorem sample_executeAll_namesLast :
    Sample.frozen.Obtainable none ∧
      ∃ ready made, Readied Sample.hastyClient Sample.frozen ready ∧
        Sent (Sample.frozen.executionFor Sample.hastyClient) ready Sample.expired made
          (Sample.frozen.executeAll Sample.hastyClient Sample.expired) ∧
        ∀ error id,
          (Sample.frozen.executeAll Sample.hastyClient Sample.expired).result = .error error ∨
            (Sample.frozen.execute Sample.hastyClient Sample.expired).result = .error error →
          error.transactionId = some id →
          (∃ submission ∈ made, submission.chunk = inTurn made) →
          ∃ last, NamesLast made
            (Sample.frozen.executeAll Sample.hastyClient Sample.expired).state error id last :=
  ⟨Sample.frozen_obtainable,
    executeAll_namesLast Sample.frozen_obtainable Sample.hastyClient Sample.expired⟩

/-- The only request carries one id, and the error names another one. -/
theorem sample_names_unsent :
    ∃ error id, (Sample.frozen.execute Sample.hastyClient Sample.expired).result = .error error ∧
      error.transactionId = some id ∧
      (Sample.frozen.execute Sample.hastyClient Sample.expired).world.calls.length = 1 ∧
      ∀ call ∈ (Sample.frozen.execute Sample.hastyClient Sample.expired).world.calls,
        ¬ call.Carries id := by
  let fresh : TransactionId := .generate Sample.operator.account { seconds := 1001, nanos := 0 } 0
  refine ⟨.timeout 1 (some .transactionExpired) (some fresh), fresh, rfl, rfl, rfl, ?_⟩
  intro call member carries
  obtain ⟨ready, made, readied, sent⟩ :=
    executeAll_sent Sample.frozen Sample.hastyClient Sample.expired
  obtain ⟨only, rfl⟩ : ∃ only, made = [only] := by
    have length : 1 = 0 + (made.map fun submission => submission.toExchange).length :=
      sent.exchanged.length
    rw [Nat.zero_add, List.length_map] at length
    exact List.length_eq_one_iff.mp length.symm
  obtain rfl : call = only.call := by
    have calls : (Sample.frozen.executeAll Sample.hastyClient Sample.expired).world.calls =
        [only.call] := sent.exchanged.calls
    exact List.mem_singleton.mp (calls ▸ member)
  have state : only.state = ready := sent.submissions.first_state rfl
  have sound := Sample.frozen_obtainable.readied readied |>.sound
  rw [← state] at sound
  obtain ⟨root, carried, signed, stored⟩ :=
    (sent.submissions.faithful only (by simp)).sentAsStored sound
  have rooted : only.state.id = Sample.frozen.id := by
    rw [state, (readied.ofFrozen Sample.frozen_isFrozen).id]
  have apart : Sample.frozen.id.map TransactionId.validStart ≠ some fresh.validStart := by
    decide +kernel
  refine apart ?_
  rw [← rooted, stored.rooted, stored.validStart carries]
  rfl

end LedgerClient.Transaction
