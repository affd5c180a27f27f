import LedgerClient.Proofs.Transaction.Submissions

/-!
What sending a transaction submits: one chunk, several in a row, and the whole of it after it was
made ready.
-/

namespace LedgerClient

def Try.submission (attempt : Try Transaction) (chunk : Nat) (config : ExecutionConfig) :
    Submission :=
  { attempt with chunk, config }

namespace Transaction

variable {config : ExecutionConfig} {start final : Transaction} {world : World} {chunk : Nat}

theorem sends_faithful {method : Method} {attempt : Try Transaction}
    (sends : (chunkRequest method chunk).Sends attempt)
    (same : attempt.state.payload.method = method) (config : ExecutionConfig) :
    (attempt.submission chunk config).Faithful := by
  obtain ⟨called, encoded⟩ := sends
  obtain ⟨signed, found, written⟩ := map_eq_ok.mp encoded
  exact ⟨called.trans same.symm, signed, found, written.symm⟩

theorem tries_submissions {method : Method} {made : List (Try Transaction)}
    (tries : (chunkRequest method chunk).Tries config start made final)
    (same : start.payload.method = method) :
    Submissions start (made.map (·.submission chunk config)) final := by
  induction tries with
  | nil => exact .nil _
  | last prepared sends =>
      cases prepared
      exact .kept (sends_faithful sends same config) (.nil _)
  | @cons start attempt later next state prepared sends leads rest ih =>
      cases prepared
      have faithful := sends_faithful sends same config
      cases leads with
      | kept retries current => exact .kept faithful (ih same)
      | renewed expires regenerated =>
          obtain ⟨before, frozen, id, fresh⟩ := regenerate_regenerated regenerated
          have nextSame : next.payload.method = method := by rw [fresh.now]; exact same
          obtain ⟨allowed, expired⟩ := chunkRequest_expires.mp expires
          simp only [Request.mayReplace, chunkRequest, Bool.and_eq_true, decide_eq_true_eq]
            at allowed
          exact .renewed faithful ⟨allowed.2.1, allowed.1, allowed.2.2, expired⟩ regenerated
            (ih nextSame)

theorem isFrozen_ofChunkId {id : TransactionId} (named : start.chunkIdAt chunk = some id) :
    start.isFrozen = true := by
  cases stored : start.frozen with
  | none => simp [chunkIdAt, stored] at named
  | some frozen => simp [isFrozen, stored]

/-- What a response to a chunk says of the submission that the node took. -/
structure Answers (response : TransactionResponse) (submission : Submission) : Prop where
  accepted : submission.reply.accepts = true
  sent : response.sent = submission.state
  chunk : response.chunk = submission.chunk
  node : response.node = submission.call.node
  id : submission.state.chunkIdAt submission.chunk = some response.id

theorem response_answers {attempt : Try Transaction} {response : TransactionResponse}
    (given : attempt.state.response chunk attempt.call.node = .ok response)
    (accepted : attempt.reply.accepts = true) :
    Answers response (attempt.submission chunk config) := by
  obtain ⟨signed, found, named⟩ := bind_eq_ok.mp given
  split at named
  · contradiction
  · rename_i id known
    cases named
    exact ⟨accepted, rfl, rfl, rfl, known⟩

theorem response_exists {node : AccountId} {signed : SignedTransaction}
    (found : start.requestFor chunk node = .ok signed) :
    ∃ response, start.response chunk node = .ok response := by
  cases stored : start.frozen with
  | none => simp [requestFor, stored] at found
  | some frozen =>
      have signedFor : frozen.signedFor chunk node = .ok signed := by
        simpa [requestFor, stored] using found
      obtain ⟨bodies, held⟩ : ∃ bodies, frozen.chunks[chunk]? = some bodies := by
        cases held : frozen.chunks[chunk]? with
        | some bodies => exact ⟨bodies, rfl⟩
        | none =>
            simp only [Frozen.signedFor, held] at signedFor
            split at signedFor <;> contradiction
      have id : start.chunkIdAt chunk = some bodies.id := by simp [chunkIdAt, stored, held]
      exact ⟨_, by simp only [response, found, id, bind, Except.bind]; rfl⟩

/-- How the submissions of one chunk end. Only the last of them can have been accepted, and then it
gives the response. -/
inductive Delivers (made : List Submission) (final : Transaction) :
    Except Error TransactionResponse → Prop
  | accepted {earlier : List Submission} {last : Submission} {response : TransactionResponse}
      (split : made = earlier ++ [last]) (refused : ∀ other ∈ earlier, other.reply.accepts = false)
      (answers : Answers response last) (unchanged : last.state = final) :
      Delivers made final (.ok response)
  | refused {error : Error} (refused : ∀ submission ∈ made, submission.reply.accepts = false) :
      Delivers made final (.error error)

theorem Delivers.countP_accepts {made : List Submission} {final : Transaction}
    {result : Except Error TransactionResponse}
    (delivers : Delivers made final result) :
    (made.countP fun submission => submission.reply.accepts) = if result.isOk then 1 else 0 := by
  have none {others : List Submission}
      (refused : ∀ other ∈ others, other.reply.accepts = false) :
      (others.countP fun submission => submission.reply.accepts) = 0 :=
    List.countP_eq_zero.mpr fun other member => by simp [refused other member]
  cases delivers with
  | accepted split refused answers unchanged =>
      rw [split, List.countP_append, none refused]
      simp [answers.accepted, Except.isOk, Except.toBool]
  | refused refused =>
      rw [none refused]
      rfl

/-- The submissions of one chunk. -/
structure Delivered (chunk : Nat) (config : ExecutionConfig) (start : Transaction) (world : World)
    (made : List Submission) (sent : Finished Transaction TransactionResponse) : Prop where
  exchanged : world.Exchanged (made.map fun submission => submission.toExchange) sent.world
  submissions : Submissions start made sent.state
  place : ∀ submission ∈ made, submission.chunk = chunk ∧ submission.config = config
  ends : Delivers made sent.state sent.result

theorem retried_refused {method : Method} {made : List (Try Transaction)}
    (retried : (chunkRequest method chunk).Retried config made) :
    ∀ submission ∈ made.map (·.submission chunk config), submission.reply.accepts = false := by
  intro submission member
  obtain ⟨attempt, made, rfl⟩ := List.mem_map.mp member
  exact retries_not_accepts (retried attempt made)

theorem settles_delivers {method : Method} {earlier : List (Try Transaction)}
    {last : Try Transaction} {result : Except Error TransactionResponse}
    (retried : (chunkRequest method chunk).Retried config earlier)
    (sends : (chunkRequest method chunk).Sends last)
    (settles : (chunkRequest method chunk).Settles
      ((chunkRequest method chunk).mayReplace config last.state) last.state last.call.node
      last.reply result) :
    Delivers ((earlier ++ [last]).map (·.submission chunk config)) last.state result := by
  have refused := retried_refused retried
  have others (refusal : last.reply.accepts = false) :
      ∀ submission ∈ (earlier ++ [last]).map (·.submission chunk config),
        submission.reply.accepts = false := by
    rw [List.map_append, List.forall_mem_append]
    exact ⟨refused, by simpa [Try.submission] using refusal⟩
  generalize answered : last.reply = reply at settles
  cases settles with
  | accepted decoded outcome =>
      have accepts : last.reply.accepts = true := by
        rw [answered]
        exact (accepts_iff _ decoded).mpr outcome
      obtain ⟨signed, requested, -⟩ := map_eq_ok.mp sends.2
      obtain ⟨response, given⟩ := response_exists requested
      simp only [chunkRequest, given]
      exact .accepted List.map_append refused (response_answers given accepts) rfl
  | rejected decoded outcome =>
      refine .refused (others ?_)
      rw [answered, ← Bool.not_eq_true, accepts_iff _ decoded]
      exact fun accepted => absurd (outcome.symm.trans accepted) (by simp)
  | broken lasting => exact .refused (others (by rw [answered]; rfl))
  | undecodable undecoded =>
      refine .refused (others ?_)
      simp only [chunkRequest] at undecoded
      rw [answered]
      simp [Reply.accepts, Reply.precheck?, undecoded]

/-- However the tries of a chunk end, only the last of them can have been accepted. -/
theorem ends_delivers {method : Method} {deadline : Option Instant} {nodes : List AccountId}
    {left : Nat} {before : Option Status} {tried : List (Try Transaction)}
    {result : Except Error TransactionResponse}
    (tries : (chunkRequest method chunk).Tries config start tried final)
    (ends : (chunkRequest method chunk).Ends config deadline nodes left before tried final result) :
    Delivers (tried.map (·.submission chunk config)) final result := by
  cases ends with
  | exhausted all retried => exact .refused (retried_refused retried)
  | stopped within stops =>
      cases stops with
      | settled last unchanged settles =>
          obtain ⟨earlier, rfl, retried⟩ := tries.retried_before last
          subst unchanged
          exact settles_delivers retried (tries.sends _ (by simp)) settles
      | notRenewed last unchanged expires failed =>
          obtain ⟨earlier, rfl, retried⟩ := tries.retried_before last
          subst unchanged
          exact .refused (retried_refused (retried.append (.cons (.expired expires) .nil)))
      | unsendable retried candidate unsent => exact .refused (retried_refused retried)
      | overdue limited retried => exact .refused (retried_refused retried)

theorem tries_delivered {method : Method} {tried : List (Try Transaction)}
    {sent : Finished Transaction TransactionResponse}
    (same : start.payload.method = method)
    (exchanged : world.Exchanged (tried.map Try.toExchange) sent.world)
    (tries : (chunkRequest method chunk).Tries config start tried sent.state)
    (delivers : Delivers (tried.map (·.submission chunk config)) sent.state sent.result) :
    Delivered chunk config start world (tried.map (·.submission chunk config)) sent where
  exchanged := by rwa [List.map_map]
  submissions := tries_submissions tries same
  place := by simp [Try.submission]
  ends := delivers

theorem chunk_delivered (config : ExecutionConfig) (start : Transaction) (world : World)
    (chunk : Nat) :
    ∃ made, Delivered chunk config start world made
      ((chunkRequest start.payload.method chunk).execute config start world) := by
  have lawful := chunkRequest_lawful start.payload.method chunk
  rcases Request.execute_ends lawful config start world with
    ⟨cause, none, executed⟩ | ⟨nodes, tried, -, exchanged, tries, ends⟩
  · rw [executed]
    exact ⟨[], World.exchanged_candidates world _, .nil _, by simp, .refused (by simp)⟩
  · exact ⟨_, tries_delivered rfl exchanged tries (ends_delivers tries ends)⟩

/-- What came out is what the transaction, as it is then, says of an accepted chunk. -/
theorem chunkRequest_gives {method : Method} {response : TransactionResponse}
    (ok : ((chunkRequest method chunk).execute config start world).result = .ok response) :
    ∃ node, ((chunkRequest method chunk).execute config start world).state.response chunk node =
      .ok response := by
  rcases Request.execute_ends (chunkRequest_lawful method chunk) config start world with
    ⟨cause, none, executed⟩ | ⟨nodes, tried, -, -, -, ends⟩
  · rw [executed] at ok
    cases ok
  · generalize (chunkRequest method chunk).execute config start world = sent at *
    obtain ⟨result, final, after⟩ := sent
    dsimp only at ok ends ⊢
    subst ok
    cases ends with
    | stopped within stops =>
        cases stops with
        | @settled last _ inMade unchanged settles =>
            generalize outcome : Except.ok response = result at settles
            generalize last.reply = reply at settles
            cases settles with
            | accepted decoded _ => exact ⟨last.call.node, rfl⟩
            | rejected _ _ | broken _ | undecodable _ => cases outcome

/-- The submissions of several chunks, one chunk after the other up to the first that fails. -/
inductive Chunked (config : ExecutionConfig) : Transaction → World → Nat → Nat →
    List Submission → Finished Transaction (List TransactionResponse) → Prop
  | done (start : Transaction) (world : World) (chunk : Nat) :
      Chunked config start world chunk 0 [] { result := .ok [], state := start, world }
  | failed {start state : Transaction} {world after : World} {chunk count : Nat}
      {made : List Submission} {error : Error}
      (delivered : Delivered chunk config start world made
        { result := .error error, state, world := after }) :
      Chunked config start world chunk (count + 1) made
        { result := .error error, state, world := after }
  | next {start middle : Transaction} {world after : World} {chunk count : Nat}
      {first later : List Submission} {response : TransactionResponse}
      {sent : Finished Transaction (List TransactionResponse)}
      (delivered : Delivered chunk config start world first
        { result := .ok response, state := middle, world := after })
      (given : ∃ node, middle.response chunk node = .ok response)
      (rest : Chunked config middle after (chunk + 1) count later sent) :
      Chunked config start world chunk (count + 1) (first ++ later)
        { sent with result := sent.result.map (response :: ·) }

theorem submitChunks_chunked (config : ExecutionConfig) (start : Transaction) (world : World)
    (chunk count : Nat) :
    ∃ made, Chunked config start world chunk count made
      (submitChunks config start world chunk count) := by
  induction count generalizing start world chunk with
  | zero => exact ⟨[], .done start world chunk⟩
  | succ count ih =>
      obtain ⟨first, delivered⟩ := chunk_delivered config start world chunk
      simp only [submitChunks]
      have gives : ∀ response,
          ((chunkRequest start.payload.method chunk).execute config start world).result =
            .ok response → _ := fun response => chunkRequest_gives
      generalize (chunkRequest start.payload.method chunk).execute config start world = sent at *
      obtain ⟨result, middle, after⟩ := sent
      cases result with
      | error error => exact ⟨first, .failed delivered⟩
      | ok response =>
          obtain ⟨later, rest⟩ := ih middle after (chunk + 1)
          exact ⟨first ++ later, .next delivered (gives response rfl) rest⟩

/-- The submissions of several chunks. -/
structure Sent (config : ExecutionConfig) (start : Transaction) (world : World)
    (made : List Submission) (sent : Finished Transaction (List TransactionResponse)) : Prop where
  exchanged : world.Exchanged (made.map fun submission => submission.toExchange) sent.world
  submissions : Submissions start made sent.state
  settings : ∀ submission ∈ made, submission.config = config
  answers : ∀ responses, sent.result = .ok responses →
    ∀ response ∈ responses, ∃ submission ∈ made, Answers response submission

theorem Chunked.sent {count : Nat} {made : List Submission}
    {sent : Finished Transaction (List TransactionResponse)}
    (chunked : Chunked config start world chunk count made sent) :
    Sent config start world made sent := by
  induction chunked with
  | done start world chunk =>
      refine ⟨.refl _, .nil _, by simp, ?_⟩
      intro responses result
      cases result
      simp
  | failed delivered =>
      refine ⟨delivered.exchanged, delivered.submissions,
        fun submission member => (delivered.place submission member).2, ?_⟩
      intro responses result
      cases result
  | @next start middle world after chunk count first later response sent delivered given rest ih =>
      refine ⟨?_, delivered.submissions.append ih.submissions, List.forall_mem_append.mpr
        ⟨fun submission member => (delivered.place submission member).2, ih.settings⟩, ?_⟩
      · rw [List.map_append]
        exact delivered.exchanged.trans ih.exchanged
      · intro responses result
        obtain ⟨answered, others, rfl⟩ := map_eq_ok.mp result
        intro other member
        rcases List.mem_cons.mp member with rfl | member
        · cases delivered.ends with
          | accepted split refused answers unchanged =>
              exact ⟨_, by simp [split], answers⟩
        · obtain ⟨submission, inside, answers⟩ := ih.answers answered others other member
          exact ⟨submission, List.mem_append_right _ inside, answers⟩

theorem submitChunks_sent (config : ExecutionConfig) (start : Transaction) (world : World)
    (chunk count : Nat) :
    ∃ made, Sent config start world made (submitChunks config start world chunk count) := by
  obtain ⟨made, chunked⟩ := submitChunks_chunked config start world chunk count
  exact ⟨made, chunked.sent⟩

/-- The operator's signature adds to the bodies and changes nothing else. -/
structure Countersigned (transaction ready : Transaction) : Prop
    extends transaction.Continues ready where
  id : ready.id = transaction.id

theorem signWithOperator_countersigned (frozen : start.isFrozen = true) (client : Client) :
    ∃ ready, start.signWithOperator client = .ok ready ∧ Countersigned start ready := by
  have same : Countersigned start start := ⟨.refl start, rfl⟩
  unfold signWithOperator
  split
  · split
    · rename_i pays
      simp only [Bool.and_eq_true, Bool.not_eq_true'] at pays
      obtain ⟨stored, held⟩ := Option.isSome_iff_exists.mp frozen
      simp only [signWith, pays.2, Bool.false_eq_true, ↓reduceIte, held]
      refine ⟨_, rfl, ⟨rfl, rfl, rfl, ?_, ?_⟩, rfl⟩
      · simp [isFrozen, held]
      · simp [chunkCount, held]
    · exact ⟨start, rfl, same⟩
  · exact ⟨start, rfl, same⟩

/-- A frozen transaction only gets its operator's signature before it is sent. -/
theorem executeAll_frozen (frozen : start.isFrozen = true) (client : Client) (world : World) :
    ∃ ready, start.signWithOperator client = .ok ready ∧ Countersigned start ready ∧
      start.executeAll client world =
        submitChunks (start.executionFor client) ready world 0 start.chunkCount := by
  obtain ⟨ready, signed, same⟩ := signWithOperator_countersigned frozen client
  refine ⟨ready, signed, same, ?_⟩
  have settings : ready.executionFor client = start.executionFor client := by
    simp only [executionFor, same.execution]
  simp only [executeAll, frozen, ↓reduceIte, signed, same.chunkCount, settings]

/-- What a transaction is when the first of its chunks is sent. One that cannot be frozen stays as
it is, and nothing is sent. -/
inductive Readied (client : Client) : Transaction → Transaction → Prop
  | unfrozen {start : Transaction} (unfrozen : start.isFrozen = false) : Readied client start start
  | countersigned {start ready : Transaction} (frozen : start.isFrozen = true)
      (signed : start.signWithOperator client = .ok ready) (same : Countersigned start ready) :
      Readied client start ready
  | froze {start frozen ready : Transaction} {world after : World}
      (unfrozen : start.isFrozen = false)
      (froze : start.freezeWith (some client) world = (.ok frozen, after))
      (signed : frozen.signWithOperator client = .ok ready) (same : Countersigned frozen ready) :
      Readied client start ready

namespace Readied

variable {client : Client} {ready : Transaction}

theorem payload (readied : Readied client start ready) : ready.payload = start.payload := by
  cases readied with
  | unfrozen _ => rfl
  | countersigned _ _ same => exact same.payload
  | froze _ froze _ same =>
      obtain ⟨_, _, _, _, _, payload, _⟩ := freezeWith_frozen froze
      exact same.payload.trans payload

theorem execution (readied : Readied client start ready) : ready.execution = start.execution := by
  cases readied with
  | unfrozen _ => rfl
  | countersigned _ _ same => exact same.execution
  | froze _ froze _ same =>
      obtain ⟨_, _, _, _, _, _, execution, _⟩ := freezeWith_frozen froze
      exact same.execution.trans execution

theorem ofFrozen (readied : Readied client start ready) (frozen : start.isFrozen = true) :
    Countersigned start ready := by
  cases readied with
  | countersigned _ _ same => exact same
  | unfrozen unfrozen | froze unfrozen _ _ _ =>
      rw [frozen] at unfrozen
      contradiction

end Readied

/-- Sending comes to nothing when the transaction cannot be frozen. Otherwise it is made ready, and
then its chunks are sent. -/
inductive Prepares (client : Client) (start : Transaction) (world : World) :
    Finished Transaction (List TransactionResponse) → Prop
  | unfrozen {error : Error} {after : World} (unfrozen : start.isFrozen = false)
      (quiet : world.Exchanged [] after) :
      Prepares client start world { result := .error error, state := start, world := after }
  | ready {ready : Transaction} {middle : World} (readied : Readied client start ready)
      (frozen : ready.isFrozen = true) (quiet : world.Exchanged [] middle) :
      Prepares client start world
        (submitChunks (start.executionFor client) ready middle 0 ready.chunkCount)

theorem executeAll_prepares (start : Transaction) (client : Client) (world : World) :
    Prepares client start world (start.executeAll client world) := by
  cases isFrozen : start.isFrozen with
  | true =>
      obtain ⟨ready, signed, same, executed⟩ := executeAll_frozen isFrozen client world
      rw [executed, ← same.chunkCount]
      exact .ready (.countersigned isFrozen signed same) (same.isFrozen.trans isFrozen)
        (.refl world)
  | false =>
      have quiet := exchanged_freezeWith start (some client) world
      cases froze : start.freezeWith (some client) world with
      | mk outcome after =>
          rw [froze] at quiet
          cases outcome with
          | error error =>
              have executed : start.executeAll client world =
                  { result := .error error, state := start, world := after } := by
                simp [executeAll, isFrozen, froze]
              rw [executed]
              exact .unfrozen isFrozen quiet
          | ok frozen =>
              obtain ⟨_, _, _, _, stored, _, execution, _⟩ := freezeWith_frozen froze
              have nowFrozen : frozen.isFrozen = true := by simp [Transaction.isFrozen, stored]
              have settings : frozen.executionFor client = start.executionFor client := by
                simp only [executionFor, execution]
              have executed :
                  start.executeAll client world = frozen.executeAll client after := by
                simp [executeAll, isFrozen, nowFrozen, froze]
              obtain ⟨ready, signed, same, sending⟩ := executeAll_frozen nowFrozen client after
              rw [executed, sending, settings, ← same.chunkCount]
              exact .ready (.froze isFrozen froze signed same) (same.isFrozen.trans nowFrozen) quiet

theorem executeAll_sent (start : Transaction) (client : Client) (world : World) :
    ∃ ready made, Readied client start ready ∧
      Sent (start.executionFor client) ready world made (start.executeAll client world) := by
  have prepares := executeAll_prepares start client world
  generalize start.executeAll client world = sent at *
  cases prepares with
  | unfrozen unfrozen quiet =>
      refine ⟨start, [], .unfrozen unfrozen, quiet, .nil _, by simp, ?_⟩
      intro responses result
      cases result
  | @ready ready middle readied frozen quiet =>
      obtain ⟨made, sent⟩ :=
        submitChunks_sent (start.executionFor client) ready middle 0 ready.chunkCount
      exact ⟨ready, made, readied, { sent with exchanged := quiet.afterQuiet sent.exchanged }⟩

end Transaction

end LedgerClient
