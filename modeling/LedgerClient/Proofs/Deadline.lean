import LedgerClient.Proofs.Execution.Timeline
import LedgerClient.Proofs.Requests

/-!
What a deadline changes about a request. Until it strikes, the request does what it would do without
one: the same calls at the same instants, with the same effect on the nodes. It strikes in the pause
that the request without a deadline makes at that instant, and leaves everything as it is in this
pause. A request that needs no longer does not notice it.
-/

namespace LedgerClient

namespace Course

variable {σ ρ α β : Type} {worldOf : β → World} {request : Request σ ρ α} {world : World}
  {course : Course σ α β} {calling : Bool} {progress : Progress σ} {finished : Finished σ α}
  {limit : Instant}

/-- At this instant the course is in a pause: those before are over, and this one has begun and
lasts longer. -/
inductive PausedAt (limit : Instant) (calling : Bool) (progress : Progress σ) :
    Course σ α β → Prop
  | here {moment : Instant} {rest : Course σ α β} (begun : progress.world.now ≤ limit)
      (lasting : limit < moment) :
      PausedAt limit calling progress (pause calling progress moment rest)
  | later {other : Bool} {earlier : Progress σ} {moment : Instant} {rest : Course σ α β}
      (passed : moment ≤ limit) (paused : PausedAt limit calling progress rest) :
      PausedAt limit calling progress (pause other earlier moment rest)

theorem under_passed {moment : Instant} {rest : Course σ α β} (passed : moment ≤ limit) :
    (pause calling progress moment rest).under request (some limit) =
      rest.under request (some limit) := by
  have notYet : ¬ limit < moment := Nat.not_lt.mpr passed
  simp only [under, Request.waitUntil, if_neg notYet]
  rfl

/-- A deadline in a pause gives the request up as it is then. -/
theorem PausedAt.under (paused : PausedAt limit calling progress course) :
    course.under request (some limit) =
      .error
        { result := .error (.deadlineExceeded (request.id progress.state))
          state := progress.state
          world := progress.world.breakOff calling limit } := by
  induction paused with
  | here begun lasting =>
      simp only [Course.under, Request.waitUntil, if_pos lasting]
      rfl
  | later passed paused ih => rw [under_passed passed, ih]

/-- What is exchanged along a course, none of it before the course begins. -/
theorem Timely.exchanged (timely : Timely worldOf world course)
    (whole : course.under request none = .error finished) :
    world.now ≤ finished.world.now ∧ ∃ made, world.Exchanged made finished.world ∧
      ∀ exchange ∈ made, world.now ≤ exchange.call.time := by
  induction timely with
  | next atOnce => cases whole
  | ended atOnce =>
      cases whole
      refine ⟨Nat.le_of_eq (congrArg Instant.nanos atOnce.now.symm), _, atOnce.exchanged, ?_⟩
      intro exchange member
      exact Nat.le_of_eq (congrArg Instant.nanos (atOnce.times exchange member).symm)
  | @pause world first calling progress moment rest atOnce onward awaits timely ih =>
      obtain ⟨forward, later, exchanged, times⟩ := ih whole
      have begun : world.now ≤ moment := by
        rw [← atOnce.now]
        exact onward
      have waited : progress.world.Exchanged later finished.world :=
        (World.exchanged_wait progress.world moment).afterQuiet exchanged
      refine ⟨Nat.le_trans begun forward, _, atOnce.exchanged.trans waited, ?_⟩
      intro exchange member
      rcases List.mem_append.mp member with early | late
      · exact Nat.le_of_eq (congrArg Instant.nanos (atOnce.times exchange early).symm)
      · exact Nat.le_trans begun (times exchange late)

/-- A course that ends by the deadline is not cut off. -/
theorem Timely.inTime (timely : Timely worldOf world course)
    (whole : course.under request none = .error finished) (soon : finished.world.now ≤ limit) :
    course.under request (some limit) = .error finished := by
  induction timely with
  | next atOnce => cases whole
  | ended atOnce => exact whole
  | pause atOnce onward awaits timely ih =>
      have passed := (timely.exchanged whole).1
      rw [under_passed (Nat.le_trans passed soon), ih whole]

/-- What is left at some instant of the calls that were made by then. A call whose reply is still
waited for is given up. -/
inductive Leaves (limit : Instant) (before : World) (made : List Exchange) (middle : World) :
    Bool → Prop
  | idle (exchanged : before.Exchanged made middle) : Leaves limit before made middle false
  | calling {earlier : List Exchange} {last : Exchange} {ending : Instant}
      (split : made = earlier ++ [last]) (ends : last.overAt? = some ending) (late : limit < ending)
      (cut : before.Exchanged (earlier ++ [last.cut]) middle) : Leaves limit before made middle true

theorem Leaves.after {before between middle : World} {first made : List Exchange}
    (earlier : before.Exchanged first between) (leaves : Leaves limit between made middle calling) :
    Leaves limit before (first ++ made) middle calling := by
  cases leaves with
  | idle exchanged => exact .idle (earlier.trans exchanged)
  | calling split ends late cut =>
      exact .calling (by rw [split, List.append_assoc]) ends late
        (List.append_assoc .. ▸ earlier.trans cut)

/-- A call stays open if it is waited for until a later moment. -/
theorem leaves_breakOff {middle : World} {made : List Exchange} {moment : Instant}
    (exchanged : world.Exchanged made middle) (late : limit < moment)
    (awaits : calling = true → World.LastUntil made moment) :
    Leaves limit world made (middle.breakOff calling limit) calling := by
  cases calling with
  | false => exact .idle (exchanged.thenQuiet (World.exchanged_wait _ limit))
  | true =>
      obtain ⟨earlier, last, rfl, ends⟩ := awaits rfl
      exact .calling rfl ends late (exchanged.hangUp.thenQuiet (World.exchanged_wait _ limit))

/-- What was exchanged before the pause at some instant, and what will be after it. -/
structure Divides (limit : Instant) (calling : Bool) (before middle after : World) : Prop where
  split : ∃ made later, before.Exchanged (made ++ later) after ∧
    Leaves limit before made middle calling ∧
    (∀ exchange ∈ made, exchange.call.time ≤ limit) ∧
    ∀ exchange ∈ later, limit < exchange.call.time

/-- A course that lasts longer pauses when the deadline strikes. -/
theorem Timely.pausedAt (timely : Timely worldOf world course)
    (whole : course.under request none = .error finished) (begun : world.now ≤ limit)
    (late : limit < finished.world.now) :
    ∃ calling progress, PausedAt limit calling progress course ∧
      Divides limit calling world (progress.world.breakOff calling limit) finished.world := by
  induction timely with
  | next atOnce => cases whole
  | ended atOnce =>
      cases whole
      rw [atOnce.now] at late
      exact absurd begun (Nat.not_le.mpr late)
  | @pause world first calling progress moment rest atOnce onward awaits timely ih =>
      have prompt : ∀ exchange ∈ first, exchange.call.time ≤ limit := by
        intro exchange member
        rw [atOnce.times exchange member]
        exact begun
      rcases Nat.lt_or_ge limit.nanos moment.nanos with lasting | passed
      · obtain ⟨-, later, exchanged, times⟩ := timely.exchanged whole
        have since : progress.world.now ≤ limit := by
          rw [atOnce.now]
          exact begun
        have waited : progress.world.Exchanged later finished.world :=
          (World.exchanged_wait progress.world moment).afterQuiet exchanged
        refine ⟨calling, progress, .here since lasting, first, later, atOnce.exchanged.trans waited,
          leaves_breakOff atOnce.exchanged lasting awaits, prompt, ?_⟩
        exact fun exchange member => Nat.lt_of_lt_of_le lasting (times exchange member)
      · obtain ⟨awaited, paused, there, made, later, exchanged, leaves, early, late⟩ :=
          ih whole passed
        have waited : world.Exchanged first { progress.world with now := moment } :=
          atOnce.exchanged.thenQuiet (World.exchanged_wait progress.world moment)
        exact ⟨awaited, paused, .later passed there, first ++ made, later,
          List.append_assoc first made later ▸ waited.trans exchanged, leaves.after waited,
          List.forall_mem_append.mpr ⟨prompt, early⟩, late⟩

end Course

/-! ## The same request with a deadline and without -/

namespace Request

variable {σ ρ α : Type}

/-- How a request that has to be over by a deadline compares to the same request without one. -/
structure BoundedBy (request : Request σ ρ α) (course : Course σ α Empty) (limit : Instant)
    (world : World) (bounded unbounded : Finished σ α) : Prop where
  whole : course.under request none = .error unbounded
  timely : course.Timely Empty.elim world
  inTime : unbounded.world.now ≤ limit → bounded = unbounded
  overdue : limit < unbounded.world.now → ∃ calling progress,
    course.PausedAt limit calling progress ∧
    bounded =
      { result := .error (.deadlineExceeded (request.id progress.state))
        state := progress.state
        world := progress.world.breakOff calling limit } ∧
    Course.Divides limit calling world bounded.world unbounded.world

theorem execute_boundedBy {request : Request σ ρ α} (renews : request.RenewsAtOnce)
    {config : ExecutionConfig} {timeout : Duration}
    (limited : config.requestTimeout = some timeout) (state : σ) (world : World) :
    request.BoundedBy (request.course config state world) (world.now.wakeAfter timeout) world
      (request.execute config state world) (request.execute (unlimited config) state world) := by
  have timely := timely_course renews config state world
  have bounded := under_course request config state world
  rw [limited] at bounded
  have whole := under_course request (unlimited config) state world
  rw [course_unlimited] at whole
  refine ⟨whole, timely, ?inTime, ?overdue⟩
  case inTime =>
    intro soon
    have same := timely.inTime whole soon
    exact Except.error.inj (bounded.symm.trans same)
  case overdue =>
    intro late
    obtain ⟨calling, progress, paused, divides⟩ :=
      timely.pausedAt whole (Instant.le_wakeAfter world.now timeout) late
    have given := Except.error.inj (bounded.symm.trans paused.under)
    refine ⟨calling, progress, paused, given, ?_⟩
    rw [given]
    exact divides

end Request

theorem Transaction.atOnce_regenerate (transaction : Transaction) (world : World) :
    world.AtOnce [] (transaction.regenerate world).2 := by
  apply World.AtOnce.quiet (transaction.exchanged_regenerate world)
  unfold regenerate
  split
  · split
    · rfl
    · dsimp only
      split <;> rfl
  · rfl

theorem Driven.renewsAtOnce {σ ρ α : Type} {request : Request σ ρ α} {state : σ}
    (driven : Driven request state) : request.RenewsAtOnce := by
  cases driven with
  | chunk obtainable inside => exact Transaction.atOnce_regenerate
  | cost query => exact fun _ world => .refl world
  | answer query view payment => exact fun _ world => .refl world

/-- A request with a time limit is the request without one, if that is over by then. If it is not,
it is given up when the time has run out, with what the other has done and is by then. -/
theorem Driven.execute_bounded {σ ρ α : Type} {request : Request σ ρ α} {state : σ}
    (driven : Driven request state) {config : ExecutionConfig} {timeout : Duration}
    (limited : config.requestTimeout = some timeout) (world : World) :
    request.BoundedBy (request.course config state world) (world.now.wakeAfter timeout) world
      (request.execute config state world)
      (request.execute (Request.unlimited config) state world) :=
  Request.execute_boundedBy driven.renewsAtOnce limited state world

end LedgerClient

/-! ## A node that is busy or slow for too long -/

namespace LedgerClient.Sample

def hasty : ExecutionConfig :=
  { config with requestTimeout := some (Duration.ofMillis 100) }

/-- The node would accept the second try, which comes too late. -/
def busyWorld : World :=
  world [answer .busy, answer .ok]

def firstChunk : Request Transaction SubmitResponse TransactionResponse :=
  Transaction.chunkRequest frozen.payload.method 0

theorem firstChunk_bounded :
    0 < frozen.chunkCount ∧ hasty.requestTimeout = some (Duration.ofMillis 100) ∧
      firstChunk.BoundedBy (firstChunk.course hasty frozen busyWorld)
        (busyWorld.now.wakeAfter (Duration.ofMillis 100)) busyWorld
        (firstChunk.execute hasty frozen busyWorld)
        (firstChunk.execute (Request.unlimited hasty) frozen busyWorld) := by
  have inside : 0 < frozen.chunkCount := by
    rw [frozen_chunkCount]
    decide
  exact ⟨inside, rfl, (Driven.chunk frozen_obtainable inside).execute_bounded rfl busyWorld⟩

example : (firstChunk.execute hasty frozen busyWorld).world.calls.length = 1 ∧
    (firstChunk.execute (Request.unlimited hasty) frozen busyWorld).world.calls.length = 2 := by
  decide +kernel

/-- The node accepts the first try, but takes too long to say so. -/
def slowWorld : World :=
  world [.answered (Wire.encode ({ precheck := .ok, cost := 0 } : SubmitResponse))
    (Duration.ofMillis 150)]

example : (firstChunk.execute hasty frozen slowWorld).world.waits = [none] ∧
    (firstChunk.execute (Request.unlimited hasty) frozen slowWorld).world.waits =
      [some config.attemptTimeout] := by
  decide +kernel

end LedgerClient.Sample
