import LedgerClient.Proofs.Network.Rotating
import Mathlib.Algebra.Group.Nat.Defs
import Mathlib.Data.List.Induction

/-!
How a node recovers. Its delay stays within its bounds whatever happens: failures double it up to the
longest, successes halve it down to the shortest. A node that failed last is left alone until its
delay has passed since then, and a wait for it ends when it is healthy again.
-/

namespace LedgerClient.Health

/-- What happens to a node, or while it is left alone. -/
inductive Event where
  | failure
  | success
  | wait
  | pass (time : Duration)
deriving DecidableEq

/-- The event says how the node is doing. -/
def Event.tells : Event → Bool
  | failure | success => true
  | wait | pass _ => false

/-- The health of a node, and the time on the clock. -/
structure Watch where
  health : Health
  now : Instant

namespace Watch

def begin (least most : Duration) (start : Instant) : Watch :=
  { health := make least most, now := start }

def next (watch : Watch) : Event → Watch
  | .failure => { watch with health := watch.health.recordFailure watch.now }
  | .success => { watch with health := watch.health.recordSuccess }
  | .wait => { watch with now := watch.health.eligibleFrom watch.now }
  | .pass time => { watch with now := watch.now.after time }

def after (watch : Watch) (events : List Event) : Watch :=
  events.foldl next watch

def remaining (watch : Watch) : Duration :=
  watch.health.remaining watch.now

def isHealthy (watch : Watch) : Bool :=
  watch.health.isHealthy watch.now

/-- The last event that said how the node is doing was a failure at this moment. -/
def FailedLast (watch : Watch) (events : List Event) (moment : Instant) : Prop :=
  ∃ earlier later, events = earlier ++ .failure :: later ∧
    (∀ event ∈ later, event.tells = false) ∧ moment = (watch.after earlier).now

variable {watch : Watch} {events earlier : List Event} {event : Event} {least most : Duration}
  {moment : Instant}

@[simp] theorem after_nil (watch : Watch) : watch.after [] = watch := rfl

@[simp] theorem after_concat (watch : Watch) (events : List Event) (event : Event) :
    watch.after (events ++ [event]) = (watch.after events).next event := by
  simp [after]

theorem after_append (watch : Watch) (earlier events : List Event) :
    watch.after (earlier ++ events) = (watch.after earlier).after events :=
  List.foldl_append

/-! ## The delay -/

/-- The bounds are those the node was made with, and the delay lies between them. -/
structure Within (least most : Duration) (watch : Watch) : Prop where
  shortest : watch.health.least = least
  longest : watch.health.most = most
  lower : least ≤ watch.health.delay
  upper : watch.health.delay ≤ most

theorem Within.failed (within : Within least most watch) :
    (watch.next .failure).health.delay.nanos =
      min most.nanos (watch.health.delay.nanos * 2) := by
  rw [← within.longest]
  exact (recordFailure_fails watch.health watch.now).delay

theorem Within.succeeded (within : Within least most watch) :
    (watch.next .success).health.delay.nanos =
      max least.nanos (watch.health.delay.nanos / 2) := by
  rw [← within.shortest]
  exact (recordSuccess_succeeds watch.health).delay

theorem next_delay (quiet : event.tells = false) :
    (watch.next event).health.delay = watch.health.delay := by
  cases event with
  | failure | success => cases quiet
  | wait | pass _ => rfl

theorem begin_within (order : least ≤ most) (start : Instant) :
    Within least most (begin least most start) :=
  ⟨rfl, rfl, Nat.le_refl _, order⟩

theorem Within.next (within : Within least most watch) (event : Event) :
    Within least most (watch.next event) := by
  have lower := within.lower
  have upper := within.upper
  rw [Duration.le_iff] at lower upper
  cases event with
  | failure =>
      have doubled := within.failed
      refine ⟨within.shortest, within.longest, ?_, ?_⟩ <;> rw [Duration.le_iff] <;> omega
  | success =>
      have halved := within.succeeded
      refine ⟨within.shortest, within.longest, ?_, ?_⟩ <;> rw [Duration.le_iff] <;> omega
  | wait | pass _ => exact ⟨within.shortest, within.longest, within.lower, within.upper⟩

theorem Within.after (within : Within least most watch) (events : List Event) :
    Within least most (watch.after events) := by
  induction events using List.reverseRecOn with
  | nil => exact within
  | append_singleton events event ih =>
      rw [after_concat]
      exact ih.next event

/-- Without a success among them, events double the delay once for every failure. -/
theorem Within.doubles (within : Within least most watch) (unresolved : .success ∉ events) :
    (watch.after events).health.delay.nanos =
      min most.nanos (watch.health.delay.nanos * 2 ^ events.count .failure) := by
  induction events using List.reverseRecOn with
  | nil =>
      have upper := within.upper
      rw [Duration.le_iff] at upper
      simp only [after_nil, List.count_nil, Nat.pow_zero, Nat.mul_one]
      omega
  | append_singleton events event ih =>
      simp only [List.mem_append, List.mem_singleton, not_or] at unresolved
      have before := ih unresolved.1
      rw [after_concat, List.count_append]
      cases event with
      | failure =>
          rw [(within.after events).failed, before, List.count_singleton_self, Nat.pow_succ,
            ← Nat.mul_assoc]
          omega
      | success => exact absurd rfl unresolved.2
      | wait | pass _ =>
          rw [next_delay rfl]
          simpa using before

/-- Without a failure among them, events halve the delay once for every success. -/
theorem Within.halves (within : Within least most watch) (untroubled : .failure ∉ events) :
    (watch.after events).health.delay.nanos =
      max least.nanos (watch.health.delay.nanos / 2 ^ events.count .success) := by
  induction events using List.reverseRecOn with
  | nil =>
      have lower := within.lower
      rw [Duration.le_iff] at lower
      simp only [after_nil, List.count_nil, Nat.pow_zero, Nat.div_one]
      omega
  | append_singleton events event ih =>
      simp only [List.mem_append, List.mem_singleton, not_or] at untroubled
      have before := ih untroubled.1
      rw [after_concat, List.count_append]
      cases event with
      | failure => exact absurd rfl untroubled.2
      | success =>
          rw [(within.after events).succeeded, before, List.count_singleton_self, Nat.pow_succ,
            ← Nat.div_div_eq_div_mul]
          omega
      | wait | pass _ =>
          rw [next_delay rfl]
          simpa using before

/-! ## The last failure -/

theorem failedLast_concat : watch.FailedLast (events ++ [event]) moment ↔
    event = .failure ∧ moment = (watch.after events).now ∨
      event.tells = false ∧ watch.FailedLast events moment := by
  constructor
  · rintro ⟨earlier, later, split, quiet, rfl⟩
    rcases List.eq_nil_or_concat later with rfl | ⟨others, final, rfl⟩
    · obtain ⟨rfl, last⟩ := List.append_inj' split rfl
      exact .inl ⟨List.singleton_inj.mp last, rfl⟩
    · have same : (earlier ++ .failure :: others) ++ [final] = events ++ [event] := by
        simpa using split.symm
      obtain ⟨rfl, last⟩ := List.append_inj' same rfl
      obtain rfl := List.singleton_inj.mp last
      refine .inr ⟨quiet final (by simp), earlier, others, rfl, ?_, rfl⟩
      exact fun other member => quiet other (by simp [member])
  · rintro (⟨rfl, rfl⟩ | ⟨silent, earlier, later, rfl, quiet, rfl⟩)
    · exact ⟨events, [], rfl, by simp, rfl⟩
    · refine ⟨earlier, later ++ [event], by simp, ?_, rfl⟩
      intro other member
      rcases List.mem_append.mp member with early | here
      · exact quiet other early
      · obtain rfl := List.mem_singleton.mp here
        exact silent

/-- A node remembers when it failed last, until it succeeds. -/
theorem lastFailure_after (fresh : watch.health.lastFailure = none) (events : List Event) :
    (watch.after events).health.lastFailure = some moment ↔ watch.FailedLast events moment := by
  induction events using List.reverseRecOn with
  | nil => simp [FailedLast, fresh]
  | append_singleton events event ih =>
      rw [after_concat, failedLast_concat]
      cases event with
      | failure => simp [next, recordFailure, Event.tells, eq_comm]
      | success => simp [next, recordSuccess, Event.tells]
      | wait | pass _ => simpa [next, Event.tells] using ih

theorem lastFailure_eq_none_iff (fresh : watch.health.lastFailure = none) (events : List Event) :
    (watch.after events).health.lastFailure = none ↔
      ∀ moment, ¬ watch.FailedLast events moment := by
  simp only [Option.eq_none_iff_forall_ne_some, ne_eq, lastFailure_after fresh]

end Watch

/-! ## The time that remains -/

theorem isHealthy_iff {health : Health} {now : Instant} :
    health.isHealthy now = true ↔ health.remaining now = Duration.zero :=
  decide_eq_true_iff

theorem remaining_ofNone {health : Health} (none : health.lastFailure = none) (now : Instant) :
    health.remaining now = Duration.zero := by
  simp only [remaining, none]

theorem remaining_ofRepresentable {health : Health} {last : Instant}
    (failed : health.lastFailure = some last)
    (representable : (last.after health.delay).isRepresentable) (now : Instant) :
    (health.remaining now).nanos = (last.after health.delay).nanos - now.nanos := by
  simp only [remaining, failed, if_pos representable, Instant.remainingAt, Duration.nanos_ofNanos]
  have bound : UInt64.size / 2 * 1000000000 ≤ Duration.longest.nanos := by decide
  rw [Instant.isRepresentable] at representable
  omega

theorem remaining_ofUnrepresentable {health : Health} {last : Instant}
    (failed : health.lastFailure = some last)
    (beyond : ¬ (last.after health.delay).isRepresentable) (now : Instant) :
    health.remaining now = Duration.longest := by
  simp only [remaining, failed, if_neg beyond]

/-- On a clock that has not run out, a node that failed is healthy once its delay has passed. -/
theorem isHealthy_iff_passed {health : Health} {last now : Instant}
    (failed : health.lastFailure = some last) (running : now.isRepresentable) :
    health.isHealthy now = true ↔ last.after health.delay ≤ now := by
  rw [isHealthy_iff]
  by_cases representable : (last.after health.delay).isRepresentable
  · have left := remaining_ofRepresentable failed representable now
    rw [Instant.le_iff]
    constructor
    · intro none
      have zero : (health.remaining now).nanos = 0 := by rw [none]; rfl
      omega
    · intro passed
      exact Duration.ext_nanos (left.trans (Nat.sub_eq_zero_of_le passed))
  · have left := remaining_ofUnrepresentable failed representable now
    constructor
    · intro none
      rw [left] at none
      exact absurd (congrArg Duration.nanos none) (by decide)
    · intro passed
      exact absurd (Nat.lt_of_le_of_lt passed running) representable

namespace Watch

/-- What is known of a node that was made with these bounds, after all that has happened to it since:
its delay, when it is healthy, how long it is still to be left alone, and what a wait leads to. A
delay that would be over at a moment which the clock cannot represent is never over. -/
structure Known (least most : Duration) (start : Instant) (events : List Event) (watch : Watch) :
    Prop where
  within : least ≤ watch.health.delay ∧ watch.health.delay ≤ most
  doubles : ∀ earlier later, events = earlier ++ later → .success ∉ later →
    watch.health.delay.nanos =
      min most.nanos
        (((begin least most start).after earlier).health.delay.nanos * 2 ^ later.count .failure)
  halves : ∀ earlier later, events = earlier ++ later → .failure ∉ later →
    watch.health.delay.nanos =
      max least.nanos
        (((begin least most start).after earlier).health.delay.nanos / 2 ^ later.count .success)
  healthy : watch.now.isRepresentable →
    (watch.isHealthy = true ↔
      (∀ moment, ¬ (begin least most start).FailedLast events moment) ∨
      ∃ moment, (begin least most start).FailedLast events moment ∧
        moment.after watch.health.delay ≤ watch.now)
  untroubled : (∀ moment, ¬ (begin least most start).FailedLast events moment) →
    watch.remaining = Duration.zero
  remaining : ∀ moment, (begin least most start).FailedLast events moment →
    (moment.after watch.health.delay).isRepresentable →
      watch.remaining.nanos = (moment.after watch.health.delay).nanos - watch.now.nanos
  unreachable : ∀ moment, (begin least most start).FailedLast events moment →
    ¬ (moment.after watch.health.delay).isRepresentable → watch.remaining = Duration.longest
  rested : (∀ moment, (begin least most start).FailedLast events moment →
      (moment.after watch.health.delay).isRepresentable) →
    (watch.next .wait).isHealthy = true

theorem after_known {least most : Duration} (order : least ≤ most) (start : Instant)
    (events : List Event) :
    Known least most start events ((begin least most start).after events) := by
  have inside := begin_within order start
  have fresh : (begin least most start).health.lastFailure = none := rfl
  have remembered (moment : Instant) :
      ((begin least most start).after events).health.lastFailure = some moment ↔
        (begin least most start).FailedLast events moment := lastFailure_after fresh events
  have resolved := lastFailure_eq_none_iff fresh events
  refine ⟨?_, ?_, ?_, ?_, ?_, ?_, ?_, ?_⟩
  · exact ⟨(inside.after events).lower, (inside.after events).upper⟩
  · rintro earlier later rfl unresolved
    rw [after_append]
    exact (inside.after earlier).doubles unresolved
  · rintro earlier later rfl untroubled
    rw [after_append]
    exact (inside.after earlier).halves untroubled
  · intro running
    cases failed : ((begin least most start).after events).health.lastFailure with
    | none =>
        have free := remaining_ofNone failed ((begin least most start).after events).now
        exact iff_of_true (isHealthy_iff.mpr free) (.inl (resolved.mp failed))
    | some last =>
        refine (isHealthy_iff_passed failed running).trans ⟨fun passed => ?_, ?_⟩
        · exact .inr ⟨last, (remembered last).mp failed, passed⟩
        · rintro (none | ⟨moment, found, passed⟩)
          · exact absurd ((remembered last).mp failed) (none last)
          · rw [← remembered, failed] at found
            cases found
            exact passed
  · intro none
    exact remaining_ofNone (resolved.mpr none) _
  · intro moment found representable
    exact remaining_ofRepresentable ((remembered moment).mpr found) representable _
  · intro moment found beyond
    exact remaining_ofUnrepresentable ((remembered moment).mpr found) beyond _
  · intro representable
    apply isHealthy_iff.mpr
    apply remaining_eligibleFrom
    intro last failed
    exact representable last ((remembered last).mp failed)

/-- Two failures and a wait, half a second later another failure. -/
theorem after_known_troubled :
    Duration.ofMillis 250 ≤ Duration.ofMillis 8000 ∧
      Known (Duration.ofMillis 250) (Duration.ofMillis 8000) Instant.start
        [.failure, .failure, .wait, .pass (Duration.ofMillis 500), .failure]
        ((begin (Duration.ofMillis 250) (Duration.ofMillis 8000) Instant.start).after
          [.failure, .failure, .wait, .pass (Duration.ofMillis 500), .failure]) :=
  ⟨by decide, after_known (by decide) _ _⟩

example : ((begin (Duration.ofMillis 250) (Duration.ofMillis 8000) Instant.start).after
    [.failure, .failure, .wait, .pass (Duration.ofMillis 500), .failure]).remaining =
      Duration.ofMillis 2000 := by
  decide

end Watch

end LedgerClient.Health
