import LedgerClient.Time.Instant

/-!
How well a node has been doing. Every failure doubles the time for which the node is left alone,
every success halves it again, and both stay within bounds.
-/

namespace LedgerClient

structure Health where
  least : Duration
  most : Duration
  delay : Duration
  lastFailure : Option Instant
deriving DecidableEq

namespace Health

def make (least most : Duration) : Health :=
  { least, most, delay := least, lastFailure := none }

def recordFailure (health : Health) (now : Instant) : Health :=
  { health with delay := (health.delay.scale 2).lesser health.most, lastFailure := some now }

def recordSuccess (health : Health) : Health :=
  { health with delay := health.delay.half.greater health.least, lastFailure := none }

/-- A failure at some moment doubles the delay, as far as that may grow. -/
structure FailsAt (moment : Instant) (before after : Health) : Prop where
  least : after.least = before.least
  most : after.most = before.most
  delay : after.delay.nanos = min before.most.nanos (before.delay.nanos * 2)
  lastFailure : after.lastFailure = some moment

theorem recordFailure_fails (health : Health) (moment : Instant) :
    health.FailsAt moment (health.recordFailure moment) where
  least := rfl
  most := rfl
  delay := by
    have bounded : health.most.nanos ≤ Duration.longest.nanos := health.most.le_longest
    simp only [recordFailure, Duration.nanos_lesser, Duration.scale, Duration.nanos_ofNanos]
    omega
  lastFailure := rfl

/-- A success halves the delay, as far as that may shrink, and the last failure is forgotten. -/
structure Succeeds (before after : Health) : Prop where
  least : after.least = before.least
  most : after.most = before.most
  delay : after.delay.nanos = max before.least.nanos (before.delay.nanos / 2)
  lastFailure : after.lastFailure = none

theorem recordSuccess_succeeds (health : Health) : health.Succeeds health.recordSuccess where
  least := rfl
  most := rfl
  delay := by
    have bounded : health.delay.nanos ≤ Duration.longest.nanos := health.delay.le_longest
    simp only [recordSuccess, Duration.nanos_greater, Duration.half, Duration.nanos_ofNanos]
    omega
  lastFailure := rfl

def remaining (health : Health) (now : Instant) : Duration :=
  match health.lastFailure with
  | none => Duration.zero
  | some last =>
      let eligible := last.after health.delay
      if eligible.isRepresentable then eligible.remainingAt now else Duration.longest

def isHealthy (health : Health) (now : Instant) : Bool :=
  health.remaining now = Duration.zero

/-- Where the clock stands after waiting until the node may be asked again. -/
def eligibleFrom (health : Health) (now : Instant) : Instant :=
  now.wakeAfter (health.remaining now)

end Health

end LedgerClient
