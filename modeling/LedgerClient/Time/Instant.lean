import LedgerClient.Time.Duration

/-!
Moments of the clock that delays and timers are measured on, as nanoseconds since it started. A
moment 2⁶³ seconds or more after the start cannot be represented. Timers fire on whole
milliseconds.
-/

namespace LedgerClient

structure Instant where
  nanos : Nat
deriving DecidableEq

namespace Instant

def start : Instant :=
  { nanos := 0 }

instance : LE Instant := ⟨fun left right => left.nanos ≤ right.nanos⟩

instance (left right : Instant) : Decidable (left ≤ right) :=
  inferInstanceAs (Decidable (left.nanos ≤ right.nanos))

instance : LT Instant := ⟨fun left right => left.nanos < right.nanos⟩

instance (left right : Instant) : Decidable (left < right) :=
  inferInstanceAs (Decidable (left.nanos < right.nanos))

/-- The moment `duration` later. -/
def after (moment : Instant) (duration : Duration) : Instant :=
  { nanos := moment.nanos + duration.nanos }

def isRepresentable (moment : Instant) : Prop :=
  moment.nanos < UInt64.size / 2 * 1000000000

instance (moment : Instant) : Decidable moment.isRepresentable :=
  inferInstanceAs (Decidable (moment.nanos < UInt64.size / 2 * 1000000000))

def farFuture : Duration :=
  Duration.ofSeconds (30 * 365 * 86400)

/-- When a wait of `duration` from `now` is over: after thirty years if the clock does not reach
further. -/
def due (now : Instant) (duration : Duration) : Instant :=
  if (now.after duration).isRepresentable then now.after duration else now.after farFuture

/-- The time from `now` up to `moment`, nothing once it has passed. -/
def remainingAt (moment now : Instant) : Duration :=
  Duration.ofNanos (moment.nanos - now.nanos)

def millisecond : Nat := 1000000

/-- Where the clock stands after a wait from `now` for `moment`: the timer is set for the next whole
millisecond, and the clock is moved by whole milliseconds. -/
def wakeFrom (now moment : Instant) : Instant :=
  if moment ≤ now then now
  else
    let due := (moment.nanos + (millisecond - 1)) / millisecond
    { nanos := now.nanos + (due - now.nanos / millisecond) * millisecond }

/-- Where the clock stands after a wait of `duration`. -/
def wakeAfter (now : Instant) (duration : Duration) : Instant :=
  wakeFrom now (due now duration)

theorem le_wakeFrom (now moment : Instant) : now ≤ wakeFrom now moment := by
  unfold wakeFrom
  split
  · exact Nat.le_refl _
  · exact Nat.le_add_right _ _

end Instant

end LedgerClient
