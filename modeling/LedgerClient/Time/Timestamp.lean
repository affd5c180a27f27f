import LedgerClient.Time.Duration

/-!
Moments of the calendar, in seconds and nanoseconds since 1970. A timestamp may hold a second or
more of nanoseconds; it then stands for the moment to which they carry over.
-/

namespace LedgerClient

structure Timestamp where
  seconds : UInt64
  nanos : UInt32
deriving DecidableEq, Inhabited

namespace Timestamp

def zero : Timestamp :=
  { seconds := 0, nanos := 0 }

/-- The time since 1970, with nanoseconds of a second or more carried over. -/
def toDuration (moment : Timestamp) : Duration :=
  Duration.ofNanos (moment.seconds.toNat * 1000000000 + moment.nanos.toNat)

def ofDuration (duration : Duration) : Timestamp where
  seconds := UInt64.ofNat (duration.nanos / 1000000000)
  nanos := UInt32.ofNat (duration.nanos % 1000000000)

/-- The moment `duration` earlier, or the start of 1970 if that is later. -/
def saturatingSub (moment : Timestamp) (duration : Duration) : Timestamp :=
  ofDuration (Duration.ofNanos (moment.toDuration.nanos - duration.nanos))

/-- Seconds first, then nanoseconds as they are written. -/
def compare (left right : Timestamp) : Ordering :=
  (Ord.compare left.seconds.toNat right.seconds.toNat).then
    (Ord.compare left.nanos.toNat right.nanos.toNat)

def text (moment : Timestamp) : String :=
  toString moment.seconds.toNat ++ "." ++ Decimal.padded 9 moment.nanos.toNat

end Timestamp

end LedgerClient
