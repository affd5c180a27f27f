import LedgerClient.Text.Decimal

/-!
Lengths of time in whole nanoseconds. The longest is one nanosecond short of 2⁶⁴ seconds, and
arithmetic that would pass it stops there.
-/

namespace LedgerClient

structure Duration where
  nanos : Nat
  le_longest : nanos ≤ UInt64.size * 1000000000 - 1
deriving DecidableEq

namespace Duration

def longest : Duration where
  nanos := UInt64.size * 1000000000 - 1
  le_longest := Nat.le_refl _

/-- As many nanoseconds as `nanos` says, or the longest duration if that is shorter. -/
def ofNanos (nanos : Nat) : Duration where
  nanos := min nanos longest.nanos
  le_longest := Nat.min_le_right _ _

def ofMillis (millis : Nat) : Duration :=
  ofNanos (millis * 1000000)

def ofSeconds (seconds : Nat) : Duration :=
  ofNanos (seconds * 1000000000)

def zero : Duration :=
  ofNanos 0

instance : Inhabited Duration := ⟨zero⟩

instance : LE Duration := ⟨fun left right => left.nanos ≤ right.nanos⟩

instance (left right : Duration) : Decidable (left ≤ right) :=
  inferInstanceAs (Decidable (left.nanos ≤ right.nanos))

theorem le_iff {left right : Duration} : left ≤ right ↔ left.nanos ≤ right.nanos := Iff.rfl

def lesser (left right : Duration) : Duration :=
  if left ≤ right then left else right

def greater (left right : Duration) : Duration :=
  if left ≤ right then right else left

def scale (duration : Duration) (factor : Nat) : Duration :=
  ofNanos (duration.nanos * factor)

/-- Half, rounded down to a nanosecond. -/
def half (duration : Duration) : Duration :=
  ofNanos (duration.nanos / 2)

theorem ext_nanos {left right : Duration} (same : left.nanos = right.nanos) : left = right := by
  cases left
  cases right
  cases same
  rfl

@[simp] theorem nanos_lesser (left right : Duration) :
    (lesser left right).nanos = min left.nanos right.nanos := by
  unfold lesser
  split <;> rename_i order <;> rw [le_iff] at order <;> omega

@[simp] theorem nanos_greater (left right : Duration) :
    (greater left right).nanos = max left.nanos right.nanos := by
  unfold greater
  split <;> rename_i order <;> rw [le_iff] at order <;> omega

theorem nanos_ofNanos (nanos : Nat) : (ofNanos nanos).nanos = min nanos longest.nanos := rfl

/-- The digits of `whole`, and those of `fraction` after a point, without the zeros at its end. -/
def pointText (whole fraction width : Nat) : String :=
  let digits := (Decimal.padded width fraction).toList
  let kept := (digits.reverse.dropWhile (· == '0')).reverse
  toString whole ++ String.ofList (if kept.isEmpty then [] else '.' :: kept)

/-- The duration in the largest unit it holds a whole one of. -/
def text (duration : Duration) : String :=
  let nanos := duration.nanos
  if nanos ≥ 1000000000 then pointText (nanos / 1000000000) (nanos % 1000000000) 9 ++ "s"
  else if nanos ≥ 1000000 then pointText (nanos / 1000000) (nanos % 1000000) 6 ++ "ms"
  else if nanos ≥ 1000 then pointText (nanos / 1000) (nanos % 1000) 3 ++ "µs"
  else toString nanos ++ "ns"

end Duration

end LedgerClient
