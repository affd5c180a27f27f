import LedgerClient.Execution.Config
import Mathlib.Algebra.Group.Nat.Defs

/-!
How long the loop backs off. The first 32 backoffs double from the shortest one on, up to the
longest. Later ones need not: the factor stays below 2³², and since only the lowest 32 bits of the
number of failed tries count, it starts again from one after 2³² tries.
-/

namespace LedgerClient.ExecutionConfig

variable {config : ExecutionConfig} {attempt later : Nat}

theorem backoffFactor_eq (attempt : Nat) :
    backoffFactor attempt = min (2 ^ (attempt % UInt32.size)) (UInt32.size - 1) := by
  unfold backoffFactor
  by_cases few : attempt % UInt32.size < 32
  · have small : 2 ^ (attempt % UInt32.size) ≤ 2 ^ 31 :=
      Nat.pow_le_pow_right (by decide) (by omega)
    have bound : 2 ^ 31 ≤ UInt32.size - 1 := by decide
    simp only [if_pos few]
    exact (Nat.min_eq_left (Nat.le_trans small bound)).symm
  · have large : 2 ^ 32 ≤ 2 ^ (attempt % UInt32.size) :=
      Nat.pow_le_pow_right (by decide) (by omega)
    have bound : UInt32.size - 1 ≤ 2 ^ 32 := by decide
    simp only [if_neg few]
    exact (Nat.min_eq_right (by omega)).symm

theorem backoffFactor_pos (attempt : Nat) : 0 < backoffFactor attempt := by
  rw [backoffFactor_eq, Nat.lt_min]
  exact ⟨Nat.two_pow_pos _, by decide⟩

theorem backoffFactor_ofFew (few : attempt < 32) : backoffFactor attempt = 2 ^ attempt := by
  have same : attempt % UInt32.size = attempt := Nat.mod_eq_of_lt (Nat.lt_trans few (by decide))
  unfold backoffFactor
  simp only [same, if_pos few]
  rfl

theorem backoffFactor_lt_pow (many : 32 ≤ attempt) : backoffFactor attempt < 2 ^ attempt := by
  have large : 2 ^ 32 ≤ 2 ^ attempt := Nat.pow_le_pow_right (by decide) many
  have bound : UInt32.size - 1 < 2 ^ 32 := by decide
  rw [backoffFactor_eq]
  omega

theorem backoffFactor_le_pow (attempt : Nat) : backoffFactor attempt ≤ 2 ^ attempt := by
  rcases Nat.lt_or_ge attempt 32 with few | many
  · exact Nat.le_of_eq (backoffFactor_ofFew few)
  · exact Nat.le_of_lt (backoffFactor_lt_pow many)

theorem backoffFactor_mono (order : attempt ≤ later) (within : later < UInt32.size) :
    backoffFactor attempt ≤ backoffFactor later := by
  have grows : 2 ^ attempt ≤ 2 ^ later := Nat.pow_le_pow_right (by decide) order
  rw [backoffFactor_eq, backoffFactor_eq, Nat.mod_eq_of_lt within,
    Nat.mod_eq_of_lt (Nat.lt_of_le_of_lt order within)]
  omega

/-- No product is cut off, since the longest backoff is at most the longest duration. -/
theorem nanos_backoff (config : ExecutionConfig) (attempt : Nat) :
    (config.backoff attempt).nanos =
      min config.maxBackoff.nanos (config.minBackoff.nanos * backoffFactor attempt) := by
  have longest : config.maxBackoff.nanos ≤ Duration.longest.nanos := config.maxBackoff.le_longest
  simp only [backoff, Duration.nanos_lesser, Duration.scale, Duration.nanos_ofNanos]
  omega

theorem backoff_within (config : ExecutionConfig) (attempt : Nat) :
    config.minBackoff ≤ config.backoff attempt ∧ config.backoff attempt ≤ config.maxBackoff := by
  have order : config.minBackoff.nanos ≤ config.maxBackoff.nanos := config.minBackoff_le
  have grows : config.minBackoff.nanos * 1 ≤ config.minBackoff.nanos * backoffFactor attempt :=
    Nat.mul_le_mul_left _ (backoffFactor_pos attempt)
  simp only [Duration.le_iff, nanos_backoff]
  omega

theorem backoff_mono (config : ExecutionConfig) (order : attempt ≤ later)
    (within : later < UInt32.size) : config.backoff attempt ≤ config.backoff later := by
  have grows : config.minBackoff.nanos * backoffFactor attempt ≤
      config.minBackoff.nanos * backoffFactor later :=
    Nat.mul_le_mul_left _ (backoffFactor_mono order within)
  simp only [Duration.le_iff, nanos_backoff]
  omega

/-- The backoff is what doubling makes of the shortest one, unless the factor has been capped or has
started again before the longest backoff was reached. -/
theorem backoff_doubles_iff (config : ExecutionConfig) (attempt : Nat) :
    (config.backoff attempt).nanos =
        min config.maxBackoff.nanos (config.minBackoff.nanos * 2 ^ attempt) ↔
      attempt < 32 ∨ config.minBackoff.nanos = 0 ∨
        config.maxBackoff.nanos ≤ config.minBackoff.nanos * backoffFactor attempt := by
  rw [nanos_backoff]
  have below : config.minBackoff.nanos * backoffFactor attempt ≤
      config.minBackoff.nanos * 2 ^ attempt :=
    Nat.mul_le_mul_left _ (backoffFactor_le_pow attempt)
  constructor
  · intro same
    by_cases few : attempt < 32
    · exact .inl few
    by_cases none : config.minBackoff.nanos = 0
    · exact .inr (.inl none)
    have short : config.minBackoff.nanos * backoffFactor attempt <
        config.minBackoff.nanos * 2 ^ attempt :=
      Nat.mul_lt_mul_of_pos_left (backoffFactor_lt_pow (Nat.le_of_not_lt few))
        (Nat.pos_of_ne_zero none)
    exact .inr (.inr (by omega))
  · rintro (few | none | capped)
    · rw [backoffFactor_ofFew few]
    · simp only [none, Nat.zero_mul]
    · omega

/-- After 2³² tries the shortest backoff is used again. -/
theorem backoff_restarts (config : ExecutionConfig) :
    config.backoff UInt32.size = config.minBackoff := by
  have order : config.minBackoff.nanos ≤ config.maxBackoff.nanos := config.minBackoff_le
  have one : backoffFactor UInt32.size = 1 := by decide
  apply Duration.ext_nanos
  rw [nanos_backoff, one]
  omega

theorem backoff_neverDecreases_iff (config : ExecutionConfig) :
    (∀ attempt later, attempt ≤ later → later < UInt64.size →
        config.backoff attempt ≤ config.backoff later) ↔
      config.minBackoff.nanos = 0 ∨ config.minBackoff = config.maxBackoff := by
  have order : config.minBackoff.nanos ≤ config.maxBackoff.nanos := config.minBackoff_le
  constructor
  · intro grows
    have step := grows (UInt32.size - 1) UInt32.size (by decide) (by decide)
    have factor : backoffFactor (UInt32.size - 1) = UInt32.size - 1 := by decide
    have size : UInt32.size - 1 = 4294967295 := rfl
    rw [backoff_restarts, Duration.le_iff, nanos_backoff, factor, size] at step
    by_cases none : config.minBackoff.nanos = 0
    · exact .inl none
    · exact .inr (Duration.ext_nanos (by omega))
  · rintro (none | same) attempt later - -
    · simp only [Duration.le_iff, nanos_backoff, none, Nat.zero_mul]
      exact Nat.le_refl _
    · obtain ⟨-, below⟩ := config.backoff_within attempt
      obtain ⟨above, -⟩ := config.backoff_within later
      exact Nat.le_trans below (same ▸ above)

theorem make_settings {maxAttempts : Nat} {least most : Duration}
    (made : make maxAttempts least most = .ok config) :
    config.minBackoff = least ∧ config.maxBackoff = most := by
  unfold make at made
  split at made
  · split at made
    · cases made
      exact ⟨rfl, rfl⟩
    · cases made
  · cases made

/-- How the backoffs go up from the shortest to the longest. They always lie between the two and do not
decrease for 2³² tries. They are doubled exactly, up to the longest, for 32 tries, and after that as
far as the longest is within reach of the factor; and they never decrease at all only if there is
nothing to double. -/
structure BacksOff (config : ExecutionConfig) (least most : Duration) : Prop where
  doubles : ∀ attempt,
    (config.backoff attempt).nanos = min most.nanos (least.nanos * 2 ^ attempt) ↔
      attempt < 32 ∨ least.nanos = 0 ∨
        most.nanos ≤ least.nanos * min (2 ^ (attempt % 2 ^ 32)) (2 ^ 32 - 1)
  within : ∀ attempt, least ≤ config.backoff attempt ∧ config.backoff attempt ≤ most
  grows : ∀ attempt later, attempt ≤ later → later < 2 ^ 32 →
    config.backoff attempt ≤ config.backoff later
  neverDecreases : (∀ attempt later, attempt ≤ later → later < UInt64.size →
      config.backoff attempt ≤ config.backoff later) ↔ least.nanos = 0 ∨ least = most

theorem make_backsOff {maxAttempts : Nat} {least most : Duration}
    (made : make maxAttempts least most = .ok config) : config.BacksOff least most := by
  obtain ⟨rfl, rfl⟩ := make_settings made
  refine ⟨fun attempt => ?_, config.backoff_within, fun _ _ => config.backoff_mono,
    config.backoff_neverDecreases_iff⟩
  have size : UInt32.size = 2 ^ 32 := rfl
  rw [backoff_doubles_iff, backoffFactor_eq, size]

/-- From a millisecond up to more than a hundred days. -/
def patient : Except ConfigurationError ExecutionConfig :=
  make 10 (Duration.ofMillis 1) (Duration.ofMillis 10000000000)

theorem patient_backsOff : ∃ config, patient = .ok config ∧
    config.BacksOff (Duration.ofMillis 1) (Duration.ofMillis 10000000000) := by
  obtain ⟨config, made⟩ : ∃ config, patient = .ok config := ⟨_, rfl⟩
  exact ⟨config, made, make_backsOff made⟩

/-- The 33rd backoff falls short of the doubled one, and the one after 2³² tries is the shortest
again. -/
theorem patient_not_doubled : ∃ config, patient = .ok config ∧
    (config.backoff 32).nanos <
      min (Duration.ofMillis 10000000000).nanos ((Duration.ofMillis 1).nanos * 2 ^ 32) ∧
    ¬ config.backoff 4294967295 ≤ config.backoff 4294967296 := by
  refine ⟨_, rfl, ?_, ?_⟩ <;> decide

end LedgerClient.ExecutionConfig
