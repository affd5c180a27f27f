import LedgerClient.Error

/-!
How long and how often a request is tried, and what a node's status means for the next try.
-/

namespace LedgerClient

/-- The `requestTimeout` bounds a request with all its tries, `attemptTimeout` a single one. -/
structure ExecutionConfig where
  maxAttempts : Nat
  minBackoff : Duration
  maxBackoff : Duration
  requestTimeout : Option Duration
  attemptTimeout : Duration
  regenerates : Bool
  maxAttempts_pos : 0 < maxAttempts
  minBackoff_le : minBackoff ≤ maxBackoff
deriving DecidableEq

namespace ExecutionConfig

def defaultMinBackoff : Duration := Duration.ofMillis 250

def defaultMaxBackoff : Duration := Duration.ofMillis 8000

def make (maxAttempts : Nat) (minBackoff maxBackoff : Duration) :
    Except ConfigurationError ExecutionConfig :=
  if maxAttempts_pos : 0 < maxAttempts then
    if minBackoff_le : minBackoff ≤ maxBackoff then
      .ok
        { maxAttempts, minBackoff, maxBackoff
          requestTimeout := some (Duration.ofSeconds 120)
          attemptTimeout := Duration.ofSeconds 10
          regenerates := false
          maxAttempts_pos, minBackoff_le }
    else .error (.backoffRange minBackoff maxBackoff)
  else .error .zeroAttempts

/-- Ten tries, from a quarter of a second to eight seconds apart. -/
def standard : ExecutionConfig where
  maxAttempts := 10
  minBackoff := defaultMinBackoff
  maxBackoff := defaultMaxBackoff
  requestTimeout := some (Duration.ofSeconds 120)
  attemptTimeout := Duration.ofSeconds 10
  regenerates := false
  maxAttempts_pos := by decide
  minBackoff_le := by decide

/-- The factor by which the shortest backoff grows, from the lowest 32 bits of the number of tries
that failed before. -/
def backoffFactor (attempt : Nat) : Nat :=
  let failed := attempt % UInt32.size
  if failed < 32 then Nat.pow 2 failed else UInt32.size - 1

def backoff (config : ExecutionConfig) (attempt : Nat) : Duration :=
  (config.minBackoff.scale (backoffFactor attempt)).lesser config.maxBackoff

end ExecutionConfig

inductive Outcome where
  | accepted
  | nodeFailed
  | nodeBusy
  | pending
  | expired
  | fatal (status : Status)
deriving DecidableEq

namespace Outcome

def name : Outcome → String
  | accepted => "Accepted"
  | nodeFailed => "RetryableNetwork"
  | nodeBusy => "RetryableBusy"
  | pending => "Pending"
  | expired => "RetryableExpired"
  | fatal _ => "Fatal"

/-- An expired id is a reason to try again only if it may be replaced. -/
def ofStatus (status : Status) (mayRegenerate : Bool) : Outcome :=
  match status with
  | .ok | .success => accepted
  | .busy | .platformNotActive => nodeBusy
  | .platformTransactionNotCreated | .invalidNodeAccount => nodeFailed
  | .transactionExpired => if mayRegenerate then expired else fatal status
  | _ => fatal status

/-- What each status means for the next try. -/
inductive Means (mayRegenerate : Bool) (status : Status) : Outcome → Prop
  | accepted (through : status ∈ [.ok, .success]) : Means mayRegenerate status accepted
  | nodeBusy (busy : status ∈ [.busy, .platformNotActive]) : Means mayRegenerate status nodeBusy
  | nodeFailed (failed : status ∈ [.platformTransactionNotCreated, .invalidNodeAccount]) :
      Means mayRegenerate status nodeFailed
  | expired (late : status = .transactionExpired) (replaced : mayRegenerate = true) :
      Means mayRegenerate status expired
  | fatal (lasting : status ∉ [.ok, .success, .busy, .platformNotActive,
        .platformTransactionNotCreated, .invalidNodeAccount])
      (kept : status = .transactionExpired → mayRegenerate = false) :
      Means mayRegenerate status (fatal status)

theorem ofStatus_means (status : Status) (mayRegenerate : Bool) :
    Means mayRegenerate status (ofStatus status mayRegenerate) := by
  cases status with
  | ok | success => exact .accepted (by simp)
  | busy | platformNotActive => exact .nodeBusy (by simp)
  | platformTransactionNotCreated | invalidNodeAccount => exact .nodeFailed (by simp)
  | transactionExpired =>
      cases mayRegenerate with
      | true => exact .expired rfl rfl
      | false => exact .fatal (by simp) fun _ => rfl
  | _ => exact .fatal (by simp) nofun

theorem Means.ofStatus_eq {status : Status} {mayRegenerate : Bool} {outcome : Outcome}
    (means : Means mayRegenerate status outcome) : ofStatus status mayRegenerate = outcome := by
  cases means with
  | accepted listed | nodeBusy listed | nodeFailed listed =>
      simp only [List.mem_cons, List.not_mem_nil, or_false] at listed
      rcases listed with rfl | rfl <;> rfl
  | expired late replaced =>
      subst late
      exact if_pos replaced
  | fatal lasting kept =>
      unfold ofStatus
      split <;> simp_all

theorem ofStatus_eq_iff {status : Status} {mayRegenerate : Bool} {outcome : Outcome} :
    ofStatus status mayRegenerate = outcome ↔ Means mayRegenerate status outcome :=
  ⟨fun same => same ▸ ofStatus_means status mayRegenerate, Means.ofStatus_eq⟩

theorem ofStatus_eq_accepted_iff {status : Status} {mayRegenerate : Bool} :
    ofStatus status mayRegenerate = accepted ↔ status = .ok ∨ status = .success := by
  rw [ofStatus_eq_iff]
  constructor
  · rintro ⟨through⟩
    simpa using through
  · exact fun through => .accepted (by simpa using through)

theorem ofStatus_eq_expired_iff {status : Status} {mayRegenerate : Bool} :
    ofStatus status mayRegenerate = expired ↔
      status = .transactionExpired ∧ mayRegenerate = true := by
  rw [ofStatus_eq_iff]
  constructor
  · rintro ⟨⟩
    exact ⟨‹_›, ‹_›⟩
  · exact fun ⟨late, replaced⟩ => .expired late replaced
end Outcome

end LedgerClient
