import LedgerClient.Proofs.Execution.Attempt

/-!
How a request fails, and which transaction its error names: what the request is about by then, if
the error names any.
-/

namespace LedgerClient

/-- The request was given up for want of tries or of time. -/
def Error.GivesUp (error : Error) : Prop :=
  (∃ attempts last id, error = .timeout attempts last id) ∨ ∃ id, error = .deadlineExceeded id

/-- The request was given up for want of tries. -/
def Error.IsTimeout : Error → Prop
  | .timeout _ _ _ => True
  | _ => False

/-- The error is what a receipt says, or that there was none to be had. -/
def Error.OnReceipt : Error → Prop
  | .receiptThrottled _ | .receiptStatus _ _ => True
  | _ => False

/-- The error is that a checksum does not belong to its id. -/
def Error.OnChecksum : Error → Prop
  | .checksumMismatch _ => True
  | _ => False

/-- What can go wrong inside a request, apart from what nodes reply. -/
def Error.Internal : Error → Prop
  | .configuration _ | .notFrozen | .transactionOversize _ _ | .maxChunksExceeded _ _
  | .unexpectedResponse => True
  | _ => False

/-- What driving a request can come to. -/
def Error.Operational : Error → Prop
  | .precheckRejected _ _ _ | .timeout _ _ _ | .deadlineExceeded _ | .requestFailed _ _ _
  | .invalidResponse _ _ _ => True
  | error => error.Internal

namespace Error

variable {error : Error}

theorem Internal.anonymous (inside : error.Internal) : error.transactionId = none := by
  cases error <;> first | rfl | exact inside.elim

theorem Internal.operational (inside : error.Internal) : error.Operational := by
  cases error <;> trivial

theorem Internal.not_isTimeout (inside : error.Internal) : ¬ error.IsTimeout := by
  cases error <;> first | exact fun timeout => timeout | exact inside.elim

theorem Operational.not_onReceipt (operational : error.Operational) : ¬ error.OnReceipt := by
  cases error <;> first | exact fun onReceipt => onReceipt | exact operational.elim

theorem Operational.not_onChecksum (operational : error.Operational) : ¬ error.OnChecksum := by
  cases error <;> first | exact fun onChecksum => onChecksum | exact operational.elim

end Error

namespace Request

variable {σ ρ α : Type} {request : Request σ ρ α} {config : ExecutionConfig}

/-- What goes wrong inside the request names no transaction; only the loop does. -/
structure Anonymous (request : Request σ ρ α) : Prop where
  encode : ∀ {state : σ} {node : AccountId} {error : Error},
    request.encode state node = .error error → error.transactionId = none
  regenerate : ∀ {state : σ} {world after : World} {error : Error},
    request.regenerate state world = (.error error, after) → error.transactionId = none
  output : ∀ {state : σ} {response : ρ} {node : AccountId} {error : Error},
    request.output state response node = .error error → error.transactionId = none

/-- Nothing but this goes wrong inside the request. -/
structure Contained (request : Request σ ρ α) : Prop where
  encode : ∀ {state : σ} {node : AccountId} {error : Error},
    request.encode state node = .error error → error.Internal
  regenerate : ∀ {state : σ} {world after : World} {error : Error},
    request.regenerate state world = (.error error, after) → error.Internal
  output : ∀ {state : σ} {response : ρ} {node : AccountId} {error : Error},
    request.output state response node = .error error → error.Internal

theorem Contained.anonymous (contained : request.Contained) : request.Anonymous where
  encode failed := (contained.encode failed).anonymous
  regenerate failed := (contained.regenerate failed).anonymous
  output failed := (contained.output failed).anonymous

theorem Contained.settles (contained : request.Contained) {mayReplace : Bool} {state : σ}
    {node : AccountId} {reply : Reply} {error : Error}
    (settles : request.Settles mayReplace state node reply (.error error)) :
    error.Operational ∧ ¬ error.IsTimeout := by
  generalize outcome : Except.error error = result at settles
  cases settles with
  | accepted _ _ =>
      have inside := contained.output outcome.symm
      exact ⟨inside.operational, inside.not_isTimeout⟩
  | rejected _ _ | broken _ | undecodable _ =>
      cases outcome
      exact ⟨trivial, fun timeout => timeout⟩

/-- Whatever stops a request, it is not that its tries are used up. -/
theorem Contained.stops (contained : request.Contained) {deadline : Option Instant}
    {nodes : List AccountId} {made : List (Try σ)} {state : σ} {error : Error}
    (stops : request.Stops config deadline nodes made state (.error error)) :
    error.Operational ∧ ¬ error.IsTimeout := by
  cases stops with
  | settled last unchanged settles => exact contained.settles settles
  | notRenewed last unchanged expires failed =>
      have inside := contained.regenerate failed
      exact ⟨inside.operational, inside.not_isTimeout⟩
  | unsendable retried candidate unsent =>
      have inside := contained.encode unsent
      exact ⟨inside.operational, inside.not_isTimeout⟩
  | overdue limited retried => exact ⟨trivial, fun timeout => timeout⟩

theorem Contained.ends (contained : request.Contained) {deadline : Option Instant}
    {nodes : List AccountId} {left : Nat} {before : Option Status} {made : List (Try σ)} {state : σ}
    {error : Error}
    (ends : request.Ends config deadline nodes left before made state (.error error)) :
    error.Operational := by
  cases ends with
  | exhausted all retried => trivial
  | stopped within stops => exact (contained.stops stops).1

/-- The loop says nothing about receipts and looks at no checksums. -/
theorem Contained.execute (contained : request.Contained) (lawful : request.Lawful) {state : σ}
    {world : World} {error : Error}
    (failed : (request.execute config state world).result = .error error) :
    error.Operational := by
  rcases execute_ends lawful config state world with
    ⟨cause, none, executed⟩ | ⟨nodes, made, -, -, -, ends⟩
  · rw [executed] at failed
    cases failed
    trivial
  · rw [failed] at ends
    exact contained.ends ends

theorem Anonymous.settles (anonymous : request.Anonymous) {mayReplace : Bool} {state : σ}
    {node : AccountId} {reply : Reply} {error : Error} {id : TransactionId}
    (settles : request.Settles mayReplace state node reply (.error error))
    (named : error.transactionId = some id) : request.id state = some id := by
  generalize outcome : Except.error error = result at settles
  cases settles with
  | accepted _ _ =>
      rw [anonymous.output outcome.symm] at named
      cases named
  | rejected _ _ | broken _ | undecodable _ =>
      cases outcome
      exact named

/-- An error that names a transaction names what the request is about in the end. It comes with the
reply to the last try, which has then left the request as it was, or the request is given up. -/
theorem Anonymous.ends (anonymous : request.Anonymous) {deadline : Option Instant}
    {nodes : List AccountId} {left : Nat} {before : Option Status} {made : List (Try σ)} {state : σ}
    {error : Error} {id : TransactionId}
    (ends : request.Ends config deadline nodes left before made state (.error error))
    (named : error.transactionId = some id) :
    request.id state = some id ∧
      (error.GivesUp ∨ ∃ attempt, made.getLast? = some attempt ∧ attempt.state = state) := by
  cases ends with
  | exhausted all retried => exact ⟨named, .inl (.inl ⟨_, _, _, rfl⟩)⟩
  | stopped within stops =>
      cases stops with
      | settled last unchanged settles =>
          exact ⟨anonymous.settles settles named, .inr ⟨_, last, unchanged⟩⟩
      | notRenewed last unchanged expires failed =>
          rw [anonymous.regenerate failed] at named
          cases named
      | unsendable retried candidate unsent =>
          rw [anonymous.encode unsent] at named
          cases named
      | overdue limited retried => exact ⟨named, .inl (.inr ⟨_, rfl⟩)⟩

end Request

end LedgerClient
