import LedgerClient.Execution.Loop

/-!
What the replies to a request mean: each one either ends the request or has it tried again,
whichever node it came from.
-/

namespace LedgerClient.Request

variable {σ ρ α : Type} (request : Request σ ρ α) (config : ExecutionConfig)

/-- Whether an expired id is replaced: the settings and the request both have a say. -/
def mayReplace (state : σ) : Bool :=
  config.regenerates && request.mayRegenerate state

/-- A reply that ends the request, and what it makes of the request. -/
inductive Settles (mayReplace : Bool) (state : σ) (node : AccountId) :
    Reply → Except Error α → Prop
  | accepted {bytes : Bytes} {response : ρ} (decoded : request.decode bytes = .ok response)
      (outcome : request.outcome response mayReplace = .accepted) :
      Settles mayReplace state node (.answered bytes delay) (request.output state response node)
  | rejected {bytes : Bytes} {delay : Duration} {response : ρ} {status : Status}
      (decoded : request.decode bytes = .ok response)
      (outcome : request.outcome response mayReplace = .fatal status) :
      Settles mayReplace state node (.answered bytes delay)
        (.error (.precheckRejected status (request.id state) node))
  | broken {cause : TransportError} {delay : Duration} (lasting : cause.isTransient = false) :
      Settles mayReplace state node (.failed cause delay)
        (.error (.requestFailed cause (request.id state) node))
  | undecodable {bytes : Bytes} {delay : Duration} {cause : DecodeError}
      (undecoded : request.decode bytes = .error cause) :
      Settles mayReplace state node (.answered bytes delay)
        (.error (.invalidResponse cause (request.id state) node))

/-- A reply that says that the id has expired, to a request whose id may be replaced. -/
def Expires (mayReplace : Bool) (reply : Reply) : Prop :=
  ∃ bytes delay response, reply = .answered bytes delay ∧ request.decode bytes = .ok response ∧
    request.outcome response mayReplace = .expired

/-- A reply after which the request is tried again. -/
inductive Retries (mayReplace : Bool) : Reply → Prop
  | busy {bytes : Bytes} {delay : Duration} {response : ρ}
      (decoded : request.decode bytes = .ok response)
      (outcome : request.outcome response mayReplace = .nodeBusy) :
      Retries mayReplace (.answered bytes delay)
  | nodeFailed {bytes : Bytes} {delay : Duration} {response : ρ}
      (decoded : request.decode bytes = .ok response)
      (outcome : request.outcome response mayReplace = .nodeFailed) :
      Retries mayReplace (.answered bytes delay)
  | pending {bytes : Bytes} {delay : Duration} {response : ρ}
      (decoded : request.decode bytes = .ok response)
      (outcome : request.outcome response mayReplace = .pending) :
      Retries mayReplace (.answered bytes delay)
  | expired {reply : Reply} (expires : request.Expires mayReplace reply) :
      Retries mayReplace reply
  | transient {cause : TransportError} {delay : Duration} (passing : cause.isTransient = true) :
      Retries mayReplace (.failed cause delay)
  | silent : Retries mayReplace .silent

/-- The status that a reply reports, if it can be decoded. -/
def statusOf : Reply → Option Status
  | .answered bytes _ =>
      match request.decode bytes with
      | .ok response => some (request.status response)
      | .error _ => none
  | _ => none

variable {request config}

theorem Settles.not_retries {mayReplace : Bool} {state : σ} {node : AccountId} {reply : Reply}
    {result : Except Error α} (settles : request.Settles mayReplace state node reply result) :
    ¬ request.Retries mayReplace reply := by
  intro retries
  cases settles with
  | accepted decoded outcome | rejected decoded outcome =>
      cases retries with
      | expired expires =>
          obtain ⟨_, _, _, same, otherDecoded, other⟩ := expires
          cases same
          simp_all
      | _ => simp_all
  | broken lasting =>
      cases retries with
      | expired expires =>
          obtain ⟨_, _, _, same, _⟩ := expires
          cases same
      | transient passing => simp_all
  | undecodable undecoded =>
      cases retries with
      | expired expires =>
          obtain ⟨_, _, _, same, otherDecoded, _⟩ := expires
          cases same
          simp_all
      | _ => simp_all

theorem Settles.unique {mayReplace : Bool} {state : σ} {node : AccountId} {reply : Reply}
    {result other : Except Error α} (settles : request.Settles mayReplace state node reply result)
    (again : request.Settles mayReplace state node reply other) : result = other := by
  cases settles with
  | accepted decoded outcome | rejected decoded outcome => cases again <;> simp_all
  | broken lasting => cases again; rfl
  | undecodable undecoded => cases again <;> simp_all

/-- Every reply either ends the request or has it tried again. -/
theorem settles_or_retries (request : Request σ ρ α) (mayReplace : Bool) (state : σ)
    (node : AccountId) (reply : Reply) :
    (∃ result, request.Settles mayReplace state node reply result) ∨
      request.Retries mayReplace reply := by
  cases reply with
  | answered bytes delay =>
      cases decoded : request.decode bytes with
      | error cause => exact .inl ⟨_, .undecodable decoded⟩
      | ok response =>
          cases outcome : request.outcome response mayReplace with
          | accepted => exact .inl ⟨_, .accepted decoded outcome⟩
          | fatal status => exact .inl ⟨_, .rejected decoded outcome⟩
          | nodeBusy => exact .inr (.busy decoded outcome)
          | nodeFailed => exact .inr (.nodeFailed decoded outcome)
          | pending => exact .inr (.pending decoded outcome)
          | expired => exact .inr (.expired ⟨bytes, delay, response, rfl, decoded, outcome⟩)
  | failed cause delay =>
      cases transient : cause.isTransient with
      | true => exact .inr (.transient transient)
      | false => exact .inl ⟨_, .broken transient⟩
  | silent => exact .inr .silent

end LedgerClient.Request
