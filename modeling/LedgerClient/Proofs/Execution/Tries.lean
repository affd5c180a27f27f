import LedgerClient.Proofs.Execution.Exchange
import LedgerClient.Proofs.Execution.Replies

/-!
The tries of a request. Each try sends exactly one call; whether another one follows, and what the
request is by then, is decided by the reply.
-/

namespace LedgerClient

/-- A call of a request, with what the request was when the call was made: it was prepared for the
node already. -/
structure Try (σ : Type) extends Exchange where
  state : σ

/-- The same try if the caller hangs up. -/
def Try.cut {σ : Type} (attempt : Try σ) : Try σ :=
  { attempt with toExchange := attempt.toExchange.cut }

namespace Request

variable {σ ρ α : Type} (request : Request σ ρ α) (config : ExecutionConfig)

/-- The call is the one that the request makes of the node. -/
def Sends (attempt : Try σ) : Prop :=
  attempt.call.method = request.method ∧
    request.encode attempt.state attempt.call.node = .ok attempt.call.request

/-- What the request is after a try that did not end it. Only an expired id changes it. -/
inductive Leads (attempt : Try σ) : σ → Prop
  | kept (retries : request.Retries (request.mayReplace config attempt.state) attempt.reply)
      (current : ¬ request.Expires (request.mayReplace config attempt.state) attempt.reply) :
      Leads attempt attempt.state
  | renewed {next : σ} {world after : World}
      (expires : request.Expires (request.mayReplace config attempt.state) attempt.reply)
      (regenerated : request.regenerate attempt.state world = (.ok next, after)) :
      Leads attempt next

/-- The tries of one request, from what it is at first to what it is in the end. Only after the last
try may the request be over. -/
inductive Tries : σ → List (Try σ) → σ → Prop
  | nil (state : σ) : Tries state [] state
  | last {start : σ} {attempt : Try σ}
      (prepared : attempt.state = request.prepare start attempt.call.node)
      (sends : request.Sends attempt) : Tries start [attempt] attempt.state
  | cons {start : σ} {attempt : Try σ} {later : List (Try σ)} {next state : σ}
      (prepared : attempt.state = request.prepare start attempt.call.node)
      (sends : request.Sends attempt) (leads : request.Leads config attempt next)
      (rest : Tries next later state) : Tries start (attempt :: later) state

def Retried (made : List (Try σ)) : Prop :=
  ∀ attempt ∈ made, request.Retries (request.mayReplace config attempt.state) attempt.reply

/-- How a request comes to its end before its tries are used up: by the reply to the last try, by an
expired id that cannot be replaced, by a node to which it cannot be sent, or by its deadline. -/
inductive Stops (deadline : Option Instant) (nodes : List AccountId) (made : List (Try σ))
    (state : σ) : Except Error α → Prop
  | settled {attempt : Try σ} {result : Except Error α} (last : made.getLast? = some attempt)
      (unchanged : attempt.state = state)
      (settles : request.Settles (request.mayReplace config state) state attempt.call.node
        attempt.reply result) :
      Stops deadline nodes made state result
  | notRenewed {attempt : Try σ} {error : Error} {world after : World}
      (last : made.getLast? = some attempt) (unchanged : attempt.state = state)
      (expires : request.Expires (request.mayReplace config state) attempt.reply)
      (failed : request.regenerate state world = (.error error, after)) :
      Stops deadline nodes made state (.error error)
  | unsendable {node : AccountId} {error : Error} (retried : request.Retried config made)
      (candidate : node ∈ nodes)
      (unsent : request.encode (request.prepare state node) node = .error error) :
      Stops deadline nodes made state (.error error)
  | overdue (limited : deadline.isSome = true) (retried : request.Retried config made) :
      Stops deadline nodes made state (.error (.deadlineExceeded (request.id state)))

/-- The last status among the replies to `made`, or the one known `before` if none has a status. -/
def lastStatus (before : Option Status) (made : List (Try σ)) : Option Status :=
  (made.filterMap fun attempt => request.statusOf attempt.reply).getLast?.or before

/-- How a request with `left` tries to go ends. -/
inductive Ends (deadline : Option Instant) (nodes : List AccountId) (left : Nat)
    (before : Option Status) (made : List (Try σ)) (state : σ) : Except Error α → Prop
  | stopped {result : Except Error α} (within : made.length ≤ left)
      (stops : request.Stops config deadline nodes made state result) :
      Ends deadline nodes left before made state result
  | exhausted (all : made.length = left) (retried : request.Retried config made) :
      Ends deadline nodes left before made state
        (.error (.timeout config.maxAttempts (request.lastStatus before made) (request.id state)))

/-- Replacing an id neither uses the channel nor changes whether the id may be replaced again, and
neither does it change that when the request is prepared for a node. -/
structure Lawful : Prop where
  quiet : ∀ (state : σ) (world : World), world.Exchanged [] (request.regenerate state world).2
  prepared : ∀ (state : σ) (node : AccountId),
    request.mayRegenerate (request.prepare state node) = request.mayRegenerate state
  steady : ∀ {state next : σ} {world after : World},
    request.regenerate state world = (.ok next, after) →
      request.mayRegenerate next = request.mayRegenerate state

variable {request config}

theorem Leads.retries {attempt : Try σ} {next : σ} (leads : request.Leads config attempt next) :
    request.Retries (request.mayReplace config attempt.state) attempt.reply := by
  cases leads with
  | kept retries _ => exact retries
  | renewed expires _ => exact .expired expires

theorem Retried.nil : request.Retried config [] := by
  simp [Retried]

theorem Retried.cons {attempt : Try σ} {made : List (Try σ)}
    (first : request.Retries (request.mayReplace config attempt.state) attempt.reply)
    (rest : request.Retried config made) : request.Retried config (attempt :: made) := by
  intro other member
  rcases List.mem_cons.mp member with rfl | member
  · exact first
  · exact rest other member

theorem Retried.append {first second : List (Try σ)} (left : request.Retried config first)
    (right : request.Retried config second) : request.Retried config (first ++ second) :=
  List.forall_mem_append.mpr ⟨left, right⟩

theorem lastStatus_cons (before : Option Status) (attempt : Try σ) (made : List (Try σ)) :
    request.lastStatus before (attempt :: made) =
      request.lastStatus ((request.statusOf attempt.reply).or before) made := by
  unfold lastStatus
  cases status : request.statusOf attempt.reply with
  | none => simp [status]
  | some value =>
      rw [List.filterMap_cons_some (f := fun attempt : Try σ => request.statusOf attempt.reply)
        status, List.getLast?_cons]
      cases (made.filterMap fun attempt => request.statusOf attempt.reply).getLast? <;> rfl

theorem Stops.cons {deadline : Option Instant} {nodes : List AccountId} {made : List (Try σ)}
    {state : σ} {result : Except Error α} {attempt : Try σ}
    (retries : request.Retries (request.mayReplace config attempt.state) attempt.reply)
    (stops : request.Stops config deadline nodes made state result) :
    request.Stops config deadline nodes (attempt :: made) state result := by
  cases stops with
  | settled last unchanged settles =>
      exact .settled (by rw [List.getLast?_cons, last]; rfl) unchanged settles
  | notRenewed last unchanged expires failed =>
      exact .notRenewed (by rw [List.getLast?_cons, last]; rfl) unchanged expires failed
  | unsendable retried candidate unsent =>
      exact .unsendable (.cons retries retried) candidate unsent
  | overdue limited retried => exact .overdue limited (.cons retries retried)

theorem Ends.cons {deadline : Option Instant} {nodes : List AccountId} {left : Nat}
    {before : Option Status} {made : List (Try σ)} {state : σ} {result : Except Error α}
    {attempt : Try σ}
    (retries : request.Retries (request.mayReplace config attempt.state) attempt.reply)
    (ends : request.Ends config deadline nodes left ((request.statusOf attempt.reply).or before)
      made state result) :
    request.Ends config deadline nodes (left + 1) before (attempt :: made) state result := by
  cases ends with
  | stopped within stops => exact .stopped (Nat.succ_le_succ within) (.cons retries stops)
  | exhausted all retried =>
      rw [← lastStatus_cons]
      exact .exhausted (congrArg Nat.succ all) (.cons retries retried)

/-- Something only comes out of a request by the reply to its last try. -/
theorem Ends.ofOk {deadline : Option Instant} {nodes : List AccountId} {left : Nat}
    {before : Option Status} {made : List (Try σ)} {state : σ} {value : α}
    (ends : request.Ends config deadline nodes left before made state (.ok value)) :
    ∃ attempt, made.getLast? = some attempt ∧ attempt.state = state ∧
      request.Settles (request.mayReplace config state) state attempt.call.node attempt.reply
        (.ok value) := by
  cases ends with
  | stopped within stops =>
      cases stops with
      | settled last unchanged settles => exact ⟨_, last, unchanged, settles⟩

/-- A reply after which the request is not tried again settles it. -/
theorem Ends.ofFinal {deadline : Option Instant} {nodes : List AccountId} {left : Nat}
    {before : Option Status} {made : List (Try σ)} {state : σ} {result : Except Error α}
    {attempt : Try σ} (ends : request.Ends config deadline nodes left before made state result)
    (last : made.getLast? = some attempt)
    (final : ¬ request.Retries (request.mayReplace config attempt.state) attempt.reply) :
    attempt.state = state ∧
      request.Settles (request.mayReplace config state) state attempt.call.node attempt.reply
        result := by
  have tried := List.mem_of_getLast? last
  cases ends with
  | exhausted all retried => exact absurd (retried attempt tried) final
  | stopped within stops =>
      cases stops with
      | settled found unchanged settles =>
          cases last.symm.trans found
          exact ⟨unchanged, settles⟩
      | notRenewed found unchanged expires failed =>
          cases last.symm.trans found
          subst unchanged
          exact absurd (.expired expires) final
      | unsendable retried candidate unsent => exact absurd (retried attempt tried) final
      | overdue limited retried => exact absurd (retried attempt tried) final

theorem Tries.sends {state final : σ} {made : List (Try σ)}
    (tries : request.Tries config state made final) : ∀ attempt ∈ made, request.Sends attempt := by
  induction tries with
  | nil => simp
  | last prepared sends => simpa using sends
  | cons prepared sends leads rest ih => exact List.forall_mem_cons.mpr ⟨sends, ih⟩

theorem Tries.prepared {state final : σ} {made : List (Try σ)}
    (tries : request.Tries config state made final) :
    ∀ attempt ∈ made, ∃ before, attempt.state = request.prepare before attempt.call.node := by
  induction tries with
  | nil => simp
  | last prepared sends => simpa using ⟨_, prepared⟩
  | cons prepared sends leads rest ih => exact List.forall_mem_cons.mpr ⟨⟨_, prepared⟩, ih⟩

/-- Only the last try can have had a reply that ends the request. -/
theorem Tries.retried_before {state final : σ} {made : List (Try σ)} {last : Try σ}
    (tries : request.Tries config state made final) (found : made.getLast? = some last) :
    ∃ earlier, made = earlier ++ [last] ∧ request.Retried config earlier := by
  induction tries with
  | nil => simp at found
  | last prepared sends =>
      obtain rfl := by simpa using found
      exact ⟨[], rfl, .nil⟩
  | @cons start attempt later next state prepared sends leads rest ih =>
      cases ending : later.getLast? with
      | none =>
          rw [List.getLast?_eq_none_iff.mp ending] at found ⊢
          obtain rfl := by simpa using found
          exact ⟨[], rfl, .nil⟩
      | some other =>
          rw [List.getLast?_cons, ending] at found
          obtain ⟨earlier, split, retried⟩ := ih (ending.trans found)
          exact ⟨attempt :: earlier, by rw [split]; rfl, .cons leads.retries retried⟩

/-- What holds at first, and is kept when the request is prepared for a node and when an expired id
is replaced, holds at every try. -/
theorem Tries.preserves {P : σ → Prop}
    (prepares : ∀ {state : σ} (node : AccountId), P state → P (request.prepare state node))
    (kept : ∀ {state next : σ} {world after : World} {reply : Reply}, P state →
      request.Expires (request.mayReplace config state) reply →
        request.regenerate state world = (.ok next, after) → P next)
    {state last : σ} {made : List (Try σ)} (tries : request.Tries config state made last)
    (initial : P state) : (∀ attempt ∈ made, P attempt.state) ∧ P last := by
  induction tries with
  | nil => exact ⟨by simp, initial⟩
  | last prepared sends =>
      have ready := prepared ▸ prepares _ initial
      exact ⟨by simpa using ready, ready⟩
  | cons prepared sends leads rest ih =>
      have ready := prepared ▸ prepares _ initial
      obtain ⟨members, final⟩ := ih (by
        cases leads with
        | kept _ _ => exact ready
        | renewed expires regenerated => exact kept ready expires regenerated)
      exact ⟨List.forall_mem_cons.mpr ⟨ready, members⟩, final⟩

/-- Where preparing the request and replacing its id only lead on in some order, every try leads on
to what the request is in the end. -/
theorem Tries.onward {R : σ → σ → Prop} (refl : ∀ state, R state state)
    (trans : ∀ {first second third : σ}, R first second → R second third → R first third)
    (prepares : ∀ (state : σ) (node : AccountId), R state (request.prepare state node))
    (renews : ∀ {state next : σ} {world after : World},
      request.regenerate state world = (.ok next, after) → R state next)
    {state final : σ} {made : List (Try σ)} (tries : request.Tries config state made final) :
    ∀ attempt ∈ made, R attempt.state final := by
  induction tries with
  | nil => simp
  | last prepared sends => simpa using refl _
  | @cons start attempt later next state prepared sends leads rest ih =>
      have onward : R attempt.state next := by
        cases leads with
        | kept _ _ => exact refl _
        | renewed _ regenerated => exact renews regenerated
      have final : R attempt.state state :=
        (rest.preserves (fun node led => trans led (prepares _ node))
          (fun led _ regenerated => trans led (renews regenerated)) onward).2
      exact List.forall_mem_cons.mpr ⟨final, ih⟩

end Request

end LedgerClient
