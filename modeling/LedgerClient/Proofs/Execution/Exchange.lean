import LedgerClient.Execution.Loop

/-!
What passes over the channel between two worlds: the calls that are made, each with what was heard
of the reply that was next in line. All that is said of a run of the client is said of these
exchanges.
-/

namespace LedgerClient

/-- What is heard of a reply by a caller who waits for so long, or has hung up. -/
def Reply.heard (reply : Reply) : Option Duration → Reply
  | some patience => reply.within patience
  | none => .silent

@[simp] theorem Reply.heard_some (reply : Reply) (patience : Duration) :
    reply.heard (some patience) = reply.within patience := rfl

/-- Either the reply is heard as it is, or nothing is heard. -/
theorem Reply.heard_eq_or_silent (reply : Reply) (patience : Option Duration) :
    reply.heard patience = reply ∨ reply.heard patience = .silent := by
  cases patience with
  | none => exact .inr rfl
  | some patience =>
      rw [heard_some]
      cases takes : reply.delay? with
      | none => exact .inr (by simp only [within, takes])
      | some delay =>
          by_cases inTime : delay ≤ patience
          · exact .inl (within_inTime takes inTime)
          · exact .inr (within_late takes inTime)

/-- A call, what was heard of it, and for how long a reply was waited for at most. -/
structure Exchange where
  call : Call
  reply : Reply
  patience : Option Duration
deriving DecidableEq

/-- The same call if the caller hangs up. -/
def Exchange.cut (exchange : Exchange) : Exchange :=
  { exchange with reply := .silent, patience := none }

/-- When the call is over, if the caller does not hang up. -/
def Exchange.overAt? (exchange : Exchange) : Option Instant :=
  exchange.patience.map (exchange.reply.overAt exchange.call.time)

namespace World

variable {before middle after : World} {first second made : List Exchange}

/-- The reply to the call that follows `place` others. -/
def replyAt (world : World) (place : Nat) : Reply :=
  world.replies.getD place world.exhausted

/-- What is heard of that reply by a caller who waits for it as long as `patience` lasts. -/
def heardAt (world : World) (patience : Duration) (place : Nat) : Reply :=
  (world.replyAt place).within patience

/-- All that passed over the channel from one world to the other was `made`. -/
structure Exchanged (before : World) (made : List Exchange) (after : World) : Prop where
  calls : after.calls = before.calls ++ made.map Exchange.call
  waits : after.waits = before.waits ++ made.map Exchange.patience
  replies : ∀ place exchange, made[place]? = some exchange →
    exchange.reply = (before.replyAt place).heard exchange.patience
  later : ∀ place, after.replyAt place = before.replyAt (made.length + place)

theorem Exchanged.heard {patience : Duration} {exchange : Exchange} {place : Nat}
    (exchanged : before.Exchanged made after) (found : made[place]? = some exchange)
    (patient : exchange.patience = some patience) :
    exchange.reply = before.heardAt patience place := by
  rw [exchanged.replies place exchange found, patient]
  rfl

theorem Exchanged.replies_eq {patience : Duration} (exchanged : before.Exchanged made after)
    (patient : ∀ exchange ∈ made, exchange.patience = some patience) :
    made.map Exchange.reply =
      (List.range made.length).map (before.heardAt patience) := by
  refine List.ext_getElem (by simp) ?_
  intro place inside _
  have present : place < made.length := by simpa using inside
  have found := List.getElem?_eq_getElem present
  simpa using exchanged.heard found (patient _ (List.getElem_mem present))

theorem Exchanged.length (exchanged : before.Exchanged made after) :
    after.calls.length = before.calls.length + made.length := by
  rw [exchanged.calls, List.length_append, List.length_map]

theorem Exchanged.call (exchanged : before.Exchanged made after) {place : Nat}
    {exchange : Exchange} (found : made[place]? = some exchange) :
    after.calls[before.calls.length + place]? = some exchange.call := by
  rw [exchanged.calls, List.getElem?_append_right (Nat.le_add_right _ _),
    Nat.add_sub_cancel_left, List.getElem?_map, found]
  rfl

/-- What was exchanged is known from the calls that were made and the replies that were waiting. -/
theorem Exchanged.unique {other : List Exchange} (exchanged : before.Exchanged made after)
    (again : before.Exchanged other after) : other = made := by
  have calls : other.map Exchange.call = made.map Exchange.call :=
    List.append_cancel_left (again.calls.symm.trans exchanged.calls)
  have waits : other.map Exchange.patience = made.map Exchange.patience :=
    List.append_cancel_left (again.waits.symm.trans exchanged.waits)
  have length : other.length = made.length := by simpa using congrArg List.length calls
  refine List.ext_getElem length ?_
  intro place inOther inMade
  have call : other[place].call = made[place].call := by
    have entries := congrArg (fun listed => listed[place]?) calls
    simpa [inOther, inMade] using entries
  have patience : other[place].patience = made[place].patience := by
    have entries := congrArg (fun listed => listed[place]?) waits
    simpa [inOther, inMade] using entries
  have reply : other[place].reply = made[place].reply := by
    rw [again.replies place _ (List.getElem?_eq_getElem inOther),
      exchanged.replies place _ (List.getElem?_eq_getElem inMade), patience]
  cases first : other[place] with
  | mk call reply patience =>
      cases second : made[place] with
      | mk call reply patience => simp_all

/-- A step that leaves the channel alone exchanges nothing, whatever it does to the clock, the
nodes and the source of ids. -/
theorem Exchanged.quiet (calls : after.calls = before.calls) (waits : after.waits = before.waits)
    (replies : after.replies = before.replies) (exhausted : after.exhausted = before.exhausted) :
    before.Exchanged [] after where
  calls := by simp [calls]
  waits := by simp [waits]
  replies := by simp
  later place := by simp [replyAt, replies, exhausted]

theorem Exchanged.refl (world : World) : world.Exchanged [] world :=
  .quiet rfl rfl rfl rfl

theorem Exchanged.trans (left : before.Exchanged first middle)
    (right : middle.Exchanged second after) : before.Exchanged (first ++ second) after where
  calls := by rw [right.calls, left.calls, List.map_append, List.append_assoc]
  waits := by rw [right.waits, left.waits, List.map_append, List.append_assoc]
  replies := by
    intro place exchange found
    by_cases early : place < first.length
    · rw [List.getElem?_append_left early] at found
      exact left.replies place exchange found
    · have late : first.length ≤ place := Nat.le_of_not_lt early
      rw [List.getElem?_append_right late] at found
      rw [right.replies _ exchange found, left.later, Nat.add_sub_cancel' late]
  later place := by
    rw [right.later, left.later, List.length_append, Nat.add_assoc]

theorem Exchanged.afterQuiet (left : before.Exchanged [] middle)
    (right : middle.Exchanged made after) : before.Exchanged made after :=
  left.trans right

theorem Exchanged.thenQuiet (left : before.Exchanged made middle)
    (right : middle.Exchanged [] after) : before.Exchanged made after := by
  simpa using left.trans right

@[simp] theorem call_network (world : World) (node : AccountId) (method : Method)
    (request : Bytes) (patience : Duration) :
    (world.call node method request patience).2.network = world.network := by
  unfold call
  dsimp only
  split <;> rfl

@[simp] theorem call_now (world : World) (node : AccountId) (method : Method) (request : Bytes)
    (patience : Duration) : (world.call node method request patience).2.now = world.now := by
  unfold call
  dsimp only
  split <;> rfl

theorem exchanged_call (world : World) (node : AccountId) (method : Method) (request : Bytes)
    (patience : Duration) :
    world.Exchanged
      [{ call := { time := world.now, node, method, request }
         reply := (world.call node method request patience).1
         patience := some patience }]
      (world.call node method request patience).2 := by
  unfold World.call
  cases queued : world.replies with
  | nil =>
      refine ⟨rfl, rfl, ?_, ?_⟩
      · intro place exchange found
        obtain ⟨rfl, rfl⟩ : place = 0 ∧ _ = exchange := by
          simpa [List.getElem?_singleton] using found
        simp [replyAt, queued]
      · intro place
        simp [replyAt, queued]
  | cons reply rest =>
      refine ⟨rfl, rfl, ?_, ?_⟩
      · intro place exchange found
        obtain ⟨rfl, rfl⟩ : place = 0 ∧ _ = exchange := by
          simpa [List.getElem?_singleton] using found
        simp [replyAt, queued]
      · intro place
        simp [replyAt, queued, Nat.add_comm 1 place]

/-- What is left of the last call if the caller hangs up. -/
theorem Exchanged.hangUp {exchange : Exchange}
    (exchanged : before.Exchanged (made ++ [exchange]) after) :
    before.Exchanged (made ++ [exchange.cut]) after.hangUp := by
  refine ⟨?_, ?_, ?_, ?_⟩
  · simp [World.hangUp, exchanged.calls, Exchange.cut]
  · simp [World.hangUp, exchanged.waits, Exchange.cut]
  · intro place other found
    rcases Nat.lt_trichotomy place made.length with early | rfl | beyond
    · rw [List.getElem?_append_left early] at found
      exact exchanged.replies place other (by rw [List.getElem?_append_left early, found])
    · obtain rfl : exchange.cut = other := by simpa using found
      rfl
    · rw [List.getElem?_eq_none (by simp; omega)] at found
      cases found
  · intro place
    have later := exchanged.later place
    rw [List.length_append, List.length_singleton] at later ⊢
    exact later

theorem exchanged_recordFailure (world : World) (node : AccountId) :
    world.Exchanged [] (world.recordFailure node) :=
  .quiet rfl rfl rfl rfl

theorem exchanged_recordSuccess (world : World) (node : AccountId) :
    world.Exchanged [] (world.recordSuccess node) :=
  .quiet rfl rfl rfl rfl

theorem exchanged_candidates (world : World) (chosen : Option (List AccountId)) :
    world.Exchanged [] (world.candidates chosen).2 :=
  .quiet rfl rfl rfl rfl

theorem exchanged_generateId (world : World) (payer : AccountId) :
    world.Exchanged [] (world.generateId payer).2 :=
  .quiet rfl rfl rfl rfl

end World

end LedgerClient
