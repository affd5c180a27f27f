import LedgerClient.Proofs.Execution.Attempt
import LedgerClient.Proofs.Transaction.Sound
import LedgerClient.Transaction.Submit

/-!
What is sent for a transaction. Every submission is a try for one of its chunks; from one to the
next the transaction stays as it is, unless its id had expired and the client may make it anew.
-/

namespace LedgerClient

/-- The status with which a node answers a submission, if there is an answer at all. -/
def Reply.precheck? : Reply → Option Status
  | .answered bytes _ =>
      match (Wire.decode bytes : Except DecodeError SubmitResponse) with
      | .ok response => some response.precheck
      | .error _ => none
  | _ => none

/-- The node took what it was sent. -/
def Reply.accepts (reply : Reply) : Bool :=
  reply.precheck? = some .ok || reply.precheck? = some .success

/-- The node found that the id had expired. -/
def Reply.expired (reply : Reply) : Bool :=
  reply.precheck? = some .transactionExpired

namespace Transaction

variable {method : Method} {chunk : Nat} {config : ExecutionConfig} {reply : Reply}
  {mayReplace : Bool}

theorem chunkRequest_lawful (method : Method) (chunk : Nat) :
    (chunkRequest method chunk).Lawful where
  quiet transaction world := exchanged_regenerate transaction world
  prepared _ _ := rfl
  steady := by
    intro state next world after regenerated
    obtain ⟨before, frozen, id, fresh⟩ := regenerate_regenerated regenerated
    rw [fresh.now]
    rfl

theorem chunkRequest_expires :
    (chunkRequest method chunk).Expires mayReplace reply ↔
      mayReplace = true ∧ reply.expired = true := by
  constructor
  · rintro ⟨bytes, delay, response, rfl, decoded, outcome⟩
    obtain ⟨expired, allowed⟩ := Outcome.ofStatus_eq_expired_iff.mp outcome
    simp only [chunkRequest] at decoded
    exact ⟨allowed, by simp [Reply.expired, Reply.precheck?, decoded, expired]⟩
  · rintro ⟨rfl, expired⟩
    cases reply with
    | failed cause delay => simp [Reply.expired, Reply.precheck?] at expired
    | silent => simp [Reply.expired, Reply.precheck?] at expired
    | answered bytes delay =>
        cases decoded : (Wire.decode bytes : Except DecodeError SubmitResponse) with
        | error cause =>
            simp [Reply.expired, Reply.precheck?, decoded] at expired
        | ok response =>
            simp only [Reply.expired, Reply.precheck?, decoded,
              Option.some.injEq, decide_eq_true_eq] at expired
            exact ⟨bytes, delay, response, rfl, decoded,
              Outcome.ofStatus_eq_expired_iff.mpr ⟨expired, rfl⟩⟩

theorem accepts_iff (mayReplace : Bool) {bytes : Bytes} {delay : Duration}
    {response : SubmitResponse}
    (decoded : (Wire.decode bytes : Except DecodeError SubmitResponse) = .ok response) :
    (Reply.answered bytes delay).accepts = true ↔
      Outcome.ofStatus response.precheck mayReplace = .accepted := by
  have status : (Reply.answered bytes delay).precheck? = some response.precheck := by
    simp [Reply.precheck?, decoded]
  simp only [Reply.accepts, status, Option.some.injEq, Bool.or_eq_true, decide_eq_true_eq,
    Outcome.ofStatus_eq_accepted_iff]

theorem retries_not_accepts
    (retries : (chunkRequest method chunk).Retries mayReplace reply) : reply.accepts = false := by
  rw [← Bool.not_eq_true]
  intro accepts
  cases retries with
  | busy decoded outcome | nodeFailed decoded outcome | pending decoded outcome =>
      have accepted := (accepts_iff mayReplace decoded).mp accepts
      exact absurd (outcome.symm.trans accepted) (by simp)
  | expired expires =>
      obtain ⟨bytes, delay, response, rfl, decoded, outcome⟩ := expires
      have accepted := (accepts_iff mayReplace decoded).mp accepts
      exact absurd (outcome.symm.trans accepted) (by simp)
  | transient passing => simp [Reply.accepts, Reply.precheck?] at accepts
  | silent => simp [Reply.accepts, Reply.precheck?] at accepts

end Transaction

/-- A try to send a chunk, and under which settings. -/
structure Submission extends Try Transaction where
  chunk : Nat
  config : ExecutionConfig

namespace Submission

/-- What was sent is what the transaction held for that chunk and that node. -/
structure Faithful (submission : Submission) : Prop where
  method : submission.call.method = submission.state.payload.method
  stored : ∃ signed,
    submission.state.requestFor submission.chunk submission.call.node = .ok signed ∧
      submission.call.request = Wire.encode signed

/-- The reply calls for a fresh id, and the transaction may get one. -/
structure Renews (submission : Submission) : Prop where
  first : submission.chunk = 0
  allowed : submission.config.regenerates = true
  generated : submission.state.generated = true
  expired : submission.reply.expired = true

theorem not_renews {submission : Submission} (accepts : submission.reply.accepts = true) :
    ¬ submission.Renews := by
  intro renews
  have expired := renews.expired
  simp only [Reply.expired, decide_eq_true_eq] at expired
  simp [Reply.accepts, expired] at accepts

end Submission

theorem split_append {α : Type} {first later earlier rest : List α} {item : α}
    (split : first ++ later = earlier ++ item :: rest) :
    (∃ tail, first = earlier ++ item :: tail ∧ rest = tail ++ later) ∨
      ∃ middle, earlier = first ++ middle ∧ later = middle ++ item :: rest := by
  rcases List.append_eq_append_iff.mp split with ⟨middle, left, right⟩ | ⟨middle, left, right⟩
  · exact .inr ⟨middle, left, right⟩
  · rcases List.cons_eq_append_iff.mp right with ⟨rfl, same⟩ | ⟨tail, rfl, same⟩
    · exact .inr ⟨[], by simpa using left.symm, by simpa using same⟩
    · exact .inl ⟨tail, left, same⟩

/-- Submissions of a transaction one after the other, from what it is at first to what it is in the
end. -/
inductive Submissions : Transaction → List Submission → Transaction → Prop
  | nil (transaction : Transaction) : Submissions transaction [] transaction
  | kept {submission : Submission} {later : List Submission} {final : Transaction}
      (faithful : submission.Faithful) (rest : Submissions submission.state later final) :
      Submissions submission.state (submission :: later) final
  | renewed {submission : Submission} {later : List Submission} {next final : Transaction}
      {world after : World} (faithful : submission.Faithful) (renews : submission.Renews)
      (regenerated : submission.state.regenerate world = (.ok next, after))
      (rest : Submissions next later final) :
      Submissions submission.state (submission :: later) final

namespace Submissions

variable {start middle final : Transaction} {first second made : List Submission}

theorem append (left : Submissions start first middle) (right : Submissions middle second final) :
    Submissions start (first ++ second) final := by
  induction left with
  | nil => exact right
  | kept faithful rest ih => exact .kept faithful (ih right)
  | renewed faithful renews regenerated rest ih =>
      exact .renewed faithful renews regenerated (ih right)

theorem faithful (submissions : Submissions start made final) :
    ∀ submission ∈ made, submission.Faithful := by
  induction submissions with
  | nil => simp
  | kept faithful rest ih => exact List.forall_mem_cons.mpr ⟨faithful, ih⟩
  | renewed faithful renews regenerated rest ih =>
      exact List.forall_mem_cons.mpr ⟨faithful, ih⟩

/-- What holds at first, and is kept by a fresh id, holds throughout. -/
theorem preserves {P : Transaction → Prop}
    (kept : ∀ {state next : Transaction} {world after : World}, P state → state.generated = true →
      state.regenerate world = (.ok next, after) → P next)
    (submissions : Submissions start made final) (initial : P start) :
    (∀ submission ∈ made, P submission.state) ∧ P final := by
  induction submissions with
  | nil => exact ⟨by simp, initial⟩
  | kept faithful rest ih =>
      obtain ⟨members, last⟩ := ih initial
      exact ⟨List.forall_mem_cons.mpr ⟨initial, members⟩, last⟩
  | renewed faithful renews regenerated rest ih =>
      obtain ⟨members, last⟩ := ih (kept initial renews.generated regenerated)
      exact ⟨List.forall_mem_cons.mpr ⟨initial, members⟩, last⟩

theorem sound {chosen : Option TransactionId} (submissions : Submissions start made final)
    (sound : start.Sound chosen) :
    (∀ submission ∈ made, submission.state.Sound chosen) ∧ final.Sound chosen :=
  submissions.preserves (fun sound generated regenerated => sound.regenerate generated regenerated)
    sound

theorem payload (submissions : Submissions start made final) :
    ∀ submission ∈ made, submission.state.payload = start.payload := by
  refine (submissions.preserves (P := fun state => state.payload = start.payload) ?_ rfl).1
  intro state next world after same _ regenerated
  obtain ⟨before, frozen, id, fresh⟩ := Transaction.regenerate_regenerated regenerated
  rw [← same, fresh.now]

theorem methods (submissions : Submissions start made final) :
    ∀ submission ∈ made, submission.call.method = start.payload.method := by
  intro submission member
  rw [(submissions.faithful submission member).method, submissions.payload submission member]

theorem continues {chosen : Option TransactionId} (submissions : Submissions start made final)
    (sound : start.Sound chosen) :
    (∀ submission ∈ made, start.Continues submission.state) ∧ start.Continues final := by
  have kept : (∀ submission ∈ made, submission.state.Sound chosen ∧
      start.Continues submission.state) ∧ final.Sound chosen ∧ start.Continues final :=
    submissions.preserves (P := fun state => state.Sound chosen ∧ start.Continues state)
      (fun held generated regenerated => ⟨held.1.regenerate generated regenerated,
        held.2.trans (held.1.continues generated regenerated)⟩) ⟨sound, .refl start⟩
  exact ⟨fun submission member => (kept.1 submission member).2, kept.2.2⟩

theorem nodes (submissions : Submissions start made final) :
    final.frozen.map Frozen.nodes = start.frozen.map Frozen.nodes := by
  refine (submissions.preserves
    (P := fun state => state.frozen.map Frozen.nodes = start.frozen.map Frozen.nodes) ?_ rfl).2
  intro state next world after same _ regenerated
  obtain ⟨before, frozen, id, fresh⟩ := Transaction.regenerate_regenerated regenerated
  rw [← same, fresh.now, fresh.was]
  exact congrArg some fresh.nodes

theorem unchanged (submissions : Submissions start made final)
    (current : ∀ submission ∈ made, ¬ submission.Renews) :
    (∀ submission ∈ made, submission.state = start) ∧ final = start := by
  induction submissions with
  | nil => exact ⟨by simp, rfl⟩
  | kept faithful rest ih =>
      obtain ⟨members, last⟩ := ih fun submission later => current submission (by simp [later])
      exact ⟨List.forall_mem_cons.mpr ⟨rfl, members⟩, last⟩
  | renewed faithful renews regenerated rest ih =>
      exact absurd renews (current _ (by simp))

theorem split (submissions : Submissions start (first ++ second) final) :
    ∃ middle, Submissions start first middle ∧ Submissions middle second final := by
  induction first generalizing start with
  | nil => exact ⟨start, .nil _, submissions⟩
  | cons submission others ih =>
      cases submissions with
      | kept faithful rest =>
          obtain ⟨middle, left, right⟩ := ih rest
          exact ⟨middle, .kept faithful left, right⟩
      | renewed faithful renews regenerated rest =>
          obtain ⟨middle, left, right⟩ := ih rest
          exact ⟨middle, .renewed faithful renews regenerated left, right⟩

theorem first_state {submission : Submission} (submissions : Submissions start made final)
    (found : made[0]? = some submission) : submission.state = start := by
  cases submissions with
  | nil => simp at found
  | kept faithful rest =>
      obtain rfl := by simpa using found
      rfl
  | renewed faithful renews regenerated rest =>
      obtain rfl := by simpa using found
      rfl

theorem state_eq {submission : Submission}
    (submissions : Submissions start (first ++ submission :: second) final)
    (current : ∀ other ∈ first, ¬ other.Renews) : submission.state = start := by
  obtain ⟨middle, left, right⟩ := submissions.split
  rw [right.first_state rfl, (left.unchanged current).2]

theorem final_eq {submission : Submission}
    (submissions : Submissions start (first ++ [submission]) final)
    (current : ¬ submission.Renews) : final = submission.state := by
  obtain ⟨middle, _, last⟩ := submissions.split
  rw [(last.unchanged (by simpa using current)).2, last.first_state rfl]

theorem consecutive (submissions : Submissions start made final) {place : Nat}
    {earlier later : Submission} (found : made[place]? = some earlier)
    (next : made[place + 1]? = some later) : later.state = earlier.state ∨ earlier.Renews := by
  induction submissions generalizing place with
  | nil => simp at found
  | kept faithful rest ih =>
      cases place with
      | zero =>
          obtain rfl := by simpa using found
          exact .inl (rest.first_state (by simpa using next))
      | succ place => exact ih (by simpa using found) (by simpa using next)
  | renewed faithful renews regenerated rest ih =>
      cases place with
      | zero =>
          obtain rfl := by simpa using found
          exact .inr renews
      | succ place => exact ih (by simpa using found) (by simpa using next)

theorem steady (submissions : Submissions start made final) {place distance : Nat}
    {earlier later : Submission} (found : made[place]? = some earlier)
    (foundLater : made[place + distance]? = some later)
    (current : ∀ (between : Nat) (submission : Submission), place ≤ between →
      between < place + distance → made[between]? = some submission → ¬ submission.Renews) :
    later.state = earlier.state := by
  induction distance generalizing later with
  | zero =>
      rw [Nat.add_zero, found] at foundLater
      cases foundLater
      rfl
  | succ distance ih =>
      obtain ⟨inside, _⟩ := List.getElem?_eq_some_iff.mp foundLater
      have before : made[place + distance]? = some made[place + distance] :=
        List.getElem?_eq_getElem (by omega)
      have same := ih before fun between submission lower upper =>
        current between submission lower (by omega)
      rcases submissions.consecutive before foundLater with unchanged | renews
      · exact unchanged.trans same
      · exact absurd renews (current (place + distance) _ (by omega) (by omega) before)

end Submissions

end LedgerClient
