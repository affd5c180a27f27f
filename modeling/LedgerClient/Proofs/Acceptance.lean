import LedgerClient.Proofs.Session

/-!
What becomes of the root once a node has accepted a chunk. Later chunks and receipts refer to it, so
it should stay. What changes it is a first chunk that is sent again, finds that the id has expired,
and gets a fresh one; nothing else does.
-/

namespace LedgerClient.Session

variable {chosen : Option TransactionId} {session next : Session} {client : Client}
  {actions : List Session.Action} {made submissions : List Submission} {root : TransactionId}

/-- The transaction and all its responses are under one root. -/
structure Rooted (root : TransactionId) (session : Session) : Prop where
  frozen : session.transaction.isFrozen = true
  transaction : session.transaction.id = some root
  responses : ∀ response ∈ session.responses, response.sent.id = some root

theorem Acts.state_rooted (acts : session.Acts client next made) (rooted : session.Rooted root)
    (inOrder : session.InOrder chosen) (chunked : 2 ≤ session.transaction.chunkCount)
    {earlier rest : List Submission} {submission : Submission}
    (split : made = earlier ++ submission :: rest) (current : ∀ other ∈ earlier, ¬ other.Renews) :
    submission.state.id = some root := by
  subst split
  cases acts with
  | idle unchanged unsent => simp at unsent
  | sent readied submissions settings responses =>
      rw [submissions.state_eq current, (readied.ofFrozen rooted.frozen).id, rooted.transaction]
  | @resubmitted response accepted held resubmissions transaction responses =>
      generalize whole : earlier ++ submission :: rest = made at resubmissions
      cases resubmissions with
      | none => simp at whole
      | some resends submissions settings delivers =>
          subst whole
          cases resends with
          | asSent => rw [submissions.state_eq current, rooted.responses response held]
          | renewed first single _ _ =>
              -- A resubmission only makes a fresh id for a transaction of a single chunk.
              have same := (inOrder.responses response held).2.2.chunkCount
              omega

theorem Acts.next_rooted (acts : session.Acts client next made) (rooted : session.Rooted root)
    (inOrder : session.InOrder chosen) (current : ∀ submission ∈ made, ¬ submission.Renews) :
    next.Rooted root := by
  have continues := acts.continues inOrder rooted.frozen
  refine ⟨continues.isFrozen.trans rooted.frozen, ?_, ?_⟩
  · cases acts with
    | idle unchanged unsent => rw [unchanged, rooted.transaction]
    | sent readied submissions settings responses =>
        rw [(submissions.unchanged current).2, (readied.ofFrozen rooted.frozen).id,
          rooted.transaction]
    | resubmitted held resubmissions transaction responses => rw [transaction, rooted.transaction]
  · intro response member
    cases acts with
    | idle unchanged unsent =>
        rw [unchanged] at member
        exact rooted.responses response member
    | sent readied submissions settings responses =>
        rcases responses response member with old | ⟨submission, inside, answers⟩
        · exact rooted.responses response old
        · rw [answers.sent, (submissions.unchanged current).1 submission inside,
            (readied.ofFrozen rooted.frozen).id, rooted.transaction]
    | resubmitted held resubmissions transaction responses =>
        rw [responses] at member
        exact rooted.responses response member

theorem run_chunkCount (submits : session.Submits actions submissions)
    (inOrder : session.InOrder chosen) (frozen : session.transaction.isFrozen = true) :
    (session.run actions).transaction.chunkCount = session.transaction.chunkCount := by
  induction submits with
  | nil => rfl
  | cons exchanged submitted acts rest ih =>
      have continues := acts.continues inOrder frozen
      rw [← continues.chunkCount]
      exact ih (acts.inOrder inOrder) (continues.isFrozen.trans frozen)

theorem sublist_behind {α : Type} {earlier rest : List α} {first second : α}
    (follows : [first, second].Sublist (earlier ++ rest)) (absent : first ∉ earlier) :
    [first, second].Sublist rest := by
  obtain ⟨before, after, parts, left, right⟩ := List.sublist_append_iff.mp follows
  cases before with
  | nil => simpa [parts] using right
  | cons other others =>
      obtain rfl : first = other := by simpa using congrArg List.head? parts
      exact absurd (left.subset List.mem_cons_self) absent

/-- From a session under one root, everything goes out under it until an id is renewed. -/
theorem Submits.state_rooted (submits : session.Submits actions submissions)
    (inOrder : session.InOrder chosen) (rooted : session.Rooted root)
    (chunked : 2 ≤ (session.run actions).transaction.chunkCount) {earlier rest : List Submission}
    {submission : Submission} (split : submissions = earlier ++ submission :: rest)
    (current : ∀ other ∈ earlier, ¬ other.Renews) : submission.state.id = some root := by
  induction submits generalizing earlier with
  | nil => simp at split
  | cons exchanged submitted acts later ih =>
      have whole := Submits.cons exchanged submitted acts later
      have several := chunked
      rw [run_chunkCount whole inOrder rooted.frozen] at several
      rcases split_append split with ⟨tail, here, _⟩ | ⟨middle, rfl, there⟩
      · exact acts.state_rooted rooted inOrder several here current
      · have quiet := fun other member => current other (List.mem_append_left middle member)
        exact ih (acts.inOrder inOrder) (acts.next_rooted rooted inOrder quiet) chunked there
          fun other member => current other (List.mem_append_right _ member)

/-- The first acceptance of all happens while the transaction is sent, since there are no responses
to ask about yet. -/
theorem Acts.ofFresh (acts : session.Acts client next made) (fresh : session.responses = [])
    {earlier rest : List Submission} {accepted : Submission}
    (split : made = earlier ++ accepted :: rest) :
    Submissions accepted.state (accepted :: rest) next.transaction ∧
      ∀ response ∈ next.responses,
        ∃ submission ∈ made, Transaction.Answers response submission := by
  subst split
  cases acts with
  | idle unchanged unsent => simp at unsent
  | sent readied submissions settings responses =>
      obtain ⟨middle, _, later⟩ := submissions.split
      have same : accepted.state = middle := later.first_state rfl
      refine ⟨same ▸ later, ?_⟩
      intro response member
      rcases responses response member with old | answered
      · simp [fresh] at old
      · exact answered
  | resubmitted held _ _ _ => simp [fresh] at held

theorem Acts.fresh_next (acts : session.Acts client next made) (fresh : session.responses = [])
    (refused : ∀ submission ∈ made, submission.reply.accepts = false) : next.responses = [] := by
  cases acts with
  | idle unchanged unsent => rw [unchanged, fresh]
  | sent readied submissions settings responses =>
      refine List.eq_nil_iff_forall_not_mem.mpr ?_
      intro response member
      rcases responses response member with old | ⟨submission, inside, answers⟩
      · simp [fresh] at old
      · have accepted := answers.accepted
        rw [refused submission inside] at accepted
        contradiction
  | resubmitted held _ _ _ => simp [fresh] at held

theorem Acts.rooted_ofFresh (acts : session.Acts client next made)
    (inOrder : session.InOrder chosen) (fresh : session.responses = [])
    {earlier rest : List Submission} {accepted : Submission}
    (split : made = earlier ++ accepted :: rest) (accepts : accepted.reply.accepts = true)
    (refused : ∀ other ∈ earlier, other.reply.accepts = false)
    (current : ∀ other ∈ rest, ¬ other.Renews) (named : accepted.state.id = some root) :
    next.Rooted root := by
  obtain ⟨later, answered⟩ := acts.ofFresh fresh split
  obtain ⟨states, final⟩ := later.unchanged
    (List.forall_mem_cons.mpr ⟨Submission.not_renews accepts, current⟩)
  have frozen : accepted.state.isFrozen = true := by
    obtain ⟨⟨_, _, _, sent⟩, _⟩ := acts.stored inOrder accepted (by simp [split])
    exact Transaction.isFrozen_ofChunkId sent.named
  refine ⟨final ▸ frozen, final ▸ named, ?_⟩
  intro response member
  obtain ⟨submission, inside, answers⟩ := answered response member
  rw [split] at inside
  rcases List.mem_append.mp inside with before | after
  · have wasAccepted := answers.accepted
    rw [refused submission before] at wasAccepted
    contradiction
  · rw [answers.sent, states submission after, named]

/-- A session of a transaction without responses: after the first acceptance, everything goes out
under the same root until an id is renewed. -/
theorem Submits.state_accepted (submits : session.Submits actions submissions)
    (inOrder : session.InOrder chosen) (fresh : session.responses = [])
    (chunked : 2 ≤ (session.run actions).transaction.chunkCount)
    {earlier between rest : List Submission} {accepted submission : Submission}
    (split : submissions = earlier ++ accepted :: (between ++ submission :: rest))
    (accepts : accepted.reply.accepts = true)
    (refused : ∀ other ∈ earlier, other.reply.accepts = false)
    (current : ∀ other ∈ between, ¬ other.Renews) : submission.state.id = accepted.state.id := by
  induction submits generalizing earlier with
  | nil => simp at split
  | cons exchanged submitted acts later ih =>
      -- The first acceptance is in this action or in a later one; in this one, what is sent after it
      -- is either still part of the action or starts from a session under the root.
      rcases split_append split with ⟨tail, here, others⟩ | ⟨middle, rfl, there⟩
      · obtain ⟨⟨root, _, _, sent⟩, _⟩ := acts.stored inOrder accepted (by simp [here])
        rcases split_append others.symm with ⟨final, inTail, _⟩ | ⟨middle, rfl, there⟩
        · obtain ⟨chain, _⟩ := acts.ofFresh fresh here
          rw [inTail, ← List.cons_append] at chain
          rw [chain.state_eq (List.forall_mem_cons.mpr ⟨Submission.not_renews accepts, current⟩)]
        · have quiet := fun other member => current other (List.mem_append_left middle member)
          have rooted := acts.rooted_ofFresh inOrder fresh here accepts refused quiet sent.rooted
          rw [later.state_rooted (acts.inOrder inOrder) rooted chunked there
            fun other member => current other (List.mem_append_right _ member), sent.rooted]
      · have none := fun other member => refused other (List.mem_append_left middle member)
        exact ih (acts.inOrder inOrder) (acts.fresh_next fresh none) chunked there
          fun other member => refused other (List.mem_append_right _ member)

/-- Once a chunk is accepted under a root, all that is sent later is under this root. -/
def KeepsRoot (session : Session) (actions : List Action) : Prop :=
  ∀ submissions, session.Submits actions submissions → ∀ accepted later,
    [accepted, later].Sublist submissions → accepted.reply.accepts = true →
      later.state.id = accepted.state.id

/-- After a chunk is accepted, no reply that calls for a fresh id is followed by another root. -/
def KeepsExpired (session : Session) (actions : List Action) : Prop :=
  ∀ submissions, session.Submits actions submissions → ∀ accepted expired later,
    [accepted, expired, later].Sublist submissions → accepted.reply.accepts = true →
      expired.Renews → later.state.id = expired.state.id

/-- What is under a root until an id is renewed, and is kept where that would happen, is under the
root throughout. -/
theorem all_rooted {id : Option TransactionId}
    (current : ∀ earlier submission rest, submissions = earlier ++ submission :: rest →
      (∀ other ∈ earlier, ¬ other.Renews) → submission.state.id = id)
    (kept : ∀ expired later, [expired, later].Sublist submissions → expired.Renews →
      later.state.id = expired.state.id) :
    ∀ submission ∈ submissions, submission.state.id = id := by
  induction submissions with
  | nil => simp
  | cons first rest ih =>
      have named : first.state.id = id := current [] first rest rfl (by simp)
      refine List.forall_mem_cons.mpr ⟨named, ?_⟩
      by_cases renews : first.Renews
      · intro submission member
        have follows : [first, submission].Sublist (first :: rest) :=
          (List.singleton_sublist.mpr member).cons_cons first
        rw [kept first submission follows renews, named]
      · refine ih ?_ ?_
        · intro earlier submission others split quiet
          exact current (first :: earlier) submission others (by rw [split]; rfl)
            (List.forall_mem_cons.mpr ⟨renews, quiet⟩)
        · intro expired later follows
          exact kept expired later (follows.cons first)

theorem run_submits (inOrder : session.InOrder chosen) (actions : List Action) :
    ∃ made submissions, session.world.Exchanged made (session.run actions).world ∧
      SubmittedIn session.transaction.payload made submissions ∧
      session.Submits actions submissions := by
  induction actions generalizing session with
  | nil => exact ⟨[], [], .refl _, rfl, .nil session⟩
  | cons action rest ih =>
      obtain ⟨made, first, exchanged, submitted, acts⟩ := act_acts inOrder action
      obtain ⟨others, later, exchangedLater, submittedLater, submits⟩ := ih (acts.inOrder inOrder)
      rw [acts.payload inOrder] at submittedLater
      exact ⟨made ++ others, first ++ later, exchanged.trans exchangedLater,
        submitted.append submittedLater, .cons exchanged submitted acts submits⟩

theorem Submits.carried (submits : session.Submits actions submissions)
    (inOrder : session.InOrder chosen) :
    ∀ submission ∈ submissions, submission.CarriesRoot ∧
      ∃ action ∈ actions, submission.config = submission.state.executionFor action.client := by
  induction submits with
  | nil => simp
  | @cons session action actions made first later exchanged submitted acts rest ih =>
      rw [List.forall_mem_append]
      constructor
      · intro submission member
        obtain ⟨⟨root, _, _, sent⟩, settings⟩ := acts.stored inOrder submission member
        exact ⟨⟨root, sent.rooted, sent.carries⟩, action, List.mem_cons_self, settings⟩
      · intro submission member
        obtain ⟨carries, other, inside, settings⟩ := ih (acts.inOrder inOrder) submission member
        exact ⟨carries, other, List.mem_cons_of_mem _ inside, settings⟩

theorem Submits.keepsRoot (submits : session.Submits actions submissions)
    (inOrder : session.InOrder chosen) (fresh : session.responses = [])
    (chunked : 2 ≤ (session.run actions).transaction.chunkCount)
    (kept : ∀ accepted expired later, [accepted, expired, later].Sublist submissions →
      accepted.reply.accepts = true → expired.Renews → later.state.id = expired.state.id)
    {accepted later : Submission} (follows : [accepted, later].Sublist submissions)
    (accepts : accepted.reply.accepts = true) : later.state.id = accepted.state.id := by
  cases found : submissions.find? fun submission => submission.reply.accepts with
  | none =>
      have refused := List.find?_eq_none.mp found accepted (follows.subset (by simp))
      contradiction
  | some first =>
      obtain ⟨firstAccepts, earlier, rest, split, none⟩ := List.find?_eq_some_iff_append.mp found
      have refused : ∀ other ∈ earlier, other.reply.accepts = false := by simpa using none
      have rooted : ∀ submission ∈ rest, submission.state.id = first.state.id := by
        refine all_rooted ?_ ?_
        · intro between submission others inRest current
          rw [inRest] at split
          exact submits.state_accepted inOrder fresh chunked split firstAccepts refused current
        · intro expired other inRest
          refine kept first expired other ?_ firstAccepts
          rw [split]
          exact (inRest.cons_cons first).trans (List.sublist_append_right earlier _)
      have inside : [accepted, later].Sublist (first :: rest) := by
        refine sublist_behind (split ▸ follows) ?_
        intro member
        rw [refused accepted member] at accepts
        contradiction
      rcases List.cons_sublist_cons'.mp inside with inRest | ⟨rfl, inRest⟩
      · rw [rooted later (inRest.subset (by simp)), rooted accepted (inRest.subset (by simp))]
      · exact rooted later (inRest.subset (by simp))

/-- All that a session submits for a transaction of several chunks carries the root that it has
then. Once a chunk was accepted this root stays, exactly if it stays where the first chunk is sent
again, is found expired, and may get a fresh id. -/
theorem keepsRoot_iff (obtainable : session.transaction.Obtainable chosen)
    (fresh : session.responses = [])
    (chunked : 2 ≤ (session.run actions).transaction.chunkCount) :
    (∃ made submissions, session.world.Exchanged made (session.run actions).world ∧
      SubmittedIn session.transaction.payload made submissions ∧
      session.Submits actions submissions ∧
      ∀ submission ∈ submissions, submission.CarriesRoot ∧
        ∃ action ∈ actions, submission.config = submission.state.executionFor action.client) ∧
    (session.KeepsRoot actions ↔ session.KeepsExpired actions) := by
  have inOrder : session.InOrder chosen := ⟨obtainable, by simp [fresh]⟩
  refine ⟨?_, ?_, ?_⟩
  · obtain ⟨made, submissions, exchanged, submitted, submits⟩ := run_submits inOrder actions
    exact ⟨made, submissions, exchanged, submitted, submits, submits.carried inOrder⟩
  · intro keeps submissions submits accepted expired later follows accepts _
    have first : [accepted, expired].Sublist submissions :=
      List.Sublist.trans (.cons_cons _ (.cons_cons _ (.cons _ .slnil))) follows
    have second : [accepted, later].Sublist submissions :=
      List.Sublist.trans (.cons_cons _ (.cons _ (.cons_cons _ .slnil))) follows
    rw [keeps submissions submits accepted later second accepts,
      keeps submissions submits accepted expired first accepts]
  · intro kept submissions submits accepted later follows accepts
    exact submits.keepsRoot inOrder fresh chunked (kept submissions submits) follows accepts

end LedgerClient.Session

namespace LedgerClient

namespace Sample

/-- The first chunk of the message is accepted and the second refused. When the message is sent
again, the id has expired. -/
def session : Session where
  transaction := message
  responses := []
  world := world [answer .ok, answer .invalidSignature, answer .transactionExpired, answer .ok,
    answer .ok]

/-- The session after the message was sent once. -/
def sentOnce : Session :=
  session.act (.executeAll client)

def sentTwice : Session :=
  session.run [.executeAll client, .executeAll client]

end Sample

namespace Session

theorem sample_keepsRoot_iff :
    Sample.session.transaction.Obtainable none ∧ Sample.session.responses = [] ∧
      2 ≤ (Sample.session.run [.executeAll Sample.client]).transaction.chunkCount ∧
      (Sample.session.KeepsRoot [.executeAll Sample.client] ↔
        Sample.session.KeepsExpired [.executeAll Sample.client]) := by
  have chunked : 2 ≤ (Sample.session.run [.executeAll Sample.client]).transaction.chunkCount := by
    decide +kernel
  have obtainable : Sample.session.transaction.Obtainable none := Sample.message_obtainable
  exact ⟨obtainable, rfl, chunked, (keepsRoot_iff obtainable rfl chunked).2⟩

/-- The id that the client makes for the message when it is frozen, and the one after it. -/
def sampleId (seconds : UInt64) : TransactionId :=
  .generate Sample.operator.account { seconds, nanos := 0 } 0

theorem sample_first_sending {ready : Transaction}
    (sent : Transaction.Sent (Sample.session.transaction.executionFor Sample.client) ready
      Sample.session.world made
      (Sample.session.transaction.executeAll Sample.client Sample.session.world)) :
    ∃ accepted refused, made = [accepted, refused] ∧ accepted.reply.accepts = true ∧
      accepted.state.id = some (sampleId 1000) := by
  have calls : Sample.sentOnce.world.calls.length = 2 := by decide +kernel
  have named : Sample.sentOnce.transaction.id = some (sampleId 1000) := by decide +kernel
  have counted := sent.exchanged.length
  rw [List.length_map] at counted
  obtain ⟨accepted, refused, rfl⟩ :=
    List.length_eq_two.mp (Nat.add_left_cancel (counted.symm.trans calls))
  have waits : [accepted.patience, refused.patience] =
      List.replicate 2 (some Sample.config.attemptTimeout) :=
    sent.exchanged.waits.symm.trans (by decide +kernel)
  obtain ⟨first, second⟩ := by simpa using waits
  have taken : accepted.reply = Sample.answer .ok :=
    sent.exchanged.heard (show [_, _][0]? = _ from rfl) first
  have declined : refused.reply = Sample.answer .invalidSignature :=
    sent.exchanged.heard (show [_, _][1]? = _ from rfl) second
  have accepts : accepted.reply.accepts = true := by
    rw [taken]
    decide +kernel
  have current : ¬ refused.Renews := by
    intro renews
    have expired := renews.expired
    rw [declined] at expired
    revert expired
    decide +kernel
  obtain ⟨states, final⟩ := sent.submissions.unchanged
    (List.forall_mem_cons.mpr ⟨Submission.not_renews accepts, by simpa using current⟩)
  refine ⟨accepted, refused, rfl, accepts, ?_⟩
  rw [states accepted (by simp), ← final]
  exact named

theorem sample_second_sending {ready : Transaction}
    (sent : Transaction.Sent (Sample.sentOnce.transaction.executionFor Sample.client) ready
      Sample.sentOnce.world made
      (Sample.sentOnce.transaction.executeAll Sample.client Sample.sentOnce.world)) :
    ∃ expired renewed last, made = [expired, renewed, last] ∧
      last.state.id = some (sampleId 1001) := by
  have before : Sample.sentOnce.world.calls.length = 2 := by decide +kernel
  have calls : Sample.sentTwice.world.calls.length = 2 + 3 := by decide +kernel
  have named : Sample.sentTwice.transaction.id = some (sampleId 1001) := by decide +kernel
  have counted := sent.exchanged.length
  rw [List.length_map, before] at counted
  obtain ⟨expired, renewed, last, rfl⟩ :=
    List.length_eq_three.mp (Nat.add_left_cancel (counted.symm.trans calls))
  have grown : Sample.sentTwice.world.waits =
      Sample.sentOnce.world.waits ++ List.replicate 3 (some Sample.config.attemptTimeout) := by
    decide +kernel
  have waits : [expired.patience, renewed.patience, last.patience] =
      List.replicate 3 (some Sample.config.attemptTimeout) :=
    List.append_cancel_left (sent.exchanged.waits.symm.trans grown)
  obtain ⟨-, -, third⟩ := by simpa using waits
  have taken : last.reply = Sample.answer .ok :=
    sent.exchanged.heard (show [_, _, _][2]? = _ from rfl) third
  have accepts : last.reply.accepts = true := by
    rw [taken]
    decide +kernel
  have submissions : Submissions ready ([expired, renewed] ++ [last])
      Sample.sentTwice.transaction := sent.submissions
  refine ⟨expired, renewed, last, rfl, ?_⟩
  rw [← submissions.final_eq (Submission.not_renews accepts)]
  exact named

/-- Sending the message a second time replaces the root under which its first chunk was accepted. -/
theorem sample_not_keepsRoot :
    Sample.session.transaction.Obtainable none ∧ Sample.session.responses = [] ∧
      2 ≤ (Sample.session.run
        [.executeAll Sample.client, .executeAll Sample.client]).transaction.chunkCount ∧
      ¬ Sample.session.KeepsRoot [.executeAll Sample.client, .executeAll Sample.client] := by
  refine ⟨Sample.message_obtainable, rfl, by decide +kernel, ?_⟩
  intro keeps
  obtain ⟨ready, first, readied, sent⟩ := Transaction.executeAll_sent Sample.session.transaction
    Sample.client Sample.session.world
  obtain ⟨readyAgain, second, readiedAgain, sentAgain⟩ :=
    Transaction.executeAll_sent Sample.sentOnce.transaction Sample.client Sample.sentOnce.world
  have submits : Sample.session.Submits [.executeAll Sample.client, .executeAll Sample.client]
      (first ++ (second ++ [])) := by
    have rest : Sample.sentOnce.Submits [.executeAll Sample.client] (second ++ []) :=
      .cons sentAgain.exchanged (sent_submittedIn readiedAgain sentAgain)
        (executeAll_acts readiedAgain sentAgain) (.nil _)
    exact .cons sent.exchanged (sent_submittedIn readied sent) (executeAll_acts readied sent) rest
  obtain ⟨accepted, refused, rfl, accepts, named⟩ := sample_first_sending sent
  obtain ⟨expired, renewed, last, rfl, renamed⟩ := sample_second_sending sentAgain
  have follows : [accepted, last].Sublist
      ([accepted, refused] ++ ([expired, renewed, last] ++ [])) :=
    .cons_cons _ (List.singleton_sublist.mpr (by simp))
  have same := keeps _ submits accepted last follows accepts
  rw [named, renamed] at same
  revert same
  decide +kernel

end Session

end LedgerClient
