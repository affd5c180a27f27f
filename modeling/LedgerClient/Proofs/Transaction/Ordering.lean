import LedgerClient.Proofs.Transaction.Keeping
import LedgerClient.Proofs.Transaction.Roots

/-!
In which order a transaction is sent, and what comes out. Its chunks go out one after the other,
each until a node accepts it; what was accepted gives one response for each chunk, and the contents
of what was accepted make up the content that was to be sent.
-/

namespace LedgerClient.Transaction

variable {config : ExecutionConfig} {start state : Transaction} {world : World}
  {chunk first count : Nat} {made : List Submission} {chosen : Option TransactionId}

/-! ## One response for each chunk -/

/-- The response is about this submission, which was accepted: it names the node, the id and the
hash of the body that was sent. -/
structure Confirms (response : TransactionResponse) (submission : Submission) : Prop where
  accepted : submission.reply.accepts = true
  chunk : response.chunk = submission.chunk
  node : response.node = submission.call.node
  sent : ∃ signed : SignedTransaction, submission.call.request = Wire.encode signed ∧
    signed.IsFor response.id response.node ∧ response.hash = Sha256.digest signed.body

theorem response_eq {response : TransactionResponse} {node : AccountId}
    (given : state.response chunk node = .ok response) :
    ∃ signed id, state.requestFor chunk node = .ok signed ∧ state.chunkIdAt chunk = some id ∧
      response = { node, id, hash := signed.hash, sent := state, chunk } := by
  obtain ⟨signed, found, named⟩ := bind_eq_ok.mp given
  split at named
  · cases named
  · rename_i id known
    cases named
    exact ⟨signed, id, found, known, rfl⟩

theorem Answers.confirms {response : TransactionResponse} {submission : Submission}
    {node : AccountId} (answers : Answers response submission) (faithful : submission.Faithful)
    (sound : submission.state.Sound chosen)
    (given : submission.state.response submission.chunk node = .ok response) :
    Confirms response submission := by
  obtain ⟨signed, id, found, known, rfl⟩ := response_eq given
  obtain rfl : node = submission.call.node := answers.node
  obtain ⟨stored, requested, request⟩ := faithful.stored
  obtain rfl : stored = signed := by
    rw [found] at requested
    cases requested
    rfl
  refine ⟨answers.accepted, rfl, rfl, stored, request, ?_, rfl⟩
  cases held : submission.state.frozen with
  | none => simp [requestFor, held] at found
  | some frozen =>
      simp only [requestFor, held] at found
      obtain ⟨root, -, coherent⟩ := sound.coherent frozen held
      obtain ⟨bodies, inChunk, -, addressed⟩ := coherent.signedFor found
      obtain rfl : bodies.id = id := by simpa [chunkIdAt, held, inChunk] using known
      exact addressed

/-! ## One chunk after the other -/

/-- Submissions of `count` chunks from the one at `first` on, and what comes of them. -/
structure Ordered (first count : Nat) (made : List Submission)
    (result : Except Error (List TransactionResponse)) : Prop where
  inside : ∀ submission ∈ made, first ≤ submission.chunk ∧ submission.chunk < first + count
  ascending : made.Pairwise fun earlier later => earlier.chunk ≤ later.chunk
  behind : ∀ earlier submission rest, made = earlier ++ submission :: rest →
    ∀ chunk, first ≤ chunk → chunk < submission.chunk →
      ∃ other ∈ earlier, other.chunk = chunk ∧ other.reply.accepts = true
  once : made.Pairwise fun earlier later =>
    earlier.reply.accepts = true → earlier.chunk < later.chunk
  confirmed : ∀ responses, result = .ok responses →
    (made.filter (·.reply.accepts)).map Submission.chunk = List.range' first count ∧
      List.Forall₂ Confirms responses (made.filter (·.reply.accepts))

/-- Nothing was accepted of this one chunk, which ends the sending. -/
theorem ordered_refused {error : Error} (positive : 0 < count)
    (place : ∀ submission ∈ made, submission.chunk = chunk)
    (refused : ∀ submission ∈ made, submission.reply.accepts = false) :
    Ordered chunk count made (.error error) where
  inside submission member := by
    rw [place submission member]
    omega
  ascending := by
    refine List.pairwise_of_forall_mem_list fun earlier before later after => ?_
    rw [place earlier before, place later after]
  behind earlier submission rest split other lower upper := by
    rw [place submission (by simp [split])] at upper
    omega
  once := by
    refine List.pairwise_of_forall_mem_list fun earlier before later _ accepts => ?_
    rw [refused earlier before] at accepts
    contradiction
  confirmed responses result := by cases result

/-- A chunk was accepted, and the others followed it. -/
theorem Ordered.next {earlier later : List Submission} {last : Submission}
    {response : TransactionResponse} {result : Except Error (List TransactionResponse)}
    (place : ∀ submission ∈ earlier ++ [last], submission.chunk = first)
    (refused : ∀ other ∈ earlier, other.reply.accepts = false)
    (confirms : Confirms response last) (rest : Ordered (first + 1) count later result) :
    Ordered first (count + 1) (earlier ++ [last] ++ later) (result.map (response :: ·)) := by
  have lastPlace : last.chunk = first := place last (by simp)
  have afterwards : ∀ other ∈ earlier ++ [last], ∀ submission ∈ later,
      other.chunk < submission.chunk := by
    intro other before submission after
    rw [place other before]
    exact (rest.inside submission after).1
  constructor
  case inside =>
    intro submission member
    rcases List.mem_append.mp member with here | after
    · rw [place submission here]
      omega
    · have bounds := rest.inside submission after
      omega
  case ascending =>
    refine List.pairwise_append.mpr ⟨?_, rest.ascending, fun other before submission after =>
      Nat.le_of_lt (afterwards other before submission after)⟩
    refine List.pairwise_of_forall_mem_list fun one before two after => ?_
    rw [place one before, place two after]
  case behind =>
    intro before submission rest' split chunk lower upper
    rcases split_append split with ⟨tail, here, _⟩ | ⟨middle, rfl, there⟩
    · rw [place submission (by simp [here])] at upper
      omega
    · rcases Nat.eq_or_lt_of_le lower with rfl | above
      · exact ⟨last, by simp, lastPlace, confirms.accepted⟩
      · obtain ⟨other, inside, same, accepts⟩ :=
          rest.behind middle submission rest' there chunk above upper
        exact ⟨other, List.mem_append_right _ inside, same, accepts⟩
  case once =>
    refine List.pairwise_append.mpr ⟨?_, rest.once, fun other before submission after _ =>
      afterwards other before submission after⟩
    refine List.pairwise_append.mpr ⟨?_, List.pairwise_singleton _ _, ?_⟩
    · refine List.pairwise_of_forall_mem_list fun one before two _ accepts => ?_
      rw [refused one before] at accepts
      contradiction
    · intro one before two _ accepts
      rw [refused one before] at accepts
      contradiction
  case confirmed =>
    have taken : (earlier ++ [last] ++ later).filter (·.reply.accepts) =
        last :: later.filter (·.reply.accepts) := by
      have none : earlier.filter (·.reply.accepts) = [] :=
        List.filter_eq_nil_iff.mpr fun other before => by simp [refused other before]
      simp [List.filter_append, none, confirms.accepted]
    intro responses ok
    obtain ⟨answered, others, rfl⟩ := map_eq_ok.mp ok
    obtain ⟨chunks, confirmed⟩ := rest.confirmed answered others
    rw [taken]
    exact ⟨by rw [List.map_cons, chunks, lastPlace, List.range'_succ], .cons confirms confirmed⟩

theorem Chunked.ordered {sent : Finished Transaction (List TransactionResponse)}
    (chunked : Chunked config start world first count made sent) (sound : start.Sound chosen) :
    Ordered first count made sent.result := by
  induction chunked with
  | done start world chunk =>
      refine ⟨by simp, .nil, by simp, .nil, ?_⟩
      intro responses ok
      cases ok
      exact ⟨rfl, .nil⟩
  | failed delivered =>
      refine ordered_refused (Nat.succ_pos _)
        (fun submission member => (delivered.place submission member).1) ?_
      cases delivered.ends with
      | refused refused => exact refused
  | next delivered given rest ih =>
      obtain ⟨members, final⟩ := delivered.submissions.sound sound
      have place := fun submission member => (delivered.place submission member).1
      have faithful := delivered.submissions.faithful
      obtain ⟨node, given⟩ := given
      cases delivered.ends with
      | @accepted earlier last _ split refused answers unchanged =>
          subst split
          dsimp only at unchanged
          subst unchanged
          refine .next place refused ?_ (ih final)
          rw [← place last (by simp)] at given
          exact answers.confirms (faithful last (by simp)) final given

end LedgerClient.Transaction
