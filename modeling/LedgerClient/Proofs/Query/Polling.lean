import LedgerClient.Proofs.Requests
import LedgerClient.Proofs.Query.Payments
import LedgerClient.Proofs.Query.Receipts
import LedgerClient.Proofs.Wire.Apart

/-!
Asking one node for one receipt. The node may say that the receipt is not there yet, by a status or
by a receipt that is not final, and is then asked again. What comes out is the first final receipt.
-/

namespace LedgerClient

/-- The call asks, without paying, for the receipt of this transaction. -/
def Call.AsksFor (call : Call) (id : TransactionId) : Prop :=
  call.request = Wire.encode
    ({ header := { payment := none, responseType := .answerOnly }
       data := .receipt id } : QueryRequest)

instance (call : Call) (id : TransactionId) : Decidable (call.AsksFor id) :=
  inferInstanceAs (Decidable (call.request = _))

/-- The receipt in a reply, if the node gave one and it is final. -/
def Reply.receipt? : Reply → Option Receipt
  | .answered bytes _ =>
      match (Wire.decode bytes : Except DecodeError QueryResponse) with
      | .ok response =>
          if Outcome.ofStatus response.precheck false = .accepted then
            (response.answer.bind QueryAnswer.receipt?).filter fun receipt => !receipt.isPending
          else none
      | .error _ => none
  | _ => none

theorem Reply.receipt?_final {reply : Reply} {receipt : Receipt}
    (given : reply.receipt? = some receipt) : receipt.isPending = false := by
  unfold Reply.receipt? at given
  split at given
  · split at given
    · split at given
      · simpa using (Option.filter_eq_some_iff.mp given).2
      · cases given
    · cases given
  · cases given

namespace TransactionResponse

variable {id : TransactionId} {node : AccountId} {config : ExecutionConfig} {world : World}
  {receipt : Receipt}

/-- A reply with a receipt in it is accepted exactly if the receipt is final. -/
theorem answerOutcome_eq_accepted_iff {response : QueryResponse} {mayRegenerate : Bool}
    (found : response.answer.bind QueryAnswer.receipt? = some receipt) :
    (receiptQuery id node).answerOutcome response mayRegenerate = .accepted ↔
      Outcome.ofStatus response.precheck false = .accepted ∧ receipt.isPending = false := by
  have given := QueryAnswer.bind_receipt?_eq_some.mp found
  by_cases unsettled : (receiptQuery id node).Unsettled response
  · rw [unsettled.answerOutcome_eq]
    refine ⟨nofun, ?_⟩
    rintro ⟨passed, final⟩
    have through := Outcome.ofStatus_eq_accepted_iff.mp passed
    obtain ⟨-, early | ⟨-, other, same, undecided⟩⟩ := unsettled
    · rcases through with ok | success <;> simp_all
    · cases given.symm.trans same
      have pending : receipt.isPending = true := Status.isPending_iff.mpr undecided
      rw [final] at pending
      cases pending
  · rw [Query.answerOutcome_of_settled unsettled, Outcome.ofStatus_eq_accepted_iff,
      Outcome.ofStatus_eq_accepted_iff]
    refine ⟨fun through => ⟨through, ?_⟩, And.left⟩
    by_contra undecided
    have pending : receipt.isPending = true := by simpa using undecided
    exact unsettled ⟨⟨id, rfl⟩, .inr ⟨by simpa using through, receipt, given,
      Status.isPending_iff.mp pending⟩⟩

/-- The request for a receipt, as the loop drives it. -/
abbrev poll (id : TransactionId) (node : AccountId) :
    Request (Option Payment) QueryResponse Receipt :=
  (receiptQuery id node).answerRequest QueryAnswer.receipt?

/-- A reply ends the question with a receipt exactly if it is one that gives it. -/
theorem settles_ok_iff {mayReplace : Bool} {state : Option Payment} {asked : AccountId}
    {reply : Reply} :
    (poll id node).Settles mayReplace state asked reply (.ok receipt) ↔
      reply.receipt? = some receipt := by
  constructor
  · intro settles
    generalize outcome : Except.ok receipt = result at settles
    cases settles with
    | @accepted delay bytes response decoded passed =>
        have found : response.answer.bind QueryAnswer.receipt? = some receipt := by
          simp only [poll, Query.answerRequest] at outcome
          split at outcome <;> cases outcome
          assumption
        obtain ⟨through, final⟩ := (answerOutcome_eq_accepted_iff found).mp passed
        have decoded : (Wire.decode bytes : Except DecodeError QueryResponse) = .ok response :=
          decoded
        simp [Reply.receipt?, decoded, through, found, final]
    | rejected _ _ | broken _ | undecodable _ => cases outcome
  · intro given
    cases reply with
    | failed cause delay => cases given
    | silent => cases given
    | answered bytes delay =>
        simp only [Reply.receipt?] at given
        split at given
        · rename_i response decoded
          split at given
          · rename_i through
            obtain ⟨found, final⟩ := Option.filter_eq_some_iff.mp given
            have passed : (poll id node).outcome response mayReplace = .accepted :=
              (answerOutcome_eq_accepted_iff found).mpr ⟨through, by simpa using final⟩
            have settles :
                (poll id node).Settles mayReplace state asked (.answered bytes delay) _ :=
              .accepted decoded passed
            simpa [poll, Query.answerRequest, found] using settles
          · cases given
        · cases given

theorem poll_contained : (poll id node).Contained :=
  Query.answerRequest_contained _ _

/-- What asking `node` for the receipt of `id` comes to. -/
structure Polled (id : TransactionId) (node : AccountId) (world : World) (made : List Exchange)
    (answer : Except Error Receipt × World) : Prop where
  exchanged : world.Exchanged made answer.2
  methods : ∀ exchange ∈ made, exchange.call.method = (QueryData.receipt id).method
  asks : ∀ exchange ∈ made, exchange.call.AsksFor id
  addressed : ∀ exchange ∈ made, exchange.call.node.same node = true
  answered : ∀ receipt, answer.1 = .ok receipt ↔
    ∃ last, made.getLast? = some last ∧ last.reply.receipt? = some receipt
  failed : ∀ error, answer.1 = .error error → ¬ error.OnReceipt

theorem poll_candidates {nodes : List AccountId}
    (found : (world.candidates ((poll id node).nodes none)).1 = .ok nodes) :
    ∀ candidate ∈ nodes, candidate.same node = true := by
  intro candidate member
  have served : (world.network.candidates (some [node]) world.now).1 = .ok nodes := found
  obtain ⟨listed, chosen, same⟩ := Network.candidates_chosen served candidate member
  obtain rfl := List.mem_singleton.mp chosen
  exact EntityId.same_iff.mpr (EntityId.same_iff.mp same).symm

/-- What comes out is the final receipt in the last reply, if there is one in it. -/
theorem poll_answered {deadline : Option Instant} {nodes : List AccountId} {left : Nat}
    {before : Option Status} {made : List (Try (Option Payment))} {final : Option Payment}
    {result : Except Error Receipt}
    (ends : (poll id node).Ends config deadline nodes left before made final result) :
    result = .ok receipt ↔
      ∃ last, (made.map Try.toExchange).getLast? = some last ∧
        last.reply.receipt? = some receipt := by
  constructor
  · rintro rfl
    obtain ⟨attempt, last, -, settles⟩ := ends.ofOk
    refine ⟨attempt.toExchange, ?_, settles_ok_iff.mp settles⟩
    rw [List.getLast?_map, last]
    rfl
  · rintro ⟨exchange, last, given⟩
    rw [List.getLast?_map] at last
    obtain ⟨attempt, found, rfl⟩ := Option.map_eq_some_iff.mp last
    have gives (mayReplace : Bool) (state : Option Payment) :
        (poll id node).Settles mayReplace state attempt.call.node attempt.reply (.ok receipt) :=
      settles_ok_iff.mpr given
    obtain ⟨-, settles⟩ := ends.ofFinal found (gives _ attempt.state).not_retries
    exact settles.unique (gives _ final)

theorem poll_polled (id : TransactionId) (node : AccountId) (config : ExecutionConfig)
    (world : World) :
    ∃ made, Polled id node world made
      (((poll id node).execute config none world).result,
        ((poll id node).execute config none world).world) := by
  have lawful : (poll id node).Lawful :=
    (receiptQuery id node).answerRequest_lawful QueryAnswer.receipt?
  rcases Request.execute_ends_candidates lawful config none world with
    ⟨cause, none, executed⟩ | ⟨nodes, tried, found, exchanged, tries, ends, candidates, -⟩
  · rw [executed]
    have quiet := World.exchanged_candidates world ((poll id node).nodes Option.none)
    refine ⟨[], quiet, by simp, by simp, by simp, by simp, ?_⟩
    intro error failed
    cases failed
    exact fun onReceipt => onReceipt
  · refine ⟨tried.map Try.toExchange,
      { exchanged
        methods := List.forall_mem_map.mpr fun attempt inside => (tries.sends attempt inside).1
        asks := Query.tries_askFreely tries
        addressed := List.forall_mem_map.mpr fun attempt inside =>
          poll_candidates found attempt.call.node (candidates attempt inside)
        answered := fun receipt => poll_answered ends
        failed := ?_ }⟩
    intro error failed
    dsimp only at failed
    rw [failed] at ends
    exact (poll_contained.ends ends).not_onReceipt

theorem queryReceipt_polled (response : TransactionResponse) (client : Client) (world : World) :
    ∃ made, Polled response.id response.node world made (response.queryReceipt client world) := by
  simp only [queryReceipt, Query.execute]
  split
  · refine ⟨[], .refl world, by simp, by simp, by simp, by simp, ?_⟩
    intro error failed
    cases failed
    exact fun onReceipt => onReceipt
  · exact poll_polled response.id response.node _ world

end TransactionResponse

/-! ## Which transaction is asked about -/

theorem TransactionId.encode_same {left right : TransactionId} (same : left.same right = true) :
    Wire.encode left = Wire.encode right := by
  have bare (id : TransactionId) : Wire.encode id.bare = Wire.encode id := rfl
  rw [← bare left, ← bare right, TransactionId.same_iff.mp same]

/-- A question for a receipt is about one transaction only. -/
theorem Call.AsksFor.iff_same {call : Call} {asked other : TransactionId}
    (asks : call.AsksFor asked) : call.AsksFor other ↔ asked.same other = true := by
  have parts (id : TransactionId) : Wire.encode
      ({ header := { payment := none, responseType := .answerOnly }
         data := .receipt id } : QueryRequest) = [0, 0, 0] ++ (Wire.encode id ++ []) := by
    rw [List.append_nil]
    rfl
  rw [Call.AsksFor, asks, parts asked, parts other]
  constructor
  · intro same
    exact TransactionId.encode_append_eq (List.append_cancel_left same)
  · intro same
    rw [TransactionId.encode_same same]

end LedgerClient
