import LedgerClient.Proofs.Query.Receipts

/-!
How often an accepted transaction is sent again by those who ask for its receipt. Within one call
that happens at most once. But a response keeps no record of it, and the network goes on to report
the first submission as throttled, so every further call sends the transaction once more.
-/

namespace LedgerClient

/-- How many submissions among these exchanges were accepted. -/
def acceptedIn (payload : Payload) (made : List Exchange) : Nat :=
  made.countP fun exchange => exchange.call.method = payload.method && exchange.reply.accepts

theorem acceptedIn_append (payload : Payload) (first second : List Exchange) :
    acceptedIn payload (first ++ second) = acceptedIn payload first + acceptedIn payload second :=
  List.countP_append

theorem SubmittedIn.acceptedIn {payload : Payload} {made : List Exchange}
    {submissions : List Submission} (submitted : SubmittedIn payload made submissions) :
    acceptedIn payload made = submissions.countP fun submission => submission.reply.accepts := by
  have filtered : LedgerClient.acceptedIn payload made =
      (made.filter fun exchange => exchange.call.method = payload.method).countP
        fun exchange => exchange.reply.accepts := by
    rw [List.countP_filter, LedgerClient.acceptedIn]
    refine List.countP_congr ?_
    intro exchange _
    rw [Bool.and_comm]
  rw [filtered, ← submitted, List.countP_map]
  rfl

namespace TransactionResponse

theorem Resubmissions.countP_accepts {response : TransactionResponse} {client : Client}
    {made : List Submission} {accepted : Bool}
    (resubmissions : Resubmissions response client made accepted) :
    (made.countP fun submission => submission.reply.accepts) = if accepted then 1 else 0 := by
  cases resubmissions with
  | none => rfl
  | some resends submissions settings delivers => exact delivers.countP_accepts

/-- A call for the receipt of an accepted transaction, as it is or only if it says success. -/
inductive Asking where
  | receipt (client : Client)
  | successfulReceipt (client : Client)

def Asking.client : Asking → Client
  | receipt client => client
  | successfulReceipt client => client

def ask (response : TransactionResponse) (world : World) : Asking → World
  | .receipt client => (response.receipt client world).2
  | .successfulReceipt client => (response.successfulReceipt client world).2

def askAll (response : TransactionResponse) (asked : List Asking) (world : World) : World :=
  asked.foldl response.ask world

/-- How many of the calls find the transaction throttled, send it again and have it accepted. -/
def resubmissions (response : TransactionResponse) : List Asking → World → Nat
  | [], _ => 0
  | asking :: rest, world =>
      (if response.resubmits asking.client world then 1 else 0) +
        response.resubmissions rest (response.ask world asking)

/-- Over all these calls, no more than one resubmission is accepted. -/
def ResubmittedAtMostOnce (response : TransactionResponse) (asked : List Asking) (world : World) :
    Prop :=
  ∀ made, world.Exchanged made (response.askAll asked world) →
    acceptedIn response.sent.payload made ≤ 1

theorem ask_world (response : TransactionResponse) (world : World) (asking : Asking) :
    response.ask world asking = (response.receipt asking.client world).2 := by
  cases asking with
  | receipt client => rfl
  | successfulReceipt client => exact response.successfulReceipt_world client world

theorem askAll_accepted (response : TransactionResponse) (asked : List Asking) (world : World) :
    ∃ made, world.Exchanged made (response.askAll asked world) ∧
      acceptedIn response.sent.payload made = response.resubmissions asked world := by
  -- A response is never changed, so the calls only have the world in common.
  induction asked generalizing world with
  | nil => exact ⟨[], .refl world, rfl⟩
  | cons asking rest ih =>
      obtain ⟨made, submissions, exchanged, submitted, resubmissions⟩ :=
        receipt_resubmissions response asking.client world
      rw [← ask_world] at exchanged
      obtain ⟨later, exchangedLater, accepted⟩ := ih (response.ask world asking)
      refine ⟨made ++ later, exchanged.trans exchangedLater, ?_⟩
      rw [acceptedIn_append, submitted.acceptedIn, resubmissions.countP_accepts, accepted,
        TransactionResponse.resubmissions]

/-- At most one resubmission is accepted exactly if at most one of the calls finds the transaction
throttled and gets it accepted again. -/
theorem resubmittedAtMostOnce_iff (response : TransactionResponse) (asked : List Asking)
    (world : World) :
    response.ResubmittedAtMostOnce asked world ↔ response.resubmissions asked world ≤ 1 := by
  obtain ⟨made, exchanged, accepted⟩ := askAll_accepted response asked world
  constructor
  · intro atMostOnce
    rw [← accepted]
    exact atMostOnce made exchanged
  · intro few other exchangedOther
    rw [exchanged.unique exchangedOther, accepted]
    exact few

end TransactionResponse

namespace Sample

def transfer : Transaction :=
  .ofPayload (.transfer
    [{ account := operator.account, amount := -100 },
      { account := EntityId.ofNumbers 0 0 1002, amount := 100 }])

/-- A submission is accepted and throttled, and the next one is accepted and succeeds; the first one
remains throttled, and another submission is accepted and succeeds too. -/
def throttled : World :=
  world [answer .ok, receipt .throttledAtConsensus, answer .ok, receipt .success,
    receipt .throttledAtConsensus, answer .ok, receipt .success]

end Sample

namespace TransactionResponse

/-- Two calls for the receipt of a throttled transfer submit it twice more, and both of these are
accepted. -/
theorem sample_resubmitted_twice :
    ∃ response, (Sample.transfer.execute Sample.client Sample.throttled).result = .ok response ∧
      ¬ response.ResubmittedAtMostOnce
        [.receipt Sample.client, .successfulReceipt Sample.client]
        (Sample.transfer.execute Sample.client Sample.throttled).world := by
  refine ⟨_, rfl, ?_⟩
  intro atMostOnce
  obtain ⟨made, exchanged, accepted⟩ := askAll_accepted _
    [.receipt Sample.client, .successfulReceipt Sample.client] _
  have few := atMostOnce made exchanged
  rw [accepted] at few
  revert few
  decide +kernel

end TransactionResponse

end LedgerClient
