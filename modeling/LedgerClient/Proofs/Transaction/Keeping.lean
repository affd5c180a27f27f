import LedgerClient.Proofs.Signature.Neutral
import LedgerClient.Proofs.Transaction.Operations

/-!
What stays of a transaction once it is frozen. Whatever is done to it then, unless its id is
replaced, it asks for the same under the same id, its bodies are the same, and signatures are only
added behind those that are there, until it is sealed. As long as the signers make signatures that
verify, so do all signatures that it holds, and none of its bodies has two of one key.
-/

namespace LedgerClient.Transaction

variable {transaction before middle after : Transaction}

/-- Nothing of a frozen transaction has changed but for signatures that were added. -/
structure Keeps (before after : Transaction) : Prop where
  id : after.id = before.id
  generated : after.generated = before.generated
  payload : after.payload = before.payload
  memo : after.memo = before.memo
  validDuration : after.validDuration = before.validDuration
  nodes : after.targetNodes = before.targetNodes
  fee : after.offeredFee = before.offeredFee
  bodies : ∀ frozen, before.frozen = some frozen →
    ∃ grown, after.frozen = some grown ∧ frozen.Grows grown
  closed : before.isSealed = true → after.isSealed = true ∧ after.frozen = before.frozen

theorem Keeps.refl (transaction : Transaction) : Keeps transaction transaction :=
  ⟨rfl, rfl, rfl, rfl, rfl, rfl, rfl, fun frozen stored => ⟨frozen, stored, .refl frozen⟩,
    fun closed => ⟨closed, rfl⟩⟩

theorem Keeps.trans (first : Keeps before middle) (second : Keeps middle after) :
    Keeps before after where
  id := second.id.trans first.id
  generated := second.generated.trans first.generated
  payload := second.payload.trans first.payload
  memo := second.memo.trans first.memo
  validDuration := second.validDuration.trans first.validDuration
  nodes := second.nodes.trans first.nodes
  fee := second.fee.trans first.fee
  bodies frozen stored := by
    obtain ⟨grown, storedGrown, grows⟩ := first.bodies frozen stored
    obtain ⟨final, storedFinal, growsMore⟩ := second.bodies grown storedGrown
    exact ⟨final, storedFinal, grows.trans growsMore⟩
  closed isSealed := by
    obtain ⟨stillSealed, same⟩ := first.closed isSealed
    obtain ⟨sealedAfter, sameAfter⟩ := second.closed stillSealed
    exact ⟨sealedAfter, sameAfter.trans same⟩

theorem Keeps.isFrozen (keeps : Keeps before after) (frozen : before.isFrozen = true) :
    after.isFrozen = true := by
  obtain ⟨held, stored⟩ := Option.isSome_iff_exists.mp frozen
  obtain ⟨grown, storedGrown, -⟩ := keeps.bodies held stored
  simp [Transaction.isFrozen, storedGrown]

/-- A transaction that differs in its signers and in bodies that have grown, and is not sealed. -/
theorem keeps_grown {frozen grown : Frozen} (stored : before.frozen = some frozen)
    (unsealed : before.isSealed = false) (grows : frozen.Grows grown) (signers : List Signer) :
    Keeps before { before with signers, frozen := some grown } where
  id := rfl
  generated := rfl
  payload := rfl
  memo := rfl
  validDuration := rfl
  nodes := by simp only [targetNodes, stored, grows.nodes]
  fee := by simp only [offeredFee, stored, grows.maxFee]
  bodies held same := by
    rw [stored] at same
    cases same
    exact ⟨grown, rfl, grows⟩
  closed isSealed := by
    rw [unsealed] at isSealed
    contradiction

theorem Step.keeps {trusted : Signer → Prop} (step : Step trusted before after)
    (frozen : before.isFrozen = true) : Keeps before after := by
  have present : before.frozen ≠ none := by
    intro absent
    simp [isFrozen, absent] at frozen
  cases step with
  | adjusted unfrozen _ _ _ => exact absurd unfrozen present
  | tuned execution => exact ⟨rfl, rfl, rfl, rfl, rfl, rfl, rfl,
      fun held stored => ⟨held, stored, .refl held⟩, fun closed => ⟨closed, rfl⟩⟩
  | froze wrote => exact absurd wrote.unfrozen present
  | @signed _ signer _ signed =>
      obtain ⟨held, unsealed, stored, rfl⟩ := signWith_signed signed
      exact keeps_grown stored unsealed (held.signWith_grows signer) _
  | attached signed =>
      obtain ⟨held, place, bodies, body, unsealed, stored, -, inChunk, inPlace, -, rfl⟩ :=
        addSignature_attached signed
      exact keeps_grown stored unsealed (Frozen.attach_grows inChunk inPlace _) _
  | closed closed =>
      simp only [close, frozen, ↓reduceIte, Except.ok.injEq] at closed
      subst closed
      exact ⟨rfl, rfl, rfl, rfl, rfl, rfl, rfl,
        fun held stored => ⟨held, stored, .refl held⟩, fun _ => ⟨rfl, rfl⟩⟩

theorem steadyRun_keeps {trusted : Signer → Prop} {operations : List Operation}
    (trust : ∀ operation ∈ operations, ∀ signer ∈ operation.signers, trusted signer)
    (frozen : transaction.isFrozen = true) (steady : transaction.SteadyRun operations) :
    Keeps transaction (transaction.run operations) :=
  steadyRun_preserves (P := Keeps transaction)
    (fun step keeps => keeps.trans (step.keeps (keeps.isFrozen frozen))) (.refl transaction) trust
    steady

/-! ## Signatures -/

section Lasting

variable {trusted : Signer → Prop} {P : SignedTransaction → Prop}

/-- The signers at hand are trusted, and all bodies have some property. -/
structure Holds (trusted : Signer → Prop) (P : SignedTransaction → Prop)
    (transaction : Transaction) : Prop where
  signers : ∀ signer ∈ transaction.signers, trusted signer
  bodies : ∀ frozen, transaction.frozen = some frozen → ∀ signed ∈ frozen.bodies, P signed

theorem holds_ofPayload (payload : Payload) : (ofPayload payload).Holds trusted P where
  signers _ member := by cases member
  bodies _ stored := by cases stored

theorem forall_unsigned (lasting : SignedTransaction.Lasting trusted P) (plan : BodyPlan) :
    ∀ signed ∈ plan.unsigned.bodies, P signed := by
  intro signed member
  obtain ⟨index, node, rfl⟩ := BodyPlan.mem_unsigned member
  exact lasting.written (plan.body index node)

theorem Holds.step (lasting : SignedTransaction.Lasting trusted P)
    (step : Step trusted before after) (holds : before.Holds trusted P) :
    after.Holds trusted P := by
  cases step with
  | adjusted _ still _ signers =>
      refine ⟨by rw [signers]; exact holds.signers, fun frozen stored => ?_⟩
      rw [still] at stored
      cases stored
  | tuned execution => exact ⟨holds.signers, holds.bodies⟩
  | froze wrote =>
      obtain ⟨_, _, _, _, _, rfl⟩ := wrote.now
      refine ⟨holds.signers, fun frozen stored => ?_⟩
      cases stored
      exact Frozen.forall_signAll lasting holds.signers (forall_unsigned lasting _)
  | signed trust signed =>
      have remembered := (signWith_signers signed).1
      obtain ⟨held, -, stored, rfl⟩ := signWith_signed signed
      constructor
      · intro other member
        rcases remembered other member with rfl | old
        · exact trust
        · exact holds.signers other old
      · intro frozen same
        cases same
        exact Frozen.forall_signWith lasting trust (holds.bodies held stored)
  | attached signed =>
      obtain ⟨held, place, bodies, body, -, stored, -, inChunk, inPlace, verifies, rfl⟩ :=
        addSignature_attached signed
      refine ⟨holds.signers, fun frozen same => ?_⟩
      cases same
      exact Frozen.forall_attach lasting inChunk inPlace verifies (holds.bodies held stored)
  | closed closed =>
      simp only [close] at closed
      split at closed
      · cases closed
        exact ⟨holds.signers, holds.bodies⟩
      · cases closed

theorem Holds.rewrote (lasting : SignedTransaction.Lasting trusted P)
    (rewrote : before.Rewrote after) (holds : before.Holds trusted P) : after.Holds trusted P := by
  obtain ⟨_, _, _, rfl⟩ := rewrote.now
  refine ⟨holds.signers, fun frozen stored => ?_⟩
  cases stored
  exact Frozen.forall_signAll lasting holds.signers (forall_unsigned lasting _)

theorem run_holds (lasting : SignedTransaction.Lasting trusted P) {payload : Payload}
    {operations : List Operation}
    (trust : ∀ operation ∈ operations, ∀ signer ∈ operation.signers, trusted signer) :
    ((ofPayload payload).run operations).Holds trusted P :=
  run_preserves (Holds.step lasting) (Holds.rewrote lasting) (holds_ofPayload payload) trust

end Lasting

/-! ## Both together -/

/-- Once a transaction is frozen, no operations that leave its id alone change anything of it but
its signatures. These are added behind those that are there, none any more once it is sealed; and
all along, no body has two signatures of one key or one that does not verify. -/
theorem run_keeps_frozen (payload : Payload) (earlier later : List Operation)
    (honest : ∀ operation ∈ earlier ++ later, ∀ signer ∈ operation.signers, signer.Honest)
    (frozen : ((ofPayload payload).run earlier).isFrozen = true)
    (steady : ((ofPayload payload).run earlier).SteadyRun later) :
    Keeps ((ofPayload payload).run earlier) ((ofPayload payload).run (earlier ++ later)) ∧
      ∀ held, ((ofPayload payload).run (earlier ++ later)).frozen = some held →
        ∀ signed ∈ held.bodies, signed.WellSigned := by
  constructor
  · rw [run_append]
    exact steadyRun_keeps (fun operation member => honest operation
      (List.mem_append_right earlier member)) frozen steady
  · exact (run_holds SignedTransaction.wellSigned_lasting honest).bodies

end LedgerClient.Transaction

namespace LedgerClient.Sample

open Transaction

/-- A client that signs with the neutral point and does not replace expired ids. -/
def neutralClient : Client :=
  { client with
    operator := some { account := EntityId.ofNumbers 0 0 1001, signer := neutral }
    execution := { config with regenerates := false } }

def freezing : List Operation :=
  [.setMemo "note", .freeze (some neutralClient) (world [])]

def signing : List Operation :=
  [.sign neutral, .close, .sign neutral,
    .executeAll neutralClient (world [answer .transactionExpired])]

theorem freezing_honest :
    ∀ operation ∈ freezing ++ signing, ∀ signer ∈ operation.signers, signer.Honest := by
  simp [freezing, signing, Operation.signers, neutralClient, neutral_honest]

theorem signing_steady :
    ((ofPayload (.topicMessageSubmit topic [1, 2])).run freezing).SteadyRun signing :=
  ⟨trivial, trivial, trivial, sendsSteadily_of_disabled (by decide +kernel) _, trivial⟩

/-- A message that is signed, sealed and sent after it was frozen, and that is found expired. -/
theorem run_keeps_message :
    (∀ operation ∈ freezing ++ signing, ∀ signer ∈ operation.signers, signer.Honest) ∧
      ((ofPayload (.topicMessageSubmit topic [1, 2])).run freezing).isFrozen = true ∧
      ((ofPayload (.topicMessageSubmit topic [1, 2])).run freezing).SteadyRun signing ∧
      Keeps ((ofPayload (.topicMessageSubmit topic [1, 2])).run freezing)
        ((ofPayload (.topicMessageSubmit topic [1, 2])).run (freezing ++ signing)) := by
  have frozen : ((ofPayload (.topicMessageSubmit topic [1, 2])).run freezing).isFrozen = true := by
    decide +kernel
  exact ⟨freezing_honest, frozen, signing_steady,
    (run_keeps_frozen _ freezing signing freezing_honest frozen signing_steady).1⟩

end LedgerClient.Sample
