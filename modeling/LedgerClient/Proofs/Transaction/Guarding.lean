import LedgerClient.Proofs.Transaction.Checksums
import LedgerClient.Proofs.Transaction.Contents
import LedgerClient.Proofs.Transaction.Naming

/-!
When a client refuses to send a transaction for the checksums in its payload. Checksums are looked at
when a transaction is frozen, on the ledger of the client that freezes it. So a client finds a wrong
one as long as the transaction is not frozen yet, also when it freezes it only to send it; a
transaction that was frozen without such a look is sent like any other.
-/

namespace LedgerClient.Transaction

variable {transaction next start : Transaction} {client : Client} {world after : World}
  {kind : EntityKind} {id : EntityId kind} {ledger : LedgerId} {cause : ChecksumMismatch}
  {operation : Operation} {operations : List Operation}

/-! ## Freezing -/

theorem checkChecksums_finds (validates : client.validatesChecksums = true)
    (embeds : transaction.payload.Embeds id)
    (wrong : id.Mismatches world.network.ledger cause) :
    ∃ reported, transaction.checkChecksums (some client) world =
        .error (.checksumMismatch reported) ∧
      ∃ (kind : EntityKind) (other : EntityId kind), transaction.payload.Embeds other ∧
        other.Mismatches world.network.ledger reported := by
  obtain ⟨reported, failed, embedded⟩ := Payload.validateChecksums_finds embeds wrong
  exact ⟨reported, by simp [checkChecksums, validates, failed, Except.mapError], embedded⟩

/-- A client that looks at checksums does not freeze a transaction with a wrong one. -/
theorem freezeWith_refuses (validates : client.validatesChecksums = true)
    (unfrozen : transaction.isFrozen = false) (embeds : transaction.payload.Embeds id)
    (wrong : id.Mismatches world.network.ledger cause) :
    ∃ reported, transaction.freezeWith (some client) world =
        (.error (.checksumMismatch reported), world) ∧
      ∃ (kind : EntityKind) (other : EntityId kind), transaction.payload.Embeds other ∧
        other.Mismatches world.network.ledger reported := by
  obtain ⟨reported, failed, embedded⟩ := checkChecksums_finds validates embeds wrong
  exact ⟨reported, by simp [freezeWith, unfrozen, failed], embedded⟩

/-! ## Sending -/

/-- The client finds a wrong checksum in the payload and does nothing more: no request is sent, and
the transaction stays as it is. -/
def Refuses (transaction : Transaction) (client : Client) (world : World) : Prop :=
  ∃ cause, (∃ (kind : EntityKind) (id : EntityId kind), transaction.payload.Embeds id ∧
      id.Mismatches world.network.ledger cause) ∧
    transaction.executeAll client world =
      { result := .error (.checksumMismatch cause), state := transaction, world } ∧
    transaction.execute client world =
      { result := .error (.checksumMismatch cause), state := transaction, world }

theorem refuses_of_unfrozen (validates : client.validatesChecksums = true)
    (unfrozen : transaction.isFrozen = false) (embeds : transaction.payload.Embeds id)
    (wrong : id.Mismatches world.network.ledger cause) : transaction.Refuses client world := by
  obtain ⟨reported, failed, embedded⟩ := freezeWith_refuses validates unfrozen embeds wrong
  have all : transaction.executeAll client world =
      { result := .error (.checksumMismatch reported), state := transaction, world } := by
    simp [executeAll, unfrozen, failed]
  refine ⟨reported, embedded, all, ?_⟩
  simp only [execute, all]
  rfl

theorem submitChunks_not_onChecksum {config : ExecutionConfig} {chunk count : Nat} {error : Error}
    (failed : (submitChunks config transaction world chunk count).result = .error error) :
    ¬ error.OnChecksum := by
  induction count generalizing transaction world chunk with
  | zero => cases failed
  | succ count ih =>
      unfold submitChunks at failed
      dsimp only at failed
      split at failed
      · rename_i unsent
        cases failed
        exact ((chunkRequest_contained _ chunk).execute (chunkRequest_lawful _ chunk)
          unsent).not_onChecksum
      · exact ih (map_eq_error.mp failed)

/-- Once a transaction is frozen, sending it looks at no checksum. -/
theorem executeAll_not_onChecksum {error : Error} (frozen : transaction.isFrozen = true)
    (failed : (transaction.executeAll client world).result = .error error) :
    ¬ error.OnChecksum := by
  obtain ⟨ready, -, -, run⟩ := executeAll_frozen frozen client world
  rw [run] at failed
  exact submitChunks_not_onChecksum failed

theorem executeAll_unvalidated (frozen : transaction.isFrozen = true) (client : Client)
    (world : World) (validates : Bool) :
    transaction.executeAll client world =
      transaction.executeAll { client with validatesChecksums := validates } world := by
  simp only [executeAll, frozen, ↓reduceIte]
  rfl

theorem not_refuses_of_frozen (frozen : transaction.isFrozen = true) :
    ¬ transaction.Refuses client world := by
  rintro ⟨cause, -, refused, -⟩
  exact executeAll_not_onChecksum frozen (congrArg Finished.result refused) trivial

/-! ## Histories -/

/-- The ledger whose checksums are looked at if the operation freezes a transaction. -/
def Operation.checksOn : Operation → Option LedgerId
  | freeze (some client) world | execute client world | executeAll client world =>
      if client.validatesChecksums then some world.network.ledger else none
  | _ => none

/-- One of the operations froze the transaction without a look at the checksums of the ledger. -/
def FreezesUnchecked (start : Transaction) (operations : List Operation) (ledger : LedgerId) :
    Prop :=
  ∃ earlier operation later, operations = earlier ++ operation :: later ∧
    (start.run earlier).isFrozen = false ∧
    ((start.run earlier).perform operation).isFrozen = true ∧ operation.checksOn ≠ some ledger

theorem run_payload (start : Transaction) (operations : List Operation) :
    (start.run operations).payload = start.payload := by
  apply run_preserves_always (P := fun transaction => transaction.payload = start.payload)
  · intro before after step same
    exact step.payload_eq.trans same
  · intro before after rewrote same
    obtain ⟨_, _, _, rfl⟩ := rewrote.now
    exact same
  · rfl

theorem run_isFrozen (frozen : start.isFrozen = true) (operations : List Operation) :
    (start.run operations).isFrozen = true := by
  apply run_preserves_always (P := fun transaction => transaction.isFrozen = true)
  · intro before after step frozen
    exact (step.keeps frozen).isFrozen frozen
  · intro before after rewrote frozen
    obtain ⟨_, _, _, rfl⟩ := rewrote.now
    rfl
  · exact frozen

/-- A transaction becomes frozen by one of the operations that are done to it. -/
theorem run_freezes (unfrozen : start.isFrozen = false)
    (frozen : (start.run operations).isFrozen = true) :
    ∃ earlier operation later, operations = earlier ++ operation :: later ∧
      (start.run earlier).isFrozen = false ∧
      ((start.run earlier).perform operation).isFrozen = true := by
  induction operations generalizing start with
  | nil =>
      rw [show start.run [] = start from rfl, unfrozen] at frozen
      cases frozen
  | cons operation rest ih =>
      cases here : (start.perform operation).isFrozen with
      | true => exact ⟨[], operation, rest, rfl, unfrozen, here⟩
      | false =>
          obtain ⟨earlier, other, later, rfl, still, freezes⟩ := ih here frozen
          exact ⟨operation :: earlier, other, later, rfl, still, freezes⟩

/-- An operation that looks at the checksums does not freeze a transaction with a wrong one. -/
theorem perform_unchecked (unfrozen : transaction.isFrozen = false)
    (embeds : transaction.payload.Embeds id) (wrong : id.Mismatches ledger cause)
    (freezes : (transaction.perform operation).isFrozen = true) :
    operation.checksOn ≠ some ledger := by
  intro checks
  have kept : transaction.perform operation = transaction := by
    cases operation with
    | freeze asking world =>
        cases asking with
        | none => cases checks
        | some client =>
            obtain ⟨validates, ⟨⟩⟩ := Option.ite_none_right_eq_some.mp checks
            obtain ⟨reported, failed, -⟩ :=
              freezeWith_refuses validates unfrozen embeds wrong
            simp only [perform, failed, unlessFailed]
    | execute client world | executeAll client world =>
        obtain ⟨validates, ⟨⟩⟩ := Option.ite_none_right_eq_some.mp checks
        obtain ⟨cause, -, all, one⟩ := refuses_of_unfrozen validates unfrozen embeds wrong
        simp only [perform, all, one]
    | _ => cases checks
  rw [kept, unfrozen] at freezes
  cases freezes

theorem run_isFrozen_iff (unfrozen : start.isFrozen = false) (embeds : start.payload.Embeds id)
    (wrong : id.Mismatches ledger cause) (operations : List Operation) :
    (start.run operations).isFrozen = true ↔ start.FreezesUnchecked operations ledger := by
  constructor
  · intro frozen
    obtain ⟨earlier, operation, later, split, still, freezes⟩ := run_freezes unfrozen frozen
    have embedsStill : (start.run earlier).payload.Embeds id := by rwa [run_payload]
    exact ⟨earlier, operation, later, split, still, freezes,
      perform_unchecked still embedsStill wrong freezes⟩
  · rintro ⟨earlier, operation, later, rfl, -, freezes, -⟩
    rw [run_append]
    exact run_isFrozen freezes later

/-- Whatever is done to a transaction with a wrong checksum in its payload, a client that looks at
checksums refuses to send it, unless it was frozen without a look at the checksums of this ledger.
It is then sent as if the client did not look at checksums. -/
theorem run_refuses_iff
    (origin : start.isFrozen = false ∨ ∃ asked bytes, ofBytes asked bytes = .ok start)
    (embeds : start.payload.Embeds id) (validates : client.validatesChecksums = true)
    (wrong : id.Mismatches world.network.ledger cause) (operations : List Operation) :
    ((start.run operations).Refuses client world ↔
        ¬ start.FreezesUnchecked operations world.network.ledger) ∧
      (start.FreezesUnchecked operations world.network.ledger → ∀ later,
        (start.run operations).executeAll client later =
          (start.run operations).executeAll { client with validatesChecksums := false } later) := by
  rcases origin with unfrozen | ⟨asked, bytes, read⟩
  · have frozenIff := run_isFrozen_iff unfrozen embeds wrong operations
    rw [← frozenIff]
    refine ⟨⟨fun refuses frozen => not_refuses_of_frozen frozen refuses, ?_⟩, ?_⟩
    · intro still
      have embedsStill : (start.run operations).payload.Embeds id := by rwa [run_payload]
      exact refuses_of_unfrozen validates (Bool.eq_false_iff.mpr still) embedsStill wrong
    · intro frozen later
      exact executeAll_unvalidated frozen client later false
  · exact absurd wrong (EntityId.not_mismatches_of_bare (ofBytes_checksum read embeds))

end LedgerClient.Transaction

namespace LedgerClient.Sample

open Transaction

/-- A transfer to that account. -/
def suspectTransfer : Transaction :=
  .ofPayload (.transfer [{ account := operator.account, amount := -100 },
    { account := suspect, amount := 100 }])

theorem suspectTransfer_embeds : suspectTransfer.payload.Embeds suspect :=
  .account (List.mem_cons_of_mem _ List.mem_cons_self)

/-- All that freezing needs is set, and no client is asked. -/
def unchecked : List Operation :=
  [.setId (.make operator.account { seconds := 1000, nanos := 0 }), .setNodes [node],
    .freeze none (world [])]

theorem suspectTransfer_refused :
    (suspectTransfer.isFrozen = false ∨ ∃ asked bytes, ofBytes asked bytes = .ok suspectTransfer) ∧
      suspectTransfer.payload.Embeds suspect ∧ guardedClient.validatesChecksums = true ∧
      ∃ cause, suspect.Mismatches (world []).network.ledger cause ∧
        ((suspectTransfer.run unchecked).Refuses guardedClient (world []) ↔
          ¬ suspectTransfer.FreezesUnchecked unchecked (world []).network.ledger) ∧
        (suspectTransfer.FreezesUnchecked unchecked (world []).network.ledger → ∀ later,
          (suspectTransfer.run unchecked).executeAll guardedClient later =
            (suspectTransfer.run unchecked).executeAll
              { guardedClient with validatesChecksums := false } later) := by
  obtain ⟨cause, wrong⟩ := suspect_mismatches (world []).network.ledger
  exact ⟨.inl rfl, suspectTransfer_embeds, rfl, cause, wrong,
    run_refuses_iff (.inl rfl) suspectTransfer_embeds rfl wrong unchecked⟩

/-- The client looks at checksums, and yet the transfer with the wrong one is sent and accepted. -/
theorem suspectTransfer_sent :
    guardedClient.validatesChecksums = true ∧ suspectTransfer.payload.Embeds suspect ∧
      (∃ cause, suspect.Mismatches (world [answer .ok]).network.ledger cause) ∧
      ((suspectTransfer.run unchecked).execute guardedClient
        (world [answer .ok])).world.calls.length = 1 :=
  ⟨rfl, suspectTransfer_embeds, suspect_mismatches _, by decide +kernel⟩

end LedgerClient.Sample
