import LedgerClient.Proofs.Transaction.Import
import LedgerClient.Proofs.Transaction.Signatures

/-!
What holds of a transaction at any time. The id that a caller chose, or that came with the bytes of
an imported transaction, stays; the client only calls an id its own that it made itself when
freezing.
-/

namespace LedgerClient.Transaction

variable {chosen : Option TransactionId} {transaction next : Transaction} {frozen changed : Frozen}

/-- The transaction is in order; `chosen` is the id that did not come from the client, if there is
one. -/
structure Sound (chosen : Option TransactionId) (transaction : Transaction) : Prop where
  kept : ∀ id, chosen = some id → transaction.id = some id ∧ transaction.generated = false
  own : chosen = none →
    (transaction.frozen = none → transaction.id = none) ∧
      transaction.generated = transaction.isFrozen
  coherent : ∀ frozen, transaction.frozen = some frozen →
    ∃ root, transaction.id = some root ∧ frozen.Coherent root
  whole : ∀ frozen, transaction.frozen = some frozen → transaction.generated = true →
    frozen.chunks.length = chunkTotal transaction.payload frozen.chunking

theorem Sound.not_chosen (sound : transaction.Sound chosen)
    (generated : transaction.generated = true) :
    chosen = none := by
  cases given : chosen with
  | none => rfl
  | some id =>
      have kept := (sound.kept id given).2
      rw [generated] at kept
      contradiction

theorem sound_ofPayload (payload : Payload) : (ofPayload payload).Sound none where
  kept _ given := by cases given
  own _ := ⟨fun _ => rfl, rfl⟩
  coherent _ stored := by cases stored
  whole _ stored := by cases stored

theorem sound_ofBytes {kind : Option TransactionKind} {bytes : Bytes}
    (read : ofBytes kind bytes = .ok transaction) : transaction.Sound transaction.id := by
  obtain ⟨root, frozen, named, stored, foreign, coherent⟩ := ofBytes_coherent read
  constructor
  · intro id given
    exact ⟨given, foreign⟩
  · intro absent
    rw [named] at absent
    contradiction
  · intro other found
    rw [stored] at found
    cases found
    exact ⟨root, named, coherent⟩
  · intro _ _ generated
    rw [foreign] at generated
    contradiction

theorem Sound.ofSame (sound : transaction.Sound chosen) (id : next.id = transaction.id)
    (generated : next.generated = transaction.generated)
    (frozen : next.frozen = transaction.frozen) (payload : next.payload = transaction.payload) :
    next.Sound chosen where
  kept := by simpa only [id, generated] using sound.kept
  own := by simpa only [id, generated, frozen, isFrozen] using sound.own
  coherent := by simpa only [id, frozen] using sound.coherent
  whole := by simpa only [generated, frozen, payload] using sound.whole

theorem Sound.ofRefrozen (sound : transaction.Sound chosen) (was : transaction.frozen = some frozen)
    (coherent : ∀ root, frozen.Coherent root → changed.Coherent root)
    (length : changed.chunks.length = frozen.chunks.length)
    (chunking : changed.chunking = frozen.chunking) (id : next.id = transaction.id)
    (generated : next.generated = transaction.generated) (now : next.frozen = some changed)
    (payload : next.payload = transaction.payload) : next.Sound chosen where
  kept := by simpa only [id, generated] using sound.kept
  own := by simpa [id, generated, was, now, isFrozen] using sound.own
  coherent other found := by
    rw [now] at found
    cases found
    obtain ⟨root, named, before⟩ := sound.coherent frozen was
    exact ⟨root, id.trans named, coherent root before⟩
  whole other found fresh := by
    rw [now] at found
    cases found
    rw [length, chunking, payload]
    exact sound.whole frozen was (generated ▸ fresh)

theorem Sound.setId (id : TransactionId) (set : transaction.setId id = .ok next) :
    next.Sound (some id) := by
  cases unfrozen : transaction.frozen with
  | some frozen => simp [Transaction.setId, isFrozen, unfrozen] at set
  | none =>
      simp only [Transaction.setId, isFrozen, unfrozen, Option.isSome_none, Bool.false_eq_true,
        ↓reduceIte, Except.ok.injEq] at set
      subst set
      constructor
      · intro other given
        cases given
        exact ⟨rfl, rfl⟩
      · intro absent
        cases absent
      · intro frozen stored
        cases stored
      · intro frozen stored
        cases stored

theorem Sound.schedule (scheduled : transaction.schedule = .ok next) : next.Sound none := by
  obtain ⟨data, -, made⟩ := bind_eq_ok.mp scheduled
  cases made
  exact (sound_ofPayload _).ofSame rfl rfl rfl rfl

theorem Sound.freezeWith {client : Option Client} {world after : World}
    (sound : transaction.Sound chosen)
    (froze : transaction.freezeWith client world = (.ok next, after)) : next.Sound chosen := by
  obtain ⟨id, frozen, unfrozen, named, stored, payload, -, under, origin⟩ :=
    freezeWith_frozen froze
  have frozenNow : next.isFrozen = true := by simp [isFrozen, stored]
  constructor
  · intro given same
    obtain ⟨was, foreign⟩ := sound.kept given same
    rcases origin with ⟨origin, generated⟩ | ⟨origin, -⟩
    · rw [was] at origin
      cases origin
      exact ⟨named, generated.trans foreign⟩
    · rw [was] at origin
      cases origin
  · intro absent
    refine ⟨fun missing => by simp [stored] at missing, ?_⟩
    rcases origin with ⟨origin, -⟩ | ⟨-, generated⟩
    · rw [(sound.own absent).1 unfrozen] at origin
      cases origin
    · exact generated.trans frozenNow.symm
  · intro other found
    rw [stored] at found
    cases found
    exact ⟨id, named, under.coherent⟩
  · intro other found _
    rw [stored] at found
    cases found
    rw [payload]
    exact under.whole

theorem Sound.signWith {signer : Signer} (sound : transaction.Sound chosen)
    (signed : transaction.signWith signer = .ok next) : next.Sound chosen := by
  obtain ⟨frozen, -, stored, rfl⟩ := signWith_signed signed
  exact sound.ofRefrozen stored (fun _ coherent => coherent.signWith signer)
    (frozen.signWith_length signer) rfl rfl rfl rfl rfl

theorem Sound.addSignature {chunk : Nat} {node : AccountId} {pair : SignaturePair}
    (sound : transaction.Sound chosen)
    (signed : transaction.addSignature chunk node pair = .ok next) : next.Sound chosen := by
  obtain ⟨frozen, place, bodies, held, -, stored, -, inChunk, inPlace, -, rfl⟩ :=
    addSignature_attached signed
  exact sound.ofRefrozen stored (fun _ coherent => coherent.addSignature inChunk inPlace pair)
    (by simp) rfl rfl rfl rfl rfl

theorem Sound.close (sound : transaction.Sound chosen) (closed : transaction.close = .ok next) :
    next.Sound chosen := by
  simp only [Transaction.close] at closed
  split at closed
  · cases closed
    exact sound.ofSame rfl rfl rfl rfl
  · cases closed

theorem Sound.signWithOperator {client : Client} (sound : transaction.Sound chosen)
    (signed : transaction.signWithOperator client = .ok next) : next.Sound chosen := by
  simp only [Transaction.signWithOperator] at signed
  split at signed
  · split at signed
    · exact sound.signWith signed
    · cases signed
      exact sound
  · cases signed
    exact sound

/-- Only an id that the client made is made anew. -/
theorem Sound.regenerate {world after : World} (sound : transaction.Sound chosen)
    (generated : transaction.generated = true)
    (regenerated : transaction.regenerate world = (.ok next, after)) : next.Sound chosen := by
  have absent := sound.not_chosen generated
  obtain ⟨before, frozen, id, fresh⟩ := regenerate_regenerated regenerated
  cases fresh.now
  constructor
  · intro given same
    rw [absent] at same
    cases same
  · intro _
    refine ⟨?_, generated⟩
    intro missing
    cases missing
  · intro other found
    cases found
    exact ⟨id, rfl, fresh.under.coherent⟩
  · intro other found _
    cases found
    exact fresh.under.whole

/-- A transaction that is the same but for its id and its bodies. -/
structure Continues (transaction later : Transaction) : Prop where
  payload : later.payload = transaction.payload
  execution : later.execution = transaction.execution
  generated : later.generated = transaction.generated
  isFrozen : later.isFrozen = transaction.isFrozen
  chunkCount : later.chunkCount = transaction.chunkCount

theorem Continues.refl (transaction : Transaction) : transaction.Continues transaction :=
  ⟨rfl, rfl, rfl, rfl, rfl⟩

theorem Continues.trans {later : Transaction} (first : transaction.Continues next)
    (second : next.Continues later) : transaction.Continues later where
  payload := second.payload.trans first.payload
  execution := second.execution.trans first.execution
  generated := second.generated.trans first.generated
  isFrozen := second.isFrozen.trans first.isFrozen
  chunkCount := second.chunkCount.trans first.chunkCount

theorem Continues.symm (continues : transaction.Continues next) : next.Continues transaction where
  payload := continues.payload.symm
  execution := continues.execution.symm
  generated := continues.generated.symm
  isFrozen := continues.isFrozen.symm
  chunkCount := continues.chunkCount.symm

theorem Sound.continues {world after : World} (sound : transaction.Sound chosen)
    (generated : transaction.generated = true)
    (regenerated : transaction.regenerate world = (.ok next, after)) :
    transaction.Continues next := by
  obtain ⟨before, frozen, id, fresh⟩ := regenerate_regenerated regenerated
  have length : frozen.chunks.length = before.chunks.length := by
    rw [fresh.under.whole, fresh.chunking, sound.whole before fresh.was generated]
  rw [fresh.now]
  exact ⟨rfl, rfl, rfl, by simp [isFrozen, fresh.was], by simp [chunkCount, fresh.was, length]⟩

end LedgerClient.Transaction
