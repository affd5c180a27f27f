import LedgerClient.Proofs.Transaction.Contents

/-!
When a transaction is really signed. Signing passes over the bodies that the key is already down
for, so afterwards all bodies have a signature of the key that verifies exactly if this held of
those before. It does for every transaction that was put together here, because signatures from
elsewhere are checked before they are added; those that come with the bytes of a transaction are
not, and one that does not verify keeps the real one out.
-/

namespace LedgerClient

namespace SignedTransaction

variable {signed grown : SignedTransaction} {key : PublicKey} {signer : Signer}
  {pair : SignaturePair}

/-- A signature of the key verifies over the body. -/
def EndorsedBy (signed : SignedTransaction) (key : PublicKey) : Prop :=
  ∃ pair ∈ signed.signatures, pair.key = key ∧ pair.verifies signed.body = true

instance (signed : SignedTransaction) (key : PublicKey) : Decidable (signed.EndorsedBy key) :=
  inferInstanceAs (Decidable (∃ pair ∈ signed.signatures, _ ∧ _))

/-- If the key is down as having signed the body, it has. -/
def Genuine (signed : SignedTransaction) (key : PublicKey) : Prop :=
  signed.isSignedBy key = true → signed.EndorsedBy key

theorem EndorsedBy.grows (endorsed : signed.EndorsedBy key) (grows : signed.Grows grown) :
    grown.EndorsedBy key := by
  obtain ⟨pair, member, named, verifies⟩ := endorsed
  exact ⟨pair, grows.signatures.subset member, named, grows.body ▸ verifies⟩

theorem add_of_unsigned (unsigned : signed.isSignedBy pair.key = false) :
    signed.add pair = { signed with signatures := signed.signatures ++ [pair] } := by
  simp [add, unsigned]

theorem add_endorsedBy (unsigned : signed.isSignedBy pair.key = false)
    (verifies : pair.verifies signed.body = true) : (signed.add pair).EndorsedBy pair.key := by
  rw [add_of_unsigned unsigned]
  exact ⟨pair, by simp, rfl, verifies⟩

/-- Another signature that verifies leaves no key down for one that does not. -/
theorem Genuine.add (genuine : signed.Genuine key) (verifies : pair.verifies signed.body = true) :
    (signed.add pair).Genuine key := by
  intro isSigned
  cases before : signed.isSignedBy key with
  | true => exact (genuine before).grows (signed.add_grows pair)
  | false =>
      cases already : signed.isSignedBy pair.key with
      | true =>
          have same : signed.add pair = signed := by simp [SignedTransaction.add, already]
          rw [same, before] at isSigned
          contradiction
      | false =>
          rw [add_of_unsigned already, isSignedBy_iff, List.map_append, List.mem_append,
            ← isSignedBy_iff, before] at isSigned
          obtain rfl : key = pair.key := by simpa using isSigned
          exact add_endorsedBy already verifies

/-- Signing leaves a body without a signature of the key that verifies only if there was another in
its place. -/
theorem signWith_endorsedBy_iff (honest : signer.Honest) :
    (signed.signWith signer).EndorsedBy signer.key ↔ signed.Genuine signer.key := by
  cases before : signed.isSignedBy signer.key with
  | true => simp [Genuine, SignedTransaction.signWith, before]
  | false =>
      have endorsed : (signed.signWith signer).EndorsedBy signer.key := by
        rw [SignedTransaction.signWith, before, if_neg Bool.false_ne_true]
        exact add_endorsedBy before (honest signed.body)
      exact iff_of_true endorsed fun isSigned => by
        rw [before] at isSigned
        contradiction

theorem Genuine.signWith (genuine : signed.Genuine key)
    (honest : signer.key = key → signer.Honest) : (signed.signWith signer).Genuine key := by
  by_cases own : signer.key = key
  · subst own
    exact fun _ => (signWith_endorsedBy_iff (honest rfl)).mpr genuine
  · cases already : signed.isSignedBy signer.key with
    | true => simpa [SignedTransaction.signWith, already] using genuine
    | false =>
        intro isSigned
        rw [SignedTransaction.signWith, already, if_neg Bool.false_ne_true,
          add_of_unsigned already, isSignedBy_iff, List.map_append, List.mem_append,
          ← isSignedBy_iff] at isSigned
        rcases isSigned with before | new
        · exact (genuine before).grows (signed.signWith_grows signer)
        · exact absurd (List.mem_singleton.mp new).symm own

/-- Only the signers of this key have to be honest for it. -/
theorem genuine_lasting (key : PublicKey) :
    Lasting (fun signer => signer.key = key → signer.Honest) (·.Genuine key) where
  written _ isSigned := by simp [isSignedBy, ofBody] at isSigned
  signWith _ _ honest genuine := genuine.signWith honest
  add _ _ verifies genuine := genuine.add verifies

end SignedTransaction

namespace Frozen

variable {frozen grown : Frozen} {key : PublicKey} {signer : Signer}

def EndorsedBy (frozen : Frozen) (key : PublicKey) : Prop :=
  ∀ signed ∈ frozen.bodies, signed.EndorsedBy key

def Genuine (frozen : Frozen) (key : PublicKey) : Prop :=
  ∀ signed ∈ frozen.bodies, signed.Genuine key

theorem signWith_endorsedBy_iff (honest : signer.Honest) :
    (frozen.signWith signer).EndorsedBy signer.key ↔ frozen.Genuine signer.key := by
  simp only [EndorsedBy, Genuine, bodies_signWith, List.forall_mem_map,
    SignedTransaction.signWith_endorsedBy_iff honest]

theorem EndorsedBy.grows (endorsed : frozen.EndorsedBy key) (grows : frozen.Grows grown) :
    grown.EndorsedBy key := by
  intro signed member
  obtain ⟨place, found⟩ := List.mem_iff_getElem?.mp member
  obtain ⟨before, foundBefore, grew⟩ := forall₂_getElem? grows.bodies found
  exact (endorsed before (List.mem_of_getElem? foundBefore)).grows grew

/-- If a signer of the key is among those who sign, all bodies get its signature. -/
theorem signAll_endorsedBy {signers : List Signer} (genuine : frozen.Genuine key)
    (honest : ∀ signer ∈ signers, signer.key = key → signer.Honest)
    (present : ∃ signer ∈ signers, signer.key = key) :
    (signers.foldl Frozen.signWith frozen).EndorsedBy key := by
  induction signers generalizing frozen with
  | nil => simp at present
  | cons signer rest ih =>
      have others := fun other member => honest other (List.mem_cons_of_mem signer member)
      by_cases own : signer.key = key
      · subst own
        have trust := honest signer List.mem_cons_self rfl
        have endorsed := (signWith_endorsedBy_iff trust).mpr genuine
        exact endorsed.grows (Transaction.signAll_grows _ rest)
      · refine ih ?_ others ?_
        · exact forall_signWith (SignedTransaction.genuine_lasting key)
            (honest signer List.mem_cons_self) genuine
        · obtain ⟨other, member, named⟩ := present
          rcases List.mem_cons.mp member with rfl | later
          · exact absurd named own
          · exact ⟨other, later, named⟩

end Frozen

/-- On the wire, the request has a signature of the key that verifies over its body. -/
def Call.EndorsedBy (call : Call) (key : PublicKey) : Prop :=
  ∃ signed : SignedTransaction, call.request = Wire.encode signed ∧ signed.EndorsedBy key

namespace Transaction

variable {chosen : Option TransactionId} {transaction next ready final : Transaction}
  {signer : Signer} {key : PublicKey} {client : Client} {world after : World}

/-- All bodies of the transaction, if it is frozen. -/
def bodies (transaction : Transaction) : List SignedTransaction :=
  match transaction.frozen with
  | some frozen => frozen.bodies
  | none => []

def EndorsedBy (transaction : Transaction) (key : PublicKey) : Prop :=
  ∀ signed ∈ transaction.bodies, signed.EndorsedBy key

instance (transaction : Transaction) (key : PublicKey) : Decidable (transaction.EndorsedBy key) :=
  inferInstanceAs (Decidable (∀ signed ∈ transaction.bodies, _))

def Genuine (transaction : Transaction) (key : PublicKey) : Prop :=
  ∀ signed ∈ transaction.bodies, signed.Genuine key

theorem bodies_eq {frozen : Frozen} (stored : transaction.frozen = some frozen) :
    transaction.bodies = frozen.bodies := by
  simp only [bodies, stored]

theorem signWith_endorsedBy_iff (honest : signer.Honest)
    (signed : transaction.signWith signer = .ok next) :
    next.EndorsedBy signer.key ↔ transaction.Genuine signer.key := by
  obtain ⟨frozen, -, stored, rfl⟩ := signWith_signed signed
  simp only [EndorsedBy, Genuine, bodies, stored]
  exact frozen.signWith_endorsedBy_iff honest

/-- All bodies have a signature of the key that verifies, and whenever they are written anew, they
will have one again. -/
structure Endorsing (key : PublicKey) (transaction : Transaction) : Prop where
  endorsed : transaction.EndorsedBy key
  signers : ∀ signer ∈ transaction.signers, signer.key = key → signer.Honest
  present : ∃ signer ∈ transaction.signers, signer.key = key

theorem Endorsing.rewrote (rewrote : transaction.Rewrote next)
    (endorsing : Endorsing key transaction) : Endorsing key next := by
  obtain ⟨before, id, was, rfl⟩ := rewrote.now
  refine ⟨?_, endorsing.signers, endorsing.present⟩
  exact Frozen.signAll_endorsedBy (forall_unsigned (SignedTransaction.genuine_lasting key) _)
    endorsing.signers endorsing.present

/-- Where the key is down for a body it has signed it, and its signers at hand are honest. -/
def Sincere (key : PublicKey) (transaction : Transaction) : Prop :=
  transaction.Holds (fun signer => signer.key = key → signer.Honest) (·.Genuine key)

theorem Genuine.sincere (genuine : transaction.Genuine key)
    (honest : ∀ signer ∈ transaction.signers, signer.key = key → signer.Honest) :
    Sincere key transaction :=
  ⟨honest, fun frozen stored => by rwa [Genuine, bodies_eq stored] at genuine⟩

theorem Sincere.genuine (sincere : Sincere key transaction) : transaction.Genuine key := by
  unfold Genuine bodies
  split
  · exact sincere.bodies _ ‹_›
  · simp

theorem Sincere.signWith (sincere : Sincere signer.key transaction) (honest : signer.Honest)
    (signed : transaction.signWith signer = .ok next) : Endorsing signer.key next := by
  obtain ⟨remembered, present⟩ := signWith_signers signed
  refine ⟨(signWith_endorsedBy_iff honest signed).mpr sincere.genuine, ?_, present⟩
  intro other member named
  rcases remembered other member with rfl | old
  · exact honest
  · exact sincere.signers other old named

/-- Freezing gives a transaction its own id or one that the client's operator pays for. -/
theorem freezeWith_payer {operator : Operator} (acts : client.operator = some operator)
    (pays : ∀ id, transaction.id = some id → id.payer.same operator.account = true)
    (froze : transaction.freezeWith (some client) world = (.ok next, after)) :
    ∀ id, next.id = some id → id.payer.same operator.account = true := by
  obtain ⟨given, generated, nodes, middle, -, resolved, -, written⟩ := freezeWith_resolved froze
  obtain ⟨chunks, -, made⟩ := bind_eq_ok.mp written
  cases made
  intro id same
  cases same
  cases chosen : transaction.id with
  | some own =>
      simp only [resolveId, chosen] at resolved
      cases resolved
      exact pays _ chosen
  | none =>
      simp only [resolveId, chosen, Option.bind_some, acts] at resolved
      cases resolved
      exact EntityId.same_iff.mpr rfl

/-- The operator signs what it pays for. -/
theorem signWithOperator_eq {operator : Operator} {id : TransactionId}
    (acts : client.operator = some operator) (named : transaction.id = some id)
    (pays : id.payer.same operator.account = true) (unsealed : transaction.isSealed = false) :
    transaction.signWithOperator client = transaction.signWith operator.signer := by
  simp [signWithOperator, acts, named, pays, unsealed]

theorem Readied.endorsing {account : AccountId} (readied : Readied client transaction ready)
    (frozen : ready.isFrozen = true) (sound : transaction.Sound chosen)
    (acts : client.operator = some { account, signer })
    (pays : ∀ id, transaction.id = some id → id.payer.same account = true)
    (unsealed : transaction.isSealed = false) (honest : signer.Honest)
    (sincere : Sincere signer.key transaction) : Endorsing signer.key ready := by
  cases readied with
  | unfrozen unfrozen =>
      rw [unfrozen] at frozen
      contradiction
  | countersigned held signed _ =>
      obtain ⟨bodies, stored⟩ := Option.isSome_iff_exists.mp held
      obtain ⟨root, named, -⟩ := sound.coherent bodies stored
      rw [signWithOperator_eq acts named (pays root named) unsealed] at signed
      exact sincere.signWith honest signed
  | @froze middle _ _ _ _ froze signed _ =>
      have wrote := freezeWith_wrote froze
      have payer := freezeWith_payer acts pays froze
      have stillSincere : Sincere signer.key middle :=
        Holds.step (SignedTransaction.genuine_lasting signer.key) (.froze wrote) sincere
      obtain ⟨id, _, _, _, _, made⟩ := wrote.now
      have named : middle.id = some id := by rw [made]
      have stillOpen : middle.isSealed = false := by rw [made]; exact unsealed
      rw [signWithOperator_eq acts named (payer id named) stillOpen] at signed
      exact stillSincere.signWith honest signed

theorem faithful_endorsed {submission : Submission} (faithful : submission.Faithful)
    (endorsed : submission.state.EndorsedBy key) : submission.call.EndorsedBy key := by
  obtain ⟨signed, requested, request⟩ := faithful.stored
  refine ⟨signed, request, endorsed signed ?_⟩
  cases stored : submission.state.frozen with
  | none => simp [requestFor, stored] at requested
  | some frozen =>
      simp only [requestFor, stored] at requested
      obtain ⟨place, bodies, -, inChunk, held⟩ := Frozen.signedFor_held requested
      rw [bodies_eq stored]
      exact List.mem_flatMap.mpr
        ⟨bodies, List.mem_of_getElem? inChunk, List.mem_of_getElem? held⟩

/-- Whatever the nodes reply, all that is sent has a signature of the operator that verifies. -/
theorem executeAll_endorsed {account : AccountId} (sound : transaction.Sound chosen)
    (acts : client.operator = some { account, signer })
    (pays : ∀ id, transaction.id = some id → id.payer.same account = true)
    (unsealed : transaction.isSealed = false) (honest : signer.Honest)
    (sincere : Sincere signer.key transaction) (world : World) :
    ∃ made, world.Exchanged made (transaction.executeAll client world).world ∧
      ∀ exchange ∈ made, exchange.call.EndorsedBy signer.key := by
  have prepares := executeAll_prepares transaction client world
  generalize transaction.executeAll client world = sent at prepares
  cases prepares with
  | unfrozen _ quiet => exact ⟨[], quiet, by simp⟩
  | @ready ready middle readied frozen quiet =>
      obtain ⟨made, sent⟩ := submitChunks_sent (transaction.executionFor client) ready middle 0
        ready.chunkCount
      have endorsing := readied.endorsing frozen sound acts pays unsealed honest sincere
      refine ⟨_, quiet.afterQuiet sent.exchanged, ?_⟩
      rw [List.forall_mem_map]
      intro submission member
      have states := (sent.submissions.preserves
        (fun endorsing _ regenerated => endorsing.rewrote (regenerate_rewrote regenerated))
        endorsing).1
      exact faithful_endorsed (sent.submissions.faithful submission member)
        (states submission member).endorsed

/-- Signing gives every body a signature of the key that verifies exactly if the key is not already
down for a body that it has not signed. Then all that is sent by a client with this signer for an
operator has such a signature too, if the operator pays and the transaction is not sealed. A
transaction that was put together here never has the key down for what it has not signed. -/
structure SignsAll (transaction : Transaction) (signer : Signer) : Prop where
  signed : ∀ next, transaction.signWith signer = .ok next →
    (next.EndorsedBy signer.key ↔ transaction.Genuine signer.key)
  sent : transaction.Genuine signer.key → transaction.isSealed = false →
    ∀ (client : Client) (account : AccountId) (world : World),
      client.operator = some { account, signer } →
      (∀ id, transaction.id = some id → id.payer.same account = true) →
        ∃ made, world.Exchanged made (transaction.executeAll client world).world ∧
          ∀ exchange ∈ made, exchange.call.EndorsedBy signer.key
  own : ∀ payload operations, transaction = (ofPayload payload).run operations →
    (∀ operation ∈ operations, ∀ other ∈ operation.signers,
      other.key = signer.key → other.Honest) → transaction.Genuine signer.key

theorem signsAll (obtainable : Obtainable chosen transaction) (honest : signer.Honest)
    (others : ∀ other ∈ transaction.signers, other.key = signer.key → other.Honest) :
    transaction.SignsAll signer where
  signed next done := signWith_endorsedBy_iff honest done
  sent genuine unsealed client account world acts pays :=
    executeAll_endorsed obtainable.sound acts pays unsealed honest (genuine.sincere others) world
  own payload operations came trust := by
    subst came
    exact Sincere.genuine (run_holds (SignedTransaction.genuine_lasting signer.key) trust)

end Transaction

end LedgerClient

/-! ## A transaction that comes with a signature that does not verify -/

namespace LedgerClient.Sample

open Transaction

/-- Its response is above the group order. -/
def forgery : SignaturePair where
  key := neutral.key
  signature := { bytes := neutralBytes ++ List.replicate 32 255, length_bytes := rfl }

def forgedBody : TransactionBody where
  transactionId := TransactionId.make (EntityId.ofNumbers 0 0 1001) { seconds := 1000, nanos := 0 }
  node := node
  maxFee := 100
  validSeconds := 120
  memo := ""
  data := .topicMessageSubmit topic [1] none

def forged : TransactionList where
  kind := .topicMessageSubmit
  chunks := [[{ body := Wire.encode forgedBody, signatures := [forgery] }]]

def imported : Transaction :=
  (ofBytes none (Wire.encode forged)).toOption.getD message

def importedSigned : Transaction :=
  (imported.signWith neutral).toOption.getD imported

theorem eq_ok_of_isSome {ε α : Type} {result : Except ε α} (fallback : α)
    (succeeds : result.toOption.isSome = true) : result = .ok (result.toOption.getD fallback) := by
  cases result with
  | error cause => cases succeeds
  | ok value => rfl

theorem imported_read : ofBytes none (Wire.encode forged) = .ok imported :=
  eq_ok_of_isSome message (by decide +kernel)

theorem imported_signed : imported.signWith neutral = .ok importedSigned :=
  eq_ok_of_isSome imported (by decide +kernel)

/-- Signing succeeds and leaves the body as it was. -/
theorem sign_imported_not_endorsed :
    ofBytes none (Wire.encode forged) = .ok imported ∧ neutral.Honest ∧
      imported.signWith neutral = .ok importedSigned ∧ ¬ importedSigned.EndorsedBy neutral.key :=
  ⟨imported_read, neutral_honest, imported_signed, by decide +kernel⟩

/-- The message that was put together here is signed by the same signer. -/
theorem signsAll_message :
    neutral.Honest ∧
      (∀ other ∈ ((ofPayload (.topicMessageSubmit topic [1, 2])).run freezing).signers,
        other.key = neutral.key → other.Honest) ∧
      ((ofPayload (.topicMessageSubmit topic [1, 2])).run freezing).SignsAll neutral := by
  obtain ⟨chosen, obtainable⟩ := run_obtainable (.topicMessageSubmit topic [1, 2]) freezing
  have nobody : ∀ other ∈ ((ofPayload (.topicMessageSubmit topic [1, 2])).run freezing).signers,
      other.key = neutral.key → other.Honest := by
    have empty :
        ((ofPayload (.topicMessageSubmit topic [1, 2])).run freezing).signers.length = 0 := by
      decide +kernel
    simp [List.length_eq_zero_iff.mp empty]
  exact ⟨neutral_honest, nobody, signsAll obtainable neutral_honest nobody⟩

end LedgerClient.Sample
