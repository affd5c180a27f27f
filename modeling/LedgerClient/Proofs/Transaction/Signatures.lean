import LedgerClient.Proofs.Transaction.Freezing

/-!
The signatures beside the bodies of a frozen transaction. What is added to a list comes last, and a
key that has signed a body adds nothing to it; the bodies themselves and all that goes with them
stay as they are.
-/

namespace LedgerClient

theorem forall₂_trans {α : Type} {R : α → α → Prop} (trans : ∀ {a b c}, R a b → R b c → R a c)
    {first second third : List α} (left : List.Forall₂ R first second)
    (right : List.Forall₂ R second third) : List.Forall₂ R first third := by
  induction left generalizing third with
  | nil => exact right
  | cons related _ ih =>
      cases right with
      | cons next others => exact .cons (trans related next) (ih others)

theorem forall₂_set {α : Type} {R : α → α → Prop} (refl : ∀ item, R item item) {items : List α}
    {place : Nat} {old new : α} (found : items[place]? = some old) (related : R old new) :
    List.Forall₂ R items (items.set place new) := by
  induction items generalizing place with
  | nil => simp at found
  | cons item rest ih =>
      cases place with
      | zero =>
          obtain rfl : item = old := by simpa using found
          exact .cons related (List.forall₂_same.mpr fun other _ => refl other)
      | succ place => exact .cons (refl item) (ih (by simpa using found))

theorem forall₂_getElem? {α β : Type} {R : α → β → Prop} {first : List α} {second : List β}
    (related : List.Forall₂ R first second) {place : Nat} {item : β}
    (found : second[place]? = some item) : ∃ other, first[place]? = some other ∧ R other item := by
  obtain ⟨inside, rfl⟩ := List.getElem?_eq_some_iff.mp found
  have insideFirst : place < first.length := related.length_eq ▸ inside
  exact ⟨first[place], List.getElem?_eq_getElem insideFirst, related.get insideFirst inside⟩

/-- Whatever the signer makes verifies under its key. -/
def Signer.Honest (signer : Signer) : Prop :=
  ∀ body, (signer.pair body).verifies body = true

namespace SignedTransaction

variable {signed grown later : SignedTransaction} {pair : SignaturePair} {signer : Signer}

/-- The same body, with its signatures and perhaps more behind them. -/
structure Grows (signed grown : SignedTransaction) : Prop where
  body : grown.body = signed.body
  signatures : signed.signatures <+: grown.signatures

@[refl] theorem Grows.refl (signed : SignedTransaction) : signed.Grows signed :=
  ⟨rfl, List.prefix_rfl⟩

theorem Grows.trans (first : signed.Grows grown) (second : grown.Grows later) :
    signed.Grows later :=
  ⟨second.body.trans first.body, first.signatures.trans second.signatures⟩

theorem add_grows (signed : SignedTransaction) (pair : SignaturePair) :
    signed.Grows (signed.add pair) := by
  unfold add
  split
  · exact .refl signed
  · exact ⟨rfl, List.prefix_append _ _⟩

theorem signWith_grows (signed : SignedTransaction) (signer : Signer) :
    signed.Grows (signed.signWith signer) := by
  unfold signWith
  split
  · exact .refl signed
  · exact signed.add_grows _

/-- No key signed twice, and every signature is one over the body. -/
structure WellSigned (signed : SignedTransaction) : Prop where
  once : (signed.signatures.map SignaturePair.key).Nodup
  verified : ∀ pair ∈ signed.signatures, pair.verifies signed.body = true

theorem isSignedBy_iff {key : PublicKey} :
    signed.isSignedBy key = true ↔ key ∈ signed.signatures.map SignaturePair.key := by
  simp only [isSignedBy, List.any_eq_true, decide_eq_true_eq, List.mem_map]

theorem WellSigned.add (well : signed.WellSigned) (verifies : pair.verifies signed.body = true) :
    (signed.add pair).WellSigned := by
  unfold SignedTransaction.add
  split
  · exact well
  · rename_i unsigned
    rw [isSignedBy_iff] at unsigned
    constructor
    · rw [List.map_append, List.nodup_append]
      refine ⟨well.once, by simp, ?_⟩
      intro key member other new
      obtain rfl : other = pair.key := by simpa using new
      exact ne_of_mem_of_not_mem member unsigned
    · rw [List.forall_mem_append]
      exact ⟨well.verified, by simpa using verifies⟩

/-- What bodies have when they are written, and keep while they are signed by those who are trusted
and get signatures that verify. -/
structure Lasting (trusted : Signer → Prop) (P : SignedTransaction → Prop) : Prop where
  written : ∀ body, P (ofBody body)
  signWith : ∀ signed signer, trusted signer → P signed → P (signed.signWith signer)
  add : ∀ signed pair, pair.verifies signed.body = true → P signed → P (signed.add pair)

theorem wellSigned_lasting : Lasting Signer.Honest WellSigned where
  written _ := ⟨List.nodup_nil, fun _ member => by cases member⟩
  signWith signed signer honest well := by
    unfold SignedTransaction.signWith
    split
    · exact well
    · exact well.add (honest signed.body)
  add _ _ verifies well := well.add verifies

end SignedTransaction

/-! ## All bodies of a frozen transaction -/

/-- The same chunk for the same nodes. -/
structure FrozenChunk.Grows (bodies grown : FrozenChunk) : Prop where
  id : grown.id = bodies.id
  signed : List.Forall₂ SignedTransaction.Grows bodies.signed grown.signed

theorem FrozenChunk.Grows.refl (bodies : FrozenChunk) : bodies.Grows bodies :=
  ⟨rfl, List.forall₂_same.mpr fun signed _ => .refl signed⟩

namespace Frozen

variable {frozen grown later : Frozen} {signer : Signer} {pair : SignaturePair}

/-- The same bodies, with their signatures and perhaps more behind them. -/
structure Grows (frozen grown : Frozen) : Prop where
  nodes : grown.nodes = frozen.nodes
  maxFee : grown.maxFee = frozen.maxFee
  chunking : grown.chunking = frozen.chunking
  chunks : List.Forall₂ FrozenChunk.Grows frozen.chunks grown.chunks

@[refl] theorem Grows.refl (frozen : Frozen) : frozen.Grows frozen :=
  ⟨rfl, rfl, rfl, List.forall₂_same.mpr fun bodies _ => .refl bodies⟩

theorem Grows.trans (first : frozen.Grows grown) (second : grown.Grows later) :
    frozen.Grows later where
  nodes := second.nodes.trans first.nodes
  maxFee := second.maxFee.trans first.maxFee
  chunking := second.chunking.trans first.chunking
  chunks := forall₂_trans (fun left right =>
    ⟨right.id.trans left.id, forall₂_trans .trans left.signed right.signed⟩)
    first.chunks second.chunks

theorem signWith_grows (frozen : Frozen) (signer : Signer) :
    frozen.Grows (frozen.signWith signer) where
  nodes := rfl
  maxFee := rfl
  chunking := rfl
  chunks := List.forall₂_map_right_iff.mpr <| List.forall₂_same.mpr fun _ _ =>
    ⟨rfl, List.forall₂_map_right_iff.mpr <| List.forall₂_same.mpr fun signed _ =>
      signed.signWith_grows signer⟩

/-- Every body that is held, chunk by chunk. -/
def bodies (frozen : Frozen) : List SignedTransaction :=
  frozen.chunks.flatMap FrozenChunk.signed

theorem bodies_signWith (frozen : Frozen) (signer : Signer) :
    (frozen.signWith signer).bodies = frozen.bodies.map (·.signWith signer) := by
  simp [bodies, Frozen.signWith, List.flatMap_map, List.map_flatMap]

theorem Grows.bodies (grows : frozen.Grows grown) :
    List.Forall₂ SignedTransaction.Grows frozen.bodies grown.bodies :=
  List.rel_flatMap grows.chunks fun _ _ related => related.signed

section Lasting

variable {trusted : Signer → Prop} {P : SignedTransaction → Prop}

theorem forall_signWith (lasting : SignedTransaction.Lasting trusted P) (trust : trusted signer)
    (held : ∀ signed ∈ frozen.bodies, P signed) :
    ∀ signed ∈ (frozen.signWith signer).bodies, P signed := by
  intro signed member
  rw [bodies_signWith] at member
  obtain ⟨unsigned, before, rfl⟩ := List.mem_map.mp member
  exact lasting.signWith unsigned signer trust (held unsigned before)

theorem forall_signAll (lasting : SignedTransaction.Lasting trusted P) {signers : List Signer}
    (trust : ∀ signer ∈ signers, trusted signer) (held : ∀ signed ∈ frozen.bodies, P signed) :
    ∀ signed ∈ (signers.foldl Frozen.signWith frozen).bodies, P signed := by
  induction signers generalizing frozen with
  | nil => exact held
  | cons signer rest ih =>
      exact ih (fun other member => trust other (List.mem_cons_of_mem _ member))
        (forall_signWith lasting (trust signer List.mem_cons_self) held)

end Lasting

/-- Another signature on the body at this place. -/
def attach (frozen : Frozen) (chunk place : Nat) (bodies : FrozenChunk) (held : SignedTransaction)
    (pair : SignaturePair) : Frozen :=
  { frozen with
    chunks := frozen.chunks.set chunk
      { bodies with signed := bodies.signed.set place (held.add pair) } }

section Attach

variable {chunk place : Nat} {bodies : FrozenChunk} {held : SignedTransaction}

theorem attach_grows (stored : frozen.chunks[chunk]? = some bodies)
    (inPlace : bodies.signed[place]? = some held) (pair : SignaturePair) :
    frozen.Grows (frozen.attach chunk place bodies held pair) where
  nodes := rfl
  maxFee := rfl
  chunking := rfl
  chunks := forall₂_set .refl stored
    ⟨rfl, forall₂_set .refl inPlace (held.add_grows pair)⟩

theorem forall_attach {trusted : Signer → Prop} {P : SignedTransaction → Prop}
    (lasting : SignedTransaction.Lasting trusted P) (stored : frozen.chunks[chunk]? = some bodies)
    (inPlace : bodies.signed[place]? = some held) (verifies : pair.verifies held.body = true)
    (before : ∀ signed ∈ frozen.bodies, P signed) :
    ∀ signed ∈ (frozen.attach chunk place bodies held pair).bodies, P signed := by
  have inChunk : ∀ signed ∈ bodies.signed, P signed := fun signed member =>
    before signed (List.mem_flatMap.mpr ⟨bodies, List.mem_of_getElem? stored, member⟩)
  intro signed member
  obtain ⟨changed, inChunks, inBodies⟩ := List.mem_flatMap.mp member
  rcases List.mem_or_eq_of_mem_set inChunks with old | rfl
  · exact before signed (List.mem_flatMap.mpr ⟨changed, old, inBodies⟩)
  · rcases List.mem_or_eq_of_mem_set inBodies with old | rfl
    · exact inChunk signed old
    · exact lasting.add held pair verifies (inChunk held (List.mem_of_getElem? inPlace))

end Attach

end Frozen

/-! ## What signing does to a transaction -/

namespace Transaction

variable {transaction next : Transaction}

theorem signWith_signed {signer : Signer} (signed : transaction.signWith signer = .ok next) :
    ∃ frozen, transaction.isSealed = false ∧ transaction.frozen = some frozen ∧
      next = { transaction with
        signers :=
          if transaction.remembers signer.key then transaction.signers
          else transaction.signers ++ [signer]
        frozen := some (frozen.signWith signer) } := by
  simp only [signWith] at signed
  split at signed
  · cases signed
  · rename_i unsealed
    split at signed
    · cases signed
    · rename_i frozen stored
      cases signed
      exact ⟨frozen, by simpa using unsealed, stored, rfl⟩

/-- The signer is remembered, or another one of its key was already. -/
theorem signWith_signers {signer : Signer} (signed : transaction.signWith signer = .ok next) :
    (∀ other ∈ next.signers, other = signer ∨ other ∈ transaction.signers) ∧
      ∃ other ∈ next.signers, other.key = signer.key := by
  obtain ⟨frozen, -, -, rfl⟩ := signWith_signed signed
  dsimp only
  split
  · rename_i remembered
    exact ⟨fun _ member => .inr member, by simpa [remembers] using remembered⟩
  · refine ⟨fun other member => ?_, signer, by simp, rfl⟩
    rcases List.mem_append.mp member with old | new
    · exact .inr old
    · exact .inl (List.mem_singleton.mp new)

theorem addSignature_attached {chunk : Nat} {node : AccountId} {pair : SignaturePair}
    (signed : transaction.addSignature chunk node pair = .ok next) :
    ∃ frozen place bodies held, transaction.isSealed = false ∧ transaction.frozen = some frozen ∧
      frozen.place? node = some place ∧ frozen.chunks[chunk]? = some bodies ∧
      bodies.signed[place]? = some held ∧ pair.verifies held.body = true ∧
      next = { transaction with frozen := some (frozen.attach chunk place bodies held pair) } := by
  simp only [addSignature] at signed
  split at signed
  · cases signed
  · rename_i unsealed
    split at signed
    · cases signed
    · rename_i frozen stored
      split at signed
      · cases signed
      · rename_i place listed
        split at signed
        · cases signed
        · rename_i bodies inChunk
          split at signed
          · cases signed
          · rename_i held inPlace
            split at signed
            · rename_i verifies
              cases signed
              exact ⟨frozen, place, bodies, held, by simpa using unsealed, stored, listed, inChunk,
                inPlace, verifies, rfl⟩
            · cases signed

end Transaction

end LedgerClient
