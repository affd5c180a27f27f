import LedgerClient.Proofs.Network.Selection
import LedgerClient.Proofs.Outcomes
import LedgerClient.Transaction.Sign

/-!
What the bodies of a frozen transaction have to do with each other. Every chunk has one body for
each node, which names that node and the id of the chunk, and the ids of the chunks follow from that
of the transaction. Signing changes none of this, since it leaves the bodies as they are.
-/

namespace LedgerClient

namespace TransactionId

theorem same_iff {left right : TransactionId} :
    left.same right = true ↔ left.bare = right.bare := by
  simp [same]

theorem same_refl (id : TransactionId) : id.same id = true :=
  same_iff.mpr rfl

theorem same_trans {left middle right : TransactionId} (first : left.same middle = true)
    (second : middle.same right = true) : left.same right = true :=
  same_iff.mpr ((same_iff.mp first).trans (same_iff.mp second))

end TransactionId

namespace SignedTransaction

variable {signed other : SignedTransaction} {id : TransactionId} {node : AccountId}

/-- The body names this node and this id. -/
def IsFor (signed : SignedTransaction) (id : TransactionId) (node : AccountId) : Prop :=
  ∃ body : TransactionBody, signed.body = Wire.encode body ∧
    body.transactionId.same id = true ∧ body.node.same node = true

theorem IsFor.ofSameBody (isFor : signed.IsFor id node) (same : other.body = signed.body) :
    other.IsFor id node := by
  obtain ⟨body, written, named, addressed⟩ := isFor
  exact ⟨body, same.trans written, named, addressed⟩

theorem add_body (signed : SignedTransaction) (pair : SignaturePair) :
    (signed.add pair).body = signed.body := by
  unfold add
  split <;> rfl

theorem signWith_body (signed : SignedTransaction) (signer : Signer) :
    (signed.signWith signer).body = signed.body := by
  unfold signWith
  split
  · rfl
  · exact add_body signed _

end SignedTransaction

/-- The bodies are those of a chunk with this id: one for each node. -/
def FrozenChunk.Serves (bodies : FrozenChunk) (id : TransactionId) (nodes : List AccountId) :
    Prop :=
  bodies.id.same id = true ∧
    List.Forall₂ (fun signed node => signed.IsFor bodies.id node) bodies.signed nodes

theorem Transaction.chunkId_validStart (root : TransactionId) (index : Nat) :
    (chunkId root index).validStart = root.validStart := by
  unfold chunkId
  split <;> rfl

namespace Frozen

open Transaction (chunkId)

variable {frozen : Frozen} {root : TransactionId} {chunk : Nat} {node : AccountId}

/-- The chunks are those of a transaction with this id, one after the other. -/
def Coherent (frozen : Frozen) (root : TransactionId) : Prop :=
  ∀ (index : Nat) (bodies : FrozenChunk), frozen.chunks[index]? = some bodies →
    bodies.Serves (chunkId root index) frozen.nodes

theorem Coherent.signWith (coherent : frozen.Coherent root) (signer : Signer) :
    (frozen.signWith signer).Coherent root := by
  intro index bodies found
  simp only [Frozen.signWith, List.getElem?_map, Option.map_eq_some_iff] at found
  obtain ⟨unsigned, stored, rfl⟩ := found
  obtain ⟨named, matched⟩ := coherent index unsigned stored
  refine ⟨named, List.forall₂_map_left_iff.mpr (matched.imp ?_)⟩
  intro signed node isFor
  exact isFor.ofSameBody (signed.signWith_body signer)

@[simp] theorem signWith_length (frozen : Frozen) (signer : Signer) :
    (frozen.signWith signer).chunks.length = frozen.chunks.length := by
  simp [Frozen.signWith]

theorem signWith_all {P : Frozen → Prop}
    (kept : ∀ frozen signer, P frozen → P (frozen.signWith signer)) (signers : List Signer)
    (initial : P frozen) : P (signers.foldl Frozen.signWith frozen) := by
  induction signers generalizing frozen with
  | nil => exact initial
  | cons signer rest ih => exact ih (kept frozen signer initial)

theorem Coherent.addSignature (coherent : frozen.Coherent root) {bodies : FrozenChunk}
    (stored : frozen.chunks[chunk]? = some bodies) {place : Nat} {signed : SignedTransaction}
    (held : bodies.signed[place]? = some signed) (pair : SignaturePair) :
    ({ frozen with
      chunks := frozen.chunks.set chunk
        { bodies with signed := bodies.signed.set place (signed.add pair) } } : Frozen).Coherent
      root := by
  intro index changed found
  by_cases here : chunk = index
  · subst here
    obtain ⟨inside, _⟩ := List.getElem?_eq_some_iff.mp stored
    simp only [List.getElem?_set_self inside, Option.some.injEq] at found
    subst found
    obtain ⟨named, matched⟩ := coherent chunk bodies stored
    refine ⟨named, List.forall₂_iff_get.mpr ⟨?_, ?_⟩⟩
    · simpa using matched.length_eq
    · intro position inSigned inNodes
      have isFor := matched.get (by simpa using inSigned) inNodes
      refine isFor.ofSameBody ?_
      simp only [List.get_eq_getElem, List.getElem_set]
      split
      · rename_i same
        subst same
        obtain ⟨_, value⟩ := List.getElem?_eq_some_iff.mp held
        rw [signed.add_body pair, value]
      · rfl
  · rw [List.getElem?_set_ne here] at found
    exact coherent index changed found

/-- What is sent to a node for a chunk is held at the place of the node. -/
theorem signedFor_held {signed : SignedTransaction}
    (found : frozen.signedFor chunk node = .ok signed) :
    ∃ place bodies, frozen.place? node = some place ∧ frozen.chunks[chunk]? = some bodies ∧
      bodies.signed[place]? = some signed := by
  simp only [Frozen.signedFor] at found
  split at found
  · cases found
  · rename_i place listed
    split at found
    · cases found
    · rename_i bodies inChunk
      split at found
      · cases found
      · rename_i held
        cases found
        exact ⟨place, bodies, listed, inChunk, held⟩

/-- What is stored for a node and a chunk names that node and the id of that chunk. -/
theorem Coherent.signedFor (coherent : frozen.Coherent root) {signed : SignedTransaction}
    (found : frozen.signedFor chunk node = .ok signed) :
    ∃ bodies, frozen.chunks[chunk]? = some bodies ∧
      bodies.id.same (chunkId root chunk) = true ∧ signed.IsFor bodies.id node := by
  obtain ⟨place, bodies, listed, stored, held⟩ := signedFor_held found
  obtain ⟨named, matched⟩ := coherent chunk bodies stored
  obtain ⟨inNodes, same, _⟩ := List.findIdx?_eq_some_iff_getElem.mp listed
  obtain ⟨inSigned, rfl⟩ := List.getElem?_eq_some_iff.mp held
  obtain ⟨body, written, ofChunk, addressed⟩ := matched.get inSigned inNodes
  refine ⟨bodies, stored, named, body, written, ofChunk, EntityId.same_iff.mpr ?_⟩
  exact (EntityId.same_iff.mp addressed).trans (EntityId.same_iff.mp same)

theorem Coherent.signedFor_exists (coherent : frozen.Coherent root)
    (inside : chunk < frozen.chunks.length) {listed : AccountId} (member : listed ∈ frozen.nodes)
    (same : listed.same node = true) : ∃ signed, frozen.signedFor chunk node = .ok signed := by
  obtain ⟨place, found⟩ : ∃ place, frozen.place? node = some place := by
    cases absent : frozen.place? node with
    | some place => exact ⟨place, rfl⟩
    | none =>
        have missing := List.findIdx?_eq_none_iff.mp absent listed member
        simp [same] at missing
  have stored : frozen.chunks[chunk]? = some frozen.chunks[chunk] :=
    List.getElem?_eq_getElem inside
  obtain ⟨_, matched⟩ := coherent chunk _ stored
  obtain ⟨inNodes, _, _⟩ := List.findIdx?_eq_some_iff_getElem.mp found
  have inSigned : place < frozen.chunks[chunk].signed.length := by
    rw [matched.length_eq]
    exact inNodes
  refine ⟨frozen.chunks[chunk].signed[place], ?_⟩
  simp only [Frozen.signedFor, found, stored, List.getElem?_eq_getElem inSigned]

theorem signedFor_same {other : AccountId} (same : node.same other = true)
    {signed : SignedTransaction} (found : frozen.signedFor chunk node = .ok signed) :
    frozen.signedFor chunk other = .ok signed := by
  have places : frozen.place? node = frozen.place? other := by
    simp only [place?, EntityId.same, EntityId.same_iff.mp same]
  cases listed : frozen.place? node with
  | none => simp [Frozen.signedFor, listed] at found
  | some place =>
      rw [← found]
      simp only [Frozen.signedFor, ← places, listed]

end Frozen

namespace Transaction.BodyPlan

variable {plan : BodyPlan}

theorem chunk_serves {index : Nat} {bodies : FrozenChunk}
    (written : plan.chunk index = .ok bodies) :
    bodies.Serves (chunkId plan.root index) plan.nodes := by
  obtain ⟨signed, checked, made⟩ := bind_eq_ok.mp written
  cases made
  refine ⟨TransactionId.same_refl _, (mapM_eq_ok checked).flip.imp ?_⟩
  intro body node accepted
  simp only [checkedBody] at accepted
  split at accepted
  · cases accepted
    exact ⟨plan.body index node, rfl, TransactionId.same_refl _, EntityId.same_iff.mpr rfl⟩
  · contradiction

theorem chunks_serve {chunks : List FrozenChunk} (written : plan.chunks = .ok chunks) :
    chunks.length = chunkTotal plan.payload plan.chunking ∧
      ∀ (index : Nat) (bodies : FrozenChunk), chunks[index]? = some bodies →
        bodies.Serves (chunkId plan.root index) plan.nodes := by
  simp only [BodyPlan.chunks] at written
  split at written
  · contradiction
  · have matched := mapM_eq_ok written
    refine ⟨by simpa using matched.length_eq.symm, ?_⟩
    intro index bodies found
    obtain ⟨inside, rfl⟩ := List.getElem?_eq_some_iff.mp found
    have inRange : index < (List.range (chunkTotal plan.payload plan.chunking)).length := by
      rw [matched.length_eq]
      exact inside
    have same := matched.get inRange inside
    simp only [List.get_eq_getElem, List.getElem_range] at same
    exact chunk_serves same

end Transaction.BodyPlan

end LedgerClient
