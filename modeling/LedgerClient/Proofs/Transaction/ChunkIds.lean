import LedgerClient.Proofs.Transaction.Reexport

/-!
Whether the chunks of a transaction can be told apart. Their ids differ in the nonce only. Behind
the first chunk it is the place of the chunk, as a number of 32 bits, while the first chunk keeps
the nonce of the id that the transaction was given. Freezing does not look at that nonce, and so two
chunks may end up with one id.
-/

namespace LedgerClient

namespace Transaction

variable {root : TransactionId} {index left right count : Nat}

theorem chunkId_nonce (later : 0 < index) :
    (chunkId root index).nonce = some (UInt32.ofNat index) := by
  rw [chunkId, if_neg (Nat.ne_of_gt later)]
  rfl

theorem chunkId_withNonce (root : TransactionId) (index : Nat) :
    chunkId root index = { root with nonce := (chunkId root index).nonce } := by
  unfold chunkId
  split <;> rfl

/-- Ids of one root are the same if their nonces are. -/
theorem chunkId_same_iff :
    (chunkId root left).same (chunkId root right) = true ↔
      (chunkId root left).nonce = (chunkId root right).nonce := by
  rw [TransactionId.same_iff]
  constructor
  · exact congrArg TransactionId.nonce
  · intro nonces
    rw [chunkId_withNonce root left, chunkId_withNonce root right, nonces]

/-- The ids of the first chunks under a root, so many of them, are all different. -/
def Apart (root : TransactionId) (count : Nat) : Prop :=
  ∀ left right, left < right → right < count →
    (chunkId root left).same (chunkId root right) = false

/-- What it takes for ids to be apart: the nonces do not repeat themselves, and none of them is that
of the root. -/
structure NoncesApart (root : TransactionId) (count : Nat) : Prop where
  few : count ≤ 2 ^ 32 + 1
  fresh : ∀ index, 0 < index → index < count → root.nonce ≠ some (UInt32.ofNat index)

theorem ofNat_ne_of_lt (later : 0 < left) (ordered : left < right) (few : right ≤ 2 ^ 32) :
    UInt32.ofNat left ≠ UInt32.ofNat right := by
  intro same
  have places : left % 2 ^ 32 = right % 2 ^ 32 := by
    rw [← UInt32.toNat_ofNat', ← UInt32.toNat_ofNat', same]
  omega

theorem NoncesApart.apart (nonces : NoncesApart root count) : Apart root count := by
  intro left right ordered inside
  rw [← Bool.not_eq_true, chunkId_same_iff, chunkId_nonce (Nat.zero_lt_of_lt ordered)]
  have few := nonces.few
  rcases Nat.eq_zero_or_pos left with rfl | later
  · exact nonces.fresh right ordered inside
  · rw [chunkId_nonce later]
    intro same
    exact ofNat_ne_of_lt later ordered (by omega) (Option.some.inj same)

theorem apart_iff : Apart root count ↔ NoncesApart root count := by
  refine ⟨fun apart => ⟨?few, ?fresh⟩, NoncesApart.apart⟩
  case few =>
    by_contra many
    have first := apart 1 (2 ^ 32 + 1) (by decide) (Nat.lt_of_not_le many)
    rw [← Bool.not_eq_true, chunkId_same_iff] at first
    exact first rfl
  case fresh =>
    intro index later inside same
    have differ := apart 0 index later inside
    rw [← Bool.not_eq_true, chunkId_same_iff, chunkId_nonce later] at differ
    exact differ same

end Transaction

/-- No two chunks have one id. -/
def Frozen.Apart (frozen : Frozen) : Prop :=
  frozen.chunks.Pairwise fun left right => left.id.same right.id = false

namespace Transaction

variable {transaction next : Transaction} {frozen : Frozen} {root : TransactionId}
  {plan : BodyPlan} {client : Option Client} {world after : World}

/-- The ids of the chunks of a frozen transaction, which are also those in their bodies. -/
structure NamesChunks (root : TransactionId) (frozen : Frozen) : Prop where
  ids : ∀ index chunk, frozen.chunks[index]? = some chunk → chunk.id = chunkId root index
  bodies : ∀ chunk ∈ frozen.chunks, ∀ signed ∈ chunk.signed, ∃ body : TransactionBody,
    signed.body = Wire.encode body ∧ body.transactionId = chunk.id

theorem namesChunks_planned (grows : plan.unsigned.Grows frozen) :
    NamesChunks plan.root frozen where
  ids index chunk found := (BodyPlan.grown_chunk grows found).2.id
  bodies chunk inChunks signed inChunk := by
    obtain ⟨index, found⟩ := List.mem_iff_getElem?.mp inChunks
    obtain ⟨place, held⟩ := List.mem_iff_getElem?.mp inChunk
    obtain ⟨-, grown⟩ := BodyPlan.grown_chunk grows found
    obtain ⟨node, -, written⟩ := BodyPlan.grown_body grown held
    exact ⟨_, written, grown.id.symm⟩

theorem NamesChunks.apart_iff (names : NamesChunks root frozen) :
    frozen.Apart ↔ NoncesApart root frozen.chunks.length := by
  rw [← Transaction.apart_iff, Frozen.Apart, List.pairwise_iff_getElem]
  have id : ∀ index (inside : index < frozen.chunks.length),
      frozen.chunks[index].id = chunkId root index :=
    fun index inside => names.ids index _ (List.getElem?_eq_getElem inside)
  constructor
  · intro pairwise left right ordered inside
    have differ := pairwise left right (Nat.lt_trans ordered inside) inside ordered
    rwa [id, id] at differ
  · intro apart left right insideLeft insideRight ordered
    rw [id, id]
    exact apart left right ordered insideRight

/-- The ids of what is frozen, whatever is done to it then, are those of its chunks. They are apart
exactly if there are not too many of them and the nonce of the first is not that of another. -/
theorem freezeWith_apart_iff (froze : transaction.freezeWith client world = (.ok next, after))
    (operations : List Operation) :
    (∀ chosen, transaction.id = some chosen → next.id = some chosen) ∧
      ∃ root frozen, (next.run operations).id = some root ∧
        (next.run operations).frozen = some frozen ∧ NamesChunks root frozen ∧
        (frozen.Apart ↔ NoncesApart root frozen.chunks.length) := by
  obtain ⟨id, held, -, named, storedFirst, -, -, -, provenance⟩ := freezeWith_frozen froze
  constructor
  · intro chosen given
    rcases provenance with ⟨kept, -⟩ | ⟨missing, -⟩
    · rw [named, ← kept, given]
    · rw [missing] at given
      cases given
  · obtain ⟨upholds, written⟩ := freezeWith_maintains froze operations
    obtain ⟨frozen, stored, -⟩ := upholds.frozen held storedFirst
    obtain ⟨root, rooted, grows⟩ := written frozen stored
    have names : NamesChunks root frozen := namesChunks_planned grows
    exact ⟨root, frozen, rooted, stored, names, names.apart_iff⟩

end Transaction

end LedgerClient

/-! ## An id with the nonce of the second chunk -/

namespace LedgerClient.Sample

open Transaction

theorem append_apart_iff :
    (append.freezeWith (some client) (world [])).1 = .ok appendFrozen ∧
      (∀ chosen, append.id = some chosen → appendFrozen.id = some chosen) ∧
        ∃ root held, (appendFrozen.run signing).id = some root ∧
          (appendFrozen.run signing).frozen = some held ∧ NamesChunks root held ∧
          (held.Apart ↔ NoncesApart root held.chunks.length) := by
  have froze : append.freezeWith (some client) (world []) =
      (.ok appendFrozen, (append.freezeWith (some client) (world [])).2) := rfl
  exact ⟨congrArg Prod.fst froze, freezeWith_apart_iff froze signing⟩

/-- The id of a chunk in the second place. -/
def secondId : TransactionId where
  payer := EntityId.ofNumbers 0 0 1001
  validStart := { seconds := 1000, nanos := 0 }
  scheduled := false
  nonce := some 1

def confused : Transaction :=
  { append with id := some secondId }

def confusedFrozen : Transaction :=
  (confused.freezeWith (some client) (world [])).1.toOption.getD confused

def confusedBodies : Frozen :=
  confusedFrozen.frozen.get (by decide +kernel)

/-- Both chunks are frozen under the id that was set. -/
theorem confused_not_apart :
    append.setId secondId = .ok confused ∧
      (confused.freezeWith (some client) (world [])).1 = .ok confusedFrozen ∧
      confusedFrozen.frozen = some confusedBodies ∧
      confusedBodies.chunks.map FrozenChunk.id = [secondId, secondId] ∧ ¬ confusedBodies.Apart := by
  have ids : confusedBodies.chunks.map FrozenChunk.id = [secondId, secondId] := by decide +kernel
  refine ⟨rfl, eq_ok_of_isSome confused (by decide +kernel), (Option.some_get _).symm, ids, ?_⟩
  intro apart
  have pairwise : (confusedBodies.chunks.map FrozenChunk.id).Pairwise
      fun left right => left.same right = false := List.pairwise_map.mpr apart
  rw [ids] at pairwise
  have differ := List.rel_of_pairwise_cons pairwise List.mem_cons_self
  rw [TransactionId.same_refl] at differ
  cases differ

end LedgerClient.Sample
