import LedgerClient.Proofs.Execution.Exchange
import LedgerClient.Proofs.Transaction.Bodies

/-!
Freezing, and giving a frozen transaction a fresh id: what comes of them when they succeed, and that
neither uses the channel.
-/

namespace LedgerClient.Transaction

variable {transaction next : Transaction} {client : Option Client} {world after : World}

theorem exchanged_resolveId (transaction : Transaction) (client : Option Client) (world : World) :
    world.Exchanged [] (transaction.resolveId client world).2 := by
  unfold resolveId
  split
  · exact .refl _
  · split
    · exact .refl _
    · rename_i operator _
      exact World.exchanged_generateId world operator.account

theorem exchanged_resolveNodes (transaction : Transaction) (client : Option Client)
    (world : World) : world.Exchanged [] (transaction.resolveNodes client world).2 := by
  unfold resolveNodes
  split
  · exact .refl _
  · exact .refl _
  · split
    · exact .refl _
    · have quiet := World.exchanged_candidates world none
      split <;> rename_i found <;> rw [found] at quiet <;> exact quiet

theorem exchanged_freezeWith (transaction : Transaction) (client : Option Client) (world : World) :
    world.Exchanged [] (transaction.freezeWith client world).2 := by
  unfold freezeWith
  split
  · exact .refl _
  · split
    · exact .refl _
    · have first := exchanged_resolveId transaction client world
      revert first
      generalize transaction.resolveId client world = resolved
      obtain ⟨outcome, middle⟩ := resolved
      intro first
      cases outcome with
      | error error => exact first
      | ok resolved =>
          have second := exchanged_resolveNodes transaction client middle
          revert second
          dsimp only
          generalize transaction.resolveNodes client middle = found
          obtain ⟨outcome, final⟩ := found
          intro second
          cases outcome with
          | error error => exact first.afterQuiet second
          | ok nodes => exact first.afterQuiet second

theorem exchanged_regenerate (transaction : Transaction) (world : World) :
    world.Exchanged [] (transaction.regenerate world).2 := by
  unfold regenerate
  split
  · rename_i frozen root _ _
    have quiet := World.exchanged_generateId world root.payer
    split
    · exact .refl _
    · dsimp only
      split <;> exact quiet
  · exact .refl _

/-- Bodies that were written for an id, with one chunk after the other and as many as are needed. -/
structure FrozenUnder (payload : Payload) (root : TransactionId) (frozen : Frozen) : Prop where
  coherent : frozen.Coherent root
  whole : frozen.chunks.length = chunkTotal payload frozen.chunking

theorem FrozenUnder.signed {payload : Payload} {root : TransactionId} {frozen : Frozen}
    (under : FrozenUnder payload root frozen) (signers : List Signer) :
    FrozenUnder payload root (signers.foldl Frozen.signWith frozen) :=
  Frozen.signWith_all
    (fun frozen signer under =>
      ⟨under.coherent.signWith signer, (frozen.signWith_length signer).trans under.whole⟩)
    signers under

theorem freezeAs_frozen {id : TransactionId} {generated : Bool} {nodes : List AccountId}
    (written : transaction.freezeAs client id generated nodes = .ok next) :
    ∃ frozen, next = { transaction with id := some id, generated, frozen := some frozen } ∧
      FrozenUnder transaction.payload id frozen := by
  obtain ⟨chunks, planned, made⟩ := bind_eq_ok.mp written
  cases made
  obtain ⟨whole, serve⟩ := BodyPlan.chunks_serve planned
  have under : FrozenUnder transaction.payload id
      { nodes, maxFee := transaction.resolveFee client
        chunking := transaction.resolveChunking client, chunks } := ⟨serve, whole⟩
  exact ⟨_, rfl, under.signed transaction.signers⟩

theorem resolveId_provenance {id : TransactionId} {generated : Bool}
    (resolved : transaction.resolveId client world = (.ok (id, generated), after)) :
    (transaction.id = some id ∧ generated = transaction.generated) ∨
      (transaction.id = none ∧ generated = true) := by
  simp only [resolveId] at resolved
  split at resolved
  · rename_i given
    cases resolved
    exact .inl ⟨given, rfl⟩
  · rename_i missing
    split at resolved
    · cases resolved
    · cases resolved
      exact .inr ⟨missing, rfl⟩

/-- A transaction that is frozen was not before, and an id and nodes were found for it. -/
theorem freezeWith_resolved (froze : transaction.freezeWith client world = (.ok next, after)) :
    ∃ id generated nodes middle, transaction.frozen = none ∧
      transaction.resolveId client world = (.ok (id, generated), middle) ∧
      transaction.resolveNodes client middle = (.ok nodes, after) ∧
      transaction.freezeAs client id generated nodes = .ok next := by
  cases absent : transaction.frozen with
  | some frozen => simp [freezeWith, isFrozen, absent] at froze
  | none =>
      simp only [freezeWith, isFrozen, absent, Option.isSome_none, Bool.false_eq_true,
        ↓reduceIte] at froze
      split at froze
      · cases froze
      · split at froze
        · cases froze
        · rename_i id generated middle resolved
          split at froze
          · cases froze
          · rename_i nodes final found
            obtain ⟨written, rfl⟩ := Prod.ext_iff.mp froze
            exact ⟨id, generated, nodes, middle, rfl, resolved, found, written⟩

/-- A transaction that is frozen has the id it was given or one that the client made. -/
theorem freezeWith_frozen (froze : transaction.freezeWith client world = (.ok next, after)) :
    ∃ id frozen, transaction.frozen = none ∧ next.id = some id ∧ next.frozen = some frozen ∧
      next.payload = transaction.payload ∧ next.execution = transaction.execution ∧
      FrozenUnder transaction.payload id frozen ∧
      ((transaction.id = some id ∧ next.generated = transaction.generated) ∨
        (transaction.id = none ∧ next.generated = true)) := by
  obtain ⟨id, generated, nodes, middle, unfrozen, resolved, -, written⟩ := freezeWith_resolved froze
  obtain ⟨frozen, rfl, under⟩ := freezeAs_frozen written
  exact ⟨id, frozen, unfrozen, rfl, rfl, rfl, rfl, under, resolveId_provenance resolved⟩

/-- A fresh id changes the bodies and nothing else. -/
structure Regenerated (transaction next : Transaction) (before frozen : Frozen)
    (id : TransactionId) : Prop where
  was : transaction.frozen = some before
  now : next = { transaction with id := some id, frozen := some frozen }
  nodes : frozen.nodes = before.nodes
  chunking : frozen.chunking = before.chunking
  under : FrozenUnder transaction.payload id frozen

theorem regenerate_regenerated (regenerated : transaction.regenerate world = (.ok next, after)) :
    ∃ before frozen id, Regenerated transaction next before frozen id := by
  simp only [regenerate] at regenerated
  split at regenerated
  · rename_i before root was named
    split at regenerated
    · cases regenerated
    · split at regenerated
      · cases regenerated
      · rename_i chunks planned
        cases regenerated
        obtain ⟨whole, serve⟩ := BodyPlan.chunks_serve planned
        let rewritten : Frozen := { before with chunks }
        have under : FrozenUnder transaction.payload (world.generateId root.payer).1 rewritten :=
          ⟨serve, whole⟩
        have nodes : (transaction.signers.foldl Frozen.signWith rewritten).nodes = before.nodes :=
          Frozen.signWith_all (P := fun frozen => frozen.nodes = before.nodes)
            (fun _ _ same => same) _ rfl
        have chunking :
            (transaction.signers.foldl Frozen.signWith rewritten).chunking = before.chunking :=
          Frozen.signWith_all (P := fun frozen => frozen.chunking = before.chunking)
            (fun _ _ same => same) _ rfl
        exact ⟨before, _, _, was, rfl, nodes, chunking, under.signed transaction.signers⟩
  · cases regenerated

end LedgerClient.Transaction
