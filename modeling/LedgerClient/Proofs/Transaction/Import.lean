import LedgerClient.Proofs.Transaction.Bodies
import LedgerClient.Proofs.Wire.Canonical
import LedgerClient.Transaction.Interchange

/-!
Transactions that come as bytes. The bodies are sent on as they came, so what they say has to be
read from the bytes themselves; since a body has only one encoding, the bytes are those of the body
that was read.
-/

namespace LedgerClient.Transaction

variable {kind : TransactionKind} {head first : TransactionBody} {nodes : List AccountId}
  {signed : List SignedTransaction}

theorem checkBodies_same {bodies : List TransactionBody}
    (checked : checkBodies kind head bodies = .ok ()) :
    ∀ body ∈ bodies, body.transactionId.same head.transactionId = true := by
  induction bodies with
  | nil => simp
  | cons body rest ih =>
      simp only [checkBodies] at checked
      split at checked
      · contradiction
      · split at checked
        · rename_i agree
          simp only [Bool.and_eq_true] at agree
          exact List.forall_mem_cons.mpr ⟨agree.1, ih checked⟩
        · contradiction

theorem readBody_written {signed : SignedTransaction} {body : TransactionBody}
    (read : signed.readBody.mapError Error.invalidData = .ok body) :
    signed.body = Wire.encode body := by
  cases decoded : signed.readBody with
  | error cause => simp [decoded, Except.mapError] at read
  | ok value =>
      simp only [decoded, Except.mapError, Except.ok.injEq] at read
      subst read
      exact (Wire.encode_decoded decoded).symm

theorem readChunk_isFor (read : readChunk kind signed = .ok (head, nodes)) :
    List.Forall₂ (fun signed node => signed.IsFor head.transactionId node) signed nodes := by
  obtain ⟨bodies, decoded, rest⟩ := bind_eq_ok.mp read
  have written := mapM_eq_ok decoded
  cases bodies with
  | nil => cases rest
  | cons body others =>
      obtain ⟨⟨⟩, checked, made⟩ := bind_eq_ok.mp rest
      cases made
      have agree := checkBodies_same checked
      refine List.forall₂_map_right_iff.mpr (List.forall₂_iff_get.mpr ⟨written.length_eq, ?_⟩)
      intro place inSigned inBodies
      refine ⟨_, readBody_written (written.get inSigned inBodies), ?_, EntityId.same_iff.mpr rfl⟩
      exact agree _ (List.get_mem _ _)

/-- Nodes may be written differently in different chunks, as long as they are the same. -/
theorem isFor_sameNodes {id : TransactionId} {others : List AccountId}
    (isFor : List.Forall₂ (fun signed node => signed.IsFor id node) signed others)
    (same : sameNodes nodes others = true) :
    List.Forall₂ (fun signed node => signed.IsFor id node) signed nodes := by
  simp only [sameNodes, decide_eq_true_eq] at same
  have lengths : nodes.length = others.length := by
    simpa using congrArg List.length same
  refine List.forall₂_iff_get.mpr ⟨isFor.length_eq.trans lengths.symm, ?_⟩
  intro place inSigned inNodes
  have inOthers : place < others.length := lengths ▸ inNodes
  obtain ⟨body, written, named, addressed⟩ := isFor.get inSigned inOthers
  have bare : nodes[place].bare = others[place].bare := by
    have entries := congrArg (fun accounts => accounts[place]?) same
    simpa [inNodes, inOthers] using entries
  exact ⟨body, written, named, EntityId.same_iff.mpr
    ((EntityId.same_iff.mp addressed).trans bare.symm)⟩

theorem readLaterChunks_serves {index : Nat} {chunks : List (List SignedTransaction)}
    {heads : List TransactionBody}
    (read : readLaterChunks kind first nodes index chunks = .ok heads) :
    ∀ (place : Nat) (signed : List SignedTransaction) (head : TransactionBody),
      chunks[place]? = some signed → heads[place]? = some head →
        ({ id := head.transactionId, signed } : FrozenChunk).Serves
          (chunkId first.transactionId (index + place)) nodes := by
  induction chunks generalizing index heads with
  | nil => simp
  | cons chunk rest ih =>
      obtain ⟨⟨chunkHead, chunkNodes⟩, readHead, afterHead⟩ := bind_eq_ok.mp read
      simp only at afterHead
      split at afterHead
      · contradiction
      · rename_i listed
        split at afterHead
        · contradiction
        · rename_i ordered
          obtain ⟨others, readOthers, made⟩ := bind_eq_ok.mp afterHead
          cases made
          intro place signed head found foundHead
          cases place with
          | zero =>
              cases found
              cases foundHead
              exact ⟨by simpa using ordered,
                isFor_sameNodes (readChunk_isFor readHead) (by simpa using listed)⟩
          | succ place =>
              have later := ih readOthers place signed head (by simpa using found)
                (by simpa using foundHead)
              rwa [Nat.add_right_comm, Nat.add_assoc] at later

/-- Whatever list a transaction is made of, its bodies belong together, and its id came with it. -/
theorem ofList_coherent {list : TransactionList} {transaction : Transaction}
    (read : ofList kind list = .ok transaction) :
    ∃ root frozen, transaction.id = some root ∧ transaction.frozen = some frozen ∧
      transaction.generated = false ∧ frozen.Coherent root := by
  simp only [ofList] at read
  split at read
  · contradiction
  · split at read
    · contradiction
    · rename_i signed rest chunks
      obtain ⟨⟨first, nodes⟩, readFirst, afterFirst⟩ := bind_eq_ok.mp read
      obtain ⟨heads, readRest, afterRest⟩ := bind_eq_ok.mp afterFirst
      obtain ⟨payload, -, made⟩ := bind_eq_ok.mp afterRest
      cases made
      refine ⟨_, _, rfl, rfl, rfl, ?_⟩
      intro index bodies found
      obtain ⟨stored, head, foundSigned, foundHead, rfl⟩ :=
        List.getElem?_zipWith_eq_some.mp found
      rw [chunks] at foundSigned
      cases index with
      | zero =>
          cases foundSigned
          cases foundHead
          exact ⟨TransactionId.same_refl _, readChunk_isFor readFirst⟩
      | succ place =>
          have later := readLaterChunks_serves readRest place stored head
            (by simpa using foundSigned) (by simpa using foundHead)
          rwa [Nat.add_comm 1 place] at later

theorem ofBytes_coherent {kind : Option TransactionKind} {bytes : Bytes} {transaction : Transaction}
    (read : ofBytes kind bytes = .ok transaction) :
    ∃ root frozen, transaction.id = some root ∧ transaction.frozen = some frozen ∧
      transaction.generated = false ∧ frozen.Coherent root := by
  obtain ⟨list, -, made⟩ := bind_eq_ok.mp read
  exact ofList_coherent made

end LedgerClient.Transaction
