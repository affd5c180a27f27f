import LedgerClient.Proofs.Transaction.Endorsing
import LedgerClient.Proofs.Transaction.Planned
import LedgerClient.Proofs.Wire.Refused

/-!
Whether others can read what is frozen. Freezing looks at the size of the bodies and at the number
of chunks, but not at the other limits of the wire, and signing looks at none of them. So what is
frozen, handed on and sent can be read exactly if the transaction was within those limits to begin
with and has not been signed too often.
-/

namespace LedgerClient

open Limits

namespace SignedTransaction

variable {signed : SignedTransaction} {body : TransactionBody}

/-- A receiver reads the signed body from its encoding, and in it the body that was meant. -/
structure Conveys (signed : SignedTransaction) (body : TransactionBody) : Prop where
  carried : Wire.decode (Wire.encode signed) = .ok signed
  meant : signed.readBody = .ok body.bare

theorem within_of_written (written : signed.body = Wire.encode body) (within : Within body)
    (few : Several 0 mostSignatures signed.signatures) : Within signed := by
  refine ⟨?_, few⟩
  rw [written]
  exact TransactionBody.length_le within

/-- The signatures and the body each have limits of their own. -/
theorem conveys_iff (written : signed.body = Wire.encode body) :
    signed.Conveys body ↔ Within body ∧ Several 0 mostSignatures signed.signatures := by
  constructor
  · rintro ⟨carried, read⟩
    rw [readBody, written] at read
    have within : Within signed := Wire.decode_encode_iff.mp ⟨signed, carried⟩
    exact ⟨TransactionBody.decode_encode_iff.mp ⟨body.bare, read⟩, within.2⟩
  · rintro ⟨within, few⟩
    constructor
    · exact Wire.decode_encode (within_of_written written within few)
    · rw [readBody, written]
      exact Wire.decode_encode within

end SignedTransaction

/-- No body has more signatures than can be read. -/
def Frozen.FewSignatures (frozen : Frozen) : Prop :=
  ∀ signed ∈ frozen.bodies, Several 0 SignedTransaction.mostSignatures signed.signatures

namespace Transaction

variable {transaction : Transaction} {plan : BodyPlan} {frozen : Frozen}

/-- Others can read all that the transaction holds: every body with its signatures, and the list in
which it is handed on. -/
structure Readable (transaction : Transaction) (frozen : Frozen) (plan : BodyPlan) : Prop where
  bodies : ∀ (index place : Nat) (chunk : FrozenChunk) (signed : SignedTransaction),
    frozen.chunks[index]? = some chunk → chunk.signed[place]? = some signed →
      ∃ node, plan.nodes[place]? = some node ∧ signed.Conveys (plan.body index node)
  list : ∃ bytes, transaction.toBytes = .ok bytes ∧
    ∃ list, Wire.decode bytes = .ok (list : TransactionList)

theorem list_within (grows : plan.unsigned.Grows frozen) (listed : plan.nodes ≠ [])
    (fits : plan.Fits) (few : frozen.FewSignatures) : Within (transaction.listOf frozen) := by
  constructor
  · simp only [listOf, List.length_map, BodyPlan.grown_length grows]
    exact ⟨plan.total_pos, fits.chunks⟩
  · intro signedBodies member
    obtain ⟨chunk, inChunks, rfl⟩ := List.mem_map.mp member
    obtain ⟨index, found⟩ := List.mem_iff_getElem?.mp inChunks
    obtain ⟨inside, grown⟩ := BodyPlan.grown_chunk grows found
    constructor
    · rw [BodyPlan.grown_nodes grown]
      exact ⟨List.length_pos_iff.mpr listed, fits.nodes⟩
    · intro signed held
      obtain ⟨place, inPlace⟩ := List.mem_iff_getElem?.mp held
      obtain ⟨node, -, written⟩ := BodyPlan.grown_body grown inPlace
      have fewHere := few signed (List.mem_flatMap.mpr ⟨chunk, inChunks, held⟩)
      exact SignedTransaction.within_of_written written (fits.body inside node) fewHere

theorem readable_of_fits (stored : transaction.frozen = some frozen)
    (grows : plan.unsigned.Grows frozen) (listed : plan.nodes ≠ []) (fits : plan.Fits)
    (few : frozen.FewSignatures) : transaction.Readable frozen plan where
  bodies index place chunk signed inChunks inPlace := by
    obtain ⟨inside, grown⟩ := BodyPlan.grown_chunk grows inChunks
    obtain ⟨node, named, written⟩ := BodyPlan.grown_body grown inPlace
    have held : signed ∈ frozen.bodies := List.mem_flatMap.mpr
      ⟨chunk, List.mem_of_getElem? inChunks, List.mem_of_getElem? inPlace⟩
    exact ⟨node, named,
      (SignedTransaction.conveys_iff written).mpr ⟨fits.body inside node, few signed held⟩⟩
  list := ⟨_, toBytes_eq stored, _, Wire.decode_encode (list_within grows listed fits few)⟩

theorem Readable.fits (readable : transaction.Readable frozen plan)
    (stored : transaction.frozen = some frozen) (grows : plan.unsigned.Grows frozen) :
    plan.Fits ∧ frozen.FewSignatures := by
  obtain ⟨bytes, made, list, decoded⟩ := readable.list
  rw [toBytes_eq stored] at made
  cases made
  have within : Within (transaction.listOf frozen) := Wire.decode_encode_iff.mp ⟨list, decoded⟩
  constructor
  · refine fits_of_list grows within ?_
    intro index place chunk signed node inChunks inPlace named written
    obtain ⟨meant, namedMeant, conveys⟩ := readable.bodies index place chunk signed inChunks inPlace
    rw [named] at namedMeant
    cases namedMeant
    exact ((SignedTransaction.conveys_iff written).mp conveys).1
  · intro signed member
    obtain ⟨chunk, inChunks, held⟩ := List.mem_flatMap.mp member
    have inChunk : Within signed :=
      (within.2 chunk.signed (List.mem_map_of_mem inChunks)).2 signed held
    exact inChunk.2

/-! ## What is sent -/

/-- The request is a body of the transaction with its signatures, perhaps under a fresh id, and can
be read as such exactly if they are within the limits. -/
def SendsWithin (transaction : Transaction) (frozen : Frozen) (call : Call) : Prop :=
  ∃ (root : TransactionId) (index : Nat) (node : AccountId) (signed : SignedTransaction)
    (body : TransactionBody), body = (transaction.planOf frozen root).body index node ∧
      call.request = Wire.encode signed ∧ signed.body = Wire.encode body ∧
      (signed.Conveys body ↔
        Within body ∧ Several 0 SignedTransaction.mostSignatures signed.signatures)

theorem Maintains.sendsWithin {submission : Submission}
    (maintains : transaction.Maintains submission.state) (faithful : submission.Faithful)
    (stored : transaction.frozen = some frozen) :
    transaction.SendsWithin frozen submission.call := by
  obtain ⟨signed, requested, request⟩ := faithful.stored
  obtain ⟨now, storedNow, -⟩ := maintains.upholds.frozen frozen stored
  obtain ⟨root, node, -, written⟩ := maintains.written.requestFor storedNow requested
  have plan := maintains.upholds.planOf stored storedNow root
  have same : signed.body = Wire.encode
      ((transaction.planOf frozen root).body submission.chunk node) := by
    rw [← plan]
    exact written
  exact ⟨root, submission.chunk, node, signed, _, rfl, request, same,
    SignedTransaction.conveys_iff same⟩

theorem executeAll_sendsWithin (stored : transaction.frozen = some frozen)
    (written : transaction.Written) (client : Client) (world : World) :
    ∃ made, world.Exchanged made (transaction.executeAll client world).world ∧
      ∀ exchange ∈ made, transaction.SendsWithin frozen exchange.call := by
  have isFrozen : transaction.isFrozen = true := by simp [Transaction.isFrozen, stored]
  have prepares := executeAll_prepares transaction client world
  generalize transaction.executeAll client world = sent at prepares
  cases prepares with
  | unfrozen _ quiet => exact ⟨[], quiet, by simp⟩
  | @ready ready middle readied frozen quiet =>
      obtain ⟨made, sent⟩ := submitChunks_sent (transaction.executionFor client) ready middle 0
        ready.chunkCount
      have steps : Steps (fun _ => True) transaction ready := readied.steps fun _ _ => trivial
      have initial : transaction.Maintains transaction := ⟨.refl transaction, written⟩
      have states := (sent.submissions.preserves
        (fun maintains _ regenerated => maintains.rewrote (regenerate_rewrote regenerated))
        (steps.preserves (Maintains.step isFrozen) initial)).1
      refine ⟨_, quiet.afterQuiet sent.exchanged, ?_⟩
      rw [List.forall_mem_map]
      intro submission member
      exact (states submission member).sendsWithin
        (sent.submissions.faithful submission member) stored

/-! ## Both together -/

/-- What others can read of a frozen transaction, and of what is sent for it. -/
structure ReadableWithin (transaction : Transaction) (root : TransactionId) (frozen : Frozen) :
    Prop where
  held : transaction.Readable frozen (transaction.planOf frozen root) ↔
    (transaction.planOf frozen root).Fits ∧ frozen.FewSignatures
  sent : ∀ (client : Client) (world : World),
    ∃ made, world.Exchanged made (transaction.executeAll client world).world ∧
      ∀ exchange ∈ made, transaction.SendsWithin frozen exchange.call

variable {next : Transaction} {client : Option Client} {world after : World}

/-- What freezing accepts can be read under these conditions and no others, whatever is done to it
then. -/
theorem freezeWith_readableWithin
    (froze : transaction.freezeWith client world = (.ok next, after))
    (operations : List Operation) :
    ∃ root frozen, (next.run operations).id = some root ∧
      (next.run operations).frozen = some frozen ∧
      (next.run operations).ReadableWithin root frozen := by
  obtain ⟨held, storedFirst, listed⟩ := freezeWith_nodes froze
  have isFrozen : next.isFrozen = true := by simp [Transaction.isFrozen, storedFirst]
  obtain ⟨upholds, written⟩ :=
    run_maintains isFrozen (freezeWith_wrote froze).written operations
  obtain ⟨frozen, stored, nodes, -⟩ := upholds.frozen held storedFirst
  obtain ⟨root, named, grows⟩ := written frozen stored
  have stillListed : ((next.run operations).planOf frozen root).nodes ≠ [] := by
    change frozen.nodes ≠ []
    rwa [nodes]
  refine ⟨root, frozen, named, stored, ?held, ?sent⟩
  case held =>
    exact ⟨fun readable => readable.fits stored grows,
      fun fits => readable_of_fits stored grows stillListed fits.1 fits.2⟩
  case sent => exact executeAll_sendsWithin stored written

end Transaction

end LedgerClient

/-! ## A memo that is too long -/

namespace LedgerClient.Sample

open Transaction

theorem message_readableWithin :
    (message.freezeWith (some client) (world [])).1 = .ok frozen ∧
      ∃ root held, (frozen.run signing).id = some root ∧
        (frozen.run signing).frozen = some held ∧
        (frozen.run signing).ReadableWithin root held := by
  have froze : message.freezeWith (some client) (world []) =
      (.ok frozen, (message.freezeWith (some client) (world [])).2) := rfl
  exact ⟨congrArg Prod.fst froze, freezeWith_readableWithin froze signing⟩

def wordy : Transaction :=
  { message with memo := String.ofList (List.replicate 101 'm') }

def wordyFrozen : Transaction :=
  (wordy.freezeWith (some client) (world [])).1.toOption.getD wordy

/-- The message is frozen with a memo of one letter too many, and none of its bodies can be read. -/
theorem wordy_unreadable :
    (wordy.freezeWith (some client) (world [])).1 = .ok wordyFrozen ∧
      wordyFrozen.bodies.length = 2 ∧
      ∀ signed ∈ wordyFrozen.bodies, signed.readBody = .error (.invalid .bytesTooLong) := by
  refine ⟨eq_ok_of_isSome wordy ?_, ?_, ?_⟩ <;> decide +kernel

end LedgerClient.Sample
