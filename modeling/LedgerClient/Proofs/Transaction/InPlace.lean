import LedgerClient.Proofs.Transaction.Signatures

/-!
Operations as they change a transaction in place. A transaction is held by its owner, and an
operation reads it, asks the world, and writes one field or one body after the other; what was
written stays written if a later step fails. So a failed operation leaves the transaction alone only
because nothing can fail any more once the first write is made. What an operation comes to is what
its definition as a function says.
-/

namespace LedgerClient

/-! ## Writing bodies one by one -/

/-- Items that are changed at one place after the other. -/
theorem getElem?_foldl_modify {α : Type} (change : Nat → α → α) (items : List α)
    (count place : Nat) :
    ((List.range count).foldl (fun items index => items.modify index (change index))
        items)[place]? =
      if place < count then items[place]?.map (change place) else items[place]? := by
  induction count with
  | zero => simp
  | succ count ih =>
      rw [List.range_succ, List.foldl_append, List.foldl_cons, List.foldl_nil,
        List.getElem?_modify, ih]
      by_cases last : count = place
      · subst last
        simp
      · have same : place < count + 1 ↔ place < count := by omega
        simp [last, same]

theorem foldl_modify_eq_map {α : Type} (change : α → α) (items : List α) :
    (List.range items.length).foldl (fun items index => items.modify index change) items =
      items.map change := by
  apply List.ext_getElem?
  intro place
  rw [getElem?_foldl_modify fun _ => change, List.getElem?_map]
  split
  · rfl
  · rename_i beyond
    rw [List.getElem?_eq_none (by omega)]
    rfl

variable {change : SignedTransaction → SignedTransaction}

/-- Changes the bodies before a place, one after the other. -/
def FrozenChunk.changeFirst (change : SignedTransaction → SignedTransaction) (count : Nat)
    (bodies : FrozenChunk) : FrozenChunk :=
  { bodies with
    signed := (List.range count).foldl (fun signed place => signed.modify place change)
      bodies.signed }

theorem FrozenChunk.changeFirst_all (bodies : FrozenChunk) :
    bodies.changeFirst change bodies.signed.length =
      { bodies with signed := bodies.signed.map change } := by
  rw [changeFirst, foldl_modify_eq_map]

namespace Frozen

/-- Changes the body of a chunk at this place. -/
def changeBody (change : SignedTransaction → SignedTransaction) (frozen : Frozen) :
    Nat × Nat → Frozen
  | (chunk, place) =>
    { frozen with
      chunks := frozen.chunks.modify chunk fun bodies =>
        { bodies with signed := bodies.signed.modify place change } }

/-- How many bodies a chunk has, if there is such a chunk. -/
def bodyCount (frozen : Frozen) (chunk : Nat) : Nat :=
  frozen.chunks[chunk]?.elim 0 fun bodies => bodies.signed.length

/-- Where the bodies are, chunk by chunk. -/
def places (frozen : Frozen) : List (Nat × Nat) :=
  (List.range frozen.chunks.length).flatMap fun chunk =>
    (List.range (frozen.bodyCount chunk)).map (chunk, ·)

theorem changeBody_chunk (frozen : Frozen) (chunk count : Nat) :
    (List.range count).foldl (fun frozen place => frozen.changeBody change (chunk, place)) frozen =
      { frozen with
        chunks := frozen.chunks.modify chunk (FrozenChunk.changeFirst change count) } := by
  induction count with
  | zero => exact congrArg (fun chunks => { frozen with chunks }) (List.modify_id chunk _).symm
  | succ count ih =>
      rw [List.range_succ, List.foldl_append, ih]
      simp only [List.foldl_cons, List.foldl_nil, changeBody, List.modify_modify_eq]
      congr 2
      funext bodies
      simp only [FrozenChunk.changeFirst, List.range_succ, List.foldl_append, List.foldl_cons,
        List.foldl_nil, Function.comp_apply]

/-- Changing the bodies one by one changes the chunks one by one. -/
theorem changeBody_chunks (frozen : Frozen) :
    frozen.places.foldl (changeBody change) frozen =
      { frozen with
        chunks := (List.range frozen.chunks.length).foldl
          (fun chunks chunk =>
            chunks.modify chunk (FrozenChunk.changeFirst change (frozen.bodyCount chunk)))
          frozen.chunks } := by
  rw [places, List.foldl_flatMap]
  simp only [List.foldl_map, changeBody_chunk]
  generalize frozen.chunks.length = count
  induction count with
  | zero => rfl
  | succ count ih =>
      simp only [List.range_succ, List.foldl_append, List.foldl_cons, List.foldl_nil, ih]

/-- Changing all bodies one by one changes each of them once. -/
theorem changeBody_places (frozen : Frozen) :
    frozen.places.foldl (changeBody change) frozen =
      { frozen with
        chunks := frozen.chunks.map fun bodies =>
          { bodies with signed := bodies.signed.map change } } := by
  rw [changeBody_chunks]
  congr 1
  apply List.ext_getElem?
  intro chunk
  rw [getElem?_foldl_modify fun chunk => FrozenChunk.changeFirst change (frozen.bodyCount chunk),
    List.getElem?_map]
  cases stored : frozen.chunks[chunk]? with
  | none => simp
  | some bodies =>
      have inside : chunk < frozen.chunks.length := (List.getElem?_eq_some_iff.mp stored).1
      have whole : frozen.bodyCount chunk = bodies.signed.length := by simp [bodyCount, stored]
      simp only [inside, if_true, Option.map_some, whole, FrozenChunk.changeFirst_all]

end Frozen

/-! ## Procedures -/

/-- A transaction in the hands of its owner, and the world around. -/
structure Held where
  transaction : Transaction
  world : World

/-- What works on a transaction in place. A failure ends it, and undoes nothing. -/
abbrev InPlace (α : Type) : Type :=
  EStateM Error Held α

namespace InPlace

variable {α β : Type}

/-- Asks the world, with the transaction at hand. The world may change by that. -/
def consult (question : Transaction → World → Except Error α × World) : InPlace α := fun held =>
  match question held.transaction held.world with
  | (.ok answer, world) => .ok answer { held with world }
  | (.error error, world) => .error error { held with world }

/-- Reads off the transaction what may not be there. -/
def demand (question : Transaction → Except Error α) : InPlace α :=
  consult fun transaction world => (question transaction, world)

def inspect (view : Transaction → α) : InPlace α :=
  demand fun transaction => .ok (view transaction)

def assign (write : Transaction → Transaction) : InPlace Unit := fun held =>
  .ok () { held with transaction := write held.transaction }

def refuseIf (refused : Transaction → Bool) (error : Error) : InPlace Unit :=
  demand fun transaction => if refused transaction then .error error else .ok ()

/-- Goes on only if this holds. -/
def require (condition : Bool) (error : Error) : InPlace Unit :=
  demand fun _ => if condition then .ok () else .error error

/-! ## The operations, step by step -/

def requireUnfrozen : InPlace Unit :=
  refuseIf Transaction.isFrozen .alreadyFrozen

def requireFrozen : InPlace Frozen :=
  demand fun transaction =>
    match transaction.frozen with
    | none => .error .notFrozen
    | some frozen => .ok frozen

def requireUnsealed : InPlace Unit :=
  refuseIf Transaction.isSealed .isSealed

/-- A setting of a transaction that is not frozen. -/
def set (write : Transaction → Transaction) : InPlace Unit := do
  requireUnfrozen
  assign write

def setId (id : TransactionId) : InPlace Unit := do
  requireUnfrozen
  assign fun transaction => { transaction with id := some id }
  assign fun transaction => { transaction with generated := false }

def freeze (client : Option Client) : InPlace Unit := do
  requireUnfrozen
  consult fun transaction world => (transaction.checkChecksums client world, world)
  let (id, generated) ← consult fun transaction => transaction.resolveId client
  let nodes ← consult fun transaction => transaction.resolveNodes client
  let maxFee ← inspect fun transaction => transaction.resolveFee client
  let chunking ← inspect fun transaction => transaction.resolveChunking client
  let chunks ← demand fun transaction => (transaction.planFor id nodes maxFee chunking).chunks
  assign fun transaction => { transaction with id := some id }
  assign fun transaction => { transaction with generated }
  let signers ← inspect Transaction.signers
  let frozen := signers.foldl Frozen.signWith { nodes, maxFee, chunking, chunks }
  assign fun transaction => { transaction with frozen := some frozen }

/-- Changes the bodies where they are, one after the other. -/
def changeBodies (change : SignedTransaction → SignedTransaction) :
    List (Nat × Nat) → InPlace Unit
  | [] => pure ()
  | place :: rest => do
      assign fun transaction =>
        { transaction with frozen := transaction.frozen.map (·.changeBody change place) }
      changeBodies change rest

/-- The signer is remembered first, unless one of its key is already. -/
def sign (signer : Signer) : InPlace Unit := do
  requireUnsealed
  let frozen ← requireFrozen
  assign fun transaction =>
    if transaction.remembers signer.key then transaction
    else { transaction with signers := transaction.signers ++ [signer] }
  changeBodies (·.signWith signer) frozen.places

def addSignature (chunk : Nat) (node : AccountId) (pair : SignaturePair) : InPlace Unit := do
  requireUnsealed
  let frozen ← requireFrozen
  let place ← demand fun _ => (frozen.place? node).elim
    (.error (.configuration (.unknownNode node))) .ok
  let signed ← demand fun _ =>
    ((frozen.chunks[chunk]?).bind fun bodies => bodies.signed[place]?).elim
      (.error (.missingField "chunk")) .ok
  require (pair.verifies signed.body) .invalidSignature
  changeBodies (·.add pair) [(chunk, place)]

def close : InPlace Unit := do
  let _ ← requireFrozen
  assign fun transaction => { transaction with isSealed := true }

def regenerate : InPlace Unit := do
  let frozen ← requireFrozen
  let root ← demand fun transaction => transaction.id.elim (.error .notFrozen) .ok
  demand fun transaction =>
    match transaction.missingSigner? frozen with
    | some key => .error (.configuration (.signerUnavailable key))
    | none => .ok ()
  let id ← consult fun _ world =>
    let (id, world) := world.generateId root.payer
    (.ok id, world)
  let chunks ← demand fun transaction =>
    (transaction.planFor id frozen.nodes frozen.maxFee frozen.chunking).chunks
  let signers ← inspect Transaction.signers
  let refrozen := signers.foldl Frozen.signWith { frozen with chunks }
  assign fun transaction => { transaction with id := some id }
  assign fun transaction => { transaction with frozen := some refrozen }

/-! ## What a failure leaves behind -/

/-- The transaction stays as it is. -/
def Keeps (procedure : InPlace α) : Prop :=
  ∀ held, match procedure.run held with
    | .ok _ after | .error _ after => after.transaction = held.transaction

/-- There is no failure. -/
def Succeeds (procedure : InPlace α) : Prop :=
  ∀ held, ∃ answer after, procedure.run held = .ok answer after

/-- A failure leaves the transaction as it was. -/
def Atomic (procedure : InPlace α) : Prop :=
  ∀ held error after, procedure.run held = .error error after →
    after.transaction = held.transaction

variable {first : InPlace α} {next : α → InPlace β}

theorem Succeeds.atomic (succeeds : Succeeds first) : Atomic first := by
  intro held error after failed
  obtain ⟨answer, final, ended⟩ := succeeds held
  rw [ended] at failed
  cases failed

/-- Once everything was asked that may be refused, there is only writing left. -/
theorem Keeps.bind_atomic (keeps : Keeps first) (atomic : ∀ answer, Atomic (next answer)) :
    Atomic (first >>= next) := by
  intro held error after failed
  have same := keeps held
  rw [EStateM.run_bind] at failed
  cases ended : first.run held with
  | error other middle =>
      simp only [ended, EStateM.Result.error.injEq] at failed same
      rw [← failed.2]
      exact same
  | ok answer middle =>
      simp only [ended] at failed same
      exact (atomic answer middle error after failed).trans same

theorem Succeeds.bind (succeeds : Succeeds first) (rest : ∀ answer, Succeeds (next answer)) :
    Succeeds (first >>= next) := by
  intro held
  obtain ⟨answer, middle, ended⟩ := succeeds held
  obtain ⟨final, after, finished⟩ := rest answer middle
  exact ⟨final, after, by rw [EStateM.run_bind, ended]; exact finished⟩

theorem consult_keeps (question : Transaction → World → Except Error α × World) :
    Keeps (consult question) := by
  intro held
  simp only [EStateM.run, consult]
  split <;> rename_i ended <;> split at ended <;> cases ended <;> rfl

theorem demand_keeps (question : Transaction → Except Error α) : Keeps (demand question) :=
  consult_keeps _

theorem inspect_succeeds (view : Transaction → α) : Succeeds (inspect view) :=
  fun held => ⟨view held.transaction, held, rfl⟩

theorem assign_succeeds (write : Transaction → Transaction) : Succeeds (assign write) :=
  fun held => ⟨(), { held with transaction := write held.transaction }, rfl⟩

theorem refuseIf_keeps (refused : Transaction → Bool) (error : Error) :
    Keeps (refuseIf refused error) :=
  demand_keeps _

theorem requireUnfrozen_keeps : Keeps requireUnfrozen :=
  refuseIf_keeps _ _

theorem requireFrozen_keeps : Keeps requireFrozen :=
  demand_keeps _

theorem requireUnsealed_keeps : Keeps requireUnsealed :=
  refuseIf_keeps _ _

theorem changeBodies_succeeds (change : SignedTransaction → SignedTransaction)
    (places : List (Nat × Nat)) : Succeeds (changeBodies change places) := by
  induction places with
  | nil => exact fun held => ⟨(), held, rfl⟩
  | cons place rest ih => exact (assign_succeeds _).bind fun _ => ih

theorem set_atomic (write : Transaction → Transaction) : Atomic (set write) :=
  requireUnfrozen_keeps.bind_atomic fun _ => (assign_succeeds write).atomic

theorem setId_atomic (id : TransactionId) : Atomic (setId id) := by
  apply requireUnfrozen_keeps.bind_atomic
  intro _
  apply Succeeds.atomic
  exact (assign_succeeds _).bind fun _ => assign_succeeds _

theorem freeze_atomic (client : Option Client) : Atomic (freeze client) := by
  apply requireUnfrozen_keeps.bind_atomic
  intro _
  apply (consult_keeps _).bind_atomic
  intro _
  apply (consult_keeps _).bind_atomic
  rintro ⟨id, generated⟩
  apply (consult_keeps _).bind_atomic
  intro nodes
  apply (demand_keeps _).bind_atomic
  intro maxFee
  apply (demand_keeps _).bind_atomic
  intro chunking
  apply (demand_keeps _).bind_atomic
  intro chunks
  -- The bodies are written down: from here on nothing can be refused.
  apply Succeeds.atomic
  apply (assign_succeeds _).bind
  intro _
  apply (assign_succeeds _).bind
  intro _
  exact (inspect_succeeds _).bind fun signers => assign_succeeds _

theorem sign_atomic (signer : Signer) : Atomic (sign signer) := by
  apply requireUnsealed_keeps.bind_atomic
  intro _
  apply requireFrozen_keeps.bind_atomic
  intro frozen
  apply Succeeds.atomic
  exact (assign_succeeds _).bind fun _ => changeBodies_succeeds _ frozen.places

theorem addSignature_atomic (chunk : Nat) (node : AccountId) (pair : SignaturePair) :
    Atomic (addSignature chunk node pair) := by
  apply requireUnsealed_keeps.bind_atomic
  intro _
  apply requireFrozen_keeps.bind_atomic
  intro frozen
  apply (demand_keeps _).bind_atomic
  intro place
  apply (demand_keeps _).bind_atomic
  intro signed
  apply (demand_keeps _).bind_atomic
  intro _
  exact (changeBodies_succeeds _ [(chunk, place)]).atomic

theorem close_atomic : Atomic close :=
  requireFrozen_keeps.bind_atomic fun _ => (assign_succeeds _).atomic

theorem regenerate_atomic : Atomic regenerate := by
  apply requireFrozen_keeps.bind_atomic
  intro frozen
  apply (demand_keeps _).bind_atomic
  intro root
  apply (demand_keeps _).bind_atomic
  intro _
  apply (consult_keeps _).bind_atomic
  intro id
  apply (demand_keeps _).bind_atomic
  intro chunks
  apply Succeeds.atomic
  apply (inspect_succeeds _).bind
  intro signers
  exact (assign_succeeds _).bind fun _ => assign_succeeds _

/-! ## What the procedures come to -/

/-- The end of a procedure as the definitions of the operations have it: they give the changed
transaction back, or only the error. -/
def outcome : EStateM.Result Error Held Unit → Except Error Transaction × World
  | .ok _ held => (.ok held.transaction, held.world)
  | .error error held => (.error error, held.world)

section Outcome

variable {transaction : Transaction} {world : World} {rest : α → InPlace Unit}

theorem outcome_consult (question : Transaction → World → Except Error α × World) :
    outcome ((consult question >>= rest).run ⟨transaction, world⟩) =
      match question transaction world with
      | (.ok answer, after) => outcome ((rest answer).run ⟨transaction, after⟩)
      | (.error error, after) => (.error error, after) := by
  rw [EStateM.run_bind]
  simp only [EStateM.run, consult]
  split <;> rename_i asked <;> split at asked <;> cases asked <;> simp_all [outcome]

theorem outcome_demand (question : Transaction → Except Error α) :
    outcome ((demand question >>= rest).run ⟨transaction, world⟩) =
      match question transaction with
      | .ok answer => outcome ((rest answer).run ⟨transaction, world⟩)
      | .error error => (.error error, world) := by
  rw [demand, outcome_consult]
  cases question transaction <;> rfl

theorem outcome_refuseIf (refused : Transaction → Bool) (error : Error)
    (rest : Unit → InPlace Unit) :
    outcome ((refuseIf refused error >>= rest).run ⟨transaction, world⟩) =
      if refused transaction then (.error error, world)
      else outcome ((rest ()).run ⟨transaction, world⟩) := by
  rw [refuseIf, outcome_demand]
  cases refused transaction <;> rfl

theorem outcome_require (condition : Bool) (error : Error) (rest : Unit → InPlace Unit) :
    outcome ((require condition error >>= rest).run ⟨transaction, world⟩) =
      if condition then outcome ((rest ()).run ⟨transaction, world⟩)
      else (.error error, world) := by
  rw [require, outcome_demand]
  cases condition <;> rfl

theorem outcome_inspect (view : Transaction → α) :
    outcome ((inspect view >>= rest).run ⟨transaction, world⟩) =
      outcome ((rest (view transaction)).run ⟨transaction, world⟩) :=
  outcome_demand _

theorem outcome_assign (write : Transaction → Transaction) (rest : Unit → InPlace Unit) :
    outcome ((assign write >>= rest).run ⟨transaction, world⟩) =
      outcome ((rest ()).run ⟨write transaction, world⟩) := rfl

theorem outcome_last (write : Transaction → Transaction) :
    outcome ((assign write).run ⟨transaction, world⟩) = (.ok (write transaction), world) := rfl

theorem outcome_requireFrozen {rest : Frozen → InPlace Unit} :
    outcome ((requireFrozen >>= rest).run ⟨transaction, world⟩) =
      match transaction.frozen with
      | none => (.error .notFrozen, world)
      | some frozen => outcome ((rest frozen).run ⟨transaction, world⟩) := by
  rw [requireFrozen, outcome_demand]
  cases transaction.frozen <;> rfl

theorem set_outcome {write : Transaction → Transaction} :
    outcome ((set write).run ⟨transaction, world⟩) =
      (if transaction.isFrozen then .error .alreadyFrozen else .ok (write transaction), world) := by
  rw [set, requireUnfrozen, outcome_refuseIf, outcome_last]
  split <;> rfl

theorem setId_outcome {id : TransactionId} :
    outcome ((setId id).run ⟨transaction, world⟩) = (transaction.setId id, world) := by
  rw [setId, requireUnfrozen, outcome_refuseIf, Transaction.setId, outcome_assign, outcome_last]
  split <;> rfl

theorem freeze_outcome {client : Option Client} :
    outcome ((freeze client).run ⟨transaction, world⟩) = transaction.freezeWith client world := by
  rw [freeze, requireUnfrozen, outcome_refuseIf, Transaction.freezeWith]
  split
  · rfl
  · simp only [outcome_demand, outcome_consult, outcome_inspect, outcome_assign, outcome_last,
      Transaction.freezeAs]
    cases transaction.checkChecksums client world with
    | error error => rfl
    | ok checked =>
        simp only
        rcases transaction.resolveId client world with ⟨_ | ⟨id, generated⟩, asked⟩
        · rfl
        · simp only
          rcases transaction.resolveNodes client asked with ⟨_ | nodes, after⟩
          · rfl
          · simp only
            cases (transaction.planFor id nodes (transaction.resolveFee client)
              (transaction.resolveChunking client)).chunks <;> rfl

theorem changeBodies_outcome {change : SignedTransaction → SignedTransaction}
    {places : List (Nat × Nat)} :
    outcome ((changeBodies change places).run ⟨transaction, world⟩) =
      (.ok { transaction with
        frozen := transaction.frozen.map fun frozen =>
          places.foldl (Frozen.changeBody change) frozen }, world) := by
  induction places generalizing transaction with
  | nil => simp [changeBodies, outcome]
  | cons place rest ih =>
      rw [changeBodies, outcome_assign, ih]
      simp [Function.comp_def]

theorem sign_outcome {signer : Signer} :
    outcome ((sign signer).run ⟨transaction, world⟩) = (transaction.signWith signer, world) := by
  rw [sign, requireUnsealed, outcome_refuseIf, outcome_requireFrozen, Transaction.signWith]
  by_cases closed : transaction.isSealed
  · rw [if_pos closed, if_pos closed]
  · rw [if_neg closed, if_neg closed]
    cases stored : transaction.frozen with
    | none => rfl
    | some frozen =>
        simp only [outcome_assign, changeBodies_outcome]
        split
        · simp [stored, Frozen.changeBody_places, Frozen.signWith]
        · simp [stored, Frozen.changeBody_places, Frozen.signWith]

theorem close_outcome :
    outcome (close.run ⟨transaction, world⟩) = (transaction.close, world) := by
  rw [close, outcome_requireFrozen, Transaction.close, Transaction.isFrozen]
  cases stored : transaction.frozen with
  | none => simp
  | some frozen => simp [outcome_last, stored]

theorem addSignature_outcome {chunk : Nat} {node : AccountId} {pair : SignaturePair} :
    outcome ((addSignature chunk node pair).run ⟨transaction, world⟩) =
      (transaction.addSignature chunk node pair, world) := by
  rw [addSignature, requireUnsealed, outcome_refuseIf, outcome_requireFrozen,
    Transaction.addSignature]
  by_cases closed : transaction.isSealed
  · rw [if_pos closed, if_pos closed]
  · rw [if_neg closed, if_neg closed]
    cases stored : transaction.frozen with
    | none => rfl
    | some frozen =>
        simp only [outcome_demand, outcome_require, changeBodies_outcome]
        cases frozen.place? node with
        | none => rfl
        | some place =>
            simp only [Option.elim_some]
            cases inChunk : frozen.chunks[chunk]? with
            | none => rfl
            | some bodies =>
                simp only [Option.bind_some]
                cases inBodies : bodies.signed[place]? with
                | none => rfl
                | some signed =>
                    simp only [Option.elim_some]
                    by_cases verifies : pair.verifies signed.body
                    · simp [verifies, stored, Frozen.changeBody, List.modify_eq_set_getElem?,
                        inChunk, inBodies]
                    · simp [verifies]

theorem regenerate_outcome :
    outcome (regenerate.run ⟨transaction, world⟩) = transaction.regenerate world := by
  rw [regenerate, outcome_requireFrozen, Transaction.regenerate]
  cases transaction.frozen with
  | none => rfl
  | some frozen =>
      simp only [outcome_demand, outcome_consult, outcome_inspect, outcome_assign, outcome_last]
      cases transaction.id with
      | none => rfl
      | some root =>
          simp only [Option.elim_some]
          cases transaction.missingSigner? frozen with
          | some key => rfl
          | none =>
              simp only
              cases (transaction.planFor (world.generateId root.payer).1 frozen.nodes frozen.maxFee
                frozen.chunking).chunks <;> rfl

end Outcome

end InPlace

/-! ## Every change -/

/-- What a caller can do with a transaction that changes it. -/
inductive Change where
  | setId (id : TransactionId)
  | setNodes (nodes : List AccountId)
  | setMaxFee (maxFee : UInt64)
  | setValidDuration (validDuration : Duration)
  | setMemo (memo : String)
  | setChunking (chunking : ChunkingConfig)
  | setExecution (execution : ExecutionConfig)
  | freeze (client : Option Client)
  | sign (signer : Signer)
  | addSignature (chunk : Nat) (node : AccountId) (pair : SignaturePair)
  | close
  | regenerate

namespace Change

open InPlace in
def inPlace : Change → InPlace Unit
  | setId id => InPlace.setId id
  | setNodes nodes => set fun transaction => { transaction with nodes := some nodes }
  | setMaxFee maxFee => set fun transaction => { transaction with maxFee := some maxFee }
  | setValidDuration validDuration => set fun transaction => { transaction with validDuration }
  | setMemo memo => set fun transaction => { transaction with memo }
  | setChunking chunking => set fun transaction => { transaction with chunking := some chunking }
  | setExecution execution => assign fun transaction =>
      { transaction with execution := some execution }
  | freeze client => InPlace.freeze client
  | sign signer => InPlace.sign signer
  | addSignature chunk node pair => InPlace.addSignature chunk node pair
  | close => InPlace.close
  | regenerate => InPlace.regenerate

/-- What the definition of the operation says. -/
def result (transaction : Transaction) (world : World) :
    Change → Except Error Transaction × World
  | setId id => (transaction.setId id, world)
  | setNodes nodes => (transaction.setNodes nodes, world)
  | setMaxFee maxFee => (transaction.setMaxFee maxFee, world)
  | setValidDuration validDuration => (transaction.setValidDuration validDuration, world)
  | setMemo memo => (transaction.setMemo memo, world)
  | setChunking chunking => (transaction.setChunking chunking, world)
  | setExecution execution => (.ok (transaction.setExecution execution), world)
  | freeze client => transaction.freezeWith client world
  | sign signer => (transaction.signWith signer, world)
  | addSignature chunk node pair => (transaction.addSignature chunk node pair, world)
  | close => (transaction.close, world)
  | regenerate => transaction.regenerate world

theorem inPlace_atomic (change : Change) : change.inPlace.Atomic := by
  cases change with
  | setId id => exact InPlace.setId_atomic id
  | setNodes _ | setMaxFee _ | setValidDuration _ | setMemo _ | setChunking _ =>
      exact InPlace.set_atomic _
  | setExecution execution =>
      simp only [inPlace]
      exact (InPlace.assign_succeeds _).atomic
  | freeze client => exact InPlace.freeze_atomic client
  | sign signer => exact InPlace.sign_atomic signer
  | addSignature chunk node pair => exact InPlace.addSignature_atomic chunk node pair
  | close => exact InPlace.close_atomic
  | regenerate => exact InPlace.regenerate_atomic

theorem inPlace_outcome (change : Change) (transaction : Transaction) (world : World) :
    InPlace.outcome (change.inPlace.run ⟨transaction, world⟩) =
      change.result transaction world := by
  cases change with
  | setId id => exact InPlace.setId_outcome
  | setNodes _ | setMaxFee _ | setValidDuration _ | setMemo _ | setChunking _ =>
      exact InPlace.set_outcome
  | setExecution execution => rfl
  | freeze client => exact InPlace.freeze_outcome
  | sign signer => exact InPlace.sign_outcome
  | addSignature chunk node pair => exact InPlace.addSignature_outcome
  | close => exact InPlace.close_outcome
  | regenerate => exact InPlace.regenerate_outcome

/-- A change made in place ends as the definition of the operation says: with the transaction that it
makes and the same world after it, or with the same error. And if it fails, on whatever step, the
whole transaction is as it was. -/
theorem inPlace_unchanged_of_error (change : Change) (transaction : Transaction) (world : World) :
    match change.inPlace.run ⟨transaction, world⟩ with
    | .ok _ after => change.result transaction world = (.ok after.transaction, after.world)
    | .error error after =>
        change.result transaction world = (.error error, after.world) ∧
          after.transaction = transaction := by
  have outcome := change.inPlace_outcome transaction world
  cases ended : change.inPlace.run ⟨transaction, world⟩ with
  | ok _ after =>
      rw [ended] at outcome
      exact outcome.symm
  | error error after =>
      rw [ended] at outcome
      exact ⟨outcome.symm, change.inPlace_atomic _ error after ended⟩

end Change

end LedgerClient
