import LedgerClient.Message.Query
import LedgerClient.Proofs.Transaction.Sending

/-!
The transactions that there can be: those that come from the operations of the client, in any order,
and those that they become while they are sent. Each is in order, whatever was done to it.
-/

namespace LedgerClient.Transaction

/-- A transaction that can come about, with the id that the caller chose for it or that it was
imported with. Without such an id, the client makes one when it freezes the transaction, and it may
make another while it sends it. -/
inductive Obtainable : Option TransactionId → Transaction → Prop
  | ofPayload (payload : Payload) : Obtainable none (ofPayload payload)
  | ofBytes {kind : Option TransactionKind} {bytes : Bytes} {transaction : Transaction}
      (read : ofBytes kind bytes = .ok transaction) : Obtainable transaction.id transaction
  | setId {chosen : Option TransactionId} {transaction next : Transaction} {id : TransactionId}
      (held : Obtainable chosen transaction) (set : transaction.setId id = .ok next) :
      Obtainable (some id) next
  | setNodes {chosen : Option TransactionId} {transaction next : Transaction}
      {nodes : List AccountId} (held : Obtainable chosen transaction)
      (set : transaction.setNodes nodes = .ok next) : Obtainable chosen next
  | setMaxFee {chosen : Option TransactionId} {transaction next : Transaction} {maxFee : UInt64}
      (held : Obtainable chosen transaction) (set : transaction.setMaxFee maxFee = .ok next) :
      Obtainable chosen next
  | setValidDuration {chosen : Option TransactionId} {transaction next : Transaction}
      {validDuration : Duration} (held : Obtainable chosen transaction)
      (set : transaction.setValidDuration validDuration = .ok next) : Obtainable chosen next
  | setMemo {chosen : Option TransactionId} {transaction next : Transaction} {memo : String}
      (held : Obtainable chosen transaction) (set : transaction.setMemo memo = .ok next) :
      Obtainable chosen next
  | setChunking {chosen : Option TransactionId} {transaction next : Transaction}
      {chunking : ChunkingConfig} (held : Obtainable chosen transaction)
      (set : transaction.setChunking chunking = .ok next) : Obtainable chosen next
  | setExecution {chosen : Option TransactionId} {transaction : Transaction}
      (held : Obtainable chosen transaction) (execution : ExecutionConfig) :
      Obtainable chosen (transaction.setExecution execution)
  | schedule {chosen : Option TransactionId} {transaction next : Transaction}
      (held : Obtainable chosen transaction) (scheduled : transaction.schedule = .ok next) :
      Obtainable none next
  | freezeWith {chosen : Option TransactionId} {transaction next : Transaction}
      {client : Option Client} {world after : World} (held : Obtainable chosen transaction)
      (froze : transaction.freezeWith client world = (.ok next, after)) : Obtainable chosen next
  | signWith {chosen : Option TransactionId} {transaction next : Transaction} {signer : Signer}
      (held : Obtainable chosen transaction) (signed : transaction.signWith signer = .ok next) :
      Obtainable chosen next
  | addSignature {chosen : Option TransactionId} {transaction next : Transaction} {chunk : Nat}
      {node : AccountId} {pair : SignaturePair} (held : Obtainable chosen transaction)
      (signed : transaction.addSignature chunk node pair = .ok next) : Obtainable chosen next
  | close {chosen : Option TransactionId} {transaction next : Transaction}
      (held : Obtainable chosen transaction) (closed : transaction.close = .ok next) :
      Obtainable chosen next
  | regenerate {chosen : Option TransactionId} {transaction next : Transaction}
      {world after : World} (held : Obtainable chosen transaction)
      (generated : transaction.generated = true)
      (regenerated : transaction.regenerate world = (.ok next, after)) : Obtainable chosen next

variable {chosen : Option TransactionId} {transaction next : Transaction}

theorem sound_of_unfrozen_update {changed : Transaction} (sound : transaction.Sound chosen)
    (set : (if transaction.isFrozen then Except.error Error.alreadyFrozen else .ok changed) =
      .ok next)
    (id : changed.id = transaction.id) (generated : changed.generated = transaction.generated)
    (frozen : changed.frozen = transaction.frozen)
    (payload : changed.payload = transaction.payload) :
    next.Sound chosen := by
  split at set
  · cases set
  · cases set
    exact sound.ofSame id generated frozen payload

theorem Obtainable.sound (obtainable : Obtainable chosen transaction) :
    transaction.Sound chosen := by
  induction obtainable with
  | ofPayload payload => exact sound_ofPayload payload
  | ofBytes read => exact sound_ofBytes read
  | setId held set _ => exact Sound.setId _ set
  | setNodes held set ih => exact sound_of_unfrozen_update ih set rfl rfl rfl rfl
  | setMaxFee held set ih => exact sound_of_unfrozen_update ih set rfl rfl rfl rfl
  | setValidDuration held set ih => exact sound_of_unfrozen_update ih set rfl rfl rfl rfl
  | setMemo held set ih => exact sound_of_unfrozen_update ih set rfl rfl rfl rfl
  | setChunking held set ih => exact sound_of_unfrozen_update ih set rfl rfl rfl rfl
  | setExecution held execution ih => exact ih.ofSame rfl rfl rfl rfl
  | schedule held scheduled _ => exact Sound.schedule scheduled
  | freezeWith held froze ih => exact ih.freezeWith froze
  | signWith held signed ih => exact ih.signWith signed
  | addSignature held signed ih => exact ih.addSignature signed
  | close held closed ih => exact ih.close closed
  | regenerate held generated regenerated ih => exact ih.regenerate generated regenerated

theorem Obtainable.signWithOperator {client : Client} (obtainable : Obtainable chosen transaction)
    (signed : transaction.signWithOperator client = .ok next) : Obtainable chosen next := by
  simp only [Transaction.signWithOperator] at signed
  split at signed
  · split at signed
    · exact .signWith obtainable signed
    · cases signed
      exact obtainable
  · cases signed
    exact obtainable

theorem Obtainable.submissions {made : List Submission} {final : Transaction}
    (obtainable : Obtainable chosen transaction)
    (submissions : Submissions transaction made final) :
    (∀ submission ∈ made, Obtainable chosen submission.state) ∧ Obtainable chosen final :=
  submissions.preserves (fun held generated regenerated => .regenerate held generated regenerated)
    obtainable

theorem Obtainable.readied {client : Client} {ready : Transaction}
    (obtainable : Obtainable chosen transaction) (readied : Readied client transaction ready) :
    Obtainable chosen ready := by
  cases readied with
  | unfrozen _ => exact obtainable
  | countersigned _ signed _ => exact obtainable.signWithOperator signed
  | froze _ froze signed _ => exact (Obtainable.freezeWith obtainable froze).signWithOperator signed

/-- A transaction that was sent can be sent again, whatever the nodes replied. -/
theorem Obtainable.executeAll (obtainable : Obtainable chosen transaction) (client : Client)
    (world : World) : Obtainable chosen (transaction.executeAll client world).state := by
  obtain ⟨ready, made, readied, sent⟩ := executeAll_sent transaction client world
  exact ((obtainable.readied readied).submissions sent.submissions).2

end LedgerClient.Transaction

/-! ## A transaction of two chunks and a network of one node -/

namespace LedgerClient.Sample

def node : AccountId := EntityId.ofNumbers 0 0 3

def topic : TopicId := EntityId.ofNumbers 0 0 9

/-- A signer that puts the same bytes on every body. -/
def operator : Operator where
  account := EntityId.ofNumbers 0 0 1001
  signer :=
    { key := { bytes := List.replicate 32 0, length_bytes := rfl }
      sign := fun _ => { bytes := List.replicate 64 0, length_bytes := rfl } }

/-- Expired ids are replaced, and there is no time limit. -/
def config : ExecutionConfig :=
  { ExecutionConfig.standard with requestTimeout := none, regenerates := true }

def client : Client :=
  { Client.standard with
    operator := some operator
    execution := config
    chunking := { ChunkingConfig.standard with chunkSize := 1, chunkSize_pos := by decide }
    validatesChecksums := false }

def network : Network where
  ledger := .testnet
  nodes :=
    [{ account := node
       address :=
        { scheme := "http", user := "", password := none, host := none, port := none
          path := .segments [], query := none, fragment := none }
       health := Health.make Duration.zero Duration.zero }]
  cursor := 0

/-- Fresh ids are a second apart. -/
def world (replies : List Reply) : World where
  now := Instant.start
  network := network
  replies := replies
  exhausted := .silent
  calls := []
  ids := { moments := fun used => { seconds := UInt64.ofNat (1000 + used), nanos := 0 }
           draws := fun _ => 0, used := 0 }

/-- The answer of a node that gives this status. -/
def answer (status : Status) : Reply :=
  .answered (Wire.encode ({ precheck := status, cost := 0 } : SubmitResponse))

/-- The answer of a node that has a receipt with this status. -/
def receipt (status : Status) : Reply :=
  .answered (Wire.encode
    ({ precheck := .ok, cost := 0
       answer := some (.receipt
        { status, account := none, file := none, topic := none, schedule := none
          topicSequenceNumber := 0, scheduledTransactionId := none }) } : QueryResponse))

def message : Transaction :=
  .ofPayload (.topicMessageSubmit topic [1, 2])

def frozen : Transaction :=
  (message.freezeWith (some client) (world [])).1.toOption.getD message

theorem message_obtainable : message.Obtainable none :=
  .ofPayload (.topicMessageSubmit topic [1, 2])

theorem frozen_obtainable : frozen.Obtainable none := by
  have froze : message.freezeWith (some client) (world []) =
      (.ok frozen, (message.freezeWith (some client) (world [])).2) := rfl
  exact .freezeWith message_obtainable froze

theorem frozen_isFrozen : frozen.isFrozen = true := by decide +kernel

theorem frozen_chunkCount : frozen.chunkCount = 2 := by decide +kernel

end LedgerClient.Sample
