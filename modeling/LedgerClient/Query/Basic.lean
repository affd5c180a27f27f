import LedgerClient.Message.Query
import LedgerClient.Transaction.Submit

/-!
Asking nodes. Some questions are free; for the others the operator pays the node that answers, with
a signed transfer that goes along with the question. Whichever nodes are tried, all payments for one
question have one id, so that at most one is ever taken.
-/

namespace LedgerClient

namespace QueryData

def method : QueryData → Method
  | receipt _ => { service := .crypto, name := "getTransactionReceipts" }
  | balance _ => { service := .crypto, name := "cryptoGetBalance" }
  | info _ => { service := .crypto, name := "getAccountInfo" }

def isPaid : QueryData → Bool
  | info _ => true
  | _ => false

def validateChecksums (ledger : LedgerId) : QueryData → Except ChecksumMismatch Unit
  | receipt id => id.payer.validateChecksum ledger
  | balance account => account.validateChecksum ledger
  | info account => account.validateChecksum ledger

def transactionId : QueryData → Option TransactionId
  | receipt id => some id
  | _ => none

/-- A refusal that only means that the answer is not there yet. -/
def retriesPrecheck (query : QueryData) (status : Status) : Bool :=
  match query, status with
  | receipt _, .unknown => true
  | receipt _, .receiptNotFound => true
  | _, _ => false

def isPending (query : QueryData) (answer : QueryAnswer) : Bool :=
  match query, answer with
  | receipt _, .receipt answer => answer.isPending
  | _, _ => false

theorem retriesPrecheck_iff {query : QueryData} {status : Status} :
    query.retriesPrecheck status = true ↔
      (∃ id, query = .receipt id) ∧ status ∈ [.unknown, .receiptNotFound] := by
  unfold retriesPrecheck
  split <;> simp_all

theorem isPending_iff {query : QueryData} {answer : QueryAnswer} :
    query.isPending answer = true ↔ (∃ id, query = .receipt id) ∧
      ∃ receipt, answer = .receipt receipt ∧
        receipt.status ∈ [.unknown, .busy, .receiptNotFound, .ok] := by
  unfold isPending
  split
  · simp [Receipt.isPending, Status.isPending_iff]
  · simp_all

/-- The answer, if it is of the kind that was asked for. -/
def matching (query : QueryData) (answer : QueryAnswer) : Option QueryAnswer :=
  match query, answer with
  | receipt _, .receipt _ => some answer
  | balance _, .balance _ => some answer
  | info _, .info _ => some answer
  | _, _ => none

end QueryData

namespace QueryAnswer

def receipt? : QueryAnswer → Option Receipt
  | receipt answer => some answer
  | _ => none

theorem bind_receipt?_eq_some {answer : Option QueryAnswer} {receipt : Receipt} :
    answer.bind receipt? = some receipt ↔ answer = some (.receipt receipt) := by
  cases answer with
  | none => simp
  | some answer => cases answer <;> simp [receipt?]

def balance? : QueryAnswer → Option AccountBalance
  | balance answer => some answer
  | _ => none

def info? : QueryAnswer → Option AccountInfo
  | info answer => some answer
  | _ => none

end QueryAnswer

structure Query where
  data : QueryData
  nodes : Option (List AccountId)
  paymentAmount : Option UInt64
  maxPayment : Option UInt64
  execution : Option ExecutionConfig

/-- What the operator pays for one question, with the payments that are made out already and the
nodes that they are for. -/
structure Payment where
  operator : Operator
  id : TransactionId
  amount : Int64
  maxFee : UInt64
  madeOut : List (AccountId × SignedTransaction)

namespace Payment

def defaultMaxFee : UInt64 := 100000000

def body (payment : Payment) (node : AccountId) : TransactionBody where
  transactionId := payment.id
  node := node
  maxFee := payment.maxFee
  validSeconds := 120
  memo := ""
  data := .transfer
    [{ account := payment.operator.account, amount := -payment.amount },
      { account := node, amount := payment.amount }]

def signedFor (payment : Payment) (node : AccountId) : SignedTransaction :=
  (SignedTransaction.ofBody (payment.body node)).signWith payment.operator.signer

/-- The payment to a node, if it is made out already. -/
def kept (payment : Payment) (node : AccountId) : Option SignedTransaction :=
  (payment.madeOut.find? (·.1.same node)).map Prod.snd

/-- A payment is made out when its node is first tried, and kept for when it is tried again. -/
def makeOut (payment : Payment) (node : AccountId) : SignedTransaction × Payment :=
  match payment.kept node with
  | some signed => (signed, payment)
  | none =>
      let signed := payment.signedFor node
      (signed, { payment with madeOut := payment.madeOut ++ [(node, signed)] })

end Payment

namespace Query

def ofData (data : QueryData) : Query where
  data := data
  nodes := none
  paymentAmount := none
  maxPayment := none
  execution := none

def executionFor (query : Query) (client : Client) : ExecutionConfig :=
  query.execution.getD client.execution

def costRequest (query : Query) : Request Unit QueryResponse UInt64 where
  method := query.data.method
  nodes _ := query.nodes
  id _ := query.data.transactionId
  encode _ _ := .ok (Wire.encode
    { header := { payment := none, responseType := .costAnswer }, data := query.data : QueryRequest })
  decode := Wire.decode
  status := QueryResponse.precheck
  outcome response mayRegenerate := Outcome.ofStatus response.precheck mayRegenerate
  mayRegenerate _ := false
  regenerate _ world := (.ok (), world)
  output _ response _ := .ok response.cost

/-- An answer that is not final is asked for again like a refusal that is not. -/
def answerOutcome (query : Query) (response : QueryResponse) (mayRegenerate : Bool) : Outcome :=
  if query.data.retriesPrecheck response.precheck then .pending
  else
    match Outcome.ofStatus response.precheck mayRegenerate with
    | .accepted =>
        match response.answer with
        | some answer => if query.data.isPending answer then .pending else .accepted
        | none => .accepted
    | outcome => outcome

/-- The node does not have the answer yet, or what it has is not final. Only receipts take time. -/
def Unsettled (query : Query) (response : QueryResponse) : Prop :=
  (∃ id, query.data = .receipt id) ∧
    (response.precheck ∈ [.unknown, .receiptNotFound] ∨
      response.precheck ∈ [.ok, .success] ∧
        ∃ receipt, response.answer = some (.receipt receipt) ∧
          receipt.status ∈ [.unknown, .busy, .receiptNotFound, .ok])

theorem Unsettled.answerOutcome_eq {query : Query} {response : QueryResponse}
    (unsettled : query.Unsettled response) (mayRegenerate : Bool) :
    query.answerOutcome response mayRegenerate = .pending := by
  obtain ⟨asks, early | ⟨through, receipt, given, undecided⟩⟩ := unsettled
  · have retries := QueryData.retriesPrecheck_iff.mpr ⟨asks, early⟩
    simp only [answerOutcome, if_pos retries]
  · have pending : query.data.isPending (.receipt receipt) = true :=
      QueryData.isPending_iff.mpr ⟨asks, receipt, rfl, undecided⟩
    have accepted : Outcome.ofStatus response.precheck mayRegenerate = .accepted :=
      (Outcome.Means.accepted through).ofStatus_eq
    simp only [answerOutcome, accepted, given, if_pos pending, ite_self]

theorem answerOutcome_of_settled {query : Query} {response : QueryResponse}
    (settled : ¬ query.Unsettled response) (mayRegenerate : Bool) :
    query.answerOutcome response mayRegenerate =
      Outcome.ofStatus response.precheck mayRegenerate := by
  have known : ¬ query.data.retriesPrecheck response.precheck = true := fun retries =>
    settled ((QueryData.retriesPrecheck_iff.mp retries).imp_right .inl)
  simp only [answerOutcome, if_neg known]
  cases outcome : Outcome.ofStatus response.precheck mayRegenerate with
  | accepted =>
      dsimp only
      split
      · rename_i answer given
        refine if_neg fun pending => ?_
        obtain ⟨asks, receipt, rfl, undecided⟩ := QueryData.isPending_iff.mp pending
        have through := Outcome.ofStatus_eq_accepted_iff.mp outcome
        exact settled ⟨asks, .inr ⟨by simpa using through, receipt, given, undecided⟩⟩
      · rfl
  | _ => rfl

/-- The question itself. `view` takes the kind of answer that was asked for. -/
def answerRequest {α : Type} (query : Query) (view : QueryAnswer → Option α) :
    Request (Option Payment) QueryResponse α where
  method := query.data.method
  nodes _ := query.nodes
  id payment := query.data.transactionId.or (payment.map Payment.id)
  prepare payment node := payment.map fun payment => (payment.makeOut node).2
  encode payment node := .ok (Wire.encode
    { header :=
        { payment := payment.map fun payment => (payment.makeOut node).1
          responseType := .answerOnly }
      data := query.data : QueryRequest })
  decode := Wire.decode
  status := QueryResponse.precheck
  outcome := query.answerOutcome
  mayRegenerate _ := false
  regenerate payment world := (.ok payment, world)
  output _ response _ :=
    match response.answer.bind view with
    | some answer => .ok answer
    | none => .error .unexpectedResponse

/-- What a node would charge. Asking for the price is free. -/
def cost (query : Query) (client : Client) (world : World) : Except Error UInt64 × World :=
  let finished := query.costRequest.execute (query.executionFor client) () world
  (finished.result, finished.world)

/-- The amount to pay: the one that was fixed, or the price if it is within the limit. -/
def amount (query : Query) (client : Client) (world : World) : Except Error UInt64 × World :=
  match query.paymentAmount with
  | some amount => (.ok amount, world)
  | none =>
      match query.cost client world with
      | (.error error, world) => (.error error, world)
      | (.ok cost, world) =>
          let most := query.maxPayment.getD client.maxQueryPayment
          if most < cost then
            (.error (.maxQueryPaymentExceeded cost.toNat most.toNat), world)
          else (.ok cost, world)

def mostAmount : Nat := Int64.maxValue.toInt.toNat

def payment (query : Query) (client : Client) (world : World) : Except Error Payment × World :=
  match client.operator with
  | none => (.error (.configuration .noOperator), world)
  | some operator =>
      match query.amount client world with
      | (.error error, world) => (.error error, world)
      | (.ok amount, world) =>
          if mostAmount < amount.toNat then
            (.error (.maxQueryPaymentExceeded amount.toNat mostAmount), world)
          else
            let (id, world) := world.generateId operator.account
            (.ok
              { operator, id, amount := Int64.ofNat amount.toNat
                maxFee := client.defaultMaxFee.getD Payment.defaultMaxFee, madeOut := [] }, world)

def execute {α : Type} (query : Query) (view : QueryAnswer → Option α) (client : Client)
    (world : World) : Except Error α × World :=
  let checked := if client.validatesChecksums then
      query.data.validateChecksums world.network.ledger
    else .ok ()
  match checked with
  | .error cause => (.error (.checksumMismatch cause), world)
  | .ok () =>
      let ask := fun (payment : Option Payment) (world : World) =>
        let finished :=
          (query.answerRequest view).execute (query.executionFor client) payment world
        (finished.result, finished.world)
      if query.data.isPaid then
        match query.payment client world with
        | (.error error, world) => (.error error, world)
        | (.ok payment, world) => ask (some payment) world
      else ask none world

end Query

/-! ## Receipts of accepted transactions -/

namespace TransactionResponse

/-- The receipt is asked of the node that accepted the transaction. -/
def receiptQuery (id : TransactionId) (node : AccountId) : Query :=
  { Query.ofData (.receipt id) with nodes := some [node] }

def queryReceipt (response : TransactionResponse) (client : Client) (world : World) :
    Except Error Receipt × World :=
  (receiptQuery response.id response.node).execute QueryAnswer.receipt? client world

/-- The final receipt. A transaction that was throttled at consensus is sent once more. -/
def receipt (response : TransactionResponse) (client : Client) (world : World) :
    Except Error Receipt × World :=
  match response.queryReceipt client world with
  | (.error error, world) => (.error error, world)
  | (.ok receipt, world) =>
      if receipt.status = .throttledAtConsensus then
        match Transaction.resubmit response client world with
        | (.error error, world) => (.error error, world)
        | (.ok again, world) =>
            match again.queryReceipt client world with
            | (.error error, world) => (.error error, world)
            | (.ok receipt, world) =>
                if receipt.status = .throttledAtConsensus then
                  (.error (.receiptThrottled again.id), world)
                else (.ok receipt, world)
      else (.ok receipt, world)

def successfulReceipt (response : TransactionResponse) (client : Client) (world : World) :
    Except Error Receipt × World :=
  match response.receipt client world with
  | (.error error, world) => (.error error, world)
  | (.ok receipt, world) =>
      if receipt.status = .success then (.ok receipt, world)
      else (.error (.receiptStatus receipt.status response.id), world)

end TransactionResponse

end LedgerClient
