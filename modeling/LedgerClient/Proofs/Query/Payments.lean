import LedgerClient.Proofs.Requests

/-!
What the operator pays for a question. A payment is made out when its node is first tried, and is
kept for as long as the question is tried, so that a node that is tried again gets the same bytes.
Every payment names its own node, and all of them are for one amount and under one id.
-/

namespace LedgerClient

namespace Payment

variable {payment middle later : Payment} {node other : AccountId} {signed : SignedTransaction}

/-- A payment as it is later on: the same, and all that was made out by then is still kept. -/
structure GrowsTo (payment later : Payment) : Prop where
  operator : later.operator = payment.operator
  id : later.id = payment.id
  amount : later.amount = payment.amount
  kept : ∀ node signed, payment.kept node = some signed → later.kept node = some signed

theorem GrowsTo.refl (payment : Payment) : payment.GrowsTo payment :=
  ⟨rfl, rfl, rfl, fun _ _ kept => kept⟩

theorem GrowsTo.trans (first : payment.GrowsTo middle) (second : middle.GrowsTo later) :
    payment.GrowsTo later where
  operator := second.operator.trans first.operator
  id := second.id.trans first.id
  amount := second.amount.trans first.amount
  kept node signed kept := second.kept node signed (first.kept node signed kept)

theorem kept_same (same : node.same other = true) : payment.kept node = payment.kept other := by
  have alike : (fun entry : AccountId × SignedTransaction => entry.1.same node) =
      fun entry => entry.1.same other := by
    funext entry
    simp only [EntityId.same, EntityId.same_iff.mp same]
  rw [kept, kept, alike]

theorem makeOut_ofKept (kept : payment.kept node = some signed) :
    payment.makeOut node = (signed, payment) := by
  simp only [makeOut, kept]

theorem makeOut_ofNew (new : payment.kept node = none) :
    payment.makeOut node = (payment.signedFor node,
      { payment with madeOut := payment.madeOut ++ [(node, payment.signedFor node)] }) := by
  simp only [makeOut, new]

/-- What was made out for a node is kept. -/
theorem makeOut_kept (payment : Payment) (node : AccountId) :
    (payment.makeOut node).2.kept node = some (payment.makeOut node).1 := by
  cases before : payment.kept node with
  | some signed => rw [makeOut_ofKept before, before]
  | none =>
      have absent : payment.madeOut.find? (·.1.same node) = none := by
        simpa [kept] using before
      rw [makeOut_ofNew before]
      have named : node.same node = true := EntityId.same_refl _
      simp [kept, List.find?_append, absent, named]

theorem makeOut_growsTo (payment : Payment) (node : AccountId) :
    payment.GrowsTo (payment.makeOut node).2 := by
  cases before : payment.kept node with
  | some signed =>
      rw [makeOut_ofKept before]
      exact .refl payment
  | none =>
      rw [makeOut_ofNew before]
      refine ⟨rfl, rfl, rfl, ?_⟩
      intro other signed found
      obtain ⟨entry, listed, rfl⟩ := Option.map_eq_some_iff.mp found
      simp [kept, List.find?_append, listed]

/-- Whatever was made out is the payment for the node it is kept for. -/
def MadeOutRight (payment : Payment) : Prop :=
  ∀ entry ∈ payment.madeOut, entry.2 = payment.signedFor entry.1

theorem MadeOutRight.makeOut (right : payment.MadeOutRight) (node : AccountId) :
    (payment.makeOut node).2.MadeOutRight := by
  cases before : payment.kept node with
  | some signed => rwa [makeOut_ofKept before]
  | none =>
      rw [makeOut_ofNew before]
      intro entry member
      rcases List.mem_append.mp member with old | new
      · exact right entry old
      · obtain rfl := List.mem_singleton.mp new
        rfl

theorem MadeOutRight.kept (right : payment.MadeOutRight) (kept : payment.kept node = some signed) :
    ∃ listed, listed.same node = true ∧ signed = payment.signedFor listed := by
  obtain ⟨entry, found, rfl⟩ := Option.map_eq_some_iff.mp kept
  have matched : entry.1.same node = true := by simpa using List.find?_some found
  exact ⟨entry.1, matched, right entry (List.mem_of_find?_eq_some found)⟩

/-- The operator is the only one who signs a payment. -/
theorem signedFor_eq (payment : Payment) (node : AccountId) :
    payment.signedFor node =
      { body := Wire.encode (payment.body node)
        signatures := [payment.operator.signer.pair (Wire.encode (payment.body node))] } := by
  simp [signedFor, SignedTransaction.ofBody, SignedTransaction.signWith, SignedTransaction.add,
    SignedTransaction.isSignedBy]

end Payment

/-- The call asks for the answer and pays the node that it goes to: its payment is a transfer from
the operator to that node, of this amount and under this id, and the operator signed it. -/
structure Call.Pays (call : Call) (data : QueryData) (operator : Operator) (id : TransactionId)
    (amount : Int) (signed : SignedTransaction) (body : TransactionBody) : Prop where
  request : call.request = Wire.encode
    ({ header := { payment := some signed, responseType := .answerOnly }, data } : QueryRequest)
  written : signed.body = Wire.encode body
  named : body.transactionId = id
  addressed : body.node.same call.node = true
  transfers : ∃ spent earned : Int64,
    body.data = .transfer [{ account := operator.account, amount := spent },
      { account := body.node, amount := earned }] ∧
    spent.toInt = -amount ∧ earned.toInt = amount
  signatures : signed.signatures = [operator.signer.pair signed.body]

namespace Query

variable {α : Type} {query : Query} {view : QueryAnswer → Option α} {client : Client}
  {config : ExecutionConfig} {world : World} {payment : Payment}

/-- What is known of the payment when a node is asked: it began as `payment`, and what was made out
since is right. -/
def Paying (payment : Payment) (state : Option Payment) : Prop :=
  ∃ now, state = some now ∧ payment.GrowsTo now ∧ now.MadeOutRight

theorem Paying.prepare {state : Option Payment} (paying : Paying payment state)
    (node : AccountId) : Paying payment ((query.answerRequest view).prepare state node) := by
  obtain ⟨now, rfl, grows, right⟩ := paying
  exact ⟨(now.makeOut node).2, rfl, grows.trans (now.makeOut_growsTo node), right.makeOut node⟩

theorem toInt_neg_ofNonneg {amount : Int64} (nonneg : 0 ≤ amount.toInt) :
    (-amount).toInt = -amount.toInt := by
  have bound := amount.toInt_lt
  rw [Int64.toInt_neg, Int.bmod_eq_of_le_mul_two (by omega) (by omega)]

theorem body_pays (payment : Payment) (nonneg : 0 ≤ payment.amount.toInt) {call : Call}
    {listed : AccountId} (same : listed.same call.node = true)
    (request : call.request = Wire.encode
      ({ header := { payment := some (payment.signedFor listed), responseType := .answerOnly }
         data := query.data } : QueryRequest)) :
    call.Pays query.data payment.operator payment.id payment.amount.toInt
      (payment.signedFor listed) (payment.body listed) where
  request := request
  written := by rw [payment.signedFor_eq listed]
  named := rfl
  addressed := same
  transfers := ⟨-payment.amount, payment.amount, rfl, toInt_neg_ofNonneg nonneg, rfl⟩
  signatures := by rw [payment.signedFor_eq listed]

/-- Every try sends the payment that is kept for its node. -/
theorem tries_kept {made : List (Try (Option Payment))} {final : Option Payment}
    (new : payment.madeOut = [])
    (tries : (query.answerRequest view).Tries config (some payment) made final) :
    ∀ attempt ∈ made, ∃ now signed, attempt.state = some now ∧ payment.GrowsTo now ∧
      now.MadeOutRight ∧ now.kept attempt.call.node = some signed ∧
      attempt.call.request = Wire.encode
        ({ header := { payment := some signed, responseType := .answerOnly }
           data := query.data } : QueryRequest) := by
  have nothing : payment.MadeOutRight := by simp [Payment.MadeOutRight, new]
  have paying := (tries.preserves (P := Paying payment) (fun node known => known.prepare node)
    (fun known _ regenerated => by cases regenerated; exact known)
    ⟨payment, rfl, .refl payment, nothing⟩).1
  intro attempt member
  obtain ⟨now, state, grows, right⟩ := paying attempt member
  obtain ⟨before, prepared⟩ := tries.prepared attempt member
  obtain ⟨earlier, -, madeOut⟩ := Option.map_eq_some_iff.mp (prepared.symm.trans state)
  have kept := earlier.makeOut_kept attempt.call.node
  rw [madeOut] at kept
  refine ⟨now, _, state, grows, right, kept, ?_⟩
  have encoded := (tries.sends attempt member).2
  rw [state] at encoded
  simp only [answerRequest, Option.map_some, Payment.makeOut_ofKept kept,
    Except.ok.injEq] at encoded
  exact encoded.symm

/-- What the payment is at one of the tries, it still is in the end, with perhaps more made out. -/
theorem tries_grow {made : List (Try (Option Payment))} {final : Option Payment}
    (tries : (query.answerRequest view).Tries config (some payment) made final) :
    ∀ attempt ∈ made, ∀ now, attempt.state = some now →
      ∃ last, final = some last ∧ now.GrowsTo last := by
  refine tries.onward
    (R := fun earlier later => ∀ before, earlier = some before →
      ∃ after, later = some after ∧ before.GrowsTo after) ?_ ?_ ?_ ?_
  · intro state before known
    exact ⟨before, known, .refl before⟩
  · intro first second third earlier later before known
    obtain ⟨middle, reached, grows⟩ := earlier before known
    obtain ⟨after, ended, growsOn⟩ := later middle reached
    exact ⟨after, ended, grows.trans growsOn⟩
  · rintro state node before rfl
    exact ⟨_, rfl, before.makeOut_growsTo node⟩
  · intro state next world after regenerated before known
    cases regenerated
    exact ⟨before, known, .refl before⟩

/-- All of these calls pay the nodes they go to, each the same amount under the same id. -/
def PayEach (data : QueryData) (operator : Operator) (id : TransactionId) (amount : Int)
    (answers : List Exchange) : Prop :=
  ∀ exchange ∈ answers, ∃ signed body, exchange.call.Pays data operator id amount signed body

theorem tries_payEach {made : List (Try (Option Payment))} {final : Option Payment}
    (new : payment.madeOut = []) (nonneg : 0 ≤ payment.amount.toInt)
    (tries : (query.answerRequest view).Tries config (some payment) made final) :
    PayEach query.data payment.operator payment.id payment.amount.toInt
      (made.map Try.toExchange) := by
  intro exchange member
  obtain ⟨attempt, inside, rfl⟩ := List.mem_map.mp member
  obtain ⟨now, signed, -, grows, right, found, request⟩ := tries_kept new tries attempt inside
  obtain ⟨listed, same, rfl⟩ := right.kept found
  rw [← grows.operator, ← grows.id, ← grows.amount]
  exact ⟨_, _, body_pays now (grows.amount ▸ nonneg) same request⟩

/-- Whatever is asked for an answer pays the node it goes to, under one id and with one amount, and
what goes to the same node is the same. -/
structure PaidAlike (data : QueryData) (operator : Operator) (answers : List Exchange) : Prop where
  paid : ∃ id amount, 0 ≤ amount ∧ ∀ exchange ∈ answers, ∃ signed body,
    exchange.call.Pays data operator id amount signed body
  repeated : ∀ first ∈ answers, ∀ second ∈ answers,
    first.call.node.same second.call.node = true → first.call.request = second.call.request

theorem tries_paidAlike {made : List (Try (Option Payment))} {final : Option Payment}
    (new : payment.madeOut = []) (nonneg : 0 ≤ payment.amount.toInt)
    (tries : (query.answerRequest view).Tries config (some payment) made final) :
    PaidAlike query.data payment.operator (made.map Try.toExchange) := by
  have kept := tries_kept new tries
  constructor
  · exact ⟨payment.id, payment.amount.toInt, nonneg, tries_payEach new nonneg tries⟩
  · intro first inFirst second inSecond same
    obtain ⟨earlier, inside, rfl⟩ := List.mem_map.mp inFirst
    obtain ⟨later, insideLater, rfl⟩ := List.mem_map.mp inSecond
    obtain ⟨now, signed, state, -, -, found, request⟩ := kept earlier inside
    obtain ⟨nowLater, other, stateLater, -, -, foundLater, requestLater⟩ := kept later insideLater
    -- Both payments are still kept in the end, and for one node only one is.
    obtain ⟨last, ended, grows⟩ := tries_grow tries earlier inside now state
    obtain ⟨lastLater, endedLater, growsLater⟩ :=
      tries_grow tries later insideLater nowLater stateLater
    obtain rfl : last = lastLater := Option.some.inj (ended.symm.trans endedLater)
    have still := grows.kept _ signed found
    rw [Payment.kept_same same, growsLater.kept _ other foundLater] at still
    cases still
    rw [request, requestLater]

/-- The call asks what an answer would cost, and pays nothing. -/
def AsksCost (query : Query) (call : Call) : Prop :=
  call.request = Wire.encode
    ({ header := { payment := none, responseType := .costAnswer }
       data := query.data } : QueryRequest)

/-- The call asks the question itself, and pays nothing. -/
def AsksFreely (query : Query) (call : Call) : Prop :=
  call.request = Wire.encode
    ({ header := { payment := none, responseType := .answerOnly }
       data := query.data } : QueryRequest)

theorem tries_askCost {made : List (Try Unit)} {final : Unit}
    (tries : query.costRequest.Tries config () made final) :
    ∀ exchange ∈ made.map Try.toExchange, query.AsksCost exchange.call := by
  intro exchange member
  obtain ⟨attempt, inside, rfl⟩ := List.mem_map.mp member
  exact (Except.ok.inj (tries.sends attempt inside).2).symm

theorem tries_askFreely {made : List (Try (Option Payment))} {final : Option Payment}
    (tries : (query.answerRequest view).Tries config none made final) :
    ∀ exchange ∈ made.map Try.toExchange, query.AsksFreely exchange.call := by
  have unpaid := (tries.preserves (P := fun state => state = none)
    (fun _ unpaid => by rw [unpaid]; rfl)
    (fun unpaid _ regenerated => by cases regenerated; exact unpaid) rfl).1
  intro exchange member
  obtain ⟨attempt, inside, rfl⟩ := List.mem_map.mp member
  have encoded := (tries.sends attempt inside).2
  rw [unpaid attempt inside] at encoded
  exact (Except.ok.inj encoded).symm

theorem cost_exchanged (query : Query) (client : Client) (world : World) :
    ∃ made, world.Exchanged made (query.cost client world).2 ∧
      ∀ exchange ∈ made, query.AsksCost exchange.call := by
  obtain ⟨made, exchanged, tries⟩ := Request.execute_tries query.costRequest_lawful
    (query.executionFor client) () world
  exact ⟨_, exchanged, tries_askCost tries⟩

theorem amount_exchanged (query : Query) (client : Client) (world : World) :
    ∃ made, world.Exchanged made (query.amount client world).2 ∧
      ∀ exchange ∈ made, query.AsksCost exchange.call := by
  obtain ⟨made, exchanged, asks⟩ := query.cost_exchanged client world
  unfold amount
  cases query.paymentAmount with
  | some fixed => exact ⟨[], .refl world, by simp⟩
  | none =>
      generalize query.cost client world = answered at exchanged
      obtain ⟨outcome, after⟩ := answered
      refine ⟨made, ?_, asks⟩
      cases outcome with
      | error error => exact exchanged
      | ok cost =>
          dsimp only
          split <;> exact exchanged

theorem nonneg_amount {amount : UInt64} (within : ¬ mostAmount < amount.toNat) :
    0 ≤ (Int64.ofNat amount.toNat).toInt := by
  have most : mostAmount = 2 ^ 63 - 1 := by decide
  rw [Int64.toInt_ofNat_of_lt (by omega)]
  exact Int.natCast_nonneg _

/-- Before a question is paid for, at most its price is asked; nothing is made out yet. -/
theorem payment_exchanged (query : Query) (client : Client) (world : World) :
    ∃ made, world.Exchanged made (query.payment client world).2 ∧
      (∀ exchange ∈ made, query.AsksCost exchange.call) ∧
      ∀ payment, (query.payment client world).1 = .ok payment →
        client.operator = some payment.operator ∧ payment.madeOut = [] ∧
          0 ≤ payment.amount.toInt := by
  unfold Query.payment
  cases found : client.operator with
  | none => exact ⟨[], .refl world, by simp, by simp⟩
  | some operator =>
      obtain ⟨made, exchanged, asks⟩ := query.amount_exchanged client world
      dsimp only
      generalize query.amount client world = answered at exchanged
      obtain ⟨outcome, after⟩ := answered
      cases outcome with
      | error error => exact ⟨made, exchanged, asks, by simp⟩
      | ok amount =>
          dsimp only at exchanged ⊢
          split
          · exact ⟨made, exchanged, asks, by simp⟩
          · rename_i within
            refine ⟨made, exchanged.thenQuiet (World.exchanged_generateId after operator.account),
              asks, ?_⟩
            intro payment given
            cases given
            exact ⟨rfl, rfl, nonneg_amount within⟩

/-- Whatever the nodes reply, a question that has to be paid for is asked like this: perhaps its
price first, and then the question itself, each time with a payment for the node that it goes to. -/
theorem execute_paidAlike (paid : query.data.isPaid = true) (view : QueryAnswer → Option α)
    (client : Client) (world : World) :
    ∃ costs answers, world.Exchanged (costs ++ answers) (query.execute view client world).2 ∧
      (∀ exchange ∈ costs, query.AsksCost exchange.call) ∧
      (client.operator = none → answers = []) ∧
      ∀ operator, client.operator = some operator → PaidAlike query.data operator answers := by
  have unasked (operator : Operator) : PaidAlike query.data operator [] := by
    refine ⟨⟨(world.generateId operator.account).1, 0, Int.le_refl 0, ?_⟩, ?_⟩ <;> simp
  unfold execute
  dsimp only
  split
  · exact ⟨[], [], .refl world, by simp, fun _ => rfl, fun operator _ => unasked operator⟩
  · rw [if_pos paid]
    obtain ⟨costs, exchanged, asks, made⟩ := query.payment_exchanged client world
    generalize query.payment client world = readied at exchanged made
    obtain ⟨outcome, after⟩ := readied
    cases outcome with
    | error error =>
        refine ⟨costs, [], ?_, asks, fun _ => rfl, fun operator _ => unasked operator⟩
        rwa [List.append_nil]
    | ok payment =>
        obtain ⟨operator, new, nonneg⟩ := made payment rfl
        obtain ⟨tried, sent, tries⟩ := Request.execute_tries (query.answerRequest_lawful view)
          (query.executionFor client) (some payment) after
        refine ⟨costs, _, exchanged.trans sent, asks, ?_, ?_⟩
        · intro absent
          rw [operator] at absent
          contradiction
        · intro other same
          obtain rfl : payment.operator = other := Option.some.inj (operator.symm.trans same)
          exact tries_paidAlike new nonneg tries

end Query

namespace Sample

def infoQuery : Query :=
  .ofData (.info node)

/-- A node that names its price, is busy when it is paid for the first time, and then answers. -/
def priced : World :=
  world
    [.answered (Wire.encode ({ precheck := .ok, cost := 25, answer := none } : QueryResponse)),
      .answered (Wire.encode ({ precheck := .busy, cost := 0, answer := none } : QueryResponse)),
      .answered (Wire.encode
        ({ precheck := .ok, cost := 0
           answer := some (.info
            { account := node, key := operator.signer.key, balance := 7, deleted := false
              memo := "" }) } : QueryResponse))]

/-- The price is asked for once, and the node is paid twice in the same way. -/
theorem infoQuery_paidAlike :
    infoQuery.data.isPaid = true ∧
      (infoQuery.execute QueryAnswer.info? client priced).2.calls.length = 3 ∧
      ∃ costs answers,
        priced.Exchanged (costs ++ answers)
          (infoQuery.execute QueryAnswer.info? client priced).2 ∧
        (∀ exchange ∈ costs, infoQuery.AsksCost exchange.call) ∧
        (client.operator = none → answers = []) ∧
        ∀ operator, client.operator = some operator →
          Query.PaidAlike infoQuery.data operator answers :=
  ⟨rfl, by decide +kernel,
    Query.execute_paidAlike (by rfl) QueryAnswer.info? client priced⟩

end Sample

end LedgerClient
