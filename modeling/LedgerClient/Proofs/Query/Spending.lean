import LedgerClient.Proofs.Query.Polling

/-!
How much the operator spends on a question. Free questions and questions for a price are asked
without a payment. What has to be paid for is paid with the amount that was fixed for it or, where
none was, with the price that a node quoted, and a price beyond what may be spent is not paid.
-/

namespace LedgerClient

/-- The price in a reply, if the node took the question for it. -/
def Reply.price? : Reply → Option UInt64
  | .answered bytes _ =>
      match (Wire.decode bytes : Except DecodeError QueryResponse) with
      | .ok response =>
          if Outcome.ofStatus response.precheck false = .accepted then some response.cost else none
      | .error _ => none
  | _ => none

/-- The last of these replies is an accepted one and has the price in it. -/
def Quoted (costs : List Exchange) (cost : UInt64) : Prop :=
  ∃ last, costs.getLast? = some last ∧ last.reply.price? = some cost

theorem Quoted.unique {costs : List Exchange} {cost other : UInt64} (quoted : Quoted costs cost)
    (again : Quoted costs other) : cost = other := by
  obtain ⟨last, found, price⟩ := quoted
  obtain ⟨same, foundAgain, priceAgain⟩ := again
  cases found.symm.trans foundAgain
  exact Option.some.inj (price.symm.trans priceAgain)

namespace Query

variable {α : Type} {query : Query} {view : QueryAnswer → Option α} {client : Client}
  {world after : World} {costs answers : List Exchange}
  {cost : UInt64}

/-! ## The price -/

/-- A reply ends the question for the price with one exactly if it is one that gives it. -/
theorem cost_settles_ok_iff {mayReplace : Bool} {asked : AccountId} {reply : Reply} :
    query.costRequest.Settles mayReplace () asked reply (.ok cost) ↔ reply.price? = some cost := by
  have accepts (response : QueryResponse) :
      query.costRequest.outcome response mayReplace = .accepted ↔
        Outcome.ofStatus response.precheck false = .accepted :=
    Outcome.ofStatus_eq_accepted_iff.trans Outcome.ofStatus_eq_accepted_iff.symm
  constructor
  · intro settles
    generalize outcome : Except.ok cost = result at settles
    cases settles with
    | @accepted delay bytes response decoded passed =>
        cases outcome
        have decoded : (Wire.decode bytes : Except DecodeError QueryResponse) = .ok response :=
          decoded
        simp [Reply.price?, decoded, (accepts response).mp passed]
    | rejected _ _ | broken _ | undecodable _ => cases outcome
  · intro given
    cases reply with
    | failed cause delay => cases given
    | silent => cases given
    | answered bytes delay =>
        simp only [Reply.price?] at given
        split at given
        · rename_i response decoded
          split at given
          · rename_i through
            cases given
            exact .accepted decoded ((accepts response).mpr through)
          · cases given
        · cases given

/-- What comes out of the question for the price is the price in the last reply, if there is one. -/
theorem cost_quoted (query : Query) (client : Client) (world : World) :
    ∃ costs, world.Exchanged costs (query.cost client world).2 ∧
      (∀ exchange ∈ costs, query.AsksCost exchange.call) ∧
      ∀ cost, (query.cost client world).1 = .ok cost ↔ Quoted costs cost := by
  rcases Request.execute_ends query.costRequest_lawful (query.executionFor client) () world with
    ⟨cause, none, executed⟩ | ⟨nodes, made, -, exchanged, tries, ends⟩
  · unfold Query.cost
    rw [executed]
    refine ⟨[], World.exchanged_candidates world _, by simp, ?_⟩
    intro cost
    constructor
    · intro ok
      cases ok
    · rintro ⟨last, found, -⟩
      cases found
  · refine ⟨_, exchanged, tries_askCost tries, ?_⟩
    intro cost
    constructor
    · intro ok
      change (query.costRequest.execute (query.executionFor client) () world).result = _ at ok
      rw [ok] at ends
      obtain ⟨attempt, last, -, settles⟩ := ends.ofOk
      exact ⟨attempt.toExchange, by rw [List.getLast?_map, last]; rfl,
        cost_settles_ok_iff.mp settles⟩
    · rintro ⟨exchange, last, given⟩
      rw [List.getLast?_map] at last
      obtain ⟨attempt, found, rfl⟩ := Option.map_eq_some_iff.mp last
      have gives (mayReplace : Bool) :
          query.costRequest.Settles mayReplace () attempt.call.node attempt.reply (.ok cost) :=
        cost_settles_ok_iff.mpr given
      obtain ⟨-, settles⟩ := ends.ofFinal found (gives _).not_retries
      exact settles.unique (gives _)

/-! ## The amount -/

/-- The most that a question may cost: what was set for it, or what the client allows. -/
def limit (query : Query) (client : Client) : UInt64 :=
  query.maxPayment.getD client.maxQueryPayment

/-- The price is beyond what the operator is ready to pay, or beyond what a payment can hold. -/
def TooDear (query : Query) (client : Client) (cost : UInt64) : Prop :=
  query.limit client < cost ∨ mostAmount < cost.toNat

/-- The error for a price that is too high names the price and the bound that it is beyond. -/
def tooDear (query : Query) (client : Client) (cost : UInt64) : Error :=
  .maxQueryPaymentExceeded cost.toNat
    (if query.limit client < cost then (query.limit client).toNat else mostAmount)

/-- How making out a payment ends, after the calls for the price. -/
inductive Readies (query : Query) (client : Client) (world : World) :
    List Exchange → Except Error Payment × World → Prop
  | noOperator (absent : client.operator = none) :
      Readies query client world [] (.error (.configuration .noOperator), world)
  | tooMuch {amount : UInt64} (fixed : query.paymentAmount = some amount)
      (exceeds : mostAmount < amount.toNat) :
      Readies query client world []
        (.error (.maxQueryPaymentExceeded amount.toNat mostAmount), world)
  | fixed {payment : Payment} {amount : UInt64} {after : World}
      (fixed : query.paymentAmount = some amount) (quiet : world.Exchanged [] after)
      (operator : client.operator = some payment.operator) (new : payment.madeOut = [])
      (exact : payment.amount.toInt = amount.toNat) :
      Readies query client world [] (.ok payment, after)
  | noPrice {costs : List Exchange} {error : Error} {after : World}
      (operator : client.operator ≠ none) (unset : query.paymentAmount = none)
      (exchanged : world.Exchanged costs after)
      (unquoted : ∀ cost, ¬ Quoted costs cost) :
      Readies query client world costs (.error error, after)
  | tooDear {costs : List Exchange} {cost : UInt64} {after : World}
      (operator : client.operator ≠ none) (unset : query.paymentAmount = none)
      (exchanged : world.Exchanged costs after)
      (quoted : Quoted costs cost) (exceeds : query.TooDear client cost) :
      Readies query client world costs (.error (query.tooDear client cost), after)
  | priced {costs : List Exchange} {cost : UInt64} {payment : Payment} {after : World}
      (unset : query.paymentAmount = none) (exchanged : world.Exchanged costs after)
      (quoted : Quoted costs cost) (within : ¬ query.TooDear client cost)
      (operator : client.operator = some payment.operator) (new : payment.madeOut = [])
      (exact : payment.amount.toInt = cost.toNat) :
      Readies query client world costs (.ok payment, after)

theorem toInt_amount {amount : UInt64} (within : ¬ mostAmount < amount.toNat) :
    (Int64.ofNat amount.toNat).toInt = amount.toNat := by
  have most : mostAmount = 2 ^ 63 - 1 := by decide
  exact Int64.toInt_ofNat_of_lt (by omega)

theorem payment_readies (query : Query) (client : Client) (world : World) :
    ∃ costs, (∀ exchange ∈ costs, query.AsksCost exchange.call) ∧
      query.Readies client world costs (query.payment client world) := by
  unfold Query.payment
  cases found : client.operator with
  | none => exact ⟨[], by simp, .noOperator found⟩
  | some operator =>
      have present : client.operator ≠ none := by simp [found]
      unfold Query.amount
      cases set : query.paymentAmount with
      | some amount =>
          refine ⟨[], by simp, ?_⟩
          dsimp only
          split
          · rename_i exceeds
            exact .tooMuch set exceeds
          · rename_i within
            exact .fixed set (World.exchanged_generateId world _) found rfl (toInt_amount within)
      | none =>
          obtain ⟨costs, exchanged, asks, prices⟩ := query.cost_quoted client world
          refine ⟨costs, asks, ?_⟩
          dsimp only
          generalize query.cost client world = answered at exchanged prices
          obtain ⟨outcome, after⟩ := answered
          cases outcome with
          | error error =>
              refine .noPrice present set exchanged ?_
              intro cost quoted
              cases (prices cost).mpr quoted
          | ok cost =>
              have quoted : Quoted costs cost := (prices cost).mp rfl
              dsimp only
              by_cases beyond : query.limit client < cost
              · have exceeds : query.maxPayment.getD client.maxQueryPayment < cost := beyond
                simpa [exceeds, Query.tooDear, limit] using
                  Readies.tooDear present set exchanged quoted (.inl beyond)
              · have allowed : ¬ query.maxPayment.getD client.maxQueryPayment < cost := beyond
                simp only [allowed, ↓reduceIte]
                split
                · rename_i exceeds
                  simpa [beyond, Query.tooDear] using
                    Readies.tooDear present set exchanged quoted (.inr exceeds)
                · rename_i within
                  exact .priced set (exchanged.thenQuiet (World.exchanged_generateId after _))
                    quoted (not_or.mpr ⟨beyond, within⟩) found rfl (toInt_amount within)

/-! ## The question -/

/-- What a question comes to for the operator: the calls for its price, which are free, and then
the calls for the answer. -/
structure Spends (query : Query) (client : Client) (world : World) (costs answers : List Exchange)
    (answer : Except Error α × World) : Prop where
  exchanged : world.Exchanged (costs ++ answers) answer.2
  asksCost : ∀ exchange ∈ costs, query.AsksCost exchange.call
  free : query.data.isPaid = false →
    costs = [] ∧ ∀ exchange ∈ answers, query.AsksFreely exchange.call
  noOperator : query.data.isPaid = true → client.operator = none →
    costs = [] ∧ answers = [] ∧ ∃ error, answer.1 = .error error
  fixed : query.data.isPaid = true → ∀ amount, query.paymentAmount = some amount →
    costs = [] ∧ ∀ operator, client.operator = some operator →
      ∃ id, PayEach query.data operator id amount.toNat answers
  priced : query.data.isPaid = true → query.paymentAmount = none → answers ≠ [] →
    ∃ cost operator id, Quoted costs cost ∧ cost ≤ query.limit client ∧
      cost.toNat ≤ mostAmount ∧ client.operator = some operator ∧
      PayEach query.data operator id cost.toNat answers
  tooDear : query.data.isPaid = true → query.paymentAmount = none →
    ∀ cost, Quoted costs cost → query.TooDear client cost →
      answers = [] ∧ answer.1 = .error (query.tooDear client cost)

theorem not_quoted_nil : ¬ Quoted [] cost := by
  rintro ⟨last, found, -⟩
  cases found

/-- A question that is refused before anything is sent. -/
theorem Spends.refused (query : Query) (client : Client) (world : World) (error : Error) :
    query.Spends client world [] [] ((.error error, world) : Except Error α × World) where
  exchanged := .refl world
  asksCost := by simp
  free _ := by simp
  noOperator _ _ := ⟨rfl, rfl, error, rfl⟩
  fixed _ _ _ :=
    ⟨rfl, fun operator _ => ⟨(world.generateId operator.account).1, by simp [PayEach]⟩⟩
  priced _ _ asked := absurd rfl asked
  tooDear _ _ _ quoted := absurd quoted not_quoted_nil

/-- A question whose price is asked, and that is not paid for. -/
theorem Spends.unpaid {error : Error} (paid : query.data.isPaid = true)
    (operator : client.operator ≠ none) (unset : query.paymentAmount = none)
    (exchanged : world.Exchanged costs after)
    (asks : ∀ exchange ∈ costs, query.AsksCost exchange.call)
    (named : ∀ cost, Quoted costs cost → query.TooDear client cost →
      error = query.tooDear client cost) :
    query.Spends client world costs [] ((.error error, after) : Except Error α × World) where
  exchanged := by rwa [List.append_nil]
  asksCost := asks
  free free := by simp [paid] at free
  noOperator _ absent := absurd absent operator
  fixed _ amount set := by simp [unset] at set
  priced _ _ asked := absurd rfl asked
  tooDear _ _ cost quoted exceeds := ⟨rfl, congrArg _ (named cost quoted exceeds)⟩

/-- Asking the question, once the payment for it is made out if it needs one. -/
def ask (query : Query) (view : QueryAnswer → Option α) (client : Client)
    (payment : Option Payment) (world : World) : Except Error α × World :=
  let finished := (query.answerRequest view).execute (query.executionFor client) payment world
  (finished.result, finished.world)

theorem Spends.asked {payment : Payment} {amount : UInt64} (paid : query.data.isPaid = true)
    (view : QueryAnswer → Option α) (asks : ∀ exchange ∈ costs, query.AsksCost exchange.call)
    (exchanged : world.Exchanged costs after) (operator : client.operator = some payment.operator)
    (new : payment.madeOut = []) (exact : payment.amount.toInt = amount.toNat)
    (source : query.paymentAmount = some amount ∧ costs = [] ∨
      query.paymentAmount = none ∧ Quoted costs amount ∧ ¬ query.TooDear client amount) :
    ∃ answers, query.Spends client world costs answers
      (query.ask view client (some payment) after) := by
  obtain ⟨tried, sent, tries⟩ := Request.execute_tries (query.answerRequest_lawful view)
    (query.executionFor client) (some payment) after
  have nonneg : 0 ≤ payment.amount.toInt := exact ▸ Int.natCast_nonneg _
  have pay := tries_payEach new nonneg tries
  rw [exact] at pay
  refine ⟨_, exchanged.trans sent, asks, ?_, ?_, ?_, ?_, ?_⟩
  · intro free
    simp [paid] at free
  · intro _ absent
    simp [operator] at absent
  · intro _ fixed set
    rcases source with ⟨given, unasked⟩ | ⟨unset, -, -⟩
    · obtain rfl : amount = fixed := Option.some.inj (given.symm.trans set)
      refine ⟨unasked, ?_⟩
      intro other same
      obtain rfl : payment.operator = other := Option.some.inj (operator.symm.trans same)
      exact ⟨payment.id, pay⟩
    · simp [unset] at set
  · intro _ unset _
    rcases source with ⟨given, -⟩ | ⟨-, quoted, within⟩
    · simp [unset] at given
    · obtain ⟨allowed, bounded⟩ := not_or.mp within
      exact ⟨amount, payment.operator, payment.id, quoted, UInt64.not_lt.mp allowed,
        Nat.le_of_not_lt bounded, operator, pay⟩
  · intro _ unset cost quotedCost exceeds
    rcases source with ⟨given, -⟩ | ⟨-, quoted, within⟩
    · simp [unset] at given
    · obtain rfl := quoted.unique quotedCost
      exact absurd exceeds within

theorem Readies.spends {outcome : Except Error Payment × World} (paid : query.data.isPaid = true)
    (view : QueryAnswer → Option α) (asks : ∀ exchange ∈ costs, query.AsksCost exchange.call)
    (readies : query.Readies client world costs outcome) :
    ∃ answers, query.Spends client world costs answers
      (match outcome with
      | (.error error, world) => (.error error, world)
      | (.ok payment, world) => query.ask view client (some payment) world) := by
  cases readies with
  | noOperator absent => exact ⟨[], .refused query client world _⟩
  | tooMuch fixed exceeds => exact ⟨[], .refused query client world _⟩
  | fixed fixed quiet operator new exact =>
      exact Spends.asked paid view asks quiet operator new exact (.inl ⟨fixed, rfl⟩)
  | noPrice present unset exchanged unquoted =>
      exact ⟨[], .unpaid paid present unset exchanged asks
        fun cost quoted => absurd quoted (unquoted cost)⟩
  | tooDear present unset exchanged quoted exceeds =>
      refine ⟨[], .unpaid paid present unset exchanged asks ?_⟩
      intro other quotedOther _
      rw [quoted.unique quotedOther]
  | priced unset exchanged quoted within operator new exact =>
      exact Spends.asked paid view asks exchanged operator new exact (.inr ⟨unset, quoted, within⟩)

/-- For every question, whatever the nodes reply: free questions and questions for a price are asked
without a payment; without an operator nothing that has to be paid for is asked; an amount that was
fixed is what is paid, and no price is asked for; and otherwise what is paid is the price that was
quoted, within the limit, while a price beyond it is an error and nothing is paid. -/
theorem execute_spends (query : Query) (view : QueryAnswer → Option α) (client : Client)
    (world : World) :
    (∃ costs, world.Exchanged costs (query.cost client world).2 ∧
      ∀ exchange ∈ costs, query.AsksCost exchange.call) ∧
    ∃ costs answers,
      query.Spends client world costs answers (query.execute view client world) := by
  refine ⟨query.cost_exchanged client world, ?_⟩
  unfold execute
  dsimp only
  split
  · exact ⟨[], [], .refused query client world _⟩
  · cases paid : query.data.isPaid with
    | false =>
        obtain ⟨tried, sent, tries⟩ := Request.execute_tries (query.answerRequest_lawful view)
          (query.executionFor client) none world
        refine ⟨[], _, sent, by simp, fun _ => ⟨rfl, tries_askFreely tries⟩, ?_, ?_, ?_, ?_⟩ <;>
          simp [paid]
    | true =>
        obtain ⟨costs, asks, readies⟩ := query.payment_readies client world
        exact ⟨costs, readies.spends paid view asks⟩

/-- Where a node asks for 25 and 20 may be spent, nothing is paid. -/
example :
    let asked := { Sample.infoQuery with maxPayment := some 20 }.execute QueryAnswer.info?
      Sample.client Sample.priced
    asked.1 = .error (.maxQueryPaymentExceeded 25 20) ∧ asked.2.calls.length = 1 :=
  ⟨by rfl, by decide +kernel⟩

end Query

end LedgerClient
