import AgentReady.Safety.Authenticated

/-!
A checkout goes through.

What the services do with an approved order is tied to what the adapters answer: the order that an adapter opens is
the one whose payment it captures, and the amount that it captures is that of the record. So the calls of a checkout,
each made at any time, lead an order through to its end.

* `Call.initiates`, `Call.captures`, `Call.verifies`, `Call.fulfils`, `Call.compensates`: what each call leads to.
* `checkout_completes`: over the mock adapter, an approved order is paid and fulfilled, or refunded where it could not
  be fulfilled.
* `mock_leads`: a simulated payment leads an order where the gateway would that reports it.
-/

namespace AgentReady

open Coop Svc

/-- An approved order of which nothing is paid, and that may be paid over the rail. -/
structure View.Due (cfg : Config) (v : View) (r : EnvelopeRecord) : Prop where
  payable : v.Payable cfg PaymentRail.razorpayCheckout.name r
  approved : v.state = .approved
  unbound : truthy v.session.externalOrderId = false
  unverified : VerificationResult.isVerified v.session.verification = false
  currency : r.envelope.currency = "INR"

/-- The adapter answers the call. -/
def Call.AnsweredBy (call : Call) (adapter : PaymentAdapter) : Prop := ∀ q, adapter.Gives q (call.answer q)

/-- An order that waits for the payment of an order of the gateway. -/
structure Order.Awaits (x : Order) (orderId : String) (r : EnvelopeRecord) : Prop where
  pending : x.state = .paymentPending
  record : x.record = some r
  bound : x.externalOrderId = some orderId
  unverified : VerificationResult.isVerified x.verification = false
  unsettled : X402OrderPayment.isVerified x.x402 = false

section Calls

variable {cfg : Config} {s : Services} {o : String} {r : EnvelopeRecord} {v : View} {x : Order} {call : Call}
  {adapter : PaymentAdapter}

/-- A call ends as its command does when nothing disturbs it. -/
theorem Call.ends (post : Except ServiceError Reply → Services → Prop)
    (meets : (call.command.op cfg).Meets (call.contract cfg (fun _ _ _ => True) s) post (call.start s)) :
    post (call.run cfg s).result (call.final cfg s) := by
  have run : (∀ e ∈ call.events cfg s, e.Keeps (call.contract cfg (fun _ _ _ => True) s)) ∧
      post (call.run cfg s).result (call.final cfg s) := meets.run (fun _ => rfl) fun _ _ mem => ⟨rfl, mem⟩
  exact run.2

theorem Call.order_view (call : Call) (at_ : s.order? o = some x) :
    ∃ w, (call.start s).view? o = some w ∧ w.order = x :=
  call.view_start (f := id) (by rw [at_, Option.map_some, id])

/-- The payment of a due order is initiated. -/
theorem Call.initiates {operationId : Option String} (keyed : Keyed s)
    (command : call.command = .initiatePayment o PaymentRail.razorpayCheckout.name operationId)
    (runs : initiatePaymentRuns cfg (call.start s) o PaymentRail.razorpayCheckout.name operationId)
    (shown : (call.start s).view? o = some v) (due : v.Due cfg r) (answered : call.AnsweredBy adapter)
    {orderId : String}
    (opens : ∀ attemptId createdAt, ∃ attempt, adapter.initiate attemptId createdAt r.envelope = .ok attempt ∧
      attempt.externalOrderId = some orderId) :
    ∃ y, (call.final cfg s).order? o = some y ∧ y.Awaits orderId r := by
  have known : ¬ call.command.Opens := by
    rw [command]
    exact id
  have ends := (Call.sound cfg (fun _ _ _ => True) known keyed fun _ _ _ _ => trivial).2
  rw [command] at ends
  obtain ⟨v', after, ends⟩ := ends v shown
  obtain ⟨attemptId, createdAt, gives⟩ := answered (.initiate r.envelope)
  obtain ⟨opened, initiated, bound⟩ := opens attemptId createdAt
  rcases ends with ⟨idle, -⟩ | ⟨-, ends⟩
  · exact absurd runs idle
  · generalize (call.run cfg s).result = result at ends
    cases ends with
    | reused payable bound => cases due.unbound.symm.trans bound
    | @created r' attempt _ a _ _ v₁ _ payable unknown onRail leads asked result resumed state =>
        obtain ⟨rfl, rfl, -⟩ := asked
        obtain rfl := Option.some.inj (due.payable.record.symm.trans payable.record)
        rw [gives, initiated] at result
        obtain rfl := Except.ok.inj result
        refine ⟨v'.order, order?_of_view after, ?_⟩
        rw [state, resumed rfl]
        exact ⟨rfl, payable.record, bound, due.unverified, payable.unsettled⟩
    | failed reuse create =>
        obtain ⟨a, _, message, ⟨rfl, -⟩, refused⟩ := create r due.payable rfl (by rw [due.approved]; decide)
        rw [gives, initiated] at refused
        cases refused

/-- The capture of a payment that is awaited is signed, and changes nothing. -/
theorem Call.captures (cfg : Config) {orderId : String} (command : call.command = .mockCapture o)
    (at_ : s.order? o = some x) (awaits : x.Awaits orderId r) (named : orderId ≠ "") :
    (∃ capture, (call.run cfg s).result = .ok (.capture capture) ∧ capture.orderId = orderId ∧
      capture.signature = cfg.platform.checkoutSignature cfg.razorpayKeySecret orderId capture.paymentId ∧
      capture.paymentId ≠ "") ∧ (call.final cfg s).order? o = some x := by
  obtain ⟨w, shown, rfl⟩ := call.order_view at_
  have bound : w.session.externalOrderId = some orderId := awaits.bound
  have unsettled : X402OrderPayment.isVerified w.session.x402OrderPayment = false := awaits.unsettled
  refine Call.ends (fun result s' => (∃ capture, result = .ok (.capture capture) ∧ capture.orderId = orderId ∧
    capture.signature = cfg.platform.checkoutSignature cfg.razorpayKeySecret orderId capture.paymentId ∧
    capture.paymentId ≠ "") ∧ s'.order? o = some w.order) ?_
  rw [command]
  refine Proc.meets_bind.mpr (meets_session? shown ?_)
  dsimp only [Option.map_some]
  refine meets_ite (fun settled => by cases unsettled.symm.trans settled) fun _ => ?_
  refine meets_ite (fun unbound => by simp [bound, truthy, named] at unbound) fun _ => ?_
  refine Proc.meets_bind.mpr (meets_now shown ?_)
  refine ⟨⟨_, rfl, ?_, ?_, by simp⟩, order?_of_view shown⟩
  · simp [bound]
  · simp [bound, Platform.checkoutSignature]

/-- What the adapter reports of a payment is stored, and settles the order. -/
theorem Call.settles {orderId paymentId signature : String} {operationId : Option String}
    {fetched : VerificationResult} (keyed : Keyed s)
    (command : call.command = .verifyPayment o orderId paymentId signature operationId)
    (runs : verifyPaymentRuns cfg (call.start s) o orderId paymentId operationId)
    (shown : (call.start s).view? o = some v) (asks : v.Asks orderId r) (answered : call.AnsweredBy adapter)
    (reported : adapter.verify (verificationInput o orderId paymentId signature r) = .ok fetched) :
    ∃ y, (call.final cfg s).order? o = some y ∧
      Settles fetched paymentId r v.order (call.run cfg s).result y := by
  have known : ¬ call.command.Opens := by
    rw [command]
    exact id
  have ends := (Call.sound cfg (fun _ _ _ => True) known keyed fun _ _ _ _ => trivial).2
  rw [command] at ends
  obtain ⟨v', after, ends⟩ := ends v shown
  have gives := answered (.verify (verificationInput o orderId paymentId signature r))
  rcases ends with ⟨idle, -⟩ | ⟨-, ends⟩
  · exact absurd runs idle
  cases ends with
  | repeated repeats => cases asks.unverified.symm.trans repeats.verified
  | unasked _ unasked => exact absurd asks (unasked r)
  | @unanswered r' _ _ message a asks' asked refused =>
      obtain ⟨rfl, rfl, -⟩ := asked
      obtain rfl : r = r' := Option.some.inj (asks.record.symm.trans asks'.record)
      rw [gives, reported] at refused
      cases refused
  | @settled r' _ _ result z a asks' asked answer resumed settles =>
      obtain ⟨rfl, rfl, -⟩ := asked
      obtain rfl : r = r' := Option.some.inj (asks.record.symm.trans asks'.record)
      rw [gives, reported] at answer
      obtain rfl := Except.ok.inj answer
      obtain rfl := resumed rfl
      exact ⟨v'.order, order?_of_view after, settles⟩

/-- A payment that the adapter captures pays the order that awaits it. -/
theorem Call.verifies {orderId paymentId signature : String} {operationId : Option String} (keyed : Keyed s)
    (command : call.command = .verifyPayment o orderId paymentId signature operationId)
    (runs : verifyPaymentRuns cfg (call.start s) o orderId paymentId operationId) (at_ : s.order? o = some x)
    (awaits : x.Awaits orderId r) (currency : r.envelope.currency = "INR") (named : paymentId ≠ "")
    (answered : call.AnsweredBy adapter)
    (captures : adapter.Captures (verificationInput o orderId paymentId signature r)) :
    ∃ y v, (call.final cfg s).order? o = some y ∧ y.state = .paidVerified ∧ y.Bills r v := by
  obtain ⟨w, shown, rfl⟩ := call.order_view at_
  obtain ⟨fetched, reported, verified, order, payment, amount, inr, captured⟩ := captures
  obtain ⟨y, after, settles⟩ := Call.settles keyed command runs shown
    ⟨awaits.record, awaits.unverified, awaits.bound⟩ answered reported
  have bound : w.order.externalOrderId = some orderId := awaits.bound
  have pays : verificationTarget fetched w.order r = .paidVerified := by
    refine if_pos ⟨verified, ?_⟩
    simp [bindingFailures, codeWhen, bound, order, amount, inr, captured, currency, verificationInput]
  have leads : w.order.state.Leads .paidVerified := by
    rw [awaits.pending]
    decide
  rcases settles with ⟨-, -, -, rfl⟩ | ⟨stuck, -⟩
  · exact ⟨_, fetched, after, pays, awaits.record, rfl, verified, amount, congrArg some payment.symm,
      payment ▸ named⟩
  · rw [pays] at stuck
    exact absurd leads stuck

/-- How `fulfil` leaves a paid order. -/
def fulfilledState (fail : Bool) : OrderState := if fail then .fulfilmentFailed else .fulfilled

/-- Where an order that is being fulfilled may go. -/
abbrev fulfilling : List OrderState := OrderState.fulfilmentPending.allowedTransitions

/-- A paid order is fulfilled, or fails to be. -/
theorem Call.fulfils {fail : Bool} {operationId : Option String}
    (command : call.command = .fulfil o fail operationId)
    (runs : Runs cfg (call.start s) operationId
      ⟨"fulfilment.complete", [("orderId", .text o), ("fail", .flag fail)]⟩ o fulfilmentPrior)
    (at_ : s.order? o = some x) (paid : x.state = .paidVerified) :
    (call.final cfg s).order? o = some { x with state := fulfilledState fail } := by
  obtain ⟨w, shown, rfl⟩ := call.order_view at_
  have lawful : Lawful cfg.platform Eq (fun _ _ _ => True) o (call.contract cfg (fun _ _ _ => True) s) :=
    .alone (by rw [command]; rfl)
  refine Call.ends (fun _ s' => s'.order? o = some { w.order with state := fulfilledState fail }) ?_
  rw [command]
  refine meets_idempotent lawful shown (fun _ _ idle _ => absurd runs idle) (fun _ _ idle _ => absurd runs idle)
    fun s₁ _ at₁ => ?_
  refine Proc.meets_bind.mpr (meets_session? at₁ ?_)
  refine meets_ite (fun other => absurd paid other) (fun _ => ?_)
  refine Proc.meets_bind.mpr (meets_setState lawful at₁ (fun _ _ => ⟨trivial, trivial⟩) ?_ fun _ s₂ at₂ => ?_)
  · exact fun _ refused => absurd (by rw [show w.state = .paidVerified from paid]; decide) refused
  cases fail with
  | true =>
      refine meets_ite (fun _ => ?_) (fun no => absurd rfl no)
      refine Proc.meets_bind.mpr (meets_setState lawful at₂ (fun _ _ => ⟨trivial, trivial⟩) ?_ fun _ s₃ at₃ => ?_)
      · exact fun _ refused => absurd (show OrderState.fulfilmentFailed ∈ fulfilling by decide) refused
      refine Proc.meets_bind.mpr (meets_log lawful at₃ fun s₄ at₄ => ?_)
      refine Proc.meets_bind.mpr (meets_stateOf at₄ (meets_refuse lawful at₄ fun s₅ at₅ => ?_))
      exact order?_of_view at₅
  | false =>
      refine meets_ite (fun yes => by cases yes) (fun _ => ?_)
      refine Proc.meets_bind.mpr (meets_setState lawful at₂ (fun _ _ => ⟨trivial, trivial⟩) ?_ fun _ s₃ at₃ => ?_)
      · exact fun _ refused => absurd (show OrderState.fulfilled ∈ fulfilling by decide) refused
      refine Proc.meets_bind.mpr (meets_log lawful at₃ fun s₄ at₄ => ?_)
      refine Proc.meets_bind.mpr (meets_stateOf at₄ (meets_succeed lawful at₄ fun s₅ at₅ => ?_))
      exact order?_of_view at₅

/-- Closing an order that is being compensated as refunded. -/
theorem refunded_closes {operationId : Option String} {compensation : Compensation} {type reasonCode : String}
    {references : List (String × String)} {c : Contract Services Query.Answer}
    (lawful : Lawful cfg.platform Eq (fun _ _ _ => True) o c) (shown : s.view? o = some v)
    (pending : v.state = .compensationPending) :
    (refunded cfg o operationId compensation type reasonCode references).Meets c
      (fun result s' => (∃ reply, result = .ok reply) ∧ ∃ y, s'.order? o = some y ∧ y.state = .refunded) s := by
  refine refunded_meets lawful shown (fun _ => trivial) ?_ ?_
  · intro e s' v' _ refused _ _
    rw [pending] at refused
    exact absurd (by decide) refused
  · exact fun reply s' v' after closed => ⟨⟨reply, rfl⟩, v'.order, order?_of_view after, closed⟩

/-- A paid order that could not be fulfilled is refunded, where the adapter refunds. -/
theorem Call.compensates {operationId : Option String} {w : VerificationResult}
    (command : call.command = .compensate o operationId) (runs : compensateRuns cfg (call.start s) o operationId)
    (at_ : s.order? o = some x) (failed : x.state = .fulfilmentFailed) (bills : x.Bills r w)
    (answered : call.AnsweredBy adapter)
    (refunds : ∃ result, adapter.compensate (refundInput o w.externalPaymentId r) = .ok result) :
    ∃ y, (call.final cfg s).order? o = some y ∧ y.state = .refunded := by
  obtain ⟨v, shown, rfl⟩ := call.order_view at_
  have lawful : Lawful cfg.platform Eq (fun _ _ _ => True) o (call.contract cfg (fun _ _ _ => True) s) :=
    .alone (by rw [command]; rfl)
  have record : v.record = some r := bills.record
  have paid : v.session.externalPaymentId = some w.externalPaymentId := bills.paymentId
  refine (Call.ends (fun result s' => (∃ reply, result = .ok reply) ∧ ∃ y, s'.order? o = some y ∧
    y.state = .refunded) ?_).2
  rw [command]
  refine meets_idempotent lawful shown (fun _ _ idle _ => absurd runs idle) (fun _ _ idle _ => absurd runs idle)
    fun s₁ _ at₁ => ?_
  refine Proc.meets_bind.mpr (meets_session? at₁ ?_)
  refine meets_ite (fun other => absurd failed other.1) (fun _ => ?_)
  refine Proc.meets_bind.mpr (meets_record? at₁ ?_)
  dsimp only [Option.map_some, Option.bind_some]
  rw [record]
  refine meets_ite (fun unpaid => by simp [truthy, paid, bills.named] at unpaid) (fun _ => ?_)
  simp only [paid, Option.getD_some]
  refine Proc.meets_bind.mpr (meets_setState lawful at₁ (fun _ _ => ⟨failed, trivial⟩) ?_ fun _ s₂ at₂ => ?_)
  · exact fun _ refused => absurd (by rw [show v.state = .fulfilmentFailed from failed]; decide) refused
  refine meets_ite (fun _ => refunded_closes lawful at₂ rfl) (fun _ => ?_)
  have starts : Starts s₂ o (.compensate (refundInput o w.externalPaymentId r)) :=
    ⟨_, r, _, order?_of_view at₂, rfl, record, paid, rfl⟩
  refine Proc.meets_catch.mpr (Proc.meets_bind.mpr (meets_ask lawful at₂ starts ?_))
  rintro a s₃ s₄ v₃ still ⟨rfl, -⟩ _ same _ at₄
  obtain ⟨result, refunded⟩ := refunds
  have gives := answered (.compensate (refundInput o w.externalPaymentId r))
  have pending : v₃.state = .compensationPending := by
    rw [same still]
    rfl
  refine Proc.meets_bind.mpr (meets_liftResult (fun refund _ => ?_) fun message refused => ?_)
  · refine (refunded_closes lawful at₄ pending).mono ?_
    rintro _ s₅ ⟨⟨reply, rfl⟩, closed⟩
    exact ⟨⟨reply, rfl⟩, closed⟩
  · rw [gives, refunded] at refused
    cases refused

end Calls

/-! ### Checkouts -/

/-- The use of the operation id lets a command of a checkout run. -/
def Command.Admitted (cfg : Config) (s : Services) : Command → Prop
  | .initiatePayment o rail operationId => initiatePaymentRuns cfg s o rail operationId
  | .verifyPayment o externalOrderId externalPaymentId _ operationId =>
      verifyPaymentRuns cfg s o externalOrderId externalPaymentId operationId
  | .fulfil o fail operationId => Runs cfg s operationId
      ⟨"fulfilment.complete", [("orderId", .text o), ("fail", .flag fail)]⟩ o fulfilmentPrior
  | .compensate o operationId => compensateRuns cfg s o operationId
  | _ => True

/-- The call is of the command, runs, and is answered by the adapter. -/
structure Call.Made (cfg : Config) (adapter : PaymentAdapter) (call : Call) (s : Services) (command : Command) :
    Prop where
  does : call.command = command
  admitted : command.Admitted cfg (call.start s)
  answered : call.AnsweredBy adapter

/-- The state of an order. -/
def Services.stateAt (s : Services) (o : String) : Option OrderState := (s.order? o).map Order.state

/-- What a paid order comes to: it is fulfilled, or refunded by an adapter that refunds. -/
def Closes (cfg : Config) (adapter : PaymentAdapter) (s : Services) (o : String) : Prop :=
  ∀ (fulfilling : Call) fail operationId, fulfilling.Made cfg adapter s (.fulfil o fail operationId) →
    (fulfilling.final cfg s).stateAt o = some (fulfilledState fail) ∧
      ∀ (compensating : Call) operationId, fail = true →
        compensating.Made cfg adapter (fulfilling.final cfg s) (.compensate o operationId) →
          (compensating.final cfg (fulfilling.final cfg s)).stateAt o = some .refunded

section Checkouts

variable {cfg : Config} {s : Services} {o : String} {r : EnvelopeRecord} {v : View} {w : VerificationResult}
  {x : Order} {adapter : PaymentAdapter} {initiating capturing submitting : Call} {operationId : Option String}

theorem closes_of_bills (at_ : s.order? o = some x) (paid : x.state = .paidVerified) (bills : x.Bills r w)
    (refunds : ∃ result, adapter.compensate (refundInput o w.externalPaymentId r) = .ok result) :
    Closes cfg adapter s o := by
  intro fulfilling fail operationId made
  have after := Call.fulfils made.does made.admitted at_ paid
  refine ⟨by rw [Services.stateAt, after, Option.map_some], fun compensating operationId failed refunding => ?_⟩
  subst failed
  obtain ⟨y, closed, refunded⟩ := Call.compensates refunding.does refunding.admitted after rfl
    ({ bills with } : Order.Bills { x with state := .fulfilmentFailed } r w) refunding.answered refunds
  rw [Services.stateAt, closed, Option.map_some, refunded]

/-- Over the mock adapter, the payment of an approved order that is due is initiated, captured and verified, and the
order is fulfilled, or refunded where it could not be: whenever the calls are made, and under whatever operation ids
that were not used. -/
theorem checkout_completes {config : MockRazorpayConfig} (keyed : Keyed s)
    (secret : config.keySecret = cfg.razorpayKeySecret) (works : config.failInitiate = false)
    (plain : config.simulatePayment = none) (shown : (initiating.start s).view? o = some v) (due : v.Due cfg r)
    (initiated : initiating.Made cfg (MockRazorpayAdapter cfg.platform config) s
      (.initiatePayment o PaymentRail.razorpayCheckout.name operationId))
    (captured : capturing.command = .mockCapture o) :
    ∃ capture, (capturing.run cfg (initiating.final cfg s)).result = .ok (.capture capture) ∧
      ∀ (submitting : Call) operationId, submitting.Made cfg (MockRazorpayAdapter cfg.platform config)
          (capturing.final cfg (initiating.final cfg s))
          (.verifyPayment o capture.orderId capture.paymentId capture.signature operationId) →
        (submitting.final cfg (capturing.final cfg (initiating.final cfg s))).stateAt o = some .paidVerified ∧
          Closes cfg (MockRazorpayAdapter cfg.platform config)
            (submitting.final cfg (capturing.final cfg (initiating.final cfg s))) o := by
  have named : "order_MOCK_" ++ r.envelope.logicalOrderId ≠ "" := by simp
  obtain ⟨x, pending, awaits⟩ := Call.initiates keyed initiated.does initiated.admitted shown due initiated.answered
    fun attemptId createdAt => initiates_mock works attemptId createdAt r.envelope
  obtain ⟨⟨capture, result, order, signed, paymentNamed⟩, same⟩ :=
    Call.captures cfg captured pending awaits named
  refine ⟨capture, result, fun submitting operationId submitted => ?_⟩
  rw [order] at submitted
  have captures : (MockRazorpayAdapter cfg.platform config).Captures (verificationInput o
      ("order_MOCK_" ++ r.envelope.logicalOrderId) capture.paymentId capture.signature r) :=
    captures_mock plain (by rw [secret]; exact signed)
  obtain ⟨y, w, after, paid, bills⟩ := Call.verifies (keyed_final (keyed_final keyed)) submitted.does
    submitted.admitted same awaits due.currency paymentNamed submitted.answered captures
  exact ⟨by rw [Services.stateAt, after, Option.map_some, paid], closes_of_bills after paid bills ⟨_, rfl⟩⟩

/-- Over the gateway, the payment of an approved order that is due is initiated; a payment that the gateway reports as
captured, for the order that it opened and of its amount, is verified under its signature; and the order is fulfilled,
or refunded by a gateway that refunds. -/
theorem gateway_checkout_completes {gateway gateway' : Gateway} {orderId paymentId signature : String}
    {operationId' : Option String} (keyed : Keyed s) (shown : (initiating.start s).view? o = some v)
    (due : v.Due cfg r)
    (opens : ∀ request, ∃ amount currency, gateway.orders request = .answered ⟨orderId, amount, currency⟩)
    (initiated : initiating.Made cfg (RazorpayAdapter cfg.platform cfg.razorpayKeySecret gateway) s
      (.initiatePayment o PaymentRail.razorpayCheckout.name operationId))
    (reported : gateway'.payments paymentId =
      .answered ⟨paymentId, some orderId, r.envelope.totalMinor, "INR", "captured"⟩)
    (refunds : ∀ paymentId request, ∃ refundId, gateway'.refunds paymentId request = .answered refundId)
    (named : paymentId ≠ "") (given : signature ≠ "")
    (signed : signature = cfg.platform.checkoutSignature cfg.razorpayKeySecret orderId paymentId)
    (submitted : submitting.Made cfg (RazorpayAdapter cfg.platform cfg.razorpayKeySecret gateway')
      (initiating.final cfg s) (.verifyPayment o orderId paymentId signature operationId')) :
    (submitting.final cfg (initiating.final cfg s)).stateAt o = some .paidVerified ∧
      Closes cfg (RazorpayAdapter cfg.platform cfg.razorpayKeySecret gateway')
        (submitting.final cfg (initiating.final cfg s)) o := by
  obtain ⟨x, pending, awaits⟩ := Call.initiates keyed initiated.does initiated.admitted shown due initiated.answered
    fun attemptId createdAt => initiates_razorpay opens attemptId createdAt r.envelope
  have captures : (RazorpayAdapter cfg.platform cfg.razorpayKeySecret gateway').Captures
      (verificationInput o orderId paymentId signature r) :=
    captures_razorpay signed given reported rfl rfl rfl rfl rfl
  obtain ⟨y, w, after, paid, bills⟩ := Call.verifies (keyed_final keyed) submitted.does submitted.admitted pending
    awaits due.currency named submitted.answered captures
  exact ⟨by rw [Services.stateAt, after, Option.map_some, paid],
    closes_of_bills after paid bills (refunds_razorpay (refunds _))⟩

/-- What the mock makes of a payment leads an order where the gateway does that reports the simulated one. -/
theorem Simulates.target {result result' : VerificationResult} (simulates : Simulates result result') (x : Order)
    (r : EnvelopeRecord) : verificationTarget result x r = verificationTarget result' x r := by
  have same : Binds result x.externalOrderId r ↔ Binds result' x.externalOrderId r := by
    cases simulates with
    | rejected mocked fetched => simp [Binds, mocked, fetched]
    | known order amount currency status mocked fetched =>
        have failures : bindingFailures result' x.externalOrderId r = bindingFailures result x.externalOrderId r := by
          simp only [bindingFailures, order, amount, currency, status]
        constructor
        · rintro ⟨-, bound⟩
          refine ⟨fetched ?_, failures.trans bound⟩
          by_contra uncaptured
          simp [bindingFailures, codeWhen, uncaptured] at bound
        · rintro ⟨-, bound⟩
          exact ⟨mocked, failures ▸ bound⟩
  simp only [verificationTarget, same]

/-- A fetched payment leaves an order in its target, or where it was. -/
theorem Settles.state {fetched : VerificationResult} {paymentId : String} {x y : Order}
    {result : Except ServiceError Reply} (settles : Settles fetched paymentId r x result y) :
    y.state = if x.state.Leads (verificationTarget fetched x r) then verificationTarget fetched x r else x.state := by
  rcases settles with ⟨leads, -, -, rfl⟩ | ⟨stuck, -, -, rfl⟩
  · exact (if_pos leads).symm
  · exact (if_neg stuck).symm

/-- Whatever payment the mock simulates, a payment that is submitted under it leaves its order in the state in which
the gateway would leave it that reports that payment. -/
theorem simulated_payment_leads (config : MockRazorpayConfig) (gateway : Gateway)
    {orderId paymentId signature : String} {mocked fetched : Call} (keyed : Keyed s)
    (time : mocked.time = fetched.time)
    (secret : cfg.platform.checkoutSignature config.keySecret orderId paymentId ≠ "")
    (shown : (mocked.start s).view? o = some v) (asks : v.Asks orderId r)
    (reports : gateway.payments paymentId = .answered ((config.simulatePayment.getD {}).reported
      (verificationInput o orderId paymentId signature r)))
    (mock : mocked.Made cfg (MockRazorpayAdapter cfg.platform config) s
      (.verifyPayment o orderId paymentId signature operationId))
    (real : fetched.Made cfg (RazorpayAdapter cfg.platform config.keySecret gateway) s
      (.verifyPayment o orderId paymentId signature operationId)) :
    (mocked.final cfg s).stateAt o = (fetched.final cfg s).stateAt o := by
  have shown' : (fetched.start s).view? o = some v := by
    rw [← shown, Call.start, Call.start, time]
  obtain ⟨result, answered⟩ := verifies_mock cfg.platform config
    (verificationInput o orderId paymentId signature r)
  obtain ⟨result', answered'⟩ := verifies_razorpay cfg.platform config.keySecret
    (verificationInput o orderId paymentId signature r) reports
  obtain ⟨x, after, settles⟩ := Call.settles keyed mock.does mock.admitted shown asks mock.answered answered
  obtain ⟨y, after', settles'⟩ := Call.settles keyed real.does real.admitted shown' asks real.answered answered'
  have target := (simulates_mock secret reports answered answered').target v.order r
  rw [Services.stateAt, Services.stateAt, after, after', Option.map_some, Option.map_some, settles.state,
    settles'.state, target]

end Checkouts

/-! ### Plain checkouts -/

namespace CheckoutSample

open AuthenticSample

def isDue (cfg : Config) (v : View) : Bool :=
  v.record.any fun r =>
    (match quoteActive v.session r with
      | .ok active => active
      | .error _ => false) &&
    !paidState v.state && !X402OrderPayment.isVerified v.session.x402OrderPayment &&
    (v.verdict cfg r PaymentRail.razorpayCheckout.name).allow && decide (100 ≤ r.envelope.totalMinor) &&
    decide (v.state = .approved) && !truthy v.session.externalOrderId &&
    !VerificationResult.isVerified v.session.verification && decide (r.envelope.currency = "INR")

theorem due_of_isDue {cfg : Config} {v : View} (is : isDue cfg v = true) : ∃ r, v.Due cfg r := by
  unfold isDue at is
  cases record : v.record with
  | none =>
      rw [record] at is
      cases is
  | some r =>
  rw [record, Option.any_some] at is
  simp only [Bool.and_eq_true, Bool.not_eq_true', decide_eq_true_eq] at is
  obtain ⟨⟨⟨⟨⟨⟨⟨⟨active, unpaid⟩, unsettled⟩, allowed⟩, enough⟩, approved⟩, unbound⟩, unverified⟩, currency⟩ := is
  refine ⟨r, ⟨record, ?_, unpaid, unsettled, allowed, enough⟩, approved, unbound, unverified, currency⟩
  split at active
  · rename_i active' is
    rw [is, active]
  · cases active

/-- A call that the mock adapter answers. -/
def mocked (command : Command) : Call := ⟨command, mock.answering (obliging 0), 0⟩

theorem made_mocked {s : Services} (command : Command)
    (admitted : command.Admitted plainConfig ((mocked command).start s)) :
    (mocked command).Made plainConfig mock s command where
  does := rfl
  admitted := admitted
  answered := mock.gives_answering (obliging 0)

def initiation : Call := mocked (.initiatePayment "ord_0" "razorpay_checkout" none)

theorem due_approved : ((initiation.start approvedServices).view? "ord_0").map (isDue plainConfig) = some true := by
  decide +kernel

/-- A payment of ₹1 is simulated that is only authorized. -/
def simulating : MockRazorpayConfig where
  keySecret := "secret"
  simulatePayment := some { status := some "authorized", amountMinor := some 100 }

/-- The gateway that reports it. -/
def reporting : Gateway :=
  { silent with payments := fun paymentId => .answered ⟨paymentId, some "order_ord_0", 100, "INR", "authorized"⟩ }

def submission : Command :=
  .verifyPayment "ord_0" "order_ord_0" "pay_0" (plainPlatform.checkoutSignature "secret" "order_ord_0" "pay_0") none

def simulatedCall : Call := ⟨submission, (MockRazorpayAdapter plainPlatform simulating).answering (obliging 0), 0⟩

def reportedCall : Call :=
  ⟨submission, (RazorpayAdapter plainPlatform "secret" reporting).answering (obliging 0), 0⟩

theorem asks_pending : ((simulatedCall.start pendingServices).view? "ord_0").map (fun v =>
    (v.record.isSome, VerificationResult.isVerified v.session.verification, v.session.externalOrderId)) =
      some (true, false, some "order_ord_0") := by
  decide +kernel

end CheckoutSample

open CheckoutSample AuthenticSample in
/-- The approved order of the plain run is paid and fulfilled. -/
theorem checkout_completes_plain : ∃ submitting fulfilling : Call,
    (fulfilling.final plainConfig (submitting.final plainConfig ((mocked (.mockCapture "ord_0")).final plainConfig
      (initiation.final plainConfig approvedServices)))).stateAt "ord_0" = some .fulfilled := by
  obtain ⟨v, shown, due⟩ := Option.map_eq_some_iff.mp due_approved
  obtain ⟨r, due⟩ := due_of_isDue due
  have keyed : Keyed approvedServices := keyed_after (keyed_after keyed_opened quoting) approving
  have captured : (mocked (.mockCapture "ord_0")).command = .mockCapture "ord_0" := rfl
  obtain ⟨capture, -, completes⟩ := checkout_completes keyed rfl rfl rfl shown due
    (made_mocked (.initiatePayment "ord_0" "razorpay_checkout" none) trivial) captured
  let submission := mocked (.verifyPayment "ord_0" capture.orderId capture.paymentId capture.signature none)
  obtain ⟨-, closes⟩ := completes submission none (made_mocked _ trivial)
  exact ⟨submission, mocked (.fulfil "ord_0" false none), (closes _ false none (made_mocked _ trivial)).1⟩

open CheckoutSample AuthenticSample in
/-- The simulated payment fails the order as the reported one does. -/
theorem simulated_payment_leads_plain : (simulatedCall.final plainConfig pendingServices).stateAt "ord_0" =
    (reportedCall.final plainConfig pendingServices).stateAt "ord_0" := by
  obtain ⟨v, shown, facts⟩ := Option.map_eq_some_iff.mp asks_pending
  simp only [Prod.mk.injEq] at facts
  obtain ⟨known, unverified, bound⟩ := facts
  obtain ⟨r, record⟩ := Option.isSome_iff_exists.mp known
  exact simulated_payment_leads simulating reporting keyed_pending rfl (by decide) shown
    ⟨record, unverified, bound⟩ rfl ⟨rfl, trivial, PaymentAdapter.gives_answering _ _⟩
    ⟨rfl, trivial, PaymentAdapter.gives_answering _ _⟩

end AgentReady
