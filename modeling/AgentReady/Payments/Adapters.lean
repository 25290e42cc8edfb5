import AgentReady.Services.State

/-!
The payment adapters (`packages/payments/src/mock-razorpay.ts`, `razorpay.ts`, `registry.ts`).

Both verify the signature of a checkout under the key secret. What is then known of the payment, the mock makes
up and the other asks the gateway for.

* `MockRazorpayAdapter`, `RazorpayAdapter`, `createAdapterRegistry`: the adapters, and which one is used.
* `PaymentAdapter.Authentic`: an adapter accepts no payment without the signature of its checkout;
  `authentic_registry`, the one that is used does not.
* `PaymentAdapter.Captures`: an adapter reports a payment as captured; `captures_mock`, `captures_razorpay`, when the
  adapters do.
* `simulates_mock`: the mock makes of a payment what the adapter does whose gateway reports the simulated one.

Left out are the checkout payload and the headers of a request.
-/

namespace AgentReady

/-- `PaymentAdapter`. An attempt is made under an id that is drawn, at a time. -/
structure PaymentAdapter where
  rail : PaymentRail
  isMock : Bool
  initiate : (attemptId createdAt : String) → CommerceEnvelope → Except String PaymentAttempt
  verify : VerificationInput → Except String VerificationResult
  compensate : CompensationInput → Except String CompensationResult

/-- The texts have the same bytes. -/
def timingSafeEqual (a b : String) : Bool :=
  let bufA := a.toUTF8
  let bufB := b.toUTF8
  decide (bufA.size = bufB.size) && decide (bufA.data = bufB.data)

theorem timingSafeEqual_iff {a b : String} : timingSafeEqual a b = true ↔ a = b := by
  simp only [timingSafeEqual, Bool.and_eq_true, decide_eq_true_eq]
  constructor
  · rintro ⟨-, bytes⟩
    exact String.toByteArray_inj.mp (ByteArray.ext bytes)
  · rintro rfl
    exact ⟨rfl, rfl⟩

/-- The signature of the checkout of a payment. -/
def Platform.checkoutSignature (P : Platform) (keySecret orderId paymentId : String) : String :=
  P.razorpaySignature keySecret (orderId ++ "|" ++ paymentId)

/-- What is answered to a signature that does not hold. -/
def rejectedVerification (input : VerificationInput) (reason : String) : VerificationResult where
  verified := false
  rail := .razorpayCheckout
  externalOrderId := input.externalOrderId
  externalPaymentId := input.externalPaymentId
  amountMinor := 0
  currency := "INR"
  status := "failed"
  reason := some reason

/-! ### The mock -/

structure SimulatedPayment where
  status : Option String := none
  amountMinor : Option Int := none
  currency : Option String := none
  orderId : Option String := none

structure MockRazorpayConfig where
  keySecret : String
  failInitiate : Bool := false
  simulatePayment : Option SimulatedPayment := none

def MockRazorpayAdapter (P : Platform) (config : MockRazorpayConfig) : PaymentAdapter where
  rail := .razorpayCheckout
  isMock := true
  initiate attemptId createdAt envelope :=
    if config.failInitiate then
      .error "MOCK Razorpay: order creation failed (simulated outage)"
    else
      .ok {
        attemptId
        logicalOrderId := envelope.logicalOrderId
        rail := .razorpayCheckout
        externalOrderId := some ("order_MOCK_" ++ envelope.logicalOrderId)
        status := "created"
        createdAt
        amountMinor := envelope.totalMinor
        currency := envelope.currency }
  verify input :=
    let expected := P.checkoutSignature config.keySecret input.externalOrderId input.externalPaymentId
    if !timingSafeEqual expected input.signature then
      .ok (rejectedVerification input "Invalid signature (mock)")
    else
      let simulated := config.simulatePayment.getD {}
      .ok {
        verified := true
        rail := .razorpayCheckout
        externalOrderId := simulated.orderId.getD input.externalOrderId
        externalPaymentId := input.externalPaymentId
        amountMinor := simulated.amountMinor.getD input.expectedAmountMinor
        currency := simulated.currency.getD "INR"
        status := simulated.status.getD "captured" }
  compensate input :=
    .ok {
      compensated := true
      rail := .razorpayCheckout
      refundId := some ("rfnd_MOCK_" ++ input.externalPaymentId)
      reason := some ("MOCK refund for " ++ input.reason) }

/-! ### The gateway -/

structure GatewayOrderRequest where
  amount : Int
  currency : String
  receipt : String
  logicalOrderId : String
  quoteId : String
  envelopeHash : String

structure GatewayOrder where
  id : String
  amount : Int
  currency : String

structure GatewayPayment where
  id : String
  orderId : Option String
  amount : Int
  currency : String
  status : String

structure GatewayRefundRequest where
  amount : Int
  logicalOrderId : String
  reason : String

/-- How a request to the gateway goes: it is not reached, its body is no JSON, it refuses, or it answers. -/
inductive GatewayReply (α : Type) where
  | unreachable (name : String)
  | malformed (message : String)
  | refused (status : Nat) (description : Option String)
  | answered (body : α)

/-- The gateway. A refund is answered by its id. -/
structure Gateway where
  orders : GatewayOrderRequest → GatewayReply GatewayOrder
  payments : (paymentId : String) → GatewayReply GatewayPayment
  refunds : (paymentId : String) → GatewayRefundRequest → GatewayReply String

/-- `request`: the body of an answer, or the text of the error that is thrown. -/
def GatewayReply.request {α : Type} (method path : String) : GatewayReply α → Except String α
  | .unreachable name => .error ("Razorpay API unreachable (" ++ name ++ "); check network or credentials")
  | .malformed message => .error message
  | .refused status description =>
      if status = 401 then .error "Razorpay authentication failed (invalid Key ID or Key Secret)"
      else .error ("Razorpay " ++ method ++ " " ++ path ++ " failed: " ++
        description.getD ("HTTP " ++ toString status))
  | .answered body => .ok body

def RazorpayAdapter (P : Platform) (keySecret : String) (gateway : Gateway) : PaymentAdapter where
  rail := .razorpayCheckout
  isMock := false
  initiate attemptId createdAt envelope := do
    let order ← (gateway.orders {
      amount := envelope.totalMinor
      currency := envelope.currency
      receipt := "logical_" ++ envelope.logicalOrderId
      logicalOrderId := envelope.logicalOrderId
      quoteId := envelope.quoteId
      envelopeHash := P.envelopeDigest envelope }).request "POST" "/orders"
    return {
      attemptId
      logicalOrderId := envelope.logicalOrderId
      rail := .razorpayCheckout
      externalOrderId := some order.id
      status := "created"
      createdAt
      amountMinor := order.amount
      currency := order.currency }
  verify input :=
    if input.signature = "" then .ok (rejectedVerification input "Missing signature")
    else
      let expected := P.checkoutSignature keySecret input.externalOrderId input.externalPaymentId
      if !timingSafeEqual expected input.signature then
        .ok (rejectedVerification input "Invalid Razorpay signature")
      else do
        let payment ← (gateway.payments input.externalPaymentId).request "GET"
          ("/payments/" ++ input.externalPaymentId)
        let captured := payment.status == "captured" || payment.status == "authorized"
        return {
          verified := captured
          rail := .razorpayCheckout
          externalOrderId := payment.orderId.getD input.externalOrderId
          externalPaymentId := payment.id
          amountMinor := payment.amount
          currency := payment.currency
          status := payment.status
          reason := if captured then none else some ("Razorpay payment status: " ++ payment.status) }
  compensate input := do
    let refundId ← (gateway.refunds input.externalPaymentId {
      amount := input.amountMinor
      logicalOrderId := input.logicalOrderId
      reason := input.reason }).request "POST" ("/payments/" ++ input.externalPaymentId ++ "/refund")
    return { compensated := true, rail := .razorpayCheckout, refundId := some refundId }

/-! ### The registry -/

structure AdapterConfig where
  razorpayKeyId : Option String
  razorpayKeySecret : Option String
  forceMock : Bool

/-- The secret of the adapter that is used. -/
def AdapterConfig.keySecret (config : AdapterConfig) : String := config.razorpayKeySecret.getD "mock_secret"

def AdapterConfig.useReal (config : AdapterConfig) : Bool :=
  !config.forceMock && truthy config.razorpayKeyId && truthy config.razorpayKeySecret

structure AdapterRegistry where
  adapters : List PaymentAdapter

def AdapterRegistry.get? (registry : AdapterRegistry) (rail : PaymentRail) : Option PaymentAdapter :=
  registry.adapters.find? (·.rail = rail)

def AdapterRegistry.isMock (registry : AdapterRegistry) (rail : PaymentRail) : Bool :=
  ((registry.get? rail).map (·.isMock)).getD true

def createAdapterRegistry (P : Platform) (config : AdapterConfig) (gateway : Gateway) : AdapterRegistry where
  adapters :=
    if config.useReal then [RazorpayAdapter P (config.razorpayKeySecret.getD "") gateway]
    else [MockRazorpayAdapter P { keySecret := config.keySecret }]

/-! ### What an adapter accepts -/

section Accepting

variable {P : Platform} {keySecret : String} {input : VerificationInput} {result : VerificationResult}
  {gateway : Gateway}

/-- The adapter accepts no payment without the signature of its checkout. -/
def PaymentAdapter.Authentic (P : Platform) (keySecret : String) (adapter : PaymentAdapter) : Prop :=
  ∀ input result, adapter.verify input = .ok result → result.verified = true →
    input.signature = P.checkoutSignature keySecret input.externalOrderId input.externalPaymentId

theorem rejected_unverified {reason : String}
    (rejected : (.ok (rejectedVerification input reason) : Except String _) = .ok result) :
    result.verified = false := by
  obtain rfl := Except.ok.inj rejected
  rfl

theorem authentic_mock (config : MockRazorpayConfig) :
    (MockRazorpayAdapter P config).Authentic P config.keySecret := by
  intro input result answered verified
  simp only [MockRazorpayAdapter] at answered
  split at answered
  · cases (rejected_unverified answered).symm.trans verified
  · rename_i signed
    exact (timingSafeEqual_iff.mp (by simpa using signed)).symm

theorem authentic_razorpay : (RazorpayAdapter P keySecret gateway).Authentic P keySecret := by
  intro input result answered verified
  simp only [RazorpayAdapter] at answered
  split at answered
  · cases (rejected_unverified answered).symm.trans verified
  split at answered
  · cases (rejected_unverified answered).symm.trans verified
  · rename_i signed
    exact (timingSafeEqual_iff.mp (by simpa using signed)).symm

/-- Whichever adapter is used accepts no payment without the signature of its checkout under the key secret. -/
theorem authentic_registry {config : AdapterConfig} {rail : PaymentRail} {adapter : PaymentAdapter}
    (used : (createAdapterRegistry P config gateway).get? rail = some adapter) :
    adapter.Authentic P config.keySecret := by
  have mem := List.mem_of_find?_eq_some used
  simp only [createAdapterRegistry] at mem
  split at mem
  · rename_i real
    obtain rfl := List.mem_singleton.mp mem
    have given : config.razorpayKeySecret.getD "" = config.keySecret := by
      unfold AdapterConfig.keySecret
      cases secret : config.razorpayKeySecret with
      | none => simp [AdapterConfig.useReal, truthy, secret] at real
      | some secret => rfl
    rw [given]
    exact authentic_razorpay
  · obtain rfl := List.mem_singleton.mp mem
    exact authentic_mock _

/-- The adapter reports the payment as captured, for the order and of the amount that it was asked about. -/
def PaymentAdapter.Captures (adapter : PaymentAdapter) (input : VerificationInput) : Prop :=
  ∃ result, adapter.verify input = .ok result ∧ result.verified = true ∧
    result.externalOrderId = input.externalOrderId ∧ result.externalPaymentId = input.externalPaymentId ∧
    result.amountMinor = input.expectedAmountMinor ∧ result.currency = "INR" ∧ result.status = "captured"

/-- The mock opens an order, unless it simulates an outage. -/
theorem initiates_mock {config : MockRazorpayConfig} (works : config.failInitiate = false)
    (attemptId createdAt : String) (envelope : CommerceEnvelope) :
    ∃ attempt, (MockRazorpayAdapter P config).initiate attemptId createdAt envelope = .ok attempt ∧
      attempt.externalOrderId = some ("order_MOCK_" ++ envelope.logicalOrderId) := by
  simp [MockRazorpayAdapter, works]

/-- An order of the gateway is opened. -/
theorem initiates_razorpay {orderId : String}
    (opens : ∀ request, ∃ amount currency, gateway.orders request = .answered ⟨orderId, amount, currency⟩)
    (attemptId createdAt : String) (envelope : CommerceEnvelope) :
    ∃ attempt, (RazorpayAdapter P keySecret gateway).initiate attemptId createdAt envelope = .ok attempt ∧
      attempt.externalOrderId = some orderId := by
  simp only [RazorpayAdapter]
  generalize GatewayOrderRequest.mk _ _ _ _ _ _ = request
  obtain ⟨amount, currency, opened⟩ := opens request
  rw [opened]
  exact ⟨_, rfl, rfl⟩

/-- Under its signature, the mock captures any payment, unless it simulates another. -/
theorem captures_mock {config : MockRazorpayConfig} (plain : config.simulatePayment = none)
    (signed : input.signature =
      P.checkoutSignature config.keySecret input.externalOrderId input.externalPaymentId) :
    (MockRazorpayAdapter P config).Captures input := by
  have equal := timingSafeEqual_iff.mpr signed.symm
  simp [PaymentAdapter.Captures, MockRazorpayAdapter, equal, plain]

/-- Under its signature, a payment is captured that the gateway reports so. -/
theorem captures_razorpay {payment : GatewayPayment}
    (signed : input.signature = P.checkoutSignature keySecret input.externalOrderId input.externalPaymentId)
    (given : input.signature ≠ "") (known : gateway.payments input.externalPaymentId = .answered payment)
    (id : payment.id = input.externalPaymentId) (order : payment.orderId = some input.externalOrderId)
    (amount : payment.amount = input.expectedAmountMinor) (currency : payment.currency = "INR")
    (captured : payment.status = "captured") :
    (RazorpayAdapter P keySecret gateway).Captures input := by
  have equal := timingSafeEqual_iff.mpr signed.symm
  simp [PaymentAdapter.Captures, RazorpayAdapter, given, equal, known, GatewayReply.request, id, order,
    amount, currency, captured, bind, Except.bind, pure, Except.pure]

/-- A refund goes through that the gateway accepts. -/
theorem refunds_razorpay {refund : CompensationInput}
    (accepts : ∀ request, ∃ refundId, gateway.refunds refund.externalPaymentId request = .answered refundId) :
    ∃ result, (RazorpayAdapter P keySecret gateway).compensate refund = .ok result := by
  obtain ⟨refundId, accepted⟩ := accepts ⟨refund.amountMinor, refund.logicalOrderId, refund.reason⟩
  simp only [RazorpayAdapter, accepted]
  exact ⟨_, rfl⟩

/-- What the gateway would report of a simulated payment. -/
def SimulatedPayment.reported (simulated : SimulatedPayment) (input : VerificationInput) : GatewayPayment where
  id := input.externalPaymentId
  orderId := some (simulated.orderId.getD input.externalOrderId)
  amount := simulated.amountMinor.getD input.expectedAmountMinor
  currency := simulated.currency.getD "INR"
  status := simulated.status.getD "captured"

/-- What the mock and the gateway that reports the simulated payment make of a payment: both reject its signature, or
they know the same of it, and differ at most where it is not captured. -/
inductive Simulates (result result' : VerificationResult) : Prop where
  | rejected (mocked : result.verified = false) (fetched : result'.verified = false)
  | known (order : result'.externalOrderId = result.externalOrderId) (amount : result'.amountMinor = result.amountMinor)
      (currency : result'.currency = result.currency) (status : result'.status = result.status)
      (mocked : result.verified = true) (fetched : result.status = "captured" → result'.verified = true)

/-- The mock always answers, and so does the adapter that the gateway answers. -/
theorem verifies_mock (P : Platform) (config : MockRazorpayConfig) (input : VerificationInput) :
    ∃ result, (MockRazorpayAdapter P config).verify input = .ok result := by
  simp only [MockRazorpayAdapter]
  split <;> exact ⟨_, rfl⟩

theorem verifies_razorpay (P : Platform) (keySecret : String) (input : VerificationInput) {payment : GatewayPayment}
    (reports : gateway.payments input.externalPaymentId = .answered payment) :
    ∃ result, (RazorpayAdapter P keySecret gateway).verify input = .ok result := by
  simp only [RazorpayAdapter, reports, GatewayReply.request]
  split
  · exact ⟨_, rfl⟩
  split <;> exact ⟨_, rfl⟩

theorem simulates_mock {config : MockRazorpayConfig} {result result' : VerificationResult}
    (given : P.checkoutSignature config.keySecret input.externalOrderId input.externalPaymentId ≠ "")
    (reports : gateway.payments input.externalPaymentId =
      .answered ((config.simulatePayment.getD {}).reported input))
    (mocked : (MockRazorpayAdapter P config).verify input = .ok result)
    (fetched : (RazorpayAdapter P config.keySecret gateway).verify input = .ok result') : Simulates result result' := by
  simp only [MockRazorpayAdapter] at mocked
  simp only [RazorpayAdapter, reports, GatewayReply.request] at fetched
  by_cases signed : input.signature = P.checkoutSignature config.keySecret input.externalOrderId input.externalPaymentId
  · have equal := timingSafeEqual_iff.mpr signed.symm
    rw [equal] at mocked fetched
    rw [if_neg (signed ▸ given)] at fetched
    obtain rfl := Except.ok.inj mocked
    obtain rfl := Except.ok.inj fetched
    exact .known rfl rfl rfl rfl rfl fun captured => by
      dsimp only at captured
      simp only [SimulatedPayment.reported]
      rw [captured]
      rfl
  · have differ : timingSafeEqual (P.checkoutSignature config.keySecret input.externalOrderId input.externalPaymentId)
        input.signature = false := Bool.eq_false_iff.mpr fun equal => signed (timingSafeEqual_iff.mp equal).symm
    rw [differ] at mocked fetched
    refine .rejected (rejected_unverified mocked) ?_
    split at fetched
    · exact rejected_unverified fetched
    · exact rejected_unverified fetched

end Accepting

end AgentReady
