import AgentReady.Services.Payment

/-!
The Agent Pay rail: `prepareX402OrderPayment` and `confirmX402OrderPayment`
(`apps/web/lib/services.ts`). Both run under the session lock and are never suspended.
-/

namespace AgentReady

open Svc

/-- How the Agent Pay operations treat a used operation id: a failed one stays in
progress. -/
def x402Prior : IdempotencyResult Reply → OrderState → Prior
  | .new _, _ => .run
  | .conflict existing _, _ => .reply (.result
      { ok := false, state := .draft, error := some (conflictMessage existing) })
  | .replay record, state =>
      match record.phase, record.resultPayload with
      | .completed, some payload => .reply payload
      | .completed, none => .run
      | _, _ => .reply (.result { ok := false, state, error := some "Operation in progress" })

/-- Log the rejection of an Agent Pay operation and refuse it. -/
def rejectX402 (cfg : Config) (orderId : String) (operationId : Option String)
    (state : OrderState) (error : String) (reasonCodes : List String)
    (inputDigest : Option String := none) (decision : PolicyDecision := .block) : Svc Reply := do
  log cfg fun id now =>
    { eventId := id, logicalOrderId := orderId, type := "x402_order.rejected", actor := .policy,
      occurredAt := now, inputDigest, decision := some decision, reasonCodes }
  refuse operationId { ok := false, state, error := some error, reasonCodes }

/-- The pending payment of a record. -/
def preparePayment (cfg : Config) (orderId : String) (record : EnvelopeRecord) :
    X402OrderPayment :=
  let request : OrderPaymentRequest :=
    { logicalOrderId := orderId
      envelopeDigest := record.digest
      network := x402MockOrderNetwork
      asset := x402MockOrderAsset
      amountMinor := record.envelope.totalMinor
      currency := record.envelope.currency
      payee := x402MockOrderPayee
      purpose := x402MockOrderPurpose }
  let requestDigest := cfg.platform.canonicalOrderPaymentRequestDigest request
  { paymentIdentifier := mockOrderPaymentIdentifier requestDigest
    requestDigest
    envelopeDigest := record.digest
    network := request.network
    asset := request.asset
    amountMinor := request.amountMinor
    currency := request.currency
    recipient := request.payee
    status := .pending }

def prepareX402OrderPayment (cfg : Config) (orderId : String) (operationId : Option String) :
    Svc Reply :=
  idempotent cfg operationId ⟨"x402_order.prepare", [("orderId", .text orderId)]⟩ orderId
    x402Prior do
  match ← session? orderId with
  | none => refuse operationId { ok := false, state := .draft, error := some "Unknown session" }
  | some session =>
  match ← record? orderId with
  | none =>
      refuse operationId { ok := false, state := session.state, error := some "No envelope" }
  | some record =>
  let reject := rejectX402 cfg orderId operationId session.state
  if !cfg.isMock then
    reject "Agent Pay order payment is a mock simulation; unavailable outside mock mode"
      ["mock_only_rail"]
  else if VerificationResult.isVerified session.verification ||
      X402OrderPayment.isVerified session.x402OrderPayment || paidState session.state then
    reject "This order already settled on one rail; Agent Pay preparation is rejected."
      railSingleSuccess
  else if truthy session.externalOrderId then
    reject "A Razorpay payment was already initiated for this order; Agent Pay is rejected."
      ["rail_already_initiated"]
  else if !(← liftResult (quoteActive session record)) then
    reject "Payment blocked: this quote is no longer active for the current intent"
      ["quote_invalidated"]
  else
  let verdict := paymentVerdict cfg (← Coop.Proc.read) session record PaymentRail.x402Solana.name
  if !verdict.allow then
    rejectX402 cfg orderId operationId session.state
      ("Policy blocked Agent Pay: " ++ joinWith ", " verdict.reasonCodes) verdict.reasonCodes
      (some record.digest) verdict.decision
  else
  match session.x402OrderPayment.filter (·.envelopeDigest = record.digest) with
  | some payment =>
      log cfg fun id now =>
        { eventId := id, logicalOrderId := orderId, type := "x402_order.duplicate",
          actor := .payment, occurredAt := now,
          externalReferences := [("paymentIdentifier", payment.paymentIdentifier)],
          decision := some .review, reasonCodes := ["duplicate_prepare_reused"] }
      succeed operationId (some payment.paymentIdentifier)
        { ok := true, payment := some payment, state := session.state }
  | none =>
      let payment := preparePayment cfg orderId record
      updateSession orderId fun s => { s with x402OrderPayment := some payment }
      log cfg fun id now =>
        { eventId := id, logicalOrderId := orderId, type := "x402_order.prepared",
          actor := .payment, occurredAt := now,
          externalReferences := [("paymentIdentifier", payment.paymentIdentifier),
            ("requestDigest", payment.requestDigest), ("envelopeDigest", record.digest)],
          inputDigest := some record.digest, decision := some .allow,
          reasonCodes := ["rail_selected", "mock_order_initiated"] }
      succeed operationId (some payment.paymentIdentifier)
        { ok := true, payment := some payment, state := session.state }

/-- The payment, settled. -/
def X402OrderPayment.settled (payment : X402OrderPayment) : X402OrderPayment :=
  { payment with
    status := .verified
    mockTxHash := some ("x402sim_" ++ takeText 12 payment.requestDigest) }

/-- The evidence of a settled Agent Pay payment. -/
def x402Verification (paymentIdentifier : String) (record : EnvelopeRecord) :
    VerificationResult where
  verified := true
  rail := .x402Solana
  externalOrderId := paymentIdentifier
  externalPaymentId := paymentIdentifier
  amountMinor := record.envelope.totalMinor
  currency := record.envelope.currency
  status := "captured"

/-- The pending payment was prepared for this record, which the session approved. -/
def preparedFor (session : Session) (record : EnvelopeRecord) (pending : X402OrderPayment) :
    Bool :=
  record.digest = pending.envelopeDigest && session.approvedDigest = some record.digest &&
    truthy session.approvalEventId

def confirmX402OrderPayment (cfg : Config) (orderId paymentIdentifier : String)
    (operationId : Option String) : Svc Reply :=
  idempotent cfg operationId
    ⟨"x402_order.confirm",
      [("orderId", .text orderId), ("paymentIdentifier", .text paymentIdentifier)]⟩ orderId
    x402Prior do
  match ← session? orderId with
  | none => refuse operationId { ok := false, state := .draft, error := some "Unknown session" }
  | some session =>
  let reject := rejectX402 cfg orderId operationId session.state
  match ← record? orderId,
      session.x402OrderPayment.filter (·.paymentIdentifier = paymentIdentifier) with
  | some record, some pending =>
      if pending.status = .verified then
        log cfg fun id now =>
          { eventId := id, logicalOrderId := orderId, type := "x402_order.duplicate",
            actor := .payment, occurredAt := now,
            externalReferences := [("paymentIdentifier", paymentIdentifier)],
            decision := some .review, reasonCodes := ["duplicate_confirm_reused"] }
        succeed operationId (some paymentIdentifier) { ok := true, state := session.state }
      else
      let active ← if preparedFor session record pending then
          liftResult (quoteActive session record)
        else pure false
      if !active then
        rejectX402 cfg orderId operationId session.state
          "Envelope changed since Agent Pay preparation; approve the exact envelope again"
          ["quote_invalidated"] (some pending.envelopeDigest)
      else if VerificationResult.isVerified session.verification ||
          truthy session.externalOrderId || paidState session.state then
        reject ("This order already settled or started on one rail; Agent Pay confirmation is " ++
          "rejected.") railSingleSuccess
      else
        updateSession orderId fun s => { s with
          x402OrderPayment := some pending.settled
          verification := some (x402Verification paymentIdentifier record)
          externalPaymentId := some paymentIdentifier }
        setState orderId .paymentPending
        setState orderId .paidVerified
        log cfg fun id now =>
          { eventId := id, logicalOrderId := orderId, type := "x402_order.verified",
            actor := .payment, occurredAt := now,
            externalReferences := [("paymentIdentifier", paymentIdentifier),
              ("mockTxHash", pending.settled.mockTxHash.getD ""),
              ("envelopeDigest", record.digest)],
            decision := some .allow,
            reasonCodes := ["mock_settlement_verified", "rail_binding_verified",
              "rail_single_success"] }
        succeed operationId (some paymentIdentifier)
          { ok := true, state := ← stateOf orderId, payment := some pending.settled }
  | _, _ =>
      reject "Unknown Agent Pay payment identifier for this order" ["identifier_unknown"]

end AgentReady
