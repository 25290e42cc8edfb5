import AgentReady.Services.Quote

/-!
The Razorpay rail: `initiatePayment`, `mockCapture` and `verifyPayment`
(`apps/web/lib/services.ts`).

`initiatePayment` runs under the session lock, `verifyPayment` does not; each is suspended
once, while the adapter is asked.
-/

namespace AgentReady

open Svc

/-- The order is paid, and its fulfilment has not failed. -/
def paidState (state : OrderState) : Bool :=
  state = .paidVerified || state = .fulfilmentPending || state = .fulfilled

def X402OrderPayment.isVerified (payment : Option X402OrderPayment) : Bool :=
  payment.any (·.status = .verified)

def VerificationResult.isVerified (verification : Option VerificationResult) : Bool :=
  verification.any (·.verified)

/-- The policy verdict on the record of an order, under the customer's mandate. -/
def paymentVerdict (cfg : Config) (s : Services) (session : Session) (record : EnvelopeRecord)
    (rail : String) : PolicyVerdict :=
  checkEnvelopeForPayment cfg.platform
    { envelope := record.envelope
      mandate := s.mandates.get? session.customerId
      expectedDigest := record.digest
      rail
      approved := approvedRecord session record
      allowAutoApprove := false
      nowIso := isoString s.clock }

def railSingleSuccess : List String := ["rail_single_success"]

/-- Record the order the adapter created and report the attempt. -/
def paymentInitiated (cfg : Config) (orderId : String) (operationId : Option String)
    (attempt : PaymentAttempt) : Svc Reply := do
  updateSession orderId fun s => { s with externalOrderId := attempt.externalOrderId }
  log cfg fun id now =>
    { eventId := id, logicalOrderId := orderId, type := "payment.initiated", actor := .payment,
      occurredAt := now, externalReferences := [("orderId", attempt.externalOrderId.getD "")],
      decision := some .allow }
  succeed operationId attempt.externalOrderId
    { ok := true, attempt := some attempt, state := ← stateOf orderId }

/-- Fail the payment whose order the adapter could not create. -/
def initiationFailed (cfg : Config) (orderId : String) (operationId : Option String)
    (message : String) : Svc Reply := do
  setState orderId .paymentFailed
  log cfg fun id now =>
    { eventId := id, logicalOrderId := orderId, type := "payment.initiate_failed",
      actor := .payment, occurredAt := now, decision := some .review }
  refuse operationId { ok := false, state := ← stateOf orderId, error := some message }

/-- Reuse the order an earlier initiation created. -/
def reuseInitiation (cfg : Config) (orderId : String) (operationId : Option String)
    (session : Session) (record : EnvelopeRecord) : Svc Reply := do
  if session.state = .paymentFailed then setState orderId .paymentPending
  let attemptId ← newId cfg "att"
  let attempt : PaymentAttempt :=
    { attemptId, logicalOrderId := orderId, rail := .razorpayCheckout,
      externalOrderId := session.externalOrderId, status := "created",
      createdAt := record.issuedAt, amountMinor := record.envelope.totalMinor,
      currency := record.envelope.currency }
  succeed operationId attempt.externalOrderId
    { ok := true, attempt := some attempt, state := ← stateOf orderId }

def initiatePayment (cfg : Config) (orderId rail : String) (operationId : Option String) :
    Svc Reply :=
  idempotent cfg operationId
    ⟨"payment.initiate", [("orderId", .text orderId), ("rail", .text rail)]⟩ orderId
    (resumingPrior (["operation_conflict"], ["operation_pending"])) do
  match ← session? orderId with
  | none => refuse operationId { ok := false, state := .draft, error := some "Unknown session" }
  | some session =>
  match ← record? orderId with
  | none =>
      refuse operationId { ok := false, state := session.state, error := some "No envelope" }
  | some record =>
  if !(← liftResult (quoteActive session record)) then
    refuse operationId
      { ok := false, state := session.state,
        error := some "Payment blocked: this quote is no longer active for the current intent",
        reasonCodes := ["quote_invalidated"] }
  else if paidState session.state then
    refuse operationId
      { ok := false, state := session.state,
        error := some ("This order already has a successful payment; new rail initiation is " ++
          "rejected."),
        reasonCodes := railSingleSuccess }
  else if X402OrderPayment.isVerified session.x402OrderPayment then
    log cfg fun id now =>
      { eventId := id, logicalOrderId := orderId, type := "payment.rail_rejected",
        actor := .policy, occurredAt := now,
        externalReferences := [("paymentIdentifier",
          (session.x402OrderPayment.map (·.paymentIdentifier)).getD "")],
        decision := some .block, reasonCodes := railSingleSuccess }
    refuse operationId
      { ok := false, state := session.state,
        error := some ("This order already settled via Agent Pay (x402 mock); Razorpay " ++
          "initiation is rejected."),
        reasonCodes := railSingleSuccess }
  else
  let verdict := paymentVerdict cfg (← Coop.Proc.read) session record rail
  if !verdict.allow then
    log cfg fun id now =>
      { eventId := id, logicalOrderId := orderId, type := "policy.payment_blocked",
        actor := .policy, occurredAt := now, inputDigest := some record.digest,
        decision := some verdict.decision, reasonCodes := verdict.reasonCodes }
    refuse operationId
      { ok := false, state := session.state,
        error := some ("Policy blocked payment: " ++ joinWith ", " verdict.reasonCodes),
        reasonCodes := verdict.reasonCodes }
  else if record.envelope.totalMinor < 100 then
    refuse operationId
      { ok := false, state := session.state,
        error := some "Order amount is below Razorpay's 100 paise minimum",
        reasonCodes := ["amount_below_minimum"] }
  else if truthy session.externalOrderId then
    reuseInitiation cfg orderId operationId session record
  else if rail ≠ PaymentRail.razorpayCheckout.name then
    refuse operationId
      { ok := false, state := session.state, error := some ("No adapter for rail " ++ rail) }
  else
    setState orderId .paymentPending
    match ← ask (.initiate record.envelope) with
    | .ok attempt => paymentInitiated cfg orderId operationId attempt
    | .error message => initiationFailed cfg orderId operationId message

def mockCapture (cfg : Config) (orderId : String) : Svc Reply := do
  match ← session? orderId with
  | none => throw (.other "No initiated order")
  | some session =>
      if X402OrderPayment.isVerified session.x402OrderPayment then
        throw (.other
          "Order already settled via Agent Pay (x402 mock); Razorpay capture is rejected.")
      else if !truthy session.externalOrderId then throw (.other "No initiated order")
      else
        let externalOrderId := session.externalOrderId.getD ""
        let paymentId := "pay_MOCK_" ++ externalOrderId ++ "_" ++ toString (← now)
        return .capture
          { paymentId,
            signature := cfg.platform.razorpaySignature cfg.razorpayKeySecret
              (externalOrderId ++ "|" ++ paymentId),
            orderId := externalOrderId }

/-! ### Verification -/

/-- How `verifyPayment` treats a used operation id. -/
def verifyPrior : IdempotencyResult Reply → OrderState → Prior
  | .new _, _ => .run
  | .conflict existing _, _ => .reply (.result
      { ok := false, state := .draft, error := some (conflictMessage existing) })
  | .replay record, _ =>
      match record.phase, record.resultPayload with
      | .completed, some payload | .failed, some payload | .rejected, some payload =>
          .reply payload
      | _, _ => .reply (.result
          { ok := false, state := .draft, error := some "Operation in progress" })

/-- The ways in which a fetched payment does not bind to the order and its record. -/
def bindingFailures (result : VerificationResult) (externalOrderId : Option String)
    (record : EnvelopeRecord) : List String :=
  let total := record.envelope.totalMinor
  codeWhen (some result.externalOrderId ≠ externalOrderId)
      s!"fetched payment order_id {result.externalOrderId} does not match session order" ++
    codeWhen (result.amountMinor ≠ total)
      s!"amount {result.amountMinor} does not match approved envelope {total}" ++
    codeWhen (result.currency ≠ record.envelope.currency)
      s!"currency {result.currency} does not match approved envelope {record.envelope.currency}" ++
    codeWhen (result.status ≠ "captured") s!"payment status is {result.status}, not captured"

/-- `servicesReconcileHeld`: a held webhook counts as processed once the client verified. -/
def reconcileHeld (cfg : Config) (orderId : String) : Svc Unit := do
  match (← session? orderId).bind (·.heldWebhook) with
  | none => return ()
  | some held =>
      updateSession orderId fun s => { s with heldWebhook := none }
      markProcessed held.eventId
      log cfg fun id now =>
        { eventId := id, logicalOrderId := orderId,
          type := "webhook.reconciled_after_client_verification", actor := .payment,
          occurredAt := now,
          externalReferences := [("eventId", held.eventId), ("paymentId", held.paymentId)],
          decision := some .allow,
          reasonCodes := ["out_of_order_webhook_reconciled", "rail_single_success"] }

/-- Fail the payment after the adapter answered: an unverified payment, or one that does
not bind. -/
def paymentFailed (cfg : Config) (orderId externalPaymentId : String)
    (operationId : Option String) (type : String) (actor : AuditActor) (code message : String) :
    Svc Reply := do
  setState orderId .paymentFailed
  log cfg fun id now =>
    { eventId := id, logicalOrderId := orderId, type, actor, occurredAt := now,
      externalReferences := [("paymentId", externalPaymentId)], decision := some .block,
      reasonCodes := [code] }
  refuse operationId { ok := false, state := ← stateOf orderId, error := some message }

/-- What `verifyPayment` does with the adapter's result: the result is stored before it is
looked at. -/
def settleVerification (cfg : Config) (orderId externalOrderId externalPaymentId : String)
    (operationId : Option String) (record : EnvelopeRecord) (result : VerificationResult) :
    Svc Reply := do
  updateSession orderId fun s =>
    { s with verification := some result, externalPaymentId := some externalPaymentId }
  if !result.verified then
    paymentFailed cfg orderId externalPaymentId operationId "payment.verification_failed" .payment
      "signature_invalid" (result.reason.getD "Verification failed")
  else
    let failures := bindingFailures result ((← session? orderId).bind (·.externalOrderId)) record
    if !failures.isEmpty then
      paymentFailed cfg orderId externalPaymentId operationId "payment.binding_rejected" .policy
        "rail_binding_failed" ("Payment binding rejected: " ++ joinWith "; " failures)
    else
      setState orderId .paidVerified
      log cfg fun id now =>
        { eventId := id, logicalOrderId := orderId, type := "payment.verified", actor := .payment,
          occurredAt := now,
          externalReferences := [("orderId", externalOrderId), ("paymentId", externalPaymentId)],
          decision := some .allow,
          reasonCodes := ["signature_verified", "rail_binding_verified", "rail_single_success"] }
      reconcileHeld cfg orderId
      succeed operationId (some externalPaymentId) { ok := true, state := ← stateOf orderId }

/-- The repeat of a verification that succeeded on this rail, for the same order and
payment. -/
def repeatsVerification (session : Session) (externalOrderId externalPaymentId : String) : Bool :=
  session.verification.any (·.rail = .razorpayCheckout) &&
    session.externalOrderId = some externalOrderId &&
    session.externalPaymentId = some externalPaymentId

def verifyPayment (cfg : Config) (orderId externalOrderId externalPaymentId signature : String)
    (operationId : Option String) : Svc Reply :=
  idempotent cfg operationId
    ⟨"payment.verify", [("orderId", .text orderId), ("externalOrderId", .text externalOrderId),
      ("externalPaymentId", .text externalPaymentId)]⟩ orderId verifyPrior do
  match ← session? orderId with
  | none => refuse operationId { ok := false, state := .draft, error := some "Unknown session" }
  | some session =>
  match ← record? orderId with
  | none =>
      refuse operationId { ok := false, state := session.state, error := some "No envelope" }
  | some record =>
  if VerificationResult.isVerified session.verification then
    if repeatsVerification session externalOrderId externalPaymentId then
      succeed operationId (some externalPaymentId) { ok := true, state := session.state }
    else
      log cfg fun id now =>
        { eventId := id, logicalOrderId := orderId, type := "payment.rail_rejected",
          actor := .policy, occurredAt := now,
          externalReferences := [("paymentId", externalPaymentId)], decision := some .block,
          reasonCodes := railSingleSuccess }
      refuse operationId
        { ok := false, state := session.state,
          error := some ("This order already settled on another rail; Razorpay verification is " ++
            "rejected.") }
  else if session.externalOrderId ≠ some externalOrderId then
    log cfg fun id now =>
      { eventId := id, logicalOrderId := orderId, type := "payment.binding_rejected",
        actor := .policy, occurredAt := now, decision := some .block,
        reasonCodes := ["order_id_mismatch"] }
    setState orderId .paymentFailed
    refuse operationId
      { ok := false, state := ← stateOf orderId,
        error := some "Submitted Razorpay order does not match this session's order" }
  else
    let answer ← ask (.verify
      { logicalOrderId := orderId
        envelopeHash := record.digest
        rail := .razorpayCheckout
        externalOrderId
        externalPaymentId
        expectedAmountMinor := record.envelope.totalMinor
        signature })
    let result ← liftResult answer
    settleVerification cfg orderId externalOrderId externalPaymentId operationId record result

end AgentReady
