import AgentReady.Services.Payment

/-!
After payment: `fulfil` and `compensate` (`apps/web/lib/services.ts`). Neither runs under
the session lock; `compensate` is suspended while the adapter refunds.
-/

namespace AgentReady

open Svc

/-- How `fulfil` and `compensate` treat a used operation id. -/
def fulfilmentPrior : IdempotencyResult Reply → OrderState → Prior
  | .new _, _ => .run
  | .conflict existing _, _ => .reply (.result
      { ok := false, state := .draft, error := some (conflictMessage existing) })
  | .replay record, state =>
      match record.phase, record.resultPayload with
      | .completed, some payload | .failed, some payload | .rejected, some payload =>
          .reply payload
      | _, _ => .reply (.result { ok := false, state, error := some "Operation in progress" })

def fulfil (cfg : Config) (orderId : String) (fail : Bool) (operationId : Option String) :
    Svc Reply :=
  idempotent cfg operationId
    ⟨"fulfilment.complete", [("orderId", .text orderId), ("fail", .flag fail)]⟩ orderId
    fulfilmentPrior do
  match ← session? orderId with
  | none => refuse operationId { ok := false, state := .draft, error := some "Unknown session" }
  | some session =>
  if session.state ≠ .paidVerified then
    refuse operationId
      { ok := false, state := session.state,
        error := some s!"Fulfilment requires PAID_VERIFIED, current state {session.state.name}" }
  else
    setState orderId .fulfilmentPending
    if fail then
      setState orderId .fulfilmentFailed
      log cfg fun id now =>
        { eventId := id, logicalOrderId := orderId, type := "fulfilment.failed",
          actor := .merchant, occurredAt := now, decision := some .review,
          reasonCodes := ["inventory_unavailable"] }
      refuse operationId
        { ok := false, state := ← stateOf orderId,
          error := some "Simulated fulfilment failure: inventory unavailable" }
    else
      setState orderId .fulfilled
      log cfg fun id now =>
        { eventId := id, logicalOrderId := orderId, type := "fulfilment.completed",
          actor := .merchant, occurredAt := now, decision := some .allow }
      succeed operationId (some orderId) { ok := true, state := ← stateOf orderId }

/-- Record a compensation and close the order as refunded. -/
def refunded (cfg : Config) (orderId : String) (operationId : Option String)
    (compensation : Compensation) (type reasonCode : String) (references : List (String × String)) :
    Svc Reply := do
  updateSession orderId fun s => { s with compensation := some compensation }
  setState orderId .refunded
  log cfg fun id now =>
    { eventId := id, logicalOrderId := orderId, type, actor := .payment, occurredAt := now,
      externalReferences := references, decision := some .allow, reasonCodes := [reasonCode] }
  succeed operationId compensation.refundId
    { ok := true, state := ← stateOf orderId, refundId := compensation.refundId }

/-- Route a refund that failed to manual review. -/
def refundFailed (cfg : Config) (orderId : String) (operationId : Option String)
    (message : String) : Svc Reply := do
  setState orderId .manualReview
  log cfg fun id now =>
    { eventId := id, logicalOrderId := orderId, type := "compensation.manual_review",
      actor := .merchant, occurredAt := now, decision := some .review }
  refuse operationId { ok := false, state := ← stateOf orderId, error := some message }

/-- The refund of a record's total asked of the adapter. -/
def refundInput (orderId externalPaymentId : String) (record : EnvelopeRecord) :
    CompensationInput where
  logicalOrderId := orderId
  envelopeHash := record.digest
  rail := .razorpayCheckout
  externalPaymentId := externalPaymentId
  amountMinor := record.envelope.totalMinor
  reason := "Fulfilment failure — full refund"

/-- Ask the adapter for the refund. Recording it is inside the `try` of the source, so a
refused transition to `REFUNDED` is handled as a failed refund. -/
def refundThroughAdapter (cfg : Config) (orderId externalPaymentId : String)
    (operationId : Option String) (record : EnvelopeRecord) : Svc Reply :=
  tryCatch
    (do
      let result ← liftResult (← ask (.compensate (refundInput orderId externalPaymentId record)))
      refunded cfg orderId operationId ⟨result.refundId, some "full refund", result.compensated⟩
        "compensation.refunded" "paid_fulfilment_failure_refunded"
        [("refundId", result.refundId.getD "")])
    fun error => refundFailed cfg orderId operationId error.message

def compensate (cfg : Config) (orderId : String) (operationId : Option String) : Svc Reply :=
  idempotent cfg operationId ⟨"compensation.refund", [("orderId", .text orderId)]⟩ orderId
    fulfilmentPrior do
  match ← session? orderId with
  | none => refuse operationId { ok := false, state := .draft, error := some "Unknown session" }
  | some session =>
  if session.state ≠ .fulfilmentFailed ∧ session.state ≠ .compensationPending then
    refuse operationId
      { ok := false, state := session.state,
        error := some
          s!"Compensation requires FULFILMENT_FAILED, current state {session.state.name}" }
  else
  match ← record? orderId with
  | none =>
      refuse operationId { ok := false, state := session.state, error := some "No envelope" }
  | some record =>
  if !truthy session.externalPaymentId then
    refuse operationId
      { ok := false, state := session.state, error := some "No external payment id" }
  else
    let externalPaymentId := session.externalPaymentId.getD ""
    setState orderId .compensationPending
    if session.verification.any (·.rail = .x402Solana) then
      let compensationId := "cmp_MOCK_" ++ externalPaymentId
      refunded cfg orderId operationId
        ⟨some compensationId, some "mock compensating transfer", true⟩
        "compensation.mock_resolved" "mock_compensation_resolved"
        [("compensationId", compensationId), ("paymentIdentifier", externalPaymentId)]
    else refundThroughAdapter cfg orderId externalPaymentId operationId record

end AgentReady
