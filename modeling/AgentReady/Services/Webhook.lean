import AgentReady.Services.Payment

/-!
Razorpay webhooks: `processRazorpayWebhookRaw` (`apps/web/lib/webhook.ts`) and the
services it calls.

A delivery is bound to a session through its Razorpay order id. It pays an order only in
`PAYMENT_PENDING`; in `PAYMENT_FAILED` it is held until the client verifies. Nothing is
awaited before the last write.
-/

namespace AgentReady

open Svc

/-! ### Payloads -/

/-- The text of a property that may be absent. -/
def propertyText (field : Option Json) : String := (field.map Json.toText).getD "undefined"

/-- The payment entity of a delivery. Its fields have the JSON types the sender chose. -/
structure WebhookEntity where
  id : String
  orderId : Option Json
  amount : Option Json
  currency : Option Json
  status : Option Json
  notesOrderId : Option Json

structure WebhookBody where
  event : Option Json
  entity : Option WebhookEntity

/-- A property of a value that need not be an object. -/
def member (value : Option Json) (name : String) : Option Json :=
  value.bind fun v => property v name

/-- The payment entity of a body, where it has one with an id. -/
def webhookEntity (body : Json) : Option WebhookEntity := do
  let entity ← member (member (property body "payload") "payment") "entity"
  let id ← property entity "id"
  if Json.isTruthy id then
    return {
      id := Json.toText id
      orderId := (property entity "order_id").filter Json.isTruthy
      amount := property entity "amount"
      currency := property entity "currency"
      status := property entity "status"
      notesOrderId := (member (property entity "notes") "logicalOrderId").filter Json.isTruthy }
  else none

/-- The parts of a parsed body; reading a property of `null` throws. -/
def webhookBody : Json → Except String WebhookBody
  | .null => .error "Cannot read properties of null (reading 'event')"
  | body => .ok ⟨property body "event", webhookEntity body⟩

def supportedEvents : List String := ["payment.captured", "payment.authorized"]

/-! ### Paying an order -/

structure WebhookClaims where
  amountMinor : Option Json := none
  currency : Option Json := none
  status : Option Json := none

/-- The ways in which claimed payment facts do not bind to the order and its record. -/
def webhookFailures (claims : WebhookClaims) (orderIdExternal : String) (session : Session)
    (record : EnvelopeRecord) : List String :=
  let total := record.envelope.totalMinor
  let currency := record.envelope.currency
  codeWhen (some orderIdExternal ≠ session.externalOrderId)
      s!"webhook order_id {orderIdExternal} does not match session order" ++
    codeWhen (claims.amountMinor.any fun v => !Json.isInt total v)
      s!"webhook amount {propertyText claims.amountMinor} does not match approved envelope {total}" ++
    codeWhen (claims.currency.any fun v => !Json.isText currency v)
      s!"webhook currency {propertyText claims.currency} does not match approved envelope {currency}" ++
    codeWhen (claims.status.any fun v => !Json.isText "captured" v)
      s!"webhook status is {propertyText claims.status}, not captured"

/-- The evidence of a payment that a webhook reports. -/
def webhookVerification (paymentId orderIdExternal : String) (record : EnvelopeRecord) :
    VerificationResult where
  verified := true
  rail := .razorpayCheckout
  externalOrderId := orderIdExternal
  externalPaymentId := paymentId
  amountMinor := record.envelope.totalMinor
  currency := record.envelope.currency
  status := "captured"

def markVerifiedFromWebhook (cfg : Config) (orderId paymentId orderIdExternal : String)
    (claims : WebhookClaims) : Svc Reply := do
  match ← session? orderId, ← record? orderId with
  | some session, some record =>
      let failures := webhookFailures claims orderIdExternal session record
      if !failures.isEmpty then
        log cfg fun id now =>
          { eventId := id, logicalOrderId := orderId, type := "webhook.binding_rejected",
            actor := .policy, occurredAt := now,
            externalReferences := [("paymentId", paymentId), ("orderId", orderIdExternal)],
            decision := some .block, reasonCodes := ["webhook_binding_failed"] }
        return .marked false failures
      else
        let eventId := "webhook_mark_" ++ paymentId
        if (← Coop.Proc.read).webhookDedup.has eventId then return .marked true []
        else
          markProcessed eventId
          updateSession orderId fun s => { s with
            externalPaymentId := some paymentId
            verification := some (webhookVerification paymentId orderIdExternal record) }
          setState orderId .paidVerified
          log cfg fun id now =>
            { eventId := id, logicalOrderId := orderId, type := "payment.verified_via_webhook",
              actor := .payment, occurredAt := now,
              externalReferences := [("paymentId", paymentId), ("orderId", orderIdExternal)],
              decision := some .allow,
              reasonCodes := ["webhook_verified", "rail_binding_verified",
                "rail_single_success"] }
          return .marked true []
  | _, _ => return .marked false ["no session or envelope"]

def holdWebhook (orderId : String) (held : HeldWebhook) : Svc Unit :=
  updateSession orderId fun s => { s with heldWebhook := some held }

def findSessionByExternalOrderId (orderIdExternal : String) : Svc (Option Session) := do
  return (← Coop.Proc.read).sessions.find? (·.externalOrderId = some orderIdExternal)

/-! ### Deliveries -/

/-- A status as an error text names it. -/
def statusText : Option Json → String
  | none | some .null => "unknown"
  | some value => Json.toText value

/-- The ways in which an entity does not bind to the stored record. -/
def deliveryFailures (entity : WebhookEntity) : Option EnvelopeRecord → List String
  | none => ["no envelope record for this order"]
  | some record =>
      let total := record.envelope.totalMinor
      let currency := record.envelope.currency
      codeWhen (entity.amount.any fun v => !Json.isInt total v)
          s!"amount {propertyText entity.amount} does not match approved envelope {total}" ++
        codeWhen (entity.currency.any fun v => !Json.isText currency v)
          s!"currency {propertyText entity.currency} does not match approved envelope {currency}" ++
        codeWhen (!entity.status.any (Json.isText "captured"))
          s!"payment status is {statusText entity.status}, not captured"

/-- Apply a bound delivery to its order, by the state of the order. -/
def dispatchWebhook (cfg : Config) (session : Session) (entity : WebhookEntity)
    (externalOrderId eventId : String) (found : WebhookOutcome) : Svc Reply := do
  let orderId := session.logicalOrderId
  let note (type : String) (code : String) := log cfg fun id now =>
    { eventId := id, logicalOrderId := orderId, type, actor := .payment, occurredAt := now,
      externalReferences := [("eventId", eventId), ("paymentId", entity.id)],
      decision := some .review, reasonCodes := [code] }
  if session.state = .paymentPending then
    markProcessed eventId
    let marked ← markVerifiedFromWebhook cfg orderId entity.id externalOrderId
      { amountMinor := entity.amount, currency := entity.currency, status := entity.status }
    ask .yield
    return .webhook { found with
      ok := true
      processed := marked.ok
      reasonCode := if marked.ok then "accepted" else "state_unsuitable" }
  else if session.state = .paymentFailed then
    holdWebhook orderId ⟨eventId, entity.id, externalOrderId⟩
    note "webhook.held_for_reconciliation" "out_of_order_webhook_held"
    return .webhook { found with ok := true, held := true, reasonCode := "held" }
  else if paidState session.state then
    markProcessed eventId
    note "webhook.duplicate_rail_note" "rail_single_success"
    return .webhook { found with ok := true, processed := true, reasonCode := "accepted" }
  else
    return .webhook { found with
      ok := false
      error := some s!"Webhook cannot be applied in state {session.state.name}"
      reasonCode := "state_unsuitable" }

/-- The session of a Razorpay order id; an id that is not a text belongs to none. -/
def sessionOfDelivery : Json → Svc (Option Session)
  | .str externalOrderId => findSessionByExternalOrderId externalOrderId
  | _ => return none

/-- Bind a delivery of a supported event to its session and its record. -/
def bindWebhook (cfg : Config) (entity : WebhookEntity) (eventId : String)
    (found : WebhookOutcome) : Svc Reply := do
  match entity.orderId with
  | none =>
      return .webhook { found with
        ok := false
        error := some "Webhook has no payment order_id; cannot bind to a session"
        reasonCode := "missing_order_id" }
  | some value =>
      let externalOrderId := Json.toText value
      let found := { found with orderId := some externalOrderId }
      match ← sessionOfDelivery value with
      | none =>
          return .webhook { found with
            ok := false
            error := some s!"Webhook for unknown Razorpay order {externalOrderId}"
            reasonCode := "unknown_order" }
      | some session =>
          let orderId := session.logicalOrderId
          log cfg fun id now =>
            { eventId := id, logicalOrderId := orderId, type := "webhook.received",
              actor := .payment, occurredAt := now,
              externalReferences := [("eventId", eventId), ("paymentId", entity.id),
                ("orderId", externalOrderId)] }
          if entity.notesOrderId.any fun v => !Json.isText orderId v then
            log cfg fun id now =>
              { eventId := id, logicalOrderId := orderId, type := "webhook.notes_mismatch",
                actor := .payment, occurredAt := now, decision := some .review,
                reasonCodes := ["webhook_notes_untrusted"] }
          let failures := deliveryFailures entity (← record? orderId)
          if !failures.isEmpty then
            log cfg fun id now =>
              { eventId := id, logicalOrderId := orderId, type := "webhook.binding_rejected",
                actor := .policy, occurredAt := now,
                externalReferences := [("eventId", eventId), ("paymentId", entity.id)],
                decision := some .block, reasonCodes := ["webhook_binding_failed"] }
            return .webhook { found with
              ok := false
              error := some ("Webhook binding rejected: " ++ joinWith "; " failures)
              reasonCode := "binding_failed" }
          else dispatchWebhook cfg session entity externalOrderId eventId found

/-- A delivery whose signature holds and whose body parses. -/
def acceptWebhook (cfg : Config) (body : WebhookBody) (eventIdHeader : Option String) :
    Svc Reply := do
  let event := propertyText body.event
  match body.entity with
  | none =>
      return .webhook
        { ok := false, reasonCode := "missing_payment_entity", event := some event,
          error := some "Malformed webhook payload: no payment entity" }
  | some entity =>
      let eventId := eventIdHeader.getD (event ++ "_" ++ entity.id)
      let found : WebhookOutcome :=
        { ok := false, reasonCode := "", event := some event, eventId := some eventId,
          paymentId := some entity.id }
      if (← Coop.Proc.read).webhookDedup.has eventId then
        return .webhook { found with
          ok := true, deduplicated := true, reasonCode := "deduplicated" }
      else if !(body.event.any fun v => supportedEvents.any fun e => Json.isText e v) then
        log cfg fun id now =>
          { eventId := id, logicalOrderId := "unknown", type := "webhook.ignored",
            actor := .payment, occurredAt := now,
            externalReferences := [("eventId", eventId), ("paymentId", entity.id)],
            decision := some .review, reasonCodes := ["unsupported_event_ignored"] }
        return .webhook { found with ok := true, ignored := true, reasonCode := "unsupported_event" }
      else bindWebhook cfg entity eventId found

def processRazorpayWebhookRaw (cfg : Config) (rawBody : String)
    (signature eventIdHeader : Option String) (webhookSecret : String) : Svc Reply := do
  if !truthy signature then
    return .webhook
      { ok := false, reasonCode := "missing_signature", event := some "unknown",
        error := some "Missing x-razorpay-signature header" }
  else if signature ≠ some (cfg.platform.razorpaySignature webhookSecret rawBody) then
    log cfg fun id now =>
      { eventId := id, logicalOrderId := "unknown", type := "webhook.signature_invalid",
        actor := .payment, occurredAt := now, decision := some .block,
        reasonCodes := ["webhook_signature_invalid"] }
    return .webhook
      { ok := false, reasonCode := "invalid_signature", event := some "unknown",
        error := some "Invalid webhook signature" }
  else match cfg.platform.parseJson rawBody with
    | none =>
        return .webhook
          { ok := false, reasonCode := "malformed_json", event := some "unknown",
            error := some "Malformed JSON webhook body" }
    | some value => acceptWebhook cfg (← liftResult (webhookBody value)) eventIdHeader

end AgentReady
