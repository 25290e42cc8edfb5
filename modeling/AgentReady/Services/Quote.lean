import AgentReady.Services.Recommendation

/-!
Quotes and their approval: `buildQuote`, `approve` and `tamper`
(`apps/web/lib/services.ts`).

A quote replaces the order's envelope record; an approval binds to the digest of the
record; a tampered envelope takes the place of the record and withdraws the approval.
-/

namespace AgentReady

open Svc

/-- The quote of a record is active: it is valid, made for the current recommendation, and
for the present intent. The digest of the intent is only taken where the rest holds. -/
def quoteActive (session : Session) (record : EnvelopeRecord) : Except String Bool :=
  if session.dialogue.quoteValid && isCurrentRecommendation session &&
      decide (record.recommendation = session.binding) then do
    return record.intentDigest = (← intentDigest session.intent)
  else .ok false

/-- The session approved exactly this record. -/
def approvedRecord (session : Session) (record : EnvelopeRecord) : Bool :=
  truthy session.approvalEventId && session.approvedDigest = some record.digest

/-! ### Building a quote -/

/-- How `createSession` and `buildQuote` treat a used operation id. -/
def throwingPrior : IdempotencyResult Reply → OrderState → Prior
  | .new _, _ => .run
  | .conflict existing _, _ => .raise (conflictMessage existing)
  | .replay record, _ =>
      match record.phase, record.resultPayload with
      | .completed, some payload => .reply payload
      | .failed, _ | .rejected, _ =>
          .raise (record.errorRef.getD ("Operation " ++ record.phase.name))
      | _, _ => .raise "Operation in progress"

def quoteExpiryMs : Int := 15 * 60 * 1000

/-- The envelope of a selection, under freshly drawn identifiers. -/
def quoteEnvelope (cfg : Config) (orderId : String) (session : Session)
    (product : CatalogProduct) (variant : CatalogVariant) (mandateId : String) (now : Int)
    (quoteId holdId nonce : String) : CommerceEnvelope :=
  let shipping := estimateShipping product.deliveryLeadDays now
  let quantity := 1
  let subtotal := product.priceMinor * quantity
  let taxMinor := 0
  { version := 1
    logicalOrderId := orderId
    merchantId := shoeCatalog.merchantId
    quoteId
    customerId := session.customerId
    items := [{
      productId := product.productId
      sku := variant.sku
      variant := ⟨session.intent.size.getD "", session.intent.colour.getD "black"⟩
      quantity
      unitAmountMinor := product.priceMinor }]
    subtotalMinor := subtotal
    taxMinor
    shippingMinor := shipping.feeMinor
    totalMinor := subtotal + shipping.feeMinor + taxMinor
    currency := "INR"
    inventoryHoldId := holdId
    returnPolicyDigest := cfg.platform.sha256 shoeCatalog.returnPolicy.text
    shippingDestinationDigest := cfg.platform.sha256 "Bengaluru, Karnataka, India"
    mandateId
    issuedAt := isoString now
    expiresAt := isoString (now + quoteExpiryMs)
    nonce }

/-- The record under which an envelope is stored. -/
def sealRecord (cfg : Config) (envelope : CommerceEnvelope) (now : Int)
    (recommendation : RecommendationBinding) (intentDigest : String) : EnvelopeRecord where
  envelope := envelope
  digest := cfg.platform.envelopeDigest envelope
  signature := cfg.platform.signEnvelope envelope cfg.signingSecret
  issuedAt := isoString now
  recommendation := recommendation
  intentDigest := intentDigest

def buildQuote (cfg : Config) (orderId productId : String)
    (supplied : Option RecommendationBinding) (operationId : Option String) : Svc Reply :=
  idempotent cfg operationId
    ⟨"quote.build", [("orderId", .text orderId), ("productId", .text productId)]⟩ orderId
    throwingPrior do
  match ← session? orderId with
  | none => throw (.other "Unknown session")
  | some session =>
  match ← validateCurrentSelection cfg orderId session productId supplied with
  | .rejected message ranking binding codes =>
      throw (.quoteValidation message ranking.hits binding productId codes)
  | .accepted product variant binding =>
  let quoteId ← newId cfg "qt"
  let holdId ← newId cfg "hold"
  let nonce ← newId cfg "nonce"
  let s ← Coop.Proc.read
  let mandateId := ((s.mandates.get? session.customerId).map (·.mandateId)).getD ""
  let envelope :=
    quoteEnvelope cfg orderId session product variant mandateId s.clock quoteId holdId nonce
  let record := sealRecord cfg envelope s.clock binding (← digestOf session.intent)
  replaceOrder orderId (some record) fun s => { s with
    dialogue := { s.dialogue with
      quoteProductId := some productId
      quoteValid := true
      quoteIntentVersion := some binding.intentVersion
      quoteRecommendationVersion := some binding.recommendationVersion
      quoteActionToken := some binding.recommendationActionToken } }
  setState orderId .awaitingApproval
  log cfg fun id now =>
    { eventId := id, logicalOrderId := orderId, type := "quote.envelope_created", actor := .system,
      occurredAt := now, inputDigest := some record.digest }
  let state ← stateOf orderId
  let reply := Reply.quote
    { envelope, digest := record.digest, signature := record.signature, state,
      approvalEventId := ((← session? orderId).bind (·.approvalEventId)), binding }
  complete operationId .success (some record.digest) none reply
  return reply

/-! ### Approval -/

/-- How `approve` and `initiatePayment` treat a used operation id; `codes` are the reason
codes of a conflict and of an operation in progress. -/
def resumingPrior (codes : List String × List String) :
    IdempotencyResult Reply → OrderState → Prior
  | .new _, _ => .run
  | .conflict existing _, _ => .reply (.result
      { ok := false, state := .draft, error := some (conflictMessage existing),
        reasonCodes := codes.1 })
  | .replay record, state =>
      match record.phase, record.resultPayload with
      | .completed, some payload | .failed, some payload | .rejected, some payload =>
          .reply payload
      | .completed, none => .run
      | _, _ => .reply (.result
          { ok := false, state, error := some "Operation in progress", reasonCodes := codes.2 })

def approve (cfg : Config) (orderId digest : String) (operationId : Option String) : Svc Reply :=
  idempotent cfg operationId
    ⟨"approval.grant", [("orderId", .text orderId), ("digest", .text digest)]⟩ orderId
    (resumingPrior ([], [])) do
  match ← session? orderId with
  | none => refuse operationId { ok := false, state := .draft, error := some "Unknown session" }
  | some session =>
  match ← record? orderId with
  | none =>
      refuse operationId
        { ok := false, state := session.state, error := some "No envelope to approve" }
  | some record =>
  if !(← liftResult (quoteActive session record)) then
    refuse operationId
      { ok := false, state := session.state,
        error := some "This quote is no longer active for the current intent" }
  else if truthy session.approvalEventId && session.approvedDigest = some digest then
    succeed operationId session.approvalEventId
      { ok := true, approvalEventId := session.approvalEventId, state := session.state }
  else if record.digest ≠ digest then
    refuse operationId
      { ok := false, state := session.state,
        error := some "Digest mismatch: approval must bind to the exact envelope hash" }
  else if record.envelope.expiresAt < isoString (← now) then
    setState orderId .expired
    refuse operationId
      { ok := false, state := ← stateOf orderId, error := some "Quote expired" }
  else
    let approvalEventId ← newId cfg "appr"
    updateSession orderId fun s =>
      { s with approvalEventId := some approvalEventId, approvedDigest := some digest }
    setState orderId .approved
    log cfg fun id now =>
      { eventId := id, logicalOrderId := orderId, type := "approval.granted", actor := .customer,
        occurredAt := now, inputDigest := some digest, outputDigest := some approvalEventId,
        decision := some .allow, reasonCodes := ["approval_binds_hash"] }
    succeed operationId (some approvalEventId)
      { ok := true, approvalEventId := some approvalEventId, state := ← stateOf orderId }

/-! ### Tampering -/

/-- The envelope after a tool retry changed its price or its variant, and the changes. -/
def tamperEnvelope (e : CommerceEnvelope) (field nonce : String) :
    CommerceEnvelope × List String :=
  match e.items with
  | [] => ({ e with nonce }, [])
  | first :: rest =>
      if field = "price" then
        let unitAmountMinor := first.unitAmountMinor - 5000
        let totalMinor := unitAmountMinor + e.shippingMinor
        ({ e with
            items := { first with unitAmountMinor } :: rest
            subtotalMinor := unitAmountMinor
            totalMinor
            nonce },
          ["price changed by tool retry to ₹" ++ Json.Number.fixed totalMinor 2])
      else if field = "variant" then
        ({ e with
            items := { first with variant := { first.variant with size := "UK 10" } } :: rest
            nonce },
          ["variant changed by tool retry to UK 10"])
      else ({ e with nonce }, [])

def tamper (cfg : Config) (orderId field : String) : Svc Reply := do
  match ← session? orderId with
  | none =>
      return .result { ok := false, state := .draft, error := some "Unknown session" }
  | some session =>
  match ← record? orderId with
  | none => return .result { ok := false, state := session.state, error := some "No envelope" }
  | some record =>
  let nonce ← newId cfg "nonce"
  let (candidate, changes) := tamperEnvelope record.envelope field nonce
  if !requiresReapproval record.envelope candidate then
    return .result
      { ok := false, state := session.state, error := some "No material change detected", changes }
  else
    let next := sealRecord cfg candidate (← now) record.recommendation record.intentDigest
    replaceOrder orderId (some next) fun s =>
      { s with approvedDigest := none, approvalEventId := none }
    setState orderId .reapprovalRequired
    log cfg fun id now =>
      { eventId := id, logicalOrderId := orderId, type := "policy.reapproval_required",
        actor := .policy, occurredAt := now, inputDigest := some record.digest,
        outputDigest := some next.digest, decision := some .block,
        reasonCodes := ["material_change_reapproval"] }
    return .result { ok := true, state := ← stateOf orderId, changes }

end AgentReady
