import AgentReady.Services.Fulfilment
import AgentReady.Services.IntentPatch
import AgentReady.Services.Webhook
import AgentReady.Services.X402

/-!
Sessions, and the operations of the services as one type of commands
(`createSession` and the `AppServices` interface of `apps/web/lib/services.ts`).

Left out are `exportSession`, which only reads, and `importSession` and `reset`.
-/

namespace AgentReady

open Svc Coop

def demoCustomer : String := "cust_demo_01"
def mandateExpiryMs : Int := 24 * 60 * 60 * 1000
def maxCachedSessions : Nat := 500

def buildMandate (customerId mandateId : String) (now : Int) : PurchaseMandate where
  mandateId := mandateId
  customerId := customerId
  allowedMerchantIds := [shoeCatalog.merchantId]
  allowedProductIds := none
  allowedRails := [.razorpayCheckout, .x402Solana]
  maxAmountMinor := 1000000
  autoApproveBelowMinor := none
  expiresAt := isoString (now + mandateExpiryMs)
  humanConfirmationRequired := true

/-- One round of `pruneSessionCache`: forget the oldest session. -/
def forgetOldest (s : Services) : Services :=
  match s.sessions.firstKey? with
  | none => s
  | some oldest =>
      { s with sessions := s.sessions.erase oldest, envelopes := s.envelopes.erase oldest }

/-- `pruneSessionCache`: every round forgets one session, so there are at most as many
rounds as sessions. -/
def pruneSessionCache (s : Services) : Services := go s.sessions.size s
where
  go : Nat → Services → Services
    | 0, s => s
    | fuel + 1, s =>
        if maxCachedSessions < s.sessions.size then go fuel (forgetOldest s) else s

/-- A session as it is created. -/
def newSession (logicalOrderId : String) (now : Int) : Session where
  logicalOrderId := logicalOrderId
  customerId := demoCustomer
  createdAt := isoString now
  state := .draft
  message := ""
  intent := {}
  dialogue := createDialogueMemory

def createSession (cfg : Config) (operationId : Option String) : Svc Reply := do
  let orderId ← newId cfg "ord"
  idempotent cfg operationId ⟨"session.create", [("customerId", .text demoCustomer)]⟩ orderId
    throwingPrior do
  let time ← now
  let mandateId ← newId cfg "mdt"
  Proc.modify fun s => { s with
    mandates := s.mandates.set demoCustomer (buildMandate demoCustomer mandateId time) }
  let session := newSession orderId time
  Proc.modify fun s => { s with sessions := s.sessions.set orderId session }
  Proc.modify pruneSessionCache
  log cfg fun id now =>
    { eventId := id, logicalOrderId := orderId, type := "session.created", actor := .system,
      occurredAt := now, externalReferences := [("mandateId", mandateId)] }
  complete operationId .success (some orderId) none (.session session)
  return .session session

/-- `policyCheck`. -/
def policyCheck (cfg : Config) (orderId rail : String) (candidate : Option CommerceEnvelope) :
    Svc Reply := do
  match ← session? orderId, ← record? orderId with
  | some session, some record =>
      let verdict := checkEnvelopeForPayment cfg.platform
        { envelope := candidate.getD record.envelope
          mandate := (← Proc.read).mandates.get? session.customerId
          expectedDigest := record.digest
          rail
          approved := approvedRecord session record
          allowAutoApprove := false
          nowIso := isoString (← now) }
      return .marked verdict.allow verdict.reasonCodes
  | _, _ => return .marked false ["no_envelope"]

/-- The operations of the services. -/
inductive Command where
  | createSession (operationId : Option String)
  | respond (orderId message : String) (binding : Option RecommendationBinding)
      (operationId : Option String)
  | buildQuote (orderId productId : String) (binding : Option RecommendationBinding)
      (operationId : Option String)
  | approve (orderId digest : String) (operationId : Option String)
  | initiatePayment (orderId rail : String) (operationId : Option String)
  | prepareX402OrderPayment (orderId : String) (operationId : Option String)
  | confirmX402OrderPayment (orderId paymentIdentifier : String) (operationId : Option String)
  | mockCapture (orderId : String)
  | verifyPayment (orderId externalOrderId externalPaymentId signature : String)
      (operationId : Option String)
  | fulfil (orderId : String) (fail : Bool) (operationId : Option String)
  | compensate (orderId : String) (operationId : Option String)
  | tamper (orderId field : String)
  | policyCheck (orderId rail : String) (candidate : Option CommerceEnvelope)
  | markWebhookProcessed (eventId : String)
  | holdWebhook (orderId : String) (held : HeldWebhook)
  | markVerifiedFromWebhook (orderId paymentId orderIdExternal : String) (claims : WebhookClaims)
  | webhook (rawBody : String) (signature eventIdHeader : Option String) (webhookSecret : String)
  | intentPatch (orderId : String) (patch : Patch) (expectedIntentVersion : Int)

def Command.op (cfg : Config) : Command → Svc Reply
  | createSession operationId => AgentReady.createSession cfg operationId
  | respond orderId message binding operationId =>
      AgentReady.respond cfg orderId message binding operationId
  | buildQuote orderId productId binding operationId =>
      AgentReady.buildQuote cfg orderId productId binding operationId
  | approve orderId digest operationId => AgentReady.approve cfg orderId digest operationId
  | initiatePayment orderId rail operationId =>
      AgentReady.initiatePayment cfg orderId rail operationId
  | prepareX402OrderPayment orderId operationId =>
      AgentReady.prepareX402OrderPayment cfg orderId operationId
  | confirmX402OrderPayment orderId paymentIdentifier operationId =>
      AgentReady.confirmX402OrderPayment cfg orderId paymentIdentifier operationId
  | mockCapture orderId => AgentReady.mockCapture cfg orderId
  | verifyPayment orderId externalOrderId externalPaymentId signature operationId =>
      AgentReady.verifyPayment cfg orderId externalOrderId externalPaymentId signature operationId
  | fulfil orderId fail operationId => AgentReady.fulfil cfg orderId fail operationId
  | compensate orderId operationId => AgentReady.compensate cfg orderId operationId
  | tamper orderId field => AgentReady.tamper cfg orderId field
  | policyCheck orderId rail candidate => AgentReady.policyCheck cfg orderId rail candidate
  | markWebhookProcessed eventId => do
      markProcessed eventId
      return .done
  | holdWebhook orderId held => do
      AgentReady.holdWebhook orderId held
      return .done
  | markVerifiedFromWebhook orderId paymentId orderIdExternal claims =>
      AgentReady.markVerifiedFromWebhook cfg orderId paymentId orderIdExternal claims
  | webhook rawBody signature eventIdHeader webhookSecret =>
      processRazorpayWebhookRaw cfg rawBody signature eventIdHeader webhookSecret
  | intentPatch orderId patch expectedIntentVersion =>
      AgentReady.intentPatch cfg orderId patch expectedIntentVersion

end AgentReady
