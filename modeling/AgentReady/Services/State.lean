import AgentReady.Core.Coordinator
import AgentReady.Domain.Ranking
import AgentReady.Domain.Policy
import AgentReady.Interpreter.Validate
import AgentReady.Lib.Coop
import AgentReady.Machine.Demo
import AgentReady.Settlement.Attempt

/-!
The state of the application services (`apps/web/lib/services.ts`) and what the
operations ask of the outside.

An operation is a `Coop.Proc` over `Services`: it runs atomically between its awaits. The
source's maps are `OrderedMap`s; a session object, which the source mutates in place, is
the entry of its order. `clock` is the current time, set by the environment whenever an
operation starts or is resumed.

Left out are the dialogue fields nothing reads (`requirements`, `preferences`,
`comparedProductIds`), the prose summaries of audit events, and the transfer evidence of
a devnet settlement.
-/

namespace AgentReady

open Coop

/-! ### Sessions -/

structure RecommendationBinding where
  intentVersion : Int
  recommendationVersion : Int
  recommendationActionToken : String
deriving DecidableEq

inductive X402OrderPaymentStatus where
  | pending | verified
deriving DecidableEq, Repr

structure X402OrderPayment where
  paymentIdentifier : String
  requestDigest : String
  envelopeDigest : String
  network : String
  asset : String
  amountMinor : Int
  currency : String
  recipient : String
  mockTxHash : Option String := none
  status : X402OrderPaymentStatus
deriving DecidableEq

inductive MachineSpendAttemptStatus where
  | pending | settled | manualReconciliationRequired | rejected
deriving DecidableEq, Repr

structure MachineSpendAttempt where
  paymentIdentifier : String
  requestDigest : String
  spendingRequest : ToolSpendRequest
  signedAttempt : String
  status : MachineSpendAttemptStatus
  retryable : Bool
  lastError : Option String := none
deriving DecidableEq

structure MachineSpendAttemptSummary where
  paymentIdentifier : String
  requestDigest : String
  status : MachineSpendAttemptStatus
  retryable : Bool
deriving DecidableEq

inductive SettlementMode where
  | mock | devnet
deriving DecidableEq, Repr

structure MachineSpend where
  paymentIdentifier : String
  settlementHash : String
  fitScores : List FitScore
  requestDigest : String
  network : String
  asset : String
  amount : String
  payer : String
  payee : String
  settlementMode : SettlementMode
deriving DecidableEq

structure Compensation where
  refundId : Option String
  reason : Option String
  ok : Bool
deriving DecidableEq

structure HeldWebhook where
  eventId : String
  paymentId : String
  orderId : String
deriving DecidableEq

structure DialogueMemory where
  intentVersion : Int := 0
  recommendationVersion : Int := 0
  recommendationIntentVersion : Option Int := none
  recommendationActionToken : Option String := none
  unresolved : List String := []
  shownProductIds : List String := []
  selectedProductId : Option String := none
  quoteProductId : Option String := none
  quoteValid : Bool := false
  quoteIntentVersion : Option Int := none
  quoteRecommendationVersion : Option Int := none
  quoteActionToken : Option String := none
  recentActions : List String := []
  evidence : List String := []
deriving DecidableEq

/-- `createDialogueMemory`. -/
def createDialogueMemory : DialogueMemory := {}

structure Session where
  logicalOrderId : String
  customerId : String
  createdAt : String
  state : OrderState
  message : String
  intent : ParsedIntent
  lastRanking : Option RankingResult := none
  approvalEventId : Option String := none
  approvedDigest : Option String := none
  externalOrderId : Option String := none
  externalPaymentId : Option String := none
  verification : Option VerificationResult := none
  compensation : Option Compensation := none
  machineSpendAttempt : Option MachineSpendAttempt := none
  x402OrderPayment : Option X402OrderPayment := none
  machineSpend : Option MachineSpend := none
  heldWebhook : Option HeldWebhook := none
  dialogue : DialogueMemory

structure EnvelopeRecord where
  envelope : CommerceEnvelope
  digest : String
  signature : String
  issuedAt : String
  recommendation : RecommendationBinding
  intentDigest : String
deriving DecidableEq

inductive AuditActor where
  | customer | agent | merchant | policy | payment | system
deriving DecidableEq, Repr

structure AuditEvent where
  eventId : String
  logicalOrderId : String
  type : String
  actor : AuditActor
  occurredAt : Int
  inputDigest : Option String := none
  outputDigest : Option String := none
  externalReferences : List (String × String) := []
  decision : Option PolicyDecision := none
  reasonCodes : List String := []

/-! ### Results -/

/-- The facts of a respond reply that carries a recommendation. -/
structure Shortlist where
  hits : List ProductMatch
  fitScores : Option (List FitScore)
  machineSpend : Option MachineSpend
  machineSpendAttempt : Option MachineSpendAttemptSummary
  state : OrderState
  parsedIntent : ParsedIntent
  binding : RecommendationBinding

/-- A rejected selection: the refreshed options and why. -/
structure RejectedSelection where
  hits : List ProductMatch
  binding : RecommendationBinding
  rejectedProductId : String
  parsedIntent : ParsedIntent

inductive RespondResult where
  | clarify (questions quickReplies : List String) (state : OrderState) (parsedIntent : ParsedIntent)
  | shortlist (result : Shortlist)
  | error (message : String) (state : OrderState) (selection : Option RejectedSelection)
  | compare (productA productB : ProductMatch) (state : OrderState)
  | explain (shown : ProductMatch) (state : OrderState)
  | cheaper (currentBest cheaperOption : Option ProductMatch) (state : OrderState)
  | select (productId : String) (state : OrderState) (binding : RecommendationBinding)
  | restart (state : OrderState)

structure QuoteResult where
  envelope : CommerceEnvelope
  digest : String
  signature : String
  approvalEventId : Option String
  state : OrderState
  binding : RecommendationBinding

/-- The result of the operations that report success or an error; each sets the fields
it has. -/
structure OperationResult where
  ok : Bool
  state : OrderState
  error : Option String := none
  reasonCodes : List String := []
  approvalEventId : Option String := none
  attempt : Option PaymentAttempt := none
  payment : Option X402OrderPayment := none
  refundId : Option String := none
  changes : List String := []

structure MockCapture where
  paymentId : String
  signature : String
  orderId : String
deriving DecidableEq

structure WebhookOutcome where
  ok : Bool
  reasonCode : String
  error : Option String := none
  deduplicated : Bool := false
  processed : Bool := false
  held : Bool := false
  ignored : Bool := false
  event : Option String := none
  eventId : Option String := none
  paymentId : Option String := none
  orderId : Option String := none

structure IntentPatchResult where
  ok : Bool
  state : OrderState
  error : Option String := none
  reasonCodes : List String := []
  parsedIntent : Option ParsedIntent := none
  intentVersion : Option Int := none
  hits : List ProductMatch := []
  binding : Option RecommendationBinding := none
  fitScores : Option (List FitScore) := none

/-- What an operation returns. -/
inductive Reply where
  | session (s : Session)
  | respond (r : RespondResult)
  | quote (r : QuoteResult)
  | result (r : OperationResult)
  | capture (r : MockCapture)
  | webhook (r : WebhookOutcome)
  | patched (r : IntentPatchResult)
  | marked (ok : Bool) (reasons : List String)
  | done

/-- Whether a reply reports success. -/
def Reply.ok : Reply → Bool
  | result r => r.ok
  | webhook r => r.ok
  | patched r => r.ok
  | marked ok _ => ok
  | respond (.error ..) => false
  | _ => true

/-! ### Asking the outside -/

/-- What `runFitScoreSpend` reads of a stored settlement attempt. -/
structure StoredAttempt where
  callerPaymentId : Option String
  requestDigest : String
  signedPayloadEnc : Option String
  status : AttemptStatus

structure DevnetMachinePaymentAttempt where
  paymentIdentifier : String
  requestDigest : String
  spendingRequest : ToolSpendRequest
  encodedPayment : String

inductive ReconciliationState where
  | settled | pending | manualReconciliationRequired | rejected
deriving DecidableEq, Repr

structure DevnetMachineSpendOutcome where
  ok : Bool
  settlement : Option SettlementResponse := none
  scores : Option (List FitScore) := none
  error : Option String := none
  pending : Bool := false
  reconciliationState : Option ReconciliationState := none
  retryable : Option Bool := none

/-- The points where an operation is suspended. `yield` is an await of something that is
already settled: the operation is suspended, and nothing is asked. -/
inductive Query where
  | yield
  | interpret (message : String)
  | extractSoftPreferences (message : String)
  | explainRecommendation (message : String) (hits : List ProductMatch)
  | initiate (envelope : CommerceEnvelope)
  | verify (input : VerificationInput)
  | compensate (input : CompensationInput)
  | devnetResource
  | findActiveAttempt (orderId : String) (intentVersion : Int)
  | decryptStoredPayload (enc : String)
  | prepareDevnetSpend (request : ToolSpendRequest) (paymentIdentifier : String)
      (approvalEventId : Option String)
  | runDevnetSpend (request : ToolSpendRequest) (attempt : DevnetMachinePaymentAttempt)
      (approvalEventId : Option String)

/-- What is answered; the text of an `Except` is that of the thrown error. A model
provider answers nothing where it fails. -/
abbrev Query.Result : Query → Type
  | yield => Unit
  | interpret _ => Option Json
  | extractSoftPreferences _ => Option Json
  | explainRecommendation .. => Option String
  | initiate _ => Except String PaymentAttempt
  | verify _ => Except String VerificationResult
  | compensate _ => Except String CompensationResult
  | devnetResource => Except String Unit
  | findActiveAttempt .. => Except String (Option StoredAttempt)
  | decryptStoredPayload _ => Except String String
  | prepareDevnetSpend .. => Except String DevnetMachinePaymentAttempt
  | runDevnetSpend .. => Except String DevnetMachineSpendOutcome

/-- An answer, and the time at which the operation is resumed with it. -/
structure Query.Answer (q : Query) where
  result : q.Result
  at_ : Int

/-! ### The services -/

inductive X402Mode where
  | mock
  | devnet (amountMinor : Int) (usdcMint payeePublicKey : String)

/-- What is fixed while the services run. -/
structure Config where
  platform : Platform
  signingSecret : String
  razorpayKeySecret : String
  isMock : Bool
  llmEnabled : Bool
  x402 : X402Mode

structure Services where
  sessions : OrderedMap String Session := ∅
  envelopes : OrderedMap String EnvelopeRecord := ∅
  mandates : OrderedMap String PurchaseMandate := ∅
  webhookDedup : OrderedMap String Int := ∅
  operations : OperationStore Reply := (∅ : OrderedMap _ _)
  machineResource : DemoMachineResource := {}
  audit : List AuditEvent := []
  /-- How often the random source has been drawn from. -/
  draws : Nat := 0
  /-- The current time, in milliseconds. -/
  clock : Int

namespace Services

/-- The services after a mutation of the session object of an order. -/
def updateSession (s : Services) (orderId : String) (f : Session → Session) : Services :=
  match s.sessions.get? orderId with
  | none => s
  | some session => { s with sessions := s.sessions.set orderId (f session) }

/-- The services after a mutation of the session object of an order, with its record set or
deleted. -/
def replaceOrder (s : Services) (orderId : String) (record : Option EnvelopeRecord)
    (f : Session → Session) : Services :=
  match s.sessions.get? orderId with
  | none => s
  | some session =>
      { s with
        sessions := s.sessions.set orderId (f session)
        envelopes := match record with
          | some record => s.envelopes.set orderId record
          | none => s.envelopes.erase orderId }

end Services

inductive ServiceError where
  | illegalTransition (source target : OrderState)
  | quoteValidation (message : String) (hits : List ProductMatch) (binding : RecommendationBinding)
      (rejectedProductId : String) (reasonCodes : List String)
  | other (message : String)

def ServiceError.message : ServiceError → String
  | illegalTransition source target => s!"Illegal transition {source.name} -> {target.name}"
  | quoteValidation message .. => message
  | other message => message

abbrev Svc (α : Type) := Proc Services ServiceError Query.Answer α

namespace Svc

/-- Suspend on `q`; the clock stands at the answer's time when the operation resumes. -/
def ask (q : Query) : Svc q.Result := do
  let answer ← Proc.call q
  Proc.modify fun s => { s with clock := answer.at_ }
  return answer.result

/-- The result of an outside call, whose error is thrown. -/
def liftResult {α : Type} : Except String α → Svc α
  | .ok a => return a
  | .error message => throw (.other message)

def now : Svc Int := do return (← Proc.read).clock

def newId (cfg : Config) (tag : String) : Svc String := do
  let s ← Proc.read
  Proc.modify fun s => { s with draws := s.draws + 1 }
  return cfg.platform.newId tag s.draws

/-- `audit.log`: the id and the time are set here. -/
def log (cfg : Config) (event : String → Int → AuditEvent) : Svc Unit := do
  let id ← newId cfg "evt"
  Proc.modify fun s => { s with audit := s.audit ++ [event id s.clock] }

def session? (orderId : String) : Svc (Option Session) := do
  return (← Proc.read).sessions.get? orderId

def record? (orderId : String) : Svc (Option EnvelopeRecord) := do
  return (← Proc.read).envelopes.get? orderId

/-- Mutate the session object of an order. -/
def updateSession (orderId : String) (f : Session → Session) : Svc Unit :=
  Proc.modify fun s => s.updateSession orderId f

/-- Mutate the session object of an order and set or delete its record. The source does the
two one after the other; nothing runs and nothing throws between them. -/
def replaceOrder (orderId : String) (record : Option EnvelopeRecord) (f : Session → Session) :
    Svc Unit :=
  Proc.modify fun s => s.replaceOrder orderId record f

def markProcessed (eventId : String) : Svc Unit :=
  Proc.modify fun s => { s with webhookDedup := s.webhookDedup.set eventId s.clock }

/-- The current state of an order, for a reply. -/
def stateOf (orderId : String) : Svc OrderState := do
  return ((← session? orderId).map (·.state)).getD .draft

/-- `setState`: no-op in the target state, and a throw where the transition is refused. -/
def setState (orderId : String) (next : OrderState) : Svc Unit := do
  match ← session? orderId with
  | none => return ()
  | some session =>
      if session.state = next then return ()
      else match transitionState session.state next with
        | .error _ => throw (.illegalTransition session.state next)
        | .ok () => updateSession orderId fun s => { s with state := next }

/-- `intentDigest`, which throws for an amount that is not finite. -/
def digestOf (intent : ParsedIntent) : Svc String := liftResult (AgentReady.intentDigest intent)

/-! ### Idempotency -/

/-- What a replayed or conflicting operation id makes of a call. -/
inductive Prior where
  | run
  | reply (r : Reply)
  | raise (message : String)

/-- Run `body` unless the operation id was used before; an absent or empty id is not
coordinated. -/
def idempotent (cfg : Config) (operationId : Option String) (request : OperationRequest)
    (aggregate : String) (prior : IdempotencyResult Reply → OrderState → Prior)
    (body : Svc Reply) : Svc Reply := do
  match operationId with
  | none => body
  | some id =>
      if id = "" then body
      else
        let s ← Proc.read
        let (result, operations) :=
          OperationStore.begin_ cfg.platform s.clock s.operations id request aggregate
        Proc.modify fun s => { s with operations }
        match prior result (← stateOf aggregate) with
        | .run => body
        | .reply r => return r
        | .raise message => throw (.other message)

/-- `coordinator.complete`, where the operation has an id. -/
def complete (operationId : Option String) (outcome : OperationOutcome)
    (resultRef errorRef : Option String) (payload : Reply) : Svc Unit :=
  match operationId with
  | none => return ()
  | some id =>
      if id = "" then return ()
      else Proc.modify fun s =>
        { s with
          operations := OperationStore.complete s.clock s.operations id outcome resultRef errorRef
            (some payload) }

/-- Record a failed result under the operation id, and return it. -/
def refuse (operationId : Option String) (r : OperationResult) : Svc Reply := do
  complete operationId .failure none r.error (.result r)
  return .result r

/-- Record a result under the operation id, and return it. -/
def succeed (operationId : Option String) (resultRef : Option String) (r : OperationResult) :
    Svc Reply := do
  complete operationId .success resultRef none (.result r)
  return .result r

def conflictMessage (existing : OperationRecord Reply) : String :=
  s!"Operation ID conflict: {existing.operationId} was already used with a different request"

end Svc

end AgentReady
