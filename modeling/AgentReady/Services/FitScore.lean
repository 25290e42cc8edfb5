import AgentReady.Services.Recommendation

/-!
The fit-scoring spend of a respond turn: `runFitScoreSpend` (`apps/web/lib/services.ts`),
in mock and in devnet mode.

In devnet mode the settlement store is outside; `session.machineSpendAttempt` mirrors what
it answered, and a lost or ambiguous settlement is left for manual reconciliation.
-/

namespace AgentReady

open Svc

def devnetFitScoreResource : String := "/api/resources/premium-fit-score"

/-- The spending request of an order at an intent version, at a price and payee. -/
def toolSpendRequest (orderId : String) (intentVersion amountMinor : Int) (asset payee : String) :
    ToolSpendRequest where
  orderId := orderId
  intentVersion := intentVersion
  resource := devnetFitScoreResource
  amountMinor := amountMinor
  network := solanaDevnetCaip2
  asset := asset
  payee := payee
  purpose := "fit_scoring"

def AttemptStatus.mirrored : AttemptStatus → MachineSpendAttemptStatus
  | settled => .settled
  | manual | mismatch => .manualReconciliationRequired
  | rejected | released => .rejected
  | pending | settling | awaitingEvidence => .pending

def AttemptStatus.retryable (status : AttemptStatus) : Bool :=
  status = pending || status = settling || status = awaitingEvidence

/-- The references of a spend, as an audit event carries them. -/
def spendReferences (paymentIdentifier requestDigest : String) : List (String × String) :=
  [("paymentIdentifier", paymentIdentifier), ("requestDigest", requestDigest)]

def reference? (event : AuditEvent) (name : String) : Option String :=
  (event.externalReferences.find? (·.1 = name)).map Prod.snd

/-- The event of a machine spend, without its id and time. -/
def spendEvent (orderId type : String) (decision : PolicyDecision)
    (references : List (String × String)) (reasonCodes : List String) (id : String) (now : Int) :
    AuditEvent :=
  { eventId := id, logicalOrderId := orderId, type, actor := .agent, occurredAt := now,
    externalReferences := references, decision := some decision, reasonCodes }

/-- `logMachineSpendAuditOnce`: an event that names a payment and a request is logged once
for them. -/
def logMachineSpendAuditOnce (cfg : Config) (orderId : String)
    (event : String → Int → AuditEvent) : Svc Unit := do
  let sample := event "" 0
  let payment := reference? sample "paymentIdentifier"
  let request := reference? sample "requestDigest"
  if truthy payment && truthy request then
    ask .yield
    let recorded := (← Coop.Proc.read).audit.any fun e =>
      e.logicalOrderId = orderId && e.type = sample.type &&
        reference? e "paymentIdentifier" = payment &&
        (reference? e "requestDigest").or e.inputDigest = request
    if recorded then return ()
  log cfg event
  ask .yield

/-- The approval of an order, as it stands. -/
def approvalOf (orderId : String) : Svc (Option String) := do
  return (← session? orderId).bind (·.approvalEventId)

def setAttempt (orderId : String) (attempt : MachineSpendAttempt) : Svc Unit :=
  updateSession orderId fun s => { s with machineSpendAttempt := some attempt }

/-- The attempt the settlement store holds, with its payload decrypted. -/
def mirrorAttempt (request : ToolSpendRequest) (stored : StoredAttempt) :
    Svc MachineSpendAttempt := do
  let signedAttempt ← if truthy stored.signedPayloadEnc then
      liftResult (← ask (.decryptStoredPayload (stored.signedPayloadEnc.getD "")))
    else pure ""
  return {
    paymentIdentifier := stored.callerPaymentId.getD ""
    requestDigest := stored.requestDigest
    spendingRequest := request
    signedAttempt
    status := stored.status.mirrored
    retryable := stored.status.retryable }

/-- The spend of a settled devnet outcome. -/
def devnetSpend (attempt : MachineSpendAttempt) (asset payee : String)
    (settlement : SettlementResponse) (scores : List FitScore) : MachineSpend where
  paymentIdentifier := attempt.paymentIdentifier
  settlementHash := settlement.transactionHash.getD ""
  fitScores := scores
  requestDigest := attempt.requestDigest
  network := settlement.network
  asset := asset
  amount := settlement.amount
  payer := settlement.payer
  payee := payee
  settlementMode := .devnet

/-- Mark the submitted attempt as the outcome of an unsuccessful spend requires. -/
def closeAttempt (cfg : Config) (orderId : String) (attempt : MachineSpendAttempt)
    (outcome : DevnetMachineSpendOutcome) : Svc (Option MachineSpend) := do
  let references := spendReferences attempt.paymentIdentifier attempt.requestDigest
  let unresolved := outcome.pending || outcome.reconciliationState = some .pending ||
    outcome.reconciliationState = some .manualReconciliationRequired
  if unresolved then
    let retry := outcome.reconciliationState = some .pending && outcome.retryable ≠ some false
    setAttempt orderId { attempt with
      status := if retry then .pending else .manualReconciliationRequired
      retryable := outcome.retryable.getD retry
      lastError := outcome.error }
    logMachineSpendAuditOnce cfg orderId <|
      if retry then
        spendEvent orderId "machine.spend_pending" .review references
          ["x402_settlement_pending", "x402_original_attempt_retained"]
      else
        spendEvent orderId "machine.spend_manual_reconciliation" .review references
          ["x402_manual_reconciliation_required", "x402_original_attempt_retained"]
    return none
  else
    setAttempt orderId
      { attempt with status := .rejected, retryable := false, lastError := outcome.error }
    logMachineSpendAuditOnce cfg orderId
      (spendEvent orderId "machine.spend_failed" .review [] ["x402_payment_rejected"])
    return none

/-- Submit a prepared attempt and record what came of it. -/
def submitAttempt (cfg : Config) (orderId asset payee : String) (attempt : MachineSpendAttempt)
    (prepared : DevnetMachinePaymentAttempt) (wasPending : Bool) : Svc (Option MachineSpend) := do
  setAttempt orderId attempt
  match ← ask (.runDevnetSpend attempt.spendingRequest prepared (← approvalOf orderId)) with
  | .error message =>
      setAttempt orderId { attempt with
        status := .manualReconciliationRequired
        retryable := false
        lastError := some ("Tool-payment processing failed after the signed attempt was " ++
          "retained. Manual reconciliation is required; no replacement payment will be " ++
          "submitted. " ++ message) }
      logMachineSpendAuditOnce cfg orderId
        (spendEvent orderId "machine.spend_manual_reconciliation" .review
          (spendReferences attempt.paymentIdentifier attempt.requestDigest)
          ["x402_manual_reconciliation_required", "x402_devnet_spend_error"])
      return none
  | .ok outcome =>
      match outcome.ok, outcome.settlement, outcome.scores with
      | true, some settlement, some scores =>
          setAttempt orderId
            { attempt with status := .settled, retryable := false, lastError := none }
          let spend := devnetSpend attempt asset payee settlement scores
          updateSession orderId fun s => { s with machineSpend := some spend }
          logMachineSpendAuditOnce cfg orderId
            (spendEvent orderId "machine.paid_resource" .allow
              (spendReferences attempt.paymentIdentifier attempt.requestDigest)
              [if wasPending then "x402_devnet_settlement_reconciled"
                else "x402_devnet_settlement_verified", "machine_tool_spend"])
          return some spend
      | _, _, _ => closeAttempt cfg orderId attempt outcome

/-- The pending attempt where it is signed, or a newly signed payment. -/
def preparedAttempt (orderId : String) (request : ToolSpendRequest)
    (existing : Option MachineSpendAttempt) (paymentIdentifier : String) :
    Svc (Except String DevnetMachinePaymentAttempt) := do
  match existing.filter fun a => a.status = .pending && a.signedAttempt ≠ "" with
  | some a =>
      return .ok ⟨a.paymentIdentifier, a.requestDigest, a.spendingRequest, a.signedAttempt⟩
  | none => ask (.prepareDevnetSpend request paymentIdentifier (← approvalOf orderId))

/-- Submit a payment, or give up where none could be signed. -/
def spendPrepared (cfg : Config) (orderId asset payee : String)
    (existing : Option MachineSpendAttempt) :
    Except String DevnetMachinePaymentAttempt → Svc (Option MachineSpend)
  | .ok prepared =>
      let attempt := existing.getD
        { paymentIdentifier := prepared.paymentIdentifier
          requestDigest := prepared.requestDigest
          spendingRequest := prepared.spendingRequest
          signedAttempt := prepared.encodedPayment
          status := .pending
          retryable := true }
      submitAttempt cfg orderId asset payee attempt prepared (existing.any (·.status = .pending))
  | .error _ => do
      match existing with
      | some attempt =>
          logMachineSpendAuditOnce cfg orderId
            (spendEvent orderId "machine.spend_manual_reconciliation" .review
              (spendReferences attempt.paymentIdentifier attempt.requestDigest)
              ["x402_manual_reconciliation_required", "x402_devnet_spend_error"])
      | none =>
          logMachineSpendAuditOnce cfg orderId
            (spendEvent orderId "machine.spend_failed" .review [] ["x402_devnet_spend_error"])
      return none

/-- The payment identifier of the existing attempt, or a new one. -/
def spendIdentifier (cfg : Config) (existing : Option MachineSpendAttempt) : Svc String :=
  match (existing.map (·.paymentIdentifier)).filter (· ≠ "") with
  | some id => return id
  | none => newId cfg "pid"

/-- Sign a payment unless the pending attempt already has one, and submit it. -/
def spendOnDevnet (cfg : Config) (orderId asset payee : String) (request : ToolSpendRequest)
    (existing : Option MachineSpendAttempt) : Svc (Option MachineSpend) := do
  let paymentIdentifier ← spendIdentifier cfg existing
  ask .yield
  let prepared ← preparedAttempt orderId request existing paymentIdentifier
  spendPrepared cfg orderId asset payee existing prepared

/-- The attempt the settlement store holds for a request, if any. -/
def storedAttempt (request : ToolSpendRequest) :
    Option StoredAttempt → Svc (Option MachineSpendAttempt)
  | none => return none
  | some stored => do return some (← mirrorAttempt request stored)

def runDevnetFitScoreSpend (cfg : Config) (orderId : String) (session : Session)
    (amountMinor : Int) (asset payee : String) : Svc (Option MachineSpend) := do
  match ← ask .devnetResource with
  | .error _ =>
      logMachineSpendAuditOnce cfg orderId
        (spendEvent orderId "machine.spend_failed" .review [] ["x402_store_unavailable"])
      return none
  | .ok () =>
  let version := session.dialogue.intentVersion
  let request := toolSpendRequest orderId version amountMinor asset payee
  let existing ← storedAttempt request
    (← liftResult (← ask (.findActiveAttempt orderId version)))
  let digest := cfg.platform.canonicalToolSpendRequestDigest request
  if existing.any (·.status = .manualReconciliationRequired) then return none
  else match existing.filter (·.requestDigest ≠ digest) with
    | some changed =>
        logMachineSpendAuditOnce cfg orderId
          (spendEvent orderId "machine.spend_manual_reconciliation" .review
            (spendReferences changed.paymentIdentifier changed.requestDigest)
            ["x402_manual_reconciliation_required", "x402_material_request_changed"])
        return none
    | none => spendOnDevnet cfg orderId asset payee request existing

/-- A spend in mock mode, settled by the demo resource. -/
def mockFitScoreSpend (cfg : Config) (orderId : String) (session : Session) :
    Svc (Option MachineSpend) := do
  let config := defaultMachineSpend
  let envelopeHash ← digestOf session.intent
  let paymentIdentifier ← newId cfg "pid"
  let request := toolSpendRequest orderId session.dialogue.intentVersion config.amountMinor "USDC"
    config.payeeWallet
  let s ← Coop.Proc.read
  let (outcome, machineResource) :=
    runMachineSpend config (isoString s.clock) s.machineResource envelopeHash paymentIdentifier
  Coop.Proc.modify fun s => { s with machineResource }
  match outcome with
  | .error _ =>
      log cfg (spendEvent orderId "machine.spend_failed" .review [] ["x402_payment_rejected"])
      return none
  | .ok (settlement, resource) =>
      let spend : MachineSpend :=
        { paymentIdentifier
          settlementHash := settlement.transactionHash.getD ""
          fitScores := resource.scores
          requestDigest := cfg.platform.canonicalToolSpendRequestDigest request
          network := settlement.network
          asset := config.usdcMint
          amount := settlement.amount
          payer := settlement.payer
          payee := config.payeeWallet
          settlementMode := .mock }
      updateSession orderId fun s => { s with machineSpend := some spend }
      log cfg (spendEvent orderId "machine.paid_resource" .allow
        (spendReferences paymentIdentifier spend.requestDigest)
        ["x402_mock_settlement_verified", "machine_tool_spend", "demo_preauthorized"])
      return some spend

/-- The spend in the mode that is configured. -/
def spendInMode (cfg : Config) (orderId : String) (session : Session) :
    Svc (Option MachineSpend) :=
  match cfg.x402 with
  | .devnet amountMinor asset payee =>
      runDevnetFitScoreSpend cfg orderId session amountMinor asset payee
  | .mock => mockFitScoreSpend cfg orderId session

def runFitScoreSpend (cfg : Config) (orderId : String) (session : Session) :
    Svc (Option MachineSpend) := do
  let spend ← spendInMode cfg orderId session
  ask .yield
  return spend

end AgentReady
