import AgentReady.Domain.Catalog
import AgentReady.Settlement.Inspection
import AgentReady.Settlement.Interface
import AgentReady.Settlement.Requirements

/-!
`DevnetMachineResource` (`packages/payments/src/devnet-machine.ts`): how a presented payment
is staged, claimed, verified, settled and reconciled.

`accept` is cut at its awaits of the facilitator into `acceptPayment`, `settleClaimed`,
`settleVerified` and `settleAnswered`. `joinStoredRow` calls itself after a store call, without
a bound; here the number of such calls is bounded by an argument, and one call too many never
returns. The UUID that a call draws for its worker is given with the call.

Left out are the read-only lookups of other modules (`hasProcessed`, `lastSettlement` and the
like) and the building of a quote, which is an outside call.
-/

namespace AgentReady.Settlement

open Coop

def resourceName : String := "RunVista Premium Fit-Scoring API"
def resourceUrl : String := "/api/resources/premium-fit-score"

/-- `DevnetResourceResult`. -/
structure Response where
  status : Nat
  body : Json
  headers : List (String × String) := []
deriving DecidableEq

/-- A response without headers; an absent field is left out. -/
def respondWith (status : Nat) (fields : List (String × Option Json)) : Response :=
  { status, body := Json.ofFields fields }

def text (s : String) : Option Json := some (.str s)

def flag (b : Bool) : Option Json := some (.bool b)

/-- The resource, with what it is configured by and reads of its libraries. -/
structure DevnetMachineResource (S : Type) where
  runtime : Runtime
  config : X402DevnetConfig
  store : SettlementStore S
  /-- The kill-switch. -/
  settlementEnabled : Bool := true
  leaseTtl : LeaseTtl
  /-- The fee payer of the facilitator, where the library can say it. -/
  supportedFeePayer : Option (Option String)
  /-- `JSON.parse` of base64url; `none` where it throws. -/
  decodePayment : String → Option Json
  /-- base64url of `JSON.stringify`. -/
  encodeHeader : Json → String
  /-- `extractAndValidatePaymentIdentifier`. -/
  paymentIdentifier : Json → Option String

namespace DevnetMachineResource

variable {S : Type} (self : DevnetMachineResource S)

/-- `digestOfEncodedPayment`. -/
def digestOfEncodedPayment (encodedPayment : String) : String :=
  self.runtime.platform.sha256 encodedPayment

def buildRequestDigest (request : ToolSpendRequest) : String :=
  self.runtime.platform.canonicalToolSpendRequestDigest request

def getCanonicalRequirements (requestDigest : String) : CanonicalPaymentRequirements :=
  buildCanonicalRequirements self.config requestDigest

/-- `score`. -/
def score (payer : String) (date : Int) : List (String × Option Json) :=
  [("resourceName", text resourceName), ("scoredAt", text (isoString date)),
    ("fit", text (if payer = self.config.payerPublicKey then "wide" else "unknown")),
    ("scores", some (.arr ([
      ("p_vista_max", 95, "Wide last, max cushioning, outstanding arch support for wide feet"),
      ("p_streak_4", 72, "Standard fit runs snug on wide feet"),
      ("p_stride_lite", 45, "Narrow last unsuitable for wide fit"),
      ("p_trail_rock", 68, "Standard fit, roomy toebox but narrow midfoot"),
      ("p_gym_pace", 60, "Standard fit, medium width"),
      ("p_casual_day", 88, "Wide fit, relaxed everyday silhouette")].map fun s =>
        .obj [("productId", .str s.1), ("fitScore", minorJson s.2.1), ("note", .str s.2.2)])))]

/-! ### Staging -/

/-- What `stagePreparedAttempt` is given. -/
structure StageInput where
  spendingRequest : ToolSpendRequest
  paymentIdentifier : String
  encodedPayment : String
  approvalEventId : Option String := none

def stagePreparedAttempt (input : StageInput) : Machine S (String × String) := do
  let digest := self.buildRequestDigest input.spendingRequest
  let requirements := self.getCanonicalRequirements digest
  let payloadDigest := self.digestOfEncodedPayment input.encodedPayment
  let resolution ← self.store.resolveOrCreate {
    logicalOrderId := input.spendingRequest.orderId
    intentVersion := input.spendingRequest.intentVersion
    requestDigest := digest
    resource := resourceUrl
    approvalEventId := input.approvalEventId
    callerPaymentId := input.paymentIdentifier
    requirementsJson := requirements.toJson }
  if resolution.kind = .releaseRequired then
    throw (.thrown s!"Release required: {resolution.detail}")
  if resolution.kind = .approvalMismatch then
    throw (.thrown s!"Approval mismatch: {resolution.detail}")
  let row := resolution.row
  if row.requestDigest ≠ digest then
    throw (.thrown "Payment identifier is already reserved for a different spending request.")
  let bound := (row.payloadDigest.getD "")
  if bound ≠ "" ∧ bound ≠ payloadDigest then
    throw (.thrown "Payment identifier is already bound to a different signed payment payload.")
  if bound = "" then
    let sealedPayload := self.store.sealSignedPayload input.encodedPayment
    let _ ← self.store.transition self.runtime row.operationId [.pending] .pending
      { signedPayloadEnc := some (some sealedPayload), payloadDigest := some (some payloadDigest)
        callerPaymentId := some input.paymentIdentifier } none none
  return (row.operationId, digest)

/-! ### Completing a settlement -/

def inspectTransaction (transactionHash expectedMemo : String) (expected : ExpectedTransfer) :
    Machine S TransactionInspection := do
  match self.config.solanaRpcUrl.filter (· ≠ "") with
  | none => return unavailable
  | some _ =>
      let answer ← Proc.call (Q := Ask) (.getTransaction transactionHash)
      record (.inspected transactionHash answer)
      return inspect answer expectedMemo expected

/-- Who completes a settlement, and for what. -/
structure Completion where
  operationId : String
  owner : String
  fence : String
  settlementResult : String
  requestDigest : String
  paymentIdentifier : String
  feePayer : String

/-- `failClosed`: the status of an attempt whose settlement is not shown; where the write fails,
the answer carries the transaction nevertheless. -/
def failClosed (c : Completion) (adapted : AdaptedSettlement) (to_ : AttemptStatus)
    (error detail : String) (retryable : Bool) : Machine S Response := do
  tryCatch
    (do
      let _ ← self.store.transition self.runtime c.operationId [.settling, .awaitingEvidence] to_
        { txHash := some (some adapted.transactionHash) } (some c.owner) (some c.fence))
    fun _ => pure ()
  let awaits := to_ = .awaitingEvidence
  return respondWith (if awaits then 202 else 502)
    [("error", text error), ("detail", text detail), ("paymentIdentifier", text c.paymentIdentifier),
      ("requestDigest", text c.requestDigest),
      ("reconciliationState", text (if awaits then "pending" else "manual_reconciliation_required")),
      ("retryable", flag retryable),
      ("transactionHash", if awaits then text adapted.transactionHash else none)]

/-- `DevnetSettlementEvidence`. -/
def settlementEvidence (c : Completion) (adapted : AdaptedSettlement)
    (inspection : TransactionInspection) (date : Int) : Json :=
  Json.ofFields [("paymentIdentifier", text c.paymentIdentifier), ("network", text adapted.network),
    ("asset", text adapted.asset), ("amount", text adapted.amount), ("payer", text adapted.payer),
    ("payee", text adapted.payee), ("feePayer", text c.feePayer),
    ("transactionHash", text adapted.transactionHash),
    ("facilitatorUrl", text adapted.facilitatorUrl), ("verificationResult", text "verified"),
    ("settlementResult", text c.settlementResult), ("requestDigest", text c.requestDigest),
    ("timestamp", text (isoString date)),
    ("explorerUrl",
      text ("https://explorer.solana.com/tx/" ++ adapted.transactionHash ++ "?cluster=devnet")),
    ("memoVerification", text inspection.memoVerification.text),
    ("transferVerification", text inspection.transferVerification.text),
    ("transfer", inspection.transfer.map fun t => .obj [("mint", .str t.mint),
      ("amount", .str t.amount), ("recipient", .str t.recipient), ("payer", .str t.payer)])]

def adaptedJson (a : AdaptedSettlement) : Json :=
  .obj [("success", .bool a.success), ("transactionHash", .str a.transactionHash),
    ("payer", .str a.payer), ("payee", .str a.payee), ("network", .str a.network),
    ("asset", .str a.asset), ("amount", .str a.amount), ("facilitatorUrl", .str a.facilitatorUrl),
    ("paymentIdentifier", .str a.paymentIdentifier)]

def replayNote : String := "replay: cached result returned, no second charge"

/-- The answer of a settled attempt; a NULL evidence is `null`. -/
def replayed (payer : String) (row : Attempt) (date : Int) : Response :=
  respondWith 200 (self.score payer date ++
    [("settlementEvidence", some (row.evidenceJson.getD .null)), ("note", text replayNote)])

/-- `String(evidence.payer ?? "")` and the like. -/
def evidenceText (evidence : Option Json) (name : String) : String :=
  match Json.optional evidence name with
  | none | some .null => ""
  | some value => value.toText

def ambiguous : String := "settlement_ambiguous"

def completeSettlement (c : Completion) (adapted : AdaptedSettlement) (expected : ExpectedTransfer)
    (initialInspection : Option TransactionInspection) : Machine S Response := do
  let inspection ← match initialInspection with
    | some inspection => pure inspection
    | none =>
        self.inspectTransaction adapted.transactionHash (memoForEnvelope c.requestDigest) expected
  if inspection.Unavailable then
    self.failClosed c adapted .awaitingEvidence ambiguous
      ("Settlement returned a transaction signature, but on-chain payment evidence is not yet " ++
        "available. Retry to reconcile the original attempt; no replacement payment will be submitted.")
      true
  else if inspection.memoVerification = .missing ∨ inspection.transferVerification = .mismatch then
    self.failClosed c adapted .manual "settlement_transaction_mismatch"
      (inspection.reason.getD "The confirmed transaction does not match the expected payment.") false
  else
    let date := (← Proc.read).date
    let evidence := settlementEvidence c adapted inspection date
    -- `none`: the write threw; `some none`: no row was written.
    let settled ← tryCatch
      (do
        let row ← self.store.transition self.runtime c.operationId [.settling, .awaitingEvidence]
          .settled { txHash := some (some adapted.transactionHash), evidenceJson := some evidence }
          (some c.owner) (some c.fence)
        return some row)
      fun _ => pure none
    match settled with
    | none =>
        return respondWith 202
          [("error", text ambiguous),
            ("detail", text ("Settlement completed on-chain but confirmation persistence failed; " ++
              "retry to reconcile the original attempt without submitting another payment.")),
            ("paymentIdentifier", text c.paymentIdentifier), ("requestDigest", text c.requestDigest),
            ("reconciliationState", text "pending"), ("retryable", flag true),
            ("transactionHash", text adapted.transactionHash)]
    | some none =>
        -- The race was lost: converge on the winner.
        let current ← self.store.getByOperationId c.operationId
        match current.filter (·.status = .settled) with
        | some current =>
            return self.replayed (evidenceText current.evidenceJson "payer") current (← Proc.read).date
        | none =>
            self.failClosed c adapted .awaitingEvidence ambiguous
              "Settlement raced another worker; retry to reconcile the original attempt." true
    | some (some _) =>
        return { respondWith 200 (self.score adapted.payer date ++ [("settlementEvidence", some evidence)]) with
          headers := [("PAYMENT-RESPONSE", self.encodeHeader (adaptedJson adapted))] }

/-! ### Joining a stored attempt -/

/-- `Date.parse(row.leaseExpiresAt) > Date.now()`. -/
def leased (row : Attempt) (date : Int) : Bool :=
  (row.leaseExpiresAt.bind self.store.parseLease).any (date < ·)

def inProgress (detail paymentIdentifier requestDigest : String) : Response :=
  respondWith 202
    [("error", text "settlement_in_progress"), ("detail", text detail),
      ("paymentIdentifier", text paymentIdentifier), ("requestDigest", text requestDigest),
      ("reconciliationState", text "pending"), ("retryable", flag true)]

/-- The answer for an attempt that is to be reconciled: the state it waits in. -/
def unsettled (status : Nat) (error detail : String) (row : Attempt) (pending : Bool) : Response :=
  respondWith status
    [("error", text error), ("detail", text detail), ("paymentIdentifier", text row.callerPaymentId),
      ("requestDigest", text row.requestDigest),
      ("reconciliationState", text (if pending then "pending" else "manual_reconciliation_required")),
      ("retryable", flag pending)]

/-- The inspection of an awaiting attempt, and what follows from it. -/
def reconcile (row : Attempt) (txHash knownPayer owner fence : String) : Machine S Response := do
  let amount := (self.getCanonicalRequirements row.requestDigest).amount
  let expected : ExpectedTransfer :=
    { asset := self.config.devnetUsdcMint, amount, payee := self.config.payeePublicKey
      payer := knownPayer }
  let inspection ← self.inspectTransaction txHash (memoForEnvelope row.requestDigest) expected
  if inspection.Verified then
    self.completeSettlement
      { operationId := row.operationId, owner, fence, settlementResult := "reconciled"
        requestDigest := row.requestDigest, paymentIdentifier := row.callerPaymentId
        feePayer := evidenceText row.evidenceJson "feePayer" }
      { success := true, transactionHash := txHash, payer := knownPayer
        payee := self.config.payeePublicKey, network := solanaDevnetCaip2
        asset := self.config.devnetUsdcMint, amount
        facilitatorUrl := self.config.facilitatorUrl, paymentIdentifier := row.callerPaymentId }
      expected (some inspection)
  else if inspection.memoVerification = .missing ∨ inspection.transferVerification = .mismatch then
    let _ ← self.store.transition self.runtime row.operationId [.awaitingEvidence] .mismatch {}
      (some owner) (some fence)
    return unsettled 502 "settlement_transaction_mismatch"
      (inspection.reason.getD "The confirmed transaction does not match the expected payment.")
      row false
  else
    return unsettled 202 ambiguous
      ("The original transaction is not yet confirmed with the expected payment evidence. Retry " ++
        "to reconcile without creating another payment.") row true

/-- `joinStoredRow`: the answer for a stored row, or `none` where it is a pending attempt. -/
def joinStoredRow : Nat → Attempt → Machine S (Option Response)
  | 0, _ => do
      let never ← Proc.call (Q := Ask) .never
      nomatch never
  | rejoins + 1, row => do
      let knownPayer := match row.payer.filter (· ≠ "") with
        | some payer => payer
        | none => evidenceText row.evidenceJson "payer"
      match row.status with
      | .settled => return some (self.replayed knownPayer row (← Proc.read).date)
      | .rejected =>
          return some (respondWith 402 [("error", text "payment_verification_failed"),
            ("detail", text "This attempt failed facilitator verification.")])
      | .manual =>
          return some (unsettled 202 ambiguous
            "Manual reconciliation is required; no replacement payment will be submitted." row false)
      | .mismatch =>
          return some (unsettled 502 "settlement_transaction_mismatch"
            "The confirmed transaction does not match the expected payment." row false)
      | .released =>
          return some (respondWith 409 [("error", text "release_consumed"),
            ("detail", text ("This payment identifier was consumed by an operator-released attempt " ++
              "and cannot be reused."))])
      | .awaitingEvidence =>
          match row.txHash.filter (· ≠ "") with
          | none =>
              return some (unsettled 202 ambiguous
                ("Retry to reconcile the original attempt; no replacement payment will be submitted.")
                row true)
          | some txHash =>
              -- The row with the lease that the reconciliation holds: its own, or a fresh one.
              let held ← if self.leased row (← Proc.read).date then pure (some row) else do
                let owner ← randomUUID self.runtime
                self.store.claimRowForTakeover self.runtime row.operationId ("reconcile-" ++ owner)
                  self.leaseTtl
              match held with
              | none =>
                  let current ← self.store.getByOperationId row.operationId
                  match current.filter (·.status ≠ .awaitingEvidence) with
                  | some current => joinStoredRow rejoins current
                  | none =>
                      return some (inProgress
                        "Another worker claimed this attempt; retry to reconcile the original."
                        row.callerPaymentId row.requestDigest)
              | some held =>
                  match held.leaseOwner.filter (· ≠ ""), held.fenceToken.filter (· ≠ "") with
                  | some owner, some fence =>
                      return some (← self.reconcile row txHash knownPayer owner fence)
                  | _, _ =>
                      return some (unsettled 202 ambiguous
                        ("The original attempt has no valid reconciliation fence; retry after " ++
                          "operator recovery.") row true)
      | .settling =>
          if self.leased row (← Proc.read).date then
            return some (inProgress
              "Another worker holds this attempt; retry to reconcile the original."
              row.callerPaymentId row.requestDigest)
          else
            -- The lease lapsed without a transaction: the slot is reopened under a fresh fence.
            let owner ← randomUUID self.runtime
            let taken ← self.store.claimRowForTakeover self.runtime row.operationId
              ("takeover-" ++ owner) self.leaseTtl
            match taken with
            | none =>
                let current ← self.store.getByOperationId row.operationId
                joinStoredRow rejoins (current.getD row)
            | some taken =>
                let _ ← self.store.transition self.runtime taken.operationId [.settling] .pending {}
                  taken.leaseOwner taken.fenceToken
                return none
      | .pending => return none

/-! ### Accepting a payment -/

/-- A call of `accept`: its arguments, the UUID it draws for its worker, and how often each of
its joins may start over. -/
structure AcceptCall where
  paymentSignatureHeader : String
  requestDigest : String
  spendingRequest : ToolSpendRequest
  approvalEventId : Option String := none
  workerUuid : String
  rejoins : Nat

def AcceptCall.workerId (call : AcceptCall) : String := "worker-" ++ call.workerUuid

/-- A payment that passed the checks, in the hands of its worker. -/
structure Presented where
  call : AcceptCall
  payload : Json
  /-- The terms it accepts. -/
  supplied : Json
  feePayer : String
  paymentId : String
  payloadDigest : String

/-- An attempt that the worker claimed, and the fence it holds. -/
structure ClaimedAttempt where
  payment : Presented
  operationId : String
  fence : String

variable (claimed : ClaimedAttempt)

/-- A transition of the worker's attempt out of `settling`. -/
def workerTransition (to_ : AttemptStatus) (update : Update) : Machine S (Option Attempt) :=
  self.store.transition self.runtime claimed.operationId [.settling] to_ update
    (some claimed.payment.call.workerId) (some claimed.fence)

/-- The worker lost its attempt: it joins what is stored now. -/
def rejoin (detail : String) : Machine S Response := do
  let lost := inProgress detail claimed.payment.paymentId claimed.payment.call.requestDigest
  match ← self.store.getByOperationId claimed.operationId with
  | none => return lost
  | some reread =>
      let joined ← self.joinStoredRow claimed.payment.call.rejoins reread
      return joined.getD lost

/-- The answer where a settlement was started and its outcome is not known. -/
def undecided (status : Nat) (error detail : String) (pending : Bool) (transaction : Option String) :
    Response :=
  respondWith status
    [("error", text error), ("detail", text detail),
      ("paymentIdentifier", text claimed.payment.paymentId),
      ("requestDigest", text claimed.payment.call.requestDigest),
      ("reconciliationState", text (if pending then "pending" else "manual_reconciliation_required")),
      ("retryable", flag pending), ("transactionHash", transaction.map .str)]

/-- `transactionHashFromUnknown`. -/
def transactionHashFromUnknown (error : Json) : Option String :=
  Json.stringValue (Json.optional (some error) "transactionHash") <|>
    Json.stringValue (Json.optional (some error) "transaction") <|>
    Json.stringValue (Json.optional (some error) "signature")

/-- A facilitator's answer to a settlement. -/
def settleAnswered (payerFromVerify : Option String) : SettleAnswer → Machine S Response
  | .threw error message => do
      let known := transactionHashFromUnknown error
      let payer := payerFromVerify.map some
      match known with
      | some hash =>
          let _ ← self.workerTransition claimed .awaitingEvidence { txHash := some (some hash), payer }
      | none =>
          let _ ← self.workerTransition claimed .manual { payer }
      let detail := match known with
        | some _ => "Settlement transport failed after the payment attempt was submitted. Retry to " ++
            "reconcile the original attempt: " ++ message
        | none => "Settlement transport failed without a transaction signature or discovery path. " ++
            "Manual reconciliation is required; no replacement payment will be submitted. " ++ message
      return undecided claimed 202 ambiguous detail known.isSome known
  | .malformed => do
      let _ ← self.workerTransition claimed .manual {}
      return undecided claimed 202 ambiguous
        ("The facilitator returned no usable settlement response or transaction signature. Manual " ++
          "reconciliation is required; no replacement payment will be submitted.") false none
  | .answered response => do
      let canonical := self.getCanonicalRequirements claimed.payment.call.requestDigest
      let verifiedPayer := payerFromVerify.getD ""
      let settledPayer := response.payer.getD ""
      let payer := if verifiedPayer ≠ "" then verifiedPayer else settledPayer
      let responseAmount := (response.amount.filter (· ≠ "")).getD canonical.amount
      let responseTransaction := response.transaction.filter (· ≠ "")
      let responseNetwork := (response.network.filter (· ≠ "")).getD canonical.network
      if verifiedPayer ≠ "" ∧ settledPayer ≠ "" ∧ verifiedPayer ≠ settledPayer then
        let _ ← self.workerTransition claimed .manual
          { txHash := some (some (responseTransaction.getD "")), payer := some (some payer) }
        return undecided claimed 502 "settlement_transaction_mismatch"
          "Facilitator settlement payer did not match the verified payment payer." false none
      else
        let adapted := adaptSettlement
          { success := response.success, transaction := responseTransaction
            network := some responseNetwork, payer := some payer, amount := some responseAmount }
          self.config claimed.payment.paymentId canonical.amount
        match adapted with
        | .error message =>
            let _ ← self.workerTransition claimed
              (if responseTransaction.isSome then .awaitingEvidence else .manual)
              { txHash := some (some (responseTransaction.getD "")), payer := some (some payer) }
            let detail := if responseTransaction.isSome then
                "Settlement response was incomplete; retry to reconcile the original attempt: " ++ message
              else "Settlement response was incomplete and did not provide a transaction signature; " ++
                "no discovery path is available. Manual reconciliation is required; no replacement " ++
                "payment will be submitted. " ++ message
            return undecided claimed 202 ambiguous detail responseTransaction.isSome responseTransaction
        | .ok adapted =>
            if adapted.success then
              self.completeSettlement
                { operationId := claimed.operationId, owner := claimed.payment.call.workerId
                  fence := claimed.fence, settlementResult := "settled"
                  requestDigest := claimed.payment.call.requestDigest
                  paymentIdentifier := claimed.payment.paymentId, feePayer := claimed.payment.feePayer }
                adapted
                { asset := adapted.asset, amount := adapted.amount, payee := adapted.payee
                  payer := adapted.payer }
                none
            else
              let signed := adapted.transactionHash ≠ ""
              let _ ← self.workerTransition claimed (if signed then .awaitingEvidence else .manual)
                { txHash := some (some adapted.transactionHash), payer := some (some payer) }
              let detail := if signed then
                  "Settlement broadcast may have succeeded but confirmation timed out. Retry to " ++
                    "reconcile the original transaction without submitting another payment."
                else "Settlement did not provide a transaction signature or discovery path. Manual " ++
                  "reconciliation is required; no replacement payment will be submitted."
              return undecided claimed 202 ambiguous detail signed none

def leaseLost : String := "Lease lost before settlement; another worker owns this attempt."

/-- The payment is verified: the lease is checked again, and the settlement started. -/
def settleVerified (payerFromVerify : Option String) : Machine S Response := do
  match ← self.store.revalidateForSettle self.runtime claimed.operationId
      claimed.payment.call.workerId claimed.fence self.leaseTtl with
  | none => self.rejoin claimed leaseLost
  | some _ =>
      record (.submitted claimed.operationId claimed.payment.call.workerId claimed.payment.payloadDigest)
      let answer ← Proc.call (Q := Ask)
        (.settlePayment claimed.payment.payload claimed.payment.supplied)
      self.settleAnswered claimed payerFromVerify answer

/-- The attempt is claimed for this payload: the lease is checked, and the payment verified. -/
def settleClaimed (blockhash : Option String) : Machine S Response := do
  if (blockhash.getD "") = "" then
    let staged ← Proc.call (Q := Ask)
      (.extractTransactionBlockhash claimed.payment.call.paymentSignatureHeader)
    match staged.filter (· ≠ "") with
    | some staged =>
        let _ ← self.workerTransition claimed .settling { blockhash := some (some staged) }
    | none => pure ()
  match ← self.store.revalidateForSettle self.runtime claimed.operationId
      claimed.payment.call.workerId claimed.fence self.leaseTtl with
  | none => self.rejoin claimed leaseLost
  | some _ =>
      let verifyResult ← Proc.call (Q := Ask)
        (.verifyPayment claimed.payment.payload claimed.payment.supplied)
      let verifyResult := match verifyResult with
        | .ok response => response
        | .error message => { isValid := false, invalidReason := some message }
      if ¬ verifyResult.isValid then
        let _ ← self.workerTransition claimed .rejected {}
        return respondWith 402 [("error", text "payment_verification_failed"),
          ("detail", text ((orElse verifyResult.invalidReason
            (orElse verifyResult.invalidMessage (some "unknown"))).getD "unknown"))]
      else
        match verifyResult.payer.filter (· ≠ "") with
        | none => self.settleVerified claimed verifyResult.payer
        | some payer =>
            record (.verified claimed.operationId payer)
            match ← self.workerTransition claimed .settling { payer := some (some payer) } with
            | none =>
                self.rejoin claimed
                  "Lease lost during verification; another worker owns this attempt."
            | some _ => self.settleVerified claimed verifyResult.payer

def ownershipConflict : Response :=
  respondWith 409 [("error", text "payment_ownership_conflict"),
    ("detail", text "Payment identifier is already bound to a different signed payment payload.")]

def idempotencyConflict : Response :=
  respondWith 409 [("error", text "idempotency_conflict"),
    ("detail", text "Same payment identifier used with a different request digest.")]

/-- The attempt is bound to another payload. -/
def boundElsewhere (row : Attempt) (payloadDigest : String) : Prop :=
  row.payloadDigest.getD "" ≠ "" ∧ row.payloadDigest ≠ some payloadDigest

instance (row : Attempt) (payloadDigest : String) : Decidable (boundElsewhere row payloadDigest) :=
  inferInstanceAs (Decidable (_ ∧ _))

/-- The stored attempt of the payment: it is joined, or claimed and settled. -/
def claimAttempt (payment : Presented) (row : Attempt) : Machine S Response := do
  match ← self.joinStoredRow payment.call.rejoins row with
  | some joined => return joined
  | none =>
      let sealedPayload := self.store.sealSignedPayload payment.call.paymentSignatureHeader
      let claimed ← self.store.claimForSettle self.runtime row.operationId payment.call.workerId
        self.leaseTtl sealedPayload payment.payloadDigest
      match claimed with
      | none =>
          match ← self.store.getByOperationId row.operationId with
          | none =>
              return respondWith 500 [("error", text "internal_error"),
                ("detail", text "Settlement record vanished mid-accept.")]
          | some reread =>
              let joined ← self.joinStoredRow payment.call.rejoins reread
              return joined.getD (inProgress
                "Another worker claimed this attempt; retry to reconcile the original."
                payment.paymentId payment.call.requestDigest)
      | some claimed =>
          let held : ClaimedAttempt :=
            { payment, operationId := row.operationId, fence := claimed.fenceToken.getD "" }
          if boundElsewhere claimed payment.payloadDigest then
            let _ ← self.workerTransition held .pending {}
            return ownershipConflict
          else self.settleClaimed held claimed.blockhash

/-- A payment that passed the checks: its attempt is found or created. -/
def acceptPayment (payment : Presented) : Machine S Response := do
  let digest := payment.call.requestDigest
  let samePidRows ← self.store.findByPaymentId payment.paymentId
  if samePidRows.any (·.requestDigest ≠ digest) then
    return idempotencyConflict
  else
    let resolution ← self.store.resolveOrCreate {
      logicalOrderId := payment.call.spendingRequest.orderId
      intentVersion := payment.call.spendingRequest.intentVersion
      requestDigest := digest
      resource := resourceUrl
      approvalEventId := payment.call.approvalEventId
      callerPaymentId := payment.paymentId
      requirementsJson := (self.getCanonicalRequirements digest).toJson }
    match resolution.kind with
    | .releaseRequired =>
        return respondWith 409 [("error", text "release_required"), ("detail", text resolution.detail)]
    | .approvalMismatch =>
        return respondWith 409 [("error", text "approval_mismatch"), ("detail", text resolution.detail)]
    | .created | .existing =>
        let row := resolution.row
        if row.requestDigest ≠ digest then return idempotencyConflict
        else if boundElsewhere row payment.payloadDigest then return ownershipConflict
        else self.claimAttempt payment row

/-- The errors of the terms that a payment presents. -/
def requirementErrors (supplied : Json) (requestDigest : String) : Except String (List String) := do
  let field name := Json.optional (some supplied) name
  let memo := match Json.optional (field "extra") "memo" with
    | some (.str memo) => some memo
    | _ => none
  let errors ← verifyCanonicalRequirements
    { scheme := field "scheme", network := field "network", asset := field "asset"
      amount := field "amount", payTo := field "payTo", memo }
    (self.getCanonicalRequirements requestDigest)
  let feePayer := Json.optional (field "extra") "feePayer"
  match self.supportedFeePayer with
  | none => return errors
  | some expected =>
      if expected.any fun feePayer' => feePayer.any (Json.isText feePayer') then return errors
      else return errors ++ ["feePayer does not match facilitator-supported requirements"]

def accept (call : AcceptCall) : Machine S Response := do
  match ← Proc.call (Q := Ask) .ensureInitialized with
  | .error message => throw (.thrown message)
  | .ok _ =>
  if ¬ self.settlementEnabled then
    return respondWith 503 [("error", text "settlement_unavailable"),
      ("detail", text "x402 settlement is disabled by operator kill-switch.")]
  else if call.paymentSignatureHeader = "" then
    match ← Proc.call (Q := Ask) (.quote call.requestDigest) with
    | .error message => throw (.thrown message)
    | .ok requiredHeader =>
        return { respondWith 402 [("error", text "payment_required"),
            ("detail", text "This resource requires payment. Retry with PAYMENT-SIGNATURE.")] with
          headers := [("PAYMENT-REQUIRED", requiredHeader)] }
  else match self.decodePayment call.paymentSignatureHeader with
  | none => return respondWith 400 [("error", text "malformed_payment_signature")]
  | some payload =>
  match payload.access "accepted" with
  | none => throw (.thrown "Cannot read properties of null (reading 'accepted')")
  | some accepted =>
  match accepted.filter Json.isTruthy with
  | none => return respondWith 400 [("error", text "missing_accepted_requirements")]
  | some supplied =>
  if call.requestDigest ≠ self.buildRequestDigest call.spendingRequest then
    return respondWith 400 [("error", text "request_digest_mismatch"),
      ("detail", text "The supplied requestDigest does not match spendingRequest.")]
  else match self.requirementErrors supplied call.requestDigest with
  | .error message => throw (.thrown message)
  | .ok (error :: rest) =>
      return respondWith 402 [("error", text "payment_rejected"),
        ("detail", text ("; ".intercalate (error :: rest)))]
  | .ok [] =>
  match (self.paymentIdentifier payload).filter (· ≠ "") with
  | none =>
      return respondWith 400 [("error", text "payment_identifier_required"),
        ("detail", text "A valid payment-identifier extension is required.")]
  | some paymentId =>
      let feePayer := match Json.optional (Json.optional (some supplied) "extra") "feePayer" with
        | some (.str feePayer) => feePayer
        | _ => ""
      self.acceptPayment
        { call, payload, supplied, feePayer, paymentId
          payloadDigest := self.digestOfEncodedPayment call.paymentSignatureHeader }

end DevnetMachineResource

end AgentReady.Settlement
