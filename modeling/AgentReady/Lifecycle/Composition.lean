import AgentReady.Lifecycle.Structure

/-!
What holds of every command by its structure.

* `structural_op`: a command has a property that sequencing keeps, where the writes it is made of have it.
-/

namespace AgentReady

open Coop Svc

/-- The property holds of setting a record. -/
abbrev SetsRecords (R : {α : Type} → Svc α → Prop) : Prop :=
  ∀ (o : String) (record : EnvelopeRecord) {f : Session → Session},
    (∀ x, (f x).logicalOrderId = x.logicalOrderId) → (∀ x, (f x).customerId = x.customerId) →
    R (Svc.replaceOrder o (some record) f)

section

variable {cfg : Config} {R : {α : Type} → Svc α → Prop} {α : Type} (closed : Structural cfg R)

include closed

/-! ### The fit-scoring spend -/

theorem structural_setAttempt (o : String) (attempt : MachineSpendAttempt) :
    R (setAttempt o attempt) :=
  closed.updateSession o (fun _ => rfl) fun _ => rfl

theorem structural_logMachineSpendAuditOnce (o : String) {event : String → Int → AuditEvent}
    (id : ∀ id now, (event id now).eventId = id) :
    R (logMachineSpendAuditOnce cfg o event) := by
  have last : R (do
      log cfg event
      ask .yield) := closed.bind (closed.log id) fun _ => closed.ask _
  refine Structural.ite (closed.bind (closed.ask _) fun _ => closed.bind closed.read fun _ => ?_) last
  exact Structural.ite (closed.pure ()) last

theorem structural_spendEvent (o spent type : String) (decision : PolicyDecision)
    (references : List (String × String)) (reasonCodes : List String) :
    R
      (logMachineSpendAuditOnce cfg o (spendEvent spent type decision references reasonCodes)) :=
  structural_logMachineSpendAuditOnce closed o fun _ _ => rfl

theorem structural_closeAttempt (o : String) (attempt : MachineSpendAttempt)
    (outcome : DevnetMachineSpendOutcome) :
    R (closeAttempt cfg o attempt outcome) := by
  refine Structural.ite ?_ ?_
  · refine closed.bind (structural_setAttempt closed o _) fun _ => closed.bind ?_ fun _ => closed.pure none
    split
    all_goals exact structural_spendEvent closed o _ _ _ _ _
  · exact closed.bind (structural_setAttempt closed o _) fun _ =>
      closed.bind (structural_spendEvent closed o _ _ _ _ _) fun _ => closed.pure none

theorem structural_submitAttempt (o asset payee : String) (attempt : MachineSpendAttempt)
    (prepared : DevnetMachinePaymentAttempt) (wasPending : Bool) :
    R (submitAttempt cfg o asset payee attempt prepared wasPending) := by
  refine closed.bind (structural_setAttempt closed o _) fun _ => closed.bind (closed.bind (closed.session? o) fun _ => closed.pure _)
    fun _ => closed.bind (closed.ask _) fun outcome => ?_
  cases outcome with
  | error message =>
      exact closed.bind (structural_setAttempt closed o _) fun _ =>
        closed.bind (structural_spendEvent closed o _ _ _ _ _) fun _ => closed.pure none
  | ok outcome =>
      dsimp only
      split
      · exact closed.bind (structural_setAttempt closed o _) fun _ =>
          closed.bind (closed.updateSession o (fun _ => rfl) fun _ => rfl) fun _ =>
          closed.bind (structural_spendEvent closed o _ _ _ _ _) fun _ => closed.pure _
      · exact structural_closeAttempt closed o attempt outcome

theorem structural_preparedAttempt (o : String) (request : ToolSpendRequest)
    (existing : Option MachineSpendAttempt) (paymentIdentifier : String) :
    R (preparedAttempt o request existing paymentIdentifier) := by
  unfold preparedAttempt
  split
  · exact closed.pure _
  · exact closed.bind (closed.bind (closed.session? o) fun _ => closed.pure _) fun _ => closed.ask _

theorem structural_spendPrepared (o asset payee : String) (existing : Option MachineSpendAttempt)
    (prepared : Except String DevnetMachinePaymentAttempt) :
    R (spendPrepared cfg o asset payee existing prepared) := by
  cases prepared with
  | ok prepared => exact structural_submitAttempt closed o asset payee _ prepared _
  | error m =>
      cases existing
      all_goals exact closed.bind (structural_spendEvent closed o _ _ _ _ _) fun _ => closed.pure none

theorem structural_spendOnDevnet (o asset payee : String) (request : ToolSpendRequest)
    (existing : Option MachineSpendAttempt) :
    R (spendOnDevnet cfg o asset payee request existing) := by
  have identified : R (spendIdentifier cfg existing) := by
    unfold spendIdentifier
    split
    · exact closed.pure _
    · exact closed.newId _
  exact closed.bind identified fun _ => closed.bind (closed.ask _) fun _ =>
    closed.bind (structural_preparedAttempt closed o request existing _) fun _ =>
      structural_spendPrepared closed o asset payee existing _

theorem structural_storedAttempt (request : ToolSpendRequest) (stored : Option StoredAttempt) :
    R (storedAttempt request stored) := by
  cases stored with
  | none => exact closed.pure none
  | some stored =>
      refine closed.bind (Structural.ite ?_ (closed.bind (closed.pure "") fun _ => closed.pure _)) fun _ => closed.pure _
      exact closed.bind (closed.ask _) fun _ => closed.bind (closed.liftResult _) fun _ => closed.pure _

theorem structural_runDevnetFitScoreSpend (o : String) (session : Session) (amountMinor : Int)
    (asset payee : String) :
    R (runDevnetFitScoreSpend cfg o session amountMinor asset payee) := by
  refine closed.bind (closed.ask _) fun resource => ?_
  cases resource with
  | error m => exact closed.bind (structural_spendEvent closed o _ _ _ _ _) fun _ => closed.pure none
  | ok _ =>
      refine closed.bind (closed.ask _) fun _ => closed.bind (closed.liftResult _) fun stored =>
        closed.bind (structural_storedAttempt closed _ stored) fun existing => Structural.ite (closed.pure none) ?_
      split
      · exact closed.bind (structural_spendEvent closed o _ _ _ _ _) fun _ => closed.pure none
      · exact structural_spendOnDevnet closed o asset payee _ existing

section Machines

variable (machines : ∀ r, R (Proc.modify fun s => { s with machineResource := r }))

include machines

theorem structural_mockFitScoreSpend (o : String) (session : Session) :
    R (mockFitScoreSpend cfg o session) := by
  refine closed.bind (closed.digestOf _) fun hash => closed.bind (closed.newId _) fun id => closed.bind closed.read fun s => ?_
  rcases runMachineSpend defaultMachineSpend (isoString s.clock) s.machineResource hash id with
    ⟨outcome, resource⟩
  refine closed.bind (machines _) fun _ => ?_
  cases outcome with
  | error m => exact closed.bind (closed.log fun _ _ => rfl) fun _ => closed.pure none
  | ok paid =>
      exact closed.bind (closed.updateSession o (fun _ => rfl) fun _ => rfl) fun _ =>
        closed.bind (closed.log fun _ _ => rfl) fun _ => closed.pure _

theorem structural_runFitScoreSpend (o : String) (session : Session) :
    R (runFitScoreSpend cfg o session) := by
  have spent : R (spendInMode cfg o session) := by
    unfold spendInMode
    split
    · exact structural_runDevnetFitScoreSpend closed o session _ _ _
    · exact structural_mockFitScoreSpend closed machines o session
  exact closed.bind spent fun _ => closed.bind (closed.ask _) fun _ => closed.pure _
/-! ### A turn of the conversation -/

theorem structural_presentShortlist (o message : String) (operationId : Option String)
    (session : Session) (ranking : RankingResult) (action : InterpretationAction)
    (quoteInvalidated : Bool) :
    R
      (presentShortlist cfg o message operationId session ranking action quoteInvalidated) := by
  refine Structural.ite (closed.bind (closed.setState o _) fun _ => ?_) ?_
  all_goals
    refine closed.bind (closed.digestOf _) fun _ => closed.bind closed.read fun _ =>
      Structural.ite (closed.bind (structural_runFitScoreSpend closed machines o session) fun spend => ?_)
        (closed.bind (closed.pure none) fun spend => ?_)
    all_goals exact structural_presented closed o message operationId session ranking action spend

theorem structural_search (o message : String) (operationId : Option String)
    (action : InterpretationAction) (materialChange quoteInvalidated : Bool) :
    R (search cfg o message operationId action materialChange quoteInvalidated) := by
  refine closed.bind (closed.session? o) fun found => ?_
  cases found with
  | none => exact closed.pure _
  | some session =>
      dsimp only
      split
      · exact structural_repeatShortlist closed o message operationId session _ action
      · refine Structural.ite (closed.bind (closed.complete _ _ _ _ _) fun _ => closed.pure _) (closed.bind closed.now fun _ => ?_)
        refine closed.bind (structural_recordRecommendation closed o _) fun _ => Structural.ite ?_ ?_
        · exact structural_clarify closed o message operationId session _
        · exact structural_presentShortlist closed machines o message operationId session _ action _
theorem structural_turn (o message : String) (supplied : Option RecommendationBinding)
    (operationId : Option String) : R (respond cfg o message supplied operationId) :=
  structural_respond closed o message supplied operationId
    (structural_search closed machines o message operationId)

end Machines

theorem structural_patchIntent (o : String) (session : Session) (patch : Patch) :
    R (patchIntent cfg o session patch) := by
  have ranked : ∀ intent, R (do
      patchTransition o session.state (hasIntentChanged session.intent intent)
      rankPatched cfg o session patch intent) := by
    intro intent
    have moves : R (patchTransition o session.state
        (hasIntentChanged session.intent intent)) :=
      Structural.ite (closed.setState o _) (Structural.ite (closed.setState o _) (Structural.ite (closed.setState o _) (closed.pure ())))
    have outcome : ∀ ranked, R (patchOutcome o ranked) := fun _ =>
      Structural.ite (closed.updateSession o (fun _ => rfl) fun _ => rfl)
        (closed.bind (closed.stateOf o) fun _ => Structural.ite (closed.setState o _) (closed.pure ()))
    exact closed.bind moves fun _ => closed.bind closed.now fun _ =>
      closed.bind (structural_recordRecommendation closed o _) fun _ =>
      closed.bind (structural_syncMemory closed o _ _ _ _) fun _ => closed.bind (outcome _) fun _ =>
      closed.bind (closed.digestOf _) fun _ => closed.bind (closed.log fun _ _ => rfl) fun _ =>
      closed.bind (structural_recommendationBinding closed o) fun _ => closed.bind (closed.session? o) fun _ => closed.pure _
  refine closed.bind (closed.record? o) fun _ => closed.bind (closed.updateSession o (fun _ => rfl) fun _ => rfl) fun _ => ?_
  exact Structural.ite (closed.bind (structural_withdrawQuote closed o _ _) fun _ => ranked _) (ranked _)

theorem structural_intentPatch (o : String) (patch : Patch) (expectedIntentVersion : Int) :
    R (intentPatch cfg o patch expectedIntentVersion) := by
  refine closed.bind (closed.session? o) fun found => ?_
  cases found with
  | none => exact closed.pure _
  | some session =>
      refine Structural.ite (closed.pure _) ?_
      split
      · exact closed.pure _
      · exact structural_patchIntent closed o session patch

/-! ### The order -/

theorem structural_buildQuote (sets : SetsRecords R) (o productId : String) (supplied : Option RecommendationBinding)
    (operationId : Option String) :
    R (buildQuote cfg o productId supplied operationId) := by
  refine closed.idempotent _ _ _ _ (closed.bind (closed.session? o) fun found => ?_)
  cases found with
  | none => exact closed.throw _
  | some session =>
      refine closed.bind (structural_validateCurrentSelection closed o session productId supplied)
        fun checked => ?_
      cases checked with
      | rejected message ranking binding codes => exact closed.throw _
      | accepted product variant binding =>
          exact closed.bind (closed.newId _) fun _ => closed.bind (closed.newId _) fun _ => closed.bind (closed.newId _) fun _ =>
            closed.bind closed.read fun _ => closed.bind (closed.digestOf _) fun _ =>
            closed.bind (sets o _ (fun _ => rfl) fun _ => rfl) fun _ => closed.bind (closed.setState o _) fun _ =>
            closed.bind (closed.log fun _ _ => rfl) fun _ => closed.bind (closed.stateOf o) fun _ => closed.bind (closed.session? o) fun _ =>
            closed.bind (closed.complete _ _ _ _ _) fun _ => closed.pure _

theorem structural_approve (o digest : String) (operationId : Option String) :
    R (approve cfg o digest operationId) := by
  refine closed.idempotent _ _ _ _ (closed.bind (closed.session? o) fun found => ?_)
  cases found with
  | none => exact closed.refuse _ _
  | some session =>
  refine closed.bind (closed.record? o) fun found => ?_
  cases found with
  | none => exact closed.refuse _ _
  | some record =>
  refine closed.bind (closed.liftResult _) fun _ => Structural.ite (closed.refuse _ _) (Structural.ite (closed.succeed _ _ _) (Structural.ite (closed.refuse _ _) ?_))
  refine closed.bind closed.now fun _ => Structural.ite ?_ ?_
  · exact closed.bind (closed.setState o _) fun _ => closed.bind (closed.stateOf o) fun _ => closed.refuse _ _
  · exact closed.bind (closed.newId _) fun _ => closed.bind (closed.updateSession o (fun _ => rfl) fun _ => rfl) fun _ =>
      closed.bind (closed.setState o _) fun _ => closed.bind (closed.log fun _ _ => rfl) fun _ => closed.bind (closed.stateOf o) fun _ =>
      closed.succeed _ _ _

theorem structural_tamper (sets : SetsRecords R) (o field : String) : R (tamper cfg o field) := by
  refine closed.bind (closed.session? o) fun found => ?_
  cases found with
  | none => exact closed.pure _
  | some session =>
  refine closed.bind (closed.record? o) fun found => ?_
  cases found with
  | none => exact closed.pure _
  | some record =>
  refine closed.bind (closed.newId _) fun nonce => ?_
  rcases tamperEnvelope record.envelope field nonce with ⟨candidate, changes⟩
  exact Structural.ite (closed.pure _) (closed.bind closed.now fun _ => closed.bind (sets o _ (fun _ => rfl) fun _ => rfl) fun _ =>
    closed.bind (closed.setState o _) fun _ => closed.bind (closed.log fun _ _ => rfl) fun _ => closed.bind (closed.stateOf o) fun _ => closed.pure _)

theorem structural_reuseInitiation (o : String) (operationId : Option String) (session : Session)
    (record : EnvelopeRecord) :
    R (reuseInitiation cfg o operationId session record) := by
  refine Structural.ite (closed.bind (closed.setState o _) fun _ => ?_) ?_
  all_goals exact closed.bind (closed.newId _) fun _ => closed.bind (closed.stateOf o) fun _ => closed.succeed _ _ _

theorem structural_initiatePayment (o rail : String) (operationId : Option String) :
    R (initiatePayment cfg o rail operationId) := by
  refine closed.idempotent _ _ _ _ (closed.bind (closed.session? o) fun found => ?_)
  cases found with
  | none => exact closed.refuse _ _
  | some session =>
  refine closed.bind (closed.record? o) fun found => ?_
  cases found with
  | none => exact closed.refuse _ _
  | some record =>
  refine closed.bind (closed.liftResult _) fun _ => Structural.ite (closed.refuse _ _) (Structural.ite (closed.refuse _ _) (Structural.ite ?_ ?_))
  · exact closed.bind (closed.log fun _ _ => rfl) fun _ => closed.refuse _ _
  refine closed.bind closed.read fun _ => Structural.ite (closed.bind (closed.log fun _ _ => rfl) fun _ => closed.refuse _ _)
    (Structural.ite (closed.refuse _ _) (Structural.ite ?_ (Structural.ite (closed.refuse _ _) ?_)))
  · exact structural_reuseInitiation closed o operationId session record
  refine closed.bind (closed.setState o _) fun _ => closed.bind (closed.ask _) fun answer => ?_
  cases answer with
  | ok attempt =>
      exact closed.bind (closed.updateSession o (fun _ => rfl) fun _ => rfl) fun _ =>
        closed.bind (closed.log fun _ _ => rfl) fun _ => closed.bind (closed.stateOf o) fun _ => closed.succeed _ _ _
  | error message =>
      exact closed.bind (closed.setState o _) fun _ => closed.bind (closed.log fun _ _ => rfl) fun _ =>
        closed.bind (closed.stateOf o) fun _ => closed.refuse _ _

theorem structural_mockCapture (o : String) : R (mockCapture cfg o) := by
  refine closed.bind (closed.session? o) fun found => ?_
  cases found with
  | none => exact closed.throw _
  | some session => exact Structural.ite (closed.throw _) (Structural.ite (closed.throw _) (closed.bind closed.now fun _ => closed.pure _))

theorem structural_rejectX402 (o : String) (operationId : Option String) (state : OrderState)
    (error : String) (reasonCodes : List String) (inputDigest : Option String)
    (decision : PolicyDecision) : R
      (rejectX402 cfg o operationId state error reasonCodes inputDigest decision) :=
  closed.bind (closed.log fun _ _ => rfl) fun _ => closed.refuse _ _

theorem structural_prepareX402OrderPayment (o : String) (operationId : Option String) :
    R (prepareX402OrderPayment cfg o operationId) := by
  have rejected := structural_rejectX402 closed o operationId
  refine closed.idempotent _ _ _ _ (closed.bind (closed.session? o) fun found => ?_)
  cases found with
  | none => exact closed.refuse _ _
  | some session =>
  refine closed.bind (closed.record? o) fun found => ?_
  cases found with
  | none => exact closed.refuse _ _
  | some record =>
  refine Structural.ite (rejected _ _ _ _ _) (Structural.ite (rejected _ _ _ _ _) (Structural.ite (rejected _ _ _ _ _) ?_))
  refine closed.bind (closed.liftResult _) fun _ => Structural.ite (rejected _ _ _ _ _) (closed.bind closed.read fun _ =>
    Structural.ite (rejected _ _ _ _ _) ?_)
  split
  · exact closed.bind (closed.log fun _ _ => rfl) fun _ => closed.succeed _ _ _
  · exact closed.bind (closed.updateSession o (fun _ => rfl) fun _ => rfl) fun _ =>
      closed.bind (closed.log fun _ _ => rfl) fun _ => closed.succeed _ _ _

theorem structural_confirmX402OrderPayment (o paymentIdentifier : String) (operationId : Option String) :
    R (confirmX402OrderPayment cfg o paymentIdentifier operationId) := by
  have rejected := structural_rejectX402 closed o operationId
  refine closed.idempotent _ _ _ _ (closed.bind (closed.session? o) fun found => ?_)
  cases found with
  | none => exact closed.refuse _ _
  | some session =>
  refine closed.bind (closed.record? o) fun found => ?_
  dsimp only
  split
  · rename_i record pending _
    refine Structural.ite (closed.bind (closed.log fun _ _ => rfl) fun _ => closed.succeed _ _ _) ?_
    refine Structural.ite (closed.bind (closed.liftResult _) fun _ => ?_) (closed.bind (closed.pure _) fun _ => ?_)
    all_goals
      refine Structural.ite (rejected _ _ _ _ _) (Structural.ite (rejected _ _ _ _ _) ?_)
      exact closed.bind (closed.updateSession o (fun _ => rfl) fun _ => rfl) fun _ => closed.bind (closed.setState o _) fun _ =>
        closed.bind (closed.setState o _) fun _ => closed.bind (closed.log fun _ _ => rfl) fun _ => closed.bind (closed.stateOf o) fun _ =>
        closed.succeed _ _ _
  · exact rejected _ _ _ _ _

theorem structural_fulfil (o : String) (fail : Bool) (operationId : Option String) :
    R (fulfil cfg o fail operationId) := by
  refine closed.idempotent _ _ _ _ (closed.bind (closed.session? o) fun found => ?_)
  cases found with
  | none => exact closed.refuse _ _
  | some session =>
  refine Structural.ite (closed.refuse _ _) (closed.bind (closed.setState o _) fun _ => Structural.ite ?_ ?_)
  · exact closed.bind (closed.setState o _) fun _ => closed.bind (closed.log fun _ _ => rfl) fun _ =>
      closed.bind (closed.stateOf o) fun _ => closed.refuse _ _
  · exact closed.bind (closed.setState o _) fun _ => closed.bind (closed.log fun _ _ => rfl) fun _ =>
      closed.bind (closed.stateOf o) fun _ => closed.succeed _ _ _

theorem structural_refunded (o : String) (operationId : Option String) (compensation : Compensation)
    (type reasonCode : String) (references : List (String × String)) :
    R (refunded cfg o operationId compensation type reasonCode references) :=
  closed.bind (closed.updateSession o (fun _ => rfl) fun _ => rfl) fun _ => closed.bind (closed.setState o _) fun _ =>
    closed.bind (closed.log fun _ _ => rfl) fun _ => closed.bind (closed.stateOf o) fun _ => closed.succeed _ _ _

theorem structural_compensate
    (catches : ∀ {p : Svc Reply} {h : ServiceError → Svc Reply}, R p → (∀ e, R (h e)) → R (tryCatch p h)) (o : String) (operationId : Option String) :
    R (compensate cfg o operationId) := by
  refine closed.idempotent _ _ _ _ (closed.bind (closed.session? o) fun found => ?_)
  cases found with
  | none => exact closed.refuse _ _
  | some session =>
  refine Structural.ite (closed.refuse _ _) (closed.bind (closed.record? o) fun found => ?_)
  cases found with
  | none => exact closed.refuse _ _
  | some record =>
  refine Structural.ite (closed.refuse _ _) (closed.bind (closed.setState o _) fun _ => Structural.ite ?_ (catches ?_ fun _ => ?_))
  · exact structural_refunded closed o operationId _ _ _ _
  · exact closed.bind (closed.ask _) fun _ => closed.bind (closed.liftResult _) fun _ =>
      structural_refunded closed o operationId _ _ _ _
  · exact closed.bind (closed.setState o _) fun _ => closed.bind (closed.log fun _ _ => rfl) fun _ =>
      closed.bind (closed.stateOf o) fun _ => closed.refuse _ _

theorem structural_policyCheck (o rail : String) (candidate : Option CommerceEnvelope) :
    R (policyCheck cfg o rail candidate) := by
  refine closed.bind (closed.session? o) fun _ => closed.bind (closed.record? o) fun _ => ?_
  split
  · exact closed.bind closed.read fun _ => closed.bind closed.now fun _ => closed.pure _
  · exact closed.pure _

theorem structural_holdWebhook (o : String) (held : HeldWebhook) :
    R (holdWebhook o held) :=
  closed.updateSession o (fun _ => rfl) fun _ => rfl

/-! ### Marking events as processed -/

section Marking

variable (processed : ∀ e, R (Svc.markProcessed e))

include processed

theorem structural_settleVerification (o externalOrderId externalPaymentId : String)
    (operationId : Option String) (record : EnvelopeRecord) (result : VerificationResult) :
    R
      (settleVerification cfg o externalOrderId externalPaymentId operationId record result) := by
  have failed : ∀ type actor code message, R
      (paymentFailed cfg o externalPaymentId operationId type actor code message) := fun _ _ _ _ =>
    closed.bind (closed.setState o _) fun _ => closed.bind (closed.log fun _ _ => rfl) fun _ => closed.bind (closed.stateOf o) fun _ =>
      closed.refuse _ _
  have reconciled : R (reconcileHeld cfg o) := by
    refine closed.bind (closed.session? o) fun _ => ?_
    split
    · exact closed.pure ()
    · exact closed.bind (closed.updateSession o (fun _ => rfl) fun _ => rfl) fun _ =>
        closed.bind (processed _) fun _ => closed.log fun _ _ => rfl
  refine closed.bind (closed.updateSession o (fun _ => rfl) fun _ => rfl) fun _ =>
    Structural.ite (failed _ _ _ _) (closed.bind (closed.session? o) fun _ => Structural.ite (failed _ _ _ _) ?_)
  exact closed.bind (closed.setState o _) fun _ => closed.bind (closed.log fun _ _ => rfl) fun _ =>
    closed.bind reconciled fun _ => closed.bind (closed.stateOf o) fun _ => closed.succeed _ _ _

theorem structural_verifyPayment (o externalOrderId externalPaymentId signature : String)
    (operationId : Option String) :
    R (verifyPayment cfg o externalOrderId externalPaymentId signature operationId) := by
  refine closed.idempotent _ _ _ _ (closed.bind (closed.session? o) fun found => ?_)
  cases found with
  | none => exact closed.refuse _ _
  | some session =>
  refine closed.bind (closed.record? o) fun found => ?_
  cases found with
  | none => exact closed.refuse _ _
  | some record =>
  refine Structural.ite (Structural.ite (closed.succeed _ _ _) (closed.bind (closed.log fun _ _ => rfl) fun _ => closed.refuse _ _)) (Structural.ite ?_ ?_)
  · exact closed.bind (closed.log fun _ _ => rfl) fun _ => closed.bind (closed.setState o _) fun _ => closed.bind (closed.stateOf o) fun _ =>
      closed.refuse _ _
  · exact closed.bind (closed.ask _) fun _ => closed.bind (closed.liftResult _) fun _ =>
      structural_settleVerification closed processed o _ _ operationId record _

theorem structural_markVerifiedFromWebhook (o paymentId orderIdExternal : String) (claims : WebhookClaims) :
    R (markVerifiedFromWebhook cfg o paymentId orderIdExternal claims) := by
  refine closed.bind (closed.session? o) fun _ => closed.bind (closed.record? o) fun _ => ?_
  split
  · refine Structural.ite (closed.bind (closed.log fun _ _ => rfl) fun _ => closed.pure _) (closed.bind closed.read fun _ => Structural.ite (closed.pure _) ?_)
    exact closed.bind (processed _) fun _ => closed.bind (closed.updateSession o (fun _ => rfl) fun _ => rfl)
      fun _ => closed.bind (closed.setState o _) fun _ => closed.bind (closed.log fun _ _ => rfl) fun _ => closed.pure _
  · exact closed.pure _

theorem structural_dispatchWebhook (session : Session) (entity : WebhookEntity)
    (externalOrderId eventId : String) (found : WebhookOutcome) :
    R (dispatchWebhook cfg session entity externalOrderId eventId found) := by
  refine Structural.ite ?_ (Structural.ite ?_ (Structural.ite ?_ (closed.pure _)))
  · exact closed.bind (processed _) fun _ =>
      closed.bind (structural_markVerifiedFromWebhook closed processed session.logicalOrderId _ _ _) fun _ =>
      closed.bind (closed.ask _) fun _ => closed.pure _
  · exact closed.bind (structural_holdWebhook closed session.logicalOrderId _) fun _ =>
      closed.bind (closed.log fun _ _ => rfl) fun _ => closed.pure _
  · exact closed.bind (processed _) fun _ => closed.bind (closed.log fun _ _ => rfl) fun _ => closed.pure _

theorem structural_bindWebhook (entity : WebhookEntity) (eventId : String) (found : WebhookOutcome) :
    R (bindWebhook cfg entity eventId found) := by
  unfold bindWebhook
  cases entity.orderId with
  | none => exact closed.pure _
  | some value =>
  have lookup : R (sessionOfDelivery value) := by
    cases value
    case str => exact closed.bind closed.read fun _ => closed.pure _
    all_goals exact closed.pure _
  refine closed.bind lookup fun found => ?_
  cases found with
  | none => exact closed.pure _
  | some session =>
  have last : ∀ found, R (do
      let failures := deliveryFailures entity (← record? session.logicalOrderId)
      if !failures.isEmpty then
        log cfg fun id now =>
          { eventId := id, logicalOrderId := session.logicalOrderId, type := "webhook.binding_rejected",
            actor := .policy, occurredAt := now,
            externalReferences := [("eventId", eventId), ("paymentId", entity.id)],
            decision := some .block, reasonCodes := ["webhook_binding_failed"] }
        return .webhook { found with
          ok := false
          error := some ("Webhook binding rejected: " ++ joinWith "; " failures)
          reasonCode := "binding_failed" }
      else dispatchWebhook cfg session entity (Json.toText value) eventId found) := fun _ =>
    closed.bind (closed.record? _) fun _ => Structural.ite (closed.bind (closed.log fun _ _ => rfl) fun _ => closed.pure _)
      (structural_dispatchWebhook closed processed session entity _ eventId _)
  exact closed.bind (closed.log fun _ _ => rfl) fun _ => Structural.ite (closed.bind (closed.log fun _ _ => rfl) fun _ => last _) (last _)

theorem structural_processRazorpayWebhookRaw (rawBody : String) (signature eventIdHeader : Option String)
    (webhookSecret : String) : R
      (processRazorpayWebhookRaw cfg rawBody signature eventIdHeader webhookSecret) := by
  refine Structural.ite (closed.pure _) (Structural.ite (closed.bind (closed.log fun _ _ => rfl) fun _ => closed.pure _) ?_)
  split
  · exact closed.pure _
  refine closed.bind (closed.liftResult _) fun body => ?_
  unfold acceptWebhook
  dsimp only
  split
  · exact closed.pure _
  · exact closed.bind closed.read fun _ => Structural.ite (closed.pure _) (Structural.ite (closed.bind (closed.log fun _ _ => rfl) fun _ => closed.pure _)
      (structural_bindWebhook closed processed _ _ _))

end Marking

end

/-- The commands that mark events as processed. -/
def Command.Marks : Command → Prop
  | .verifyPayment .. | .markWebhookProcessed _ | .markVerifiedFromWebhook .. | .webhook .. => True
  | _ => False

/-- The writes of the commands that are not of every structural property: those that set records, pay the
resource, and go on after an error. -/
structure Primitives (cfg : Config) (R : {α : Type} → Svc α → Prop) : Prop where
  quotes : ∀ o productId supplied operationId, R (buildQuote cfg o productId supplied operationId)
  tampers : ∀ o field, R (tamper cfg o field)
  machines : ∀ r, R (Proc.modify fun s => { s with machineResource := r })
  catches : ∀ {p : Svc Reply} {h : ServiceError → Svc Reply}, R p → (∀ e, R (h e)) → R (tryCatch p h)

/-- A command has a property that its writes have. -/
theorem structural_op {cfg : Config} {R : {α : Type} → Svc α → Prop} (closed : Structural cfg R)
    (primitives : Primitives cfg R) {command : Command}
    (creates : ∀ operationId, command = .createSession operationId → R (createSession cfg operationId))
    (processed : command.Marks → ∀ e, R (Svc.markProcessed e)) : R (command.op cfg) := by
  cases command with
  | createSession operationId => exact creates operationId rfl
  | respond o message binding operationId =>
      exact structural_turn closed primitives.machines o message binding operationId
  | buildQuote o productId binding operationId => exact primitives.quotes o productId binding operationId
  | approve o digest operationId => exact structural_approve closed o digest operationId
  | initiatePayment o rail operationId => exact structural_initiatePayment closed o rail operationId
  | prepareX402OrderPayment o operationId => exact structural_prepareX402OrderPayment closed o operationId
  | confirmX402OrderPayment o paymentIdentifier operationId =>
      exact structural_confirmX402OrderPayment closed o paymentIdentifier operationId
  | mockCapture o => exact structural_mockCapture closed o
  | verifyPayment o externalOrderId externalPaymentId signature operationId =>
      exact structural_verifyPayment closed (processed trivial) o externalOrderId externalPaymentId signature
        operationId
  | fulfil o fail operationId => exact structural_fulfil closed o fail operationId
  | compensate o operationId => exact structural_compensate closed primitives.catches o operationId
  | tamper o field => exact primitives.tampers o field
  | policyCheck o rail candidate => exact structural_policyCheck closed o rail candidate
  | markWebhookProcessed e => exact closed.bind (processed trivial e) fun _ => closed.pure _
  | holdWebhook o held => exact closed.bind (structural_holdWebhook closed o held) fun _ => closed.pure _
  | markVerifiedFromWebhook o paymentId orderIdExternal claims =>
      exact structural_markVerifiedFromWebhook closed (processed trivial) o paymentId orderIdExternal claims
  | webhook rawBody signature eventIdHeader webhookSecret =>
      exact structural_processRazorpayWebhookRaw closed (processed trivial) rawBody signature eventIdHeader
        webhookSecret
  | intentPatch o patch expectedIntentVersion =>
      exact structural_intentPatch closed o patch expectedIntentVersion

end AgentReady
