import AgentReady.Lib.Calls
import AgentReady.Lifecycle.Fleet

/-!
What the operations ask of the outside.

* `straight_op`: the operations of an order between its shortlist and its payment are never suspended.
* `costs_respond`: a message asks the model provider for an interpretation, for soft preferences and for an
  explanation, each at most once.
* `costs_op`: no other operation asks it for anything.
* `atomic_turns`: an operation that is never suspended takes one turn, in which it does what it does alone.
-/

namespace AgentReady

open Coop Svc

section

variable {cfg : Config} {cost : Query → Nat} {n : Nat} {α β : Type}

/-! ### What asks for nothing -/

theorem costs_liftResult (e : Except String α) : (liftResult e).Costs cost n := by
  cases e with
  | ok a => exact .pure a
  | error m => exact .throw _

theorem costs_now : now.Costs cost n := .then_ .read fun _ => .pure _

theorem costs_session? (o : String) : (session? o).Costs cost n := .then_ .read fun _ => .pure _

theorem costs_record? (o : String) : (record? o).Costs cost n := .then_ .read fun _ => .pure _

theorem costs_stateOf (o : String) : (stateOf o).Costs cost n := .then_ (costs_session? o) fun _ => .pure _

theorem costs_digestOf (intent : ParsedIntent) : (digestOf intent).Costs cost n := costs_liftResult _

theorem costs_newId (tag : String) : (newId cfg tag).Costs cost n :=
  .then_ .read fun _ => .then_ (.modify _) fun _ => .pure _

theorem costs_log (event : String → Int → AuditEvent) : (log cfg event).Costs cost n :=
  .then_ (costs_newId _) fun _ => .modify _

theorem costs_markProcessed (e : String) : (markProcessed e).Costs cost n := .modify _

theorem costs_updateSession (o : String) (f : Session → Session) : (updateSession o f).Costs cost n := .modify _

theorem costs_replaceOrder (o : String) (record : Option EnvelopeRecord) (f : Session → Session) :
    (replaceOrder o record f).Costs cost n := .modify _

theorem costs_setState (o : String) (next : OrderState) : (setState o next).Costs cost n := by
  refine .then_ (costs_session? o) fun found => ?_
  cases found with
  | none => exact .pure ()
  | some session =>
      refine .ite (.pure ()) ?_
      split
      · exact .throw _
      · exact costs_updateSession o _

theorem costs_complete (operationId : Option String) (outcome : OperationOutcome) (resultRef errorRef : Option String)
    (payload : Reply) : (complete operationId outcome resultRef errorRef payload).Costs cost n := by
  cases operationId with
  | none => exact .pure ()
  | some id => exact .ite (.pure ()) (.modify _)

theorem costs_refuse (operationId : Option String) (r : OperationResult) : (refuse operationId r).Costs cost n :=
  .then_ (costs_complete _ _ _ _ _) fun _ => .pure _

theorem costs_succeed (operationId resultRef : Option String) (r : OperationResult) :
    (succeed operationId resultRef r).Costs cost n :=
  .then_ (costs_complete _ _ _ _ _) fun _ => .pure _

/-- An operation id asks for nothing more. -/
theorem costs_idempotent {operationId : Option String} {request : OperationRequest} {aggregate : String}
    {prior : IdempotencyResult Reply → OrderState → Prior} {body : Svc Reply} (runs : body.Costs cost n) :
    (idempotent cfg operationId request aggregate prior body).Costs cost n := by
  cases operationId with
  | none => exact runs
  | some id =>
      refine .ite runs (.then_ .read fun s => .then_ (.modify _) fun _ => .then_ (costs_stateOf _) fun state => ?_)
      split
      · exact runs
      · exact .pure _
      · exact .throw _

/-! ### Recommendations, quotes and approvals -/

theorem costs_recordRecommendation (o : String) (ranking : RankingResult) :
    (recordRecommendation cfg o ranking).Costs cost n :=
  .then_ (costs_newId _) fun _ => costs_updateSession o _

theorem costs_syncMemory (o : String) (shownIds missing : List String) (recentAction userEvidence : String) :
    (syncMemory o shownIds missing recentAction userEvidence).Costs cost n := costs_updateSession o _

theorem costs_recommendationBinding (o : String) : (recommendationBinding o).Costs cost n := by
  refine .then_ (costs_session? o) fun found => ?_
  cases found with
  | none => exact .throw _
  | some session => exact .ite (.pure _) (.throw _)

theorem costs_refreshRecommendation (o : String) (session : Session) (recentAction userEvidence : String) :
    (refreshRecommendation cfg o session recentAction userEvidence).Costs cost n :=
  .then_ costs_now fun _ => .then_ (costs_recordRecommendation o _) fun _ =>
    .then_ (costs_syncMemory o _ _ _ _) fun _ => .pure _

theorem costs_validateCurrentSelection (o : String) (session : Session) (productId : String)
    (supplied : Option RecommendationBinding) :
    (validateCurrentSelection cfg o session productId supplied).Costs cost n := by
  have last : ∀ ranking : RankingResult, (do
      return (ranking, ← recommendationBinding o) : Svc _).Costs cost 0 :=
    fun _ => .then_ (costs_recommendationBinding o) fun _ => .pure _
  have current : (currentRecommendation cfg o session).Costs cost 0 := by
    unfold currentRecommendation
    cases session.lastRanking with
    | none => exact .then_ (costs_refreshRecommendation o session _ _) last
    | some ranking => exact .ite (.then_ (.pure _) last) (.then_ (costs_refreshRecommendation o session _ _) last)
  refine .then_ current fun _ => .then_ (costs_session? o) fun _ => .then_ costs_now fun _ => ?_
  split
  · exact .pure _
  · exact .pure _

theorem costs_createSession (operationId : Option String) : (createSession cfg operationId).Costs cost n :=
  .then_ (costs_newId _) fun _ => costs_idempotent (.then_ costs_now fun _ => .then_ (costs_newId _) fun _ =>
    .then_ (.modify _) fun _ => .then_ (.modify _) fun _ => .then_ (.modify _) fun _ => .then_ (costs_log _) fun _ =>
    .then_ (costs_complete _ _ _ _ _) fun _ => .pure _)

theorem costs_buildQuote (o productId : String) (supplied : Option RecommendationBinding)
    (operationId : Option String) : (buildQuote cfg o productId supplied operationId).Costs cost n := by
  refine costs_idempotent (.then_ (costs_session? o) fun found => ?_)
  cases found with
  | none => exact .throw _
  | some session =>
  refine .then_ (costs_validateCurrentSelection o session productId supplied) fun checked => ?_
  cases checked with
  | rejected message ranking binding codes => exact .throw _
  | accepted product variant binding =>
      exact .then_ (costs_newId _) fun _ => .then_ (costs_newId _) fun _ => .then_ (costs_newId _) fun _ =>
        .then_ .read fun _ => .then_ (costs_digestOf _) fun _ => .then_ (costs_replaceOrder o _ _) fun _ =>
        .then_ (costs_setState o _) fun _ => .then_ (costs_log _) fun _ => .then_ (costs_stateOf o) fun _ =>
        .then_ (costs_session? o) fun _ => .then_ (costs_complete _ _ _ _ _) fun _ => .pure _

theorem costs_approve (o digest : String) (operationId : Option String) :
    (approve cfg o digest operationId).Costs cost n := by
  refine costs_idempotent (.then_ (costs_session? o) fun found => ?_)
  cases found with
  | none => exact costs_refuse _ _
  | some session =>
  refine .then_ (costs_record? o) fun found => ?_
  cases found with
  | none => exact costs_refuse _ _
  | some record =>
  refine .then_ (costs_liftResult _) fun _ => .ite (costs_refuse _ _) (.ite (costs_succeed _ _ _)
    (.ite (costs_refuse _ _) (.then_ costs_now fun _ => .ite ?_ ?_)))
  · exact .then_ (costs_setState o _) fun _ => .then_ (costs_stateOf o) fun _ => costs_refuse _ _
  · exact .then_ (costs_newId _) fun _ => .then_ (costs_updateSession o _) fun _ => .then_ (costs_setState o _) fun _ =>
      .then_ (costs_log _) fun _ => .then_ (costs_stateOf o) fun _ => costs_succeed _ _ _

theorem costs_tamper (o field : String) : (tamper cfg o field).Costs cost n := by
  refine .then_ (costs_session? o) fun found => ?_
  cases found with
  | none => exact .pure _
  | some session =>
  refine .then_ (costs_record? o) fun found => ?_
  cases found with
  | none => exact .pure _
  | some record =>
  refine .then_ (costs_newId _) fun nonce => ?_
  rcases tamperEnvelope record.envelope field nonce with ⟨candidate, changes⟩
  exact .ite (.pure _) (.then_ costs_now fun _ => .then_ (costs_replaceOrder o _ _) fun _ =>
    .then_ (costs_setState o _) fun _ => .then_ (costs_log _) fun _ => .then_ (costs_stateOf o) fun _ => .pure _)

theorem costs_policyCheck (o rail : String) (candidate : Option CommerceEnvelope) :
    (policyCheck cfg o rail candidate).Costs cost n := by
  refine .then_ (costs_session? o) fun _ => .then_ (costs_record? o) fun _ => ?_
  split
  · exact .then_ .read fun _ => .then_ costs_now fun _ => .pure _
  · exact .pure _

/-! ### The Agent Pay rail, and fulfilment -/

theorem costs_rejectX402 (o : String) (operationId : Option String) (state : OrderState) (error : String)
    (reasonCodes : List String) (inputDigest : Option String) (decision : PolicyDecision) :
    (rejectX402 cfg o operationId state error reasonCodes inputDigest decision).Costs cost n :=
  .then_ (costs_log _) fun _ => costs_refuse _ _

theorem costs_prepareX402OrderPayment (o : String) (operationId : Option String) :
    (prepareX402OrderPayment cfg o operationId).Costs cost n := by
  refine costs_idempotent (.then_ (costs_session? o) fun found => ?_)
  cases found with
  | none => exact costs_refuse _ _
  | some session =>
  refine .then_ (costs_record? o) fun found => ?_
  cases found with
  | none => exact costs_refuse _ _
  | some record =>
  refine .ite (costs_rejectX402 _ _ _ _ _ _ _) (.ite (costs_rejectX402 _ _ _ _ _ _ _)
    (.ite (costs_rejectX402 _ _ _ _ _ _ _) (.then_ (costs_liftResult _) fun _ =>
    .ite (costs_rejectX402 _ _ _ _ _ _ _) (.then_ .read fun _ => .ite (costs_rejectX402 _ _ _ _ _ _ _) ?_))))
  split
  · exact .then_ (costs_log _) fun _ => costs_succeed _ _ _
  · exact .then_ (costs_updateSession o _) fun _ => .then_ (costs_log _) fun _ => costs_succeed _ _ _

theorem costs_confirmX402OrderPayment (o paymentIdentifier : String) (operationId : Option String) :
    (confirmX402OrderPayment cfg o paymentIdentifier operationId).Costs cost n := by
  refine costs_idempotent (.then_ (costs_session? o) fun found => ?_)
  cases found with
  | none => exact costs_refuse _ _
  | some session =>
  refine .then_ (costs_record? o) fun _ => ?_
  dsimp only
  split
  · refine .ite (.then_ (costs_log _) fun _ => costs_succeed _ _ _)
      (.ite (.then_ (costs_liftResult _) fun _ => ?_) (.then_ (.pure _) fun _ => ?_))
    all_goals
      refine .ite (costs_rejectX402 _ _ _ _ _ _ _) (.ite (costs_rejectX402 _ _ _ _ _ _ _) ?_)
      exact .then_ (costs_updateSession o _) fun _ => .then_ (costs_setState o _) fun _ =>
        .then_ (costs_setState o _) fun _ => .then_ (costs_log _) fun _ => .then_ (costs_stateOf o) fun _ =>
        costs_succeed _ _ _
  · exact costs_rejectX402 _ _ _ _ _ _ _

theorem costs_mockCapture (o : String) : (mockCapture cfg o).Costs cost n := by
  refine .then_ (costs_session? o) fun found => ?_
  cases found with
  | none => exact .throw _
  | some session => exact .ite (.throw _) (.ite (.throw _) (.then_ costs_now fun _ => .pure _))

theorem costs_fulfil (o : String) (fail : Bool) (operationId : Option String) :
    (fulfil cfg o fail operationId).Costs cost n := by
  refine costs_idempotent (.then_ (costs_session? o) fun found => ?_)
  cases found with
  | none => exact costs_refuse _ _
  | some session =>
  refine .ite (costs_refuse _ _) (.then_ (costs_setState o _) fun _ => .ite ?_ ?_)
  · exact .then_ (costs_setState o _) fun _ => .then_ (costs_log _) fun _ => .then_ (costs_stateOf o) fun _ =>
      costs_refuse _ _
  · exact .then_ (costs_setState o _) fun _ => .then_ (costs_log _) fun _ => .then_ (costs_stateOf o) fun _ =>
      costs_succeed _ _ _

theorem costs_markVerifiedFromWebhook (o paymentId orderIdExternal : String) (claims : WebhookClaims) :
    (markVerifiedFromWebhook cfg o paymentId orderIdExternal claims).Costs cost n := by
  refine .then_ (costs_session? o) fun _ => .then_ (costs_record? o) fun _ => ?_
  split
  · exact .ite (.then_ (costs_log _) fun _ => .pure _) (.then_ .read fun _ => .ite (.pure _)
      (.then_ (costs_markProcessed _) fun _ => .then_ (costs_updateSession o _) fun _ =>
        .then_ (costs_setState o _) fun _ => .then_ (costs_log _) fun _ => .pure _))
  · exact .pure _

/-! ### Patches -/

theorem costs_withdrawQuote (o : String) (previous : Option EnvelopeRecord) (reasonCodes : List String) :
    (withdrawQuote cfg o previous reasonCodes).Costs cost n := by
  cases previous with
  | none => exact costs_updateSession o _
  | some record =>
      refine .then_ (costs_replaceOrder o _ _) fun _ => .then_ (costs_session? o) fun found => ?_
      cases found with
      | none => exact .pure ()
      | some session => exact .then_ (costs_digestOf _) fun _ => costs_log _

theorem costs_patchIntent (o : String) (session : Session) (patch : Patch) :
    (patchIntent cfg o session patch).Costs cost n := by
  have moves : ∀ material, (patchTransition o session.state material).Costs cost 0 := fun _ =>
    .ite (costs_setState o _) (.ite (costs_setState o _) (.ite (costs_setState o _) (.pure ())))
  have outcome : ∀ ranked, (patchOutcome o ranked).Costs cost 0 := fun _ =>
    .ite (costs_updateSession o _) (.then_ (costs_stateOf o) fun _ => .ite (costs_setState o _) (.pure ()))
  have ranked : ∀ intent, (rankPatched cfg o session patch intent).Costs cost n := fun _ =>
    .then_ costs_now fun _ => .then_ (costs_recordRecommendation o _) fun _ => .then_ (costs_syncMemory o _ _ _ _) fun _ =>
      .then_ (outcome _) fun _ => .then_ (costs_digestOf _) fun _ => .then_ (costs_log _) fun _ =>
      .then_ (costs_recommendationBinding o) fun _ => .then_ (costs_session? o) fun _ => .pure _
  refine .then_ (costs_record? o) fun _ => .then_ (costs_updateSession o _) fun _ => .ite ?_ ?_
  · exact .then_ (costs_withdrawQuote o _ _) fun _ => .then_ (moves _) fun _ => ranked _
  · exact .then_ (moves _) fun _ => ranked _

theorem costs_intentPatch (o : String) (patch : Patch) (expectedIntentVersion : Int) :
    (intentPatch cfg o patch expectedIntentVersion).Costs cost n := by
  refine .then_ (costs_session? o) fun found => ?_
  cases found with
  | none => exact .pure _
  | some session =>
      refine .ite (.pure _) ?_
      split
      · exact .pure _
      · exact costs_patchIntent o session patch

end

/-- The operations that the outside is not asked for, from one end to the other. -/
def Command.Atomic : Command → Prop
  | .respond .. | .initiatePayment .. | .verifyPayment .. | .compensate .. | .webhook .. => False
  | _ => True

/-- They are never suspended. -/
theorem straight_op {cfg : Config} {command : Command} (atomic : command.Atomic) : (command.op cfg).Straight := by
  cases command with
  | createSession operationId => exact costs_createSession operationId
  | buildQuote o productId binding operationId => exact costs_buildQuote o productId binding operationId
  | approve o digest operationId => exact costs_approve o digest operationId
  | prepareX402OrderPayment o operationId => exact costs_prepareX402OrderPayment o operationId
  | confirmX402OrderPayment o paymentIdentifier operationId =>
      exact costs_confirmX402OrderPayment o paymentIdentifier operationId
  | mockCapture o => exact costs_mockCapture o
  | fulfil o fail operationId => exact costs_fulfil o fail operationId
  | tamper o field => exact costs_tamper o field
  | policyCheck o rail candidate => exact costs_policyCheck o rail candidate
  | markWebhookProcessed e => exact .then_ (costs_markProcessed e) fun _ => .pure _
  | holdWebhook o held => exact .then_ (costs_updateSession o _) fun _ => .pure _
  | markVerifiedFromWebhook o paymentId orderIdExternal claims =>
      exact costs_markVerifiedFromWebhook o paymentId orderIdExternal claims
  | intentPatch o patch expectedIntentVersion => exact costs_intentPatch o patch expectedIntentVersion
  | respond | initiatePayment | verifyPayment | compensate | webhook => exact atomic.elim

/-! ### Asking the model provider -/

/-- What is asked of the model provider. -/
def Query.forModel : Query → Bool
  | .interpret _ | .extractSoftPreferences _ | .explainRecommendation .. => true
  | _ => false

/-- Only the model provider has a price, with a bound for each kind of call. -/
structure Priced (cost : Query → Nat) (interpret extract explain : Nat) : Prop where
  interpret : ∀ message, cost (.interpret message) ≤ interpret
  extract : ∀ message, cost (.extractSoftPreferences message) ≤ extract
  explain : ∀ message hits, cost (.explainRecommendation message hits) ≤ explain
  others : ∀ q, q.forModel = false → cost q = 0

section

variable {cfg : Config} {cost : Query → Nat} {n a b c : Nat} {α : Type}

theorem costs_ask {q : Query} (affords : cost q ≤ n) : (ask q).Costs cost n := by
  have asked : (ask q).Costs cost (n + 0) :=
    Proc.Costs.bind (.call affords) fun _ => .then_ (.modify _) fun _ => .pure _
  exact asked

theorem costs_logIntent (o type : String) (decision : Option PolicyDecision) (reasonCodes : List String) :
    (logIntent cfg o type decision reasonCodes).Costs cost n := by
  refine .then_ (costs_session? o) fun found => ?_
  cases found with
  | none => exact .pure ()
  | some session => exact .then_ (costs_digestOf _) fun _ => costs_log _

theorem costs_mockFitScoreSpend (o : String) (session : Session) :
    (mockFitScoreSpend cfg o session).Costs cost n := by
  refine .then_ (costs_digestOf _) fun hash => .then_ (costs_newId _) fun id => .then_ .read fun s => ?_
  rcases runMachineSpend defaultMachineSpend (isoString s.clock) s.machineResource hash id with ⟨outcome, resource⟩
  refine .then_ (.modify _) fun _ => ?_
  cases outcome with
  | error m => exact .then_ (costs_log _) fun _ => .pure none
  | ok paid => exact .then_ (costs_updateSession o _) fun _ => .then_ (costs_log _) fun _ => .pure _

variable (priced : Priced cost a b c)

include priced

/-- What is not asked of the model provider is free. -/
theorem costs_free {q : Query} (other : q.forModel = false) : (ask q).Costs cost n :=
  costs_ask (by rw [priced.others q other]; exact Nat.zero_le n)

theorem costs_yield : (ask .yield).Costs cost n := costs_free priced rfl

/-! ### The fit-scoring spend -/

theorem costs_logMachineSpendAuditOnce (o : String) (event : String → Int → AuditEvent) :
    (logMachineSpendAuditOnce cfg o event).Costs cost n := by
  have last : (do
      log cfg event
      ask .yield : Svc Unit).Costs cost n := .then_ (costs_log _) fun _ => costs_yield priced
  refine .ite (.then_ (costs_yield priced) fun _ => .then_ .read fun _ => ?_) last
  exact .ite (.pure ()) last

theorem costs_closeAttempt (o : String) (attempt : MachineSpendAttempt) (outcome : DevnetMachineSpendOutcome) :
    (closeAttempt cfg o attempt outcome).Costs cost n := by
  refine .ite ?_ ?_
  · refine .then_ (costs_updateSession o _) fun _ => .then_ ?_ fun _ => .pure none
    split
    all_goals exact costs_logMachineSpendAuditOnce priced o _
  · exact .then_ (costs_updateSession o _) fun _ => .then_ (costs_logMachineSpendAuditOnce priced o _) fun _ =>
      .pure none

theorem costs_submitAttempt (o asset payee : String) (attempt : MachineSpendAttempt)
    (prepared : DevnetMachinePaymentAttempt) (wasPending : Bool) :
    (submitAttempt cfg o asset payee attempt prepared wasPending).Costs cost n := by
  refine .then_ (costs_updateSession o _) fun _ => .then_ (.then_ (costs_session? o) fun _ => .pure _) fun _ =>
    .then_ (costs_free priced rfl) fun outcome => ?_
  cases outcome with
  | error message =>
      exact .then_ (costs_updateSession o _) fun _ => .then_ (costs_logMachineSpendAuditOnce priced o _) fun _ =>
        .pure none
  | ok outcome =>
      dsimp only
      split
      · exact .then_ (costs_updateSession o _) fun _ => .then_ (costs_updateSession o _) fun _ =>
          .then_ (costs_logMachineSpendAuditOnce priced o _) fun _ => .pure _
      · exact costs_closeAttempt priced o attempt outcome

theorem costs_spendPrepared (o asset payee : String) (existing : Option MachineSpendAttempt)
    (prepared : Except String DevnetMachinePaymentAttempt) :
    (spendPrepared cfg o asset payee existing prepared).Costs cost n := by
  cases prepared with
  | ok prepared => exact costs_submitAttempt priced o asset payee _ prepared _
  | error message =>
      cases existing
      all_goals exact .then_ (costs_logMachineSpendAuditOnce priced o _) fun _ => .pure none

theorem costs_spendOnDevnet (o asset payee : String) (request : ToolSpendRequest)
    (existing : Option MachineSpendAttempt) :
    (spendOnDevnet cfg o asset payee request existing).Costs cost n := by
  have identified : (spendIdentifier cfg existing).Costs cost 0 := by
    unfold spendIdentifier
    split
    · exact .pure _
    · exact costs_newId _
  have prepared : ∀ identifier, (preparedAttempt o request existing identifier).Costs cost 0 := by
    intro identifier
    unfold preparedAttempt
    split
    · exact .pure _
    · exact .then_ (.then_ (costs_session? o) fun _ => .pure _) fun _ => costs_free priced rfl
  exact .then_ identified fun _ => .then_ (costs_yield priced) fun _ => .then_ (prepared _) fun _ =>
    costs_spendPrepared priced o asset payee existing _

theorem costs_runDevnetFitScoreSpend (o : String) (session : Session) (amountMinor : Int) (asset payee : String) :
    (runDevnetFitScoreSpend cfg o session amountMinor asset payee).Costs cost n := by
  refine .then_ (costs_free priced rfl) fun resource => ?_
  cases resource with
  | error m => exact .then_ (costs_logMachineSpendAuditOnce priced o _) fun _ => .pure none
  | ok _ =>
  have stored : ∀ request found, (storedAttempt request found).Costs cost 0 := by
    intro request found
    cases found with
    | none => exact .pure none
    | some found =>
        refine .then_ (.ite ?_ (.then_ (.pure "") fun _ => .pure _)) fun _ => .pure _
        exact .then_ (costs_free priced rfl) fun _ => .then_ (costs_liftResult _) fun _ => .pure _
  refine .then_ (costs_free priced rfl) fun _ => .then_ (costs_liftResult _) fun _ => .then_ (stored _ _) fun existing =>
    .ite (.pure none) ?_
  split
  · exact .then_ (costs_logMachineSpendAuditOnce priced o _) fun _ => .pure none
  · exact costs_spendOnDevnet priced o asset payee _ existing

theorem costs_runFitScoreSpend (o : String) (session : Session) :
    (runFitScoreSpend cfg o session).Costs cost n := by
  have spent : (spendInMode cfg o session).Costs cost 0 := by
    unfold spendInMode
    split
    · exact costs_runDevnetFitScoreSpend priced o session _ _ _
    · exact costs_mockFitScoreSpend o session
  exact .then_ spent fun _ => .then_ (costs_yield priced) fun _ => .pure _

/-! ### A message -/

/-- An interpretation is asked for at most once, and soft preferences at most once. -/
theorem costs_interpretTurn (o : String) (session : Session) (message : String) :
    (interpretTurn cfg o session message).Costs cost (a + b) := by
  have proposed : (proposal cfg message).Costs cost a :=
    .ite (costs_ask (priced.interpret message)) (.then_ (costs_yield priced) fun _ => .pure _)
  have enriched : (enrichIntent cfg o message).Costs cost b := by
    refine Proc.Costs.bind (n := 0) (costs_ask (priced.extract message)) fun soft => ?_
    split
    · exact .pure ()
    · refine .then_ (costs_session? o) fun found => ?_
      cases found with
      | none => exact .pure ()
      | some session =>
          exact .ite (.then_ (costs_updateSession o _) fun _ => costs_logIntent o _ _ _) (.pure ())
  refine .then_ costs_now fun _ => .bind proposed fun _ => .then_ (costs_liftResult _) fun _ =>
    .then_ (costs_session? o) fun _ => .then_ (costs_record? o) fun _ => .then_ (costs_updateSession o _) fun _ =>
    .ite ?_ ?_
  · exact Proc.Costs.bind (n := 0) enriched fun _ => .then_ (costs_logIntent o _ _ _) fun _ => .pure _
  · exact .then_ (costs_logIntent o _ _ _) fun _ => .pure _

theorem costs_composeShortlist (o : String) (ranking : RankingResult) :
    (composeShortlist cfg o ranking).Costs cost c := by
  refine .ite (.then_ (costs_session? o) fun _ => Proc.Costs.bind (n := 0) (costs_ask (priced.explain _ _)) fun _ => ?_) ?_
  all_goals exact costs_yield priced

/-- An explanation is asked for at most once. -/
theorem costs_search (o message : String) (operationId : Option String) (action : InterpretationAction)
    (materialChange quoteInvalidated : Bool) :
    (search cfg o message operationId action materialChange quoteInvalidated).Costs cost c := by
  have reply : ∀ session ranking spend, (shortlistReply o session ranking spend).Costs cost 0 := fun _ _ _ =>
    .then_ (costs_session? o) fun _ => .then_ (costs_recommendationBinding o) fun _ => .pure _
  refine .then_ (costs_session? o) fun found => ?_
  cases found with
  | none => exact .pure _
  | some session =>
  have presented : ∀ ranking spend, (do
      composeShortlist cfg o ranking
      logIntent cfg o "intent.shortlist_ranked" none []
      Svc.syncMemory o ranking.productIds [] action.name message
      let reply ← shortlistReply o session ranking spend
      Svc.complete operationId .success (some (← Svc.stateOf o).name) none reply
      return reply : Svc Reply).Costs cost c := fun ranking spend =>
    Proc.Costs.bind (n := 0) (costs_composeShortlist priced o ranking) fun _ =>
      .then_ (costs_logIntent o _ _ _) fun _ => .then_ (costs_syncMemory o _ _ _ _) fun _ =>
      .then_ (reply _ _ _) fun _ => .then_ (costs_stateOf o) fun _ => .then_ (costs_complete _ _ _ _ _) fun _ => .pure _
  dsimp only
  split
  · exact Proc.Costs.bind (n := 0) (costs_composeShortlist priced o _) fun _ =>
      .then_ (costs_syncMemory o _ _ _ _) fun _ => .then_ (reply _ _ _) fun _ => .then_ (costs_stateOf o) fun _ =>
      .then_ (costs_complete _ _ _ _ _) fun _ => .pure _
  refine .ite (.then_ (costs_complete _ _ _ _ _) fun _ => .pure _) (.then_ costs_now fun _ =>
    .then_ (costs_recordRecommendation o _) fun _ => .ite ?_ ?_)
  · exact .then_ (costs_setState o _) fun _ => .then_ (costs_logIntent o _ _ _) fun _ =>
      .then_ (costs_syncMemory o _ _ _ _) fun _ => .then_ (costs_stateOf o) fun _ =>
      .then_ (costs_complete _ _ _ _ _) fun _ => .pure _
  · refine .ite (.then_ (costs_setState o _) fun _ => ?_) ?_
    all_goals
      refine .then_ (costs_digestOf _) fun _ => .then_ .read fun _ => .ite ?_ (.then_ (.pure none) fun _ => presented _ _)
      exact .then_ (costs_runFitScoreSpend priced o session) fun _ => presented _ _

theorem costs_act (o message : String) (supplied : Option RecommendationBinding) (operationId : Option String)
    (merged : StructuredInterpretation) (session : Session) (materialChange quoteInvalidated : Bool) :
    (act cfg o message supplied operationId merged session materialChange quoteInvalidated).Costs cost c := by
  have cheaper : (handleCheaper cfg o session).Costs cost c := by
    unfold handleCheaper
    split
    all_goals
      refine .then_ ?_ fun _ => .then_ (costs_stateOf o) fun _ => ?_
      · first
          | exact .pure _
          | exact costs_refreshRecommendation o session _ _
      · split
        · exact .pure _
        · exact .then_ costs_now fun _ => .then_ (costs_logIntent o _ _ _) fun _ => .pure _
  have searched : ∀ action, (searchOrCheaper cfg o message operationId action session materialChange
      quoteInvalidated).Costs cost c := fun action =>
    .ite (.ite (.then_ (costs_setState o _) fun _ => cheaper) cheaper) (costs_search priced o message operationId action _ _)
  unfold act
  cases merged.action with
  | restart => exact .then_ (costs_replaceOrder o _ _) fun _ => .then_ (costs_stateOf o) fun _ => .pure _
  | compare =>
      unfold handleCompare
      dsimp only
      split
      · exact .pure _
      · split
        · exact .pure _
        · split
          · exact .then_ (costs_logIntent o _ _ _) fun _ => .pure _
          · exact .pure _
  | explain =>
      unfold handleExplain
      dsimp only
      split
      · exact .pure _
      · split
        · exact .pure _
        · exact .then_ (costs_logIntent o _ _ _) fun _ => .pure _
  | select =>
      unfold handleSelect
      dsimp only
      split
      · exact .pure _
      · refine .then_ (costs_validateCurrentSelection o session _ supplied) fun checked => ?_
        cases checked with
        | rejected message ranking binding codes =>
            exact .then_ (costs_digestOf _) fun _ => .then_ (costs_log _) fun _ => .pure _
        | accepted product variant binding =>
            exact .then_ (costs_updateSession o _) fun _ => .then_ (costs_logIntent o _ _ _) fun _ => .pure _
  | search | refine => exact searched _

/-- A message asks the model provider for each kind of answer at most once. -/
theorem costs_respond (o message : String) (supplied : Option RecommendationBinding) (operationId : Option String) :
    (respond cfg o message supplied operationId).Costs cost (a + b + c) := by
  have routed : ∀ turn, (route cfg o message supplied operationId turn).Costs cost c := by
    refine fun turn => .then_ (costs_session? o) fun found => ?_
    cases found with
    | none => exact .pure _
    | some interpreted =>
        refine .ite (.then_ (costs_withdrawQuote o _ _) fun _ => ?_) ?_
        all_goals exact .then_ (costs_session? o) fun _ => costs_act priced o message supplied operationId _ _ _ _
  refine costs_idempotent (.then_ (costs_session? o) fun found => ?_)
  cases found with
  | none => exact .then_ (costs_complete _ _ _ _ _) fun _ => .pure _
  | some session =>
      exact .then_ (costs_updateSession o _) fun _ => .bind (costs_interpretTurn priced o session message) routed

/-! ### The other operations -/

theorem costs_initiatePayment (o rail : String) (operationId : Option String) :
    (initiatePayment cfg o rail operationId).Costs cost n := by
  refine costs_idempotent (.then_ (costs_session? o) fun found => ?_)
  cases found with
  | none => exact costs_refuse _ _
  | some session =>
  refine .then_ (costs_record? o) fun found => ?_
  cases found with
  | none => exact costs_refuse _ _
  | some record =>
  refine .then_ (costs_liftResult _) fun _ => .ite (costs_refuse _ _) (.ite (costs_refuse _ _)
    (.ite (.then_ (costs_log _) fun _ => costs_refuse _ _) (.then_ .read fun _ =>
    .ite (.then_ (costs_log _) fun _ => costs_refuse _ _) (.ite (costs_refuse _ _) (.ite ?_ (.ite (costs_refuse _ _) ?_))))))
  · refine .ite (.then_ (costs_setState o _) fun _ => ?_) ?_
    all_goals exact .then_ (costs_newId _) fun _ => .then_ (costs_stateOf o) fun _ => costs_succeed _ _ _
  refine .then_ (costs_setState o _) fun _ => .then_ (costs_free priced rfl) fun answer => ?_
  cases answer with
  | ok attempt =>
      exact .then_ (costs_updateSession o _) fun _ => .then_ (costs_log _) fun _ => .then_ (costs_stateOf o) fun _ =>
        costs_succeed _ _ _
  | error message =>
      exact .then_ (costs_setState o _) fun _ => .then_ (costs_log _) fun _ => .then_ (costs_stateOf o) fun _ =>
        costs_refuse _ _

theorem costs_verifyPayment (o externalOrderId externalPaymentId signature : String) (operationId : Option String) :
    (verifyPayment cfg o externalOrderId externalPaymentId signature operationId).Costs cost n := by
  refine costs_idempotent (.then_ (costs_session? o) fun found => ?_)
  cases found with
  | none => exact costs_refuse _ _
  | some session =>
  refine .then_ (costs_record? o) fun found => ?_
  cases found with
  | none => exact costs_refuse _ _
  | some record =>
  have failed : ∀ type actor code message, (paymentFailed cfg o externalPaymentId operationId type actor code
      message).Costs cost n := fun _ _ _ _ =>
    .then_ (costs_setState o _) fun _ => .then_ (costs_log _) fun _ => .then_ (costs_stateOf o) fun _ =>
      costs_refuse _ _
  have reconciled : (reconcileHeld cfg o).Costs cost 0 := by
    refine .then_ (costs_session? o) fun _ => ?_
    split
    · exact .pure ()
    · exact .then_ (costs_updateSession o _) fun _ => .then_ (costs_markProcessed _) fun _ => costs_log _
  refine .ite (.ite (costs_succeed _ _ _) (.then_ (costs_log _) fun _ => costs_refuse _ _)) (.ite ?_ ?_)
  · exact .then_ (costs_log _) fun _ => .then_ (costs_setState o _) fun _ => .then_ (costs_stateOf o) fun _ =>
      costs_refuse _ _
  · refine .then_ (costs_free priced rfl) fun _ => .then_ (costs_liftResult _) fun _ =>
      .then_ (costs_updateSession o _) fun _ => .ite (failed _ _ _ _) (.then_ (costs_session? o) fun _ =>
      .ite (failed _ _ _ _) ?_)
    exact .then_ (costs_setState o _) fun _ => .then_ (costs_log _) fun _ => .then_ reconciled fun _ =>
      .then_ (costs_stateOf o) fun _ => costs_succeed _ _ _

theorem costs_compensate (o : String) (operationId : Option String) :
    (compensate cfg o operationId).Costs cost n := by
  have closed : ∀ compensation type code references,
      (refunded cfg o operationId compensation type code references).Costs cost n := fun _ _ _ _ =>
    .then_ (costs_updateSession o _) fun _ => .then_ (costs_setState o _) fun _ => .then_ (costs_log _) fun _ =>
      .then_ (costs_stateOf o) fun _ => costs_succeed _ _ _
  refine costs_idempotent (.then_ (costs_session? o) fun found => ?_)
  cases found with
  | none => exact costs_refuse _ _
  | some session =>
  refine .ite (costs_refuse _ _) (.then_ (costs_record? o) fun found => ?_)
  cases found with
  | none => exact costs_refuse _ _
  | some record =>
  refine .ite (costs_refuse _ _) (.then_ (costs_setState o _) fun _ => .ite (closed _ _ _ _) ?_)
  have caught := Proc.Costs.catch_ (m := n) (n := 0)
    (p := do
      let result ← liftResult (← ask (.compensate (refundInput o (session.externalPaymentId.getD "") record)))
      refunded cfg o operationId ⟨result.refundId, some "full refund", result.compensated⟩
        "compensation.refunded" "paid_fulfilment_failure_refunded" [("refundId", result.refundId.getD "")])
    (h := fun error => refundFailed cfg o operationId error.message)
    (.then_ (costs_free priced rfl) fun _ => .then_ (costs_liftResult _) fun _ => closed _ _ _ _)
    fun _ => .then_ (costs_setState o _) fun _ => .then_ (costs_log _) fun _ => .then_ (costs_stateOf o) fun _ =>
      costs_refuse _ _
  exact caught

theorem costs_dispatchWebhook (session : Session) (entity : WebhookEntity) (externalOrderId eventId : String)
    (found : WebhookOutcome) : (dispatchWebhook cfg session entity externalOrderId eventId found).Costs cost n := by
  refine .ite ?_ (.ite ?_ (.ite ?_ (.pure _)))
  · exact .then_ (costs_markProcessed _) fun _ => .then_ (costs_markVerifiedFromWebhook _ _ _ _) fun _ =>
      .then_ (costs_yield priced) fun _ => .pure _
  · exact .then_ (costs_updateSession _ _) fun _ => .then_ (costs_log _) fun _ => .pure _
  · exact .then_ (costs_markProcessed _) fun _ => .then_ (costs_log _) fun _ => .pure _

theorem costs_bindWebhook (entity : WebhookEntity) (eventId : String) (found : WebhookOutcome) :
    (bindWebhook cfg entity eventId found).Costs cost n := by
  unfold bindWebhook
  cases entity.orderId with
  | none => exact .pure _
  | some value =>
  have lookup : (sessionOfDelivery value).Costs cost 0 := by
    cases value
    case str => exact .then_ .read fun _ => .pure _
    all_goals exact .pure _
  refine .then_ lookup fun found => ?_
  cases found with
  | none => exact .pure _
  | some session =>
  dsimp only
  refine .then_ (costs_log _) fun _ => .ite (.then_ (costs_log _) fun _ => ?_) ?_
  all_goals
    refine .then_ (costs_record? _) fun _ => .ite (.then_ (costs_log _) fun _ => .pure _) ?_
    exact costs_dispatchWebhook priced session entity _ eventId _

theorem costs_processRazorpayWebhookRaw (rawBody : String) (signature eventIdHeader : Option String)
    (webhookSecret : String) :
    (processRazorpayWebhookRaw cfg rawBody signature eventIdHeader webhookSecret).Costs cost n := by
  refine .ite (.pure _) (.ite (.then_ (costs_log _) fun _ => .pure _) ?_)
  split
  · exact .pure _
  refine .then_ (costs_liftResult _) fun body => ?_
  unfold acceptWebhook
  dsimp only
  split
  · exact .pure _
  · exact .then_ .read fun _ => .ite (.pure _) (.ite (.then_ (costs_log _) fun _ => .pure _)
      (costs_bindWebhook priced _ _ _))

/-- The price of an operation: only messages ask the model provider. -/
def Command.price (a b c : Nat) : Command → Nat
  | .respond .. => a + b + c
  | _ => 0

theorem costs_op (command : Command) : (command.op cfg).Costs cost (command.price a b c) := by
  cases command with
  | respond o message binding operationId => exact costs_respond priced o message binding operationId
  | createSession operationId => exact costs_createSession operationId
  | buildQuote o productId binding operationId => exact costs_buildQuote o productId binding operationId
  | approve o digest operationId => exact costs_approve o digest operationId
  | initiatePayment o rail operationId => exact costs_initiatePayment priced o rail operationId
  | prepareX402OrderPayment o operationId => exact costs_prepareX402OrderPayment o operationId
  | confirmX402OrderPayment o paymentIdentifier operationId =>
      exact costs_confirmX402OrderPayment o paymentIdentifier operationId
  | mockCapture o => exact costs_mockCapture o
  | verifyPayment o externalOrderId externalPaymentId signature operationId =>
      exact costs_verifyPayment priced o externalOrderId externalPaymentId signature operationId
  | fulfil o fail operationId => exact costs_fulfil o fail operationId
  | compensate o operationId => exact costs_compensate priced o operationId
  | tamper o field => exact costs_tamper o field
  | policyCheck o rail candidate => exact costs_policyCheck o rail candidate
  | markWebhookProcessed e => exact .then_ (costs_markProcessed e) fun _ => .pure _
  | holdWebhook o held => exact .then_ (costs_updateSession o _) fun _ => .pure _
  | markVerifiedFromWebhook o paymentId orderIdExternal claims =>
      exact costs_markVerifiedFromWebhook o paymentId orderIdExternal claims
  | webhook rawBody signature eventIdHeader webhookSecret =>
      exact costs_processRazorpayWebhookRaw priced rawBody signature eventIdHeader webhookSecret
  | intentPatch o patch expectedIntentVersion => exact costs_intentPatch o patch expectedIntentVersion

end

/-! ### Turns -/

section Turns

variable {κ ι : Type} {F : Fleet κ ι}

/-- The operation is a command that is never suspended. -/
def Fleet.Atomic (F : Fleet κ ι) (k : κ) (i : ι) : Prop :=
  ∃ command, F.operation k i = .command command ∧ command.Atomic

theorem Fleet.Atomic.straight {k : κ} {i : ι} (atomic : F.Atomic k i) : (F.prog k i).Straight := by
  obtain ⟨command, operation, atomic⟩ := atomic
  unfold Fleet.prog
  rw [operation]
  exact .then_ (straight_op atomic) fun _ => .pure _

/-- The task of a stretch was not started before, and is done after it, as it does alone. -/
structure Stretch.Whole [DecidableEq ι] (F : Fleet κ ι) (t : Stretch κ ι) : Prop where
  fresh : t.before.phase t.task = .idle
  alone : ∀ answer : (q : Query) → q.Answer, t.after =
    ⟨((F.prog t.instance_ t.task).run answer t.before.state).final, Function.update t.before.phase t.task
      (.done ((F.prog t.instance_ t.task).run answer t.before.state).result)⟩

/-- A task that is never suspended takes a turn. -/
theorem Fleet.Atomic.whole [DecidableEq ι] {k : κ} {i : ι} {before pool : Instance ι} (atomic : F.Atomic k i)
    (turn : Coop.Turn (F.prog k) Fleet.anyAnswer before i pool)
    (unsuspended : ∀ q next, before.phase i ≠ .waiting q next) : Stretch.Whole F ⟨k, i, before, pool⟩ := by
  cases turn with
  | resume waiting => exact absurd waiting (unsuspended _ _)
  | start idle =>
      refine ⟨idle, fun answer => ?_⟩
      change before.advance i (F.prog k i) = _
      unfold Pool.advance
      rw [atomic.straight.segment answer]
      rfl

/-- A turn leaves the other tasks where they stand. -/
theorem phase_of_turn [DecidableEq ι] {k : κ} {i j : ι} {before pool : Instance ι}
    (turn : Coop.Turn (F.prog k) Fleet.anyAnswer before i pool) (other : j ≠ i) : pool.phase j = before.phase j := by
  cases turn <;> exact Function.update_of_ne other _ _

/-- Two stretches are not of one task. -/
def Stretch.Distinct (t t' : Stretch κ ι) : Prop := t'.instance_ = t.instance_ → t'.task ≠ t.task

variable [DecidableEq κ] [DecidableEq ι] {ok : List (Stretch κ ι) → Stretch κ ι → Prop}
  {history : List (Stretch κ ι)} {pools : κ → Instance ι}

/-- However the operations of the instances are interleaved, one that is never suspended takes a single turn,
and does in it what it does alone, whatever it would be answered. -/
theorem atomic_turns (run : F.Run ok history pools) :
    (∀ t ∈ history, F.Atomic t.instance_ t.task → t.Whole F) ∧
      history.Pairwise fun t t' => F.Atomic t.instance_ t.task → t.Distinct t' := by
  -- A task that took a turn is done, and no task that is never suspended waits.
  suffices law : ((∀ t ∈ history, F.Atomic t.instance_ t.task → t.Whole F) ∧
      history.Pairwise fun t t' => F.Atomic t.instance_ t.task → t.Distinct t') ∧
      (∀ k i, F.Atomic k i → ∀ q next, (pools k).phase i ≠ .waiting q next) ∧
      ∀ t ∈ history, F.Atomic t.instance_ t.task → (pools t.instance_).phase t.task ≠ .idle from law.1
  induction run with
  | start clock =>
      refine ⟨⟨by simp, .nil⟩, ?_, by simp⟩
      rintro k i - q next ⟨⟩
  | @turn history pools k i pool before turn _ ih =>
      obtain ⟨⟨whole, distinct⟩, unsuspended, started⟩ := ih
      have here : F.Atomic k i → Stretch.Whole F ⟨k, i, pools k, pool⟩ := fun atomic =>
        atomic.whole turn (unsuspended k i atomic)
      have done : F.Atomic k i → ∃ result, pool.phase i = .done result := fun atomic => by
        have after : pool = _ := (here atomic).alone (obliging 0)
        rw [after]
        exact ⟨_, Function.update_self _ _ _⟩
      refine ⟨⟨fun t mem atomic => ?_, List.pairwise_append.mpr ⟨distinct, List.pairwise_singleton _ _, ?_⟩⟩,
        fun k' j atomic q next => ?_, fun t mem atomic => ?_⟩
      · rcases List.mem_append.mp mem with mem | mem
        · exact whole t mem atomic
        · obtain rfl := List.mem_singleton.mp mem
          exact here atomic
      · intro t mem t' last atomic here same
        obtain rfl := List.mem_singleton.mp last
        change k = t.instance_ at here
        change i = t.task at same
        subst here same
        cases turn with
        | start idle => exact started t mem atomic idle
        | resume waiting => exact unsuspended _ _ atomic _ _ waiting
      · by_cases same : k' = k
        · subst same
          rw [Function.update_self]
          by_cases acted : j = i
          · subst acted
            obtain ⟨result, done⟩ := done atomic
            rw [done]
            rintro ⟨⟩
          · rw [phase_of_turn turn acted]
            exact unsuspended k' j atomic q next
        · rw [Function.update_of_ne same]
          exact unsuspended k' j atomic q next
      · by_cases same : t.instance_ = k
        · subst same
          rw [Function.update_self]
          by_cases acted : t.task = i
          · subst acted
            obtain ⟨result, done⟩ := done atomic
            rw [done]
            rintro ⟨⟩
          · rw [phase_of_turn turn acted]
            rcases List.mem_append.mp mem with mem | mem
            · exact started t mem atomic
            · exact absurd (congrArg Stretch.task (List.mem_singleton.mp mem)) acted
        · rw [Function.update_of_ne same]
          rcases List.mem_append.mp mem with mem | mem
          · exact started t mem atomic
          · obtain rfl := List.mem_singleton.mp mem
            exact absurd rfl same
  | @drift history pools k s before drifts ih =>
      obtain ⟨done, unsuspended, started⟩ := ih
      have phases : ∀ k', (Function.update pools k { pools k with state := s } k').phase = (pools k').phase := by
        intro k'
        by_cases same : k' = k
        · subst same
          rw [Function.update_self]
        · rw [Function.update_of_ne same]
      refine ⟨done, fun k' i atomic q next => ?_, fun t mem atomic => ?_⟩
      · rw [phases]
        exact unsuspended k' i atomic q next
      · rw [phases]
        exact started t mem atomic

end Turns

/-- One instance that creates sessions. -/
def opening : Fleet Unit Nat where
  config _ := plainConfig
  codec := ⟨fun _ => "", fun _ => none⟩
  operation _ _ := .command (.createSession none)

theorem atomic_turns_opening : ∃ history pools t, opening.Run (fun _ _ => True) (history ++ [t]) pools ∧
    t.Whole opening := by
  obtain ⟨history, pools, t, run, -⟩ := @Fleet.Run.script Unit Nat opening _ _ (fun _ _ => True) () 1 [0] (by decide)
    (by decide) (fun _ _ _ _ => trivial) fun _ _ _ _ _ => trivial
  have mem : t ∈ history ++ [t] := List.mem_append_right _ (List.mem_singleton_self t)
  exact ⟨history, pools, t, run, (atomic_turns run).1 t mem ⟨_, rfl, trivial⟩⟩

end AgentReady
