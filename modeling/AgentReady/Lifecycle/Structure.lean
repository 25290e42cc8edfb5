import AgentReady.Services.Commands

/-!
What holds of the turns of a conversation by their structure.

A property of processes that sequencing keeps, and that the reads, the writes and the suspensions of a
turn have, is one of the whole turn, except for what a search does that may pay.

* `structural_route`, `structural_respond`: a turn has the property where its searches have.
-/

namespace AgentReady

open Coop Svc

/-- The property is kept by sequencing, and what a turn is made of has it. Sessions are rewritten under
their own ids and customers, records are deleted, and events are logged under the ids that are drawn for
them. -/
structure Structural (cfg : Config) (R : {α : Type} → Svc α → Prop) : Prop where
  pure : ∀ {α : Type} (a : α), R (Pure.pure a : Svc α)
  throw : ∀ {α : Type} (e : ServiceError), R (MonadExcept.throw e : Svc α)
  bind : ∀ {α β : Type} {p : Svc α} {f : α → Svc β}, R p → (∀ a, R (f a)) → R (p >>= f)
  read : R Proc.read
  ask : ∀ q, R (Svc.ask q)
  newId : ∀ tag, R (Svc.newId cfg tag)
  log : ∀ {event : String → Int → AuditEvent}, (∀ id now, (event id now).eventId = id) → R (Svc.log cfg event)
  remember : ∀ f : Services → OperationStore Reply, R (Proc.modify fun s => { s with operations := f s })
  updateSession : ∀ (o : String) {f : Session → Session}, (∀ x, (f x).logicalOrderId = x.logicalOrderId) →
    (∀ x, (f x).customerId = x.customerId) → R (Svc.updateSession o f)
  forget : ∀ (o : String) {f : Session → Session}, (∀ x, (f x).logicalOrderId = x.logicalOrderId) →
    (∀ x, (f x).customerId = x.customerId) → R (Svc.replaceOrder o none f)

section

variable {cfg : Config} {R : {α : Type} → Svc α → Prop} {α : Type}

theorem Structural.ite {p : Prop} [Decidable p] {a b : Svc α} (ha : R a) (hb : R b) : R (if p then a else b) := by
  split
  · exact ha
  · exact hb

variable (closed : Structural cfg R)

include closed

namespace Structural

theorem liftResult (e : Except String α) : R (Svc.liftResult e) := by
  cases e with
  | ok a => exact closed.pure a
  | error m => exact closed.throw _

theorem now : R Svc.now := closed.bind closed.read fun _ => closed.pure _

theorem session? (o : String) : R (Svc.session? o) := closed.bind closed.read fun _ => closed.pure _

theorem record? (o : String) : R (Svc.record? o) := closed.bind closed.read fun _ => closed.pure _

theorem stateOf (o : String) : R (Svc.stateOf o) := closed.bind (closed.session? o) fun _ => closed.pure _

theorem digestOf (intent : ParsedIntent) : R (Svc.digestOf intent) := closed.liftResult _

theorem setState (o : String) (next : OrderState) : R (Svc.setState o next) := by
  refine closed.bind (closed.session? o) fun found => ?_
  cases found with
  | none => exact closed.pure ()
  | some session =>
      refine Structural.ite (closed.pure ()) ?_
      split
      · exact closed.throw _
      · exact closed.updateSession o (fun _ => rfl) fun _ => rfl

theorem complete (operationId : Option String) (outcome : OperationOutcome) (resultRef errorRef : Option String)
    (payload : Reply) : R (Svc.complete operationId outcome resultRef errorRef payload) := by
  cases operationId with
  | none => exact closed.pure ()
  | some id => exact Structural.ite (closed.pure ()) (closed.remember _)

theorem refuse (operationId : Option String) (r : OperationResult) : R (Svc.refuse operationId r) :=
  closed.bind (closed.complete _ _ _ _ _) fun _ => closed.pure _

theorem succeed (operationId resultRef : Option String) (r : OperationResult) :
    R (Svc.succeed operationId resultRef r) :=
  closed.bind (closed.complete _ _ _ _ _) fun _ => closed.pure _

theorem idempotent (operationId : Option String) (request : OperationRequest) (aggregate : String)
    (prior : IdempotencyResult Reply → OrderState → Prior) {body : Svc Reply} (runs : R body) :
    R (Svc.idempotent cfg operationId request aggregate prior body) := by
  cases operationId with
  | none => exact runs
  | some id =>
      refine Structural.ite runs (closed.bind closed.read fun s => ?_)
      refine closed.bind (closed.remember _) fun _ => closed.bind (closed.stateOf _) fun state => ?_
      split
      · exact runs
      · exact closed.pure _
      · exact closed.throw _

end Structural

/-! ### The conversation -/

theorem structural_recordRecommendation (o : String) (ranking : RankingResult) :
    R (recordRecommendation cfg o ranking) :=
  closed.bind (closed.newId _) fun _ => closed.updateSession o (fun _ => rfl) fun _ => rfl

theorem structural_syncMemory (o : String) (shownIds missing : List String)
    (recentAction userEvidence : String) :
    R (syncMemory o shownIds missing recentAction userEvidence) :=
  closed.updateSession o (fun _ => rfl) fun _ => rfl

theorem structural_recommendationBinding (o : String) : R (recommendationBinding o) := by
  refine closed.bind (closed.session? o) fun found => ?_
  cases found with
  | none => exact closed.throw _
  | some session => exact Structural.ite (closed.pure _) (closed.throw _)

theorem structural_refreshRecommendation (o : String) (session : Session)
    (recentAction userEvidence : String) :
    R (refreshRecommendation cfg o session recentAction userEvidence) :=
  closed.bind closed.now fun _ => closed.bind (structural_recordRecommendation closed o _) fun _ =>
    closed.bind (structural_syncMemory closed o _ _ _ _) fun _ => closed.pure _

theorem structural_currentRecommendation (o : String) (session : Session) :
    R (currentRecommendation cfg o session) := by
  have last : ∀ ranking : RankingResult, R (do
      return (ranking, ← recommendationBinding o)) :=
    fun _ => closed.bind (structural_recommendationBinding closed o) fun _ => closed.pure _
  have renewed := closed.bind (structural_refreshRecommendation closed o session "refresh" "") last
  unfold currentRecommendation
  cases session.lastRanking with
  | none => exact renewed
  | some ranking => exact Structural.ite (closed.bind (closed.pure _) last) renewed

theorem structural_validateCurrentSelection (o : String) (session : Session) (productId : String)
    (supplied : Option RecommendationBinding) :
    R (validateCurrentSelection cfg o session productId supplied) := by
  refine closed.bind (structural_currentRecommendation closed o session) fun _ => closed.bind (closed.session? o) fun _ =>
    closed.bind closed.now fun _ => ?_
  split
  · exact closed.pure _
  · exact closed.pure _

theorem structural_logIntent (o type : String) (decision : Option PolicyDecision)
    (reasonCodes : List String) : R (logIntent cfg o type decision reasonCodes) := by
  refine closed.bind (closed.session? o) fun found => ?_
  cases found with
  | none => exact closed.pure ()
  | some session => exact closed.bind (closed.digestOf _) fun _ => closed.log fun _ _ => rfl

theorem structural_enrichIntent (o message : String) : R (enrichIntent cfg o message) := by
  refine closed.bind (closed.ask _) fun soft => ?_
  split
  · exact closed.pure ()
  · refine closed.bind (closed.session? o) fun found => ?_
    cases found with
    | none => exact closed.pure ()
    | some session =>
        exact Structural.ite (closed.bind (closed.updateSession o (fun _ => rfl) fun _ => rfl) fun _ =>
          structural_logIntent closed o _ _ _) (closed.pure ())

theorem structural_proposal (message : String) : R (proposal cfg message) :=
  Structural.ite (closed.ask _) (closed.bind (closed.ask _) fun _ => closed.pure _)

theorem structural_interpretTurn (o : String) (session : Session) (message : String) :
    R (interpretTurn cfg o session message) := by
  refine closed.bind closed.now fun _ => closed.bind (structural_proposal closed message) fun _ =>
    closed.bind (closed.liftResult _) fun _ => closed.bind (closed.session? o) fun _ => closed.bind (closed.record? o) fun _ =>
    closed.bind (closed.updateSession o (fun _ => rfl) fun _ => rfl) fun _ => ?_
  refine Structural.ite (closed.bind (structural_enrichIntent closed o message) fun _ => ?_) ?_
  all_goals exact closed.bind (structural_logIntent closed o _ _ _) fun _ => closed.pure _

theorem structural_withdrawQuote (o : String) (previous : Option EnvelopeRecord)
    (reasonCodes : List String) : R (withdrawQuote cfg o previous reasonCodes) := by
  cases previous with
  | none => exact closed.updateSession o (fun _ => rfl) fun _ => rfl
  | some record =>
      refine closed.bind (closed.forget o (fun _ => rfl) fun _ => rfl) fun _ =>
        closed.bind (closed.session? o) fun found => ?_
      cases found with
      | none => exact closed.pure ()
      | some session => exact closed.bind (closed.digestOf _) fun _ => closed.log fun _ _ => rfl

theorem structural_handleCompare (o : String) (session : Session) (requested : List String) :
    R (handleCompare cfg o session requested) := by
  unfold handleCompare
  dsimp only
  split
  · exact closed.pure _
  · split
    · exact closed.pure _
    · split
      · exact closed.bind (structural_logIntent closed o _ _ _) fun _ => closed.pure _
      · exact closed.pure _

theorem structural_handleExplain (o : String) (session : Session) (requested : List String) :
    R (handleExplain cfg o session requested) := by
  unfold handleExplain
  dsimp only
  split
  · exact closed.pure _
  · split
    · exact closed.pure _
    · exact closed.bind (structural_logIntent closed o _ _ _) fun _ => closed.pure _

theorem structural_handleSelect (o : String) (session : Session) (requested : List String)
    (supplied : Option RecommendationBinding) :
    R (handleSelect cfg o session requested supplied) := by
  unfold handleSelect
  split
  · exact closed.pure _
  · refine closed.bind (structural_validateCurrentSelection closed o session _ supplied) fun checked => ?_
    cases checked with
    | rejected message ranking binding codes =>
        exact closed.bind (closed.digestOf _) fun _ => closed.bind (closed.log fun _ _ => rfl) fun _ => closed.pure _
    | accepted product variant binding =>
        exact closed.bind (closed.updateSession o (fun _ => rfl) fun _ => rfl) fun _ =>
          closed.bind (structural_logIntent closed o _ _ _) fun _ => closed.pure _

theorem structural_handleCheaper (o : String) (session : Session) :
    R (handleCheaper cfg o session) := by
  unfold handleCheaper
  split
  all_goals
    refine closed.bind ?_ fun _ => closed.bind (closed.stateOf o) fun _ => ?_
    · first
        | exact closed.pure _
        | exact structural_refreshRecommendation closed o session _ _
    · split
      · exact closed.pure _
      · exact closed.bind closed.now fun _ => closed.bind (structural_logIntent closed o _ _ _) fun _ => closed.pure _

theorem structural_composeShortlist (o : String) (ranking : RankingResult) :
    R (composeShortlist cfg o ranking) := by
  refine Structural.ite (closed.bind (closed.session? o) fun _ => closed.bind (closed.ask _) fun _ => ?_) ?_
  all_goals exact closed.ask _

/-! ### A turn of the conversation -/

theorem structural_shortlistReply (o : String) (session : Session) (ranking : RankingResult)
    (spend : Option MachineSpend) : R (shortlistReply o session ranking spend) :=
  closed.bind (closed.session? o) fun _ => closed.bind (structural_recommendationBinding closed o) fun _ => closed.pure _

theorem structural_repeatShortlist (o message : String) (operationId : Option String)
    (session : Session) (ranking : RankingResult) (action : InterpretationAction) :
    R (repeatShortlist cfg o message operationId session ranking action) :=
  closed.bind (structural_composeShortlist closed o ranking) fun _ =>
    closed.bind (structural_syncMemory closed o _ _ _ _) fun _ =>
    closed.bind (structural_shortlistReply closed o session ranking none) fun _ =>
    closed.bind (closed.stateOf o) fun _ => closed.bind (closed.complete _ _ _ _ _) fun _ => closed.pure _

theorem structural_clarify (o message : String) (operationId : Option String) (session : Session)
    (ranking : RankingResult) :
    R (clarify cfg o message operationId session ranking) :=
  closed.bind (closed.setState o _) fun _ => closed.bind (structural_logIntent closed o _ _ _) fun _ =>
    closed.bind (structural_syncMemory closed o _ _ _ _) fun _ => closed.bind (closed.stateOf o) fun _ =>
    closed.bind (closed.complete _ _ _ _ _) fun _ => closed.pure _

/-- A shortlist is presented. -/
theorem structural_presented (o message : String) (operationId : Option String) (session : Session)
    (ranking : RankingResult) (action : InterpretationAction) (spend : Option MachineSpend) :
    R (do
      composeShortlist cfg o ranking
      logIntent cfg o "intent.shortlist_ranked" none []
      Svc.syncMemory o ranking.productIds [] action.name message
      let reply ← shortlistReply o session ranking spend
      Svc.complete operationId .success (some (← Svc.stateOf o).name) none reply
      return reply) :=
  closed.bind (structural_composeShortlist closed o ranking) fun _ =>
    closed.bind (structural_logIntent closed o _ _ _) fun _ =>
    closed.bind (structural_syncMemory closed o _ _ _ _) fun _ =>
    closed.bind (structural_shortlistReply closed o session ranking spend) fun _ =>
    closed.bind (closed.stateOf o) fun _ => closed.bind (closed.complete _ _ _ _ _) fun _ => closed.pure _

theorem structural_act (o message : String) (supplied : Option RecommendationBinding)
    (operationId : Option String) (merged : StructuredInterpretation) (session : Session)
    (materialChange quoteInvalidated : Bool)
    (searches : ∀ action materialChange quoteInvalidated,
      R (search cfg o message operationId action materialChange quoteInvalidated)) :
    R (act cfg o message supplied operationId merged session materialChange quoteInvalidated) := by
  have searched : ∀ action, R (searchOrCheaper cfg o message operationId action session
      materialChange quoteInvalidated) := by
    refine fun action => Structural.ite (Structural.ite (closed.bind (closed.setState o _) fun _ => ?_) ?_) ?_
    · exact structural_handleCheaper closed o session
    · exact structural_handleCheaper closed o session
    · exact searches action _ _
  unfold act
  cases merged.action with
  | restart =>
      exact closed.bind (closed.forget o (fun _ => rfl) fun _ => rfl) fun _ =>
        closed.bind (closed.stateOf o) fun _ => closed.pure _
  | compare => exact structural_handleCompare closed o session _
  | explain => exact structural_handleExplain closed o session _
  | select => exact structural_handleSelect closed o session _ supplied
  | search | refine => exact searched _

theorem structural_route (o message : String) (supplied : Option RecommendationBinding)
    (operationId : Option String) (turn : Turn)
    (searches : ∀ action materialChange quoteInvalidated,
      R (search cfg o message operationId action materialChange quoteInvalidated)) :
    R (route cfg o message supplied operationId turn) := by
  refine closed.bind (closed.session? o) fun found => ?_
  cases found with
  | none => exact closed.pure _
  | some interpreted =>
      have last := closed.bind (closed.session? o) fun found =>
        structural_act closed o message supplied operationId turn.merged (found.getD interpreted)
          (hasIntentChanged turn.previousIntent interpreted.intent)
          (hasIntentChanged turn.previousIntent interpreted.intent && turn.previousEnvelope.isSome) searches
      exact Structural.ite (closed.bind (structural_withdrawQuote closed o _ _) fun _ => last) last

theorem structural_respond (o message : String) (supplied : Option RecommendationBinding)
    (operationId : Option String)
    (searches : ∀ action materialChange quoteInvalidated,
      R (search cfg o message operationId action materialChange quoteInvalidated)) :
    R (respond cfg o message supplied operationId) := by
  refine closed.idempotent _ _ _ _ (closed.bind (closed.session? o) fun found => ?_)
  cases found with
  | none => exact closed.bind (closed.complete _ _ _ _ _) fun _ => closed.pure _
  | some session =>
      exact closed.bind (closed.updateSession o (fun _ => rfl) fun _ => rfl) fun _ =>
        closed.bind (structural_interpretTurn closed o session message) fun _ =>
          structural_route closed o message supplied operationId _ searches

end

end AgentReady
