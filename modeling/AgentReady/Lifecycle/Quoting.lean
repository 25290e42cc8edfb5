import AgentReady.Lifecycle.Rules

/-!
What recommendations, `buildQuote`, `approve` and `tamper` do to an order.

For each operation there is the pure part of what it decides (`View.quote?`,
`View.approves?`, `View.tampered?`), the acts it may do (`QuoteActs`, …), and how it ends
(`Quoted`, …). The theorems `buildQuote_meets`, `approve_meets` and `tamper_meets` connect
them to the code.
-/

namespace AgentReady

open Coop Svc

/-- The transition check passes. -/
def OrderState.Leads (source target : OrderState) : Prop :=
  source = target ∨ target ∈ source.allowedTransitions

instance (source target : OrderState) : Decidable (source.Leads target) :=
  inferInstanceAs (Decidable (_ ∨ _))

/-- A refused transition was thrown. -/
def Illegal {α : Type} : Except ServiceError α → Prop
  | .error (.illegalTransition _ _) => True
  | _ => False

/-- How an operation under an operation id ends: it does not run, and nothing happens to the
order, or it runs. -/
def Under (runs : Prop) (result : View → Except ServiceError Reply → View → Prop) (v : View)
    (r : Except ServiceError Reply) (v' : View) : Prop :=
  (¬ runs ∧ v'.order = v.order ∧ ¬ Illegal r) ∨ (runs ∧ result v r v')

section Idempotent

variable {P : Platform} {seen : Order → Order → Prop} {lic : String → Order → Act → Prop}
  {o : String} {c : Contract Services Query.Answer} {s : Services} {w : Option View}

theorem idempotent_meets (lawful : Lawful P seen lic o c) {cfg : Config}
    {operationId : Option String} {request : OperationRequest} {aggregate : String}
    {prior : IdempotencyResult Reply → OrderState → Prior} {body : Svc Reply}
    {result : View → Except ServiceError Reply → View → Prop} (at_ : s.view? o = w)
    (run : ∀ s', Runs cfg s operationId request aggregate prior → s'.view? o = w →
      body.Meets c (Ends o w result) s') :
    (idempotent cfg operationId request aggregate prior body).Meets c
      (Ends o w (Under (Runs cfg s operationId request aggregate prior) result)) s := by
  refine meets_idempotent lawful at_ (fun r s' idle at' v known => ?_)
    (fun m s' idle at' v known => ?_) (fun s' runs at' => ?_)
  · exact ⟨v, at'.trans known, .inl ⟨idle, rfl, id⟩⟩
  · exact ⟨v, at'.trans known, .inl ⟨idle, rfl, id⟩⟩
  · refine (run s' runs at').mono fun r s'' ends v known => ?_
    obtain ⟨v', at'', h⟩ := ends v known
    exact ⟨v', at'', .inr ⟨runs, h⟩⟩

end Idempotent

/-! ### Recommendations -/

namespace View

variable (cfg : Config) (v : View)

/-- The ranking for the present intent, at the present time. -/
def ranked : RankingResult :=
  rankProducts (buildPurchaseIntent v.session.intent) shoeCatalog v.clock

/-- The action token of the next recommendation. -/
def nextToken : String := cfg.platform.newId "rec" v.draws

/-- After a ranking was recorded as the recommendation. -/
def recommended (ranking : RankingResult) : View :=
  v.drawn.update fun s => { s with
    lastRanking := some ranking
    dialogue := { s.dialogue with
      recommendationVersion := s.dialogue.recommendationVersion + 1
      recommendationIntentVersion := some s.dialogue.intentVersion
      recommendationActionToken := some (v.nextToken cfg) } }

def synced (shownIds missing : List String) (recentAction userEvidence : String) : View :=
  v.update fun s =>
    { s with dialogue := s.dialogue.syncMemory shownIds missing recentAction userEvidence }

def refreshed (recentAction userEvidence : String) : View :=
  (v.recommended cfg v.ranked).synced v.ranked.productIds v.ranked.missingNames recentAction
    userEvidence

/-- The ranking a selection is checked against, and the order it is current in. -/
def selectable : RankingResult × View :=
  match v.session.lastRanking with
  | some ranking =>
      if isCurrentRecommendation v.session then (ranking, v)
      else (v.ranked, v.refreshed cfg "refresh" "")
  | none => (v.ranked, v.refreshed cfg "refresh" "")

@[simp] theorem order_recommended {ranking : RankingResult} :
    (v.recommended cfg ranking).order =
      { v.order with marks := v.order.marks.recommended (v.nextToken cfg) } := rfl

@[simp] theorem order_synced {shownIds missing : List String} {recentAction userEvidence : String} :
    (v.synced shownIds missing recentAction userEvidence).order = v.order := rfl

@[simp] theorem order_refreshed {recentAction userEvidence : String} :
    (v.refreshed cfg recentAction userEvidence).order =
      { v.order with marks := v.order.marks.recommended (v.nextToken cfg) } := rfl

theorem order_selectable :
    (v.selectable cfg).2.order = v.order ∨ (v.selectable cfg).2.order =
      { v.order with marks := v.order.marks.recommended (v.nextToken cfg) } := by
  unfold selectable
  split
  · split
    · exact .inl rfl
    · exact .inr rfl
  · exact .inr rfl

theorem intent_selectable : (v.selectable cfg).2.session.intent = v.session.intent := by
  unfold selectable
  split
  · split <;> rfl
  · rfl

theorem state_selectable : (v.selectable cfg).2.state = v.state := by
  unfold selectable
  split
  · split <;> rfl
  · rfl

theorem mandates_selectable : (v.selectable cfg).2.mandates = v.mandates := by
  unfold selectable
  split
  · split <;> rfl
  · rfl

theorem clock_selectable : (v.selectable cfg).2.clock = v.clock := by
  unfold selectable
  split
  · split <;> rfl
  · rfl

end View

section Recommendation

variable {seen : Order → Order → Prop} {lic : String → Order → Act → Prop}
  {o : String} {c : Contract Services Query.Answer} {s : Services} {v : View} {cfg : Config}

theorem meets_recordRecommendation (lawful : Lawful cfg.platform seen lic o c)
    {ranking : RankingResult} {post : Except ServiceError Unit → Services → Prop}
    (at_ : s.view? o = some v) (licensed : ∀ token, lic o v.order (.recommend token))
    (next : ∀ s', s'.view? o = some (v.recommended cfg ranking) → post (.ok ()) s') :
    (recordRecommendation cfg o ranking).Meets c post s := by
  refine Proc.meets_bind.mpr (meets_newId lawful at_ fun s₁ at₁ => ?_)
  exact meets_updateSession lawful at₁ (.inr ⟨_, .recommend _, licensed _⟩) next

theorem meets_syncMemory (lawful : Lawful cfg.platform seen lic o c)
    {shownIds missing : List String} {recentAction userEvidence : String}
    {post : Except ServiceError Unit → Services → Prop} (at_ : s.view? o = some v)
    (next : ∀ s', s'.view? o = some (v.synced shownIds missing recentAction userEvidence) →
      post (.ok ()) s') :
    (Svc.syncMemory o shownIds missing recentAction userEvidence).Meets c post s :=
  meets_updateSession lawful at_ (.inl rfl) next

theorem meets_refreshRecommendation (lawful : Lawful cfg.platform seen lic o c)
    {recentAction userEvidence : String} {post : Except ServiceError RankingResult → Services → Prop}
    (at_ : s.view? o = some v) (licensed : ∀ token, lic o v.order (.recommend token))
    (next : ∀ s', s'.view? o = some (v.refreshed cfg recentAction userEvidence) →
      post (.ok v.ranked) s') :
    (refreshRecommendation cfg o v.session recentAction userEvidence).Meets c post s := by
  refine Proc.meets_bind.mpr (meets_now at_ ?_)
  refine Proc.meets_bind.mpr (meets_recordRecommendation lawful at_ licensed fun s₁ at₁ => ?_)
  exact Proc.meets_bind.mpr (meets_syncMemory lawful at₁ next)

theorem meets_recommendationBinding {post : Except ServiceError RecommendationBinding → Services → Prop}
    (at_ : s.view? o = some v)
    (current : isCurrentRecommendation v.session = true → post (.ok v.session.binding) s)
    (stale : ∀ m, isCurrentRecommendation v.session = false → post (.error (.other m)) s) :
    (recommendationBinding o).Meets c post s := by
  refine Proc.meets_bind.mpr (meets_session? at_ ?_)
  exact meets_ite current fun h => stale _ (Bool.eq_false_iff.mpr h)

theorem meets_currentRecommendation (lawful : Lawful cfg.platform seen lic o c)
    {post : Except ServiceError (RankingResult × RecommendationBinding) → Services → Prop}
    (at_ : s.view? o = some v) (licensed : ∀ token, lic o v.order (.recommend token))
    (stale : ∀ m s', s'.view? o = some (v.selectable cfg).2 →
      isCurrentRecommendation (v.selectable cfg).2.session = false → post (.error (.other m)) s')
    (current : ∀ s', s'.view? o = some (v.selectable cfg).2 →
      isCurrentRecommendation (v.selectable cfg).2.session = true →
      post (.ok ((v.selectable cfg).1, (v.selectable cfg).2.session.binding)) s') :
    (currentRecommendation cfg o v.session).Meets c post s := by
  -- Whichever way the ranking is found, the binding is that of the session as it then is.
  have bound : ∀ s₁, s₁.view? o = some (v.selectable cfg).2 →
      (do return ((v.selectable cfg).1, ← recommendationBinding o) : Svc _).Meets c post s₁ := by
    intro s₁ at₁
    refine Proc.meets_bind.mpr (meets_recommendationBinding at₁ (fun h => ?_) (fun m h => ?_))
    · exact current s₁ at₁ h
    · exact stale m s₁ at₁ h
  unfold currentRecommendation
  cases ranking : v.session.lastRanking with
  | none =>
      simp only [View.selectable, ranking] at bound
      exact Proc.meets_bind.mpr (meets_refreshRecommendation lawful at_ licensed bound)
  | some last =>
      refine meets_ite (fun h => ?_) (fun h => ?_)
      · simp only [View.selectable, ranking, if_pos h] at bound
        exact bound s at_
      · simp only [View.selectable, ranking, if_neg h] at bound
        exact Proc.meets_bind.mpr (meets_refreshRecommendation lawful at_ licensed bound)

theorem meets_validateCurrentSelection (lawful : Lawful cfg.platform seen lic o c)
    {productId : String} {supplied : Option RecommendationBinding}
    {post : Except ServiceError SelectionValidation → Services → Prop}
    (at_ : s.view? o = some v) (licensed : ∀ token, lic o v.order (.recommend token))
    (stale : ∀ m s', s'.view? o = some (v.selectable cfg).2 →
      isCurrentRecommendation (v.selectable cfg).2.session = false → post (.error (.other m)) s')
    (rejected : ∀ e s', s'.view? o = some (v.selectable cfg).2 →
      checkSelection (v.selectable cfg).2.session (v.selectable cfg).1 productId supplied v.clock =
        .error e →
      post (.ok (.rejected e.1 (v.selectable cfg).1 (v.selectable cfg).2.session.binding e.2)) s')
    (accepted : ∀ p s', s'.view? o = some (v.selectable cfg).2 →
      isCurrentRecommendation (v.selectable cfg).2.session = true →
      checkSelection (v.selectable cfg).2.session (v.selectable cfg).1 productId supplied v.clock =
        .ok p →
      post (.ok (.accepted p.1 p.2 (v.selectable cfg).2.session.binding)) s') :
    (validateCurrentSelection cfg o v.session productId supplied).Meets c post s := by
  refine Proc.meets_bind.mpr (meets_currentRecommendation lawful at_ licensed stale
    fun s₁ at₁ current => ?_)
  refine Proc.meets_bind.mpr (meets_session? at₁ ?_)
  refine Proc.meets_bind.mpr (meets_now at₁ ?_)
  simp only [View.clock_selectable, Option.map_some, Option.getD_some]
  cases check : checkSelection (v.selectable cfg).2.session (v.selectable cfg).1 productId supplied
      v.clock with
  | ok p => exact accepted p s₁ at₁ current check
  | error e => exact rejected e s₁ at₁ check

end Recommendation

/-! ### Building a quote -/

/-- The record that `buildQuote` stores, where the selection is accepted and the intent has a
digest. -/
def View.quote? (cfg : Config) (orderId productId : String)
    (supplied : Option RecommendationBinding) (v : View) : Option EnvelopeRecord :=
  let (ranking, at_) := v.selectable cfg
  if isCurrentRecommendation at_.session then
    match checkSelection at_.session ranking productId supplied v.clock,
        intentDigest v.session.intent with
    | .ok (product, variant), .ok digest =>
        let mandateId := ((v.mandates.get? v.session.customerId).map (·.mandateId)).getD ""
        let envelope := quoteEnvelope cfg orderId v.session product variant mandateId v.clock
          (cfg.platform.newId "qt" at_.draws) (cfg.platform.newId "hold" (at_.draws + 1))
          (cfg.platform.newId "nonce" (at_.draws + 2))
        some (sealRecord cfg envelope v.clock at_.session.binding digest)
    | _, _ => none
  else none

/-- The order with a new quote for a product. -/
def Order.quoted (x : Order) (record : EnvelopeRecord) (productId : String) : Order :=
  { x with record := some record, marks := x.marks.quoted productId record.recommendation }

inductive QuoteActs (cfg : Config) (orderId productId : String)
    (supplied : Option RecommendationBinding) (v : View) : Order → Act → Prop where
  | recommend (token : String) : QuoteActs cfg orderId productId supplied v v.order (.recommend token)
  | quote {r : EnvelopeRecord} (quoted : v.quote? cfg orderId productId supplied = some r) :
      QuoteActs cfg orderId productId supplied v (v.selectable cfg).2.order (.quote r productId)
  | move {r : EnvelopeRecord} (quoted : v.quote? cfg orderId productId supplied = some r) :
      QuoteActs cfg orderId productId supplied v ((v.selectable cfg).2.order.quoted r productId)
        (.move .awaitingApproval)

def Quoted (cfg : Config) (orderId productId : String) (supplied : Option RecommendationBinding)
    (v : View) (result : Except ServiceError Reply) (v' : View) : Prop :=
  let found := (v.selectable cfg).2.order
  match v.quote? cfg orderId productId supplied with
  | none => v'.order = found ∧ ¬ Illegal result
  | some r =>
      (v.state.Leads .awaitingApproval ∧ ¬ Illegal result ∧
        v'.order = { found.quoted r productId with state := .awaitingApproval }) ∨
      (¬ v.state.Leads .awaitingApproval ∧ Illegal result ∧ v'.order = found.quoted r productId)

section BuildQuote

variable {seen : Order → Order → Prop} {lic : String → Order → Act → Prop}
  {o : String} {c : Contract Services Query.Answer} {s : Services} {w : Option View}

/-- The use of the operation id lets `buildQuote` run. -/
def buildQuoteRuns (cfg : Config) (s : Services) (orderId productId : String)
    (operationId : Option String) : Prop :=
  Runs cfg s operationId
    ⟨"quote.build", [("orderId", .text orderId), ("productId", .text productId)]⟩ orderId
    throwingPrior

theorem buildQuote_meets {cfg : Config} {productId : String}
    {supplied : Option RecommendationBinding} {operationId : Option String}
    (lawful : Lawful cfg.platform seen lic o c) (at_ : s.view? o = w)
    (licensed : ∀ v, w = some v → buildQuoteRuns cfg s o productId operationId →
      ∀ x act, QuoteActs cfg o productId supplied v x act → lic o x act) :
    (buildQuote cfg o productId supplied operationId).Meets c
      (Ends o w (Under (buildQuoteRuns cfg s o productId operationId)
        (Quoted cfg o productId supplied))) s := by
  refine idempotent_meets lawful at_ fun s₁ runs at₁ => ?_
  refine Proc.meets_bind.mpr (meets_session? at₁ ?_)
  cases w with
  | none => exact .unknown
  | some v =>
  have licensed := licensed v rfl runs
  have unquoted : ∀ {r s' v'}, s'.view? o = some v' → v'.order = (v.selectable cfg).2.order →
      v.quote? cfg o productId supplied = none → ¬ Illegal r →
      Ends o (some v) (Quoted cfg o productId supplied) r s' := by
    intro r s' v' at' found quote legal
    refine .known at' ?_
    simp only [Quoted, quote]
    exact ⟨found, legal⟩
  refine Proc.meets_bind.mpr (meets_validateCurrentSelection lawful at₁
    (fun token => licensed _ _ (.recommend token)) ?_ ?_ ?_)
  · intro m s₂ at₂ stale
    exact unquoted at₂ rfl (by simp [View.quote?, stale]) id
  · intro e s₂ at₂ check
    exact unquoted at₂ rfl (by simp [View.quote?, check]) id
  · rintro ⟨product, variant⟩ s₂ at₂ current check
    refine Proc.meets_bind.mpr (meets_newId lawful at₂ fun s₃ at₃ => ?_)
    refine Proc.meets_bind.mpr (meets_newId lawful at₃ fun s₄ at₄ => ?_)
    refine Proc.meets_bind.mpr (meets_newId lawful at₄ fun s₅ at₅ => ?_)
    refine Proc.meets_bind.mpr (meets_read ?_)
    obtain ⟨-, -, mandates, clock, -⟩ := view_cases at₅
    replace mandates : s₅.mandates = v.mandates := mandates.trans (v.mandates_selectable cfg)
    replace clock : s₅.clock = v.clock := clock.trans (v.clock_selectable cfg)
    refine Proc.meets_bind.mpr (meets_liftResult (fun digest known => ?_) fun m unknown => ?_)
    · dsimp only
      rw [mandates, clock]
      have quoted : v.quote? cfg o productId supplied = some (sealRecord cfg (quoteEnvelope cfg o
          v.session product variant (((v.mandates.get? v.session.customerId).map
            (·.mandateId)).getD "") v.clock (cfg.platform.newId "qt" (v.selectable cfg).2.draws)
            (cfg.platform.newId "hold" ((v.selectable cfg).2.draws + 1))
            (cfg.platform.newId "nonce" ((v.selectable cfg).2.draws + 2))) v.clock
          (v.selectable cfg).2.session.binding digest) := by
        simp [View.quote?, current, check, known]
      have present : intentDigest (v.selectable cfg).2.order.intent = .ok digest := by
        change intentDigest (v.selectable cfg).2.session.intent = _
        rw [View.intent_selectable, known]
      refine Proc.meets_bind.mpr (meets_replaceOrder lawful at₅
        (.inr ⟨_, .quote rfl present, licensed _ _ (.quote quoted)⟩) fun s₆ at₆ => ?_)
      refine Proc.meets_bind.mpr (meets_setState lawful at₆ ?_ ?_ ?_)
      · exact fun _ _ => ⟨trivial, licensed _ _ (.move quoted)⟩
      · intro differ refused
        refine .known at₆ ?_
        simp only [Quoted, quoted]
        refine .inr ⟨?_, trivial, rfl⟩
        rw [← v.state_selectable cfg]
        exact not_or.mpr ⟨differ, refused⟩
      · intro leads s₇ at₇
        refine Proc.meets_bind.mpr (meets_log lawful at₇ fun s₈ at₈ => ?_)
        refine Proc.meets_bind.mpr (meets_stateOf at₈ ?_)
        refine Proc.meets_bind.mpr (meets_session? at₈ ?_)
        refine Proc.meets_bind.mpr (meets_complete lawful at₈ fun s₉ at₉ => ?_)
        refine .known at₉ ?_
        simp only [Quoted, quoted]
        refine .inl ⟨?_, id, rfl⟩
        rw [← v.state_selectable cfg]
        exact leads
    · exact unquoted at₅ rfl (by simp [View.quote?, current, check, unknown]) id

end BuildQuote

/-! ### Approval -/

/-- The session has approved the digest already. -/
def Session.hasApproved (x : Session) (digest : String) : Bool :=
  truthy x.approvalEventId && x.approvedDigest = some digest

/-- The record can be approved under a digest: its quote is active and not expired, it has the
digest, and it is not approved already. -/
structure View.Approvable (v : View) (digest : String) (r : EnvelopeRecord) : Prop where
  record : v.record = some r
  active : quoteActive v.session r = .ok true
  fresh : v.session.hasApproved digest = false
  digest : r.digest = digest
  valid : ¬ r.envelope.expiresAt < isoString v.clock

/-- The order with an approval. -/
def Order.granted (x : Order) (approvalEventId digest : String) : Order :=
  { x with approvalEventId := some approvalEventId, approvedDigest := some digest }

/-- The id of the approval given next. -/
def View.nextApproval (cfg : Config) (v : View) : String := cfg.platform.newId "appr" v.draws

inductive ApproveActs (cfg : Config) (digest : String) (v : View) : Order → Act → Prop where
  | expire : ApproveActs cfg digest v v.order (.move .expired)
  | grant {r : EnvelopeRecord} (approvable : v.Approvable digest r) :
      ApproveActs cfg digest v v.order (.grant (v.nextApproval cfg) digest)
  | move {r : EnvelopeRecord} (approvable : v.Approvable digest r) :
      ApproveActs cfg digest v (v.order.granted (v.nextApproval cfg) digest) (.move .approved)

def Approves (cfg : Config) (digest : String) (v : View) (result : Except ServiceError Reply)
    (v' : View) : Prop :=
  let granted := v.order.granted (v.nextApproval cfg) digest
  ((¬ ∃ r, v.Approvable digest r) ∧
    (v'.order = v.order ∨ (¬ Illegal result ∧ v'.order = { v.order with state := .expired }))) ∨
  (∃ r, v.Approvable digest r) ∧
    ((v.state.Leads .approved ∧ ¬ Illegal result ∧ v'.order = { granted with state := .approved }) ∨
      (¬ v.state.Leads .approved ∧ Illegal result ∧ v'.order = granted))

/-- An active quote is current. -/
theorem current_of_quoteActive {v : View} {r : EnvelopeRecord} (record : v.record = some r)
    (active : quoteActive v.session r = .ok true) : v.order.Current := by
  unfold quoteActive at active
  split at active
  case isTrue conditions =>
    simp only [Bool.and_eq_true] at conditions
    refine ⟨conditions.1.1, r, record, ?_⟩
    cases known : intentDigest v.session.intent with
    | error m => simp [known, bind, Except.bind] at active
    | ok digest =>
        simp [known, bind, Except.bind, pure, Except.pure] at active
        exact known.trans (congrArg _ active.symm)
  case isFalse => cases active

section Approve

variable {seen : Order → Order → Prop} {lic : String → Order → Act → Prop}
  {o : String} {c : Contract Services Query.Answer} {s : Services} {w : Option View}

/-- The use of the operation id lets `approve` run. -/
def approveRuns (cfg : Config) (s : Services) (orderId digest : String)
    (operationId : Option String) : Prop :=
  Runs cfg s operationId
    ⟨"approval.grant", [("orderId", .text orderId), ("digest", .text digest)]⟩ orderId
    (resumingPrior ([], []))

theorem approve_meets {cfg : Config} {digest : String} {operationId : Option String}
    (lawful : Lawful cfg.platform seen lic o c) (at_ : s.view? o = w)
    (licensed : ∀ v, w = some v → approveRuns cfg s o digest operationId →
      ∀ x act, ApproveActs cfg digest v x act → lic o x act) :
    (approve cfg o digest operationId).Meets c
      (Ends o w (Under (approveRuns cfg s o digest operationId) (Approves cfg digest))) s := by
  refine idempotent_meets lawful at_ fun s₁ runs at₁ => ?_
  refine Proc.meets_bind.mpr (meets_session? at₁ ?_)
  cases w with
  | none => exact meets_refuse lawful at₁ fun _ _ => .unknown
  | some v =>
  have licensed := licensed v rfl runs
  have refused : ∀ {result s'}, (∀ r, v.Approvable digest r → False) → s'.view? o = some v →
      Ends o (some v) (Approves cfg digest) result s' :=
    fun h at' => .known at' (.inl ⟨fun ⟨r, approvable⟩ => h r approvable, .inl rfl⟩)
  refine Proc.meets_bind.mpr (meets_record? at₁ ?_)
  cases record : v.record with
  | none =>
      exact meets_refuse lawful at₁ fun s₂ => refused fun r h => by cases record.symm.trans h.record
  | some r =>
  have the : ∀ {r'}, v.Approvable digest r' → r' = r := fun h =>
    Option.some.inj (h.record.symm.trans record)
  refine Proc.meets_bind.mpr (meets_liftResult (fun active known => ?_) fun m unknown => ?_)
  · refine meets_ite (fun inactive => ?_) (fun holds => ?_)
    · refine meets_refuse lawful at₁ fun s₂ => refused fun r' h => ?_
      obtain rfl := the h
      simp [Except.ok.inj (known.symm.trans h.active)] at inactive
    · replace holds : active = true := by simpa using holds
      subst holds
      refine meets_ite (fun approved => ?_) (fun fresh => ?_)
      · exact meets_succeed lawful at₁ fun s₂ => refused fun r' h =>
          Bool.false_ne_true (h.fresh.symm.trans approved)
      refine meets_ite (fun differ => ?_) (fun same => ?_)
      · exact meets_refuse lawful at₁ fun s₂ => refused fun r' h => by
          obtain rfl := the h
          exact differ h.digest
      obtain rfl := not_not.mp same
      refine Proc.meets_bind.mpr (meets_now at₁ ?_)
      refine meets_ite (fun expired => ?_) (fun valid => ?_)
      · have stale : ∀ r', v.Approvable r.digest r' → False := fun r' h => by
          obtain rfl := the h
          exact h.valid expired
        refine Proc.meets_bind.mpr (meets_setState lawful at₁ ?_ (fun _ _ => refused stale at₁) ?_)
        · exact fun _ _ => ⟨trivial, licensed _ _ .expire⟩
        · intro _ s₂ at₂
          refine Proc.meets_bind.mpr (meets_stateOf at₂ ?_)
          refine meets_refuse lawful at₂ fun s₃ at₃ => .known at₃ ?_
          exact .inl ⟨fun ⟨r', h⟩ => stale r' h, .inr ⟨id, rfl⟩⟩
      · have approvable : v.Approvable r.digest r :=
          ⟨record, known, Bool.eq_false_iff.mpr fresh, rfl, valid⟩
        have current := current_of_quoteActive record known
        refine Proc.meets_bind.mpr (meets_newId lawful at₁ fun s₂ at₂ => ?_)
        refine Proc.meets_bind.mpr (meets_updateSession lawful at₂
          (.inr ⟨_, .grant current record, licensed _ _ (.grant approvable)⟩) fun s₃ at₃ => ?_)
        refine Proc.meets_bind.mpr (meets_setState lawful at₃ ?_ ?_ ?_)
        · exact fun _ _ => ⟨⟨rfl, r, record, rfl⟩, licensed _ _ (.move approvable)⟩
        · intro differ refusal
          exact .known at₃ (.inr ⟨⟨r, approvable⟩, .inr ⟨not_or.mpr ⟨differ, refusal⟩, trivial, rfl⟩⟩)
        · intro leads s₄ at₄
          refine Proc.meets_bind.mpr (meets_log lawful at₄ fun s₅ at₅ => ?_)
          refine Proc.meets_bind.mpr (meets_stateOf at₅ ?_)
          refine meets_succeed lawful at₅ fun s₆ at₆ => .known at₆ ?_
          exact .inr ⟨⟨r, approvable⟩, .inl ⟨leads, id, rfl⟩⟩
  · refine refused (fun r' h => ?_) at₁
    obtain rfl := the h
    cases unknown.symm.trans h.active

end Approve

/-! ### Tampering -/

/-- The record that `tamper` stores, where the change is material. -/
def View.tampered? (cfg : Config) (v : View) (field : String) : Option EnvelopeRecord :=
  v.record.bind fun record =>
    let candidate :=
      (tamperEnvelope record.envelope field (cfg.platform.newId "nonce" v.draws)).1
    if requiresReapproval record.envelope candidate then
      some (sealRecord cfg candidate v.clock record.recommendation record.intentDigest)
    else none

/-- The order with a changed record, whose approval is withdrawn. -/
def Order.tampered (x : Order) (record : EnvelopeRecord) : Order :=
  { x with record := some record, approvalEventId := none, approvedDigest := none }

inductive TamperActs (cfg : Config) (field : String) (v : View) : Order → Act → Prop where
  | tamper {r : EnvelopeRecord} (changed : v.tampered? cfg field = some r) :
      TamperActs cfg field v v.order (.tamper r)
  | move {r : EnvelopeRecord} (changed : v.tampered? cfg field = some r) :
      TamperActs cfg field v (v.order.tampered r) (.move .reapprovalRequired)

def Tampered (cfg : Config) (field : String) (v : View) (result : Except ServiceError Reply)
    (v' : View) : Prop :=
  match v.tampered? cfg field with
  | none => v'.order = v.order ∧ ¬ Illegal result
  | some r =>
      (v.state.Leads .reapprovalRequired ∧ ¬ Illegal result ∧
        v'.order = { v.order.tampered r with state := .reapprovalRequired }) ∨
      (¬ v.state.Leads .reapprovalRequired ∧ Illegal result ∧ v'.order = v.order.tampered r)

section Tamper

variable {seen : Order → Order → Prop} {lic : String → Order → Act → Prop}
  {o : String} {c : Contract Services Query.Answer} {s : Services} {w : Option View}

theorem tamper_meets {cfg : Config} {field : String} (lawful : Lawful cfg.platform seen lic o c)
    (at_ : s.view? o = w)
    (licensed : ∀ v, w = some v → ∀ x act, TamperActs cfg field v x act → lic o x act) :
    (tamper cfg o field).Meets c (Ends o w (Tampered cfg field)) s := by
  refine Proc.meets_bind.mpr (meets_session? at_ ?_)
  cases w with
  | none => exact .unknown
  | some v =>
  refine Proc.meets_bind.mpr (meets_record? at_ ?_)
  cases record : v.record with
  | none =>
      exact .known at_ (by simp [Tampered, View.tampered?, record, Illegal])
  | some r =>
  refine Proc.meets_bind.mpr (meets_newId lawful at_ fun s₁ at₁ => ?_)
  rcases tampered : tamperEnvelope r.envelope field (cfg.platform.newId "nonce" v.draws) with
    ⟨candidate, changes⟩
  dsimp only
  rw [tampered]
  refine meets_ite (fun immaterial => ?_) (fun material => ?_)
  · refine .known at₁ ?_
    have same : v.tampered? cfg field = none := by
      simpa [View.tampered?, record, tampered] using immaterial
    simp [Tampered, same, Illegal]
  · refine Proc.meets_bind.mpr (meets_now at₁ ?_)
    have changed : v.tampered? cfg field =
        some (sealRecord cfg candidate v.clock r.recommendation r.intentDigest) := by
      simpa [View.tampered?, record, tampered] using material
    refine Proc.meets_bind.mpr (meets_replaceOrder lawful at₁
      (.inr ⟨_, .tamper record rfl rfl, licensed v rfl _ _ (.tamper changed)⟩) fun s₂ at₂ => ?_)
    refine Proc.meets_bind.mpr (meets_setState lawful at₂ ?_ ?_ ?_)
    · exact fun _ _ => ⟨trivial, licensed v rfl _ _ (.move changed)⟩
    · intro differ refused
      refine .known at₂ ?_
      simp only [Tampered, changed]
      exact .inr ⟨by simp [OrderState.Leads]; exact ⟨differ, refused⟩, trivial, rfl⟩
    · intro leads s₃ at₃
      refine Proc.meets_bind.mpr (meets_log lawful at₃ fun s₄ at₄ => ?_)
      refine Proc.meets_bind.mpr (meets_stateOf at₄ ?_)
      refine .known at₄ ?_
      simp only [Tampered, changed]
      exact .inl ⟨leads, id, rfl⟩

end Tamper

end AgentReady
