import AgentReady.Lifecycle.Hearing

/-!
What `respond` does to an order.

A change of the intent withdraws the quote and the approval; everything after that keeps the
intent, the record and the approval. The two exits that refuse a message after it was
interpreted are told apart: the transition that `clarify` refuses in `QUOTED`, and the reply
that the state accepts no new product messages.

* `Continuing`: processes that keep the approval and refuse nothing.
* `respond_meets`: the acts of a turn, and how a turn that runs alone ends.
-/

namespace AgentReady

open Coop Svc

/-! ### Refused messages -/

/-- The reply that the state accepts no new product messages. -/
def Refused : Except ServiceError Reply → Prop
  | .ok (.respond (.error text state none)) =>
      text = s!"Current state {state.name} does not accept new product messages."
  | _ => False

/-- The shortlist that is repeated for a message that changes nothing. -/
def Session.shortlist? (x : Session) : Option RankingResult :=
  x.lastRanking.filter fun r => isCurrentRecommendation x && r.ranked &&
    !x.machineSpendAttempt.any fun a => a.status = .pending && a.retryable

/-- The intent has everything that ranking needs. -/
def ParsedIntent.Complete (i : ParsedIntent) : Prop :=
  missingHardConstraints (buildPurchaseIntent i).hardConstraints = []

/-- A search for an intent is acted on: the shortlist is repeated, or the state allows ranking
and, in `QUOTED`, nothing is missing to rank. -/
def View.TakesSearch (v : View) (change : Bool) (intent : ParsedIntent) : Prop :=
  (change = false ∧ v.session.shortlist?.isSome) ∨
    (canRank v.state change = true ∧ (v.state = .quoted → intent.Complete))

theorem rankProducts_ranked {intent : ParsedIntent} {now : Int} :
    (rankProducts (buildPurchaseIntent intent) shoeCatalog now).ranked = true ↔ intent.Complete := by
  by_cases complete : intent.Complete
  · have complete' : missingHardConstraints (buildPurchaseIntent intent).hardConstraints = [] :=
      complete
    simp [rankProducts, complete', complete]
  · have missing : missingHardConstraints (buildPurchaseIntent intent).hardConstraints ≠ [] :=
      complete
    simp [rankProducts_of_missing missing, complete]

/-! ### Processes that keep the approval -/

/-- How a process ends that keeps the intent, the record and the approval of an order. -/
def Continues {α : Type} (o : String) (c : Contract Services Query.Answer) (x : Order)
    (good : α → Prop) (result : Except ServiceError α) (s : Services) : Prop :=
  ¬ Illegal result ∧ (∀ a, result = .ok a → good a) ∧
    ∃ v, s.view? o = some v ∧ (Still c → Keeps x v.order)

theorem Continues.since {α : Type} {o : String} {c : Contract Services Query.Answer} {x y : Order}
    {good : α → Prop} {result : Except ServiceError α} {s : Services} (keeps : Keeps x y)
    (h : Continues o c y good result s) : Continues o c x good result s := by
  obtain ⟨legal, returned, v, at_, kept⟩ := h
  exact ⟨legal, returned, v, at_, fun still => keeps.trans (kept still)⟩

theorem Continues.failed {α : Type} {o : String} {c : Contract Services Query.Answer} {x : Order}
    {good : α → Prop} {m : String} {s : Services} {v : View} (at_ : s.view? o = some v)
    (keeps : Keeps x v.order) : Continues o c x good (.error (.other m)) s :=
  ⟨id, nofun, v, at_, fun _ => keeps⟩

theorem Continues.returned {α : Type} {o : String} {c : Contract Services Query.Answer} {x : Order}
    {good : α → Prop} {a : α} {s : Services} {v : View} (at_ : s.view? o = some v)
    (keeps : Keeps x v.order) (h : good a) : Continues o c x good (.ok a) s := by
  refine ⟨id, fun b eq => ?_, v, at_, fun _ => keeps⟩
  cases eq
  exact h

/-- A process that keeps the intent, the record and the approval of the order, refuses no
transition and returns good values. -/
def Continuing (o : String) (c : Contract Services Query.Answer) {α : Type} (good : α → Prop)
    (p : Svc α) : Prop :=
  ∀ s v, s.view? o = some v → p.Meets c (Continues o c v.order good) s

/-- A reply other than the refusal of a message. -/
def Accepts (r : Reply) : Prop := ¬ Refused (.ok r)

section Continuing

variable {seen : Order → Order → Prop} {lic : String → Order → Act → Prop}
  {o : String} {c : Contract Services Query.Answer} {cfg : Config} {α β : Type}

theorem Quiet.continuing {p : Svc α} (h : Quiet o c p) : Continuing o c (fun _ => True) p := by
  intro s v at_
  refine (h s v at_).mono fun r s₁ ends => ?_
  obtain ⟨legal, v₁, at₁, same⟩ := ends
  exact ⟨legal, fun _ _ => trivial, v₁, at₁, fun still => same still ▸ Keeps.refl _⟩

namespace Continuing

variable {good : α → Prop} {fine : β → Prop}

theorem bind {p : Svc α} {f : α → Svc β} (hp : Continuing o c good p)
    (hf : ∀ a, good a → Continuing o c fine (f a)) : Continuing o c fine (p >>= f) := by
  intro s v at_
  refine Proc.meets_bind.mpr ((hp s v at_).mono fun r s₁ ends => ?_)
  obtain ⟨legal, returned, v₁, at₁, keeps⟩ := ends
  cases r with
  | error e =>
      exact ⟨fun illegal => legal (illegal_error illegal), nofun, v₁, at₁, keeps⟩
  | ok a =>
      refine (hf a (returned a rfl) s₁ v₁ at₁).mono fun r s₂ ends => ?_
      obtain ⟨legal, returned, v₂, at₂, keeps₂⟩ := ends
      exact ⟨legal, returned, v₂, at₂, fun still => (keeps still).trans (keeps₂ still)⟩

theorem then_ {p : Svc α} {f : α → Svc β} (hp : Quiet o c p)
    (hf : ∀ a, Continuing o c fine (f a)) : Continuing o c fine (p >>= f) :=
  bind hp.continuing fun a _ => hf a

theorem pure {a : α} (h : good a) : Continuing o c good (Pure.pure a : Svc α) :=
  fun _ _ at_ => .returned at_ (.refl _) h

theorem ite {p : Prop} [Decidable p] {a b : Svc α} (ha : Continuing o c good a)
    (hb : Continuing o c good b) : Continuing o c good (if p then a else b) :=
  fun s v at_ => meets_ite (fun _ => ha s v at_) (fun _ => hb s v at_)

end Continuing

variable (lawful : Lawful cfg.platform seen lic o c)

include lawful

theorem quiet_logIntent (type : String) (decision : Option PolicyDecision) (codes : List String) :
    Quiet o c (logIntent cfg o type decision codes) := by
  intro s v at_
  exact meets_logIntent lawful at_ (fun _ _ => ⟨id, v, at_, fun _ => rfl⟩)
    fun _ _ _ at₁ => ⟨id, _, at₁, fun _ => rfl⟩

theorem quiet_syncMemory (shownIds missing : List String) (recentAction userEvidence : String) :
    Quiet o c (Svc.syncMemory o shownIds missing recentAction userEvidence) :=
  .updateSession lawful fun _ _ => rfl

omit lawful in
theorem quiet_recommendationBinding : Quiet o c (recommendationBinding o) :=
  fun _ v at_ => meets_recommendationBinding at_ (fun _ => ⟨id, v, at_, fun _ => rfl⟩)
    fun _ _ => ⟨id, v, at_, fun _ => rfl⟩

theorem quiet_composeShortlist (ranking : RankingResult) :
    Quiet o c (composeShortlist cfg o ranking) := by
  refine .ite ?_ (quiet_yield lawful)
  exact .bind (.session? o) fun _ => .bind (.ask lawful fun _ => trivial) fun _ =>
    quiet_yield lawful

omit lawful in
theorem continuing_fail {text : String} {state : OrderState}
    (other : ∀ state : OrderState,
      text ≠ s!"Current state {state.name} does not accept new product messages.") :
    Continuing o c Accepts (pure (.respond (.error text state none)) : Svc Reply) :=
  .pure (other state)

theorem continuing_compare (session : Session) (requested : List String) :
    Continuing o c Accepts (handleCompare cfg o session requested) := by
  unfold handleCompare
  dsimp only
  split
  · exact continuing_fail fun state => by cases state <;> decide
  split
  · exact continuing_fail fun state => by cases state <;> decide
  split
  · exact .then_ (quiet_logIntent lawful _ _ _) fun _ => .pure id
  · exact continuing_fail fun state => by cases state <;> decide

theorem continuing_explain (session : Session) (requested : List String) :
    Continuing o c Accepts (handleExplain cfg o session requested) := by
  unfold handleExplain
  dsimp only
  split
  · exact continuing_fail fun state => by cases state <;> decide
  split
  · exact continuing_fail fun state => by cases state <;> decide
  · exact .then_ (quiet_logIntent lawful _ _ _) fun _ => .pure id

omit lawful in
theorem continuing_shortlistReply (session : Session) (ranking : RankingResult)
    (spend : Option MachineSpend) :
    Continuing o c Accepts (shortlistReply o session ranking spend) :=
  .then_ (.session? o) fun _ => .then_ quiet_recommendationBinding fun _ => .pure id

/-- What follows the explanation of a shortlist. -/
theorem continuing_shortlist (session : Session) (ranking : RankingResult)
    (spend : Option MachineSpend) (operationId : Option String) :
    Continuing o c Accepts (do
      let reply ← shortlistReply o session ranking spend
      complete operationId .success (some (← stateOf o).name) none reply
      return reply) :=
  .bind (continuing_shortlistReply session ranking spend) fun _ accepted =>
    .then_ (.stateOf o) fun _ => .then_ (.complete lawful _ _ _ _ _) fun _ => .pure accepted

theorem continuing_repeat (message : String) (operationId : Option String) (session : Session)
    (ranking : RankingResult) (action : InterpretationAction) :
    Continuing o c Accepts (repeatShortlist cfg o message operationId session ranking action) :=
  .then_ (quiet_composeShortlist lawful ranking) fun _ =>
    .then_ (quiet_syncMemory lawful _ _ _ _) fun _ =>
      continuing_shortlist lawful session ranking none operationId

/-! Actions that may renew the recommendation, from the session as it stands. -/

variable {s : Services} {v : View} (recommend : ∀ x token, lic o x (.recommend token))

omit lawful in
theorem keeps_recommended (x : Order) (token : String) :
    Keeps x { x with marks := x.marks.recommended token } := ⟨rfl, rfl, rfl, Int.le_add_one le_rfl⟩

include recommend

theorem meets_handleSelect (at_ : s.view? o = some v) (requested : List String)
    (supplied : Option RecommendationBinding) :
    (handleSelect cfg o v.session requested supplied).Meets c (Continues o c v.order Accepts) s := by
  unfold handleSelect
  split
  · exact continuing_fail (fun state => by cases state <;> decide) s v at_
  have selectable : Keeps v.order (v.selectable cfg).2.order := by
    rcases v.order_selectable cfg with same | renewed
    · rw [same]
      exact Keeps.refl _
    · rw [renewed]
      exact keeps_recommended _ _
  refine Proc.meets_bind.mpr (meets_validateCurrentSelection lawful at_ (recommend _) ?_ ?_ ?_)
  · exact fun m s₁ at₁ _ => .failed at₁ selectable
  · intro e s₁ at₁ _
    generalize v.selectable cfg = found at selectable at₁
    refine Proc.meets_bind.mpr (meets_liftResult (fun digest _ => ?_) fun m _ => ?_)
    · exact Proc.meets_bind.mpr (meets_log lawful at₁ fun s₂ at₂ => .returned at₂ selectable id)
    · exact .failed at₁ selectable
  · intro p s₁ at₁ _ _
    generalize v.selectable cfg = found at selectable at₁
    refine Proc.meets_bind.mpr (meets_updateSession lawful at₁ (.inl rfl) fun s₂ at₂ => ?_)
    refine Proc.meets_bind.mpr (meets_logIntent lawful at₂ (fun m _ => ?_) fun _ s₃ _ at₃ => ?_)
    · exact .failed at₂ selectable
    · exact .returned at₃ selectable id

theorem meets_handleCheaper (at_ : s.view? o = some v) :
    (handleCheaper cfg o v.session).Meets c (Continues o c v.order Accepts) s := by
  have option : ∀ (best : ProductMatch) (state : OrderState), Continuing o c Accepts (do
      let option := cheaperOption v.session.intent best (← now)
      logIntent cfg o "action.cheaper" (some .allow) ["grounded_catalog_facts"]
      return .respond (.cheaper (some best) option state) : Svc Reply) :=
    fun _ _ => .then_ .now fun _ => .then_ (quiet_logIntent lawful _ _ _) fun _ => .pure id
  have rest : ∀ {reply : OrderState → Svc Reply}, (∀ state, Continuing o c Accepts (reply state)) →
      Continuing o c Accepts (stateOf o >>= reply) :=
    fun replies => .then_ (.stateOf o) replies
  unfold handleCheaper
  split
  · refine rest (fun state => ?_) s v at_
    split
    · exact .pure id
    · exact option _ state
  · refine Proc.meets_bind.mpr (meets_refreshRecommendation lawful at_ (recommend _)
      fun s₁ at₁ => (rest (fun state => ?_) s₁ _ at₁).mono fun _ _ => .since ?_)
    · split
      · exact .pure id
      · exact option _ state
    · exact keeps_recommended _ _

/-! ### Searching -/

omit lawful recommend in
theorem canRank_cases {state : OrderState} {change : Bool} (h : canRank state change = true) :
    state = .draft ∨ state = .clarifying ∨ state = .reapprovalRequired ∨ state = .quoted ∨
      state = .awaitingApproval := by
  revert h
  cases state <;> cases change <;> decide

variable (move : ∀ x next, next = .quoted ∨ next = .clarifying → lic o x (.move next))

include move

omit recommend in
/-- Presenting a shortlist moves to `QUOTED` from the states that lead there. -/
theorem meets_presentShortlist {message : String} {operationId : Option String} {session : Session}
    {ranking : RankingResult} {action : InterpretationAction} {change invalidated : Bool}
    (at_ : s.view? o = some v) (accepts : canRank v.state change = true) :
    (presentShortlist cfg o message operationId session ranking action invalidated).Meets c
      (Continues o c v.order Accepts) s := by
  have presented : ∀ spend, Continuing o c Accepts (do
      composeShortlist cfg o ranking
      logIntent cfg o "intent.shortlist_ranked" none []
      Svc.syncMemory o ranking.productIds [] action.name message
      let reply ← shortlistReply o session ranking spend
      complete operationId .success (some (← stateOf o).name) none reply
      return reply : Svc Reply) := fun spend =>
    .then_ (quiet_composeShortlist lawful ranking) fun _ =>
      .then_ (quiet_logIntent lawful _ _ _) fun _ => .then_ (quiet_syncMemory lawful _ _ _ _) fun _ =>
        continuing_shortlist lawful session ranking spend operationId
  have rest := Continuing.then_ (.liftResult (intentDigest session.intent)) fun envelopeHash =>
    .then_ .read fun services =>
      .ite (p := shouldSpend services session ranking envelopeHash = true)
        (.then_ (quiet_runFitScoreSpend lawful cfg session) presented)
        (.then_ (.pure none) presented)
  refine meets_ite (fun _ => ?_) (fun _ => rest s v at_)
  refine Proc.meets_bind.mpr (meets_setState lawful at_
    (fun _ _ => ⟨trivial, move _ _ (.inl rfl)⟩) ?_ ?_)
  · intro differs refused
    have leads : OrderState.quoted ∈ v.state.allowedTransitions := by
      rcases canRank_cases accepts with h | h | h | h | h
      case inr.inr.inr.inl => exact absurd h differs
      all_goals
        rw [h]
        decide
    exact absurd leads refused
  · intro _ s₁ at₁
    exact (rest s₁ _ at₁).mono fun _ _ => .since (.moved v.order _)

omit recommend in
/-- Asking back is refused in `QUOTED`, before anything else is done. -/
theorem meets_clarify {message : String} {operationId : Option String} {session : Session}
    {ranking : RankingResult} {change : Bool} {post : Except ServiceError Reply → Services → Prop}
    (at_ : s.view? o = some v) (accepts : canRank v.state change = true)
    (refused : v.state = .quoted → post (.error (.illegalTransition v.state .clarifying)) s)
    (next : ∀ r s', v.state ≠ .quoted → Continues o c v.order Accepts r s' → post r s') :
    (clarify cfg o message operationId session ranking).Meets c post s := by
  refine Proc.meets_bind.mpr (meets_setState lawful at_
    (fun _ _ => ⟨trivial, move _ _ (.inr rfl)⟩) ?_ ?_)
  · intro differs illegal
    refine refused ?_
    rcases canRank_cases accepts with h | h | h | h | h <;> rw [h] at differs illegal ⊢ <;>
      exact absurd (by decide) illegal
  · intro leads s₁ at₁
    have other : v.state ≠ .quoted := by
      intro quoted
      rw [quoted] at leads
      revert leads
      decide
    have rest : Continuing o c Accepts (do
        let topMissing := nextClarification session.intent ranking.missingNames
        logIntent cfg o "intent.clarification_requested" none []
        Svc.syncMemory o [] ranking.missingNames "clarify" message
        let state ← stateOf o
        let reply := Reply.respond (.clarify topMissing.toList
          (ranking.missing.flatMap (·.options)) state session.intent)
        complete operationId .success (some state.name) none reply
        return reply : Svc Reply) :=
      .then_ (quiet_logIntent lawful _ _ _) fun _ => .then_ (quiet_syncMemory lawful _ _ _ _) fun _ =>
        .then_ (.stateOf o) fun _ => .then_ (.complete lawful _ _ _ _ _) fun _ => .pure id
    exact (rest s₁ _ at₁).mono fun r s' ends =>
      next r s' other (.since (.moved v.order .clarifying) ends)

/-- A search is acted on, or refused: by the reply that the state accepts no messages, or in
`QUOTED` by the transition to `CLARIFYING`, after the recommendation was renewed. -/
theorem meets_search {message : String} {operationId : Option String}
    {action : InterpretationAction} {change invalidated : Bool}
    {post : Except ServiceError Reply → Services → Prop} (at_ : s.view? o = some v)
    (continues : ∀ r s', v.TakesSearch change v.session.intent →
      Continues o c v.order Accepts r s' → post r s')
    (closed : ∀ s', ¬ v.TakesSearch change v.session.intent → canRank v.state change = false →
      s'.view? o = some v → post (.ok (.respond (.error
        s!"Current state {v.state.name} does not accept new product messages." v.state none))) s')
    (stuck : ∀ s' v' token, ¬ v.TakesSearch change v.session.intent → v.state = .quoted →
      s'.view? o = some v' →
      v'.order = { v.order with marks := v.order.marks.recommended token } →
      post (.error (.illegalTransition .quoted .clarifying)) s') :
    (search cfg o message operationId action change invalidated).Meets c post s := by
  refine Proc.meets_bind.mpr (meets_session? at_ ?_)
  dsimp only [Option.map_some]
  have shown : (v.session.lastRanking.filter fun r => !change && isCurrentRecommendation v.session &&
      r.ranked && !v.session.machineSpendAttempt.any fun a => a.status = .pending && a.retryable) =
      if change then none else v.session.shortlist? := by
    cases change <;> simp [Session.shortlist?]
  rw [shown]
  cases repeated : (if change then none else v.session.shortlist?) with
  | some ranking =>
      have takes : v.TakesSearch change v.session.intent := by
        cases change with
        | true => simp at repeated
        | false => exact .inl ⟨rfl, by simp_all⟩
      exact (continuing_repeat lawful _ _ _ _ _ s v at_).mono fun r s' => continues r s' takes
  | none =>
  have fresh : ¬ (change = false ∧ v.session.shortlist?.isSome) := by
    rintro ⟨rfl, shown⟩
    simp_all
  refine meets_ite (fun refused => ?_) (fun accepted => ?_)
  · have refused : canRank v.state change = false := by simpa [View.state] using refused
    refine Proc.meets_bind.mpr (meets_complete lawful at_ fun s₁ at₁ => ?_)
    exact closed s₁ (by simp [View.TakesSearch, fresh, refused]) refused at₁
  have accepted : canRank v.state change = true := by simpa [View.state] using accepted
  refine Proc.meets_bind.mpr (meets_now at_ ?_)
  refine Proc.meets_bind.mpr (meets_recordRecommendation lawful at_ (recommend _)
    fun s₁ at₁ => ?_)
  have order : (v.recommended cfg (rankProducts (buildPurchaseIntent v.session.intent) shoeCatalog
      v.clock)).order = { v.order with marks := v.order.marks.recommended (v.nextToken cfg) } := rfl
  have keeps := keeps_recommended v.order (v.nextToken cfg)
  have state : (v.recommended cfg (rankProducts (buildPurchaseIntent v.session.intent) shoeCatalog
      v.clock)).state = v.state := rfl
  have ranks := @rankProducts_ranked v.session.intent v.clock
  generalize v.recommended cfg _ = v₁ at at₁ order state
  rw [← order] at keeps
  refine meets_ite (fun missing => ?_) (fun complete => ?_)
  · have incomplete : ¬ v.session.intent.Complete := by simpa [← ranks] using missing
    have accepted₁ : canRank v₁.state change = true := by rw [state]; exact accepted
    refine meets_clarify lawful move at₁ accepted₁ ?_ ?_
    · intro quoted
      rw [state] at quoted ⊢
      rw [quoted]
      refine stuck s₁ v₁ _ ?_ quoted at₁ order
      rintro (repeats | takes)
      · exact fresh repeats
      · exact incomplete (takes.2 quoted)
    · intro r s' other ends
      exact continues r s' (.inr ⟨accepted, fun quoted => absurd (state ▸ quoted) other⟩)
        (ends.since keeps)
  · have complete : v.session.intent.Complete := by simpa [← ranks] using complete
    refine (meets_presentShortlist lawful move at₁ (by rw [state]; exact accepted)).mono
      fun r s' ends => continues r s' (.inr ⟨accepted, fun _ => complete⟩) (ends.since keeps)

end Continuing

/-! ### A turn -/

/-- The message changes the intent or starts over. -/
def View.Overturns (cfg : Config) (message : String) (answer : (q : Query) → q.Answer) (v : View) :
    Prop :=
  ∃ merged heard, hear cfg v.clock message answer v.session.intent = .ok (merged, heard) ∧
    (heard ≠ v.session.intent ∨ merged.action = .restart)

inductive RespondActs (cfg : Config) (message : String) (c : Contract Services Query.Answer)
    (v : View) : Order → Act → Prop where
  | say {x : Order} (intent : ParsedIntent) : RespondActs cfg message c v x (.say intent)
  | withdraw {x : Order} {record : Option EnvelopeRecord}
      (overturns : ∀ answer, Alone answer c → x.state = v.state ∧ v.Overturns cfg message answer) :
      RespondActs cfg message c v x (.withdraw record)
  | restart {x : Order}
      (overturns : ∀ answer, Alone answer c → x.state = v.state ∧ v.Overturns cfg message answer) :
      RespondActs cfg message c v x .restart
  | recommend {x : Order} (token : String) : RespondActs cfg message c v x (.recommend token)
  | move {x : Order} {next : OrderState} (asked : next = .quoted ∨ next = .clarifying) :
      RespondActs cfg message c v x (.move next)

/-- The act sets the intent. -/
def Act.Says : Act → Prop
  | .say _ => True
  | _ => False

/-- The message is acted on by a search, not by the search for a cheaper option. -/
def Searches (message : String) (merged : StructuredInterpretation) : Prop :=
  (merged.action = .search ∨ merged.action = .refine) ∧
    cheaperPattern.test (toLowerCase message.toList) = false

/-- How a turn ends that runs alone, after the message was interpreted. -/
inductive TurnEnds (message : String) (v : View) (merged : StructuredInterpretation)
    (heard : ParsedIntent) (result : Except ServiceError Reply) (v' : View) : Prop where
  | taken (takes : Searches message merged →
        v.TakesSearch (hasIntentChanged v.session.intent heard) heard)
      (legal : ¬ Illegal result) (accepts : ¬ Refused result)
  | closed (searches : Searches message merged)
      (refused : ¬ v.TakesSearch (hasIntentChanged v.session.intent heard) heard)
      (state : canRank v.state (hasIntentChanged v.session.intent heard) = false)
      (reply : Refused result) (same : heard = v.session.intent → v'.order = v.order)
      (intent : v'.order.intent = heard)
  | stuck (searches : Searches message merged)
      (refused : ¬ v.TakesSearch (hasIntentChanged v.session.intent heard) heard)
      (state : v.state = .quoted) (illegal : Illegal result)
      (renewed : v'.order.marks.recommendationVersion = v.order.marks.recommendationVersion + 1)

/-- How `respond` ends where it runs alone. A change of the intent withdraws the approval, and
what keeps the intent keeps the approval. -/
inductive RespondEnds (cfg : Config) (message : String) (answer : (q : Query) → q.Answer) (v : View)
    (result : Except ServiceError Reply) (v' : View) : Prop where
  | misheard (misheard : Misheard cfg message answer v v') (legal : ¬ Illegal result)
      (accepts : ¬ Refused result)
  | heard {merged : StructuredInterpretation} {heard : ParsedIntent}
      (said : hear cfg v.clock message answer v.session.intent = .ok (merged, heard))
      (intent : v'.order.intent = heard ∨ v'.order.intent = {})
      (approval : v'.order.approvalEventId = none ∨ Keeps v.order v'.order)
      (turn : TurnEnds message v merged heard result v')
      (versions : if merged.action = .restart then
          v'.order.marks = createDialogueMemory.marks ∧ v'.order.intent = {}
        else Later v.order v'.order)

/-- The order when an interpreted message is acted on: a change of the intent has withdrawn the
quote and the approval, and nothing else has happened. -/
structure Turned (cfg : Config) (message : String) (answer : (q : Query) → q.Answer) (v : View)
    (merged : StructuredInterpretation) (change : Bool) (v' : View) : Prop where
  said : hear cfg v.clock message answer v.session.intent = .ok (merged, v'.session.intent)
  material : change = hasIntentChanged v.session.intent v'.session.intent
  state : v'.state = v.state
  same : change = false → v'.order = v.order ∧ v'.session.shortlist? = v.session.shortlist?
  changed : change = true → v'.order.approvalEventId = none
  version : v'.order.marks.recommendationVersion = v.order.marks.recommendationVersion
  later : Later v.order v'.order

section Turn

variable {seen : Order → Order → Prop} {lic : String → Order → Act → Prop}
  {o : String} {c : Contract Services Query.Answer} {cfg : Config} {s : Services} {v v' : View}
  {message : String} {merged : StructuredInterpretation} {change : Bool}
  {answer : (q : Query) → q.Answer}

/-- How `respond` ends, if nothing disturbs it. -/
abbrev Converses (cfg : Config) (message : String) (c : Contract Services Query.Answer) (v : View)
    (result : Except ServiceError Reply) (v' : View) : Prop :=
  ∀ answer, Alone answer c → RespondEnds cfg message answer v result v'

namespace Turned

variable (turned : Turned cfg message answer v merged change v')

include turned

theorem takes_iff : v'.TakesSearch change v'.session.intent ↔
    v.TakesSearch (hasIntentChanged v.session.intent v'.session.intent) v'.session.intent := by
  rw [← turned.material, View.TakesSearch, View.TakesSearch, turned.state]
  refine or_congr (and_congr_right fun unchanged => ?_) Iff.rfl
  rw [(turned.same unchanged).2]

/-- What keeps the approval from then on has withdrawn it or kept it. -/
theorem approval {v'' : View} (keeps : Keeps v'.order v''.order) :
    v''.order.approvalEventId = none ∨ Keeps v.order v''.order := by
  cases change with
  | true =>
      refine .inl ?_
      rw [keeps.order]
      exact turned.changed rfl
  | false =>
      rw [(turned.same rfl).1] at keeps
      exact .inr keeps

end Turned

/-- A turn that continues in a process that keeps the approval and refuses nothing. -/
theorem Ends.converses {r : Except ServiceError Reply} {s' : Services} (goes : merged.action ≠ .restart)
    (turned : ∀ answer, Alone answer c → Turned cfg message answer v merged change v')
    (takes : Searches message merged → v'.TakesSearch change v'.session.intent)
    (h : Continues o c v'.order Accepts r s') :
    Ends o (some v) (Converses cfg message c) r s' := by
  obtain ⟨legal, accepts, v'', at_, keeps⟩ := h
  refine .known at_ fun answer alone => ?_
  have turned := turned answer alone
  have keeps := keeps alone.isStill
  refine .heard turned.said (.inl keeps.intent) (turned.approval keeps) (.taken ?_ legal ?_)
    ((if_neg goes).mpr (turned.later.trans keeps.later))
  · exact fun searches => turned.takes_iff.mp (takes searches)
  · cases r with
    | ok a => exact accepts a rfl
    | error e => exact id

theorem searchOrCheaper_meets (lawful : Lawful cfg.platform seen lic o c)
    (licensed : ∀ x act, RespondActs cfg message c v x act → ¬ act.Says → lic o x act)
    (at_ : s.view? o = some v')
    (turned : ∀ answer, Alone answer c → Turned cfg message answer v merged change v')
    (action : merged.action = .search ∨ merged.action = .refine)
    (operationId : Option String) (invalidated : Bool) :
    (searchOrCheaper cfg o message operationId merged.action v'.session change invalidated).Meets c
      (Ends o (some v) (Converses cfg message c)) s := by
  have recommend : ∀ x token, lic o x (.recommend token) := fun _ _ => licensed _ _ (.recommend _) id
  have move : ∀ x next, next = .quoted ∨ next = .clarifying → lic o x (.move next) :=
    fun _ _ asked => licensed _ _ (.move asked) id
  have goes : merged.action ≠ .restart := by
    rcases action with action | action <;> rw [action] <;> decide
  refine meets_ite (fun cheaper => ?_) (fun searching => ?_)
  · have plain : Searches message merged → v'.TakesSearch change v'.session.intent :=
      fun searches => absurd cheaper (by rw [searches.2]; decide)
    refine meets_ite (fun moves => ?_) (fun _ => ?_)
    · have awaiting : v'.state = .awaitingApproval := by
        simp only [Bool.and_eq_true, decide_eq_true_eq] at moves
        exact moves.2
      refine Proc.meets_bind.mpr (meets_setState lawful at_
        (fun _ _ => ⟨trivial, move _ _ (.inl rfl)⟩) ?_ ?_)
      · intro _ refused
        exact absurd (by rw [awaiting]; decide) refused
      · intro _ s₁ at₁
        refine (meets_handleCheaper lawful recommend at₁).mono fun r s' ends => ?_
        exact .converses goes turned plain (ends.since (.moved v'.order .quoted))
    · exact (meets_handleCheaper lawful recommend at_).mono fun _ _ => .converses goes turned plain
  have searches : Searches message merged := ⟨action, by simpa using searching⟩
  refine meets_search lawful recommend move at_ ?_ ?_ ?_
  · exact fun r s' takes ends => .converses goes turned (fun _ => takes) ends
  · intro s' refused state at' 
    refine .known at' fun answer alone => ?_
    have turned := turned answer alone
    rw [turned.takes_iff] at refused
    rw [turned.material, turned.state] at state
    refine .heard turned.said (.inl rfl) (turned.approval (.refl _))
      (.closed searches refused state rfl ?_ rfl) ((if_neg goes).mpr turned.later)
    intro same
    refine (turned.same ?_).1
    rw [turned.material, same]
    exact Bool.eq_false_iff.mpr fun changed => hasIntentChanged_iff.mp changed rfl
  · intro s' v'' token refused quoted at' order
    refine .known at' fun answer alone => ?_
    have turned := turned answer alone
    rw [turned.takes_iff] at refused
    rw [turned.state] at quoted
    have keeps : Keeps v'.order v''.order := by
      rw [order]
      exact keeps_recommended _ _
    refine .heard turned.said (.inl keeps.intent) (turned.approval keeps)
      (.stuck searches refused quoted trivial ?_) ((if_neg goes).mpr (turned.later.trans keeps.later))
    · rw [order]
      exact congrArg (· + 1) turned.version

theorem act_meets (lawful : Lawful cfg.platform seen lic o c)
    (licensed : ∀ x act, RespondActs cfg message c v x act → ¬ act.Says → lic o x act)
    (at_ : s.view? o = some v')
    (turned : ∀ answer, Alone answer c → Turned cfg message answer v merged change v')
    {supplied : Option RecommendationBinding} {operationId : Option String} {invalidated : Bool} :
    (act cfg o message supplied operationId merged v'.session change invalidated).Meets c
      (Ends o (some v) (Converses cfg message c)) s := by
  have recommend : ∀ x token, lic o x (.recommend token) := fun _ _ => licensed _ _ (.recommend _) id
  have other : ∀ {action}, merged.action = action → action ≠ .search → action ≠ .refine →
      Searches message merged → v'.TakesSearch change v'.session.intent := by
    rintro _ rfl search refine_ ⟨searches | searches, -⟩
    · exact absurd searches search
    · exact absurd searches refine_
  unfold act
  cases action : merged.action with
  | restart =>
      refine Proc.meets_bind.mpr (meets_replaceOrder lawful at_ (.inr ⟨_, .restart, ?_⟩)
        fun s₁ at₁ => ?_)
      · refine licensed _ _ (.restart fun answer alone => ?_) id
        have turned := turned answer alone
        exact ⟨turned.state, _, _, turned.said, .inr action⟩
      · refine Proc.meets_bind.mpr (meets_stateOf at₁ (.known at₁ fun answer alone => ?_))
        exact .heard (turned answer alone).said (.inr rfl) (.inl rfl)
          (.taken (fun searches => absurd searches.1 (by simp [action])) id id) ((if_pos action).mpr ⟨rfl, rfl⟩)
  | compare =>
      exact (continuing_compare lawful _ _ s v' at_).mono fun _ _ =>
        .converses (by rw [action]; decide) turned (other action (by decide) (by decide))
  | explain =>
      exact (continuing_explain lawful _ _ s v' at_).mono fun _ _ =>
        .converses (by rw [action]; decide) turned (other action (by decide) (by decide))
  | select =>
      exact (meets_handleSelect lawful recommend at_ _ _).mono fun _ _ =>
        .converses (by rw [action]; decide) turned (other action (by decide) (by decide))
  | search =>
      have := searchOrCheaper_meets lawful licensed at_ turned (.inl action) operationId invalidated
      rwa [action] at this
  | refine =>
      have := searchOrCheaper_meets lawful licensed at_ turned (.inr action) operationId invalidated
      rwa [action] at this

/-- What is heard has a digest. -/
theorem digest_of_hear {clock : Int} {intent heard : ParsedIntent}
    (said : hear cfg clock message answer intent = .ok (merged, heard)) :
    ∃ digest, intentDigest heard = .ok digest := by
  unfold hear at said
  cases outcome : interpretUserMessage cfg.platform clock message intent
      (proposed cfg message answer) with
  | error m =>
      rw [outcome] at said
      cases said
  | ok outcome' =>
      rw [outcome] at said
      cases known : intentDigest (heardFrom cfg clock message answer intent outcome').2 with
      | error m =>
          simp only [bind, Except.bind, known] at said
          cases said
      | ok digest =>
          simp only [bind, Except.bind, known] at said
          cases said
          exact ⟨digest, known⟩

theorem route_meets (lawful : Lawful cfg.platform seen lic o c)
    (licensed : ∀ x act, RespondActs cfg message c v x act → ¬ act.Says → lic o x act)
    (at_ : s.view? o = some v') {turn : Turn}
    (heard : ∀ answer, Alone answer c →
      Heard cfg message answer (v.update fun x => { x with message := message }) turn v')
    {supplied : Option RecommendationBinding} {operationId : Option String} :
    (route cfg o message supplied operationId turn).Meets c
      (Ends o (some v) (Converses cfg message c)) s := by
  refine Proc.meets_bind.mpr (meets_session? at_ ?_)
  have said : ∀ answer, Alone answer c →
      hear cfg v.clock message answer v.session.intent = .ok (turn.merged, v'.session.intent) :=
    fun answer alone => (heard answer alone).result
  have state : ∀ answer, Alone answer c → v'.state = v.state := by
    intro answer alone
    rw [View.state, (heard answer alone).session]
    rfl
  refine meets_ite (fun material => ?_) (fun immaterial => ?_)
  · have overturns : ∀ answer, Alone answer c →
        v'.order.state = v.state ∧ v.Overturns cfg message answer := by
      intro answer alone
      refine ⟨state answer alone, _, _, said answer alone, .inl fun same => ?_⟩
      rw [(heard answer alone).previousIntent, same] at material
      exact hasIntentChanged_iff.mp material rfl
    refine Proc.meets_bind.mpr (meets_withdrawQuote lawful at_
      (fun _ => licensed _ _ (.withdraw overturns) id) ?_ ?_)
    · intro m s₁ v₁ _ unknown at₁ _
      refine .known at₁ fun answer alone => ?_
      obtain ⟨digest, known⟩ := digest_of_hear (said answer alone)
      rw [known] at unknown
      cases unknown
    · intro s₁ v₁ _ at₁ session record
      refine Proc.meets_bind.mpr (meets_session? at₁ (act_meets lawful licensed at₁ ?_))
      intro answer alone
      have h := heard answer alone
      have intent : v₁.session.intent = v'.session.intent := by rw [session]; rfl
      refine ⟨?_, ?_, ?_, ?_, ?_, ?_, ?_⟩
      · rw [intent]
        exact said answer alone
      · rw [intent, h.previousIntent]
        rfl
      · rw [View.state, session]
        exact state answer alone
      · intro unchanged
        rw [material] at unchanged
        cases unchanged
      · intro _
        rw [View.order, session]
        rfl
      · rw [View.order, session, h.session]
        rfl
      · rw [show v₁.order = v₁.session.order v₁.record from rfl, session, h.session]
        exact later_withdrawn v.order _ _
  · refine Proc.meets_bind.mpr (meets_session? at_ (act_meets lawful licensed at_ ?_))
    intro answer alone
    have h := heard answer alone
    have same : v'.session.intent = v.session.intent := by
      rw [h.previousIntent, hasIntentChanged_iff, not_not] at immaterial
      exact immaterial.symm
    have session : v'.session = { v.session with message := message } := by
      rw [h.session, same]
      rfl
    have order : v'.order = v.order := by
      rw [View.order, session, h.record]
      rfl
    refine ⟨said answer alone, ?_, state answer alone, ?_, ?_, ?_, order ▸ Later.refl _⟩
    · rw [h.previousIntent]
      rfl
    · refine fun _ => ⟨order, ?_⟩
      rw [session]
      rfl
    · exact fun changed => absurd changed immaterial
    · rw [order]

/-! ### The operation -/

/-- The use of the operation id lets `respond` run. -/
def respondRuns (cfg : Config) (s : Services) (orderId message : String)
    (supplied : Option RecommendationBinding) (operationId : Option String) : Prop :=
  let binding := supplied.getD ⟨0, 0, ""⟩
  Runs cfg s operationId
    ⟨"conversation.respond", [("orderId", .text orderId), ("message", .text message),
      ("intentVersion", .number binding.intentVersion),
      ("recommendationVersion", .number binding.recommendationVersion),
      ("recommendationActionToken", .text binding.recommendationActionToken)]⟩ orderId respondPrior

theorem respond_meets (lawful : Lawful cfg.platform seen lic o c) {w : Option View}
    (at_ : s.view? o = w) {supplied : Option RecommendationBinding} {operationId : Option String}
    (licensed : ∀ v, w = some v → respondRuns cfg s o message supplied operationId →
      ∀ x act, RespondActs cfg message c v x act → lic o x act) :
    (respond cfg o message supplied operationId).Meets c
      (Ends o w (Under (respondRuns cfg s o message supplied operationId)
        (Converses cfg message c))) s := by
  refine idempotent_meets lawful at_ fun s₁ runs at₁ => ?_
  refine Proc.meets_bind.mpr (meets_session? at₁ ?_)
  cases w with
  | none => exact Proc.meets_bind.mpr (meets_complete lawful at₁ fun _ _ => .unknown)
  | some v =>
  have licensed := licensed v rfl runs
  refine Proc.meets_bind.mpr (meets_updateSession lawful at₁ (.inl rfl) fun s₂ at₂ => ?_)
  refine Proc.meets_bind.mpr (interpretTurn_meets lawful at₂ rfl
    (fun _ _ => licensed _ _ (.say _)) ?_ ?_)
  · intro e s₃ v₃ legal at₃ misheard
    refine .known at₃ fun answer alone => ?_
    obtain ⟨result, intent, order⟩ := misheard answer alone
    exact .misheard ⟨result, intent, order⟩ legal id
  · exact fun turn s₃ v₃ at₃ heard => route_meets lawful (fun x act acts _ => licensed x act acts) at₃ heard

end Turn

end AgentReady
