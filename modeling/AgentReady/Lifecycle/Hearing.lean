import AgentReady.Lifecycle.Patching

/-!
How `respond` interprets a message.

`hear` is the pure part: what the message makes of the intent, given the answers of the
model provider. The operation may be disturbed while it waits for these answers; what is
said of it here about `hear` is said for a turn that runs alone.
-/

namespace AgentReady

open Coop Svc

/-! ### The pure part -/

/-- The provider's proposal for a message. -/
def proposed (cfg : Config) (message : String) (answer : (q : Query) → q.Answer) : Option Json :=
  if cfg.llmEnabled then (answer (.interpret message)).result else none

/-- The intent with the soft preferences that the provider extracts. -/
def softened (message : String) (answer : (q : Query) → q.Answer) (intent : ParsedIntent) :
    ParsedIntent :=
  match ((answer (.extractSoftPreferences message)).result).bind sanitizeSoftPreferences with
  | none => intent
  | some soft => if enriches intent soft then enrich intent soft else intent

/-- The merged proposals of an interpretation, and the intent they make. -/
def heardFrom (cfg : Config) (clock : Int) (message : String) (answer : (q : Query) → q.Answer)
    (intent : ParsedIntent) (outcome : InterpretationOutcome) :
    StructuredInterpretation × ParsedIntent :=
  let deterministic := deterministicInterpretation cfg.platform clock message intent
  let merged := mergeInterpretation deterministic outcome.interpretation
  let said := applyInterpretation intent merged
  (merged, if cfg.llmEnabled && outcome.source ≠ .llm then softened message answer said else said)

/-- What a message makes of an intent: the merged proposals and the new intent, which must have
a digest. -/
def hear (cfg : Config) (clock : Int) (message : String) (answer : (q : Query) → q.Answer)
    (intent : ParsedIntent) : Except String (StructuredInterpretation × ParsedIntent) := do
  let outcome ← interpretUserMessage cfg.platform clock message intent
    (proposed cfg message answer)
  let heard := heardFrom cfg clock message answer intent outcome
  let _ ← intentDigest heard.2
  return heard

/-- The message was heard: what `interpretTurn` leaves, and what it returns. -/
structure Heard (cfg : Config) (message : String) (answer : (q : Query) → q.Answer) (v : View)
    (turn : Turn) (v' : View) : Prop where
  result : hear cfg v.clock message answer v.session.intent = .ok (turn.merged, v'.session.intent)
  previousIntent : turn.previousIntent = v.session.intent
  previousEnvelope : turn.previousEnvelope = v.record
  session : v'.session = { v.session with intent := v'.session.intent }
  record : v'.record = v.record

/-- The message could not be interpreted, or makes an intent without a digest. -/
structure Misheard (cfg : Config) (message : String) (answer : (q : Query) → q.Answer) (v : View)
    (v' : View) : Prop where
  result : ∃ m, hear cfg v.clock message answer v.session.intent = .error m
  intent : v'.session.intent = v.session.intent ∨ ∃ outcome m,
    interpretUserMessage cfg.platform v.clock message v.session.intent (proposed cfg message answer) =
      .ok outcome ∧
    v'.session.intent = (heardFrom cfg v.clock message answer v.session.intent outcome).2 ∧
    intentDigest v'.session.intent = .error m
  order : v'.order = { v.order with intent := v'.session.intent }

section Hearing

variable {seen : Order → Order → Prop} {lic : String → Order → Act → Prop}
  {o : String} {c : Contract Services Query.Answer} {s : Services} {v : View} {cfg : Config}
  {message : String}

theorem meets_logIntent (lawful : Lawful cfg.platform seen lic o c) {type : String}
    {decision : Option PolicyDecision} {codes : List String}
    {post : Except ServiceError Unit → Services → Prop} (at_ : s.view? o = some v)
    (undigested : ∀ m, intentDigest v.session.intent = .error m → post (.error (.other m)) s)
    (next : ∀ digest s', intentDigest v.session.intent = .ok digest →
      s'.view? o = some v.drawn → post (.ok ()) s') :
    (logIntent cfg o type decision codes).Meets c post s := by
  refine Proc.meets_bind.mpr (meets_session? at_ ?_)
  refine Proc.meets_bind.mpr (meets_liftResult (fun digest known => ?_) undigested)
  exact meets_log lawful at_ fun s₁ at₁ => next digest s₁ known at₁

theorem meets_proposal (lawful : Lawful cfg.platform seen lic o c)
    {post : Except ServiceError (Option Json) → Services → Prop} (at_ : s.view? o = some v)
    (next : ∀ value s' v', s'.view? o = some v' →
      (∀ answer, Alone answer c → value = proposed cfg message answer ∧
        v'.session = v.session ∧ v'.record = v.record) → post (.ok value) s') :
    (proposal cfg message).Meets c post s := by
  refine meets_ite (fun enabled => ?_) (fun disabled => ?_)
  · refine meets_ask lawful at_ trivial fun a s₁ s₂ v₁ rely given _ same _ at₂ => ?_
    refine next _ s₂ _ at₂ fun answer alone => ?_
    rw [same (alone.still rely), proposed, if_pos enabled, alone.given given]
    exact ⟨rfl, rfl, rfl⟩
  · refine Proc.meets_bind.mpr (meets_ask lawful at_ trivial
      fun a s₁ s₂ v₁ rely _ _ same _ at₂ => ?_)
    refine next none s₂ _ at₂ fun answer alone => ?_
    rw [same (alone.still rely), proposed, if_neg disabled]
    exact ⟨rfl, rfl, rfl⟩

theorem meets_enrichIntent (lawful : Lawful cfg.platform seen lic o c)
    {post : Except ServiceError Unit → Services → Prop} (at_ : s.view? o = some v)
    (licensed : ∀ x intent, lic o x (.say intent))
    (undigested : ∀ m s' v', s'.view? o = some v' → intentDigest v'.session.intent = .error m →
      (∀ answer, Alone answer c →
        v'.session = { v.session with intent := softened message answer v.session.intent } ∧
        v'.record = v.record) → post (.error (.other m)) s')
    (next : ∀ s' v', s'.view? o = some v' →
      (∀ answer, Alone answer c →
        v'.session = { v.session with intent := softened message answer v.session.intent } ∧
        v'.record = v.record) → post (.ok ()) s') :
    (enrichIntent cfg o message).Meets c post s := by
  refine Proc.meets_bind.mpr (meets_ask lawful at_ trivial
    fun a s₁ s₂ v₁ rely given _ same _ at₂ => ?_)
  dsimp only
  cases extracted : a.result.bind sanitizeSoftPreferences with
  | none =>
      refine next s₂ _ at₂ fun answer alone => ?_
      obtain rfl := alone.given given
      rw [same (alone.still rely), softened, extracted]
      exact ⟨rfl, rfl⟩
  | some soft =>
      refine Proc.meets_bind.mpr (meets_session? at₂ ?_)
      refine meets_ite (fun fills => ?_) (fun idle => ?_)
      · refine Proc.meets_bind.mpr (meets_updateSession lawful at₂
          (.inr ⟨_, .say _, licensed _ _⟩) fun s₃ at₃ => ?_)
        have enriched : ∀ answer, Alone answer c →
            ((v₁.at_ a.at_).update fun x => { x with intent := enrich x.intent soft }).session =
              { v.session with intent := softened message answer v.session.intent } ∧
            v₁.record = v.record := by
          intro answer alone
          obtain rfl := alone.given given
          obtain rfl := same (alone.still rely)
          have fills : enriches v₁.session.intent soft = true := fills
          simp only [softened, extracted, fills, if_true]
          exact ⟨rfl, trivial⟩
        refine meets_logIntent lawful at₃ (fun m unknown => ?_) fun digest s₄ _ at₄ => ?_
        · exact undigested m s₃ _ at₃ unknown enriched
        · exact next s₄ _ at₄ enriched
      · refine next s₂ _ at₂ fun answer alone => ?_
        obtain rfl := alone.given given
        obtain rfl := same (alone.still rely)
        have idle : ¬ enriches v₁.session.intent soft = true := idle
        simp only [softened, extracted, if_neg idle]
        exact ⟨rfl, rfl⟩

theorem interpretTurn_meets (lawful : Lawful cfg.platform seen lic o c) {session : Session}
    {post : Except ServiceError Turn → Services → Prop} (at_ : s.view? o = some v)
    (present : session.intent = v.session.intent)
    (licensed : ∀ x intent, lic o x (.say intent))
    (failed : ∀ e s' v', ¬ Illegal (.error e : Except ServiceError Reply) → s'.view? o = some v' →
      (∀ answer, Alone answer c → Misheard cfg message answer v v') → post (.error e) s')
    (next : ∀ turn s' v', s'.view? o = some v' →
      (∀ answer, Alone answer c → Heard cfg message answer v turn v') → post (.ok turn) s') :
    (interpretTurn cfg o session message).Meets c post s := by
  unfold interpretTurn
  rw [present]
  refine Proc.meets_bind.mpr (meets_now at_ ?_)
  refine Proc.meets_bind.mpr (meets_proposal lawful at_ fun value s₁ v₁ at₁ proposing => ?_)
  refine Proc.meets_bind.mpr (meets_liftResult (fun outcome interpreted => ?_)
    fun m uninterpreted => ?_)
  · refine Proc.meets_bind.mpr (meets_session? at₁ ?_)
    refine Proc.meets_bind.mpr (meets_record? at₁ ?_)
    dsimp only [Option.map_some, Option.getD_some]
    generalize merging : mergeInterpretation
      (deterministicInterpretation cfg.platform v.clock message v.session.intent)
      outcome.interpretation = merged
    refine Proc.meets_bind.mpr (meets_updateSession lawful at₁
      (.inr ⟨_, .say _, licensed _ _⟩) fun s₂ at₂ => ?_)
    have applied : (v₁.update fun x => { x with intent := applyInterpretation x.intent merged }).session
        = { v₁.session with intent := applyInterpretation v₁.session.intent merged } := rfl
    have stored : (v₁.update fun x => { x with intent := applyInterpretation x.intent merged }).record
        = v₁.record := rfl
    generalize v₁.update _ = v₂ at at₂ applied stored
    -- The session once the soft preferences are filled in.
    let Follows (v' : View) : Prop := ∀ answer, Alone answer c →
      v'.session = { v.session with intent :=
        (heardFrom cfg v.clock message answer v.session.intent outcome).2 } ∧ v'.record = v.record
    have misheard : ∀ {m s' v'}, s'.view? o = some v' → Follows v' →
        intentDigest v'.session.intent = .error m → post (.error (.other m)) s' := by
      intro m s' v' at' follows unknown
      refine failed _ s' v' id at' fun answer alone => ?_
      obtain ⟨session, record⟩ := follows answer alone
      obtain ⟨rfl, -, -⟩ := proposing answer alone
      refine ⟨⟨m, ?_⟩, .inr ⟨outcome, m, interpreted, congrArg (·.intent) session, unknown⟩, ?_⟩
      · rw [session] at unknown
        simp only [hear, interpreted, bind, Except.bind]
        rw [show intentDigest _ = _ from unknown]
      · rw [View.order, session, record]
        rfl
    have last : ∀ {s' v'}, s'.view? o = some v' → Follows v' →
        (do
          logIntent cfg o "interpreter.interpreted" (some .allow)
            (if outcome.rejectedReasons.isEmpty then ["schema_validated"]
              else outcome.rejectedReasons.take 5)
          return { merged, previousIntent := v₁.session.intent, previousEnvelope := v₁.record } :
            Svc Turn).Meets c post s' := by
      intro s' v' at' follows
      refine Proc.meets_bind.mpr (meets_logIntent lawful at'
        (fun m unknown => misheard at' follows unknown)
        fun digest s'' known at'' => next _ s'' _ at'' fun answer alone => ?_)
      obtain ⟨session, record⟩ := follows answer alone
      obtain ⟨rfl, before, recorded⟩ := proposing answer alone
      have heard := known
      rw [session] at heard
      refine ⟨?_, by rw [before], recorded, ?_, record⟩
      · simp only [hear, interpreted, bind, Except.bind]
        rw [show intentDigest _ = _ from heard]
        rw [show v'.drawn.session = v'.session from rfl, session, ← merging]
        rfl
      · rw [show v'.drawn.session = v'.session from rfl, session]
    refine meets_ite (fun advised => ?_) (fun plain => ?_)
    · have follows : ∀ v', (∀ answer, Alone answer c →
          v'.session = { v₂.session with intent := softened message answer v₂.session.intent } ∧
          v'.record = v₂.record) → Follows v' := by
        intro v' enriched answer alone
        obtain ⟨session, record⟩ := enriched answer alone
        obtain ⟨-, before, recorded⟩ := proposing answer alone
        refine ⟨?_, record.trans (stored.trans recorded)⟩
        simp only [session, applied, before, heardFrom, merging, if_pos advised]
      refine Proc.meets_bind.mpr (meets_enrichIntent lawful at₂ licensed
        (fun m s₃ v₃ at₃ unknown enriched => ?_) fun s₃ v₃ at₃ enriched => ?_)
      · exact misheard at₃ (follows v₃ enriched) unknown
      · exact last at₃ (follows v₃ enriched)
    · refine last at₂ fun answer alone => ?_
      obtain ⟨-, before, recorded⟩ := proposing answer alone
      refine ⟨?_, stored.trans recorded⟩
      simp only [applied, before, heardFrom, merging, if_neg plain]
  · refine failed _ s₁ v₁ id at₁ fun answer alone => ?_
    obtain ⟨rfl, session, record⟩ := proposing answer alone
    refine ⟨⟨m, ?_⟩, .inl (by rw [session]), ?_⟩
    · simp only [hear, uninterpreted, bind, Except.bind]
    · rw [View.order, session, record]
      rfl

end Hearing

end AgentReady
