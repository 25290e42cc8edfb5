import AgentReady.Interpreter.Proposals
import AgentReady.Lib.Pool
import AgentReady.Lifecycle.Runs
import AgentReady.Services.Precedence

/-!
The intent of a session and the domain of the interpreter schema.

The writers of the intent are the parser of messages, the provider's proposals and extractions, and the
patches. `InDomain` is what the schema supports; each writer keeps it, save for amounts and distances that a
message or a patch states without a bound, sizes that are not whole, and texts of fit and cushioning that a
patch does not check.

* `heard_inDomain`, `softened_inDomain`, `patched_inDomain`: what each writer makes of an intent in the domain.
* `intents_in_domain`: in every run of operations that stay within the bounds, every intent is in the domain.
-/

namespace AgentReady

open Coop Svc

/-- Each field that is set has a supported value. -/
structure ParsedIntent.InDomain (i : ParsedIntent) : Prop where
  size : ∀ v, i.size = some v → v ∈ supportedSizes
  useCase : ∀ v, i.useCase = some v → v ∈ supportedUseCases
  colour : ∀ v, i.colour = some v → v ∈ supportedColours
  fit : ∀ v, i.fit = some v → v ∈ supportedFits
  cushioning : ∀ v, i.cushioning = some v → v ∈ supportedCushioning
  budget : ∀ n, i.maxAmountMinor = some n → Whole 10000 1000000 n
  distance : ∀ n, i.distanceKm = some n → Whole 1 50 n

namespace ParsedIntent

variable {i : ParsedIntent}

theorem inDomain_empty : InDomain {} := by
  constructor <;> intro v set <;> cases set

theorem InDomain.setHard (h : i.InDomain) {v : HardConstraintValue} (value : v.InDomain) :
    (i.setHard v).InDomain := by
  cases v with
  | size v => exact { h with size := fun _ set => Option.some.inj set ▸ value }
  | useCase v => exact { h with useCase := fun _ set => Option.some.inj set ▸ value }
  | colour v => exact { h with colour := fun _ set => Option.some.inj set ▸ value }
  | maxAmountMinor n => exact { h with budget := fun _ set => Option.some.inj set ▸ value }
  | mustBeReturnable b => exact { h with }
  | deliverBy v => exact { h with }

theorem InDomain.setSoft (h : i.InDomain) {v : SoftPreferenceValue} (value : v.InDomain) :
    (i.setSoft v).InDomain := by
  cases v with
  | fit v => exact { h with fit := fun _ set => Option.some.inj set ▸ value }
  | cushioning v => exact { h with cushioning := fun _ set => Option.some.inj set ▸ value }
  | distanceKm n => exact { h with distance := fun _ set => Option.some.inj set ▸ value }

theorem InDomain.remove (h : i.InDomain) (name : String) : (i.remove name).InDomain := by
  unfold ParsedIntent.remove
  split
  · exact { h with size := fun _ set => by cases set }
  · exact { h with useCase := fun _ set => by cases set }
  · exact { h with colour := fun _ set => by cases set }
  · exact { h with budget := fun _ set => by cases set }
  · exact { h with }
  · exact { h with }
  · exact { h with fit := fun _ set => by cases set }
  · exact { h with cushioning := fun _ set => by cases set }
  · exact { h with distance := fun _ set => by cases set }
  · exact h

/-- Elements that each keep the domain keep it together. -/
theorem inDomain_foldl {α : Type} {set : ParsedIntent → α → ParsedIntent} {l : List α}
    (each : ∀ i, ∀ a ∈ l, i.InDomain → (set i a).InDomain) (h : i.InDomain) : (l.foldl set i).InDomain := by
  induction l generalizing i with
  | nil => exact h
  | cons a rest ih =>
      exact ih (fun i b mem => each i b (List.mem_cons_of_mem _ mem)) (each i a List.mem_cons_self h)

end ParsedIntent

/-- What is proposed is in the domain. -/
structure StructuredInterpretation.InDomain (m : StructuredInterpretation) : Prop where
  hard : ∀ c ∈ m.proposedHardConstraints, c.value.InDomain
  soft : ∀ p ∈ m.proposedSoftPreferences, p.value.InDomain

theorem applyInterpretation_inDomain {i : ParsedIntent} {m : StructuredInterpretation} (h : i.InDomain)
    (proposals : m.InDomain) : (applyInterpretation i m).InDomain := by
  refine ParsedIntent.inDomain_foldl (fun i name _ h => h.remove name) ?_
  refine ParsedIntent.inDomain_foldl (fun i p mem h => h.setSoft (proposals.soft p mem)) ?_
  exact ParsedIntent.inDomain_foldl (fun i c mem h => h.setHard (proposals.hard c mem)) h

theorem mergeInterpretation_inDomain {deterministic llm : StructuredInterpretation}
    (own : deterministic.InDomain) (other : llm.InDomain) : (mergeInterpretation deterministic llm).InDomain := by
  constructor
  · intro c mem
    rcases mem_mergeByName mem with mem | mem
    · exact own.hard c mem
    · exact other.hard c mem
  · intro p mem
    rcases mem_mergeByName mem with mem | mem
    · exact own.soft p mem
    · exact other.soft p mem

/-! ### Messages -/

/-- The budget that a message states. -/
def statedBudget (message : String) : Option Json.Number :=
  parseBudget (distancePattern.replaceAll " DIST ".toList (normalizeText message.toList))

/-- The distance that a message states. -/
def statedDistance (message : String) : Option Json.Number :=
  ((distancePattern.exec none (normalizeText message.toList)).bind (·.group? 1)).map fun d =>
    .ofInt (natOfDigits d)

/-- The message states no budget or distance that is out of bounds. -/
structure StatesWithin (message : String) : Prop where
  budget : ∀ n, statedBudget message = some n → Whole 10000 1000000 n
  distance : ∀ n, statedDistance message = some n → Whole 1 50 n

theorem parseSize_supported {text : List Char} {v : String} (parsed : parseSize text = some v) :
    v ∈ supportedSizes := by
  unfold parseSize at parsed
  rcases Option.or_eq_some_iff.mp parsed with named | ⟨-, numbered⟩
  · exact List.mem_of_find?_eq_some named
  · obtain ⟨m, -, sized⟩ := Option.bind_eq_some_iff.mp numbered
    dsimp only at sized
    split at sized
    · next inside =>
        obtain rfl := Option.some.inj sized
        exact digits_size inside.1 inside.2
    · cases sized

theorem parseUseCase_supported {text : List Char} {v : String} (parsed : parseUseCase text = some v) :
    v ∈ supportedUseCases :=
  List.mem_of_find?_eq_some parsed

theorem parseColour_supported {text : List Char} {v : String} (parsed : parseColour text = some v) :
    v ∈ supportedColours :=
  List.mem_of_find?_eq_some parsed

/-- The first text that occurs stands for one of the values. -/
theorem mem_of_firstOf {text : List Char} {values : List (String × String)} {v : String}
    (first : firstOf text values = some v) : v ∈ values.map Prod.snd := by
  obtain ⟨p, found, rfl⟩ := Option.map_eq_some_iff.mp first
  exact List.mem_map.mpr ⟨p, List.mem_of_find?_eq_some found, rfl⟩

section Messages

variable {P : Platform} {now : Int} {message : String} {i : ParsedIntent}

theorem parse_inDomain (within : StatesWithin message) : (parseIntentMessage P now message).InDomain where
  size _ := parseSize_supported
  useCase _ := parseUseCase_supported
  colour _ := parseColour_supported
  fit v parsed := by
    have := mem_of_firstOf parsed
    revert this
    simp [supportedFits]
  cushioning v parsed := by
    have := mem_of_firstOf parsed
    revert this
    simp [supportedCushioning]
    tauto
  budget := within.budget
  distance := within.distance

/-- A budget in the domain, or none, is lowered to one in the domain. -/
theorem cheaperBudget_inDomain (h : i.InDomain) : Whole 10000 1000000 (cheaperBudget i) := by
  have budget : Whole 10000 1000000 (i.maxAmountMinor.getD (.ofInt 500000)) := by
    cases set : i.maxAmountMinor with
    | none => exact ⟨500000, rfl, by decide, by decide⟩
    | some n => exact h.budget n set
  obtain ⟨z, is, low, high⟩ := budget
  have low : (10000 : ℚ) ≤ z := by exact_mod_cast low
  have high : (z : ℚ) ≤ 1000000 := by exact_mod_cast high
  have reduced : Whole 0 1000000 ((Json.Number.ofInt z).scale (8 / 10)).round :=
    whole_round (by push_cast; linarith) (by push_cast; linarith)
  rw [cheaperBudget, is]
  unfold reducedBudget
  obtain ⟨r, is, _, most⟩ := reduced
  dsimp only
  rw [is, lt_ofInt]
  by_cases under : r < 10000
  · simp only [under, decide_true, if_true]
    exact ⟨10000, rfl, le_rfl, by decide⟩
  · simp only [under, decide_false, Bool.false_eq_true, if_false]
    exact ⟨r, rfl, not_lt.mp under, most⟩

theorem mem_proposeHard {α : Type} {value : Option α} {make : α → HardConstraintValue} {token : α → String}
    {c : ProposedHardConstraint} (mem : c ∈ proposeHard message value make token) :
    ∃ v, value = some v ∧ c.value = make v := by
  obtain ⟨v, set, rfl⟩ := List.mem_map.mp mem
  exact ⟨v, by simpa using set, rfl⟩

theorem mem_proposeSoft {α : Type} {value : Option α} {make : α → SoftPreferenceValue} {token : α → String}
    {p : ProposedSoftPreference} (mem : p ∈ proposeSoft message value make token) :
    ∃ v, value = some v ∧ p.value = make v := by
  obtain ⟨v, set, rfl⟩ := List.mem_map.mp mem
  exact ⟨v, by simpa using set, rfl⟩

theorem parsedConstraints_inDomain (within : StatesWithin message) :
    ∀ c ∈ parsedConstraints P now message, c.value.InDomain := by
  have parsed : (parseIntentMessage P now message).InDomain := parse_inDomain within
  intro c mem
  simp only [parsedConstraints, List.mem_append] at mem
  rcases mem with (((mem | mem) | mem) | mem) | mem
  all_goals
    obtain ⟨v, set, is⟩ := mem_proposeHard mem
    rw [is]
  · exact parsed.size v set
  · exact parsed.colour v set
  · exact parsed.useCase v set
  · exact parsed.budget v set
  · trivial

theorem deterministicInterpretation_inDomain (within : StatesWithin message) (h : i.InDomain) :
    (deterministicInterpretation P now message i).InDomain := by
  have parsed : (parseIntentMessage P now message).InDomain := parse_inDomain within
  constructor
  · intro c mem
    rw [hard_deterministic] at mem
    rcases List.mem_append.mp mem with mem | mem
    · exact parsedConstraints_inDomain within c mem
    · split at mem
      · obtain rfl := List.mem_singleton.mp mem
        exact cheaperBudget_inDomain h
      · cases mem
  · intro p mem
    simp only [deterministicInterpretation, List.mem_append] at mem
    rcases mem with (mem | mem) | mem
    all_goals
      obtain ⟨v, set, is⟩ := mem_proposeSoft mem
      rw [is]
    · exact parsed.fit v set
    · exact parsed.cushioning v set
    · exact parsed.distance v set

/-- The numeric sizes among the proposals are whole. -/
def WholeSizes (proposal : Json) : Prop := ∀ item ∈ elements proposal "proposedHardConstraints", WholeSize item

/-- What comes of a proposal is in the domain, and what is said then keeps the intent in it. -/
theorem outcome_inDomain (within : StatesWithin message) (h : i.InDomain) {proposal : Option Json}
    (whole : ∀ v, proposal = some v → WholeSizes v) {outcome : InterpretationOutcome}
    (interprets : interpretUserMessage P now message i proposal = .ok outcome) :
    outcome.interpretation.InDomain := by
  have own : (deterministicInterpretation P now message i).InDomain :=
    deterministicInterpretation_inDomain within h
  cases proposal with
  | none =>
      obtain rfl := Except.ok.inj interprets
      exact own
  | some v =>
      obtain ⟨r, validated, ends⟩ := ok_of_bind interprets
      cases r with
      | error issues =>
          obtain rfl := Except.ok.inj ends
          exact own
      | ok interpretation =>
          obtain rfl := Except.ok.inj ends
          have valid := validated_of_ok validated
          exact ⟨valid.domains_iff.mpr (whole v rfl), valid.soft_inDomain⟩

end Messages

/-! ### Extractions -/

/-- What is kept of an extraction is in the domain. -/
structure SoftPreferenceExtraction.InDomain (soft : SoftPreferenceExtraction) : Prop where
  fit : ∀ v, soft.fit = some v → v ∈ supportedFits
  cushioning : ∀ v, soft.cushioning = some v → v ∈ supportedCushioning
  distance : ∀ n, soft.distanceKm = some n → Whole 1 50 n

theorem mem_of_oneOf {allowed : List String} {value : Option Json} {v : String}
    (one : oneOf allowed value = some v) : v ∈ allowed := by
  unfold oneOf at one
  split at one
  · split at one
    · next inside =>
        obtain rfl := Option.some.inj one
        simpa using inside
    · cases one
  · cases one

theorem sanitizeSoftPreferences_inDomain {raw : Json} {soft : SoftPreferenceExtraction}
    (kept : sanitizeSoftPreferences raw = some soft) : soft.InDomain := by
  cases raw with
  | obj record =>
      obtain rfl := Option.some.inj kept
      refine ⟨fun v => mem_of_oneOf, fun v => mem_of_oneOf, fun n set => ?_⟩
      dsimp only at set
      split at set
      · split at set
        · obtain rfl := Option.some.inj set
          exact whole_clamp (by decide) fun _ => round_whole
        · cases set
      · cases set
  | _ => cases kept

theorem enrich_inDomain {i : ParsedIntent} {soft : SoftPreferenceExtraction} (h : i.InDomain)
    (extracted : soft.InDomain) : (enrich i soft).InDomain where
  size := h.size
  useCase := h.useCase
  colour := h.colour
  budget := h.budget
  fit v set := by
    simp only [enrich] at set
    split at set
    · exact extracted.fit v set
    · exact h.fit v set
  cushioning v set := by
    simp only [enrich] at set
    split at set
    · exact extracted.cushioning v set
    · exact h.cushioning v set
  distance n set := by
    simp only [enrich] at set
    split at set
    · exact extracted.distance n set
    · exact h.distance n set

/-! ### Patches -/

/-- What a patch states without a check is within bounds. -/
structure PatchWithin (patch : Patch) : Prop where
  budget : ∀ n, patchNumber patch "maxAmountMinor" = some n → ∃ z : Int, n = .ofInt z ∧ 10000 ≤ z
  fit : ∀ v, patchText patch "fit" = some v → v = "" ∨ v ∈ supportedFits
  cushioning : ∀ v, patchText patch "cushioning" = some v → v = "" ∨ v ∈ supportedCushioning
  distance : ∀ n, patchNumber patch "distanceKm" = some n → n = 0 ∨ Whole 1 50 n

/-- A text that is not among the valid ones is refused. -/
theorem mem_of_domainError {value : Option String} {valid : List String} {label code v : String}
    (passes : domainError value valid label code = none) (set : value = some v) : v ∈ valid := by
  subst set
  by_contra strange
  simp [domainError, strange] at passes

theorem patchedText_inDomain {current value : Option String} {valid : List String}
    (before : ∀ v, current = some v → v ∈ valid) (given : ∀ v, value = some v → v = "" ∨ v ∈ valid) :
    ∀ v, patchedText current value = some v → v ∈ valid := by
  intro v set
  unfold patchedText at set
  split at set
  · exact before v set
  · next w =>
      split at set
      · cases set
      · next some_ =>
          obtain rfl := Option.some.inj set
          exact (given w rfl).resolve_left some_

theorem applyPatch_inDomain {i : ParsedIntent} {patch : Patch} (h : i.InDomain) (within : PatchWithin patch)
    (passes : rangeError patch = none) : (applyPatch i patch).InDomain := by
  simp only [rangeError, Option.or_eq_none_iff] at passes
  obtain ⟨⟨⟨budget, size⟩, colour⟩, useCase⟩ := passes
  constructor
  · refine patchedText_inDomain h.size fun v set => ?_
    by_cases empty : v = ""
    · exact .inl empty
    · exact .inr (mem_of_domainError size (by simp [set, empty]))
  · exact patchedText_inDomain h.useCase fun v set => .inr (mem_of_domainError useCase set)
  · exact patchedText_inDomain h.colour fun v set => .inr (mem_of_domainError colour set)
  · exact patchedText_inDomain h.fit within.fit
  · exact patchedText_inDomain h.cushioning within.cushioning
  · intro n set
    rcases Option.or_eq_some_iff.mp set with given | ⟨-, before⟩
    · obtain ⟨z, rfl, low⟩ := within.budget n given
      simp only [given, lt_ofInt] at budget
      have high : ¬ (1000000 < z) := by
        intro above
        simp [above] at budget
      exact ⟨z, rfl, low, not_lt.mp high⟩
    · exact h.budget n before
  · intro n set
    simp only [applyPatch] at set
    split at set
    · exact h.distance n set
    · next m given =>
        split at set
        · cases set
        · next some_ =>
            obtain rfl := Option.some.inj set
            exact (within.distance m given).resolve_left some_

/-! ### Operations -/

/-- Others keep the intent in the domain. -/
def KeepsDomain (x y : Order) : Prop := x.intent.InDomain → y.intent.InDomain

/-- An act sets the intent to one in the domain only. -/
def SaysDomain (_ : String) (_ : Order) (act : Act) : Prop := ∀ intent, act = .say intent → intent.InDomain

/-- The answer proposes no size that is not whole. -/
def AnswersWithin : (q : Query) → q.Answer → Prop
  | .interpret _, a => ∀ v, a.result = some v → WholeSizes v
  | _, _ => True

/-- Orders stay known and their intents in the domain, whoever acts. -/
def inDomain (P : Platform) : Contract Services Query.Answer where
  rely s s' := ∀ o v, s.view? o = some v → ∃ v', s'.view? o = some v' ∧ KeepsDomain v.order v'.order
  guar := Advances P KeepsDomain SaysDomain
  calls _ _ := True
  answers q a _ := AnswersWithin q a

section Operations

variable {cfg : Config} {s : Services} {o message : String} {v : View}

theorem lawful_inDomain (P : Platform) (o : String) : Lawful P KeepsDomain SaysDomain o (inDomain P) where
  refl _ := id
  guar := id
  calls _ := trivial
  resumes rely at_ := rely _ _ at_

theorem not_alone_inDomain {P : Platform} {answer : (q : Query) → q.Answer} : ¬ Alone answer (inDomain P) := by
  intro alone
  have kept : (inDomain P).rely { clock := 0 } { clock := 1 } := by
    intro o v at_
    cases at_
  have still : ({ clock := 1 } : Services) = { clock := 0 } := alone.still kept
  exact absurd (congrArg Services.clock still) (by decide)

theorem Step.inDomain {P : Platform} {x y : Order} {act : Act} (step : Step P KeepsDomain x act y)
    (licensed : SaysDomain o x act) : KeepsDomain x y := by
  intro before
  cases step with
  | say intent => exact licensed intent rfl
  | restart => exact ParsedIntent.inDomain_empty
  | _ => exact before

theorem logIntent_inDomain {type : String} {decision : Option PolicyDecision} {codes : List String}
    {post : Except ServiceError Unit → Services → Prop} (at_ : s.view? o = some v)
    (ends : ∀ r s' v', s'.view? o = some v' → post r s') :
    (logIntent cfg o type decision codes).Meets (inDomain cfg.platform) post s :=
  meets_logIntent (lawful_inDomain cfg.platform o) at_ (fun _ _ => ends _ s v at_)
    fun _ s' _ at' => ends _ s' _ at'

/-- Soft preferences are filled in from the domain. -/
theorem enrichIntent_inDomain {post : Except ServiceError Unit → Services → Prop} (at_ : s.view? o = some v)
    (inside : v.session.intent.InDomain) (ends : ∀ r s' v', s'.view? o = some v' → post r s') :
    (enrichIntent cfg o message).Meets (inDomain cfg.platform) post s := by
  have lawful := lawful_inDomain cfg.platform o
  refine Proc.meets_bind.mpr (meets_ask lawful at_ trivial fun a s₁ s₂ v₁ _ _ keeps _ _ at₂ => ?_)
  have inside₁ : v₁.session.intent.InDomain := keeps inside
  dsimp only
  cases extracted : a.result.bind sanitizeSoftPreferences with
  | none => exact ends _ s₂ _ at₂
  | some soft =>
      obtain ⟨raw, -, sanitized⟩ := Option.bind_eq_some_iff.mp extracted
      refine Proc.meets_bind.mpr (meets_session? at₂ ?_)
      refine meets_ite (fun _ => ?_) (fun _ => ends _ s₂ _ at₂)
      refine Proc.meets_bind.mpr (meets_updateSession lawful at₂ (.inr ⟨_, .say _, ?_⟩) fun s₃ at₃ => ?_)
      · intro intent is
        rw [← Act.say.inj is]
        exact enrich_inDomain inside₁ (sanitizeSoftPreferences_inDomain sanitized)
      · exact logIntent_inDomain at₃ ends

/-- The provider is asked while others may act. -/
theorem proposal_inDomain {post : Except ServiceError (Option Json) → Services → Prop} (at_ : s.view? o = some v)
    (inside : v.session.intent.InDomain)
    (next : ∀ value s' v', (∀ j, value = some j → WholeSizes j) → s'.view? o = some v' →
      v'.session.intent.InDomain → post (.ok value) s') :
    (proposal cfg message).Meets (inDomain cfg.platform) post s := by
  have lawful := lawful_inDomain cfg.platform o
  refine meets_ite (fun _ => ?_) (fun _ => ?_)
  · refine meets_ask lawful at_ trivial fun a s₁ s₂ v₁ _ given keeps _ _ at₂ => ?_
    exact next _ s₂ _ given at₂ (keeps inside)
  · refine Proc.meets_bind.mpr (meets_ask lawful at_ trivial fun a s₁ s₂ v₁ _ _ keeps _ _ at₂ => ?_)
    exact next none s₂ _ (fun j none_ => by cases none_) at₂ (keeps inside)

theorem interpretTurn_inDomain {session : Session} {post : Except ServiceError Turn → Services → Prop}
    (within : StatesWithin message) (at_ : s.view? o = some v) (present : session.intent = v.session.intent)
    (inside : v.session.intent.InDomain) (ends : ∀ r s' v', s'.view? o = some v' → post r s') :
    (interpretTurn cfg o session message).Meets (inDomain cfg.platform) post s := by
  have lawful := lawful_inDomain cfg.platform o
  unfold interpretTurn
  rw [present]
  refine Proc.meets_bind.mpr (meets_now at_ ?_)
  refine Proc.meets_bind.mpr (proposal_inDomain at_ inside fun value s₁ v₁ whole at₁ inside₁ => ?_)
  refine Proc.meets_bind.mpr (meets_liftResult (fun outcome interpreted => ?_) fun m _ => ends _ s₁ v₁ at₁)
  refine Proc.meets_bind.mpr (meets_session? at₁ ?_)
  refine Proc.meets_bind.mpr (meets_record? at₁ ?_)
  dsimp only [Option.map_some, Option.getD_some]
  generalize merging : mergeInterpretation
    (deterministicInterpretation cfg.platform v.clock message v.session.intent) outcome.interpretation = merged
  have proposals : merged.InDomain := by
    rw [← merging]
    exact mergeInterpretation_inDomain (deterministicInterpretation_inDomain within inside)
      (outcome_inDomain within inside whole interpreted)
  have applied : (applyInterpretation v₁.session.intent merged).InDomain :=
    applyInterpretation_inDomain inside₁ proposals
  refine Proc.meets_bind.mpr (meets_updateSession lawful at₁ (.inr ⟨_, .say _, ?_⟩) fun s₂ at₂ => ?_)
  · intro intent is
    rw [← Act.say.inj is]
    exact applied
  have logs : ∀ {s' v'}, s'.view? o = some v' → (do
      logIntent cfg o "interpreter.interpreted" (some .allow)
        (if outcome.rejectedReasons.isEmpty then ["schema_validated"] else outcome.rejectedReasons.take 5)
      return { merged, previousIntent := v₁.session.intent, previousEnvelope := v₁.record } :
        Svc Turn).Meets (inDomain cfg.platform) post s' := by
    intro s' v' at'
    refine Proc.meets_bind.mpr (logIntent_inDomain at' fun r s'' v'' at'' => ?_)
    cases r with
    | ok _ => exact ends _ s'' v'' at''
    | error e => exact ends _ s'' v'' at''
  refine meets_ite (fun _ => ?_) (fun _ => logs at₂)
  refine Proc.meets_bind.mpr (enrichIntent_inDomain at₂ applied fun r s₃ v₃ at₃ => ?_)
  cases r with
  | ok _ => exact logs at₃
  | error e => exact ends _ s₃ v₃ at₃

theorem respond_inDomain {supplied : Option RecommendationBinding} {operationId : Option String}
    (within : StatesWithin message) (inside : ∀ v, s.view? o = some v → v.session.intent.InDomain) :
    (respond cfg o message supplied operationId).Meets (inDomain cfg.platform) (fun _ _ => True) s := by
  have lawful := lawful_inDomain cfg.platform o
  refine meets_idempotent lawful rfl (fun _ _ _ _ => trivial) (fun _ _ _ _ => trivial) fun s₁ _ at₁ => ?_
  refine Proc.meets_bind.mpr (meets_session? at₁ ?_)
  cases known : s.view? o with
  | none => exact Proc.meets_bind.mpr (meets_complete lawful at₁ fun _ _ => trivial)
  | some v =>
  rw [known] at at₁
  refine Proc.meets_bind.mpr (meets_updateSession lawful at₁ (.inl rfl) fun s₂ at₂ => ?_)
  refine Proc.meets_bind.mpr (interpretTurn_inDomain within at₂ rfl (inside v known) fun r s₃ v₃ at₃ => ?_)
  cases r with
  | error e => trivial
  | ok turn =>
      refine (route_meets (v := v₃) lawful ?_ at₃ fun answer alone => absurd alone not_alone_inDomain).mono
        fun _ _ _ => trivial
      intro x act _ silent intent is
      subst is
      exact absurd trivial silent

theorem intentPatch_inDomain {patch : Patch} {expected : Int} (within : PatchWithin patch)
    (inside : ∀ v, s.view? o = some v → v.session.intent.InDomain) :
    (intentPatch cfg o patch expected).Meets (inDomain cfg.platform) (fun _ _ => True) s := by
  refine (intentPatch_meets (lawful_inDomain cfg.platform o) rfl ?_).mono fun _ _ _ => trivial
  intro v known accepts x act acts intent is
  subst is
  cases acts with
  | say => exact applyPatch_inDomain (inside v known) within (Option.or_eq_none_iff.mp accepts.2).2

end Operations

/-! ### Runs -/

/-- The command is a message or a patch. -/
def Command.Talks : Command → Prop
  | .respond .. | .intentPatch .. => True
  | _ => False

/-- The command is a message or a patch that stays within the bounds. -/
def Command.Within : Command → Prop
  | .respond _ message _ _ => StatesWithin message
  | .intentPatch _ patch _ => PatchWithin patch
  | _ => False

/-- The intent of every session is in the domain. -/
def IntentsInDomain (s : Services) : Prop := ∀ o x, s.order? o = some x → x.intent.InDomain

/-- Time passes, and sessions are opened. -/
structure Opens (s s' : Services) : Prop where
  known : ∀ o x, s.order? o = some x → s'.order? o = some x
  fresh : ∀ o x, s'.order? o = some x → s.order? o = some x ∨ x.intent = {}

section Runs

variable {ι : Type} {cfg : Config}

theorem view_of_order {s : Services} {o : String} {x : Order} (at_ : s.order? o = some x) :
    ∃ v, s.view? o = some v ∧ v.order = x := by
  rw [Services.order?_eq] at at_
  exact Option.map_eq_some_iff.mp at_

theorem op_inDomain {command : Command} (within : command.Within) {s : Services} (sane : IntentsInDomain s) :
    (command.op cfg).Meets (inDomain cfg.platform) (fun _ _ => True) s := by
  have inside : ∀ o v, s.view? o = some v → v.session.intent.InDomain :=
    fun o v at_ => sane o v.order (order?_of_view at_)
  cases command with
  | respond o message supplied operationId => exact respond_inDomain within (inside o)
  | intentPatch o patch expected => exact intentPatch_inDomain within (inside o)
  | _ => cases within

theorem shared_inDomain {ops : ι → Command} (within : ∀ i, (ops i).Within) :
    Shared (fun i => (ops i).op cfg) Opens (fun q a _ => AnswersWithin q a) IntentsInDomain
      (fun _ => inDomain cfg.platform) (fun _ _ => True) (fun _ _ _ => True) where
  still _ s _ o v at_ := ⟨v, at_, id⟩
  chain _ s s' s'' first second o v at_ := by
    obtain ⟨v', at', keeps⟩ := first o v at_
    obtain ⟨v'', at'', keeps'⟩ := second o v' at'
    exact ⟨v'', at'', fun inside => keeps' (keeps inside)⟩
  others j s s' sane advances := by
    have each : ∀ o x', s'.order? o = some x' → ∃ x, s.order? o = some x ∧ KeepsDomain x x' := by
      intro o x' at'
      rcases advances.orders o with same | ⟨x, act, y, before, after, step, licensed⟩
      · exact ⟨x', same ▸ at', id⟩
      · obtain rfl := Option.some.inj (after.symm.trans at')
        exact ⟨x, before, step.inDomain licensed⟩
    refine ⟨fun o x' at' => ?_, fun i _ o v at_ => ?_⟩
    · obtain ⟨x, at_, keeps⟩ := each o x' at'
      exact keeps (sane o x at_)
    · have known : (s'.order? o).isSome := by
        rcases advances.orders o with same | ⟨x, act, y, before, after, -⟩
        · rw [same, order?_of_view at_]
          rfl
        · rw [after]
          rfl
      obtain ⟨x', at'⟩ := Option.isSome_iff_exists.mp known
      obtain ⟨x, before, keeps⟩ := each o x' at'
      obtain ⟨v', at_', rfl⟩ := view_of_order at'
      obtain rfl := Option.some.inj (before.symm.trans (order?_of_view at_))
      exact ⟨v', at_', keeps⟩
  outside s s' sane opens := by
    refine ⟨fun o x at_ => ?_, fun i o v at_ => ?_⟩
    · rcases opens.fresh o x at_ with before | empty
      · exact sane o x before
      · rw [empty]
        exact ParsedIntent.inDomain_empty
    · obtain ⟨v', at', same⟩ := view_of_order (opens.known o _ (order?_of_view at_))
      exact ⟨v', at', fun inside => same ▸ inside⟩
  admitted _ _ _ _ _ := id
  waits _ _ _ _ _ := trivial
  meets i s sane _ := op_inDomain (within i) sane

variable [DecidableEq ι]

/-- In every run of messages and patches that stay within the bounds, every intent is in the domain. -/
theorem intents_in_domain {ops : ι → Command} (within : ∀ i, (ops i).Within) {s : Services}
    {pool : Pool ι Services ServiceError Query.Answer Reply} (start : IntentsInDomain s)
    (reaches : Pool.Reaches (fun i => (ops i).op cfg) Opens (fun q a _ => AnswersWithin q a) (.init s) pool) :
    IntentsInDomain pool.state :=
  ((shared_inDomain within).reaches start (fun _ => trivial) reaches).1

theorem opened_inDomain : IntentsInDomain openedServices := by
  intro o x at_
  have created := (@Call.creates (Command.createSession none).plain plainConfig { clock := 0 } trivial).2
  rcases created o x at_ with before | ⟨rfl, -⟩
  · cases before
  · obtain rfl := Option.some.inj (at_.symm.trans opened_plain.order)
    exact ParsedIntent.inDomain_empty

/-- One patch of a new session. -/
def patching (patch : Patch) (_ : Unit) : Command := .intentPatch "ord_0" patch 0

/-- The services after it. -/
def patchedServices (patch : Patch) : Services :=
  ((Pool.init openedServices : Pool Unit _ _ _ _).advance () ((patching patch ()).op plainConfig)).state

theorem intents_in_domain_sized : IntentsInDomain (patchedServices [("size", .str "UK 9")]) := by
  have within : ∀ i, (patching [("size", .str "UK 9")] i).Within := by
    intro i
    constructor <;> intro v set <;> simp [patchNumber, patchText, Json.field?] at set
  exact intents_in_domain within opened_inDomain (.single (.start (i := ()) rfl))

/-- A patch sets the fit to a text that no shoe has. -/
theorem intents_in_domain_false : ¬ ∀ (cfg : Config) (ops : Unit → Command) (s : Services)
    (pool : Pool Unit Services ServiceError Query.Answer Reply), (∀ i, (ops i).Talks) → IntentsInDomain s →
      Pool.Reaches (fun i => (ops i).op cfg) Opens (fun _ _ _ => True) (.init s) pool →
        IntentsInDomain pool.state := by
  intro all
  have reached : IntentsInDomain (patchedServices [("fit", .str "banana")]) :=
    all plainConfig (patching [("fit", .str "banana")]) openedServices _ (fun _ => trivial) opened_inDomain
      (.single (.start (i := ()) rfl))
  have fit : ((patchedServices [("fit", .str "banana")]).order? "ord_0").map (·.intent.fit) =
      some (some "banana") := by decide +kernel
  obtain ⟨x, at_, is⟩ := Option.map_eq_some_iff.mp fit
  have := (reached "ord_0" x at_).fit "banana" is
  revert this
  decide

end Runs

end AgentReady
