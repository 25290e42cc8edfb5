import AgentReady.Lifecycle.Quiet

/-!
What the withdrawal of a quote and `intentPatch` do to an order.
-/

namespace AgentReady

open Coop Svc

section Patching

variable {seen : Order → Order → Prop} {lic : String → Order → Act → Prop}
  {o : String} {c : Contract Services Query.Answer} {s : Services} {v : View} {cfg : Config}

/-! ### Withdrawing a quote -/

/-- The order after a change of its intent, without quote and approval. -/
def Order.withdrawn (x : Order) (record : Option EnvelopeRecord) : Order :=
  { x with record, marks := x.marks.withdrawn, approvalEventId := none, approvedDigest := none }

/-- The record that is left when a quote is withdrawn. -/
def remaining (record previous : Option EnvelopeRecord) : Option EnvelopeRecord :=
  if previous.isSome then none else record

theorem meets_withdrawQuote (lawful : Lawful cfg.platform seen lic o c)
    {previous : Option EnvelopeRecord} {codes : List String}
    {post : Except ServiceError Unit → Services → Prop} (at_ : s.view? o = some v)
    (licensed : ∀ record, lic o v.order (.withdraw record))
    (undigested : ∀ m s' v', previous.isSome → intentDigest v.session.intent = .error m →
      s'.view? o = some v' → v'.order = v.order.withdrawn (remaining v.record previous) →
      post (.error (.other m)) s')
    (next : ∀ s' v', (previous.isSome → ∃ digest, intentDigest v.session.intent = .ok digest) →
      s'.view? o = some v' → v'.session = v.session.withdrawn →
      v'.record = remaining v.record previous → post (.ok ()) s') :
    (withdrawQuote cfg o previous codes).Meets c post s := by
  cases previous with
  | none =>
      refine meets_updateSession lawful at_ (.inr ⟨_, .withdraw (.inr rfl), licensed _⟩)
        fun s₁ at₁ => next s₁ _ (fun h => by cases h) at₁ rfl rfl
  | some r =>
      refine Proc.meets_bind.mpr (meets_replaceOrder lawful at_
        (.inr ⟨_, .withdraw (.inl rfl), licensed _⟩) fun s₁ at₁ => ?_)
      refine Proc.meets_bind.mpr (meets_session? at₁ ?_)
      refine Proc.meets_bind.mpr (meets_liftResult (fun digest known => ?_) fun m unknown => ?_)
      · exact meets_log lawful at₁ fun s₂ at₂ => next s₂ _ (fun _ => ⟨digest, known⟩) at₂ rfl rfl
      · exact undigested m s₁ _ rfl unknown at₁ rfl

/-! ### Patching the intent -/

/-- The intent after a patch. -/
def View.patched (v : View) (patch : Patch) : ParsedIntent := applyPatch v.session.intent patch

/-- The patch is for the present version of the intent and valid. -/
def View.AcceptsPatch (v : View) (patch : Patch) (expected : Int) : Prop :=
  v.session.dialogue.intentVersion = expected ∧ (fieldError patch).or (rangeError patch) = none

instance (v : View) (patch : Patch) (expected : Int) : Decidable (v.AcceptsPatch patch expected) :=
  inferInstanceAs (Decidable (_ ∧ _))

inductive PatchActs (patch : Patch) (v : View) : Order → Act → Prop where
  | say : PatchActs patch v v.order (.say (v.patched patch))
  | withdraw {record : Option EnvelopeRecord} (changed : v.patched patch ≠ v.session.intent) :
      PatchActs patch v { v.order with intent := v.patched patch } (.withdraw record)
  | recommend {x : Order} (token : String) : PatchActs patch v x (.recommend token)
  | move {x : Order} {next : OrderState} (shopping : v.state ∈ shoppingStates)
      (asked : next = .quoted ∨ next = .reapprovalRequired) : PatchActs patch v x (.move next)
  | clarify {x : Order} (shopping : v.state ∈ shoppingStates) : PatchActs patch v x .clarify

/-- The intent, the record and the approval of an order are kept. -/
structure Keeps (x y : Order) : Prop where
  order : y = { x with state := y.state, marks := y.marks }
  quoteValid : y.marks.quoteValid = x.marks.quoteValid
  intentVersion : y.marks.intentVersion = x.marks.intentVersion
  recommendationVersion : x.marks.recommendationVersion ≤ y.marks.recommendationVersion

theorem Keeps.refl (x : Order) : Keeps x x := ⟨rfl, rfl, rfl, le_rfl⟩

theorem Keeps.moved (x : Order) (next : OrderState) : Keeps x { x with state := next } := ⟨rfl, rfl, rfl, le_rfl⟩

theorem Keeps.trans {x y z : Order} (h : Keeps x y) (h' : Keeps y z) : Keeps x z := by
  refine ⟨?_, h'.quoteValid.trans h.quoteValid, h'.intentVersion.trans h.intentVersion,
    h.recommendationVersion.trans h'.recommendationVersion⟩
  rw [h'.order, h.order]

theorem Keeps.intent {x y : Order} (h : Keeps x y) : y.intent = x.intent := by rw [h.order]

/-- No version has gone back, and another intent has a later version. -/
structure Later (x y : Order) : Prop where
  intentVersion : x.marks.intentVersion ≤ y.marks.intentVersion
  recommendationVersion : x.marks.recommendationVersion ≤ y.marks.recommendationVersion
  changed : y.intent ≠ x.intent → x.marks.intentVersion < y.marks.intentVersion

theorem Later.refl (x : Order) : Later x x := ⟨le_rfl, le_rfl, fun changed => absurd rfl changed⟩

theorem Later.trans {x y z : Order} (h : Later x y) (h' : Later y z) : Later x z := by
  refine ⟨h.intentVersion.trans h'.intentVersion, h.recommendationVersion.trans h'.recommendationVersion,
    fun changed => ?_⟩
  by_cases first : y.intent = x.intent
  · exact h.intentVersion.trans_lt (h'.changed (first ▸ changed))
  · exact (h.changed first).trans_le h'.intentVersion

theorem Keeps.later {x y : Order} (h : Keeps x y) : Later x y :=
  ⟨h.intentVersion.ge, h.recommendationVersion, fun changed => absurd h.intent changed⟩

/-- A change of the intent that withdraws the quote has a new version. -/
theorem later_withdrawn (x : Order) (intent : ParsedIntent) (record : Option EnvelopeRecord) :
    Later x ({ x with intent }.withdrawn record) :=
  ⟨Int.le_add_one le_rfl, le_rfl, fun _ => Int.lt_succ _⟩

/-- How `intentPatch` ends: the patch is rejected; it changes nothing; or it changes the intent,
and the quote is withdrawn before the order is moved. -/
inductive PatchEnds (patch : Patch) (expected : Int) (v : View)
    (result : Except ServiceError Reply) (v' : View) : Prop where
  | rejected (invalid : ¬ v.AcceptsPatch patch expected) (order : v'.order = v.order)
      (legal : ¬ Illegal result)
  | kept (valid : v.AcceptsPatch patch expected) (same : v.patched patch = v.session.intent)
      (keeps : Keeps v.order v'.order)
      (state : v'.state = v.state ∨ v'.state = .clarifying ∨ v'.state = .quoted)
      (refused : Illegal result → v'.order = v.order)
  | undigested (valid : v.AcceptsPatch patch expected)
      (changed : v.patched patch ≠ v.session.intent) (quoted : v.record.isSome)
      {m : String} (unknown : intentDigest (v.patched patch) = .error m)
      (order : v'.order = { v.order with intent := v.patched patch }.withdrawn none)
      (legal : ¬ Illegal result)
  | refused (valid : v.AcceptsPatch patch expected)
      (changed : v.patched patch ≠ v.session.intent)
      (digested : v.record.isSome → ∃ digest, intentDigest (v.patched patch) = .ok digest)
      (paying : v.state ∉ shoppingStates) (illegal : Illegal result)
      (order : v'.order = { v.order with intent := v.patched patch }.withdrawn none)
  | changed (valid : v.AcceptsPatch patch expected)
      (changed : v.patched patch ≠ v.session.intent)
      (shopping : v.state ∈ shoppingStates)
      (approval : v'.order.approvalEventId = none)
      (state : v'.state ∈ [.draft, .clarifying, .quoted, .reapprovalRequired])
      (legal : ¬ Illegal result) (later : Later v.order v'.order)

theorem meets_patchTransition (lawful : Lawful cfg.platform seen lic o c) {material : Bool}
    {post : Except ServiceError Unit → Services → Prop} (at_ : s.view? o = some v)
    (licensed : v.state ∈ shoppingStates → ∀ next, next = .quoted ∨ next = .reapprovalRequired →
      lic o v.order (.move next))
    (refused : v.state ∉ shoppingStates → post (.error (.illegalTransition v.state .quoted)) s)
    (kept : ∀ s', v.state ∈ shoppingStates → material = false → s'.view? o = some v →
      post (.ok ()) s')
    (moved : ∀ next s', v.state ∈ shoppingStates → material = true →
      next ∈ [.draft, .clarifying, .quoted, .reapprovalRequired] →
      s'.view? o = some (v.moved next) → post (.ok ()) s') :
    (patchTransition o v.session.state material).Meets c post s := by
  refine meets_ite (fun awaiting => ?_) (fun notAwaiting => ?_)
  · simp only [Bool.and_eq_true, decide_eq_true_eq] at awaiting
    have shopping : v.state ∈ shoppingStates := by rw [View.state, awaiting.1]; decide
    refine meets_setState lawful at_ (fun _ _ => ⟨trivial, licensed shopping _ (.inl rfl)⟩) ?_ ?_
    · intro _ refusal
      exact absurd (by rw [View.state, awaiting.1]; decide) refusal
    · exact fun _ s₁ at₁ => moved _ s₁ shopping awaiting.2 (by decide) at₁
  refine meets_ite (fun approved => ?_) (fun notApproved => ?_)
  · simp only [Bool.and_eq_true, decide_eq_true_eq] at approved
    have shopping : v.state ∈ shoppingStates := by rw [View.state, approved.1]; decide
    refine meets_setState lawful at_ (fun _ _ => ⟨trivial, licensed shopping _ (.inr rfl)⟩) ?_ ?_
    · intro _ refusal
      exact absurd (by rw [View.state, approved.1]; decide) refusal
    · exact fun _ s₁ at₁ => moved _ s₁ shopping approved.2 (by decide) at₁
  -- Where the state stays, the order is as it was.
  have stays : ∀ {s₁}, v.state ∈ shoppingStates →
      (material = true → v.state ∈ [.draft, .clarifying, .quoted, .reapprovalRequired]) →
      s₁.view? o = some v → post (.ok ()) s₁ := by
    intro s₁ shopping settled at₁
    cases material with
    | false => exact kept s₁ shopping rfl at₁
    | true =>
        exact moved v.state s₁ shopping rfl (settled rfl)
          (at₁.trans (congrArg some (View.moved_self rfl).symm))
  simp only [Bool.and_eq_true, decide_eq_true_eq, not_and] at notAwaiting notApproved
  refine meets_ite (fun other => ?_) (fun shopping => ?_)
  · by_cases quoted : v.state = .quoted
    · refine meets_setState lawful at_ (fun differ _ => absurd quoted differ)
        (fun differ _ => absurd quoted differ) fun _ s₁ at₁ => ?_
      rw [View.moved_self quoted] at at₁
      exact stays (by rw [quoted]; decide) (fun _ => by rw [quoted]; decide) at₁
    · have paying : v.state ∉ shoppingStates := by
        simp only [shoppingStates, List.mem_cons, List.not_mem_nil, or_false]
        simp only [View.state] at quoted ⊢
        tauto
      have refusal : OrderState.quoted ∉ v.state.allowedTransitions := by
        revert paying
        generalize v.state = state
        cases state <;> decide
      exact meets_setState lawful at_ (fun _ allowed => absurd allowed refusal)
        (fun _ _ => refused paying) fun leads => leads.elim (absurd · quoted) (absurd · refusal)
  · have cases_ : v.state = .awaitingApproval ∨ v.state = .reapprovalRequired ∨
        v.state = .draft ∨ v.state = .clarifying ∨ v.state = .approved := by
      simp only [View.state]
      tauto
    refine stays ?_ (fun material => ?_) at_
    · rcases cases_ with h | h | h | h | h <;> rw [h] <;> decide
    · rcases cases_ with h | h | h | h | h
      · exact absurd material (notAwaiting h)
      · rw [h]; decide
      · rw [h]; decide
      · rw [h]; decide
      · exact absurd material (notApproved h)

theorem meets_patchOutcome (lawful : Lawful cfg.platform seen lic o c) {ranked : Bool}
    {post : Except ServiceError Unit → Services → Prop} (at_ : s.view? o = some v)
    (shopping : v.state ∈ shoppingStates)
    (licensed : lic o v.order .clarify ∧ lic o v.order (.move .quoted))
    (next : ∀ state s', state = v.state ∨ state = .clarifying ∨ state = .quoted →
      s'.view? o = some (v.moved state) → post (.ok ()) s') :
    (patchOutcome o ranked).Meets c post s := by
  refine meets_ite (fun _ => ?_) (fun _ => ?_)
  · exact meets_updateSession lawful at_ (.inr ⟨_, .clarify shopping, licensed.1⟩)
      fun s₁ at₁ => next _ s₁ (.inr (.inl rfl)) at₁
  refine Proc.meets_bind.mpr (meets_stateOf at_ ?_)
  refine meets_ite (fun clarifying => ?_) (fun _ => ?_)
  · refine meets_setState lawful at_ (fun _ _ => ⟨trivial, licensed.2⟩) ?_ ?_
    · intro _ refusal
      exact absurd (by rw [clarifying]; decide) refusal
    · exact fun _ s₁ at₁ => next _ s₁ (.inr (.inr rfl)) at₁
  · exact next v.state s (.inl rfl) (at_.trans (congrArg some (View.moved_self rfl).symm))

/-- Ranking for the patched intent keeps the intent, the record and the approval. -/
theorem rankPatched_meets (lawful : Lawful cfg.platform seen lic o c) {session : Session}
    {patch : Patch} {intent : ParsedIntent} {post : Except ServiceError Reply → Services → Prop}
    (at_ : s.view? o = some v) (shopping : v.state ∈ shoppingStates)
    (recommend : ∀ x token, lic o x (.recommend token))
    (licensed : ∀ x, lic o x .clarify ∧ lic o x (.move .quoted))
    (next : ∀ r s' v', ¬ Illegal r → s'.view? o = some v' → Keeps v.order v'.order →
      v'.state = v.state ∨ v'.state = .clarifying ∨ v'.state = .quoted → post r s') :
    (rankPatched cfg o session patch intent).Meets c post s := by
  refine Proc.meets_bind.mpr (meets_now at_ ?_)
  refine Proc.meets_bind.mpr (meets_recordRecommendation lawful at_ (recommend _)
    fun s₁ at₁ => ?_)
  refine Proc.meets_bind.mpr (meets_syncMemory lawful at₁ fun s₂ at₂ => ?_)
  refine Proc.meets_bind.mpr (meets_patchOutcome lawful at₂ shopping (licensed _)
    fun state s₃ moved at₃ => ?_)
  have ends : ∀ {r s₄ v₄}, ¬ Illegal r → s₄.view? o = some v₄ → v₄.order = ((v.recommended cfg
      (rankProducts (buildPurchaseIntent intent) shoeCatalog v.clock)).moved state).order →
      post r s₄ := by
    intro r s₄ v₄ legal at₄ order
    refine next r s₄ v₄ legal at₄ ⟨?_, ?_, ?_, ?_⟩ ?_
    · rw [order]
      rfl
    · rw [order]
      rfl
    · rw [order]
      rfl
    · rw [order]
      exact Int.le_add_one le_rfl
    · change v₄.order.state = _ ∨ v₄.order.state = _ ∨ v₄.order.state = _
      rw [order]
      exact moved
  refine Proc.meets_bind.mpr (meets_liftResult (fun digest _ => ?_) fun _ _ => ends id at₃ rfl)
  refine Proc.meets_bind.mpr (meets_log lawful at₃ fun s₄ at₄ => ?_)
  refine Proc.meets_bind.mpr (meets_recommendationBinding at₄ (fun _ => ?_)
    fun _ _ => ends id at₄ rfl)
  exact Proc.meets_bind.mpr (meets_session? at₄ (ends id at₄ rfl))

theorem intentPatch_meets {patch : Patch} {expected : Int} {w : Option View}
    (lawful : Lawful cfg.platform seen lic o c) (at_ : s.view? o = w)
    (licensed : ∀ v, w = some v → v.AcceptsPatch patch expected →
      ∀ x act, PatchActs patch v x act → lic o x act) :
    (intentPatch cfg o patch expected).Meets c (Ends o w (PatchEnds patch expected)) s := by
  refine Proc.meets_bind.mpr (meets_session? at_ ?_)
  cases w with
  | none => exact .unknown
  | some v =>
  dsimp only [Option.map_some]
  refine meets_ite (fun other => ?_) (fun same => ?_)
  · exact .known at_ (.rejected (fun valid => other valid.1) rfl id)
  cases invalid : (fieldError patch).or (rangeError patch) with
  | some e =>
      refine .known at_ (.rejected (fun valid => ?_) rfl id)
      cases invalid.symm.trans valid.2
  | none =>
  have valid : v.AcceptsPatch patch expected := ⟨not_not.mp same, invalid⟩
  have licensed := licensed v rfl valid
  refine Proc.meets_bind.mpr (meets_record? at_ ?_)
  refine Proc.meets_bind.mpr (meets_updateSession lawful at_
    (.inr ⟨_, .say _, licensed _ _ .say⟩) fun s₁ at₁ => ?_)
  have recommend : ∀ x token, lic o x (.recommend token) := fun _ _ => licensed _ _ (.recommend _)
  have move : v.state ∈ shoppingStates → ∀ x, lic o x .clarify ∧ lic o x (.move .quoted) :=
    fun shopping _ => ⟨licensed _ _ (.clarify shopping), licensed _ _ (.move shopping (.inl rfl))⟩
  refine meets_ite (fun material => ?_) (fun immaterial => ?_)
  · have changed : v.patched patch ≠ v.session.intent := (hasIntentChanged_iff.mp material).symm
    have emptied : remaining v.record v.record = none := by cases h : v.record <;> simp [remaining]
    refine Proc.meets_bind.mpr (meets_withdrawQuote lawful at₁
      (fun _ => licensed _ _ (.withdraw changed)) ?_ ?_)
    · intro m s₂ v₂ quoted unknown at₂ order
      exact .known at₂ (.undigested valid changed quoted unknown (order.trans (by
        rw [show remaining (v.update _).record v.record = none from emptied]; rfl)) id)
    · intro s₂ v₂ digested at₂ session record
      have order : v₂.order = { v.order with intent := v.patched patch }.withdrawn none := by
        rw [View.order, session, record, show remaining (v.update _).record v.record = none from
          emptied]
        rfl
      have state : v.session.state = v₂.session.state := by rw [session]; rfl
      have present : v₂.state = v.state := state.symm
      dsimp only
      rw [state]
      refine Proc.meets_bind.mpr (meets_patchTransition lawful at₂
        (fun shopping _ asked => licensed _ _ (.move (present ▸ shopping) asked)) (fun paying => ?_)
        (fun _ _ h => ?_) fun next s₃ shopping _ settled at₃ => ?_)
      · exact .known at₂ (.refused valid changed digested (present ▸ paying) trivial order)
      · exact absurd (h.symm.trans material) Bool.false_ne_true
      · have shops : ∀ {state}, state ∈ [OrderState.draft, .clarifying, .quoted,
            .reapprovalRequired] → state ∈ shoppingStates := by
          intro state
          cases state <;> decide
        have shopping : v.state ∈ shoppingStates := present ▸ shopping
        refine rankPatched_meets lawful at₃ (shops settled) recommend (move shopping)
          fun r s₄ v₄ legal at₄ keeps moved => .known at₄ ?_
        refine .changed valid changed shopping ?_ ?_ legal ?_
        · rw [keeps.order, View.order_moved, order]
          rfl
        · rcases moved with h | h | h <;> rw [h]
          · exact settled
          · decide
          · decide
        · rw [View.order_moved, order] at keeps
          exact (later_withdrawn _ _ _).trans ((Keeps.moved _ _).trans keeps).later
  · have same : v.patched patch = v.session.intent := by
      by_contra h
      exact immaterial (hasIntentChanged_iff.mpr (Ne.symm h))
    have order : (v.update fun s => { s with intent := v.patched patch }).order = v.order := by
      simp only [View.order, View.update, Session.order, same]
    refine Proc.meets_bind.mpr (meets_patchTransition
      (v := v.update fun s => { s with intent := v.patched patch }) lawful at₁
      (fun shopping _ asked => licensed _ _ (.move shopping asked)) (fun paying => ?_)
      (fun s₂ shopping _ at₂ => ?_)
      fun _ _ _ h _ _ => absurd h immaterial)
    · exact .known at₁ (.kept valid same (order ▸ Keeps.refl _) (.inl rfl) fun _ => order)
    · refine rankPatched_meets lawful at₂ shopping recommend (move shopping)
        fun r s₃ v₃ legal at₃ keeps moved => .known at₃ ?_
      exact .kept valid same (order ▸ keeps) moved fun illegal => absurd illegal legal

end Patching

end AgentReady
