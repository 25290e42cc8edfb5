import AgentReady.Lifecycle.Conversing

/-!
What each command does, in one theorem.

* `Command.Acts`: the acts a command may do to an order.
* `Command.Ends`: how a command ends, where something is said of that.
* `Command.meets`: every command save `createSession` does no other acts, and ends so.
* `createSession_meets`: a session is created under an order id that was drawn, or forgotten.
-/

namespace AgentReady

open Coop Svc

/-- An act on one order, of those an operation may do given the view it starts from. -/
def ActsOn (o : String) (s : Services) (acts : View → Order → Act → Prop) (o' : String) (x : Order)
    (act : Act) : Prop :=
  o' = o ∧ ∃ v, s.view? o = some v ∧ acts v x act

namespace Command

/-- The command creates a session. -/
def Opens : Command → Prop
  | createSession _ => True
  | _ => False

/-- The orders a command may write to. -/
def Concerns : Command → String → Prop
  | createSession _ => fun _ => False
  | respond o .. => (· = o)
  | buildQuote o .. => (· = o)
  | approve o .. => (· = o)
  | initiatePayment o .. => (· = o)
  | prepareX402OrderPayment o _ => (· = o)
  | confirmX402OrderPayment o .. => (· = o)
  | mockCapture o => (· = o)
  | verifyPayment o .. => (· = o)
  | fulfil o .. => (· = o)
  | compensate o _ => (· = o)
  | tamper o _ => (· = o)
  | policyCheck o .. => (· = o)
  | markWebhookProcessed _ => fun _ => True
  | holdWebhook o _ => (· = o)
  | markVerifiedFromWebhook o .. => (· = o)
  | webhook .. => fun _ => True
  | intentPatch o .. => (· = o)

/-- The acts a command may do to an order, started in `s` under the contract `c`. -/
def Acts (cfg : Config) (c : Contract Services Query.Answer) (s : Services) :
    Command → String → Order → Act → Prop
  | respond o message supplied operationId => ActsOn o s fun v x act =>
      respondRuns cfg s o message supplied operationId ∧ RespondActs cfg message c v x act
  | buildQuote o productId supplied operationId => ActsOn o s fun v x act =>
      buildQuoteRuns cfg s o productId operationId ∧ QuoteActs cfg o productId supplied v x act
  | approve o digest operationId => ActsOn o s fun v x act =>
      approveRuns cfg s o digest operationId ∧ ApproveActs cfg digest v x act
  | initiatePayment o rail operationId => ActsOn o s fun v x act =>
      initiatePaymentRuns cfg s o rail operationId ∧ InitiateActs cfg rail v x act
  | prepareX402OrderPayment o _ => ActsOn o s fun v x act => PrepareActs cfg o v x act
  | confirmX402OrderPayment o paymentIdentifier _ => ActsOn o s fun v x act =>
      ConfirmActs paymentIdentifier v x act
  | verifyPayment o externalOrderId externalPaymentId signature operationId =>
      ActsOn o s fun v x act =>
        verifyPaymentRuns cfg s o externalOrderId externalPaymentId operationId ∧
          VerifyActs o externalOrderId externalPaymentId signature c v x act
  | fulfil o .. => ActsOn o s fun _ _ act => ∃ next ∈ fulfilmentStates, act = .move next
  | compensate o operationId => ActsOn o s fun v x act =>
      compensateRuns cfg s o operationId ∧ CompensateActs v x act
  | tamper o field => ActsOn o s fun v x act => TamperActs cfg field v x act
  | markVerifiedFromWebhook o paymentId .. => ActsOn o s fun v x act =>
      MarkActs paymentId v.order x act
  | webhook rawBody .. => fun o x act => ∃ paymentId z, Delivers cfg rawBody paymentId ∧
      s.order? o = some z ∧ z.state = .paymentPending ∧ MarkActs paymentId z x act
  | intentPatch o patch expected => ActsOn o s fun v x act =>
      v.AcceptsPatch patch expected ∧ PatchActs patch v x act
  | _ => fun _ _ _ => False

/-- How a command ends. -/
def Ends (cfg : Config) (c : Contract Services Query.Answer) (s : Services) :
    Command → Except ServiceError Reply → Services → Prop
  | respond o message supplied operationId => AgentReady.Ends o (s.view? o)
      (Under (respondRuns cfg s o message supplied operationId) (Converses cfg message c))
  | buildQuote o productId supplied operationId => AgentReady.Ends o (s.view? o)
      (Under (buildQuoteRuns cfg s o productId operationId) (Quoted cfg o productId supplied))
  | approve o digest operationId => AgentReady.Ends o (s.view? o)
      (Under (approveRuns cfg s o digest operationId) (Approves cfg digest))
  | initiatePayment o rail operationId => AgentReady.Ends o (s.view? o)
      (Under (initiatePaymentRuns cfg s o rail operationId) (Initiated cfg rail c))
  | verifyPayment o externalOrderId externalPaymentId signature operationId =>
      AgentReady.Ends o (s.view? o)
        (Under (verifyPaymentRuns cfg s o externalOrderId externalPaymentId operationId)
          (VerifyEnds o externalOrderId externalPaymentId signature c))
  | compensate o operationId => AgentReady.Ends o (s.view? o) fun v _ v' =>
      compensateRuns cfg s o operationId → Compensated o c v v'
  | tamper o field => AgentReady.Ends o (s.view? o) (Tampered cfg field)
  | intentPatch o patch expected => AgentReady.Ends o (s.view? o) (PatchEnds patch expected)
  | _ => fun _ _ => True

/-- The kinds of acts each command does. -/
def Does (act : Act) : Command → Prop
  | respond .. => match act with
      | .say _ | .withdraw _ | .restart | .recommend _ | .move _ => True
      | _ => False
  | buildQuote .. => match act with
      | .recommend _ | .quote .. | .move _ => True
      | _ => False
  | approve .. => match act with
      | .grant .. | .move _ => True
      | _ => False
  | initiatePayment .. => match act with
      | .bindOrder _ | .move _ => True
      | _ => False
  | prepareX402OrderPayment .. => match act with
      | .prepare _ => True
      | _ => False
  | confirmX402OrderPayment .. => match act with
      | .settle .. | .move _ => True
      | _ => False
  | verifyPayment .. => match act with
      | .verify .. | .move _ => True
      | _ => False
  | fulfil .. | compensate .. => match act with
      | .move _ => True
      | _ => False
  | tamper .. => match act with
      | .tamper _ | .move _ => True
      | _ => False
  | markVerifiedFromWebhook .. | webhook .. => match act with
      | .webhook .. | .move _ => True
      | _ => False
  | intentPatch .. => match act with
      | .say _ | .withdraw _ | .recommend _ | .move _ | .clarify => True
      | _ => False
  | _ => False

/-! Which commands do an act, and when. -/

section Acts

variable {cfg : Config} {c : Contract Services Query.Answer} {s : Services} {command : Command}
  {o : String} {x : Order}

theorem does_of_acts {act : Act} (h : command.Acts cfg c s o x act) : command.Does act := by
  cases command with
  | respond | buildQuote | approve | initiatePayment | verifyPayment | compensate | intentPatch =>
      obtain ⟨-, _, -, -, acts⟩ := h
      cases acts <;> trivial
  | prepareX402OrderPayment | confirmX402OrderPayment | tamper | markVerifiedFromWebhook =>
      obtain ⟨-, _, -, acts⟩ := h
      cases acts <;> trivial
  | fulfil =>
      obtain ⟨-, _, -, _, -, rfl⟩ := h
      trivial
  | webhook =>
      obtain ⟨_, _, -, -, -, acts⟩ := h
      cases acts <;> trivial
  | createSession | mockCapture | policyCheck | markWebhookProcessed | holdWebhook => exact h

theorem acts_say {intent : ParsedIntent} (h : command.Acts cfg c s o x (.say intent)) :
    (∃ message supplied operationId, command = .respond o message supplied operationId) ∨
    ∃ patch expected v, command = .intentPatch o patch expected ∧ s.view? o = some v ∧
      v.AcceptsPatch patch expected ∧ intent = v.patched patch := by
  cases command with
  | respond o' message supplied operationId => exact .inl ⟨_, _, _, by rw [h.1]⟩
  | intentPatch o' patch expected =>
      obtain ⟨rfl, v, at_, accepts, acts⟩ := h
      cases acts with
      | say => exact .inr ⟨_, _, v, rfl, at_, accepts, rfl⟩
  | _ => exact absurd (does_of_acts h) id

theorem acts_withdraw {record : Option EnvelopeRecord}
    (h : command.Acts cfg c s o x (.withdraw record)) :
    (∃ message supplied operationId v, command = .respond o message supplied operationId ∧
      s.view? o = some v ∧ respondRuns cfg s o message supplied operationId ∧
      ∀ answer, Alone answer c → x.state = v.state ∧ v.Overturns cfg message answer) ∨
    ∃ patch expected v, command = .intentPatch o patch expected ∧ s.view? o = some v ∧
      v.AcceptsPatch patch expected ∧ v.patched patch ≠ v.session.intent ∧ x.state = v.state := by
  cases command with
  | respond o' message supplied operationId =>
      obtain ⟨rfl, v, at_, runs, acts⟩ := h
      cases acts with
      | withdraw overturns => exact .inl ⟨_, _, _, v, rfl, at_, runs, overturns⟩
  | intentPatch o' patch expected =>
      obtain ⟨rfl, v, at_, accepts, acts⟩ := h
      cases acts with
      | withdraw changed => exact .inr ⟨_, _, v, rfl, at_, accepts, changed, rfl⟩
  | _ => exact absurd (does_of_acts h) id

theorem acts_restart (h : command.Acts cfg c s o x .restart) :
    ∃ message supplied operationId v, command = .respond o message supplied operationId ∧
      s.view? o = some v ∧ respondRuns cfg s o message supplied operationId ∧
      ∀ answer, Alone answer c → x.state = v.state ∧ v.Overturns cfg message answer := by
  cases command with
  | respond o' message supplied operationId =>
      obtain ⟨rfl, v, at_, runs, acts⟩ := h
      cases acts with
      | restart overturns => exact ⟨_, _, _, v, rfl, at_, runs, overturns⟩
  | _ => exact absurd (does_of_acts h) id

theorem acts_quote {r : EnvelopeRecord} {productId : String}
    (h : command.Acts cfg c s o x (.quote r productId)) :
    ∃ supplied operationId v, command = .buildQuote o productId supplied operationId ∧
      s.view? o = some v ∧ buildQuoteRuns cfg s o productId operationId ∧
      v.quote? cfg o productId supplied = some r ∧ x = (v.selectable cfg).2.order := by
  cases command with
  | buildQuote o' productId' supplied operationId =>
      obtain ⟨rfl, v, at_, runs, acts⟩ := h
      cases acts with
      | quote quoted => exact ⟨_, _, v, rfl, at_, runs, quoted, rfl⟩
  | _ => exact absurd (does_of_acts h) id

theorem acts_tamper {r : EnvelopeRecord} (h : command.Acts cfg c s o x (.tamper r)) :
    ∃ field v, command = .tamper o field ∧ s.view? o = some v ∧
      v.tampered? cfg field = some r ∧ x = v.order := by
  cases command with
  | tamper o' field =>
      obtain ⟨rfl, v, at_, acts⟩ := h
      cases acts with
      | tamper changed => exact ⟨field, v, rfl, at_, changed, rfl⟩
  | _ => exact absurd (does_of_acts h) id

theorem acts_clarify (h : command.Acts cfg c s o x .clarify) :
    ∃ patch expected v, command = .intentPatch o patch expected ∧ s.view? o = some v ∧
      v.AcceptsPatch patch expected ∧ v.state ∈ shoppingStates := by
  cases command with
  | intentPatch o' patch expected =>
      obtain ⟨rfl, v, at_, accepts, acts⟩ := h
      cases acts with
      | clarify shopping => exact ⟨_, _, v, rfl, at_, accepts, shopping⟩
  | _ => exact absurd (does_of_acts h) id

theorem acts_settle {payment : X402OrderPayment} {r : EnvelopeRecord}
    (h : command.Acts cfg c s o x (.settle payment r)) :
    ∃ operationId, command = .confirmX402OrderPayment o payment.paymentIdentifier operationId := by
  cases command with
  | confirmX402OrderPayment o' paymentIdentifier operationId =>
      obtain ⟨rfl, v, at_, acts⟩ := h
      cases acts with
      | settle record named => exact ⟨operationId, by rw [named]⟩
  | _ => exact absurd (does_of_acts h) id

theorem acts_verify {result : VerificationResult} {paymentId : String}
    (h : command.Acts cfg c s o x (.verify result paymentId)) :
    ∃ externalOrderId signature operationId v r s',
      command = .verifyPayment o externalOrderId paymentId signature operationId ∧
      s.view? o = some v ∧ v.Asks externalOrderId r ∧ s'.order? o = some x ∧
      ∃ a : Query.Answer (.verify (verificationInput o externalOrderId paymentId signature r)),
        c.answers _ a s' ∧ a.result = .ok result := by
  cases command with
  | verifyPayment o' externalOrderId externalPaymentId signature operationId =>
      obtain ⟨rfl, v, at_, runs, acts⟩ := h
      cases acts with
      | verify asks answers answered found =>
          exact ⟨_, _, _, v, _, _, rfl, at_, asks, found, _, answers, answered⟩
  | _ => exact absurd (does_of_acts h) id

theorem acts_webhook {paymentId : String} {r : EnvelopeRecord}
    (h : command.Acts cfg c s o x (.webhook paymentId r)) :
    (∃ rawBody signature eventIdHeader secret,
      command = .webhook rawBody signature eventIdHeader secret ∧ Delivers cfg rawBody paymentId ∧
      x.state = .paymentPending) ∨
    ∃ orderIdExternal claims, command = .markVerifiedFromWebhook o paymentId orderIdExternal claims := by
  cases command with
  | webhook rawBody signature eventIdHeader secret =>
      obtain ⟨paymentId', z, delivers, stored, pending, acts⟩ := h
      cases acts with
      | webhook record => exact .inl ⟨_, _, _, _, rfl, delivers, pending⟩
  | markVerifiedFromWebhook o' paymentId' orderIdExternal claims =>
      obtain ⟨rfl, v, at_, acts⟩ := h
      cases acts with
      | webhook record => exact .inr ⟨_, _, rfl⟩
  | _ => exact absurd (does_of_acts h) id

theorem acts_move_paid (h : command.Acts cfg c s o x (.move .paidVerified)) :
    (∀ field, command ≠ .tamper o field) ∧
      ∀ patch expected, command ≠ .intentPatch o patch expected := by
  constructor
  · rintro field rfl
    obtain ⟨-, v, -, acts⟩ := h
    cases acts
  · rintro patch expected rfl
    obtain ⟨-, v, -, -, acts⟩ := h
    cases acts with
    | move _ asked => exact absurd asked (by decide)

end Acts

end Command

section Commands

variable {seen : Order → Order → Prop} {lic : String → Order → Act → Prop}
  {c : Contract Services Query.Answer} {s : Services} {cfg : Config}

theorem policyCheck_meets {o rail : String} {candidate : Option CommerceEnvelope} :
    (policyCheck cfg o rail candidate).Meets c (fun _ _ => True) s := by
  refine Proc.meets_bind.mpr (meets_session? rfl ?_)
  refine Proc.meets_bind.mpr (Proc.meets_bind.mpr (meets_read ?_))
  refine Proc.meets_pure.mpr ?_
  dsimp only
  split
  · exact Proc.meets_bind.mpr (meets_read (Proc.meets_bind.mpr (Proc.meets_bind.mpr (meets_read
      trivial))))
  · trivial

/-- Every command save `createSession` does its own acts, and ends as it should. -/
theorem Command.meets {command : Command} (known : ¬ command.Opens)
    (lawful : ∀ o, command.Concerns o → Lawful cfg.platform seen lic o c) (keyed : Keyed s)
    (licensed : ∀ o x act, command.Acts cfg c s o x act → lic o x act) :
    (command.op cfg).Meets c (command.Ends cfg c s) s := by
  have on : ∀ {o acts}, (∀ x act, ActsOn o s acts o x act → lic o x act) → ∀ v, s.view? o = some v →
      ∀ x act, acts v x act → lic o x act := fun h v at_ x act acts => h x act ⟨rfl, v, at_, acts⟩
  cases command with
  | createSession operationId => exact absurd trivial known
  | respond o message supplied operationId =>
      exact respond_meets (lawful o rfl) rfl fun v at_ runs x act acts =>
        on (licensed o) v at_ x act ⟨runs, acts⟩
  | buildQuote o productId supplied operationId =>
      exact buildQuote_meets (lawful o rfl) rfl fun v at_ runs x act acts =>
        on (licensed o) v at_ x act ⟨runs, acts⟩
  | approve o digest operationId =>
      exact approve_meets (lawful o rfl) rfl fun v at_ runs x act acts =>
        on (licensed o) v at_ x act ⟨runs, acts⟩
  | initiatePayment o rail operationId =>
      exact initiatePayment_meets (lawful o rfl) rfl fun v at_ runs x act acts =>
        on (licensed o) v at_ x act ⟨runs, acts⟩
  | prepareX402OrderPayment o operationId =>
      exact prepareX402OrderPayment_meets (lawful o rfl) rfl (on (licensed o))
  | confirmX402OrderPayment o paymentIdentifier operationId =>
      exact (confirmX402OrderPayment_meets (lawful o rfl) rfl (on (licensed o))).mono fun _ _ _ => trivial
  | mockCapture o => exact (mockCapture_meets rfl).mono fun _ _ _ => trivial
  | verifyPayment o externalOrderId externalPaymentId signature operationId =>
      exact verifyPayment_meets (lawful o rfl) rfl fun v at_ runs x act acts =>
        on (licensed o) v at_ x act ⟨runs, acts⟩
  | fulfil o fail operationId =>
      exact fulfil_meets (lawful o rfl) rfl fun v at_ x next closing =>
        on (licensed o) v at_ x _ ⟨next, closing, rfl⟩
  | compensate o operationId =>
      exact compensate_meets (lawful o rfl) rfl fun v at_ runs x act acts =>
        on (licensed o) v at_ x act ⟨runs, acts⟩
  | tamper o field => exact tamper_meets (lawful o rfl) rfl (on (licensed o))
  | policyCheck o rail candidate => exact policyCheck_meets
  | markWebhookProcessed eventId =>
      exact Proc.meets_bind.mpr (meets_markProcessed (lawful "" trivial) rfl fun _ _ => trivial)
  | holdWebhook o held =>
      exact Proc.meets_bind.mpr (holdWebhook_meets (lawful o rfl) fun _ => trivial)
  | markVerifiedFromWebhook o paymentId orderIdExternal claims =>
      exact markVerifiedFromWebhook_meets (lawful o rfl) rfl (on (licensed o)) fun _ _ => trivial
  | webhook rawBody signature eventIdHeader webhookSecret =>
      exact processRazorpayWebhookRaw_meets (fun o => lawful o trivial) keyed
        fun paymentId delivers o z stored pending x act acts =>
          licensed o x act ⟨paymentId, z, delivers, stored, pending, acts⟩
  | intentPatch o patch expected =>
      exact intentPatch_meets (lawful o rfl) rfl fun v at_ accepts x act acts =>
        on (licensed o) v at_ x act ⟨accepts, acts⟩

end Commands

/-! ### Creating a session -/

/-- Every order was there before, or is new under its id. -/
def Creates (orderId : String) (s s' : Services) : Prop :=
  ∀ o x, s'.order? o = some x → s.order? o = some x ∨ (o = orderId ∧ x.id = orderId)

/-- The contract of `createSession`. -/
def creating (orderId : String) : Contract Services Query.Answer where
  rely s s' := s' = s
  guar := Creates orderId
  calls _ _ := True
  answers _ _ _ := True

section Creating

variable {P : Platform} {orderId : String} {s : Services} {cfg : Config}

theorem Creates.of_orders {s' : Services} (h : ∀ o x, s'.order? o = some x → s.order? o = some x) :
    Creates orderId s s' := fun o x at_ => .inl (h o x at_)

theorem Creates.trans {s₁ s₂ : Services} (h : Creates orderId s s₁) (h' : Creates orderId s₁ s₂) :
    Creates orderId s s₂ := by
  intro o x at_
  rcases h' o x at_ with before | new
  · exact h o x before
  · exact .inr new

/-- What shows every order as it was creates nothing. -/
theorem lawful_creating (o : String) :
    Lawful P Eq (fun _ _ _ => False) o (creating orderId) where
  refl _ := rfl
  guar := by
    refine fun advances => .of_orders fun o x at_ => ?_
    rcases advances.orders o with same | ⟨_, _, _, _, _, _, unlicensed⟩
    · exact same ▸ at_
    · exact absurd unlicensed id
  calls _ := trivial
  resumes := by
    rintro s _ v rfl at_
    exact ⟨v, at_, rfl⟩

theorem order?_forgetOldest {o : String} {x : Order} (at_ : (forgetOldest s).order? o = some x) :
    s.order? o = some x := by
  unfold forgetOldest at at_
  cases first : s.sessions.firstKey? with
  | none =>
      rw [first] at at_
      exact at_
  | some oldest =>
      rw [first] at at_
      by_cases forgotten : o = oldest
      · subst forgotten
        simp [Services.order?] at at_
      · simpa [Services.order?, OrderedMap.get?_erase_of_ne _ forgotten] using at_

theorem order?_pruneSessionCache {o : String} {x : Order}
    (at_ : (pruneSessionCache s).order? o = some x) : s.order? o = some x := by
  unfold pruneSessionCache at at_
  generalize s.sessions.size = rounds at at_
  induction rounds generalizing s with
  | zero => exact at_
  | succ rounds ih =>
      unfold pruneSessionCache.go at at_
      split at at_
      · exact order?_forgetOldest (ih at_)
      · exact at_

theorem createSession_meets {operationId : Option String} :
    (createSession cfg operationId).Meets (creating (cfg.platform.newId "ord" s.draws))
      (fun _ _ => True) s := by
  have lawful : Lawful cfg.platform Eq (fun _ _ _ => False) ""
      (creating (cfg.platform.newId "ord" s.draws)) := lawful_creating ""
  refine Proc.meets_bind.mpr (meets_draw lawful rfl fun s₁ _ => ?_)
  generalize cfg.platform.newId "ord" s.draws = orderId at lawful ⊢
  refine meets_idempotent lawful rfl (fun _ _ _ _ => trivial) (fun _ _ _ _ => trivial)
    fun s₂ _ _ => ?_
  refine Proc.meets_bind.mpr (Proc.meets_bind.mpr (meets_read (Proc.meets_pure.mpr ?_)))
  refine Proc.meets_bind.mpr (meets_draw lawful rfl fun s₃ _ => ?_)
  refine Proc.meets_bind.mpr ⟨.of_orders fun _ _ => id, ?_⟩
  refine Proc.meets_bind.mpr ⟨fun o x at_ => ?_, ?_⟩
  · by_cases new : o = orderId
    · subst new
      refine .inr ⟨rfl, ?_⟩
      simp only [Services.order?, OrderedMap.get?_set_self, Option.map_some, Option.some.injEq] at at_
      rw [← at_]
      rfl
    · left
      simpa [Services.order?, OrderedMap.get?_set_of_ne _ new] using at_
  · refine Proc.meets_bind.mpr ⟨.of_orders fun _ _ => order?_pruneSessionCache, ?_⟩
    refine Proc.meets_bind.mpr (meets_log lawful rfl fun s₄ _ => ?_)
    exact Proc.meets_bind.mpr (meets_complete lawful rfl fun _ _ => trivial)

end Creating

end AgentReady
