import AgentReady.Lifecycle.Verifying

/-!
What the Agent Pay operations and the Razorpay webhooks do to an order.

A delivery finds its order through the external order id. In a keyed store the session it
finds is the one stored under the order id that the delivery then writes to.
-/

namespace AgentReady

open Coop Svc

section Settling

variable {seen : Order → Order → Prop} {lic : String → Order → Act → Prop}
  {o : String} {c : Contract Services Query.Answer} {s : Services} {w : Option View}

/-! ### Agent Pay -/

inductive PrepareActs (cfg : Config) (orderId : String) (v : View) : Order → Act → Prop where
  | prepare {r : EnvelopeRecord} (record : v.record = some r) :
      PrepareActs cfg orderId v v.order (.prepare (preparePayment cfg orderId r))

theorem rejectX402_meets {cfg : Config} {operationId : Option String} {v : View}
    {state : OrderState} {error : String} {codes : List String} {inputDigest : Option String}
    {decision : PolicyDecision} {post : Except ServiceError Reply → Services → Prop}
    (lawful : Lawful cfg.platform seen lic o c) (at_ : s.view? o = some v)
    (next : ∀ r s', post (.ok r) s') :
    (rejectX402 cfg o operationId state error codes inputDigest decision).Meets c post s :=
  Proc.meets_bind.mpr (meets_log lawful at_ fun _ at₁ => meets_refuse lawful at₁ fun s₂ _ =>
    next _ s₂)

theorem prepareX402OrderPayment_meets {cfg : Config} {operationId : Option String}
    (lawful : Lawful cfg.platform seen lic o c) (at_ : s.view? o = w)
    (licensed : ∀ v, w = some v → ∀ x act, PrepareActs cfg o v x act → lic o x act) :
    (prepareX402OrderPayment cfg o operationId).Meets c (fun _ _ => True) s := by
  refine meets_idempotent lawful at_ (fun _ _ _ _ => trivial) (fun _ _ _ _ => trivial)
    fun s₁ _ at₁ => ?_
  refine Proc.meets_bind.mpr (meets_session? at₁ ?_)
  cases w with
  | none => exact meets_refuse lawful at₁ fun _ _ => trivial
  | some v =>
  have licensed := licensed v rfl
  refine Proc.meets_bind.mpr (meets_record? at₁ ?_)
  cases record : v.record with
  | none => exact meets_refuse lawful at₁ fun _ _ => trivial
  | some r =>
  have rejected : ∀ {state error codes inputDigest decision s'}, s'.view? o = some v →
      (rejectX402 cfg o operationId state error codes inputDigest decision).Meets c
        (fun _ _ => True) s' := fun at' => rejectX402_meets lawful at' fun _ _ => trivial
  refine meets_ite (fun _ => rejected at₁) (fun _ => ?_)
  refine meets_ite (fun _ => rejected at₁) (fun paid => ?_)
  refine meets_ite (fun _ => rejected at₁) (fun _ => ?_)
  refine Proc.meets_bind.mpr (meets_liftResult (fun active _ => ?_) fun _ _ => trivial)
  refine meets_ite (fun _ => rejected at₁) (fun _ => ?_)
  refine Proc.meets_bind.mpr (meets_read ?_)
  refine meets_ite (fun _ => rejected at₁) (fun _ => ?_)
  dsimp only
  cases v.session.x402OrderPayment.filter (·.envelopeDigest = r.digest) with
  | some payment =>
      exact Proc.meets_bind.mpr (meets_log lawful at₁ fun s₂ at₂ =>
        meets_succeed lawful at₂ fun _ _ => trivial)
  | none =>
      have unpaid : ¬ v.order.IsVerified := fun verified => paid (by
        rw [show VerificationResult.isVerified v.session.verification = true from verified]
        rfl)
      refine Proc.meets_bind.mpr (meets_updateSession lawful at₁
        (.inr ⟨_, .prepare unpaid rfl, licensed _ _ (.prepare record)⟩) fun s₂ at₂ => ?_)
      exact Proc.meets_bind.mpr (meets_log lawful at₂ fun s₃ at₃ =>
        meets_succeed lawful at₃ fun _ _ => trivial)

inductive ConfirmActs (paymentIdentifier : String) (v : View) : Order → Act → Prop where
  | settle {r : EnvelopeRecord} {payment : X402OrderPayment} (record : v.record = some r)
      (named : payment.paymentIdentifier = paymentIdentifier) :
      ConfirmActs paymentIdentifier v v.order (.settle payment r)
  | move {x : Order} {next : OrderState} (paying : next = .paymentPending ∨ next = .paidVerified) :
      ConfirmActs paymentIdentifier v x (.move next)

/-- A payment that was prepared for the approved and current record may be settled. -/
structure View.Confirmable (v : View) (paymentIdentifier : String) (r : EnvelopeRecord)
    (payment : X402OrderPayment) : Prop where
  record : v.record = some r
  pending : v.session.x402OrderPayment = some payment
  named : payment.paymentIdentifier = paymentIdentifier
  unsettled : payment.status ≠ .verified
  prepared : preparedFor v.session r payment = true
  active : quoteActive v.session r = .ok true
  unpaid : (VerificationResult.isVerified v.session.verification || truthy v.session.externalOrderId ||
    paidState v.state) = false
  leads : v.state.Leads .paymentPending

/-- How a confirmation ends: the order is paid, or it stays in its state. -/
inductive Confirmed (paymentIdentifier : String) (v : View) (result : Except ServiceError Reply) (v' : View) :
    Prop where
  | paid {r : EnvelopeRecord} {payment : X402OrderPayment} (confirmable : v.Confirmable paymentIdentifier r payment)
      (state : v'.state = .paidVerified)
  | stays (refused : ∀ r payment, ¬ v.Confirmable paymentIdentifier r payment) (state : v'.state = v.state)

/-- Settle a payment that was prepared for the approved record. -/
theorem settle_meets {cfg : Config} {v : View} {r : EnvelopeRecord} {payment : X402OrderPayment}
    {rest : Svc Reply} {post : Except ServiceError Reply → Services → Prop}
    (lawful : Lawful cfg.platform seen lic o c) (at_ : s.view? o = some v)
    (record : v.record = some r) (approved : v.order.Approved) (unpaid : ¬ v.order.IsVerified)
    (licensed : ∀ x act, ConfirmActs payment.paymentIdentifier v x act → lic o x act)
    (refused : ∀ e s' v', ¬ v.state.Leads .paymentPending → s'.view? o = some v' → v'.state = v.state →
      post (.error e) s')
    (last : ∀ s' v', v.state.Leads .paymentPending → s'.view? o = some v' → v'.state = .paidVerified →
      rest.Meets c post s') :
    (do
      updateSession o fun s => { s with
        x402OrderPayment := some payment.settled
        verification := some (x402Verification payment.paymentIdentifier r)
        externalPaymentId := some payment.paymentIdentifier }
      setState o .paymentPending
      setState o .paidVerified
      rest : Svc Reply).Meets c post s := by
  refine Proc.meets_bind.mpr (meets_updateSession lawful at_
    (.inr ⟨_, .settle unpaid approved record, licensed _ _ (.settle record rfl)⟩) fun s₁ at₁ => ?_)
  refine Proc.meets_bind.mpr (meets_setState lawful at₁ ?_ (fun differs illegal => ?_) fun leads s₂ at₂ => ?_)
  · exact fun _ _ => ⟨approved, licensed _ _ (.move (.inl rfl))⟩
  · refine refused _ s₁ _ ?_ at₁ rfl
    rintro (same | allowed)
    · exact differs same
    · exact illegal allowed
  refine Proc.meets_bind.mpr (meets_setState lawful at₂ ?_ (fun _ illegal => ?_) fun _ s₃ at₃ => ?_)
  · intro _ _
    refine ⟨⟨x402Verification payment.paymentIdentifier r, payment.paymentIdentifier,
      ⟨rfl, rfl, rfl⟩, v.order, v.order, r, lawful.refl _, rfl, record, rfl⟩, ?_⟩
    exact licensed _ _ (.move (.inr rfl))
  · exact absurd (by decide : OrderState.paidVerified ∈ OrderState.paymentPending.allowedTransitions) illegal
  exact last s₃ _ leads at₃ rfl

/-- The use of the operation id lets `confirmX402OrderPayment` run. -/
def confirmRuns (cfg : Config) (s : Services) (orderId paymentIdentifier : String)
    (operationId : Option String) : Prop :=
  Runs cfg s operationId
    ⟨"x402_order.confirm", [("orderId", .text orderId), ("paymentIdentifier", .text paymentIdentifier)]⟩ orderId
    x402Prior

theorem confirmX402OrderPayment_meets {cfg : Config} {paymentIdentifier : String}
    {operationId : Option String} (lawful : Lawful cfg.platform seen lic o c)
    (at_ : s.view? o = w)
    (licensed : ∀ v, w = some v → ∀ x act, ConfirmActs paymentIdentifier v x act → lic o x act) :
    (confirmX402OrderPayment cfg o paymentIdentifier operationId).Meets c
      (Ends o w (Under (confirmRuns cfg s o paymentIdentifier operationId) (Confirmed paymentIdentifier))) s := by
  refine idempotent_meets lawful at_ fun s₁ _ at₁ => ?_
  refine Proc.meets_bind.mpr (meets_session? at₁ ?_)
  cases w with
  | none => exact meets_refuse lawful at₁ fun _ _ => .unknown
  | some v =>
  have licensed := licensed v rfl
  refine Proc.meets_bind.mpr (meets_record? at₁ ?_)
  have rejected : ∀ {state error codes inputDigest decision s'}, s'.view? o = some v →
      (∀ r payment, ¬ v.Confirmable paymentIdentifier r payment) →
      (rejectX402 cfg o operationId state error codes inputDigest decision).Meets c
        (Ends o (some v) (Confirmed paymentIdentifier)) s' := by
    intro state error codes inputDigest decision s' at' refused
    refine Proc.meets_bind.mpr (meets_log lawful at' fun s₁ at₁ => ?_)
    exact meets_refuse lawful at₁ fun s₂ at₂ => .known at₂ (.stays refused rfl)
  dsimp only [Option.map_some]
  cases record : v.record with
  | none =>
      refine rejected at₁ fun r payment confirmable => ?_
      cases record.symm.trans confirmable.record
  | some r =>
  cases found : v.session.x402OrderPayment.filter (·.paymentIdentifier = paymentIdentifier) with
  | none =>
      refine rejected at₁ fun r payment confirmable => ?_
      rw [confirmable.pending] at found
      simp [confirmable.named] at found
  | some pending =>
  obtain ⟨stored, named⟩ : v.session.x402OrderPayment = some pending ∧
      pending.paymentIdentifier = paymentIdentifier := by
    simpa [Option.filter_eq_some_iff] using found
  subst named
  -- What may be confirmed is this payment, for this record.
  have only : ∀ {r' payment}, v.Confirmable pending.paymentIdentifier r' payment → r' = r ∧ payment = pending :=
    fun confirmable => ⟨Option.some.inj (confirmable.record.symm.trans record),
      Option.some.inj (confirmable.pending.symm.trans stored)⟩
  refine meets_ite (fun settled => ?_) (fun unsettled => ?_)
  · refine Proc.meets_bind.mpr (meets_log lawful at₁ fun s₂ at₂ => ?_)
    refine meets_succeed lawful at₂ fun s₃ at₃ => .known at₃ (.stays (fun r' payment confirmable => ?_) rfl)
    obtain ⟨-, rfl⟩ := only confirmable
    exact confirmable.unsettled settled
  refine meets_ite (fun prepared => ?_) (fun unprepared => rejected at₁ fun r' payment confirmable => ?_)
  case refine_2 =>
    obtain ⟨rfl, rfl⟩ := only confirmable
    exact unprepared confirmable.prepared
  refine Proc.meets_bind.mpr (meets_liftResult (fun active known => ?_) fun m unknown => ?_)
  case refine_2 =>
    refine .known at₁ (.stays (fun r' payment confirmable => ?_) rfl)
    obtain ⟨rfl, rfl⟩ := only confirmable
    rw [confirmable.active] at unknown
    cases unknown
  refine meets_ite (fun inactive => rejected at₁ fun r' payment confirmable => ?_) (fun current => ?_)
  · obtain ⟨rfl, rfl⟩ := only confirmable
    rw [confirmable.active] at known
    cases known
    cases inactive
  refine meets_ite (fun paid => rejected at₁ fun r' payment confirmable => ?_) (fun paid => ?_)
  · cases confirmable.unpaid.symm.trans paid
  have approval := prepared
  simp only [preparedFor, Bool.and_eq_true, decide_eq_true_eq] at approval
  have approved : v.order.Approved := approved_of_approvedRecord record (by
    simp [approvedRecord, approval.1.2, approval.2])
  have unpaid : ¬ v.order.IsVerified := fun verified => paid (by
    rw [show VerificationResult.isVerified v.session.verification = true from verified]
    rfl)
  refine settle_meets lawful at₁ record approved unpaid licensed (fun e s₂ v₂ stuck at₂ same => ?_)
    fun s₂ v₂ leads at₂ paidNow => ?_
  · exact .known at₂ (.stays (fun r' payment confirmable => stuck confirmable.leads) same)
  have confirmable : v.Confirmable pending.paymentIdentifier r pending := by
    refine ⟨record, stored, rfl, unsettled, prepared, ?_, Bool.eq_false_iff.mpr paid, leads⟩
    rw [known]
    simpa using current
  refine Proc.meets_bind.mpr (meets_log lawful at₂ fun s₃ at₃ => ?_)
  exact Proc.meets_bind.mpr (meets_stateOf at₃ (meets_succeed lawful at₃ fun s₄ at₄ =>
    .known at₄ (.paid confirmable paidNow)))

/-! ### Webhooks -/

inductive MarkActs (paymentId : String) (z : Order) : Order → Act → Prop where
  | webhook {r : EnvelopeRecord} (record : z.record = some r) :
      MarkActs paymentId z z (.webhook paymentId r)
  | pay {x : Order} : MarkActs paymentId z x (.move .paidVerified)

theorem markVerifiedFromWebhook_meets {cfg : Config} {paymentId orderIdExternal : String}
    {claims : WebhookClaims} {post : Except ServiceError Reply → Services → Prop}
    (lawful : Lawful cfg.platform seen lic o c) (at_ : s.view? o = w)
    (licensed : ∀ v, w = some v → ∀ x act, MarkActs paymentId v.order x act → lic o x act)
    (next : ∀ r s', post r s') :
    (markVerifiedFromWebhook cfg o paymentId orderIdExternal claims).Meets c post s := by
  refine Proc.meets_bind.mpr (meets_session? at_ ?_)
  cases w with
  | none => exact next _ _
  | some v =>
  have licensed := licensed v rfl
  refine Proc.meets_bind.mpr (meets_record? at_ ?_)
  dsimp only [Option.map_some]
  cases record : v.record with
  | none => exact next _ _
  | some r =>
  refine meets_ite (fun _ => ?_) (fun _ => ?_)
  · exact Proc.meets_bind.mpr (meets_log lawful at_ fun _ _ => next _ _)
  refine Proc.meets_bind.mpr (meets_read ?_)
  refine meets_ite (fun _ => next _ _) (fun _ => ?_)
  refine Proc.meets_bind.mpr (meets_markProcessed lawful at_ fun s₁ at₁ => ?_)
  refine Proc.meets_bind.mpr (meets_updateSession lawful at₁
    (.inr ⟨_, .webhook record, licensed _ _ (.webhook record)⟩) fun s₂ at₂ => ?_)
  refine Proc.meets_bind.mpr (meets_setState lawful at₂ ?_ (fun _ _ => next _ _) fun _ s₃ at₃ => ?_)
  · intro _ _
    exact ⟨⟨webhookVerification paymentId orderIdExternal r, paymentId, ⟨rfl, rfl, rfl⟩, v.order,
      v.order, r, lawful.refl _, rfl, record, rfl⟩, licensed _ _ .pay⟩
  exact Proc.meets_bind.mpr (meets_log lawful at₃ fun _ _ => next _ _)

end Settling

/-- Every session is stored under its order id. -/
def Keyed (s : Services) : Prop := ∀ o x, s.order? o = some x → x.id = o

/-- A delivery of a payment, as its raw body gives it. -/
def Delivers (cfg : Config) (rawBody paymentId : String) : Prop :=
  ∃ value body entity, cfg.platform.parseJson rawBody = some value ∧
    webhookBody value = .ok body ∧ body.entity = some entity ∧ entity.id = paymentId

section Webhook

variable {seen : Order → Order → Prop} {lic : String → Order → Act → Prop}
  {c : Contract Services Query.Answer} {s : Services}

theorem holdWebhook_meets {P : Platform} {o : String} {held : HeldWebhook}
    {post : Except ServiceError Unit → Services → Prop} (lawful : Lawful P seen lic o c)
    (next : ∀ s', post (.ok ()) s') : (holdWebhook o held).Meets c post s := by
  cases at_ : s.view? o with
  | some v => exact meets_updateSession lawful at_ (.inl rfl) fun s' _ => next s'
  | none =>
      refine ⟨lawful.guar ?_, next _⟩
      change Advances P seen lic s (s.updateSession o fun x => { x with heldWebhook := some held })
      simp only [Services.updateSession, view_none.mp at_]
      exact .quiet le_rfl rfl rfl

/-- A delivery that is bound to an order pays it only where a payment is pending. -/
theorem dispatchWebhook_meets {cfg : Config} {v : View} {entity : WebhookEntity}
    {externalOrderId eventId : String} {found : WebhookOutcome}
    (lawful : Lawful cfg.platform seen lic v.session.logicalOrderId c)
    (at_ : s.view? v.session.logicalOrderId = some v)
    (licensed : v.state = .paymentPending → ∀ x act, MarkActs entity.id v.order x act →
      lic v.session.logicalOrderId x act) :
    (dispatchWebhook cfg v.session entity externalOrderId eventId found).Meets c
      (fun _ _ => True) s := by
  refine meets_ite (fun pending => ?_) (fun _ => ?_)
  · refine Proc.meets_bind.mpr (meets_markProcessed lawful at_ fun s₁ at₁ => ?_)
    refine Proc.meets_bind.mpr (markVerifiedFromWebhook_meets (w := some v) lawful at₁ ?_ ?_)
    · rintro _ ⟨⟩
      exact licensed pending
    · intro r s₂
      cases r with
      | error e => trivial
      | ok marked =>
          exact Proc.meets_bind.mpr (meets_ask_any lawful trivial fun _ _ => trivial)
  refine meets_ite (fun _ => ?_) (fun _ => ?_)
  · refine Proc.meets_bind.mpr (holdWebhook_meets lawful fun s₁ => ?_)
    exact Proc.meets_bind.mpr (meets_log lawful rfl fun _ _ => trivial)
  refine meets_ite (fun _ => ?_) (fun _ => trivial)
  refine Proc.meets_bind.mpr (meets_markProcessed lawful at_ fun s₁ at₁ => ?_)
  exact Proc.meets_bind.mpr (meets_log lawful at₁ fun _ _ => trivial)

/-- A bound delivery acts on the order under which its session is stored. -/
theorem bindWebhook_meets {cfg : Config} {entity : WebhookEntity} {eventId : String}
    {found : WebhookOutcome} (lawful : ∀ o, Lawful cfg.platform seen lic o c) (keyed : Keyed s)
    (licensed : ∀ o z, s.order? o = some z → z.state = .paymentPending → ∀ x act,
      MarkActs entity.id z x act → lic o x act) :
    (bindWebhook cfg entity eventId found).Meets c (fun _ _ => True) s := by
  unfold bindWebhook
  cases entity.orderId with
  | none => trivial
  | some value =>
  dsimp only
  -- A text is looked up among the sessions; nothing else belongs to one.
  have lookup : ∀ {post : Except ServiceError (Option Session) → Services → Prop},
      post (.ok none) s → (∀ v, s.view? v.session.logicalOrderId = some v →
        post (.ok (some v.session)) s) → (sessionOfDelivery value).Meets c post s := by
    intro post unknown known
    cases value with
    | str externalOrderId =>
        refine Proc.meets_bind.mpr (meets_read ?_)
        change post (.ok (s.sessions.find? (·.externalOrderId = some externalOrderId))) s
        cases scan : s.sessions.find? (·.externalOrderId = some externalOrderId) with
        | none => exact unknown
        | some session =>
            obtain ⟨-, key, stored⟩ := OrderedMap.find?_eq_some scan
            have at_ : s.view? key = some ⟨session, s.envelopes.get? key, s.mandates, s.clock,
                s.draws⟩ := by simp [Services.view?, stored]
            obtain rfl : session.logicalOrderId = key := keyed key _ (order?_of_view at_)
            exact known ⟨session, _, _, _, _⟩ at_
    | _ => exact unknown
  refine Proc.meets_bind.mpr (lookup trivial fun v at_ => ?_)
  have lawful := lawful v.session.logicalOrderId
  have licensed := licensed _ v.order (order?_of_view at_)
  refine Proc.meets_bind.mpr (meets_log lawful at_ fun s₁ at₁ => ?_)
  refine meets_ite (fun _ => ?_) (fun _ => ?_)
  · refine Proc.meets_bind.mpr (meets_log lawful at₁ fun s₂ at₂ => ?_)
    refine Proc.meets_bind.mpr (meets_record? (v := v.drawn.drawn) at₂ ?_)
    refine meets_ite (fun _ => ?_) (fun _ => ?_)
    · exact Proc.meets_bind.mpr (meets_log lawful at₂ fun _ _ => trivial)
    · exact dispatchWebhook_meets (v := v.drawn.drawn) lawful at₂ licensed
  · refine Proc.meets_bind.mpr (meets_record? (v := v.drawn) at₁ ?_)
    refine meets_ite (fun _ => ?_) (fun _ => ?_)
    · exact Proc.meets_bind.mpr (meets_log lawful at₁ fun _ _ => trivial)
    · exact dispatchWebhook_meets (v := v.drawn) lawful at₁ licensed

theorem processRazorpayWebhookRaw_meets {cfg : Config} {rawBody : String}
    {signature eventIdHeader : Option String} {webhookSecret : String}
    (lawful : ∀ o, Lawful cfg.platform seen lic o c) (keyed : Keyed s)
    (licensed : ∀ paymentId, Delivers cfg rawBody paymentId → ∀ o z, s.order? o = some z →
      z.state = .paymentPending → ∀ x act, MarkActs paymentId z x act → lic o x act) :
    (processRazorpayWebhookRaw cfg rawBody signature eventIdHeader webhookSecret).Meets c
      (fun _ _ => True) s := by
  refine meets_ite (fun _ => trivial) (fun _ => ?_)
  refine meets_ite (fun _ => ?_) (fun _ => ?_)
  · exact Proc.meets_bind.mpr (meets_log (lawful "unknown") rfl fun _ _ => trivial)
  cases parsed : cfg.platform.parseJson rawBody with
  | none => trivial
  | some value =>
  refine Proc.meets_bind.mpr (meets_liftResult (fun body read => ?_) fun _ _ => trivial)
  dsimp only [acceptWebhook]
  cases carried : body.entity with
  | none => trivial
  | some entity =>
  refine Proc.meets_bind.mpr (meets_read ?_)
  refine meets_ite (fun _ => trivial) (fun _ => ?_)
  refine meets_ite (fun _ => ?_) (fun _ => ?_)
  · exact Proc.meets_bind.mpr (meets_log (lawful "unknown") rfl fun _ _ => trivial)
  exact bindWebhook_meets lawful keyed
    (licensed entity.id ⟨value, body, entity, parsed, read, carried, rfl⟩)

end Webhook

end AgentReady
