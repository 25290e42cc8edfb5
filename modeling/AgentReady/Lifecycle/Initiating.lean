import AgentReady.Lifecycle.Quoting

/-!
What `initiatePayment` does to an order.
-/

namespace AgentReady

open Coop Svc

/-! ### Initiation -/

/-- The policy verdict on the record of an order. -/
def View.verdict (cfg : Config) (v : View) (r : EnvelopeRecord) (rail : String) : PolicyVerdict :=
  checkEnvelopeForPayment cfg.platform
    { envelope := r.envelope
      mandate := v.mandates.get? v.session.customerId
      expectedDigest := r.digest
      rail
      approved := approvedRecord v.session r
      allowAutoApprove := false
      nowIso := isoString v.clock }

/-- A payment of the order's record may be initiated. -/
structure View.Payable (cfg : Config) (v : View) (rail : String) (r : EnvelopeRecord) : Prop where
  record : v.record = some r
  active : quoteActive v.session r = .ok true
  unpaid : paidState v.state = false
  unsettled : X402OrderPayment.isVerified v.session.x402OrderPayment = false
  allowed : (v.verdict cfg r rail).allow = true
  enough : 100 ≤ r.envelope.totalMinor

theorem verdict_eq {cfg : Config} {s : Services} {o : String} {v : View} (at_ : s.view? o = some v)
    (r : EnvelopeRecord) (rail : String) :
    paymentVerdict cfg s v.session r rail = v.verdict cfg r rail := by
  obtain ⟨-, -, mandates, clock, -⟩ := view_cases at_
  simp only [paymentVerdict, View.verdict, mandates, clock]

theorem approved_of_approvedRecord {v : View} {r : EnvelopeRecord} (record : v.record = some r)
    (h : approvedRecord v.session r = true) : v.order.Approved := by
  simp only [approvedRecord, Bool.and_eq_true, decide_eq_true_eq] at h
  refine ⟨?_, r, record, h.2⟩
  cases event : v.session.approvalEventId with
  | none => simp [truthy, event] at h
  | some id => exact congrArg Option.isSome event

/-- What may be paid was approved, and its record has the digest of its envelope. -/
theorem View.Payable.approved {cfg : Config} {v : View} {rail : String} {r : EnvelopeRecord}
    (h : v.Payable cfg rail r) :
    v.order.Approved ∧ v.session.approvedDigest = some r.digest ∧
      cfg.platform.envelopeDigest r.envelope = r.digest := by
  obtain ⟨digest, mandate, -, -, -, -, approval⟩ := checkEnvelopeForPayment_allow h.allowed
  have approved := approval rfl
  refine ⟨approved_of_approvedRecord h.record approved, ?_, digest⟩
  simp only [approvedRecord, Bool.and_eq_true, decide_eq_true_eq] at approved
  exact approved.2

inductive InitiateActs (cfg : Config) (rail : String) (v : View) : Order → Act → Prop where
  | pend {r : EnvelopeRecord} (payable : v.Payable cfg rail r) :
      InitiateActs cfg rail v v.order (.move .paymentPending)
  | bind {x : Order} (unknown : truthy v.session.externalOrderId = false) (externalOrderId : Option String) :
      InitiateActs cfg rail v x (.bindOrder externalOrderId)
  | fail {x : Order} : InitiateActs cfg rail v x (.move .paymentFailed)

/-- The reply of a call reports success. -/
def Succeeded (result : Except ServiceError Reply) : Prop := ∃ r, result = .ok r ∧ r.ok = true

theorem succeeded_ok {r : Reply} : Succeeded (.ok r) ↔ r.ok = true := by
  refine ⟨?_, fun ok => ⟨r, rfl, ok⟩⟩
  rintro ⟨_, eq, ok⟩
  cases eq
  exact ok

theorem not_succeeded_error {e : ServiceError} : ¬ Succeeded (.error e) := by
  rintro ⟨_, eq, -⟩
  cases eq

theorem not_succeeded_refused {r : OperationResult} (h : r.ok = false) :
    ¬ Succeeded (.ok (.result r)) := fun succeeded =>
  Bool.false_ne_true (h.symm.trans (succeeded_ok.mp succeeded))

instance : (result : Except ServiceError Reply) → Decidable (Succeeded result)
  | .ok r => decidable_of_iff (r.ok = true) succeeded_ok.symm
  | .error _ => isFalse not_succeeded_error

/-- How `initiatePayment` ends: it reuses an earlier initiation, or it asks the adapter, or it
does not succeed. -/
inductive Initiated (cfg : Config) (rail : String) (c : Contract Services Query.Answer)
    (v : View) : Except ServiceError Reply → View → Prop where
  | reused {r : EnvelopeRecord} {attempt : PaymentAttempt} {reply : OperationResult} {v' : View}
      (payable : v.Payable cfg rail r) (known : truthy v.session.externalOrderId = true)
      (state : v'.order =
        if v.state = .paymentFailed then { v.order with state := .paymentPending } else v.order)
      (ok : reply.ok = true) (returned : reply.attempt = some attempt)
      (bound : attempt.externalOrderId = v.session.externalOrderId)
      (amount : attempt.amountMinor = r.envelope.totalMinor) :
      Initiated cfg rail c v (.ok (.result reply)) v'
  | created {r : EnvelopeRecord} {attempt : PaymentAttempt} {reply : OperationResult}
      {a : Query.Answer (.initiate r.envelope)} {s s₁ : Services} {v₁ v' : View}
      (payable : v.Payable cfg rail r) (unknown : truthy v.session.externalOrderId = false)
      (onRail : rail = PaymentRail.razorpayCheckout.name) (leads : v.state.Leads .paymentPending)
      (asked : c.rely s s₁ ∧ c.answers (.initiate r.envelope) a s₁) (answered : a.result = .ok attempt)
      (resumed : s₁ = s → v₁.order = { v.order with state := .paymentPending })
      (state : v'.order = { v₁.order with externalOrderId := attempt.externalOrderId })
      (ok : reply.ok = true) (returned : reply.attempt = some attempt) :
      Initiated cfg rail c v (.ok (.result reply)) v'
  | failed {result : Except ServiceError Reply} {v' : View}
      (reuse : ∀ r, v.Payable cfg rail r → truthy v.session.externalOrderId = false)
      (create : ∀ r, v.Payable cfg rail r → rail = PaymentRail.razorpayCheckout.name →
        v.state.Leads .paymentPending →
        ∃ a s message, c.answers (.initiate r.envelope) a s ∧ a.result = .error message)
      (failed : ¬ Succeeded result) : Initiated cfg rail c v result v'

section Initiate

variable {seen : Order → Order → Prop} {lic : String → Order → Act → Prop}
  {o : String} {c : Contract Services Query.Answer} {s : Services} {w : Option View}

/-- The use of the operation id lets `initiatePayment` run. -/
def initiatePaymentRuns (cfg : Config) (s : Services) (orderId rail : String)
    (operationId : Option String) : Prop :=
  Runs cfg s operationId
    ⟨"payment.initiate", [("orderId", .text orderId), ("rail", .text rail)]⟩ orderId
    (resumingPrior (["operation_conflict"], ["operation_pending"]))

theorem reuseInitiation_meets {cfg : Config} {rail : String} {operationId : Option String}
    {v : View} {r : EnvelopeRecord} (lawful : Lawful cfg.platform seen lic o c)
    (at_ : s.view? o = some v) (payable : v.Payable cfg rail r)
    (known : truthy v.session.externalOrderId = true)
    (licensed : ∀ x act, InitiateActs cfg rail v x act → lic o x act) :
    (reuseInitiation cfg o operationId v.session r).Meets c
      (Ends o (some v) (Initiated cfg rail c)) s := by
  have ends : ∀ {state s₁ v₁}, s₁.view? o = some v₁ → v₁.order =
      (if v.state = .paymentFailed then { v.order with state := .paymentPending } else v.order) →
      Ends o (some v) (Initiated cfg rail c) (.ok (.result
        { ok := true, state, attempt := some
            { attemptId := cfg.platform.newId "att" v.draws, logicalOrderId := o,
              rail := .razorpayCheckout, externalOrderId := v.session.externalOrderId,
              status := "created", createdAt := r.issuedAt, amountMinor := r.envelope.totalMinor,
              currency := r.envelope.currency } })) s₁ := by
    intro state s₁ v₁ at₁ order
    exact .known at₁ (.reused payable known order rfl rfl rfl rfl)
  refine meets_ite (fun failed => ?_) (fun other => ?_)
  · refine Proc.meets_bind.mpr (meets_setState lawful at_ ?_ ?_ ?_)
    · exact fun _ _ => ⟨payable.approved.1, licensed _ _ (.pend payable)⟩
    · intro _ refused
      exact absurd (by rw [View.state, failed]; decide) refused
    · intro _ s₁ at₁
      refine Proc.meets_bind.mpr (meets_newId lawful at₁ fun s₂ at₂ => ?_)
      refine Proc.meets_bind.mpr (meets_stateOf at₂ ?_)
      exact meets_succeed lawful at₂ fun s₃ at₃ => ends at₃ (by simp [View.state, failed])
  · refine Proc.meets_bind.mpr (meets_newId lawful at_ fun s₂ at₂ => ?_)
    refine Proc.meets_bind.mpr (meets_stateOf at₂ ?_)
    exact meets_succeed lawful at₂ fun s₃ at₃ => ends at₃ (by simp [View.state, other])

/-- Ask the adapter for an order, and record what it answered. -/
theorem createInitiation_meets {cfg : Config} {rail : String} {operationId : Option String}
    {v : View} {r : EnvelopeRecord} (lawful : Lawful cfg.platform seen lic o c)
    (at_ : s.view? o = some v) (payable : v.Payable cfg rail r)
    (unknown : truthy v.session.externalOrderId = false)
    (onRail : rail = PaymentRail.razorpayCheckout.name)
    (licensed : ∀ x act, InitiateActs cfg rail v x act → lic o x act) :
    (do
      setState o .paymentPending
      match ← ask (.initiate r.envelope) with
      | .ok attempt => paymentInitiated cfg o operationId attempt
      | .error message => initiationFailed cfg o operationId message : Svc Reply).Meets c
      (Ends o (some v) (Initiated cfg rail c)) s := by
  have the : ∀ {r'}, v.Payable cfg rail r' → r' = r := fun h =>
    Option.some.inj (h.record.symm.trans payable.record)
  refine Proc.meets_bind.mpr (meets_setState lawful at_ ?_ ?_ ?_)
  · exact fun _ _ => ⟨payable.approved.1, licensed _ _ (.pend payable)⟩
  · intro differ refused
    refine .known at_ (.failed (fun _ _ => unknown) (fun _ _ _ leads => ?_)
      not_succeeded_error)
    exact absurd leads (not_or.mpr ⟨differ, refused⟩)
  · intro leads s₁ at₁
    have starts : Starts s₁ o (.initiate r.envelope) :=
      ⟨_, r, order?_of_view at₁, rfl, payable.approved.1, payable.record, rfl, unknown⟩
    refine Proc.meets_bind.mpr (meets_ask lawful at₁ starts
      fun a s₂ s₃ v₂ rely answers _ still _ at₃ => ?_)
    cases answered : a.result with
    | ok attempt =>
        refine Proc.meets_bind.mpr (meets_updateSession lawful at₃
          (.inr ⟨_, .bindOrder _, licensed _ _ (.bind unknown _)⟩) fun s₄ at₄ => ?_)
        refine Proc.meets_bind.mpr (meets_log lawful at₄ fun s₅ at₅ => ?_)
        refine Proc.meets_bind.mpr (meets_stateOf at₅ ?_)
        refine meets_succeed lawful at₅ fun s₆ at₆ => .known at₆ ?_
        exact .created payable unknown onRail leads ⟨rely, answers⟩ answered
          (fun same => congrArg View.order (still same)) rfl rfl rfl
    | error message =>
        have ends : ∀ {result s₄ v₄}, s₄.view? o = some v₄ → ¬ Succeeded result →
            Ends o (some v) (Initiated cfg rail c) result s₄ := by
          intro result s₄ v₄ at₄ failed
          refine .known at₄ (.failed (fun _ _ => unknown) (fun r' h _ _ => ?_) failed)
          obtain rfl := the h
          exact ⟨a, s₂, message, answers, answered⟩
        refine Proc.meets_bind.mpr (meets_setState lawful at₃ ?_ ?_ ?_)
        · exact fun _ _ => ⟨trivial, licensed _ _ .fail⟩
        · intro _ _
          exact ends at₃ not_succeeded_error
        · intro _ s₄ at₄
          refine Proc.meets_bind.mpr (meets_log lawful at₄ fun s₅ at₅ => ?_)
          refine Proc.meets_bind.mpr (meets_stateOf at₅ ?_)
          exact meets_refuse lawful at₅ fun s₆ at₆ => ends at₆ (not_succeeded_refused rfl)

theorem initiatePayment_meets {cfg : Config} {rail : String} {operationId : Option String}
    (lawful : Lawful cfg.platform seen lic o c) (at_ : s.view? o = w)
    (licensed : ∀ v, w = some v → initiatePaymentRuns cfg s o rail operationId →
      ∀ x act, InitiateActs cfg rail v x act → lic o x act) :
    (initiatePayment cfg o rail operationId).Meets c
      (Ends o w (Under (initiatePaymentRuns cfg s o rail operationId) (Initiated cfg rail c))) s := by
  refine idempotent_meets lawful at_ fun s₁ runs at₁ => ?_
  refine Proc.meets_bind.mpr (meets_session? at₁ ?_)
  cases w with
  | none => exact meets_refuse lawful at₁ fun _ _ => .unknown
  | some v =>
  have licensed := licensed v rfl runs
  -- Where nothing can be paid, the operation is refused.
  have refused : ∀ {e state codes}, (∀ r, v.Payable cfg rail r → False) → ∀ {s' v'},
      s'.view? o = some v' → (refuse operationId
        { ok := false, state, error := some e, reasonCodes := codes }).Meets c
          (Ends o (some v) (Initiated cfg rail c)) s' := by
    intro e state codes h s' v' at'
    refine meets_refuse lawful at' fun s'' at'' => .known at'' ?_
    exact .failed (fun r payable => (h r payable).elim) (fun r payable => (h r payable).elim)
      (not_succeeded_refused rfl)
  refine Proc.meets_bind.mpr (meets_record? at₁ ?_)
  cases record : v.record with
  | none => exact refused (fun r h => by cases record.symm.trans h.record) at₁
  | some r =>
  have the : ∀ {r'}, v.Payable cfg rail r' → r' = r := fun h =>
    Option.some.inj (h.record.symm.trans record)
  refine Proc.meets_bind.mpr (meets_liftResult (fun active known => ?_) fun m unknown => ?_)
  · refine meets_ite (fun inactive => ?_) (fun holds => ?_)
    · refine refused (fun r' h => ?_) at₁
      obtain rfl := the h
      simp [Except.ok.inj (known.symm.trans h.active)] at inactive
    replace holds : active = true := by simpa using holds
    subst holds
    refine meets_ite (fun paid => refused (fun r' h => ?_) at₁) (fun unpaid => ?_)
    · exact Bool.false_ne_true (h.unpaid.symm.trans paid)
    refine meets_ite (fun settled => ?_) (fun unsettled => ?_)
    · exact Proc.meets_bind.mpr (meets_log lawful at₁ fun s₂ at₂ =>
        refused (fun r' h => Bool.false_ne_true (h.unsettled.symm.trans settled)) at₂)
    refine Proc.meets_bind.mpr (meets_read ?_)
    dsimp only
    rw [verdict_eq at₁]
    refine meets_ite (fun blocked => ?_) (fun allowed => ?_)
    · refine Proc.meets_bind.mpr (meets_log lawful at₁ fun s₂ at₂ => refused (fun r' h => ?_) at₂)
      obtain rfl := the h
      simp [h.allowed] at blocked
    refine meets_ite (fun little => refused (fun r' h => ?_) at₁) (fun enough => ?_)
    · obtain rfl := the h
      exact absurd h.enough (not_le.mpr little)
    have payable : v.Payable cfg rail r :=
      ⟨record, known, Bool.eq_false_iff.mpr unpaid, Bool.eq_false_iff.mpr unsettled,
        by simpa using allowed, not_lt.mp enough⟩
    refine meets_ite (fun known => reuseInitiation_meets lawful at₁ payable known licensed)
      (fun unknown => ?_)
    replace unknown := Bool.eq_false_iff.mpr unknown
    refine meets_ite (fun other => ?_) (fun onRail => ?_)
    · refine meets_refuse lawful at₁ fun s₂ at₂ => .known at₂ ?_
      exact .failed (fun _ _ => unknown) (fun _ _ onRail => absurd onRail other)
        (not_succeeded_refused rfl)
    · exact createInitiation_meets lawful at₁ payable unknown (not_not.mp onRail) licensed
  · have unpayable : ∀ r', v.Payable cfg rail r' → False := fun r' h => by
      obtain rfl := the h
      cases unknown.symm.trans h.active
    exact .known at₁ (.failed (fun r' h => (unpayable r' h).elim)
      (fun r' h => (unpayable r' h).elim) not_succeeded_error)

end Initiate

end AgentReady
