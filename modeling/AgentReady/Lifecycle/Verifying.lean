import AgentReady.Lifecycle.Initiating

/-!
What `mockCapture` and `verifyPayment` do to an order.

`verifyPayment` looks at the order before it asks the adapter, and writes to the order it
finds when the answer is there: `VerifyEnds.settled` keeps the two apart.
-/

namespace AgentReady

open Coop Svc

/-- The verification is asked of the adapter: nothing verified is stored, and the submitted
order is the session's. -/
structure View.Asks (v : View) (externalOrderId : String) (r : EnvelopeRecord) : Prop where
  record : v.record = some r
  unverified : VerificationResult.isVerified v.session.verification = false
  same : v.session.externalOrderId = some externalOrderId

/-- The verification repeats one that is stored. -/
structure View.Repeats (v : View) (externalOrderId externalPaymentId : String) : Prop where
  record : v.record.isSome
  verified : VerificationResult.isVerified v.session.verification = true
  same : repeatsVerification v.session externalOrderId externalPaymentId = true

/-- What the adapter is asked to verify. -/
def verificationInput (orderId externalOrderId externalPaymentId signature : String)
    (r : EnvelopeRecord) : VerificationInput where
  logicalOrderId := orderId
  envelopeHash := r.digest
  rail := .razorpayCheckout
  externalOrderId := externalOrderId
  externalPaymentId := externalPaymentId
  expectedAmountMinor := r.envelope.totalMinor
  signature := signature

/-- The order with the adapter's result stored. -/
def Order.evidenced (x : Order) (result : VerificationResult) (paymentId : String) : Order :=
  { x with verification := some result, externalPaymentId := some paymentId }

/-- A fetched payment is verified and binds to the order and its record. -/
def Binds (result : VerificationResult) (externalOrderId : Option String) (r : EnvelopeRecord) :
    Prop :=
  result.verified = true ∧ bindingFailures result externalOrderId r = []

instance (result : VerificationResult) (externalOrderId : Option String) (r : EnvelopeRecord) :
    Decidable (Binds result externalOrderId r) := inferInstanceAs (Decidable (_ ∧ _))

/-- The state a fetched payment leads to. -/
def verificationTarget (result : VerificationResult) (x : Order) (r : EnvelopeRecord) :
    OrderState :=
  if Binds result x.externalOrderId r then .paidVerified else .paymentFailed

/-- What becomes of an order when a fetched payment is stored in it. -/
def Settles (fetched : VerificationResult) (paymentId : String) (r : EnvelopeRecord) (x : Order)
    (result : Except ServiceError Reply) (y : Order) : Prop :=
  let target := verificationTarget fetched x r
  (x.state.Leads target ∧ ¬ Illegal result ∧ (Succeeded result ↔ Binds fetched x.externalOrderId r) ∧
    y = { x.evidenced fetched paymentId with state := target }) ∨
  (¬ x.state.Leads target ∧ Illegal result ∧ ¬ Succeeded result ∧ y = x.evidenced fetched paymentId)

inductive VerifyActs (o externalOrderId externalPaymentId signature : String)
    (c : Contract Services Query.Answer) (v : View) : Order → Act → Prop where
  | fail {x : Order} : VerifyActs o externalOrderId externalPaymentId signature c v x
      (.move .paymentFailed)
  | verify {x : Order} {r : EnvelopeRecord} {result : VerificationResult} {s : Services}
      {a : Query.Answer (.verify
        (verificationInput o externalOrderId externalPaymentId signature r))}
      (asks : v.Asks externalOrderId r) (answers : c.answers _ a s) (answered : a.result = .ok result)
      (found : s.order? o = some x) :
      VerifyActs o externalOrderId externalPaymentId signature c v x
        (.verify result externalPaymentId)
  | pay {x : Order} : VerifyActs o externalOrderId externalPaymentId signature c v x
      (.move .paidVerified)

/-- How `verifyPayment` ends. -/
inductive VerifyEnds (o externalOrderId externalPaymentId signature : String)
    (c : Contract Services Query.Answer) (v : View) (result : Except ServiceError Reply)
    (v' : View) : Prop where
  | repeated (repeats : v.Repeats externalOrderId externalPaymentId) (order : v'.order = v.order)
      (succeeded : Succeeded result) (legal : ¬ Illegal result)
  | unasked (different : ¬ v.Repeats externalOrderId externalPaymentId)
      (unasked : ∀ r, ¬ v.Asks externalOrderId r)
      (order : v'.order = v.order ∨
        (¬ Illegal result ∧ v'.order = { v.order with state := .paymentFailed }))
      (failed : ¬ Succeeded result)
  | unanswered {r : EnvelopeRecord} {s s₁ : Services} {message : String}
      {a : Query.Answer (.verify
        (verificationInput o externalOrderId externalPaymentId signature r))}
      (asks : v.Asks externalOrderId r) (asked : c.rely s s₁ ∧ c.answers _ a s₁)
      (answered : a.result = .error message) (order : s₁ = s → v'.order = v.order)
      (failed : ¬ Succeeded result) (legal : ¬ Illegal result)
  | settled {r : EnvelopeRecord} {s s₁ : Services} {fetched : VerificationResult} {x : Order}
      {a : Query.Answer (.verify
        (verificationInput o externalOrderId externalPaymentId signature r))}
      (asks : v.Asks externalOrderId r) (asked : c.rely s s₁ ∧ c.answers _ a s₁)
      (answered : a.result = .ok fetched) (resumed : s₁ = s → x = v.order)
      (settles : Settles fetched externalPaymentId r x result v'.order)

section Verify

variable {seen : Order → Order → Prop} {lic : String → Order → Act → Prop}
  {o : String} {c : Contract Services Query.Answer} {s : Services} {w : Option View}

theorem mockCapture_meets {cfg : Config} (at_ : s.view? o = w) :
    (mockCapture cfg o).Meets c (Ends o w fun v _ v' => v'.order = v.order) s := by
  refine Proc.meets_bind.mpr (meets_session? at_ ?_)
  cases w with
  | none => exact .unknown
  | some v =>
  refine meets_ite (fun _ => .known at_ rfl) (fun _ => ?_)
  refine meets_ite (fun _ => .known at_ rfl) (fun _ => ?_)
  exact Proc.meets_bind.mpr (meets_now at_ (.known at_ rfl))

theorem reconcileHeld_meets {cfg : Config} {v : View} (lawful : Lawful cfg.platform seen lic o c)
    {post : Except ServiceError Unit → Services → Prop} (at_ : s.view? o = some v)
    (next : ∀ s' v', s'.view? o = some v' → v'.order = v.order → post (.ok ()) s') :
    (reconcileHeld cfg o).Meets c post s := by
  refine Proc.meets_bind.mpr (meets_session? at_ ?_)
  dsimp only [Option.map_some, Option.bind_some]
  cases v.session.heldWebhook with
  | none => exact next s v at_ rfl
  | some held =>
      refine Proc.meets_bind.mpr (meets_updateSession lawful at_ (.inl rfl) fun s₁ at₁ => ?_)
      refine Proc.meets_bind.mpr (meets_markProcessed lawful at₁ fun s₂ at₂ => ?_)
      exact meets_log lawful at₂ fun s₃ at₃ => next s₃ _ at₃ rfl

/-- `settleVerification` stores the fetched payment and moves the order to its target. -/
theorem settleVerification_meets {cfg : Config} {v : View} {r : EnvelopeRecord}
    {externalOrderId externalPaymentId : String} {operationId : Option String}
    {fetched : VerificationResult} (lawful : Lawful cfg.platform seen lic o c)
    (at_ : s.view? o = some v)
    (stores : Step cfg.platform seen v.order (.verify fetched externalPaymentId)
      (v.order.evidenced fetched externalPaymentId))
    (pays : Binds fetched v.order.externalOrderId r →
      Admits seen (v.order.evidenced fetched externalPaymentId) .paidVerified)
    (verify : lic o v.order (.verify fetched externalPaymentId))
    (move : ∀ x, lic o x (.move .paidVerified) ∧ lic o x (.move .paymentFailed)) :
    (settleVerification cfg o externalOrderId externalPaymentId operationId r fetched).Meets c
      (fun result s' => ∃ v', s'.view? o = some v' ∧
        Settles fetched externalPaymentId r v.order result v'.order) s := by
  refine Proc.meets_bind.mpr (meets_updateSession lawful at_ (.inr ⟨_, stores, verify⟩)
    fun s₁ at₁ => ?_)
  have failing : ∀ {type actor code message}, ¬ Binds fetched v.order.externalOrderId r →
      (paymentFailed cfg o externalPaymentId operationId type actor code message).Meets c
        (fun result s' => ∃ v', s'.view? o = some v' ∧
          Settles fetched externalPaymentId r v.order result v'.order) s₁ := by
    intro type actor code message unbound
    have target : verificationTarget fetched v.order r = .paymentFailed := if_neg unbound
    refine Proc.meets_bind.mpr (meets_setState lawful at₁ ?_ ?_ ?_)
    · exact fun _ _ => ⟨trivial, (move _).2⟩
    · intro differ refused
      refine ⟨_, at₁, .inr ⟨?_, trivial, not_succeeded_error, rfl⟩⟩
      rw [target]
      exact not_or.mpr ⟨differ, refused⟩
    · intro leads s₂ at₂
      refine Proc.meets_bind.mpr (meets_log lawful at₂ fun s₃ at₃ => ?_)
      refine Proc.meets_bind.mpr (meets_stateOf at₃ ?_)
      refine meets_refuse lawful at₃ fun s₄ at₄ => ⟨_, at₄, .inl ?_⟩
      rw [target]
      exact ⟨leads, id, iff_of_false (not_succeeded_refused rfl) unbound, rfl⟩
  refine meets_ite (fun unverified => ?_) (fun verified => ?_)
  · exact failing fun binds => by simp [binds.1] at unverified
  refine Proc.meets_bind.mpr (meets_session? at₁ ?_)
  refine meets_ite (fun unbound => ?_) (fun bound => ?_)
  · change (!(bindingFailures fetched v.order.externalOrderId r).isEmpty) = true at unbound
    exact failing fun binds => by simp [binds.2] at unbound
  have binds : Binds fetched v.order.externalOrderId r := by
    change ¬ (!(bindingFailures fetched v.order.externalOrderId r).isEmpty) = true at bound
    exact ⟨by simpa using verified, by simpa using bound⟩
  have target : verificationTarget fetched v.order r = .paidVerified := if_pos binds
  refine Proc.meets_bind.mpr (meets_setState lawful at₁ ?_ ?_ ?_)
  · exact fun _ _ => ⟨pays binds, (move _).1⟩
  · intro differ refused
    refine ⟨_, at₁, .inr ⟨?_, trivial, not_succeeded_error, rfl⟩⟩
    rw [target]
    exact not_or.mpr ⟨differ, refused⟩
  · intro leads s₂ at₂
    refine Proc.meets_bind.mpr (meets_log lawful at₂ fun s₃ at₃ => ?_)
    refine Proc.meets_bind.mpr (reconcileHeld_meets lawful at₃ fun s₄ v₄ at₄ order => ?_)
    refine Proc.meets_bind.mpr (meets_stateOf at₄ ?_)
    refine meets_succeed lawful at₄ fun s₅ at₅ => ⟨v₄, at₅, .inl ?_⟩
    rw [target]
    exact ⟨leads, id, iff_of_true ⟨_, rfl, rfl⟩ binds, order⟩

/-- The use of the operation id lets `verifyPayment` run. -/
def verifyPaymentRuns (cfg : Config) (s : Services) (orderId externalOrderId externalPaymentId : String)
    (operationId : Option String) : Prop :=
  Runs cfg s operationId
    ⟨"payment.verify", [("orderId", .text orderId), ("externalOrderId", .text externalOrderId),
      ("externalPaymentId", .text externalPaymentId)]⟩ orderId verifyPrior

theorem verifyPayment_meets {cfg : Config}
    {externalOrderId externalPaymentId signature : String} {operationId : Option String}
    (lawful : Lawful cfg.platform seen lic o c) (at_ : s.view? o = w)
    (licensed : ∀ v, w = some v →
      verifyPaymentRuns cfg s o externalOrderId externalPaymentId operationId →
      ∀ x act, VerifyActs o externalOrderId externalPaymentId signature c v x act → lic o x act) :
    (verifyPayment cfg o externalOrderId externalPaymentId signature operationId).Meets c
      (Ends o w (Under (verifyPaymentRuns cfg s o externalOrderId externalPaymentId operationId)
        (VerifyEnds o externalOrderId externalPaymentId signature c))) s := by
  refine idempotent_meets lawful at_ fun s₁ runs at₁ => ?_
  refine Proc.meets_bind.mpr (meets_session? at₁ ?_)
  cases w with
  | none => exact meets_refuse lawful at₁ fun _ _ => .unknown
  | some v =>
  have licensed := licensed v rfl runs
  refine Proc.meets_bind.mpr (meets_record? at₁ ?_)
  cases record : v.record with
  | none =>
      refine meets_refuse lawful at₁ fun s₂ at₂ => .known at₂ ?_
      refine .unasked (fun h => ?_) (fun r h => ?_) (.inl rfl) (not_succeeded_refused rfl)
      · simpa [record] using h.record
      · cases record.symm.trans h.record
  | some r =>
  refine meets_ite (fun verified => ?_) (fun unverified => ?_)
  · have unasked : ∀ r, ¬ v.Asks externalOrderId r := fun r h =>
      Bool.false_ne_true (h.unverified.symm.trans verified)
    refine meets_ite (fun same => ?_) (fun differs => ?_)
    · refine meets_succeed lawful at₁ fun s₂ at₂ => .known at₂ ?_
      exact .repeated ⟨by simp [record], verified, same⟩ rfl ⟨_, rfl, rfl⟩ id
    · refine Proc.meets_bind.mpr (meets_log lawful at₁ fun s₂ at₂ => ?_)
      refine meets_refuse lawful at₂ fun s₃ at₃ => .known at₃ ?_
      exact .unasked (fun h => differs h.same) unasked (.inl rfl) (not_succeeded_refused rfl)
  have different : ¬ v.Repeats externalOrderId externalPaymentId := fun h => unverified h.verified
  refine meets_ite (fun mismatch => ?_) (fun same => ?_)
  · have unasked : ∀ r, ¬ v.Asks externalOrderId r := fun r h => mismatch h.same
    refine Proc.meets_bind.mpr (meets_log lawful at₁ fun s₂ at₂ => ?_)
    refine Proc.meets_bind.mpr (meets_setState lawful at₂ ?_ ?_ ?_)
    · exact fun _ _ => ⟨trivial, licensed _ _ .fail⟩
    · intro _ _
      exact .known at₂ (.unasked different unasked (.inl rfl) not_succeeded_error)
    · intro _ s₃ at₃
      refine Proc.meets_bind.mpr (meets_stateOf at₃ ?_)
      refine meets_refuse lawful at₃ fun s₄ at₄ => .known at₄ ?_
      exact .unasked different unasked (.inr ⟨id, rfl⟩) (not_succeeded_refused rfl)
  have asks : v.Asks externalOrderId r :=
    ⟨record, Bool.eq_false_iff.mpr unverified, not_not.mp same⟩
  refine Proc.meets_bind.mpr (meets_ask lawful at₁ trivial
    fun a s₂ s₃ v₂ rely answers seen₂ still at₂ at₃ => ?_)
  refine Proc.meets_bind.mpr (meets_liftResult (fun fetched answered => ?_) fun m answered => ?_)
  · refine (settleVerification_meets lawful at₃ ?_ (fun binds => ?_) ?_
      fun x => ⟨licensed _ _ .pay, licensed _ _ .fail⟩).mono ?_
    · exact .verify seen₂ unverified
    · refine ⟨fetched, externalPaymentId, ⟨rfl, binds.1, rfl⟩, v.order, v₂.order, r, seen₂, rfl,
        record, ?_⟩
      have := binds.2
      simp only [bindingFailures, List.append_eq_nil_iff, codeWhen_eq_nil] at this
      simpa using this.1.1.2
    · have found : s₂.order? o = some v₂.order := order?_of_view at₂
      exact licensed _ _ (.verify asks answers answered found)
    · rintro result s₄ ⟨v₄, at₄, settles⟩
      exact .known at₄ (.settled asks ⟨rely, answers⟩ answered
        (fun same => congrArg View.order (still same)) settles)
  · refine .known at₃ (.unanswered asks ⟨rely, answers⟩ answered (fun same => ?_)
      not_succeeded_error id)
    rw [View.order_at_, still same]

end Verify

end AgentReady
