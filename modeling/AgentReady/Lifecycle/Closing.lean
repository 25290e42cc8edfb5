import AgentReady.Lifecycle.Settling

/-!
What `fulfil` and `compensate` do to an order.
-/

namespace AgentReady

open Coop Svc

section Closing

variable {seen : Order → Order → Prop} {lic : String → Order → Act → Prop}
  {o : String} {c : Contract Services Query.Answer} {s : Services} {w : Option View}

/-! ### Fulfilment -/

def fulfilmentStates : List OrderState := [.fulfilmentPending, .fulfilmentFailed, .fulfilled]

theorem fulfil_meets {cfg : Config} {fail : Bool} {operationId : Option String}
    (lawful : Lawful cfg.platform seen lic o c) (at_ : s.view? o = w)
    (licensed : ∀ v, w = some v → ∀ x next, next ∈ fulfilmentStates → lic o x (.move next)) :
    (fulfil cfg o fail operationId).Meets c (fun _ _ => True) s := by
  refine meets_idempotent lawful at_ (fun _ _ _ _ => trivial) (fun _ _ _ _ => trivial)
    fun s₁ _ at₁ => ?_
  refine Proc.meets_bind.mpr (meets_session? at₁ ?_)
  cases w with
  | none => exact meets_refuse lawful at₁ fun _ _ => trivial
  | some v =>
  have licensed := licensed v rfl
  refine meets_ite (fun _ => meets_refuse lawful at₁ fun _ _ => trivial) (fun _ => ?_)
  refine Proc.meets_bind.mpr (meets_setState lawful at₁
    (fun _ _ => ⟨trivial, licensed _ _ (by decide)⟩) (fun _ _ => trivial) fun _ s₂ at₂ => ?_)
  refine meets_ite (fun _ => ?_) (fun _ => ?_)
  · refine Proc.meets_bind.mpr (meets_setState lawful at₂
      (fun _ _ => ⟨trivial, licensed _ _ (by decide)⟩) (fun _ _ => trivial) fun _ s₃ at₃ => ?_)
    refine Proc.meets_bind.mpr (meets_log lawful at₃ fun s₄ at₄ => ?_)
    exact Proc.meets_bind.mpr (meets_stateOf at₄ (meets_refuse lawful at₄ fun _ _ => trivial))
  · refine Proc.meets_bind.mpr (meets_setState lawful at₂
      (fun _ _ => ⟨trivial, licensed _ _ (by decide)⟩) (fun _ _ => trivial) fun _ s₃ at₃ => ?_)
    refine Proc.meets_bind.mpr (meets_log lawful at₃ fun s₄ at₄ => ?_)
    exact Proc.meets_bind.mpr (meets_stateOf at₄ (meets_succeed lawful at₄ fun _ _ => trivial))

/-! ### Compensation -/

/-- A refund may be started: the order failed to be fulfilled, or is being compensated, and its
record and payment id are there. -/
structure View.Refundable (v : View) (r : EnvelopeRecord) (paymentId : String) : Prop where
  state : v.state = .fulfilmentFailed ∨ v.state = .compensationPending
  record : v.record = some r
  paid : v.session.externalPaymentId = some paymentId
  named : paymentId ≠ ""

/-- The payment was made over the mock Agent Pay rail. -/
def Session.paidByAgent (x : Session) : Bool := x.verification.any (·.rail = .x402Solana)

inductive CompensateActs (v : View) : Order → Act → Prop where
  | start : CompensateActs v v.order (.move .compensationPending)
  | close {x : Order} {next : OrderState} (closing : next = .refunded ∨ next = .manualReview) :
      CompensateActs v x (.move next)

/-- How `compensate` ends: nothing can be refunded, or the order is closed, after the adapter
was asked for a payment that it made. -/
inductive Compensated (orderId : String) (c : Contract Services Query.Answer) (v : View)
    (v' : View) : Prop where
  | refused (unrefundable : ∀ r paymentId, ¬ v.Refundable r paymentId)
  | mocked {r : EnvelopeRecord} {paymentId : String} (refundable : v.Refundable r paymentId)
      (agent : v.session.paidByAgent = true) (state : v'.state = .refunded)
  | asked {r : EnvelopeRecord} {paymentId : String} {s s₁ : Services}
      {a : Query.Answer (.compensate (refundInput orderId paymentId r))}
      (refundable : v.Refundable r paymentId) (adapter : v.session.paidByAgent = false)
      (asked : c.rely s s₁ ∧ c.answers _ a s₁)
      (state : s₁ = s → v'.state = .refunded ∨ v'.state = .manualReview)

/-- Closing an order as refunded. -/
theorem refunded_meets {cfg : Config} {operationId : Option String} {compensation : Compensation}
    {type reasonCode : String} {references : List (String × String)} {v : View}
    {post : Except ServiceError Reply → Services → Prop}
    (lawful : Lawful cfg.platform seen lic o c) (at_ : s.view? o = some v)
    (licensed : ∀ x, lic o x (.move .refunded))
    (refused : ∀ e s' v', v.state ≠ .refunded → .refunded ∉ v.state.allowedTransitions →
      s'.view? o = some v' → v'.state = v.state → post (.error e) s')
    (next : ∀ r s' v', s'.view? o = some v' → v'.state = .refunded → post (.ok r) s') :
    (refunded cfg o operationId compensation type reasonCode references).Meets c post s := by
  refine Proc.meets_bind.mpr (meets_updateSession lawful at_ (.inl rfl) fun s₁ at₁ => ?_)
  refine Proc.meets_bind.mpr (meets_setState lawful at₁ ?_ ?_ ?_)
  · exact fun _ _ => ⟨trivial, licensed _⟩
  · exact fun differ refusal => refused _ _ _ differ refusal at₁ rfl
  · intro _ s₂ at₂
    refine Proc.meets_bind.mpr (meets_log lawful at₂ fun s₃ at₃ => ?_)
    refine Proc.meets_bind.mpr (meets_stateOf at₃ ?_)
    exact meets_succeed lawful at₃ fun s₄ at₄ => next _ _ _ at₄ rfl

theorem refundFailed_meets {cfg : Config} {operationId : Option String} {message : String}
    {v : View} {post : Except ServiceError Reply → Services → Prop}
    (lawful : Lawful cfg.platform seen lic o c) (at_ : s.view? o = some v)
    (licensed : ∀ x, lic o x (.move .manualReview))
    (refused : ∀ e, v.state ≠ .manualReview → .manualReview ∉ v.state.allowedTransitions →
      post (.error e) s)
    (next : ∀ r s' v', s'.view? o = some v' → v'.state = .manualReview → post (.ok r) s') :
    (refundFailed cfg o operationId message).Meets c post s := by
  refine Proc.meets_bind.mpr (meets_setState lawful at_ ?_ ?_ ?_)
  · exact fun _ _ => ⟨trivial, licensed _⟩
  · exact fun differ refusal => refused _ differ refusal
  · intro _ s₁ at₁
    refine Proc.meets_bind.mpr (meets_log lawful at₁ fun s₂ at₂ => ?_)
    refine Proc.meets_bind.mpr (meets_stateOf at₂ ?_)
    exact meets_refuse lawful at₂ fun s₃ at₃ => next _ _ _ at₃ rfl

/-- The use of the operation id lets `compensate` run. -/
def compensateRuns (cfg : Config) (s : Services) (orderId : String)
    (operationId : Option String) : Prop :=
  Runs cfg s operationId ⟨"compensation.refund", [("orderId", .text orderId)]⟩ orderId
    fulfilmentPrior

theorem compensate_meets {cfg : Config} {operationId : Option String}
    (lawful : Lawful cfg.platform seen lic o c) (at_ : s.view? o = w)
    (licensed : ∀ v, w = some v → compensateRuns cfg s o operationId →
      ∀ x act, CompensateActs v x act → lic o x act) :
    (compensate cfg o operationId).Meets c
      (Ends o w fun v _ v' => compensateRuns cfg s o operationId → Compensated o c v v') s := by
  refine meets_idempotent lawful at_ (fun _ s' idle at' v known => ?_)
    (fun _ s' idle at' v known => ?_) fun s₁ runs at₁ => ?_
  · exact ⟨v, at'.trans known, fun runs => absurd runs idle⟩
  · exact ⟨v, at'.trans known, fun runs => absurd runs idle⟩
  refine Proc.meets_bind.mpr (meets_session? at₁ ?_)
  cases w with
  | none => exact meets_refuse lawful at₁ fun _ _ => .unknown
  | some v =>
  have licensed := licensed v rfl runs
  refine meets_ite (fun other => ?_) (fun started => ?_)
  · refine meets_refuse lawful at₁ fun s₂ at₂ => .known at₂ fun _ => .refused fun r pid h => ?_
    exact h.state.elim other.1 other.2
  have started : v.state = .fulfilmentFailed ∨ v.state = .compensationPending :=
    (not_and_or.mp started).imp not_not.mp not_not.mp
  refine Proc.meets_bind.mpr (meets_record? at₁ ?_)
  cases record : v.record with
  | none =>
      refine meets_refuse lawful at₁ fun s₂ at₂ => .known at₂ fun _ => .refused fun r pid h => ?_
      cases record.symm.trans h.record
  | some r =>
  refine meets_ite (fun unpaid => ?_) (fun paid => ?_)
  · refine meets_refuse lawful at₁ fun s₂ at₂ => .known at₂ fun _ => .refused fun r pid h => ?_
    simp [truthy, h.paid, h.named] at unpaid
  obtain ⟨paymentId, refundable⟩ : ∃ paymentId, v.Refundable r paymentId := by
    cases named : v.session.externalPaymentId with
    | none => simp [truthy, named] at paid
    | some paymentId => exact ⟨paymentId, started, record, named, by simpa [truthy, named] using paid⟩
  dsimp only
  simp only [refundable.paid, Option.getD_some]
  refine Proc.meets_bind.mpr (meets_setState lawful at₁ ?_ ?_ fun _ s₂ at₂ => ?_)
  · intro differ _
    exact ⟨started.resolve_right differ, licensed _ _ .start⟩
  · intro differ refused
    exact absurd (by rw [started.resolve_right differ]; decide) refused
  refine meets_ite (fun agent => ?_) (fun adapter => ?_)
  · refine refunded_meets lawful at₂ (fun x => licensed _ _ (.close (.inl rfl))) ?_ ?_
    · intro e s₃ v₃ _ refused _ _
      exact absurd (show OrderState.refunded ∈ OrderState.compensationPending.allowedTransitions by
        decide) refused
    · exact fun reply s₃ v₃ at₃ state => .known at₃ fun _ => .mocked refundable agent state
  · replace adapter : v.session.paidByAgent = false := Bool.eq_false_iff.mpr adapter
    have starts : Starts s₂ o (.compensate (refundInput o paymentId r)) :=
      ⟨_, r, paymentId, order?_of_view at₂, rfl, refundable.record, refundable.paid, rfl⟩
    refine Proc.meets_catch.mpr ?_
    refine Proc.meets_bind.mpr (meets_ask lawful at₂ starts
      fun a s₃ s₄ v₃ rely answers _ still _ at₄ => ?_)
    have ends : ∀ {result : Except ServiceError Reply} {s₅ v₅}, s₅.view? o = some v₅ →
        (s₃ = s₂ → v₅.state = .refunded ∨ v₅.state = .manualReview) →
        Ends o (some v) (fun v _ v' => compensateRuns cfg s o operationId → Compensated o c v v')
          result s₅ :=
      fun at₅ state => .known at₅ fun _ => .asked refundable adapter ⟨rely, answers⟩ state
    have pending : s₃ = s₂ → v₃.state = .compensationPending := fun same => by
      rw [still same]
      rfl
    -- A refund that cannot be recorded is handled as one that failed.
    have failed : ∀ {message s₅ v₅}, s₅.view? o = some v₅ → v₅.state = v₃.state →
        (refundFailed cfg o operationId message).Meets c (Ends o (some v)
          fun v _ v' => compensateRuns cfg s o operationId → Compensated o c v v') s₅ := by
      intro message s₅ v₅ at₅ same
      refine refundFailed_meets lawful at₅ (fun x => licensed _ _ (.close (.inr rfl))) ?_ ?_
      · intro e _ refusal
        refine ends at₅ fun undisturbed => absurd ?_ refusal
        rw [same, pending undisturbed]
        decide
      · exact fun reply s₆ v₆ at₆ state => ends at₆ fun _ => .inr state
    refine Proc.meets_bind.mpr (meets_liftResult (fun refund _ => ?_) fun message _ => ?_)
    · refine refunded_meets lawful at₄ (fun x => licensed _ _ (.close (.inl rfl))) ?_ ?_
      · exact fun e s₅ v₅ _ _ at₅ same => failed at₅ same
      · exact fun reply s₅ v₅ at₅ state => ends at₅ fun _ => .inl state
    · exact failed at₄ rfl

end Closing

end AgentReady
