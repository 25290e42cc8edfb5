import AgentReady.Lifecycle.Runs

/-!
What a verification of a payment means.

The fetched payment is stored before it is found not to bind, and a payment that is stored as verified is
taken for a repeat.

* `verification_means_paid`: a verification that succeeds leaves a paid order, and a payment that does not
  bind leaves no verified evidence, if and only if no payment fails to bind and nothing is repeated or
  replayed for an order that is not paid.
-/

namespace AgentReady

open Coop Svc

/-- `PAID_VERIFIED`, and the states that come after it. -/
def paidOrLater : List OrderState :=
  [.paidVerified, .fulfilmentPending, .fulfilmentFailed, .fulfilled, .compensationPending, .refunded,
    .manualReview]

/-- A payment that is submitted for verification. -/
structure Submission where
  orderId : String
  externalOrderId : String
  externalPaymentId : String
  signature : String
  operationId : Option String

namespace Submission

variable (p : Submission)

def call (answer : (q : Query) → q.Answer) (time : Int) : Call :=
  ⟨.verifyPayment p.orderId p.externalOrderId p.externalPaymentId p.signature p.operationId, answer, time⟩

def Runs (cfg : Config) (s : Services) : Prop :=
  verifyPaymentRuns cfg s p.orderId p.externalOrderId p.externalPaymentId p.operationId

def request : OperationRequest :=
  ⟨"payment.verify", [("orderId", .text p.orderId), ("externalOrderId", .text p.externalOrderId),
    ("externalPaymentId", .text p.externalPaymentId)]⟩

/-- The reply that stands under the operation id. -/
def replayed? (cfg : Config) (s : Services) : Option Reply :=
  match p.operationId with
  | none => none
  | some id =>
      if id = "" then none
      else match verifyPrior (OperationStore.begin_ cfg.platform s.clock s.operations id p.request p.orderId).1
          (((s.sessions.get? p.orderId).map (·.state)).getD .draft) with
        | .reply r => some r
        | _ => none

/-- The adapter fetches a verified payment that does not bind to the order. -/
def Misbinds (cfg : Config) (answer : (q : Query) → q.Answer) (s : Services) (v : View) : Prop :=
  p.Runs cfg s ∧ ∃ r fetched, v.Asks p.externalOrderId r ∧
    (answer (.verify (verificationInput p.orderId p.externalOrderId p.externalPaymentId p.signature r))).result =
      .ok fetched ∧
    fetched.verified = true ∧ bindingFailures fetched v.session.externalOrderId r ≠ []

/-- The payment is stored as verified, or its success is replayed, and the order is not paid. -/
structure Presumes (cfg : Config) (s : Services) (v : View) : Prop where
  unpaid : v.state ∉ paidOrLater
  known : (p.Runs cfg s ∧ v.Repeats p.externalOrderId p.externalPaymentId) ∨
    ∃ r, p.replayed? cfg s = some r ∧ r.ok = true

end Submission

/-- A success means a paid order, and a payment that does not bind is not kept as verified. -/
structure MeansPaid (misbinds : Prop) (result : Except ServiceError Reply) (v' : View) : Prop where
  success : Succeeded result → v'.state ∈ paidOrLater
  rejected : misbinds → ¬ v'.order.IsVerified

section Verification

variable {cfg : Config} {s : Services} {p : Submission} {answer : (q : Query) → q.Answer} {time : Int} {v v' : View}

/-- An operation whose prior use has a reply returns it. -/
theorem idempotent_replies {id : String} {request : OperationRequest} {aggregate : String}
    {prior : IdempotencyResult Reply → OrderState → Prior} {body : Svc Reply} {r : Reply} (nonempty : id ≠ "")
    (replies : prior (OperationStore.begin_ cfg.platform s.clock s.operations id request aggregate).1
      (((s.sessions.get? aggregate).map (·.state)).getD .draft) = .reply r) :
    ((idempotent cfg (some id) request aggregate prior body).run answer s).result = .ok r := by
  simp only [idempotent, if_neg nonempty, Proc.run_bind, Proc.run_read]
  generalize OperationStore.begin_ cfg.platform s.clock s.operations id request aggregate = b at replies ⊢
  obtain ⟨result, operations⟩ := b
  simp only [Proc.run_bind, Proc.run_modify, stateOf, session?, Proc.run_read, Proc.run_pure]
  simp only [replies, Proc.run_pure]

/-- A submission runs, or is answered with what stands under its operation id. -/
theorem Submission.runs_or_replays (cfg : Config) (s : Services) (p : Submission) :
    (p.Runs cfg s ∧ p.replayed? cfg s = none) ∨
      ¬ p.Runs cfg s ∧ ∃ r, p.replayed? cfg s = some r ∧ ∀ (answer : (q : Query) → q.Answer),
        ((p.call answer s.clock).run cfg s).result = .ok r := by
  unfold Submission.Runs verifyPaymentRuns Submission.replayed? Submission.call Call.run Call.start
  cases known : p.operationId with
  | none => exact .inl ⟨trivial, rfl⟩
  | some id =>
      by_cases empty : id = ""
      · exact .inl ⟨.inl empty, by simp [empty]⟩
      · cases used : verifyPrior (OperationStore.begin_ cfg.platform s.clock s.operations id p.request p.orderId).1
            (((s.sessions.get? p.orderId).map (·.state)).getD .draft) with
        | run => exact .inl ⟨.inr used, by simp [empty, used]⟩
        | reply r =>
            refine .inr ⟨?_, r, by simp [empty, used], fun answer => idempotent_replies empty used⟩
            rintro (h | runs)
            · exact empty h
            · cases runs.symm.trans used
        | raise message =>
            exfalso
            revert used
            unfold verifyPrior
            split
            · rintro ⟨⟩
            · rintro ⟨⟩
            · split <;> rintro ⟨⟩

/-- What becomes of a submission that runs. -/
theorem VerifyEnds.meansPaid_iff {o e q signature : String} {c : Contract Services Query.Answer}
    {result : Except ServiceError Reply} (alone : Alone answer c) (ends : VerifyEnds o e q signature c v result v')
    {misbinds : Prop}
    (is : misbinds ↔ ∃ r fetched, v.Asks e r ∧
      (answer (.verify (verificationInput o e q signature r))).result = .ok fetched ∧ fetched.verified = true ∧
        bindingFailures fetched v.session.externalOrderId r ≠ []) :
    MeansPaid misbinds result v' ↔ ¬ misbinds ∧ ¬ (v.state ∉ paidOrLater ∧ v.Repeats e q) := by
  have unasked : (∀ r, ¬ v.Asks e r) → ¬ misbinds := by
    intro unasked misbinds
    obtain ⟨r, _, asks, -⟩ := is.mp misbinds
    exact unasked r asks
  have asked : ∀ {r}, v.Asks e r → ¬ v.Repeats e q := fun asks repeats =>
    Bool.false_ne_true (asks.unverified.symm.trans repeats.verified)
  have failed : ¬ Succeeded result → ¬ misbinds → ¬ v.Repeats e q →
      (MeansPaid misbinds result v' ↔ ¬ misbinds ∧ ¬ (v.state ∉ paidOrLater ∧ v.Repeats e q)) :=
    fun failed binds different => iff_of_true ⟨fun succeeded => absurd succeeded failed, fun h => absurd h binds⟩
      ⟨binds, fun presumes => different presumes.2⟩
  cases ends with
  | repeated repeats order succeeded _ =>
      have binds : ¬ misbinds := unasked fun r asks => asked asks repeats
      have state : v'.state = v.state := congrArg Order.state order
      constructor
      · exact fun means => ⟨binds, fun presumes => presumes.1 (state ▸ means.success succeeded)⟩
      · rintro ⟨-, paid⟩
        refine ⟨fun _ => ?_, fun h => absurd h binds⟩
        rw [state]
        exact not_not.mp fun unpaid => paid ⟨unpaid, repeats⟩
  | unasked different none_ _ notSucceeded => exact failed notSucceeded (unasked none_) different
  | @unanswered r _ _ _ _ asks given answered _ notSucceeded _ =>
      refine failed notSucceeded (fun h => ?_) (asked asks)
      obtain ⟨r', fetched, asks', answered', -⟩ := is.mp h
      obtain rfl := Option.some.inj (asks'.record.symm.trans asks.record)
      rw [← alone.given given.2] at answered'
      cases answered.symm.trans answered'
  | @settled r _ _ fetched x _ asks given answered resumed settles =>
      obtain rfl := resumed (alone.still given.1)
      have misbinds_iff : misbinds ↔ fetched.verified = true ∧ bindingFailures fetched v.session.externalOrderId r ≠ [] := by
        rw [is]
        constructor
        · rintro ⟨r', fetched', asks', answered', h⟩
          obtain rfl := Option.some.inj (asks'.record.symm.trans asks.record)
          rw [← alone.given given.2] at answered'
          cases answered.symm.trans answered'
          exact h
        · intro h
          rw [alone.given given.2] at answered
          exact ⟨r, fetched, asks, answered, h⟩
      -- The fetched payment is stored, whether it binds or not.
      have stored : v'.order.verification = some fetched := by
        rcases settles with ⟨-, -, -, order⟩ | ⟨-, -, -, order⟩ <;> rw [order] <;> rfl
      have success : Succeeded result → v'.state ∈ paidOrLater := by
        intro succeeded
        rcases settles with ⟨-, -, binds, order⟩ | ⟨-, -, notSucceeded, -⟩
        · have target : verificationTarget fetched v.order r = .paidVerified := if_pos (binds.mp succeeded)
          rw [show v'.state = verificationTarget fetched v.order r from congrArg Order.state order, target]
          exact (by decide : OrderState.paidVerified ∈ paidOrLater)
        · exact absurd succeeded notSucceeded
      have kept : misbinds → v'.order.IsVerified := by
        intro h
        rw [Order.IsVerified, stored]
        exact (misbinds_iff.mp h).1
      constructor
      · exact fun means => ⟨fun h => means.rejected h (kept h), fun presumes => asked asks presumes.2⟩
      · exact fun binds => ⟨success, fun h => absurd h binds.1⟩

/-- A verification that succeeds leaves a paid order, and a payment that does not bind leaves no verified
evidence, if and only if the payment binds and nothing is presumed of an order that is not paid. -/
theorem verification_means_paid (keyed : Keyed s) (before : ((p.call answer time).start s).view? p.orderId = some v)
    (after : ((p.call answer time).final cfg s).view? p.orderId = some v') :
    MeansPaid (p.Misbinds cfg answer ((p.call answer time).start s) v) ((p.call answer time).run cfg s).result v' ↔
      ¬ p.Misbinds cfg answer ((p.call answer time).start s) v ∧ ¬ p.Presumes cfg ((p.call answer time).start s) v := by
  have ends := (Call.sound cfg (fun _ _ _ => True) (show ¬ (p.call answer time).command.Opens from id) keyed
    fun _ _ _ _ => trivial).2
  obtain ⟨v'', at_, under⟩ := ends v before
  obtain rfl := Option.some.inj (after.symm.trans at_)
  rcases p.runs_or_replays cfg ((p.call answer time).start s) with ⟨runs, unreplayed⟩ | ⟨idle, r, replayed, replies⟩
  · have ended := (under.resolve_left fun h => h.1 runs).2
    refine (ended.meansPaid_iff Alone.alone (show p.Misbinds cfg answer ((p.call answer time).start s) v ↔ _ from
      and_iff_right runs)).trans ?_
    refine and_congr_right fun _ => not_congr ⟨fun h => ⟨h.1, .inl ⟨runs, h.2⟩⟩, fun h => ⟨h.unpaid, ?_⟩⟩
    rcases h.known with ⟨-, repeats⟩ | ⟨_, replayed, -⟩
    · exact repeats
    · cases unreplayed.symm.trans replayed
  · have same := (under.resolve_right fun h => idle h.1).2.1
    have state : v'.state = v.state := congrArg Order.state same
    have binds : ¬ p.Misbinds cfg answer ((p.call answer time).start s) v := fun h => idle h.1
    have result : ((p.call answer time).run cfg s).result = .ok r := replies answer
    have succeeded : Succeeded ((p.call answer time).run cfg s).result ↔ r.ok = true := by
      rw [result]
      exact succeeded_ok
    constructor
    · refine fun means => ⟨binds, fun presumes => presumes.unpaid ?_⟩
      rcases presumes.known with ⟨runs, -⟩ | ⟨r', replayed', ok⟩
      · exact absurd runs idle
      · obtain rfl := Option.some.inj (replayed.symm.trans replayed')
        exact state ▸ means.success (succeeded.mpr ok)
    · rintro ⟨-, unpresumed⟩
      refine ⟨fun success => ?_, fun h => absurd h binds⟩
      rw [state]
      exact not_not.mp fun unpaid => unpresumed ⟨unpaid, .inr ⟨r, replayed, succeeded.mp success⟩⟩

end Verification

/-! ### Two verifications -/

namespace VerificationSample

/-- The payment of the plain run. -/
def submitted : Submission := ⟨"ord_0", "order_ord_0", "pay_0", "signature", none⟩

/-- An outside that has captured a smaller amount. -/
def underpaid : (q : Query) → q.Answer
  | .verify input =>
      ⟨.ok ⟨true, input.rail, input.externalOrderId, input.externalPaymentId, 1, "INR", "captured", none⟩, 0⟩
  | q => obliging 0 q

/-- The payment was submitted, and the smaller amount was fetched. -/
def failedServices : Services := (submitted.call underpaid 0).final plainConfig pendingServices

theorem failed_facts : (failedServices.order? "ord_0").map Order.state = some .paymentFailed ∧
    Succeeded ((submitted.call (obliging 0) 0).run plainConfig failedServices).result ∧
    (((submitted.call (obliging 0) 0).final plainConfig failedServices).order? "ord_0").map Order.state =
      some .paymentFailed := by
  decide +kernel

theorem pending_facts :
    (pendingServices.order? "ord_0").map (fun x => (x.state, x.verification, x.record.map (·.envelope.currency))) =
      some (.paymentPending, none, some "INR") ∧
    (((submitted.call (obliging 0) 0).final plainConfig pendingServices).order? "ord_0").map Order.state =
      some .paidVerified := by
  decide +kernel

end VerificationSample

open VerificationSample in
/-- The plain payment. -/
theorem verification_means_paid_plain : ∃ v v',
    ((submitted.call (obliging 0) 0).start pendingServices).view? "ord_0" = some v ∧
    ((submitted.call (obliging 0) 0).final plainConfig pendingServices).view? "ord_0" = some v' ∧
    MeansPaid (submitted.Misbinds plainConfig (obliging 0) ((submitted.call (obliging 0) 0).start pendingServices) v)
      ((submitted.call (obliging 0) 0).run plainConfig pendingServices).result v' := by
  obtain ⟨known, kept⟩ := pending_facts
  obtain ⟨v, before, facts⟩ := (submitted.call (obliging 0) 0).view_start known
  obtain ⟨pending, facts⟩ := Prod.mk.inj facts
  obtain ⟨unverified, currency⟩ := Prod.mk.inj facts
  obtain ⟨v', after, -⟩ := view_of_map kept
  have keyed : Keyed pendingServices := by
    obtain ⟨_, reached⟩ := reached_pending
    exact keyed_of_reached reached
  refine ⟨v, v', before, after, (verification_means_paid keyed before after).mpr ⟨?_, ?_⟩⟩
  · rintro ⟨-, r, fetched, asks, answered, -, unbound⟩
    obtain rfl := Except.ok.inj answered
    refine unbound ?_
    have rupees : r.envelope.currency = "INR" := by
      rw [show v.order.record = some r from asks.record] at currency
      exact Option.some.inj currency
    simp [bindingFailures, codeWhen, asks.same, verificationInput, rupees, submitted]
  · rintro ⟨-, ⟨-, repeats⟩ | ⟨_, replayed, -⟩⟩
    · have verified := repeats.verified
      rw [show v.session.verification = none from unverified] at verified
      cases verified
    · cases replayed

open VerificationSample in
/-- The payment that did not bind is verified when it is submitted again, and the order is not paid. -/
theorem verification_unpaid : ∃ history v v', Reached plainConfig history failedServices ∧
    ((submitted.call (obliging 0) 0).start failedServices).view? "ord_0" = some v ∧
    ((submitted.call (obliging 0) 0).final plainConfig failedServices).view? "ord_0" = some v' ∧
    ¬ MeansPaid (submitted.Misbinds plainConfig (obliging 0) ((submitted.call (obliging 0) 0).start failedServices) v)
      ((submitted.call (obliging 0) 0).run plainConfig failedServices).result v' := by
  obtain ⟨stored, success, state⟩ := failed_facts
  obtain ⟨history, time, trace⟩ := reached_pending
  obtain ⟨v, before, -⟩ := (submitted.call (obliging 0) 0).view_start stored
  obtain ⟨v', after, failed⟩ := view_of_map state
  refine ⟨_, v, v', ⟨time, trace.call (submitted.call underpaid 0) trivial⟩, before, after, fun means => ?_⟩
  have paid : v'.state ∈ paidOrLater := means.success success
  rw [show v'.state = .paymentFailed from failed] at paid
  exact absurd paid (by decide)

end AgentReady
