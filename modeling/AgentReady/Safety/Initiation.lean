import AgentReady.Lifecycle.Runs

/-!
What a payment that is initiated means.

An order that the adapter once created is reused whatever became of the order since: the record may have been
changed and approved again, or the payment may have been made and its fulfilment have failed.

* `initiation_means_pending`: an initiation that succeeds leaves an unpaid order that waits for the payment of what
  was approved, if and only if a reused order does so already, and a new one is created for the amount asked.
-/

namespace AgentReady

open Coop Svc

/-- The adapter created the external order from an envelope with the digest and the total. -/
def CreatedFrom (P : Platform) (history : History) (digest externalOrderId : Option String) (totalMinor : Int) : Prop :=
  ∃ envelope a s made, .called (.initiate envelope) a s ∈ history ∧ a.result = .ok made ∧
    made.externalOrderId = externalOrderId ∧ digest = some (P.envelopeDigest envelope) ∧
    envelope.totalMinor = totalMinor

/-- The order waits for the payment of what is approved. -/
structure Awaits (P : Platform) (history : History) (attempt : PaymentAttempt) (x : Order) : Prop where
  pending : x.state = .paymentPending
  unverified : ¬ x.IsVerified
  created : CreatedFrom P history x.approvedDigest attempt.externalOrderId attempt.amountMinor

/-- A payment that is to be initiated. -/
structure Initiation where
  orderId : String
  rail : String
  operationId : Option String

namespace Initiation

variable (p : Initiation)

def call (answer : (q : Query) → q.Answer) (time : Int) : Call :=
  ⟨.initiatePayment p.orderId p.rail p.operationId, answer, time⟩

def Runs (cfg : Config) (s : Services) : Prop := initiatePaymentRuns cfg s p.orderId p.rail p.operationId

/-- A success means an order that waits for its payment. -/
def MeansPending (P : Platform) (history : History) (result : Except ServiceError Reply) (v' : View) : Prop :=
  Succeeded result → ∃ reply attempt, result = .ok (.result reply) ∧ reply.attempt = some attempt ∧
    Awaits P history attempt v'.order

/-- What may be paid is not paid, the order that is reused waits for its payment and was created for it, and the
order that is created is for the amount asked. -/
structure Timely (cfg : Config) (history : History) (answer : (q : Query) → q.Answer) (v : View)
    (r : EnvelopeRecord) : Prop where
  reused : truthy v.session.externalOrderId = true → ¬ v.order.IsVerified ∧
    (v.state = .paymentPending ∨ v.state = .paymentFailed) ∧
    CreatedFrom cfg.platform history (some r.digest) v.session.externalOrderId r.envelope.totalMinor
  created : truthy v.session.externalOrderId = false → p.rail = PaymentRail.razorpayCheckout.name →
    v.state.Leads .paymentPending → ∀ made, (answer (.initiate r.envelope)).result = .ok made →
    ¬ v.order.IsVerified ∧ (made.amountMinor = r.envelope.totalMinor ∨
      CreatedFrom cfg.platform history (some r.digest) made.externalOrderId made.amountMinor)

end Initiation

section Initiation

open Initiation

variable {cfg : Config} {s : Services} {p : Initiation} {answer : (q : Query) → q.Answer} {time : Int}
  {history : History} {v v' : View}

theorem CreatedFrom.mono {P : Platform} {digest externalOrderId : Option String} {totalMinor : Int} {more : History}
    (h : CreatedFrom P history digest externalOrderId totalMinor) :
    CreatedFrom P (history ++ more) digest externalOrderId totalMinor := by
  obtain ⟨envelope, a, s, made, mem, h⟩ := h
  exact ⟨envelope, a, s, made, List.mem_append_left _ mem, h⟩

/-- The record of the order is still the one it was, and so is the external order where there is one. -/
def Stands (v : View) (x : Order) : Prop :=
  x.record = v.record ∧ (truthy v.session.externalOrderId = true → x.externalOrderId = v.session.externalOrderId)

/-- The adapter is asked for an order only where there is none, with the envelope of the record. -/
theorem Initiation.asked (keyed : Keyed s) (before : ((p.call answer time).start s).view? p.orderId = some v)
    {envelope : CommerceEnvelope} {a : Query.Answer (.initiate envelope)} {s' : Services}
    (mem : .called (.initiate envelope) a s' ∈ (p.call answer time).events cfg s) :
    truthy v.session.externalOrderId = false ∧ ∃ r, v.record = some r ∧ r.envelope = envelope := by
  let lic : String → Order → Act → Prop := fun _ x act => InitiateActs cfg p.rail v x act
  have licensed : ∀ o x act, (p.call answer time).command.Acts cfg ((p.call answer time).contract cfg lic s)
      ((p.call answer time).start s) o x act → lic o x act := by
    rintro o x act ⟨rfl, v₁, at_, -, acts⟩
    obtain rfl := Option.some.inj (at_.symm.trans before)
    exact acts
  have known : ¬ (p.call answer time).command.Opens := id
  have start : OrderAt p.orderId (Stands v) s := by
    intro x at_
    rw [← (p.call answer time).order?_start, order?_of_view before] at at_
    obtain rfl := Option.some.inj at_
    exact ⟨rfl, fun _ => rfl⟩
  have stands := (Call.keeps lic known keyed licensed (o := p.orderId) (p := Stands v) ?_ start).1 _ mem
  · obtain ⟨o, rfl, x, r, at_, -, -, record, same, unbound⟩ := (Call.sound cfg lic known keyed licensed).1 _ mem
    obtain ⟨kept, bound⟩ := stands x at_
    refine ⟨Bool.eq_false_iff.mpr fun truthful => ?_, r, kept.symm.trans record, same⟩
    rw [bound truthful, truthful] at unbound
    cases unbound
  · intro x act y holds step acts
    cases acts with
    | pend => cases step with | move => exact holds
    | bind unknown =>
        cases step with
        | bindOrder => exact ⟨holds.1, fun known => absurd (known.symm.trans unknown) (by decide)⟩
    | fail => cases step with | move => exact holds

/-- The order that is reused waits for its payment if and only if it did, or had failed to be paid. -/
theorem meansPending_reused {P : Platform} {earlier more : History} {r : EnvelopeRecord} {attempt : PaymentAttempt}
    {reply : OperationResult} (approved : v.session.approvedDigest = some r.digest)
    (state : v'.order = if v.state = .paymentFailed then { v.order with state := .paymentPending } else v.order)
    (ok : reply.ok = true) (returned : reply.attempt = some attempt)
    (bound : attempt.externalOrderId = v.session.externalOrderId) (amount : attempt.amountMinor = r.envelope.totalMinor)
    (unasked : ∀ envelope a s, .called (.initiate envelope) a s ∉ more) :
    MeansPending P (earlier ++ more) (.ok (.result reply)) v' ↔ ¬ v.order.IsVerified ∧
      (v.state = .paymentPending ∨ v.state = .paymentFailed) ∧
      CreatedFrom P earlier (some r.digest) v.session.externalOrderId r.envelope.totalMinor := by
  have moved : v'.order.state = if v.state = .paymentFailed then .paymentPending else v.state := by
    rw [state]
    split <;> rfl
  have verification : v'.order.verification = v.order.verification := by
    rw [state]
    split <;> rfl
  have approved' : v'.order.approvedDigest = some r.digest := by
    rw [← approved, state]
    split <;> rfl
  constructor
  · intro means
    obtain ⟨reply', attempt', eq, returned', pending, unverified, created⟩ := means ⟨_, rfl, ok⟩
    cases eq
    obtain rfl := Option.some.inj (returned.symm.trans returned')
    refine ⟨fun verified => unverified ?_, ?_, ?_⟩
    · rwa [Order.IsVerified, verification]
    · by_cases failed : v.state = .paymentFailed
      · exact .inr failed
      · rw [moved, if_neg failed] at pending
        exact .inl pending
    · rw [approved', bound, amount] at created
      obtain ⟨envelope, a, s', made, mem, h⟩ := created
      exact ⟨envelope, a, s', made, (List.mem_append.mp mem).resolve_right (unasked envelope a s'), h⟩
  · rintro ⟨unverified, waits, created⟩ -
    refine ⟨reply, attempt, rfl, returned, ?_, ?_, ?_⟩
    · rw [moved]
      split
      · rfl
      · exact waits.resolve_right ‹_›
    · rwa [Order.IsVerified, verification]
    · rw [approved', bound, amount]
      exact created.mono

/-- The order that is created waits for its payment if and only if it is for the amount asked, or was created before
for the amount it is for. -/
theorem meansPending_created {P : Platform} {earlier more : History} {r : EnvelopeRecord} {attempt : PaymentAttempt}
    {reply : OperationResult} {a : Query.Answer (.initiate r.envelope)}
    (approved : v.session.approvedDigest = some r.digest) (sealed : P.envelopeDigest r.envelope = r.digest)
    (state : v'.order = { v.order with state := .paymentPending, externalOrderId := attempt.externalOrderId })
    (ok : reply.ok = true) (returned : reply.attempt = some attempt) (answered : a.result = .ok attempt)
    (mem : .called (.initiate r.envelope) a s ∈ more)
    (asked : ∀ envelope a s, .called (.initiate envelope) a s ∈ more → envelope = r.envelope) :
    MeansPending P (earlier ++ more) (.ok (.result reply)) v' ↔ ¬ v.order.IsVerified ∧
      (attempt.amountMinor = r.envelope.totalMinor ∨
        CreatedFrom P earlier (some r.digest) attempt.externalOrderId attempt.amountMinor) := by
  have approved' : v'.order.approvedDigest = some r.digest := by
    rw [state]
    exact approved
  constructor
  · intro means
    obtain ⟨reply', attempt', eq, returned', -, unverified, created⟩ := means ⟨_, rfl, ok⟩
    cases eq
    obtain rfl := Option.some.inj (returned.symm.trans returned')
    refine ⟨fun verified => unverified ?_, ?_⟩
    · rw [state]
      exact verified
    · rw [approved'] at created
      obtain ⟨envelope, a, s', made, mem', h⟩ := created
      rcases List.mem_append.mp mem' with mem' | mem'
      · exact .inr ⟨envelope, a, s', made, mem', h⟩
      · obtain rfl := asked envelope a s' mem'
        exact .inl h.2.2.2.symm
  · rintro ⟨unverified, amount⟩ -
    refine ⟨reply, attempt, rfl, returned, ?_, ?_, ?_⟩
    · rw [state]
    · rw [state]
      exact unverified
    · rw [approved']
      rcases amount with amount | earlier
      · refine ⟨r.envelope, a, s, attempt, List.mem_append_right _ mem, answered, rfl, ?_, amount.symm⟩
        rw [sealed]
      · exact earlier.mono

/-- An initiation that succeeds leaves an unpaid order that waits for the payment of what was approved, if and only
if what may be paid is so already. -/
theorem initiation_means_pending (reached : Reached cfg history s) (fresh : p.Runs cfg ((p.call answer time).start s))
    (before : ((p.call answer time).start s).view? p.orderId = some v)
    (after : ((p.call answer time).final cfg s).view? p.orderId = some v') :
    MeansPending cfg.platform (history ++ (p.call answer time).events cfg s) ((p.call answer time).run cfg s).result v' ↔
      ∀ r, v.Payable cfg p.rail r → p.Timely cfg history answer v r := by
  have keyed := keyed_of_reached reached
  have sound := (Call.sound cfg (fun _ _ _ => True) (show ¬ (p.call answer time).command.Opens from id) keyed
    fun _ _ _ _ => trivial).2
  obtain ⟨v'', at_, under⟩ := sound v before
  obtain rfl := Option.some.inj (after.symm.trans at_)
  have ends := (under.resolve_left fun h => h.1 fresh).2
  generalize ((p.call answer time).run cfg s).result = result at ends
  cases ends with
  | @reused r attempt reply _ payable known state ok returned bound amount =>
      refine (meansPending_reused payable.approved.2.1 state ok returned bound amount ?_).trans ?_
      · intro envelope a s' mem
        exact absurd (known.symm.trans (asked keyed before mem).1) (by decide)
      · refine ⟨fun waits r' payable' => ?_, fun timely => (timely r payable).reused known⟩
        obtain rfl := Option.some.inj (payable'.record.symm.trans payable.record)
        exact ⟨fun _ => waits, fun unknown => absurd (known.symm.trans unknown) (by decide)⟩
  | @created r attempt reply a s₀ s₁ v₁ _ payable unknown onRail leads given answered resumed state ok returned =>
      obtain ⟨rfl, rfl, mem⟩ := given
      rw [resumed rfl] at state
      refine (meansPending_created payable.approved.2.1 payable.approved.2.2 state ok returned answered mem ?_).trans ?_
      · intro envelope a s' mem
        obtain ⟨-, r', record, rfl⟩ := asked keyed before mem
        rw [Option.some.inj (record.symm.trans payable.record)]
      · refine ⟨fun waits r' payable' => ?_,
          fun timely => (timely r payable).created unknown onRail leads attempt answered⟩
        obtain rfl := Option.some.inj (payable'.record.symm.trans payable.record)
        refine ⟨fun known => absurd (unknown.symm.trans known) (by decide), fun _ _ _ made answered' => ?_⟩
        obtain rfl := Except.ok.inj (answered.symm.trans answered')
        exact waits
  | failed reuse create failed =>
      refine iff_of_true (fun succeeded => absurd succeeded failed) fun r payable => ?_
      refine ⟨fun known => absurd (known.symm.trans (reuse r payable)) (by decide), ?_⟩
      intro _ onRail leads made answered
      obtain ⟨a, s', message, ⟨rfl, -⟩, refused⟩ := create r payable onRail leads
      cases answered.symm.trans refused

end Initiation

/-! ### Two initiations -/

namespace InitiationSample

/-- The payment of the plain run. -/
def plain : Initiation := ⟨"ord_0", "razorpay_checkout", none⟩

/-- The order is paid, and its fulfilment has failed. -/
def unfulfilledServices : Services := paidServices.after [.fulfil "ord_0" true none]

theorem facts : ((approvedServices.order? "ord_0").map (fun x => (x.externalOrderId, x.verification)) = some (none, none) ∧
      (((plain.call (obliging 0) 0).final plainConfig approvedServices).order? "ord_0").map Order.state =
        some .paymentPending) ∧
    (unfulfilledServices.order? "ord_0").map Order.state = some .fulfilmentFailed ∧
      Succeeded ((plain.call (obliging 0) 0).run plainConfig unfulfilledServices).result ∧
      (((plain.call (obliging 0) 0).final plainConfig unfulfilledServices).order? "ord_0").map Order.state =
        some .fulfilmentFailed := by
  decide +kernel

end InitiationSample

open InitiationSample in
/-- The first initiation of the plain run. -/
theorem initiation_means_pending_plain : ∃ history v',
    ((plain.call (obliging 0) 0).final plainConfig approvedServices).view? "ord_0" = some v' ∧
    Initiation.MeansPending plainPlatform (history ++ (plain.call (obliging 0) 0).events plainConfig approvedServices)
      ((plain.call (obliging 0) 0).run plainConfig approvedServices).result v' := by
  obtain ⟨⟨known, kept⟩, -⟩ := facts
  obtain ⟨history, reached⟩ := reached_approved
  obtain ⟨v, before, fields⟩ := (plain.call (obliging 0) 0).view_start known
  obtain ⟨unbound, unverified⟩ := Prod.mk.inj fields
  obtain ⟨v', after, -⟩ := view_of_map kept
  have fresh : plain.Runs plainConfig ((plain.call (obliging 0) 0).start approvedServices) := trivial
  refine ⟨history, v', after, (initiation_means_pending reached fresh before after).mpr fun r _ => ⟨?_, ?_⟩⟩
  · intro known
    rw [show v.session.externalOrderId = none from unbound] at known
    cases known
  · rintro - - - made answered
    obtain rfl := Except.ok.inj answered
    refine ⟨?_, .inl rfl⟩
    rw [Order.IsVerified, unverified]
    exact Bool.false_ne_true

open InitiationSample in
/-- The paid order whose fulfilment failed is initiated again, and keeps its state. -/
theorem initiation_paid : ∃ history v v', Reached plainConfig history unfulfilledServices ∧
    plain.Runs plainConfig ((plain.call (obliging 0) 0).start unfulfilledServices) ∧
    ((plain.call (obliging 0) 0).start unfulfilledServices).view? "ord_0" = some v ∧
    ((plain.call (obliging 0) 0).final plainConfig unfulfilledServices).view? "ord_0" = some v' ∧
    ¬ Initiation.MeansPending plainPlatform (history ++ (plain.call (obliging 0) 0).events plainConfig unfulfilledServices)
      ((plain.call (obliging 0) 0).run plainConfig unfulfilledServices).result v' := by
  obtain ⟨-, stored, success, state⟩ := facts
  obtain ⟨history, time, trace⟩ := reached_paid
  obtain ⟨v, before, -⟩ := (plain.call (obliging 0) 0).view_start stored
  obtain ⟨v', after, failed⟩ := view_of_map state
  obtain ⟨history', trace'⟩ := trace.after [.fulfil "ord_0" true none] fun _ _ _ _ => trivial
  refine ⟨history', v, v', ⟨time, trace'⟩, trivial, before, after, fun means => ?_⟩
  obtain ⟨_, _, -, -, pending, -, -⟩ := means success
  cases failed.symm.trans pending

end AgentReady
