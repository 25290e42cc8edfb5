import AgentReady.Lifecycle.Runs

/-!
An order is paid once.

The invariants behind it: an order that is paid holds verified evidence, and the record of an
order is for that order. The guards of the payment paths differ (the client's verification
looks for stored evidence, Agent Pay for either, a webhook at the state), and each is enough
to keep them.

* `single_success`: in every run on an order, the state is set to `PAID_VERIFIED` at most once;
  from then on the evidence stays, and the adapter is not asked to initiate again.
-/

namespace AgentReady

open Coop Svc

/-- The states of a paid order. -/
def paidStates : List OrderState :=
  [.paidVerified, .fulfilmentPending, .fulfilled, .fulfilmentFailed, .compensationPending,
    .refunded, .manualReview]

/-- The stored evidence of payment. -/
structure Order.SamePayment (x y : Order) : Prop where
  verification : y.verification = x.verification
  externalPaymentId : y.externalPaymentId = x.externalPaymentId
  x402 : y.x402 = x.x402

/-- A paid order holds verified evidence. -/
def Invoiced (x : Order) : Prop := x.state ∈ paidStates → x.IsVerified

/-- What the direct commands may do, beyond what holds of every step. -/
def Invoices (o : String) (x : Order) : Act → Prop
  | .webhook .. => x.state = .paymentPending
  | .quote r _ => r.envelope.logicalOrderId = o
  | .tamper r => ∃ before, x.record = some before ∧
      r.envelope.logicalOrderId = before.envelope.logicalOrderId
  | _ => True

/-- The order stays paid, with the evidence of `x`. -/
structure Settled (x y : Order) : Prop where
  paid : y.state ∈ paidStates
  verified : y.IsVerified
  same : x.SamePayment y

section Steps

variable {cfg : Config} {c : Contract Services Query.Answer} {s : Services} {o : String}
  {x y z : Order} {act : Act} {P : Platform}

theorem paidStates_edge {source target : OrderState} (edge : target ∈ source.allowedTransitions)
    (paid : target ∈ paidStates) : source ∈ paidStates ∨
      (source = .paymentPending ∧ target = .paidVerified) := by
  revert edge paid
  cases source <;> cases target <;> decide

theorem edge_paidStates {source target : OrderState} (edge : target ∈ source.allowedTransitions)
    (paid : source ∈ paidStates) : target ∈ paidStates ∧ target ≠ .paidVerified := by
  revert edge paid
  cases source <;> cases target <;> decide

theorem shopping_unpaid {state : OrderState} (shopping : state ∈ shoppingStates) :
    state ∉ paidStates := by
  revert shopping
  cases state <;> decide

theorem View.quote?_named {productId : String} {supplied : Option RecommendationBinding} {v : View}
    {r : EnvelopeRecord} (quoted : v.quote? cfg o productId supplied = some r) :
    r.envelope.logicalOrderId = o := by
  unfold View.quote? at quoted
  generalize v.selectable cfg = found at quoted
  dsimp only at quoted
  split at quoted
  · split at quoted
    · obtain rfl := Option.some.inj quoted
      rfl
    · cases quoted
  · cases quoted

theorem tamperEnvelope_named {e : CommerceEnvelope} {field nonce : String} :
    (tamperEnvelope e field nonce).1.logicalOrderId = e.logicalOrderId := by
  unfold tamperEnvelope
  split
  · rfl
  · split
    · rfl
    · split <;> rfl

theorem View.tampered?_named {field : String} {v : View} {r : EnvelopeRecord}
    (changed : v.tampered? cfg field = some r) :
    ∃ before, v.record = some before ∧
      r.envelope.logicalOrderId = before.envelope.logicalOrderId := by
  obtain ⟨before, record, changed⟩ := Option.bind_eq_some_iff.mp changed
  refine ⟨before, record, ?_⟩
  dsimp only at changed
  split at changed
  · obtain rfl := Option.some.inj changed
    exact tamperEnvelope_named
  · cases changed

/-- The direct commands do what `Invoices` says. -/
theorem invoices_of_acts {command : Command} (direct : command.Direct)
    (h : command.Acts cfg c s o x act) : Invoices o x act := by
  cases act with
  | webhook paymentId r =>
      rcases Command.acts_webhook h with ⟨_, _, _, _, -, -, pending⟩ | ⟨_, _, rfl⟩
      · exact pending
      · exact absurd direct id
  | quote r productId =>
      obtain ⟨_, _, v, -, -, -, quoted, -⟩ := Command.acts_quote h
      exact View.quote?_named quoted
  | tamper r =>
      obtain ⟨_, v, -, -, changed, rfl⟩ := Command.acts_tamper h
      exact View.tampered?_named changed
  | _ => trivial

theorem NamedFor.step (h : NamedFor o x) (step : Step P Eq x act y) (licensed : Invoices o x act) :
    NamedFor o y := by
  cases step with
  | withdraw gone =>
      intro r record
      rcases gone with rfl | rfl
      · cases record
      · exact h r record
  | restart =>
      intro r record
      cases record
  | quote =>
      intro r record
      obtain rfl := Option.some.inj record
      exact licensed
  | tamper record =>
      intro r record'
      obtain rfl := Option.some.inj record'
      obtain ⟨before, recorded, same⟩ := licensed
      exact same.trans (h before recorded)
  | _ => exact fun r record => h r record

theorem Invoiced.step (h : Invoiced x) (step : Step P Eq x act y) (licensed : Invoices o x act) :
    Invoiced y := by
  cases step with
  | move allowed admitted =>
      intro paid
      rcases paidStates_edge allowed paid with before | ⟨-, rfl⟩
      · exact h before
      · obtain ⟨v, _, ⟨stored, verified, -⟩, -⟩ := admitted
        exact show VerificationResult.isVerified x.verification = true by rw [stored]; exact verified
  | clarify =>
      exact fun paid => absurd paid (show OrderState.clarifying ∉ paidStates by decide)
  | settle unpaid => exact fun paid => absurd (h paid) unpaid
  | verify before unpaid =>
      obtain rfl := before
      exact fun paid => absurd (h paid) unpaid
  | webhook record =>
      intro paid
      rw [show x.state = .paymentPending from licensed] at paid
      exact absurd paid (by decide)
  | _ => exact h

/-- A paid order keeps its evidence, and is not set to `PAID_VERIFIED` again. -/
theorem Settled.step (h : Settled x y) (step : Step P Eq y act z) (licensed : Invoices o y act) :
    Settled x z ∧ (z.state = .paidVerified → y.state = .paidVerified) := by
  obtain ⟨paid, verified, same⟩ := h
  cases step with
  | move allowed _ =>
      obtain ⟨stays, other⟩ := edge_paidStates allowed paid
      exact ⟨⟨stays, verified, ⟨same.1, same.2, same.3⟩⟩, fun again => absurd again other⟩
  | clarify shopping => exact absurd paid (shopping_unpaid shopping)
  | prepare unpaid => exact absurd verified unpaid
  | settle unpaid => exact absurd verified unpaid
  | verify before unpaid =>
      obtain rfl := before
      exact absurd verified unpaid
  | webhook =>
      rw [show y.state = .paymentPending from licensed] at paid
      exact absurd paid (by decide)
  | _ => exact ⟨⟨paid, verified, ⟨same.1, same.2, same.3⟩⟩, id⟩

end Steps

/-! ### Histories -/

/-- The event leaves the paid order `x` alone: its evidence stays, its state is not set to
`PAID_VERIFIED`, and the adapter is not asked to initiate a payment for it. -/
def Spares (o : String) (x : Order) : Event Services Query.Answer → Prop
  | .wrote before after =>
      (∃ y, after.order? o = some y ∧ x.SamePayment y) ∧ ∀ y, ¬ EntersPaid o y (.wrote before after)
  | .called q _ _ => ∀ envelope, q = .initiate envelope → envelope.logicalOrderId ≠ o

/-- The order is known, and stays paid with the evidence of `x`. -/
def StaysPaid (o : String) (x : Order) (s : Services) : Prop :=
  ∃ y, s.order? o = some y ∧ Settled x y

/-- The order is invoiced, and every record is for its order. -/
structure InvoicedAt (o : String) (s : Services) : Prop where
  invoiced : OrderAt o Invoiced s
  named : AllNamed s

section Histories

variable {cfg : Config} {s s' : Services} {o : String} {x : Order} {call : Call}

theorem InvoicedAt.advances {P : Platform} (h : InvoicedAt o s)
    (advances : Advances P Eq Invoices s s') : InvoicedAt o s' where
  invoiced := advances.keeps (fun _ _ _ invoiced step licensed => invoiced.step step licensed) h.1
  named o' := advances.keeps (fun _ _ _ named step licensed => named.step step licensed) (h.2 o')

theorem StaysPaid.advances {P : Platform} (h : StaysPaid o x s)
    (advances : Advances P Eq Invoices s s') :
    StaysPaid o x s' ∧ ∀ y, ¬ EntersPaid o y (.wrote s s') := by
  obtain ⟨y, at_, settled⟩ := h
  rcases advances.orders o with same | ⟨y', act, z, before, after, step, licensed⟩
  · refine ⟨⟨y, same.trans at_, settled⟩, ?_⟩
    rintro z ⟨unpaid, after, paid⟩
    obtain rfl := Option.some.inj (at_.symm.trans (same.symm.trans after))
    exact unpaid _ at_ paid
  · obtain rfl := Option.some.inj (at_.symm.trans before)
    obtain ⟨settled, again⟩ := settled.step step licensed
    refine ⟨⟨z, after, settled⟩, ?_⟩
    rintro z' ⟨unpaid, after', paid⟩
    obtain rfl := Option.some.inj (after.symm.trans after')
    exact unpaid _ at_ (again paid)

/-- An order that is set to `PAID_VERIFIED` stays paid. -/
theorem EntersPaid.stays (enters : EntersPaid o x (.wrote s s')) (invoiced : InvoicedAt o s') :
    StaysPaid o x s' := by
  obtain ⟨-, after, paid⟩ := enters
  have among : x.state ∈ paidStates := by rw [paid]; decide
  exact ⟨x, after, among, invoiced.invoiced x after among, ⟨rfl, rfl, rfl⟩⟩

/-- The events of a call after the order was paid. -/
theorem spares_of_keeps {e : Event Services Query.Answer}
    (keeps : e.Keeps (call.contract cfg Invoices s))
    (at_ : e.At fun s => StaysPaid o x s ∧ InvoicedAt o s) : Spares o x e := by
  cases e with
  | wrote before after =>
      obtain ⟨y, shown, settled⟩ := at_.2.1
      exact ⟨⟨y, shown, settled.same⟩, (at_.1.1.advances keeps).2⟩
  | called q a s =>
      rintro envelope rfl named
      obtain ⟨⟨y, shown, settled⟩, invoiced⟩ := at_
      obtain ⟨o', -, z, r, stored, pending, -, record, rfl, -⟩ := keeps
      obtain rfl : o' = o := (invoiced.named o' z stored r record).symm.trans named
      obtain rfl := Option.some.inj (shown.symm.trans stored)
      have paid := settled.paid
      rw [pending] at paid
      exact absurd paid (by decide)

/-- From a paid order on, the events of a call spare it. -/
theorem spares_of_leads {events : History} (leads : Leads s events s')
    {s₀ : Services} (keeps : ∀ e ∈ events, e.Keeps (call.contract cfg Invoices s₀))
    (stays : StaysPaid o x s) (invoiced : InvoicedAt o s) :
    (∀ e ∈ events, Spares o x e) ∧ StaysPaid o x s' := by
  have step : ∀ s s', StaysPaid o x s ∧ InvoicedAt o s → (call.contract cfg Invoices s₀).guar s s' →
      StaysPaid o x s' ∧ InvoicedAt o s' :=
    fun _ _ h advances => ⟨(h.1.advances advances).1, h.2.advances advances⟩
  refine ⟨fun e mem => spares_of_keeps (keeps e mem) ?_,
    (leads.invariant step keeps ⟨stays, invoiced⟩).1⟩
  exact leads.throughout step keeps ⟨stays, invoiced⟩ e mem

theorem pairwise_of_leads {events : History} (leads : Leads s events s') {s₀ : Services}
    (keeps : ∀ e ∈ events, e.Keeps (call.contract cfg Invoices s₀)) (invoiced : InvoicedAt o s) :
    events.Pairwise (fun e e' => ∀ x, EntersPaid o x e → Spares o x e') ∧
      ∀ e ∈ events, ∀ x, EntersPaid o x e → StaysPaid o x s' := by
  induction leads with
  | nil => exact ⟨.nil, by simp⟩
  | @wrote s s₁ s' rest leads ih =>
      have invoiced₁ := invoiced.advances (keeps _ List.mem_cons_self)
      have keeps₁ := fun e mem => keeps e (List.mem_cons_of_mem _ mem)
      obtain ⟨pairs, stays⟩ := ih keeps₁ invoiced₁
      have from_ : ∀ x, EntersPaid o x (.wrote s s₁) →
          (∀ e ∈ rest, Spares o x e) ∧ StaysPaid o x s' :=
        fun x enters => spares_of_leads leads keeps₁ (enters.stays invoiced₁) invoiced₁
      refine ⟨.cons (fun e mem x enters => (from_ x enters).1 e mem) pairs, fun e mem x enters => ?_⟩
      rcases List.mem_cons.mp mem with rfl | mem
      · exact (from_ x enters).2
      · exact stays e mem x enters
  | @called q a s s' rest leads ih =>
      obtain ⟨pairs, stays⟩ := ih (fun e mem => keeps e (List.mem_cons_of_mem _ mem)) invoiced
      refine ⟨.cons (fun _ _ _ enters => absurd enters id) pairs, fun e mem x enters => ?_⟩
      rcases List.mem_cons.mp mem with rfl | mem
      · exact absurd enters id
      · exact stays e mem x enters

/-- In a run of direct calls from an opened order, the state is set to `PAID_VERIFIED` at most
once; from then on the evidence of the payment stays as it is, and the adapter is not asked to
initiate a payment for the order. -/
theorem single_success {start : Services} {history : History} (opened : Opened o start)
    (trace : Trace cfg (fun _ call _ => call.command.Direct) start history s) :
    history.Pairwise (fun e e' => ∀ x, EntersPaid o x e → Spares o x e') ∧
      ∀ e ∈ history, ∀ x, EntersPaid o x e → ∃ y, s.order? o = some y ∧ x.SamePayment y := by
  suffices all : history.Pairwise (fun e e' => ∀ x, EntersPaid o x e → Spares o x e') ∧
      (∀ e ∈ history, ∀ x, EntersPaid o x e → StaysPaid o x s) ∧ InvoicedAt o s ∧ Keyed s by
    refine ⟨all.1, fun e mem x enters => ?_⟩
    obtain ⟨y, shown, settled⟩ := all.2.1 e mem x enters
    exact ⟨y, shown, settled.same⟩
  induction trace with
  | nil =>
      refine ⟨.nil, by simp, ⟨fun x at_ paid => ?_, opened.named⟩, opened.keyed⟩
      obtain rfl := Option.some.inj (opened.order.symm.trans at_)
      exact absurd paid (show OrderState.draft ∉ paidStates by decide)
  | @call history s call before direct ih =>
      obtain ⟨pairs, stays, invoiced, keyed⟩ := ih
      have keeps := (Call.sound cfg Invoices direct.known keyed fun _ _ _ acts =>
        invoices_of_acts direct acts).1
      have start : InvoicedAt o (call.start s) := ⟨invoiced.1, invoiced.2⟩
      obtain ⟨pairs', stays'⟩ := pairwise_of_leads Call.leads keeps start
      have after : ∀ e ∈ history, ∀ x, EntersPaid o x e →
          (∀ e' ∈ call.events cfg s, Spares o x e') ∧ StaysPaid o x (call.final cfg s) :=
        fun e mem x enters => spares_of_leads Call.leads keeps (stays e mem x enters) start
      refine ⟨List.pairwise_append.mpr ⟨pairs, pairs', fun e mem e' mem' x enters => ?_⟩,
        fun e mem x enters => ?_, ?_, keyed_final keyed⟩
      · exact (after e mem x enters).1 e' mem'
      · rcases List.mem_append.mp mem with mem | mem
        · exact (after e mem x enters).2
        · exact stays' e mem x enters
      · exact Call.leads.invariant (fun _ _ h advances => h.advances advances) keeps start

end Histories

theorem single_success_plain : ∃ history : History, history.Pairwise (fun e e' => ∀ x,
      EntersPaid "ord_0" x e → Spares "ord_0" x e') ∧
    ∀ e ∈ history, ∀ x, EntersPaid "ord_0" x e →
      ∃ y, paidServices.order? "ord_0" = some y ∧ x.SamePayment y := by
  obtain ⟨history, trace⟩ := trace_paid (fun _ call _ => call.command.Direct) .nil
    fun _ _ command mem => by
      simp only [quoting, approving, initiating, verifying, List.mem_append, List.mem_cons,
        List.not_mem_nil, or_false] at mem
      rcases mem with (((rfl | rfl | rfl) | rfl) | rfl) | rfl <;> trivial
  have once := single_success opened_plain trace
  exact ⟨history, once⟩

end AgentReady
