import AgentReady.Lifecycle.Runs

/-!
A paid order can be refunded, for what was captured.

A refund is made out from the stored record, and not from the evidence of the payment. A quote, a message, a
patch or a tampering that is refused because the order is paid has replaced or deleted the record by then:
`Call.SparesBill` says which calls do not do that.

* `refundable_in_runs`: in every run of such calls, an order that is paid and not yet closed has the record and
  the evidence of one payment, and what is asked of the adapter is to refund that payment.
-/

namespace AgentReady

open Coop Svc

/-- The states of a paid order that may have to be refunded. -/
def billedStates : List OrderState :=
  [.paidVerified, .fulfilmentPending, .fulfilmentFailed, .compensationPending]

/-- The order has the record and the verified evidence of one payment. -/
structure Order.Bills (x : Order) (r : EnvelopeRecord) (v : VerificationResult) : Prop where
  record : x.record = some r
  verification : x.verification = some v
  verified : v.verified = true
  amount : v.amountMinor = r.envelope.totalMinor
  paymentId : x.externalPaymentId = some v.externalPaymentId
  named : v.externalPaymentId ≠ ""

/-- Verified evidence is of the payment that the order names. -/
def Attested (x : Order) : Prop := ∀ v, x.verification = some v → v.verified = true →
  x.externalPaymentId = some v.externalPaymentId ∧ v.externalPaymentId ≠ ""

/-- What holds of every order: its evidence and its Agent Pay payment name a payment, and it is billed where it
is paid. -/
structure Billed (x : Order) : Prop where
  attested : Attested x
  prepared : ∀ payment, x.x402 = some payment → payment.paymentIdentifier ≠ ""
  billed : x.state ∈ billedStates → ∃ r v, x.Bills r v

/-- What may be done to an order without taking its record and its evidence apart. -/
def KeepsBill (x : Order) : Act → Prop
  | .withdraw _ | .restart | .quote .. | .tamper _ => x.state ∉ billedStates
  | .prepare payment | .settle payment _ => payment.paymentIdentifier ≠ ""
  | .verify result paymentId =>
      result.verified = true → result.externalPaymentId = paymentId ∧ paymentId ≠ ""
  | .webhook paymentId _ => paymentId ≠ ""
  | .move .fulfilmentPending => x.state ≠ .manualReview
  | _ => True

section Steps

variable {P : Platform} {x y : Order} {act : Act}

/-- Where an order that was not billed becomes billed, it is paid. -/
theorem billedStates_edge {source target : OrderState} (edge : target ∈ source.allowedTransitions)
    (billed : target ∈ billedStates) : source ∈ billedStates ∨ target = .paidVerified ∨
      (source = .manualReview ∧ (target = .fulfilmentPending ∨ target = .compensationPending)) := by
  revert edge billed
  cases source <;> cases target <;> decide

/-- What is not verified is not billed. -/
theorem Billed.closed (h : Billed x) (unpaid : ¬ x.IsVerified) : x.state ∉ billedStates := by
  intro billed
  obtain ⟨r, v, bills⟩ := h.billed billed
  exact unpaid (show VerificationResult.isVerified x.verification = true by
    rw [bills.verification]
    exact bills.verified)

theorem Billed.step (h : Billed x) (step : Step P Eq x act y) (licensed : KeepsBill x act) : Billed y := by
  cases step with
  | withdraw | restart | quote | tamper => exact ⟨h.attested, h.prepared, fun billed => absurd billed licensed⟩
  | @move _ next allowed admitted =>
      refine ⟨h.attested, h.prepared, fun billed => ?_⟩
      rcases billedStates_edge allowed billed with before | rfl | ⟨review, rfl | rfl⟩
      · obtain ⟨r, v, bills⟩ := h.billed before
        exact ⟨r, v, { bills with }⟩
      · obtain ⟨v, paymentId, ⟨stored, verified, -⟩, p, q, r, rfl, record, recorded, amount⟩ := admitted
        obtain ⟨same, named⟩ := h.attested v stored verified
        exact ⟨r, v, record.symm.trans recorded, stored, verified, amount, same, named⟩
      · exact absurd review licensed
      · have failed : x.state = .fulfilmentFailed := admitted
        cases failed.symm.trans review
  | clarify =>
      refine ⟨h.attested, h.prepared, fun billed => absurd billed ?_⟩
      exact (by decide : OrderState.clarifying ∉ billedStates)
  | prepare unpaid =>
      refine ⟨h.attested, fun payment stored => ?_, fun billed => absurd billed (h.closed unpaid)⟩
      obtain rfl := Option.some.inj stored
      exact licensed
  | settle unpaid =>
      refine ⟨fun v stored _ => ?_, fun payment stored => ?_, fun billed => absurd billed (h.closed unpaid)⟩
      · obtain rfl := Option.some.inj stored
        exact ⟨rfl, licensed⟩
      · obtain rfl := Option.some.inj stored
        exact licensed
  | verify before unpaid =>
      obtain rfl := before
      refine ⟨fun v stored verified => ?_, h.prepared, fun billed => absurd billed (h.closed unpaid)⟩
      obtain rfl := Option.some.inj stored
      obtain ⟨rfl, named⟩ := licensed verified
      exact ⟨rfl, named⟩
  | webhook record =>
      refine ⟨fun v stored _ => ?_, h.prepared, fun billed => ?_⟩
      · obtain rfl := Option.some.inj stored
        exact ⟨rfl, licensed⟩
      · exact ⟨_, _, record, rfl, rfl, rfl, rfl, licensed⟩
  | _ => exact ⟨h.attested, h.prepared, fun billed => by
      obtain ⟨r, v, bills⟩ := h.billed billed
      exact ⟨r, v, { bills with }⟩⟩

end Steps

/-! ### Calls -/

/-- The call does not replace or delete the record of a billed order, and what it is told of a payment is of
that payment. -/
def Call.SparesBill (cfg : Config) (call : Call) (s : Services) : Prop :=
  match call.command with
  | .buildQuote o productId supplied operationId => ∀ v, (call.start s).view? o = some v →
      v.state ∈ billedStates → buildQuoteRuns cfg (call.start s) o productId operationId →
      v.quote? cfg o productId supplied = none
  | .respond o message supplied operationId => ∀ v, (call.start s).view? o = some v →
      v.state ∈ billedStates → respondRuns cfg (call.start s) o message supplied operationId →
      ¬ v.Overturns cfg message call.answer
  | .intentPatch o patch expected => ∀ v, (call.start s).view? o = some v →
      v.state ∈ billedStates → v.AcceptsPatch patch expected → v.patched patch = v.session.intent
  | .tamper o field => ∀ v, (call.start s).view? o = some v →
      v.state ∈ billedStates → v.tampered? cfg field = none
  | .verifyPayment _ _ externalPaymentId .. => ∀ input fetched, input.externalPaymentId = externalPaymentId →
      (call.answer (.verify input)).result = .ok fetched → fetched.verified = true →
      fetched.externalPaymentId = externalPaymentId ∧ externalPaymentId ≠ ""
  | .webhook rawBody .. => ∀ paymentId, Delivers cfg rawBody paymentId → paymentId ≠ ""
  | .markVerifiedFromWebhook _ paymentId .. => paymentId ≠ ""
  | _ => True

section Calls

variable {cfg : Config} {s : Services} {o : String} {x : Order} {act : Act} {call : Call}

/-- Only `fulfil` moves an order to `FULFILMENT_PENDING`. -/
theorem acts_fulfils {c : Contract Services Query.Answer} {command : Command}
    (h : command.Acts cfg c s o x (.move .fulfilmentPending)) :
    ∃ fail operationId, command = .fulfil o fail operationId := by
  cases command with
  | fulfil o' fail operationId =>
      obtain ⟨rfl, -⟩ := h
      exact ⟨fail, operationId, rfl⟩
  | respond =>
      obtain ⟨-, v, -, -, acts⟩ := h
      cases acts with
      | move asked => exact absurd asked (by decide)
  | intentPatch =>
      obtain ⟨-, v, -, -, acts⟩ := h
      cases acts with
      | move _ asked => exact absurd asked (by decide)
  | compensate =>
      obtain ⟨-, v, -, -, acts⟩ := h
      cases acts with
      | close closing => exact absurd closing (by decide)
  | confirmX402OrderPayment =>
      obtain ⟨-, v, -, acts⟩ := h
      cases acts with
      | move paying => exact absurd paying (by decide)
  | webhook =>
      obtain ⟨_, _, -, -, -, acts⟩ := h
      cases acts
  | buildQuote | approve | initiatePayment | verifyPayment =>
      obtain ⟨-, v, -, -, acts⟩ := h
      cases acts
  | prepareX402OrderPayment | tamper | markVerifiedFromWebhook =>
      obtain ⟨-, v, -, acts⟩ := h
      cases acts
  | _ => exact absurd h id

/-- An order that is not paid is not fulfilled. -/
theorem fulfil_refused_meets {seen : Order → Order → Prop} {lic : String → Order → Act → Prop}
    {c : Contract Services Query.Answer} {fail : Bool} {operationId : Option String} {v : View}
    (lawful : Lawful cfg.platform seen lic o c) (at_ : s.view? o = some v) (unpaid : v.state ≠ .paidVerified) :
    (fulfil cfg o fail operationId).Meets c (fun _ _ => True) s := by
  refine meets_idempotent lawful at_ (fun _ _ _ _ => trivial) (fun _ _ _ _ => trivial) fun s₁ _ at₁ => ?_
  refine Proc.meets_bind.mpr (meets_session? at₁ ?_)
  refine meets_ite (fun _ => meets_refuse lawful at₁ fun _ _ => trivial) (fun paid => ?_)
  exact absurd (not_not.mp paid) unpaid

/-- A payment that was not prepared is not confirmed. -/
theorem confirm_unknown_meets {seen : Order → Order → Prop} {lic : String → Order → Act → Prop}
    {c : Contract Services Query.Answer} {paymentIdentifier : String} {operationId : Option String} {v : View}
    (lawful : Lawful cfg.platform seen lic o c) (at_ : s.view? o = some v)
    (unknown : v.session.x402OrderPayment.filter (·.paymentIdentifier = paymentIdentifier) = none) :
    (confirmX402OrderPayment cfg o paymentIdentifier operationId).Meets c (fun _ _ => True) s := by
  refine meets_idempotent lawful at_ (fun _ _ _ _ => trivial) (fun _ _ _ _ => trivial) fun s₁ _ at₁ => ?_
  refine Proc.meets_bind.mpr (meets_session? at₁ ?_)
  refine Proc.meets_bind.mpr (meets_record? at₁ ?_)
  dsimp only [Option.map_some]
  rw [unknown]
  cases v.record <;>
    exact Proc.meets_bind.mpr (meets_log lawful at₁ fun _ at₂ => meets_refuse lawful at₂ fun _ _ => trivial)

/-- A call that does nothing to any order. -/
theorem Call.quiet {p : Order → Prop}
    (meets : (call.command.op cfg).Meets (call.contract cfg (fun _ _ _ => False) s) (fun _ _ => True) (call.start s))
    (start : OrderAt o p s) :
    (∀ e ∈ call.events cfg s, e.At (OrderAt o p)) ∧ OrderAt o p (call.final cfg s) := by
  have keeps : (∀ e ∈ call.events cfg s, e.Keeps (call.contract cfg (fun _ _ _ => False) s)) ∧ _ :=
    meets.run (fun _ => rfl) fun q s' mem => ⟨rfl, mem⟩
  have each : ∀ s s', OrderAt o p s → (call.contract cfg (fun _ _ _ => False) s).guar s s' → OrderAt o p s' :=
    fun _ _ holds advances => advances.keeps (fun _ _ _ _ _ licensed => licensed.elim) holds
  exact ⟨Call.leads.throughout each keeps.1 start, Call.leads.invariant each keeps.1 start⟩

/-- What a call that spares the bill does to an order, save the calls that are followed by themselves. -/
theorem keepsBill_of_acts {c : Contract Services Query.Answer} (alone : Alone call.answer c)
    (spares : call.SparesBill cfg s) (fulfils : ∀ o fail operationId, call.command ≠ .fulfil o fail operationId)
    (named : ∀ o operationId, call.command ≠ .confirmX402OrderPayment o "" operationId)
    (h : call.command.Acts cfg c (call.start s) o x act) : KeepsBill x act := by
  have overturned : ∀ {message supplied operationId v},
      call.command = .respond o message supplied operationId → (call.start s).view? o = some v →
      respondRuns cfg (call.start s) o message supplied operationId →
      (∀ answer, Alone answer c → x.state = v.state ∧ v.Overturns cfg message answer) →
      x.state ∉ billedStates := by
    intro message supplied operationId v command at_ runs overturns billed
    obtain ⟨state, overturns⟩ := overturns _ alone
    simp only [Call.SparesBill, command] at spares
    exact spares v at_ (state ▸ billed) runs overturns
  cases act with
  | withdraw record =>
      rcases Command.acts_withdraw h with ⟨_, _, _, v, command, at_, runs, overturns⟩ |
        ⟨_, _, v, command, at_, accepts, changed, state⟩
      · exact overturned command at_ runs overturns
      · intro billed
        simp only [Call.SparesBill, command] at spares
        exact changed (spares v at_ (state ▸ billed) accepts)
  | restart =>
      obtain ⟨_, _, _, v, command, at_, runs, overturns⟩ := Command.acts_restart h
      exact overturned command at_ runs overturns
  | quote r productId =>
      obtain ⟨supplied, operationId, v, command, at_, runs, quoted, rfl⟩ := Command.acts_quote h
      intro billed
      simp only [Call.SparesBill, command] at spares
      have state : (v.selectable cfg).2.order.state = v.state := v.state_selectable cfg
      rw [spares v at_ (state ▸ billed) runs] at quoted
      cases quoted
  | tamper r =>
      obtain ⟨field, v, command, at_, changed, rfl⟩ := Command.acts_tamper h
      intro billed
      simp only [Call.SparesBill, command] at spares
      rw [spares v at_ billed] at changed
      cases changed
  | prepare payment =>
      obtain ⟨command, answer, time⟩ := call
      cases command with
      | prepareX402OrderPayment o' operationId =>
          obtain ⟨-, v, -, acts⟩ := h
          cases acts with
          | prepare record => simp [KeepsBill, preparePayment, mockOrderPaymentIdentifier]
      | _ => exact absurd (Command.does_of_acts h) id
  | settle payment r =>
      obtain ⟨operationId, command⟩ := Command.acts_settle h
      intro empty
      exact named o operationId (by rw [command, empty])
  | verify result paymentId =>
      obtain ⟨externalOrderId, signature, operationId, v, r, s', command, -, -, -, a, answers, answered⟩ :=
        Command.acts_verify h
      simp only [Call.SparesBill, command] at spares
      rw [alone.given answers] at answered
      exact spares _ _ rfl answered
  | webhook paymentId r =>
      rcases Command.acts_webhook h with ⟨_, _, _, _, command, delivers, -⟩ | ⟨_, _, command⟩
      · simp only [Call.SparesBill, command] at spares
        exact spares paymentId delivers
      · simp only [Call.SparesBill, command] at spares
        exact spares
  | move next =>
      cases next with
      | fulfilmentPending =>
          obtain ⟨fail, operationId, command⟩ := acts_fulfils h
          exact absurd command (fulfils o fail operationId)
      | _ => trivial
  | _ => trivial

theorem fulfilmentStates_open {state : OrderState} (among : state ∈ fulfilmentStates) :
    state ≠ .manualReview := by
  revert among
  cases state <;> decide

/-- A move of one order among the states of its fulfilment. -/
def Fulfils (o' o : String) (_ : Order) (act : Act) : Prop :=
  o = o' ∧ ∃ next ∈ fulfilmentStates, act = .move next

/-- A call on a known order that spares the bill keeps what holds of every order. -/
theorem Call.keepsBill (known : ¬ call.command.Opens) (keyed : Keyed s) (spares : call.SparesBill cfg s)
    (billed : ∀ o, OrderAt o Billed s) :
    ∀ o, (∀ e ∈ call.events cfg s, e.At (OrderAt o Billed)) ∧ OrderAt o Billed (call.final cfg s) := by
  intro o
  by_cases fulfils : ∃ o' fail operationId, call.command = .fulfil o' fail operationId
  · obtain ⟨o', fail, operationId, command⟩ := fulfils
    have quiet : (∀ v, (call.start s).view? o' = some v → v.state ≠ .paidVerified) →
        (∀ e ∈ call.events cfg s, e.At (OrderAt o Billed)) ∧ OrderAt o Billed (call.final cfg s) := by
      intro unpaid
      refine Call.quiet ?_ (billed o)
      have lawful : Lawful cfg.platform Eq (fun _ _ _ => False) o' (call.contract cfg (fun _ _ _ => False) s) :=
        .alone (by rw [command]; rfl)
      rw [command]
      change (fulfil cfg o' fail operationId).Meets _ _ _
      cases at_ : (call.start s).view? o' with
      | none => exact fulfil_meets lawful at_ fun v known => by cases known
      | some v => exact fulfil_refused_meets lawful at_ (unpaid v at_)
    cases at_ : (call.start s).view? o' with
    | none => exact quiet fun v known => by rw [at_] at known; cases known
    | some v =>
        by_cases paid : v.state = .paidVerified
        · -- The order is paid when the call starts, and is only moved among the states of its fulfilment.
          have licensed : ∀ o₁ x act,
              call.command.Acts cfg (call.contract cfg (Fulfils o') s) (call.start s) o₁ x act →
                Fulfils o' o₁ x act := by
            intro o₁ x act acts
            rw [command] at acts
            obtain ⟨rfl, -, -, acts⟩ := acts
            exact ⟨rfl, acts⟩
          have kept := Call.keeps (o := o) (p := fun x => Billed x ∧ (o = o' → x.state ≠ .manualReview))
            (Fulfils o') known keyed licensed ?_ ?_
          · refine ⟨fun e mem => (kept.1 e mem).mono fun _ both x at_ => (both x at_).1, ?_⟩
            exact fun x at_ => (kept.2 x at_).1
          · rintro x act y ⟨billed, open_⟩ step ⟨rfl, next, among, rfl⟩
            refine ⟨billed.step step ?_, fun _ => ?_⟩
            · cases next with
              | fulfilmentPending => exact open_ rfl
              | _ => trivial
            · cases step with
              | move => exact fulfilmentStates_open among
          · intro x shown
            refine ⟨billed o x shown, ?_⟩
            rintro rfl
            obtain rfl := Option.some.inj ((order?_of_view (s := call.start s) at_).symm.trans shown)
            exact fun review => absurd (paid.symm.trans review) (by decide)
        · exact quiet fun v' known => by
            obtain rfl := Option.some.inj (at_.symm.trans known)
            exact paid
  by_cases unnamed : ∃ o' operationId, call.command = .confirmX402OrderPayment o' "" operationId
  · obtain ⟨o', operationId, command⟩ := unnamed
    refine Call.quiet ?_ (billed o)
    have lawful : Lawful cfg.platform Eq (fun _ _ _ => False) o' (call.contract cfg (fun _ _ _ => False) s) :=
      .alone (by rw [command]; rfl)
    rw [command]
    change (confirmX402OrderPayment cfg o' "" operationId).Meets _ _ _
    cases at_ : (call.start s).view? o' with
    | none => exact (confirmX402OrderPayment_meets lawful at_ fun v known => by cases known).mono fun _ _ _ => trivial
    | some v =>
        refine confirm_unknown_meets lawful at_ (Option.filter_eq_none_iff.mpr fun payment stored => ?_)
        simpa using (billed o' v.order (order?_of_view (s := call.start s) at_)).prepared payment stored
  · exact Call.keeps (fun _ => KeepsBill) known keyed (fun o₁ x act acts => keepsBill_of_acts Alone.alone spares
      (fun o' fail operationId command => fulfils ⟨o', fail, operationId, command⟩)
      (fun o' operationId command => unnamed ⟨o', operationId, command⟩) acts)
      (fun x act y billed step licensed => billed.step step licensed) (billed o)

/-! ### New orders -/

/-- An order on which nothing was paid or prepared. -/
structure Order.Fresh (x : Order) : Prop where
  unverified : x.verification = none
  unprepared : x.x402 = none
  draft : x.state = .draft

theorem Order.Fresh.billed (h : x.Fresh) : Billed x where
  attested := fun v stored _ => by cases h.unverified.symm.trans stored
  prepared := fun payment stored => by cases h.unprepared.symm.trans stored
  billed := fun billed => absurd (h.draft ▸ billed) (by decide)

/-- Every order was there before, or nothing was done to it. -/
def Opening (s s' : Services) : Prop :=
  ∀ o x, s'.order? o = some x → s.order? o = some x ∨ x.Fresh

theorem Opening.of_orders {s' : Services} (h : ∀ o x, s'.order? o = some x → s.order? o = some x) : Opening s s' :=
  fun o x at_ => .inl (h o x at_)

/-- The contract of `createSession`: it adds orders on which nothing was done. -/
def openingOnly : Contract Services Query.Answer where
  rely s s' := s' = s
  guar := Opening
  calls q s := ∃ o, Starts s o q
  answers _ _ _ := True

theorem lawful_opening {P : Platform} (o : String) : Lawful P Eq (fun _ _ _ => False) o openingOnly where
  refl _ := rfl
  guar := by
    refine fun advances => .of_orders fun o x at_ => ?_
    rcases advances.orders o with same | ⟨_, _, _, _, _, _, unlicensed⟩
    · exact same ▸ at_
    · exact absurd unlicensed id
  calls starts := ⟨o, starts⟩
  resumes := by
    rintro s _ v rfl at_
    exact ⟨v, at_, rfl⟩

theorem createSession_opening {operationId : Option String} :
    (createSession cfg operationId).Meets openingOnly (fun _ _ => True) s := by
  have lawful : Lawful cfg.platform Eq (fun _ _ _ => False) "" openingOnly := lawful_opening ""
  refine Proc.meets_bind.mpr (meets_draw lawful rfl fun s₁ _ => ?_)
  generalize cfg.platform.newId "ord" s.draws = orderId
  refine meets_idempotent lawful rfl (fun _ _ _ _ => trivial) (fun _ _ _ _ => trivial) fun s₂ _ _ => ?_
  refine Proc.meets_bind.mpr (Proc.meets_bind.mpr (meets_read (Proc.meets_pure.mpr ?_)))
  refine Proc.meets_bind.mpr (meets_draw lawful rfl fun s₃ _ => ?_)
  refine Proc.meets_bind.mpr ⟨.of_orders fun _ _ => id, ?_⟩
  refine Proc.meets_bind.mpr ⟨fun o x at_ => ?_, ?_⟩
  · by_cases new : o = orderId
    · subst new
      refine .inr ?_
      simp only [Services.order?, OrderedMap.get?_set_self, Option.map_some, Option.some.injEq] at at_
      rw [← at_]
      exact ⟨rfl, rfl, rfl⟩
    · left
      simpa [Services.order?, OrderedMap.get?_set_of_ne _ new] using at_
  · refine Proc.meets_bind.mpr ⟨.of_orders fun _ _ => order?_pruneSessionCache, ?_⟩
    refine Proc.meets_bind.mpr (meets_log lawful rfl fun s₄ _ => ?_)
    exact Proc.meets_bind.mpr (meets_complete lawful rfl fun _ _ => trivial)

/-- A call that creates a session keeps what holds of every order. -/
theorem Call.opens_billed (cfg : Config) (opens : call.command.Opens) (billed : ∀ o, OrderAt o Billed s) :
    (∀ e ∈ call.events cfg s, e.Keeps openingOnly) ∧
      ∀ o, (∀ e ∈ call.events cfg s, e.At (OrderAt o Billed)) ∧ OrderAt o Billed (call.final cfg s) := by
  obtain ⟨command, answer, time⟩ := call
  cases command with
  | createSession operationId =>
      have meets : (createSession cfg operationId).Meets openingOnly (fun _ _ => True)
          { s with clock := time } := createSession_opening
      have keeps : ∀ e ∈ ((createSession cfg operationId).run answer { s with clock := time }).events,
          e.Keeps openingOnly := (meets.run (fun _ => rfl) fun _ _ _ => trivial).1
      have leads := Proc.run_leads answer (createSession cfg operationId) { s with clock := time }
      refine ⟨keeps, fun o => ?_⟩
      have each : ∀ s s' : Services, OrderAt o Billed s → Opening s s' → OrderAt o Billed s' := by
        intro s s' billed opening x at_
        rcases opening o x at_ with before | fresh
        · exact billed x before
        · exact fresh.billed
      exact ⟨leads.throughout each keeps (billed o), leads.invariant each keeps (billed o)⟩
  | _ => cases opens

end Calls

/-! ### Runs -/

section Runs

variable {cfg : Config} {s : Services} {history : History} {time : Int} {o : String} {x : Order} {call : Call}

/-- The event asks for nothing to be refunded, or for the payment of a paid order: all of what was captured. -/
def RefundsCaptured : Event Services Query.Answer → Prop
  | .called (.compensate input) _ s => ∃ x r v, s.order? input.logicalOrderId = some x ∧ x.Bills r v ∧
      input.externalPaymentId = v.externalPaymentId ∧ input.amountMinor = v.amountMinor
  | _ => True

/-- What is asked of the adapter of an order that is billed refunds what was captured. -/
theorem RefundsCaptured.of_starts {e : Event Services Query.Answer}
    (asked : ∀ q a s, e = .called q a s → ∃ o, Starts s o q) (billed : ∀ o, e.At (OrderAt o Billed)) :
    RefundsCaptured e := by
  cases e with
  | wrote => trivial
  | called q a s =>
      obtain ⟨o, starts⟩ := asked q a s rfl
      cases q with
      | compensate input =>
          obtain ⟨x, r, paymentId, at_, pending, record, paid, rfl⟩ := starts
          obtain ⟨r', v, bills⟩ := (billed o x at_).billed (by rw [pending]; decide)
          obtain rfl := Option.some.inj (record.symm.trans bills.record)
          exact ⟨x, r, v, at_, bills, Option.some.inj (paid.symm.trans bills.paymentId), bills.amount.symm⟩
      | _ => trivial

/-- Calls that spare the bill. -/
def sparingBill (cfg : Config) (_ : History) (call : Call) (s : Services) : Prop := call.SparesBill cfg s

/-- One call that spares the bill keeps what holds of every order, and asks for what was captured. -/
theorem Call.bills (keyed : Keyed s) (spares : call.SparesBill cfg s) (billed : ∀ o, OrderAt o Billed s) :
    (∀ o, OrderAt o Billed (call.final cfg s)) ∧ ∀ e ∈ call.events cfg s, RefundsCaptured e := by
  by_cases opens : call.command.Opens
  · obtain ⟨keeps, kept⟩ := Call.opens_billed cfg opens billed
    refine ⟨fun o => (kept o).2, fun e mem => .of_starts (fun q a s' called => ?_) fun o => (kept o).1 e mem⟩
    have keeps := keeps e mem
    rw [called] at keeps
    exact keeps
  · have kept := Call.keepsBill opens keyed spares billed
    have keeps := (Call.sound cfg (fun _ _ _ => True) opens keyed fun _ _ _ _ => trivial).1
    refine ⟨fun o => (kept o).2, fun e mem => .of_starts (fun q a s' called => ?_) fun o => (kept o).1 e mem⟩
    have keeps := keeps e mem
    rw [called] at keeps
    obtain ⟨o, -, starts⟩ := keeps
    exact ⟨o, starts⟩

/-- What the whole run keeps. -/
theorem billed_of_trace (trace : Trace cfg (sparingBill cfg) { clock := time } history s) :
    Keyed s ∧ (∀ o, OrderAt o Billed s) ∧ ∀ e ∈ history, RefundsCaptured e := by
  induction trace with
  | nil =>
      have unknown : ∀ o x, ({ clock := time } : Services).order? o = some x → False := by rintro _ _ ⟨⟩
      refine ⟨fun o x at_ => (unknown o x at_).elim, fun o x at_ => (unknown o x at_).elim, fun e mem => ?_⟩
      cases mem
  | @call history s call before spares ih =>
      obtain ⟨keyed, billed, refunds⟩ := ih
      obtain ⟨after, asked⟩ := Call.bills keyed spares billed
      refine ⟨keyed_final keyed, after, fun e mem => ?_⟩
      rcases List.mem_append.mp mem with earlier | now
      · exact refunds e earlier
      · exact asked e now

/-- In every run of calls that spare the bill, a paid order that is not closed has the record and the evidence of
one payment, of the amount of the record; whatever is asked of the adapter is to refund such a payment; and a
compensation that runs when the fulfilment has failed closes the order, after the adapter was asked for the whole
payment if the adapter made it. -/
theorem refundable_in_runs (trace : Trace cfg (sparingBill cfg) { clock := time } history s) :
    (∀ o x, s.order? o = some x → x.state ∈ billedStates → ∃ r v, x.Bills r v) ∧
      (∀ e ∈ history, RefundsCaptured e) ∧
      ∀ (call : Call) o operationId x, call.command = .compensate o operationId → s.order? o = some x →
        x.state = .fulfilmentFailed → compensateRuns cfg (call.start s) o operationId →
        (∃ y, (call.final cfg s).order? o = some y ∧ (y.state = .refunded ∨ y.state = .manualReview)) ∧
          ∃ r v, x.Bills r v ∧ (v.rail ≠ .x402Solana → ∃ a at_,
            .called (.compensate (refundInput o v.externalPaymentId r)) a at_ ∈ call.events cfg s) := by
  obtain ⟨keyed, billed, refunds⟩ := billed_of_trace trace
  refine ⟨fun o x at_ => (billed o x at_).billed, refunds, ?_⟩
  rintro call o operationId x command at_ failed runs
  obtain ⟨r, v, bills⟩ := (billed o x at_).billed (by rw [failed]; decide)
  obtain ⟨w, shown, rfl⟩ : ∃ w, (call.start s).view? o = some w ∧ w.order = x :=
    call.view_start (f := id) (by rw [at_, Option.map_some, id])
  have known : ¬ call.command.Opens := by
    rw [command]
    exact id
  have ends := (Call.sound cfg (fun _ _ _ => True) known keyed fun _ _ _ _ => trivial).2
  rw [command] at ends
  obtain ⟨w', after, ends⟩ := ends w shown
  cases ends runs with
  | refused unrefundable =>
      exact absurd ⟨.inl failed, bills.record, bills.paymentId, bills.named⟩ (unrefundable r v.externalPaymentId)
  | mocked refundable agent state =>
      refine ⟨⟨w'.order, order?_of_view after, .inl state⟩, r, v, bills, fun other => absurd agent ?_⟩
      have stored : w.session.verification = some v := bills.verification
      simp [Session.paidByAgent, stored, other]
  | @asked r' paymentId s₀ s₁ a refundable adapter asked state =>
      obtain ⟨rfl, rfl, called⟩ := asked
      have named : w.session.externalPaymentId = some v.externalPaymentId := bills.paymentId
      obtain rfl := Option.some.inj (refundable.record.symm.trans bills.record)
      obtain rfl := Option.some.inj (refundable.paid.symm.trans named)
      exact ⟨⟨w'.order, order?_of_view after, state rfl⟩, r', v, bills, fun _ => ⟨_, _, called⟩⟩

end Runs

/-! ### Plain runs -/

namespace RefundSample

/-- No order has to be refunded. -/
def unbilled (s : Services) : Bool := s.sessions.entries.all fun e => e.2.state ∉ billedStates

/-- What is told of no payment spares the bill where there is none. -/
theorem spares_unbilled {s : Services} {command : Command} (none : unbilled s = true)
    (untold : match command with
      | .verifyPayment .. | .webhook .. | .markVerifiedFromWebhook .. => False
      | _ => True) : command.plain.SparesBill plainConfig s := by
  have closed : ∀ {o v}, (command.plain.start s).view? o = some v → v.state ∉ billedStates := by
    intro o v shown billed
    obtain ⟨session, stored, same⟩ := Option.map_eq_some_iff.mp (order?_of_view (s := command.plain.start s) shown)
    have each := List.all_eq_true.mp none _ (OrderedMap.mem_entries (e := (o, session)).mpr stored)
    have state : session.state = v.state := congrArg Order.state same
    rw [decide_eq_true_eq, state] at each
    exact each billed
  cases command with
  | buildQuote | respond | intentPatch | tamper => exact fun v shown billed => absurd billed (closed shown)
  | verifyPayment | webhook | markVerifiedFromWebhook => cases untold
  | _ => trivial

/-- The payment was verified, and its fulfilment failed. -/
def failedServices : Services := paidServices.after [.fulfil "ord_0" true none]

theorem unbilled_quoting : unbilled openedServices = true ∧
    unbilled (openedServices.after (quoting.take 1)) = true ∧
    unbilled (openedServices.after (quoting.take 2)) = true := by
  decide +kernel

theorem state_failed : (failedServices.order? "ord_0").map Order.state = some .fulfilmentFailed := by
  decide +kernel

/-- The plain run, whose calls spare the bill. -/
theorem trace_failed :
    ∃ history, Trace plainConfig (sparingBill plainConfig) { clock := 0 } history failedServices := by
  have start : Trace plainConfig (sparingBill plainConfig) { clock := 0 } [] { clock := 0 } := .nil
  have opened := start.call (Command.createSession none).plain trivial
  obtain ⟨first, second, third⟩ := unbilled_quoting
  have sized := opened.call (Command.plain (.intentPatch "ord_0" [("size", .str "UK 9")] 0))
    (spares_unbilled first trivial)
  have used := sized.call (Command.plain (.intentPatch "ord_0" [("useCase", .str "road")] 1))
    (spares_unbilled second trivial)
  have quoted := used.call (Command.plain (.buildQuote "ord_0" "p_streak_4" none none)) (spares_unbilled third trivial)
  obtain ⟨_, pending⟩ := Trace.after quoted (approving ++ initiating) fun _ _ command mem => by
    rcases List.mem_append.mp mem with mem | mem <;> obtain rfl := List.mem_singleton.mp mem <;> trivial
  obtain ⟨_, paid⟩ := Trace.after pending verifying fun _ _ command mem => by
    obtain rfl := List.mem_singleton.mp mem
    rintro input fetched same ⟨⟩ -
    exact ⟨same, by decide⟩
  obtain ⟨_, failed⟩ := Trace.after paid [.fulfil "ord_0" true none] fun _ _ command mem => by
    obtain rfl := List.mem_singleton.mp mem
    trivial
  exact ⟨_, failed⟩

/-- The amounts that the adapter was asked to refund. -/
def refundAmounts (history : History) : List Int :=
  history.filterMap fun
    | .called (.compensate input) _ _ => some input.amountMinor
    | _ => none

/-- The price of the paid order is tampered with. -/
def reducedServices : Services := paidServices.after [.tamper "ord_0" "price"]

/-- The amount of the record, and the verified amount. -/
def amounts (x : Order) : Option Int × Option Int :=
  (x.record.map (·.envelope.totalMinor), x.verification.map (·.amountMinor))

theorem reduced_facts : (reducedServices.order? "ord_0").map (fun x => (x.state, amounts x)) =
      some (.paidVerified, some 429800, some 434800) ∧
    refundAmounts ((Command.compensate "ord_0" none).plain.events plainConfig
      (reducedServices.after [.fulfil "ord_0" true none])) = [429800] := by
  decide +kernel

end RefundSample

open RefundSample in
/-- The failed fulfilment of the plain run is refunded. -/
theorem refundable_in_runs_plain : ∃ history, Trace plainConfig (sparingBill plainConfig) { clock := 0 } history
      failedServices ∧ (failedServices.order? "ord_0").map Order.state = some .fulfilmentFailed ∧
    ∃ y, ((Command.compensate "ord_0" none).plain.final plainConfig failedServices).order? "ord_0" = some y ∧
      (y.state = .refunded ∨ y.state = .manualReview) := by
  obtain ⟨history, trace⟩ := trace_failed
  obtain ⟨x, at_, failed⟩ := Option.map_eq_some_iff.mp state_failed
  exact ⟨history, trace, state_failed, ((refundable_in_runs trace).2.2 (Command.compensate "ord_0" none).plain
    "ord_0" none x rfl at_ failed trivial).1⟩

open RefundSample in
/-- A tampered order is paid, but its record has a smaller total, and no more than that is refunded. -/
theorem refund_reduced : ∃ history x r v, Reached plainConfig history reducedServices ∧
    reducedServices.order? "ord_0" = some x ∧ x.state = .paidVerified ∧ x.record = some r ∧
    x.verification = some v ∧ r.envelope.totalMinor = 429800 ∧ v.amountMinor = 434800 ∧
    refundAmounts ((Command.compensate "ord_0" none).plain.events plainConfig
      (reducedServices.after [.fulfil "ord_0" true none])) = [429800] := by
  obtain ⟨shown, refunded⟩ := reduced_facts
  obtain ⟨history, start, trace⟩ := reached_paid
  obtain ⟨_, reduced⟩ := trace.after [.tamper "ord_0" "price"] fun _ _ _ _ => trivial
  obtain ⟨x, at_, facts⟩ := Option.map_eq_some_iff.mp shown
  simp only [amounts, Prod.mk.injEq, Option.map_eq_some_iff] at facts
  obtain ⟨paid, ⟨r, record, total⟩, v, verification, amount⟩ := facts
  exact ⟨_, x, r, v, ⟨start, reduced⟩, at_, paid, record, verification, total, amount, refunded⟩

end AgentReady
