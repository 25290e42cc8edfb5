import AgentReady.Lifecycle.Fleet

/-!
What one turn of a webhook delivery does to the services.
-/

namespace AgentReady

open Coop Svc

/-! ### Segments of the services -/

section Steps

variable {cfg : Config} {rel : Services → Services → Prop} {α β : Type}
  {post : Except ServiceError β → Services → Services → Prop} {s₀ s : Services}

theorem segments_log {event : String → Int → AuditEvent} {f : Unit → Svc β} :
    (log cfg event >>= f).Segments rel post s₀ s ↔ (f ()).Segments rel post s₀
      { s with
        draws := s.draws + 1
        audit := s.audit ++ [event (cfg.platform.newId "evt" s.draws) s.clock] } :=
  Iff.rfl

theorem segments_session? {o : String} {f : Option Session → Svc β} :
    (session? o >>= f).Segments rel post s₀ s ↔ (f (s.sessions.get? o)).Segments rel post s₀ s :=
  Iff.rfl

theorem segments_record? {o : String} {f : Option EnvelopeRecord → Svc β} :
    (record? o >>= f).Segments rel post s₀ s ↔ (f (s.envelopes.get? o)).Segments rel post s₀ s :=
  Iff.rfl

theorem segments_read {f : Services → Svc β} :
    (Proc.read >>= f).Segments rel post s₀ s ↔ (f s).Segments rel post s₀ s :=
  Iff.rfl

theorem segments_markProcessed {e : String} {f : Unit → Svc β} :
    (markProcessed e >>= f).Segments rel post s₀ s ↔ (f ()).Segments rel post s₀
      { s with webhookDedup := s.webhookDedup.set e s.clock } :=
  Iff.rfl

theorem segments_updateSession {o : String} {g : Session → Session} {f : Unit → Svc β} :
    (updateSession o g >>= f).Segments rel post s₀ s ↔
      (f ()).Segments rel post s₀ (s.updateSession o g) :=
  Iff.rfl

theorem segments_setState {o : String} {x : Session} {next : OrderState} {f : Unit → Svc β}
    (stored : s.sessions.get? o = some x) (moves : x.state ≠ next)
    (allowed : transitionState x.state next = .ok ()) :
    (setState o next >>= f).Segments rel post s₀ s ↔
      (f ()).Segments rel post s₀ (s.updateSession o fun x => { x with state := next }) := by
  rw [Proc.segments_bind]
  unfold setState
  rw [segments_session?, stored]
  dsimp only
  rw [if_neg moves, allowed]
  rfl

theorem segments_setState_same {o : String} {x : Session} {f : Unit → Svc β}
    (stored : s.sessions.get? o = some x) :
    (setState o x.state >>= f).Segments rel post s₀ s ↔ (f ()).Segments rel post s₀ s := by
  rw [Proc.segments_bind]
  unfold setState
  rw [segments_session?, stored]
  dsimp only
  rw [if_pos rfl]
  rfl

theorem segments_setState_refused {o : String} {x : Session} {next : OrderState} {f : Unit → Svc β}
    {message : String} (stored : s.sessions.get? o = some x) (moves : x.state ≠ next)
    (refused : transitionState x.state next = .error message) :
    (setState o next >>= f).Segments rel post s₀ s ↔
      post (.error (.illegalTransition x.state next)) s₀ s := by
  rw [Proc.segments_bind]
  unfold setState
  rw [segments_session?, stored]
  dsimp only
  rw [if_neg moves, refused]
  rfl

end Steps

/-! ### Deliveries -/

/-- A delivery, as its raw body and its header give it. -/
structure Delivery where
  event : Option Json
  entity : WebhookEntity
  eventId : String

def delivery? (cfg : Config) (rawBody : String) (eventIdHeader : Option String) : Option Delivery := do
  let value ← cfg.platform.parseJson rawBody
  let body ← (webhookBody value).toOption
  let entity ← body.entity
  return ⟨body.event, entity, eventIdHeader.getD (propertyText body.event ++ "_" ++ entity.id)⟩

/-- The key under which a payment is marked as applied. -/
def Delivery.mark (d : Delivery) : String := "webhook_mark_" ++ d.entity.id

/-- A delivery is for the Razorpay order of a session. -/
def Delivery.For (d : Delivery) (x : Session) : Prop :=
  ∃ externalOrderId, d.entity.orderId = some (.str externalOrderId) ∧
    x.externalOrderId = some externalOrderId

/-- A delivery binds to a session and its record. An amount or a currency is compared where the entity
has one. -/
structure Delivery.Binds (d : Delivery) (x : Session) (r : EnvelopeRecord) : Prop where
  supported : ∃ event ∈ supportedEvents, d.event = some (.str event)
  order : d.For x
  amount : ∀ v ∈ d.entity.amount, v = .num (.ofInt r.envelope.totalMinor)
  currency : ∀ v ∈ d.entity.currency, v = .str r.envelope.currency
  captured : d.entity.status = some (.str "captured")

/-- Every order is in the state in which it was. -/
def SameStates (s s' : Services) : Prop :=
  ∀ o, (s'.sessions.get? o).map (·.state) = (s.sessions.get? o).map (·.state)

/-- What a turn of a delivery may lead to, where the sessions are under their own ids. -/
inductive WebhookTurn (delivered : Option Delivery) (s s' : Services) : Prop where
  | silent (dedup : s'.webhookDedup = s.webhookDedup) (states : SameStates s s')
  | pays {d : Delivery} {x : Session} {r : EnvelopeRecord} (delivers : delivered = some d)
      (stored : s.sessions.get? x.logicalOrderId = some x)
      (record : s.envelopes.get? x.logicalOrderId = some r) (binds : d.Binds x r)
      (pending : x.state = .paymentPending) (fresh : ¬ s.webhookDedup.has d.eventId)
      (unmarked : ¬ s.webhookDedup.has d.mark)
      (dedup : ∀ e, s'.webhookDedup.has e ↔ e = d.mark ∨ e = d.eventId ∨ s.webhookDedup.has e)
      (paid : (s'.sessions.get? x.logicalOrderId).map (·.state) = some .paidVerified)
      (others : ∀ o ≠ x.logicalOrderId, s'.sessions.get? o = s.sessions.get? o)
  | repeats {d : Delivery} {x : Session} (delivers : delivered = some d)
      (stored : s.sessions.get? x.logicalOrderId = some x) (order : d.For x)
      (pending : x.state = .paymentPending)
      (marked : d.eventId = d.mark ∨ s.webhookDedup.has d.mark)
      (dedup : ∀ e, s'.webhookDedup.has e ↔ e = d.eventId ∨ s.webhookDedup.has e)
      (states : SameStates s s')
  | finds {d : Delivery} {x : Session} (delivers : delivered = some d)
      (stored : s.sessions.get? x.logicalOrderId = some x) (order : d.For x)
      (paid : paidState x.state = true)
      (dedup : ∀ e, s'.webhookDedup.has e ↔ e = d.eventId ∨ s.webhookDedup.has e)
      (states : SameStates s s')

section Turns

variable {cfg : Config} {s₀ s : Services}

theorem isText_iff {text : String} {v : Json} : Json.isText text v = true ↔ v = .str text := by
  cases v <;> simp [Json.isText]

theorem isInt_iff {n : Int} {v : Json} : Json.isInt n v = true ↔ v = .num (.ofInt n) := by
  cases v <;> simp [Json.isInt]

/-- What binds at the first check binds at the second. -/
theorem webhookFailures_nil {d : Delivery} {x : Session} {r : EnvelopeRecord} {externalOrderId : String}
    (binds : d.Binds x r) (order : d.entity.orderId = some (.str externalOrderId)) :
    webhookFailures
      { amountMinor := d.entity.amount, currency := d.entity.currency, status := d.entity.status }
      externalOrderId x r = [] := by
  obtain ⟨_, named, same⟩ := binds.order
  obtain rfl := Json.str.inj (Option.some.inj (named.symm.trans order))
  simp only [webhookFailures, List.append_eq_nil_iff, codeWhen_eq_nil]
  refine ⟨⟨⟨by simp [same], ?_⟩, ?_⟩, ?_⟩
  · cases amount : d.entity.amount with
    | none => rfl
    | some v => simp [isInt_iff.mpr (binds.amount v amount)]
  · cases currency : d.entity.currency with
    | none => rfl
    | some v => simp [isText_iff.mpr (binds.currency v currency)]
  · simp [binds.captured, Json.isText]

theorem binds_of_failures {d : Delivery} {x : Session} {record : Option EnvelopeRecord}
    (supported : ∃ event ∈ supportedEvents, d.event = some (.str event)) (order : d.For x)
    (passes : deliveryFailures d.entity record = []) : ∃ r, record = some r ∧ d.Binds x r := by
  cases record with
  | none => cases passes
  | some r =>
      simp only [deliveryFailures, List.append_eq_nil_iff, codeWhen_eq_nil] at passes
      obtain ⟨⟨amount, currency⟩, captured⟩ := passes
      refine ⟨r, rfl, supported, order, ?_, ?_, ?_⟩
      · intro v given
        rw [given] at amount
        exact isInt_iff.mp (by simpa using amount)
      · intro v given
        rw [given] at currency
        exact isText_iff.mp (by simpa using currency)
      · cases status : d.entity.status with
        | none => simp [status] at captured
        | some v =>
            rw [status] at captured
            exact congrArg some (isText_iff.mp (by simpa using captured))

theorem SameStates.refl (s : Services) : SameStates s s := fun _ => rfl

theorem SameStates.trans {s s' s'' : Services} (h : SameStates s s') (h' : SameStates s' s'') :
    SameStates s s'' := fun o => (h' o).trans (h o)

theorem sameStates_of_sessions {s s' : Services} (sessions : s'.sessions = s.sessions) :
    SameStates s s' := fun o => by rw [sessions]

theorem get?_updateSession_self {o : String} {f : Session → Session} {x : Session}
    (stored : s.sessions.get? o = some x) : (s.updateSession o f).sessions.get? o = some (f x) := by
  unfold Services.updateSession
  rw [stored]
  exact OrderedMap.get?_set_self _ _ _

theorem get?_updateSession_of_ne {o o' : String} {f : Session → Session} (other : o' ≠ o) :
    (s.updateSession o f).sessions.get? o' = s.sessions.get? o' := by
  unfold Services.updateSession
  split
  · rfl
  · exact OrderedMap.get?_set_of_ne _ other _

theorem dedup_updateSession {o : String} {f : Session → Session} :
    (s.updateSession o f).webhookDedup = s.webhookDedup := by
  unfold Services.updateSession
  split <;> rfl

theorem sameStates_updateSession {o : String} {f : Session → Session} (same : ∀ x, (f x).state = x.state) :
    SameStates s (s.updateSession o f) := by
  intro o'
  unfold Services.updateSession
  split
  · rfl
  · rename_i x stored
    rw [OrderedMap.get?_set]
    split
    · rename_i here
      rw [here, stored]
      simp [same]
    · rfl

/-- A payment that is not marked is marked, and its order is paid. -/
theorem segments_markVerified {rel : Services → Services → Prop} {β : Type}
    {post : Except ServiceError β → Services → Services → Prop} {f : Reply → Svc β} {o : String}
    {d : Delivery} {x : Session} {r : EnvelopeRecord} {externalOrderId : String}
    (stored : s.sessions.get? o = some x) (record : s.envelopes.get? o = some r) (binds : d.Binds x r)
    (order : d.entity.orderId = some (.str externalOrderId)) (pending : x.state = .paymentPending)
    (unmarked : ¬ s.webhookDedup.has d.mark)
    (next : ∀ s', (∀ e, s'.webhookDedup.has e ↔ e = d.mark ∨ s.webhookDedup.has e) →
      (s'.sessions.get? o).map (·.state) = some .paidVerified →
      (∀ o' ≠ o, s'.sessions.get? o' = s.sessions.get? o') →
      (f (.marked true [])).Segments rel post s₀ s') :
    (markVerifiedFromWebhook cfg o d.entity.id externalOrderId
      { amountMinor := d.entity.amount, currency := d.entity.currency,
        status := d.entity.status } >>= f).Segments rel post s₀ s := by
  rw [Proc.segments_bind]
  unfold markVerifiedFromWebhook
  rw [segments_session?, segments_record?, stored, record]
  dsimp only
  rw [webhookFailures_nil binds order]
  change (if s.webhookDedup.has d.mark = true then _ else _ : Svc Reply).Segments _ _ _ _
  rw [if_neg unmarked, segments_markProcessed, segments_updateSession]
  have updated := get?_updateSession_self (s := { s with webhookDedup := s.webhookDedup.set d.mark s.clock })
    (f := fun s => { s with
      externalPaymentId := some d.entity.id
      verification := some (webhookVerification d.entity.id externalOrderId r) }) stored
  refine (segments_setState updated (by simp [pending])
    (by simp [pending, transitionState, OrderState.allowedTransitions])).mpr (segments_log.mpr ?_)
  refine next _ (fun e => ?_) ?_ fun o' other => ?_
  · dsimp only
    rw [dedup_updateSession, dedup_updateSession, OrderedMap.has_set]
  · dsimp only
    rw [get?_updateSession_self updated]
    rfl
  · dsimp only
    rw [get?_updateSession_of_ne other, get?_updateSession_of_ne other]

/-- A payment that is marked is not applied again. -/
theorem segments_markVerified_again {rel : Services → Services → Prop} {β : Type}
    {post : Except ServiceError β → Services → Services → Prop} {f : Reply → Svc β} {o : String}
    {d : Delivery} {x : Session} {r : EnvelopeRecord} {externalOrderId : String}
    (stored : s.sessions.get? o = some x) (record : s.envelopes.get? o = some r) (binds : d.Binds x r)
    (order : d.entity.orderId = some (.str externalOrderId)) (marked : s.webhookDedup.has d.mark)
    (next : (f (.marked true [])).Segments rel post s₀ s) :
    (markVerifiedFromWebhook cfg o d.entity.id externalOrderId
      { amountMinor := d.entity.amount, currency := d.entity.currency,
        status := d.entity.status } >>= f).Segments rel post s₀ s := by
  rw [Proc.segments_bind]
  unfold markVerifiedFromWebhook
  rw [segments_session?, segments_record?, stored, record]
  dsimp only
  rw [webhookFailures_nil binds order]
  change (if s.webhookDedup.has d.mark = true then _ else _ : Svc Reply).Segments _ _ _ _
  rw [if_pos marked]
  exact next

/-- Wherever nothing is asked of the segment, marking a payment is allowed. -/
theorem segments_markVerified_any {rel : Services → Services → Prop} {β : Type}
    {post : Except ServiceError β → Services → Services → Prop} {f : Reply → Svc β}
    {o paymentId externalOrderId : String} {claims : WebhookClaims}
    (next : ∀ r s', (f r).Segments rel post s₀ s') (failed : ∀ e s', post (.error e) s₀ s') :
    (markVerifiedFromWebhook cfg o paymentId externalOrderId claims >>= f).Segments rel post s₀ s := by
  rw [Proc.segments_bind]
  unfold markVerifiedFromWebhook
  rw [segments_session?, segments_record?]
  split
  · dsimp only
    split
    · exact next _ _
    · rw [segments_read]
      split
      · exact next _ _
      · rw [segments_markProcessed, segments_updateSession, Proc.segments_bind]
        unfold setState
        rw [segments_session?]
        split
        · exact next _ _
        · split
          · exact next _ _
          · split
            · exact failed _ _
            · exact next _ _
  · exact next _ _

/-- What is asked of a turn of a delivery. -/
def WebhookActs (delivered : Option Delivery) (s s' : Services) : Prop :=
  Keyed s → WebhookTurn delivered s s'

theorem WebhookActs.silent {delivered : Option Delivery} {s s' : Services}
    (dedup : s'.webhookDedup = s.webhookDedup) (states : SameStates s s') : WebhookActs delivered s s' :=
  fun _ => .silent dedup states

/-- After an await, a delivery does nothing more. -/
theorem segments_yield {delivered : Option Delivery} {reply : Reply} (acts : WebhookActs delivered s₀ s) :
    (do
      ask .yield
      return reply : Svc Reply).Segments (WebhookActs delivered) (fun _ => WebhookActs delivered) s₀ s :=
  ⟨acts, fun _ _ => .silent rfl (.refl _)⟩

/-- A bound delivery, by the state of its order. -/
theorem segments_dispatchWebhook {d : Delivery} {x : Session} {r : EnvelopeRecord}
    {externalOrderId : String} {found : WebhookOutcome} {key : String}
    (sessions : s.sessions = s₀.sessions) (envelopes : s.envelopes = s₀.envelopes)
    (dedup : s.webhookDedup = s₀.webhookDedup) (stored : s₀.sessions.get? key = some x)
    (record : s₀.envelopes.get? x.logicalOrderId = some r) (binds : d.Binds x r)
    (order : d.entity.orderId = some (.str externalOrderId)) (fresh : ¬ s₀.webhookDedup.has d.eventId) :
    (dispatchWebhook cfg x d.entity externalOrderId d.eventId found).Segments (WebhookActs (some d))
      (fun _ => WebhookActs (some d)) s₀ s := by
  have own : Keyed s₀ → s₀.sessions.get? x.logicalOrderId = some x := by
    intro keyed
    have same := keyed_iff.mp keyed key x stored
    rwa [same]
  unfold dispatchWebhook
  dsimp only
  split
  · rename_i pending
    rw [segments_markProcessed]
    by_cases keyed : Keyed s₀
    · by_cases unmarked : ¬ (s₀.webhookDedup.set d.eventId s.clock).has d.mark
      · refine segments_markVerified (r := r) (x := x) (by simpa [sessions] using own keyed)
          (by simpa [envelopes] using record) binds order pending (by simpa [dedup] using unmarked) ?_
        intro s' marked paid others
        refine segments_yield fun _ => .pays rfl (own keyed) record binds pending fresh ?_ ?_ paid ?_
        · exact fun has => unmarked (OrderedMap.has_set.mpr (.inr has))
        · intro e
          rw [marked e]
          simp only [dedup, OrderedMap.has_set]
        · intro o other
          rw [others o other]
          exact congrArg (OrderedMap.get? · o) sessions
      · have marked := not_not.mp unmarked
        refine segments_markVerified_again (r := r) (x := x) (by simpa [sessions] using own keyed)
          (by simpa [envelopes] using record) binds order (by simpa [dedup] using marked) ?_
        refine segments_yield fun _ => .repeats rfl (own keyed) binds.order pending ?_ ?_
          (sameStates_of_sessions sessions)
        · exact (OrderedMap.has_set.mp marked).imp_left Eq.symm
        · intro e
          simp only [dedup, OrderedMap.has_set]
    · exact segments_markVerified_any (fun _ _ => segments_yield fun keyed' => absurd keyed' keyed)
        fun _ _ keyed' => absurd keyed' keyed
  split
  · unfold holdWebhook
    rw [segments_updateSession, segments_log]
    refine .silent (dedup_updateSession.trans dedup) ?_
    exact (sameStates_of_sessions sessions).trans (sameStates_updateSession fun _ => rfl)
  split
  · rename_i paid
    rw [segments_markProcessed, segments_log]
    refine fun keyed => .finds rfl (own keyed) binds.order paid ?_ (sameStates_of_sessions sessions)
    intro e
    simp only [dedup, OrderedMap.has_set]
  · exact .silent dedup (sameStates_of_sessions sessions)

/-- A delivery of a supported event that was not processed before. -/
theorem segments_bindWebhook {d : Delivery} {found : WebhookOutcome}
    (supported : ∃ event ∈ supportedEvents, d.event = some (.str event))
    (fresh : ¬ s.webhookDedup.has d.eventId) :
    (bindWebhook cfg d.entity d.eventId found).Segments (WebhookActs (some d))
      (fun _ => WebhookActs (some d)) s s := by
  have still : WebhookActs (some d) s s := .silent rfl (.refl s)
  unfold bindWebhook
  cases order : d.entity.orderId with
  | none => exact still
  | some value =>
  cases value with
  | str externalOrderId =>
      dsimp only [sessionOfDelivery, findSessionByExternalOrderId]
      change (Proc.read >>= fun s => _ : Svc Reply).Segments _ _ _ _
      rw [segments_read]
      cases scan : s.sessions.find? (·.externalOrderId = some externalOrderId) with
      | none => exact still
      | some x =>
          obtain ⟨named, key, stored⟩ := OrderedMap.find?_eq_some scan
          have order_ : d.For x := ⟨externalOrderId, order, by simpa using named⟩
          dsimp only
          rw [segments_log]
          split
          · rw [segments_log, segments_record?]
            dsimp only
            split
            · rw [segments_log]
              exact .silent rfl (sameStates_of_sessions rfl)
            · rename_i passes
              obtain ⟨r, record, binds⟩ := binds_of_failures supported order_ (by simpa using passes)
              exact segments_dispatchWebhook rfl rfl rfl stored record binds order fresh
          · rw [segments_record?]
            dsimp only
            split
            · rw [segments_log]
              exact .silent rfl (sameStates_of_sessions rfl)
            · rename_i passes
              obtain ⟨r, record, binds⟩ := binds_of_failures supported order_ (by simpa using passes)
              exact segments_dispatchWebhook rfl rfl rfl stored record binds order fresh
  | _ => exact still

/-- What a delivery does in a turn. -/
theorem segments_processRazorpayWebhookRaw {rawBody webhookSecret : String}
    {signature eventIdHeader : Option String} :
    (processRazorpayWebhookRaw cfg rawBody signature eventIdHeader webhookSecret).Segments
      (WebhookActs (delivery? cfg rawBody eventIdHeader))
      (fun _ => WebhookActs (delivery? cfg rawBody eventIdHeader)) s s := by
  have still : WebhookActs (delivery? cfg rawBody eventIdHeader) s s := .silent rfl (.refl s)
  unfold processRazorpayWebhookRaw
  split
  · exact still
  split
  · rw [segments_log]
    exact .silent rfl (sameStates_of_sessions rfl)
  cases parsed : cfg.platform.parseJson rawBody with
  | none => exact still
  | some value =>
  dsimp only
  cases read : webhookBody value with
  | error message => exact still
  | ok body =>
  change (acceptWebhook cfg body eventIdHeader).Segments _ _ _ _
  unfold acceptWebhook
  dsimp only
  cases carried : body.entity with
  | none => exact still
  | some entity =>
  have delivered : delivery? cfg rawBody eventIdHeader =
      some ⟨body.event, entity, eventIdHeader.getD (propertyText body.event ++ "_" ++ entity.id)⟩ := by
    simp [delivery?, parsed, read, carried, Except.toOption]
  dsimp only
  rw [segments_read]
  split
  · exact still
  rename_i fresh
  split
  · rw [segments_log]
    exact .silent rfl (sameStates_of_sessions rfl)
  rename_i known
  have supported : ∃ event ∈ supportedEvents, body.event = some (.str event) := by
    cases event : body.event with
    | none => simp [event] at known
    | some v =>
        simp only [event, Option.any_some, Bool.not_eq_true', Bool.not_eq_false, List.any_eq_true] at known
        obtain ⟨name, mem, same⟩ := known
        exact ⟨name, mem, congrArg some (isText_iff.mp same)⟩
  rw [delivered]
  exact segments_bindWebhook (d := ⟨body.event, entity, _⟩) supported fresh

/-- A turn in which an order is paid: the delivery binds to it, and is marked as it was not before. -/
theorem WebhookTurn.binds {delivered : Option Delivery} {s s' : Services} (turn : WebhookTurn delivered s s')
    {o : String} (unpaid : ∀ x, s.sessions.get? o = some x → x.state ≠ .paidVerified) {y : Session}
    (stored : s'.sessions.get? o = some y) (paid : y.state = .paidVerified) :
    ∃ d x r, delivered = some d ∧ s.sessions.get? o = some x ∧ s.envelopes.get? o = some r ∧
      d.Binds x r ∧ ¬ s.webhookDedup.has d.eventId ∧ ¬ s.webhookDedup.has d.mark ∧
      s'.webhookDedup.has d.eventId ∧ s'.webhookDedup.has d.mark := by
  have moves : SameStates s s' → False := by
    intro same
    have before := (same o).symm
    rw [stored] at before
    obtain ⟨x, stored, state⟩ := Option.map_eq_some_iff.mp before
    exact unpaid x stored (state.trans paid)
  cases turn with
  | silent _ states => exact (moves states).elim
  | repeats _ _ _ _ _ _ states => exact (moves states).elim
  | finds _ _ _ _ _ states => exact (moves states).elim
  | @pays d x r delivers held record binds pending fresh unmarked dedup paid_ others =>
      by_cases same : o = x.logicalOrderId
      · subst same
        exact ⟨d, x, r, delivers, held, record, binds, fresh, unmarked,
          (dedup _).mpr (.inr (.inl rfl)), (dedup _).mpr (.inl rfl)⟩
      · rw [others o same] at stored
        exact absurd paid (unpaid y stored)

end Turns

/-! ### Deliveries in a run -/

section Runs

variable {κ ι : Type}

/-- The delivery that an operation makes. -/
def Operation.delivery? (cfg : Config) : Operation → Option Delivery
  | .command (.webhook rawBody _ eventIdHeader _) => AgentReady.delivery? cfg rawBody eventIdHeader
  | _ => none

/-- The operation is the delivery of a webhook. -/
def Operation.IsWebhook : Operation → Prop
  | .command (.webhook ..) => True
  | _ => False

namespace Fleet

variable (F : Fleet κ ι)

/-- What a turn may lead to, deliveries in particular. -/
def Delivers (k : κ) (i : ι) (s s' : Services) : Prop :=
  F.Turns k i s s' ∧
    ((F.operation k i).IsWebhook → WebhookActs ((F.operation k i).delivery? (F.config k)) s s')

theorem delivers (k : κ) (i : ι) (s : Services) :
    (F.prog k i).Segments (F.Delivers k i) (fun _ => F.Delivers k i) s s := by
  by_cases webhook : (F.operation k i).IsWebhook
  · refine (F.turns_segments k i s).and ?_
    unfold prog
    revert webhook
    cases F.operation k i with
    | exportSession o => exact fun webhook => webhook.elim
    | importSession token expected => exact fun webhook => webhook.elim
    | command command =>
        cases command
        case webhook rawBody signature eventIdHeader webhookSecret =>
          intro _
          refine Proc.segments_bind.mpr
            (segments_processRazorpayWebhookRaw.mono (fun _ _ acts _ => acts) fun result _ _ acts => ?_)
          cases result with
          | ok reply => exact fun _ => acts
          | error e => exact fun _ => acts
        all_goals exact fun webhook => webhook.elim
  · exact (F.turns_segments k i s).mono (fun _ _ turns => ⟨turns, fun is => absurd is webhook⟩)
      fun _ _ _ turns => ⟨turns, fun is => absurd is webhook⟩

variable {F} [DecidableEq κ] [DecidableEq ι]

/-- The delivery that a stretch is part of. -/
def delivered (F : Fleet κ ι) (t : Stretch κ ι) : Option Delivery :=
  (F.operation t.instance_ t.task).delivery? (F.config t.instance_)

end Fleet

/-- In the stretch, a delivery moves an order to `PAID_VERIFIED`. -/
structure Stretch.Pays (F : Fleet κ ι) (t : Stretch κ ι) (d : Delivery) (o : String) : Prop where
  delivers : F.delivered t = some d
  unpaid : ∀ x, t.before.state.sessions.get? o = some x → x.state ≠ .paidVerified
  paid : ∃ y, t.after.state.sessions.get? o = some y ∧ y.state = .paidVerified

theorem isWebhook_of_delivers {cfg : Config} {operation : Operation} {d : Delivery}
    (delivers : operation.delivery? cfg = some d) : operation.IsWebhook := by
  cases operation with
  | command command =>
      cases command
      case webhook => trivial
      all_goals cases delivers
  | exportSession o => cases delivers
  | importSession token expected => cases delivers

/-- The delivery binds in full where it moves an order, and what it moved the order by is remembered. -/
structure Applied (F : Fleet κ ι) (t : Stretch κ ι) (d : Delivery) (o : String) : Prop where
  binds : ∃ x r, t.before.state.sessions.get? o = some x ∧ t.before.state.envelopes.get? o = some r ∧
    d.Binds x r
  fresh : ¬ t.before.state.webhookDedup.has d.eventId ∧ ¬ t.before.state.webhookDedup.has d.mark
  marked : t.after.state.webhookDedup.has d.eventId ∧ t.after.state.webhookDedup.has d.mark

theorem Stretch.Pays.applied {F : Fleet κ ι} {t : Stretch κ ι} {d : Delivery} {o : String}
    (keyed : Keyed t.before.state)
    (delivers : F.Delivers t.instance_ t.task t.before.state t.after.state) (pays : t.Pays F d o) :
    Applied F t d o := by
  obtain ⟨y, stored, paid⟩ := pays.paid
  have acts := delivers.2 (isWebhook_of_delivers pays.delivers) keyed
  obtain ⟨d', x, r, delivers', held, record, binds, rest⟩ := acts.binds pays.unpaid stored paid
  obtain rfl := Option.some.inj (pays.delivers.symm.trans delivers')
  exact ⟨⟨x, r, held, record, binds⟩, ⟨rest.1, rest.2.1⟩, rest.2.2⟩

/-- What holds of the payments of a run, and of what the instances remember of them. -/
structure Remembered (F : Fleet κ ι) (history : List (Stretch κ ι)) (S : κ → Services) : Prop where
  keyed : ∀ k, Keyed (S k)
  applied : ∀ t ∈ history, ∀ d o, t.Pays F d o → Applied F t d o
  marked : ∀ t ∈ history, ∀ d o, t.Pays F d o →
    (S t.instance_).webhookDedup.has d.eventId ∧ (S t.instance_).webhookDedup.has d.mark
  once : history.Pairwise fun t t' => t.instance_ = t'.instance_ → ∀ d d' o o', t.Pays F d o →
    t'.Pays F d' o' → d.eventId ≠ d'.eventId ∧ d.entity.id ≠ d'.entity.id

theorem Remembered.turn {F : Fleet κ ι} [DecidableEq κ] {history : List (Stretch κ ι)} {S : κ → Services}
    {t : Stretch κ ι} (h : Remembered F history S) (here : S t.instance_ = t.before.state)
    (delivers : F.Delivers t.instance_ t.task t.before.state t.after.state) :
    Remembered F (history ++ [t]) (Function.update S t.instance_ t.after.state) := by
  have applied : ∀ d o, t.Pays F d o → Applied F t d o := fun d o =>
    Stretch.Pays.applied (here ▸ h.keyed t.instance_) delivers
  have kept : ∀ k e, (S k).webhookDedup.has e →
      (Function.update S t.instance_ t.after.state k).webhookDedup.has e := by
    intro k e has
    by_cases same : k = t.instance_
    · subst same
      rw [Function.update_self]
      exact delivers.1.kept (here ▸ has)
    · rwa [Function.update_of_ne same]
  constructor
  · intro k
    by_cases same : k = t.instance_
    · subst same
      rw [Function.update_self]
      exact delivers.1.keyed (here ▸ h.keyed _)
    · rw [Function.update_of_ne same]
      exact h.keyed k
  · intro t' mem
    rcases List.mem_append.mp mem with mem | mem
    · exact h.applied t' mem
    · obtain rfl := List.mem_singleton.mp mem
      exact applied
  · intro t' mem d o pays
    rcases List.mem_append.mp mem with mem | mem
    · obtain ⟨event, mark⟩ := h.marked t' mem d o pays
      exact ⟨kept _ _ event, kept _ _ mark⟩
    · obtain rfl := List.mem_singleton.mp mem
      rw [Function.update_self]
      exact (applied d o pays).marked
  · refine List.pairwise_append.mpr ⟨h.once, List.pairwise_singleton _ _, ?_⟩
    intro t₁ mem t₂ mem₂ same d d' o o' pays pays'
    obtain rfl := List.mem_singleton.mp mem₂
    obtain ⟨event, mark⟩ := h.marked t₁ mem d o pays
    obtain ⟨fresh, unmarked⟩ := (applied d' o' pays').fresh
    rw [same, here] at event mark
    refine ⟨fun equal => fresh (equal ▸ event), fun equal => unmarked ?_⟩
    rwa [Delivery.mark, ← equal]

end Runs

/-! ### A run -/

namespace Sample

/-- A report of the payment of the first order, without its amount. -/
def reportBody (status : String) : Json :=
  .obj [("event", .str "payment.captured"), ("payload", .obj [("payment", .obj [("entity", .obj
    [("id", .str "pay_1"), ("order_id", .str "order_ord_0"), ("status", .str status)])])])]

/-- Every text has one digest and one signature, and every raw body is the report. -/
def reportConfig (status : String) : Config :=
  { plainConfig with
    platform := { plainPlatform with
      sha256 := fun _ => "digest"
      hmacSha256 := fun _ _ => "signature"
      parseJson := fun _ => some (reportBody status) } }

def report : Command := .webhook "report" (some "signature") (some "evt_1") "hook"

/-- A payment is initiated, and then reported. -/
def reporting : List Command :=
  .createSession none :: quoting ++ [.approve "ord_0" "digest" none] ++ initiating

/-- One instance on which the payment is reported as captured. -/
def hooked : Fleet Unit Nat where
  config _ := reportConfig "captured"
  codec := ⟨fun _ => "", fun _ => none⟩
  operation _ i := .command (reporting.getD i report)

/-- The services in which a payment is initiated. -/
def initiated : Services := hooked.after () { clock := 0 } [0, 1, 2, 3, 4, 5]

end Sample

end AgentReady
