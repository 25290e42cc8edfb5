import AgentReady.Lifecycle.Order

/-!
Rules for the operations of the services.

A `View` is what an operation on an order can read. `Advances` says of a write that every
order stays as it is or takes a licensed step, and `Lawful` that a contract guarantees no
more than that: an operation shown to meet every lawful contract is shown to do only
licensed steps, whatever else the contract says. Each primitive of the services has one
rule here, which continues from the view it leads to.

* `Lawful.alone`: an operation that runs undisturbed, with given answers.
* `meets_setState`, `meets_updateSession`, `meets_replaceOrder`: the writes to an order.
* `meets_ask`: an operation is suspended and resumed.
* `meets_idempotent`: an operation under an operation id.
-/

namespace AgentReady

open Coop Svc

/-! ### Views -/

structure View where
  session : Session
  record : Option EnvelopeRecord
  mandates : OrderedMap String PurchaseMandate
  clock : Int
  draws : Nat

namespace View

def order (v : View) : Order := v.session.order v.record

def state (v : View) : OrderState := v.session.state

/-- After a draw of the random source. -/
def drawn (v : View) : View := { v with draws := v.draws + 1 }

/-- At a later time. -/
def at_ (v : View) (clock : Int) : View := { v with clock }

def update (v : View) (f : Session → Session) : View := { v with session := f v.session }

def replace (v : View) (record : Option EnvelopeRecord) (f : Session → Session) : View :=
  { v with session := f v.session, record }

def moved (v : View) (next : OrderState) : View := v.update fun s => { s with state := next }

variable {v : View} {next : OrderState}

@[simp] theorem order_drawn : v.drawn.order = v.order := rfl

@[simp] theorem order_at_ {clock : Int} : (v.at_ clock).order = v.order := rfl

@[simp] theorem order_moved : (v.moved next).order = { v.order with state := next } := rfl

@[simp] theorem state_moved : (v.moved next).state = next := rfl

@[simp] theorem session_moved : (v.moved next).session = { v.session with state := next } := rfl

@[simp] theorem record_moved : (v.moved next).record = v.record := rfl

theorem moved_self (h : v.session.state = next) : v.moved next = v := by
  subst h
  rfl

end View

/-- What an operation on an order can read; nothing where the order is unknown. -/
def Services.view? (s : Services) (orderId : String) : Option View :=
  (s.sessions.get? orderId).map fun x => ⟨x, s.envelopes.get? orderId, s.mandates, s.clock, s.draws⟩

section Views

variable {s : Services} {o : String} {v : View}

theorem Services.order?_eq : s.order? o = (s.view? o).map View.order := by
  simp only [Services.order?, Services.view?, Option.map_map]
  rfl

theorem order?_of_view (at_ : s.view? o = some v) : s.order? o = some v.order := by
  rw [Services.order?_eq, at_]
  rfl

theorem view_cases (at_ : s.view? o = some v) :
    s.sessions.get? o = some v.session ∧ s.envelopes.get? o = v.record ∧
      s.mandates = v.mandates ∧ s.clock = v.clock ∧ s.draws = v.draws := by
  obtain ⟨x, hx, rfl⟩ := Option.map_eq_some_iff.mp at_
  exact ⟨hx, rfl, rfl, rfl, rfl⟩

theorem session_of_view (at_ : s.view? o = some v) : s.sessions.get? o = some v.session :=
  (view_cases at_).1

theorem view_of_session {s : Services} {o : String} {x : Session} (stored : s.sessions.get? o = some x) :
    ∃ v, s.view? o = some v ∧ v.session = x := by
  simp [Services.view?, stored]

theorem view_of_map {s : Services} {o : String} {β : Type} {f : Order → β} {b : β}
    (known : (s.order? o).map f = some b) : ∃ v, s.view? o = some v ∧ f v.order = b := by
  rw [Services.order?_eq, Option.map_map] at known
  exact Option.map_eq_some_iff.mp known

theorem view_none : s.view? o = none ↔ s.sessions.get? o = none := by
  simp [Services.view?]

theorem view?_updateSession (f : Session → Session) (at_ : s.view? o = some v) :
    (s.updateSession o f).view? o = some (v.update f) := by
  obtain ⟨x, hx, rfl⟩ := Option.map_eq_some_iff.mp at_
  simp [Services.updateSession, hx, Services.view?, View.update]

theorem view?_replaceOrder (record : Option EnvelopeRecord) (f : Session → Session)
    (at_ : s.view? o = some v) :
    (s.replaceOrder o record f).view? o = some (v.replace record f) := by
  obtain ⟨x, hx, rfl⟩ := Option.map_eq_some_iff.mp at_
  cases record <;> simp [Services.replaceOrder, hx, Services.view?, View.replace]

theorem order?_updateSession_of_ne {o' : String} (f : Session → Session) (ne : o' ≠ o) :
    (s.updateSession o f).order? o' = s.order? o' := by
  unfold Services.updateSession
  split
  · rfl
  · simp only [Services.order?, OrderedMap.get?_set_of_ne _ ne]

theorem order?_replaceOrder_of_ne {o' : String} (record : Option EnvelopeRecord)
    (f : Session → Session) (ne : o' ≠ o) :
    (s.replaceOrder o record f).order? o' = s.order? o' := by
  unfold Services.replaceOrder
  split
  · rfl
  · cases record <;>
      simp only [Services.order?, OrderedMap.get?_set_of_ne _ ne, OrderedMap.get?_erase_of_ne _ ne]

theorem draws_updateSession (f : Session → Session) :
    (s.updateSession o f).draws = s.draws := by
  unfold Services.updateSession
  split <;> rfl

theorem draws_replaceOrder (record : Option EnvelopeRecord) (f : Session → Session) :
    (s.replaceOrder o record f).draws = s.draws := by
  unfold Services.replaceOrder
  split <;> rfl

end Views

/-! ### Advances -/

section Advances

variable (P : Platform) (seen : Order → Order → Prop) (lic : String → Order → Act → Prop)

/-- Every order stays as it is or takes a licensed step. -/
structure Advances (s s' : Services) : Prop where
  draws : s.draws ≤ s'.draws
  orders : ∀ o, s'.order? o = s.order? o ∨ ∃ x act y, s.order? o = some x ∧
    s'.order? o = some y ∧ Step P seen x act y ∧ lic o x act

/-- When an outside call on an order may be started. -/
def Starts (s : Services) (o : String) : Query → Prop
  | .initiate envelope => ∃ x r, s.order? o = some x ∧ x.state = .paymentPending ∧
      x.Approved ∧ x.record = some r ∧ r.envelope = envelope ∧ truthy x.externalOrderId = false
  | .compensate input => ∃ x r paymentId, s.order? o = some x ∧ x.state = .compensationPending ∧
      x.record = some r ∧ x.externalPaymentId = some paymentId ∧
      input = refundInput o paymentId r
  | _ => True

/-- A contract that guarantees no more than that orders advance, and under which the order
is still known when the operation is resumed. -/
structure Lawful (o : String) (c : Contract Services Query.Answer) : Prop where
  refl : ∀ x, seen x x
  guar : ∀ {s s'}, Advances P seen lic s s' → c.guar s s'
  calls : ∀ {q s}, Starts s o q → c.calls q s
  resumes : ∀ {s s' v}, c.rely s s' → s.view? o = some v →
    ∃ v', s'.view? o = some v' ∧ seen v.order v'.order

/-- The contract of an operation that runs undisturbed with the given answers, each of which
it was given where `asked` says so. -/
def alone (lic : String → Order → Act → Prop) (target : String → Prop)
    (answer : (q : Query) → q.Answer) (asked : (q : Query) → Services → Prop) :
    Contract Services Query.Answer where
  rely s s' := s' = s
  guar := Advances P Eq lic
  calls q s := ∃ o, target o ∧ Starts s o q
  answers q a s := a = answer q ∧ asked q s

/-- The operation runs undisturbed, with the given answers. -/
structure Alone (answer : (q : Query) → q.Answer) (c : Contract Services Query.Answer) : Prop where
  still : ∀ {s s'}, c.rely s s' → s' = s
  given : ∀ {q a s}, c.answers q a s → a = answer q

variable {P seen lic}

theorem Lawful.alone {o : String} {target : String → Prop} (on : target o)
    {answer : (q : Query) → q.Answer} {asked : (q : Query) → Services → Prop} :
    Lawful P Eq lic o (alone P lic target answer asked) where
  refl _ := rfl
  guar := id
  calls starts := ⟨o, on, starts⟩
  resumes := by
    rintro s _ v rfl at_
    exact ⟨v, at_, rfl⟩

theorem Alone.alone {target : String → Prop} {answer : (q : Query) → q.Answer}
    {asked : (q : Query) → Services → Prop} : Alone answer (alone P lic target answer asked) :=
  ⟨id, And.left⟩

/-- A write that shows no order differently. -/
theorem Advances.quiet {s s' : Services} (draws : s.draws ≤ s'.draws)
    (sessions : s'.sessions = s.sessions) (envelopes : s'.envelopes = s.envelopes) :
    Advances P seen lic s s' :=
  ⟨draws, fun o => .inl (by simp only [Services.order?, sessions, envelopes])⟩

/-- A write to one order. -/
theorem Advances.one {s s' : Services} {o : String} {x y : Order} (draws : s.draws ≤ s'.draws)
    (before : s.order? o = some x) (after : s'.order? o = some y)
    (others : ∀ o', o' ≠ o → s'.order? o' = s.order? o')
    (step : y = x ∨ ∃ act, Step P seen x act y ∧ lic o x act) : Advances P seen lic s s' := by
  refine ⟨draws, fun o' => ?_⟩
  by_cases same : o' = o
  · subst same
    rcases step with rfl | ⟨act, step, licensed⟩
    · exact .inl (after.trans before.symm)
    · exact .inr ⟨x, act, y, before, after, step, licensed⟩
  · exact .inl (others o' same)

end Advances

/-- How an operation on an order ends, if the order was known. -/
def Ends {α : Type} (o : String) (before : Option View)
    (result : View → Except ServiceError α → View → Prop) (r : Except ServiceError α)
    (s : Services) : Prop :=
  ∀ v, before = some v → ∃ v', s.view? o = some v' ∧ result v r v'

theorem Ends.unknown {α : Type} {o : String}
    {result : View → Except ServiceError α → View → Prop} {r : Except ServiceError α}
    {s : Services} : Ends o none result r s := by
  intro v h
  cases h

theorem Ends.known {α : Type} {o : String} {v v' : View}
    {result : View → Except ServiceError α → View → Prop} {r : Except ServiceError α}
    {s : Services} (at_ : s.view? o = some v') (h : result v r v') :
    Ends o (some v) result r s := by
  intro _ eq
  cases eq
  exact ⟨v', at_, h⟩

/-! ### Rules -/

section Rules

variable {P : Platform} {seen : Order → Order → Prop} {lic : String → Order → Act → Prop}
  {o : String} {c : Contract Services Query.Answer} {s : Services} {v : View} {w : Option View}
  {α : Type}

theorem meets_ite {p : Prop} [Decidable p] {a b : Svc α} {post : Except ServiceError α → Services → Prop}
    (yes : p → a.Meets c post s) (no : ¬ p → b.Meets c post s) :
    (if p then a else b).Meets c post s := by
  split
  · exact yes ‹_›
  · exact no ‹_›

theorem meets_liftResult {e : Except String α} {post : Except ServiceError α → Services → Prop}
    (ok : ∀ a, e = .ok a → post (.ok a) s)
    (error : ∀ message, e = .error message → post (.error (.other message)) s) :
    (liftResult e).Meets c post s := by
  cases e with
  | ok a => exact ok a rfl
  | error message => exact error message rfl

/-! Reads. -/

theorem meets_read {post : Except ServiceError Services → Services → Prop}
    (next : post (.ok s) s) : (Proc.read : Svc Services).Meets c post s := next

theorem meets_now {post : Except ServiceError Int → Services → Prop}
    (at_ : s.view? o = some v) (next : post (.ok v.clock) s) : now.Meets c post s := by
  obtain ⟨-, -, -, clock, -⟩ := view_cases at_
  rw [← clock] at next
  exact next

theorem meets_session? {post : Except ServiceError (Option Session) → Services → Prop}
    (at_ : s.view? o = w) (next : post (.ok (w.map View.session)) s) :
    (session? o).Meets c post s := by
  have eq : w.map View.session = s.sessions.get? o := by
    rw [← at_, Services.view?, Option.map_map]
    exact congrFun Option.map_id _
  rw [eq] at next
  exact next

theorem meets_record? {post : Except ServiceError (Option EnvelopeRecord) → Services → Prop}
    (at_ : s.view? o = some v) (next : post (.ok v.record) s) : (record? o).Meets c post s := by
  rw [← (view_cases at_).2.1] at next
  exact next

theorem meets_stateOf {post : Except ServiceError OrderState → Services → Prop}
    (at_ : s.view? o = some v) (next : post (.ok v.state) s) : (stateOf o).Meets c post s := by
  refine Proc.meets_bind.mpr (meets_session? at_ ?_)
  exact next

/-! Writes that show no order differently. -/

theorem meets_draw (lawful : Lawful P seen lic o c) {cfg : Config} {tag : String}
    {post : Except ServiceError String → Services → Prop} (at_ : s.view? o = w)
    (next : ∀ s', s'.view? o = w.map View.drawn →
      post (.ok (cfg.platform.newId tag s.draws)) s') :
    (newId cfg tag).Meets c post s := by
  refine ⟨lawful.guar (.quiet (Nat.le_succ _) rfl rfl), next _ ?_⟩
  rw [← at_, Services.view?, Services.view?, Option.map_map]
  rfl

theorem meets_newId (lawful : Lawful P seen lic o c) {cfg : Config} {tag : String}
    {post : Except ServiceError String → Services → Prop} (at_ : s.view? o = some v)
    (next : ∀ s', s'.view? o = some v.drawn → post (.ok (cfg.platform.newId tag v.draws)) s') :
    (newId cfg tag).Meets c post s := by
  obtain ⟨-, -, -, -, draws⟩ := view_cases at_
  exact meets_draw lawful at_ (draws ▸ next)

theorem meets_log (lawful : Lawful P seen lic o c) {cfg : Config}
    {event : String → Int → AuditEvent} {post : Except ServiceError Unit → Services → Prop}
    (at_ : s.view? o = w) (next : ∀ s', s'.view? o = w.map View.drawn → post (.ok ()) s') :
    (log cfg event).Meets c post s := by
  refine Proc.meets_bind.mpr (meets_draw lawful at_ fun s' at_' => ?_)
  exact ⟨lawful.guar (.quiet le_rfl rfl rfl), next _ at_'⟩

theorem meets_markProcessed (lawful : Lawful P seen lic o c) {eventId : String}
    {post : Except ServiceError Unit → Services → Prop} (at_ : s.view? o = w)
    (next : ∀ s', s'.view? o = w → post (.ok ()) s') :
    (markProcessed eventId).Meets c post s :=
  ⟨lawful.guar (.quiet le_rfl rfl rfl), next _ at_⟩

theorem meets_complete (lawful : Lawful P seen lic o c) {operationId resultRef errorRef : Option String}
    {outcome : OperationOutcome} {payload : Reply}
    {post : Except ServiceError Unit → Services → Prop} (at_ : s.view? o = w)
    (next : ∀ s', s'.view? o = w → post (.ok ()) s') :
    (complete operationId outcome resultRef errorRef payload).Meets c post s := by
  unfold complete
  cases operationId with
  | none => exact next s at_
  | some id =>
      refine meets_ite (fun _ => next s at_) fun _ => ?_
      exact ⟨lawful.guar (.quiet le_rfl rfl rfl), next _ at_⟩

theorem meets_refuse (lawful : Lawful P seen lic o c) {operationId : Option String}
    {result : OperationResult} {post : Except ServiceError Reply → Services → Prop}
    (at_ : s.view? o = w) (next : ∀ s', s'.view? o = w → post (.ok (.result result)) s') :
    (refuse operationId result).Meets c post s :=
  Proc.meets_bind.mpr (meets_complete lawful at_ next)

theorem meets_succeed (lawful : Lawful P seen lic o c) {operationId resultRef : Option String}
    {result : OperationResult} {post : Except ServiceError Reply → Services → Prop}
    (at_ : s.view? o = w) (next : ∀ s', s'.view? o = w → post (.ok (.result result)) s') :
    (succeed operationId resultRef result).Meets c post s :=
  Proc.meets_bind.mpr (meets_complete lawful at_ next)

/-! Writes to an order. -/

theorem meets_updateSession (lawful : Lawful P seen lic o c) {f : Session → Session}
    {post : Except ServiceError Unit → Services → Prop} (at_ : s.view? o = some v)
    (step : (v.update f).order = v.order ∨
      ∃ act, Step P seen v.order act (v.update f).order ∧ lic o v.order act)
    (next : ∀ s', s'.view? o = some (v.update f) → post (.ok ()) s') :
    (updateSession o f).Meets c post s := by
  have after := view?_updateSession f at_
  refine ⟨lawful.guar (.one ?_ (order?_of_view at_) (order?_of_view after) (fun o' ne => ?_) step),
    next _ after⟩
  · rw [draws_updateSession]
  · exact order?_updateSession_of_ne f ne

theorem meets_replaceOrder (lawful : Lawful P seen lic o c) {record : Option EnvelopeRecord}
    {f : Session → Session} {post : Except ServiceError Unit → Services → Prop}
    (at_ : s.view? o = some v)
    (step : (v.replace record f).order = v.order ∨
      ∃ act, Step P seen v.order act (v.replace record f).order ∧ lic o v.order act)
    (next : ∀ s', s'.view? o = some (v.replace record f) → post (.ok ()) s') :
    (replaceOrder o record f).Meets c post s := by
  have after := view?_replaceOrder record f at_
  refine ⟨lawful.guar (.one ?_ (order?_of_view at_) (order?_of_view after) (fun o' ne => ?_) step),
    next _ after⟩
  · rw [draws_replaceOrder]
  · exact order?_replaceOrder_of_ne record f ne

/-- `setState` throws where the transition is refused, and otherwise leads to the state. -/
theorem meets_setState (lawful : Lawful P seen lic o c) {next : OrderState}
    {post : Except ServiceError Unit → Services → Prop} (at_ : s.view? o = some v)
    (moves : v.state ≠ next → next ∈ v.state.allowedTransitions →
      Admits seen v.order next ∧ lic o v.order (.move next))
    (refused : v.state ≠ next → next ∉ v.state.allowedTransitions →
      post (.error (.illegalTransition v.state next)) s)
    (moved : v.state = next ∨ next ∈ v.state.allowedTransitions →
      ∀ s', s'.view? o = some (v.moved next) → post (.ok ()) s') :
    (setState o next).Meets c post s := by
  refine Proc.meets_bind.mpr (meets_session? at_ ?_)
  change (if v.state = next then _ else _ : Svc Unit).Meets c post s
  refine meets_ite (fun same => ?_) (fun differ => ?_)
  · refine moved (.inl same) s ?_
    rw [View.moved_self same]
    exact at_
  · by_cases allowed : next ∈ v.state.allowedTransitions
    · simp only [transitionState, View.state] at differ allowed ⊢
      rw [if_neg differ, if_pos allowed]
      obtain ⟨admits, licensed⟩ := moves differ allowed
      exact meets_updateSession lawful at_ (.inr ⟨_, .move allowed admits, licensed⟩)
        (moved (.inr allowed))
    · have := refused differ allowed
      simp only [transitionState, View.state] at differ allowed ⊢
      rw [if_neg differ, if_neg allowed]
      exact this

/-! Outside calls and operation ids. -/

/-- A suspended operation resumes at the time of the answer, on whatever the others made
of the order meanwhile. -/
theorem meets_ask (lawful : Lawful P seen lic o c) {q : Query}
    {post : Except ServiceError q.Result → Services → Prop} (at_ : s.view? o = some v)
    (starts : Starts s o q)
    (next : ∀ (a : q.Answer) s₁ s' v', c.rely s s₁ → c.answers q a s₁ → seen v.order v'.order →
      (s₁ = s → v' = v) → s₁.view? o = some v' → s'.view? o = some (v'.at_ a.at_) →
      post (.ok a.result) s') :
    (ask q).Meets c post s := by
  refine Proc.meets_bind.mpr (Proc.meets_call.mpr ⟨lawful.calls starts, fun a s₁ rely given => ?_⟩)
  obtain ⟨v', at_', related⟩ := lawful.resumes rely at_
  refine ⟨lawful.guar (.quiet le_rfl rfl rfl), next a s₁ _ v' rely given related ?_ at_' ?_⟩
  · rintro rfl
    exact Option.some.inj (at_'.symm.trans at_)
  · obtain ⟨x, hx, rfl⟩ := Option.map_eq_some_iff.mp at_'
    simp [Services.view?, hx, View.at_]

/-- Where nothing need be known of the order afterwards. -/
theorem meets_ask_any (lawful : Lawful P seen lic o c) {q : Query}
    {post : Except ServiceError q.Result → Services → Prop} (starts : Starts s o q)
    (next : ∀ a s', post (.ok a) s') : (ask q).Meets c post s := by
  refine Proc.meets_bind.mpr (Proc.meets_call.mpr ⟨lawful.calls starts, fun a s₁ _ _ => ?_⟩)
  exact ⟨lawful.guar (.quiet le_rfl rfl rfl), next a.result _⟩

/-- The operation id is absent or empty, or its prior use lets the operation run. -/
def Runs (cfg : Config) (s : Services) (operationId : Option String) (request : OperationRequest)
    (aggregate : String) (prior : IdempotencyResult Reply → OrderState → Prior) : Prop :=
  match operationId with
  | none => True
  | some id => id = "" ∨
      prior (OperationStore.begin_ cfg.platform s.clock s.operations id request aggregate).1
        (((s.sessions.get? aggregate).map (·.state)).getD .draft) = .run

/-- An operation under an operation id runs, or repeats an earlier reply or error. -/
theorem meets_idempotent (lawful : Lawful P seen lic o c) {cfg : Config}
    {operationId : Option String} {request : OperationRequest} {aggregate : String}
    {prior : IdempotencyResult Reply → OrderState → Prior} {body : Svc Reply}
    {post : Except ServiceError Reply → Services → Prop} (at_ : s.view? o = w)
    (reply : ∀ r s', ¬ Runs cfg s operationId request aggregate prior → s'.view? o = w →
      post (.ok r) s')
    (raise : ∀ m s', ¬ Runs cfg s operationId request aggregate prior → s'.view? o = w →
      post (.error (.other m)) s')
    (run : ∀ s', Runs cfg s operationId request aggregate prior → s'.view? o = w →
      body.Meets c post s') :
    (idempotent cfg operationId request aggregate prior body).Meets c post s := by
  unfold idempotent
  cases operationId with
  | none => exact run s trivial at_
  | some id =>
      refine meets_ite (fun empty => run s (.inl empty) at_) fun nonempty => ?_
      refine Proc.meets_bind.mpr (meets_read ?_)
      dsimp only
      simp only [Runs, nonempty, false_or] at reply raise run
      generalize OperationStore.begin_ cfg.platform s.clock s.operations id request aggregate = b
        at reply raise run ⊢
      obtain ⟨result, operations⟩ := b
      refine ⟨lawful.guar (.quiet le_rfl rfl rfl), ?_⟩
      refine Proc.meets_bind.mpr ?_
      refine Proc.meets_bind.mpr (Proc.meets_bind.mpr ?_)
      refine Proc.meets_bind.mpr (meets_read ?_)
      refine Proc.meets_pure.mpr (Proc.meets_pure.mpr ?_)
      dsimp only
      split
      · rename_i used
        exact run _ used at_
      · rename_i r used
        exact reply r _ (by simp [used]) at_
      · rename_i message used
        exact raise message _ (by simp [used]) at_

end Rules

end AgentReady
