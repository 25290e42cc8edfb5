import AgentReady.Lib.Segments
import AgentReady.Lifecycle.Settling
import AgentReady.Lifecycle.Composition

/-!
How the operations let the services evolve, from one await to the next.

Whatever an operation does to its order, sessions stay under their order ids, their customers keep their
mandates, the audit only grows, by events with new ids, and no processed webhook is forgotten.

* `Evolves`: the relation, for the event ids that may be marked as processed.
* `evolving_op`: every command keeps it; those that are not about payments mark nothing.
-/

namespace AgentReady

open Coop Svc

/-- The customer of every session has a mandate. -/
def Vested (s : Services) : Prop :=
  ∀ o x, s.sessions.get? o = some x → (s.mandates.get? x.customerId).isSome

/-- The events have new ids, in the order of their draws. -/
def Drawn (cfg : Config) (low high : Nat) (events : List AuditEvent) : Prop :=
  ∃ draws : List Nat, events.map (·.eventId) = draws.map (cfg.platform.newId "evt") ∧
    draws.Pairwise (· < ·) ∧ ∀ n ∈ draws, low ≤ n ∧ n < high

/-- What a segment of an operation may lead to, where it may mark the events in `marks` as
processed. -/
structure Evolves (cfg : Config) (marks : String → Prop) (s s' : Services) : Prop where
  keyed : Keyed s → Keyed s'
  vested : Vested s → Vested s'
  mandates : ∀ c, (s.mandates.get? c).isSome → (s'.mandates.get? c).isSome
  draws : s.draws ≤ s'.draws
  audit : ∃ fresh, s'.audit = s.audit ++ fresh ∧ Drawn cfg s.draws s'.draws fresh
  kept : ∀ e, s.webhookDedup.has e → s'.webhookDedup.has e
  marked : ∀ e, s'.webhookDedup.has e → s.webhookDedup.has e ∨ marks e

theorem keyed_iff {s : Services} : Keyed s ↔ ∀ o x, s.sessions.get? o = some x → x.logicalOrderId = o := by
  unfold Keyed Services.order?
  constructor
  · intro keyed o x at_
    exact keyed o (x.order (s.envelopes.get? o)) (by rw [at_]; rfl)
  · intro homed o x at_
    obtain ⟨session, stored, rfl⟩ := Option.map_eq_some_iff.mp at_
    exact homed o session stored

/-- Sessions are forgotten, and nothing else that is kept is written. -/
structure Forgets (s s' : Services) : Prop where
  sessions : ∀ o x, s'.sessions.get? o = some x → s.sessions.get? o = some x
  mandates : s'.mandates = s.mandates
  draws : s'.draws = s.draws
  audit : s'.audit = s.audit
  dedup : s'.webhookDedup = s.webhookDedup

theorem Forgets.refl (s : Services) : Forgets s s := ⟨fun _ _ => id, rfl, rfl, rfl, rfl⟩

theorem Forgets.trans {s s' s'' : Services} (h : Forgets s s') (h' : Forgets s' s'') : Forgets s s'' where
  sessions o x stored := h.sessions o x (h'.sessions o x stored)
  mandates := h'.mandates.trans h.mandates
  draws := h'.draws.trans h.draws
  audit := h'.audit.trans h.audit
  dedup := h'.dedup.trans h.dedup

theorem forgets_forgetOldest {s : Services} : Forgets s (forgetOldest s) := by
  unfold forgetOldest
  cases s.sessions.firstKey? with
  | none => exact .refl s
  | some oldest =>
      refine ⟨fun o x stored => ?_, rfl, rfl, rfl, rfl⟩
      by_cases same : o = oldest
      · subst same
        simp at stored
      · rwa [OrderedMap.get?_erase_of_ne _ same] at stored

theorem forgets_pruneSessionCache {s : Services} : Forgets s (pruneSessionCache s) := by
  unfold pruneSessionCache
  generalize s.sessions.size = rounds
  induction rounds generalizing s with
  | zero => exact .refl s
  | succ rounds ih =>
      unfold pruneSessionCache.go
      split
      · exact forgets_forgetOldest.trans ih
      · exact .refl s

theorem Drawn.nil {cfg : Config} {low high : Nat} : Drawn cfg low high [] :=
  ⟨[], rfl, .nil, by simp⟩

theorem Drawn.append {cfg : Config} {low mid high : Nat} {events later : List AuditEvent}
    (first : Drawn cfg low mid events) (then_ : Drawn cfg mid high later) (lower : low ≤ mid)
    (upper : mid ≤ high) : Drawn cfg low high (events ++ later) := by
  obtain ⟨draws, ids, increasing, bounded⟩ := first
  obtain ⟨draws', ids', increasing', bounded'⟩ := then_
  refine ⟨draws ++ draws', by simp [ids, ids'], ?_, ?_⟩
  · refine List.pairwise_append.mpr ⟨increasing, increasing', ?_⟩
    intro n mem n' mem'
    exact (bounded n mem).2.trans_le (bounded' n' mem').1
  · intro n mem
    rcases List.mem_append.mp mem with mem | mem
    · exact ⟨(bounded n mem).1, (bounded n mem).2.trans_le upper⟩
    · exact ⟨lower.trans (bounded' n mem).1, (bounded' n mem).2⟩

namespace Evolves

variable {cfg : Config} {marks : String → Prop} {s s' s'' : Services}

/-- Nothing that is kept is written. -/
theorem quiet (sessions : s'.sessions = s.sessions) (mandates : s'.mandates = s.mandates)
    (draws : s.draws ≤ s'.draws) (audit : s'.audit = s.audit)
    (dedup : s'.webhookDedup = s.webhookDedup) : Evolves cfg marks s s' where
  keyed keyed := by
    rw [keyed_iff] at *
    rwa [sessions]
  vested vested := by
    unfold Vested at *
    rwa [sessions, mandates]
  mandates c has := by rwa [mandates]
  draws := draws
  audit := ⟨[], by simp [audit], .nil⟩
  kept e has := by rwa [dedup]
  marked e has := .inl (by rwa [← dedup])

theorem refl (s : Services) : Evolves cfg marks s s := quiet rfl rfl le_rfl rfl rfl

theorem trans (h : Evolves cfg marks s s') (h' : Evolves cfg marks s' s'') : Evolves cfg marks s s'' where
  keyed keyed := h'.keyed (h.keyed keyed)
  vested vested := h'.vested (h.vested vested)
  mandates c has := h'.mandates c (h.mandates c has)
  draws := h.draws.trans h'.draws
  audit := by
    obtain ⟨fresh, audit, drawn⟩ := h.audit
    obtain ⟨fresh', audit', drawn'⟩ := h'.audit
    exact ⟨fresh ++ fresh', by rw [audit', audit, List.append_assoc],
      drawn.append drawn' h.draws h'.draws⟩
  kept e has := h'.kept e (h.kept e has)
  marked e has := by
    rcases h'.marked e has with has | marks
    · exact h.marked e has
    · exact .inr marks

theorem mono {marks' : String → Prop} (wider : ∀ e, marks e → marks' e) (h : Evolves cfg marks s s') :
    Evolves cfg marks' s s' :=
  { h with marked := fun e has => (h.marked e has).imp_right (wider e) }

/-- One session is rewritten, under its own order and for its own customer. -/
theorem rewritten {o : String} {x y : Session} (stored : s.sessions.get? o = some x)
    (sessions : s'.sessions = s.sessions.set o y) (id : y.logicalOrderId = x.logicalOrderId)
    (customer : y.customerId = x.customerId) (mandates : s'.mandates = s.mandates)
    (draws : s'.draws = s.draws) (audit : s'.audit = s.audit)
    (dedup : s'.webhookDedup = s.webhookDedup) : Evolves cfg marks s s' where
  keyed keyed := by
    rw [keyed_iff] at *
    intro o' x' stored'
    rw [sessions] at stored'
    by_cases same : o' = o
    · subst same
      rw [OrderedMap.get?_set_self] at stored'
      obtain rfl := Option.some.inj stored'
      rw [id]
      exact keyed _ _ stored
    · rw [OrderedMap.get?_set_of_ne _ same] at stored'
      exact keyed _ _ stored'
  vested vested := by
    intro o' x' stored'
    rw [sessions] at stored'
    rw [mandates]
    by_cases same : o' = o
    · subst same
      rw [OrderedMap.get?_set_self] at stored'
      obtain rfl := Option.some.inj stored'
      rw [customer]
      exact vested _ _ stored
    · rw [OrderedMap.get?_set_of_ne _ same] at stored'
      exact vested _ _ stored'
  mandates c has := by rwa [mandates]
  draws := draws.ge
  audit := ⟨[], by simp [audit], .nil⟩
  kept e has := by rwa [dedup]
  marked e has := .inl (by rwa [← dedup])

theorem forgotten (forgets : Forgets s s') : Evolves cfg marks s s' where
  keyed keyed := by
    rw [keyed_iff] at *
    intro o x stored
    exact keyed o x (forgets.sessions o x stored)
  vested vested := by
    intro o x stored
    rw [forgets.mandates]
    exact vested o x (forgets.sessions o x stored)
  mandates c has := by rwa [forgets.mandates]
  draws := forgets.draws.ge
  audit := ⟨[], by simp [forgets.audit], .nil⟩
  kept e has := by rwa [forgets.dedup]
  marked e has := .inl (by rwa [← forgets.dedup])

/-- A session is opened for a customer who is given a mandate. -/
theorem opened (o mandateId : String) (now time : Int) : Evolves cfg marks s
    { s with
      mandates := s.mandates.set demoCustomer (buildMandate demoCustomer mandateId now)
      sessions := s.sessions.set o (newSession o time) } where
  keyed keyed := by
    rw [keyed_iff] at *
    intro o' x stored
    by_cases same : o' = o
    · subst same
      rw [OrderedMap.get?_set_self] at stored
      obtain rfl := Option.some.inj stored
      rfl
    · rw [OrderedMap.get?_set_of_ne _ same] at stored
      exact keyed _ _ stored
  vested vested := by
    intro o' x stored
    by_cases same : o' = o
    · subst same
      rw [OrderedMap.get?_set_self] at stored
      obtain rfl := Option.some.inj stored
      simp [newSession]
    · rw [OrderedMap.get?_set_of_ne _ same] at stored
      by_cases demo : x.customerId = demoCustomer
      · simp [demo]
      · simpa [OrderedMap.get?_set_of_ne _ demo] using vested o' x stored
  mandates c has := by
    by_cases demo : c = demoCustomer
    · simp [demo]
    · simpa [OrderedMap.get?_set_of_ne _ demo] using has
  draws := le_rfl
  audit := ⟨[], by simp, .nil⟩
  kept _ has := has
  marked _ has := .inl has

/-- One event is logged, under a new id. -/
theorem logged (event : AuditEvent) (id : event.eventId = cfg.platform.newId "evt" s.draws) :
    Evolves cfg marks s { s with draws := s.draws + 1, audit := s.audit ++ [event] } where
  keyed := fun h => h
  vested := fun h => h
  mandates _ has := has
  draws := Nat.le_succ _
  audit := by
    refine ⟨[event], rfl, [s.draws], by simp [id], List.pairwise_singleton _ _, ?_⟩
    intro n mem
    rw [List.mem_singleton.mp mem]
    exact ⟨le_rfl, Nat.lt_succ_self _⟩
  kept _ has := has
  marked _ has := .inl has

/-- One event is marked as processed. -/
theorem processed {e : String} (permitted : marks e) (t : Int) :
    Evolves cfg marks s { s with webhookDedup := s.webhookDedup.set e t } where
  keyed := fun h => h
  vested := fun h => h
  mandates _ has := has
  draws := le_rfl
  audit := ⟨[], by simp, .nil⟩
  kept _ has := OrderedMap.has_set.mpr (.inr has)
  marked e' has := by
    rcases OrderedMap.has_set.mp has with rfl | has
    · exact .inr permitted
    · exact .inl has

end Evolves

/-! ### What every operation is made of -/

/-- From one await to the next, the services evolve. -/
def Evolving (cfg : Config) (marks : String → Prop) {α : Type} (p : Svc α) : Prop :=
  Within (Evolves cfg marks) p

section Evolving

variable {cfg : Config} {marks : String → Prop} {α β : Type}

namespace Evolving

theorem bind {p : Svc α} {f : α → Svc β} (hp : Evolving cfg marks p) (hf : ∀ a, Evolving cfg marks (f a)) :
    Evolving cfg marks (p >>= f) :=
  Within.bind hp hf

theorem catch_ {p : Svc α} {h : ServiceError → Svc α} (hp : Evolving cfg marks p)
    (hh : ∀ e, Evolving cfg marks (h e)) : Evolving cfg marks (tryCatch p h) :=
  Within.catch_ hp hh

theorem ite {p : Prop} [Decidable p] {a b : Svc α} (ha : Evolving cfg marks a)
    (hb : Evolving cfg marks b) : Evolving cfg marks (if p then a else b) :=
  Within.ite ha hb

theorem pure (a : α) : Evolving cfg marks (Pure.pure a : Svc α) := Within.pure a

theorem throw (e : ServiceError) : Evolving cfg marks (MonadExcept.throw e : Svc α) := Within.throw e

theorem read : Evolving cfg marks (Proc.read : Svc Services) := Within.read

theorem modify {f : Services → Services} (step : ∀ s, Evolves cfg marks s (f s)) :
    Evolving cfg marks (Proc.modify f : Svc Unit) :=
  Within.modify (fun _ _ _ => .trans) step

theorem ask (q : Query) : Evolving cfg marks (Svc.ask q) :=
  .bind (p := Proc.call q) (Within.call .refl q) fun _ =>
    .bind (modify fun _ => .quiet rfl rfl le_rfl rfl rfl) fun _ => .pure _

theorem newId (tag : String) : Evolving cfg marks (Svc.newId cfg tag) :=
  .bind read fun _ => .bind (modify fun _ => .quiet rfl rfl (Nat.le_succ _) rfl rfl) fun _ => .pure _

theorem log {event : String → Int → AuditEvent} (id : ∀ id now, (event id now).eventId = id) :
    Evolving cfg marks (Svc.log cfg event) := by
  intro s₀ s before
  exact before.trans (.logged (event (cfg.platform.newId "evt" s.draws) s.clock) (id _ _))

theorem updateSession (o : String) {f : Session → Session}
    (id : ∀ x, (f x).logicalOrderId = x.logicalOrderId) (customer : ∀ x, (f x).customerId = x.customerId) :
    Evolving cfg marks (Svc.updateSession o f) := by
  refine modify fun s => ?_
  unfold Services.updateSession
  split
  · exact .refl s
  · rename_i x stored
    exact .rewritten stored rfl (id x) (customer x) rfl rfl rfl rfl

theorem replaceOrder (o : String) (record : Option EnvelopeRecord) {f : Session → Session}
    (id : ∀ x, (f x).logicalOrderId = x.logicalOrderId) (customer : ∀ x, (f x).customerId = x.customerId) :
    Evolving cfg marks (Svc.replaceOrder o record f) := by
  refine modify fun s => ?_
  unfold Services.replaceOrder
  split
  · exact .refl s
  · rename_i x stored
    exact .rewritten stored rfl (id x) (customer x) rfl rfl rfl rfl

theorem remember (f : Services → OperationStore Reply) :
    Evolving cfg marks (Proc.modify fun s => { s with operations := f s } : Svc Unit) :=
  modify fun _ => .quiet rfl rfl le_rfl rfl rfl

end Evolving

variable (cfg marks) in
theorem evolving_structural : Structural cfg (@Evolving cfg marks) where
  pure := .pure
  throw := .throw
  bind := .bind
  read := .read
  ask := .ask
  newId := .newId
  log := .log
  remember := .remember
  updateSession := .updateSession
  forget o := .replaceOrder o none

namespace Evolving

theorem liftResult (e : Except String α) : Evolving cfg marks (Svc.liftResult e) :=
  (evolving_structural cfg marks).liftResult e

theorem now : Evolving cfg marks Svc.now := (evolving_structural cfg marks).now

theorem session? (o : String) : Evolving cfg marks (Svc.session? o) := (evolving_structural cfg marks).session? o

theorem record? (o : String) : Evolving cfg marks (Svc.record? o) := (evolving_structural cfg marks).record? o

theorem stateOf (o : String) : Evolving cfg marks (Svc.stateOf o) := (evolving_structural cfg marks).stateOf o

theorem digestOf (intent : ParsedIntent) : Evolving cfg marks (Svc.digestOf intent) := liftResult _

theorem setState (o : String) (next : OrderState) : Evolving cfg marks (Svc.setState o next) :=
  (evolving_structural cfg marks).setState o next

theorem complete (operationId : Option String) (outcome : OperationOutcome)
    (resultRef errorRef : Option String) (payload : Reply) :
    Evolving cfg marks (Svc.complete operationId outcome resultRef errorRef payload) :=
  (evolving_structural cfg marks).complete operationId outcome resultRef errorRef payload

theorem idempotent (operationId : Option String) (request : OperationRequest) (aggregate : String)
    (prior : IdempotencyResult Reply → OrderState → Prior) {body : Svc Reply} (runs : Evolving cfg marks body) :
    Evolving cfg marks (Svc.idempotent cfg operationId request aggregate prior body) :=
  (evolving_structural cfg marks).idempotent operationId request aggregate prior runs

theorem refuse (operationId : Option String) (r : OperationResult) :
    Evolving cfg marks (Svc.refuse operationId r) :=
  .bind (complete _ _ _ _ _) fun _ => .pure _

theorem succeed (operationId resultRef : Option String) (r : OperationResult) :
    Evolving cfg marks (Svc.succeed operationId resultRef r) :=
  .bind (complete _ _ _ _ _) fun _ => .pure _

theorem markProcessed {e : String} (permitted : marks e) : Evolving cfg marks (Svc.markProcessed e) :=
  modify fun s => .processed permitted s.clock

end Evolving
variable (cfg marks)

theorem evolving_createSession (operationId : Option String) :
    Evolving cfg marks (createSession cfg operationId) := by
  refine .bind (.newId _) fun o => .idempotent _ _ _ _ (.bind .now fun time => .bind (.newId _) fun id => ?_)
  -- The mandate and the session are set one after the other; the session is for the customer.
  have rest : Evolving cfg marks (do
      Proc.modify AgentReady.pruneSessionCache
      log cfg fun eventId now =>
        { eventId, logicalOrderId := o, type := "session.created", actor := .system,
          occurredAt := now, externalReferences := [("mandateId", id)] }
      complete operationId .success (some o) none (.session (newSession o time))
      return Reply.session (newSession o time)) :=
    .bind (.modify fun _ => .forgotten forgets_pruneSessionCache) fun _ => .bind (.log fun _ _ => rfl) fun _ =>
      .bind (.complete _ _ _ _ _) fun _ => .pure _
  intro s₀ s before
  exact rest s₀ _ (before.trans (.opened o id time time))

theorem evolving_primitives : Primitives cfg (@Evolving cfg marks) where
  quotes := structural_buildQuote (evolving_structural cfg marks) fun o record => .replaceOrder o (some record)
  tampers := structural_tamper (evolving_structural cfg marks) fun o record => .replaceOrder o (some record)
  machines _ := .modify fun _ => .quiet rfl rfl le_rfl rfl rfl
  catches := .catch_

/-- Whatever is not a command that marks events marks none. -/
theorem evolving_op {cfg : Config} {marks : String → Prop} {command : Command}
    (permitted : command.Marks → ∀ e, marks e) : Evolving cfg marks (command.op cfg) :=
  structural_op (evolving_structural cfg marks) (evolving_primitives cfg marks)
    (fun operationId _ => evolving_createSession cfg marks operationId)
    fun marking e => .markProcessed (permitted marking e)

end Evolving

end AgentReady
