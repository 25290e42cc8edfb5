import AgentReady.Lifecycle.Closing

/-!
Quiet processes: they show no order differently and throw no refused transition.

What `respond` does besides writing to the order is quiet: it logs, it asks the model
provider, it buys fit scores, it composes replies. Quietness is closed under sequencing, so
it is read off a process's structure.

* `Quiet.bind`: sequencing.
* `quiet_runFitScoreSpend`: the spend of a turn is quiet, on mock and on devnet.
-/

namespace AgentReady

open Coop Svc

/-- The process is undisturbed while it is suspended. -/
def Still (c : Contract Services Query.Answer) : Prop := ∀ s s', c.rely s s' → s' = s

theorem Alone.isStill {answer : (q : Query) → q.Answer} {c : Contract Services Query.Answer}
    (h : Alone answer c) : Still c := fun _ _ rely => h.still rely

/-- How a quiet process ends: the order is known, and is what it was if nothing disturbed
it. -/
def Rests {α : Type} (o : String) (c : Contract Services Query.Answer) (x : Order)
    (result : Except ServiceError α) (s : Services) : Prop :=
  ¬ Illegal result ∧ ∃ v, s.view? o = some v ∧ (Still c → v.order = x)

/-- A process that shows an order differently to nobody. -/
def Quiet (o : String) (c : Contract Services Query.Answer) {α : Type} (p : Svc α) : Prop :=
  ∀ s v, s.view? o = some v → p.Meets c (Rests o c v.order) s

section Quiet

variable {P : Platform} {seen : Order → Order → Prop} {lic : String → Order → Act → Prop}
  {o : String} {c : Contract Services Query.Answer} {α β : Type}

theorem illegal_error {e : ServiceError} (h : Illegal (.error e : Except ServiceError α)) :
    Illegal (.error e : Except ServiceError β) := by
  cases e <;> exact h

namespace Quiet

theorem bind {p : Svc α} {f : α → Svc β} (hp : Quiet o c p) (hf : ∀ a, Quiet o c (f a)) :
    Quiet o c (p >>= f) := by
  intro s v at_
  refine Proc.meets_bind.mpr ((hp s v at_).mono fun r s₁ ends => ?_)
  obtain ⟨legal, v₁, at₁, same⟩ := ends
  cases r with
  | error e => exact ⟨fun illegal => legal (illegal_error illegal), v₁, at₁, same⟩
  | ok a =>
      refine (hf a s₁ v₁ at₁).mono fun r s₂ ends => ?_
      obtain ⟨legal, v₂, at₂, same₂⟩ := ends
      exact ⟨legal, v₂, at₂, fun still => (same₂ still).trans (same still)⟩

theorem pure (a : α) : Quiet o c (Pure.pure a : Svc α) :=
  fun _ v at_ => ⟨id, v, at_, fun _ => rfl⟩

theorem throw_other (message : String) : Quiet o c (MonadExcept.throw (.other message) : Svc α) :=
  fun _ v at_ => ⟨id, v, at_, fun _ => rfl⟩

theorem ite {p : Prop} [Decidable p] {a b : Svc α} (ha : Quiet o c a) (hb : Quiet o c b) :
    Quiet o c (if p then a else b) :=
  fun s v at_ => meets_ite (fun _ => ha s v at_) (fun _ => hb s v at_)

theorem liftResult (e : Except String α) : Quiet o c (Svc.liftResult e) :=
  fun _ v at_ => meets_liftResult (fun _ _ => ⟨id, v, at_, fun _ => rfl⟩)
    (fun _ _ => ⟨id, v, at_, fun _ => rfl⟩)

theorem read : Quiet o c (Proc.read : Svc Services) := fun _ v at_ => ⟨id, v, at_, fun _ => rfl⟩

theorem now : Quiet o c Svc.now := bind read fun _ => pure _

theorem session? (o' : String) : Quiet o c (Svc.session? o') := bind read fun _ => pure _

theorem stateOf (o' : String) : Quiet o c (Svc.stateOf o') := bind (session? o') fun _ => pure _

/-- A write that keeps everything of the order. -/
theorem modify {f : Services → Services} (lawful : Lawful P seen lic o c)
    (draws : ∀ s, s.draws ≤ (f s).draws) (sessions : ∀ s, (f s).sessions = s.sessions)
    (envelopes : ∀ s, (f s).envelopes = s.envelopes) : Quiet o c (Proc.modify f : Svc Unit) := by
  intro s v at_
  refine ⟨lawful.guar (.quiet (draws s) (sessions s) (envelopes s)), id, ?_⟩
  obtain ⟨x, hx, rfl⟩ := Option.map_eq_some_iff.mp at_
  refine ⟨⟨x, (f s).envelopes.get? o, (f s).mandates, (f s).clock, (f s).draws⟩, ?_, fun _ => ?_⟩
  · simp [Services.view?, sessions, hx]
  · simp [View.order, envelopes]

theorem newId (lawful : Lawful P seen lic o c) (cfg : Config) (tag : String) :
    Quiet o c (Svc.newId cfg tag) :=
  bind read fun _ => bind (modify lawful (fun _ => Nat.le_succ _) (fun _ => rfl) fun _ => rfl)
    fun _ => pure _

theorem log (lawful : Lawful P seen lic o c) (cfg : Config) (event : String → Int → AuditEvent) :
    Quiet o c (Svc.log cfg event) :=
  bind (newId lawful cfg "evt") fun _ =>
    modify lawful (fun _ => le_rfl) (fun _ => rfl) fun _ => rfl

theorem complete (lawful : Lawful P seen lic o c) (operationId : Option String)
    (outcome : OperationOutcome) (resultRef errorRef : Option String) (payload : Reply) :
    Quiet o c (Svc.complete operationId outcome resultRef errorRef payload) :=
  fun _ v at_ => meets_complete lawful at_ fun _ at₁ => ⟨id, v, at₁, fun _ => rfl⟩

theorem updateSession (lawful : Lawful P seen lic o c) {f : Session → Session}
    (same : ∀ x r, (f x).order r = x.order r) : Quiet o c (Svc.updateSession o f) := by
  intro s v at_
  exact meets_updateSession lawful at_ (.inl (same _ _)) fun s₁ at₁ =>
    ⟨id, _, at₁, fun _ => same _ _⟩

theorem ask (lawful : Lawful P seen lic o c) {q : Query} (starts : ∀ s, Starts s o q) :
    Quiet o c (Svc.ask q) := by
  intro s v at_
  refine meets_ask lawful at_ (starts s) fun a s₁ s₂ v₁ rely _ _ same _ at₂ => ⟨id, _, at₂, ?_⟩
  intro still
  rw [View.order_at_, same (still s s₁ rely)]

end Quiet

/-! ### The fit-scoring spend -/

section Spend

variable (lawful : Lawful P seen lic o c) (cfg : Config)

include lawful

theorem quiet_setAttempt (attempt : MachineSpendAttempt) : Quiet o c (setAttempt o attempt) :=
  .updateSession lawful fun _ _ => rfl

theorem quiet_yield : Quiet o c (ask .yield) := .ask lawful fun _ => trivial

theorem quiet_logMachineSpendAuditOnce (event : String → Int → AuditEvent) :
    Quiet o c (logMachineSpendAuditOnce cfg o event) := by
  have last : Quiet o c (do
      log cfg event
      ask .yield) := .bind (.log lawful cfg event) fun _ => quiet_yield lawful
  refine .ite (.bind (quiet_yield lawful) fun _ => .bind .read fun _ => ?_) last
  exact .ite (.pure ()) last

theorem quiet_closeAttempt (attempt : MachineSpendAttempt) (outcome : DevnetMachineSpendOutcome) :
    Quiet o c (closeAttempt cfg o attempt outcome) := by
  refine .ite ?_ ?_
  all_goals
    exact .bind (quiet_setAttempt lawful _) fun _ =>
      .bind (quiet_logMachineSpendAuditOnce lawful cfg _) fun _ => .pure none

theorem quiet_submitAttempt (asset payee : String) (attempt : MachineSpendAttempt)
    (prepared : DevnetMachinePaymentAttempt) (wasPending : Bool) :
    Quiet o c (submitAttempt cfg o asset payee attempt prepared wasPending) := by
  refine .bind (quiet_setAttempt lawful _) fun _ => .bind (.bind (.session? o) fun _ => .pure _)
    fun _ => .bind (.ask lawful fun _ => trivial) fun outcome => ?_
  cases outcome with
  | error message =>
      exact .bind (quiet_setAttempt lawful _) fun _ =>
        .bind (quiet_logMachineSpendAuditOnce lawful cfg _) fun _ => .pure none
  | ok outcome =>
      dsimp only
      split
      · exact .bind (quiet_setAttempt lawful _) fun _ =>
          .bind (.updateSession lawful fun _ _ => rfl) fun _ =>
          .bind (quiet_logMachineSpendAuditOnce lawful cfg _) fun _ => .pure _
      · exact quiet_closeAttempt lawful cfg attempt outcome

theorem quiet_preparedAttempt (request : ToolSpendRequest) (existing : Option MachineSpendAttempt)
    (paymentIdentifier : String) :
    Quiet o c (preparedAttempt o request existing paymentIdentifier) := by
  unfold preparedAttempt
  split
  · exact .pure _
  · exact .bind (.bind (.session? o) fun _ => .pure _) fun _ => .ask lawful fun _ => trivial

theorem quiet_spendPrepared (asset payee : String) (existing : Option MachineSpendAttempt)
    (prepared : Except String DevnetMachinePaymentAttempt) :
    Quiet o c (spendPrepared cfg o asset payee existing prepared) := by
  cases prepared with
  | ok prepared => exact quiet_submitAttempt lawful cfg asset payee _ prepared _
  | error m =>
      cases existing with
      | some attempt =>
          exact .bind (quiet_logMachineSpendAuditOnce lawful cfg _) fun _ => .pure none
      | none => exact .bind (quiet_logMachineSpendAuditOnce lawful cfg _) fun _ => .pure none

theorem quiet_spendOnDevnet (asset payee : String) (request : ToolSpendRequest)
    (existing : Option MachineSpendAttempt) :
    Quiet o c (spendOnDevnet cfg o asset payee request existing) := by
  have identified : Quiet o c (spendIdentifier cfg existing) := by
    unfold spendIdentifier
    split
    · exact .pure _
    · exact .newId lawful cfg _
  exact .bind identified fun _ => .bind (quiet_yield lawful) fun _ =>
    .bind (quiet_preparedAttempt lawful request existing _) fun _ =>
      quiet_spendPrepared lawful cfg asset payee existing _

theorem quiet_storedAttempt (request : ToolSpendRequest) (stored : Option StoredAttempt) :
    Quiet o c (storedAttempt request stored) := by
  cases stored with
  | none => exact .pure none
  | some stored =>
      refine .bind (.ite ?_ (.bind (.pure "") fun _ => .pure _)) fun _ => .pure _
      exact .bind (.ask lawful fun _ => trivial) fun _ => .bind (.liftResult _) fun _ => .pure _

theorem quiet_runDevnetFitScoreSpend (session : Session) (amountMinor : Int)
    (asset payee : String) :
    Quiet o c (runDevnetFitScoreSpend cfg o session amountMinor asset payee) := by
  refine .bind (.ask lawful fun _ => trivial) fun resource => ?_
  cases resource with
  | error m => exact .bind (quiet_logMachineSpendAuditOnce lawful cfg _) fun _ => .pure none
  | ok _ =>
      refine .bind (.ask lawful fun _ => trivial) fun _ => .bind (.liftResult _) fun stored =>
        .bind (quiet_storedAttempt lawful _ stored) fun existing => ?_
      refine .ite (.pure none) ?_
      split
      · exact .bind (quiet_logMachineSpendAuditOnce lawful cfg _) fun _ => .pure none
      · exact quiet_spendOnDevnet lawful cfg asset payee _ existing

theorem quiet_mockFitScoreSpend (session : Session) :
    Quiet o c (mockFitScoreSpend cfg o session) := by
  refine .bind (.liftResult _) fun hash => .bind (.newId lawful cfg _) fun id =>
    .bind .read fun s => ?_
  rcases runMachineSpend defaultMachineSpend (isoString s.clock) s.machineResource hash id with
    ⟨outcome, resource⟩
  refine .bind (.modify lawful (fun _ => le_rfl) (fun _ => rfl) fun _ => rfl) fun _ => ?_
  cases outcome with
  | error m => exact .bind (.log lawful cfg _) fun _ => .pure none
  | ok paid =>
      exact .bind (.updateSession lawful fun _ _ => rfl) fun _ =>
        .bind (.log lawful cfg _) fun _ => .pure _

/-- Buying fit scores is quiet. -/
theorem quiet_runFitScoreSpend (session : Session) :
    Quiet o c (runFitScoreSpend cfg o session) := by
  have spent : Quiet o c (spendInMode cfg o session) := by
    unfold spendInMode
    split
    · exact quiet_runDevnetFitScoreSpend lawful cfg session _ _ _
    · exact quiet_mockFitScoreSpend lawful cfg session
  exact .bind spent fun _ => .bind (quiet_yield lawful) fun _ => .pure _

end Spend

end Quiet

end AgentReady
