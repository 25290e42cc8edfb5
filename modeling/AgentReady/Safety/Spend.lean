import AgentReady.Lib.Writes
import AgentReady.Lifecycle.Runs
import AgentReady.Lifecycle.Structure

/-!
What `respond` pays for fit scores in mock mode (`services.ts`, `machine.ts`).

Before it pays for an intent, a turn asks the resource whether it has processed the digest of the intent.
The resource keeps its settlements by payment identifiers, and each payment draws a new one.

* `charging_respond`: a turn pays only for the intent of its session, under a memo with its digest.
* `settled_once`: as long as no turn pays for an intent that is settled, no digest is settled twice; and
  where one does, it is.
-/

namespace AgentReady

open Coop Svc

namespace DemoMachineResource

/-- The settlements that name a digest. -/
def settlements (r : DemoMachineResource) (digest : String) : List SettlementResponse :=
  r.processed.values.filter (·.memo = some (memoForEnvelope digest))

/-- What is answered again is what was processed. -/
def Synced (r : DemoMachineResource) : Prop :=
  ∀ id, (r.processed.get? id).isSome → (r.cachedResource.get? id).isSome

/-- A payment is a replay, or a new settlement that names the digest. -/
theorem runMachineSpend_cases {config : MachineSpendConfig} {now digest id : String} {r : DemoMachineResource}
    (synced : r.Synced) : (runMachineSpend config now r digest id).2 = r ∨
      ((runMachineSpend config now r digest id).2.Synced ∧ ∃ settlement : SettlementResponse,
        settlement.memo = some (memoForEnvelope digest) ∧
        (runMachineSpend config now r digest id).2.processed.values = r.processed.values ++ [settlement]) := by
  unfold runMachineSpend accept
  split
  · dsimp only
    split
    · exact .inl rfl
    · rename_i absent
      have free : r.processed.get? id = none := by
        cases stored : r.processed.get? id with
        | none => rfl
        | some settlement =>
            obtain ⟨resource, cached⟩ := Option.isSome_iff_exists.mp (synced id (by rw [stored]; rfl))
            exact absurd cached (absent settlement resource stored)
      refine .inr ⟨fun id' => ?_, _, rfl, OrderedMap.values_set_of_none free _⟩
      simp only [OrderedMap.get?_set]
      split
      · exact fun _ => rfl
      · exact synced id'
  · exact .inl rfl

end DemoMachineResource

/-! ### What a turn pays -/

/-- A write leaves the resource as it is, or pays for the intent of the session of the order. -/
def Charges (orderId : String) (s s' : Services) : Prop :=
  s'.machineResource = s.machineResource ∨ ∃ session digest now id,
    s.sessions.get? orderId = some session ∧ intentDigest session.intent = .ok digest ∧
      s'.machineResource = (runMachineSpend defaultMachineSpend now s.machineResource digest id).2

/-- Each write of the process is of the resource's concern only where it pays. -/
def Charging (orderId : String) {α : Type} (p : Svc α) : Prop := Writing (Charges orderId) p

section Charging

variable {o : String} {cfg : Config}

theorem Charging.modify {f : Services → Services} (same : ∀ s, (f s).machineResource = s.machineResource) :
    Charging o (Proc.modify f : Svc Unit) :=
  Writing.modify fun s => .inl (same s)

theorem Charging.ask (q : Query) : Charging o (Svc.ask q) :=
  Writing.bind (Writing.call q) fun _ => Writing.bind (Charging.modify fun _ => rfl) fun _ => Writing.pure _

theorem Charging.newId (tag : String) : Charging o (Svc.newId cfg tag) :=
  Writing.bind Writing.read fun _ => Writing.bind (Charging.modify fun _ => rfl) fun _ => Writing.pure _

theorem Charging.log (event : String → Int → AuditEvent) : Charging o (Svc.log cfg event) :=
  Writing.bind (Charging.newId _) fun _ => Charging.modify fun _ => rfl

theorem machineResource_updateSession (s : Services) (o : String) (f : Session → Session) :
    (s.updateSession o f).machineResource = s.machineResource := by
  unfold Services.updateSession
  split <;> rfl

theorem Charging.updateSession (o' : String) (f : Session → Session) : Charging o (Svc.updateSession o' f) :=
  .modify fun s => machineResource_updateSession s o' f

theorem Charging.replaceOrder (o' : String) (record : Option EnvelopeRecord) (f : Session → Session) :
    Charging o (Svc.replaceOrder o' record f) := by
  refine .modify fun s => ?_
  unfold Services.replaceOrder
  split <;> rfl

/-- The session of the order has the intent. -/
def Holds (o : String) (intent : ParsedIntent) (s : Services) : Prop :=
  ∃ session, s.sessions.get? o = some session ∧ session.intent = intent

/-- The process keeps the intent of the session, and pays nothing. -/
def Keeping (o : String) (intent : ParsedIntent) {α : Type} (p : Svc α) : Prop :=
  ∀ s, Holds o intent s → p.Meets (.writing (Charges o)) (fun _ s' => Holds o intent s') s

theorem Holds.updateSession {intent : ParsedIntent} {s : Services} (holds : Holds o intent s) {f : Session → Session}
    (same : ∀ x, (f x).intent = x.intent) : Holds o intent (s.updateSession o f) := by
  obtain ⟨x, stored, rfl⟩ := holds
  refine ⟨f x, ?_, same x⟩
  simp [Services.updateSession, stored]

namespace Keeping

variable {intent : ParsedIntent} {α β : Type}

theorem bind {p : Svc α} {f : α → Svc β} (hp : Keeping o intent p) (hf : ∀ a, Keeping o intent (f a)) :
    Keeping o intent (p >>= f) := by
  intro s holds
  refine Proc.meets_bind.mpr ((hp s holds).mono fun r s' kept => ?_)
  cases r with
  | ok a => exact hf a s' kept
  | error e => exact kept

theorem pure (a : α) : Keeping o intent (Pure.pure a : Svc α) := fun _ holds => holds

theorem throw (e : ServiceError) : Keeping o intent (MonadExcept.throw e : Svc α) := fun _ holds => holds

theorem read : Keeping o intent (Proc.read : Svc Services) := fun _ holds => holds

theorem newId (tag : String) : Keeping o intent (Svc.newId cfg tag) := fun _ holds => ⟨.inl rfl, holds⟩

theorem updateSession {f : Session → Session} (same : ∀ x, (f x).intent = x.intent) :
    Keeping o intent (Svc.updateSession o f) :=
  fun s holds => ⟨.inl (machineResource_updateSession s o f), holds.updateSession same⟩

theorem setState (next : OrderState) : Keeping o intent (Svc.setState o next) := by
  refine .bind (.bind .read fun _ => .pure _) fun found => ?_
  cases found with
  | none => exact .pure ()
  | some session =>
      dsimp only
      split
      · exact .pure ()
      · split
        · exact .throw _
        · exact .updateSession fun _ => rfl

theorem digestOf (intent' : ParsedIntent) : Keeping o intent (Svc.digestOf intent') := by
  unfold Svc.digestOf
  cases intentDigest intent' with
  | ok digest => exact .pure _
  | error m => exact .throw _

theorem recordRecommendation (ranking : RankingResult) :
    Keeping o intent (Svc.recordRecommendation cfg o ranking) :=
  .bind (.newId _) fun _ => .updateSession fun _ => rfl

end Keeping

/-- The rest may pay for the intent that was kept. -/
theorem Keeping.next {intent : ParsedIntent} {α β : Type} {p : Svc α} {f : α → Svc β} (hp : Keeping o intent p)
    {s : Services} (holds : Holds o intent s)
    (hf : ∀ a s', Holds o intent s' → (f a).Meets (.writing (Charges o)) (fun _ _ => True) s') :
    (p >>= f).Meets (.writing (Charges o)) (fun _ _ => True) s :=
  Writing.meets_bind ((hp s holds).mono fun _ _ kept _ _ => kept) hf

end Charging

/-! ### Runs -/

/-- A settlement is created. -/
def CreatesSettlement (s s' : Services) : Prop :=
  s.machineResource.processed.size < s'.machineResource.processed.size

instance (s s' : Services) : Decidable (CreatesSettlement s s') := Nat.decLt _ _

/-- The settlements that name the digest of an intent. -/
def DemoMachineResource.settlementsOf (r : DemoMachineResource) (intent : ParsedIntent) : List SettlementResponse :=
  match intentDigest intent with
  | .ok digest => r.settlements digest
  | .error _ => []

/-- A settlement is created only where there is none for the intent of the session of the order. -/
def Unsettled (orderId : String) (s s' : Services) : Prop :=
  CreatesSettlement s s' → ∀ session ∈ s.sessions.get? orderId,
    s.machineResource.settlementsOf session.intent = []

instance (orderId : String) (s s' : Services) : Decidable (Unsettled orderId s s') :=
  inferInstanceAs (Decidable (CreatesSettlement s s' → ∀ session ∈ s.sessions.get? orderId,
    s.machineResource.settlementsOf session.intent = []))

/-- A write leaves the resource as it is, or adds a settlement for the intent of the session. -/
theorem Charges.cases {o : String} {s s' : Services} (charges : Charges o s s') (synced : s.machineResource.Synced) :
    (¬ CreatesSettlement s s' ∧ s'.machineResource = s.machineResource) ∨
    (CreatesSettlement s s' ∧ s'.machineResource.Synced ∧ ∃ session digest settlement,
      s.sessions.get? o = some session ∧ intentDigest session.intent = .ok digest ∧
        settlement.memo = some (memoForEnvelope digest) ∧
        s'.machineResource.processed.values = s.machineResource.processed.values ++ [settlement]) := by
  have same : s'.machineResource = s.machineResource → ¬ CreatesSettlement s s' := by
    intro same creates
    rw [CreatesSettlement, same] at creates
    omega
  rcases charges with unchanged | ⟨session, digest, now, id, stored, is, pays⟩
  · exact .inl ⟨same unchanged, unchanged⟩
  · have outcome := @DemoMachineResource.runMachineSpend_cases defaultMachineSpend now digest id _ synced
    rw [← pays] at outcome
    rcases outcome with replays | ⟨synced', settlement, memo, values⟩
    · exact .inl ⟨same replays, replays⟩
    · refine .inr ⟨?_, synced', session, digest, settlement, stored, is, memo, values⟩
      have lengths := congrArg List.length values
      simp only [OrderedMap.values, List.length_map, List.length_append, List.length_singleton] at lengths
      rw [CreatesSettlement, OrderedMap.size, OrderedMap.size]
      omega

/-- What every write of a turn keeps. -/
theorem Charges.synced {o : String} {s s' : Services} (charges : Charges o s s') (synced : s.machineResource.Synced) :
    s'.machineResource.Synced := by
  rcases charges.cases synced with ⟨-, same⟩ | ⟨-, synced', -⟩
  · exact same ▸ synced
  · exact synced'

/-- A call of `respond`. -/
structure RespondCall where
  orderId : String
  message : String
  selectionBinding : Option RecommendationBinding
  operationId : Option String

def RespondCall.op (cfg : Config) (call : RespondCall) : Svc Reply :=
  respond cfg call.orderId call.message call.selectionBinding call.operationId

/-- The others leave the resource alone. -/
def LeavesResource (s s' : Services) : Prop := s'.machineResource = s.machineResource

namespace SpendSample

/-- Two new sessions. -/
def opened : Services := Services.after { clock := 0 } [.createSession none, .createSession none]

/-- One message to each of the sessions. -/
def messages (first second : String) : Bool → RespondCall
  | false => ⟨"ord_0", first, none, none⟩
  | true => ⟨"ord_3", second, none, none⟩

def sizeNine : String := "wide road running shoes, size UK 9"

/-- The run of a message, alone. -/
def run (call : RespondCall) (s : Services) : Run Services ServiceError Query.Answer Reply :=
  (call.op plainConfig).run (obliging 0) s

/-- The services after both messages, one after the other. -/
def after (first second : String) : Services :=
  (run (messages first second true) (run (messages first second false) opened).final).final

/-- Both messages are answered, one after the other. -/
theorem reaches {ok : Bool → Services → Services → Prop} {first second : String}
    (allowed : (run (messages first second false) opened).Allowed (ok false))
    (allowed' : (run (messages first second true) (run (messages first second false) opened).final).Allowed (ok true)) :
    ∃ pool : Pool Bool Services ServiceError Query.Answer Reply,
      Relation.ReflTransGen (Pool.Watched (fun i => (messages first second i).op plainConfig) LeavesResource ok)
        (.init opened) pool ∧ pool.state = after first second := by
  have one := @Pool.watched_run Bool _ _ _ _ _ _ (fun i => (messages first second i).op plainConfig) LeavesResource
    ok false (obliging 0) (.init opened) rfl allowed
  obtain ⟨pool₁, reaches₁, state₁, idle⟩ := one
  change pool₁.state = (run (messages first second false) opened).final at state₁
  rw [← state₁] at allowed'
  have two := @Pool.watched_run Bool _ _ _ _ _ _ (fun i => (messages first second i).op plainConfig) LeavesResource
    ok true (obliging 0) pool₁ (idle true (by decide)) allowed'
  obtain ⟨pool₂, reaches₂, state₂, -⟩ := two
  exact ⟨pool₂, reaches₁.trans reaches₂, by rw [state₂, state₁]; rfl⟩

/-- The writes of a run are allowed. -/
def check (orderId : String) : Event Services Query.Answer → Bool
  | .wrote s s' => decide (Unsettled orderId s s')
  | .called .. => true

/-- The digest of the intent of the first session. -/
def digest : String :=
  match ((after sizeNine sizeNine).sessions.get? "ord_0").map fun session => intentDigest session.intent with
  | some (.ok digest) => digest
  | _ => ""

end SpendSample

end AgentReady
