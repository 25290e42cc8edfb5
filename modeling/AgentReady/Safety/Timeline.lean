import AgentReady.Lifecycle.Fleet

/-!
The audit timeline (`packages/audit/src/ledger.ts`) of an instance on which snapshots are imported and
events are logged, in any interleaving.

An import asks of each event of its order whether it is stored, waits for the answer, and stores the event
if it was not. Two imports that ask of one event before either stores it both store it.

* `timeline_exact`: as long as no import goes on with an answer that does not hold any more, every
  timeline has each event once, and all that were logged or imported; and where one does, it has an event
  twice.
-/

namespace AgentReady

open Coop Svc

/-- What `audit.log` is given: an event without its id, perhaps without its time. -/
structure AuditInput where
  logicalOrderId : String
  type : String
  actor : AuditActor
  occurredAt : Option Int := none
  inputDigest : Option String := none
  outputDigest : Option String := none
  externalReferences : List (String × String) := []
  decision : Option PolicyDecision := none
  reasonCodes : List String := []

def AuditInput.event (input : AuditInput) (eventId : String) (now : Int) : AuditEvent where
  eventId
  logicalOrderId := input.logicalOrderId
  type := input.type
  actor := input.actor
  occurredAt := input.occurredAt.getD now
  inputDigest := input.inputDigest
  outputDigest := input.outputDigest
  externalReferences := input.externalReferences
  decision := input.decision
  reasonCodes := input.reasonCodes

namespace Timeline

/-- `audit.log`, which returns the event when it is stored. -/
def log (cfg : Config) (input : AuditInput) : Svc AuditEvent := do
  let event := input.event (← newId cfg "evt") (← now)
  Proc.modify fun s => { s with audit := s.audit ++ [event] }
  ask .yield
  return event

inductive Call where
  | importSession (token : String) (expectedOrderId : Option String)
  | log (input : AuditInput)

inductive Returned where
  | imported (reply : OperationReply)
  | logged (event : AuditEvent)

def Call.op (cfg : Config) (codec : SnapshotCodec) : Call → Svc Returned
  | .importSession token expectedOrderId => do
      return .imported (← AgentReady.importSession cfg codec token expectedOrderId)
  | .log input => do return .logged (← Timeline.log cfg input)

abbrev Instance (ι : Type) := Pool ι Services ServiceError Query.Answer Returned

abbrev Position := Phase Services ServiceError Query.Answer Returned

/-! ### Where a call stands -/

/-- Where an import waits. -/
inductive Stage where
  /-- It has asked of the event, and been told. -/
  | asked (event : AuditEvent) (known : Bool) (rest : List AuditEvent)
  /-- It has stored the event. -/
  | stored (event : AuditEvent) (rest : List AuditEvent)

namespace Stage

/-- What is yet to be stored, or to be asked of. -/
def pending : Stage → List AuditEvent
  | asked event false rest => event :: rest
  | asked _ true rest => rest
  | stored _ rest => rest

/-- The rest of the loop. -/
def loop (orderId : String) : Stage → Svc Unit
  | asked event known rest => do
      (do
        if !known then
          Proc.modify fun s => { s with audit := s.audit ++ [event] }
          ask .yield
        replayWebhook event)
      importAudit orderId rest
  | stored event rest => do
      replayWebhook event
      importAudit orderId rest

end Stage

/-- The end of an import whose loop goes on so. -/
def finish (snapshot : SessionSnapshot) (loop : Svc Unit) : Svc Returned := do
  let reply ← (do
    loop
    Proc.modify pruneSessionCache
    return .imported (.ok snapshot.session.logicalOrderId snapshot.session.state) : Svc OperationReply)
  return .imported reply

def Stage.resume (snapshot : SessionSnapshot) (stage : Stage) (answer : Query.Answer .yield) : Svc Returned :=
  finish snapshot do
    Proc.modify fun s => { s with clock := answer.at_ }
    stage.loop snapshot.session.logicalOrderId

/-- An import that waits. -/
def importing (snapshot : SessionSnapshot) (stage : Stage) : Position := .waiting .yield (stage.resume snapshot)

/-- A log that waits. -/
def logging (event : AuditEvent) : Position :=
  .waiting .yield fun answer => do
    Proc.modify fun s => { s with clock := answer.at_ }
    return .logged event

section Segments

variable {snapshot : SessionSnapshot} {event : AuditEvent} {rest : List AuditEvent} {s : Services}

/-- What of the services the timelines are made of. -/
structure SameAudit (s s' : Services) : Prop where
  audit : s'.audit = s.audit
  draws : s'.draws = s.draws

theorem SameAudit.trans {s' s'' : Services} (h : SameAudit s s') (h' : SameAudit s' s'') : SameAudit s s'' :=
  ⟨h'.audit.trans h.audit, h'.draws.trans h.draws⟩

theorem sameAudit_prune (s : Services) : SameAudit s (pruneSessionCache s) := by
  obtain ⟨-, -, draws, audit, -⟩ := @forgets_pruneSessionCache s
  exact ⟨audit, draws⟩

/-- The state and the phase in which a call stops next. -/
def stop (p : Svc Returned) (s : Services) : Services × Position := ((p.segment s).1, (p.segment s).2.phase)

/-- How an import goes on, from where it turns to some events. -/
inductive Onwards (snapshot : SessionSnapshot) (events : List AuditEvent) (s : Services) :
    Services × Position → Prop where
  | asks {foreign rest : List AuditEvent} {event : AuditEvent} {s' : Services}
      (split : events = foreign ++ event :: rest)
      (skipped : ∀ e ∈ foreign, e.logicalOrderId ≠ snapshot.session.logicalOrderId)
      (own : event.logicalOrderId = snapshot.session.logicalOrderId) (same : SameAudit s s') :
      Onwards snapshot events s
        (s', importing snapshot (.asked event (s.audit.any (·.eventId = event.eventId)) rest))
  | ends {s' : Services} (skipped : ∀ e ∈ events, e.logicalOrderId ≠ snapshot.session.logicalOrderId)
      (same : SameAudit s s') :
      Onwards snapshot events s (s', .done (.ok (.imported (.imported
        (.ok snapshot.session.logicalOrderId snapshot.session.state)))))

theorem Onwards.before {events : List AuditEvent} {s' : Services} {r : Services × Position}
    (same : SameAudit s s') (onwards : Onwards snapshot events s' r) : Onwards snapshot events s r := by
  cases onwards with
  | asks split skipped own same' =>
      rw [same.audit]
      exact .asks split skipped own (same.trans same')
  | ends skipped same' => exact .ends skipped (same.trans same')

theorem onwards_importAudit (events : List AuditEvent) :
    Onwards snapshot events s (stop (finish snapshot (importAudit snapshot.session.logicalOrderId events)) s) := by
  induction events with
  | nil => exact .ends (by simp) (sameAudit_prune s)
  | cons event rest ih =>
      unfold importAudit
      by_cases own : event.logicalOrderId = snapshot.session.logicalOrderId
      · rw [if_pos own]
        exact .asks (List.nil_append _).symm (fun _ mem => absurd mem List.not_mem_nil) own ⟨rfl, rfl⟩
      · rw [if_neg own]
        change Onwards snapshot (event :: rest) s
          (stop (finish snapshot (importAudit snapshot.session.logicalOrderId rest)) s)
        generalize stop (finish snapshot (importAudit snapshot.session.logicalOrderId rest)) s = r at ih ⊢
        cases ih with
        | asks split skipped own' same =>
            refine .asks (by rw [split, List.cons_append]) (fun e mem => ?_) own' same
            rcases List.mem_cons.mp mem with rfl | mem
            · exact own
            · exact skipped e mem
        | ends skipped same =>
            refine .ends (fun e mem => ?_) same
            rcases List.mem_cons.mp mem with rfl | mem
            · exact own
            · exact skipped e mem

/-- What `replayWebhook` makes of the services. -/
def replay (event : AuditEvent) (s : Services) : Services :=
  match event.webhookEvent? with
  | none => s
  | some eventId =>
      if s.webhookDedup.has eventId then s
      else { s with webhookDedup := s.webhookDedup.set eventId event.occurredAt }

theorem sameAudit_replay (event : AuditEvent) (s : Services) : SameAudit s (replay event s) := by
  unfold replay
  split
  · exact ⟨rfl, rfl⟩
  · split <;> exact ⟨rfl, rfl⟩

theorem stop_replay (p : Svc Unit) :
    stop (finish snapshot do replayWebhook event; p) s = stop (finish snapshot p) (replay event s) := by
  unfold replayWebhook replay
  cases event.webhookEvent? with
  | none => rfl
  | some eventId =>
      change stop (finish snapshot do
        (if !s.webhookDedup.has eventId then
          Proc.modify fun s => { s with webhookDedup := s.webhookDedup.set eventId event.occurredAt }
        else pure () : Svc Unit)
        p) s = stop (finish snapshot p) (if s.webhookDedup.has eventId then s
          else { s with webhookDedup := s.webhookDedup.set eventId event.occurredAt })
      cases s.webhookDedup.has eventId <;> rfl

theorem onwards_stored (answer : Query.Answer .yield) :
    Onwards snapshot rest s (stop ((Stage.stored event rest).resume snapshot answer) s) := by
  have goes : stop ((Stage.stored event rest).resume snapshot answer) s =
      stop (finish snapshot do
        replayWebhook event
        importAudit snapshot.session.logicalOrderId rest) { s with clock := answer.at_ } := rfl
  have clocked : SameAudit s { s with clock := answer.at_ } := ⟨rfl, rfl⟩
  rw [goes, stop_replay]
  exact .before (clocked.trans (sameAudit_replay event _)) (onwards_importAudit rest)

theorem onwards_known (answer : Query.Answer .yield) :
    Onwards snapshot rest s (stop ((Stage.asked event true rest).resume snapshot answer) s) :=
  onwards_stored answer

theorem stop_unknown (answer : Query.Answer .yield) :
    stop ((Stage.asked event false rest).resume snapshot answer) s =
      ({ s with clock := answer.at_, audit := s.audit ++ [event] }, importing snapshot (.stored event rest)) :=
  rfl

end Segments

section Starts

variable (cfg : Config) (codec : SnapshotCodec)

/-- The snapshot that an import is given. -/
def Call.carried : Call → Option SessionSnapshot
  | .importSession token _ => codec.carried cfg.platform cfg.signingSecret token
  | .log _ => none

/-- The snapshot that an import takes over. -/
def Call.accepted (s : Services) : Call → Option SessionSnapshot
  | .importSession token expectedOrderId =>
      (codec.openSnapshot cfg.platform cfg.signingSecret token (isoString s.clock)).filter fun snapshot =>
        (snapshot.refusal? cfg expectedOrderId).isNone
  | .log _ => none

variable {cfg codec} {s : Services}

theorem carried_of_accepted {call : Call} {snapshot : SessionSnapshot}
    (accepted : call.accepted cfg codec s = some snapshot) : call.carried cfg codec = some snapshot := by
  cases call with
  | importSession token expectedOrderId =>
      obtain ⟨opened, -⟩ := Option.filter_eq_some_iff.mp accepted
      exact carried_of_open opened
  | log input => cases accepted

theorem stop_now {α : Type} (f : Int → Svc α) (g : α → Svc Returned) :
    stop (now >>= f >>= g) s = stop (f s.clock >>= g) s := rfl

/-- An import starts by refusing its token, or with the events of its snapshot. -/
theorem stop_import (token : String) (expectedOrderId : Option String) :
    (∃ message, stop ((Call.importSession token expectedOrderId).op cfg codec) s =
      (s, .done (.ok (.imported (.imported (.error message)))))) ∨
    ∃ snapshot, (Call.importSession token expectedOrderId).accepted cfg codec s = some snapshot ∧
      Onwards snapshot snapshot.audit s (stop ((Call.importSession token expectedOrderId).op cfg codec) s) := by
  unfold Call.accepted Call.op importSession
  rw [stop_now]
  dsimp only
  cases codec.openSnapshot cfg.platform cfg.signingSecret token (isoString s.clock) with
  | none => exact .inl ⟨_, rfl⟩
  | some snapshot =>
      dsimp only
      cases refused : snapshot.refusal? cfg expectedOrderId with
      | some message => exact .inl ⟨message, rfl⟩
      | none =>
          have adopted : SameAudit s (s.adopt snapshot) := ⟨rfl, rfl⟩
          exact .inr ⟨snapshot, by simp [refused], .before adopted (onwards_importAudit snapshot.audit)⟩

theorem stop_log (input : AuditInput) :
    stop ((Call.log input).op cfg codec) s =
      ({ s with
          draws := s.draws + 1
          audit := s.audit ++ [input.event (cfg.platform.newId "evt" s.draws) s.clock] },
        logging (input.event (cfg.platform.newId "evt" s.draws) s.clock)) := rfl

end Starts

/-! ### Runs -/

section Runs

variable {ι : Type} (cfg : Config) (codec : SnapshotCodec) (calls : ι → Call)

/-- The calls as they are made on one instance. -/
def prog (i : ι) : Svc Returned := (calls i).op cfg codec

/-- The id of the event is none that is still to be drawn. -/
def Undrawn (s : Services) (e : AuditEvent) : Prop := ∀ n, s.draws ≤ n → e.eventId ≠ cfg.platform.newId "evt" n

/-- The event is stored, or is one that an import in progress replays. -/
def Known (pool : Instance ι) (e : AuditEvent) : Prop :=
  e ∈ pool.state.audit ∨ ∃ i q k, pool.phase i = .waiting q k ∧
    ∃ snapshot, (calls i).carried cfg codec = some snapshot ∧ e ∈ snapshot.replayed

/-- Ids are drawn before events are carried under them, and each of them names one event. -/
structure Genuine (pool : Instance ι) (snapshot : SessionSnapshot) : Prop where
  drawn : ∀ e ∈ snapshot.replayed, Undrawn cfg pool.state e
  named : ∀ e ∈ snapshot.replayed, ∀ x, Known cfg codec calls pool x ∨ x ∈ snapshot.replayed →
    x.eventId = e.eventId → x = e

/-- The import is about to store an event that it has found unknown, and whose id is stored by now. -/
def Stale (pool : Instance ι) (i : ι) : Prop :=
  ∃ snapshot event rest, pool.phase i = importing snapshot (.asked event false rest) ∧
    ∃ x ∈ pool.state.audit, x.eventId = event.eventId

variable [DecidableEq ι]

/-- A call acts up to its next await, where `ok` holds, or others act, which leave the store as it is. -/
inductive Step (ok : Instance ι → ι → Prop) (pool : Instance ι) : Instance ι → Prop where
  | turn {i : ι} {pool' : Instance ι} (turn : Coop.Turn (prog cfg codec calls) (fun _ _ _ => True) pool i pool')
      (genuine : pool.phase i = .idle → ∀ snapshot, (calls i).accepted cfg codec pool.state = some snapshot →
        Genuine cfg codec calls pool snapshot)
      (allowed : ok pool i) : Step ok pool pool'
  | outside {s : Services} (audit : s.audit = pool.state.audit) (draws : pool.state.draws ≤ s.draws) :
      Step ok pool { pool with state := s }

/-- A run of calls on one instance. -/
def Reaches (ok : Instance ι → ι → Prop) : Instance ι → Instance ι → Prop :=
  Relation.ReflTransGen (Step cfg codec calls ok)

end Runs

/-- Each timeline has an id once, every event that was logged for its order, and every event of its order
of a snapshot that was imported. -/
structure Exact {ι : Type} (cfg : Config) (codec : SnapshotCodec) (calls : ι → Call) (pool : Instance ι) :
    Prop where
  once : ∀ o, ((pool.state.timeline o).map (·.eventId)).Nodup
  logged : ∀ i input, calls i = .log input → pool.phase i ≠ .idle → ∃ id now,
    input.event id now ∈ pool.state.timeline input.logicalOrderId ∧
      ∀ r, pool.phase i = .done r → r = .ok (.logged (input.event id now))
  imported : ∀ i snapshot o state, (calls i).carried cfg codec = some snapshot →
    pool.phase i = .done (.ok (.imported (.imported (.ok o state)))) →
    ∀ e ∈ snapshot.audit, e.logicalOrderId = o → e ∈ pool.state.timeline o

/-! ### The invariant -/

section Invariant

variable {ι : Type} {cfg : Config} {codec : SnapshotCodec} {calls : ι → Call}

/-- The event that an import stands at. -/
def Stage.event : Stage → AuditEvent
  | asked event _ _ | stored event _ => event

/-- The events that come after it. -/
def Stage.rest : Stage → List AuditEvent
  | asked _ _ rest | stored _ rest => rest

/-- Where a call stands, and what of its events is stored. -/
inductive Stands (cfg : Config) (codec : SnapshotCodec) (call : Call) (s : Services) : Position → Prop where
  | idle : Stands cfg codec call s .idle
  | importing {snapshot : SessionSnapshot} {stage : Stage} (carried : call.carried cfg codec = some snapshot)
      (own : stage.event ∈ snapshot.replayed) (part : ∀ e ∈ stage.rest, e ∈ snapshot.audit)
      (accounted : ∀ e ∈ snapshot.replayed, e ∈ s.audit ∨ e ∈ stage.pending) :
      Stands cfg codec call s (importing snapshot stage)
  | imported {snapshot : SessionSnapshot} (carried : call.carried cfg codec = some snapshot)
      (stored : ∀ e ∈ snapshot.replayed, e ∈ s.audit) :
      Stands cfg codec call s
        (.done (.ok (.imported (.imported (.ok snapshot.session.logicalOrderId snapshot.session.state)))))
  | refused {token : String} {expected : Option String} (is : call = .importSession token expected)
      {message : String} : Stands cfg codec call s (.done (.ok (.imported (.imported (.error message)))))
  | logging {input : AuditInput} (is : call = .log input) {id : String} {now : Int}
      (stored : input.event id now ∈ s.audit) : Stands cfg codec call s (logging (input.event id now))
  | logged {input : AuditInput} (is : call = .log input) {id : String} {now : Int}
      (stored : input.event id now ∈ s.audit) :
      Stands cfg codec call s (.done (.ok (.logged (input.event id now))))

theorem Stands.mono {call : Call} {s s' : Services} {position : Position} (h : Stands cfg codec call s position)
    (kept : ∀ e ∈ s.audit, e ∈ s'.audit) : Stands cfg codec call s' position := by
  cases h with
  | idle => exact .idle
  | importing carried own part accounted =>
      exact .importing carried own part fun e mem => (accounted e mem).imp_left (kept e)
  | imported carried stored => exact .imported carried fun e mem => kept e (stored e mem)
  | refused is => exact .refused is
  | logging is stored => exact .logging is (kept _ stored)
  | logged is stored => exact .logged is (kept _ stored)

theorem mem_replayed {snapshot : SessionSnapshot} {e : AuditEvent} : e ∈ snapshot.replayed ↔
    e ∈ snapshot.audit ∧ e.logicalOrderId = snapshot.session.logicalOrderId := by
  simp [SessionSnapshot.replayed]

/-- Where an import stands that goes on with some of its events. -/
theorem Onwards.stands {call : Call} {snapshot : SessionSnapshot} {events : List AuditEvent} {s : Services}
    {r : Services × Position} (onwards : Onwards snapshot events s r)
    (carried : call.carried cfg codec = some snapshot) (part : ∀ e ∈ events, e ∈ snapshot.audit)
    (accounted : ∀ e ∈ snapshot.replayed, e ∈ s.audit ∨ e ∈ events)
    (named : ∀ e ∈ snapshot.replayed, ∀ x ∈ s.audit, x.eventId = e.eventId → x = e) :
    SameAudit s r.1 ∧ Stands cfg codec call r.1 r.2 := by
  cases onwards with
  | @asks foreign rest event s' split skipped own same =>
      have replays : event ∈ snapshot.replayed := mem_replayed.mpr ⟨part event (by simp [split]), own⟩
      have later : ∀ e ∈ rest, e ∈ snapshot.audit := fun e mem => part e (by simp [split, mem])
      refine ⟨same, .importing carried replays later fun e mem => ?_⟩
      rw [same.audit]
      refine (accounted e mem).elim .inl fun waits => ?_
      rw [split] at waits
      rcases List.mem_append.mp waits with waits | waits
      · exact absurd (mem_replayed.mp mem).2 (skipped e waits)
      · cases known : s.audit.any (·.eventId = event.eventId) with
        | false => exact .inr waits
        | true =>
            obtain ⟨x, stored, id⟩ := List.any_eq_true.mp known
            rcases List.mem_cons.mp waits with rfl | later
            · rw [← named e mem x stored (by simpa using id)]
              exact .inl stored
            · exact .inr later
  | ends skipped same =>
      refine ⟨same, .imported carried fun e mem => ?_⟩
      rw [same.audit]
      exact (accounted e mem).elim id fun waits => absurd (mem_replayed.mp mem).2 (skipped e waits)

/-- No id is stored twice, none that is still to be drawn is known, and each names one event. -/
structure Inv (cfg : Config) (codec : SnapshotCodec) (calls : ι → Call) (pool : Instance ι) : Prop where
  nodup : (pool.state.audit.map (·.eventId)).Nodup
  undrawn : ∀ x, Known cfg codec calls pool x → Undrawn cfg pool.state x
  named : ∀ x y, Known cfg codec calls pool x → Known cfg codec calls pool y → x.eventId = y.eventId → x = y
  stands : ∀ i, Stands cfg codec (calls i) pool.state (pool.phase i)

variable [DecidableEq ι] {pool : Instance ι} {i : ι} {r : Services × Position}

/-- A call has acted up to where it stops. -/
def put (pool : Instance ι) (i : ι) (r : Services × Position) : Instance ι :=
  ⟨r.1, Function.update pool.phase i r.2⟩

theorem put_self : (put pool i r).phase i = r.2 := Function.update_self ..

theorem put_of_ne {j : ι} (other : j ≠ i) : (put pool i r).phase j = pool.phase j := Function.update_of_ne other ..

/-- What a call may bring to be known: what it stores, and what it waits with. -/
def Brings (cfg : Config) (codec : SnapshotCodec) (call : Call) (r : Services × Position) (x : AuditEvent) : Prop :=
  x ∈ r.1.audit ∨ ∃ q k, r.2 = .waiting q k ∧
    ∃ snapshot, call.carried cfg codec = some snapshot ∧ x ∈ snapshot.replayed

theorem known_put {x : AuditEvent} (known : Known cfg codec calls (put pool i r) x) :
    Brings cfg codec (calls i) r x ∨ Known cfg codec calls pool x := by
  rcases known with stored | ⟨j, q, k, waits, replays⟩
  · exact .inl (.inl stored)
  · by_cases same : j = i
    · subst same
      exact .inl (.inr ⟨q, k, put_self.symm.trans waits, replays⟩)
    · rw [put_of_ne same] at waits
      exact .inr (.inr ⟨j, q, k, waits, replays⟩)

theorem Inv.put (inv : Inv cfg codec calls pool) (new : AuditEvent → Prop) (draws : pool.state.draws ≤ r.1.draws)
    (nodup : (r.1.audit.map (·.eventId)).Nodup) (kept : ∀ x ∈ pool.state.audit, x ∈ r.1.audit)
    (stands : Stands cfg codec (calls i) r.1 r.2)
    (brings : ∀ x, Brings cfg codec (calls i) r x → Known cfg codec calls pool x ∨ new x)
    (undrawn : ∀ x, new x → Undrawn cfg r.1 x)
    (named : ∀ x, new x → ∀ y, Known cfg codec calls pool y ∨ new y → y.eventId = x.eventId → y = x) :
    Inv cfg codec calls (Timeline.put pool i r) := by
  have known : ∀ x, Known cfg codec calls (Timeline.put pool i r) x → Known cfg codec calls pool x ∨ new x :=
    fun x known => (known_put known).elim (brings x) .inl
  refine ⟨nodup, fun x known' => ?_, fun x y knownX knownY same => ?_, fun j => ?_⟩
  · rcases known x known' with old | is
    · exact fun n le => inv.undrawn x old n (draws.trans le)
    · exact undrawn x is
  · rcases known x knownX with oldX | newX
    · rcases known y knownY with oldY | newY
      · exact inv.named x y oldX oldY same
      · exact named y newY x (.inl oldX) same
    · exact (named x newX y (known y knownY) same.symm).symm
  · by_cases same : j = i
    · subst same
      rw [put_self]
      exact stands
    · rw [put_of_ne same]
      exact (inv.stands j).mono kept

/-- The store is as it was. -/
theorem Inv.put_same (inv : Inv cfg codec calls pool) (new : AuditEvent → Prop) (same : SameAudit pool.state r.1)
    (stands : Stands cfg codec (calls i) r.1 r.2)
    (waits : ∀ q k snapshot x, r.2 = .waiting q k → (calls i).carried cfg codec = some snapshot →
      x ∈ snapshot.replayed → Known cfg codec calls pool x ∨ new x)
    (undrawn : ∀ x, new x → Undrawn cfg pool.state x)
    (named : ∀ x, new x → ∀ y, Known cfg codec calls pool y ∨ new y → y.eventId = x.eventId → y = x) :
    Inv cfg codec calls (Timeline.put pool i r) := by
  refine inv.put new same.draws.ge (by rw [same.audit]; exact inv.nodup) (by simp [same.audit]) stands
    (fun x brings => ?_) (fun x is n le => undrawn x is n (same.draws ▸ le)) named
  rcases brings with stored | ⟨q, k, waiting, snapshot, carried, replays⟩
  · exact .inl (.inl (same.audit ▸ stored))
  · exact waits q k snapshot x waiting carried replays

/-- An import that goes on with some of its events. -/
theorem Inv.onwards (inv : Inv cfg codec calls pool) {snapshot : SessionSnapshot} {events : List AuditEvent}
    (goes : Onwards snapshot events pool.state r) (carried : (calls i).carried cfg codec = some snapshot)
    (part : ∀ e ∈ events, e ∈ snapshot.audit)
    (accounted : ∀ e ∈ snapshot.replayed, e ∈ pool.state.audit ∨ e ∈ events)
    (drawn : ∀ e ∈ snapshot.replayed, Undrawn cfg pool.state e)
    (named : ∀ e ∈ snapshot.replayed, ∀ x, Known cfg codec calls pool x ∨ x ∈ snapshot.replayed →
      x.eventId = e.eventId → x = e) :
    Inv cfg codec calls (Timeline.put pool i r) := by
  obtain ⟨same, stands⟩ := goes.stands carried part accounted fun e mem x stored => named e mem x (.inl (.inl stored))
  refine inv.put_same (· ∈ snapshot.replayed) same stands (fun q k snapshot' x _ carried' mem => ?_) drawn named
  obtain rfl := Option.some.inj (carried.symm.trans carried')
  exact .inr mem

/-- A call that brings nothing new. -/
theorem Inv.rest (inv : Inv cfg codec calls pool) (same : SameAudit pool.state r.1)
    (stands : Stands cfg codec (calls i) r.1 r.2) {result : Except ServiceError Returned} (done : r.2 = .done result) :
    Inv cfg codec calls (Timeline.put pool i r) := by
  refine inv.put_same (fun _ => False) same stands (fun q k _ _ waits => ?_) (fun _ => False.elim)
    fun _ => False.elim
  rw [done] at waits
  cases waits

/-- An event that is not stored is stored. -/
theorem nodup_append {events : List AuditEvent} {e : AuditEvent} (nodup : (events.map (·.eventId)).Nodup)
    (absent : ∀ x ∈ events, x.eventId ≠ e.eventId) : ((events ++ [e]).map (·.eventId)).Nodup := by
  rw [List.map_append, List.nodup_append]
  refine ⟨nodup, by simp, fun id mem id' mem' => ?_⟩
  obtain ⟨x, stored, rfl⟩ := List.mem_map.mp mem
  obtain rfl := List.mem_singleton.mp mem'
  exact absent x stored

theorem Inv.log (inv : Inv cfg codec calls pool) (distinct : Function.Injective (cfg.platform.newId "evt"))
    {input : AuditInput} (is : calls i = .log input) :
    Inv cfg codec calls (Timeline.put pool i (stop ((calls i).op cfg codec) pool.state)) := by
  rw [is, stop_log]
  set event := input.event (cfg.platform.newId "evt" pool.state.draws) pool.state.clock
  have absent : ∀ x, Known cfg codec calls pool x → x.eventId ≠ event.eventId := fun x known =>
    inv.undrawn x known _ le_rfl
  refine inv.put (· = event) (Nat.le_succ _) (nodup_append inv.nodup fun x stored => absent x (.inl stored))
    (fun x stored => List.mem_append_left _ stored) (.logging is (by simp [event])) (fun x brings => ?_) ?_ ?_
  · rcases brings with stored | ⟨q, k, -, snapshot, carried, -⟩
    · exact (List.mem_append.mp stored).imp .inl List.mem_singleton.mp
    · rw [is] at carried
      cases carried
  · rintro x rfl n le same
    exact absurd (distinct same) (by simp only at le; omega)
  · rintro x rfl y (known | rfl) same
    · exact absurd same (absent y known)
    · rfl

theorem Inv.start (inv : Inv cfg codec calls pool) (distinct : Function.Injective (cfg.platform.newId "evt"))
    (genuine : ∀ snapshot, (calls i).accepted cfg codec pool.state = some snapshot →
      Genuine cfg codec calls pool snapshot) :
    Inv cfg codec calls (Timeline.put pool i (stop ((calls i).op cfg codec) pool.state)) := by
  cases is : calls i with
  | log input => exact is ▸ inv.log distinct is
  | importSession token expectedOrderId =>
      rw [is] at genuine
      rcases @stop_import cfg codec pool.state token expectedOrderId with ⟨message, refused⟩ | ⟨snapshot, accepted, goes⟩
      · rw [refused]
        exact inv.rest ⟨rfl, rfl⟩ (.refused is) rfl
      · have carried : (calls i).carried cfg codec = some snapshot := is ▸ carried_of_accepted accepted
        obtain ⟨drawn, named⟩ := genuine snapshot accepted
        exact inv.onwards goes carried (fun _ mem => mem) (fun e mem => .inr (mem_replayed.mp mem).1) drawn named

/-- The import stores the event that it found unknown. -/
theorem Inv.store (inv : Inv cfg codec calls pool) {snapshot : SessionSnapshot} {event : AuditEvent}
    {rest : List AuditEvent} (waiting : pool.phase i = importing snapshot (.asked event false rest))
    (carried : (calls i).carried cfg codec = some snapshot) (own : event ∈ snapshot.replayed)
    (part : ∀ e ∈ rest, e ∈ snapshot.audit)
    (accounted : ∀ e ∈ snapshot.replayed, e ∈ pool.state.audit ∨ e ∈ event :: rest)
    (absent : ∀ x ∈ pool.state.audit, x.eventId ≠ event.eventId) (answer : Query.Answer .yield) :
    Inv cfg codec calls (Timeline.put pool i
      (stop ((Stage.asked event false rest).resume snapshot answer) pool.state)) := by
  have known : ∀ x ∈ snapshot.replayed, Known cfg codec calls pool x := fun x mem =>
    .inr ⟨i, _, _, waiting, snapshot, carried, mem⟩
  rw [stop_unknown]
  refine inv.put (fun _ => False) le_rfl (nodup_append inv.nodup absent)
    (fun x stored => List.mem_append_left _ stored) (.importing carried own part fun e mem => ?_)
    (fun x brings => .inl ?_) (fun _ => False.elim) fun _ => False.elim
  · rcases accounted e mem with stored | later
    · exact .inl (List.mem_append_left _ stored)
    · rcases List.mem_cons.mp later with rfl | later
      · exact .inl (by simp)
      · exact .inr later
  · rcases brings with stored | ⟨q, k, -, snapshot', carried', replays⟩
    · rcases List.mem_append.mp stored with stored | is
      · exact .inl stored
      · exact List.mem_singleton.mp is ▸ known event own
    · obtain rfl := Option.some.inj (carried.symm.trans carried')
      exact known x replays

theorem Inv.resume (inv : Inv cfg codec calls pool) {q : Query} {k : q.Answer → Svc Returned}
    (waiting : pool.phase i = .waiting q k) (current : ¬ Stale pool i) (answer : q.Answer) :
    Inv cfg codec calls (Timeline.put pool i (stop (k answer) pool.state)) := by
  have stands := inv.stands i
  generalize at_ : pool.phase i = position at stands
  have same := at_.symm.trans waiting
  cases stands with
  | idle => cases same
  | imported carried stored => cases same
  | refused is => cases same
  | logged is stored => cases same
  | logging is stored =>
      cases same
      exact inv.rest ⟨rfl, rfl⟩ (.logged is stored) rfl
  | @importing snapshot stage carried own part accounted =>
      cases same
      have known : ∀ x ∈ snapshot.replayed, Known cfg codec calls pool x := fun x mem =>
        .inr ⟨i, _, _, at_, snapshot, carried, mem⟩
      have drawn : ∀ e ∈ snapshot.replayed, Undrawn cfg pool.state e := fun e mem => inv.undrawn e (known e mem)
      have named : ∀ e ∈ snapshot.replayed, ∀ x, Known cfg codec calls pool x ∨ x ∈ snapshot.replayed →
          x.eventId = e.eventId → x = e := fun e mem x either =>
        inv.named x e (either.elim id (known x)) (known e mem)
      cases stage with
      | stored event rest => exact inv.onwards (onwards_stored answer) carried part accounted drawn named
      | asked event known_ rest =>
          cases known_ with
          | true => exact inv.onwards (onwards_known answer) carried part accounted drawn named
          | false =>
              refine inv.store at_ carried own part accounted (fun x stored same => current ?_) answer
              exact ⟨snapshot, event, rest, at_, x, stored, same⟩

omit [DecidableEq ι] in
theorem Inv.outside (inv : Inv cfg codec calls pool) {s : Services} (audit : s.audit = pool.state.audit)
    (draws : pool.state.draws ≤ s.draws) : Inv cfg codec calls { pool with state := s } := by
  have known : ∀ x, Known cfg codec calls { pool with state := s } x → Known cfg codec calls pool x := fun x known =>
    known.imp_left fun stored => audit ▸ stored
  refine ⟨audit ▸ inv.nodup, fun x known' n le => inv.undrawn x (known x known') n (draws.trans le), ?_, fun j => ?_⟩
  · exact fun x y knownX knownY => inv.named x y (known x knownX) (known y knownY)
  · exact (inv.stands j).mono (by simp [audit])

/-- What a step preserves. -/
theorem Inv.step (inv : Inv cfg codec calls pool) (distinct : Function.Injective (cfg.platform.newId "evt"))
    {pool' : Instance ι} (step : Step cfg codec calls (fun pool i => ¬ Stale pool i) pool pool') :
    Inv cfg codec calls pool' := by
  cases step with
  | turn turn genuine allowed =>
      cases turn with
      | start idle => exact inv.start distinct (genuine idle)
      | @resume q k a waiting _ => exact inv.resume waiting allowed a
  | outside audit draws => exact inv.outside audit draws

/-- What a run preserves. -/
theorem Inv.reaches (inv : Inv cfg codec calls pool) (distinct : Function.Injective (cfg.platform.newId "evt"))
    {pool' : Instance ι} (reaches : Reaches cfg codec calls (fun pool i => ¬ Stale pool i) pool pool') :
    Inv cfg codec calls pool' := by
  induction reaches with
  | refl => exact inv
  | tail _ step ih => exact ih.step distinct step

omit [DecidableEq ι] in
theorem Inv.init {s : Services} (nodup : (s.audit.map (·.eventId)).Nodup) (drawn : ∀ x ∈ s.audit, Undrawn cfg s x) :
    Inv cfg codec calls (.init s) := by
  have known : ∀ x, Known cfg codec calls (Pool.init s) x → x ∈ s.audit := by
    rintro x (stored | ⟨i, q, k, waits, -⟩)
    · exact stored
    · cases waits
  exact ⟨nodup, fun x knownX => drawn x (known x knownX),
    fun x y knownX knownY => List.inj_on_of_nodup_map nodup (known x knownX) (known y knownY), fun _ => .idle⟩

/-! ### Timelines -/

theorem timeline_perm (s : Services) (o : String) :
    (s.timeline o).Perm (s.audit.filter (·.logicalOrderId = o)) := List.perm_insertionSort ..

theorem mem_timeline {s : Services} {o : String} {e : AuditEvent} :
    e ∈ s.timeline o ↔ e ∈ s.audit ∧ e.logicalOrderId = o := by
  rw [(timeline_perm s o).mem_iff, List.mem_filter, decide_eq_true_eq]

omit [DecidableEq ι] in
theorem Inv.exact (inv : Inv cfg codec calls pool) : Exact cfg codec calls pool := by
  refine ⟨fun o => ?_, fun i input is started => ?_, fun i snapshot o state carried done e mem own => ?_⟩
  · rw [((timeline_perm pool.state o).map _).nodup_iff]
    exact inv.nodup.sublist (List.filter_sublist.map _)
  · have stands := inv.stands i
    rw [is] at stands
    generalize pool.phase i = position at stands started
    cases stands with
    | idle => exact absurd rfl started
    | importing carried => cases carried
    | imported carried => cases carried
    | refused is => cases is
    | @logging _ is id now stored =>
        cases is
        refine ⟨id, now, mem_timeline.mpr ⟨stored, rfl⟩, fun r same => ?_⟩
        cases same
    | @logged _ is id now stored =>
        cases is
        refine ⟨id, now, mem_timeline.mpr ⟨stored, rfl⟩, fun r same => ?_⟩
        cases same
        rfl
  · have stands := inv.stands i
    rw [done] at stands
    cases stands with
    | imported carried' stored =>
        obtain rfl := Option.some.inj (carried.symm.trans carried')
        exact mem_timeline.mpr ⟨stored e (mem_replayed.mpr ⟨mem, own⟩), own⟩

/-- Calls that wait alike act alike. -/
theorem stop_eq_of_waiting {q : Query} {k k' : q.Answer → Svc Returned}
    (same : (Phase.waiting q k : Position) = .waiting q k') (answer : q.Answer) (s : Services) :
    stop (k answer) s = stop (k' answer) s := by
  cases same
  rfl

/-- What a call does that is about to store an event. -/
theorem audit_stop_of_asked {snapshot : SessionSnapshot} {event : AuditEvent} {rest : List AuditEvent}
    {k : Query.Answer .yield → Svc Returned}
    (same : (Phase.waiting .yield k : Position) = importing snapshot (.asked event false rest))
    (answer : Query.Answer .yield) (s : Services) : (stop (k answer) s).1.audit = s.audit ++ [event] := by
  rw [stop_eq_of_waiting same answer s]
  rfl

theorem Onwards.audit {snapshot : SessionSnapshot} {events : List AuditEvent} {s : Services}
    (goes : Onwards snapshot events s r) : r.1.audit = s.audit := by
  cases goes with
  | asks _ _ _ same => exact same.audit
  | ends _ same => exact same.audit

omit [DecidableEq ι] in
/-- What an import is about to store, it replays. -/
theorem Inv.asked (inv : Inv cfg codec calls pool) {snapshot : SessionSnapshot} {event : AuditEvent}
    {rest : List AuditEvent} (waiting : pool.phase i = importing snapshot (.asked event false rest)) :
    Known cfg codec calls pool event := by
  have stands := inv.stands i
  generalize at_ : pool.phase i = position at stands
  have same := at_.symm.trans waiting
  have stores : ∀ events : List AuditEvent, events ≠ events ++ [event] := fun events is => by simp at is
  cases stands with
  | idle => cases same
  | imported carried stored => cases same
  | refused is => cases same
  | logged is stored => cases same
  | logging is stored =>
      exact absurd (audit_stop_of_asked same ⟨(), 0⟩ pool.state) (stores pool.state.audit)
  | @importing snapshot' stage carried own part accounted =>
      have audit := audit_stop_of_asked same ⟨(), 0⟩ pool.state
      cases stage with
      | stored event' rest' =>
          rw [(onwards_stored _).audit] at audit
          exact absurd audit (stores _)
      | asked event' known rest' =>
          cases known with
          | true =>
              rw [(onwards_known _).audit] at audit
              exact absurd audit (stores _)
          | false =>
              obtain rfl : event' = event := by simpa [stop_unknown] using audit
              exact .inr ⟨i, _, _, at_, snapshot', carried, own⟩

/-- A stale import stores its event twice. -/
theorem Inv.twice (inv : Inv cfg codec calls pool) (stale : Stale pool i) {pool' : Instance ι}
    (turn : Coop.Turn (prog cfg codec calls) (fun _ _ _ => True) pool i pool') : ¬ Exact cfg codec calls pool' := by
  obtain ⟨snapshot, event, rest, at_, x, stored, id⟩ := stale
  obtain rfl := inv.named x event (.inl stored) (inv.asked at_) id
  intro exact_
  have audit : pool'.state.audit = pool.state.audit ++ [x] := by
    cases turn with
    | start idle =>
        rw [idle] at at_
        cases at_
    | @resume q k a waiting _ =>
        have same := waiting.symm.trans at_
        obtain rfl : q = .yield := by
          cases same
          rfl
        exact audit_stop_of_asked same a pool.state
  have once := exact_.once x.logicalOrderId
  rw [((timeline_perm _ _).map _).nodup_iff, audit, List.filter_append, List.map_append, List.nodup_append] at once
  refine once.2.2 x.eventId (List.mem_map_of_mem ?_) x.eventId (List.mem_map_of_mem ?_) rfl
  · exact List.mem_filter.mpr ⟨stored, by simp⟩
  · simp

end Invariant

/-- As long as no import goes on with an answer that does not hold any more, every timeline is exact; and
where one does, its event is in the timeline twice. -/
theorem timeline_exact {ι : Type} [DecidableEq ι] (cfg : Config) (codec : SnapshotCodec) (calls : ι → Call)
    (distinct : Function.Injective cfg.platform.randomHex) {s : Services}
    (nodup : (s.audit.map (·.eventId)).Nodup) (drawn : ∀ x ∈ s.audit, Undrawn cfg s x) {pool : Instance ι}
    (reaches : Reaches cfg codec calls (fun pool i => ¬ Stale pool i) (.init s) pool) :
    Exact cfg codec calls pool ∧ ∀ i pool', Stale pool i →
      Coop.Turn (prog cfg codec calls) (fun _ _ _ => True) pool i pool' → ¬ Exact cfg codec calls pool' := by
  have inv := (Inv.init nodup drawn).reaches (newId_injective distinct "evt") reaches
  exact ⟨inv.exact, fun i pool' stale turn => inv.twice stale turn⟩

/-! ### Two runs -/

namespace Sample

/-- Every token that is signed carries the session that was just created on another instance. -/
def codec : SnapshotCodec := ⟨fun _ => "snapshot", fun _ => openedServices.snapshot? "ord_0"⟩

/-- The token is imported by every call but the first, which logs. -/
def calls : Nat → Call
  | 0 => .log ⟨"ord_0", "session.resumed", .system, none, none, none, [], none, []⟩
  | _ => .importSession "snapshot.signingsnapshot" none

/-- The instance to which the token comes. -/
def fresh : Services := { clock := 0, draws := openedServices.draws }

/-- A call that was not started acts. -/
def start (i : Nat) (pool : Instance Nat) : Instance Nat :=
  pool.advance i (prog plainConfig codec calls i)

/-- A call that waits acts. -/
def resume (i : Nat) (pool : Instance Nat) : Instance Nat :=
  match pool.phase i with
  | .waiting q k => pool.advance i (k (obliging 0 q))
  | _ => pool

def isIdle (i : Nat) (pool : Instance Nat) : Bool :=
  match pool.phase i with
  | .idle => true
  | _ => false

def isWaiting (i : Nat) (pool : Instance Nat) : Bool :=
  match pool.phase i with
  | .waiting .. => true
  | _ => false

/-- The events of the token have ids of their own, which were drawn before. -/
def replays (snapshot : SessionSnapshot) : Bool :=
  (snapshot.replayed.map (·.eventId)).Nodup ∧
    ∀ id ∈ snapshot.replayed.map (·.eventId), ∃ n ∈ List.range fresh.draws, id = plainPlatform.newId "evt" n

theorem replays_opened : (openedServices.snapshot? "ord_0").all replays := by decide +kernel

theorem snapshot_of_carried {call : Call} {snapshot : SessionSnapshot}
    (carried : call.carried plainConfig codec = some snapshot) : openedServices.snapshot? "ord_0" = some snapshot := by
  cases call with
  | log input => cases carried
  | importSession token expected =>
      obtain ⟨⟨payload, signature⟩, -, inflates⟩ := Option.bind_eq_some_iff.mp carried
      dsimp only at inflates
      split at inflates
      · cases inflates
      · exact inflates

/-- The token may be imported where nothing is stored. -/
theorem genuine {pool : Instance Nat} (empty : pool.state.audit = []) (draws : pool.state.draws = fresh.draws)
    {call : Call} {s : Services} {snapshot : SessionSnapshot} (accepted : call.accepted plainConfig codec s = some snapshot) :
    Genuine plainConfig codec calls pool snapshot := by
  have opened := snapshot_of_carried (carried_of_accepted accepted)
  have facts := replays_opened
  rw [opened, Option.all_some, replays, decide_eq_true_eq] at facts
  obtain ⟨nodup, drawn⟩ := facts
  refine ⟨fun e mem n le same => ?_, fun e mem x known same => ?_⟩
  · obtain ⟨m, below, is⟩ := drawn e.eventId (List.mem_map_of_mem mem)
    have equal := newId_injective plainPlatform_injective "evt" (is.symm.trans same)
    rw [List.mem_range] at below
    omega
  · refine List.inj_on_of_nodup_map nodup ?_ mem same
    rcases known with (stored | ⟨j, q, k, -, snapshot', carried, replays⟩) | replays
    · rw [empty] at stored
      cases stored
    · obtain rfl := Option.some.inj (opened.symm.trans (snapshot_of_carried carried))
      exact replays
    · exact replays

section Steps

variable {ok : Instance Nat → Nat → Prop} {pool : Instance Nat} {i : Nat}

theorem step_start (idle : isIdle i pool = true) (empty : pool.state.audit = [])
    (draws : pool.state.draws = fresh.draws) (allowed : ok pool i) :
    Step plainConfig codec calls ok pool (start i pool) := by
  have idle' : pool.phase i = .idle := by
    unfold isIdle at idle
    cases at_ : pool.phase i with
    | idle => rfl
    | waiting q k => simp [at_] at idle
    | done r => simp [at_] at idle
  exact .turn (.start idle') (fun _ snapshot accepted => genuine empty draws accepted) allowed

theorem step_resume (waits : isWaiting i pool = true) (allowed : ok pool i) :
    Step plainConfig codec calls ok pool (resume i pool) := by
  unfold resume
  cases at_ : pool.phase i with
  | idle => simp [isWaiting, at_] at waits
  | done r => simp [isWaiting, at_] at waits
  | waiting q k =>
      refine .turn (.resume at_ trivial) (fun idle => ?_) allowed
      rw [at_] at idle
      cases idle

theorem not_stale_of_idle (idle : isIdle i pool = true) : ¬ Stale pool i := by
  rintro ⟨snapshot, event, rest, at_, -⟩
  rw [isIdle, at_] at idle
  cases idle

/-- An import that adds no event again was not stale. -/
theorem not_stale_of_nodup (nodup : ((resume i pool).state.audit.map (·.eventId)).Nodup) : ¬ Stale pool i := by
  rintro ⟨snapshot, event, rest, at_, x, stored, same⟩
  have audit : (resume i pool).state.audit = pool.state.audit ++ [event] := by
    rw [resume, at_]
    rfl
  rw [audit, List.map_append, List.nodup_append] at nodup
  exact nodup.2.2 x.eventId (List.mem_map_of_mem stored) event.eventId (by simp) same

end Steps

/-- Two imports of the token have asked of its event. -/
def asking : Instance Nat := start 2 (start 1 (.init fresh))

/-- Both have stored it. -/
def doubled : Instance Nat := resume 2 (resume 1 asking)

/-- An import has asked of the event, and another event is logged. -/
def logging : Instance Nat := start 0 (start 1 (.init fresh))

/-- The import has ended, and the log. -/
def merged : Instance Nat := resume 0 (resume 1 (resume 1 logging))

theorem started : isIdle 0 (start 1 (.init fresh)) ∧ isIdle 2 (start 1 (.init fresh)) ∧
    (start 1 (.init fresh)).state.audit.isEmpty ∧ (start 1 (.init fresh)).state.draws = fresh.draws := by
  decide +kernel

theorem doubled_facts : isWaiting 1 asking ∧ isWaiting 2 (resume 1 asking) ∧
    ((doubled.state.timeline "ord_0").map (·.eventId)) = ["evt_2", "evt_2"] := by
  decide +kernel

theorem merged_facts : isWaiting 1 logging ∧ ((resume 1 logging).state.audit.map (·.eventId)).Nodup ∧
    isWaiting 1 (resume 1 logging) ∧ ((resume 1 (resume 1 logging)).state.audit.map (·.eventId)).Nodup ∧
    isWaiting 0 (resume 1 (resume 1 logging)) ∧ (merged.state.audit.map (·.eventId)).Nodup := by
  decide +kernel

theorem reaches_doubled : Reaches plainConfig codec calls (fun _ _ => True) (.init fresh) doubled := by
  obtain ⟨-, idle, empty, draws⟩ := started
  obtain ⟨first, second, -⟩ := doubled_facts
  have one := @step_start (fun _ _ => True) (.init fresh) 1 rfl rfl rfl trivial
  have two := @step_start (fun _ _ => True) _ 2 idle (List.isEmpty_iff.mp empty) draws trivial
  have three := @step_resume (fun _ _ => True) _ 1 first trivial
  have four := @step_resume (fun _ _ => True) _ 2 second trivial
  exact .head one (.head two (.head three (.single four)))

theorem reaches_merged :
    Reaches plainConfig codec calls (fun pool i => ¬ Stale pool i) (.init fresh) merged := by
  obtain ⟨idle, -, empty, draws⟩ := started
  obtain ⟨first, nodup, second, nodup', last, nodup''⟩ := merged_facts
  have one := @step_start (fun pool i => ¬ Stale pool i) (.init fresh) 1 rfl rfl rfl (not_stale_of_idle rfl)
  have two := @step_start (fun pool i => ¬ Stale pool i) _ 0 idle (List.isEmpty_iff.mp empty) draws
    (not_stale_of_idle idle)
  have three := @step_resume (fun pool i => ¬ Stale pool i) _ 1 first (not_stale_of_nodup nodup)
  have four := @step_resume (fun pool i => ¬ Stale pool i) _ 1 second (not_stale_of_nodup nodup')
  have five := @step_resume (fun pool i => ¬ Stale pool i) _ 0 last (not_stale_of_nodup nodup'')
  exact .head one (.head two (.head three (.head four (.single five))))

end Sample

/-- An import, and an event that is logged while it waits. -/
theorem timeline_exact_merged : Exact plainConfig Sample.codec Sample.calls Sample.merged :=
  (@timeline_exact Nat _ plainConfig Sample.codec Sample.calls plainPlatform_injective Sample.fresh
    List.nodup_nil (fun _ mem => absurd mem List.not_mem_nil) _ Sample.reaches_merged).1

/-- Two imports of one token at once: its event is in the timeline twice. -/
theorem timeline_doubled :
    Reaches plainConfig Sample.codec Sample.calls (fun _ _ => True) (.init Sample.fresh) Sample.doubled ∧
      ¬ Exact plainConfig Sample.codec Sample.calls Sample.doubled := by
  refine ⟨Sample.reaches_doubled, fun exact_ => ?_⟩
  have once := exact_.once "ord_0"
  rw [Sample.doubled_facts.2.2] at once
  exact absurd once (by decide)

end Timeline

end AgentReady
