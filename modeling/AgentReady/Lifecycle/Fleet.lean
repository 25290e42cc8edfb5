import AgentReady.Lifecycle.Evolving
import AgentReady.Lifecycle.Runs
import AgentReady.Services.Snapshot

/-!
Any number of server instances, which share nothing but the tokens that clients carry between them.

An instance runs any number of operations, interleaved at their awaits. An operation holds its session
object across an await, while an import or an eviction may have put another under its order id; so between
two turns the sessions of an instance may be any under their own ids.

* `Fleet.Run`: a run, with the turns that the operations took.
* `importing_importSession`: what an import may do, by the snapshot that its token carries.
* `Fleet.Run.keyed`, `Fleet.Run.kept`: sessions stay under their ids, and no processed webhook is
  forgotten.
* `Fleet.Run.call`: an operation that runs alone is a run.
-/

namespace AgentReady

open Coop Svc

/-! ### Imports -/

/-- The snapshot that a token carries, expired or not. -/
def SnapshotCodec.carried (codec : SnapshotCodec) (P : Platform) (secret token : String) :
    Option SessionSnapshot := do
  let (payload, signature) ← splitToken token
  if signature ≠ P.hmacSha256 secret payload then none else codec.inflate payload

theorem carried_of_open {codec : SnapshotCodec} {P : Platform} {secret token nowIso : String}
    {snapshot : SessionSnapshot} (opens : codec.openSnapshot P secret token nowIso = some snapshot) :
    codec.carried P secret token = some snapshot := by
  unfold SnapshotCodec.openSnapshot at opens
  unfold SnapshotCodec.carried
  obtain ⟨⟨payload, signature⟩, split, opens⟩ := Option.bind_eq_some_iff.mp opens
  rw [split]
  dsimp only [Option.bind_eq_bind, Option.bind_some] at opens ⊢
  split at opens
  · cases opens
  · rename_i signed
    rw [if_neg signed]
    obtain ⟨inflated, found, opens⟩ := Option.bind_eq_some_iff.mp opens
    split at opens
    · cases opens
    · split at opens
      · cases opens
      · rw [found, ← opens]

/-- The events that an import replays. -/
def SessionSnapshot.replayed (snapshot : SessionSnapshot) : List AuditEvent :=
  snapshot.audit.filter (·.logicalOrderId = snapshot.session.logicalOrderId)

/-- What a segment of an import may lead to. -/
structure Imports (carried : Option SessionSnapshot) (s s' : Services) : Prop where
  keyed : Keyed s → Keyed s'
  vested : (∀ snapshot ∈ carried, snapshot.mandate.isSome) → Vested s → Vested s'
  mandates : ∀ c, (s.mandates.get? c).isSome → (s'.mandates.get? c).isSome
  draws : s'.draws = s.draws
  audit : ∃ fresh, s'.audit = s.audit ++ fresh ∧
    ∀ event ∈ fresh, ∃ snapshot ∈ carried, event ∈ snapshot.replayed
  kept : ∀ e, s.webhookDedup.has e → s'.webhookDedup.has e
  marked : ∀ e, s'.webhookDedup.has e → s.webhookDedup.has e ∨
    ∃ snapshot ∈ carried, ∃ event ∈ snapshot.replayed, event.webhookEvent? = some e

namespace Imports

variable {carried : Option SessionSnapshot} {s s' s'' : Services}

theorem forgotten (forgets : Forgets s s') : Imports carried s s' where
  keyed keyed := by
    rw [keyed_iff] at *
    intro o x stored
    exact keyed o x (forgets.sessions o x stored)
  vested _ vested := by
    intro o x stored
    rw [forgets.mandates]
    exact vested o x (forgets.sessions o x stored)
  mandates c has := by rwa [forgets.mandates]
  draws := forgets.draws
  audit := ⟨[], by simp [forgets.audit]⟩
  kept e has := by rwa [forgets.dedup]
  marked e has := .inl (by rwa [← forgets.dedup])

theorem refl (s : Services) : Imports carried s s := forgotten (.refl s)

theorem trans (h : Imports carried s s') (h' : Imports carried s' s'') : Imports carried s s'' where
  keyed keyed := h'.keyed (h.keyed keyed)
  vested mandated vested := h'.vested mandated (h.vested mandated vested)
  mandates c has := h'.mandates c (h.mandates c has)
  draws := h'.draws.trans h.draws
  audit := by
    obtain ⟨fresh, audit, replayed⟩ := h.audit
    obtain ⟨fresh', audit', replayed'⟩ := h'.audit
    refine ⟨fresh ++ fresh', by rw [audit', audit, List.append_assoc], fun event mem => ?_⟩
    rcases List.mem_append.mp mem with mem | mem
    · exact replayed event mem
    · exact replayed' event mem
  kept e has := h'.kept e (h.kept e has)
  marked e has := by
    rcases h'.marked e has with has | marks
    · exact h.marked e has
    · exact .inr marks

/-- The session, the record and the mandate of the snapshot are taken over. -/
theorem adopt {snapshot : SessionSnapshot} (carries : carried = some snapshot) :
    Imports carried s (s.adopt snapshot) where
  keyed keyed := by
    rw [keyed_iff] at *
    intro o x stored
    by_cases same : o = snapshot.session.logicalOrderId
    · subst same
      obtain rfl := Option.some.inj ((OrderedMap.get?_set_self _ _ _).symm.trans stored)
      rfl
    · exact keyed o x (by simpa only [Services.adopt, OrderedMap.get?_set, if_neg same] using stored)
  vested mandated vested := by
    have has := mandated snapshot carries
    obtain ⟨mandate, given⟩ := Option.isSome_iff_exists.mp has
    intro o x stored
    by_cases customer : x.customerId = snapshot.session.customerId
    · simp [Services.adopt, given, customer]
    · simp only [Services.adopt, given, OrderedMap.get?_set_of_ne _ customer]
      by_cases same : o = snapshot.session.logicalOrderId
      · subst same
        obtain rfl := Option.some.inj ((OrderedMap.get?_set_self _ _ _).symm.trans stored)
        exact absurd rfl customer
      · exact vested o x (by simpa only [Services.adopt, OrderedMap.get?_set, if_neg same] using stored)
  mandates c has := by
    unfold Services.adopt
    cases snapshot.mandate with
    | none => exact has
    | some mandate =>
        by_cases customer : c = snapshot.session.customerId
        · simp [customer]
        · simpa [OrderedMap.get?_set_of_ne _ customer] using has
  draws := rfl
  audit := ⟨[], by simp [Services.adopt]⟩
  kept _ := id
  marked _ := .inl

end Imports

section Importing

variable {carried : Option SessionSnapshot} {snapshot : SessionSnapshot}

theorem importing_yield : Within (Imports carried) (ask .yield) :=
  .bind (Within.call .refl _) fun _ =>
    .bind (.modify (fun _ _ _ => .trans) fun _ => .forgotten ⟨fun _ _ => id, rfl, rfl, rfl, rfl⟩)
      fun _ => .pure _

theorem importing_importEvent {event : AuditEvent} (carries : carried = some snapshot)
    (replays : event ∈ snapshot.replayed) : Within (Imports carried) (importEvent event) := by
  have appends : Within (Imports carried) (Proc.modify (fun s : Services =>
      { s with audit := s.audit ++ [event] }) : Svc Unit) := by
    refine .modify (fun _ _ _ => .trans) fun s => ?_
    refine { Imports.refl s with audit := ⟨[event], rfl, fun e mem => ?_⟩, keyed := id, vested := fun _ => id }
    exact ⟨snapshot, carries, (List.mem_singleton.mp mem) ▸ replays⟩
  have marks : Within (Imports carried) (replayWebhook event) := by
    unfold replayWebhook
    split
    · exact .pure ()
    · rename_i eventId names
      refine .bind .read fun _ => .ite (.modify (fun _ _ _ => .trans) fun s => ?_) (.pure ())
      refine { Imports.refl s with
        keyed := id, vested := fun _ => id, kept := fun _ has => OrderedMap.has_set.mpr (.inr has),
        marked := fun e has => ?_ }
      rcases OrderedMap.has_set.mp has with rfl | has
      · exact .inr ⟨snapshot, carries, event, replays, names⟩
      · exact .inl has
  refine .bind .read fun _ => .bind importing_yield fun _ => .ite ?_ marks
  exact .bind appends fun _ => .bind importing_yield fun _ => marks

theorem importing_importAudit (carries : carried = some snapshot) {events : List AuditEvent}
    (among : ∀ event ∈ events, event ∈ snapshot.audit) :
    Within (Imports carried) (importAudit snapshot.session.logicalOrderId events) := by
  induction events with
  | nil => exact .pure ()
  | cons event rest ih =>
      have rest := ih fun event mem => among event (List.mem_cons_of_mem _ mem)
      by_cases own : event.logicalOrderId = snapshot.session.logicalOrderId
      · have replays : event ∈ snapshot.replayed :=
          List.mem_filter.mpr ⟨among event List.mem_cons_self, by simpa using own⟩
        simp only [importAudit, own, if_true]
        exact .bind (importing_importEvent carries replays) fun _ => rest
      · simp only [importAudit, own, if_false]
        exact .bind (.pure ()) fun _ => rest

/-- What an import may do. -/
theorem importing_importSession (cfg : Config) (codec : SnapshotCodec) (token : String)
    (expectedOrderId : Option String) :
    Within (Imports (codec.carried cfg.platform cfg.signingSecret token))
      (importSession cfg codec token expectedOrderId) := by
  refine .bind (.bind .read fun _ => .pure _) fun time => ?_
  cases opens : codec.openSnapshot cfg.platform cfg.signingSecret token (isoString time) with
  | none => exact .pure _
  | some snapshot =>
  have carries := carried_of_open opens
  dsimp only
  cases snapshot.refusal? cfg expectedOrderId with
  | some message => exact .pure _
  | none =>
  refine .bind (.modify (fun _ _ _ => .trans) fun _ => .adopt carries) fun _ => ?_
  refine .bind (importing_importAudit carries fun _ => id) fun _ => ?_
  exact .bind (.modify (fun _ _ _ => .trans) fun _ => .forgotten forgets_pruneSessionCache) fun _ => .pure _

end Importing

/-! ### Instances -/

/-- Instances under one signing secret, each with the operations it is asked for. -/
structure Fleet (κ ι : Type) where
  config : κ → Config
  codec : SnapshotCodec
  operation : κ → ι → Operation

/-- The operations of an instance, where they stand. -/
abbrev Instance (ι : Type) := Pool ι Services ServiceError Query.Answer OperationReply

/-- Between two turns time passes, and the sessions may be any under their own ids, of customers who
have a mandate. -/
structure Drifts (s s' : Services) : Prop where
  keyed : Keyed s → Keyed s'
  vested : Vested s → Vested s'
  rest : ∃ sessions clock, s' = { s with sessions, clock }

/-- An operation of an instance acted, up to its next await. -/
structure Stretch (κ ι : Type) where
  instance_ : κ
  task : ι
  before : Instance ι
  after : Instance ι

namespace Fleet

variable {κ ι : Type} (F : Fleet κ ι)

def prog (k : κ) (i : ι) : Svc OperationReply := (F.operation k i).op (F.config k) F.codec

/-- Every answer is possible. -/
def anyAnswer (q : Query) (_ : q.Answer) (_ : Services) : Prop := True

/-- What a turn of an operation may lead to. -/
def Turns (k : κ) (i : ι) (s s' : Services) : Prop :=
  match F.operation k i with
  | .command command => Evolves (F.config k) (fun _ => command.Marks) s s'
  | .exportSession _ => Evolves (F.config k) (fun _ => False) s s'
  | .importSession token _ =>
      Imports (F.codec.carried (F.config k).platform (F.config k).signingSecret token) s s'

theorem turns (k : κ) (i : ι) : Within (F.Turns k i) (F.prog k i) := by
  unfold Turns prog
  cases F.operation k i with
  | command command => exact Evolving.bind (evolving_op fun marks _ => marks) fun _ => .pure _
  | exportSession o =>
      refine Evolving.bind .read fun s => ?_
      cases s.snapshot? o with
      | none => exact .pure _
      | some snapshot => exact .bind (.ask _) fun _ => .pure _
  | importSession token expected => exact importing_importSession _ _ token expected

theorem turns_refl (k : κ) (i : ι) (s : Services) : F.Turns k i s s := by
  unfold Turns
  cases F.operation k i with
  | command command => exact .refl s
  | exportSession o => exact .refl s
  | importSession token expected => exact .refl s

theorem turns_segments (k : κ) (i : ι) (s : Services) :
    (F.prog k i).Segments (F.Turns k i) (fun _ => F.Turns k i) s s :=
  F.turns k i s s (F.turns_refl k i s)

variable {F}

theorem Turns.keyed {k : κ} {i : ι} {s s' : Services} (turns : F.Turns k i s s') (keyed : Keyed s) :
    Keyed s' := by
  unfold Turns at turns
  cases op : F.operation k i <;> rw [op] at turns <;> exact turns.keyed keyed

theorem Turns.kept {k : κ} {i : ι} {s s' : Services} (turns : F.Turns k i s s') {e : String}
    (has : s.webhookDedup.has e) : s'.webhookDedup.has e := by
  unfold Turns at turns
  cases op : F.operation k i <;> rw [op] at turns <;> exact turns.kept e has

section Runs

variable [DecidableEq κ] [DecidableEq ι] (F)

/-- A run of the instances from no sessions: the turns that were taken, each where `ok` allows it, and
where it leads. -/
inductive Run (ok : List (Stretch κ ι) → Stretch κ ι → Prop) :
    List (Stretch κ ι) → (κ → Instance ι) → Prop where
  | start (clock : κ → Int) : Run ok [] fun k => .init { clock := clock k }
  | turn {history : List (Stretch κ ι)} {pools : κ → Instance ι} {k : κ} {i : ι} {pool : Instance ι}
      (before : Run ok history pools)
      (turn : Coop.Turn (F.prog k) anyAnswer (pools k) i pool)
      (allowed : ok history ⟨k, i, pools k, pool⟩) :
      Run ok (history ++ [⟨k, i, pools k, pool⟩]) (Function.update pools k pool)
  | drift {history : List (Stretch κ ι)} {pools : κ → Instance ι} {k : κ} {s : Services}
      (before : Run ok history pools) (drifts : Drifts (pools k).state s) :
      Run ok history (Function.update pools k { pools k with state := s })

variable {F} {ok : List (Stretch κ ι) → Stretch κ ι → Prop} {history : List (Stretch κ ι)}
  {pools : κ → Instance ι}

section Within

variable {rel : κ → ι → Services → Services → Prop}

/-- Wherever a run leads, every operation that waits keeps its relation. -/
theorem Run.keeps (each : ∀ k i s, (F.prog k i).Segments (rel k i) (fun _ => rel k i) s s)
    (run : F.Run ok history pools) : ∀ k i, ((pools k).phase i).Keeps (rel k i) := by
  induction run with
  | start clock => exact fun _ _ => trivial
  | @turn history pools k i pool _ turn _ ih =>
      intro k'
      by_cases same : k' = k
      · subst same
        rw [Function.update_self]
        exact (turn.within (each k') (ih k')).2
      · rw [Function.update_of_ne same]
        exact ih k'
  | @drift history pools k s _ _ ih =>
      intro k'
      by_cases same : k' = k
      · subst same
        rw [Function.update_self]
        exact ih k'
      · rw [Function.update_of_ne same]
        exact ih k'

/-- What holds at the start, and is kept by every turn within its relation and by every drift, holds
wherever a run leads. -/
theorem Run.invariant (each : ∀ k i s, (F.prog k i).Segments (rel k i) (fun _ => rel k i) s s)
    (inv : List (Stretch κ ι) → (κ → Services) → Prop)
    (start : ∀ clock : κ → Int, inv [] fun k => { clock := clock k })
    (turn : ∀ history S t, inv history S → S t.instance_ = t.before.state → ok history t →
      rel t.instance_ t.task t.before.state t.after.state →
      inv (history ++ [t]) (Function.update S t.instance_ t.after.state))
    (drift : ∀ history S k s, inv history S → Drifts (S k) s → inv history (Function.update S k s))
    (run : F.Run ok history pools) : inv history fun k => (pools k).state := by
  have moved : ∀ (pools : κ → Instance ι) k (pool : Instance ι),
      (fun k' => (Function.update pools k pool k').state) =
        Function.update (fun k' => (pools k').state) k pool.state := by
    intro pools k pool
    funext k'
    by_cases same : k' = k
    · subst same
      simp
    · simp [Function.update_of_ne same]
  induction run with
  | start clock => exact start clock
  | @turn history pools k i pool before act allowed ih =>
      rw [moved]
      exact turn history _ ⟨k, i, pools k, pool⟩ ih rfl allowed
        (act.within (each k) (before.keeps each k)).1
  | @drift history pools k s before drifts ih =>
      rw [moved]
      exact drift history _ k s ih drifts

/-- What holds of an instance at the start, and is kept by every turn and by every drift, holds of every
instance. -/
theorem Run.every (each : ∀ k i s, (F.prog k i).Segments (rel k i) (fun _ => rel k i) s s)
    (p : Services → Prop) (start : ∀ clock, p { clock })
    (turn : ∀ k i s s', p s → rel k i s s' → p s') (drift : ∀ s s', p s → Drifts s s' → p s')
    (run : F.Run ok history pools) (k : κ) : p (pools k).state := by
  refine run.invariant each (fun _ S => ∀ k, p (S k)) (fun _ _ => start _) ?_ ?_ k
  · intro history S t holds here _ turns k
    by_cases same : k = t.instance_
    · subst same
      rw [Function.update_self]
      exact turn _ _ _ _ (here ▸ holds _) turns
    · rw [Function.update_of_ne same]
      exact holds k
  · intro history S k s holds drifts k'
    by_cases same : k' = k
    · subst same
      rw [Function.update_self]
      exact drift _ _ (holds k') drifts
    · rw [Function.update_of_ne same]
      exact holds k'

end Within

theorem Run.keyed (run : F.Run ok history pools) (k : κ) : Keyed (pools k).state := by
  refine run.every F.turns_segments Keyed ?_ (fun _ _ _ _ keyed turns => turns.keyed keyed)
    (fun _ _ keyed drifts => drifts.keyed keyed) k
  rintro clock o x ⟨⟩

/-- An operation that nobody disturbs runs to completion. -/
theorem Run.call {k : κ} {i : ι} (answer : (q : Query) → q.Answer) (time : Int)
    (run : F.Run ok history pools) (idle : (pools k).phase i = .idle)
    (allowed : ∀ history t, t.instance_ = k → t.task = i → ok history t) :
    ∃ later, F.Run ok (history ++ later) (Function.update pools k
      ⟨((F.prog k i).run answer { (pools k).state with clock := time }).final,
        Function.update (pools k).phase i
          (.done ((F.prog k i).run answer { (pools k).state with clock := time }).result)⟩) ∧
      ∀ t ∈ later, t.instance_ = k ∧ t.task = i := by
  have ticked := Run.drift (k := k) (s := { (pools k).state with clock := time }) run
    ⟨id, id, _, _, rfl⟩
  generalize atClock : Function.update pools k
    { pools k with state := { (pools k).state with clock := time } } = pools₀ at ticked
  have here : pools₀ k = ⟨{ (pools k).state with clock := time }, (pools k).phase⟩ := by
    rw [← atClock, Function.update_self]
  have others : ∀ pool, Function.update pools₀ k pool = Function.update pools k pool := by
    intro pool
    rw [← atClock, Function.update_idem]
  have turns : Relation.ReflTransGen (fun pool pool' => Coop.Turn (F.prog k) anyAnswer pool i pool') _ _ :=
    Pool.turns_run answer (fun _ _ => trivial) (F.prog k i) (pools₀ k)
  have first := Run.turn ticked (.start (by rw [here]; exact idle)) (allowed _ _ rfl rfl)
  have continued : ∀ pool pool' : Instance ι,
      Relation.ReflTransGen (fun pool pool' => Coop.Turn (F.prog k) anyAnswer pool i pool') pool pool' →
      (∃ later, F.Run ok (history ++ later) (Function.update pools₀ k pool) ∧
        ∀ t ∈ later, t.instance_ = k ∧ t.task = i) →
      ∃ later, F.Run ok (history ++ later) (Function.update pools₀ k pool') ∧
        ∀ t ∈ later, t.instance_ = k ∧ t.task = i := by
    intro pool pool' turns start
    induction turns with
    | refl => exact start
    | tail _ turn ih =>
        obtain ⟨later, before, own⟩ := ih
        have next := before.turn (k := k) (i := i) (by rw [Function.update_self]; exact turn)
          (allowed _ _ rfl rfl)
        rw [List.append_assoc, Function.update_idem] at next
        refine ⟨_, next, fun t mem => ?_⟩
        rcases List.mem_append.mp mem with mem | mem
        · exact own t mem
        · rw [List.mem_singleton.mp mem]
          exact ⟨rfl, rfl⟩
  have final := continued _ _ turns ⟨_, first, by simp⟩
  rw [here] at final
  simpa only [others] using final

/-- The services after operations that run one after the other, obligingly answered. -/
def after (F : Fleet κ ι) (k : κ) (s : Services) (tasks : List ι) : Services :=
  tasks.foldl (fun s i => ((F.prog k i).run (obliging 0) { s with clock := 0 }).final) s

/-- Operations that run one after the other are a run. -/
theorem Run.calls {k : κ} {tasks : List ι} (run : F.Run ok history pools) (distinct : tasks.Nodup)
    (idle : ∀ i ∈ tasks, (pools k).phase i = .idle)
    (allowed : ∀ history t, t.instance_ = k → t.task ∈ tasks → ok history t) :
    ∃ later pools', F.Run ok (history ++ later) pools' ∧
      (pools' k).state = F.after k (pools k).state tasks ∧ (∀ k' ≠ k, pools' k' = pools k') ∧
      (∀ i ∉ tasks, (pools' k).phase i = (pools k).phase i) ∧
      ∀ t ∈ later, t.instance_ = k ∧ t.task ∈ tasks := by
  induction tasks generalizing history pools with
  | nil => exact ⟨[], pools, by simpa using run, rfl, fun _ _ => rfl, fun _ _ => rfl, by simp⟩
  | cons i rest ih =>
      obtain ⟨new, distinct⟩ := List.nodup_cons.mp distinct
      obtain ⟨later, called, own⟩ := run.call (obliging 0) 0 (idle i List.mem_cons_self)
        fun history t at_ same => allowed history t at_ (same ▸ List.mem_cons_self)
      obtain ⟨later', pools', run', state, others, phases, own'⟩ := ih called distinct
        (fun j mem => by
          have different : j ≠ i := by
            rintro rfl
            exact new mem
          rw [Function.update_self]
          exact (Function.update_of_ne different _ _).trans (idle j (List.mem_cons_of_mem _ mem)))
        (fun history t at_ mem => allowed history t at_ (List.mem_cons_of_mem _ mem))
      refine ⟨later ++ later', pools', by rwa [← List.append_assoc], ?_, ?_, ?_, ?_⟩
      · rw [state, Function.update_self]
        rfl
      · intro k' other
        rw [others k' other, Function.update_of_ne other]
      · intro j free
        rw [List.mem_cons, not_or] at free
        rw [phases j free.2, Function.update_self]
        exact Function.update_of_ne free.1 _ _
      · intro t mem
        rcases List.mem_append.mp mem with mem | mem
        · obtain ⟨at_, same⟩ := own t mem
          exact ⟨at_, same ▸ List.mem_cons_self⟩
        · obtain ⟨at_, mem⟩ := own' t mem
          exact ⟨at_, List.mem_cons_of_mem _ mem⟩

/-- Operations that run one after the other from no sessions, and a turn of another. -/
theorem Run.script {k : κ} {i : ι} {tasks : List ι} (distinct : tasks.Nodup) (last : i ∉ tasks)
    (allowed : ∀ history t, t.instance_ = k → t.task ∈ tasks → ok history t)
    (next : ∀ history t, t.instance_ = k → t.task = i →
      t.before.state = F.after k { clock := 0 } tasks → ok history t) :
    ∃ history pools t, F.Run ok (history ++ [t]) pools ∧ t.instance_ = k ∧ t.task = i ∧
      t.before.state = F.after k { clock := 0 } tasks ∧
      t.after.state = ((F.prog k i).segment (F.after k { clock := 0 } tasks)).1 ∧
      pools k = t.after ∧ (∀ k' ≠ k, pools k' = .init { clock := 0 }) ∧
      ∀ t ∈ history, t.instance_ = k ∧ t.task ∈ tasks := by
  have start : F.Run ok [] fun _ => .init { clock := 0 } := .start fun _ => 0
  obtain ⟨history, pools, run, state, others, phases, own⟩ :=
    start.calls (k := k) distinct (fun _ _ => rfl) allowed
  have idle : (pools k).phase i = .idle := phases i last
  refine ⟨_, _, ⟨k, i, pools k, (pools k).advance i (F.prog k i)⟩,
    run.turn (.start idle) (next _ _ rfl rfl state), rfl, rfl, state, ?_, ?_, ?_, own⟩
  · exact congrArg (fun s => ((F.prog k i).segment s).1) state
  · exact Function.update_self _ _ _
  · intro k' other
    exact (Function.update_of_ne other _ _).trans (others k' other)

end Runs

end Fleet

end AgentReady
