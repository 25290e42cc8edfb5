import AgentReady.Settlement.Guard
import AgentReady.Settlement.Table

/-!
The life of an attempt under arbitrary SQL.

A run is any sequence of INSERTs and UPDATEs of single rows by the two restricted roles that
the database accepts; a statement that writes several rows is accepted where each of its
rows is. The times of the statements are arbitrary.

* `lifecycle_enforced`: a row keeps its identity, a resolved row stays as it is, a row is
  released as it should be, and a lease that has not run out is kept.
* `evidence_enforced`: a settled row has its evidence and an awaiting row its transaction, in
  runs that do not settle a row with a NULL evidence and do not change the transaction of an
  awaiting row in place.
-/

namespace AgentReady.Settlement

open Sql

/-- A write of one row, and the row it replaces. -/
structure Change where
  role : Role
  now : Timestamp
  before : Option Attempt
  after : Attempt

/-- An INSERT or an UPDATE of one row by a restricted role, which the database accepts. -/
inductive Accepts (table : Table) : Change → Table → Prop where
  | insert {table' : Table} {role : Role} {now : Timestamp} {new : Attempt}
      (restricted : role ≠ .other) (accepted : write role now table none new = .ok table') :
      Accepts table ⟨role, now, none, new⟩ table'
  | update {table' : Table} {role : Role} {now : Timestamp} {old new : Attempt}
      (restricted : role ≠ .other) (stored : table.get? old.operationId = some old)
      (accepted : write role now table (some old) new = .ok table') :
      Accepts table ⟨role, now, some old, new⟩ table'

/-- A run of writes that are each allowed, with the writes made. -/
inductive SqlRun (ok : Change → Prop) (start : Table) : List Change → Table → Prop where
  | nil : SqlRun ok start [] start
  | step {history : List Change} {table table' : Table} {change : Change}
      (before : SqlRun ok start history table) (accepts : Accepts table change table')
      (allowed : ok change) : SqlRun ok start (history ++ [change]) table'

section Accepted

variable {table table' : Table} {change : Change} {id : String}

theorem Accepts.guarded (h : Accepts table change table') :
    Guarded change.role change.now change.before change.after := by
  cases h with
  | insert restricted accepted =>
      exact (enforceRoleState_ok restricted).mp (write_ok.mp accepted).2.1
  | update restricted _ accepted =>
      exact (enforceRoleState_ok restricted).mp (write_ok.mp accepted).2.1

theorem Accepts.stored {old : Attempt} (h : Accepts table change table')
    (before : change.before = some old) : table.get? old.operationId = some old := by
  cases h with
  | insert => cases before
  | update _ stored =>
      obtain rfl := Option.some.inj before
      exact stored

theorem Guarded.identity {role : Role} {now : Timestamp} {old new : Attempt}
    (h : Guarded role now (some old) new) : old.Identity new := by
  cases h with
  | release identity | takeover identity | stage identity | renew identity | claim identity
  | advance identity => exact identity

/-- The row written is stored, and every other row stays. -/
theorem Accepts.get? (h : Accepts table change table') (id : String) :
    table'.get? id = if id = change.after.operationId then some change.after else table.get? id := by
  have guarded := h.guarded
  cases h with
  | insert _ accepted => exact get?_insert accepted id
  | update _ _ accepted =>
      rw [get?_update accepted guarded.identity.operationId id, guarded.identity.operationId]

/-- What was stored is either replaced by the write, or stays. -/
theorem Accepts.cases {a : Attempt} (h : Accepts table change table') (stored : table.get? id = some a) :
    (change.before = some a ∧ id = change.after.operationId) ∨
      (table'.get? id = some a ∧ id ≠ change.after.operationId) := by
  have guarded := h.guarded
  have after := h.get? id
  by_cases same : id = change.after.operationId
  · refine .inl ⟨?_, same⟩
    cases h with
    | insert _ accepted =>
        obtain ⟨-, -, -, fits, -⟩ := write_ok.mp accepted
        exact absurd ⟨trivial, trivial, (table.keyed id a stored).trans same⟩
          (fits id a stored nofun .pkey)
    | update _ stored' _ =>
        rw [same, guarded.identity.operationId, stored'] at stored
        rw [Option.some.inj stored]
  · rw [if_neg same] at after
    exact .inr ⟨after.trans stored, same⟩

/-- What is stored after a write was written by it, or was stored before. -/
theorem Accepts.cases_after {a : Attempt} (h : Accepts table change table')
    (stored : table'.get? id = some a) : a = change.after ∨ table.get? id = some a := by
  rw [h.get? id] at stored
  split at stored
  · exact .inl (Option.some.inj stored).symm
  · exact .inr stored

theorem Accepts.valid (h : Accepts table change table') : Valid change.after :=
  table'.valid _ _ ((h.get? change.after.operationId).trans (if_pos rfl))

end Accepted

/-! ### The life of a row -/

/-- What the guard promises of a write. -/
structure Lawful (change : Change) : Prop where
  identity : ∀ old, change.before = some old → old.Identity change.after
  /-- A resolved row is not written. -/
  unresolved : ∀ old, change.before = some old → old.status ∉ terminalResolved
  release : change.after.status = .released → change.role = .operator ∧
    (∃ old, change.before = some old ∧ old.status = .manual) ∧
    change.after.releasedToApproval ≠ none ∧ change.after.releasedBy ≠ none ∧
    ∃ value, change.after.releaseEvidenceJson = some value ∧ jsonbTypeof value = "object"
  lease : ∀ old, change.before = some old → old.status ∈ leasedStatuses → ¬ old.Lapsed change.now →
    old.SameLease change.after

section Lawful

variable {table table' : Table} {change : Change} {role : Role} {now : Timestamp} {old new : Attempt}

theorem held_unresolved {status : AttemptStatus} (held : status ∈ leasedStatuses) :
    status ∉ terminalResolved := by
  revert held
  cases status <;> decide

theorem Guarded.unresolved (h : Guarded role now (some old) new) : old.status ∉ terminalResolved := by
  cases h with
  | release _ _ _ manual => rw [manual]; decide
  | takeover _ _ held | renew _ _ held | advance _ _ held => exact held_unresolved held
  | stage _ _ pending | claim _ pending => rw [pending]; decide

/-- A row whose lease runs keeps its owner and its fence. -/
theorem Guarded.sameLease (h : Guarded role now (some old) new) (held : old.status ∈ leasedStatuses)
    (runs : ¬ old.Lapsed now) : old.SameLease new := by
  cases h with
  | release _ _ _ manual =>
      rw [manual] at held
      exact absurd held (by decide)
  | takeover _ _ _ lapsed => exact absurd lapsed runs
  | stage _ _ pending | claim _ pending =>
      rw [pending] at held
      exact absurd held (by decide)
  | renew _ _ _ _ kept | advance _ _ _ _ _ kept => exact kept

/-- Only a manual row becomes a released one. -/
theorem Guarded.released {before : Option Attempt} (h : Guarded role now before new)
    (released : new.status = .released) : role = .operator ∧
      (∃ old, before = some old ∧ old.status = .manual) ∧ new.releasedToApproval ≠ none ∧
      new.releasedBy ≠ none ∧ new.releaseEvidenceJson ≠ none := by
  cases h with
  | insert clean => cases clean.pending.symm.trans released
  | release _ _ operator manual approval releaser evidence =>
      exact ⟨operator, ⟨_, rfl, manual⟩, approval, releaser, evidence⟩
  | takeover _ same held | renew _ same held =>
      exact absurd (same.symm.trans released) (not_released_of_held held)
  | stage _ same pending => cases pending.symm.trans (same.symm.trans released)
  | claim _ _ settling => cases settling.symm.trans released
  | advance _ _ _ next =>
      rw [released] at next
      exact absurd next (by decide)

/-- An evidence of release that is not NULL is an object. -/
theorem Valid.releaseEvidence (valid : Valid new) (released : new.status = .released)
    (evidence : new.releaseEvidenceJson ≠ none) :
    ∃ value, new.releaseEvidenceJson = some value ∧ jsonbTypeof value = "object" := by
  have passes := valid (_, _) (List.mem_of_getLast? (l := checks new) rfl)
  simp only [released, isObject, Truth.passes_or, Truth.passes_and, passes_is, passes_test,
    passes_isNotNull, ne_eq, not_true_eq_false, false_or] at passes
  obtain ⟨value, some_⟩ := Option.ne_none_iff_exists'.mp evidence
  exact ⟨value, some_, passes.2.2 value some_⟩

theorem Accepts.lawful (h : Accepts table change table') : Lawful change := by
  have guarded := h.guarded
  refine ⟨fun old before => ?_, fun old before => ?_, fun released => ?_, fun old before => ?_⟩
  · rw [before] at guarded
    exact guarded.identity
  · rw [before] at guarded
    exact guarded.unresolved
  · obtain ⟨operator, manual, approval, releaser, evidence⟩ := guarded.released released
    exact ⟨operator, manual, approval, releaser, h.valid.releaseEvidence released evidence⟩
  · rw [before] at guarded
    exact guarded.sameLease

/-- In every run the guard keeps the life of an attempt: each write is lawful, a row keeps its
identity, and a resolved row stays as it is. -/
theorem lifecycle_enforced {history : List Change}
    (run : SqlRun (fun _ => True) table history table') :
    (∀ change ∈ history, Lawful change) ∧ ∀ id a, table.get? id = some a →
      ∃ b, table'.get? id = some b ∧ a.Identity b ∧ (a.status ∈ terminalResolved → b = a) := by
  induction run with
  | nil => exact ⟨by simp, fun id a stored => ⟨a, stored, .refl a, fun _ => rfl⟩⟩
  | @step history table₁ table₂ change _ accepts _ ih =>
      obtain ⟨lawful, keeps⟩ := ih
      refine ⟨fun c mem => ?_, fun id a stored => ?_⟩
      · rcases List.mem_append.mp mem with mem | mem
        · exact lawful c mem
        · rw [List.mem_singleton.mp mem]
          exact accepts.lawful
      · obtain ⟨b, stored₁, identity, resolved⟩ := keeps id a stored
        rcases accepts.cases stored₁ with ⟨before, rfl⟩ | ⟨stays, -⟩
        · have lawful := accepts.lawful
          refine ⟨change.after, (accepts.get? _).trans (if_pos rfl), identity.trans (lawful.identity b before), ?_⟩
          intro terminal
          obtain rfl := resolved terminal
          exact absurd terminal (lawful.unresolved b before)
        · exact ⟨b, stays, identity, resolved⟩

end Lawful

/-! ### A run that settles an attempt -/

/-- The change made where the database accepts it. -/
def Change.replay? (table : Table) (change : Change) : Option Table :=
  if change.role ≠ .other ∧ (change.before.bind fun old => table.get? old.operationId) = change.before
  then (write change.role change.now table change.before change.after).toOption
  else none

theorem accepts_of_replay {table table' : Table} {change : Change}
    (h : change.replay? table = some table') : Accepts table change table' := by
  unfold Change.replay? at h
  split at h
  · rename_i possible
    obtain ⟨restricted, stored⟩ := possible
    obtain ⟨role, now, before, after⟩ := change
    have accepted : write role now table before after = .ok table' := by
      revert h
      cases write role now table before after <;> simp [Except.toOption]
    cases before with
    | none => exact .insert restricted accepted
    | some old => exact .update restricted stored accepted
  · cases h

theorem SqlRun.replay {ok : Change → Prop} {start table table' : Table} {history changes : List Change}
    (run : SqlRun ok start history table)
    (replayed : changes.foldlM Change.replay? table = some table')
    (allowed : ∀ change ∈ changes, ok change) : SqlRun ok start (history ++ changes) table' := by
  induction changes generalizing history table with
  | nil =>
      cases replayed
      simpa using run
  | cons change rest ih =>
      rw [List.foldlM_cons] at replayed
      obtain ⟨table₁, first, others⟩ := Option.bind_eq_some_iff.mp replayed
      have step := run.step (accepts_of_replay first) (allowed change List.mem_cons_self)
      have whole := ih step others fun c mem => allowed c (List.mem_cons_of_mem _ mem)
      simpa using whole

/-- A pending attempt. -/
def stagedAttempt : Attempt where
  operationId := "op_0"
  logicalOrderId := "ord_0"
  intentVersion := 1
  requestDigest := "0000000000000000000000000000000000000000000000000000000000000000"
  resource := "/api/resources/premium-fit-score"
  authRevision := "sauth_0"
  callerPaymentId := "pay_0"
  createdAt := 0
  updatedAt := 0

/-- A worker holds it. -/
def heldAttempt : Attempt :=
  { stagedAttempt with
    status := .settling, leaseOwner := some "worker", fenceToken := some "fence"
    leaseExpiresAt := some (10 : Int) }

/-- It is settled, and its evidence is NULL. -/
def bareAttempt : Attempt := { heldAttempt with status := .settled, txHash := some "tx" }

/-- It is settled with an evidence. -/
def settledAttempt : Attempt := { bareAttempt with evidenceJson := some (.obj []) }

/-- The attempt inserted, claimed and settled. -/
def settling (last : Attempt) : List Change :=
  [⟨.app, 0, none, stagedAttempt⟩, ⟨.app, 0, some stagedAttempt, heldAttempt⟩,
    ⟨.app, 0, some heldAttempt, last⟩]

theorem settles (ok : Change → Prop) (allowed : ∀ change ∈ settling settledAttempt, ok change) :
    ∃ table, SqlRun ok Table.empty (settling settledAttempt) table := by
  have replayed : ((settling settledAttempt).foldlM Change.replay? Table.empty).isSome := by
    decide +kernel
  obtain ⟨table, done⟩ := Option.isSome_iff_exists.mp replayed
  exact ⟨table, SqlRun.nil.replay done allowed⟩

theorem lifecycle_enforced_settled : ∃ table,
    SqlRun (fun _ => True) Table.empty (settling settledAttempt) table ∧
      ∀ change ∈ settling settledAttempt, Lawful change := by
  obtain ⟨table, run⟩ := settles (fun _ => True) fun _ _ => trivial
  exact ⟨table, run, (lifecycle_enforced run).1⟩

/-! ### Evidence -/

/-- A settled row has a transaction and an evidence that is an object; an awaiting row has a
transaction. -/
structure Evidenced (a : Attempt) : Prop where
  settled : a.status = .settled → a.txHash ≠ none ∧
    ∃ value, a.evidenceJson = some value ∧ jsonbTypeof value = "object"
  awaiting : a.status = .awaitingEvidence → a.txHash ≠ none

/-- The write keeps the transaction of a row that stays awaiting. -/
def KeepsTransaction (change : Change) : Prop :=
  ∀ old, change.before = some old → old.status = .awaitingEvidence →
    change.after.status = .awaitingEvidence → ∀ hash, old.txHash = some hash →
      change.after.txHash = some hash

/-- The write does not settle a row with a NULL evidence, and does not set the transaction of a
row whose status it leaves at awaiting. -/
def Attested (change : Change) : Prop :=
  (change.after.status = .settled → change.after.evidenceJson ≠ none) ∧
    ∀ old, change.before = some old → old.status = .awaitingEvidence →
      change.after.status = old.status → change.after.txHash = old.txHash

section Evidence

variable {table table' : Table} {change : Change} {role : Role} {now : Timestamp} {new : Attempt}

theorem Guarded.evidenced {before : Option Attempt} (h : Guarded role now before new)
    (attested : Attested ⟨role, now, before, new⟩) (start : ∀ old, before = some old → Evidenced old) :
    Evidenced new := by
  have other : new.status ≠ .settled → new.status ≠ .awaitingEvidence → Evidenced new :=
    fun unsettled unawaiting => ⟨fun h => absurd h unsettled, fun h => absurd h unawaiting⟩
  cases h with
  | insert clean => exact other (by rw [clean.pending]; decide) (by rw [clean.pending]; decide)
  | release _ released => exact other (by rw [released]; decide) (by rw [released]; decide)
  | stage _ same pending =>
      exact other (by rw [same, pending]; decide) (by rw [same, pending]; decide)
  | claim _ _ settling => exact other (by rw [settling]; decide) (by rw [settling]; decide)
  | @takeover old _ _ same held | @renew old _ _ same held =>
      refine ⟨fun settled => ?_, fun awaiting => ?_⟩
      · rw [same.symm.trans settled] at held
        exact absurd held (by decide)
      · have awaited := same.symm.trans awaiting
        rw [attested.2 old rfl awaited same]
        exact (start old rfl).awaiting awaited
  | advance _ _ _ _ _ _ carries =>
      refine ⟨fun settled => ?_, carries.awaiting⟩
      obtain ⟨transaction, object⟩ := carries.settled settled
      obtain ⟨value, some_⟩ := Option.ne_none_iff_exists'.mp (attested.1 settled)
      exact ⟨transaction, value, some_, object value some_⟩

/-- In a run of attested writes from an empty table, every row carries its evidence, and an
awaiting row keeps its transaction. -/
theorem evidence_enforced {history : List Change}
    (run : SqlRun Attested Table.empty history table) :
    (∀ id a, table.get? id = some a → Evidenced a) ∧
      ∀ change ∈ history, KeepsTransaction change := by
  induction run with
  | nil =>
      refine ⟨fun id a stored => ?_, by simp⟩
      rw [Table.get?, Table.empty, OrderedMap.get?_empty] at stored
      cases stored
  | @step history table₁ table₂ change _ accepts attested ih =>
      obtain ⟨evidenced, keeps⟩ := ih
      refine ⟨fun id a stored => ?_, fun c mem => ?_⟩
      · rcases accepts.cases_after stored with rfl | stored
        · exact accepts.guarded.evidenced attested fun old before =>
            evidenced _ old (accepts.stored before)
        · exact evidenced id a stored
      · rcases List.mem_append.mp mem with mem | mem
        · exact keeps c mem
        · rw [List.mem_singleton.mp mem]
          intro old before awaiting stays hash known
          rw [attested.2 old before awaiting (stays.trans awaiting.symm), known]

end Evidence

theorem evidence_enforced_settled :
    ∃ table, (∀ id a, Table.get? table id = some a → Evidenced a) ∧
      ∀ change ∈ settling settledAttempt, KeepsTransaction change := by
  obtain ⟨table, run⟩ := settles Attested fun change mem => by
    simp only [settling, List.mem_cons, List.not_mem_nil, or_false] at mem
    rcases mem with rfl | rfl | rfl
    · refine ⟨fun settled => absurd settled (by decide), fun old before => ?_⟩
      cases before
    · refine ⟨fun settled => absurd settled (by decide), fun old before awaiting => ?_⟩
      rw [← Option.some.inj before] at awaiting
      exact absurd awaiting (by decide)
    · refine ⟨fun _ => by decide, fun old before awaiting => ?_⟩
      rw [← Option.some.inj before] at awaiting
      exact absurd awaiting (by decide)
  exact ⟨table, evidence_enforced run⟩

/-- The database accepts a settled row with a NULL evidence. -/
theorem bare_accepted : ∃ table, SqlRun (fun _ => True) Table.empty (settling bareAttempt) table ∧
    table.get? "op_0" = some bareAttempt := by
  have replayed : ((settling bareAttempt).foldlM Change.replay? Table.empty).map (·.get? "op_0") =
      some (some bareAttempt) := by
    decide +kernel
  obtain ⟨table, done, stored⟩ := Option.map_eq_some_iff.mp replayed
  exact ⟨table, SqlRun.nil.replay done fun _ _ => trivial, stored⟩

theorem evidence_enforced_false : ¬ ∀ history table,
    SqlRun (fun _ => True) Table.empty history table →
    (∀ id a, table.get? id = some a → Evidenced a) ∧
      ∀ change ∈ history, KeepsTransaction change := by
  intro claim
  obtain ⟨table, run, stored⟩ := bare_accepted
  obtain ⟨-, value, evidence, -⟩ := ((claim _ table run).1 _ _ stored).settled rfl
  cases evidence

end AgentReady.Settlement
