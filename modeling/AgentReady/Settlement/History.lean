import Mathlib.Data.List.Chain
import AgentReady.Settlement.Fencing
import AgentReady.Settlement.Release

/-!
The reconciliation history (`packages/payments/migrations/006_x402_history_marker.sql`).

A change of status leaves a row in `x402_reconciliation_history`. Where a method of the store writes
that row itself, it does so in one transaction with the change, under a setting that the trigger of
the table looks at; otherwise the trigger writes it.

* `Session`: the table and its history, with the setting.
* `exec_table`, `resolveFrom_table`: but for the history, the methods are those of the table.
* `history_faithful`: in every run the history of an attempt is a path from `pending` to its status,
  with one row for each operation that made or changed it.
-/

namespace AgentReady.Settlement

open Sql

/-- A row of `x402_reconciliation_history`, but for its id and time: the rows are in their order. -/
structure HistoryRow where
  operationId : String
  from_ : AttemptStatus
  to_ : AttemptStatus
  trigger : String
  note : String
  leaseOwner : Option String
deriving DecidableEq

/-- The tables, as a connection sees them, with the setting `x402.store_history_recorded`. -/
structure Session where
  table : Table
  history : List HistoryRow
  storeHistoryRecorded : Option String := none

namespace Session

def empty : Session := ⟨.empty, [], none⟩

/-- `appendHistoryOn`. -/
def append (s : Session) (row : HistoryRow) : Session := { s with history := s.history ++ [row] }

/-- Trigger `x402_record_role_history`; nothing sets the texts it looks for. -/
def recordRoleHistory (s : Session) (old : Option Attempt) (new : Attempt) : Session :=
  if s.storeHistoryRecorded = some "true" then s
  else
    match old with
    | none => s.append ⟨new.operationId, .pending, new.status, "database-role-write",
        "state change recorded by database guard", new.leaseOwner⟩
    | some old =>
        if (isDistinct (some new.status) (some old.status)).Fires then
          s.append ⟨new.operationId, old.status, new.status, "database-role-write",
            "state change recorded by database guard", new.leaseOwner⟩
        else s

/-- A write of one row, with the trigger after it. -/
def write (role : Role) (now : Timestamp) (s : Session) (old : Option Attempt) (new : Attempt) :
    Except DbError Session := do
  let table ← Settlement.write role now s.table old new
  return { s with table }.recordRoleHistory old new

/-- What a transaction leaves: where it fails nothing, and its settings are gone. -/
def transaction {α : Type} (s : Session) (body : Session → Except DbError (α × Session)) :
    Except DbError (α × Session) := do
  let (a, after) ← body { s with storeHistoryRecorded := some "true" }
  return (a, { after with storeHistoryRecorded := s.storeHistoryRecorded })

def updateWhere (role : Role) (now : Int) (s : Session) (id : String) (condition : Attempt → Truth)
    (set : Attempt → Attempt) : Except DbError (Option Attempt × Session) :=
  match s.table.get? id with
  | some old =>
      if (condition old).Fires then do
        let s ← s.write role now (some old) (set old)
        return (some (set old), s)
      else return (none, s)
  | none => return (none, s)

def updateEach (role : Role) (now : Int) (set : Attempt → Attempt) :
    Session → List Attempt → Except DbError Session
  | s, [] => return s
  | s, old :: rest => do
      let s ← s.write role now (some old) (set old)
      updateEach role now set s rest

/-- The transaction of a transition: the status is read, and goes into the history with the change. -/
def transitionWhere (role : Role) (now : Int) (s : Session) (id : String) (from_ : List AttemptStatus)
    (to_ : AttemptStatus) (update : Update) (owner : Option String) (trigger note : String)
    (condition : Attempt → Truth) : Except DbError (Option Attempt × Session) :=
  s.transaction fun tx =>
    match tx.table.get? id with
    | none => return (none, tx)
    | some current =>
        if current.status ∉ from_ then return (none, tx)
        else do
          let (row, tx) ← tx.updateWhere role now id condition fun a => a.transitioned now to_ update
          match row with
          | none => return (none, tx)
          | some row => return (some row, tx.append ⟨id, current.status, to_, trigger, note, owner⟩)

def transition (role : Role) (now : Int) (s : Session) (id : String) (from_ : List AttemptStatus)
    (to_ : AttemptStatus) (update : Update) (owner fence : Option String) (trigger note : String) :
    Except DbError (Option Attempt × Session) :=
  match owner, fence with
  | none, none =>
      if from_ = [.pending] ∧ to_ = .pending then
        s.transitionWhere role now id from_ to_ update none trigger note
          fun a => is (a.status ∈ from_)
      else return (none, s)
  | some owner, some fence =>
      s.transitionWhere role now id from_ to_ update (some owner) trigger note
        fun a => (is (a.status ∈ from_)).and (a.presents now owner fence)
  | _, _ => return (none, s)

/-- A call of the store; a trigger and a note are what a transition is given. -/
def exec (role : Role) (now : Int) (fence : String) (s : Session) (trigger note : String) :
    Call → Except DbError (List Attempt × Session)
  | .claimForSettle id owner ttl sealedPayload payloadDigest => do
      let (row, s) ← s.updateWhere role now id (fun a => is (a.status = .pending))
        fun a => a.claimed now owner ttl fence sealedPayload payloadDigest
      return (row.toList, s)
  | .revalidateForSettle id owner held ttl => do
      let (row, s) ← s.updateWhere role now id
        (fun a => (is (a.status = .settling)).and (a.presents now owner held))
        fun a => a.renewed now ttl
      return (row.toList, s)
  | .transition id from_ to_ update owner held => do
      let (row, s) ← s.transition role now id from_ to_ update owner held trigger note
      return (row.toList, s)
  | .claimRowForTakeover id owner ttl => do
      let (row, s) ← s.updateWhere role now id (·.open_ now) fun a => a.held now owner ttl fence
      return (row.toList, s)
  | .claimForReconcile owner ttl limit => do
      let rows := reconcilable now s.table limit
      let s ← s.updateEach role now (·.held now owner ttl fence) rows
      return (rows.map (·.held now owner ttl fence), s)

/-- The first UTF-16 units of a text; a character that they would cut is left out. -/
def firstUnits : Nat → List Char → List Char
  | _, [] => []
  | n, c :: rest =>
      let units := if c.toNat < 0x10000 then 1 else 2
      if units ≤ n then c :: firstUnits (n - units) rest else []

/-- `text.slice(0, n)`. -/
def excerpt (n : Nat) (text : String) : String := String.ofList (firstUnits n text.toList)

/-- The INSERT of a fresh attempt, with its row in the history. -/
def insertAttempt (role : Role) (now : Int) (s : Session) (fresh : Attempt) :
    Except DbError (Attempt × Session) :=
  s.transaction fun tx => do
    let tx ← tx.write role now none fresh
    return (fresh, tx.append ⟨fresh.operationId, .pending, .pending, "accept-intake",
      "id=" ++ excerpt 12 fresh.operationId ++ "… rev=" ++ excerpt 12 fresh.authRevision ++ "…", none⟩)

/-- A statement of `resolveOrCreate`. -/
def advance (R : Runtime) (role : Role) (input : ResolveInput) (now : Int) (draws : Nat)
    (s : Session) : Resolving → Progress × Session × Nat
  | .insert authRevision =>
      match s.insertAttempt role now (R.freshAttempt now input authRevision) with
      | .ok (row, s) => (.done (.ok ⟨.created, row, ""⟩), s, draws)
      | .error e =>
          if e.code = "23505" then (.next (.reread authRevision 4 none), s, draws)
          else (.done (.error (.db e)), s, draws)
  | phase =>
      let (progress, _, draws) := phase.advance R role input now draws s.table
      (progress, s, draws)

/-- `resolveOrCreate` from a statement on, with nothing in between. -/
def resolveFrom (R : Runtime) (role : Role) (input : ResolveInput) (now : Int) :
    Nat → Resolving → Nat → Session → Except MachineError ResolveResult × Session
  | 0, _, _, s => (.error Resolving.noWinner, s)
  | left + 1, phase, draws, s =>
      match s.advance R role input now draws phase with
      | (.next phase, s, draws) => resolveFrom R role input now left phase draws s
      | (.done result, s, _) => (result, s)

def resolveOrCreate (R : Runtime) (role : Role) (input : ResolveInput) (now : Int) (draws : Nat)
    (s : Session) : Except MachineError ResolveResult × Session :=
  resolveFrom R role input now 11 .replay draws s

def releaseAttempt (role : Role) (now : Int) (s : Session) (operationId : String)
    (evidence : ReleaseEvidence) : Except DbError (Released × Session) :=
  if evidence.reasons ≠ [] then return (.refused evidence.reasons, s)
  else do
    let (row, s) ← s.transaction fun tx => do
      let (row, tx) ← tx.updateWhere role now operationId (·.releasable evidence)
        fun a => a.released now evidence
      match row with
      | none => return (none, tx)
      | some row => return (some row, tx.append ⟨operationId, .manual, .released, "operator-release",
          evidence.operatorId ++ ": " ++ evidence.note ++ " (blockhash=" ++
            excerpt 8 evidence.blockhash ++ "..., slot=" ++ evidence.checkedSlot.render ++
            ", transfer=" ++ evidence.transferVerification.text ++ ")", some evidence.operatorId⟩)
    match row with
    | some row => return (.ok row, s)
    | none => return (.refused (releaseRefusal (s.table.get? operationId)), s)

end Session

/-! ### The methods of the table -/

section Table

variable {role : Role} {now : Int} {s : Session} {id : String}

/-- What is left of a result without the history. -/
def unrecorded {α : Type} (result : Except DbError (α × Session)) : Except DbError (α × Table) :=
  result.map fun (a, s) => (a, s.table)

theorem unrecorded_transaction {α : Type} {body : Session → Except DbError (α × Session)} :
    unrecorded (s.transaction body) =
      unrecorded (body { s with storeHistoryRecorded := some "true" }) := by
  unfold Session.transaction
  cases body { s with storeHistoryRecorded := some "true" } <;> rfl

@[simp] theorem Session.recordRoleHistory_table (s : Session) (old : Option Attempt) (new : Attempt) :
    (s.recordRoleHistory old new).table = s.table := by
  unfold Session.recordRoleHistory
  split
  · rfl
  · cases old with
    | none => rfl
    | some old =>
        dsimp only
        split <;> rfl

theorem Session.write_table (role : Role) (now : Timestamp) (s : Session) (old : Option Attempt)
    (new : Attempt) :
    (s.write role now old new).map Session.table = Settlement.write role now s.table old new := by
  unfold Session.write
  cases Settlement.write role now s.table old new with
  | error => rfl
  | ok table => exact congrArg Except.ok (Session.recordRoleHistory_table ..)

theorem Session.updateWhere_table (s : Session) (role : Role) (now : Int) (id : String)
    (condition : Attempt → Truth) (set : Attempt → Attempt) :
    unrecorded (s.updateWhere role now id condition set) =
      Settlement.updateWhere role now s.table id condition set := by
  unfold Session.updateWhere Settlement.updateWhere
  cases s.table.get? id with
  | none => rfl
  | some old =>
      dsimp only
      split
      · rw [← Session.write_table]
        cases s.write role now (some old) (set old) <;> rfl
      · rfl

theorem Session.updateEach_table (set : Attempt → Attempt) (list : List Attempt) :
    (s.updateEach role now set list).map Session.table =
      Settlement.updateEach role now set s.table list := by
  induction list generalizing s with
  | nil => rfl
  | cons old rest ih =>
      unfold Session.updateEach Settlement.updateEach
      rw [← Session.write_table]
      cases s.write role now (some old) (set old) with
      | error => rfl
      | ok s₁ => exact ih

theorem Session.transitionWhere_table {from_ : List AttemptStatus} {to_ : AttemptStatus}
    {update : Update} {owner : Option String} {trigger note : String} {condition : Attempt → Truth}
    (among : ∀ a, (condition a).Fires → a.status ∈ from_) :
    unrecorded (s.transitionWhere role now id from_ to_ update owner trigger note condition) =
      Settlement.updateWhere role now s.table id condition
        fun a => a.transitioned now to_ update := by
  unfold Session.transitionWhere
  rw [unrecorded_transaction]
  dsimp only
  cases stored : s.table.get? id with
  | none =>
      unfold Settlement.updateWhere
      rw [stored]
      rfl
  | some current =>
      dsimp only
      split
      · rename_i other
        unfold Settlement.updateWhere
        rw [stored]
        dsimp only
        rw [if_neg fun fires => other (among current fires)]
        rfl
      · rw [← Session.updateWhere_table { s with storeHistoryRecorded := some "true" }]
        rcases Session.updateWhere role now _ id condition _ with e | ⟨_ | row, tx⟩ <;> rfl

/-- But for the history, the calls are those of the table. -/
theorem Session.exec_table (role : Role) (now : Int) (fence : String) (s : Session)
    (trigger note : String) (call : Call) :
    unrecorded (s.exec role now fence trigger note call) = call.exec role now fence s.table := by
  have single : ∀ {result : Except DbError (Option Attempt × Session)}
      {bare : Except DbError (Option Attempt × Table)}, unrecorded result = bare →
      unrecorded (result >>= fun found => .ok (found.1.toList, found.2)) =
        bare >>= fun found => .ok (found.1.toList, found.2) := by
    rintro result bare rfl
    cases result <;> rfl
  cases call with
  | claimForSettle | revalidateForSettle | claimRowForTakeover =>
      exact single (s.updateWhere_table ..)
  | transition id from_ to_ update owner held =>
      refine single ?_
      unfold Session.transition Settlement.transition
      rcases owner with _ | owner <;> rcases held with _ | held
      · dsimp only
        split
        · exact Session.transitionWhere_table fun a fires => fires_is.mp fires
        · rfl
      · rfl
      · rfl
      · exact Session.transitionWhere_table fun a fires => fires_is.mp (Truth.fires_and.mp fires).1
  | claimForReconcile owner ttl limit =>
      unfold Session.exec Call.exec claimForReconcile
      dsimp only
      rw [← Session.updateEach_table]
      cases s.updateEach role now (·.held now owner ttl fence) (reconcilable now s.table limit) <;> rfl

/-- Every statement of `resolveOrCreate` but the INSERT leaves the table. -/
theorem Resolving.advance_reads {R : Runtime} {input : ResolveInput} {draws : Nat} {table : Table}
    {phase : Resolving} (reads : ∀ revision, phase ≠ .insert revision) :
    (phase.advance R role input now draws table).2.1 = table := by
  cases phase with
  | insert revision => exact absurd rfl (reads revision)
  | replay | payment | active | settled => rfl
  | released =>
      unfold Resolving.advance
      dsimp only
      split <;> rfl
  | reread revision left winner =>
      unfold Resolving.advance
      dsimp only
      split <;> rfl

theorem Session.insertAttempt_table (s : Session) (role : Role) (now : Int) (fresh : Attempt) :
    unrecorded (s.insertAttempt role now fresh) =
      (Settlement.write role now s.table none fresh).map fun table => (fresh, table) := by
  unfold Session.insertAttempt
  rw [unrecorded_transaction]
  change _ = (Settlement.write role now { s with storeHistoryRecorded := some "true" }.table none
    fresh).map _
  rw [← Session.write_table]
  cases Session.write role now _ none fresh <;> rfl

/-- But for the history, the statements of `resolveOrCreate` are those of the table. -/
theorem Session.advance_table (R : Runtime) (role : Role) (input : ResolveInput) (now : Int)
    (draws : Nat) (s : Session) (phase : Resolving) :
    (let (progress, s', draws') := s.advance R role input now draws phase
     (progress, s'.table, draws')) = phase.advance R role input now draws s.table := by
  cases phase with
  | insert revision =>
      have same := s.insertAttempt_table role now (R.freshAttempt now input revision)
      unfold Session.advance Resolving.advance
      dsimp only
      revert same
      cases Settlement.write role now s.table none (R.freshAttempt now input revision) <;>
        rcases s.insertAttempt role now (R.freshAttempt now input revision) with e | ⟨row, s'⟩ <;>
        intro same <;> cases same
      · dsimp only
        split <;> rfl
      · rfl
  | replay | payment | active | settled | released | reread =>
      refine Prod.ext rfl (Prod.ext ?_ rfl)
      exact (Resolving.advance_reads (by rintro revision ⟨⟩)).symm

/-- But for the history, a release is that of the table. -/
theorem Session.releaseAttempt_table (role : Role) (now : Int) (s : Session) (id : String)
    (evidence : ReleaseEvidence) :
    unrecorded (s.releaseAttempt role now id evidence) =
      s.table.releaseAttempt role now id evidence := by
  unfold Session.releaseAttempt Table.releaseAttempt
  split
  · rfl
  · have marked := Session.updateWhere_table { s with storeHistoryRecorded := some "true" } role now id
      (·.releasable evidence) fun a => a.released now evidence
    unfold Session.transaction
    dsimp only at marked ⊢
    rw [← marked]
    rcases Session.updateWhere role now _ id _ _ with e | ⟨_ | row, tx⟩ <;> rfl

end Table

/-! ### Runs -/

/-- A call of the store. -/
inductive Operation where
  | resolve (input : ResolveInput)
  | call (call : Call) (trigger note : String)
  | release (operationId : String) (evidence : ReleaseEvidence)

/-- How a call ended: with its result, or refused by the database. -/
inductive Ended where
  | resolved (result : Except MachineError ResolveResult)
  | returned (result : Except DbError (List Attempt))
  | released (result : Except DbError Released)

/-- The call, and the tables after it. -/
def Operation.perform (R : Runtime) (role : Role) (now : Int) (draws : Nat) (s : Session) :
    Operation → Ended × Session
  | resolve input =>
      let (result, s) := s.resolveOrCreate R role input now draws
      (.resolved result, s)
  | call made trigger note =>
      match s.exec role now (R.uuid draws) trigger note made with
      | .ok (rows, s) => (.returned (.ok rows), s)
      | .error e => (.returned (.error e), s)
  | release id evidence =>
      match s.releaseAttempt role now id evidence with
      | .ok (released, s) => (.released (.ok released), s)
      | .error e => (.released (.error e), s)

/-- The attempt that an operation inserted, claimed, transitioned or released. -/
def Operation.changed : Operation → Ended → Option String
  | .resolve _, .resolved (.ok result) =>
      if result.kind = .created then some result.row.operationId else none
  | .call (.claimForSettle ..) _ _, .returned (.ok rows)
  | .call (.transition ..) _ _, .returned (.ok rows) => rows.head?.map (·.operationId)
  | .release .., .released (.ok (.ok row)) => some row.operationId
  | _, _ => none

/-- Any operations, one after another, under any roles and at any times, with what each changed. -/
inductive HistoryRun (R : Runtime) : List (Option String) → Session → Prop where
  | nil : HistoryRun R [] .empty
  | step {changes : List (Option String)} {s s' : Session} {operation : Operation} {role : Role}
      {now : Int} {draws : Nat} {ended : Ended} (before : HistoryRun R changes s)
      (performs : operation.perform R role now draws s = (ended, s')) :
      HistoryRun R (changes ++ [operation.changed ended]) s'

/-- The rows of the history are a path from `pending` to the status. -/
structure FaithfulPath (status : Option AttemptStatus) (rows : List HistoryRow) : Prop where
  opens : ∀ row, rows.head? = some row → row.from_ = .pending ∧ row.to_ = .pending
  chained : rows.IsChain fun a b => b.from_ = a.to_
  ends : rows.getLast?.map (·.to_) = status

namespace Session

def status (s : Session) (id : String) : Option AttemptStatus := (s.table.get? id).map (·.status)

/-- The history of an attempt. -/
def historyOf (s : Session) (id : String) : List HistoryRow := s.history.filter (·.operationId = id)

end Session

/-! ### What an operation records -/

/-- The statuses of the attempts. -/
def Table.statuses (table : Table) (id : String) : Option AttemptStatus :=
  (table.get? id).map (·.status)

/-- What became of the statuses and of the history: nothing, an attempt was made, or its status was
set. -/
inductive Recorded (s s' : Session) : Option String → Prop where
  | quiet (statuses : s'.status = s.status) (history : s'.history = s.history) : Recorded s s' none
  | made {row : HistoryRow} (free : s.status row.operationId = none) (from_ : row.from_ = .pending)
      (to_ : row.to_ = .pending)
      (statuses : s'.status = Function.update s.status row.operationId (some .pending))
      (history : s'.history = s.history ++ [row]) : Recorded s s' (some row.operationId)
  | moved {row : HistoryRow} (stood : s.status row.operationId = some row.from_)
      (statuses : s'.status = Function.update s.status row.operationId (some row.to_))
      (history : s'.history = s.history ++ [row]) : Recorded s s' (some row.operationId)

section Recording

variable {role : Role} {now : Int} {s s' : Session} {id : String} {old new : Attempt}
  {row : Option Attempt} {condition : Attempt → Truth} {set : Attempt → Attempt}

theorem statuses_of_update {table table' : Table}
    (h : Settlement.write role now table (some old) new = .ok table')
    (key : new.operationId = old.operationId) :
    table'.statuses = Function.update table.statuses old.operationId (some new.status) := by
  funext id
  unfold Table.statuses
  rw [get?_update h key, Function.update_apply]
  split <;> rfl

theorem statuses_of_insert {table table' : Table}
    (h : Settlement.write role now table none new = .ok table') :
    table.statuses new.operationId = none ∧
      table'.statuses = Function.update table.statuses new.operationId (some new.status) := by
  obtain ⟨-, -, -, fits, -⟩ := write_ok.mp h
  constructor
  · unfold Table.statuses
    rw [Option.map_eq_none_iff]
    by_contra taken
    obtain ⟨a, stored⟩ := Option.ne_none_iff_exists'.mp taken
    exact fits _ a stored (by rintro ⟨⟩) .pkey ⟨trivial, trivial, table.keyed _ a stored⟩
  · funext id
    unfold Table.statuses
    rw [get?_insert h, Function.update_apply]
    split <;> rfl

theorem Session.status_of_stored {a : Attempt} (stored : s.table.get? id = some a) :
    s.status id = some a.status := by
  unfold Session.status
  rw [stored]
  rfl

theorem Session.write_ok {before : Option Attempt} (h : s.write role now before new = .ok s') :
    ∃ table, Settlement.write role now s.table before new = .ok table ∧
      s' = { s with table }.recordRoleHistory before new := by
  unfold Session.write at h
  cases written : Settlement.write role now s.table before new with
  | error =>
      rw [written] at h
      cases h
  | ok table =>
      rw [written] at h
      cases h
      exact ⟨table, rfl, rfl⟩

/-- Under the setting, the trigger writes nothing. -/
theorem Session.write_marked {before : Option Attempt}
    (marked : s.storeHistoryRecorded = some "true") (h : s.write role now before new = .ok s') :
    ∃ table, Settlement.write role now s.table before new = .ok table ∧ s' = { s with table } := by
  obtain ⟨table, written, rfl⟩ := Session.write_ok h
  exact ⟨table, written, if_pos marked⟩

/-- Without the setting, the trigger writes what an update does to the status. -/
theorem Session.write_unmarked (unmarked : s.storeHistoryRecorded = none)
    (stored : s.table.get? old.operationId = some old) (key : new.operationId = old.operationId)
    (h : s.write role now (some old) new = .ok s') :
    s'.storeHistoryRecorded = none ∧
      Recorded s s' (if new.status = old.status then none else some old.operationId) := by
  obtain ⟨table, written, rfl⟩ := Session.write_ok h
  have statuses := statuses_of_update written key
  have stood := Session.status_of_stored stored
  unfold Session.recordRoleHistory
  rw [if_neg (by simp [unmarked])]
  dsimp only
  by_cases same : new.status = old.status
  · rw [if_neg (by simp [same]), if_pos same]
    refine ⟨unmarked, .quiet (statuses.trans ?_) rfl⟩
    rw [same]
    exact Function.update_eq_self_iff.mpr stood.symm
  · rw [if_pos (by simp [same]), if_neg same, ← key]
    refine ⟨unmarked, @Recorded.moved _ _ ⟨new.operationId, _, _, _, _, _⟩ ?_ ?_ rfl⟩
    · rw [key]
      exact stood
    · rw [key]
      exact statuses

theorem Session.updateWhere_ok (h : s.updateWhere role now id condition set = .ok (row, s')) :
    (row = none ∧ s' = s) ∨ ∃ old, s.table.get? id = some old ∧ (condition old).Fires ∧
      row = some (set old) ∧ s.write role now (some old) (set old) = .ok s' := by
  unfold Session.updateWhere at h
  split at h
  · rename_i old stored
    split at h
    · rename_i fires
      cases written : s.write role now (some old) (set old) with
      | error => simp [written, bind, Except.bind] at h
      | ok =>
          simp only [written, bind, Except.bind, pure, Except.pure, Except.ok.injEq,
            Prod.mk.injEq] at h
          obtain ⟨rfl, rfl⟩ := h
          exact .inr ⟨old, stored, fires, rfl, written⟩
    · cases h
      exact .inl ⟨rfl, rfl⟩
  · cases h
    exact .inl ⟨rfl, rfl⟩

theorem Session.transaction_ok {α : Type} {body : Session → Except DbError (α × Session)} {a : α}
    (h : s.transaction body = .ok (a, s')) :
    ∃ tx, body { s with storeHistoryRecorded := some "true" } = .ok (a, tx) ∧
      s' = { tx with storeHistoryRecorded := s.storeHistoryRecorded } := by
  unfold Session.transaction at h
  cases done : body { s with storeHistoryRecorded := some "true" } with
  | error =>
      rw [done] at h
      cases h
  | ok result =>
      rw [done] at h
      cases h
      exact ⟨result.2, rfl, rfl⟩

/-- A single call answers its row. -/
theorem Session.single_ok {rows : List Attempt} {result : Except DbError (Option Attempt × Session)}
    (h : (do let (row, s) ← result; return (row.toList, s)) = Except.ok (rows, s')) :
    ∃ row, result = .ok (row, s') ∧ rows = row.toList := by
  rcases result with _ | ⟨row, s⟩
  · cases h
  · cases h
    exact ⟨row, rfl, rfl⟩

/-- An update outside a transaction that keeps or sets the status of what it finds. -/
theorem Session.records_updateWhere (unmarked : s.storeHistoryRecorded = none)
    (h : s.updateWhere role now id condition set = .ok (row, s'))
    (key : ∀ a, (set a).operationId = a.operationId) :
    s'.storeHistoryRecorded = none ∧ ((row = none ∧ s' = s) ∨ ∃ old, row = some (set old) ∧
      (condition old).Fires ∧
      Recorded s s' (if (set old).status = old.status then none else some (set old).operationId)) := by
  rcases Session.updateWhere_ok h with ⟨rfl, rfl⟩ | ⟨old, stored, fires, rfl, written⟩
  · exact ⟨unmarked, .inl ⟨rfl, rfl⟩⟩
  · have same := s.table.keyed id old stored
    obtain ⟨unmarked', recorded⟩ := Session.write_unmarked unmarked (same.symm ▸ stored) (key old) written
    exact ⟨unmarked', .inr ⟨old, rfl, fires, by rwa [key]⟩⟩

theorem Recorded.refl (s : Session) : Recorded s s none := .quiet rfl rfl

/-- The transaction of a transition: one row where it finds its attempt. -/
theorem Session.records_transitionWhere {from_ : List AttemptStatus} {to_ : AttemptStatus}
    {update : Update} {owner : Option String} {trigger note : String}
    (unmarked : s.storeHistoryRecorded = none)
    (h : s.transitionWhere role now id from_ to_ update owner trigger note condition =
      .ok (row, s')) :
    s'.storeHistoryRecorded = none ∧ Recorded s s' (row.map (·.operationId)) := by
  obtain ⟨tx, done, rfl⟩ := Session.transaction_ok h
  refine ⟨unmarked, ?_⟩
  rw [unmarked]
  dsimp only at done
  cases stored : s.table.get? id with
  | none =>
      rw [stored] at done
      cases done
      exact .quiet rfl rfl
  | some current =>
      rw [stored] at done
      dsimp only at done
      split at done
      · cases done
        exact .quiet rfl rfl
      · rcases updated : Session.updateWhere role now { s with storeHistoryRecorded := some "true" } id
          condition (fun a => a.transitioned now to_ update) with e | ⟨row', tx'⟩
        · rw [updated] at done
          cases done
        · rw [updated] at done
          rcases Session.updateWhere_ok updated with ⟨rfl, rfl⟩ | ⟨old, stored', -, rfl, written⟩
          · cases done
            exact .quiet rfl rfl
          · obtain rfl := Option.some.inj (stored.symm.trans stored')
            obtain ⟨table, accepted, rfl⟩ := Session.write_marked rfl written
            cases done
            obtain rfl := s.table.keyed id current stored
            exact @Recorded.moved _ _ ⟨current.operationId, current.status, to_, trigger, note, owner⟩
              (Session.status_of_stored stored) (statuses_of_update accepted rfl) rfl

/-- The transaction of a release. -/
theorem Session.records_release {evidence : ReleaseEvidence} {released : Released}
    (unmarked : s.storeHistoryRecorded = none)
    (h : s.releaseAttempt role now id evidence = .ok (released, s')) :
    s'.storeHistoryRecorded = none ∧
      Recorded s s' ((Operation.release id evidence).changed (.released (.ok released))) := by
  unfold Session.releaseAttempt at h
  split at h
  · cases h
    exact ⟨unmarked, .refl s⟩
  generalize opened : s.transaction _ = result at h
  rcases result with e | ⟨row, s₁⟩
  · cases h
  obtain ⟨tx, done, rfl⟩ := Session.transaction_ok opened
  rcases updated : Session.updateWhere role now { s with storeHistoryRecorded := some "true" } id
      (·.releasable evidence) (fun a => a.released now evidence) with e | ⟨row', tx'⟩
  · rw [updated] at done
    cases done
  rw [updated] at done
  rcases Session.updateWhere_ok updated with ⟨rfl, rfl⟩ | ⟨old, stored, fires, rfl, written⟩
  · cases done
    cases h
    exact ⟨unmarked, .quiet rfl rfl⟩
  · obtain ⟨table, accepted, rfl⟩ := Session.write_marked rfl written
    cases done
    cases h
    obtain rfl := s.table.keyed id old stored
    have manual := (Attempt.releasable_fires.mp fires).1
    have stood := (Session.status_of_stored stored).trans (congrArg some manual)
    have statuses := statuses_of_update accepted rfl
    exact ⟨unmarked, @Recorded.moved _ _ ⟨old.operationId, .manual, .released, _, _, _⟩ stood statuses rfl⟩

theorem Session.records_updateEach {list : List Attempt} (unmarked : s.storeHistoryRecorded = none)
    (h : s.updateEach role now set list = .ok s')
    (stored : ∀ a ∈ list, s.table.get? a.operationId = some a)
    (distinct : list.Pairwise fun a b => a.operationId ≠ b.operationId)
    (key : ∀ a, (set a).operationId = a.operationId) (keeps : ∀ a, (set a).status = a.status) :
    s'.storeHistoryRecorded = none ∧ Recorded s s' none := by
  induction list generalizing s with
  | nil =>
      cases h
      exact ⟨unmarked, .refl _⟩
  | cons old rest ih =>
      unfold Session.updateEach at h
      cases written : s.write role now (some old) (set old) with
      | error => simp [written, bind, Except.bind] at h
      | ok s₁ =>
          simp only [written, bind, Except.bind] at h
          obtain ⟨apart, distinct⟩ := List.pairwise_cons.mp distinct
          have here := stored old List.mem_cons_self
          obtain ⟨unmarked₁, first⟩ := Session.write_unmarked unmarked here (key old) written
          rw [if_pos (keeps old)] at first
          obtain ⟨table, accepted, rfl⟩ := Session.write_ok written
          have later := ih unmarked₁ h (fun a mem => ?_) distinct
          · cases first with
            | quiet statuses history =>
                cases later.2 with
                | quiet statuses' history' =>
                    exact ⟨later.1, .quiet (statuses'.trans statuses) (history'.trans history)⟩
          · rw [Session.recordRoleHistory_table, get?_update accepted (key old),
              if_neg (Ne.symm (apart a mem))]
            exact stored a (List.mem_cons_of_mem _ mem)

/-- The rows that are taken are among those of the table. -/
theorem reconcilable_among (now : Int) (table : Table) (limit : Nat) :
    ∃ rows : List Attempt, rows.Perm (table.select fun a => (a.open_ now).Fires) ∧
      reconcilable now table limit = rows.take limit :=
  ⟨_, List.mergeSort_perm _ _, rfl⟩

theorem get?_of_reconcilable {table : Table} {limit : Nat} {a : Attempt}
    (mem : a ∈ reconcilable now table limit) : table.get? a.operationId = some a := by
  obtain ⟨rows, perm, same⟩ := reconcilable_among now table limit
  rw [same] at mem
  exact (Table.mem_select.mp (perm.mem_iff.mp (List.mem_of_mem_take mem))).1

theorem Table.values_distinct (table : Table) :
    table.rows.values.Pairwise fun a b => a.operationId ≠ b.operationId := by
  have keyed : ∀ e ∈ table.rows.entries, e.2.operationId = e.1 :=
    fun e mem => table.keyed _ _ (OrderedMap.mem_entries.mp mem)
  refine List.pairwise_map.mpr ((List.pairwise_map.mp table.rows.nodup).imp_of_mem ?_)
  intro e e' mem mem' ne
  rwa [keyed e mem, keyed e' mem']

theorem reconcilable_distinct {table : Table} {limit : Nat} :
    (reconcilable now table limit).Pairwise fun a b => a.operationId ≠ b.operationId := by
  obtain ⟨rows, perm, same⟩ := reconcilable_among now table limit
  rw [same]
  refine ((perm.pairwise_iff fun h => Ne.symm h).mpr ?_).sublist (List.take_sublist ..)
  exact table.values_distinct.filter _

/-- A call of the store. -/
theorem Session.records_exec {fence trigger note : String} {call : Call} {rows : List Attempt}
    (unmarked : s.storeHistoryRecorded = none)
    (h : s.exec role now fence trigger note call = .ok (rows, s')) :
    s'.storeHistoryRecorded = none ∧
      Recorded s s' ((Operation.call call trigger note).changed (.returned (.ok rows))) := by
  -- A claim that keeps the status of the row it finds.
  have silent : ∀ {id : String} {condition : Attempt → Truth} {set : Attempt → Attempt},
      (do let (row, s) ← s.updateWhere role now id condition set; return (row.toList, s)) =
        Except.ok (rows, s') → (∀ a, (set a).operationId = a.operationId) →
        (∀ a, (set a).status = a.status) → s'.storeHistoryRecorded = none ∧ Recorded s s' none := by
    intro id condition set done key keeps
    obtain ⟨row, updated, rfl⟩ := Session.single_ok done
    obtain ⟨unmarked', ⟨-, rfl⟩ | ⟨old, -, -, recorded⟩⟩ :=
      Session.records_updateWhere unmarked updated key
    · exact ⟨unmarked', .refl s'⟩
    · rw [if_pos (keeps old)] at recorded
      exact ⟨unmarked', recorded⟩
  cases call with
  | claimForSettle id owner ttl payload digest =>
      obtain ⟨row, updated, rfl⟩ := Session.single_ok h
      obtain ⟨unmarked', ⟨rfl, rfl⟩ | ⟨old, rfl, fires, recorded⟩⟩ :=
        Session.records_updateWhere unmarked updated fun _ => rfl
      · exact ⟨unmarked', .refl s'⟩
      · have pending : old.status = .pending := fires_is.mp fires
        rw [if_neg (by rw [pending]; intro same; cases same)] at recorded
        exact ⟨unmarked', recorded⟩
  | revalidateForSettle | claimRowForTakeover => exact silent h (fun _ => rfl) fun _ => rfl
  | transition id from_ to_ update owner held =>
      obtain ⟨row, done, rfl⟩ := Session.single_ok h
      have moves : ∀ {owner condition}, s.transitionWhere role now id from_ to_ update owner trigger note
          condition = .ok (row, s') → s'.storeHistoryRecorded = none ∧
            Recorded s s' (row.toList.head?.map (·.operationId)) := by
        intro owner condition done
        rw [Option.head?_toList]
        exact Session.records_transitionWhere unmarked done
      unfold Session.transition at done
      rcases owner with _ | owner <;> rcases held with _ | held
      · dsimp only at done
        split at done
        · exact moves done
        · cases done
          exact ⟨unmarked, .refl s⟩
      · cases done
        exact ⟨unmarked, .refl s⟩
      · cases done
        exact ⟨unmarked, .refl s⟩
      · exact moves done
  | claimForReconcile owner ttl limit =>
      unfold Session.exec at h
      cases updated : s.updateEach role now (·.held now owner ttl fence)
          (reconcilable now s.table limit) with
      | error => simp [updated, bind, Except.bind] at h
      | ok s₁ =>
          simp only [updated, bind, Except.bind, pure, Except.pure, Except.ok.injEq,
            Prod.mk.injEq] at h
          obtain ⟨-, rfl⟩ := h
          exact Session.records_updateEach unmarked updated (fun _ => get?_of_reconcilable)
            reconcilable_distinct (fun _ => rfl) fun _ => rfl

/-- The INSERT of a fresh attempt. -/
theorem Session.records_insert {fresh row : Attempt} (unmarked : s.storeHistoryRecorded = none)
    (pending : fresh.status = .pending) (h : s.insertAttempt role now fresh = .ok (row, s')) :
    s'.storeHistoryRecorded = none ∧ row = fresh ∧ Recorded s s' (some fresh.operationId) := by
  obtain ⟨tx, done, rfl⟩ := Session.transaction_ok h
  cases written : Session.write role now { s with storeHistoryRecorded := some "true" } none fresh with
  | error =>
      rw [written] at done
      cases done
  | ok tx' =>
      obtain ⟨table, accepted, rfl⟩ := Session.write_marked rfl written
      rw [written] at done
      cases done
      obtain ⟨free, statuses⟩ := statuses_of_insert accepted
      rw [pending] at statuses
      exact ⟨unmarked, rfl, @Recorded.made _ _ ⟨_, _, _, _, _, _⟩ free rfl rfl statuses rfl⟩

theorem reuse_kind {input : ResolveInput} {row : Attempt} : (reuse input row).kind ≠ .created := by
  unfold reuse
  split <;> rintro ⟨⟩

/-- Only the INSERT creates an attempt. -/
theorem Resolving.advance_kind {R : Runtime} {input : ResolveInput} {draws : Nat} {table : Table}
    {phase : Resolving} (reads : ∀ revision, phase ≠ .insert revision) {result : ResolveResult}
    (done : (phase.advance R role input now draws table).1 = .done (.ok result)) :
    result.kind ≠ .created := by
  have found : ∀ {row : Option Attempt} {next : Resolving},
      Resolving.orElse input row next = .done (.ok result) → result.kind ≠ .created := by
    intro row next done
    cases row with
    | none => cases done
    | some row =>
        cases done
        exact reuse_kind
  cases phase with
  | insert revision => exact absurd rfl (reads revision)
  | replay | payment | active | settled => exact found done
  | released =>
      unfold Resolving.advance at done
      dsimp only at done
      split at done
      · cases done
        rintro ⟨⟩
      · cases done
  | reread revision left winner =>
      unfold Resolving.advance at done
      dsimp only at done
      split at done
      · cases done
      · cases done
        exact reuse_kind
      · cases done

/-- The attempt that a call of `resolveOrCreate` made. -/
def createdBy (result : Except MachineError ResolveResult) (input : ResolveInput) : Option String :=
  (Operation.resolve input).changed (.resolved result)

theorem createdBy_eq_none {result : Except MachineError ResolveResult} {input : ResolveInput}
    (other : ∀ r, result = .ok r → r.kind ≠ .created) : createdBy result input = none := by
  cases result with
  | error => rfl
  | ok r => exact if_neg (other r rfl)

/-- `resolveOrCreate` from a statement on. -/
theorem Session.records_resolveFrom {R : Runtime} {input : ResolveInput} {left draws : Nat}
    {phase : Resolving} {result : Except MachineError ResolveResult}
    (unmarked : s.storeHistoryRecorded = none)
    (h : Session.resolveFrom R role input now left phase draws s = (result, s')) :
    s'.storeHistoryRecorded = none ∧ Recorded s s' (createdBy result input) := by
  induction left generalizing phase draws with
  | zero =>
      cases h
      exact ⟨unmarked, .refl _⟩
  | succ left ih =>
      unfold Session.resolveFrom at h
      by_cases reads : ∀ revision, phase ≠ .insert revision
      · have kept : s.advance R role input now draws phase =
            ((phase.advance R role input now draws s.table).1, s,
              (phase.advance R role input now draws s.table).2.2) := by
          cases phase with
          | insert revision => exact absurd rfl (reads revision)
          | replay | payment | active | settled | released | reread => rfl
        rw [kept] at h
        cases progress : (phase.advance R role input now draws s.table).1 with
        | next phase' =>
            rw [progress] at h
            exact ih h
        | done result' =>
            rw [progress] at h
            cases h
            rw [createdBy_eq_none fun r same => Resolving.advance_kind reads (same ▸ progress)]
            exact ⟨unmarked, .refl _⟩
      · obtain ⟨revision, rfl⟩ := not_forall_not.mp reads
        unfold Session.advance at h
        dsimp only at h
        rcases inserted : s.insertAttempt role now (R.freshAttempt now input revision) with
          e | ⟨row, s₁⟩
        · rw [inserted] at h
          dsimp only at h
          by_cases clashed : e.code = "23505"
          · rw [if_pos clashed] at h
            exact ih h
          · rw [if_neg clashed] at h
            cases h
            exact ⟨unmarked, .refl _⟩
        · rw [inserted] at h
          cases h
          obtain ⟨unmarked', rfl, recorded⟩ := Session.records_insert unmarked rfl inserted
          exact ⟨unmarked', recorded⟩

/-- Any operation. -/
theorem Operation.records {R : Runtime} {operation : Operation} {draws : Nat} {ended : Ended}
    (unmarked : s.storeHistoryRecorded = none)
    (h : operation.perform R role now draws s = (ended, s')) :
    s'.storeHistoryRecorded = none ∧ Recorded s s' (operation.changed ended) := by
  cases operation with
  | resolve input =>
      rcases resolved : s.resolveOrCreate R role input now draws with ⟨result, s₁⟩
      unfold Operation.perform at h
      dsimp only at h
      rw [resolved] at h
      cases h
      exact Session.records_resolveFrom unmarked resolved
  | call call trigger note =>
      unfold Operation.perform at h
      dsimp only at h
      split at h
      · rename_i done
        cases h
        exact Session.records_exec unmarked done
      · cases h
        refine ⟨unmarked, ?_⟩
        cases call <;> exact .refl _
  | release id evidence =>
      unfold Operation.perform at h
      dsimp only at h
      split at h
      · rename_i done
        cases h
        exact Session.records_release unmarked done
      · cases h
        exact ⟨unmarked, .refl _⟩

end Recording

/-! ### Paths -/

section Paths

variable {status : Option AttemptStatus} {rows : List HistoryRow} {row : HistoryRow}

theorem FaithfulPath.nil : FaithfulPath none [] := ⟨by simp, .nil, rfl⟩

theorem FaithfulPath.rows_eq_nil (h : FaithfulPath none rows) : rows = [] :=
  List.getLast?_eq_none_iff.mp (Option.map_eq_none_iff.mp h.ends)

theorem FaithfulPath.made (h : FaithfulPath none rows) (from_ : row.from_ = .pending)
    (to_ : row.to_ = .pending) : FaithfulPath (some .pending) (rows ++ [row]) := by
  obtain rfl := h.rows_eq_nil
  exact ⟨by simp [from_, to_], .singleton row, by simp [to_]⟩

theorem FaithfulPath.moved (h : FaithfulPath (some row.from_) rows) :
    FaithfulPath (some row.to_) (rows ++ [row]) := by
  obtain ⟨last, found, to_⟩ := Option.map_eq_some_iff.mp h.ends
  have nonempty : rows ≠ [] := by
    rintro rfl
    cases found
  refine ⟨fun first head => h.opens first ?_, ?_, by simp⟩
  · rwa [List.head?_append_of_ne_nil _ nonempty] at head
  · refine h.chained.append (.singleton row) fun a mem b mem' => ?_
    rw [found] at mem
    obtain rfl := Option.some.inj mem
    obtain rfl := Option.some.inj mem'
    exact to_.symm

variable {s s' : Session} {changed : Option String}

/-- What an operation records prolongs every path. -/
theorem Recorded.paths (h : Recorded s s' changed)
    (paths : ∀ id, FaithfulPath (s.status id) (s.historyOf id)) (id : String) :
    FaithfulPath (s'.status id) (s'.historyOf id) := by
  have appended : ∀ {row : HistoryRow}, s'.history = s.history ++ [row] →
      s'.historyOf id = if row.operationId = id then s.historyOf id ++ [row] else s.historyOf id := by
    intro row history
    unfold Session.historyOf
    rw [history, List.filter_append]
    split <;> simp [*]
  cases h with
  | quiet statuses history =>
      unfold Session.historyOf
      rw [statuses, history]
      exact paths id
  | @made row free from_ to_ statuses history =>
      rw [appended history, statuses, Function.update_apply]
      by_cases here : row.operationId = id
      · subst here
        rw [if_pos rfl, if_pos rfl]
        exact FaithfulPath.made (free ▸ paths _) from_ to_
      · rw [if_neg here, if_neg (Ne.symm here)]
        exact paths id
  | @moved row stood statuses history =>
      rw [appended history, statuses, Function.update_apply]
      by_cases here : row.operationId = id
      · subst here
        rw [if_pos rfl, if_pos rfl]
        exact FaithfulPath.moved (stood ▸ paths _)
      · rw [if_neg here, if_neg (Ne.symm here)]
        exact paths id

theorem Recorded.changes (h : Recorded s s' changed) :
    s'.history.map (·.operationId) = s.history.map (·.operationId) ++ changed.toList := by
  cases h with
  | quiet _ history => simp [history]
  | made _ _ _ _ history | moved _ _ history => simp [history]

end Paths

/-- In every run the history of an attempt is a path from `pending` to its status, and the history
has one row for each attempt that was inserted, claimed for its settlement, transitioned or released,
in this order, and none for any other operation. -/
theorem history_faithful {R : Runtime} {changes : List (Option String)} {s : Session}
    (run : HistoryRun R changes s) :
    (∀ id, FaithfulPath (s.status id) (s.historyOf id)) ∧
      s.history.map (·.operationId) = changes.filterMap id := by
  have kept : s.storeHistoryRecorded = none ∧
      (∀ id, FaithfulPath (s.status id) (s.historyOf id)) ∧
        s.history.map (·.operationId) = changes.filterMap id := by
    induction run with
    | nil => exact ⟨rfl, fun _ => .nil, rfl⟩
    | step _ performs ih =>
        obtain ⟨unmarked, paths, complete⟩ := ih
        obtain ⟨unmarked', recorded⟩ := Operation.records unmarked performs
        refine ⟨unmarked', recorded.paths paths, ?_⟩
        rw [recorded.changes, complete, List.filterMap_append]
        cases Operation.changed _ _ <;> rfl
  exact kept.2

/-! ### A run up to a release -/

/-- Operations performed one after another: what each changed, and the tables after them. -/
def Session.after (R : Runtime) (s : Session) :
    List (Operation × Role × Int × Nat) → List (Option String) × Session
  | [] => ([], s)
  | (operation, role, now, draws) :: rest =>
      let (ended, s) := operation.perform R role now draws s
      let (changes, s) := s.after R rest
      (operation.changed ended :: changes, s)

theorem HistoryRun.after {R : Runtime} {changes : List (Option String)} {s : Session}
    (run : HistoryRun R changes s) (operations : List (Operation × Role × Int × Nat)) :
    HistoryRun R (changes ++ (s.after R operations).1) (s.after R operations).2 := by
  induction operations generalizing changes s with
  | nil => simpa [Session.after] using run
  | cons first rest ih =>
      obtain ⟨operation, role, now, draws⟩ := first
      rcases performs : operation.perform R role now draws s with ⟨ended, s₁⟩
      have later := ih (run.step performs)
      simpa [Session.after, performs] using later

namespace Sample

def requestInput : ResolveInput where
  logicalOrderId := "ord_1"
  intentVersion := 0
  requestDigest := requestDigest
  resource := resourceUrl
  callerPaymentId := paymentId

def releaseEvidence : ReleaseEvidence where
  operatorId := "alice"
  newApprovalEventId := "appr_1"
  note := "expired"
  blockhash := "blockhash"
  blockhashValid := false
  checkedSlot := .finite 1000
  transferVerification := .unavailable

/-- An attempt is inserted, claimed, handed to an operator and released. -/
def releasing : List (Operation × Role × Int × Nat) :=
  [(.resolve requestInput, .app, 0, 0),
    (.call (.claimForSettle operationId "worker-1" 10 none none) "" "", .app, 1, 1),
    (.call (.revalidateForSettle operationId "worker-1" (runtime.uuid 1) 10) "" "", .app, 2, 2),
    (.call (.transition operationId leasedStatuses .manual { blockhash := some (some "blockhash") }
      (some "worker-1") (some (runtime.uuid 1))) "complete-settlement" "no signature", .app, 3, 3),
    (.release operationId releaseEvidence, .operator, 4, 4)]

end Sample

theorem history_faithful_released : ∃ s : Session,
    s.status Sample.operationId = some .released ∧
      s.history.map (fun row => (row.from_, row.to_)) = [(.pending, .pending), (.pending, .settling),
        (.settling, .manual), (.manual, .released)] ∧
      FaithfulPath (s.status Sample.operationId) (s.historyOf Sample.operationId) := by
  have run := (@HistoryRun.nil Sample.runtime).after Sample.releasing
  have reached : (Session.empty.after Sample.runtime Sample.releasing).2.status Sample.operationId =
        some .released ∧
      (Session.empty.after Sample.runtime Sample.releasing).2.history.map
        (fun row => (row.from_, row.to_)) = [(.pending, .pending), (.pending, .settling),
          (.settling, .manual), (.manual, .released)] := by
    decide +kernel
  exact ⟨_, reached.1, reached.2, (history_faithful run).1 Sample.operationId⟩

end AgentReady.Settlement
