import AgentReady.Lib.OrderedMap
import AgentReady.Settlement.Schema

/-!
The table of attempts and the writes it accepts.

A write of one row passes the two triggers, the CHECK constraints and the unique indexes, in
this order; where one of them refuses, the statement has no effect. What the constraints and
the indexes promise of the rows is part of a `Table`.

* `write_ok`: a write that is accepted passed every check, and put the row in its place.
* `get?_insert`, `get?_update`: what is stored after it.
-/

namespace AgentReady.Settlement

/-- A row that every CHECK accepts. -/
def Valid (row : Attempt) : Prop := ∀ check ∈ checks row, check.2.Passes

/-- The table, by primary key: every row is valid, and no index has two rows of one key. -/
structure Table where
  rows : OrderedMap String Attempt
  keyed : ∀ id a, rows.get? id = some a → a.operationId = id
  valid : ∀ id a, rows.get? id = some a → Valid a
  unique : ∀ id id' a a', rows.get? id = some a → rows.get? id' = some a' → id ≠ id' →
    ∀ i : Index, ¬ i.clash a a'

/-- The first index that does not admit the row beside those under other keys. -/
def clashing? (rows : OrderedMap String Attempt) (key : Option String) (row : Attempt) : Option Index :=
  Index.all.find? fun i => rows.entries.any fun e => some e.1 ≠ key ∧ i.clash e.2 row

theorem clashing?_eq_none {rows : OrderedMap String Attempt} {key : Option String} {row : Attempt} :
    clashing? rows key row = none ↔
      ∀ id a, rows.get? id = some a → some id ≠ key → ∀ i : Index, ¬ i.clash a row := by
  simp only [clashing?, List.find?_eq_none, List.any_eq_true, decide_eq_true_eq, not_exists, not_and]
  constructor
  · intro free id a stored other i
    exact free i (by cases i <;> simp [Index.all]) (id, a) (OrderedMap.mem_entries.mpr stored) other
  · intro fits i _ e mem other
    exact fits e.1 e.2 (OrderedMap.mem_entries.mp mem) other i

namespace Table

def empty : Table where
  rows := ∅
  keyed _ _ stored := by rw [OrderedMap.get?_empty] at stored; cases stored
  valid _ _ stored := by rw [OrderedMap.get?_empty] at stored; cases stored
  unique _ _ _ _ stored := by rw [OrderedMap.get?_empty] at stored; cases stored

def get? (table : Table) (id : String) : Option Attempt := table.rows.get? id

/-- The rows satisfying a condition. -/
def select (table : Table) (p : Attempt → Bool) : List Attempt := table.rows.values.filter p

/-- The rows other than the one under `key` leave room for the row in every index. -/
def Fits (table : Table) (key : Option String) (row : Attempt) : Prop :=
  ∀ id a, table.get? id = some a → some id ≠ key → ∀ i : Index, ¬ i.clash a row

/-- The first index that has no room for the row. -/
def clash? (table : Table) (key : Option String) (row : Attempt) : Option Index :=
  Index.all.find? fun i => table.rows.entries.any fun e => some e.1 ≠ key ∧ i.clash e.2 row

theorem clash?_eq_none {table : Table} {key : Option String} {row : Attempt} :
    table.clash? key row = none ↔ table.Fits key row :=
  clashing?_eq_none

/-- The rows with the row in place of the one under `key`. -/
def putRows (rows : OrderedMap String Attempt) (key : Option String) (row : Attempt) :
    OrderedMap String Attempt :=
  (match key with
    | some k => if k = row.operationId then rows else rows.erase k
    | none => rows).set row.operationId row

theorem get?_putRows_self {rows : OrderedMap String Attempt} {key : Option String} {row : Attempt} :
    (putRows rows key row).get? row.operationId = some row :=
  OrderedMap.get?_set_self ..

theorem get?_putRows {rows : OrderedMap String Attempt} {key : Option String} {row a : Attempt}
    {id : String} (ne : id ≠ row.operationId) :
    (putRows rows key row).get? id = some a ↔ rows.get? id = some a ∧ some id ≠ key := by
  unfold putRows
  rw [OrderedMap.get?_set_of_ne _ ne]
  cases key with
  | none => simp
  | some k =>
      dsimp only
      split
      · rename_i same
        simp [same, ne]
      · by_cases erased : id = k
        · subst erased
          simp
        · simp [OrderedMap.get?_erase_of_ne _ erased, erased]

/-- The row replaces the one under `key`. -/
def put (table : Table) (key : Option String) (row : Attempt) (valid : Valid row)
    (fits : table.Fits key row) : Table where
  rows := putRows table.rows key row
  keyed id a stored := by
    by_cases same : id = row.operationId
    · subst same
      rw [get?_putRows_self] at stored
      rw [← Option.some.inj stored]
    · exact table.keyed id a ((get?_putRows same).mp stored).1
  valid id a stored := by
    by_cases same : id = row.operationId
    · subst same
      rw [get?_putRows_self] at stored
      rwa [← Option.some.inj stored]
    · exact table.valid id a ((get?_putRows same).mp stored).1
  unique id id' a a' stored stored' ne i := by
    by_cases same : id = row.operationId
    · subst same
      rw [get?_putRows_self] at stored
      obtain rfl := Option.some.inj stored
      obtain ⟨stored', other⟩ := (get?_putRows (Ne.symm ne)).mp stored'
      exact fun clash => fits id' a' stored' other i clash.symm
    · obtain ⟨stored, other⟩ := (get?_putRows same).mp stored
      by_cases same' : id' = row.operationId
      · subst same'
        rw [get?_putRows_self] at stored'
        obtain rfl := Option.some.inj stored'
        exact fits id a stored other i
      · exact table.unique id id' a a' stored ((get?_putRows same').mp stored').1 ne i

end Table

/-! ### Writes -/

/-- The CHECK constraint that the row violates. -/
def violation? (row : Attempt) : Option String :=
  ((checks row).find? fun check => ¬ check.2.Passes).map Prod.fst

theorem violation?_eq_none {row : Attempt} : violation? row = none ↔ Valid row := by
  simp only [violation?, Option.map_eq_none_iff, List.find?_eq_none, Valid, decide_eq_true_eq,
    not_not]

/-- One row written: it passes the triggers, the CHECK constraints and the indexes, and
replaces the old row, or is inserted where there is none. -/
def write (role : Role) (now : Timestamp) (table : Table) (old : Option Attempt) (new : Attempt) :
    Except DbError Table := do
  rejectAppRelease role old new
  enforceRoleState role now old new
  match valid : violation? new, free : table.clash? (old.map Attempt.operationId) new with
  | some check, _ => .error ⟨"23514", check⟩
  | none, some i => .error ⟨"23505", i.name⟩
  | none, none => .ok (table.put (old.map Attempt.operationId) new (violation?_eq_none.mp valid)
      (Table.clash?_eq_none.mp free))

section Writes

variable {role : Role} {now : Timestamp} {table table' : Table} {old : Option Attempt}
  {new : Attempt}

theorem write_ok : write role now table old new = .ok table' ↔
    rejectAppRelease role old new = .ok () ∧ enforceRoleState role now old new = .ok () ∧
      ∃ valid fits, table' = table.put (old.map Attempt.operationId) new valid fits := by
  unfold write
  cases rejectAppRelease role old new with
  | error => simp [bind, Except.bind]
  | ok =>
  cases enforceRoleState role now old new with
  | error => simp [bind, Except.bind]
  | ok =>
  simp only [bind, Except.bind, true_and]
  split
  · rename_i violated
    refine iff_of_false (by simp) fun ⟨valid, _⟩ => ?_
    rw [violation?_eq_none.mpr valid] at violated
    cases violated
  · rename_i clashes
    refine iff_of_false (by simp) fun ⟨_, fits, _⟩ => ?_
    rw [Table.clash?_eq_none.mpr fits] at clashes
    cases clashes
  · rename_i sound free
    rw [Except.ok.injEq]
    exact ⟨fun h => ⟨violation?_eq_none.mp sound, Table.clash?_eq_none.mp free, h.symm⟩,
      fun ⟨_, _, h⟩ => h.symm⟩

/-- A write that passes every check. -/
theorem write_put (unreleased : rejectAppRelease role old new = .ok ())
    (guarded : enforceRoleState role now old new = .ok ()) (valid : violation? new = none)
    (free : table.clash? (old.map Attempt.operationId) new = none) :
    write role now table old new = .ok (table.put (old.map Attempt.operationId) new
      (violation?_eq_none.mp valid) (Table.clash?_eq_none.mp free)) :=
  write_ok.mpr ⟨unreleased, guarded, _, _, rfl⟩

/-- After an insert the new row is stored, and the others stay. -/
theorem get?_insert (h : write role now table none new = .ok table') (id : String) :
    table'.get? id = if id = new.operationId then some new else table.get? id := by
  obtain ⟨-, -, valid, fits, rfl⟩ := write_ok.mp h
  split
  · rename_i same
    rw [same]
    exact Table.get?_putRows_self
  · rename_i ne
    refine Option.ext fun a => (Table.get?_putRows ne).trans (and_iff_left nofun)

/-- After an update that keeps the primary key the new row is stored, and the others stay. -/
theorem get?_update {old : Attempt} (h : write role now table (some old) new = .ok table')
    (same : new.operationId = old.operationId) (id : String) :
    table'.get? id = if id = old.operationId then some new else table.get? id := by
  obtain ⟨-, -, valid, fits, rfl⟩ := write_ok.mp h
  rw [← same]
  split
  · rename_i here
    rw [here]
    exact Table.get?_putRows_self
  · rename_i ne
    refine Option.ext fun a => (Table.get?_putRows ne).trans (and_iff_left ?_)
    rintro ⟨⟩
    exact ne same.symm

end Writes

end AgentReady.Settlement
