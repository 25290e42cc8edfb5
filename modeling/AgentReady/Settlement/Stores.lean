import AgentReady.Settlement.Conduct
import AgentReady.Settlement.Postgres

/-!
Both stores keep the laws of a store: they are rows under operation ids, and their methods do to
the rows what a worker relies on.

* `MemoryStore.laws`, `postgresLaws`: the laws of the two stores.
* `Backend`: the choice between them.
-/

namespace AgentReady.Settlement

open Coop

/-- The rows that satisfy a condition, where each is stored under its operation id. -/
theorem mem_filter_values {rows : OrderedMap String Attempt}
    (keyed : ∀ id a, rows.get? id = some a → a.operationId = id) {p : Attempt → Bool} {a : Attempt} :
    a ∈ rows.values.filter p ↔ rows.get? a.operationId = some a ∧ p a = true := by
  rw [List.mem_filter]
  refine and_congr_left fun _ => ⟨fun mem => ?_, fun stored => ?_⟩
  · obtain ⟨e, entry, rfl⟩ := List.mem_map.mp mem
    have stored := OrderedMap.mem_entries.mp entry
    rwa [← keyed _ _ stored] at stored
  · exact List.mem_map.mpr ⟨(a.operationId, a), OrderedMap.mem_entries.mpr stored, rfl⟩

section Order

variable {rows : List Attempt} {a : Attempt}

theorem mem_byCreation : a ∈ byCreation rows ↔ a ∈ rows := (List.perm_insertionSort _ rows).mem_iff

theorem mem_byUpdate : a ∈ byUpdate rows ↔ a ∈ rows := (List.perm_insertionSort _ rows).mem_iff

theorem mem_of_first (h : (byCreation rows).head? = some a) : a ∈ rows :=
  mem_byCreation.mp (List.mem_of_head? h)

theorem mem_of_latest (h : (byUpdate rows).getLast? = some a) : a ∈ rows :=
  mem_byUpdate.mp (List.mem_of_getLast? h)

end Order

theorem clean_fresh {R : Runtime} {now : Int} {input : ResolveInput} {revision : String} :
    Clean (R.freshAttempt now input revision) :=
  ⟨rfl, rfl, rfl, rfl, rfl, rfl, rfl, rfl, rfl⟩

/-! ### The store in memory -/

namespace MemoryStore

variable {s s' : MemoryStore} {id : String} {a : Attempt} {R : Runtime} {input : ResolveInput}

theorem get?_put (s : MemoryStore) (row : Attempt) :
    (s.put row).get? = Function.update s.get? row.operationId (some row) := by
  funext id
  by_cases same : id = row.operationId
  · subst same
    rw [Function.update_self]
    exact OrderedMap.get?_set_self ..
  · rw [Function.update_of_ne same]
    exact OrderedMap.get?_set_of_ne _ same _

theorem mem_select {p : Attempt → Bool} :
    a ∈ s.select p ↔ s.get? a.operationId = some a ∧ p a = true :=
  mem_filter_values s.keyed

/-- A conditional update finds its row and writes it, or leaves the store. -/
theorem updateIf_cases {condition : Attempt → Bool} {set : Attempt → Attempt} {out : List Attempt}
    (h : s.updateIf id condition set = (out, s')) :
    (out = [] ∧ s' = s) ∨ ∃ old, s.get? id = some old ∧ condition old = true ∧ out = [set old] ∧
      s' = s.put (set old) := by
  unfold updateIf at h
  split at h
  · rename_i old found
    cases h
    obtain ⟨stored, holds⟩ := Option.filter_eq_some_iff.mp found
    exact .inr ⟨old, stored, holds, rfl, rfl⟩
  · cases h
    exact .inl ⟨rfl, rfl⟩

theorem lapsed_iff {now : Int} : lapsed now a = true ↔ a.Lapsed now := by
  unfold lapsed Attempt.Lapsed
  cases a.leaseExpiresAt <;> simp

/-- What an update does to the rows, where the writer has the say. -/
theorem updateIf_writes {condition : Attempt → Bool} {set : Attempt → Attempt} {call : Call}
    {now : Int} {fence : String} {out : List Attempt} (h : s.updateIf id condition set = (out, s'))
    (key : ∀ old, (set old).operationId = old.operationId)
    (writes : ∀ old, old.operationId = id → condition old = true → Writes now fence old call (set old)) :
    (out = [] ∧ s'.get? = s.get?) ∨ ∃ old new, s.get? old.operationId = some old ∧
      Writes now fence old call new ∧ out = [new] ∧
      s'.get? = Function.update s.get? old.operationId (some new) := by
  rcases updateIf_cases h with ⟨rfl, rfl⟩ | ⟨old, stored, holds, rfl, rfl⟩
  · exact .inl ⟨rfl, rfl⟩
  · have same := s.keyed id old stored
    refine .inr ⟨old, set old, same.symm ▸ stored, writes old same holds, rfl, ?_⟩
    rw [get?_put, key]

theorem exec_writes {call : Call} {now : Int} {fence : String} {out : List Attempt}
    (single : call.Single) (h : s.exec now fence call = (out, s')) :
    (out = [] ∧ s'.get? = s.get?) ∨ ∃ old new, s.get? old.operationId = some old ∧
      Writes now fence old call new ∧ out = [new] ∧
      s'.get? = Function.update s.get? old.operationId (some new) := by
  cases call with
  | claimForSettle id owner leaseTtl sealedPayload payloadDigest =>
      refine updateIf_writes h (fun _ => rfl) ?_
      rintro old rfl holds
      exact .claim (by simpa using holds)
  | revalidateForSettle id owner held leaseTtl =>
      refine updateIf_writes h (fun _ => rfl) ?_
      rintro old rfl holds
      simp only [decide_eq_true_eq] at holds
      exact .renew holds.1 holds.2.1
  | transition id from_ to_ update owner held =>
      refine updateIf_writes h (fun _ => rfl) ?_
      rintro old rfl holds
      simp only [decide_eq_true_eq] at holds
      refine .transition holds.1 ?_
      rintro o rfl
      simpa using holds.2.1
  | claimRowForTakeover id owner leaseTtl =>
      refine updateIf_writes h (fun _ => rfl) ?_
      rintro old rfl holds
      simp only [open_, decide_eq_true_eq] at holds
      exact .takeover holds.1 (lapsed_iff.mp holds.2)
  | claimForReconcile => exact single.elim

/-- A row that answers a request is stored. -/
theorem existing_stored {row : Attempt} (h : s.existing input = some row) :
    s.get? row.operationId = some row := by
  unfold existing at h
  simp only [Option.orElse_eq_orElse, Option.orElse_eq_or, Option.or_eq_some_iff] at h
  rcases h with h | ⟨-, h | ⟨-, h | ⟨-, h⟩⟩⟩
  · obtain ⟨id, stored⟩ := (OrderedMap.find?_eq_some h).2
    have same := s.keyed id row stored
    exact same.symm ▸ stored
  · exact (mem_select.mp (mem_of_first h)).1
  · exact (mem_select.mp (mem_of_first h)).1
  · exact (mem_select.mp (List.mem_of_find?_eq_some h)).1

/-- Where no row answers a request, every attempt in its slot is resolved. -/
theorem slot_free (h : s.existing input = none) {id : String} (stored : s.get? id = some a)
    (slot : a.inSlot input = true) : a.status ∈ terminalResolved := by
  unfold existing at h
  simp only [Option.orElse_eq_orElse, Option.orElse_eq_or, Option.or_eq_none_iff,
    List.head?_eq_none_iff] at h
  by_contra unresolved
  have same := s.keyed id a stored
  have mem : a ∈ byCreation (s.select fun a => a.inSlot input ∧ a.status ∉ terminalResolved) :=
    mem_byCreation.mpr (mem_select.mpr ⟨same.symm ▸ stored, by simp [slot, unresolved]⟩)
  rw [h.2.2.1] at mem
  cases mem

/-- Where no row answers a request, no attempt has its payment id. -/
theorem payment_unused (h : s.existing input = none) {id : String} (stored : s.get? id = some a) :
    a.callerPaymentId ≠ input.callerPaymentId := by
  unfold existing at h
  simp only [Option.orElse_eq_orElse, Option.orElse_eq_or, Option.or_eq_none_iff,
    List.head?_eq_none_iff] at h
  intro carries
  have same := s.keyed id a stored
  have mem : a ∈ byCreation (s.select (·.callerPaymentId = input.callerPaymentId)) :=
    mem_byCreation.mpr (mem_select.mpr ⟨same.symm ▸ stored, by simp [carries]⟩)
  rw [h.2.1] at mem
  cases mem

/-- A request is answered by a stored row, or by the row that it creates. -/
theorem resolve_rows {now : Int} {draw : Nat} {result : ResolveResult}
    (h : resolve R now draw input s = (result, s')) :
    (s' = s ∧ s.get? result.row.operationId = some result.row) ∨
      (Creates s.get? s'.get? result.row) := by
  unfold resolve at h
  cases found : s.existing input with
  | some row =>
      simp only [found] at h
      cases h
      refine .inl ⟨rfl, ?_⟩
      have stored := existing_stored found
      unfold reuse
      split <;> exact stored
  | none =>
      simp only [found] at h
      split at h
      · rename_i row released _
        cases h
        exact .inl ⟨rfl, (mem_select.mp (mem_of_latest released)).1⟩
      · rename_i revision _
        split at h
        · rename_i row stored
          cases h
          exact .inl ⟨rfl, (s.keyed _ _ stored).symm ▸ stored⟩
        · rename_i free
          cases h
          refine .inr ⟨free, clean_fresh, rfl, rfl, fun id a stored slot => ?_, fun id a stored => ?_,
            get?_put ..⟩
          · exact slot_free found stored (decide_eq_true slot)
          · exact payment_unused found stored

def laws (R : Runtime) : StoreLaws (settlementStore R) where
  rows s := s.get?
  keyed {s id a} stored := s.keyed id a stored
  get _ _ := rfl
  exec single h := exec_writes single (Except.ok.inj h)
  resolve {c input s} calls guar := by
    unfold settlementStore
    dsimp only
    refine meets_statement calls fun s₁ relied _ result next done => ?_
    have path : ResolvePath (fun s : MemoryStore => s.get?) c.rely s s₁ := .single (.inl relied)
    have resolves : Resolves (fun s : MemoryStore => s.get?) s₁ next ∧
        next.store.get? result.row.operationId = some result.row := by
      cases resolved : resolve R s₁.clock s₁.draws input s₁.store
      rw [resolved] at done
      cases done
      rcases resolve_rows resolved with ⟨rfl, stored⟩ | creates
      · exact ⟨⟨rfl, rfl, .inl rfl⟩, stored⟩
      · refine ⟨⟨rfl, rfl, .inr ⟨_, creates⟩⟩, ?_⟩
        exact (congrFun creates.created _).trans (Function.update_self ..)
    refine ⟨guar s₁ next path resolves.1, fun s' relied' => ?_⟩
    exact ⟨next, path.tail (.inr resolves.1), .single (.inl relied'), resolves.2⟩

end MemoryStore

/-! ### The database -/

section Database

variable {role : Role} {now : Int} {table table' : Table} {a : Attempt} {R : Runtime}
  {input : ResolveInput}

theorem Table.mem_select {p : Attempt → Bool} :
    a ∈ table.select p ↔ table.get? a.operationId = some a ∧ p a = true :=
  mem_filter_values table.keyed

/-- What an update does to the rows, where the writer has the say. -/
theorem updateWhere_writes {condition : Attempt → Sql.Truth} {set : Attempt → Attempt} {call : Call}
    {id fence : String} {row : Option Attempt}
    (h : updateWhere role now table id condition set = .ok (row, table'))
    (key : ∀ old, (set old).operationId = old.operationId)
    (writes : ∀ old, old.operationId = id → (condition old).Fires →
      Writes now fence old call (set old)) :
    (row.toList = [] ∧ table'.get? = table.get?) ∨
      ∃ old new, table.get? old.operationId = some old ∧ Writes now fence old call new ∧
        row.toList = [new] ∧ table'.get? = Function.update table.get? old.operationId (some new) := by
  rcases updateWhere_ok h with ⟨rfl, rfl⟩ | ⟨old, stored, fires, rfl, written⟩
  · exact .inl ⟨rfl, rfl⟩
  · have same := table.keyed id old stored
    refine .inr ⟨old, set old, same.symm ▸ stored, writes old same fires, rfl, ?_⟩
    funext id'
    rw [get?_update written (key old), Function.update_apply]

theorem exec_writes {call : Call} {fence : String} {out : List Attempt} (single : call.Single)
    (h : call.exec role now fence table = .ok (out, table')) :
    (out = [] ∧ table'.get? = table.get?) ∨
      ∃ old new, table.get? old.operationId = some old ∧ Writes now fence old call new ∧
        out = [new] ∧ table'.get? = Function.update table.get? old.operationId (some new) := by
  cases call with
  | claimForSettle id owner leaseTtl sealedPayload payloadDigest =>
      obtain ⟨row, done, rfl⟩ := single_ok h
      refine updateWhere_writes done (fun _ => rfl) ?_
      rintro old rfl fires
      exact .claim (Sql.fires_is.mp fires)
  | revalidateForSettle id owner held leaseTtl =>
      obtain ⟨row, done, rfl⟩ := single_ok h
      refine updateWhere_writes done (fun _ => rfl) ?_
      rintro old rfl fires
      rw [Sql.Truth.fires_and, Sql.fires_is, presents_fires] at fires
      exact .renew fires.1 fires.2.1
  | transition id from_ to_ update owner held =>
      obtain ⟨row, done, rfl⟩ := single_ok h
      unfold transition at done
      split at done
      · split at done
        · refine updateWhere_writes done (fun _ => rfl) ?_
          rintro old rfl fires
          exact .transition (Sql.fires_is.mp fires) (by rintro _ ⟨⟩)
        · cases done
          exact .inl ⟨rfl, rfl⟩
      · refine updateWhere_writes done (fun _ => rfl) ?_
        rintro old rfl fires
        rw [Sql.Truth.fires_and, Sql.fires_is, presents_fires] at fires
        refine .transition fires.1 ?_
        rintro o ⟨⟩
        exact fires.2.1
      · cases done
        exact .inl ⟨rfl, rfl⟩
  | claimRowForTakeover id owner leaseTtl =>
      obtain ⟨row, done, rfl⟩ := single_ok h
      refine updateWhere_writes done (fun _ => rfl) ?_
      rintro old rfl fires
      rw [Attempt.open_, Sql.Truth.fires_and, Sql.fires_is, expired_fires] at fires
      exact .takeover fires.1 fires.2
  | claimForReconcile => exact single.elim

/-- An accepted INSERT of a fresh attempt creates it. -/
theorem creates_of_insert {revision : String}
    (h : write role now table none (R.freshAttempt now input revision) = .ok table') :
    Creates table.get? table'.get? (R.freshAttempt now input revision) := by
  obtain ⟨-, -, valid, fits, -⟩ := write_ok.mp h
  refine ⟨?_, clean_fresh, rfl, rfl, fun id a stored slot => ?_, fun id a stored => ?_, ?_⟩
  · by_contra taken
    obtain ⟨a, stored⟩ := Option.ne_none_iff_exists'.mp taken
    exact fits _ a stored nofun .pkey ⟨trivial, trivial, table.keyed _ a stored⟩
  · by_contra unresolved
    have covers : AttemptStatus.pending ∉ terminalResolved := by decide
    exact fits id a stored nofun .activeOrderIntent ⟨unresolved, covers, slot⟩
  · intro carries
    exact fits id a stored nofun .paymentIdOnce ⟨trivial, trivial, carries⟩
  · funext id
    rw [get?_insert h, Function.update_apply]

/-- The winner that was read already. -/
def Resolving.winner : Resolving → Option Attempt
  | reread _ _ winner => winner
  | _ => none

/-- The row is in the table, or was read before. -/
def Answers (table : Table) (phase : Resolving) (row : Attempt) : Prop :=
  table.get? row.operationId = some row ∨ phase.winner = some row

theorem reuse_row {row : Attempt} : (reuse input row).row = row := by
  unfold reuse
  split <;> rfl

theorem reading_stored {revision : String} {left : Nat} {row : Attempt}
    (h : Resolving.reading R input revision table left = some row) :
    table.get? row.operationId = some row := by
  unfold Resolving.reading at h
  split at h
  · exact (table.keyed _ _ h).symm ▸ h
  · exact (Table.mem_select.mp (mem_of_first h)).1
  · exact (Table.mem_select.mp (mem_of_first h)).1
  · exact (Table.mem_select.mp (mem_of_first h)).1
  · exact (Table.mem_select.mp (mem_of_latest h)).1

/-- The row that a statement answers, or keeps for later, is stored. -/
def Progress.Rests (table : Table) (phase : Resolving) : Progress → Prop
  | .done (.ok result) => Answers table phase result.row
  | .done (.error _) => True
  | .next phase' => ∀ row, phase'.winner = some row → Answers table phase row

theorem rests_orElse {row : Option Attempt} {phase next : Resolving}
    (stored : ∀ a, row = some a → table.get? a.operationId = some a) (fresh : next.winner = none) :
    (Resolving.orElse input row next).Rests table phase := by
  cases row with
  | some a =>
      change Answers table phase (reuse input a).row
      rw [reuse_row]
      exact .inl (stored a rfl)
  | none =>
      intro row winner
      cases fresh.symm.trans winner

/-- What a statement of `resolveOrCreate` does to the rows, and what its answer rests on. -/
theorem Resolving.advances {phase : Resolving} {draws draws' : Nat} {progress : Progress}
    (h : phase.advance R role input now draws table = (progress, table', draws')) :
    (table'.get? = table.get? ∨ ∃ fresh, Creates table.get? table'.get? fresh) ∧
      progress.Rests table' phase := by
  have first : ∀ {p : Attempt → Bool} (a : Attempt),
      (byCreation (table.select p)).head? = some a → table.get? a.operationId = some a :=
    fun a found => (Table.mem_select.mp (mem_of_first found)).1
  have latest : ∀ {p : Attempt → Bool} (a : Attempt),
      (byUpdate (table.select p)).getLast? = some a → table.get? a.operationId = some a :=
    fun a found => (Table.mem_select.mp (mem_of_latest found)).1
  cases phase with
  | replay =>
      cases h
      exact ⟨.inl rfl, rests_orElse first rfl⟩
  | payment =>
      cases h
      exact ⟨.inl rfl, rests_orElse first rfl⟩
  | active =>
      cases h
      exact ⟨.inl rfl, rests_orElse first rfl⟩
  | settled =>
      cases h
      exact ⟨.inl rfl, rests_orElse latest rfl⟩
  | released =>
      unfold advance at h
      dsimp only at h
      split at h
      · rename_i row found _
        cases h
        exact ⟨.inl rfl, .inl (latest row found)⟩
      · cases h
        refine ⟨.inl rfl, ?_⟩
        rintro row ⟨⟩
  | insert revision =>
      unfold advance at h
      dsimp only at h
      split at h
      · rename_i inserted accepted
        cases h
        have creates := creates_of_insert accepted
        exact ⟨.inr ⟨_, creates⟩, .inl ((congrFun creates.created _).trans (Function.update_self ..))⟩
      · split at h
        · cases h
          refine ⟨.inl rfl, ?_⟩
          rintro row ⟨⟩
        · cases h
          exact ⟨.inl rfl, trivial⟩
  | reread revision left winner =>
      have answers : ∀ row, (winner <|> reading R input revision table left) = some row →
          Answers table (.reread revision left winner) row := by
        intro row found
        simp only [Option.orElse_eq_orElse, Option.orElse_eq_or, Option.or_eq_some_iff] at found
        rcases found with known | ⟨-, read⟩
        · exact .inr known
        · exact .inl (reading_stored read)
      unfold advance at h
      dsimp only at h
      split at h
      · cases h
        exact ⟨.inl rfl, answers⟩
      · rename_i row found
        cases h
        refine ⟨.inl rfl, ?_⟩
        change Answers table _ (reuse input row).row
        rw [reuse_row]
        exact answers row found
      · cases h
        exact ⟨.inl rfl, trivial⟩

/-- Steps of the others and of `resolveOrCreate`, over the rows of the database. -/
abbrev TablePath (c : Contract (World Table) Ask.Answer) : World Table → World Table → Prop :=
  ResolvePath (fun table : Table => table.get?) c.rely

/-- The row was stored between two worlds. -/
def StoredBetween (c : Contract (World Table) Ask.Answer) (s s' : World Table) (row : Attempt) :
    Prop :=
  ∃ s₀, TablePath c s s₀ ∧ TablePath c s₀ s' ∧ s₀.store.get? row.operationId = some row

theorem resolveFrom_meets {c : Contract (World Table) Ask.Answer} {s s₁ : World Table}
    (calls : ∀ q s', c.calls q s')
    (guar : ∀ a b, TablePath c s a → Resolves (fun table : Table => table.get?) a b → c.guar a b)
    {left : Nat} {phase : Resolving} (path : TablePath c s s₁)
    (known : ∀ row, phase.winner = some row → StoredBetween c s s₁ row) :
    (resolveFrom R role input left phase).Meets c
      (Reports fun result s' => StoredBetween c s s' result.row) s₁ := by
  induction left generalizing phase s₁ with
  | zero => trivial
  | succ left ih =>
      unfold resolveFrom
      refine reports_bind (P := fun progress s' => ∃ s₂, TablePath c s₁ s₂ ∧ c.rely s₂ s' ∧
        progress.Rests s₂.store phase) ?_ fun progress s' ended => ?_
      · refine meets_statement calls fun s₂ relied _ progress next done => ?_
        cases advanced : phase.advance R role input s₂.clock s₂.draws s₂.store with
        | mk progress' rest =>
            rw [advanced] at done
            cases done
            obtain ⟨rows, rests⟩ := Resolving.advances advanced
            have resolves : Resolves (fun table : Table => table.get?) s₂
                { s₂ with store := rest.1, draws := rest.2 } := ⟨rfl, rfl, rows⟩
            refine ⟨guar _ _ (path.tail (.inl relied)) resolves, fun s' relied' => ?_⟩
            exact ⟨_, .tail (.single (.inl relied)) (.inr resolves), relied', rests⟩
      · obtain ⟨s₂, path', relied, rests⟩ := ended
        have after : TablePath c s₁ s' := path'.tail (.inl relied)
        have answered : ∀ row, Answers s₂.store phase row → StoredBetween c s s' row := by
          rintro row (stored | winner)
          · exact ⟨s₂, path.trans path', .single (.inl relied), stored⟩
          · obtain ⟨s₀, before, between, stored⟩ := known row winner
            exact ⟨s₀, before, between.trans after, stored⟩
        cases progress with
        | next phase' =>
            exact ih (path.trans after) fun row winner => answered row (rests row winner)
        | done result =>
            cases result with
            | ok result => exact reports_return (answered result.row rests)
            | error e => trivial

def postgresLaws (R : Runtime) (role : Role) (sealSignedPayload : String → String) :
    StoreLaws (postgresStore R role sealSignedPayload) where
  rows table := table.get?
  keyed {table id a} stored := table.keyed id a stored
  get _ _ := rfl
  exec single h := exec_writes single h
  resolve {c input s} calls guar := by
    refine resolveFrom_meets calls guar .refl ?_
    rintro row ⟨⟩

end Database

/-! ### Deployments -/

/-- The two stores. -/
inductive Backend where
  | memory
  | postgres (role : Role) (sealSignedPayload : String → String)

namespace Backend

/-- What the store holds. -/
def State : Backend → Type
  | memory => MemoryStore
  | postgres .. => Table

def store (R : Runtime) : (b : Backend) → SettlementStore b.State
  | memory => MemoryStore.settlementStore R
  | postgres role sealSignedPayload => postgresStore R role sealSignedPayload

def laws (R : Runtime) : (b : Backend) → StoreLaws (b.store R)
  | memory => MemoryStore.laws R
  | postgres role sealSignedPayload => postgresLaws R role sealSignedPayload

/-- The rows that a store holds, by operation id. -/
def rows : (b : Backend) → b.State → String → Option Attempt
  | memory => MemoryStore.get?
  | postgres .. => Table.get?

/-- Nothing is stored. -/
def empty : (b : Backend) → b.State
  | memory => MemoryStore.empty
  | postgres .. => Table.empty

theorem laws_rows (R : Runtime) (b : Backend) : (b.laws R).rows = b.rows := by
  cases b <;> rfl

theorem rows_empty (b : Backend) (id : String) : b.rows b.empty id = none := by
  cases b <;> rfl

end Backend

/-- The paid resource over one of the two stores. -/
structure Deployment (b : Backend) extends DevnetMachineResource b.State where
  backed : store = b.store runtime

/-- The laws of the store of a deployment. -/
def Deployment.laws {b : Backend} (self : Deployment b) : StoreLaws self.store :=
  self.backed ▸ b.laws self.runtime

theorem Deployment.laws_rows {b : Backend} (self : Deployment b) : self.laws.rows = b.rows := by
  obtain ⟨⟨runtime, config, store, _, _, _, _, _, _⟩, backed⟩ := self
  dsimp only at backed
  subst backed
  exact b.laws_rows runtime

/-! ### A deployment for one request

The store in memory, and what the libraries answer about two payments for one request. -/

namespace Sample

def spendingRequest : ToolSpendRequest where
  orderId := "ord_1"
  intentVersion := 0
  resource := resourceUrl
  amountMinor := 10000
  network := solanaDevnetCaip2
  asset := "usdc_mint"
  payee := "payee_key"
  purpose := "premium_fit_score"

def requestDigest : String := "8f42af74e1491ea757655d7766792758f8f8ae4c27275299b4f044a11ff5382c"

def paymentId : String := "pay_0123456789abcdef"

/-- The payload of a payment with a signed transaction. -/
def payload (transaction : String) : Json :=
  .obj [("x402Version", .num 2),
    ("accepted", .obj [("scheme", .str "exact"), ("network", .str solanaDevnetCaip2),
      ("asset", .str "usdc_mint"), ("amount", .str "10000"), ("payTo", .str "payee_key"),
      ("extra", .obj [("memo", .str (memoForEnvelope requestDigest))])]),
    ("payload", .obj [("transaction", .str transaction)]),
    ("extensions", .obj [("payment-identifier",
      .obj [("info", .obj [("required", .bool true), ("id", .str paymentId)])])])]

/-- The header of a payment; its payloads differ in two characters. -/
def header (transaction : String) : String :=
  "eyJ4NDAyVmVyc2lvbiI6MiwiYWNjZXB0ZWQiOnsic2NoZW1lIjoiZXhhY3QiLCJuZXR3b3JrIjoic29sYW5h" ++
    "OkV0V1RSQUJaYVlxNmlNZmVZS291UnUxNjZWVTJ4cWExIiwiYXNzZXQiOiJ1c2RjX21pbnQiLCJhbW91bnQi" ++
    "OiIxMDAwMCIsInBheVRvIjoicGF5ZWVfa2V5IiwiZXh0cmEiOnsibWVtbyI6ImFnZW50Y2FydDp2MTo4ZjQy" ++
    "YWY3NGUxNDkxZWE3NTc2NTVkNzc2Njc5Mjc1OGY4ZjhhZTRjMjcyNzUyOTliNGYwNDRhMTFmZjUzODJjIn19" ++
    "LCJwYXlsb2FkIjp7InRyYW5zYWN0aW9uIjoiQ" ++ transaction ++
    "9PSJ9LCJleHRlbnNpb25zIjp7InBheW1lbnQtaWRlbnRpZmllciI6eyJpbmZvIjp7InJlcXVpcmVkIjp0cnV" ++
    "lLCJpZCI6InBheV8wMTIzNDU2Nzg5YWJjZGVmIn19fX0"

def firstPayment : String := header "VE"

def secondPayment : String := header "Wc"

def firstDigest : String := "557864e6cca036f9aac04cd6f12cf0431244fc7be0952497152f67ce67c347a4"

def secondDigest : String := "51da7ff6dd59045732c7cfcb18613f3f08450dff33e85bff48d0053d6264b8c3"

def operationId : String := "72e215cd0f50b520d62bf42ae39f4e408a2e12d4c425a9937c528086ce123255"

/-- SHA-256 of the texts that are hashed here. -/
def sha256 (text : String) : String :=
  if text = firstPayment then firstDigest
  else if text = secondPayment then secondDigest
  else if text = "|".intercalate ["ord_1", "0", requestDigest, resourceUrl,
      "sauth_00000000000040008000000000000000"] then operationId
  else requestDigest

theorem sha256_ne_empty (text : String) : sha256 text ≠ "" := by
  unfold sha256
  split_ifs <;> decide

def runtime : Runtime where
  platform := {
    sha256, hmacSha256 := fun _ payload => payload, randomHex := fun n => toString n
    parseDate := fun _ => none, parseJson := fun _ => none, localOffset := 0 }
  uuid n := "00000000-0000-4000-8000-" ++
    String.ofList (List.replicate (12 - (toString n).length) '0') ++ toString n
  sha256_ne_empty := sha256_ne_empty

def resource : DevnetMachineResource MemoryStore where
  runtime := runtime
  config := {
    facilitatorUrl := "https://facilitator", solanaRpcUrl := some "https://rpc"
    payerPublicKey := "payer_key", payeePublicKey := "payee_key", devnetUsdcMint := "usdc_mint"
    amountMinor := 10000 }
  store := MemoryStore.settlementStore runtime
  leaseTtl := ⟨60000000, by decide⟩
  supportedFeePayer := none
  decodePayment text :=
    if text = firstPayment then some (payload "AQ==")
    else if text = secondPayment then some (payload "Ag==") else none
  encodeHeader _ := ""
  paymentIdentifier payload :=
    Json.stringValue (Json.optional (Json.optional (Json.optional (Json.optional (some payload)
      "extensions") "payment-identifier") "info") "id")

def deployment : Deployment .memory := { resource with backed := rfl }

/-- A call of `accept` with one of the payments. -/
def call (paymentSignatureHeader workerUuid : String) : DevnetMachineResource.AcceptCall where
  paymentSignatureHeader
  requestDigest
  spendingRequest
  workerUuid
  rejoins := 1

end Sample

end AgentReady.Settlement
