import AgentReady.Settlement.Fencing
import AgentReady.Settlement.Pools
import AgentReady.Settlement.Release

/-!
The reconciliation by an operator (`packages/payments/src/operator.ts`): a signature that was
verified on chain is persisted under a lease that the operator takes over.

Any number of reconciliations run over one of the two stores, while workers claim, take over and
transition attempts, and leases run out.

* `reconciles_faithfully`: as long as no worker binds a signature to an attempt between a
  reconciliation's read and its takeover, no reconciliation settles an attempt by another signature
  than the one it is bound to, and none touches a resolved attempt.
* `reconciles_faithfully_false`: a signature that a worker binds in between is overwritten.
-/

namespace AgentReady.Settlement

open Coop

/-- What a reconciliation is given. -/
structure ReconcileInput where
  operationId : String
  operatorId : String
  txHash : String
  /-- The slot of the inspection; it may be no integer. -/
  checkedSlot : Json.Number
  note : String
  evidence : List (String × Json)

/-- `ReconcileSettledPersistenceResult`. -/
inductive Reconciled where
  | persisted (row : Attempt) (alreadySettled : Bool)
  | refused (reasons : List String)

namespace ReconcileInput

/-- `validateReconcileSettledEvidence`. -/
def reasons (input : ReconcileInput) : List String :=
  unlessReason (input.operatorId ≠ "") "operator identity is required" ++
  unlessReason (32 ≤ utf16Length input.txHash) "a finalized transaction signature is required" ++
  unlessReason (isSlot input.checkedSlot)
    "checkedSlot must be the integer chain slot of the finality inspection" ++
  unlessReason (input.note ≠ "") "operator note is required"

/-- The evidence states another text under the name. -/
def disagrees (input : ReconcileInput) (name expected : String) : Bool :=
  match Json.field? input.evidence name with
  | some (.str stated) => stated ≠ expected
  | _ => false

/-- The owner of the lease that the operator takes over. -/
def owner (input : ReconcileInput) : String := "operator-" ++ input.operatorId

/-- The reasons to refuse a row that was read. -/
def rowReason (input : ReconcileInput) (row : Attempt) : Option String :=
  if row.status ∉ leasedStatuses then
    some ("reconcile requires status settling/awaiting_evidence (current: " ++ row.status.text ++ ")")
  else if row.txHash.getD "" ≠ "" ∧ row.txHash ≠ some input.txHash then
    some "a different transaction signature is already bound to this attempt"
  else if row.payer.getD "" = "" then some "attempt has no verified payer"
  else if input.disagrees "transactionHash" input.txHash then
    some "evidence transaction signature does not match the cited signature"
  else if input.disagrees "requestDigest" row.requestDigest then
    some "evidence request digest does not match the attempt"
  else if input.disagrees "paymentIdentifier" row.callerPaymentId then
    some "evidence payment identifier does not match the attempt"
  else none

end ReconcileInput

theorem operatorLeaseTtl_positive : (0 : Int) < 60000000 := by decide

/-- The operator's lease: a minute. -/
def operatorLeaseTtl : LeaseTtl := ⟨60000000, operatorLeaseTtl_positive⟩

def persistReconciledSettlement {S : Type} (store : SettlementStore S) (R : Runtime)
    (input : ReconcileInput) : Machine S Reconciled := do
  let reasons := input.reasons ++
    unlessReason (input.operationId ≠ "") "operation identity is required"
  if reasons ≠ [] then return .refused reasons
  else
    match ← store.getByOperationId input.operationId with
    | none => return .refused ["unknown operation"]
    | some row =>
        if row.status = .settled then
          if row.txHash = some input.txHash then return .persisted row true
          else return .refused ["attempt is already settled with a different transaction signature"]
        else
          match input.rowReason row with
          | some reason => return .refused [reason]
          | none =>
              match ← store.claimRowForTakeover R row.operationId input.owner operatorLeaseTtl with
              | none =>
                  return .refused ["could not claim the attempt (lease still active or status changed)"]
              | some claimed =>
                  let settled ← store.transition R row.operationId leasedStatuses .settled
                    { txHash := some (some input.txHash), evidenceJson := some (.obj input.evidence) }
                    claimed.leaseOwner claimed.fenceToken
                  match settled with
                  | some settled => return .persisted settled false
                  | none =>
                      let current ← store.getByOperationId row.operationId
                      match current.filter fun row =>
                          row.status = .settled ∧ row.txHash = some input.txHash with
                      | some current => return .persisted current true
                      | none =>
                          return .refused ["reconcile transition refused (lease lost or status changed)"]

/-! ### What workers do -/

/-- The owner of a lease is an operator: workers are named `worker-`, `reconcile-` and `takeover-`. -/
def IsOperator (owner : String) : Prop := "operator-".toList <+: owner.toList

/-- A call as a worker makes it: in its own name, or to stage a pending attempt. -/
def Call.OfWorker : Call → Prop
  | claimForSettle _ owner _ _ _ | revalidateForSettle _ owner _ _ | claimRowForTakeover _ owner _
  | claimForReconcile owner _ _ => ¬ IsOperator owner
  | transition _ from_ to_ _ owner fence =>
      (∃ o f, owner = some o ∧ fence = some f ∧ ¬ IsOperator o) ∨
        (owner = none ∧ fence = none ∧ from_ = [.pending] ∧ to_ = .pending)

namespace Backend

/-- A call of a worker, under its role. -/
def execAs (role : Role) : (b : Backend) → Call → Int → String → b.State →
    Except DbError (List Attempt × b.State)
  | memory, call, now, fence, s => .ok (MemoryStore.exec now fence s call)
  | postgres .., call, now, fence, table => Call.exec role now fence table call

end Backend

/-- The clocks move, or a worker calls the store, under any role and a fresh fence. -/
inductive WorkerActs (R : Runtime) (b : Backend) (s : World b.State) : World b.State → Prop where
  | time (clock date : Int) : WorkerActs R b s { s with clock, date }
  | call {role : Role} {call : Call} {out : List Attempt} {next : b.State} (worker : call.OfWorker)
      (done : b.execAs role call s.clock (R.uuid s.draws) s.store = .ok (out, next)) :
      WorkerActs R b s { s with store := next, draws := s.draws + 1 }

/-- The row is bound to no signature, or to this one. -/
def Attempt.Open (a : Attempt) (txHash : String) : Prop :=
  a.txHash.getD "" = "" ∨ a.txHash = some txHash

instance (a : Attempt) (txHash : String) : Decidable (a.Open txHash) :=
  inferInstanceAs (Decidable (_ ∨ _))

/-- No reconciliation takes over an attempt that a worker has bound to another signature since it was
read. -/
def Timely {ι S : Type} (rows : S → String → Option Attempt) (inputs : ι → ReconcileInput) :
    (q : ι × Ask) → q.2.Answer → World S → Prop
  | (i, .dispatch (.call (.claimRowForTakeover id _ _))), .through, s =>
      ∀ a ∈ rows s.store id, MemoryStore.open_ s.clock a → a.Open (inputs i).txHash
  | _, _, _ => True

/-- The attempt that an answered statement takes over. -/
def Ask.takenOver? : (q : Ask) → q.Answer → Option String
  | .dispatch (.call (.claimRowForTakeover id _ _)), .through => some id
  | _, _ => none

theorem timely_iff {ι S : Type} {rows : S → String → Option Attempt} {inputs : ι → ReconcileInput}
    {q : ι × Ask} {a : q.2.Answer} {s : World S} : Timely rows inputs q a s ↔
      ∀ id ∈ q.2.takenOver? a, ∀ row ∈ rows s.store id, MemoryStore.open_ s.clock row →
        row.Open (inputs q.1).txHash := by
  obtain ⟨i, ask⟩ := q
  unfold Timely
  split
  · rename_i same through
    cases same
    cases through
    simp [Ask.takenOver?]
  · rename_i other
    unfold Ask.takenOver?
    dsimp only
    split
    · exact (other i _ _ _ rfl .rfl).elim
    · simp

instance {ι S : Type} (rows : S → String → Option Attempt) (inputs : ι → ReconcileInput)
    (q : ι × Ask) (a : q.2.Answer) (s : World S) : Decidable (Timely rows inputs q a s) :=
  decidable_of_iff _ timely_iff.symm

/-- What a reconciliation may do to an attempt: one that no worker holds stays as it is, and one that
is settled is settled by the signature it was bound to, if any. -/
structure Attempt.Faithful (a a' : Attempt) : Prop where
  resolved : a.status ∉ leasedStatuses → a' = a
  bound : a.status ≠ .settled → a'.status = .settled → a.txHash.getD "" = "" ∨ a'.txHash = a.txHash
  unbound : a'.status ≠ .settled → a'.txHash = a.txHash

theorem Attempt.Faithful.refl (a : Attempt) : a.Faithful a where
  resolved _ := rfl
  bound _ _ := .inr rfl
  unbound _ := rfl

theorem Attempt.Faithful.trans {a b d : Attempt} (h : a.Faithful b) (h' : b.Faithful d) :
    a.Faithful d where
  resolved free := by
    obtain rfl := h.resolved free
    exact h'.resolved free
  bound unsettled settled := by
    by_cases between : b.status = .settled
    · have same := h'.resolved (by rw [between]; decide)
      exact same ▸ h.bound unsettled between
    · rw [← h.unbound between]
      exact h'.bound between settled
  unbound unsettled := by
    have between : b.status ≠ .settled := by
      intro settled
      have same := h'.resolved (by rw [settled]; decide)
      exact unsettled (same ▸ settled)
    exact (h'.unbound unsettled).trans (h.unbound between)

/-! ### What a call does to the rows -/

/-- A row that is written over itself. -/
theorem rowwise_update {P : Attempt → Attempt → Prop} (refl : ∀ a, P a a)
    {rows : String → Option Attempt} {old new : Attempt} (stored : rows old.operationId = some old)
    (related : P old new) : Rowwise P rows (Function.update rows old.operationId (some new)) := by
  intro id a stored'
  by_cases here : id = old.operationId
  · subst here
    obtain rfl := Option.some.inj (stored.symm.trans stored')
    exact ⟨new, Function.update_self .., related⟩
  · exact ⟨a, by rw [Function.update_of_ne here, stored'], refl a⟩

/-- What a call does to a row: nothing, what it says of one row, or a claim under its fence. -/
def Call.Affects (now : Int) (fence : String) (call : Call) (a a' : Attempt) : Prop :=
  a' = a ∨ Writes now fence a call a' ∨ a'.fenceToken = some fence

/-- The row stays, or is claimed. -/
def Attempt.Claimed (fence : String) (a a' : Attempt) : Prop := a' = a ∨ a'.fenceToken = some fence

theorem Attempt.Claimed.trans {fence : String} (a b d : Attempt) (h : a.Claimed fence b)
    (h' : b.Claimed fence d) : a.Claimed fence d := by
  rcases h' with rfl | claimed
  · exact h
  · exact .inr claimed

section Calls

variable {now : Int} {fence : String} {out : List Attempt} {call : Call}

theorem MemoryStore.rowwise_putEach {list : List Attempt} (s : MemoryStore)
    (claimed : ∀ row ∈ list, row.fenceToken = some fence) :
    Rowwise (Attempt.Claimed fence) s.get? (s.putEach list).get? := by
  induction list generalizing s with
  | nil => exact .refl (fun _ => .inl rfl) _
  | cons row rest ih =>
      have first : Rowwise (Attempt.Claimed fence) s.get? (s.put row).get? := by
        intro id a stored
        rw [MemoryStore.get?_put]
        by_cases here : id = row.operationId
        · subst here
          exact ⟨row, Function.update_self .., .inr (claimed row List.mem_cons_self)⟩
        · exact ⟨a, by rw [Function.update_of_ne here, stored], .inl rfl⟩
      exact first.trans Attempt.Claimed.trans
        (ih _ fun row mem => claimed row (List.mem_cons_of_mem _ mem))

theorem rowwise_updateEach {role : Role} {set : Attempt → Attempt} {table table' : Table}
    {list : List Attempt} (h : updateEach role now set table list = .ok table')
    (key : ∀ a, (set a).operationId = a.operationId) (mints : ∀ a, (set a).fenceToken = some fence) :
    Rowwise (Attempt.Claimed fence) table.get? table'.get? := by
  induction list generalizing table with
  | nil =>
      cases h
      exact .refl (fun _ => .inl rfl) _
  | cons old rest ih =>
      unfold updateEach at h
      cases written : write role now table (some old) (set old) with
      | error => simp [written, bind, Except.bind] at h
      | ok table₁ =>
          simp only [written, bind, Except.bind] at h
          have first : Rowwise (Attempt.Claimed fence) table.get? table₁.get? := by
            intro id a stored
            rw [get?_update written (key old)]
            split
            · exact ⟨_, rfl, .inr (mints old)⟩
            · exact ⟨a, stored, .inl rfl⟩
          exact first.trans Attempt.Claimed.trans (ih h)

/-- Whether it is about one row or not, a call leaves every row in its place. -/
theorem affects_of_single {rows rows' : String → Option Attempt}
    (h : (out = [] ∧ rows' = rows) ∨ ∃ old new, rows old.operationId = some old ∧
      Writes now fence old call new ∧ out = [new] ∧
      rows' = Function.update rows old.operationId (some new)) :
    Rowwise (call.Affects now fence) rows rows' := by
  rcases h with ⟨-, rfl⟩ | ⟨old, new, stored, writes, -, rfl⟩
  · exact .refl (fun _ => .inl rfl) _
  · exact rowwise_update (fun _ => .inl rfl) stored (.inr (.inl writes))

theorem Rowwise.affects {rows rows' : String → Option Attempt}
    (h : Rowwise (Attempt.Claimed fence) rows rows') : Rowwise (call.Affects now fence) rows rows' := by
  intro id a stored
  obtain ⟨a', stored', same | claimed⟩ := h id a stored
  · exact ⟨a', stored', .inl same⟩
  · exact ⟨a', stored', .inr (.inr claimed)⟩

theorem Backend.execAs_affects {b : Backend} {role : Role} {s s' : b.State}
    (h : b.execAs role call now fence s = .ok (out, s')) :
    Rowwise (call.Affects now fence) (b.rows s) (b.rows s') := by
  cases b with
  | memory =>
      have done := Except.ok.inj h
      cases call with
      | claimForReconcile owner leaseTtl limit =>
          obtain ⟨-, rfl⟩ := Prod.mk.inj done
          refine (MemoryStore.rowwise_putEach s fun row mem => ?_).affects
          obtain ⟨a, -, rfl⟩ := List.mem_map.mp mem
          rfl
      | _ => exact affects_of_single (MemoryStore.exec_writes trivial done)
  | postgres =>
      cases call with
      | claimForReconcile owner leaseTtl limit =>
          exact (rowwise_updateEach (reconcile_ok h).1 (fun _ => rfl) fun _ => rfl).affects
      | _ => exact affects_of_single (exec_writes trivial h)

/-- A transition in the name of an owner with a fence writes a row that both hold. -/
theorem Backend.transition_held {b : Backend} {role : Role} {s s' : b.State} {id owner held : String}
    {from_ : List AttemptStatus} {to_ : AttemptStatus} {update : Update}
    (h : b.execAs role (.transition id from_ to_ update (some owner) (some held)) now fence s =
      .ok (out, s')) :
    b.rows s' = b.rows s ∨ ∃ old, b.rows s old.operationId = some old ∧ old.operationId = id ∧
      old.status ∈ from_ ∧ old.fenceToken = some held ∧
      b.rows s' = Function.update (b.rows s) old.operationId
        (some (old.transitioned now to_ update)) := by
  cases b with
  | memory =>
      rcases MemoryStore.updateIf_cases (Except.ok.inj h) with ⟨-, rfl⟩ | ⟨old, stored, holds, -, rfl⟩
      · exact .inl rfl
      · have same := MemoryStore.keyed s id old stored
        simp only [decide_eq_true_eq] at holds
        refine .inr ⟨old, same.symm ▸ stored, same, holds.1, ?_, MemoryStore.get?_put ..⟩
        simpa using holds.2.2
  | postgres =>
      obtain ⟨row, done, -⟩ := single_ok h
      rcases updateWhere_ok done with ⟨-, rfl⟩ | ⟨old, stored, fires, -, written⟩
      · exact .inl rfl
      · have same := Table.keyed s id old stored
        rw [Sql.Truth.fires_and, Sql.fires_is, presents_fires] at fires
        refine .inr ⟨old, same.symm ▸ stored, same, fires.1, fires.2.2.1, ?_⟩
        funext id'
        exact (get?_update written rfl id').trans (Function.update_apply ..).symm

/-- A takeover claims a row whose lease has run out. -/
theorem Backend.takeover_open {b : Backend} {role : Role} {s s' : b.State} {id owner : String}
    {leaseTtl : Int} (h : b.execAs role (.claimRowForTakeover id owner leaseTtl) now fence s =
      .ok (out, s')) :
    (out = [] ∧ b.rows s' = b.rows s) ∨ ∃ old, b.rows s old.operationId = some old ∧
      old.operationId = id ∧ MemoryStore.open_ now old = true ∧
      out = [old.held now owner leaseTtl fence] ∧ b.rows s' =
        Function.update (b.rows s) old.operationId (some (old.held now owner leaseTtl fence)) := by
  cases b with
  | memory =>
      rcases MemoryStore.updateIf_cases (Except.ok.inj h) with ⟨rfl, rfl⟩ | ⟨old, stored, holds, rfl, rfl⟩
      · exact .inl ⟨rfl, rfl⟩
      · have same := MemoryStore.keyed s id old stored
        exact .inr ⟨old, same.symm ▸ stored, same, holds, rfl, MemoryStore.get?_put ..⟩
  | postgres =>
      obtain ⟨row, done, rfl⟩ := single_ok h
      rcases updateWhere_ok done with ⟨rfl, rfl⟩ | ⟨old, stored, fires, rfl, written⟩
      · exact .inl ⟨rfl, rfl⟩
      · have same := Table.keyed s id old stored
        rw [Attempt.open_, Sql.Truth.fires_and, Sql.fires_is, expired_fires] at fires
        refine .inr ⟨old, same.symm ▸ stored, same, ?_, rfl, ?_⟩
        · simp [MemoryStore.open_, fires.1, MemoryStore.lapsed_iff.mpr fires.2]
        · funext id'
          exact (get?_update written rfl id').trans (Function.update_apply ..).symm

end Calls

/-! ### What the others may do -/

/-- What becomes of a row while fences are drawn: it is claimed under one of them, or its lease stays,
and where an operator holds it nothing else is done to it but to settle it. -/
inductive Attempt.Moves (R : Runtime) (draws draws' : Nat) (a a' : Attempt) : Prop where
  | claimed {n : Nat} (later : draws ≤ n) (before : n < draws')
      (fence : a'.fenceToken = some (R.uuid n))
  | kept (fence : a'.fenceToken = a.fenceToken) (owner : a'.leaseOwner = a.leaseOwner)
      (spared : ∀ owner, a.leaseOwner = some owner → IsOperator owner → a.status ≠ .pending →
        a' = a ∨ a'.status = .settled)

theorem Attempt.Moves.refl {R : Runtime} {draws draws' : Nat} (a : Attempt) :
    a.Moves R draws draws' a :=
  .kept rfl rfl fun _ _ _ _ => .inl rfl

theorem Attempt.Moves.trans {R : Runtime} {draws draws' draws'' : Nat} {a b d : Attempt}
    (h : a.Moves R draws draws' b) (h' : b.Moves R draws' draws'' d) (first : draws ≤ draws')
    (second : draws' ≤ draws'') : a.Moves R draws draws'' d := by
  cases h' with
  | claimed later before fence => exact .claimed (by omega) before fence
  | kept fence' owner' spared' =>
      cases h with
      | claimed later before fence =>
          exact .claimed later (by omega) (fence'.trans fence)
      | kept fence owner spared =>
          refine .kept (fence'.trans fence) (owner'.trans owner) fun o owned operator status => ?_
          rcases spared o owned operator status with rfl | settled
          · exact spared' o owned operator status
          · have held : b.status ≠ .pending := by rw [settled]; decide
            rcases spared' o (owner.trans owned) operator held with rfl | settled'
            · exact .inr settled
            · exact .inr settled'

section Runs

variable {ι : Type} {b : Backend} {R : Runtime} {inputs : ι → ReconcileInput}

/-- What a reconciliation relies on: fences are drawn in turn, and the rows move. -/
def Moved (R : Runtime) (b : Backend) (s s' : World b.State) : Prop :=
  s.draws ≤ s'.draws ∧ Rowwise (Attempt.Moves R s.draws s'.draws) (b.rows s.store) (b.rows s'.store)

theorem Moved.of_same {s s' : World b.State} (draws : s.draws ≤ s'.draws)
    (rows : b.rows s'.store = b.rows s.store) : Moved R b s s' := by
  refine ⟨draws, ?_⟩
  rw [rows]
  exact .refl (fun a => .refl a) _

theorem Moved.refl (s : World b.State) : Moved R b s s := .of_same (Nat.le_refl _) rfl

theorem Moved.trans {s s' s'' : World b.State} (h : Moved R b s s') (h' : Moved R b s' s'') :
    Moved R b s s'' := by
  refine ⟨Nat.le_trans h.1 h'.1, fun id a stored => ?_⟩
  obtain ⟨a', stored', moves⟩ := h.2 id a stored
  obtain ⟨a'', stored'', moves'⟩ := h'.2 id a' stored'
  exact ⟨a'', stored'', moves.trans moves' h.1 h'.1⟩

/-- What a worker's call does to a row. -/
theorem moves_of_worker {call : Call} {now : Int} {draws : Nat} {a a' : Attempt}
    (worker : call.OfWorker) (affects : call.Affects now (R.uuid draws) a a') :
    a.Moves R draws (draws + 1) a' := by
  have minted : a'.fenceToken = some (R.uuid draws) → a.Moves R draws (draws + 1) a' :=
    .claimed (Nat.le_refl _) (Nat.lt_succ_self _)
  -- Who writes under a lease is its owner, and no operator.
  have owned : ∀ owner, ¬ IsOperator owner → a.leaseOwner = some owner →
      a'.fenceToken = a.fenceToken → a'.leaseOwner = a.leaseOwner → a.Moves R draws (draws + 1) a' := by
    intro owner apart held fence kept
    refine .kept fence kept fun o owned operator _ => ?_
    obtain rfl := Option.some.inj (held.symm.trans owned)
    exact absurd operator apart
  rcases affects with rfl | writes | claimed
  · exact .refl a'
  · cases writes with
    | claim => exact minted rfl
    | renew _ held => exact owned _ worker held rfl rfl
    | transition status held =>
        rcases worker with ⟨o, f, rfl, rfl, apart⟩ | ⟨rfl, rfl, rfl, rfl⟩
        · exact owned o apart (held o rfl) rfl rfl
        · refine .kept rfl rfl fun _ _ _ unpending => ?_
          exact absurd (List.mem_singleton.mp status) unpending
    | takeover => exact minted rfl
  · exact minted claimed

theorem moved_of_worker {s s' : World b.State} (acts : WorkerActs R b s s') : Moved R b s s' := by
  cases acts with
  | time => exact .of_same (Nat.le_refl _) rfl
  | call worker done =>
      refine ⟨Nat.le_succ _, fun id a stored => ?_⟩
      obtain ⟨a', stored', affects⟩ := Backend.execAs_affects done id a stored
      exact ⟨a', stored', moves_of_worker worker affects⟩

/-- The contract of the reconciliations. -/
def reconciling (R : Runtime) (b : Backend) (inputs : ι → ReconcileInput) :
    Contract (World b.State) (fun q : ι × Ask => q.2.Answer) where
  rely := Moved R b
  guar s s' := Moved R b s s' ∧ Rowwise Attempt.Faithful (b.rows s.store) (b.rows s'.store)
  calls _ _ := True
  answers := Timely b.rows inputs

/-- The guarantee where no row changes. -/
theorem reconciling_same {s s' : World b.State} (draws : s.draws ≤ s'.draws)
    (rows : b.rows s'.store = b.rows s.store) : (reconciling R b inputs).guar s s' := by
  refine ⟨.of_same draws rows, ?_⟩
  rw [rows]
  exact .refl .refl _

/-- The guarantee where one row changes. -/
theorem reconciling_write {s s' : World b.State} {old new : Attempt}
    (draws : s'.draws = s.draws + 1) (stored : b.rows s.store old.operationId = some old)
    (rows : b.rows s'.store = Function.update (b.rows s.store) old.operationId (some new))
    (moves : old.Moves R s.draws (s.draws + 1) new) (faithful : old.Faithful new) :
    (reconciling R b inputs).guar s s' := by
  refine ⟨⟨by omega, ?_⟩, ?_⟩
  · rw [rows, draws]
    exact rowwise_update (fun a => .refl a) stored moves
  · rw [rows]
    exact rowwise_update .refl stored faithful

/-- An operator holds the row under its fence, and no worker has bound it to another signature; or
the row was claimed since. -/
def OperatorHolds (R : Runtime) (b : Backend) (id owner txHash : String) (n : Nat)
    (s : World b.State) : Prop :=
  n < s.draws ∧ ∃ a, b.rows s.store id = some a ∧ (a.fenceToken = some (R.uuid n) →
    a.leaseOwner = some owner ∧ a.status ≠ .pending ∧ (a.status ≠ .settled → a.Open txHash))

theorem OperatorHolds.moved (distinct : Function.Injective R.uuid) {id owner txHash : String} {n : Nat}
    {s s' : World b.State} (operator : IsOperator owner) (h : OperatorHolds R b id owner txHash n s)
    (moved : Moved R b s s') : OperatorHolds R b id owner txHash n s' := by
  obtain ⟨drawn, a, stored, holds⟩ := h
  obtain ⟨later, rows⟩ := moved
  obtain ⟨a', stored', moves⟩ := rows id a stored
  refine ⟨Nat.lt_of_lt_of_le drawn later, a', stored', fun fenced => ?_⟩
  cases moves with
  | claimed after before fence =>
      have same := distinct (Option.some.inj (fenced.symm.trans fence))
      omega
  | kept fence kept spared =>
      obtain ⟨owned, unpending, bound⟩ := holds (fence.symm.trans fenced)
      refine ⟨kept.trans owned, ?_⟩
      rcases spared owner owned operator unpending with rfl | settled
      · exact ⟨unpending, bound⟩
      · rw [settled]
        exact ⟨by decide, fun unsettled => absurd rfl unsettled⟩

theorem isOperator_owner (input : ReconcileInput) : IsOperator input.owner := by
  unfold IsOperator ReconcileInput.owner
  rw [String.toList_append]
  exact List.prefix_append _ _

theorem Backend.exec_execAs (b : Backend) : ∃ role, ∀ call now fence s,
    (b.store R).exec call now fence s = b.execAs role call now fence s := by
  cases b with
  | memory => exact ⟨.app, fun _ _ _ _ => rfl⟩
  | postgres role => exact ⟨role, fun _ _ _ _ => rfl⟩

section Steps

variable {i : ι} {s : World b.State}

theorem reconciling_get {id : String} :
    ((b.store R).getByOperationId id).Meets ((reconciling R b inputs).named i)
      (Reports fun _ _ => True) s := by
  refine meets_statement (fun _ _ => trivial) fun s₁ _ _ row s₂ done => ?_
  cases done
  have same : (reconciling R b inputs).guar s₁ s₁ := reconciling_same (Nat.le_refl _) rfl
  exact ⟨same, fun _ _ => trivial⟩

/-- What a takeover by an operator leads to. -/
theorem reconciling_takeover (distinct : Function.Injective R.uuid) {id : String}
    {leaseTtl : LeaseTtl} :
    ((b.store R).claimRowForTakeover R id (inputs i).owner leaseTtl).Meets
      ((reconciling R b inputs).named i)
      (Reports fun claimed s' => ∀ row, claimed = some row → ∃ n,
        row.leaseOwner = some (inputs i).owner ∧ row.fenceToken = some (R.uuid n) ∧
          OperatorHolds R b id (inputs i).owner (inputs i).txHash n s') s := by
  obtain ⟨role, exec⟩ := b.exec_execAs (R := R)
  have called : ((b.store R).call R (.claimRowForTakeover id (inputs i).owner leaseTtl.micros)).Meets
      ((reconciling R b inputs).named i) (Reports fun out s' => ∀ row, out.head? = some row → ∃ n,
        row.leaseOwner = some (inputs i).owner ∧ row.fenceToken = some (R.uuid n) ∧
          OperatorHolds R b id (inputs i).owner (inputs i).txHash n s') s := by
    refine meets_statement (fun _ _ => trivial) fun s₁ _ timely out s₂ done => ?_
    obtain ⟨store', executed, rfl⟩ := call_ok done
    rw [exec] at executed
    rcases Backend.takeover_open executed with ⟨rfl, same⟩ | ⟨old, stored, rfl, open_, rfl, rows⟩
    · have guar : (reconciling R b inputs).guar s₁ { s₁ with store := store', draws := s₁.draws + 1 } :=
        reconciling_same (Nat.le_succ _) same
      refine ⟨guar, fun s' _ row none => ?_⟩
      cases none
    · have bound : old.Open (inputs i).txHash := timely old stored open_
      have held : old.status ∈ leasedStatuses := by
        simp only [MemoryStore.open_, decide_eq_true_eq] at open_
        exact open_.1
      have guar : (reconciling R b inputs).guar s₁ { s₁ with store := store', draws := s₁.draws + 1 } := by
        refine reconciling_write rfl stored rows
          (.claimed (Nat.le_refl _) (Nat.lt_succ_self _) rfl) ⟨fun free => absurd held free, ?_, fun _ => rfl⟩
        exact fun unsettled settled => absurd settled unsettled
      refine ⟨guar, fun s' moved row shown => ?_⟩
      obtain rfl := Option.some.inj shown
      refine ⟨s₁.draws, rfl, rfl, OperatorHolds.moved distinct (isOperator_owner _) ?_ moved⟩
      refine ⟨Nat.lt_succ_self _, _, (congrFun rows _).trans (Function.update_self ..), fun _ => ?_⟩
      refine ⟨rfl, fun pending => ?_, fun _ => bound⟩
      rw [show old.status = .pending from pending] at held
      exact absurd held (by decide)
  exact reports_bind called fun out s' done => done

/-- What a transition by an operator leads to, where it holds the attempt. -/
theorem reconciling_transition (distinct : Function.Injective R.uuid) {id : String} {n : Nat}
    {evidence : Json} (holds : OperatorHolds R b id (inputs i).owner (inputs i).txHash n s) :
    ((b.store R).transition R id leasedStatuses .settled
        { txHash := some (some (inputs i).txHash), evidenceJson := some evidence }
        (some (inputs i).owner) (some (R.uuid n))).Meets ((reconciling R b inputs).named i)
      (Reports fun _ _ => True) s := by
  obtain ⟨role, exec⟩ := b.exec_execAs (R := R)
  have called : ((b.store R).call R (.transition id leasedStatuses .settled
      { txHash := some (some (inputs i).txHash), evidenceJson := some evidence }
      (some (inputs i).owner) (some (R.uuid n)))).Meets ((reconciling R b inputs).named i)
      (Reports fun _ _ => True) s := by
    refine meets_statement (fun _ _ => trivial) fun s₁ moved _ out s₂ done => ?_
    obtain ⟨store', executed, rfl⟩ := call_ok done
    rw [exec] at executed
    obtain ⟨-, a, stored, known⟩ := holds.moved distinct (isOperator_owner _) moved
    rcases Backend.transition_held executed with same | ⟨old, found, rfl, held, fenced, rows⟩
    · have guar : (reconciling R b inputs).guar s₁ { s₁ with store := store', draws := s₁.draws + 1 } :=
        reconciling_same (Nat.le_succ _) same
      exact ⟨guar, fun _ _ => trivial⟩
    · obtain rfl := Option.some.inj (found.symm.trans stored)
      have unsettled : old.status ≠ .settled := by
        intro settled
        rw [settled] at held
        exact absurd held (by decide)
      have bound := (known fenced).2.2 unsettled
      have guar : (reconciling R b inputs).guar s₁ { s₁ with store := store', draws := s₁.draws + 1 } := by
        refine reconciling_write rfl found rows (.kept rfl rfl fun _ _ _ _ => .inr rfl)
          ⟨fun free => absurd held free, fun _ _ => ?_, fun pending => absurd rfl pending⟩
        exact bound.imp_right fun same => same.symm
      exact ⟨guar, fun _ _ => trivial⟩
  exact reports_bind called fun out s' done => done

/-- A reconciliation meets its contract. -/
theorem persistReconciledSettlement_meets (distinct : Function.Injective R.uuid) :
    (persistReconciledSettlement (b.store R) R (inputs i)).Meets ((reconciling R b inputs).named i)
      (Reports fun _ _ => True) s := by
  unfold persistReconciledSettlement
  dsimp only
  split
  · trivial
  refine reports_bind reconciling_get fun row s₁ _ => ?_
  cases row with
  | none => trivial
  | some row =>
  dsimp only
  split
  · split <;> trivial
  split
  · trivial
  refine reports_bind (reconciling_takeover distinct) fun claimed s₂ holds => ?_
  cases claimed with
  | none => trivial
  | some claimed =>
  obtain ⟨n, owner, fence, holds⟩ := holds claimed rfl
  dsimp only
  rw [owner, fence]
  refine reports_bind (reconciling_transition distinct holds) fun settled s₃ _ => ?_
  cases settled with
  | some settled => trivial
  | none =>
  refine reports_bind reconciling_get fun current s₄ _ => ?_
  split <;> trivial

end Steps

/-- The reconciliations tolerate each other and the workers. -/
theorem reconciling_shared [DecidableEq ι] (distinct : Function.Injective R.uuid) :
    Shared (fun i => (persistReconciledSettlement (b.store R) R (inputs i)).tag i) (WorkerActs R b)
      (Timely b.rows inputs) (fun _ => True) (fun _ => reconciling R b inputs) (fun _ _ => True)
      (fun _ => Reports fun _ _ => True) where
  still _ s _ := .refl s
  chain _ _ _ _ h h' := h.trans h'
  others _ _ _ _ done := ⟨trivial, fun _ _ => done.1⟩
  outside _ _ _ acts := ⟨trivial, fun _ => moved_of_worker acts⟩
  admitted _ _ _ _ _ timely := timely
  waits _ _ _ _ _ := trivial
  meets _ _ _ _ := Proc.meets_tag.mpr (persistReconciledSettlement_meets distinct)

theorem faithful_of_guar {s s' : World b.State}
    (h : Relation.ReflTransGen (reconciling R b inputs).guar s s') :
    Rowwise Attempt.Faithful (b.rows s.store) (b.rows s'.store) := by
  induction h with
  | refl => exact .refl .refl _
  | tail _ step ih => exact ih.trans (fun _ _ _ => .trans) step.2

end Runs

/-- As long as no worker binds a signature between a reconciliation's read and its takeover, no
reconciliation settles an attempt by another signature than the one it is bound to, and none touches
an attempt that no worker holds. -/
theorem reconciles_faithfully {ι : Type} [DecidableEq ι] {b : Backend} {R : Runtime}
    (distinct : Function.Injective R.uuid) {inputs : ι → ReconcileInput} {start : World b.State}
    {pool pool' : Pool ι (World b.State) MachineError (fun q : ι × Ask => q.2.Answer) Reconciled}
    (reaches : Pool.Reaches (fun i => (persistReconciledSettlement (b.store R) R (inputs i)).tag i)
      (WorkerActs R b) (Timely b.rows inputs) (.init start) pool)
    (step : Pool.Step (fun i => (persistReconciledSettlement (b.store R) R (inputs i)).tag i)
      (fun _ _ => False) (Timely b.rows inputs) pool pool') :
    Rowwise Attempt.Faithful (b.rows pool.state.store) (b.rows pool'.state.store) := by
  obtain ⟨i, done⟩ := (reconciling_shared distinct).guaranteed trivial (fun _ => trivial) reaches step
  exact faithful_of_guar done

/-! ### Runs of one reconciliation -/

namespace Sample

theorem uuid_injective : Function.Injective runtime.uuid := by
  intro n m same
  have texts := congrArg String.toList same
  simp only [runtime, String.toList_append, String.toList_ofList, List.append_assoc,
    List.append_cancel_left_eq] at texts
  have read := congrArg (Nat.ofDigitChars 10 · 0) texts
  simpa [Nat.ofDigitChars_append, Nat.ofDigitChars_replicate_zero] using read

def firstTransaction : String := "5Wv1wQyYQp9rM4qJmYk7cTz2hXnB8sDfLgR3uEaKoNiP"

def secondTransaction : String := "3Hk8dXrT6mZpVbY2sQnW9jLfCg5aEuRo7KiM4tPzBvNx"

/-- A reconciliation of the attempt by the second transaction. -/
def reconcileInput : ReconcileInput where
  operationId := operationId
  operatorId := "alice"
  txHash := secondTransaction
  checkedSlot := .finite 1000
  note := "verified on chain"
  evidence := [("transactionHash", .str secondTransaction)]

/-- An attempt that a worker settles, under a lease of ten microseconds. -/
def workedAttempt : Attempt where
  operationId := operationId
  logicalOrderId := "ord_1"
  intentVersion := 0
  requestDigest := requestDigest
  resource := resourceUrl
  authRevision := "sauth_0"
  callerPaymentId := paymentId
  payer := some "payer_key"
  status := .settling
  leaseOwner := some "worker-1"
  leaseExpiresAt := some (10 : Int)
  fenceToken := some "fence"
  createdAt := 0
  updatedAt := 0

/-- The worker binds the first transaction to the attempt. -/
def binding : Call :=
  .transition operationId leasedStatuses .awaitingEvidence { txHash := some (some firstTransaction) }
    (some "worker-1") (some "fence")

theorem binding_worker : binding.OfWorker := by
  refine .inl ⟨_, _, rfl, rfl, ?_⟩
  unfold IsOperator
  decide

/-- The world in which the worker has bound the first transaction. -/
def bound (s : World MemoryStore) : World MemoryStore :=
  { s with store := (s.store.exec s.clock (runtime.uuid s.draws) binding).2, draws := s.draws + 1 }

/-- The world in which the worker's lease has run out. -/
def lapsed (s : World MemoryStore) : World MemoryStore := { s with clock := 20 }

theorem bound_acts (s : World MemoryStore) : WorkerActs runtime .memory s (bound s) :=
  @WorkerActs.call runtime .memory s .app binding _ _ binding_worker rfl

theorem lapsed_acts (s : World MemoryStore) : WorkerActs runtime .memory s (lapsed s) :=
  .time 20 s.date

/-- The store answers. -/
def answering : (q : Unit × Ask) → Option q.2.Answer
  | (_, .dispatch _) | (_, .deliver _) => some .through
  | _ => none

abbrev Reconciliation : Type :=
  Pool (Unit) (World MemoryStore) MachineError (fun q : Unit × Ask => q.2.Answer) Reconciled

/-- The store answers some times. -/
def awaits (n : Nat) : List (Move (Unit) (World MemoryStore) fun q : Unit × Ask => q.2.Answer) :=
  List.replicate n (.resume () answering)

def reconciliation (i : Unit) :
    Proc (World MemoryStore) MachineError (fun q : Unit × Ask => q.2.Answer) Reconciled :=
  (persistReconciledSettlement (MemoryStore.settlementStore runtime) runtime reconcileInput).tag i

def reconcilingPool : Reconciliation :=
  .init (.start (MemoryStore.empty.put workedAttempt) 0 0 0)

/-- The transaction and the status of the attempt. -/
def outcome (pool : Reconciliation) : Option (AttemptStatus × Option String) :=
  (pool.state.store.get? operationId).map fun a => (a.status, a.txHash)

/-- The attempt is read; where the worker's lease has run out it is taken over. -/
def takingOver (meanwhile : List (World MemoryStore → World MemoryStore)) :
    List (Move (Unit) (World MemoryStore) fun q : Unit × Ask => q.2.Answer) :=
  .start () :: (awaits 2 ++ meanwhile.map .outside ++ awaits 2)

/-- The reconciliation with an interlude between its read and its takeover, and the pools before and
after it settles the attempt. -/
theorem reconciliation_runs (allowed : (q : Unit × Ask) → q.2.Answer → World MemoryStore → Prop)
    [∀ q a s, Decidable (allowed q a s)] (meanwhile : List (World MemoryStore → World MemoryStore))
    (before after : AttemptStatus × Option String)
    (acts : ∀ act ∈ meanwhile, ∀ s, WorkerActs runtime .memory s (act s))
    (plays : ((Pool.play? reconciliation allowed reconcilingPool (takingOver meanwhile)).bind fun pool =>
      (Pool.move? reconciliation allowed pool (.resume () answering)).map fun pool' =>
        (outcome pool, outcome pool')) = some (some before, some after)) :
    ∃ pool pool', Pool.Reaches reconciliation (WorkerActs runtime .memory) allowed reconcilingPool pool ∧
      Pool.Step reconciliation (fun _ _ => False) allowed pool pool' ∧
      outcome pool = some before ∧ outcome pool' = some after := by
  obtain ⟨pool, played, rest⟩ := Option.bind_eq_some_iff.mp plays
  obtain ⟨pool', moved, same⟩ := Option.map_eq_some_iff.mp rest
  refine ⟨pool, pool', Pool.reaches_of_play played fun act mem => ?_, Pool.step_of_move moved ?_,
    (Prod.mk.inj same).1, (Prod.mk.inj same).2⟩
  · simp only [takingOver, awaits, List.mem_cons, List.mem_append, List.mem_replicate, List.mem_map,
      reduceCtorEq, and_false, or_false, false_or, Move.outside.injEq] at mem
    obtain ⟨act', among, rfl⟩ := mem
    exact acts _ among
  · rintro act ⟨⟩

end Sample

theorem reconciles_faithfully_unbound : ∃ pool pool' : Sample.Reconciliation,
    Sample.outcome pool = some (.settling, none) ∧
      Sample.outcome pool' = some (.settled, some Sample.secondTransaction) ∧
      Rowwise Attempt.Faithful pool.state.store.get? pool'.state.store.get? := by
  have acts : ∀ act ∈ [Sample.lapsed], ∀ s, WorkerActs Sample.runtime .memory s (act s) := by
    intro act mem
    obtain rfl := List.mem_singleton.mp mem
    exact Sample.lapsed_acts
  obtain ⟨pool, pool', reaches, step, before, after⟩ := Sample.reconciliation_runs
    (Timely MemoryStore.get? fun _ => Sample.reconcileInput) [Sample.lapsed] (.settling, none)
    (.settled, some Sample.secondTransaction) acts (by decide +kernel)
  exact ⟨pool, pool', before, after,
    @reconciles_faithfully (Unit) _ .memory Sample.runtime Sample.uuid_injective
      (fun _ => Sample.reconcileInput) _ pool pool' reaches step⟩

/-- A worker binds a signature between the read and the takeover, and the reconciliation overwrites
it. -/
theorem reconciles_faithfully_false : ∃ pool pool' : Sample.Reconciliation,
    Pool.Reaches Sample.reconciliation (WorkerActs Sample.runtime .memory) (fun _ _ _ => True)
      Sample.reconcilingPool pool ∧
    Pool.Step Sample.reconciliation (fun _ _ => False) (fun _ _ _ => True) pool pool' ∧
    Sample.outcome pool = some (.awaitingEvidence, some Sample.firstTransaction) ∧
    Sample.outcome pool' = some (.settled, some Sample.secondTransaction) ∧
    ¬ Rowwise Attempt.Faithful pool.state.store.get? pool'.state.store.get? := by
  have acts : ∀ act ∈ [Sample.bound, Sample.lapsed], ∀ s,
      WorkerActs Sample.runtime .memory s (act s) := by
    intro act mem
    rcases List.mem_cons.mp mem with rfl | mem
    · exact Sample.bound_acts
    · obtain rfl := List.mem_singleton.mp mem
      exact Sample.lapsed_acts
  obtain ⟨pool, pool', reaches, step, before, after⟩ := Sample.reconciliation_runs
    (fun _ _ _ => True) [Sample.bound, Sample.lapsed]
    (.awaitingEvidence, some Sample.firstTransaction) (.settled, some Sample.secondTransaction) acts
    (by decide +kernel)
  refine ⟨pool, pool', reaches, step, before, after, fun faithful => ?_⟩
  obtain ⟨a, stored, shown⟩ := Option.map_eq_some_iff.mp before
  obtain ⟨a', stored', kept⟩ := faithful _ a stored
  unfold Sample.outcome at after
  rw [stored'] at after
  obtain ⟨status, transaction⟩ := Prod.mk.inj (Option.some.inj after)
  obtain ⟨status', transaction'⟩ := Prod.mk.inj shown
  rcases kept.bound (by rw [status']; decide) status with unbound | same
  · rw [transaction'] at unbound
    exact absurd unbound (by decide)
  · rw [transaction', transaction] at same
    exact absurd same (by decide)

end AgentReady.Settlement
