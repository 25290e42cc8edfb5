import AgentReady.Settlement.Completion
import AgentReady.Settlement.Fencing
import AgentReady.Settlement.Postgres

/-!
Whether joining a stored attempt ends (`joinStoredRow` of `packages/payments/src/devnet-machine.ts`).

A join calls itself on the row it reads again where its claim fails. Whether it claims is decided by the clock of the
application and a lease that is shown by the second; whether the claim fails is decided by the clock of the database
and the lease itself. Where the two disagree the row it reads again is claimed again.

* `joins_iff`: a join ends if and only if it is not `Stuck`.
-/

namespace AgentReady.Settlement

open Coop Sql

/-- Every question that has an answer is answered. -/
def Answering (answer : (q : Ask) → Option q.Answer) : Prop := ∀ q, q ≠ .never → (answer q).isSome = true

/-- The state is the same, as far as a join sees it. -/
structure SameState {S : Type} (s s' : World S) : Prop where
  store : s'.store = s.store
  clock : s'.clock = s.clock
  date : s'.date = s.date

theorem SameState.trans {S : Type} {s s' s'' : World S} (first : SameState s s') (next : SameState s' s'') : SameState s s'' :=
  ⟨next.store.trans first.store, next.clock.trans first.clock, next.date.trans first.date⟩

theorem SameState.symm {S : Type} {s s' : World S} (seen : SameState s s') : SameState s' s :=
  ⟨seen.store.symm, seen.clock.symm, seen.date.symm⟩

section Statements

variable {S α β : Type} {answer : (q : Ask) → Option q.Answer} {s : World S} {R : Runtime} {store : SettlementStore S}

theorem finishes_receive (answering : Answering answer) {label : Statement} {result : Except DbError β}
    {good : β → World S → Prop} (done : ∀ b, result = .ok b → good b s) :
    (receive label result : Machine S β).Finishes answer good s := by
  refine Proc.finishes_bind (Proc.finishes_call (answering _ nofun)) fun delivery s' same => ?_
  subst same
  cases delivery with
  | lost => exact Proc.finishes_throw
  | through =>
      cases result with
      | ok b => exact Proc.finishes_pure (done b rfl)
      | error e => exact Proc.finishes_throw

/-- A statement comes to an end, whether or not its answer is lost. -/
theorem finishes_statement (answering : Answering answer) {label : Statement}
    {run : World S → Except DbError (β × World S)} {good : β → World S → Prop}
    (done : ∀ b next, run s = .ok (b, next) → good b next) :
    (statement label run : Machine S β).Finishes answer good s := by
  refine Proc.finishes_bind (Proc.finishes_call (answering _ nofun)) fun delivery s' same => ?_
  subst same
  cases delivery with
  | lost => exact Proc.finishes_throw
  | through =>
      refine Proc.finishes_bind Proc.finishes_read fun world s'' same => ?_
      obtain ⟨rfl, rfl⟩ := same
      cases ran : run s'' with
      | error e =>
          refine finishes_receive answering fun b is => ?_
          cases is
      | ok result =>
          refine Proc.finishes_bind Proc.finishes_modify fun _ s₁ same => ?_
          subst same
          refine finishes_receive answering fun b is => ?_
          cases is
          exact done _ _ ran

theorem finishes_get (answering : Answering answer) {id : String} :
    (store.getByOperationId id).Finishes answer (fun row s' => row = store.get id s.store ∧ s' = s) s := by
  refine finishes_statement answering fun b next is => ?_
  cases is
  exact ⟨rfl, rfl⟩

theorem finishes_call (answering : Answering answer) {call : Call} {good : List Attempt → World S → Prop}
    (done : ∀ rows next, store.exec call s.clock (R.uuid s.draws) s.store = .ok (rows, next) →
      good rows { s with store := next, draws := s.draws + 1 }) :
    (store.call R call).Finishes answer good s := by
  refine finishes_statement answering fun rows world ran => ?_
  dsimp only [World.draw] at ran
  cases executed : store.exec call s.clock (R.uuid s.draws) s.store with
  | error e =>
      rw [executed] at ran
      cases ran
  | ok result =>
      obtain ⟨rows', next⟩ := result
      rw [executed] at ran
      cases ran
      exact done rows' next executed

theorem finishes_transition (answering : Answering answer) {id : String} {from_ : List AttemptStatus}
    {to_ : AttemptStatus} {update : Update} {owner fence : Option String} :
    (store.transition R id from_ to_ update owner fence).Finishes answer (fun _ _ => True) s := by
  refine Proc.finishes_then (finishes_call answering ?_) fun rows s' => Proc.finishes_pure trivial
  exact fun _ _ _ => trivial

theorem finishes_uuid : (randomUUID R : Machine S String).Finishes answer (fun _ s' => SameState s s') s := by
  refine Proc.finishes_bind Proc.finishes_read fun world s' same => ?_
  obtain ⟨rfl, rfl⟩ := same
  refine Proc.finishes_bind Proc.finishes_modify fun _ s'' same => ?_
  subst same
  exact Proc.finishes_pure ⟨rfl, rfl, rfl⟩

end Statements

/-! ### Completing and reconciling -/

namespace DevnetMachineResource

section Completing

variable {S : Type} {self : DevnetMachineResource S} {answer : (q : Ask) → Option q.Answer} {s : World S}

theorem finishes_inspectTransaction (answering : Answering answer) {txHash memo : String}
    {expected : ExpectedTransfer} :
    (self.inspectTransaction txHash memo expected).Finishes answer (fun _ _ => True) s := by
  unfold inspectTransaction
  split
  · exact Proc.finishes_pure trivial
  · refine Proc.finishes_bind (Proc.finishes_call (answering _ nofun)) fun a s' _ => ?_
    exact Proc.finishes_bind Proc.finishes_modify fun _ s'' _ => Proc.finishes_pure trivial

theorem finishes_failClosed (answering : Answering answer) {c : Completion} {adapted : AdaptedSettlement}
    {to_ : AttemptStatus} {error detail : String} {retryable : Bool} :
    (self.failClosed c adapted to_ error detail retryable).Finishes answer (fun _ _ => True) s := by
  unfold failClosed
  refine Proc.finishes_then (Proc.finishes_catch ?_ fun e s' => Proc.finishes_pure trivial)
    fun _ s' => Proc.finishes_pure trivial
  exact Proc.finishes_then (finishes_transition answering) fun _ _ => Proc.finishes_pure trivial

theorem finishes_inspected (answering : Answering answer) {c : Completion} {adapted : AdaptedSettlement}
    {expected : ExpectedTransfer} (inspection : TransactionInspection) :
    (self.completeSettlement c adapted expected (some inspection)).Finishes answer (fun _ _ => True) s := by
  unfold completeSettlement
  dsimp only
  refine Proc.finishes_then (Proc.finishes_pure trivial) fun inspection s' => ?_
  split
  · exact finishes_failClosed answering
  split
  · exact finishes_failClosed answering
  refine Proc.finishes_bind Proc.finishes_read fun world s₁ _ => ?_
  refine Proc.finishes_then (Proc.finishes_catch ?_ fun e s₂ => Proc.finishes_pure trivial) fun settled s₂ => ?_
  · exact Proc.finishes_then (finishes_transition answering) fun _ _ => Proc.finishes_pure trivial
  · split
    · exact Proc.finishes_pure trivial
    · refine Proc.finishes_bind (finishes_get answering) fun current s₃ _ => ?_
      split
      · exact Proc.finishes_bind Proc.finishes_read fun _ _ _ => Proc.finishes_pure trivial
      · exact finishes_failClosed answering
    · exact Proc.finishes_pure trivial

theorem finishes_completeSettlement (answering : Answering answer) {c : Completion} {adapted : AdaptedSettlement}
    {expected : ExpectedTransfer} {initial : Option TransactionInspection} :
    (self.completeSettlement c adapted expected initial).Finishes answer (fun _ _ => True) s := by
  cases initial with
  | some inspection => exact finishes_inspected answering inspection
  | none =>
      unfold completeSettlement
      refine Proc.finishes_then (finishes_inspectTransaction answering) fun inspection s' => ?_
      have inspected : (self.completeSettlement c adapted expected (some inspection)).Finishes answer
          (fun _ _ => True) s' := finishes_inspected answering inspection
      unfold completeSettlement at inspected
      exact inspected

theorem finishes_reconcile (answering : Answering answer) {row : Attempt} {txHash payer owner fence : String} :
    (self.reconcile row txHash payer owner fence).Finishes answer (fun _ _ => True) s := by
  unfold reconcile
  refine Proc.finishes_then (finishes_inspectTransaction answering) fun inspection s' => ?_
  split
  · exact finishes_completeSettlement answering
  split
  · exact Proc.finishes_then (finishes_transition answering) fun _ _ => Proc.finishes_pure trivial
  · exact Proc.finishes_pure trivial

end Completing

/-! ### Joining -/

/-- The resource over the database. -/
def onPostgres (self : DevnetMachineResource Table) (role : Role) : DevnetMachineResource Table :=
  { self with store := postgresStore self.runtime role self.store.sealSignedPayload }

/-- The application takes the lease of the row to have run out, and so tries to take the row over. -/
def TakesOver (self : DevnetMachineResource Table) (row : Attempt) (date : Int) : Prop :=
  self.leased row date = false ∧
    (row.status = .settling ∨ (row.status = .awaitingEvidence ∧ row.txHash.filter (· ≠ "") ≠ none))

/-- The database lets the row be taken over. -/
def Claimable (s : World Table) (id : String) : Prop :=
  ∃ a, s.store.get? id = some a ∧ (a.open_ s.clock).Fires

/-- The row is settling, and the application takes its lease to have run out. -/
def LapsedRow (self : DevnetMachineResource Table) (row : Attempt) (date : Int) : Prop :=
  row.status = .settling ∧ self.leased row date = false

/-- A join goes on forever: the application tries to take the row over and the database refuses, and what is then
joined is a settling row that the application takes to be lapsed again: the stored one, or the one it has where none
is stored. -/
def Stuck (self : DevnetMachineResource Table) (row : Attempt) (s : World Table) : Prop :=
  TakesOver self row s.date ∧ ¬ Claimable s row.operationId ∧
    ((∃ a, s.store.get? row.operationId = some a ∧ LapsedRow self a s.date) ∨
      (s.store.get? row.operationId = none ∧ row.status = .settling))

/-- An update that writes no row. -/
theorem updateWhere_none_iff {role : Role} {now : Int} {table table' : Table} {id : String}
    {condition : Attempt → Truth} {set : Attempt → Attempt} :
    updateWhere role now table id condition set = .ok (none, table') ↔
      table' = table ∧ ∀ a, table.get? id = some a → ¬ (condition a).Fires := by
  unfold updateWhere
  cases stored : table.get? id with
  | none =>
      constructor
      · intro done
        cases done
        exact ⟨rfl, fun a some_ => by cases some_⟩
      · intro same
        rw [same.1]
        rfl
  | some old =>
      dsimp only
      by_cases fires : (condition old).Fires
      · rw [if_pos fires]
        refine iff_of_false (fun done => ?_) fun same => same.2 old rfl fires
        cases written : write role now table (some old) (set old) with
        | error => simp [written, bind, Except.bind] at done
        | ok => simp [written, bind, Except.bind, pure, Except.pure] at done
      · rw [if_neg fires]
        constructor
        · intro done
          cases done
          refine ⟨rfl, fun a some_ => ?_⟩
          cases some_
          exact fires
        · intro same
          rw [same.1]
          rfl

section Joins

variable {self : DevnetMachineResource Table} {role : Role} {answer : (q : Ask) → Option q.Answer} {s : World Table}
  {row : Attempt}

theorem exec_takeover_iff {id owner fence : String} {ttl : Int} {next : Table} :
    (self.onPostgres role).store.exec (.claimRowForTakeover id owner ttl) s.clock fence s.store = .ok ([], next) ↔
      next = s.store ∧ ¬ Claimable s id := by
  have unclaimed : ¬ Claimable s id ↔ ∀ a, s.store.get? id = some a → ¬ (a.open_ s.clock).Fires := by
    simp [Claimable]
  rw [unclaimed, ← updateWhere_none_iff]
  constructor
  · intro executed
    obtain ⟨row, done, empty⟩ := single_ok executed
    cases row with
    | none => exact done
    | some a => cases empty
  · intro done
    change (Settlement.claimRowForTakeover role s.clock fence s.store id owner ttl >>= fun r =>
      pure (r.1.toList, r.2)) = _
    unfold Settlement.claimRowForTakeover
    rw [done]
    rfl

/-- The claim of a takeover: where it takes nothing, nothing could be taken. -/
theorem finishes_claim (answering : Answering answer) {id owner : String} {leaseTtl : LeaseTtl} :
    ((self.onPostgres role).store.claimRowForTakeover (self.onPostgres role).runtime id owner leaseTtl).Finishes
      answer (fun taken s' => taken = none → SameState s s' ∧ ¬ Claimable s id) s := by
  have called : ((self.onPostgres role).store.call (self.onPostgres role).runtime
      (.claimRowForTakeover id owner leaseTtl.micros)).Finishes answer
        (fun rows s' => rows = [] → SameState s s' ∧ ¬ Claimable s id) s := by
    refine finishes_call answering fun rows next executed empty => ?_
    subst empty
    obtain ⟨rfl, unclaimed⟩ := exec_takeover_iff.mp executed
    exact ⟨⟨rfl, rfl, rfl⟩, unclaimed⟩
  refine Proc.finishes_bind called fun rows s' taken => Proc.finishes_pure fun none_ => taken ?_
  cases rows with
  | nil => rfl
  | cons a rest => cases none_

theorem Claimable.of_seen {s' : World Table} {id : String} (seen : SameState s s') (claimable : Claimable s' id) :
    Claimable s id := by
  obtain ⟨a, stored, open_⟩ := claimable
  rw [seen.store] at stored
  rw [seen.clock] at open_
  exact ⟨a, stored, open_⟩

/-- A join ends if what it joins next does. -/
theorem finishes_join (answering : Answering answer) {rejoins : Nat}
    (again : TakesOver (self.onPostgres role) row s.date → ¬ Claimable s row.operationId → ∀ current s', SameState s s' →
      (s.store.get? row.operationId = some current ∧ (row.status = .settling ∨ current.status ≠ .awaitingEvidence) ∨
        s.store.get? row.operationId = none ∧ row.status = .settling ∧ current = row) →
      ((self.onPostgres role).joinStoredRow rejoins current).Finishes answer (fun _ _ => True) s') :
    ((self.onPostgres role).joinStoredRow (rejoins + 1) row).Finishes answer (fun _ _ => True) s := by
  unfold joinStoredRow
  dsimp only
  cases status : row.status with
  | pending | rejected | manual | mismatch | released => exact Proc.finishes_pure trivial
  | settled => exact Proc.finishes_bind Proc.finishes_read fun _ _ _ => Proc.finishes_pure trivial
  | awaitingEvidence =>
      dsimp only
      cases signed : row.txHash.filter (· ≠ "") with
      | none => exact Proc.finishes_pure trivial
      | some txHash =>
          refine Proc.finishes_bind Proc.finishes_read fun world s₁ same => ?_
          obtain ⟨rfl, rfl⟩ := same
          split
          · refine Proc.finishes_pure_bind ?_
            dsimp only
            split
            · exact Proc.finishes_then (finishes_reconcile answering) fun _ _ => Proc.finishes_pure trivial
            · exact Proc.finishes_pure trivial
          · next lapsed =>
              have takes : TakesOver (self.onPostgres role) row s₁.date :=
                ⟨Bool.eq_false_iff.mpr lapsed, .inr ⟨status, by rw [signed]; nofun⟩⟩
              refine Proc.finishes_bind finishes_uuid fun owner s₂ drawn => ?_
              refine Proc.finishes_bind (finishes_claim answering) fun taken s₃ claimed => ?_
              cases taken with
              | some taken =>
                  dsimp only
                  split
                  · exact Proc.finishes_then (finishes_reconcile answering) fun _ _ => Proc.finishes_pure trivial
                  · exact Proc.finishes_pure trivial
              | none =>
                  obtain ⟨seen, unclaimed⟩ := claimed rfl
                  refine Proc.finishes_bind (finishes_get answering) fun current s₄ read => ?_
                  obtain ⟨rfl, rfl⟩ := read
                  have seen := drawn.trans seen
                  have unclaimed : ¬ Claimable s₁ row.operationId := fun some_ =>
                    unclaimed (some_.of_seen drawn.symm)
                  have reread : (self.onPostgres role).store.get row.operationId s₄.store =
                      s₁.store.get? row.operationId := by
                    change s₄.store.get? _ = _
                    rw [seen.store]
                  rw [reread]
                  split
                  · next current moved =>
                      obtain ⟨stored, moved⟩ := Option.filter_eq_some_iff.mp moved
                      exact again takes unclaimed _ s₄ seen (.inl ⟨stored, .inr (of_decide_eq_true moved)⟩)
                  · exact Proc.finishes_pure trivial
  | settling =>
      refine Proc.finishes_bind Proc.finishes_read fun world s₁ same => ?_
      obtain ⟨rfl, rfl⟩ := same
      split
      · exact Proc.finishes_pure trivial
      · next lapsed =>
          have takes : TakesOver (self.onPostgres role) row s₁.date := ⟨Bool.eq_false_iff.mpr lapsed, .inl status⟩
          refine Proc.finishes_bind finishes_uuid fun owner s₂ drawn => ?_
          refine Proc.finishes_bind (finishes_claim answering) fun taken s₃ claimed => ?_
          cases taken with
          | some taken =>
              exact Proc.finishes_then (finishes_transition answering) fun _ _ => Proc.finishes_pure trivial
          | none =>
              obtain ⟨seen, unclaimed⟩ := claimed rfl
              refine Proc.finishes_bind (finishes_get answering) fun current s₄ read => ?_
              obtain ⟨rfl, rfl⟩ := read
              have seen := drawn.trans seen
              have unclaimed : ¬ Claimable s₁ row.operationId := fun some_ =>
                unclaimed (some_.of_seen drawn.symm)
              have reread : (self.onPostgres role).store.get row.operationId s₄.store =
                  s₁.store.get? row.operationId := by
                change s₄.store.get? _ = _
                rw [seen.store]
              rw [reread]
              refine again takes unclaimed _ s₄ seen ?_
              cases s₁.store.get? row.operationId with
              | none => exact .inr ⟨rfl, status, rfl⟩
              | some current => exact .inl ⟨rfl, .inl status⟩

/-- A join that is not stuck ends. -/
theorem finishes_of_not_stuck (answering : Answering answer) (free : ¬ Stuck (self.onPostgres role) row s) :
    ((self.onPostgres role).joinStoredRow 2 row).Finishes answer (fun _ _ => True) s := by
  refine finishes_join answering fun takes unclaimed current s' seen next => ?_
  refine finishes_join answering fun takes' unclaimed' current' s'' seen' next' => ?_
  exfalso
  rcases next with ⟨stored, -⟩ | ⟨none_, settling, rfl⟩
  · rw [seen.date] at takes'
    rcases takes' with ⟨lapsed, settling | ⟨awaiting, -⟩⟩
    · exact free ⟨takes, unclaimed, .inl ⟨current, stored, settling, lapsed⟩⟩
    · -- The claim of an awaiting row fails, and the row is still awaiting.
      rw [seen.store, s.store.keyed _ _ stored, stored] at next'
      rcases next' with ⟨same, settling | moved⟩ | ⟨none_, -⟩
      · rw [awaiting] at settling
        cases settling
      · cases same
        exact moved awaiting
      · cases none_
  · exact free ⟨takes, unclaimed, .inr ⟨none_, settling⟩⟩

/-- Everything goes through, and the facilitator has nothing to say. -/
def through : (q : Ask) → Option q.Answer
  | .dispatch _ | .deliver _ => some .through
  | .ensureInitialized => some (.ok ())
  | .quote _ => some (.ok "")
  | .extractTransactionBlockhash _ => some none
  | .verifyPayment .. => some (.error "")
  | .settlePayment .. => some .malformed
  | .getTransaction _ => some none
  | .never => none

theorem answering_through : Answering through := by
  intro q there
  cases q with
  | never => exact absurd rfl there
  | _ => rfl

theorem complete_claim {id owner : String} {leaseTtl : LeaseTtl} (unclaimed : ¬ Claimable s id) :
    ((self.onPostgres role).store.claimRowForTakeover (self.onPostgres role).runtime id owner leaseTtl).complete
      through s = some (.ok none, { s with draws := s.draws + 1 }) := by
  have called : ((self.onPostgres role).store.call (self.onPostgres role).runtime
      (.claimRowForTakeover id owner leaseTtl.micros)).complete through s =
        some (.ok [], { s with draws := s.draws + 1 }) := by
    refine complete_statement rfl rfl ?_
    dsimp only [World.draw]
    rw [exec_takeover_iff.mpr ⟨rfl, unclaimed⟩]
    rfl
  unfold SettlementStore.claimRowForTakeover
  rw [Proc.complete_then called]
  rfl

theorem Stuck.of_seen {s' : World Table} (seen : SameState s s') (stuck : Stuck self row s) : Stuck self row s' := by
  obtain ⟨takes, unclaimed, again⟩ := stuck
  unfold Stuck
  rw [seen.date, seen.store]
  exact ⟨takes, fun some_ => unclaimed (some_.of_seen seen), again⟩

/-- A join that is stuck does not end. -/
theorem complete_of_stuck {rejoins : Nat} (stuck : Stuck (self.onPostgres role) row s) :
    ((self.onPostgres role).joinStoredRow rejoins row).complete through s = none := by
  induction rejoins generalizing row s with
  | zero => rfl
  | succ rejoins ih =>
      have stuck' : Stuck (self.onPostgres role) row { s with draws := s.draws + 1 + 1 } :=
        stuck.of_seen ⟨rfl, rfl, rfl⟩
      obtain ⟨⟨lapsed, status⟩, unclaimed, next⟩ := stuck
      have drawn : (randomUUID (self.onPostgres role).runtime : Machine Table String).complete through s =
          some (.ok ((self.onPostgres role).runtime.uuid s.draws), { s with draws := s.draws + 1 }) := rfl
      have claimed : ∀ owner, ((self.onPostgres role).store.claimRowForTakeover (self.onPostgres role).runtime
          row.operationId owner (self.onPostgres role).leaseTtl).complete through { s with draws := s.draws + 1 } =
            some (.ok none, { s with draws := s.draws + 1 + 1 }) := fun owner => complete_claim unclaimed
      have read : ((self.onPostgres role).store.getByOperationId row.operationId).complete through
          { s with draws := s.draws + 1 + 1 } =
            some (.ok (s.store.get? row.operationId), { s with draws := s.draws + 1 + 1 }) :=
        complete_statement rfl rfl rfl
      have again : ∀ a, s.store.get? row.operationId = some a → LapsedRow (self.onPostgres role) a s.date →
          ((self.onPostgres role).joinStoredRow rejoins a).complete through { s with draws := s.draws + 1 + 1 } =
            none := by
        intro a stored lapsed
        have same := s.store.keyed _ _ stored
        refine ih ⟨⟨lapsed.2, .inl lapsed.1⟩, ?_, .inl ⟨a, ?_, lapsed⟩⟩
        · rw [same]
          exact stuck'.2.1
        · rw [same]
          exact stored
      unfold joinStoredRow
      dsimp only
      rcases status with settling | ⟨awaiting, signed⟩
      · rw [settling]
        dsimp only
        rw [Proc.complete_then (Proc.complete_read s), if_neg (by rw [lapsed]; decide), Proc.complete_then drawn,
          Proc.complete_then (claimed _)]
        dsimp only
        rw [Proc.complete_then read]
        rcases next with ⟨a, stored, lapsed⟩ | ⟨none_, -⟩
        · rw [stored]
          exact again a stored lapsed
        · rw [none_]
          exact ih stuck'
      · rw [awaiting]
        dsimp only
        obtain ⟨txHash, signed⟩ := Option.ne_none_iff_exists'.mp signed
        rw [signed]
        dsimp only
        rw [Proc.complete_then (Proc.complete_read s), if_neg (by rw [lapsed]; decide), Proc.complete_then drawn,
          Proc.complete_then (claimed _)]
        dsimp only
        rw [Proc.complete_then read]
        rcases next with ⟨a, stored, lapsed⟩ | ⟨-, settling⟩
        · have moved : (some a).filter (·.status ≠ .awaitingEvidence) = some a := by simp [lapsed.1]
          rw [stored, moved]
          exact again a stored lapsed
        · rw [awaiting] at settling
          cases settling

/-- A join ends if and only if it is not stuck. -/
theorem joins_iff : (∀ answer, Answering answer →
      ∃ rejoins, (((self.onPostgres role).joinStoredRow rejoins row).complete answer s).isSome = true) ↔
    ¬ Stuck (self.onPostgres role) row s := by
  constructor
  · intro ends stuck
    obtain ⟨rejoins, ended⟩ := ends through answering_through
    rw [complete_of_stuck stuck] at ended
    cases ended
  · intro free answer answering
    exact ⟨2, (finishes_of_not_stuck answering free).isSome⟩

end Joins

/-- A resource over the database. -/
def sampleResource : DevnetMachineResource Table where
  runtime := Sample.runtime
  config := Sample.resource.config
  store := postgresStore Sample.runtime .app id
  leaseTtl := Sample.resource.leaseTtl
  supportedFeePayer := none
  decodePayment := Sample.resource.decodePayment
  encodeHeader := Sample.resource.encodeHeader
  paymentIdentifier := Sample.resource.paymentIdentifier

/-- The middle of a lease that runs out within the second in which it began. -/
def midLease : World Table := { store := claimedDb.2.table, clock := 5, date := 0 }

theorem stuck_midLease : ∃ row, Stuck (sampleResource.onPostgres .app) row midLease := by
  have held : (midLease.store.get? "op_0").map (fun a => (a.status, (sampleResource.onPostgres .app).leased a 0,
      decide (a.open_ 5).Fires)) = some (.settling, false, false) := by decide +kernel
  obtain ⟨row, stored, is⟩ := Option.map_eq_some_iff.mp held
  obtain ⟨settling, is⟩ := Prod.mk.inj is
  obtain ⟨lapsed, held⟩ := Prod.mk.inj is
  have keyed := midLease.store.keyed _ _ stored
  rw [← keyed] at stored
  refine ⟨row, ⟨lapsed, .inl settling⟩, ?_, .inl ⟨row, stored, settling, lapsed⟩⟩
  intro claimable
  obtain ⟨a, stored', open_⟩ := claimable
  obtain rfl := Option.some.inj (stored.symm.trans stored')
  exact of_decide_eq_false held open_

/-- A row whose lease runs out within the second is joined forever. -/
theorem joins_false : ¬ ∀ (self : DevnetMachineResource Table) (role : Role) (row : Attempt) (s : World Table)
    (answer : (q : Ask) → Option q.Answer), Answering answer →
      ∃ rejoins, (((self.onPostgres role).joinStoredRow rejoins row).complete answer s).isSome = true := by
  intro all
  obtain ⟨row, stuck⟩ := stuck_midLease
  obtain ⟨rejoins, ended⟩ := all sampleResource .app row midLease through answering_through
  rw [complete_of_stuck stuck] at ended
  cases ended

end DevnetMachineResource

end AgentReady.Settlement
