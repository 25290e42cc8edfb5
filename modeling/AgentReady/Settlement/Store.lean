import AgentReady.Settlement.Table

/-!
`PostgresSettlementStore` (`packages/payments/src/x402-settlement-store.ts`): the methods that
are one statement, or one transaction, of the database.

Each takes the role of the connection and the time of the statement, and answers the row it
returns with the table it leaves, or is refused by the database. The fence that a claim
mints is an argument. A lease is given in microseconds. The history rows that a transition
appends are left out, as nothing reads them.
-/

namespace AgentReady.Settlement

open Sql

/-- How long a lease runs, in microseconds: `leaseTtlMsFromEnv` is positive. -/
structure LeaseTtl where
  micros : Int
  positive : 0 < micros

/-- The columns that a transition sets; an absent one stays, and `none` in one is NULL. -/
structure Update where
  txHash : Option (Option String) := none
  evidenceJson : Option Json := none
  signedPayloadEnc : Option (Option String) := none
  payloadDigest : Option (Option String) := none
  callerPaymentId : Option String := none
  payer : Option (Option String) := none
  blockhash : Option (Option String) := none
  requirementsJson : Option Json := none

namespace Attempt

/-- The row held under a fresh fence. -/
def held (a : Attempt) (now : Int) (owner : String) (leaseTtl : Int) (fence : String) : Attempt :=
  { a with
    leaseOwner := some owner, leaseExpiresAt := some (now + leaseTtl : Int)
    fenceToken := some fence, updatedAt := now }

/-- The row claimed for its settlement, with the first payload that is presented. -/
def claimed (a : Attempt) (now : Int) (owner : String) (leaseTtl : Int) (fence : String)
    (sealedPayload payloadDigest : Option String) : Attempt :=
  { a.held now owner leaseTtl fence with
    status := .settling
    signedPayloadEnc := a.signedPayloadEnc.or sealedPayload
    payloadDigest := a.payloadDigest.or payloadDigest }

/-- The row with its lease renewed. -/
def renewed (a : Attempt) (now leaseTtl : Int) : Attempt :=
  { a with leaseExpiresAt := some (now + leaseTtl : Int), updatedAt := now }

/-- The row in its next status. -/
def transitioned (a : Attempt) (now : Int) (to_ : AttemptStatus) (update : Update) : Attempt :=
  { a with
    status := to_, updatedAt := now
    txHash := update.txHash.getD a.txHash
    evidenceJson := update.evidenceJson.or a.evidenceJson
    signedPayloadEnc := update.signedPayloadEnc.getD a.signedPayloadEnc
    payloadDigest := update.payloadDigest.getD a.payloadDigest
    callerPaymentId := update.callerPaymentId.getD a.callerPaymentId
    blockhash := update.blockhash.getD a.blockhash
    payer := update.payer.getD a.payer
    requirementsJson := update.requirementsJson.getD a.requirementsJson }

/-- The owner and the fence are those presented, and the lease runs. -/
def presents (a : Attempt) (now : Int) (owner fence : String) : Truth :=
  (eq a.leaseOwner (some owner)).and <| (eq a.fenceToken (some fence)).and
    (test ((now : Timestamp) < ·) a.leaseExpiresAt)

end Attempt

/-! ### Statements -/

/-- `UPDATE ... WHERE operation_id = id AND ... RETURNING *`. -/
def updateWhere (role : Role) (now : Int) (table : Table) (id : String) (condition : Attempt → Truth)
    (set : Attempt → Attempt) : Except DbError (Option Attempt × Table) :=
  match table.get? id with
  | some old =>
      if (condition old).Fires then do
        let table ← write role now table (some old) (set old)
        return (some (set old), table)
      else return (none, table)
  | none => return (none, table)

def claimForSettle (role : Role) (now : Int) (fence : String) (table : Table) (operationId owner : String)
    (leaseTtl : Int) (sealedPayload payloadDigest : Option String) :
    Except DbError (Option Attempt × Table) :=
  updateWhere role now table operationId (fun a => is (a.status = .pending))
    fun a => a.claimed now owner leaseTtl fence sealedPayload payloadDigest

def revalidateForSettle (role : Role) (now : Int) (table : Table) (operationId owner fence : String)
    (leaseTtl : Int) : Except DbError (Option Attempt × Table) :=
  updateWhere role now table operationId
    (fun a => (is (a.status = .settling)).and (a.presents now owner fence))
    fun a => a.renewed now leaseTtl

/-- `transition`: an update without a lease may only stage a pending row. -/
def transition (role : Role) (now : Int) (table : Table) (operationId : String)
    (from_ : List AttemptStatus) (to_ : AttemptStatus) (update : Update)
    (owner fence : Option String) : Except DbError (Option Attempt × Table) :=
  match owner, fence with
  | none, none =>
      if from_ = [.pending] ∧ to_ = .pending then
        updateWhere role now table operationId (fun a => is (a.status ∈ from_))
          fun a => a.transitioned now to_ update
      else return (none, table)
  | some owner, some fence =>
      updateWhere role now table operationId
        (fun a => (is (a.status ∈ from_)).and (a.presents now owner fence))
        fun a => a.transitioned now to_ update
  | _, _ => return (none, table)

/-- The row is held, and its lease has run out. -/
def Attempt.open_ (a : Attempt) (now : Int) : Truth :=
  (is (a.status ∈ leasedStatuses)).and (expired now a)

def claimRowForTakeover (role : Role) (now : Int) (fence : String) (table : Table)
    (operationId owner : String) (leaseTtl : Int) : Except DbError (Option Attempt × Table) :=
  updateWhere role now table operationId (·.open_ now) fun a => a.held now owner leaseTtl fence

/-- The rows that `claimForReconcile` takes: those longest untouched first. -/
def reconcilable (now : Int) (table : Table) (limit : Nat) : List Attempt :=
  ((table.select fun a => (a.open_ now).Fires).mergeSort fun a b => a.updatedAt ≤ b.updatedAt).take
    limit

/-- Each row updated in turn, in one statement. -/
def updateEach (role : Role) (now : Int) (set : Attempt → Attempt) :
    Table → List Attempt → Except DbError Table
  | table, [] => return table
  | table, old :: rest => do
      let table ← write role now table (some old) (set old)
      updateEach role now set table rest

/-- `claimForReconcile`: one fence for all the rows it takes. -/
def claimForReconcile (role : Role) (now : Int) (fence : String) (table : Table) (owner : String)
    (leaseTtl : Int) (limit : Nat) : Except DbError (List Attempt × Table) := do
  let rows := reconcilable now table limit
  let table ← updateEach role now (·.held now owner leaseTtl fence) table rows
  return (rows.map (·.held now owner leaseTtl fence), table)

/-! ### Calls -/

/-- A call of the store by a worker. -/
inductive Call where
  | claimForSettle (operationId owner : String) (leaseTtl : Int)
      (sealedPayload payloadDigest : Option String)
  | revalidateForSettle (operationId owner fence : String) (leaseTtl : Int)
  | transition (operationId : String) (from_ : List AttemptStatus) (to_ : AttemptStatus)
      (update : Update) (owner fence : Option String)
  | claimRowForTakeover (operationId owner : String) (leaseTtl : Int)
  | claimForReconcile (owner : String) (leaseTtl : Int) (limit : Nat)

namespace Call

/-- The call at a time, with the fence it mints where it claims: the rows it returns. -/
def exec (role : Role) (now : Int) (fence : String) (table : Table) :
    Call → Except DbError (List Attempt × Table)
  | claimForSettle id owner ttl payload digest => do
      let (row, table) ← Settlement.claimForSettle role now fence table id owner ttl payload digest
      return (row.toList, table)
  | revalidateForSettle id owner held ttl => do
      let (row, table) ← Settlement.revalidateForSettle role now table id owner held ttl
      return (row.toList, table)
  | transition id from_ to_ update owner held => do
      let (row, table) ← Settlement.transition role now table id from_ to_ update owner held
      return (row.toList, table)
  | claimRowForTakeover id owner ttl => do
      let (row, table) ← Settlement.claimRowForTakeover role now fence table id owner ttl
      return (row.toList, table)
  | claimForReconcile owner ttl limit =>
      Settlement.claimForReconcile role now fence table owner ttl limit

/-- The call claims the rows it returns. -/
def Claims : Call → Prop
  | claimForSettle .. | claimRowForTakeover .. | claimForReconcile .. => True
  | _ => False

/-- The call acts on a row in the name of an owner with a fence. -/
def Presents (id owner fence : String) : Call → Prop
  | revalidateForSettle id' owner' fence' _ => id' = id ∧ owner' = owner ∧ fence' = fence
  | transition id' _ _ _ owner' fence' => id' = id ∧ owner' = some owner ∧ fence' = some fence
  | _ => False

end Call

/-! ### What they do -/

section Rules

variable {role : Role} {now : Int} {table table' : Table} {id : String}
  {condition : Attempt → Truth} {set : Attempt → Attempt} {row : Option Attempt}

/-- An update either finds its row and writes it, or leaves the table. -/
theorem updateWhere_ok (h : updateWhere role now table id condition set = .ok (row, table')) :
    (row = none ∧ table' = table) ∨ ∃ old, table.get? id = some old ∧ (condition old).Fires ∧
      row = some (set old) ∧ write role now table (some old) (set old) = .ok table' := by
  unfold updateWhere at h
  split at h
  · rename_i old stored
    split at h
    · rename_i fires
      cases written : write role now table (some old) (set old) with
      | error => simp [written, bind, Except.bind] at h
      | ok =>
          simp only [written, bind, Except.bind, pure, Except.pure, Except.ok.injEq,
            Prod.mk.injEq] at h
          obtain ⟨rfl, rfl⟩ := h
          exact .inr ⟨old, stored, fires, rfl, written⟩
    · cases h
      exact .inl ⟨rfl, rfl⟩
  · cases h
    exact .inl ⟨rfl, rfl⟩

/-- A call that answers one row. -/
theorem single_ok {rows : List Attempt} {result : Except DbError (Option Attempt × Table)}
    (h : (do let (row, table) ← result; return (row.toList, table)) = Except.ok (rows, table')) :
    ∃ row, result = .ok (row, table') ∧ rows = row.toList := by
  rcases result with _ | ⟨row, table⟩
  · cases h
  · cases h
    exact ⟨row, rfl, rfl⟩

theorem presents_fires {a : Attempt} {owner fence : String} : (a.presents now owner fence).Fires ↔
    a.leaseOwner = some owner ∧ a.fenceToken = some fence ∧
      ∃ e, a.leaseExpiresAt = some e ∧ (now : Timestamp) < e := by
  simp [Attempt.presents]

end Rules

end AgentReady.Settlement
