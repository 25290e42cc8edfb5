import AgentReady.Settlement.Memory

/-!
`PostgresSettlementStore` (`packages/payments/src/x402-settlement-store.ts`): how it finds or
creates an attempt, and the store as the paid resource uses it.

`resolveOrCreate` is a row of statements with other statements in between: five reads, the
INSERT, and where a unique index refuses it, five reads for the winner. `Resolving` says which
of them is next, and `Resolving.advance` does it.
-/

namespace AgentReady.Settlement

open Coop

namespace Table

def byDigestPayment (input : ResolveInput) (table : Table) : Option Attempt :=
  (byCreation (table.select fun a =>
    a.requestDigest = input.requestDigest ∧ a.callerPaymentId = input.callerPaymentId)).head?

def findByPaymentId (callerPaymentId : String) (table : Table) : List Attempt :=
  byCreation (table.select (·.callerPaymentId = callerPaymentId))

/-- The open row of a payment id. -/
def activeByPaymentId (input : ResolveInput) (table : Table) : Option Attempt :=
  (byCreation (table.select fun a =>
    a.callerPaymentId = input.callerPaymentId ∧ a.status ∉ terminalResolved)).head?

def findActiveAttempt (input : ResolveInput) (table : Table) : Option Attempt :=
  (byCreation (table.select fun a => a.inSlot input ∧ a.status ∉ terminalResolved)).head?

def findSettledAttempt (input : ResolveInput) (table : Table) : Option Attempt :=
  (byUpdate (table.select fun a => a.forSpend input ∧ a.status = .settled)).getLast?

def findLatestReleased (input : ResolveInput) (table : Table) : Option Attempt :=
  (byUpdate (table.select fun a => a.inSlot input ∧ a.status = .released)).getLast?

end Table

/-- The statement that `resolveOrCreate` does next. -/
inductive Resolving where
  /-- The row of the same digest and payment id. -/
  | replay
  /-- The open row of the payment id. -/
  | payment
  | active
  | settled
  | released
  | insert (authRevision : String)
  /-- After a unique violation: the reads still to be done, and the winner found so far. -/
  | reread (authRevision : String) (left : Nat) (winner : Option Attempt)
deriving DecidableEq

/-- What follows a statement: the next one, or the end of the call. -/
inductive Progress where
  | next (phase : Resolving)
  | done (result : Except MachineError ResolveResult)

namespace Resolving

def noWinner : MachineError :=
  .thrown "Unique conflict without a readable winner; retry the accept."

/-- The reads of the winner, by how many are left. -/
def reading (R : Runtime) (input : ResolveInput) (authRevision : String) (table : Table) :
    Nat → Option Attempt
  | 4 => table.get? (R.buildOperationId input authRevision)
  | 3 => table.byDigestPayment input
  | 2 => (table.findByPaymentId input.callerPaymentId).head?
  | 1 => table.findActiveAttempt input
  | _ => table.findSettledAttempt input

/-- A read that ends the call where it finds a row. -/
def orElse (input : ResolveInput) (row : Option Attempt) (phase : Resolving) : Progress :=
  match row with
  | some row => .done (.ok (reuse input row))
  | none => .next phase

/-- One statement: what follows it, the table it leaves and the draws made. -/
def advance (R : Runtime) (role : Role) (input : ResolveInput) (now : Int) (draws : Nat)
    (table : Table) : Resolving → Progress × Table × Nat
  | replay => (orElse input (table.byDigestPayment input) payment, table, draws)
  | payment => (orElse input (table.activeByPaymentId input) active, table, draws)
  | active => (orElse input (table.findActiveAttempt input) settled, table, draws)
  | settled => (orElse input (table.findSettledAttempt input) released, table, draws)
  | released =>
      match table.findLatestReleased input, R.authRevision draws input (table.findLatestReleased input) with
      | some row, none => (.done (.ok ⟨.releaseRequired, row, releaseRequiredDetail⟩), table, draws)
      | _, revision => (.next (insert (revision.getD "")), table, draws + 1)
  | insert authRevision =>
      let fresh := R.freshAttempt now input authRevision
      match write role now table none fresh with
      | .ok table => (.done (.ok ⟨.created, fresh, ""⟩), table, draws)
      | .error e =>
          if e.code = "23505" then (.next (reread authRevision 4 none), table, draws)
          else (.done (.error (.db e)), table, draws)
  | reread authRevision left winner =>
      let winner := winner <|> reading R input authRevision table left
      match left, winner with
      | left + 1, _ => (.next (reread authRevision left winner), table, draws)
      | 0, some row => (.done (.ok (reuse input row)), table, draws)
      | 0, none => (.done (.error noWinner), table, draws)

end Resolving

/-- `resolveOrCreate` from a statement on, with a bound on the statements that are left. -/
def resolveFrom (R : Runtime) (role : Role) (input : ResolveInput) : Nat → Resolving →
    Machine Table ResolveResult
  | 0, _ => throw Resolving.noWinner
  | left + 1, phase => do
      let progress ← statement (.resolveOrCreate input) fun world =>
        let (progress, store, draws) :=
          phase.advance R role input world.clock world.draws world.store
        .ok (progress, { world with store, draws })
      match progress with
      | .next phase => resolveFrom R role input left phase
      | .done (.ok result) => return result
      | .done (.error e) => throw e

/-- The store as the paid resource uses it. A call draws a UUID whether or not it needs one. A
lease is shown by the second. -/
def postgresStore (R : Runtime) (role : Role) (sealSignedPayload : String → String) :
    SettlementStore Table where
  exec call now fence table := call.exec role now fence table
  find callerPaymentId table := table.findByPaymentId callerPaymentId
  get id table := table.get? id
  resolveOrCreate input := resolveFrom R role input 11 .replay
  sealSignedPayload
  parseLease
    | some (some micros) => some (micros / 1000000 * 1000)
    | _ => none

end AgentReady.Settlement
