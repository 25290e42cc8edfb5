import AgentReady.Settlement.Interface

/-!
`InMemorySettlementStore` (`packages/payments/src/x402-settlement-store.ts`): the store of the
tests and of the mock mode.

Each method runs in one turn of the event loop. Unlike the statements of the database, a
transition does not look at the expiry of the lease, and may be made without a lease.
-/

namespace AgentReady.Settlement

open Coop

/-- The attempts by operation id, in the order in which they were created. -/
structure MemoryStore where
  attempts : OrderedMap String Attempt
  keyed : ∀ id a, attempts.get? id = some a → a.operationId = id

/-- The rows in the order of their creation. -/
def byCreation (rows : List Attempt) : List Attempt :=
  rows.insertionSort fun a b => a.createdAt ≤ b.createdAt

/-- The rows in the order of their last update. -/
def byUpdate (rows : List Attempt) : List Attempt :=
  rows.insertionSort fun a b => a.updatedAt ≤ b.updatedAt

/-- The row is in the slot of the order. -/
def Attempt.inSlot (a : Attempt) (input : ResolveInput) : Bool :=
  a.logicalOrderId = input.logicalOrderId ∧ a.intentVersion = input.intentVersion

/-- The row is for the same spend. -/
def Attempt.forSpend (a : Attempt) (input : ResolveInput) : Bool :=
  a.inSlot input ∧ a.requestDigest = input.requestDigest ∧ a.resource = input.resource

namespace MemoryStore

theorem keyed_empty (id : String) (row : Attempt)
    (stored : (∅ : OrderedMap String Attempt).get? id = some row) : row.operationId = id := by
  rw [OrderedMap.get?_empty] at stored
  cases stored

def empty : MemoryStore where
  attempts := ∅
  keyed := keyed_empty

def get? (s : MemoryStore) (id : String) : Option Attempt := s.attempts.get? id

def put (s : MemoryStore) (row : Attempt) : MemoryStore where
  attempts := s.attempts.set row.operationId row
  keyed id a stored := by
    by_cases same : id = row.operationId
    · subst same
      rw [OrderedMap.get?_set_self] at stored
      rw [← Option.some.inj stored]
    · rw [OrderedMap.get?_set_of_ne _ same] at stored
      exact s.keyed id a stored

/-- The rows satisfying a condition. -/
def select (s : MemoryStore) (p : Attempt → Bool) : List Attempt := s.attempts.values.filter p

/-- A row is looked up, and written where the condition holds. -/
def updateIf (s : MemoryStore) (id : String) (condition : Attempt → Bool) (set : Attempt → Attempt) :
    List Attempt × MemoryStore :=
  match (s.get? id).filter condition with
  | some row => ([set row], s.put (set row))
  | none => ([], s)

/-- The lease has run out, or there is none. -/
def lapsed (now : Int) (a : Attempt) : Bool := a.leaseExpiresAt.all (· ≤ (now : Timestamp))

/-- The row is held, and its lease has run out. -/
def open_ (now : Int) (a : Attempt) : Bool := a.status ∈ leasedStatuses ∧ lapsed now a

/-- Each row written in turn. -/
def putEach : MemoryStore → List Attempt → MemoryStore
  | s, [] => s
  | s, row :: rest => putEach (s.put row) rest

def exec (now : Int) (fence : String) (s : MemoryStore) : Call → List Attempt × MemoryStore
  | .claimForSettle id owner ttl sealedPayload payloadDigest =>
      s.updateIf id (·.status = .pending)
        fun a => a.claimed now owner ttl fence sealedPayload payloadDigest
  | .revalidateForSettle id owner held ttl =>
      s.updateIf id (fun a => a.status = .settling ∧ a.leaseOwner = some owner ∧
          a.fenceToken = some held ∧ ¬ a.leaseExpiresAt.any (· ≤ (now : Timestamp)))
        fun a => a.renewed now ttl
  | .transition id from_ to_ update owner held =>
      s.updateIf id (fun a => a.status ∈ from_ ∧ (owner.isNone ∨ a.leaseOwner = owner) ∧
          (held.isNone ∨ a.fenceToken = held))
        fun a => a.transitioned now to_ update
  | .claimRowForTakeover id owner ttl =>
      s.updateIf id (open_ now) fun a => a.held now owner ttl fence
  | .claimForReconcile owner ttl limit =>
      let claimed := (((byUpdate s.attempts.values).filter (open_ now)).take limit).map
        (·.held now owner ttl fence)
      (claimed, s.putEach claimed)

/-- The existing row that answers a request for an attempt: for the same digest and payment id,
for the payment id, open in the slot, or settled for the same spend. -/
def existing (s : MemoryStore) (input : ResolveInput) : Option Attempt :=
  (s.attempts.find? fun a =>
      a.requestDigest = input.requestDigest ∧ a.callerPaymentId = input.callerPaymentId) <|>
    (byCreation (s.select (·.callerPaymentId = input.callerPaymentId))).head? <|>
    (byCreation (s.select fun a => a.inSlot input ∧ a.status ∉ terminalResolved)).head? <|>
    (s.select fun a => a.forSpend input).find? (·.status = .settled)

/-- The released row of the slot that was updated last. -/
def released (s : MemoryStore) (input : ResolveInput) : Option Attempt :=
  (byUpdate (s.select fun a => a.inSlot input ∧ a.status = .released)).getLast?

/-- `resolveOrCreate`, with the UUID it draws for a revision. -/
def resolve (R : Runtime) (now : Int) (draw : Nat) (input : ResolveInput) (s : MemoryStore) :
    ResolveResult × MemoryStore :=
  match s.existing input with
  | some row => (reuse input row, s)
  | none =>
      match s.released input, R.authRevision draw input (s.released input) with
      | some row, none => (⟨.releaseRequired, row, releaseRequiredDetail⟩, s)
      | _, revision =>
          let fresh := R.freshAttempt now input (revision.getD "")
          match s.get? fresh.operationId with
          | some row => (⟨.existing, row, ""⟩, s)
          | none => (⟨.created, fresh, ""⟩, s.put fresh)

/-- The store as the paid resource uses it. A call draws a UUID whether or not it needs one. -/
def settlementStore (R : Runtime) : SettlementStore MemoryStore where
  exec call now fence s := .ok (s.exec now fence call)
  find callerPaymentId s := byCreation (s.select (·.callerPaymentId = callerPaymentId))
  get id s := s.get? id
  resolveOrCreate input := statement (.resolveOrCreate input) fun world =>
    let (result, store) := resolve R world.clock world.draws input world.store
    .ok (result, { world with store, draws := world.draws + 1 })
  sealSignedPayload plaintext := plaintext
  parseLease
    | some (some micros) => some (micros / 1000)
    | _ => none

end MemoryStore

end AgentReady.Settlement
