import AgentReady.Lib.Coop
import AgentReady.Payments.Types
import AgentReady.Settlement.Store

/-!
What the paid resource is built on: the settlement store, the facilitator, the RPC node.

An operation is a `Coop.Proc` over a `World`: it is suspended where the source awaits. A
statement of the store is two awaits, with the statement done at once between them: it is
sent, and its answer is received. Either may be lost, with the error of a failed connection.

The journal of a world is what the facilitator and the node were asked and answered. The
source keeps no such record; statements about it are made from it.
-/

namespace AgentReady.Settlement

open Coop

/-- The functions of the runtime. -/
structure Runtime where
  platform : Platform
  /-- The n-th text that `randomUUID` draws. -/
  uuid : Nat → String
  /-- A digest is 64 hexadecimal digits. -/
  sha256_ne_empty : ∀ text, platform.sha256 text ≠ ""

/-! ### Creating attempts -/

structure ResolveInput where
  logicalOrderId : String
  intentVersion : Int
  requestDigest : String
  resource : String
  approvalEventId : Option String := none
  callerPaymentId : String
  requirementsJson : Json := .obj []
deriving DecidableEq

inductive ResolveKind where
  | created | existing | approvalMismatch | releaseRequired
deriving DecidableEq, Repr

structure ResolveResult where
  kind : ResolveKind
  row : Attempt
  detail : String := ""
deriving DecidableEq

/-- `row.authRevision.startsWith("appr_")`. -/
def isApproval (authRevision : String) : Bool := "appr_".toList.isPrefixOf authRevision.toList

/-- An attempt that is bound to an approval needs that approval. -/
def approvalMismatch (rowAuthRevision : String) (presented : Option String) : Bool :=
  isApproval rowAuthRevision && presented.filter (· ≠ "") ≠ some rowAuthRevision

def approvalMismatchDetail : String :=
  "Presented approval does not match this attempt's bound authorization revision."

def releaseRequiredDetail : String :=
  "A prior attempt was operator-released. Present the cited new approval event id to open a " ++
    "fresh attempt."

/-- The answer for a row that was found. -/
def reuse (input : ResolveInput) (row : Attempt) : ResolveResult :=
  if approvalMismatch row.authRevision input.approvalEventId then
    ⟨.approvalMismatch, row, approvalMismatchDetail⟩
  else ⟨.existing, row, ""⟩

namespace Runtime

def buildOperationId (R : Runtime) (input : ResolveInput) (authRevision : String) : String :=
  R.platform.sha256 ("|".intercalate [input.logicalOrderId, toString input.intentVersion,
    input.requestDigest, input.resource, authRevision])

/-- `mintSpendAuthRevision`, with the next draw. -/
def mintSpendAuthRevision (R : Runtime) (draw : Nat) : String :=
  "sauth_" ++ String.ofList ((R.uuid draw).toList.filter (· ≠ '-'))

/-- The revision of a fresh attempt, where the approval it needs is presented. -/
def authRevision (R : Runtime) (draw : Nat) (input : ResolveInput) (released : Option Attempt) :
    Option String :=
  match released with
  | some row =>
      (input.approvalEventId.filter (· ≠ "")).filter fun id => some id = row.releasedToApproval
  | none => some (input.approvalEventId.getD (R.mintSpendAuthRevision draw))

/-- The row of a fresh attempt. -/
def freshAttempt (R : Runtime) (now : Int) (input : ResolveInput) (authRevision : String) :
    Attempt where
  operationId := R.buildOperationId input authRevision
  logicalOrderId := input.logicalOrderId
  intentVersion := input.intentVersion
  requestDigest := input.requestDigest
  resource := input.resource
  authRevision
  callerPaymentId := input.callerPaymentId
  requirementsJson := input.requirementsJson
  createdAt := now
  updatedAt := now

end Runtime

/-! ### Questions and answers -/

/-- A statement of the store, as the caller names it. -/
inductive Statement where
  | call (call : Call)
  | findByPaymentId (callerPaymentId : String)
  | getByOperationId (operationId : String)
  | resolveOrCreate (input : ResolveInput)

/-- What an operation awaits. -/
inductive Ask where
  | dispatch (statement : Statement)
  | deliver (statement : Statement)
  | ensureInitialized
  | quote (requestDigest : String)
  | extractTransactionBlockhash (encodedPayment : String)
  | verifyPayment (payload accepted : Json)
  | settlePayment (payload accepted : Json)
  | getTransaction (transactionHash : String)
  /-- An answer that never comes: an unbounded recursion that does not end. -/
  | never

inductive Delivery where
  | through | lost
deriving DecidableEq, Repr

/-- `VerifyResponse`; `payer` is absent where it is not a string. -/
structure VerifyResponse where
  isValid : Bool
  payer : Option String := none
  invalidReason : Option String := none
  invalidMessage : Option String := none

/-- `SettleResponse`; a text is absent where it is not a string. -/
structure SettleResponse where
  success : Bool
  payer : Option String := none
  amount : Option String := none
  transaction : Option String := none
  network : Option String := none

/-- How `settlePayment` ends. An error is any value, with the message it is shown by. -/
inductive SettleAnswer where
  | threw (error : Json) (message : String)
  | malformed
  | answered (response : SettleResponse)

/-- The answer to each question. An `Except` is a throw where it is an error. -/
@[reducible] def Ask.Answer : Ask → Type
  | dispatch _ | deliver _ => Delivery
  | ensureInitialized => Except String Unit
  | quote _ => Except String String
  | extractTransactionBlockhash _ => Option String
  | verifyPayment .. => Except String VerifyResponse
  | settlePayment .. => SettleAnswer
  | getTransaction _ => Option Json
  | never => Empty

/-- What an operation throws. -/
inductive MachineError where
  | db (error : DbError)
  /-- A lost connection. -/
  | lost
  | thrown (message : String)
deriving DecidableEq

/-! ### Worlds -/

inductive Entry where
  /-- The facilitator confirmed the payer of an attempt. -/
  | verified (operationId payer : String)
  /-- A worker started a settlement, of the payload with this digest. -/
  | submitted (operationId worker payloadDigest : String)
  /-- The node answered for a transaction. -/
  | inspected (transactionHash : String) (answer : Option Json)

structure World (S : Type) where
  store : S
  /-- The time of the store, in microseconds. -/
  clock : Int
  /-- `Date.now()` of the server, in milliseconds. -/
  date : Int
  /-- How many UUIDs were drawn. -/
  draws : Nat := 0
  journal : List Entry := []

abbrev Machine (S : Type) : Type → Type := Proc (World S) MachineError Ask.Answer

variable {S β : Type}

def record (entry : Entry) : Machine S Unit :=
  Proc.modify fun world => { world with journal := world.journal ++ [entry] }

def World.draw (R : Runtime) (world : World S) : String × World S :=
  (R.uuid world.draws, { world with draws := world.draws + 1 })

/-- `randomUUID()`. -/
def randomUUID (R : Runtime) : Machine S String := do
  let world ← Proc.read
  Proc.modify fun _ => (world.draw R).2
  return (world.draw R).1

/-- The answer of a statement is received, or lost. -/
def receive (label : Statement) (answer : Except DbError β) : Machine S β := do
  match ← Proc.call (Q := Ask) (.deliver label) with
  | .lost => throw .lost
  | .through =>
      match answer with
      | .ok b => return b
      | .error e => throw (.db e)

/-- A statement: it is sent, done at once, and its answer is received. -/
def statement (label : Statement) (run : World S → Except DbError (β × World S)) : Machine S β := do
  match ← Proc.call (Q := Ask) (.dispatch label) with
  | .lost => throw .lost
  | .through =>
      let world ← Proc.read
      match run world with
      | .error e => receive label (.error e)
      | .ok (b, next) =>
          Proc.modify fun _ => next
          receive label (.ok b)

/-! ### The settlement store -/

/-- `SettlementStore`, with what is used of it here. The writing calls are each one statement;
`resolveOrCreate` may be several. -/
structure SettlementStore (S : Type) where
  exec : Call → (now : Int) → (fence : String) → S → Except DbError (List Attempt × S)
  find : String → S → List Attempt
  get : String → S → Option Attempt
  resolveOrCreate : ResolveInput → Machine S ResolveResult
  sealSignedPayload : String → String
  /-- `Date.parse` of a lease as the store shows it, in milliseconds; `none` where it is NaN. -/
  parseLease : Timestamp → Option Int

namespace SettlementStore

variable (R : Runtime) (store : SettlementStore S)

/-- A writing call; the fence is drawn where it is minted. -/
def call (call : Call) : Machine S (List Attempt) :=
  statement (.call call) fun world => do
    let (fence, world) := world.draw R
    let (rows, next) ← store.exec call world.clock fence world.store
    return (rows, { world with store := next })

def claimForSettle (operationId owner : String) (leaseTtl : LeaseTtl)
    (sealedPayload payloadDigest : String) : Machine S (Option Attempt) := do
  let rows ← store.call R
    (.claimForSettle operationId owner leaseTtl.micros (some sealedPayload) (some payloadDigest))
  return rows.head?

def revalidateForSettle (operationId owner fence : String) (leaseTtl : LeaseTtl) :
    Machine S (Option Attempt) := do
  let rows ← store.call R (.revalidateForSettle operationId owner fence leaseTtl.micros)
  return rows.head?

def transition (operationId : String) (from_ : List AttemptStatus) (to_ : AttemptStatus)
    (update : Update) (owner fence : Option String) : Machine S (Option Attempt) := do
  let rows ← store.call R (.transition operationId from_ to_ update owner fence)
  return rows.head?

def claimRowForTakeover (operationId owner : String) (leaseTtl : LeaseTtl) :
    Machine S (Option Attempt) := do
  let rows ← store.call R (.claimRowForTakeover operationId owner leaseTtl.micros)
  return rows.head?

def findByPaymentId (callerPaymentId : String) : Machine S (List Attempt) :=
  statement (.findByPaymentId callerPaymentId) fun world =>
    .ok (store.find callerPaymentId world.store, world)

def getByOperationId (operationId : String) : Machine S (Option Attempt) :=
  statement (.getByOperationId operationId) fun world =>
    .ok (store.get operationId world.store, world)

end SettlementStore

end AgentReady.Settlement
