import AgentReady.Domain.Canonical
import AgentReady.Lib.OrderedMap

/-!
The operation coordinator (`packages/core/src/coordinator.ts`), over the in-memory store.

An operation id is bound to the hash of the request it was first used with; a later use
replays the record or is a conflict.

* `begin_fresh`, `begin_replay`, `begin_conflict`: the three answers of `begin_`, by what
  the store holds.
* `get?_complete_of_ne`: completing an operation touches no other.
-/

namespace AgentReady

inductive OperationPhase where
  | pending | inProgress | completed | failed | rejected
deriving DecidableEq, Repr

def OperationPhase.name : OperationPhase → String
  | pending => "pending"
  | inProgress => "in_progress"
  | completed => "completed"
  | failed => "failed"
  | rejected => "rejected"

inductive OperationOutcome where
  | success | failure | rejected
deriving DecidableEq, Repr

def OperationOutcome.name : OperationOutcome → String
  | success => "success"
  | failure => "failure"
  | rejected => "rejected"

/-- The phase that an outcome leaves an operation in. -/
def OperationOutcome.phase : OperationOutcome → OperationPhase
  | success => .completed
  | failure => .failed
  | rejected => .rejected

/-- A field of a request: requests carry texts, versions and flags. -/
inductive RequestField where
  | text (s : String)
  | number (n : Int)
  | flag (b : Bool)

def RequestField.toJson : RequestField → Json
  | text s => .str s
  | number n => minorJson n
  | flag b => .bool b

/-- An operation and the fields of its request, `operationType` included. -/
structure OperationRequest where
  operationType : String
  fields : List (String × RequestField)

/-- `canonicalRequestHash`. No field is a number that cannot be written. -/
def Platform.canonicalRequestHash (P : Platform) (r : OperationRequest) : String :=
  P.sha256 <| match canonicalize (.obj (("operationType", .str r.operationType) ::
      r.fields.map fun f => (f.1, f.2.toJson))) with
    | .ok text => text
    | .error _ => ""

structure OperationRecord (Payload : Type) where
  operationId : String
  aggregateIdentity : String
  operationType : String
  requestHash : String
  phase : OperationPhase
  outcome : Option OperationOutcome := none
  resultRef : Option String := none
  errorRef : Option String := none
  resultPayload : Option Payload := none
  createdAt : Int
  updatedAt : Int

abbrev OperationStore (Payload : Type) := OrderedMap String (OperationRecord Payload)

inductive IdempotencyResult (Payload : Type) where
  | new (record : OperationRecord Payload)
  | replay (record : OperationRecord Payload)
  | conflict (existing : OperationRecord Payload) (requestHash : String)

namespace OperationStore

variable {Payload : Type}

def begin_ (P : Platform) (now : Int) (store : OperationStore Payload) (operationId : String)
    (request : OperationRequest) (aggregateIdentity : String) :
    IdempotencyResult Payload × OperationStore Payload :=
  let requestHash := P.canonicalRequestHash request
  match store.get? operationId with
  | none =>
      let record : OperationRecord Payload :=
        { operationId, aggregateIdentity, operationType := request.operationType, requestHash,
          phase := .pending, createdAt := now, updatedAt := now }
      (.new record, store.set operationId record)
  | some existing =>
      if existing.requestHash = requestHash then (.replay existing, store)
      else (.conflict existing requestHash, store)

/-- `complete`, for an operation that was begun; a reference or a payload that is absent keeps what
the record has. -/
def complete (now : Int) (store : OperationStore Payload) (operationId : String)
    (outcome : OperationOutcome) (resultRef errorRef : Option String) (payload : Option Payload) :
    OperationStore Payload :=
  match store.get? operationId with
  | none => store
  | some record => store.set operationId { record with
      phase := outcome.phase
      outcome := some outcome
      resultRef := resultRef.or record.resultRef
      errorRef := errorRef.or record.errorRef
      resultPayload := payload.or record.resultPayload
      updatedAt := now }

/-- `transition`, for an operation that was begun. -/
def transition (now : Int) (store : OperationStore Payload) (operationId : String) (phase : OperationPhase) :
    OperationStore Payload :=
  match store.get? operationId with
  | none => store
  | some record => store.set operationId { record with phase, updatedAt := now }

section Rules

variable {P : Platform} {now : Int} {store : OperationStore Payload} {operationId : String}
  {request : OperationRequest} {aggregateIdentity : String}

theorem begin_fresh (h : store.get? operationId = none) :
    ∃ record, begin_ P now store operationId request aggregateIdentity =
      (.new record, store.set operationId record) ∧
      record.requestHash = P.canonicalRequestHash request := by
  simp [begin_, h]

theorem begin_replay {existing : OperationRecord Payload}
    (h : store.get? operationId = some existing)
    (same : existing.requestHash = P.canonicalRequestHash request) :
    begin_ P now store operationId request aggregateIdentity = (.replay existing, store) := by
  simp [begin_, h, same]

theorem begin_conflict {existing : OperationRecord Payload}
    (h : store.get? operationId = some existing)
    (differ : existing.requestHash ≠ P.canonicalRequestHash request) :
    begin_ P now store operationId request aggregateIdentity =
      (.conflict existing (P.canonicalRequestHash request), store) := by
  simp [begin_, h, differ]

/-- Completing an operation touches no other. -/
theorem get?_complete_of_ne {other : String} (h : other ≠ operationId)
    {outcome : OperationOutcome} {resultRef errorRef : Option String} {payload : Option Payload} :
    (complete now store operationId outcome resultRef errorRef payload).get? other =
      store.get? other := by
  unfold complete
  split
  · rfl
  · exact OrderedMap.get?_set_of_ne _ h _

end Rules

end OperationStore

end AgentReady
