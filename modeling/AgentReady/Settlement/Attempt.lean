import AgentReady.Lib.Json
import Mathlib.Order.WithBot

/-!
The rows of `x402_settlement_attempts` (`packages/payments/migrations`).

One row for each settlement attempt, under its operation id. A column that may be NULL is
an `Option`; a NOT NULL column is not, since a statement that sets one to NULL is refused
whatever else it does. A `jsonb` value is kept in its normal form, so that equality of
values is equality. The history table, which no statement reads, is left out.
-/

namespace AgentReady

/-- `x402_attempt_status`. -/
inductive AttemptStatus where
  | pending | rejected | settling | awaitingEvidence | settled | mismatch | manual | released
deriving DecidableEq, Repr

def AttemptStatus.text : AttemptStatus → String
  | pending => "pending"
  | rejected => "rejected"
  | settling => "settling"
  | awaitingEvidence => "awaiting_evidence"
  | settled => "settled"
  | mismatch => "mismatch"
  | manual => "manual"
  | released => "released"

/-- `TERMINAL_RESOLVED`: the statuses that free the slot of an order. -/
def terminalResolved : List AttemptStatus := [.settled, .rejected, .mismatch, .released]

namespace Settlement

/-- A point in time, in microseconds, or one of the two infinite timestamps. -/
def Timestamp := WithBot (WithTop Int)

namespace Timestamp

instance : LinearOrder Timestamp :=
  @WithBot.linearOrder (WithTop Int) (@WithTop.linearOrder Int Int.instLinearOrder)

/-- A finite time. -/
def at_ (micros : Int) : Timestamp := ((micros : WithTop Int) : WithBot (WithTop Int))

instance : Coe Int Timestamp := ⟨at_⟩

instance (n : Nat) : OfNat Timestamp n := ⟨(n : Int)⟩

theorem coe_lt {a b : Int} : (a : Timestamp) < b ↔ a < b := by
  have below : (a : Timestamp) < b ↔ (a : WithTop Int) < b := WithBot.coe_lt_coe
  exact below.trans WithTop.coe_lt_coe

end Timestamp

/-- A row of `x402_settlement_attempts`. -/
structure Attempt where
  operationId : String
  logicalOrderId : String
  intentVersion : Int
  requestDigest : String
  resource : String
  authRevision : String
  callerPaymentId : String
  signedPayloadEnc : Option String := none
  payloadDigest : Option String := none
  payer : Option String := none
  blockhash : Option String := none
  requirementsJson : Json := .obj []
  status : AttemptStatus := .pending
  txHash : Option String := none
  evidenceJson : Option Json := none
  leaseOwner : Option String := none
  leaseExpiresAt : Option Timestamp := none
  fenceToken : Option String := none
  releasedToApproval : Option String := none
  releasedBy : Option String := none
  createdAt : Timestamp
  updatedAt : Timestamp
  releaseEvidenceJson : Option Json := none
deriving DecidableEq

/-- The columns that say which payment a row is for. -/
structure Attempt.Identity (a b : Attempt) : Prop where
  operationId : b.operationId = a.operationId
  logicalOrderId : b.logicalOrderId = a.logicalOrderId
  intentVersion : b.intentVersion = a.intentVersion
  requestDigest : b.requestDigest = a.requestDigest
  resource : b.resource = a.resource
  authRevision : b.authRevision = a.authRevision
  callerPaymentId : b.callerPaymentId = a.callerPaymentId
  createdAt : b.createdAt = a.createdAt

/-- Someone holds the row: it has an owner and a fence, and a lease that has not expired. -/
def Attempt.Leased (now : Timestamp) (a : Attempt) : Prop :=
  a.leaseOwner ≠ none ∧ a.fenceToken ≠ none ∧ ∃ e, a.leaseExpiresAt = some e ∧ now < e

/-- The two rows are held alike. -/
structure Attempt.SameLease (a b : Attempt) : Prop where
  leaseOwner : b.leaseOwner = a.leaseOwner
  fenceToken : b.fenceToken = a.fenceToken

/-- The statuses of an attempt that a worker holds under a lease. -/
def leasedStatuses : List AttemptStatus := [.settling, .awaitingEvidence]

theorem Attempt.Identity.refl (a : Attempt) : a.Identity a := ⟨rfl, rfl, rfl, rfl, rfl, rfl, rfl, rfl⟩

theorem Attempt.Identity.trans {a b c : Attempt} (h : a.Identity b) (h' : b.Identity c) :
    a.Identity c where
  operationId := h'.1.trans h.1
  logicalOrderId := h'.2.trans h.2
  intentVersion := h'.3.trans h.3
  requestDigest := h'.4.trans h.4
  resource := h'.5.trans h.5
  authRevision := h'.6.trans h.6
  callerPaymentId := h'.7.trans h.7
  createdAt := h'.8.trans h.8

end Settlement

end AgentReady
