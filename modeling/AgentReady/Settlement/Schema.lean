import AgentReady.Lib.Sql
import AgentReady.Settlement.Attempt

/-!
What the database checks of a write (`packages/payments/migrations`, 001 to 006).

The triggers are translated branch by branch, with their conditions, and those of the
constraints, under SQL's three-valued logic.

* `rejectAppRelease`: trigger `x402_no_app_release` (001).
* `enforceRoleState`: trigger `x402_role_state_guard`, as 005 leaves it.
* `checks`: the CHECK constraints (004).
* `Index.clash`: the primary key and the unique indexes (001, 002).
-/

namespace AgentReady.Settlement

open Sql

/-- `current_user`. -/
inductive Role where
  | app | operator
  /-- Any role that the guard does not restrict. -/
  | other
deriving DecidableEq, Repr

/-- A refused statement. -/
structure DbError where
  code : String
  message : String
deriving DecidableEq, Repr

def raise (message : String) : Except DbError Unit := .error ⟨"42501", message⟩

/-! ### Triggers -/

/-- Trigger `x402_reject_app_release`; an INSERT has no old row. -/
def rejectAppRelease (role : Role) : Option Attempt → Attempt → Except DbError Unit
  | none, new =>
      if (is (new.status = .released)).Fires then
        raise "x402: direct insert in released state is forbidden"
      else .ok ()
  | some old, new =>
      if ((is (new.status = .released)).and ((is (old.status ≠ .released)).and
          (is (role ≠ .operator)))).Fires then
        raise "x402: transition to released requires the x402_operator role"
      else .ok ()

/-- The row sets something that an insert may not. -/
def unclean (new : Attempt) : Truth :=
  (is (new.status ≠ .pending)).or <| (isNotNull new.txHash).or <| (isNotNull new.evidenceJson).or <|
    (isNotNull new.leaseOwner).or <| (isNotNull new.leaseExpiresAt).or <|
    (isNotNull new.fenceToken).or <| (isNotNull new.releasedToApproval).or <|
    (isNotNull new.releasedBy).or (isNotNull new.releaseEvidenceJson)

/-- An identity column changes. -/
def identityChanged (old new : Attempt) : Truth :=
  (is (new.operationId ≠ old.operationId)).or <| (is (new.logicalOrderId ≠ old.logicalOrderId)).or <|
    (is (new.intentVersion ≠ old.intentVersion)).or <|
    (is (new.requestDigest ≠ old.requestDigest)).or <| (is (new.resource ≠ old.resource)).or <|
    (is (new.authRevision ≠ old.authRevision)).or <|
    (is (new.callerPaymentId ≠ old.callerPaymentId)).or (is (new.createdAt ≠ old.createdAt))

/-- The release lacks a manual row, the operator or its evidence. -/
def releaseLacking (role : Role) (old new : Attempt) : Truth :=
  (is (role ≠ .operator)).or <| (is (old.status ≠ .manual)).or <|
    (isNull new.releasedToApproval).or <| (isNull new.releasedBy).or
      (isNull new.releaseEvidenceJson)

/-- The row has no owner, no fence, or no lease that is still running. -/
def unleased (now : Timestamp) (row : Attempt) : Truth :=
  (isNull row.leaseOwner).or <| (isNull row.fenceToken).or <| (isNull row.leaseExpiresAt).or
    (test (· ≤ now) row.leaseExpiresAt)

/-- The lease has run out, or there is none. -/
def expired (now : Timestamp) (row : Attempt) : Truth :=
  (isNull row.leaseExpiresAt).or (test (· ≤ now) row.leaseExpiresAt)

/-- A held row keeps its status, and its lease has run out. -/
def takesOver (now : Timestamp) (old new : Attempt) : Truth :=
  (is (new.status = old.status)).and ((is (old.status ∈ leasedStatuses)).and (expired now old))

/-- The owner or the fence changes. -/
def leaseChanged (old new : Attempt) : Truth :=
  (isDistinct new.leaseOwner old.leaseOwner).or (isDistinct new.fenceToken old.fenceToken)

/-- The staging of a pending row sets something that belongs to a settlement. -/
def stagingOversteps (old new : Attempt) : Truth :=
  (isDistinct new.txHash old.txHash).or <| (isDistinct new.evidenceJson old.evidenceJson).or <|
    (isDistinct new.payer old.payer).or <| (isDistinct new.blockhash old.blockhash).or <|
    (isDistinct new.leaseOwner old.leaseOwner).or <|
    (isDistinct new.leaseExpiresAt old.leaseExpiresAt).or <|
    (isDistinct new.fenceToken old.fenceToken).or <|
    (isDistinct new.releasedToApproval old.releasedToApproval).or <|
    (isDistinct new.releasedBy old.releasedBy).or
      (isDistinct new.releaseEvidenceJson old.releaseEvidenceJson)

/-- `jsonb_typeof`. -/
def jsonbTypeof : Json → String
  | .null => "null"
  | .bool _ => "boolean"
  | .num _ => "number"
  | .str _ => "string"
  | .arr _ => "array"
  | .obj _ => "object"

/-- `jsonb_typeof(value) = 'object'`. -/
def isObject : Option Json → Truth := test fun value => jsonbTypeof value = "object"

/-- `jsonb_typeof(value) <> 'object'`. -/
def isNotObject : Option Json → Truth := test fun value => jsonbTypeof value ≠ "object"

/-- The last checks of a change of status: what a settled or awaiting row must carry. -/
def enforceEvidence (new : Attempt) : Except DbError Unit :=
  if ((is (new.status = .settled)).and
      ((isNull new.txHash).or (isNotObject new.evidenceJson))).Fires then
    raise "x402: settled requires transaction and evidence"
  else if ((is (new.status = .awaitingEvidence)).and (isNull new.txHash)).Fires then
    raise "x402: awaiting_evidence requires a transaction signature"
  else .ok ()

/-- An update that keeps the status, of a row whose lease is not simply taken over. -/
def enforceSameStatus (now : Timestamp) (old new : Attempt) : Except DbError Unit :=
  if (is (old.status ∈ [AttemptStatus.settled, .rejected, .mismatch, .manual, .released])).Fires then
    raise "x402: terminal attempt is immutable"
  else if (is (old.status = .pending)).Fires then
    if (stagingOversteps old new).Fires then
      raise "x402: pending staging may not set settlement state"
    else .ok ()
  else if ((unleased now old).or (leaseChanged old new)).Fires then
    raise "x402: state update requires a live lease and unchanged fence"
  else .ok ()

/-- The statuses that a worker who holds a row may set. -/
def workerStatuses : List AttemptStatus :=
  [.settling, .awaitingEvidence, .settled, .mismatch, .manual]

/-- An update that changes the status. -/
def enforceTransition (now : Timestamp) (old new : Attempt) : Except DbError Unit :=
  if ((is (old.status = .pending)).and (is (new.status = .settling))).Fires then
    if (unleased now new).Fires then
      raise "x402: settling claim requires a live lease and fence"
    else enforceEvidence new
  else if ((is (old.status ∈ leasedStatuses)).and (is (new.status ∈ workerStatuses))).Fires then
    if ((unleased now old).or (leaseChanged old new)).Fires then
      raise "x402: transition requires the current live lease and fence"
    else enforceEvidence new
  else raise ("x402: illegal role transition " ++ old.status.text ++ "->" ++ new.status.text)

/-- Trigger `x402_enforce_role_state`. -/
def enforceRoleState (role : Role) (now : Timestamp) (old : Option Attempt) (new : Attempt) :
    Except DbError Unit :=
  if role = .other then .ok () else
  match old with
  | none =>
      if (unclean new).Fires then raise "x402: role may only insert a clean pending attempt"
      else .ok ()
  | some old =>
      if (identityChanged old new).Fires then raise "x402: attempt identity is immutable"
      else if (is (new.status = .released)).Fires then
        if (releaseLacking role old new).Fires then
          raise "x402: released requires x402_operator manual release evidence"
        else .ok ()
      -- A takeover replaces an expired lease in place, and is not looked at further.
      else if (takesOver now old new).Fires then
        if (unleased now new).Fires then
          raise "x402: lease takeover requires a fresh live lease and fence"
        else .ok ()
      else if (is (new.status = old.status)).Fires then enforceSameStatus now old new
      else enforceTransition now old new

/-! ### Constraints -/

/-- `length(btrim(text)) > 0`. -/
def nonempty (text : String) : Truth := is (text.toList.any (· ≠ ' '))

/-- `text ~ '^[0-9a-fA-F]{64}$'`. -/
def isSha256 (text : String) : Truth :=
  is (text.length = 64 ∧
    text.toList.all fun c => c.isDigit ∨ c.toLower ∈ ['a', 'b', 'c', 'd', 'e', 'f'])

/-- The CHECK constraints, by name. -/
def checks (row : Attempt) : List (String × Truth) :=
  [("x402_operation_id_nonempty", nonempty row.operationId),
    ("x402_logical_order_id_nonempty", nonempty row.logicalOrderId),
    ("x402_intent_version_nonnegative", is (0 ≤ row.intentVersion)),
    ("x402_request_digest_sha256", isSha256 row.requestDigest),
    ("x402_resource_nonempty", nonempty row.resource),
    ("x402_auth_revision_nonempty", nonempty row.authRevision),
    ("x402_payment_id_nonempty", nonempty row.callerPaymentId),
    ("x402_requirements_object", isObject (some row.requirementsJson)),
    ("x402_settled_has_evidence",
      (is (row.status ≠ .settled)).or ((isNotNull row.txHash).and (isObject row.evidenceJson))),
    ("x402_released_has_evidence", (is (row.status ≠ .released)).or
      ((isNotNull row.releasedToApproval).and ((isNotNull row.releasedBy).and
        (isObject row.releaseEvidenceJson))))]

/-- The unique indexes. -/
inductive Index where
  | pkey | attemptDigestPayment | activeOrderIntent | pidActive | paymentIdOnce | settledRequestOnce
deriving DecidableEq, Repr

namespace Index

def name : Index → String
  | pkey => "x402_settlement_attempts_pkey"
  | attemptDigestPayment => "ux_attempt_digest_payment"
  | activeOrderIntent => "ux_active_order_intent"
  | pidActive => "ux_pid_active"
  | paymentIdOnce => "ux_payment_id_once"
  | settledRequestOnce => "ux_settled_request_once"

def all : List Index :=
  [pkey, attemptDigestPayment, activeOrderIntent, pidActive, paymentIdOnce, settledRequestOnce]

/-- The rows that a partial index covers. -/
def covers (row : Attempt) : Index → Prop
  | activeOrderIntent | pidActive => row.status ∉ terminalResolved
  | settledRequestOnce => row.status = .settled
  | _ => True

/-- The two rows have the same key. -/
def sameKey (a b : Attempt) : Index → Prop
  | pkey => a.operationId = b.operationId
  | attemptDigestPayment => a.requestDigest = b.requestDigest ∧ a.callerPaymentId = b.callerPaymentId
  | activeOrderIntent => a.logicalOrderId = b.logicalOrderId ∧ a.intentVersion = b.intentVersion
  | pidActive | paymentIdOnce => a.callerPaymentId = b.callerPaymentId
  | settledRequestOnce => a.logicalOrderId = b.logicalOrderId ∧ a.intentVersion = b.intentVersion ∧
      a.requestDigest = b.requestDigest ∧ a.resource = b.resource

/-- The index does not admit both rows. -/
def clash (a b : Attempt) (i : Index) : Prop := i.covers a ∧ i.covers b ∧ i.sameKey a b

instance (row : Attempt) : DecidablePred (covers row)
  | activeOrderIntent | pidActive => inferInstanceAs (Decidable (row.status ∉ terminalResolved))
  | settledRequestOnce => inferInstanceAs (Decidable (row.status = .settled))
  | pkey | attemptDigestPayment | paymentIdOnce => inferInstanceAs (Decidable True)

instance (a b : Attempt) : DecidablePred (sameKey a b)
  | pkey => inferInstanceAs (Decidable (a.operationId = b.operationId))
  | attemptDigestPayment => inferInstanceAs (Decidable (_ ∧ _))
  | activeOrderIntent => inferInstanceAs (Decidable (_ ∧ _))
  | pidActive | paymentIdOnce => inferInstanceAs (Decidable (a.callerPaymentId = b.callerPaymentId))
  | settledRequestOnce => inferInstanceAs (Decidable (_ ∧ _ ∧ _ ∧ _))

instance (a b : Attempt) (i : Index) : Decidable (i.clash a b) :=
  inferInstanceAs (Decidable (_ ∧ _))

end Index

theorem Index.clash.symm {a b : Attempt} {i : Index} (h : i.clash a b) : i.clash b a := by
  obtain ⟨a_, b_, same⟩ := h
  refine ⟨b_, a_, ?_⟩
  cases i with
  | pkey | pidActive | paymentIdOnce => exact Eq.symm same
  | attemptDigestPayment | activeOrderIntent => exact ⟨same.1.symm, same.2.symm⟩
  | settledRequestOnce => exact ⟨same.1.symm, same.2.1.symm, same.2.2.1.symm, same.2.2.2.symm⟩

end AgentReady.Settlement
