import AgentReady.Interpreter.Validate
import AgentReady.Settlement.Stores

/-!
The release of an attempt by an operator (`packages/payments/src/x402-settlement-store.ts`): an
attempt that awaits manual reconciliation is released to a new approval, on evidence that its signed
transaction has expired.

* `MemoryStore.releaseAttempt_cases`, `Table.releaseAttempt_ok`: what the two stores release, and
  when.
-/

namespace AgentReady.Settlement

open Sql

/-- The reason, unless the condition holds. -/
def unlessReason (p : Prop) [Decidable p] (reason : String) : List String := if p then [] else [reason]

/-- An integer that is no negative one. -/
def isSlot : Json.Number → Bool
  | .finite q => q.den = 1 ∧ 0 ≤ q
  | .infinite _ => false

inductive TransferVerification where
  | verified | mismatch | unavailable
deriving DecidableEq, Repr

def TransferVerification.text : TransferVerification → String
  | verified => "verified"
  | mismatch => "mismatch"
  | unavailable => "unavailable"

structure ReleaseEvidence where
  operatorId : String
  newApprovalEventId : String
  note : String
  blockhash : String
  blockhashValid : Bool
  checkedSlot : Json.Number
  transferVerification : TransferVerification

namespace ReleaseEvidence

/-- The evidence as it is stored. -/
def json (evidence : ReleaseEvidence) : Json :=
  .obj [("note", .str evidence.note), ("blockhash", .str evidence.blockhash),
    ("operatorId", .str evidence.operatorId), ("checkedSlot", .num evidence.checkedSlot),
    ("blockhashValid", .bool evidence.blockhashValid),
    ("newApprovalEventId", .str evidence.newApprovalEventId),
    ("transferVerification", .str evidence.transferVerification.text)]

/-- `validateReleaseEvidence`. -/
def reasons (evidence : ReleaseEvidence) : List String :=
  unlessReason (evidence.operatorId ≠ "") "operator identity is required" ++
  unlessReason (isApproval evidence.newApprovalEventId)
    "release must cite the new server-generated approval event id" ++
  unlessReason (evidence.blockhash ≠ "") "blockhash of the attempt's signed transaction is required" ++
  unlessReason (evidence.blockhashValid = false)
    ("canonical isBlockhashValid verdict must report expired (false); " ++
      "unproven expiry never releases") ++
  unlessReason (isSlot evidence.checkedSlot)
    "checkedSlot must be the integer chain slot of the validity check" ++
  unlessReason (evidence.transferVerification ≠ .verified)
    ("chain shows a verified settlement for this attempt; release is wrong, " ++
      "reconcile instead") ++
  unlessReason (evidence.note ≠ "") "operator note is required"

end ReleaseEvidence

/-- How a release ends. -/
inductive Released where
  | ok (row : Attempt)
  | refused (reasons : List String)

/-- The row, released. -/
def Attempt.released (a : Attempt) (now : Int) (evidence : ReleaseEvidence) : Attempt :=
  { a with
    status := .released, releasedToApproval := some evidence.newApprovalEventId
    releasedBy := some evidence.operatorId, releaseEvidenceJson := some evidence.json
    updatedAt := now }

def noBlockhashReason : String :=
  "no bound blockhash on this attempt; resolve via incident track, release is refused"

def otherBlockhashReason : String :=
  "evidence blockhash does not match the attempt's staged blockhash"

/-- A row that waits for an operator, with the blockhash of the evidence. -/
def Attempt.releasable (a : Attempt) (evidence : ReleaseEvidence) : Truth :=
  (is (a.status = .manual)).and
    ((isNotNull a.blockhash).and (eq a.blockhash (some evidence.blockhash)))

/-- Why a row was not released, as it is read afterwards. -/
def releaseRefusal : Option Attempt → List String
  | none => ["unknown operation"]
  | some current =>
      if current.status ≠ .manual then
        ["release requires status=manual (current: " ++ current.status.text ++ ")"]
      else if current.blockhash.getD "" = "" then [noBlockhashReason]
      else [otherBlockhashReason]

/-- `releaseAttempt`, with the transaction and the read after it in one. -/
def Table.releaseAttempt (role : Role) (now : Int) (table : Table) (operationId : String)
    (evidence : ReleaseEvidence) : Except DbError (Released × Table) :=
  if evidence.reasons ≠ [] then return (.refused evidence.reasons, table)
  else do
    let (row, table) ← updateWhere role now table operationId (·.releasable evidence)
      fun a => a.released now evidence
    match row with
    | some row => return (.ok row, table)
    | none => return (.refused (releaseRefusal (table.get? operationId)), table)

def MemoryStore.releaseAttempt (now : Int) (s : MemoryStore) (operationId : String)
    (evidence : ReleaseEvidence) : Released × MemoryStore :=
  if evidence.reasons ≠ [] then (.refused evidence.reasons, s)
  else
    match s.get? operationId with
    | none => (.refused ["release requires status=manual (current: unknown)"], s)
    | some row =>
        if row.status ≠ .manual then
          (.refused ["release requires status=manual (current: " ++ row.status.text ++ ")"], s)
        else if row.blockhash.getD "" = "" then (.refused [noBlockhashReason], s)
        else if row.blockhash ≠ some evidence.blockhash then (.refused [otherBlockhashReason], s)
        else (.ok (row.released now evidence), s.put (row.released now evidence))

section Rules

variable {now : Int} {id : String} {evidence : ReleaseEvidence} {released : Released}

/-- The row is released on the evidence. -/
structure Attempt.Releases (a : Attempt) (now : Int) (evidence : ReleaseEvidence)
    (released : Released) : Prop where
  sound : evidence.reasons = []
  manual : a.status = .manual
  blockhash : a.blockhash = some evidence.blockhash
  row : released = .ok (a.released now evidence)

theorem Attempt.releasable_fires {a : Attempt} :
    (a.releasable evidence).Fires ↔ a.status = .manual ∧ a.blockhash = some evidence.blockhash := by
  unfold releasable
  rw [Truth.fires_and, Truth.fires_and, fires_is, fires_isNotNull, fires_eq]
  refine and_congr_right fun _ => ⟨fun ⟨_, x, bound, cited⟩ => ?_, fun bound => ?_⟩
  · exact bound.trans cited.symm
  · exact ⟨by simp [bound], _, bound, rfl⟩

theorem MemoryStore.releaseAttempt_cases {s s' : MemoryStore}
    (h : s.releaseAttempt now id evidence = (released, s')) :
    ((∃ reasons, released = .refused reasons) ∧ s' = s) ∨ ∃ a, s.get? id = some a ∧
      a.Releases now evidence released ∧ s' = s.put (a.released now evidence) := by
  unfold MemoryStore.releaseAttempt at h
  split at h
  · cases h
    exact .inl ⟨⟨_, rfl⟩, rfl⟩
  rename_i sound
  split at h
  · cases h
    exact .inl ⟨⟨_, rfl⟩, rfl⟩
  rename_i row stored
  split_ifs at h with status unbound other
  · cases h
    exact .inl ⟨⟨_, rfl⟩, rfl⟩
  · cases h
    exact .inl ⟨⟨_, rfl⟩, rfl⟩
  · cases h
    exact .inl ⟨⟨_, rfl⟩, rfl⟩
  · cases h
    exact .inr ⟨row, stored, ⟨not_not.mp sound, not_not.mp status, not_not.mp other, rfl⟩, rfl⟩

theorem Table.releaseAttempt_ok {role : Role} {table table' : Table}
    (h : table.releaseAttempt role now id evidence = .ok (released, table')) :
    ((∃ reasons, released = .refused reasons) ∧ table' = table) ∨ ∃ a, table.get? id = some a ∧
      a.Releases now evidence released ∧
      write role now table (some a) (a.released now evidence) = .ok table' := by
  unfold Table.releaseAttempt at h
  split at h
  · cases h
    exact .inl ⟨⟨_, rfl⟩, rfl⟩
  rename_i sound
  cases done : updateWhere role now table id (·.releasable evidence) fun a => a.released now evidence with
  | error =>
      rw [done] at h
      cases h
  | ok result =>
      obtain ⟨row, table₁⟩ := result
      rw [done] at h
      rcases updateWhere_ok done with ⟨rfl, rfl⟩ | ⟨a, stored, fires, rfl, written⟩
      · cases h
        exact .inl ⟨⟨_, rfl⟩, rfl⟩
      · cases h
        obtain ⟨manual, bound⟩ := Attempt.releasable_fires.mp fires
        exact .inr ⟨a, stored, ⟨not_not.mp sound, manual, bound, rfl⟩, written⟩

end Rules

end AgentReady.Settlement
