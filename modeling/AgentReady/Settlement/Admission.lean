import AgentReady.Settlement.Guard
import AgentReady.Settlement.Lifecycle
import AgentReady.Settlement.Store

/-!
The writes of the application, and whether the guard lets them pass.

`AppWrite` lists the updates that `DevnetMachineResource` and the operator's reconciliation
issue, each under the note it leaves in the history, with the statuses it starts from, the
status it sets and the columns it sets.

* `admitted_iff`: the guard lets a write pass exactly where it is `Admissible`: a rejection
  and the two ways back to `pending` never are, and a staging is where it names the payment
  identifier that the row has.
* `admits_every_write_false`: so it does not let every write pass that applies to a row the
  application itself brought about.
-/

namespace AgentReady.Settlement

open Sql

/-- An update that the application issues. -/
inductive AppWrite where
  | claimForSettle (owner fence : String) (leaseTtl : LeaseTtl) (payload digest : Option String)
  | revalidateForSettle (owner fence : String) (leaseTtl : LeaseTtl)
  /-- `claimRowForTakeover` or `claimForReconcile`. -/
  | takeover (owner fence : String) (leaseTtl : LeaseTtl)
  | prepareStage (payload digest paymentIdentifier : String)
  | claimDigestAbandon (owner fence : String)
  | claimBlockhash (owner fence blockhash : String)
  | verifyFailed (owner fence : String)
  | verifyPassed (owner fence payer : String)
  /-- `settle-transport-failed`, with a known transaction or without. -/
  | settleTransportFailed (owner fence : String) (hash payer : Option String)
  | settleMalformed (owner fence : String)
  | settlePayerMismatch (owner fence hash payer : String)
  /-- `settle-adapt-failed` and `settle-unsuccessful`, with a transaction. -/
  | settleAwaited (owner fence hash payer : String)
  /-- `settle-adapt-failed` and `settle-unsuccessful`, without one. -/
  | settleUnsigned (owner fence hash payer : String)
  /-- `complete-settlement` where the evidence is not available yet. -/
  | completeAwaited (owner fence hash : String)
  /-- `complete-settlement` where the evidence does not match. -/
  | completeManual (owner fence hash : String)
  /-- `complete-settlement` and `operator-reconcile`. -/
  | completeSettled (owner fence hash : String) (evidence : List (String × Json))
  | joinInspectMismatch (owner fence : String)
  | joinTakeover (owner fence : String)

namespace AppWrite

/-- A transition under a lease. -/
structure Leased where
  from_ : List AttemptStatus
  to_ : AttemptStatus
  owner : String
  fence : String
  update : Update := {}

/-- The transitions under a lease, as the calls of `transition` give them. -/
def leased? : AppWrite → Option Leased
  | claimDigestAbandon owner fence => some ⟨[.settling], .pending, owner, fence, {}⟩
  | claimBlockhash owner fence blockhash =>
      some ⟨[.settling], .settling, owner, fence, { blockhash := some (some blockhash) }⟩
  | verifyFailed owner fence => some ⟨[.settling], .rejected, owner, fence, {}⟩
  | verifyPassed owner fence payer =>
      some ⟨[.settling], .settling, owner, fence, { payer := some (some payer) }⟩
  | settleTransportFailed owner fence (some hash) payer => some ⟨[.settling], .awaitingEvidence,
      owner, fence, { txHash := some (some hash), payer := payer.map some }⟩
  | settleTransportFailed owner fence none payer =>
      some ⟨[.settling], .manual, owner, fence, { payer := payer.map some }⟩
  | settleMalformed owner fence => some ⟨[.settling], .manual, owner, fence, {}⟩
  | settlePayerMismatch owner fence hash payer | settleUnsigned owner fence hash payer =>
      some ⟨[.settling], .manual, owner, fence,
        { txHash := some (some hash), payer := some (some payer) }⟩
  | settleAwaited owner fence hash payer => some ⟨[.settling], .awaitingEvidence, owner, fence,
      { txHash := some (some hash), payer := some (some payer) }⟩
  | completeAwaited owner fence hash => some ⟨leasedStatuses, .awaitingEvidence, owner, fence,
      { txHash := some (some hash) }⟩
  | completeManual owner fence hash =>
      some ⟨leasedStatuses, .manual, owner, fence, { txHash := some (some hash) }⟩
  | completeSettled owner fence hash evidence => some ⟨leasedStatuses, .settled, owner, fence,
      { txHash := some (some hash), evidenceJson := some (.obj evidence) }⟩
  | joinInspectMismatch owner fence =>
      some ⟨[.awaitingEvidence], .mismatch, owner, fence, {}⟩
  | joinTakeover owner fence => some ⟨[.settling], .pending, owner, fence, {}⟩
  | _ => none

/-- The condition of the update on the row. -/
def applies (now : Int) (row : Attempt) (w : AppWrite) : Truth :=
  match w, w.leased? with
  | _, some t => (is (row.status ∈ t.from_)).and (row.presents now t.owner t.fence)
  | claimForSettle .., _ | prepareStage .., _ => is (row.status = .pending)
  | revalidateForSettle owner fence _, _ =>
      (is (row.status = .settling)).and (row.presents now owner fence)
  | takeover .., _ => row.open_ now
  | _, none => some false

/-- The row that the update leaves. -/
def result (now : Int) (row : Attempt) (w : AppWrite) : Attempt :=
  match w, w.leased? with
  | _, some t => row.transitioned now t.to_ t.update
  | claimForSettle owner fence ttl payload digest, _ =>
      row.claimed now owner ttl.micros fence payload digest
  | prepareStage payload digest paymentIdentifier, _ => row.transitioned now .pending
      { signedPayloadEnc := some (some payload), payloadDigest := some (some digest)
        callerPaymentId := some paymentIdentifier }
  | revalidateForSettle _ _ ttl, _ => row.renewed now ttl.micros
  | takeover owner fence ttl, _ => row.held now owner ttl.micros fence
  | _, none => row

/-- The updates that the guard has a branch for. -/
def Admissible (row : Attempt) : AppWrite → Prop
  | verifyFailed .. | claimDigestAbandon .. | joinTakeover .. => False
  | prepareStage _ _ paymentIdentifier => paymentIdentifier = row.callerPaymentId
  | _ => True

end AppWrite

section Admission

variable {now : Int} {row : Attempt} {w : AppWrite}

theorem Attempt.Identity.transitioned {to_ : AttemptStatus} {update : Update}
    (kept : update.callerPaymentId = none) : row.Identity (row.transitioned now to_ update) :=
  ⟨rfl, rfl, rfl, rfl, rfl, rfl, congrArg (·.getD row.callerPaymentId) kept, rfl⟩

theorem leased_held (row : Attempt) {owner fence : String} (ttl : LeaseTtl) :
    (row.held now owner ttl.micros fence).Leased now := by
  refine ⟨nofun, nofun, _, rfl, ?_⟩
  exact Timestamp.coe_lt.mpr (Int.lt_add_of_pos_right now ttl.positive)

theorem leased_of_presents {owner fence : String} (presents : (row.presents now owner fence).Fires) :
    row.Leased now := by
  obtain ⟨owned, fenced, running⟩ := presents_fires.mp presents
  exact ⟨by rw [owned]; nofun, by rw [fenced]; nofun, running⟩

/-- A transition under a lease passes where it leads to a status that a worker may set, and
carries what that status asks for. -/
theorem admitted_transition {from_ : List AttemptStatus} {to_ : AttemptStatus} {owner fence : String}
    {update : Update} (applies : ((is (row.status ∈ from_)).and (row.presents now owner fence)).Fires)
    (held : from_ ⊆ leasedStatuses) (next : to_ ∈ workerStatuses)
    (kept : update.callerPaymentId = none) (carries : Carries (row.transitioned now to_ update)) :
    enforceRoleState .app now (some row) (row.transitioned now to_ update) = .ok () := by
  rw [enforceRoleState_ok (by decide)]
  obtain ⟨starts, presents⟩ := Truth.fires_and.mp applies
  have held := held (fires_is.mp starts)
  have leased := leased_of_presents presents
  by_cases same : to_ = row.status
  · exact .renew (.transitioned kept) same held leased ⟨rfl, rfl⟩
  · exact .advance (.transitioned kept) same held next leased ⟨rfl, rfl⟩ carries

/-- A transition out of a held status to one that no worker may set is refused. -/
theorem refused_transition {to_ : AttemptStatus} {owner fence : String} {update : Update}
    (applies : ((is (row.status ∈ [.settling])).and (row.presents now owner fence)).Fires)
    (changed : to_ ≠ .settling) (unreleased : to_ ≠ .released) (outside : to_ ∉ workerStatuses) :
    enforceRoleState .app now (some row) (row.transitioned now to_ update) ≠ .ok () := by
  rw [ne_eq, enforceRoleState_ok (by decide)]
  have settling : row.status = .settling :=
    List.mem_singleton.mp (fires_is.mp (Truth.fires_and.mp applies).1)
  intro guarded
  cases guarded with
  | release _ released => exact unreleased released
  | takeover _ same | stage _ same | renew _ same => exact changed (Eq.trans same settling)
  | claim _ pending => cases settling.symm.trans pending
  | advance _ _ _ next => exact outside next

theorem carries_other {to_ : AttemptStatus} {update : Update} (unsettled : to_ ≠ .settled)
    (unawaiting : to_ ≠ .awaitingEvidence) : Carries (row.transitioned now to_ update) :=
  ⟨fun settled => absurd settled unsettled, fun awaiting => absurd awaiting unawaiting⟩

theorem carries_awaiting {update : Update} {hash : String} (signed : update.txHash = some (some hash)) :
    Carries (row.transitioned now .awaitingEvidence update) := by
  constructor
  · intro settled
    cases settled
  · intro _
    simp [Attempt.transitioned, signed]

theorem carries_settled {update : Update} {hash : String} {evidence : List (String × Json)}
    (signed : update.txHash = some (some hash)) (object : update.evidenceJson = some (.obj evidence)) :
    Carries (row.transitioned now .settled update) := by
  constructor
  · intro _
    simp [Attempt.transitioned, signed, object, jsonbTypeof]
  · intro awaiting
    cases awaiting

/-- The guard lets a write that applies pass exactly where it has a branch for it. -/
theorem admitted_iff (applies : (w.applies now row).Fires) :
    enforceRoleState .app now (some row) (w.result now row) = .ok () ↔ w.Admissible row := by
  have passes {p : Prop} (admitted : p) : p ↔ True := iff_true_intro admitted
  cases w with
  | claimForSettle owner fence ttl payload digest =>
      refine passes ((enforceRoleState_ok (by decide)).mpr ?_)
      exact .claim ⟨rfl, rfl, rfl, rfl, rfl, rfl, rfl, rfl⟩ (fires_is.mp applies) rfl
        (leased_held row ttl)
  | revalidateForSettle owner fence ttl =>
      refine passes ((enforceRoleState_ok (by decide)).mpr ?_)
      obtain ⟨settling, presents⟩ := Truth.fires_and.mp applies
      have held : row.status ∈ leasedStatuses := by rw [fires_is.mp settling]; decide
      exact .renew ⟨rfl, rfl, rfl, rfl, rfl, rfl, rfl, rfl⟩ rfl held (leased_of_presents presents)
        ⟨rfl, rfl⟩
  | takeover owner fence ttl =>
      refine passes ((enforceRoleState_ok (by decide)).mpr ?_)
      obtain ⟨held, lapsed⟩ := Truth.fires_and.mp applies
      exact .takeover ⟨rfl, rfl, rfl, rfl, rfl, rfl, rfl, rfl⟩ rfl (fires_is.mp held)
        (expired_fires.mp lapsed) (leased_held row ttl)
  | prepareStage payload digest paymentIdentifier =>
      have pending : row.status = .pending := fires_is.mp applies
      rw [enforceRoleState_ok (by decide)]
      refine ⟨fun guarded => guarded.identity.callerPaymentId, fun same => ?_⟩
      refine .stage ⟨rfl, rfl, rfl, rfl, rfl, rfl, same, rfl⟩ pending.symm pending ?_
      exact ⟨rfl, rfl, rfl, rfl, ⟨rfl, rfl⟩, rfl, rfl, rfl, rfl⟩
  | verifyFailed | claimDigestAbandon | joinTakeover =>
      exact iff_of_false (refused_transition applies (by simp) (by simp) (by simp [workerStatuses])) id
  | settleTransportFailed owner fence hash payer =>
      cases hash with
      | none =>
          exact passes (admitted_transition applies (by simp [leasedStatuses])
            (by simp [workerStatuses]) rfl (carries_other (by simp) (by simp)))
      | some hash =>
          exact passes (admitted_transition applies (by simp [leasedStatuses])
            (by simp [workerStatuses]) rfl (carries_awaiting rfl))
  | claimBlockhash | verifyPassed | settleMalformed | settlePayerMismatch | settleUnsigned
  | completeManual | joinInspectMismatch =>
      exact passes (admitted_transition applies (by simp [leasedStatuses])
        (by simp [workerStatuses]) rfl (carries_other (by simp) (by simp)))
  | settleAwaited | completeAwaited =>
      exact passes (admitted_transition applies (by simp [leasedStatuses])
        (by simp [workerStatuses]) rfl (carries_awaiting rfl))
  | completeSettled owner fence hash evidence =>
      exact passes (admitted_transition applies (by simp [leasedStatuses])
        (by simp [workerStatuses]) rfl (carries_settled rfl rfl))

end Admission

/-! ### The rows that the application brings about -/

/-- The tables that inserts and updates of the application lead to. -/
inductive AppReaches : Table → Prop where
  | empty : AppReaches Table.empty
  | insert {table table' : Table} {now : Int} {row : Attempt} (before : AppReaches table)
      (accepted : write .app now table none row = .ok table') : AppReaches table'
  | update {table table' : Table} {now : Int} {row : Attempt} {w : AppWrite}
      (before : AppReaches table) (stored : table.get? row.operationId = some row)
      (applies : (w.applies now row).Fires)
      (accepted : write .app now table (some row) (w.result now row) = .ok table') : AppReaches table'

/-- The guard lets every write of the application pass that applies to a row it brought about. -/
def AdmitsEveryWrite : Prop :=
  ∀ table, AppReaches table → ∀ row, table.get? row.operationId = some row → ∀ (now : Int)
    (w : AppWrite), (w.applies now row).Fires →
      enforceRoleState .app now (some row) (w.result now row) = .ok ()

/-- The attempt that a worker has claimed, ten microseconds before its lease runs out. -/
def claimedAttempt : Attempt :=
  (AppWrite.claimForSettle "worker" "fence" ⟨10, by decide⟩ none none).result 0 stagedAttempt

/-- A payment that the facilitator does not verify cannot be recorded as rejected. -/
theorem admits_every_write_false : ¬ AdmitsEveryWrite := by
  intro admits
  have staged := AppReaches.insert .empty
    (@write_put .app (0 : Int) _ none stagedAttempt rfl rfl (by decide +kernel) (by decide +kernel))
  have claimed := @AppReaches.update _ _ 0 stagedAttempt
    (.claimForSettle "worker" "fence" ⟨10, by decide⟩ none none) staged (by decide +kernel)
    (by decide)
    (@write_put .app (0 : Int) _ (some stagedAttempt) claimedAttempt rfl rfl (by decide +kernel)
      (by decide +kernel))
  have passes := admits _ claimed claimedAttempt (by decide +kernel) 1
    (.verifyFailed "worker" "fence") (by decide)
  exact absurd passes (by decide)

theorem admitted_iff_claim : enforceRoleState .app (0 : Int) (some stagedAttempt) claimedAttempt =
    .ok () :=
  (admitted_iff (w := .claimForSettle "worker" "fence" ⟨10, by decide⟩ none none) (by decide)).mpr
    trivial

end AgentReady.Settlement
