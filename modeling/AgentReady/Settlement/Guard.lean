import AgentReady.Settlement.Schema

/-!
What the database guard lets the two restricted roles do.

`Guarded` lists the branches of the guard that let a write pass, each with what it asks of
the old and the new row. `enforceRoleState_ok` says that there are no others; everything
later is a case analysis over them.
-/

namespace AgentReady.Settlement

open Sql

/-! ### The conditions -/

section Conditions

variable {role : Role} {now : Timestamp} {old new row : Attempt} {message : String}

@[simp] theorem raise_ok : ¬ raise message = .ok () := nofun

theorem ite_raise_ok {p : Prop} [Decidable p] {rest : Except DbError Unit} :
    (if p then raise message else rest) = .ok () ↔ ¬ p ∧ rest = .ok () := by
  by_cases h : p <;> simp [h]

/-- An insert of a pending row that nobody holds and nothing was settled for. -/
structure Clean (new : Attempt) : Prop where
  pending : new.status = .pending
  txHash : new.txHash = none
  evidenceJson : new.evidenceJson = none
  leaseOwner : new.leaseOwner = none
  leaseExpiresAt : new.leaseExpiresAt = none
  fenceToken : new.fenceToken = none
  releasedToApproval : new.releasedToApproval = none
  releasedBy : new.releasedBy = none
  releaseEvidenceJson : new.releaseEvidenceJson = none

/-- Nothing that belongs to a settlement changes. -/
structure SameSettlement (old new : Attempt) : Prop where
  txHash : new.txHash = old.txHash
  evidenceJson : new.evidenceJson = old.evidenceJson
  payer : new.payer = old.payer
  blockhash : new.blockhash = old.blockhash
  lease : old.SameLease new
  leaseExpiresAt : new.leaseExpiresAt = old.leaseExpiresAt
  releasedToApproval : new.releasedToApproval = old.releasedToApproval
  releasedBy : new.releasedBy = old.releasedBy
  releaseEvidenceJson : new.releaseEvidenceJson = old.releaseEvidenceJson

/-- The lease has run out, or there is none. -/
def Attempt.Lapsed (now : Timestamp) (a : Attempt) : Prop :=
  ∀ e, a.leaseExpiresAt = some e → e ≤ now

/-- A settled row carries a transaction, and no evidence that is not an object; an awaiting
row carries a transaction. -/
structure Carries (new : Attempt) : Prop where
  settled : new.status = .settled → new.txHash ≠ none ∧
    ∀ value, new.evidenceJson = some value → jsonbTypeof value = "object"
  awaiting : new.status = .awaitingEvidence → new.txHash ≠ none

theorem not_released_of_held {status : AttemptStatus} (held : status ∈ leasedStatuses) :
    status ≠ .released := by
  rintro rfl
  exact absurd held (by decide)

theorem Attempt.Leased.not_lapsed (h : row.Leased now) : ¬ row.Lapsed now := by
  obtain ⟨-, -, e, expires, later⟩ := h
  exact fun lapsed => absurd (lapsed e expires) (not_le.mpr later)

theorem unclean_fires : ¬ (unclean new).Fires ↔ Clean new := by
  simp only [unclean, Truth.fires_or, fires_is, fires_isNotNull, not_or, ne_eq, not_not]
  constructor
  · rintro ⟨a, b, c, d, e, f, g, h, i⟩
    exact ⟨a, b, c, d, e, f, g, h, i⟩
  · rintro ⟨a, b, c, d, e, f, g, h, i⟩
    exact ⟨a, b, c, d, e, f, g, h, i⟩

theorem identityChanged_fires : ¬ (identityChanged old new).Fires ↔ old.Identity new := by
  simp only [identityChanged, Truth.fires_or, fires_is, not_or, ne_eq, not_not]
  constructor
  · rintro ⟨a, b, c, d, e, f, g, h⟩
    exact ⟨a, b, c, d, e, f, g, h⟩
  · rintro ⟨a, b, c, d, e, f, g, h⟩
    exact ⟨a, b, c, d, e, f, g, h⟩

theorem stagingOversteps_fires : ¬ (stagingOversteps old new).Fires ↔ SameSettlement old new := by
  simp only [stagingOversteps, Truth.fires_or, fires_isDistinct, not_or, ne_eq, not_not]
  constructor
  · rintro ⟨a, b, c, d, e, f, g, h, i, j⟩
    exact ⟨a, b, c, d, ⟨e, g⟩, f, h, i, j⟩
  · rintro ⟨a, b, c, d, ⟨e, g⟩, f, h, i, j⟩
    exact ⟨a, b, c, d, e, f, g, h, i, j⟩

theorem releaseLacking_fires : ¬ (releaseLacking role old new).Fires ↔
    role = .operator ∧ old.status = .manual ∧ new.releasedToApproval ≠ none ∧
      new.releasedBy ≠ none ∧ new.releaseEvidenceJson ≠ none := by
  simp only [releaseLacking, Truth.fires_or, fires_is, fires_isNull, not_or, ne_eq, not_not]

theorem expired_fires : (expired now row).Fires ↔ row.Lapsed now := by
  simp only [expired, Truth.fires_or, fires_isNull, fires_test, Attempt.Lapsed]
  cases row.leaseExpiresAt <;> simp

theorem takesOver_fires : (takesOver now old new).Fires ↔
    new.status = old.status ∧ old.status ∈ leasedStatuses ∧ old.Lapsed now := by
  simp only [takesOver, Truth.fires_and, fires_is, expired_fires]

theorem unleased_fires : (unleased now row).Fires ↔ ¬ row.Leased now := by
  simp only [unleased, Truth.fires_or, fires_isNull, fires_test, Attempt.Leased]
  cases row.leaseOwner <;> cases row.fenceToken <;> cases row.leaseExpiresAt <;> simp

theorem leaseChanged_fires : (leaseChanged old new).Fires ↔ ¬ old.SameLease new := by
  simp only [leaseChanged, Truth.fires_or, fires_isDistinct]
  exact ⟨fun h same => h.elim (absurd same.1) (absurd same.2),
    fun h => not_and_or.mp fun same => h ⟨same.1, same.2⟩⟩

/-- An evidence that is NULL passes for one that is an object. -/
theorem isNotObject_fires {value : Option Json} :
    ¬ (isNotObject value).Fires ↔ ∀ j, value = some j → jsonbTypeof j = "object" := by
  simp only [isNotObject, fires_test, ne_eq, not_exists, not_and, not_not]

theorem enforceEvidence_ok : enforceEvidence new = .ok () ↔ Carries new := by
  simp only [enforceEvidence, ite_raise_ok, Truth.fires_and, Truth.fires_or, fires_is,
    fires_isNull, not_and, not_or, isNotObject_fires, and_true]
  exact ⟨fun h => ⟨h.1, h.2⟩, fun h => ⟨h.1, h.2⟩⟩

end Conditions

/-! ### The branches -/

/-- The writes that the guard lets a role do, by the branch that lets them pass. -/
inductive Guarded (role : Role) (now : Timestamp) : Option Attempt → Attempt → Prop where
  | insert {new : Attempt} (clean : Clean new) : Guarded role now none new
  | release {old new : Attempt} (identity : old.Identity new) (released : new.status = .released)
      (operator : role = .operator) (manual : old.status = .manual)
      (approval : new.releasedToApproval ≠ none) (releaser : new.releasedBy ≠ none)
      (evidence : new.releaseEvidenceJson ≠ none) : Guarded role now (some old) new
  | takeover {old new : Attempt} (identity : old.Identity new) (same : new.status = old.status)
      (held : old.status ∈ leasedStatuses) (lapsed : old.Lapsed now) (leased : new.Leased now) :
      Guarded role now (some old) new
  | stage {old new : Attempt} (identity : old.Identity new) (same : new.status = old.status)
      (pending : old.status = .pending) (unsettled : SameSettlement old new) :
      Guarded role now (some old) new
  | renew {old new : Attempt} (identity : old.Identity new) (same : new.status = old.status)
      (held : old.status ∈ leasedStatuses) (leased : old.Leased now) (kept : old.SameLease new) :
      Guarded role now (some old) new
  | claim {old new : Attempt} (identity : old.Identity new) (pending : old.status = .pending)
      (settling : new.status = .settling) (leased : new.Leased now) :
      Guarded role now (some old) new
  | advance {old new : Attempt} (identity : old.Identity new) (changed : new.status ≠ old.status)
      (held : old.status ∈ leasedStatuses) (next : new.status ∈ workerStatuses)
      (leased : old.Leased now) (kept : old.SameLease new) (carries : Carries new) :
      Guarded role now (some old) new

section Branches

variable {role : Role} {now : Timestamp} {old new : Attempt}

theorem enforceSameStatus_ok : enforceSameStatus now old new = .ok () ↔
    (old.status = .pending ∧ SameSettlement old new) ∨
      (old.status ∈ leasedStatuses ∧ old.Leased now ∧ old.SameLease new) := by
  simp only [enforceSameStatus, ite_raise_ok, fires_is]
  cases old.status <;>
    simp [leasedStatuses, stagingOversteps_fires, unleased_fires, leaseChanged_fires, not_or]

theorem enforceTransition_ok : enforceTransition now old new = .ok () ↔
    (old.status = .pending ∧ new.status = .settling ∧ new.Leased now ∧ Carries new) ∨
      (old.status ∈ leasedStatuses ∧ new.status ∈ workerStatuses ∧ old.Leased now ∧
        old.SameLease new ∧ Carries new) := by
  simp only [enforceTransition, Truth.fires_and, fires_is, Truth.fires_or]
  by_cases claims : old.status = .pending ∧ new.status = .settling
  · have held : old.status ∉ leasedStatuses := by rw [claims.1]; decide
    simp [claims, claims.1 ▸ held, ite_raise_ok, unleased_fires, enforceEvidence_ok]
  · rw [if_neg claims]
    by_cases advances : old.status ∈ leasedStatuses ∧ new.status ∈ workerStatuses
    · rw [if_pos advances, ite_raise_ok, unleased_fires, leaseChanged_fires, enforceEvidence_ok]
      simp only [not_or, not_not]
      constructor
      · rintro ⟨⟨leased, kept⟩, carries⟩
        exact .inr ⟨advances.1, advances.2, leased, kept, carries⟩
      · rintro (⟨pending, settling, -⟩ | ⟨-, -, leased, kept, carries⟩)
        · exact absurd ⟨pending, settling⟩ claims
        · exact ⟨⟨leased, kept⟩, carries⟩
    · rw [if_neg advances]
      refine iff_of_false raise_ok ?_
      rintro (⟨pending, settling, -⟩ | ⟨held, next, -⟩)
      · exact claims ⟨pending, settling⟩
      · exact advances ⟨held, next⟩

/-- The guard lets exactly the listed writes of a restricted role pass. -/
theorem enforceRoleState_ok {old : Option Attempt} (guarded : role ≠ .other) :
    enforceRoleState role now old new = .ok () ↔ Guarded role now old new := by
  unfold enforceRoleState
  rw [if_neg guarded]
  cases old with
  | none =>
      rw [ite_raise_ok, unclean_fires]
      exact ⟨fun h => .insert h.1, fun | .insert clean => ⟨clean, rfl⟩⟩
  | some old =>
  dsimp only
  rw [ite_raise_ok, identityChanged_fires]
  simp only [fires_is]
  have taking : (takesOver now old new).Fires ↔ _ := takesOver_fires
  constructor
  · rintro ⟨identity, h⟩
    split at h
    · rename_i released
      rw [ite_raise_ok, releaseLacking_fires] at h
      obtain ⟨⟨operator, manual, approval, releaser, evidence⟩, -⟩ := h
      exact .release identity released operator manual approval releaser evidence
    split at h
    · rename_i taken
      rw [ite_raise_ok, unleased_fires, not_not] at h
      obtain ⟨same, held, lapsed⟩ := taking.mp taken
      exact .takeover identity same held lapsed h.1
    split at h
    · rename_i same
      rcases enforceSameStatus_ok.mp h with ⟨pending, unsettled⟩ | ⟨held, leased, kept⟩
      · exact .stage identity same pending unsettled
      · exact .renew identity same held leased kept
    · rename_i changed
      rcases enforceTransition_ok.mp h with ⟨pending, settling, leased, -⟩ |
        ⟨held, next, leased, kept, carries⟩
      · exact .claim identity pending settling leased
      · exact .advance identity changed held next leased kept carries
  · intro h
    cases h with
    | release identity released operator manual approval releaser evidence =>
        refine ⟨identity, ?_⟩
        rw [if_pos released, ite_raise_ok, releaseLacking_fires]
        exact ⟨⟨operator, manual, approval, releaser, evidence⟩, rfl⟩
    | takeover identity same held lapsed leased =>
        refine ⟨identity, ?_⟩
        have unreleased : new.status ≠ .released := same ▸ not_released_of_held held
        rw [if_neg unreleased, if_pos (taking.mpr ⟨same, held, lapsed⟩), ite_raise_ok, unleased_fires, not_not]
        exact ⟨leased, rfl⟩
    | stage identity same pending unsettled =>
        refine ⟨identity, ?_⟩
        have unheld : old.status ∉ leasedStatuses := by rw [pending]; decide
        rw [if_neg (by rw [same, pending]; decide), if_neg fun taken => unheld (taking.mp taken).2.1, if_pos same]
        exact enforceSameStatus_ok.mpr (.inl ⟨pending, unsettled⟩)
    | renew identity same held leased kept =>
        refine ⟨identity, ?_⟩
        have unreleased : new.status ≠ .released := same ▸ not_released_of_held held
        rw [if_neg unreleased, if_neg fun taken => leased.not_lapsed (taking.mp taken).2.2, if_pos same]
        exact enforceSameStatus_ok.mpr (.inr ⟨held, leased, kept⟩)
    | claim identity pending settling leased =>
        refine ⟨identity, ?_⟩
        have changed : new.status ≠ old.status := by rw [pending, settling]; decide
        rw [if_neg (by rw [settling]; decide), if_neg fun taken => changed (taking.mp taken).1, if_neg changed]
        refine enforceTransition_ok.mpr (.inl ⟨pending, settling, leased, ?_, ?_⟩)
        · intro settled
          cases settling.symm.trans settled
        · intro awaiting
          cases settling.symm.trans awaiting
    | advance identity changed held next leased kept carries =>
        refine ⟨identity, ?_⟩
        have unreleased : new.status ≠ .released := by
          rintro released
          rw [released] at next
          exact absurd next (by decide)
        rw [if_neg unreleased, if_neg fun taken => changed (taking.mp taken).1, if_neg changed]
        exact enforceTransition_ok.mpr (.inr ⟨held, next, leased, kept, carries⟩)

end Branches

end AgentReady.Settlement
