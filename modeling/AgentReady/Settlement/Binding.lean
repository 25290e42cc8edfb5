import AgentReady.Settlement.Completion

/-!
An attempt that is bound to an approval is only answered to who presents it, where the store in
memory does not find it under the operation id of the attempt that it would create.

`resolveOrCreate` runs alone, over any rows.

* `approval_bound_iff`: a row that it answers as existing or created is bound to no approval, or to
  the presented one, and a row that it creates after a release is bound to the approval that the
  release cites, exactly where there is no such collision.
* `approval_bound_false`: in memory, a row under the same operation id is answered unchecked.
-/

namespace AgentReady.Settlement

open Coop

/-- Every statement arrives, and so does its answer; nothing else is answered. -/
def Ask.arrives : (q : Ask) → Option q.Answer
  | .dispatch _ | .deliver _ => some .through
  | _ => none

/-- What a request presents is what the answered row is bound to, and what the release cites that
was the last in its slot. -/
structure BindsApproval (input : ResolveInput) (released : Option Attempt) (result : ResolveResult) :
    Prop where
  bound : result.kind = .existing ∨ result.kind = .created → isApproval result.row.authRevision = true →
    input.approvalEventId = some result.row.authRevision
  cited : result.kind = .created → ∀ row, released = some row →
    row.releasedToApproval = input.approvalEventId ∧
      input.approvalEventId = some result.row.authRevision

section Revisions

variable {R : Runtime} {input : ResolveInput} {draw : Nat} {revision : String} {row : Attempt}
  {released : Option Attempt}

theorem not_isApproval_mint : isApproval (R.mintSpendAuthRevision draw) = false := by
  unfold isApproval Runtime.mintSpendAuthRevision
  rw [String.toList_append]
  rfl

theorem isApproval_ne_empty (h : isApproval revision = true) : revision ≠ "" := by
  rintro rfl
  exact absurd h (by decide)

/-- An attempt that is bound to an approval is answered to who presents it. -/
theorem approvalMismatch_iff {presented : Option String} :
    approvalMismatch revision presented = false ↔
      (isApproval revision = true → presented = some revision) := by
  unfold approvalMismatch
  rw [Bool.and_eq_false_iff, decide_eq_false_iff_not, not_not]
  constructor
  · rintro (unbound | same) bound
    · rw [bound] at unbound
      cases unbound
    · exact (Option.filter_eq_some_iff.mp same).1
  · intro same
    by_cases bound : isApproval revision = true
    · refine .inr ?_
      rw [same bound, Option.filter_some, if_pos (by simpa using isApproval_ne_empty bound)]
    · exact .inl (by simpa using bound)

theorem binds_reuse : BindsApproval input released (reuse input row) := by
  unfold reuse
  by_cases mismatch : approvalMismatch row.authRevision input.approvalEventId = true
  · rw [if_pos mismatch]
    constructor
    · rintro (⟨⟨⟩⟩ | ⟨⟨⟩⟩)
    · rintro ⟨⟩
  · rw [if_neg mismatch]
    constructor
    · intro _ bound
      exact approvalMismatch_iff.mp (by simpa using mismatch) bound
    · rintro ⟨⟩

theorem binds_releaseRequired {detail : String} :
    BindsApproval input released ⟨.releaseRequired, row, detail⟩ := by
  constructor
  · rintro (⟨⟨⟩⟩ | ⟨⟨⟩⟩)
  · rintro ⟨⟩

/-- A fresh attempt is bound to the approval that is presented, and that the release cites. -/
theorem binds_created {now : Int} (revised : R.authRevision draw input released = some revision) :
    BindsApproval input released ⟨.created, R.freshAttempt now input revision, ""⟩ := by
  cases released with
  | none =>
      refine ⟨fun _ bound => ?_, by rintro _ _ ⟨⟩⟩
      change isApproval revision = true at bound
      obtain rfl := Option.some.inj revised
      change input.approvalEventId = some (input.approvalEventId.getD _)
      cases presented : input.approvalEventId with
      | none =>
          rw [presented] at bound
          cases not_isApproval_mint.symm.trans bound
      | some approval => rfl
  | some row =>
      obtain ⟨found, cites⟩ := Option.filter_eq_some_iff.mp revised
      obtain ⟨presented, -⟩ := Option.filter_eq_some_iff.mp found
      refine ⟨fun _ _ => presented, ?_⟩
      rintro - _ ⟨⟩
      have cited : some revision = row.releasedToApproval := by simpa using cites
      exact ⟨cited.symm.trans presented.symm, presented⟩

/-- Where there is no revision, a release was not cited. -/
theorem revised_or_released :
    (∃ revision, R.authRevision draw input released = some revision) ∨
      (∃ row, released = some row ∧ R.authRevision draw input released = none) := by
  cases revised : R.authRevision draw input released with
  | some revision => exact .inl ⟨revision, rfl⟩
  | none =>
      cases released with
      | none => cases revised
      | some row => exact .inr ⟨row, rfl, rfl⟩

end Revisions

/-! ### In memory -/

namespace MemoryStore

/-- Where no row answers a request, one is stored under the operation id of the attempt that is to be
created, and bound to another approval. -/
def Collides (R : Runtime) (draw : Nat) (input : ResolveInput) (s : MemoryStore) : Prop :=
  s.existing input = none ∧ ∃ revision row,
    R.authRevision draw input (s.released input) = some revision ∧
    s.get? (R.buildOperationId input revision) = some row ∧
    approvalMismatch row.authRevision input.approvalEventId = true

theorem resolve_binds_iff {R : Runtime} {now : Int} {draw : Nat} {input : ResolveInput}
    {s s' : MemoryStore} {result : ResolveResult} (h : resolve R now draw input s = (result, s')) :
    BindsApproval input (s.released input) result ↔ ¬ s.Collides R draw input := by
  unfold resolve at h
  unfold Collides
  cases found : s.existing input with
  | some row =>
      simp only [found] at h
      cases h
      exact iff_of_true binds_reuse (by rintro ⟨⟨⟩, -⟩)
  | none =>
      simp only [found] at h
      split at h
      · rename_i row released none_
        cases h
        refine iff_of_true binds_releaseRequired ?_
        rintro ⟨-, revision', row', revised', -⟩
        cases none_.symm.trans revised'
      · rename_i excluded
        obtain ⟨revision, revised⟩ : ∃ revision, R.authRevision draw input (s.released input) =
            some revision := by
          rcases revised_or_released with revised | ⟨row, released, none_⟩
          · exact revised
          · exact absurd none_ (excluded row released)
        rw [revised] at h
        split at h
        · rename_i row stored
          cases h
          constructor
          · rintro binds ⟨-, revision', row', revised', stored', mismatch⟩
            obtain rfl := Option.some.inj (revised.symm.trans revised')
            obtain rfl := Option.some.inj (stored.symm.trans stored')
            rw [approvalMismatch_iff.mpr (binds.bound (.inl rfl))] at mismatch
            cases mismatch
          · intro apart
            refine ⟨fun _ => approvalMismatch_iff.mp ?_, by rintro ⟨⟩⟩
            by_contra mismatch
            exact apart ⟨rfl, revision, row, revised, stored, by simpa using mismatch⟩
        · rename_i free
          cases h
          refine iff_of_true (binds_created revised) ?_
          rintro ⟨-, revision', row', revised', stored', -⟩
          obtain rfl := Option.some.inj (revised.symm.trans revised')
          cases free.symm.trans stored'

end MemoryStore

/-! ### In the database -/

section Database

variable {R : Runtime} {role : Role} {input : ResolveInput} {result : ResolveResult}

/-- The revision that a statement goes on with is that of an attempt which may be created. -/
def Resolving.Revised (R : Runtime) (input : ResolveInput) (table : Table) : Resolving → Prop
  | insert revision | reread revision _ _ =>
      ∃ draw, R.authRevision draw input (table.findLatestReleased input) = some revision
  | _ => True

/-- What a statement answers, or goes on with. -/
def Progress.Binds (R : Runtime) (input : ResolveInput) (table table' : Table) : Progress → Prop
  | .done (.ok result) => BindsApproval input (table.findLatestReleased input) result
  | .done (.error _) => True
  | .next phase => table' = table ∧ phase.Revised R input table

theorem binds_orElse {table : Table} {row : Option Attempt} {phase : Resolving}
    (revised : phase.Revised R input table) :
    (Resolving.orElse input row phase).Binds R input table table := by
  cases row with
  | some row => exact binds_reuse
  | none => exact ⟨rfl, revised⟩

theorem Resolving.advance_binds {phase : Resolving} {now : Int} {draws draws' : Nat}
    {table table' : Table} {progress : Progress} (revised : phase.Revised R input table)
    (h : phase.advance R role input now draws table = (progress, table', draws')) :
    progress.Binds R input table table' := by
  cases phase with
  | replay => cases h; exact binds_orElse trivial
  | payment => cases h; exact binds_orElse trivial
  | active => cases h; exact binds_orElse trivial
  | settled => cases h; exact binds_orElse trivial
  | released =>
      unfold advance at h
      dsimp only at h
      split at h
      · cases h
        exact binds_releaseRequired
      · rename_i excluded
        cases h
        refine ⟨rfl, draws, ?_⟩
        rcases revised_or_released with ⟨revision, revised⟩ | ⟨row, released, none_⟩
        · rw [revised]
          rfl
        · exact absurd none_ (excluded row released)
  | insert revision =>
      unfold advance at h
      dsimp only at h
      split at h
      · cases h
        obtain ⟨draw, revised⟩ := revised
        exact binds_created revised
      · split at h
        · cases h
          exact ⟨rfl, revised⟩
        · cases h
          trivial
  | reread revision left winner =>
      unfold advance at h
      dsimp only at h
      split at h
      · cases h
        exact ⟨rfl, revised⟩
      · cases h
        exact binds_reuse
      · cases h
        trivial

theorem resolveFrom_binds {left : Nat} {phase : Resolving} {s s' : World Table}
    (revised : phase.Revised R input s.store)
    (h : (resolveFrom R role input left phase).complete Ask.arrives s = some (.ok result, s')) :
    BindsApproval input (s.store.findLatestReleased input) result := by
  induction left generalizing phase s with
  | zero => cases h
  | succ left ih =>
      unfold resolveFrom at h
      cases advanced : phase.advance R role input s.clock s.draws s.store with
      | mk progress rest =>
          have binds := Resolving.advance_binds revised advanced
          rw [Proc.complete_then (@complete_statement _ _ _ _ _ _ progress
            { s with store := rest.1, draws := rest.2 } rfl rfl (by rw [advanced]))] at h
          cases progress with
          | next phase' =>
              obtain ⟨same, revised'⟩ := binds
              rw [← same] at revised' ⊢
              exact ih revised' h
          | done ended =>
              cases ended with
              | ok answered =>
                  cases h
                  exact binds
              | error e => cases h

end Database

/-! ### Both stores -/

namespace Backend

/-- The released attempt of the slot that was updated last. -/
def released (input : ResolveInput) : (b : Backend) → b.State → Option Attempt
  | memory, s => MemoryStore.released s input
  | postgres .., s => Table.findLatestReleased input s

/-- The store has a row under the operation id of the attempt that it would create, and answers it
unchecked. -/
def Collides (R : Runtime) (draw : Nat) (input : ResolveInput) : (b : Backend) → b.State → Prop
  | memory, s => MemoryStore.Collides R draw input s
  | postgres .., _ => False

end Backend

section Bound

variable {b : Backend} {R : Runtime} {input : ResolveInput} {s s' : World b.State}
  {result : ResolveResult}

/-- Over any rows, what `resolveOrCreate` answers is bound to no approval but the presented one, and
what it creates after a release is bound to the approval that the release cites, exactly where the
store answers no row unchecked. -/
theorem approval_bound_iff
    (h : ((b.store R).resolveOrCreate input).complete Ask.arrives s = some (.ok result, s')) :
    BindsApproval input (b.released input s.store) result ↔ ¬ b.Collides R s.draws input s.store := by
  cases b with
  | memory =>
      cases resolved : MemoryStore.resolve R s.clock s.draws input s.store with
      | mk answered store =>
          have done : ((MemoryStore.settlementStore R).resolveOrCreate input).complete Ask.arrives s =
              some (.ok answered, { s with store, draws := s.draws + 1 }) := by
            unfold MemoryStore.settlementStore
            dsimp only
            refine complete_statement rfl rfl ?_
            rw [resolved]
          obtain ⟨same, -⟩ := Prod.mk.inj (Option.some.inj (done.symm.trans h))
          obtain rfl := Except.ok.inj same
          exact MemoryStore.resolve_binds_iff resolved
  | postgres role sealSignedPayload =>
      have start : Resolving.replay.Revised R input s.store := trivial
      exact iff_of_true (resolveFrom_binds start h) id

end Bound

/-! ### A row under the same operation id -/

namespace Sample

/-- A request for an attempt, by its resource, payment id and approval. -/
def asking (resource callerPaymentId approval : String) : ResolveInput where
  logicalOrderId := "ord_1"
  intentVersion := 0
  requestDigest
  resource
  approvalEventId := some approval
  callerPaymentId

def firstInput : ResolveInput := asking resourceUrl paymentId "appr_1|2"

/-- The text that its operation id is the digest of is the same. -/
def secondInput : ResolveInput := asking (resourceUrl ++ "|appr_1") "pay_fedcba9876543210" "2"

/-- SHA-256, with the operation id of the two requests. -/
def hashing : Runtime where
  platform := { runtime.platform with
    sha256 := fun text =>
      if text = "|".intercalate ["ord_1", "0", requestDigest, resourceUrl, "appr_1|2"] then
        "a2d4f2507a137ce0886c33bef45f24cad1021defcc61b26938e7f73241d46038"
      else sha256 text }
  uuid := runtime.uuid
  sha256_ne_empty text := by
    dsimp only
    split_ifs
    · decide
    · exact sha256_ne_empty text

/-- The attempt of the first request, created, claimed and rejected. -/
def rejected : MemoryStore :=
  let created := MemoryStore.resolve hashing 0 0 firstInput MemoryStore.empty
  let id := created.1.row.operationId
  let claimed := (created.2.exec 0 "fence" (.claimForSettle id "worker" 60000000 none none)).2
  (claimed.exec 0 "" (.transition id [.settling] .rejected {} (some "worker") (some "fence"))).2

def rejectedWorld : World MemoryStore := .start rejected 0 0 0

/-- How a request that runs alone is answered. -/
def answered (input : ResolveInput) (s : World MemoryStore) : Option ResolveResult :=
  (((MemoryStore.settlementStore hashing).resolveOrCreate input).complete Ask.arrives s).bind
    fun r => r.1.toOption

theorem answered_some {input : ResolveInput} {s : World MemoryStore} {result : ResolveResult}
    (h : answered input s = some result) : ∃ s', ((Backend.memory.store hashing).resolveOrCreate input
      ).complete Ask.arrives s = some (.ok result, s') := by
  obtain ⟨⟨ended, s'⟩, done, same⟩ := Option.bind_eq_some_iff.mp h
  cases ended with
  | ok result' =>
      obtain rfl := Option.some.inj same
      exact ⟨s', done⟩
  | error e => cases same

end Sample

theorem approval_bound_iff_created : ∃ result s', ((Backend.memory.store Sample.hashing
      ).resolveOrCreate Sample.firstInput).complete Ask.arrives (.start MemoryStore.empty 0 0 0) =
        some (.ok result, s') ∧ result.kind = .created ∧
      BindsApproval Sample.firstInput (MemoryStore.empty.released Sample.firstInput) result := by
  have created : ∃ result, Sample.answered Sample.firstInput (.start MemoryStore.empty 0 0 0) =
      some result ∧ result.kind = .created := by
    refine ⟨_, rfl, ?_⟩
    decide +kernel
  obtain ⟨result, answered, kind⟩ := created
  obtain ⟨s', done⟩ := Sample.answered_some answered
  refine ⟨result, s', done, kind, (@approval_bound_iff .memory _ _ _ _ _ done).mpr ?_⟩
  rintro ⟨-, revision, row, -, stored, -⟩
  cases (OrderedMap.get?_empty _).symm.trans stored

theorem approval_bound_false : ¬ ∀ (b : Backend) (R : Runtime) (input : ResolveInput)
    (s s' : World b.State) (result : ResolveResult),
      ((b.store R).resolveOrCreate input).complete Ask.arrives s = some (.ok result, s') →
        BindsApproval input (b.released input s.store) result := by
  intro claim
  have existing : ∃ result, Sample.answered Sample.secondInput Sample.rejectedWorld = some result ∧
      result.kind = .existing ∧ result.row.authRevision = "appr_1|2" := by
    refine ⟨_, rfl, ?_⟩
    decide +kernel
  obtain ⟨result, answered, kind, revision⟩ := existing
  obtain ⟨s', done⟩ := Sample.answered_some answered
  have bound := (claim .memory Sample.hashing _ _ s' result done).bound (.inl kind)
  rw [revision] at bound
  exact absurd (bound (by decide)) (by decide)

end AgentReady.Settlement
