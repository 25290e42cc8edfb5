import AgentReady.Settlement.Answers
import Mathlib.Data.Fintype.EquivFin

/-!
Opening a slot again (`packages/payments/src/x402-settlement-store.ts`).

An order whose attempts are all resolved may be paid by a fresh attempt. Where an attempt was
released, it needs the approval that the release cites, and the operation id is a digest of that
approval.

* `Engine`: the two stores, the database without the guard of its roles and the checks of its values.
* `Orderly`: what every run keeps of the stored attempts.
* `reopens_iff`: a slot can be opened again if and only if no attempt was opened yet under the approval
  that the latest release cites.
-/

namespace AgentReady.Settlement

open Sql

/-! ### Runs of the stores -/

inductive Engine where
  | memory | database
deriving DecidableEq

namespace Engine

def State : Engine → Type
  | memory => MemoryStore
  | database => Indexed

def empty : (e : Engine) → e.State
  | memory => MemoryStore.empty
  | database => Indexed.empty

/-- What is stored. -/
def rows : (e : Engine) → e.State → MemoryStore
  | memory, s => s
  | database, t => t.toMemoryStore

/-- A call at a time, with the UUIDs that it draws. -/
def perform (R : Runtime) (now : Int) (draw : Nat) (fence : String) :
    (e : Engine) → e.State → Request → Except MachineError Reply × e.State
  | memory, s, request => (.ok (s.perform R now draw fence request).1, (s.perform R now draw fence request).2)
  | database, t, request => t.perform R now draw fence request

end Engine

/-- A transition as `accept` makes it: out of a status that is held, and none that releases or changes
the payment id. -/
def Call.FromAccept : Call → Prop
  | transition _ from_ to_ update _ _ =>
      from_ ⊆ leasedStatuses ∧ to_ ≠ .released ∧ update.callerPaymentId = none
  | _ => True

def Request.FromAccept : Request → Prop
  | call made _ => made.FromAccept
  | _ => True

/-- The stores that runs of calls lead to, by a clock that does not go back. -/
inductive Engine.Reached (R : Runtime) (e : Engine) : Int → e.State → Prop where
  | start {now : Int} : Reached R e now e.empty
  | step {now later : Int} {s : e.State} {request : Request} {draw : Nat} {fence : String}
      (before : Reached R e now s) (passes : now ≤ later) (accepts : request.FromAccept) :
      Reached R e later (e.perform R later draw fence s request).2

/-- A call with the payment id and the approval creates an attempt, at any time and whatever it draws. -/
def Engine.Opens (R : Runtime) (e : Engine) (s : e.State) (input : ResolveInput) : Prop :=
  ∀ now draw fence, ∃ result, (e.perform R now draw fence s (.resolveOrCreate input)).1 =
    .ok (.resolved result) ∧ result.kind = .created

/-! ### What every run keeps -/

/-- An unresolved row is written. -/
structure Attempt.Rewritten (now : Int) (old new : Attempt) : Prop where
  unresolved : old.status ∉ terminalResolved
  key : new.operationId = old.operationId
  slot : old.SameSlot new
  updated : new.updatedAt = (now : Timestamp)
  cited : new.status = .released → ∃ approval, new.releasedToApproval = some approval ∧
    isApproval approval = true

/-- What a call does to the rows: it opens an attempt in a slot where all are resolved, or it writes an
unresolved one. -/
inductive Moves (now : Int) (s : MemoryStore) : MemoryStore → Prop where
  | still : Moves now s s
  | opened {fresh : Attempt} (free : s.get? fresh.operationId = none) (pending : fresh.status = .pending)
      (updated : fresh.updatedAt = (now : Timestamp))
      (slot : ∀ id a, s.get? id = some a → a.SameSlot fresh → a.status ∈ terminalResolved) :
      Moves now s (s.put fresh)
  | wrote {old new : Attempt} (stored : s.get? old.operationId = some old)
      (rewritten : old.Rewritten now new) : Moves now s (s.put new)

structure Orderly (now : Int) (s : MemoryStore) : Prop where
  timed : ∀ id a, s.get? id = some a → a.updatedAt ≤ (now : Timestamp)
  /-- An unresolved attempt is the last of its slot. -/
  last : s.attempts.values.Pairwise fun a b => a.SameSlot b → a.status ∈ terminalResolved
  cited : ∀ id a, s.get? id = some a → a.status = .released → ∃ approval,
    a.releasedToApproval = some approval ∧ isApproval approval = true

section Orderly

variable {now later : Int} {s s' : MemoryStore} {a : Attempt}

theorem orderly_empty : Orderly now MemoryStore.empty := by
  constructor
  · rintro id a ⟨⟩
  · exact List.Pairwise.nil
  · rintro id a ⟨⟩

theorem stored_of_value (mem : a ∈ s.attempts.values) : s.get? a.operationId = some a := by
  obtain ⟨e, entry, rfl⟩ := List.mem_map.mp mem
  have stored := OrderedMap.mem_entries.mp entry
  rwa [← s.keyed _ _ stored] at stored

theorem entry_of_stored {id : String} (stored : s.get? id = some a) : (id, a) ∈ s.attempts.entries :=
  OrderedMap.mem_entries.mpr stored

theorem value_of_stored {id : String} (stored : s.get? id = some a) : a ∈ s.attempts.values :=
  List.mem_map_of_mem (entry_of_stored stored)

theorem Orderly.passes (h : Orderly now s) (passes : now ≤ later) : Orderly later s where
  timed id a stored := (h.timed id a stored).trans (not_lt.mp (mt Timestamp.coe_lt.mp (not_lt.mpr passes)))
  last := h.last
  cited := h.cited

/-- A row after another was put is that one, or was there before. -/
theorem stored_put {row : Attempt} {id : String} (stored : (s.put row).get? id = some a) :
    a = row ∨ id ≠ row.operationId ∧ s.get? id = some a := by
  rw [MemoryStore.get?_put, Function.update_apply] at stored
  split at stored
  · exact .inl (Option.some.inj stored).symm
  · rename_i other
    exact .inr ⟨other, stored⟩

/-- A property of every row is kept, where the row that is put has it. -/
theorem every_put {P : Attempt → Prop} {row : Attempt} (start : ∀ id a, s.get? id = some a → P a)
    (put : P row) (id : String) (a : Attempt) (stored : (s.put row).get? id = some a) : P a := by
  rcases stored_put stored with rfl | ⟨-, before⟩
  · exact put
  · exact start id a before

/-- A row that is put over another stays at its place. -/
theorem values_put {old new : Attempt} (stored : s.get? old.operationId = some old)
    (key : new.operationId = old.operationId) : ∃ before after,
      s.attempts.values = before ++ old :: after ∧ (s.put new).attempts.values = before ++ new :: after := by
  obtain ⟨before, after, was, put⟩ := OrderedMap.values_set stored new
  refine ⟨before, after, was, ?_⟩
  unfold MemoryStore.put
  dsimp only
  rw [key]
  exact put

/-- A call keeps the rows orderly. -/
theorem Orderly.moves (h : Orderly now s) (moves : Moves now s s') : Orderly now s' := by
  cases moves with
  | still => exact h
  | @opened fresh free pending updated slot =>
      constructor
      · exact every_put h.timed updated.le
      · have put : (s.put fresh).attempts.values = s.attempts.values ++ [fresh] :=
          OrderedMap.values_set_of_none free fresh
        rw [put, List.pairwise_append]
        refine ⟨h.last, List.pairwise_singleton .., fun a mem b here same => ?_⟩
        obtain rfl := List.mem_singleton.mp here
        exact slot _ a (stored_of_value mem) same
      · refine every_put h.cited fun released => ?_
        cases pending.symm.trans released
  | @wrote old new stored rewritten =>
      obtain ⟨unresolved, key, slot, updated, cited⟩ := rewritten
      constructor
      · exact every_put h.timed updated.le
      · obtain ⟨before, after, was, rows⟩ := values_put stored key
        have last := h.last
        rw [was, List.pairwise_append, List.pairwise_cons] at last
        obtain ⟨first, ⟨here, second⟩, across⟩ := last
        rw [rows, List.pairwise_append, List.pairwise_cons]
        refine ⟨first, ⟨fun b mem same => ?_, second⟩, fun a mem b here' same => ?_⟩
        · exact (unresolved (here b mem ⟨slot.1.trans same.1, slot.2.trans same.2⟩)).elim
        · rcases List.mem_cons.mp here' with rfl | mem'
          · exact across a mem old List.mem_cons_self
              ⟨same.1.trans slot.1.symm, same.2.trans slot.2.symm⟩
          · exact across a mem b (List.mem_cons_of_mem _ mem') same
      · exact every_put h.cited cited

end Orderly

/-! ### What each call does -/

section Calls

variable {R : Runtime} {now : Int} {draw : Nat} {fence id : String} {a : Attempt} {input : ResolveInput}

theorem rewritten_claimed {owner : String} {ttl : Int} {payload digest : Option String}
    (pending : a.status = .pending) : a.Rewritten now (a.claimed now owner ttl fence payload digest) := by
  refine ⟨?_, rfl, ⟨rfl, rfl⟩, rfl, ?_⟩
  · simp [pending, terminalResolved]
  · rintro ⟨⟩

theorem unresolved_of_leased (leased : a.status ∈ leasedStatuses) : a.status ∉ terminalResolved := by
  intro resolved
  simp only [leasedStatuses, terminalResolved, List.mem_cons, List.not_mem_nil, or_false] at leased resolved
  rcases leased with leased | leased <;> simp [leased] at resolved

/-- A held row is not released, so that it needs no approval. -/
theorem rewritten_leased {new : Attempt} (leased : a.status ∈ leasedStatuses)
    (key : new.operationId = a.operationId) (slot : a.SameSlot new)
    (updated : new.updatedAt = (now : Timestamp)) (held : new.status ≠ .released) : a.Rewritten now new :=
  ⟨unresolved_of_leased leased, key, slot, updated, fun released => (held released).elim⟩

theorem ne_released_of_leased (leased : a.status ∈ leasedStatuses) : a.status ≠ .released := by
  intro released
  rw [released] at leased
  revert leased
  decide

theorem approval_of_sound {evidence : ReleaseEvidence} (sound : evidence.reasons = []) :
    isApproval evidence.newApprovalEventId = true := by
  unfold ReleaseEvidence.reasons at sound
  simp only [List.append_eq_nil_iff] at sound
  obtain ⟨⟨⟨⟨⟨⟨-, cited⟩, -⟩, -⟩, -⟩, -⟩, -⟩ := sound
  unfold unlessReason at cited
  split at cited
  · assumption
  · cases cited

theorem rewritten_released {evidence : ReleaseEvidence} (manual : a.status = .manual)
    (sound : evidence.reasons = []) : a.Rewritten now (a.released now evidence) := by
  refine ⟨?_, rfl, ⟨rfl, rfl⟩, rfl, fun _ => ⟨_, rfl, approval_of_sound sound⟩⟩
  simp [manual, terminalResolved]

namespace MemoryStore

variable {s : MemoryStore}

theorem moves_updateIf {condition : Attempt → Bool} {set : Attempt → Attempt}
    (writes : ∀ a, condition a = true → a.Rewritten now (set a)) :
    Moves now s (s.updateIf id condition set).2 := by
  cases updated : s.updateIf id condition set with
  | mk out s' =>
      rcases updateIf_cases updated with ⟨-, rfl⟩ | ⟨old, stored, holds, -, rfl⟩
      · exact .still
      · have same := s.keyed id old stored
        exact .wrote (same.symm ▸ stored) (writes old holds)

theorem moves_exec {call : Call} (single : call.Single) (accepts : call.FromAccept) :
    Moves now s (s.exec now fence call).2 := by
  cases call with
  | claimForSettle =>
      apply moves_updateIf
      intro a pending
      exact rewritten_claimed (by simpa using pending)
  | revalidateForSettle =>
      apply moves_updateIf
      intro a held
      simp only [decide_eq_true_eq] at held
      have leased : a.status ∈ leasedStatuses := by simp [held.1, leasedStatuses]
      exact rewritten_leased leased rfl ⟨rfl, rfl⟩ rfl (ne_released_of_leased leased)
  | transition id from_ to_ update owner held =>
      obtain ⟨from_held, unreleased, -⟩ := accepts
      apply moves_updateIf
      intro a found
      simp only [decide_eq_true_eq] at found
      exact rewritten_leased (from_held found.1) rfl ⟨rfl, rfl⟩ rfl unreleased
  | claimRowForTakeover =>
      apply moves_updateIf
      intro a lapsed
      simp only [open_, decide_eq_true_eq] at lapsed
      exact rewritten_leased lapsed.1 rfl ⟨rfl, rfl⟩ rfl (ne_released_of_leased lapsed.1)
  | claimForReconcile => exact single.elim

theorem moves_resolve : Moves now s (resolve R now draw input s).2 := by
  cases here : s.existing input with
  | some row =>
      unfold resolve
      rw [here]
      exact .still
  | none =>
      rcases @resolve_missing R now draw s input here with
        ⟨row, -, -, done⟩ | ⟨revision, row, -, -, done⟩ | ⟨revision, -, free, done⟩
      · rw [done]
        exact .still
      · rw [done]
        exact .still
      · rw [done]
        refine .opened free rfl rfl fun id a stored slot => ?_
        exact slot_free here stored (decide_eq_true slot)

theorem moves_perform {request : Request} (accepts : request.FromAccept) :
    Moves now s (s.perform R now draw fence request).2 := by
  cases request with
  | resolveOrCreate input => exact moves_resolve
  | call call single => exact moves_exec single accepts
  | releaseAttempt id evidence =>
      cases released : s.releaseAttempt now id evidence with
      | mk result s' =>
          have after : (s.perform R now draw fence (.releaseAttempt id evidence)).2 = s' := by
            unfold perform
            dsimp only
            rw [released]
          rw [after]
          rcases releaseAttempt_cases released with ⟨-, rfl⟩ | ⟨a, stored, releases, rfl⟩
          · exact .still
          · have same := s.keyed id a stored
            exact .wrote (same.symm ▸ stored) (rewritten_released releases.manual releases.sound)
  | _ => exact .still

end MemoryStore

namespace Indexed

variable {t t' : Indexed}

theorem write_rows {replaces : Bool} {row : Attempt} (written : t.write replaces row = .ok t') :
    t'.toMemoryStore = t.toMemoryStore.put row := by
  unfold write at written
  split at written
  · cases written
  · cases written
    rfl

/-- An update leaves the rows, or writes the one that it finds. -/
theorem updateWhere_cases {condition : Attempt → Truth} {set : Attempt → Attempt} {row : Option Attempt}
    (done : t.updateWhere id condition set = .ok (row, t')) : (row = none ∧ t' = t) ∨
      ∃ old, t.get? id = some old ∧ (condition old).Fires ∧ row = some (set old) ∧
        t'.toMemoryStore = t.toMemoryStore.put (set old) := by
  unfold updateWhere at done
  split at done
  · rename_i old stored
    split at done
    · rename_i fires
      cases written : t.write true (set old) with
      | error => simp [written, bind, Except.bind] at done
      | ok =>
          simp only [written, bind, Except.bind, pure, Except.pure, Except.ok.injEq, Prod.mk.injEq] at done
          obtain ⟨rfl, rfl⟩ := done
          exact .inr ⟨old, stored, fires, rfl, write_rows written⟩
    · cases done
      exact .inl ⟨rfl, rfl⟩
  · cases done
    exact .inl ⟨rfl, rfl⟩

theorem moves_updateWhere {condition : Attempt → Truth} {set : Attempt → Attempt} {row : Option Attempt}
    (writes : ∀ a, (condition a).Fires → a.Rewritten now (set a))
    (done : t.updateWhere id condition set = .ok (row, t')) :
    Moves now t.toMemoryStore t'.toMemoryStore := by
  rcases updateWhere_cases done with ⟨-, rfl⟩ | ⟨old, stored, fires, -, rows⟩
  · exact .still
  · rw [rows]
    have same := t.keyed id old stored
    exact .wrote (same.symm ▸ stored) (writes old fires)

theorem moves_exec {call : Call} {single : call.Single} {row : Option Attempt} (accepts : call.FromAccept)
    (done : t.exec now fence call single = .ok (row, t')) :
    Moves now t.toMemoryStore t'.toMemoryStore := by
  cases call with
  | claimForSettle =>
      refine moves_updateWhere (fun a pending => ?_) done
      exact rewritten_claimed (fires_is.mp pending)
  | revalidateForSettle =>
      refine moves_updateWhere (fun a held => ?_) done
      have settling := fires_is.mp (Truth.fires_and.mp held).1
      have leased : a.status ∈ leasedStatuses := by simp [settling, leasedStatuses]
      exact rewritten_leased leased rfl ⟨rfl, rfl⟩ rfl (ne_released_of_leased leased)
  | transition id from_ to_ update owner held =>
      obtain ⟨from_held, unreleased, -⟩ := accepts
      cases owner with
      | none =>
          cases held with
          | none =>
              have staged : (if from_ = [.pending] ∧ to_ = .pending then
                  t.updateWhere id (fun a => is (a.status ∈ from_)) fun a => a.transitioned now to_ update
                else .ok (none, t)) = .ok (row, t') := done
              split at staged
              · rename_i staging
                rw [staging.1] at from_held
                have absurd : AttemptStatus.pending ∈ leasedStatuses := from_held (List.mem_singleton_self _)
                simp [leasedStatuses] at absurd
              · cases staged
                exact .still
          | some held =>
              cases done
              exact .still
      | some owner =>
          cases held with
          | none =>
              cases done
              exact .still
          | some held =>
              refine moves_updateWhere (fun a found => ?_) done
              have status := fires_is.mp (Truth.fires_and.mp found).1
              exact rewritten_leased (from_held status) rfl ⟨rfl, rfl⟩ rfl unreleased
  | claimRowForTakeover =>
      refine moves_updateWhere (fun a lapsed => ?_) done
      have leased := fires_is.mp (Truth.fires_and.mp lapsed).1
      exact rewritten_leased leased rfl ⟨rfl, rfl⟩ rfl (ne_released_of_leased leased)
  | claimForReconcile => exact single.elim

/-- An INSERT that an index refuses creates nothing. -/
theorem insert_refused {revision : String}
    (clashes : clashing? t.attempts none (R.freshAttempt now input revision) ≠ none) :
    (t.insert R now input revision).2 = t ∧
      ∀ result, (t.insert R now input revision).1 = .ok result → result.kind ≠ .created := by
  obtain ⟨i, refused⟩ := @write_of_clash t (R.freshAttempt now input revision) false clashes
  unfold insert
  simp only [refused, if_true]
  cases t.winner input (R.freshAttempt now input revision).operationId with
  | none =>
      constructor
      · rfl
      · rintro _ ⟨⟩
  | some row =>
      constructor
      · rfl
      · rintro _ ⟨⟩
        unfold reuse
        split <;> rintro ⟨⟩

/-- The primary key admits a row only under a free id. -/
theorem vacant_of_free {row : Attempt} (free : clashing? t.attempts none row = none) :
    t.get? row.operationId = none := by
  cases stored : t.get? row.operationId with
  | none => rfl
  | some a =>
      have fits := clashing?_eq_none.mp free _ a stored (by rintro ⟨⟩) .pkey
      exact (fits ⟨trivial, trivial, t.keyed _ a stored⟩).elim

theorem moves_resolve : Moves now t.toMemoryStore (t.resolve R now draw input).2.toMemoryStore := by
  cases there : t.existing input with
  | some row =>
      rw [resolve_found there]
      exact .still
  | none =>
      rcases @resolve_missing R now draw t input there with ⟨row, -, -, done⟩ | ⟨revision, -, done⟩
      · rw [done]
        exact .still
      · rw [done]
        by_cases free : clashing? t.attempts none (R.freshAttempt now input revision) = none
        · rw [(insert_of_free free).2]
          have active : Finds t.toMemoryStore (fun a => a.inSlot input ∧ a.status ∉ terminalResolved)
              (t.findActiveAttempt input) := finds_first
          unfold existing at there
          simp only [Option.orElse_eq_orElse, Option.orElse_eq_or, Option.or_eq_none_iff] at there
          refine .opened (vacant_of_free free) rfl rfl fun id a stored slot => ?_
          have here : a.inSlot input = true := decide_eq_true slot
          simpa [here] using active.complete there.2.2.1 id a stored
        · rw [(insert_refused free).1]
          exact .still

theorem release_cases {evidence : ReleaseEvidence} {released : Released}
    (done : t.releaseAttempt now id evidence = .ok (released, t')) :
    (released.row? = none ∧ t' = t) ∨ ∃ a, t.get? id = some a ∧ a.Releases now evidence released ∧
      t'.toMemoryStore = t.toMemoryStore.put (a.released now evidence) := by
  unfold releaseAttempt at done
  split at done
  · cases done
    exact .inl ⟨rfl, rfl⟩
  rename_i sound
  cases updated : t.updateWhere id (·.releasable evidence) fun a => a.released now evidence with
  | error =>
      rw [updated] at done
      cases done
  | ok result =>
      obtain ⟨row, t₁⟩ := result
      rw [updated] at done
      rcases updateWhere_cases updated with ⟨rfl, rfl⟩ | ⟨a, stored, fires, rfl, rows⟩
      · cases done
        exact .inl ⟨rfl, rfl⟩
      · cases done
        obtain ⟨manual, bound⟩ := Attempt.releasable_fires.mp fires
        exact .inr ⟨a, stored, ⟨not_not.mp sound, manual, bound, rfl⟩, rows⟩

end Indexed

theorem Indexed.moves_perform {t : Indexed} {request : Request} (accepts : request.FromAccept) :
    Moves now t.toMemoryStore (t.perform R now draw fence request).2.toMemoryStore := by
  cases request with
  | resolveOrCreate input => exact moves_resolve
  | call call single =>
      unfold perform attempted
      dsimp only
      cases done : t.exec now fence call single with
      | error => exact .still
      | ok result => exact moves_exec accepts done
  | releaseAttempt id evidence =>
      unfold perform attempted
      dsimp only
      cases done : t.releaseAttempt now id evidence with
      | error => exact .still
      | ok result =>
          rcases release_cases done with ⟨-, same⟩ | ⟨a, stored, releases, rows⟩
          · dsimp only
            rw [same]
            exact .still
          · dsimp only
            rw [rows]
            have same := t.keyed id a stored
            exact .wrote (same.symm ▸ stored) (rewritten_released releases.manual releases.sound)
  | _ => exact .still

end Calls

/-! ### Opening a slot -/

/-- The request with an approval and a payment id. -/
def ResolveInput.presenting (input : ResolveInput) (approval paymentId : String) : ResolveInput :=
  { input with approvalEventId := some approval, callerPaymentId := paymentId }

/-- No attempt has the payment id. -/
def MemoryStore.Unused (s : MemoryStore) (paymentId : String) : Prop :=
  ∀ id a, s.get? id = some a → a.callerPaymentId ≠ paymentId

/-- The approval opens an attempt, with any payment id that no attempt has. -/
def Engine.Authorizes (R : Runtime) (e : Engine) (s : e.State) (input : ResolveInput) (approval : String) :
    Prop :=
  ∀ paymentId, (e.rows s).Unused paymentId → e.Opens R s (input.presenting approval paymentId)

/-- An approval opens an attempt. -/
def Engine.Reopens (R : Runtime) (e : Engine) (s : e.State) (input : ResolveInput) : Prop :=
  ∃ approval, isApproval approval = true ∧ e.Authorizes R s input approval

/-- No attempt was opened yet under the approval that the latest release in the slot cites. -/
def MemoryStore.Unopened (R : Runtime) (s : MemoryStore) (input : ResolveInput) : Prop :=
  ∀ row approval, s.released input = some row → row.releasedToApproval = some approval →
    s.get? (R.buildOperationId input approval) = none

/-- There are approvals of more operation ids than there are attempts. -/
def MemoryStore.Outnumbered (R : Runtime) (s : MemoryStore) (input : ResolveInput) : Prop :=
  ∃ approvals : List String, (∀ approval ∈ approvals, isApproval approval = true) ∧
    (approvals.map (R.buildOperationId input)).Nodup ∧ s.attempts.size < approvals.length

section Opening

variable {R : Runtime} {e : Engine} {now : Int} {draw : Nat} {fence : String} {input : ResolveInput}
  {approval paymentId : String}

theorem Engine.Reached.orderly {s : e.State} (reached : e.Reached R now s) : Orderly now (e.rows s) := by
  induction reached with
  | start =>
      cases e with
      | memory | database => exact orderly_empty
  | @step now later s request draw fence before passes accepts ih =>
      cases e with
      | memory => exact (ih.passes passes).moves (MemoryStore.moves_perform accepts)
      | database => exact (ih.passes passes).moves (Indexed.moves_perform accepts)

/-- The revision is the approval, where the latest release cites it. -/
theorem revision_iff {s : MemoryStore} {revision : String} :
    R.authRevision draw (input.presenting approval paymentId) (s.released input) = some revision ↔
      revision = approval ∧ ∀ row, s.released input = some row →
        approval ≠ "" ∧ row.releasedToApproval = some approval := by
  unfold Runtime.authRevision ResolveInput.presenting
  cases s.released input with
  | none => simp [eq_comm]
  | some row =>
      by_cases empty : approval = ""
      · simp [empty, Option.filter_some]
      · by_cases cited : row.releasedToApproval = some approval
        · simp [empty, cited, Option.filter_some, eq_comm]
        · simp [empty, cited, Option.filter_some, eq_comm]

section Missing

variable {s : MemoryStore}

theorem replay_none (unused : s.Unused input.callerPaymentId) {found : Option Attempt} (finds : Finds s (fun a =>
    a.requestDigest = input.requestDigest ∧ a.callerPaymentId = input.callerPaymentId) found) :
    found = none := by
  apply finds.nothing
  intro id a stored holds
  simp only [decide_eq_true_eq] at holds
  exact unused id a stored holds.2

theorem MemoryStore.existing_none (unused : s.Unused input.callerPaymentId) (vacant : s.Vacant input) : s.existing input = none := by
  have payment : (byCreation (s.select (·.callerPaymentId = input.callerPaymentId))).head? = none := by
    apply finds_first.nothing
    intro id a stored holds
    exact unused id a stored (by simpa using holds)
  have active : (byCreation (s.select fun a =>
      a.inSlot input ∧ a.status ∉ terminalResolved)).head? = none := by
    apply finds_first.nothing
    intro id a stored holds
    simp only [decide_eq_true_eq] at holds
    exact holds.2 ((vacant id a stored).1 holds.1)
  have settled : (s.select fun a => a.forSpend input).find? (·.status = .settled) = none := by
    apply finds_scan_select.nothing
    intro id a stored holds
    simp only [decide_eq_true_eq] at holds
    exact (vacant id a stored).2 holds.1 holds.2
  unfold existing
  rw [replay_none unused finds_scan, payment, active, settled]
  rfl

theorem Indexed.existing_none {t : Indexed} (unused : t.Unused input.callerPaymentId)
    (vacant : t.Vacant input) : t.existing input = none := by
  have replay : t.findByDigestPayment input.requestDigest input.callerPaymentId = none :=
    replay_none unused finds_first
  have payment : t.activeByPaymentId input.callerPaymentId = none := by
    apply finds_first.nothing
    intro id a stored holds
    simp only [decide_eq_true_eq] at holds
    exact unused id a stored holds.1
  obtain ⟨active, settled⟩ := vacant_iff.mp vacant
  unfold existing
  rw [replay, payment, active, settled]
  rfl

end Missing

/-- The latest release, if there is one, cites the approval, and no attempt was opened under it. -/
structure MemoryStore.Admits (R : Runtime) (s : MemoryStore) (input : ResolveInput) (approval : String) :
    Prop where
  cited : ∀ row, s.released input = some row → approval ≠ "" ∧ row.releasedToApproval = some approval
  free : s.get? (R.buildOperationId input approval) = none

theorem MemoryStore.creates_iff {s : MemoryStore} (unused : s.Unused paymentId) (vacant : s.Vacant input) :
    (resolve R now draw (input.presenting approval paymentId) s).1.kind = .created ↔
      s.Admits R input approval := by
  have here : s.existing (input.presenting approval paymentId) = none := existing_none unused vacant
  rcases @resolve_missing R now draw s _ here with
    ⟨row, refused, -, done⟩ | ⟨revision, row, presented, taken, done⟩ | ⟨revision, presented, free, done⟩
  · rw [done]
    refine iff_of_false (by rintro ⟨⟩) fun admits => ?_
    have presented := (@revision_iff R draw input approval paymentId s approval).mpr ⟨rfl, admits.cited⟩
    cases refused.symm.trans presented
  · rw [done]
    refine iff_of_false (by rintro ⟨⟩) fun admits => ?_
    obtain ⟨rfl, -⟩ := revision_iff.mp presented
    cases taken.symm.trans admits.free
  · rw [done]
    obtain ⟨rfl, cited⟩ := revision_iff.mp presented
    exact iff_of_true rfl ⟨cited, free⟩

theorem Indexed.creates_iff {t : Indexed} (unused : t.Unused paymentId)
    (vacant : t.Vacant input) :
    (∃ result, (t.resolve R now draw (input.presenting approval paymentId)).1 = .ok result ∧
      result.kind = .created) ↔ t.Admits R input approval := by
  have here : t.existing (input.presenting approval paymentId) = none := existing_none unused vacant
  rcases @resolve_missing R now draw t _ here with ⟨row, refused, -, done⟩ | ⟨revision, presented, done⟩
  · rw [done]
    refine iff_of_false (by rintro ⟨result, ⟨⟩, ⟨⟩⟩) fun admits => ?_
    have presented := (@revision_iff R draw input approval paymentId t.toMemoryStore approval).mpr
      ⟨rfl, admits.cited⟩
    cases refused.symm.trans presented
  · obtain ⟨rfl, cited⟩ := revision_iff.mp presented
    rw [done]
    constructor
    · intro ⟨result, answered, created⟩
      refine ⟨cited, ?_⟩
      by_contra taken
      refine (insert_refused fun free => taken ?_).2 result answered created
      exact vacant_of_free free
    · intro admits
      have free := @fresh_fits R now t (input.presenting revision paymentId) revision unused vacant
        admits.free
      exact ⟨_, (insert_of_free free).1, rfl⟩

theorem resolved_of_map {result : ResolveResult} {answer : Except MachineError ResolveResult}
    (answered : answer.map Reply.resolved = .ok (.resolved result)) : answer = .ok result := by
  cases answer with
  | error => cases answered
  | ok found =>
      cases answered
      rfl

/-- A vacant slot is opened with an unused payment id exactly by an approval that it admits. -/
theorem Engine.opens_iff {s : e.State} (unused : (e.rows s).Unused paymentId)
    (vacant : (e.rows s).Vacant input) :
    e.Opens R s (input.presenting approval paymentId) ↔ (e.rows s).Admits R input approval := by
  cases e with
  | memory =>
      constructor
      · intro opens
        obtain ⟨result, answered, created⟩ := opens 0 0 ""
        cases answered
        exact (MemoryStore.creates_iff unused vacant).mp created
      · intro admits now draw fence
        exact ⟨_, rfl, (MemoryStore.creates_iff unused vacant).mpr admits⟩
  | database =>
      constructor
      · intro opens
        obtain ⟨result, answered, created⟩ := opens 0 0 ""
        refine (@Indexed.creates_iff R 0 0 input approval paymentId s unused vacant).mp ⟨result, ?_, created⟩
        exact resolved_of_map answered
      · intro admits now draw fence
        obtain ⟨result, answered, created⟩ :=
          (@Indexed.creates_iff R now draw input approval paymentId s unused vacant).mpr admits
        refine ⟨result, ?_, created⟩
        exact congrArg (Except.map Reply.resolved) answered

theorem exists_unused (s : MemoryStore) : ∃ paymentId, s.Unused paymentId := by
  obtain ⟨paymentId, unused⟩ :=
    Infinite.exists_notMem_finset (s.attempts.values.map Attempt.callerPaymentId).toFinset
  refine ⟨paymentId, fun id a stored same => unused ?_⟩
  rw [List.mem_toFinset, ← same]
  exact List.mem_map_of_mem (value_of_stored stored)

theorem Engine.authorizes_iff {s : e.State} (vacant : (e.rows s).Vacant input) :
    e.Authorizes R s input approval ↔ (e.rows s).Admits R input approval := by
  constructor
  · intro authorizes
    obtain ⟨paymentId, unused⟩ := exists_unused (e.rows s)
    exact (opens_iff unused vacant).mp (authorizes paymentId unused)
  · intro admits paymentId unused
    exact (opens_iff unused vacant).mpr admits

/-- Some approval has an operation id that no attempt has. -/
theorem MemoryStore.Outnumbered.exists_free {s : MemoryStore} (more : s.Outnumbered R input) :
    ∃ approval, isApproval approval = true ∧ s.get? (R.buildOperationId input approval) = none := by
  obtain ⟨approvals, valid, distinct, more⟩ := more
  by_contra taken
  push Not at taken
  have stored : approvals.map (R.buildOperationId input) ⊆ s.attempts.entries.map Prod.fst := by
    intro id mem
    obtain ⟨approval, here, rfl⟩ := List.mem_map.mp mem
    obtain ⟨a, found⟩ := Option.ne_none_iff_exists'.mp (taken approval (valid approval here))
    exact List.mem_map.mpr ⟨_, entry_of_stored found, rfl⟩
  have fewer := (List.subperm_of_subset distinct stored).length_le
  rw [List.length_map, List.length_map] at fewer
  exact absurd more (not_lt.mpr fewer)

theorem ne_empty_of_approval (valid : isApproval approval = true) : approval ≠ "" := by
  rintro rfl
  cases valid

theorem Engine.reopens_iff_of_orderly {s : e.State} (orderly : Orderly now (e.rows s))
    (vacant : (e.rows s).Vacant input) (more : (e.rows s).Outnumbered R input) :
    e.Reopens R s input ↔ (e.rows s).Unopened R input := by
  constructor
  · rintro ⟨approval, -, authorizes⟩ row cited found here
    have admits := (authorizes_iff vacant).mp authorizes
    have same := (admits.cited row found).2.symm.trans here
    rw [← Option.some.inj same]
    exact admits.free
  · intro unopened
    cases found : (e.rows s).released input with
    | none =>
        obtain ⟨approval, valid, free⟩ := more.exists_free
        refine ⟨approval, valid, (authorizes_iff vacant).mpr ⟨?_, free⟩⟩
        intro row found'
        cases found.symm.trans found'
    | some row =>
        obtain ⟨stored, kind⟩ := finds_latest.sound row found
        simp only [decide_eq_true_eq] at kind
        obtain ⟨approval, cites, valid⟩ := orderly.cited _ row stored kind.2
        refine ⟨approval, valid, (authorizes_iff vacant).mpr ⟨?_, unopened row approval found cites⟩⟩
        intro row' found'
        obtain rfl := Option.some.inj (found.symm.trans found')
        exact ⟨ne_empty_of_approval valid, cites⟩

end Opening

/-! ### Directly after a release -/

section Release

variable {R : Runtime} {e : Engine} {now later : Int} {draw : Nat} {fence id : String} {input : ResolveInput}
  {s : MemoryStore} {old new : Attempt}

theorem getLast?_orderedInsert {α : Type} {r : α → α → Prop} [DecidableRel r] {a x : α} (below : r a x) :
    ∀ l : List α, ((l ++ [x]).orderedInsert r a).getLast? = some x
  | [] => by simp [below]
  | b :: l => by
      have rest := getLast?_orderedInsert below l
      by_cases first : r a b
      · simp [first, List.getLast?_cons]
      · simp [first, List.getLast?_cons, rest]

/-- The greatest element is sorted last, where it was last. -/
theorem getLast?_insertionSort {α : Type} {r : α → α → Prop} [DecidableRel r] {x : α} :
    ∀ l : List α, (∀ a ∈ l, r a x) → ((l ++ [x]).insertionSort r).getLast? = some x
  | [], _ => rfl
  | a :: l, below => by
      have rest := getLast?_insertionSort l fun b mem => below b (List.mem_cons_of_mem _ mem)
      obtain ⟨init, sorted⟩ := List.getLast?_eq_some_iff.mp rest
      rw [List.cons_append, List.insertionSort_cons, sorted]
      exact getLast?_orderedInsert (below a List.mem_cons_self) init

/-- Beside an unresolved attempt, every attempt of the slot is resolved. -/
theorem Orderly.alone {b : Attempt} (h : Orderly now s) (stored : s.get? old.operationId = some old)
    (unresolved : old.status ∉ terminalResolved) (stored' : s.get? b.operationId = some b)
    (same : b.SameSlot old) (other : b.operationId ≠ old.operationId) : b.status ∈ terminalResolved := by
  obtain ⟨before, after, was, -⟩ := values_put stored rfl
  have last := h.last
  rw [was, List.pairwise_append, List.pairwise_cons] at last
  obtain ⟨-, ⟨here, -⟩, across⟩ := last
  have mem := value_of_stored stored'
  rw [was, List.mem_append, List.mem_cons] at mem
  rcases mem with first | rfl | second
  · exact across b first old List.mem_cons_self same
  · exact (other rfl).elim
  · exact (unresolved (here b second ⟨same.1.symm, same.2.symm⟩)).elim

/-- An attempt that is released is the latest release of its slot. -/
theorem Orderly.released_put (h : Orderly now s) (stored : s.get? old.operationId = some old)
    (rewritten : old.Rewritten now new) (released : new.status = .released)
    (slot : new.inSlot input = true) : (s.put new).released input = some new := by
  obtain ⟨before, after, was, rows⟩ := values_put stored rewritten.key
  have last := h.last
  rw [was, List.pairwise_append, List.pairwise_cons] at last
  obtain ⟨-, ⟨here, -⟩, -⟩ := last
  have alone : after.filter (fun a => a.inSlot input ∧ a.status = .released) = [] := by
    refine List.filter_eq_nil_iff.mpr fun b mem found => rewritten.unresolved (here b mem ?_)
    simp only [Attempt.inSlot, decide_eq_true_eq] at found slot
    exact ⟨rewritten.slot.1.trans (slot.1.trans found.1.1.symm),
      rewritten.slot.2.trans (slot.2.trans found.1.2.symm)⟩
  unfold MemoryStore.released MemoryStore.select byUpdate
  rw [rows, List.filter_append, List.filter_cons, alone, if_pos (by simp [slot, released])]
  apply getLast?_insertionSort
  intro a mem
  have member : a ∈ s.attempts.values := by
    rw [was]
    exact List.mem_append_left _ (List.mem_of_mem_filter mem)
  rw [rewritten.updated]
  exact h.timed _ a (stored_of_value member)

theorem MemoryStore.release_ok {evidence : ReleaseEvidence} {row : Attempt}
    (done : (s.releaseAttempt later id evidence).1.row? = some row) : ∃ a, s.get? id = some a ∧
      a.Releases later evidence (.ok row) ∧ (s.releaseAttempt later id evidence).2 = s.put row := by
  cases released : s.releaseAttempt later id evidence with
  | mk answer rows =>
      rw [released] at done
      rcases releaseAttempt_cases released with ⟨⟨reasons, rfl⟩, -⟩ | ⟨a, stored, releases, rfl⟩
      · cases done
      · have written := releases.row
        subst written
        cases done
        exact ⟨a, stored, releases, rfl⟩

theorem Engine.release_ok {evidence : ReleaseEvidence} {row : Attempt} {s s' : e.State}
    (done : e.perform R later draw fence s (.releaseAttempt id evidence) =
      (.ok (.released (some row)), s')) : ∃ a, (e.rows s).get? id = some a ∧
        a.Releases later evidence (.ok row) ∧ e.rows s' = (e.rows s).put row := by
  cases e with
  | memory =>
      have answer := Reply.released.inj (Except.ok.inj (congrArg Prod.fst done))
      obtain rfl : (MemoryStore.releaseAttempt later s id evidence).2 = s' := congrArg Prod.snd done
      exact MemoryStore.release_ok answer
  | database =>
      unfold perform Indexed.perform Indexed.attempted at done
      dsimp only at done
      cases released : Indexed.releaseAttempt later s id evidence with
      | error =>
          rw [released] at done
          cases done
      | ok result =>
          rw [released] at done
          obtain ⟨answer, rows⟩ := result
          dsimp only at done
          rcases Indexed.release_cases released with ⟨nothing, -⟩ | ⟨a, stored, releases, rows⟩
          · rw [nothing] at done
            cases done
          · have written := releases.row
            subst written
            cases done
            exact ⟨a, stored, releases, rows⟩

/-- No attempt for the spend is settled. -/
def MemoryStore.Unsettled (s : MemoryStore) (input : ResolveInput) : Prop :=
  ∀ id a, s.get? id = some a → a.forSpend input → a.status ≠ .settled

theorem Engine.authorizes_after_release {evidence : ReleaseEvidence} {row : Attempt} {s s' : e.State}
    (orderly : Orderly later (e.rows s))
    (done : e.perform R later draw fence s (.releaseAttempt id evidence) =
      (.ok (.released (some row)), s')) (slot : row.inSlot input) (unsettled : (e.rows s').Unsettled input) :
    e.Authorizes R s' input evidence.newApprovalEventId ↔
      (e.rows s').get? (R.buildOperationId input evidence.newApprovalEventId) = none := by
  obtain ⟨a, stored, releases, rows⟩ := release_ok done
  obtain rfl := Released.ok.inj releases.row
  have here : (e.rows s).get? a.operationId = some a := ((e.rows s).keyed id a stored).symm ▸ stored
  have rewritten := @rewritten_released later a evidence releases.manual releases.sound
  have latest : (e.rows s').released input = some (a.released later evidence) := by
    rw [rows]
    exact orderly.released_put here rewritten rfl slot
  have vacant : (e.rows s').Vacant input := by
    intro key b found
    refine ⟨fun slot' => ?_, unsettled key b found⟩
    rw [rows] at found
    simp only [Attempt.inSlot, decide_eq_true_eq] at slot slot'
    rcases stored_put found with rfl | ⟨other, before⟩
    · exact List.mem_of_getLast? rfl
    · have same := (e.rows s).keyed key b before
      rw [← same] at before other
      exact orderly.alone here rewritten.unresolved before
        ⟨slot'.1.trans slot.1.symm, slot'.2.trans slot.2.symm⟩ other
  rw [authorizes_iff vacant]
  constructor
  · exact fun admits => admits.free
  · intro free
    refine ⟨fun row found => ?_, free⟩
    obtain rfl := Option.some.inj (latest.symm.trans found)
    exact ⟨ne_empty_of_approval (approval_of_sound releases.sound), rfl⟩

/-- A vacant slot can be opened again if and only if no attempt was opened yet under the approval that
its latest release cites; and directly after a release, the approval that it cites opens an attempt if
and only if none was opened under it. -/
theorem reopens_iff (R : Runtime) (e : Engine) (now : Int) (s : e.State) (reached : e.Reached R now s) :
    (∀ input, (e.rows s).Vacant input → (e.rows s).Outnumbered R input →
      (e.Reopens R s input ↔ (e.rows s).Unopened R input)) ∧
    ∀ later draw fence id evidence row s', now ≤ later →
      e.perform R later draw fence s (.releaseAttempt id evidence) = (.ok (.released (some row)), s') →
      ∀ input, row.inSlot input → (e.rows s').Unsettled input →
        (e.Authorizes R s' input evidence.newApprovalEventId ↔
          (e.rows s').get? (R.buildOperationId input evidence.newApprovalEventId) = none) := by
  constructor
  · intro input vacant more
    exact Engine.reopens_iff_of_orderly reached.orderly vacant more
  · intro later draw fence id evidence row s' passes done input slot unsettled
    exact Engine.authorizes_after_release (reached.orderly.passes passes) done slot unsettled

end Release

/-! ### A second release -/

/-- Calls one after another at one time, each with the fence that it mints. -/
def Engine.after (R : Runtime) (e : Engine) (now : Int) : e.State → List (Request × String) → e.State
  | s, [] => s
  | s, made :: rest => after R e now (e.perform R now 0 made.2 s made.1).2 rest

theorem Engine.Reached.after {R : Runtime} {e : Engine} {now : Int} {run : List (Request × String)}
    (accepts : ∀ made ∈ run, made.1.FromAccept) :
    ∀ {s : e.State}, e.Reached R now s → e.Reached R now (e.after R now s run) := by
  induction run with
  | nil => exact id
  | cons made rest ih =>
      intro s reached
      have first := @Engine.Reached.step R e now now s made.1 0 made.2 reached le_rfl
        (accepts made List.mem_cons_self)
      exact ih (fun made mem => accepts made (List.mem_cons_of_mem _ mem)) first

theorem vacant_of_values {s : MemoryStore} {input : ResolveInput} (resolved : ∀ a ∈ s.attempts.values,
    a.status ∈ terminalResolved ∧ a.status ≠ .settled) : s.Vacant input := by
  intro id a stored
  obtain ⟨resolved, unsettled⟩ := resolved a (value_of_stored stored)
  exact ⟨fun _ => resolved, fun _ => unsettled⟩

namespace Sample

def firstApproved : String := "3cc0c0bfe431f756a5cd36cfc0b893646789d4f5595e50d4d4d115bc7fb36b66"

def secondApproved : String := "21a516715624d6404d5951767a806b645529622cbd726fb6f451b4d015ca6bbd"

/-- SHA-256 of the texts that are hashed for an attempt and two approvals. -/
def twoApprovals : Runtime where
  platform := { runtime.platform with
    sha256 := fun text =>
      if text = "|".intercalate ["ord_1", "0", requestDigest, resourceUrl, "appr_1"] then firstApproved
      else if text = "|".intercalate ["ord_1", "0", requestDigest, resourceUrl, "appr_2"] then
        secondApproved
      else sha256 text }
  uuid := runtime.uuid
  sha256_ne_empty text := by
    dsimp only
    split_ifs
    · decide
    · decide
    · exact sha256_ne_empty text

def expired : ReleaseEvidence where
  operatorId := "op_1"
  newApprovalEventId := "appr_1"
  note := "expired"
  blockhash := "blockhash_1"
  blockhashValid := false
  checkedSlot := .finite 100
  transferVerification := .unavailable

/-- An attempt is claimed, and moved on twice. -/
def workedOn (id : String) (update : Update) (to_ : AttemptStatus) : List (Request × String) :=
  [(.call (.claimForSettle id "worker" 60000000 (some "signed") (some "digest")) trivial, "fence"),
    (.call (.transition id [.settling] .settling update (some "worker") (some "fence")) trivial, ""),
    (.call (.transition id [.settling] to_ {} (some "worker") (some "fence")) trivial, "")]

/-- An attempt waits for an operator. -/
def waiting : List (Request × String) :=
  (.resolveOrCreate openInput, "") ::
    workedOn operationId { blockhash := some (some "blockhash_1") } .manual

def release : Request × String := (.releaseAttempt operationId expired, "")

/-- The attempt is released, and the one under the approval that the release cites is rejected. -/
def retried : List (Request × String) :=
  waiting ++ release :: (.resolveOrCreate (openInput.presenting "appr_1" "pay_fedcba9876543210"), "") ::
    workedOn firstApproved {} .rejected

theorem workedOn_accepts {id : String} {update : Update} {to_ : AttemptStatus}
    (payment : update.callerPaymentId = none) (unreleased : to_ ≠ .released) :
    ∀ made ∈ workedOn id update to_, made.1.FromAccept := by
  intro made mem
  simp only [workedOn, List.mem_cons, List.not_mem_nil, or_false] at mem
  rcases mem with rfl | rfl | rfl
  · trivial
  · exact ⟨by decide, by decide, payment⟩
  · exact ⟨by decide, unreleased, rfl⟩

theorem waiting_accepts : ∀ made ∈ waiting, made.1.FromAccept := by
  intro made mem
  rcases List.mem_cons.mp mem with rfl | mem
  · trivial
  · exact workedOn_accepts rfl (by decide) made mem

theorem retried_accepts : ∀ made ∈ retried, made.1.FromAccept := by
  intro made mem
  rcases List.mem_append.mp mem with mem | mem
  · exact waiting_accepts made mem
  · simp only [List.mem_cons] at mem
    rcases mem with rfl | rfl | mem
    · trivial
    · trivial
    · exact workedOn_accepts rfl (by decide) made mem

/-- The rows after a run of calls. -/
def store (run : List (Request × String)) : MemoryStore :=
  Engine.memory.after twoApprovals 0 MemoryStore.empty run

theorem reached_store {run : List (Request × String)} (accepts : ∀ made ∈ run, made.1.FromAccept) :
    Engine.memory.Reached twoApprovals 0 (store run) :=
  Engine.Reached.after accepts .start

theorem perform_release {s : MemoryStore} : Engine.memory.perform twoApprovals 0 0 "" s
    (.releaseAttempt operationId expired) = (.ok (.released (s.releaseAttempt 0 operationId expired).1.row?),
      (s.releaseAttempt 0 operationId expired).2) :=
  rfl

theorem reached_release {s : MemoryStore} (before : Engine.memory.Reached twoApprovals 0 s) :
    Engine.memory.Reached twoApprovals 0 (s.releaseAttempt 0 operationId expired).2 :=
  @Engine.Reached.step twoApprovals .memory 0 0 s (.releaseAttempt operationId expired) 0 "" before le_rfl
    trivial

/-- The rows after the release. -/
def released : MemoryStore := ((store waiting).releaseAttempt 0 operationId expired).2

theorem released_row : (((store waiting).releaseAttempt 0 operationId expired).1.row?).map
    (·.inSlot openInput) = some true := by
  decide +kernel

theorem released_rows : (∀ a ∈ released.attempts.values, a.status ∈ terminalResolved ∧ a.status ≠ .settled) ∧
    (released.released openInput).map (·.releasedToApproval) = some (some "appr_1") ∧
    released.get? (twoApprovals.buildOperationId openInput "appr_1") = none := by
  decide +kernel

theorem released_outnumbered : released.Outnumbered twoApprovals openInput := by
  refine ⟨["appr_1", "appr_2"], ?_, ?_, ?_⟩
  · decide +kernel
  · decide +kernel
  · decide +kernel

theorem retried_rows : (∀ a ∈ (store retried).attempts.values, a.status ∈ terminalResolved ∧ a.status ≠ .settled) ∧
    ((store retried).released openInput).map (·.releasedToApproval) = some (some "appr_1") ∧
    (store retried).get? (twoApprovals.buildOperationId openInput "appr_1") ≠ none := by
  decide +kernel

end Sample

/-- After the release, the approval that it cites opens an attempt. -/
theorem reopens_iff_released : Engine.memory.Reopens Sample.twoApprovals Sample.released Sample.openInput ∧
    Engine.memory.Authorizes Sample.twoApprovals Sample.released Sample.openInput "appr_1" := by
  obtain ⟨resolved, cited, free⟩ := Sample.released_rows
  have before := Sample.reached_store Sample.waiting_accepts
  have after : Engine.memory.Reached Sample.twoApprovals 0 Sample.released := Sample.reached_release before
  have vacant : Sample.released.Vacant Sample.openInput := vacant_of_values resolved
  have unopened : Sample.released.Unopened Sample.twoApprovals Sample.openInput := by
    intro row approval latest cites
    obtain ⟨row', latest', cites'⟩ := Option.map_eq_some_iff.mp cited
    obtain rfl := Option.some.inj (latest.symm.trans latest')
    rw [← Option.some.inj (cites.symm.trans cites')] at free
    exact free
  constructor
  · exact ((reopens_iff Sample.twoApprovals .memory 0 Sample.released after).1 Sample.openInput vacant
      Sample.released_outnumbered).mpr unopened
  · obtain ⟨row, answer, slot⟩ := Option.map_eq_some_iff.mp Sample.released_row
    have done := @Sample.perform_release (Sample.store Sample.waiting)
    rw [answer] at done
    refine ((reopens_iff Sample.twoApprovals .memory 0 _ before).2 0 0 "" Sample.operationId
      Sample.expired row Sample.released le_rfl done Sample.openInput slot ?_).mpr free
    intro id a stored _
    exact (resolved a (value_of_stored stored)).2

/-- After a release and a rejected attempt under the approval that it cites, the slot is vacant, but no
approval opens it. -/
theorem reopens_false : ¬ ∀ (R : Runtime) (e : Engine) (now : Int) (s : e.State), e.Reached R now s →
    ∀ input, (e.rows s).Vacant input → e.Reopens R s input := by
  intro claim
  obtain ⟨resolved, cited, taken⟩ := Sample.retried_rows
  have vacant := @vacant_of_values _ Sample.openInput resolved
  obtain ⟨approval, -, authorizes⟩ := claim Sample.twoApprovals .memory 0 (Sample.store Sample.retried)
    (Sample.reached_store Sample.retried_accepts) Sample.openInput vacant
  have admits := (@Engine.authorizes_iff Sample.twoApprovals .memory Sample.openInput approval
    (Sample.store Sample.retried) vacant).mp authorizes
  obtain ⟨row, latest, cites⟩ := Option.map_eq_some_iff.mp cited
  have same := (admits.cited row latest).2.symm.trans cites
  rw [← Option.some.inj same] at taken
  exact taken admits.free

end AgentReady.Settlement
