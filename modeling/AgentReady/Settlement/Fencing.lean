import AgentReady.Settlement.Lifecycle
import AgentReady.Settlement.Store

/-!
Leases and fences.

Any number of workers call the store on any rows. A schedule runs their calls one after
another, each at the time of the database clock, which does not go back; each call that
claims mints a fence that was never minted before. What happened between a worker's calls,
and whether it still believes to hold a row, plays no part.

* `fencing_safe`: a row has one holder at a time, an expired lease is worth nothing, and who
  has lost a row to a later claim never gets it back.
-/

namespace AgentReady.Settlement

open Sql

/-- The table, the clock of the database, and the fences minted so far. -/
structure Db where
  table : Table
  clock : Int
  minted : List String

/-- Every fence of a row was minted. -/
def Db.Known (db : Db) : Prop :=
  ∀ id a fence, db.table.get? id = some a → a.fenceToken = some fence → fence ∈ db.minted

/-- A call that was made: when, on which table, and the rows it returned. -/
structure Event where
  call : Call
  now : Int
  table : Table
  rows : List Attempt

/-- The call acted on the row in the name of the owner with the fence. -/
def Event.Holds (e : Event) (id owner fence : String) : Prop :=
  e.call.Presents id owner fence ∧ e.rows ≠ []

/-- The call claimed the row. -/
def Event.ClaimsRow (e : Event) (id : String) : Prop :=
  e.call.Claims ∧ ∃ r ∈ e.rows, r.operationId = id

/-- A call, made at some time from now on; where the database refuses it, nothing is written. -/
inductive Step (role : Role) (s : Db) : Event → Db → Prop where
  | answered {call : Call} {now : Int} {fence : String} {rows : List Attempt} {table : Table}
      (later : s.clock ≤ now) (fresh : fence ∉ s.minted)
      (done : call.exec role now fence s.table = .ok (rows, table)) :
      Step role s ⟨call, now, s.table, rows⟩ ⟨table, now, fence :: s.minted⟩
  | refused {call : Call} {now : Int} {fence : String} {error : DbError}
      (later : s.clock ≤ now) (fresh : fence ∉ s.minted)
      (failed : call.exec role now fence s.table = .error error) :
      Step role s ⟨call, now, s.table, []⟩ ⟨s.table, now, fence :: s.minted⟩

inductive Schedule (role : Role) (start : Db) : List Event → Db → Prop where
  | nil : Schedule role start [] start
  | step {history : List Event} {s s' : Db} {e : Event} (before : Schedule role start history s)
      (step : Step role s e s') : Schedule role start (history ++ [e]) s'

/-! ### What a call does to a row -/

section Rows

variable {role : Role} {now : Int} {fence : String} {table table' : Table} {rows : List Attempt}
  {row : Option Attempt} {id owner held : String} {call : Call}

/-- A row is left alone, keeps its holder, or is held under the fence that was minted. -/
inductive Touched (fence : String) : Option Attempt → Option Attempt → Prop where
  | same (row : Option Attempt) : Touched fence row row
  | kept {old new : Attempt} (lease : old.SameLease new) : Touched fence (some old) (some new)
  | taken {old new : Attempt} (minted : new.fenceToken = some fence) :
      Touched fence (some old) (some new)

/-- The fence of a row was there before, or was minted. -/
theorem Touched.origin {row : Option Attempt} {a : Attempt} {held : String}
    (h : Touched fence row (some a)) (fenced : a.fenceToken = some held) :
    held = fence ∨ ∃ old, row = some old ∧ old.fenceToken = some held := by
  cases h with
  | same => exact .inr ⟨a, rfl, fenced⟩
  | kept lease => exact .inr ⟨_, rfl, lease.2.symm.trans fenced⟩
  | taken minted => exact .inl (Option.some.inj (fenced.symm.trans minted))

theorem touched_of_updateWhere {condition : Attempt → Truth} {set : Attempt → Attempt}
    (h : updateWhere role now table id condition set = .ok (row, table'))
    (key : ∀ a, (set a).operationId = a.operationId)
    (touch : ∀ a, Touched fence (some a) (some (set a))) (id' : String) :
    Touched fence (table.get? id') (table'.get? id') := by
  rcases updateWhere_ok h with ⟨-, rfl⟩ | ⟨old, stored, -, -, written⟩
  · exact .same _
  · rw [get?_update written (key old)]
    split
    · rename_i here
      rw [here, table.keyed id old stored, stored]
      exact touch old
    · exact .same _

theorem Touched.trans {a b c : Option Attempt} (h : Touched fence a b) (h' : Touched fence b c) :
    Touched fence a c := by
  cases h' with
  | same => exact h
  | kept lease' =>
      cases h with
      | same => exact .kept lease'
      | kept lease => exact .kept ⟨lease'.1.trans lease.1, lease'.2.trans lease.2⟩
      | taken minted => exact .taken (lease'.2.trans minted)
  | taken minted =>
      cases h with
      | same | kept | taken => exact .taken minted

/-- Each row of the list is held under the fence, and the others are left alone. -/
theorem touched_of_updateEach {set : Attempt → Attempt} {list : List Attempt}
    (h : updateEach role now set table list = .ok table')
    (key : ∀ a, (set a).operationId = a.operationId)
    (mints : ∀ a, (set a).fenceToken = some fence)
    (stored : ∀ a ∈ list, (table.get? a.operationId).isSome) :
    (∀ id, Touched fence (table.get? id) (table'.get? id)) ∧
      ∀ a ∈ list, ∃ b, table'.get? a.operationId = some b ∧ b.fenceToken = some fence := by
  induction list generalizing table with
  | nil =>
      cases h
      exact ⟨fun _ => .same _, by simp⟩
  | cons old rest ih =>
      unfold updateEach at h
      cases written : write role now table (some old) (set old) with
      | error => simp [written, bind, Except.bind] at h
      | ok table₁ =>
      simp only [written, bind, Except.bind] at h
      have after := get?_update written (key old)
      have first : ∀ id, Touched fence (table.get? id) (table₁.get? id) := by
        intro id
        rw [after]
        split
        · rename_i here
          obtain ⟨b, stored⟩ := Option.isSome_iff_exists.mp (stored old List.mem_cons_self)
          rw [here, stored]
          exact .taken (mints old)
        · exact .same _
      obtain ⟨touched, held⟩ := ih h fun a mem => by
        rw [after]
        split
        · rfl
        · exact stored a (List.mem_cons_of_mem _ mem)
      refine ⟨fun id => (first id).trans (touched id), fun a mem => ?_⟩
      rcases List.mem_cons.mp mem with rfl | mem
      · have touched := touched a.operationId
        rw [after, if_pos rfl] at touched
        cases shown : table'.get? a.operationId with
        | none =>
            rw [shown] at touched
            cases touched
        | some b =>
            rw [shown] at touched
            refine ⟨b, rfl, ?_⟩
            cases touched with
            | same => exact mints a
            | kept lease => exact lease.2.trans (mints a)
            | taken minted => exact minted
      · exact held a mem

theorem stored_of_reconcilable {limit : Nat} {a : Attempt} (mem : a ∈ reconcilable now table limit) :
    (table.get? a.operationId).isSome := by
  have sorted := (List.mergeSort_perm _ _).mem_iff.mp (List.mem_of_mem_take mem)
  obtain ⟨e, entry, rfl⟩ := List.mem_map.mp (List.mem_filter.mp sorted).1
  have stored : table.get? e.1 = some e.2 := OrderedMap.mem_entries.mp entry
  rw [table.keyed e.1 e.2 stored, stored]
  rfl

theorem reconcile_ok {leaseTtl : Int} {limit : Nat}
    (h : claimForReconcile role now fence table owner leaseTtl limit = .ok (rows, table')) :
    updateEach role now (·.held now owner leaseTtl fence) table (reconcilable now table limit) =
        .ok table' ∧ rows = (reconcilable now table limit).map (·.held now owner leaseTtl fence) := by
  unfold claimForReconcile at h
  cases written : updateEach role now (·.held now owner leaseTtl fence) table
      (reconcilable now table limit) with
  | error => simp [written, bind, Except.bind] at h
  | ok =>
      simp only [written, bind, Except.bind, pure, Except.pure, Except.ok.injEq, Prod.mk.injEq] at h
      exact ⟨congrArg _ h.2, h.1.symm⟩

/-- What a call does to a row. -/
theorem Call.touched (h : call.exec role now fence table = .ok (rows, table')) (id : String) :
    Touched fence (table.get? id) (table'.get? id) := by
  cases call with
  | claimForSettle =>
      obtain ⟨row, done, -⟩ := single_ok h
      exact touched_of_updateWhere done (fun _ => rfl) (fun _ => .taken rfl) id
  | revalidateForSettle =>
      obtain ⟨row, done, -⟩ := single_ok h
      exact touched_of_updateWhere done (fun _ => rfl) (fun _ => .kept ⟨rfl, rfl⟩) id
  | transition _ _ _ _ owner held =>
      obtain ⟨row, done, -⟩ := single_ok h
      unfold Settlement.transition at done
      split at done
      · split at done
        · exact touched_of_updateWhere done (fun _ => rfl) (fun _ => .kept ⟨rfl, rfl⟩) id
        · cases done
          exact .same _
      · exact touched_of_updateWhere done (fun _ => rfl) (fun _ => .kept ⟨rfl, rfl⟩) id
      · cases done
        exact .same _
  | claimRowForTakeover =>
      obtain ⟨row, done, -⟩ := single_ok h
      exact touched_of_updateWhere done (fun _ => rfl) (fun _ => .taken rfl) id
  | claimForReconcile =>
      exact (touched_of_updateEach (reconcile_ok h).1 (fun _ => rfl) (fun _ => rfl)
        fun _ => stored_of_reconcilable).1 id

theorem minted_of_updateWhere {condition : Attempt → Truth} {set : Attempt → Attempt}
    (h : updateWhere role now table id condition set = .ok (row, table'))
    (key : ∀ a, (set a).operationId = a.operationId) (mints : ∀ a, (set a).fenceToken = some fence)
    {r : Attempt} (mem : r ∈ row.toList) :
    ∃ b, table'.get? r.operationId = some b ∧ b.fenceToken = some fence := by
  rcases updateWhere_ok h with ⟨rfl, -⟩ | ⟨old, -, -, rfl, written⟩
  · cases mem
  · obtain rfl := List.mem_singleton.mp mem
    exact ⟨set old, (get?_update written (key old) _).trans (if_pos (key old)), mints old⟩

/-- A call that claims a row leaves it under the fence that was minted. -/
theorem Call.minted_of_claims (h : call.exec role now fence table = .ok (rows, table'))
    (claims : call.Claims) {r : Attempt} (mem : r ∈ rows) :
    ∃ b, table'.get? r.operationId = some b ∧ b.fenceToken = some fence := by
  cases call with
  | claimForSettle =>
      obtain ⟨row, done, rfl⟩ := single_ok h
      exact minted_of_updateWhere done (fun _ => rfl) (fun _ => rfl) mem
  | claimRowForTakeover =>
      obtain ⟨row, done, rfl⟩ := single_ok h
      exact minted_of_updateWhere done (fun _ => rfl) (fun _ => rfl) mem
  | claimForReconcile =>
      obtain ⟨done, rfl⟩ := reconcile_ok h
      obtain ⟨a, among, rfl⟩ := List.mem_map.mp mem
      exact (touched_of_updateEach done (fun _ => rfl) (fun _ => rfl)
        fun _ => stored_of_reconcilable).2 a among
  | revalidateForSettle | transition => exact absurd claims id

/-- A call in the name of a holder returns a row only where the holder's lease runs. -/
theorem Call.leased_of_presents (h : call.exec role now fence table = .ok (rows, table'))
    (presents : call.Presents id owner held) (returned : rows ≠ []) :
    ∃ a, table.get? id = some a ∧ a.leaseOwner = some owner ∧ a.fenceToken = some held ∧
      ∃ e, a.leaseExpiresAt = some e ∧ (now : Timestamp) < e := by
  have found : ∀ {condition : Attempt → Truth} {set : Attempt → Attempt} {row : Option Attempt},
      updateWhere role now table id condition set = .ok (row, table') → rows = row.toList →
      ∃ a, table.get? id = some a ∧ (condition a).Fires := by
    rintro condition set row done rfl
    rcases updateWhere_ok done with ⟨rfl, -⟩ | ⟨old, stored, fires, -, -⟩
    · exact absurd rfl returned
    · exact ⟨old, stored, fires⟩
  cases call with
  | revalidateForSettle =>
      obtain ⟨rfl, rfl, rfl⟩ := presents
      obtain ⟨row, done, eq⟩ := single_ok h
      obtain ⟨a, stored, fires⟩ := found done eq
      exact ⟨a, stored, presents_fires.mp (Truth.fires_and.mp fires).2⟩
  | transition =>
      obtain ⟨rfl, rfl, rfl⟩ := presents
      obtain ⟨row, done, eq⟩ := single_ok h
      obtain ⟨a, stored, fires⟩ := found done eq
      exact ⟨a, stored, presents_fires.mp (Truth.fires_and.mp fires).2⟩
  | claimForSettle | claimRowForTakeover | claimForReconcile => cases presents

end Rows

/-! ### Schedules -/

section Schedules

variable {role : Role} {start s s' : Db} {e : Event} {history : List Event}
  {id owner fence : String}

/-- The fences that a row may not come back to. -/
def Barred (id : String) (fences : List String) (s : Db) : Prop :=
  ∀ a fence, s.table.get? id = some a → a.fenceToken = some fence → fence ∉ fences

theorem Step.minted (step : Step role s e s') : s.minted ⊆ s'.minted := by
  cases step <;> exact List.subset_cons_self ..

theorem Step.touched (step : Step role s e s') : ∃ fence, fence ∉ s.minted ∧ fence ∈ s'.minted ∧
    ∀ id, Touched fence (s.table.get? id) (s'.table.get? id) := by
  cases step with
  | answered _ fresh done => exact ⟨_, fresh, List.mem_cons_self, Call.touched done⟩
  | refused _ fresh => exact ⟨_, fresh, List.mem_cons_self, fun _ => .same _⟩

theorem Step.known (step : Step role s e s') (known : s.Known) : s'.Known := by
  intro id a held stored fenced
  obtain ⟨fence, -, minted, touched⟩ := step.touched
  have touched := touched id
  rw [stored] at touched
  rcases touched.origin fenced with rfl | ⟨old, before, fenced⟩
  · exact minted
  · exact step.minted (known id old held before fenced)

theorem Step.barred {fences : List String} (step : Step role s e s') (older : fences ⊆ s.minted)
    (barred : Barred id fences s) : Barred id fences s' := by
  intro a held stored fenced among
  obtain ⟨fence, fresh, -, touched⟩ := step.touched
  have touched := touched id
  rw [stored] at touched
  rcases touched.origin fenced with rfl | ⟨old, before, fenced⟩
  · exact fresh (older among)
  · exact barred old held before fenced among

/-- A claimed row is barred from every fence minted before. -/
theorem Step.bars (step : Step role s e s') (claims : e.ClaimsRow id) : Barred id s.minted s' := by
  intro a held stored fenced among
  obtain ⟨claiming, r, mem, rfl⟩ := claims
  cases step with
  | @answered _ _ fence _ _ _ fresh done =>
      obtain ⟨b, shown, minted⟩ := Call.minted_of_claims done claiming mem
      obtain rfl := Option.some.inj (stored.symm.trans shown)
      obtain rfl := Option.some.inj (fenced.symm.trans minted)
      exact fresh among
  | refused => cases mem

/-- Who acts on a row holds it, under a lease that runs. -/
theorem Step.holds (step : Step role s e s') (holds : e.Holds id owner fence) :
    ∃ a, s.table.get? id = some a ∧ a.leaseOwner = some owner ∧ a.fenceToken = some fence ∧
      ∃ expires, a.leaseExpiresAt = some expires ∧ (e.now : Timestamp) < expires := by
  obtain ⟨presents, returned⟩ := holds
  cases step with
  | answered _ _ done => exact Call.leased_of_presents done presents returned
  | refused => exact absurd rfl returned

theorem Step.table (step : Step role s e s') : e.table = s.table := by
  cases step <;> rfl

theorem Schedule.known (known : start.Known) (run : Schedule role start history s) : s.Known := by
  induction run with
  | nil => exact known
  | step _ step ih => exact step.known ih

/-- The fences of the rows that the calls were made on were all minted. -/
theorem Schedule.seen (known : start.Known) (run : Schedule role start history s) :
    ∀ e ∈ history, ∀ a, e.table.get? id = some a → a.fenceToken = some fence → fence ∈ s.minted := by
  induction run with
  | nil => simp
  | step before step ih =>
      intro e mem a stored fenced
      rcases List.mem_append.mp mem with mem | mem
      · exact step.minted (ih e mem a stored fenced)
      · rw [List.mem_singleton.mp mem, step.table] at stored
        exact step.minted (before.known known id a fence stored fenced)

/-- The row had this owner and fence when the call was made. -/
def Event.Shows (e : Event) (id owner fence : String) : Prop :=
  ∃ a, e.table.get? id = some a ∧ a.leaseOwner = some owner ∧ a.fenceToken = some fence

/-- After a claim of a row, nobody acts on it under a fence that it had until then, and the row
stays barred from it. -/
theorem Schedule.barred (known : start.Known) (run : Schedule role start history s) :
    ∀ earlier e later, history = earlier ++ e :: later → e.ClaimsRow id →
      (∃ e₀ ∈ earlier ++ [e], e₀.Shows id owner fence) →
      (∀ e' ∈ later, ¬ e'.Holds id owner fence) ∧ Barred id [fence] s := by
  induction run with
  | nil => simp
  | @step history s s' last before step ih =>
      intro earlier e later split claims shown
      have seen : ∀ e₀ ∈ history ++ [last], e₀.Shows id owner fence → fence ∈ s.minted := by
        rintro e₀ mem ⟨a, stored, -, fenced⟩
        rcases List.mem_append.mp mem with mem | mem
        · exact before.seen known e₀ mem a stored fenced
        · rw [List.mem_singleton.mp mem, step.table] at stored
          exact before.known known id a fence stored fenced
      have older : [fence] ⊆ s.minted := by
        obtain ⟨e₀, mem, shows⟩ := shown
        refine List.cons_subset.mpr ⟨seen e₀ ?_ shows, List.nil_subset _⟩
        rw [split]
        rcases List.mem_append.mp mem with mem | mem
        · exact List.mem_append_left _ mem
        · rw [List.mem_singleton.mp mem]
          exact List.mem_append_right _ List.mem_cons_self
      rcases List.eq_nil_or_concat later with rfl | ⟨later, last', rfl⟩
      · -- The claim is the last call: every fence minted before is barred.
        obtain ⟨rfl, same⟩ := List.append_inj' split rfl
        obtain rfl := List.singleton_inj.mp same
        refine ⟨by simp, fun a held stored fenced among => ?_⟩
        exact step.bars claims a held stored fenced (older among)
      · have split' : history ++ [last] = (earlier ++ e :: later) ++ [last'] := by simpa using split
        obtain ⟨rfl, same⟩ := List.append_inj' split' rfl
        obtain rfl := List.singleton_inj.mp same
        obtain ⟨none_, barred⟩ := ih earlier e later rfl claims shown
        refine ⟨fun e' mem holds => ?_, step.barred older barred⟩
        rcases List.mem_append.mp (List.concat_eq_append ▸ mem) with mem | mem
        · exact none_ e' mem holds
        · rw [List.mem_singleton.mp mem] at holds
          obtain ⟨a, stored, -, fenced, -⟩ := step.holds holds
          exact barred a fence stored fenced List.mem_cons_self

/-- Every schedule is safe: at any moment one owner and fence can act on a row; nobody acts on a
row whose lease has run out; and after a claim of a row nobody acts on it in the name of an owner
and a fence that it had before. -/
theorem fencing_safe (known : start.Known) (run : Schedule role start history s) :
    (∀ id owner fence owner' fence' e e' s₁ s₂, Step role s e s₁ → Step role s e' s₂ →
      e.Holds id owner fence → e'.Holds id owner' fence' → owner = owner' ∧ fence = fence') ∧
    (∀ id owner fence e s', Step role s e s' → e.Holds id owner fence →
      ∃ a expires, s.table.get? id = some a ∧ a.leaseExpiresAt = some expires ∧
        (e.now : Timestamp) < expires) ∧
    ∀ id owner fence earlier e later, history = earlier ++ e :: later → e.ClaimsRow id →
      (∃ e₀ ∈ earlier ++ [e], e₀.Shows id owner fence) → ∀ e' ∈ later, ¬ e'.Holds id owner fence := by
  refine ⟨?_, ?_, ?_⟩
  · intro id owner fence owner' fence' e e' s₁ s₂ step step' holds holds'
    obtain ⟨a, stored, owned, fenced, -⟩ := step.holds holds
    obtain ⟨a', stored', owned', fenced', -⟩ := step'.holds holds'
    obtain rfl := Option.some.inj (stored.symm.trans stored')
    exact ⟨Option.some.inj (owned.symm.trans owned'), Option.some.inj (fenced.symm.trans fenced')⟩
  · intro id owner fence e s' step holds
    obtain ⟨a, stored, -, -, expires, running, later⟩ := step.holds holds
    exact ⟨a, expires, stored, running, later⟩
  · intro id owner fence earlier e later split claims shown
    exact (run.barred known earlier e later split claims shown).1

end Schedules

/-! ### A schedule with a takeover -/

/-- A pending attempt, and no fence minted yet. -/
def pendingDb : Db where
  table := Table.empty.put none stagedAttempt (violation?_eq_none.mp (by decide +kernel))
    (Table.clash?_eq_none.mp (by decide +kernel))
  clock := 0
  minted := []

/-- The call made at a time, with the fence it mints. -/
def Db.made (s : Db) (call : Call) (now : Int) (fence : String) : Event × Db :=
  match call.exec .app now fence s.table with
  | .ok (rows, table) => (⟨call, now, s.table, rows⟩, ⟨table, now, fence :: s.minted⟩)
  | .error _ => (⟨call, now, s.table, []⟩, ⟨s.table, now, fence :: s.minted⟩)

theorem Step.made {s : Db} {call : Call} {now : Int} {fence : String} (later : s.clock ≤ now)
    (fresh : fence ∉ s.minted) :
    Step .app s (s.made call now fence).1 (s.made call now fence).2 := by
  unfold Db.made
  split
  · rename_i done
    exact .answered later fresh done
  · rename_i failed
    exact .refused later fresh failed

/-- A worker claims the attempt and pauses past its lease. -/
def claimedDb : Event × Db := pendingDb.made (.claimForSettle "op_0" "worker" 10 none none) 0 "fence_0"

/-- It loses the attempt to a takeover. -/
def takenDb : Event × Db := claimedDb.2.made (.claimRowForTakeover "op_0" "takeover" 10) 20 "fence_1"

/-- It comes back. -/
def pausedDb : Event × Db :=
  takenDb.2.made (.revalidateForSettle "op_0" "worker" "fence_0" 10) 25 "fence_2"

theorem pendingDb_known : pendingDb.Known := by
  intro id a fence stored fenced
  by_cases same : id = stagedAttempt.operationId
  · rw [same] at stored
    obtain rfl := Option.some.inj (Table.get?_putRows_self.symm.trans stored)
    cases fenced
  · cases ((Table.get?_putRows same).mp stored).1

theorem fencing_safe_takeover : Schedule .app pendingDb [claimedDb.1, takenDb.1, pausedDb.1] pausedDb.2 ∧
    ¬ pausedDb.1.Holds "op_0" "worker" "fence_0" := by
  have claimed : Schedule .app pendingDb [claimedDb.1] claimedDb.2 :=
    Schedule.nil.step (.made (by decide) (by decide))
  have taken : Schedule .app pendingDb [claimedDb.1, takenDb.1] takenDb.2 :=
    claimed.step (.made (by decide +kernel) (by decide +kernel))
  have paused : Schedule .app pendingDb [claimedDb.1, takenDb.1, pausedDb.1] pausedDb.2 :=
    taken.step (.made (by decide +kernel) (by decide +kernel))
  have claims : takenDb.1.ClaimsRow "op_0" := by
    have named : ∃ r ∈ takenDb.1.rows, r.operationId = "op_0" := by decide +kernel
    have call : takenDb.1.call = .claimRowForTakeover "op_0" "takeover" 10 := by
      unfold takenDb Db.made
      split <;> rfl
    exact ⟨by rw [call]; trivial, named⟩
  have shows : takenDb.1.Shows "op_0" "worker" "fence_0" := by
    have held : (takenDb.1.table.get? "op_0").map (fun a => (a.leaseOwner, a.fenceToken)) =
        some (some "worker", some "fence_0") := by
      decide +kernel
    obtain ⟨a, stored, both⟩ := Option.map_eq_some_iff.mp held
    obtain ⟨owned, fenced⟩ := Prod.mk.inj both
    exact ⟨a, stored, owned, fenced⟩
  refine ⟨paused, (fencing_safe pendingDb_known paused).2.2 "op_0" "worker" "fence_0" [claimedDb.1]
    takenDb.1 [pausedDb.1] rfl claims ?_ pausedDb.1 List.mem_cons_self⟩
  exact ⟨takenDb.1, List.mem_append_right _ List.mem_cons_self, shows⟩

end AgentReady.Settlement
