import AgentReady.Settlement.Parity

/-!
When the two stores find or create the same attempt (`packages/payments/src/x402-settlement-store.ts`).

The store in memory does not look at the expiry of the lease that a transition presents, it has no
indexes, and it looks for a payment id among resolved attempts too before it looks at the slot.

* `Agrees`: the calls to which none of this makes a difference.
* `Finds.unique`: where the indexes admit one row of a kind, every way to look for it finds that one.
* `Indexed.resolve_compares`: `resolveOrCreate` answers alike exactly where it agrees.
-/

namespace AgentReady.Settlement

open Sql

namespace MemoryStore

/-- The row has no key of another row. -/
def Lands (s : MemoryStore) (row : Attempt) : Prop :=
  ∀ id b, s.get? id = some b → id ≠ row.operationId → ∀ i : Index, ¬ i.clash b row

/-- A row that the transition finds is held under a running lease, where one is presented, and it
has no key of another row afterwards. -/
def TransitionAgrees (now : Int) (s : MemoryStore) (id : String) (from_ : List AttemptStatus)
    (to_ : AttemptStatus) (update : Update) (owner fence : Option String) : Prop :=
  ∀ a, s.get? id = some a → a.status ∈ from_ → (owner.isNone ∨ a.leaseOwner = owner) →
    (fence.isNone ∨ a.fenceToken = fence) →
    (owner ≠ none → ∃ e, a.leaseExpiresAt = some e ∧ (now : Timestamp) < e) ∧
      s.Lands (a.transitioned now to_ update)

/-- No attempt in the slot is unresolved, and none for the spend is settled. -/
def Vacant (s : MemoryStore) (input : ResolveInput) : Prop :=
  ∀ id a, s.get? id = some a → (a.inSlot input → a.status ∈ terminalResolved) ∧
    (a.forSpend input → a.status ≠ .settled)

structure ResolveAgrees (R : Runtime) (draw : Nat) (s : MemoryStore) (input : ResolveInput) :
    Prop where
  /-- A payment id that a resolved attempt of another request has is refused by the INSERT. -/
  spent : ∀ id p, s.get? id = some p → p.callerPaymentId = input.callerPaymentId →
    p.requestDigest ≠ input.requestDigest → p.status ∈ terminalResolved →
    s.Vacant input ∧ ∃ revision, R.authRevision draw input (s.released input) = some revision ∧
      ∀ o, s.get? (R.buildOperationId input revision) = some o → o.operationId = p.operationId
  /-- Under the operation id of a fresh attempt, there is none that needs another approval. -/
  fresh : (∀ id p, s.get? id = some p → p.callerPaymentId ≠ input.callerPaymentId) →
    s.Vacant input → ∀ revision, R.authRevision draw input (s.released input) = some revision →
      ∀ o, s.get? (R.buildOperationId input revision) = some o →
        approvalMismatch o.authRevision input.approvalEventId = false

/-- The stores answer the call alike. -/
def Agrees (R : Runtime) (now : Int) (draw : Nat) (s : MemoryStore) : Request → Prop
  | .resolveOrCreate input => s.ResolveAgrees R draw input
  | .call (.transition id from_ to_ update owner fence) _ =>
      s.TransitionAgrees now id from_ to_ update owner fence
  | _ => True

/-- Whoever holds a row holds it under a lease that ends. -/
def Leases (s : MemoryStore) : Prop :=
  ∀ id a, s.get? id = some a → a.leaseOwner ≠ none → a.leaseExpiresAt ≠ none

end MemoryStore

/-! ### Lookups -/

/-- The lookup finds a stored row of the kind, if there is one. -/
structure Finds (s : MemoryStore) (p : Attempt → Bool) (found : Option Attempt) : Prop where
  sound : ∀ a, found = some a → s.get? a.operationId = some a ∧ p a = true
  complete : found = none → ∀ id a, s.get? id = some a → p a = false

section Lookups

variable {s : MemoryStore} {t : Indexed} {p q : Attempt → Bool} {found found' : Option Attempt}

theorem finds_of_mem (sound : ∀ a, found = some a → a ∈ s.select p)
    (complete : found = none → s.select p = []) : Finds s p found where
  sound a here := MemoryStore.mem_select.mp (sound a here)
  complete nothing id a stored := by
    by_contra holds
    have same := s.keyed id a stored
    have mem : a ∈ s.select p := MemoryStore.mem_select.mpr ⟨same.symm ▸ stored, by simpa using holds⟩
    rw [complete nothing] at mem
    cases mem

theorem finds_first : Finds s p (byCreation (s.select p)).head? := by
  apply finds_of_mem
  · intro a first
    exact mem_of_first first
  · intro nothing
    have perm : (byCreation (s.select p)).Perm (s.select p) := List.perm_insertionSort ..
    rw [List.head?_eq_none_iff.mp nothing] at perm
    exact perm.nil_eq.symm

theorem finds_latest : Finds s p (byUpdate (s.select p)).getLast? := by
  apply finds_of_mem
  · intro a latest
    exact mem_of_latest latest
  · intro nothing
    have perm : (byUpdate (s.select p)).Perm (s.select p) := List.perm_insertionSort ..
    rw [List.getLast?_eq_none_iff.mp nothing] at perm
    exact perm.nil_eq.symm

theorem finds_scan : Finds s p (s.attempts.find? p) := by
  unfold OrderedMap.find?
  rw [← List.head?_filter]
  apply finds_of_mem
  · intro a first
    exact List.mem_of_head? first
  · intro nothing
    exact List.head?_eq_none_iff.mp nothing

theorem finds_scan_select : Finds s (fun a => p a ∧ q a) ((s.select p).find? q) := by
  unfold MemoryStore.select
  rw [List.find?_filter]
  exact finds_scan

theorem Finds.nothing (finds : Finds s p found) (none : ∀ id a, s.get? id = some a → ¬ p a = true) :
    found = .none := by
  by_contra present
  obtain ⟨a, here⟩ := Option.ne_none_iff_exists'.mp present
  obtain ⟨stored, holds⟩ := finds.sound a here
  exact none _ a stored holds

/-- Two lookups find the same row, where the indexes admit no second. -/
theorem Finds.unique (here : Finds t.toMemoryStore p found) (there : Finds t.toMemoryStore p found')
    (alone : ∀ a b, p a = true → p b = true → ∃ i : Index, i.clash a b) : found = found' := by
  cases found with
  | none =>
      cases found' with
      | none => rfl
      | some b =>
          obtain ⟨stored, holds⟩ := there.sound b rfl
          cases (here.complete rfl _ b stored).symm.trans holds
  | some a =>
      obtain ⟨stored, holds⟩ := here.sound a rfl
      cases found' with
      | none => cases (there.complete rfl _ a stored).symm.trans holds
      | some b =>
          obtain ⟨stored', holds'⟩ := there.sound b rfl
          by_cases same : a.operationId = b.operationId
          · rw [same] at stored
            exact stored.symm.trans stored'
          · obtain ⟨i, clash⟩ := alone a b holds holds'
            exact (t.unique _ _ a b stored stored' same i clash).elim

end Lookups

/-! ### Finding or creating an attempt -/

/-- What memory does where no row answers. -/
theorem MemoryStore.resolve_missing {R : Runtime} {now : Int} {draw : Nat} {s : MemoryStore}
    {input : ResolveInput} (here : s.existing input = none) :
    (∃ row, R.authRevision draw input (s.released input) = none ∧ s.released input = some row ∧
      resolve R now draw input s = (⟨.releaseRequired, row, releaseRequiredDetail⟩, s)) ∨
    (∃ revision row, R.authRevision draw input (s.released input) = some revision ∧
      s.get? (R.buildOperationId input revision) = some row ∧
      resolve R now draw input s = (⟨.existing, row, ""⟩, s)) ∨
    ∃ revision, R.authRevision draw input (s.released input) = some revision ∧
      s.get? (R.buildOperationId input revision) = none ∧ resolve R now draw input s =
        (⟨.created, R.freshAttempt now input revision, ""⟩, s.put (R.freshAttempt now input revision)) := by
  cases presented : R.authRevision draw input (s.released input) with
  | none =>
      cases released : s.released input with
      | none =>
          rw [released] at presented
          cases presented
      | some row =>
          refine .inl ⟨row, rfl, rfl, ?_⟩
          rw [released] at presented
          unfold resolve
          rw [here, released, presented]
  | some revision =>
      cases taken : s.get? (R.buildOperationId input revision) with
      | none =>
          refine .inr (.inr ⟨revision, rfl, taken, ?_⟩)
          have free : s.get? (R.freshAttempt now input revision).operationId = none := taken
          unfold resolve
          rw [here, presented]
          cases s.released input <;> simp only [Option.getD_some, free]
      | some row =>
          refine .inr (.inl ⟨revision, row, rfl, taken, ?_⟩)
          have found : s.get? (R.freshAttempt now input revision).operationId = some row := taken
          unfold resolve
          rw [here, presented]
          cases s.released input <;> simp only [Option.getD_some, found]

/-- The answers are of different kinds, or about different rows. -/
def ResolveResult.Unlike (there here : ResolveResult) : Prop :=
  there.kind ≠ here.kind ∨ there.row.operationId ≠ here.row.operationId

namespace Indexed

variable {R : Runtime} {now : Int} {draw : Nat} {t : Indexed} {input : ResolveInput} {a b : Attempt}

theorem alone_payment (here : a.callerPaymentId = input.callerPaymentId)
    (there : b.callerPaymentId = input.callerPaymentId) : ∃ i : Index, i.clash a b :=
  ⟨.paymentIdOnce, trivial, trivial, here.trans there.symm⟩

/-- Every row that carries the payment id is this one. -/
theorem payment_unique {id id' : String} (stored : t.get? id = some a) (stored' : t.get? id' = some b)
    (here : a.callerPaymentId = input.callerPaymentId)
    (there : b.callerPaymentId = input.callerPaymentId) : id = id' ∧ a = b := by
  by_cases same : id = id'
  · subst same
    exact ⟨rfl, Option.some.inj (stored.symm.trans stored')⟩
  · obtain ⟨i, clash⟩ := alone_payment here there
    exact (t.unique _ _ a b stored stored' same i clash).elim

theorem settled_eq : t.findSettledAttempt input = t.toMemoryStore.findSettledAttempt input := by
  have there : Finds t.toMemoryStore (fun a => a.forSpend input ∧ a.status = .settled)
      (t.toMemoryStore.findSettledAttempt input) := by
    have scanned := @finds_scan_select t.toMemoryStore (fun a => a.forSpend input)
      (fun a => a.status = .settled)
    simpa [MemoryStore.findSettledAttempt] using scanned
  refine finds_latest.unique there fun a b here there => ?_
  simp only [Attempt.forSpend, Attempt.inSlot, decide_eq_true_eq] at here there
  obtain ⟨⟨⟨order, version⟩, digest, resource⟩, settled⟩ := here
  obtain ⟨⟨⟨order', version'⟩, digest', resource'⟩, settled'⟩ := there
  exact ⟨.settledRequestOnce, settled, settled', order.trans order'.symm, version.trans version'.symm,
    digest.trans digest'.symm, resource.trans resource'.symm⟩

theorem replay_eq : t.findByDigestPayment input.requestDigest input.callerPaymentId =
    t.attempts.find? fun a =>
      a.requestDigest = input.requestDigest ∧ a.callerPaymentId = input.callerPaymentId := by
  refine finds_first.unique finds_scan fun a b here there => ?_
  simp only [decide_eq_true_eq] at here there
  exact alone_payment here.2 there.2

/-- Where memory finds the row that answers a request. -/
theorem memory_existing : t.toMemoryStore.existing input =
    (t.findByDigestPayment input.requestDigest input.callerPaymentId <|>
      (t.findByPaymentId input.callerPaymentId).head? <|> t.findActiveAttempt input <|>
      t.findSettledAttempt input) := by
  rw [replay_eq, settled_eq]
  rfl

/-- The open row of a payment id is its row, where that is unresolved. -/
theorem activeByPaymentId_eq : t.activeByPaymentId input.callerPaymentId =
    (t.findByPaymentId input.callerPaymentId).head?.filter (·.status ∉ terminalResolved) := by
  have open_ : Finds t.toMemoryStore
      (fun a => a.callerPaymentId = input.callerPaymentId ∧ a.status ∉ terminalResolved)
      ((t.findByPaymentId input.callerPaymentId).head?.filter (·.status ∉ terminalResolved)) := by
    have first : Finds t.toMemoryStore (·.callerPaymentId = input.callerPaymentId)
        (t.findByPaymentId input.callerPaymentId).head? := finds_first
    constructor
    · intro a found
      obtain ⟨found, unresolved⟩ := Option.filter_eq_some_iff.mp found
      obtain ⟨stored, carries⟩ := first.sound a found
      exact ⟨stored, by simpa using ⟨by simpa using carries, by simpa using unresolved⟩⟩
    · intro nothing id a stored
      by_contra holds
      simp only [decide_eq_false_iff_not, not_not] at holds
      cases found : (t.findByPaymentId input.callerPaymentId).head? with
      | none => simpa [holds.1] using first.complete found id a stored
      | some b =>
          obtain ⟨stored', carries⟩ := first.sound b found
          obtain ⟨-, rfl⟩ := payment_unique stored stored' holds.1 (by simpa using carries)
          rw [found, Option.filter_some, if_pos (by simpa using holds.2)] at nothing
          cases nothing
  refine finds_first.unique open_ fun a b here there => ?_
  simp only [decide_eq_true_eq] at here there
  exact alone_payment here.1 there.1

theorem vacant_iff : t.toMemoryStore.Vacant input ↔
    t.findActiveAttempt input = none ∧ t.findSettledAttempt input = none := by
  have active : Finds t.toMemoryStore (fun a => a.inSlot input ∧ a.status ∉ terminalResolved)
      (t.findActiveAttempt input) := finds_first
  have settled : Finds t.toMemoryStore (fun a => a.forSpend input ∧ a.status = .settled)
      (t.findSettledAttempt input) := finds_latest
  constructor
  · intro vacant
    constructor
    · by_contra found
      obtain ⟨a, found⟩ := Option.ne_none_iff_exists'.mp found
      obtain ⟨stored, slot⟩ := active.sound a found
      simp only [decide_eq_true_eq] at slot
      exact slot.2 ((vacant _ a stored).1 slot.1)
    · by_contra found
      obtain ⟨a, found⟩ := Option.ne_none_iff_exists'.mp found
      obtain ⟨stored, spend⟩ := settled.sound a found
      simp only [decide_eq_true_eq] at spend
      exact (vacant _ a stored).2 spend.1 spend.2
  · intro ⟨noActive, noSettled⟩ id a stored
    constructor
    · intro slot
      simpa [slot] using active.complete noActive id a stored
    · intro spend
      simpa [spend] using settled.complete noSettled id a stored

/-- A row that no index refuses is written. -/
theorem write_of_free {replaces : Bool} (free : clashing? t.attempts (replaced a replaces) a = none) :
    ∃ t', t.write replaces a = .ok t' ∧ t'.toMemoryStore = t.toMemoryStore.put a := by
  unfold write
  split
  · rename_i clashes
    cases free.symm.trans clashes
  · exact ⟨_, rfl, rfl⟩

theorem write_of_clash {replaces : Bool} (clashes : clashing? t.attempts (replaced a replaces) a ≠ none) :
    ∃ i : Index, t.write replaces a = .error ⟨"23505", i.name⟩ := by
  unfold write
  split
  · rename_i i _
    exact ⟨i, rfl⟩
  · rename_i free
    exact (clashes free).elim

/-- An INSERT that no index refuses. -/
theorem insert_of_free {revision : String}
    (free : clashing? t.attempts none (R.freshAttempt now input revision) = none) :
    (t.insert R now input revision).1 = .ok ⟨.created, R.freshAttempt now input revision, ""⟩ ∧
      (t.insert R now input revision).2.toMemoryStore =
        t.toMemoryStore.put (R.freshAttempt now input revision) := by
  obtain ⟨t', written, rows⟩ := @write_of_free t (R.freshAttempt now input revision) false free
  unfold insert
  simp only [written]
  exact ⟨trivial, rows⟩

/-- An INSERT that an index refuses is answered by the row in its way. -/
theorem insert_of_clash {revision : String} {row : Attempt}
    (clashes : clashing? t.attempts none (R.freshAttempt now input revision) ≠ none)
    (winner : t.winner input (R.buildOperationId input revision) = some row) :
    t.insert R now input revision = (.ok (reuse input row), t) := by
  obtain ⟨i, refused⟩ := @write_of_clash t (R.freshAttempt now input revision) false clashes
  have winner' : t.winner input (R.freshAttempt now input revision).operationId = some row := winner
  unfold insert
  simp only [refused, winner', if_true]

/-- A request that a stored row answers, and no resolved attempt of another request stands in the
way of, agrees. -/
theorem agrees_of_found
    (unspent : ∀ id p, t.get? id = some p → p.callerPaymentId = input.callerPaymentId →
      p.requestDigest ≠ input.requestDigest → p.status ∉ terminalResolved)
    (found : (∃ id p, t.get? id = some p ∧ p.callerPaymentId = input.callerPaymentId) ∨
      ¬ t.toMemoryStore.Vacant input) : t.toMemoryStore.ResolveAgrees R draw input where
  spent id p stored carries other resolved := (unspent id p stored carries other resolved).elim
  fresh unused vacant := by
    rcases found with ⟨id, p, stored, carries⟩ | occupied
    · exact (unused id p stored carries).elim
    · exact (occupied vacant).elim

/-- How the stores compare over a call that finds or creates an attempt. -/
inductive ResolveCompares (R : Runtime) (now : Int) (draw : Nat) (t : Indexed) (input : ResolveInput) :
    Prop where
  | alike (agrees : t.toMemoryStore.ResolveAgrees R draw input)
      (answer : (t.resolve R now draw input).1 =
        .ok (MemoryStore.resolve R now draw input t.toMemoryStore).1)
      (rows : (t.resolve R now draw input).2.toMemoryStore =
        (MemoryStore.resolve R now draw input t.toMemoryStore).2)
  | unlike (disagrees : ¬ t.toMemoryStore.ResolveAgrees R draw input)
      (answer : ∀ result, (t.resolve R now draw input).1 = .ok result →
        result.Unlike (MemoryStore.resolve R now draw input t.toMemoryStore).1)

theorem resolve_found (there : t.existing input = some b) :
    t.resolve R now draw input = (.ok (reuse input b), t) := by
  unfold resolve
  rw [there]

theorem memory_found (here : t.toMemoryStore.existing input = some a) :
    MemoryStore.resolve R now draw input t.toMemoryStore = (reuse input a, t.toMemoryStore) := by
  unfold MemoryStore.resolve
  rw [here]

/-- Both find the same row. -/
theorem compares_of_same (here : t.toMemoryStore.existing input = some a)
    (there : t.existing input = some a) (agrees : t.toMemoryStore.ResolveAgrees R draw input) :
    ResolveCompares R now draw t input := by
  apply ResolveCompares.alike agrees
  · rw [resolve_found there, memory_found here]
  · rw [resolve_found there, memory_found here]

/-- Both find a row, but not the same. -/
theorem compares_of_other (here : t.toMemoryStore.existing input = some a)
    (there : t.existing input = some b) (other : b.operationId ≠ a.operationId)
    (disagrees : ¬ t.toMemoryStore.ResolveAgrees R draw input) : ResolveCompares R now draw t input := by
  apply ResolveCompares.unlike disagrees
  intro result answered
  rw [resolve_found there] at answered
  cases answered
  rw [memory_found here]
  refine .inr ?_
  rwa [reuse_row, reuse_row]

/-- What the database does where no row answers. -/
theorem resolve_missing (there : t.existing input = none) :
    (∃ row, R.authRevision draw input (t.findLatestReleased input) = none ∧
      t.findLatestReleased input = some row ∧
      t.resolve R now draw input = (.ok ⟨.releaseRequired, row, releaseRequiredDetail⟩, t)) ∨
    ∃ revision, R.authRevision draw input (t.findLatestReleased input) = some revision ∧
      t.resolve R now draw input = t.insert R now input revision := by
  unfold resolve
  rw [there]
  cases released : t.findLatestReleased input with
  | none => exact .inr ⟨_, rfl, rfl⟩
  | some row =>
      cases presented : R.authRevision draw input (some row) with
      | none => exact .inl ⟨row, rfl, rfl, rfl⟩
      | some revision => exact .inr ⟨revision, rfl, rfl⟩

/-- Memory finds the resolved attempt that has the payment id. -/
theorem compares_of_spent (here : t.toMemoryStore.existing input = some a)
    (stored : t.get? a.operationId = some a) (carries : a.callerPaymentId = input.callerPaymentId)
    (other : a.requestDigest ≠ input.requestDigest) (resolved : a.status ∈ terminalResolved)
    (there : t.existing input = none) (vacant : t.toMemoryStore.Vacant input)
    (unmatched : t.findByDigestPayment input.requestDigest input.callerPaymentId = none)
    (first : (t.findByPaymentId input.callerPaymentId).head? = some a) :
    ResolveCompares R now draw t input := by
  rcases @resolve_missing R now draw t input there with ⟨row, refused, -, done⟩ | ⟨revision, presented, done⟩
  · apply ResolveCompares.unlike
    · intro agrees
      obtain ⟨-, revision, presented, -⟩ := agrees.spent _ a stored carries other resolved
      cases refused.symm.trans presented
    · intro result answered
      rw [done] at answered
      cases answered
      rw [memory_found here]
      left
      unfold reuse
      split <;> rintro ⟨⟩
  · have clashes : clashing? t.attempts none (R.freshAttempt now input revision) ≠ none := by
      intro free
      have fits := clashing?_eq_none.mp free a.operationId a stored (by rintro ⟨⟩) .paymentIdOnce
      exact fits ⟨trivial, trivial, carries⟩
    cases taken : t.get? (R.buildOperationId input revision) with
    | none =>
        have winner : t.winner input (R.buildOperationId input revision) = some a := by
          unfold winner
          rw [taken, unmatched, first]
          rfl
        rw [insert_of_clash clashes winner] at done
        apply ResolveCompares.alike
        · refine ⟨fun id p stored' carries' _ _ => ⟨vacant, revision, presented, fun o taken' => ?_⟩,
            fun unused => (unused _ a stored carries).elim⟩
          cases taken.symm.trans taken'
        · rw [done, memory_found here]
        · rw [done, memory_found here]
    | some o =>
        have winner : t.winner input (R.buildOperationId input revision) = some o := by
          unfold winner
          rw [taken]
          rfl
        rw [insert_of_clash clashes winner] at done
        have key := t.keyed _ o taken
        by_cases same : o.operationId = a.operationId
        · obtain rfl : o = a := by
            rw [← key, same] at taken
            exact Option.some.inj (taken.symm.trans stored)
          apply ResolveCompares.alike
          · refine ⟨fun id p stored' carries' _ _ => ⟨vacant, revision, presented, fun o' taken' => ?_⟩,
              fun unused => (unused _ o stored carries).elim⟩
            obtain ⟨-, rfl⟩ := payment_unique stored stored' carries carries'
            rw [Option.some.inj (taken.symm.trans taken')]
          · rw [done, memory_found here]
          · rw [done, memory_found here]
        · apply ResolveCompares.unlike
          · intro agrees
            obtain ⟨-, revision', presented', only⟩ := agrees.spent _ a stored carries other resolved
            obtain rfl := Option.some.inj (presented.symm.trans presented')
            exact same (only o taken)
          · intro result answered
            rw [done] at answered
            cases answered
            rw [memory_found here]
            refine .inr ?_
            rwa [reuse_row, reuse_row]

/-- The row of a fresh attempt has no key of a row, where nothing answers the request. -/
theorem fresh_fits {revision : String}
    (unused : ∀ id p, t.get? id = some p → p.callerPaymentId ≠ input.callerPaymentId)
    (vacant : t.toMemoryStore.Vacant input) (free : t.get? (R.buildOperationId input revision) = none) :
    clashing? t.attempts none (R.freshAttempt now input revision) = none := by
  refine clashing?_eq_none.mpr fun id a stored _ i clash => ?_
  obtain ⟨covers, covers', same⟩ := clash
  cases i with
  | pkey =>
      have key : a.operationId = R.buildOperationId input revision := same
      rw [← key, t.keyed id a stored] at free
      cases free.symm.trans stored
  | attemptDigestPayment => exact unused id a stored same.2
  | pidActive | paymentIdOnce => exact unused id a stored same
  | activeOrderIntent => exact covers ((vacant id a stored).1 (decide_eq_true same))
  | settledRequestOnce => cases covers'

/-- No row answers, in either store. -/
theorem compares_of_none (here : t.toMemoryStore.existing input = none)
    (there : t.existing input = none)
    (unused : ∀ id p, t.get? id = some p → p.callerPaymentId ≠ input.callerPaymentId)
    (vacant : t.toMemoryStore.Vacant input) : ResolveCompares R now draw t input := by
  have agrees_of : (∀ revision, R.authRevision draw input (t.findLatestReleased input) = some revision →
      ∀ o, t.get? (R.buildOperationId input revision) = some o →
        approvalMismatch o.authRevision input.approvalEventId = false) →
      t.toMemoryStore.ResolveAgrees R draw input :=
    fun fresh => ⟨fun id p stored carries => (unused id p stored carries).elim, fun _ _ => fresh⟩
  have same : t.findLatestReleased input = t.toMemoryStore.released input := rfl
  rw [same] at agrees_of
  have there' := @resolve_missing R now draw t input there
  rw [same] at there'
  rcases @MemoryStore.resolve_missing R now draw t.toMemoryStore input here with
    ⟨row, refused, found, done⟩ | ⟨revision, o, presented, taken, done⟩ | ⟨revision, presented, free, done⟩
  · rcases there' with ⟨row', -, found', done'⟩ | ⟨revision', presented', -⟩
    · obtain rfl := Option.some.inj (found.symm.trans found')
      apply ResolveCompares.alike
      · apply agrees_of
        intro revision presented
        cases refused.symm.trans presented
      · rw [done, done']
      · rw [done, done']
    · cases refused.symm.trans presented'
  · rcases there' with ⟨row', refused', -, -⟩ | ⟨revision', presented', done'⟩
    · cases refused'.symm.trans presented
    obtain rfl := Option.some.inj (presented.symm.trans presented')
    have clashes : clashing? t.attempts none (R.freshAttempt now input revision) ≠ none := by
      intro free
      have fits := clashing?_eq_none.mp free _ o taken (by rintro ⟨⟩) .pkey
      exact fits ⟨trivial, trivial, t.keyed _ o taken⟩
    have winner : t.winner input (R.buildOperationId input revision) = some o := by
      unfold winner
      have first : t.get? (R.buildOperationId input revision) = some o := taken
      rw [first]
      rfl
    rw [insert_of_clash clashes winner] at done'
    cases mismatch : approvalMismatch o.authRevision input.approvalEventId with
    | false =>
        have answer : reuse input o = ⟨.existing, o, ""⟩ := by
          unfold reuse
          rw [mismatch]
          rfl
        apply ResolveCompares.alike
        · apply agrees_of
          intro revision' presented' o' taken'
          obtain rfl := Option.some.inj (presented.symm.trans presented')
          obtain rfl := Option.some.inj (taken.symm.trans taken')
          exact mismatch
        · rw [done, done', answer]
        · rw [done, done']
    | true =>
        apply ResolveCompares.unlike
        · intro agrees
          cases mismatch.symm.trans (agrees.fresh unused vacant revision presented o taken)
        · intro result answered
          rw [done'] at answered
          cases answered
          rw [done]
          left
          unfold reuse
          rw [mismatch]
          rintro ⟨⟩
  · rcases there' with ⟨row', refused', -, -⟩ | ⟨revision', presented', done'⟩
    · cases refused'.symm.trans presented
    obtain rfl := Option.some.inj (presented.symm.trans presented')
    obtain ⟨answer, rows⟩ := @insert_of_free R now t input revision (fresh_fits unused vacant free)
    apply ResolveCompares.alike
    · apply agrees_of
      intro revision' presented' o taken
      obtain rfl := Option.some.inj (presented.symm.trans presented')
      cases free.symm.trans taken
    · rw [done, done']
      exact answer
    · rw [done, done']
      exact rows

theorem existing_eq : t.existing input =
    (t.findByDigestPayment input.requestDigest input.callerPaymentId <|>
      (t.findByPaymentId input.callerPaymentId).head?.filter (·.status ∉ terminalResolved) <|>
      t.findActiveAttempt input <|> t.findSettledAttempt input) := by
  unfold existing
  rw [activeByPaymentId_eq]

/-- A row with the payment id, for another request. -/
theorem compares_of_payment (first : (t.findByPaymentId input.callerPaymentId).head? = some a)
    (unmatched : t.findByDigestPayment input.requestDigest input.callerPaymentId = none) :
    ResolveCompares R now draw t input := by
  have pid : Finds t.toMemoryStore (·.callerPaymentId = input.callerPaymentId) (some a) :=
    first ▸ finds_first
  obtain ⟨stored, carries⟩ := pid.sound a rfl
  replace carries : a.callerPaymentId = input.callerPaymentId := by simpa using carries
  have other : a.requestDigest ≠ input.requestDigest := by
    intro same
    have replay : Finds t.toMemoryStore
        (fun a => a.requestDigest = input.requestDigest ∧ a.callerPaymentId = input.callerPaymentId)
        none := unmatched ▸ finds_first
    simpa [same, carries] using replay.complete rfl _ a stored
  have here : t.toMemoryStore.existing input = some a := by
    rw [memory_existing, unmatched, first]
    rfl
  have there := @existing_eq t input
  rw [unmatched, first, Option.filter_some] at there
  by_cases resolved : a.status ∈ terminalResolved
  · rw [if_neg (by simpa using resolved)] at there
    have occupied : ∀ b, t.get? b.operationId = some b → b.operationId ≠ a.operationId →
        t.existing input = some b → ¬ t.toMemoryStore.Vacant input →
        ResolveCompares R now draw t input := by
      intro b _ ne found taken
      refine compares_of_other here found ne fun agrees => ?_
      exact taken (agrees.spent _ a stored carries other resolved).1
    have apart : ∀ b, t.get? b.operationId = some b → b ≠ a → b.operationId ≠ a.operationId := by
      intro b stored' ne same
      rw [same] at stored'
      exact ne (Option.some.inj (stored'.symm.trans stored))
    cases active : t.findActiveAttempt input with
    | some b =>
        have slot : Finds t.toMemoryStore (fun a => a.inSlot input ∧ a.status ∉ terminalResolved)
            (some b) := active ▸ finds_first
        obtain ⟨stored', holds⟩ := slot.sound b rfl
        simp only [decide_eq_true_eq] at holds
        rw [active] at there
        refine occupied b stored' (apart b stored' ?_) there fun vacant => ?_
        · rintro rfl
          exact holds.2 resolved
        · exact holds.2 ((vacant _ b stored').1 holds.1)
    | none =>
        rw [active] at there
        cases settled : t.findSettledAttempt input with
        | some b =>
            have spend : Finds t.toMemoryStore (fun a => a.forSpend input ∧ a.status = .settled)
                (some b) := settled ▸ finds_latest
            obtain ⟨stored', holds⟩ := spend.sound b rfl
            simp only [decide_eq_true_eq] at holds
            rw [settled] at there
            refine occupied b stored' (apart b stored' ?_) there fun vacant => ?_
            · rintro rfl
              have digest := holds.1
              simp only [Attempt.forSpend, decide_eq_true_eq] at digest
              exact other digest.2.1
            · exact (vacant _ b stored').2 holds.1 holds.2
        | none =>
            rw [settled] at there
            exact compares_of_spent here stored carries other resolved there
              (vacant_iff.mpr ⟨active, settled⟩) unmatched first
  · rw [if_pos (by simpa using resolved)] at there
    refine compares_of_same here there (agrees_of_found ?_ (.inl ⟨_, a, stored, carries⟩))
    intro id p stored' carries' _
    obtain ⟨-, rfl⟩ := payment_unique stored stored' carries carries'
    exact resolved

theorem resolve_compares : ResolveCompares R now draw t input := by
  have here := @memory_existing t input
  have there := @existing_eq t input
  cases replay : t.findByDigestPayment input.requestDigest input.callerPaymentId with
  | some a =>
      have exact_ : Finds t.toMemoryStore
          (fun a => a.requestDigest = input.requestDigest ∧ a.callerPaymentId = input.callerPaymentId)
          (some a) := replay ▸ finds_first
      obtain ⟨stored, holds⟩ := exact_.sound a rfl
      simp only [decide_eq_true_eq] at holds
      rw [replay] at here there
      refine compares_of_same here there (agrees_of_found ?_ (.inl ⟨_, a, stored, holds.2⟩))
      intro id p stored' carries other
      obtain ⟨-, rfl⟩ := payment_unique stored stored' holds.2 carries
      exact (other holds.1).elim
  | none =>
      cases payment : (t.findByPaymentId input.callerPaymentId).head? with
      | some a => exact compares_of_payment payment replay
      | none =>
          have pid : Finds t.toMemoryStore (·.callerPaymentId = input.callerPaymentId) none :=
            payment ▸ finds_first
          have unused : ∀ id p, t.get? id = some p → p.callerPaymentId ≠ input.callerPaymentId :=
            fun id p stored => by simpa using pid.complete rfl id p stored
          rw [replay, payment] at here there
          have same : t.toMemoryStore.existing input = t.existing input := here.trans there.symm
          cases found : t.existing input with
          | none =>
              refine compares_of_none (same.trans found) found unused (vacant_iff.mpr ?_)
              rw [found] at there
              have nothing := there.symm
              simpa [Option.or_eq_none_iff] using nothing
          | some a =>
              refine compares_of_same (same.trans found) found (agrees_of_found ?_ (.inr ?_))
              · intro id p stored carries
                exact (unused id p stored carries).elim
              · intro vacant
                obtain ⟨noActive, noSettled⟩ := vacant_iff.mp vacant
                rw [noActive, noSettled, found] at there
                cases there

end Indexed

end AgentReady.Settlement
