import AgentReady.Settlement.Pools

/-!
An operation submits the same bytes, as long as no staging overwrites them.

Any number of calls of `accept` and `stagePreparedAttempt` run over one of the two stores, while
leases expire, attempts are taken over, released or opened again at any time.

* `same_bytes`: in runs in which no payload is staged over another, every settlement of an
  operation submits the payload that is stored with it, at every later moment too.
* `same_bytes_false`: a stager that was paused after its read overwrites the payload that was
  submitted, and the next settlement submits another one.
-/

namespace AgentReady.Settlement

open Coop

/-- A statement that writes a payload: the row, the status it must have, and the payload. -/
def Ask.payload? : Ask → Option (String × List AttemptStatus × Option String)
  | .dispatch (.call (.transition id from_ _ update _ _)) =>
      update.payloadDigest.map fun payloadDigest => (id, from_, payloadDigest)
  | _ => none

/-- No statement that is sent now writes a payload over another. -/
def Undisturbed {S : Type} (rows : S → String → Option Attempt) (q : Ask) (_ : q.Answer)
    (s : World S) : Prop :=
  ∀ p ∈ q.payload?, ∀ a ∈ rows s.store p.1, a.status ∈ p.2.1 →
    a.payloadDigest = none ∨ a.payloadDigest = p.2.2

instance {S : Type} (rows : S → String → Option Attempt) (q : Ask) (a : q.Answer) (s : World S) :
    Decidable (Undisturbed rows q a s) :=
  inferInstanceAs (Decidable (∀ p ∈ q.payload?, ∀ a ∈ rows s.store p.1, a.status ∈ p.2.1 →
    a.payloadDigest = none ∨ a.payloadDigest = p.2.2))

/-- The payload of every submission is the one that is stored. -/
def SameBytes {S : Type} (rows : S → String → Option Attempt) (s : World S) : Prop :=
  ∀ id w d, .submitted id w d ∈ s.journal → ∃ a, rows s.store id = some a ∧ a.payloadDigest = some d

/-- A payload that is stored stays. -/
def KeepsPayload (a a' : Attempt) : Prop := ∀ d, a.payloadDigest = some d → a'.payloadDigest = some d

section Bytes

variable {S : Type} {store : SettlementStore S} {config : X402DevnetConfig}
  {laws : StoreLaws store} {s s' : World S}

theorem KeepsPayload.trans {a a' a'' : Attempt} (h : KeepsPayload a a') (h' : KeepsPayload a' a'') :
    KeepsPayload a a'' :=
  fun d given => h' d (h d given)

theorem Attempt.Reheld.payload {a a' : Attempt} (h : a.Reheld a') :
    a'.payloadDigest = a.payloadDigest := by
  rw [h.1]

/-- No write of a worker replaces a payload, where no staging does. -/
theorem Reason.payload {inv : World S → Prop} {c : Contract (World S) Ask.Answer} {w : String}
    {old new : Attempt} (stored : laws.rows s.store old.operationId = some old)
    (allowed : ∀ q a s, c.answers q a s → Undisturbed laws.rows q a s)
    (reason : Reason config laws inv c w s old new) : KeepsPayload old new := by
  intro d given
  cases reason with
  | stage pending _ answered =>
      have same := allowed _ _ _ answered _ rfl old stored (by simp [pending])
      rw [given] at same
      rcases same with impossible | same
      · cases impossible
      · exact same.symm
  | claim =>
      change old.payloadDigest.or _ = _
      rw [given]
      rfl
  | renew => exact given
  | proceed _ _ _ bare =>
      change Option.getD _ _ = _
      rw [bare.payloadDigest]
      exact given
  | abandon => exact given
  | settle => exact given
  | takeover => exact given
  | reopen => exact given

/-- No write of a worker stores an empty digest. -/
theorem Reason.nonempty {inv : World S → Prop} {c : Contract (World S) Ask.Answer} {w : String}
    {old new : Attempt} (start : old.payloadDigest ≠ some "")
    (reason : Reason config laws inv c w s old new) : new.payloadDigest ≠ some "" := by
  cases reason with
  | stage _ nonempty =>
      intro same
      exact nonempty (Option.some.inj same)
  | claim _ nonempty =>
      change old.payloadDigest.or _ ≠ _
      cases given : old.payloadDigest with
      | none =>
          intro same
          exact nonempty (Option.some.inj same)
      | some d =>
          rw [given] at start
          exact start
  | renew => exact start
  | proceed _ _ _ bare =>
      change Option.getD _ _ ≠ _
      rw [bare.payloadDigest]
      exact start
  | abandon => exact start
  | settle => exact start
  | takeover => exact start
  | reopen => exact start

/-- Submitted payloads stay stored. -/
theorem SameBytes.keeps {rows : S → String → Option Attempt} (h : SameBytes rows s)
    (keeps : Rowwise KeepsPayload (rows s.store) (rows s'.store)) (quiet : s'.journal = s.journal) :
    SameBytes rows s' := by
  intro id w d mem
  rw [quiet] at mem
  obtain ⟨a, stored, same⟩ := h id w d mem
  obtain ⟨a', stored', kept⟩ := keeps id a stored
  exact ⟨a', stored', kept d same⟩

/-- What was seen bound to a payload is bound to it still. -/
theorem bound_since {rows : S → String → Option Attempt} {id d : String} {a : Attempt}
    {s₀ : World S} (keeps : Rowwise KeepsPayload (rows s₀.store) (rows s.store))
    (nonempty : ∀ id a, rows s.store id = some a → a.payloadDigest ≠ some "")
    (stored : rows s₀.store id = some a)
    (bound : a.payloadDigest = some d ∨ a.payloadDigest = some "") :
    ∃ a, rows s.store id = some a ∧ a.payloadDigest = some d := by
  obtain ⟨a', stored', kept⟩ := keeps id a stored
  rcases bound with same | empty
  · exact ⟨a', stored', kept d same⟩
  · exact absurd (kept "" empty) (nonempty id a' stored')

theorem keepsPayload_refl (rows : String → Option Attempt) : Rowwise KeepsPayload rows rows :=
  Rowwise.refl (fun _ _ => id) rows

theorem keepsPayload_trans {rows rows' rows'' : String → Option Attempt}
    (h : Rowwise KeepsPayload rows rows') (h' : Rowwise KeepsPayload rows' rows'') :
    Rowwise KeepsPayload rows rows'' :=
  Rowwise.trans (P := KeepsPayload) (fun _ _ _ => KeepsPayload.trans) h h'

/-- Workers that never stage over a payload tolerate each other. -/
def sameBytes (config : X402DevnetConfig) (laws : StoreLaws store) : Tolerance config laws where
  inv s := (∀ id a, laws.rows s.store id = some a → a.payloadDigest ≠ some "") ∧
    SameBytes laws.rows s
  keeps s s' := Rowwise KeepsPayload (laws.rows s.store) (laws.rows s'.store)
  spares _ _ _ := True
  allowed := Undisturbed laws.rows
  outside := Outside laws.rows
  keeps_refl s := keepsPayload_refl _
  keeps_trans _ _ _ := keepsPayload_trans
  spares_refl _ _ := trivial
  spares_trans _ _ _ _ _ _ _ := trivial
  apart s s' start apart := by
    have keeps := apart.rowwise (P := KeepsPayload) fun a a' kept d given => kept.payload.trans given
    refine ⟨apart.1, ⟨?_, start.2.keeps keeps apart.1⟩, keeps, fun _ => trivial⟩
    exact apart.every (P := fun a => a.payloadDigest ≠ some "")
      (fun a a' kept nonempty => kept.payload ▸ nonempty) start.1
  acts w s s' start act := by
    have keeps := act.rowwise (P := KeepsPayload) (fun _ _ => id)
      fun old new stored reason => reason.payload stored fun _ _ _ => id
    have nonempty := act.every (P := fun a => a.payloadDigest ≠ some "")
      (Q := fun a => a.payloadDigest ≠ some "") start.1
      (fun a _ undigested _ => by rw [undigested]; exact nofun) (fun _ => id)
      fun old new _ nonempty reason => reason.nonempty nonempty
    refine ⟨⟨nonempty, ?_⟩, keeps, fun _ _ => trivial⟩
    cases act with
    | resolve resolves => exact start.2.keeps keeps resolves.journal
    | write rewrites => exact start.2.keeps keeps rewrites.journal
    | note grounds =>
        intro id w' d mem
        rcases List.mem_append.mp mem with mem | mem
        · exact start.2 id w' d mem
        · obtain rfl := List.mem_singleton.mp mem
          cases grounds with
          | submitted _ _ _ bound =>
              obtain ⟨s₀, a, since, stored, bound⟩ := bound
              have keeps := since.keeps (fun s => keepsPayload_refl (laws.rows s.store))
                fun _ _ _ => keepsPayload_trans
              exact bound_since keeps start.1 stored bound

end Bytes

section Deployed

variable {ι : Type} [DecidableEq ι] {b : Backend} {self : Deployment b} {tasks : ι → Task}
  {clock date : Int} {draws : Nat} {pool : Pool ι (World b.State) MachineError Ask.Answer Returned}

/-- In runs in which no payload is staged over another, every settlement of an operation submits
the payload that is stored with it, at every later moment too. -/
theorem same_bytes (distinct : Task.Distinct tasks)
    (reaches : Pool.Reaches (fun i => (tasks i).run self.toDevnetMachineResource) (Outside b.rows)
      (Undisturbed b.rows) (.init (.start b.empty clock date draws)) pool) :
    SameBytes b.rows pool.state := by
  rw [← self.laws_rows] at reaches ⊢
  have start : (sameBytes self.config self.laws).inv (.start b.empty clock date draws) := by
    refine ⟨fun id a stored => ?_, nofun⟩
    rw [self.laws_rows] at stored
    cases (b.rows_empty id).symm.trans stored
  exact (((sameBytes self.config self.laws).shared distinct).reaches start
    (fun i id d mem => nomatch mem) reaches).1.2

end Deployed

/-! ### A stager that was paused -/

namespace Sample

/-- A call of `stagePreparedAttempt` with one of the payments. -/
def staging (encodedPayment : String) : Task :=
  .stage { spendingRequest, paymentIdentifier := paymentId, encodedPayment }

/-- The second payment is staged, and three calls of `accept` present a payment. -/
def tasks : Fin 4 → Task
  | 0 => staging secondPayment
  | 1 => .accept (call firstPayment "1")
  | 2 => .accept (call firstPayment "2")
  | 3 => .accept (call secondPayment "3")

theorem tasks_distinct : Task.Distinct tasks := by
  unfold Task.Distinct
  decide +kernel

/-- The lease of a claimed attempt runs out. -/
def expire : Move (Fin 4) (World MemoryStore) Ask.Answer :=
  .outside fun s => { s with clock := 100000000, date := 100000 }

/-- The stager is paused after it read that nothing is staged. The first payment is claimed and
submitted, the lease runs out, and a second call opens the slot again. Then the stager writes, and
the second payment is claimed and submitted. -/
def overwriting : List (Move (Fin 4) (World MemoryStore) Ask.Answer) :=
  .start 0 :: goes {} 0 2 ++ .start 1 :: goes {} 1 15 ++ expire :: .start 2 :: goes {} 2 9 ++
    goes {} 0 1 ++ .start 3 :: goes {} 3 15

/-- The stager is done before the second payment is presented. -/
def staged : List (Move (Fin 4) (World MemoryStore) Ask.Answer) :=
  .start 0 :: goes {} 0 4 ++ .start 3 :: goes {} 3 15

/-- The operations and the payloads that were submitted. -/
def submissions (journal : List Entry) : List (String × String × String) :=
  journal.filterMap fun entry =>
    match entry with
    | .submitted id w d => some (id, w, d)
    | _ => none

theorem mem_submissions {journal : List Entry} {id w d : String}
    (h : (id, w, d) ∈ submissions journal) : .submitted id w d ∈ journal := by
  obtain ⟨entry, mem, same⟩ := List.mem_filterMap.mp h
  cases entry with
  | submitted => cases same; exact mem
  | verified => cases same
  | inspected => cases same

theorem outside_of_expire {act : World MemoryStore → World MemoryStore}
    (h : .outside act = expire) (s : World MemoryStore) : Outside MemoryStore.get? s (act s) := by
  cases h
  refine ⟨rfl, fun id => ?_⟩
  cases stored : s.store.get? id with
  | none => exact .inl ⟨rfl, rfl⟩
  | some a => exact .inr ⟨a, a, rfl, rfl, rfl, Iff.rfl⟩

/-- The runs of the calls over the store in memory. -/
abbrev Runs (allowed : (q : Ask) → q.Answer → World MemoryStore → Prop)
    (pool : Pool (Fin 4) (World MemoryStore) MachineError Ask.Answer Returned) : Prop :=
  Pool.Reaches (fun i => (tasks i).run resource) (Outside MemoryStore.get?) allowed
    (.init (.start MemoryStore.empty 0 0 0)) pool

theorem overwriting_runs : ∃ pool, Runs Unrestricted pool ∧ submissions pool.state.journal =
    [(operationId, "worker-1", firstDigest), (operationId, "worker-3", secondDigest)] := by
  have played : (Pool.play? (fun i => (tasks i).run resource) Unrestricted
      (.init (.start MemoryStore.empty 0 0 0)) overwriting).map
        (fun pool => submissions pool.state.journal) =
      some [(operationId, "worker-1", firstDigest), (operationId, "worker-3", secondDigest)] := by
    decide +kernel
  obtain ⟨pool, plays, submitted⟩ := Option.map_eq_some_iff.mp played
  refine ⟨pool, Pool.reaches_of_play plays fun act mem => outside_of_expire ?_, submitted⟩
  simpa [overwriting, goes, List.mem_replicate] using mem

theorem staged_runs : ∃ pool, Runs (Undisturbed MemoryStore.get?) pool ∧
    submissions pool.state.journal = [(operationId, "worker-3", secondDigest)] := by
  have played : (Pool.play? (fun i => (tasks i).run resource) (Undisturbed MemoryStore.get?)
      (.init (.start MemoryStore.empty 0 0 0)) staged).map
        (fun pool => submissions pool.state.journal) =
      some [(operationId, "worker-3", secondDigest)] := by
    decide +kernel
  obtain ⟨pool, plays, submitted⟩ := Option.map_eq_some_iff.mp played
  refine ⟨pool, Pool.reaches_of_play plays fun act mem => ?_, submitted⟩
  simp [staged, goes] at mem

end Sample

theorem same_bytes_staged : ∃ pool : Pool (Fin 4) (World MemoryStore) MachineError Ask.Answer
      Returned, Sample.submissions pool.state.journal =
        [(Sample.operationId, "worker-3", Sample.secondDigest)] ∧
      SameBytes MemoryStore.get? pool.state := by
  obtain ⟨pool, runs, submitted⟩ := Sample.staged_runs
  exact ⟨pool, submitted,
    @same_bytes _ _ .memory Sample.deployment _ 0 0 0 _ Sample.tasks_distinct runs⟩

theorem same_bytes_false : ¬ ∀ (b : Backend) (self : Deployment b) (tasks : Fin 4 → Task)
    (clock date : Int) (draws : Nat)
    (pool : Pool (Fin 4) (World b.State) MachineError Ask.Answer Returned), Task.Distinct tasks →
      Pool.Reaches (fun i => (tasks i).run self.toDevnetMachineResource) (Outside b.rows)
        Unrestricted (.init (.start b.empty clock date draws)) pool → SameBytes b.rows pool.state := by
  intro claim
  obtain ⟨pool, runs, submitted⟩ := Sample.overwriting_runs
  have same := claim .memory Sample.deployment Sample.tasks 0 0 0 pool Sample.tasks_distinct runs
  have first : .submitted Sample.operationId "worker-1" Sample.firstDigest ∈ pool.state.journal :=
    Sample.mem_submissions (by simp [submitted])
  have second : .submitted Sample.operationId "worker-3" Sample.secondDigest ∈ pool.state.journal :=
    Sample.mem_submissions (by simp [submitted])
  obtain ⟨a, stored, firstStored⟩ := same _ _ _ first
  obtain ⟨a', stored', secondStored⟩ := same _ _ _ second
  obtain rfl := Option.some.inj (stored.symm.trans stored')
  exact absurd (Option.some.inj (firstStored.symm.trans secondStored)) (by decide)

end AgentReady.Settlement
