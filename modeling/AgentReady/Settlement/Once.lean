import AgentReady.Settlement.Pools

/-!
One submission for each operation, as long as no lease runs out.

Any number of calls of `accept` and `stagePreparedAttempt` run over one of the two stores, with any
answers and any lost connections; the clocks move, but no lease of a held attempt runs out, and no
operator acts.

* `submits_once`: a settlement is started at most once for each operation; two operations of one
  order and version are never both started and open; an answer with status 200 reports a settled
  attempt.
-/

namespace AgentReady.Settlement

open Coop

/-- The operations for which a settlement was started, in order. -/
def submittedOperations (journal : List Entry) : List String :=
  journal.filterMap fun entry =>
    match entry with
    | .submitted id _ _ => some id
    | _ => none

theorem mem_submittedOperations {journal : List Entry} {id : String} :
    id ∈ submittedOperations journal ↔ ∃ w d, .submitted id w d ∈ journal := by
  unfold submittedOperations
  rw [List.mem_filterMap]
  constructor
  · rintro ⟨entry, mem, same⟩
    cases entry with
    | submitted id' w d =>
        obtain rfl := Option.some.inj same
        exact ⟨w, d, mem⟩
    | verified => cases same
    | inspected => cases same
  · rintro ⟨w, d, mem⟩
    exact ⟨_, mem, rfl⟩

section Once

variable {S : Type} (rows : S → String → Option Attempt) (s s' : World S)

/-- No lease of a held attempt has run out. -/
def NoLapse : Prop :=
  ∀ id a, rows s.store id = some a → a.status ∈ leasedStatuses → ¬ a.Lapsed s.clock

/-- Only the clocks move, and no lease runs out. -/
def Ticks : Prop := s'.store = s.store ∧ s'.journal = s.journal ∧ NoLapse rows s'

/-- An order and version has one open attempt at a time. -/
def OneOpen : Prop :=
  ∀ id id' a a', rows s.store id = some a → rows s.store id' = some a' → a.SameSlot a' →
    a.status ∉ terminalResolved → a'.status ∉ terminalResolved → id = id'

/-- Who started a settlement owns its attempt, which is not pending. -/
def Owned : Prop :=
  ∀ id w d, .submitted id w d ∈ s.journal → ∃ a, rows s.store id = some a ∧
    a.status ≠ .pending ∧ a.leaseOwner = some w

/-- What holds while no lease runs out. -/
structure Exclusive : Prop where
  running : NoLapse rows s
  oneOpen : OneOpen rows s
  owned : Owned rows s
  once : (submittedOperations s.journal).Nodup

/-- The attempt was settling, and is so no more. -/
def Attempt.Past (a : Attempt) : Prop := a.status ≠ .pending ∧ a.status ≠ .settling

/-- A settled attempt stays as it is; a past one stays past; the request stays. -/
structure Proceeds (a a' : Attempt) : Prop where
  settled : a.status = .settled → a' = a
  past : a.Past → a'.Past
  request : a'.requestDigest = a.requestDigest

/-- The attempts that a worker is settling are spared. -/
def Spares (w : String) : Prop :=
  w ≠ "" → ∀ id a, rows s.store id = some a → a.status = .settling → a.leaseOwner = some w →
    ∃ a', rows s'.store id = some a' ∧ a'.status = .settling ∧ a'.leaseOwner = some w

end Once

theorem Proceeds.refl (a : Attempt) : Proceeds a a := ⟨fun _ => rfl, id, rfl⟩

theorem Proceeds.trans {a a' a'' : Attempt} (h : Proceeds a a') (h' : Proceeds a' a'') :
    Proceeds a a'' where
  settled same := by
    have first := h.settled same
    exact (h'.settled (first ▸ same)).trans first
  past past := h'.past (h.past past)
  request := h'.request.trans h.request

section Acts

variable {S : Type} {store : SettlementStore S} {config : X402DevnetConfig}
  {laws : StoreLaws store} {inv : World S → Prop} {c : Contract (World S) Ask.Answer}
  {w : String} {s s' : World S} {old new : Attempt}

theorem not_past_of_pending {a : Attempt} (h : a.status = .pending) : ¬ a.Past := fun past => past.1 h

theorem not_past_of_settling {a : Attempt} (h : a.status = .settling) : ¬ a.Past := fun past => past.2 h

theorem not_settled_of_held {a : Attempt} (h : a.status ∈ leasedStatuses) : a.status ≠ .settled := by
  intro settled
  rw [settled] at h
  exact absurd h (by decide)

/-- How a write of a worker changes an attempt. -/
theorem Reason.proceeds (reason : Reason config laws inv c w s old new) : Proceeds old new := by
  cases reason with
  | stage pending =>
      exact ⟨fun settled => absurd (pending.symm.trans settled) (by decide),
        fun past => absurd past (not_past_of_pending pending), rfl⟩
  | claim pending =>
      exact ⟨fun settled => absurd (pending.symm.trans settled) (by decide),
        fun past => absurd past (not_past_of_pending pending), rfl⟩
  | renew settling =>
      exact ⟨fun settled => absurd (settling.symm.trans settled) (by decide),
        fun past => absurd past (not_past_of_settling settling), rfl⟩
  | @proceed to_ update held credited next =>
      refine ⟨fun settled => absurd settled (not_settled_of_held held), fun past => ?_, rfl⟩
      rcases next with ⟨-, settling⟩ | next
      · exact absurd past (not_past_of_settling settling)
      · unfold Attempt.Past
        revert next
        change to_ ∈ _ → to_ ≠ _ ∧ to_ ≠ _
        cases to_ <;> decide
  | abandon settling =>
      exact ⟨fun settled => absurd (settling.symm.trans settled) (by decide),
        fun past => absurd past (not_past_of_settling settling), rfl⟩
  | settle held =>
      exact ⟨fun settled => absurd settled (not_settled_of_held held), fun _ => by
        constructor <;> exact nofun, rfl⟩
  | takeover held => exact ⟨fun settled => absurd settled (not_settled_of_held held), id, rfl⟩
  | reopen settling =>
      exact ⟨fun settled => absurd (settling.symm.trans settled) (by decide),
        fun past => absurd past (not_past_of_settling settling), rfl⟩

/-- No write of a worker moves an attempt to another order, or opens a resolved one. -/
theorem Reason.open_ (reason : Reason config laws inv c w s old new) :
    new.SameSlot old ∧ (new.status ∉ terminalResolved → old.status ∉ terminalResolved) := by
  have held : old.status ∈ leasedStatuses → old.status ∉ terminalResolved := by
    cases old.status <;> decide
  cases reason with
  | stage pending => exact ⟨⟨rfl, rfl⟩, fun _ => by rw [pending]; decide⟩
  | claim pending => exact ⟨⟨rfl, rfl⟩, fun _ => by rw [pending]; decide⟩
  | renew settling => exact ⟨⟨rfl, rfl⟩, fun _ => by rw [settling]; decide⟩
  | proceed held' => exact ⟨⟨rfl, rfl⟩, fun _ => held held'⟩
  | abandon settling => exact ⟨⟨rfl, rfl⟩, fun _ => by rw [settling]; decide⟩
  | settle held' => exact ⟨⟨rfl, rfl⟩, fun _ => held held'⟩
  | takeover held' => exact ⟨⟨rfl, rfl⟩, fun _ => held held'⟩
  | reopen settling => exact ⟨⟨rfl, rfl⟩, fun _ => by rw [settling]; decide⟩

/-- A lease that is granted now runs. -/
theorem not_lapsed_of_granted {a : Attempt} {now : Int} {leaseTtl : LeaseTtl}
    (granted : a.leaseExpiresAt = some (now + leaseTtl.micros : Int)) : ¬ a.Lapsed now := by
  intro lapsed
  have positive := leaseTtl.positive
  exact absurd (Timestamp.coe_lt.mpr (show now < now + leaseTtl.micros by omega))
    (not_lt.mpr (lapsed _ granted))

/-- Whose turn a write is, while no lease runs out: the attempt is pending, or the worker's own, or
past. -/
inductive Turn (w : String) (s : World S) (old new : Attempt) : Prop where
  | fresh (pending : old.status = .pending)
  | own (owned : old.leaseOwner = some w) (kept : new.leaseOwner = some w)
      (unsent : new.status = .pending → Unsent w s)
  | past (past : old.Past) (kept : new.leaseOwner = old.leaseOwner) (done : new.status ≠ .pending)

theorem Reason.turn (reason : Reason config laws inv c w s old new)
    (running : ∀ s, inv s → NoLapse laws.rows s) (start : inv s)
    (stored : laws.rows s.store old.operationId = some old)
    (awaited : Awaited laws c old.operationId s → old.Past) :
    Turn w s old new ∧ (new.status ∈ leasedStatuses → ¬ new.Lapsed s.clock) := by
  have runs := running s start old.operationId old stored
  have unheld : AttemptStatus.pending ∉ leasedStatuses := by decide
  cases reason with
  | stage pending => exact ⟨.fresh pending, fun held => absurd held unheld⟩
  | claim pending => exact ⟨.fresh pending, fun _ => not_lapsed_of_granted rfl⟩
  | renew settling owned =>
      refine ⟨.own owned owned fun pending => ?_, fun _ => not_lapsed_of_granted rfl⟩
      exact absurd (settling.symm.trans pending) (by decide)
  | @proceed to_ update held credited next =>
      have open_ : to_ ≠ .pending := by
        rcases next with ⟨rfl, -⟩ | next
        · decide
        · rintro rfl
          exact absurd next (by decide)
      refine ⟨?_, fun _ => runs held⟩
      rcases credited with owned | seen
      · exact .own owned owned fun pending => absurd pending open_
      · exact .past (awaited seen) rfl open_
  | abandon settling owned unsent =>
      exact ⟨.own owned owned fun _ => unsent, fun held => absurd held unheld⟩
  | settle held credited =>
      refine ⟨?_, fun _ => runs held⟩
      rcases credited with owned | seen
      · exact .own owned owned nofun
      · exact .past (awaited seen) rfl nofun
  | takeover held lapsed => exact absurd lapsed (runs held)
  | reopen settling taken =>
      obtain ⟨s₀, a, -, stored₀, start₀, held, lapsed⟩ := taken
      exact absurd lapsed (running s₀ start₀ old.operationId a stored₀ held)

theorem clock_of_act (act : Act config laws inv c w s s') : s'.clock = s.clock := by
  cases act with
  | resolve resolves => exact resolves.clock
  | write rewrites => exact rewrites.clock
  | note => rfl

theorem Act.oneOpen (act : Act config laws inv c w s s') (start : OneOpen laws.rows s) :
    OneOpen laws.rows s' := by
  intro id id' a a' stored stored' slot open_ open_'
  cases act with
  | note => exact start id id' a a' stored stored' slot open_ open_'
  | resolve resolves =>
      rcases resolves.rows with same | ⟨fresh, creates⟩
      · rw [same] at stored stored'
        exact start id id' a a' stored stored' slot open_ open_'
      · rw [creates.created, Function.update_apply] at stored stored'
        split at stored
        · rename_i here
          split at stored'
          · rename_i here'
            rw [here, here']
          · obtain rfl := Option.some.inj stored
            exact absurd (creates.slot id' a' stored' ⟨slot.1.symm, slot.2.symm⟩) open_'
        · split at stored'
          · obtain rfl := Option.some.inj stored'
            exact absurd (creates.slot id a stored slot) open_
          · exact start id id' a a' stored stored' slot open_ open_'
  | @write _ old new rewrites reason =>
      obtain ⟨same, opened⟩ := reason.open_
      rw [rewrites.rows, Function.update_apply] at stored stored'
      split at stored
      · rename_i here
        obtain rfl := Option.some.inj stored
        split at stored'
        · rename_i here'
          rw [here, here']
        · rw [here]
          exact start _ id' old a' rewrites.stored stored'
            ⟨same.1.symm.trans slot.1, same.2.symm.trans slot.2⟩ (opened open_) open_'
      · split at stored'
        · rename_i here'
          obtain rfl := Option.some.inj stored'
          rw [here']
          exact start id _ a old stored rewrites.stored
            ⟨slot.1.trans same.1, slot.2.trans same.2⟩ open_ (opened open_')
        · exact start id id' a a' stored stored' slot open_ open_'

end Acts

section Tolerated

variable {S : Type} {store : SettlementStore S} {config : X402DevnetConfig}
  {laws : StoreLaws store} {w w' : String} {s s' s₀ : World S}

theorem proceeds_refl (rows : String → Option Attempt) : Rowwise Proceeds rows rows :=
  Rowwise.refl Proceeds.refl rows

theorem proceeds_trans {rows rows' rows'' : String → Option Attempt}
    (h : Rowwise Proceeds rows rows') (h' : Rowwise Proceeds rows' rows'') :
    Rowwise Proceeds rows rows'' :=
  Rowwise.trans (P := Proceeds) (fun _ _ _ => Proceeds.trans) h h'

/-- The contract of a worker while no lease runs out. -/
abbrev exclusively (laws : StoreLaws store) (w : String) : Contract (World S) Ask.Answer :=
  contractOf (Exclusive laws.rows) (fun s s' => Rowwise Proceeds (laws.rows s.store) (laws.rows s'.store))
    (fun w s s' => Spares laws.rows s s' w) Unrestricted w

theorem proceeds_since (since : Since (exclusively laws w) s₀ s) :
    Rowwise Proceeds (laws.rows s₀.store) (laws.rows s.store) :=
  since.keeps (fun s => proceeds_refl (laws.rows s.store)) fun _ _ _ => proceeds_trans

/-- What awaited its evidence is past. -/
theorem past_of_awaited {id : String} {a : Attempt} (awaited : Awaited laws (exclusively laws w) id s)
    (stored : laws.rows s.store id = some a) : a.Past := by
  obtain ⟨s₀, a₀, since, stored₀, awaiting⟩ := awaited
  obtain ⟨a', stored', proceeds⟩ := proceeds_since since id a₀ stored₀
  obtain rfl := Option.some.inj (stored.symm.trans stored')
  refine proceeds.past ⟨?_, ?_⟩
  · rw [awaiting]
    decide
  · rw [awaiting]
    decide

theorem turn_of_reason {old new : Attempt} (start : Exclusive laws.rows s)
    (stored : laws.rows s.store old.operationId = some old)
    (reason : Reason config laws (Exclusive laws.rows) (exclusively laws w) w s old new) :
    Turn w s old new ∧ (new.status ∈ leasedStatuses → ¬ new.Lapsed s.clock) :=
  reason.turn (fun _ kept => kept.running) start stored fun awaited => past_of_awaited awaited stored

theorem spares_of_act (start : Exclusive laws.rows s)
    (act : Act config laws (Exclusive laws.rows) (exclusively laws w) w s s')
    (other : w' = w → w = "") : Spares laws.rows s s' w' := by
  intro named id a stored settling owned
  cases act with
  | note => exact ⟨a, stored, settling, owned⟩
  | resolve resolves =>
      rcases resolves.rows with same | ⟨fresh, creates⟩
      · exact ⟨a, same ▸ stored, settling, owned⟩
      · have ne : id ≠ fresh.operationId := by
          rintro rfl
          cases creates.free.symm.trans stored
        exact ⟨a, by rw [creates.created, Function.update_of_ne ne, stored], settling, owned⟩
  | @write _ old new rewrites reason =>
      have ne : id ≠ old.operationId := by
        rintro rfl
        obtain rfl := Option.some.inj (rewrites.stored.symm.trans stored)
        cases (turn_of_reason start rewrites.stored reason).1 with
        | fresh pending => exact absurd (pending.symm.trans settling) (by decide)
        | own owned' =>
            obtain rfl := Option.some.inj (owned.symm.trans owned')
            exact named (other rfl)
        | past past => exact past.2 settling
      exact ⟨a, by rw [rewrites.rows, Function.update_of_ne ne, stored], settling, owned⟩

/-- A write leaves an attempt with whom it was submitted by. -/
theorem owned_of_write {old new : Attempt} (start : Exclusive laws.rows s)
    (rewrites : Rewrites laws s s' old new)
    (reason : Reason config laws (Exclusive laws.rows) (exclusively laws w) w s old new) :
    Owned laws.rows s' := by
  intro id w₀ d mem
  rw [rewrites.journal] at mem
  obtain ⟨a, stored, open_, owned⟩ := start.owned id w₀ d mem
  by_cases here : id = old.operationId
  · subst here
    obtain rfl := Option.some.inj (rewrites.stored.symm.trans stored)
    refine ⟨new, by rw [rewrites.rows, Function.update_self], ?_⟩
    cases (turn_of_reason start rewrites.stored reason).1 with
    | fresh pending => exact absurd pending open_
    | own owned' kept unsent =>
        obtain rfl := Option.some.inj (owned.symm.trans owned')
        exact ⟨fun pending => unsent pending _ _ mem, kept⟩
    | past _ kept done => exact ⟨done, kept.trans owned⟩
  · exact ⟨a, by rw [rewrites.rows, Function.update_of_ne here, stored], open_, owned⟩

theorem owned_of_resolve (start : Owned laws.rows s) (resolves : Resolves laws.rows s s') :
    Owned laws.rows s' := by
  intro id w₀ d mem
  rw [resolves.journal] at mem
  obtain ⟨a, stored, owned⟩ := start id w₀ d mem
  rcases resolves.rows with same | ⟨fresh, creates⟩
  · exact ⟨a, same ▸ stored, owned⟩
  · have ne : id ≠ fresh.operationId := by
      rintro rfl
      cases creates.free.symm.trans stored
    exact ⟨a, by rw [creates.created, Function.update_of_ne ne, stored], owned⟩

/-- A settlement is started by who owns the attempt, and was not started before. -/
theorem owned_of_note {entry : Entry} (start : Exclusive laws.rows s)
    (grounds : Grounds laws (exclusively laws w) w s entry) :
    Owned laws.rows { s with journal := s.journal ++ [entry] } ∧
      (submittedOperations (s.journal ++ [entry])).Nodup := by
  cases grounds with
  | verified =>
      refine ⟨fun id w₀ d mem => start.owned id w₀ d ?_, ?_⟩
      · simpa using mem
      · simpa [submittedOperations] using start.once
  | inspected =>
      refine ⟨fun id w₀ d mem => start.owned id w₀ d ?_, ?_⟩
      · simpa using mem
      · simpa [submittedOperations] using start.once
  | @submitted id payloadDigest worker unsent held bound =>
      obtain ⟨s₀, a₀, relied, stored₀, settling₀, owned₀⟩ := held
      obtain ⟨a, stored, settling, owned⟩ :=
        relied.2.2.2.2.2 worker id a₀ stored₀ settling₀ owned₀
      refine ⟨fun id' w₀ d mem => ?_, ?_⟩
      · rcases List.mem_append.mp mem with mem | mem
        · exact start.owned id' w₀ d mem
        · cases List.mem_singleton.mp mem
          exact ⟨a, stored, by rw [settling]; decide, owned⟩
      · have new : id ∉ submittedOperations s.journal := by
          intro mem
          obtain ⟨w₀, d, entry⟩ := mem_submittedOperations.mp mem
          obtain ⟨a', stored', -, owned'⟩ := start.owned id w₀ d entry
          obtain rfl := Option.some.inj (stored.symm.trans stored')
          obtain rfl := Option.some.inj (owned.symm.trans owned')
          exact unsent id d entry
        have extended : submittedOperations (s.journal ++ [.submitted id w payloadDigest]) =
            submittedOperations s.journal ++ [id] := by
          simp [submittedOperations]
        rw [extended, List.nodup_append]
        refine ⟨start.once, List.nodup_singleton id, fun x mem y last => ?_⟩
        rw [List.mem_singleton.mp last]
        rintro rfl
        exact new mem

theorem exclusive_of_act (start : Exclusive laws.rows s)
    (act : Act config laws (Exclusive laws.rows) (exclusively laws w) w s s') :
    Exclusive laws.rows s' := by
  have running : NoLapse laws.rows s' := by
    intro id a stored
    rw [clock_of_act act]
    refine act.every (P := fun a => a.status ∈ leasedStatuses → ¬ a.Lapsed s.clock)
      (Q := fun a => a.status ∈ leasedStatuses → ¬ a.Lapsed s.clock) start.running
      (fun a clean _ _ held => ?_) (fun _ kept => kept) (fun old new stored _ reason =>
        (turn_of_reason start stored reason).2) id a stored
    rw [clean.pending] at held
    exact absurd held (by decide)
  refine ⟨running, act.oneOpen start.oneOpen, ?_, ?_⟩
  · cases act with
    | resolve resolves => exact owned_of_resolve start.owned resolves
    | write rewrites reason => exact owned_of_write start rewrites reason
    | note grounds => exact (owned_of_note start grounds).1
  · cases act with
    | resolve resolves => rw [resolves.journal]; exact start.once
    | write rewrites reason => rw [rewrites.journal]; exact start.once
    | note grounds => exact (owned_of_note start grounds).2

/-- While no lease runs out, workers tolerate each other. -/
def exclusive (config : X402DevnetConfig) (laws : StoreLaws store) : Tolerance config laws where
  inv := Exclusive laws.rows
  keeps s s' := Rowwise Proceeds (laws.rows s.store) (laws.rows s'.store)
  spares w s s' := Spares laws.rows s s' w
  allowed := Unrestricted
  outside := Ticks laws.rows
  keeps_refl s := proceeds_refl _
  keeps_trans _ _ _ := proceeds_trans
  spares_refl w s _ id a stored settling owned := ⟨a, stored, settling, owned⟩
  spares_trans w s s' s'' _ h h' named id a stored settling owned := by
    obtain ⟨a', stored', settling', owned'⟩ := h named id a stored settling owned
    exact h' named id a' stored' settling' owned'
  apart s s' start ticks := by
    obtain ⟨same, journal, running⟩ := ticks
    refine ⟨journal, ⟨running, ?_, ?_, journal ▸ start.once⟩, ?_, fun w _ id a stored settling owned => ?_⟩
    · intro id id' a a' stored stored'
      rw [same] at stored stored'
      exact start.oneOpen id id' a a' stored stored'
    · intro id w d mem
      rw [journal] at mem
      rw [same]
      exact start.owned id w d mem
    · rw [same]
      exact proceeds_refl _
    · exact ⟨a, same ▸ stored, settling, owned⟩
  acts w s s' start act :=
    ⟨exclusive_of_act start act, act.rowwise Proceeds.refl fun _ _ _ reason => reason.proceeds,
      fun _ other => spares_of_act start act other⟩

end Tolerated

/-- A settlement is started at most once for each operation, and not for two open operations of one
order and version. -/
structure SubmitsOnce {S : Type} (rows : S → String → Option Attempt) (s : World S) : Prop where
  once : (submittedOperations s.journal).Nodup
  alone : ∀ id id' a a', id ∈ submittedOperations s.journal → id' ∈ submittedOperations s.journal →
    rows s.store id = some a → rows s.store id' = some a' → a.SameSlot a' →
      a.status ∉ terminalResolved → a'.status ∉ terminalResolved → id = id'

/-- The attempt that a response reports is settled. -/
def ReportsSettled {S : Type} (rows : S → String → Option Attempt) (requestDigest : String)
    (response : Response) (s : World S) : Prop :=
  response.status = 200 → ∃ id a, rows s.store id = some a ∧ a.status = .settled ∧
    a.requestDigest = requestDigest ∧ response.evidence = some (a.evidenceJson.getD .null)

section Deployed

variable {S : Type} {self : DevnetMachineResource S} {laws : StoreLaws self.store} {w : String}
  {s s' : World S}

/-- What was reported to be settled is settled, and stays so. -/
theorem reportsSettled_of_reported {requestDigest : String} {response : Response}
    (reported : DevnetMachineResource.Reported laws (exclusively laws w) requestDigest response s)
    (keeps : Rowwise Proceeds (laws.rows s.store) (laws.rows s'.store)) :
    ReportsSettled laws.rows requestDigest response s' := by
  intro ok
  obtain ⟨id, concerns, settled⟩ := reported ok
  obtain ⟨s₁, a₁, since₁, stored₁, requested⟩ := concerns
  obtain ⟨s₂, a₂, since₂, stored₂, settled, evidence⟩ := settled
  obtain ⟨a, stored, proceeds⟩ := proceeds_trans (proceeds_since since₁) keeps id a₁ stored₁
  obtain ⟨a', stored', proceeds'⟩ := proceeds_trans (proceeds_since since₂) keeps id a₂ stored₂
  obtain rfl := Option.some.inj (stored.symm.trans stored')
  have same := proceeds'.settled settled
  subst same
  exact ⟨id, a, stored, settled, proceeds.request.trans requested, evidence⟩

variable {ι : Type} [DecidableEq ι] {b : Backend} {deployment : Deployment b} {tasks : ι → Task}
  {clock date : Int} {draws : Nat} {pool : Pool ι (World b.State) MachineError Ask.Answer Returned}

/-- While no lease runs out, and whatever is answered, a settlement is started at most once for each
operation and not for two open operations of one order and version, and an answer with status 200
reports a settled attempt. -/
theorem submits_once (distinct : Task.Distinct tasks)
    (reaches : Pool.Reaches (fun i => (tasks i).run deployment.toDevnetMachineResource) (Ticks b.rows)
      Unrestricted (.init (.start b.empty clock date draws)) pool) :
    SubmitsOnce b.rows pool.state ∧ ∀ i call response, tasks i = .accept call →
      pool.phase i = .done (.ok (.responded response)) →
        ReportsSettled b.rows call.requestDigest response pool.state := by
  rw [← deployment.laws_rows] at reaches ⊢
  have start : (exclusive deployment.config deployment.laws).inv (.start b.empty clock date draws) := by
    have empty : ∀ id a, deployment.laws.rows b.empty id ≠ some a := by
      intro id a stored
      rw [deployment.laws_rows] at stored
      cases (b.rows_empty id).symm.trans stored
    exact ⟨fun id a stored => absurd stored (empty id a), fun id _ a _ stored => absurd stored (empty id a),
      fun id w d mem => (nomatch mem), List.nodup_nil⟩
  have shared := (exclusive deployment.config deployment.laws).shared distinct
  have fresh : ∀ i, Unsent (tasks i).worker (.start b.empty clock date draws) :=
    fun i id d mem => nomatch mem
  have kept := (shared.reaches start fresh reaches).1
  refine ⟨⟨kept.once, fun id id' a a' _ _ stored stored' slot open_ open_' => ?_⟩, ?_⟩
  · exact kept.oneOpen id id' a a' stored stored' slot open_ open_'
  · intro i call response task done
    obtain ⟨s₀, relied, settles⟩ := shared.returned start fresh reaches done
    rw [task] at relied settles
    exact reportsSettled_of_reported settles relied.2.2.2.1

end Deployed

namespace Sample

def task : Task := .accept (call firstPayment "1")

/-- The payment is settled. -/
def settling : List (Move (Fin 1) (World MemoryStore) Ask.Answer) :=
  .start 0 :: goes { settles := some (settled (some "payer_key") none)
                     finalized := some (finalized "10000" "payer_key") } 0 19

theorem settling_runs : ∃ pool, Pool.Reaches
      (fun (_ : Fin 1) => task.run resource)
      (Ticks MemoryStore.get?) Unrestricted (.init (.start MemoryStore.empty 0 0 0)) pool ∧
    submittedOperations pool.state.journal = [operationId] ∧ status? (pool.phase 0) = some 200 := by
  have played : (Pool.play? (fun (_ : Fin 1) => task.run resource) Unrestricted
      (.init (.start MemoryStore.empty 0 0 0)) settling).map
        (fun pool => (submittedOperations pool.state.journal, status? (pool.phase 0))) =
      some ([operationId], some 200) := by
    decide +kernel
  obtain ⟨pool, plays, same⟩ := Option.map_eq_some_iff.mp played
  refine ⟨pool, Pool.reaches_of_play plays fun act mem => ?_, (Prod.mk.inj same).1, (Prod.mk.inj same).2⟩
  simp [settling, goes] at mem

end Sample

theorem submits_once_settled : ∃ pool : Pool (Fin 1) (World MemoryStore) MachineError Ask.Answer Returned,
    submittedOperations pool.state.journal = [Sample.operationId] ∧
      Sample.status? (pool.phase 0) = some 200 ∧ SubmitsOnce MemoryStore.get? pool.state := by
  obtain ⟨pool, runs, submitted, ok⟩ := Sample.settling_runs
  exact ⟨pool, submitted, ok, (@submits_once _ _ .memory Sample.deployment _ 0 0 0 _
    (fun i j _ _ => Subsingleton.elim i j) runs).1⟩

end AgentReady.Settlement
