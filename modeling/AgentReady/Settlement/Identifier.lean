import AgentReady.Settlement.Pools

/-!
A payment identifier is for one attempt (`packages/payments/src/devnet-machine.ts`).

Any number of calls of `accept` and `stagePreparedAttempt` run over one of the two stores, with any
answers, while leases expire and attempts are taken over or released.

* `single_use`: in runs in which no staging gives an attempt another payment id, a payment id that was
  stored stays with its attempt, no other attempt gets it, and a payment that presents it with
  another request is answered 409.
* `single_use_false`: a second staging of a request takes the payment id of its attempt away, and
  another request gets it.
-/

namespace AgentReady.Settlement

open Coop

/-- A statement that writes a payment id: the row, the status it must have, and the payment id. -/
def Ask.paymentId? : Ask → Option (String × List AttemptStatus × String)
  | .dispatch (.call (.transition id from_ _ update _ _)) =>
      update.callerPaymentId.map fun paymentId => (id, from_, paymentId)
  | _ => none

/-- No statement that is sent now gives an attempt another payment id. -/
def Unrebound {S : Type} (rows : S → String → Option Attempt) (q : Ask) (_ : q.Answer)
    (s : World S) : Prop :=
  ∀ p ∈ q.paymentId?, ∀ a ∈ rows s.store p.1, a.status ∈ p.2.1 → a.callerPaymentId = p.2.2

instance {S : Type} (rows : S → String → Option Attempt) (q : Ask) (a : q.Answer) (s : World S) :
    Decidable (Unrebound rows q a s) :=
  inferInstanceAs (Decidable (∀ p ∈ q.paymentId?, ∀ a ∈ rows s.store p.1, a.status ∈ p.2.1 →
    a.callerPaymentId = p.2.2))

/-- The payment that the attempt is for: its payment id and its request. -/
structure KeepsPayment (a a' : Attempt) : Prop where
  callerPaymentId : a'.callerPaymentId = a.callerPaymentId
  requestDigest : a'.requestDigest = a.requestDigest

/-- No two attempts have a payment id in common. -/
def OncePaid (rows : String → Option Attempt) : Prop :=
  ∀ id id' a a', rows id = some a → rows id' = some a' → a'.callerPaymentId = a.callerPaymentId →
    id' = id

theorem KeepsPayment.refl (a : Attempt) : KeepsPayment a a := ⟨rfl, rfl⟩

theorem KeepsPayment.trans (a b d : Attempt) (h : KeepsPayment a b) (h' : KeepsPayment b d) :
    KeepsPayment a d :=
  ⟨h'.1.trans h.1, h'.2.trans h.2⟩

theorem Attempt.Reheld.payment {a a' : Attempt} (h : a.Reheld a') : KeepsPayment a a' := by
  obtain ⟨same, -⟩ := h
  constructor
  · rw [same]
  · rw [same]

section Payments

variable {S : Type} {store : SettlementStore S} {config : X402DevnetConfig}
  {laws : StoreLaws store} {s s' : World S}

/-- No write of a worker gives an attempt to another payment, where no staging does. -/
theorem Reason.payment {inv : World S → Prop} {c : Contract (World S) Ask.Answer} {w : String}
    {old new : Attempt} (stored : laws.rows s.store old.operationId = some old)
    (allowed : ∀ q a s, c.answers q a s → Unrebound laws.rows q a s)
    (reason : Reason config laws inv c w s old new) : KeepsPayment old new := by
  cases reason with
  | stage pending _ answered =>
      have same := allowed _ _ _ answered _ rfl old stored (by simp [pending])
      exact ⟨same.symm, rfl⟩
  | proceed _ _ _ bare =>
      refine ⟨?_, rfl⟩
      change Option.getD _ _ = _
      rw [bare.callerPaymentId]
      rfl
  | _ => exact ⟨rfl, rfl⟩

/-- An act that keeps the payments of the attempts keeps them apart. -/
theorem OncePaid.act {inv : World S → Prop} {c : Contract (World S) Ask.Answer} {w : String}
    (start : OncePaid (laws.rows s.store))
    (allowed : ∀ q a s, c.answers q a s → Unrebound laws.rows q a s)
    (act : Act config laws inv c w s s') : OncePaid (laws.rows s'.store) := by
  cases act with
  | resolve resolves =>
      rcases resolves.rows with same | ⟨fresh, creates⟩
      · rwa [same]
      · intro id id' a a' stored stored' shared
        rw [creates.created, Function.update_apply] at stored stored'
        split at stored <;> split at stored'
        · rename_i here there
          exact there.trans here.symm
        · cases stored
          exact (creates.unused id' a' stored' shared).elim
        · cases stored'
          exact (creates.unused id a stored shared.symm).elim
        · exact start id id' a a' stored stored' shared
  | @write _ old new rewrites reason =>
      have kept := reason.payment rewrites.stored allowed
      intro id id' a a' stored stored' shared
      rw [rewrites.rows, Function.update_apply] at stored stored'
      split at stored <;> split at stored'
      · rename_i here there
        exact there.trans here.symm
      · rename_i here _
        cases stored
        rw [here]
        exact start _ _ _ _ rewrites.stored stored' (shared.trans kept.callerPaymentId)
      · rename_i _ there
        cases stored'
        rw [there]
        exact start _ _ _ _ stored rewrites.stored (kept.callerPaymentId.symm.trans shared)
      · exact start id id' a a' stored stored' shared
  | note => exact start

theorem OncePaid.outside {rows : S → String → Option Attempt} (start : OncePaid (rows s.store))
    (h : Outside rows s s') : OncePaid (rows s'.store) := by
  have before : ∀ {id : String} {a : Attempt}, rows s'.store id = some a →
      ∃ b, rows s.store id = some b ∧ KeepsPayment b a := by
    intro id a stored
    rcases h.2 id with ⟨-, free⟩ | ⟨b, b', first, after, kept⟩
    · cases free.symm.trans stored
    · obtain rfl := Option.some.inj (after.symm.trans stored)
      exact ⟨b, first, kept.payment⟩
  intro id id' a a' stored stored' shared
  obtain ⟨b, first, kept⟩ := before stored
  obtain ⟨b', first', kept'⟩ := before stored'
  exact start id id' b b' first first'
    (kept'.callerPaymentId.symm.trans (shared.trans kept.callerPaymentId))

/-- Workers that never stage over a payment id tolerate each other. -/
def singleUse (config : X402DevnetConfig) (laws : StoreLaws store) : Tolerance config laws where
  inv s := OncePaid (laws.rows s.store)
  keeps s s' := Rowwise KeepsPayment (laws.rows s.store) (laws.rows s'.store)
  spares _ _ _ := True
  allowed := Unrebound laws.rows
  outside := Outside laws.rows
  keeps_refl _ := Rowwise.refl KeepsPayment.refl _
  keeps_trans _ _ _ h h' := Rowwise.trans KeepsPayment.trans h h'
  spares_refl _ _ := trivial
  spares_trans _ _ _ _ _ _ _ := trivial
  apart _ _ start acts :=
    ⟨acts.1, start.outside acts, acts.rowwise fun _ _ kept => kept.payment, fun _ => trivial⟩
  acts _ _ _ start act :=
    ⟨start.act (fun _ _ _ => id) act, act.rowwise KeepsPayment.refl
      fun _ _ stored reason => reason.payment stored fun _ _ _ => id, fun _ _ => trivial⟩

end Payments

/-! ### A payment that presents the id again -/

/-- A call with a payment that passes the checks of its terms, under a payment id. -/
structure DevnetMachineResource.Presents {S : Type} (self : DevnetMachineResource S)
    (call : DevnetMachineResource.AcceptCall) (payload supplied : Json) (paymentId : String) : Prop where
  enabled : self.settlementEnabled = true
  present : call.paymentSignatureHeader ≠ ""
  decoded : self.decodePayment call.paymentSignatureHeader = some payload
  accepted : payload.access "accepted" = some (some supplied)
  truthy : supplied.isTruthy = true
  digest : call.requestDigest = self.buildRequestDigest call.spendingRequest
  terms : self.requirementErrors supplied call.requestDigest = .ok []
  identifier : self.paymentIdentifier payload = some paymentId
  nonempty : paymentId ≠ ""

theorem Backend.mem_find {b : Backend} {R : Runtime} {s : b.State} {id : String} {a : Attempt}
    (stored : b.rows s id = some a) : a ∈ (b.store R).find a.callerPaymentId s := by
  cases b with
  | memory =>
      have key := MemoryStore.keyed s id a stored
      refine mem_byCreation.mpr (MemoryStore.mem_select.mpr ⟨?_, by simp⟩)
      rwa [key]
  | postgres role sealSignedPayload =>
      have key := Table.keyed s id a stored
      refine mem_byCreation.mpr (Table.mem_select.mpr ⟨?_, by simp⟩)
      rwa [key]

theorem Deployment.mem_find {b : Backend} (self : Deployment b) {s : b.State} {id : String}
    {a : Attempt} (stored : b.rows s id = some a) : a ∈ self.store.find a.callerPaymentId s := by
  rw [self.backed]
  exact Backend.mem_find stored

section Deployed

variable {ι : Type} {b : Backend} {self : Deployment b} {tasks : ι → Task}

/-- The payment id is stored with an attempt for the request. -/
def Reserved (rows : String → Option Attempt) (paymentId requestDigest : String) : Prop :=
  ∃ id a, rows id = some a ∧ a.callerPaymentId = paymentId ∧ a.requestDigest = requestDigest

theorem Reserved.since {rows rows' : String → Option Attempt} {paymentId requestDigest : String}
    (h : Reserved rows paymentId requestDigest) (keeps : Rowwise KeepsPayment rows rows') :
    Reserved rows' paymentId requestDigest := by
  obtain ⟨id, a, stored, carries, digest⟩ := h
  obtain ⟨a', stored', kept⟩ := keeps id a stored
  exact ⟨id, a', stored', kept.callerPaymentId.trans carries, kept.requestDigest.trans digest⟩

theorem reserved_since {w paymentId requestDigest : String} {s s' : World b.State}
    (passed : Passed (singleUse self.config self.laws).inv ((singleUse self.config self.laws).contract w)
      w s s') (reserved : Reserved (b.rows s.store) paymentId requestDigest) :
    Reserved (b.rows s'.store) paymentId requestDigest := by
  have keeps := passed.since.keeps (singleUse self.config self.laws).keeps_refl
    (singleUse self.config self.laws).keeps_trans
  have rows : (singleUse self.config self.laws).keeps s s' =
      Rowwise KeepsPayment (b.rows s.store) (b.rows s'.store) := by
    unfold singleUse
    dsimp only
    rw [self.laws_rows]
  exact reserved.since (rows ▸ keeps)

/-- A payment whose id is stored for another request. -/
theorem acceptPayment_conflicts {payment : DevnetMachineResource.Presented} {w requestDigest : String}
    {s : World b.State} (other : payment.call.requestDigest ≠ requestDigest)
    (reserved : Reserved (b.rows s.store) payment.paymentId requestDigest) :
    (self.acceptPayment payment).Meets ((singleUse self.config self.laws).contract w)
      (Reports fun response _ => response.status = 409) s := by
  have conduct := (singleUse self.config self.laws).conduct w
  unfold DevnetMachineResource.acceptPayment
  dsimp only
  have found : (self.store.findByPaymentId payment.paymentId).Meets
      ((singleUse self.config self.laws).contract w)
      (Reports fun rows _ => rows.any (·.requestDigest ≠ payment.call.requestDigest) = true) s := by
    refine meets_statement conduct.calls fun s₁ relied _ rows next done => ?_
    cases done
    have before := conduct.relied relied
    refine ⟨conduct.acts before.inv (.resolve ⟨rfl, rfl, .inl rfl⟩), fun s' _ => ?_⟩
    obtain ⟨id, a, stored, carries, digest⟩ := reserved_since before reserved
    have mem := self.mem_find stored
    rw [carries] at mem
    refine List.any_eq_true.mpr ⟨a, mem, ?_⟩
    rw [digest]
    simpa using Ne.symm other
  refine reports_bind found fun rows s' conflict => ?_
  rw [if_pos conflict]
  exact reports_return rfl

/-- A payment id that is stored for another request is a conflict. -/
theorem accept_conflicts {call : DevnetMachineResource.AcceptCall} {payload supplied : Json}
    {w paymentId requestDigest : String} {s : World b.State}
    (presents : self.Presents call payload supplied paymentId) (other : call.requestDigest ≠ requestDigest)
    (reserved : Reserved (b.rows s.store) paymentId requestDigest) :
    (self.accept call).Meets ((singleUse self.config self.laws).contract w)
      (Reports fun response _ => response.status = 409) s := by
  have conduct := (singleUse self.config self.laws).conduct w
  unfold DevnetMachineResource.accept
  refine reports_bind (P := fun _ s' => Reserved (b.rows s'.store) paymentId requestDigest)
    (reports_call conduct fun _ s' passed _ => reserved_since passed reserved) fun ready s' after => ?_
  cases ready with
  | error message => trivial
  | ok _ =>
      obtain ⟨enabled, present, decoded, accepted, truthy, digest, terms, identifier, nonempty⟩ := presents
      rw [if_neg (not_not.mpr enabled), if_neg present]
      simp only [decoded, accepted, Option.filter_some, truthy, if_true, terms, identifier]
      rw [if_neg (not_not.mpr digest)]
      simp only [nonempty, ne_eq, not_false_eq_true, decide_true, if_true]
      exact acceptPayment_conflicts other after

/-- The calls tolerate each other, where one of them presents a payment id that is stored for another
request. -/
theorem conflict_shared (distinct : Task.Distinct tasks) {i : ι} {call : DevnetMachineResource.AcceptCall}
    {payload supplied : Json} {paymentId requestDigest : String} (task : tasks i = .accept call)
    (presents : self.Presents call payload supplied paymentId) (other : call.requestDigest ≠ requestDigest) :
    Shared (fun j => (tasks j).run self.toDevnetMachineResource)
      (singleUse self.config self.laws).outside (singleUse self.config self.laws).allowed
      (singleUse self.config self.laws).inv
      (fun j => (singleUse self.config self.laws).contract (tasks j).worker)
      (fun j s => Unsent (tasks j).worker s ∧ (j = i → Reserved (b.rows s.store) paymentId requestDigest))
      (fun j r _ => j = i → ∀ response, r = .ok (.responded response) → response.status = 409) := by
  have shared := (singleUse self.config self.laws).shared distinct
  refine { shared with waits := ?_, meets := ?_ }
  · intro j s s' ⟨unsent, reserved⟩ relied
    have passed := ((singleUse self.config self.laws).conduct (tasks j).worker).relied relied
    exact ⟨shared.waits j s s' unsent relied, fun same => reserved_since passed (reserved same)⟩
  · intro j s start ⟨unsent, reserved⟩
    by_cases same : j = i
    · subst same
      rw [task]
      refine (reports_bind (accept_conflicts presents other (reserved rfl))
        fun response s' conflict => reports_return (P := fun returned _ => ∀ response',
          returned = Returned.responded response' → response'.status = 409) ?_).mono ?_
      · rintro response' ⟨⟩
        exact conflict
      · rintro r s' ended - response ⟨⟩
        exact ended response rfl
    · refine (shared.meets j s start unsent).mono fun r s' _ here => ?_
      exact (same here).elim

/-- What a payment id is reserved for, from one time on. -/
structure SingleUse (server : Deployment b) (tasks : ι → Task)
    (pool pool' : Pool ι (World b.State) MachineError Ask.Answer Returned) : Prop where
  /-- No other attempt ever carries it, and its own stays for its request. -/
  attempt : ∀ id a, b.rows pool.state.store id = some a → ∀ id' a',
    b.rows pool'.state.store id' = some a' → a'.callerPaymentId = a.callerPaymentId →
      id' = id ∧ a'.requestDigest = a.requestDigest
  /-- A later payment that presents it with another request is a conflict. -/
  conflict : ∀ id a, b.rows pool.state.store id = some a → ∀ i call payload supplied,
    tasks i = .accept call → pool.phase i = .idle →
      server.Presents call payload supplied a.callerPaymentId → call.requestDigest ≠ a.requestDigest →
        ∀ response, pool'.phase i = .done (.ok (.responded response)) → response.status = 409

variable [DecidableEq ι] {clock date : Int} {draws : Nat}
  {pool pool' : Pool ι (World b.State) MachineError Ask.Answer Returned}

/-- In runs in which no staging gives an attempt another payment id, every payment id that is ever
stored is for one attempt and one request. -/
theorem single_use (distinct : Task.Distinct tasks)
    (reaches : Pool.Reaches (fun i => (tasks i).run self.toDevnetMachineResource) (Outside b.rows)
      (Unrebound b.rows) (.init (.start b.empty clock date draws)) pool)
    (later : Pool.Reaches (fun i => (tasks i).run self.toDevnetMachineResource) (Outside b.rows)
      (Unrebound b.rows) pool pool') : SingleUse self tasks pool pool' := by
  have rows := self.laws_rows
  have start : (singleUse self.config self.laws).inv (.start b.empty clock date draws) := by
    intro id id' a a' stored
    rw [rows] at stored
    cases (b.rows_empty id).symm.trans stored
  have shared := (singleUse self.config self.laws).shared distinct
  rw [← rows] at reaches later
  obtain ⟨kept, safe⟩ := shared.reaches start (fun i id d mem => by cases mem) reaches
  constructor
  · intro id a stored id' a' stored' carries
    have once := (shared.reaches_from kept safe later).1
    have keeps := shared.keeps (singleUse self.config self.laws).keeps_refl
      (singleUse self.config self.laws).keeps_trans (fun j s s' done => done.2.2.2.1)
      (fun s s' inv acts => ((singleUse self.config self.laws).apart s s' inv acts).2.2.1) kept safe later
    rw [← rows] at stored stored'
    obtain ⟨a₁, stored₁, same⟩ := keeps id a stored
    obtain rfl := once id id' a₁ a' stored₁ stored' (carries.trans same.callerPaymentId.symm)
    obtain rfl := Option.some.inj (stored₁.symm.trans stored')
    exact ⟨rfl, same.requestDigest⟩
  · intro id a stored i call payload supplied task idle presents other response done
    have conflict := conflict_shared distinct task presents other
    have safe' : pool.Safe (fun j => (singleUse self.config self.laws).contract (tasks j).worker)
        (fun j s => Unsent (tasks j).worker s ∧
          (j = i → Reserved (b.rows s.store) a.callerPaymentId a.requestDigest))
        (fun j r _ => j = i → ∀ response, r = .ok (.responded response) → response.status = 409) := by
      intro j
      by_cases same : j = i
      · subst same
        have unsent := safe j
        rw [idle] at unsent ⊢
        exact ⟨unsent, fun _ => ⟨id, a, stored, rfl, rfl⟩⟩
      · exact (safe j).weaken (fun unsent => ⟨unsent, fun here => (same here).elim⟩)
          fun _ _ _ here => (same here).elim
    have ended := (conflict.reaches_from kept safe' later).2 i
    rw [done] at ended
    obtain ⟨s₀, -, answered⟩ := ended
    exact answered rfl response rfl

end Deployed

/-! ### A payment id that is taken away -/

namespace Sample

def otherRequest : ToolSpendRequest := { spendingRequest with orderId := "ord_2" }

def otherDigest : String := "4ef6c423efe4272c2a1ba5e2cd782147e37088280ff57006ff36349cd259dae8"

def otherOperationId : String := "8f7c37fa1fb81d232d55b4172fc05eed54283a2bd9fcda64100d0e6367416bc2"

/-- SHA-256 of the texts that are hashed for the two orders. -/
def twoOrders : Runtime where
  platform := { runtime.platform with
    sha256 := fun text =>
      if text = Platform.canonicalToolSpendRequestDigest { runtime.platform with sha256 := id }
          otherRequest then otherDigest
      else if text = "|".intercalate ["ord_2", "0", otherDigest, resourceUrl,
          "sauth_00000000000040008000000000000003"] then otherOperationId
      else sha256 text }
  uuid := runtime.uuid
  sha256_ne_empty text := by
    dsimp only
    split_ifs
    · decide
    · decide
    · exact sha256_ne_empty text

def orders : DevnetMachineResource MemoryStore :=
  { resource with runtime := twoOrders, store := MemoryStore.settlementStore twoOrders }

def ordersDeployment : Deployment .memory := { orders with backed := rfl }

/-- A request is staged under two payment ids, and another request under the first of them. -/
def stagings : Fin 3 → Task
  | 0 => .stage { spendingRequest, paymentIdentifier := paymentId, encodedPayment := firstPayment }
  | 1 => .stage {
      spendingRequest, paymentIdentifier := "pay_fedcba9876543210", encodedPayment := secondPayment }
  | 2 => .stage {
      spendingRequest := otherRequest, paymentIdentifier := paymentId, encodedPayment := firstPayment }

theorem stagings_distinct : Task.Distinct stagings := by
  unfold Task.Distinct
  decide +kernel

/-- The payment ids of the attempts, and their requests. -/
def payments (pool : Pool (Fin 3) (World MemoryStore) MachineError Ask.Answer Returned) :
    List (String × String × String) :=
  pool.state.store.attempts.entries.map fun e => (e.1, e.2.callerPaymentId, e.2.requestDigest)

/-- The runs of the stagings over the store in memory. -/
abbrev Stages (allowed : (q : Ask) → q.Answer → World MemoryStore → Prop) :
    Pool (Fin 3) (World MemoryStore) MachineError Ask.Answer Returned →
      Pool (Fin 3) (World MemoryStore) MachineError Ask.Answer Returned → Prop :=
  Pool.Reaches (fun i => (stagings i).run orders) (Outside MemoryStore.get?) allowed

/-- The first staging has found its attempt. The others go on from there. -/
theorem stages_of_play {allowed : (q : Ask) → q.Answer → World MemoryStore → Prop}
    [∀ q a s, Decidable (allowed q a s)] (script : List (Move (Fin 3) (World MemoryStore) Ask.Answer))
    (inside : ∀ act, .outside act ∉ script) {before after : List (String × String × String)}
    (played : (Pool.play? (fun i => (stagings i).run orders) allowed
      (.init (.start MemoryStore.empty 0 0 0)) (.start 0 :: goes {} 0 2)).bind
        (fun pool => (Pool.play? (fun i => (stagings i).run orders) allowed
          pool script).map fun pool' => (payments pool, payments pool')) = some (before, after)) :
    ∃ pool pool', Stages allowed (.init (.start MemoryStore.empty 0 0 0)) pool ∧
      Stages allowed pool pool' ∧ payments pool = before ∧ payments pool' = after := by
  obtain ⟨pool, first, rest⟩ := Option.bind_eq_some_iff.mp played
  obtain ⟨pool', next, same⟩ := Option.map_eq_some_iff.mp rest
  refine ⟨pool, pool', Pool.reaches_of_play first fun act mem => ?_,
    Pool.reaches_of_play next fun act mem => (inside act mem).elim, (Prod.mk.inj same).1,
    (Prod.mk.inj same).2⟩
  simp [goes] at mem

/-- The second staging gives the attempt its own payment id, and the third gets the first one. -/
theorem rebinding : ∃ pool pool', Stages Unrestricted (.init (.start MemoryStore.empty 0 0 0)) pool ∧
    Stages Unrestricted pool pool' ∧ payments pool = [(operationId, paymentId, requestDigest)] ∧
    payments pool' = [(operationId, "pay_fedcba9876543210", requestDigest),
      (otherOperationId, paymentId, otherDigest)] := by
  apply stages_of_play (.start 1 :: goes {} 1 4 ++ .start 2 :: goes {} 2 2)
  · intro act mem
    simp [goes] at mem
  · decide +kernel

/-- The first staging is done, and the third finds its payment id taken. -/
theorem staging_alone : ∃ pool pool', Stages (Unrebound MemoryStore.get?)
      (.init (.start MemoryStore.empty 0 0 0)) pool ∧
    Stages (Unrebound MemoryStore.get?) pool pool' ∧
    payments pool = [(operationId, paymentId, requestDigest)] ∧
    payments pool' = [(operationId, paymentId, requestDigest)] := by
  apply stages_of_play (goes {} 0 2 ++ .start 2 :: goes {} 2 2)
  · intro act mem
    simp [goes] at mem
  · decide +kernel

/-- An attempt that is listed is stored. -/
theorem stored_of_payments {pool : Pool (Fin 3) (World MemoryStore) MachineError Ask.Answer Returned}
    {id callerPaymentId digest : String} (mem : (id, callerPaymentId, digest) ∈ payments pool) :
    ∃ a, pool.state.store.get? id = some a ∧ a.callerPaymentId = callerPaymentId ∧
      a.requestDigest = digest := by
  obtain ⟨⟨id', a⟩, entry, same⟩ := List.mem_map.mp mem
  cases same
  exact ⟨a, OrderedMap.mem_entries.mp entry, rfl, rfl⟩

end Sample

theorem single_use_staged : ∃ pool pool', Sample.payments pool =
      [(Sample.operationId, Sample.paymentId, Sample.requestDigest)] ∧
    Sample.payments pool' = [(Sample.operationId, Sample.paymentId, Sample.requestDigest)] ∧
    SingleUse Sample.ordersDeployment Sample.stagings pool pool' := by
  obtain ⟨pool, pool', reaches, later, before, after⟩ := Sample.staging_alone
  exact ⟨pool, pool', before, after, @single_use _ .memory Sample.ordersDeployment Sample.stagings _
    0 0 0 _ _ Sample.stagings_distinct reaches later⟩

theorem single_use_false : ¬ ∀ (b : Backend) (self : Deployment b) (tasks : Fin 3 → Task)
    (clock date : Int) (draws : Nat)
    (pool pool' : Pool (Fin 3) (World b.State) MachineError Ask.Answer Returned), Task.Distinct tasks →
      Pool.Reaches (fun i => (tasks i).run self.toDevnetMachineResource) (Outside b.rows) Unrestricted
        (.init (.start b.empty clock date draws)) pool →
      Pool.Reaches (fun i => (tasks i).run self.toDevnetMachineResource) (Outside b.rows) Unrestricted
        pool pool' → SingleUse self tasks pool pool' := by
  intro claim
  obtain ⟨pool, pool', reaches, later, before, after⟩ := Sample.rebinding
  have single := claim .memory Sample.ordersDeployment Sample.stagings 0 0 0 pool pool'
    Sample.stagings_distinct reaches later
  have first : (Sample.operationId, Sample.paymentId, Sample.requestDigest) ∈ Sample.payments pool := by
    simp [before]
  have second : (Sample.otherOperationId, Sample.paymentId, Sample.otherDigest) ∈
      Sample.payments pool' := by
    simp [after]
  obtain ⟨a, stored, carries, digest⟩ := Sample.stored_of_payments first
  obtain ⟨a', stored', carries', digest'⟩ := Sample.stored_of_payments second
  have same := (single.attempt _ a stored _ a' stored' (carries'.trans carries.symm)).2
  rw [digest, digest'] at same
  exact absurd same (by decide)

end AgentReady.Settlement
