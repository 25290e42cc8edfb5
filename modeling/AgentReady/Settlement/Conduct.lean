import AgentReady.Settlement.Guard
import AgentReady.Settlement.Resource

/-!
What a worker of the paid resource does to the stored attempts, and why.

A store is seen as rows under operation ids (`StoreLaws`). `Act` lists what a worker may do
there, each act with the facts it rests on: what the worker saw before, which answers it was
given, what the journal says. A fact about the past stays a fact, whatever the others do, and
each property draws from it what its own invariant keeps (`Since`).

* `Conduct`: a contract that allows every act.
* `meets_row`, `meets_get`, `meets_record`: the store calls of a worker under such a contract.
-/

namespace AgentReady.Settlement

open Coop

variable {S : Type} {store : SettlementStore S}

/-! ### Stores by what they do -/

/-- What a writing call does to the row it finds. -/
inductive Writes (now : Int) (fence : String) (old : Attempt) : Call → Attempt → Prop where
  | claim {owner : String} {leaseTtl : Int} {sealedPayload payloadDigest : Option String}
      (pending : old.status = .pending) :
      Writes now fence old
        (.claimForSettle old.operationId owner leaseTtl sealedPayload payloadDigest)
        (old.claimed now owner leaseTtl fence sealedPayload payloadDigest)
  | renew {owner held : String} {leaseTtl : Int} (settling : old.status = .settling)
      (owned : old.leaseOwner = some owner) :
      Writes now fence old (.revalidateForSettle old.operationId owner held leaseTtl)
        (old.renewed now leaseTtl)
  | transition {from_ : List AttemptStatus} {to_ : AttemptStatus} {update : Update}
      {owner held : Option String} (status : old.status ∈ from_)
      (owned : ∀ o, owner = some o → old.leaseOwner = some o) :
      Writes now fence old (.transition old.operationId from_ to_ update owner held)
        (old.transitioned now to_ update)
  | takeover {owner : String} {leaseTtl : Int} (held : old.status ∈ leasedStatuses)
      (lapsed : old.Lapsed now) :
      Writes now fence old (.claimRowForTakeover old.operationId owner leaseTtl)
        (old.held now owner leaseTtl fence)

/-- The call is about one row. -/
def Call.Single : Call → Prop
  | .claimForReconcile .. => False
  | _ => True

/-- The rows are for the same order and version. -/
def Attempt.SameSlot (a b : Attempt) : Prop :=
  a.logicalOrderId = b.logicalOrderId ∧ a.intentVersion = b.intentVersion

/-- A fresh attempt is put under a free id, with an unused payment id, in a slot where every attempt
is resolved. -/
structure Creates (rows rows' : String → Option Attempt) (fresh : Attempt) : Prop where
  free : rows fresh.operationId = none
  clean : Clean fresh
  undigested : fresh.payloadDigest = none
  unpaid : fresh.payer = none
  slot : ∀ id a, rows id = some a → a.SameSlot fresh → a.status ∈ terminalResolved
  unused : ∀ id a, rows id = some a → a.callerPaymentId ≠ fresh.callerPaymentId
  created : rows' = Function.update rows fresh.operationId (some fresh)

/-- The rows stay, or one is created; the journal and the clock stay. -/
structure Resolves (rows : S → String → Option Attempt) (s s' : World S) : Prop where
  journal : s'.journal = s.journal
  clock : s'.clock = s.clock
  rows : rows s'.store = rows s.store ∨ ∃ fresh, Creates (rows s.store) (rows s'.store) fresh

/-- Steps of the others, and steps that resolve. -/
def ResolvePath (rows : S → String → Option Attempt) (rely : World S → World S → Prop) :
    World S → World S → Prop :=
  Relation.ReflTransGen fun s s' => rely s s' ∨ Resolves rows s s'

/-- A result of a process that ended well; nothing is said of a throw. -/
def Reports {α : Type} (good : α → World S → Prop) : Except MachineError α → World S → Prop
  | .ok a, s => good a s
  | .error _, _ => True

/-- A store as rows under operation ids. A row that `resolveOrCreate` answers was stored at some
time while it ran. -/
structure StoreLaws (store : SettlementStore S) where
  rows : S → String → Option Attempt
  keyed : ∀ {s : S} {id : String} {a : Attempt}, rows s id = some a → a.operationId = id
  get : ∀ (s : S) (id : String), store.get id s = rows s id
  exec : ∀ {call : Call} {now : Int} {fence : String} {s s' : S} {out : List Attempt}, call.Single →
    store.exec call now fence s = .ok (out, s') →
    (out = [] ∧ rows s' = rows s) ∨
      ∃ old new, rows s old.operationId = some old ∧ Writes now fence old call new ∧ out = [new] ∧
        rows s' = Function.update (rows s) old.operationId (some new)
  resolve : ∀ {c : Contract (World S) Ask.Answer} {input : ResolveInput} {s : World S},
    (∀ q s', c.calls q s') →
    (∀ a b, ResolvePath rows c.rely s a → Resolves rows a b → c.guar a b) →
    (store.resolveOrCreate input).Meets c
      (Reports fun result s' => ∃ s₀, ResolvePath rows c.rely s s₀ ∧
        ResolvePath rows c.rely s₀ s' ∧
        rows s₀.store result.row.operationId = some result.row) s

/-! ### Acts -/

/-- The worker started no settlement yet. -/
def Unsent (w : String) (s : World S) : Prop := ∀ id d, .submitted id w d ∉ s.journal

/-- Time passes: steps of the others and of the worker itself. -/
def Since (c : Contract (World S) Ask.Answer) : World S → World S → Prop :=
  Relation.ReflTransGen fun s s' => c.rely s s' ∨ c.guar s s'

section Acts

variable (config : X402DevnetConfig) (laws : StoreLaws store) (inv : World S → Prop)
  (c : Contract (World S) Ask.Answer) (w : String)

/-- Such a row was stored under the id, now or some time ago. -/
def Saw (id : String) (p : World S → Attempt → Prop) (s : World S) : Prop :=
  ∃ s₀ a, Since c s₀ s ∧ laws.rows s₀.store id = some a ∧ p s₀ a

/-- This row was stored. -/
abbrev Seen (a : Attempt) (s : World S) : Prop := Saw laws c a.operationId (fun _ b => b = a) s

/-- The attempt is for the request. -/
abbrev Concerns (id requestDigest : String) (s : World S) : Prop :=
  Saw laws c id (fun _ a => a.requestDigest = requestDigest) s

/-- The attempt was awaiting its evidence. -/
abbrev Awaited (id : String) (s : World S) : Prop :=
  Saw laws c id (fun _ a => a.status = .awaitingEvidence) s

/-- The payer of an attempt: the facilitator confirmed it, or confirmed a payment without one. -/
def Payer (c : Contract (World S) Ask.Answer) (id payer : String) (s : World S) : Prop :=
  .verified id payer ∈ s.journal ∨ ∃ payload accepted response s₀,
    c.answers (.verifyPayment payload accepted) (.ok response) s₀ ∧ response.isValid ∧
      response.payer.getD "" = ""

/-- The amount of a transfer is the canonical one, or one that the facilitator settled. -/
def Amount (c : Contract (World S) Ask.Answer) (amount : String) : Prop :=
  amount = toString config.amountMinor ∨ ∃ payload accepted response s₀,
    c.answers (.settlePayment payload accepted) (.answered response) s₀ ∧
      response.amount = some amount ∧ amount ≠ ""

/-- The payer that a stored attempt names. -/
def knownPayer (row : Attempt) : String :=
  match row.payer.filter (· ≠ "") with
  | some payer => payer
  | none => DevnetMachineResource.evidenceText row.evidenceJson "payer"

/-- What a settlement is shown by: an inspected transaction, with the transfer it was expected to
make. -/
structure Shown (id txHash requestDigest : String) (expected : ExpectedTransfer)
    (answer : Option Json) (s : World S) : Prop where
  inspected : .inspected txHash answer ∈ s.journal
  verified : (inspect answer (memoForEnvelope requestDigest) expected).Verified
  asset : expected.asset = config.devnetUsdcMint
  payee : expected.payee = config.payeePublicKey
  amount : Amount config c expected.amount
  payer : Payer c id expected.payer s ∨ Saw laws c id
    (fun _ a => a.status = .awaitingEvidence ∧ knownPayer a = expected.payer) s
  digest : Concerns laws c id requestDigest s

/-- The worker owns the row, or the row was awaiting its evidence. -/
def Credited (old : Attempt) (s : World S) : Prop :=
  old.leaseOwner = some w ∨ Awaited laws c old.operationId s

/-- The attempt was held, and its lease had run out. -/
abbrev TakenOver (id : String) (s : World S) : Prop :=
  Saw laws c id (fun s₀ a => inv s₀ ∧ a.status ∈ leasedStatuses ∧ a.Lapsed s₀.clock) s

/-- Only what belongs to the settlement of the row is set. -/
structure Update.Bare (update : Update) : Prop where
  evidenceJson : update.evidenceJson = none
  payloadDigest : update.payloadDigest = none
  callerPaymentId : update.callerPaymentId = none

/-- The writes of a worker to a row, and what each rests on. -/
inductive Reason (s : World S) (old : Attempt) : Attempt → Prop where
  | stage {sealedPayload payloadDigest paymentId : String} (pending : old.status = .pending)
      (nonempty : payloadDigest ≠ "")
      (answered : c.answers (.dispatch (.call (.transition old.operationId [.pending] .pending
        { signedPayloadEnc := some (some sealedPayload), payloadDigest := some (some payloadDigest)
          callerPaymentId := some paymentId } none none))) .through s) :
      Reason s old (old.transitioned s.clock .pending
        { signedPayloadEnc := some (some sealedPayload), payloadDigest := some (some payloadDigest)
          callerPaymentId := some paymentId })
  | claim {leaseTtl : LeaseTtl} {fence sealedPayload payloadDigest : String}
      (pending : old.status = .pending) (nonempty : payloadDigest ≠ "") :
      Reason s old
        (old.claimed s.clock w leaseTtl.micros fence (some sealedPayload) (some payloadDigest))
  | renew {leaseTtl : LeaseTtl} (settling : old.status = .settling)
      (owned : old.leaseOwner = some w) : Reason s old (old.renewed s.clock leaseTtl.micros)
  | proceed {to_ : AttemptStatus} {update : Update} (held : old.status ∈ leasedStatuses)
      (credited : Credited laws c w old s)
      (next : (to_ = .settling ∧ old.status = .settling) ∨
        to_ ∈ [AttemptStatus.rejected, .awaitingEvidence, .manual, .mismatch])
      (bare : update.Bare)
      (payer : ∀ p, update.payer = some (some p) → p ≠ "" → Payer c old.operationId p s) :
      Reason s old (old.transitioned s.clock to_ update)
  | abandon (settling : old.status = .settling) (owned : old.leaseOwner = some w)
      (unsent : Unsent w s) : Reason s old (old.transitioned s.clock .pending {})
  | settle {txHash requestDigest : String} {evidence : Json} {expected : ExpectedTransfer}
      {answer : Option Json} (held : old.status ∈ leasedStatuses)
      (credited : Credited laws c w old s)
      (shown : Shown config laws c old.operationId txHash requestDigest expected answer s) :
      Reason s old (old.transitioned s.clock .settled
        { txHash := some (some txHash), evidenceJson := some evidence })
  | takeover {owner fence : String} {leaseTtl : LeaseTtl} (held : old.status ∈ leasedStatuses)
      (lapsed : old.Lapsed s.clock) : Reason s old (old.held s.clock owner leaseTtl.micros fence)
  | reopen (settling : old.status = .settling) (taken : TakenOver laws inv c old.operationId s) :
      Reason s old (old.transitioned s.clock .pending {})

/-- The entries that a worker makes in the journal, and what each rests on. Who settles has a
name. -/
inductive Grounds (s : World S) : Entry → Prop where
  | verified {id payer : String} : Grounds s (.verified id payer)
  | inspected {txHash : String} {answer : Option Json} : Grounds s (.inspected txHash answer)
  | submitted {id payloadDigest : String} (worker : w ≠ "") (unsent : Unsent w s)
      (held : ∃ s₀ a, c.rely s₀ s ∧ laws.rows s₀.store id = some a ∧ a.status = .settling ∧
        a.leaseOwner = some w)
      (bound : Saw laws c id
        (fun _ a => a.payloadDigest = some payloadDigest ∨ a.payloadDigest = some "") s) :
      Grounds s (.submitted id w payloadDigest)

/-- A row is replaced; the journal and the clock stay. -/
structure Rewrites (s s' : World S) (old new : Attempt) : Prop where
  stored : laws.rows s.store old.operationId = some old
  rows : laws.rows s'.store = Function.update (laws.rows s.store) old.operationId (some new)
  journal : s'.journal = s.journal
  clock : s'.clock = s.clock

/-- What a worker does. -/
inductive Act (s : World S) : World S → Prop where
  | resolve {s' : World S} (resolves : Resolves laws.rows s s') : Act s s'
  | write {s' : World S} {old new : Attempt} (rewrites : Rewrites laws s s' old new)
      (reason : Reason config laws inv c w s old new) : Act s s'
  | note {entry : Entry} (grounds : Grounds laws c w s entry) :
      Act s { s with journal := s.journal ++ [entry] }

/-- A contract that lets a worker act: the others keep the invariant, the journal, and that the
worker started no settlement. -/
structure Conduct : Prop where
  calls : ∀ q s, c.calls q s
  relies : ∀ {s s'}, c.rely s s' → inv s' ∧ s.journal ⊆ s'.journal
  guarantees : ∀ {s s'}, c.guar s s' → inv s' ∧ s.journal ⊆ s'.journal
  unsent : ∀ {s s'}, c.rely s s' → Unsent w s → Unsent w s'
  acts : ∀ {s s'}, inv s → Act config laws inv c w s s' → c.guar s s'

/-- The world moved on, and the worker started no settlement meanwhile. -/
structure Passed (s s' : World S) : Prop where
  since : Since c s s'
  inv : inv s'
  unsent : Unsent w s → Unsent w s'

end Acts

/-! ### What stays known -/

section Known

variable {config : X402DevnetConfig} {laws : StoreLaws store} {inv : World S → Prop}
  {c : Contract (World S) Ask.Answer} {w : String} {s s' s'' : World S}

theorem Saw.since {id : String} {p : World S → Attempt → Prop} (h : Saw laws c id p s)
    (since : Since c s s') : Saw laws c id p s' := by
  obtain ⟨s₀, a, before, stored, holds⟩ := h
  exact ⟨s₀, a, before.trans since, stored, holds⟩

theorem Seen.saw {a : Attempt} {p : World S → Attempt → Prop} (h : Seen laws c a s)
    (holds : ∀ s₀, p s₀ a) : Saw laws c a.operationId p s := by
  obtain ⟨s₀, b, before, stored, rfl⟩ := h
  exact ⟨s₀, b, before, stored, holds s₀⟩

theorem Conduct.journal (conduct : Conduct config laws inv c w) (since : Since c s s') :
    s.journal ⊆ s'.journal := by
  induction since with
  | refl => exact fun _ => id
  | tail _ step ih =>
      rcases step with relied | done
      · exact fun e mem => (conduct.relies relied).2 (ih mem)
      · exact fun e mem => (conduct.guarantees done).2 (ih mem)

theorem Payer.since {id payer : String} (conduct : Conduct config laws inv c w)
    (h : Payer c id payer s) (since : Since c s s') : Payer c id payer s' := by
  rcases h with confirmed | unnamed
  · exact .inl (conduct.journal since confirmed)
  · exact .inr unnamed

theorem Shown.since {id txHash requestDigest : String} {expected : ExpectedTransfer}
    {answer : Option Json} (conduct : Conduct config laws inv c w)
    (h : Shown config laws c id txHash requestDigest expected answer s) (since : Since c s s') :
    Shown config laws c id txHash requestDigest expected answer s' where
  inspected := conduct.journal since h.inspected
  verified := h.verified
  asset := h.asset
  payee := h.payee
  amount := h.amount
  payer := h.payer.imp (fun payer => payer.since conduct since) fun known => known.since since
  digest := h.digest.since since

theorem Passed.refl (start : inv s) : Passed inv c w s s := ⟨.refl, start, id⟩

theorem Passed.trans (h : Passed inv c w s s') (h' : Passed inv c w s' s'') :
    Passed inv c w s s'' :=
  ⟨h.since.trans h'.since, h'.inv, fun unsent => h'.unsent (h.unsent unsent)⟩

theorem Conduct.relied (conduct : Conduct config laws inv c w) (relied : c.rely s s') :
    Passed inv c w s s' :=
  ⟨.single (.inl relied), (conduct.relies relied).1, conduct.unsent relied⟩

theorem Conduct.acted (conduct : Conduct config laws inv c w) (start : inv s)
    (act : Act config laws inv c w s s') (quiet : s'.journal = s.journal) :
    Passed inv c w s s' := by
  have done := conduct.acts start act
  refine ⟨.single (.inr done), (conduct.guarantees done).1, fun unsent id d mem => ?_⟩
  rw [quiet] at mem
  exact unsent id d mem

theorem Conduct.resolved (conduct : Conduct config laws inv c w) (start : inv s)
    (path : ResolvePath laws.rows c.rely s s') : Passed inv c w s s' := by
  induction path with
  | refl => exact .refl start
  | tail _ step ih =>
      rcases step with relied | resolves
      · exact ih.trans (conduct.relied relied)
      · exact ih.trans (conduct.acted ih.inv (.resolve resolves) resolves.journal)

end Known

/-! ### Reports -/

section Rules

variable {config : X402DevnetConfig} {laws : StoreLaws store} {inv : World S → Prop}
  {c : Contract (World S) Ask.Answer} {w : String} {s : World S} {α β : Type}

theorem reports_bind {p : Machine S α} {f : α → Machine S β} {P : α → World S → Prop}
    {Q : β → World S → Prop} (h : p.Meets c (Reports P) s)
    (next : ∀ a s', P a s' → (f a).Meets c (Reports Q) s') :
    (p >>= f).Meets c (Reports Q) s := by
  rw [Proc.meets_bind]
  refine h.mono fun r s' ended => ?_
  cases r with
  | ok a => exact next a s' ended
  | error e => trivial

theorem reports_return {a : α} {P : α → World S → Prop} (h : P a s) :
    (pure a : Machine S α).Meets c (Reports P) s := h

theorem reports_pure {a : α} {f : α → Machine S β} {Q : β → World S → Prop}
    (h : (f a).Meets c (Reports Q) s) : (pure a >>= f).Meets c (Reports Q) s := h

theorem reports_read {f : World S → Machine S β} {Q : β → World S → Prop}
    (h : (f s).Meets c (Reports Q) s) : (Proc.read >>= f).Meets c (Reports Q) s := h

theorem reports_mono {p : Machine S α} {good good' : α → World S → Prop}
    (h : p.Meets c (Reports good) s) (weaken : ∀ a s', good a s' → good' a s') :
    p.Meets c (Reports good') s := by
  refine h.mono fun r s' ended => ?_
  cases r with
  | ok a => exact weaken a s' ended
  | error e => trivial

/-- A throw that is caught: nothing is known where the handler starts. -/
theorem reports_catch {p : Machine S α} {h : MachineError → Machine S α}
    {good : α → World S → Prop} (body : p.Meets c (Reports good) s)
    (handler : ∀ e s', (h e).Meets c (Reports good) s') :
    (tryCatch p h).Meets c (Reports good) s := by
  rw [Proc.meets_catch]
  refine body.mono fun r s' ended => ?_
  cases r with
  | ok a => exact ended
  | error e => exact handler e s'

theorem reports_call (conduct : Conduct config laws inv c w) {q : Ask}
    {good : q.Answer → World S → Prop}
    (next : ∀ a s', Passed inv c w s s' → c.answers q a s' → good a s') :
    (Proc.call (Q := Ask) q : Machine S q.Answer).Meets c (Reports good) s :=
  Proc.meets_call.mpr ⟨conduct.calls q s, fun a s' relied => next a s' (conduct.relied relied)⟩

theorem meets_receive (calls : ∀ q s, c.calls q s) {label : Statement}
    {answer : Except DbError β} {good : β → World S → Prop}
    (next : ∀ b s', answer = .ok b → c.rely s s' → good b s') :
    (receive label answer : Machine S β).Meets c (Reports good) s := by
  unfold receive
  refine Proc.meets_bind.mpr (Proc.meets_call.mpr ⟨calls _ s, fun a s' relied _ => ?_⟩)
  cases a with
  | lost => trivial
  | through =>
      cases answer with
      | ok b => exact next b s' rfl relied
      | error e => trivial

theorem meets_statement (calls : ∀ q s, c.calls q s) {label : Statement}
    {run : World S → Except DbError (β × World S)} {good : β → World S → Prop}
    (step : ∀ s₁, c.rely s s₁ → c.answers (.dispatch label) .through s₁ → ∀ b next,
      run s₁ = .ok (b, next) → c.guar s₁ next ∧ ∀ s', c.rely next s' → good b s') :
    (statement label run).Meets c (Reports good) s := by
  unfold statement
  refine Proc.meets_bind.mpr (Proc.meets_call.mpr ⟨calls _ s, fun a s₁ relied answered => ?_⟩)
  cases a with
  | lost => trivial
  | through =>
      refine Proc.meets_bind.mpr ?_
      cases done : run s₁ with
      | error e =>
          simp only [Proc.meets_read, done]
          exact meets_receive calls (by rintro _ _ ⟨⟩)
      | ok result =>
          obtain ⟨b, next⟩ := result
          obtain ⟨guaranteed, ends⟩ := step s₁ relied answered b next done
          simp only [Proc.meets_read, done]
          refine Proc.meets_bind.mpr ⟨guaranteed, ?_⟩
          change (receive label (.ok b) : Machine S β).Meets c (Reports good) next
          refine meets_receive calls fun b' s' same relied => ?_
          cases same
          exact ends s' relied

/-- A row was written by a call that started in `s`, and nothing was done to it since but by the
others. -/
def Wrote (laws : StoreLaws store) (inv : World S → Prop) (c : Contract (World S) Ask.Answer)
    (w : String) (call : Call) (s : World S) (new : Attempt) (s' : World S) : Prop :=
  ∃ old fence s₁ s₂, Passed inv c w s s₁ ∧ laws.rows s₁.store old.operationId = some old ∧
    Writes s₁.clock fence old call new ∧ Passed inv c w s₁ s₂ ∧
    laws.rows s₂.store old.operationId = some new ∧ c.rely s₂ s'

theorem call_ok {R : Runtime} {call : Call} {s next : World S} {out : List Attempt}
    (h : (do
      let (fence, world) := s.draw R
      let (rows, store') ← store.exec call world.clock fence world.store
      return (rows, { world with store := store' }) : Except DbError _) = .ok (out, next)) :
    ∃ store', store.exec call s.clock (R.uuid s.draws) s.store = .ok (out, store') ∧
      next = { s with store := store', draws := s.draws + 1 } := by
  change (do
    let (rows, store') ← store.exec call s.clock (R.uuid s.draws) s.store
    return (rows, { s with store := store', draws := s.draws + 1 })) = _ at h
  cases executed : store.exec call s.clock (R.uuid s.draws) s.store with
  | error e =>
      rw [executed] at h
      cases h
  | ok result =>
      rw [executed] at h
      cases h
      exact ⟨result.2, rfl, rfl⟩

/-- A writing call of a worker: whatever it finds, the worker has a reason to write. -/
theorem meets_row (conduct : Conduct config laws inv c w) (R : Runtime) {call : Call}
    (single : call.Single)
    (reason : ∀ s₁, Passed inv c w s s₁ → c.answers (.dispatch (.call call)) .through s₁ →
      ∀ old fence new, laws.rows s₁.store old.operationId = some old →
        Writes s₁.clock fence old call new → Reason config laws inv c w s₁ old new) :
    (do let rows ← store.call R call; return rows.head?).Meets c
      (Reports fun row s' => Passed inv c w s s' ∧
        ∀ new, row = some new → Wrote laws inv c w call s new s') s := by
  have called : (store.call R call).Meets c (Reports fun out s' => Passed inv c w s s' ∧
      ∀ new, out.head? = some new → Wrote laws inv c w call s new s') s := by
    refine meets_statement conduct.calls fun s₁ relied answered out next done => ?_
    have before := conduct.relied relied
    obtain ⟨store', executed, rfl⟩ := call_ok done
    rcases laws.exec single executed with ⟨rfl, same⟩ | ⟨old, new, stored, writes, rfl, rows⟩
    · have act : Act config laws inv c w s₁ { s₁ with store := store', draws := s₁.draws + 1 } :=
        .resolve ⟨rfl, rfl, .inl same⟩
      have after := conduct.acted before.inv act rfl
      refine ⟨conduct.acts before.inv act, fun s' relied' => ⟨?_, fun new head => ?_⟩⟩
      · exact before.trans (after.trans (conduct.relied relied'))
      · cases head
    · have why := reason s₁ before answered old _ new stored writes
      have act : Act config laws inv c w s₁ { s₁ with store := store', draws := s₁.draws + 1 } :=
        .write ⟨stored, rows, rfl, rfl⟩ why
      have after := conduct.acted before.inv act rfl
      refine ⟨conduct.acts before.inv act, fun s' relied' => ⟨?_, fun new' head => ?_⟩⟩
      · exact before.trans (after.trans (conduct.relied relied'))
      · obtain rfl := Option.some.inj head
        refine ⟨old, _, s₁, _, before, stored, writes, after, ?_, relied'⟩
        rw [rows, Function.update_self]
  exact reports_bind called fun out s' done => done

theorem meets_get (conduct : Conduct config laws inv c w) {id : String} :
    (store.getByOperationId id).Meets c
      (Reports fun row s' => Passed inv c w s s' ∧
        ∀ a, row = some a → a.operationId = id ∧ Seen laws c a s') s := by
  refine meets_statement conduct.calls fun s₁ relied _ row next done => ?_
  cases done
  have before := conduct.relied relied
  have act : Act config laws inv c w s₁ s₁ := .resolve ⟨rfl, rfl, .inl rfl⟩
  refine ⟨conduct.acts before.inv act, fun s' relied' => ?_⟩
  have after := conduct.relied relied'
  refine ⟨before.trans after, fun a found => ?_⟩
  rw [laws.get] at found
  have same := laws.keyed found
  exact ⟨same, s₁, a, after.since, same.symm ▸ found, rfl⟩

theorem meets_find (conduct : Conduct config laws inv c w) {paymentId : String} :
    (store.findByPaymentId paymentId).Meets c (Reports fun _ s' => Passed inv c w s s') s := by
  refine meets_statement conduct.calls fun s₁ relied _ row next done => ?_
  cases done
  have before := conduct.relied relied
  have act : Act config laws inv c w s₁ s₁ := .resolve ⟨rfl, rfl, .inl rfl⟩
  exact ⟨conduct.acts before.inv act, fun s' relied' => before.trans (conduct.relied relied')⟩

theorem meets_resolve (conduct : Conduct config laws inv c w) {input : ResolveInput}
    (start : inv s) :
    (store.resolveOrCreate input).Meets c
      (Reports fun result s' => Passed inv c w s s' ∧ Seen laws c result.row s') s := by
  refine reports_mono (laws.resolve conduct.calls fun a b path resolves => ?_)
    fun result s' ended => ?_
  · exact conduct.acts (conduct.resolved start path).inv (.resolve resolves)
  · obtain ⟨s₀, path, path', stored⟩ := ended
    have before := conduct.resolved start path
    have after := conduct.resolved before.inv path'
    exact ⟨before.trans after, s₀, result.row, after.since, stored, rfl⟩

theorem meets_uuid (conduct : Conduct config laws inv c w) (R : Runtime) (start : inv s) :
    (randomUUID R : Machine S String).Meets c (Reports fun _ s' => Passed inv c w s s') s := by
  have act : Act config laws inv c w s (s.draw R).2 := .resolve ⟨rfl, rfl, .inl rfl⟩
  exact ⟨conduct.acts start act, conduct.acted start act rfl⟩

theorem meets_note (conduct : Conduct config laws inv c w) {entry : Entry} (start : inv s)
    (grounds : Grounds laws c w s entry) :
    (record entry : Machine S Unit).Meets c (Reports fun _ s' => inv s' ∧ Since c s s') s := by
  have done := conduct.acts start (.note grounds)
  exact ⟨done, (conduct.guarantees done).1, .single (.inr done)⟩

/-- An entry that is not a submission. -/
theorem meets_record (conduct : Conduct config laws inv c w) {entry : Entry} (start : inv s)
    (grounds : Grounds laws c w s entry) (quiet : ∀ id d, entry ≠ .submitted id w d) :
    (record entry : Machine S Unit).Meets c
      (Reports fun _ s' => Passed inv c w s s' ∧ entry ∈ s'.journal) s := by
  have done := conduct.acts start (.note grounds)
  refine ⟨done, ⟨.single (.inr done), (conduct.guarantees done).1, fun unsent id d mem => ?_⟩, ?_⟩
  · rcases List.mem_append.mp mem with mem | mem
    · exact unsent id d mem
    · exact quiet id d (List.mem_singleton.mp mem).symm
  · exact List.mem_append_right _ List.mem_cons_self

end Rules

end AgentReady.Settlement
