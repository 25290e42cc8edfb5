import AgentReady.Lib.Pool
import AgentReady.Settlement.Accepting
import AgentReady.Settlement.Stores

/-!
Pools of calls of the paid resource.

Any number of calls of `accept` and `stagePreparedAttempt` run at the same time over one store,
with any answers and any interleaving at their awaits; in between, the world outside acts.

* `Tolerance`: an invariant of the world that every act of a worker keeps.
* `Tolerance.shared`: what every act keeps, every pool keeps.
-/

namespace AgentReady.Settlement

open Coop

variable {S : Type} {store : SettlementStore S}

/-- A call of the resource. -/
inductive Task where
  | accept (call : DevnetMachineResource.AcceptCall)
  | stage (input : DevnetMachineResource.StageInput)

inductive Returned where
  | responded (response : Response)
  | staged (operationId requestDigest : String)

namespace Task

def run (self : DevnetMachineResource S) : Task → Machine S Returned
  | accept call => do return .responded (← self.accept call)
  | stage input => do
      let staged ← self.stagePreparedAttempt input
      return .staged staged.1 staged.2

/-- Who a call settles as; a call that only stages has no name. -/
def worker : Task → String
  | accept call => call.workerId
  | stage _ => ""

/-- The UUIDs that the calls draw for their workers are distinct. -/
def Distinct {ι : Type} (tasks : ι → Task) : Prop :=
  ∀ i j, (tasks i).worker = (tasks j).worker → (tasks i).worker ≠ "" → i = j

/-- The result of a call: an answer with status 200 reports a settled attempt. -/
def Settles {self : DevnetMachineResource S} (laws : StoreLaws self.store)
    (c : Contract (World S) Ask.Answer) : Task → Returned → World S → Prop
  | accept call, .responded response, s =>
      DevnetMachineResource.Reported laws c call.requestDigest response s
  | _, _, _ => True

end Task

/-- A contract from what every step keeps, and what the others keep for a worker. -/
def contractOf (inv : World S → Prop) (keeps : World S → World S → Prop)
    (spares : String → World S → World S → Prop) (allowed : (q : Ask) → q.Answer → World S → Prop)
    (w : String) : Contract (World S) Ask.Answer where
  rely s s' := inv s ∧ inv s' ∧ s.journal ⊆ s'.journal ∧ keeps s s' ∧
    (Unsent w s → Unsent w s') ∧ spares w s s'
  guar s s' := inv s ∧ inv s' ∧ s.journal ⊆ s'.journal ∧ keeps s s' ∧
    ∀ w', (w' = w → w = "") → (Unsent w' s → Unsent w' s') ∧ spares w' s s'
  calls _ _ := True
  answers := allowed

/-- What every step keeps is kept over time. -/
theorem Since.keeps {inv : World S → Prop} {keeps : World S → World S → Prop}
    {spares : String → World S → World S → Prop} {allowed : (q : Ask) → q.Answer → World S → Prop}
    {w : String} {s s' : World S} (since : Since (contractOf inv keeps spares allowed w) s s')
    (refl : ∀ s, keeps s s) (trans : ∀ s s' s'', keeps s s' → keeps s' s'' → keeps s s'') :
    keeps s s' := by
  induction since with
  | refl => exact refl _
  | tail _ step ih =>
      rcases step with relied | done
      · exact trans _ _ _ ih relied.2.2.2.1
      · exact trans _ _ _ ih done.2.2.2.1

/-- The invariant held at every time. -/
theorem Since.inv {inv : World S → Prop} {keeps : World S → World S → Prop}
    {spares : String → World S → World S → Prop} {allowed : (q : Ask) → q.Answer → World S → Prop}
    {w : String} {s s' : World S} (since : Since (contractOf inv keeps spares allowed w) s s')
    (now : inv s') : inv s := by
  cases since using Relation.ReflTransGen.head_induction_on with
  | refl => exact now
  | head step => exact step.elim (·.1) (·.1)

/-- The journal only grows. -/
theorem Since.journal {inv : World S → Prop} {keeps : World S → World S → Prop}
    {spares : String → World S → World S → Prop} {allowed : (q : Ask) → q.Answer → World S → Prop}
    {w : String} {s s' : World S} (since : Since (contractOf inv keeps spares allowed w) s s') :
    s.journal ⊆ s'.journal := by
  induction since with
  | refl => exact fun _ mem => mem
  | tail _ step ih =>
      intro entry mem
      exact step.elim (fun relied => relied.2.2.1 (ih mem)) fun done => done.2.2.1 (ih mem)

/-- What workers may do to each other: under an invariant, every act of a worker, and everything
that happens outside, keeps the invariant, a relation of the worlds before and after, and what
another worker holds. -/
structure Tolerance (config : X402DevnetConfig) (laws : StoreLaws store) where
  inv : World S → Prop
  keeps : World S → World S → Prop
  spares : String → World S → World S → Prop
  allowed : (q : Ask) → q.Answer → World S → Prop
  outside : World S → World S → Prop
  keeps_refl : ∀ s, keeps s s
  keeps_trans : ∀ s s' s'', keeps s s' → keeps s' s'' → keeps s s''
  spares_refl : ∀ w s, spares w s s
  spares_trans : ∀ w s s' s'', inv s' → spares w s s' → spares w s' s'' → spares w s s''
  apart : ∀ s s', inv s → outside s s' → s'.journal = s.journal ∧ inv s' ∧ keeps s s' ∧
    ∀ w, spares w s s'
  acts : ∀ w s s', inv s → Act config laws inv (contractOf inv keeps spares allowed w) w s s' →
    inv s' ∧ keeps s s' ∧ ∀ w', (w' = w → w = "") → spares w' s s'

/-- Every answer may come at every time. -/
def Unrestricted : (q : Ask) → q.Answer → World S → Prop := fun _ _ _ => True

instance (q : Ask) (a : q.Answer) (s : World S) : Decidable (Unrestricted q a s) :=
  inferInstanceAs (Decidable True)

namespace Tolerance

variable {config : X402DevnetConfig} {laws : StoreLaws store} {inv : World S → Prop}
  {c : Contract (World S) Ask.Answer} {w w' : String} {s s' : World S}

/-- The contract of a worker. -/
def contract (t : Tolerance config laws) (w : String) : Contract (World S) Ask.Answer :=
  contractOf t.inv t.keeps t.spares t.allowed w

theorem journal_of_act (act : Act config laws inv c w s s') : s.journal ⊆ s'.journal := by
  cases act with
  | resolve resolves => rw [resolves.journal]; exact fun _ => id
  | write rewrites => rw [rewrites.journal]; exact fun _ => id
  | note => exact fun _ mem => List.mem_append_left _ mem

/-- Who acts under one name starts no settlement under another. -/
theorem unsent_of_act (act : Act config laws inv c w s s') (other : w' = w → w = "")
    (unsent : Unsent w' s) : Unsent w' s' := by
  intro id d mem
  cases act with
  | resolve resolves => exact unsent id d (resolves.journal ▸ mem)
  | write rewrites => exact unsent id d (rewrites.journal ▸ mem)
  | note grounds =>
      rcases List.mem_append.mp mem with mem | mem
      · exact unsent id d mem
      · obtain rfl := List.mem_singleton.mp mem
        cases grounds with
        | submitted worker => exact worker (other rfl)

theorem conduct (t : Tolerance config laws) (w : String) :
    Conduct config laws t.inv (t.contract w) w where
  calls _ _ := trivial
  relies relied := ⟨relied.2.1, relied.2.2.1⟩
  guarantees done := ⟨done.2.1, done.2.2.1⟩
  unsent relied := relied.2.2.2.2.1
  acts start act := by
    obtain ⟨kept, keeps, spares⟩ := t.acts w _ _ start act
    exact ⟨start, kept, journal_of_act act, keeps,
      fun w' other => ⟨unsent_of_act act other, spares w' other⟩⟩

end Tolerance

section Shared

variable {ι : Type} {tasks : ι → Task} {self : DevnetMachineResource S}
  {laws : StoreLaws self.store}

/-- The calls tolerate each other. -/
theorem Tolerance.shared (t : Tolerance self.config laws) (distinct : Task.Distinct tasks) :
    Shared (fun i => (tasks i).run self) t.outside t.allowed t.inv
      (fun i => t.contract (tasks i).worker) (fun i s => Unsent (tasks i).worker s)
      (fun i => Reports ((tasks i).Settles laws (t.contract (tasks i).worker))) where
  still i s start := ⟨start, start, fun _ => id, t.keeps_refl s, id, t.spares_refl _ s⟩
  chain i s s' s'' h h' := by
    obtain ⟨start, kept, journal, keeps, unsent, spares⟩ := h
    obtain ⟨-, kept', journal', keeps', unsent', spares'⟩ := h'
    exact ⟨start, kept', fun e mem => journal' (journal mem), t.keeps_trans _ _ _ keeps keeps',
      fun before => unsent' (unsent before), t.spares_trans _ _ _ _ kept spares spares'⟩
  others j s s' start done := by
    obtain ⟨-, kept, journal, keeps, rest⟩ := done
    refine ⟨kept, fun i other => ?_⟩
    have apart : (tasks i).worker = (tasks j).worker → (tasks j).worker = "" := by
      intro same
      by_contra named
      exact other (distinct i j same (same ▸ named))
    obtain ⟨unsent, spares⟩ := rest _ apart
    exact ⟨start, kept, journal, keeps, unsent, spares⟩
  outside s s' start acts := by
    obtain ⟨journal, kept, keeps, spares⟩ := t.apart s s' start acts
    refine ⟨kept, fun i => ⟨start, kept, journal ▸ fun _ => id, keeps, fun unsent id d mem => ?_, spares _⟩⟩
    rw [journal] at mem
    exact unsent id d mem
  admitted _ _ _ _ _ allowed := allowed
  waits i s s' unsent relied := relied.2.2.2.2.1 unsent
  meets i s start unsent := by
    cases task : tasks i with
    | accept call =>
        rw [task] at unsent
        exact reports_bind (DevnetMachineResource.accept_meets (t.conduct _) unsent)
          fun response s' reported => reports_return reported
    | stage input =>
        exact reports_bind (DevnetMachineResource.stage_meets (t.conduct _) start)
          fun staged s' _ => reports_return trivial

end Shared

/-! ### Row by row -/

/-- Rows that were stored stay stored, each in a relation to what it was. -/
def Rowwise (P : Attempt → Attempt → Prop) (rows rows' : String → Option Attempt) : Prop :=
  ∀ id a, rows id = some a → ∃ a', rows' id = some a' ∧ P a a'

/-- A world before anything was asked. -/
def World.start (store : S) (clock date : Int) (draws : Nat) : World S :=
  { store, clock, date, draws }

section Rows

variable {config : X402DevnetConfig} {laws : StoreLaws store} {inv : World S → Prop}
  {c : Contract (World S) Ask.Answer} {w : String} {s s' : World S}

theorem Rowwise.refl {P : Attempt → Attempt → Prop} (refl : ∀ a, P a a)
    (rows : String → Option Attempt) : Rowwise P rows rows :=
  fun _ a stored => ⟨a, stored, refl a⟩

theorem Rowwise.trans {P : Attempt → Attempt → Prop} (trans : ∀ a b d, P a b → P b d → P a d)
    {rows rows' rows'' : String → Option Attempt} (h : Rowwise P rows rows')
    (h' : Rowwise P rows' rows'') : Rowwise P rows rows'' := by
  intro id a stored
  obtain ⟨b, stored', first⟩ := h id a stored
  obtain ⟨d, stored'', second⟩ := h' id b stored'
  exact ⟨d, stored'', trans a b d first second⟩

/-- An act relates rows as the writes of a worker do. -/
theorem Act.rowwise {P : Attempt → Attempt → Prop} (refl : ∀ a, P a a)
    (write : ∀ old new, laws.rows s.store old.operationId = some old →
      Reason config laws inv c w s old new → P old new)
    (act : Act config laws inv c w s s') : Rowwise P (laws.rows s.store) (laws.rows s'.store) := by
  intro id a stored
  cases act with
  | resolve resolves =>
      rcases resolves.rows with same | ⟨fresh, creates⟩
      · exact ⟨a, same ▸ stored, refl a⟩
      · have other : id ≠ fresh.operationId := by
          rintro rfl
          cases creates.free.symm.trans stored
        exact ⟨a, by rw [creates.created, Function.update_of_ne other, stored], refl a⟩
  | @write _ old new rewrites reason =>
      by_cases here : id = old.operationId
      · subst here
        obtain rfl := Option.some.inj (rewrites.stored.symm.trans stored)
        exact ⟨new, by rw [rewrites.rows, Function.update_self], write old new stored reason⟩
      · exact ⟨a, by rw [rewrites.rows, Function.update_of_ne here, stored], refl a⟩
  | note => exact ⟨a, stored, refl a⟩

/-- A property of every row is kept, where the writes of a worker keep it. -/
theorem Act.every {P Q : Attempt → Prop} (start : ∀ id a, laws.rows s.store id = some a → P a)
    (fresh : ∀ a, Clean a → a.payloadDigest = none → a.payer = none → Q a)
    (same : ∀ a, P a → Q a)
    (write : ∀ old new, laws.rows s.store old.operationId = some old → P old →
      Reason config laws inv c w s old new → Q new)
    (act : Act config laws inv c w s s') (id : String) (a : Attempt)
    (stored : laws.rows s'.store id = some a) : Q a := by
  cases act with
  | resolve resolves =>
      rcases resolves.rows with unchanged | ⟨created, creates⟩
      · exact same a (start id a (unchanged ▸ stored))
      · rw [creates.created, Function.update_apply] at stored
        split at stored
        · obtain rfl := Option.some.inj stored
          exact fresh _ creates.clean creates.undigested creates.unpaid
        · exact same a (start id a stored)
  | @write _ old new rewrites reason =>
      rw [rewrites.rows, Function.update_apply] at stored
      split at stored
      · obtain rfl := Option.some.inj stored
        exact write old _ rewrites.stored (start _ _ rewrites.stored) reason
      · exact same a (start id a stored)
  | note => exact same a (start id a stored)

end Rows

/-! ### What happens outside -/

/-- The row, held or opened otherwise, or released: what it is for and what settles it stays. -/
def Attempt.Reheld (a a' : Attempt) : Prop :=
  a' = { a with
    status := a'.status, leaseOwner := a'.leaseOwner, leaseExpiresAt := a'.leaseExpiresAt
    fenceToken := a'.fenceToken, releasedToApproval := a'.releasedToApproval
    releasedBy := a'.releasedBy, releaseEvidenceJson := a'.releaseEvidenceJson
    updatedAt := a'.updatedAt } ∧ (a'.status = .settled ↔ a.status = .settled)

/-- What happens outside: the clocks move, and attempts are held, opened or released. -/
def Outside {S : Type} (rows : S → String → Option Attempt) (s s' : World S) : Prop :=
  s'.journal = s.journal ∧ ∀ id, (rows s.store id = none ∧ rows s'.store id = none) ∨
    ∃ a a', rows s.store id = some a ∧ rows s'.store id = some a' ∧ a.Reheld a'

section Outside

variable {s s' : World S}

theorem Outside.rowwise {P : Attempt → Attempt → Prop} (reheld : ∀ a a', a.Reheld a' → P a a')
    {rows : S → String → Option Attempt} (h : Outside rows s s') :
    Rowwise P (rows s.store) (rows s'.store) := by
  intro id a stored
  rcases h.2 id with ⟨free, -⟩ | ⟨b, b', stored', after, kept⟩
  · cases free.symm.trans stored
  · obtain rfl := Option.some.inj (stored'.symm.trans stored)
    exact ⟨b', after, reheld b b' kept⟩

theorem Outside.every {P : Attempt → Prop} (reheld : ∀ a a', a.Reheld a' → P a → P a')
    {rows : S → String → Option Attempt} (h : Outside rows s s')
    (start : ∀ id a, rows s.store id = some a → P a) (id : String) (a : Attempt)
    (stored : rows s'.store id = some a) : P a := by
  rcases h.2 id with ⟨-, free⟩ | ⟨b, b', before, after, kept⟩
  · cases free.symm.trans stored
  · obtain rfl := Option.some.inj (after.symm.trans stored)
    exact reheld b b' kept (start id b before)

end Outside

/-! ### Scripts -/

namespace Sample

/-- What the facilitator and the node answer: the payer that is confirmed, the outcome of a
settlement, and the transaction that is found. -/
structure Answering where
  payer : Option String := some "payer_key"
  settles : Option SettleAnswer := none
  finalized : Option Json := none

/-- The store answers, and the payment is valid. -/
def Answering.answers (answering : Answering) : (q : Ask) → Option q.Answer
  | .dispatch _ | .deliver _ => some .through
  | .ensureInitialized => some (.ok ())
  | .extractTransactionBlockhash _ => some none
  | .verifyPayment .. => some (.ok { isValid := true, payer := answering.payer })
  | .settlePayment .. => answering.settles
  | .getTransaction _ => some answering.finalized
  | _ => none

/-- A task goes on for some awaits. -/
def goes {ι : Type} (answering : Answering) (i : ι) (awaits : Nat) :
    List (Move ι (World MemoryStore) Ask.Answer) :=
  List.replicate awaits (.resume i answering.answers)

/-- A settlement that succeeded. -/
def settled (payer amount : Option String) : SettleAnswer :=
  .answered { success := true, payer, amount, transaction := some "transaction" }

/-- A finalized transaction that leaves the memo, with a transfer of an amount by a payer. -/
def finalized (amount payer : String) : Json :=
  .obj [("result", .obj [
    ("meta", .obj [("err", .null),
      ("postTokenBalances", .arr [.obj [("accountIndex", .num 1), ("mint", .str "usdc_mint"),
        ("owner", .str "payee_key")]]),
      ("preTokenBalances", .arr [.obj [("accountIndex", .num 0), ("mint", .str "usdc_mint"),
        ("owner", .str payer)]])]),
    ("transaction", .obj [("message", .obj [
      ("accountKeys", .arr [.str "payer_tokens", .str "payee_tokens"]),
      ("instructions", .arr [
        .obj [("program", .str "spl-memo"), ("programId", .str memoProgramId),
          ("parsed", .str (memoForEnvelope requestDigest))],
        .obj [("program", .str "spl-token"),
          ("programId", .str "TokenkegQfeZyiNwAJbNbGKPFXCWuBvf9Ss623VQ5DA"),
          ("parsed", .obj [("type", .str "transferChecked"), ("info", .obj [
            ("authority", .str payer), ("source", .str "payer_tokens"),
            ("destination", .str "payee_tokens"), ("mint", .str "usdc_mint"),
            ("tokenAmount", .obj [("amount", .str amount)])])])]])])])])]

/-- The status of the response that a call returned. -/
def status? : Phase (World MemoryStore) MachineError Ask.Answer Returned → Option Nat
  | .done (.ok (.responded response)) => some response.status
  | _ => none

end Sample

end AgentReady.Settlement
