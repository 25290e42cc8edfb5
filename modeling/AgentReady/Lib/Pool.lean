import AgentReady.Lib.Coop
import Mathlib.Logic.Function.Basic
import Mathlib.Data.Option.Basic

/-!
Pools: any number of tasks that share one state.

A task is a process that may be started at any time. It is suspended at each outside call,
and resumed with some answer; between two suspensions it runs alone. In between, the
environment may change the state.

* `Pool.Step`, `Pool.Reaches`: what may happen, and where it leads.
* `Shared`: the tasks each meet a contract, and tolerate each other. `Shared.reaches` is
  soundness: the invariant holds wherever a pool can get to, every waiting task is still safe
  to resume, and every result satisfies its postcondition.
* `Pool.play?`: a script of starts and answers executed, and `Pool.reaches_of_play` for it.
-/

namespace Coop

variable {ι σ ε Q α : Type} {A : Q → Type}

/-- Where a task stands. -/
inductive Phase (σ ε : Type) {Q : Type} (A : Q → Type) (α : Type) where
  | idle
  | waiting (q : Q) (k : A q → Proc σ ε A α)
  | done (result : Except ε α)

def Outcome.phase : Outcome σ ε A α → Phase σ ε A α
  | .done r => .done r
  | .waiting q k => .waiting q k

structure Pool (ι σ ε : Type) {Q : Type} (A : Q → Type) (α : Type) where
  state : σ
  phase : ι → Phase σ ε A α

namespace Pool

/-- No task has been started. -/
def init (s : σ) : Pool ι σ ε A α := ⟨s, fun _ => .idle⟩

variable [DecidableEq ι]

/-- A task executes up to its next await. -/
def advance (pool : Pool ι σ ε A α) (i : ι) (p : Proc σ ε A α) : Pool ι σ ε A α :=
  ⟨(p.segment pool.state).1, Function.update pool.phase i (p.segment pool.state).2.phase⟩

/-- A task is started, a task is resumed with an answer, or the environment acts. -/
inductive Step (prog : ι → Proc σ ε A α) (env : σ → σ → Prop) (answers : (q : Q) → A q → σ → Prop)
    (pool : Pool ι σ ε A α) : Pool ι σ ε A α → Prop where
  | start {i : ι} (idle : pool.phase i = .idle) : Step prog env answers pool (pool.advance i (prog i))
  | resume {i : ι} {q : Q} {k : A q → Proc σ ε A α} {a : A q} (waiting : pool.phase i = .waiting q k)
      (answered : answers q a pool.state) : Step prog env answers pool (pool.advance i (k a))
  | outside {s : σ} (acts : env pool.state s) : Step prog env answers pool { pool with state := s }

/-- The pools that steps lead to. -/
def Reaches (prog : ι → Proc σ ε A α) (env : σ → σ → Prop) (answers : (q : Q) → A q → σ → Prop) :
    Pool ι σ ε A α → Pool ι σ ε A α → Prop :=
  Relation.ReflTransGen (Step prog env answers)

end Pool

/-! ### Tasks that were not started -/

section Idle

variable {prog prog' : ι → Proc σ ε A α} {env : σ → σ → Prop} {answers : (q : Q) → A q → σ → Prop}
  {pool pool' : Pool ι σ ε A α}

theorem Outcome.phase_ne_idle (outcome : Outcome σ ε A α) : outcome.phase ≠ .idle := by
  cases outcome <;> rintro ⟨⟩

variable [DecidableEq ι]

/-- A step is one of any programs that agree on the tasks that were started. -/
theorem Pool.Step.congr (step : Pool.Step prog env answers pool pool')
    (agree : ∀ i, pool'.phase i ≠ .idle → prog' i = prog i) :
    Pool.Step prog' env answers pool pool' ∧ ∀ i, pool.phase i ≠ .idle → pool'.phase i ≠ .idle := by
  have stays : ∀ (j : ι) (p : Proc σ ε A α) i, pool.phase i ≠ .idle → (pool.advance j p).phase i ≠ .idle := by
    intro j p i started
    by_cases same : i = j
    · subst same
      simpa [Pool.advance] using Outcome.phase_ne_idle _
    · simpa [Pool.advance, same] using started
  cases step with
  | @start i idle =>
      have started : (pool.advance i (prog i)).phase i ≠ .idle := by
        simpa [Pool.advance] using Outcome.phase_ne_idle _
      refine ⟨?_, stays i _⟩
      rw [← agree i started]
      exact .start idle
  | resume waiting answered => exact ⟨.resume waiting answered, stays _ _⟩
  | outside acts => exact ⟨.outside acts, fun _ => id⟩

/-- What was not started does not matter to a run. -/
theorem Pool.Reaches.congr (reaches : Pool.Reaches prog env answers pool pool')
    (agree : ∀ i, pool'.phase i ≠ .idle → prog' i = prog i) : Pool.Reaches prog' env answers pool pool' := by
  induction reaches with
  | refl => exact .refl
  | tail _ step ih =>
      obtain ⟨step, stays⟩ := step.congr agree
      exact (ih fun i started => agree i (stays i started)).tail step

end Idle

/-! ### Named tasks -/

/-- The process, with its questions under the name of who asks. -/
def Proc.tag (i : ι) : Proc σ ε A α → Proc σ ε (fun q : ι × Q => A q.2) α
  | .pure a => .pure a
  | .throw e => .throw e
  | .get k => .get fun s => (k s).tag i
  | .put s k => .put s (k.tag i)
  | .await q k => .await (i, q) fun a => (k a).tag i

/-- A contract for named tasks, as one of them sees it. -/
def Contract.named (c : Contract σ (fun q : ι × Q => A q.2)) (i : ι) : Contract σ A where
  rely := c.rely
  guar := c.guar
  calls q := c.calls (i, q)
  answers q a := c.answers (i, q) a

theorem Proc.meets_tag {c : Contract σ (fun q : ι × Q => A q.2)} {i : ι}
    {post : Except ε α → σ → Prop} {p : Proc σ ε A α} {s : σ} :
    (p.tag i).Meets c post s ↔ p.Meets (c.named i) post s := by
  induction p generalizing s with
  | pure a => exact Iff.rfl
  | throw e => exact Iff.rfl
  | get k ih => exact ih s
  | put s' k ih => exact and_congr_right fun _ => ih
  | await q k ih =>
      exact and_congr_right fun _ => forall_congr' fun a => forall_congr' fun s' =>
        forall_congr' fun _ => forall_congr' fun _ => ih a

/-- What a process does up to its next await, it guarantees. -/
theorem Proc.Meets.segment {c : Contract σ A} {post : Except ε α → σ → Prop} {p : Proc σ ε A α}
    {s : σ} (h : p.Meets c post s) : Relation.ReflTransGen c.guar s (p.segment s).1 := by
  induction p generalizing s with
  | pure a => exact .refl
  | throw e => exact .refl
  | get k ih => exact ih s h
  | put s' k ih => exact .head h.1 (ih h.2)
  | await q k => exact .refl

/-! ### Soundness -/

/-- A task is safe where it stands, in a state: one that waits may be resumed in every state
that the others may lead to. -/
def Phase.Safe (c : Contract σ A) (ready : σ → Prop) (post : Except ε α → σ → Prop) (s : σ) :
    Phase σ ε A α → Prop
  | .idle => ready s
  | .waiting q k => ∃ s₀, c.rely s₀ s ∧ c.calls q s₀ ∧
      ∀ a s', c.rely s₀ s' → c.answers q a s' → (k a).Meets c post s'
  | .done r => ∃ s₀, c.rely s₀ s ∧ post r s₀

/-- Tasks that meet their contracts from where they are ready, and tolerate each other and the
environment, under an invariant. -/
structure Shared (prog : ι → Proc σ ε A α) (env : σ → σ → Prop) (answers : (q : Q) → A q → σ → Prop)
    (inv : σ → Prop) (c : ι → Contract σ A) (ready : ι → σ → Prop)
    (post : ι → Except ε α → σ → Prop) : Prop where
  still : ∀ i s, inv s → (c i).rely s s
  chain : ∀ i s s' s'', (c i).rely s s' → (c i).rely s' s'' → (c i).rely s s''
  others : ∀ j s s', inv s → (c j).guar s s' → inv s' ∧ ∀ i, i ≠ j → (c i).rely s s'
  outside : ∀ s s', inv s → env s s' → inv s' ∧ ∀ i, (c i).rely s s'
  admitted : ∀ i q a s, inv s → answers q a s → (c i).answers q a s
  waits : ∀ i s s', ready i s → (c i).rely s s' → ready i s'
  meets : ∀ i s, inv s → ready i s → (prog i).Meets (c i) (post i) s

section Soundness

variable {prog : ι → Proc σ ε A α} {env : σ → σ → Prop} {answers : (q : Q) → A q → σ → Prop}
  {inv : σ → Prop} {c : ι → Contract σ A} {ready : ι → σ → Prop}
  {post : ι → Except ε α → σ → Prop}

theorem Phase.Safe.mono {c : Contract σ A} {ready : σ → Prop} {post : Except ε α → σ → Prop}
    {s s' : σ} {phase : Phase σ ε A α} (h : phase.Safe c ready post s)
    (chain : ∀ s s' s'', c.rely s s' → c.rely s' s'' → c.rely s s'')
    (waits : ∀ s s', ready s → c.rely s s' → ready s') (rely : c.rely s s') :
    phase.Safe c ready post s' := by
  cases phase with
  | idle => exact waits s s' h rely
  | waiting q k =>
      obtain ⟨s₀, relied, called, next⟩ := h
      exact ⟨s₀, chain _ _ _ relied rely, called, next⟩
  | done r =>
      obtain ⟨s₀, relied, ended⟩ := h
      exact ⟨s₀, chain _ _ _ relied rely, ended⟩

/-- Less is asked of where a task starts, and of how it ends. -/
theorem Phase.Safe.weaken {c : Contract σ A} {ready ready' : σ → Prop}
    {post post' : Except ε α → σ → Prop} {s : σ} {phase : Phase σ ε A α}
    (h : phase.Safe c ready post s) (starts : ready s → ready' s)
    (ends : ∀ r s, post r s → post' r s) : phase.Safe c ready' post' s := by
  cases phase with
  | idle => exact starts h
  | waiting q k =>
      obtain ⟨s₀, relied, called, next⟩ := h
      exact ⟨s₀, relied, called, fun a s' relied' answered => (next a s' relied' answered).mono ends⟩
  | done r =>
      obtain ⟨s₀, relied, ended⟩ := h
      exact ⟨s₀, relied, ends r s₀ ended⟩

/-- What a segment of a task leads to: the invariant holds, the others are not disturbed, and the
task is safe where it stopped. -/
theorem Shared.segment (shared : Shared prog env answers inv c ready post) {j : ι}
    {p : Proc σ ε A α} {s : σ} (start : inv s) (h : p.Meets (c j) (post j) s) :
    inv (p.segment s).1 ∧ (∀ i, i ≠ j → (c i).rely s (p.segment s).1) ∧
      (p.segment s).2.phase.Safe (c j) (ready j) (post j) (p.segment s).1 := by
  induction p generalizing s with
  | pure a =>
      exact ⟨start, fun i _ => shared.still i s start, s, shared.still j s start, h⟩
  | throw e =>
      exact ⟨start, fun i _ => shared.still i s start, s, shared.still j s start, h⟩
  | get k ih => exact ih s start h
  | put s' k ih =>
      obtain ⟨guaranteed, rest⟩ := h
      obtain ⟨kept, tolerated⟩ := shared.others j s s' start guaranteed
      obtain ⟨kept', tolerated', safe⟩ := ih kept rest
      refine ⟨kept', fun i other => ?_, safe⟩
      exact shared.chain i _ _ _ (tolerated i other) (tolerated' i other)
  | await q k _ =>
      exact ⟨start, fun i _ => shared.still i s start, s, shared.still j s start, h.1, h.2⟩

variable [DecidableEq ι] {pool pool' : Pool ι σ ε A α}

/-- Every task is safe where it stands. -/
def Pool.Safe (c : ι → Contract σ A) (ready : ι → σ → Prop) (post : ι → Except ε α → σ → Prop)
    (pool : Pool ι σ ε A α) : Prop :=
  ∀ i, (pool.phase i).Safe (c i) (ready i) (post i) pool.state

theorem Shared.advance (shared : Shared prog env answers inv c ready post) {j : ι}
    {p : Proc σ ε A α} (start : inv pool.state) (safe : pool.Safe c ready post)
    (h : p.Meets (c j) (post j) pool.state) :
    inv (pool.advance j p).state ∧ (pool.advance j p).Safe c ready post := by
  obtain ⟨kept, tolerated, stopped⟩ := shared.segment start h
  refine ⟨kept, fun i => ?_⟩
  by_cases same : i = j
  · subst same
    simpa [Pool.advance] using stopped
  · have still := (safe i).mono (shared.chain i) (shared.waits i) (tolerated i same)
    simpa [Pool.advance, same] using still

theorem Shared.step (shared : Shared prog env answers inv c ready post)
    (step : Pool.Step prog env answers pool pool') (start : inv pool.state)
    (safe : pool.Safe c ready post) : inv pool'.state ∧ pool'.Safe c ready post := by
  cases step with
  | @start i idle =>
      have ready_ := safe i
      rw [idle] at ready_
      exact shared.advance start safe (shared.meets i _ start ready_)
  | @resume i q k a waiting answered =>
      have resumes := safe i
      rw [waiting] at resumes
      obtain ⟨s₀, relied, -, next⟩ := resumes
      exact shared.advance start safe (next a _ relied (shared.admitted i q a _ start answered))
  | outside acts =>
      obtain ⟨kept, tolerated⟩ := shared.outside _ _ start acts
      exact ⟨kept, fun i => (safe i).mono (shared.chain i) (shared.waits i) (tolerated i)⟩

/-- Soundness from any pool whose tasks are safe where they stand. -/
theorem Shared.reaches_from (shared : Shared prog env answers inv c ready post)
    (start : inv pool.state) (safe : pool.Safe c ready post)
    (reaches : Pool.Reaches prog env answers pool pool') :
    inv pool'.state ∧ pool'.Safe c ready post := by
  induction reaches with
  | refl => exact ⟨start, safe⟩
  | tail _ step ih => exact shared.step step ih.1 ih.2

/-- Soundness: wherever a pool of fresh tasks gets to, the invariant holds and every task is
safe where it stands. -/
theorem Shared.reaches (shared : Shared prog env answers inv c ready post) {s : σ} (start : inv s)
    (fresh : ∀ i, ready i s) (reaches : Pool.Reaches prog env answers (.init s) pool) :
    inv pool.state ∧ pool.Safe c ready post := by
  have safe : (Pool.init s : Pool ι σ ε A α).Safe c ready post := fresh
  exact shared.reaches_from start safe reaches

/-- What every write and every act outside keeps, every run keeps. -/
theorem Shared.keeps (shared : Shared prog env answers inv c ready post) {keeps : σ → σ → Prop}
    (refl : ∀ s, keeps s s) (trans : ∀ s s' s'', keeps s s' → keeps s' s'' → keeps s s'')
    (writes : ∀ j s s', (c j).guar s s' → keeps s s') (acts : ∀ s s', inv s → env s s' → keeps s s')
    (start : inv pool.state) (safe : pool.Safe c ready post)
    (reaches : Pool.Reaches prog env answers pool pool') : keeps pool.state pool'.state := by
  have segment : ∀ {j : ι} {p : Proc σ ε A α} {s : σ}, p.Meets (c j) (post j) s →
      keeps s (p.segment s).1 := by
    intro j p s meets
    have path := meets.segment
    generalize (p.segment s).1 = s' at path
    induction path with
    | refl => exact refl s
    | tail _ write ih => exact trans _ _ _ ih (writes j _ _ write)
  induction reaches with
  | refl => exact refl _
  | @tail before after past step ih =>
      obtain ⟨kept, safe'⟩ := shared.reaches_from start safe past
      refine trans _ _ _ ih ?_
      cases step with
      | @start i idle =>
          have ready_ := safe' i
          rw [idle] at ready_
          exact segment (shared.meets i _ kept ready_)
      | @resume i q k a waiting answered =>
          have resumes := safe' i
          rw [waiting] at resumes
          obtain ⟨s₀, relied, -, next⟩ := resumes
          exact segment (next a _ relied (shared.admitted i q a _ kept answered))
      | outside act => exact acts _ _ kept act

/-- Every result was returned where its postcondition holds. -/
theorem Shared.returned (shared : Shared prog env answers inv c ready post) {s : σ} (start : inv s)
    (fresh : ∀ i, ready i s) (reaches : Pool.Reaches prog env answers (.init s) pool) {i : ι}
    {r : Except ε α} (done : pool.phase i = .done r) :
    ∃ s₀, (c i).rely s₀ pool.state ∧ post i r s₀ := by
  have safe := (shared.reaches start fresh reaches).2 i
  rwa [done] at safe

/-- Wherever a pool gets to, what a task does next it guarantees. -/
theorem Shared.guaranteed (shared : Shared prog env answers inv c ready post) {s : σ} (start : inv s)
    (fresh : ∀ i, ready i s) (reaches : Pool.Reaches prog env answers (.init s) pool)
    (step : Pool.Step prog (fun _ _ => False) answers pool pool') :
    ∃ i, Relation.ReflTransGen (c i).guar pool.state pool'.state := by
  obtain ⟨kept, safe⟩ := shared.reaches start fresh reaches
  cases step with
  | @start i idle =>
      have ready_ := safe i
      rw [idle] at ready_
      exact ⟨i, (shared.meets i _ kept ready_).segment⟩
  | @resume i q k a waiting answered =>
      have resumes := safe i
      rw [waiting] at resumes
      obtain ⟨s₀, relied, -, next⟩ := resumes
      exact ⟨i, (next a _ relied (shared.admitted i q a _ kept answered)).segment⟩
  | outside acts => exact acts.elim

end Soundness

/-! ### Scripts -/

/-- A move of a script: a task is started, a task is resumed, the environment acts. Who resumes a
task need not have an answer to every call. -/
inductive Move (ι σ : Type) {Q : Type} (A : Q → Type) where
  | start (i : ι)
  | resume (i : ι) (answer : (q : Q) → Option (A q))
  | outside (act : σ → σ)

namespace Pool

variable [DecidableEq ι] (prog : ι → Proc σ ε A α) (answers : (q : Q) → A q → σ → Prop)
  [∀ q a s, Decidable (answers q a s)]

/-- One move, where it is possible and its answer is allowed. -/
def move? (pool : Pool ι σ ε A α) : Move ι σ A → Option (Pool ι σ ε A α)
  | .start i =>
      match pool.phase i with
      | .idle => some (pool.advance i (prog i))
      | _ => none
  | .resume i answer =>
      match pool.phase i with
      | .waiting q k =>
          (answer q).bind fun a =>
            if answers q a pool.state then some (pool.advance i (k a)) else none
      | _ => none
  | .outside act => some { pool with state := act pool.state }

/-- A script played from a pool. -/
def play? (pool : Pool ι σ ε A α) (script : List (Move ι σ A)) : Option (Pool ι σ ε A α) :=
  script.foldlM (move? prog answers) pool

variable {prog answers} {env : σ → σ → Prop} {pool pool' : Pool ι σ ε A α}

theorem step_of_move {move : Move ι σ A} (h : move? prog answers pool move = some pool')
    (acts : ∀ act, move = .outside act → ∀ s, env s (act s)) :
    Step prog env answers pool pool' := by
  cases move with
  | start i =>
      simp only [move?] at h
      split at h
      · rename_i idle
        cases h
        exact .start idle
      · cases h
  | resume i answer =>
      simp only [move?] at h
      split at h
      · rename_i q k waiting
        obtain ⟨a, -, h⟩ := Option.bind_eq_some_iff.mp h
        split at h
        · rename_i answered
          cases h
          exact .resume waiting answered
        · cases h
      · cases h
  | outside act =>
      cases h
      exact .outside (acts act rfl _)

theorem reaches_of_play {script : List (Move ι σ A)} (h : play? prog answers pool script = some pool')
    (acts : ∀ act, .outside act ∈ script → ∀ s, env s (act s)) :
    Reaches prog env answers pool pool' := by
  induction script generalizing pool with
  | nil =>
      cases h
      exact .refl
  | cons move rest ih =>
      rw [play?, List.foldlM_cons] at h
      obtain ⟨next, first, others⟩ := Option.bind_eq_some_iff.mp h
      have step := step_of_move first fun act same => acts act (same ▸ List.mem_cons_self)
      exact .head step (ih others fun act mem => acts act (List.mem_cons_of_mem _ mem))

end Pool

end Coop
