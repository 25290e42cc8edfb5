import AgentReady.Lib.Pool

/-!
What the single writes of a process do, whatever happens while it is suspended.

* `Writing`: every write of the process is within a relation, from any state. It is closed under sequencing.
* `Proc.writes`: the writes of a process up to its next await.
* `Pool.Watched`: what may happen in a pool, where every write of a task is allowed.
* `Pool.Watched.invariant`: what every allowed write keeps, every such run keeps.
* `Pool.watched_run`: a task that nobody disturbs, from its start to its end.
-/

namespace Coop

variable {ι σ ε Q α β : Type} {A : Q → Type}

/-- A contract that says of each write what it does, and nothing else. -/
def Contract.writing (guar : σ → σ → Prop) : Contract σ A :=
  ⟨fun _ _ => True, guar, fun _ _ => True, fun _ _ _ => True⟩

/-- Every write of the process is within the relation. -/
def Writing (guar : σ → σ → Prop) (p : Proc σ ε A α) : Prop :=
  ∀ s, p.Meets (.writing guar) (fun _ _ => True) s

namespace Writing

variable {guar : σ → σ → Prop}

theorem pure (a : α) : Writing guar (Pure.pure a : Proc σ ε A α) := fun _ => trivial

theorem throw (e : ε) : Writing guar (MonadExcept.throw e : Proc σ ε A α) := fun _ => trivial

theorem read : Writing guar (Proc.read : Proc σ ε A σ) := fun _ => trivial

theorem modify {f : σ → σ} (step : ∀ s, guar s (f s)) : Writing guar (Proc.modify f : Proc σ ε A Unit) :=
  fun s => ⟨step s, trivial⟩

theorem call (q : Q) : Writing guar (Proc.call q : Proc σ ε A (A q)) := fun _ => ⟨trivial, fun _ _ _ _ => trivial⟩

/-- The rest may go on from where the first part leads. -/
theorem meets_bind {p : Proc σ ε A α} {f : α → Proc σ ε A β} {s : σ} {leads : α → σ → Prop}
    (hp : p.Meets (.writing guar) (fun r s' => ∀ a, r = .ok a → leads a s') s)
    (hf : ∀ a s', leads a s' → (f a).Meets (.writing guar) (fun _ _ => True) s') :
    (p >>= f).Meets (.writing guar) (fun _ _ => True) s := by
  refine Proc.meets_bind.mpr (hp.mono fun r s' ends => ?_)
  cases r with
  | ok a => exact hf a s' (ends a rfl)
  | error e => trivial

theorem bind {p : Proc σ ε A α} {f : α → Proc σ ε A β} (hp : Writing guar p) (hf : ∀ a, Writing guar (f a)) :
    Writing guar (p >>= f) := by
  intro s
  refine Proc.meets_bind.mpr ((hp s).mono fun r s' _ => ?_)
  cases r with
  | ok a => exact hf a s'
  | error e => trivial

end Writing

/-! ### Pools -/

namespace Proc

/-- The writes up to the next await, each from a state to a state. -/
def writes : Proc σ ε A α → σ → List (σ × σ)
  | .pure _, _ | .throw _, _ | .await _ _, _ => []
  | .get k, s => (k s).writes s
  | .put s' k, s => (s, s') :: k.writes s'

variable {guar : σ → σ → Prop} {post : Except ε α → σ → Prop} {p : Proc σ ε A α} {s : σ}

theorem Meets.writes (h : p.Meets (.writing guar) post s) : ∀ w ∈ p.writes s, guar w.1 w.2 := by
  induction p generalizing s with
  | pure a => exact fun _ mem => absurd mem List.not_mem_nil
  | throw e => exact fun _ mem => absurd mem List.not_mem_nil
  | await q k => exact fun _ mem => absurd mem List.not_mem_nil
  | get k ih => exact ih s h
  | put s' k ih =>
      intro w mem
      rcases List.mem_cons.mp mem with rfl | mem
      · exact h.1
      · exact ih h.2 w mem

/-- What every write keeps, a segment keeps, up to each of its writes. -/
theorem segment_invariant {inv : σ → Prop} (start : inv s) (kept : ∀ w ∈ p.writes s, inv w.1 → inv w.2) :
    inv (p.segment s).1 ∧ ∀ w ∈ p.writes s, inv w.1 := by
  induction p generalizing s with
  | pure a => exact ⟨start, fun _ mem => absurd mem List.not_mem_nil⟩
  | throw e => exact ⟨start, fun _ mem => absurd mem List.not_mem_nil⟩
  | await q k => exact ⟨start, fun _ mem => absurd mem List.not_mem_nil⟩
  | get k ih => exact ih s start kept
  | put s' k ih =>
      obtain ⟨after, each⟩ := ih (kept _ (.head _) start) fun w mem => kept w (.tail _ mem)
      refine ⟨after, fun w mem => ?_⟩
      rcases List.mem_cons.mp mem with rfl | mem
      · exact start
      · exact each w mem

/-- A process that waits writes within the relation, whatever it is resumed with. -/
theorem Meets.resumes (h : p.Meets (.writing guar) (fun _ _ => True) s) {q : Q} {k : A q → Proc σ ε A α}
    (waits : (p.segment s).2 = .waiting q k) (a : A q) : Writing guar (k a) := by
  induction p generalizing s with
  | pure a => cases waits
  | throw e => cases waits
  | get k ih => exact ih s h waits
  | put s' k ih => exact ih h.2 waits
  | await q' k' =>
      cases waits
      exact fun s' => h.2 a s' trivial trivial

end Proc

section Pools

variable [DecidableEq ι] {prog : ι → Proc σ ε A α} {env : σ → σ → Prop} {ok : ι → σ → σ → Prop}
  {guar : ι → σ → σ → Prop} {pool pool' : Pool ι σ ε A α}

/-- The process that a task is in, when it acts next. -/
inductive Pool.Next (prog : ι → Proc σ ε A α) (pool : Pool ι σ ε A α) (i : ι) : Proc σ ε A α → Prop where
  | start (idle : pool.phase i = .idle) : Next prog pool i (prog i)
  | resume {q : Q} {k : A q → Proc σ ε A α} (waiting : pool.phase i = .waiting q k) (a : A q) :
      Next prog pool i (k a)

/-- A task acts up to its next await, each of its writes being allowed, or the environment acts. -/
inductive Pool.Watched (prog : ι → Proc σ ε A α) (env : σ → σ → Prop) (ok : ι → σ → σ → Prop)
    (pool : Pool ι σ ε A α) : Pool ι σ ε A α → Prop where
  | turn {i : ι} {p : Proc σ ε A α} (next : Pool.Next prog pool i p)
      (allowed : ∀ w ∈ p.writes pool.state, ok i w.1 w.2) : Watched prog env ok pool (pool.advance i p)
  | outside {s : σ} (acts : env pool.state s) : Watched prog env ok pool { pool with state := s }

/-- Every task that waits writes within its relation. -/
def Pool.Writing (guar : ι → σ → σ → Prop) (pool : Pool ι σ ε A α) : Prop :=
  ∀ i q k, pool.phase i = .waiting q k → ∀ a, Coop.Writing (guar i) (k a)

omit [DecidableEq ι] in
theorem Pool.Next.writing (each : ∀ i, Coop.Writing (guar i) (prog i)) (waits : pool.Writing guar) {i : ι}
    {p : Proc σ ε A α} (next : Pool.Next prog pool i p) : Coop.Writing (guar i) p := by
  cases next with
  | start idle => exact each i
  | resume waiting a => exact waits i _ _ waiting a

theorem Pool.Writing.advance (waits : pool.Writing guar) {i : ι} {p : Proc σ ε A α} (h : Coop.Writing (guar i) p) :
    (pool.advance i p).Writing guar := by
  intro j q k at_ a
  by_cases same : j = i
  · subst same
    have stops : (p.segment pool.state).2.phase = .waiting q k := by simpa [Pool.advance] using at_
    cases ended : (p.segment pool.state).2 with
    | done r =>
        rw [ended] at stops
        cases stops
    | waiting q' k' =>
        rw [ended] at stops
        cases stops
        exact (h pool.state).resumes ended a
  · exact waits j q k (by simpa [Pool.advance, same] using at_) a

/-- What every allowed write keeps, and every act outside, every run keeps. -/
theorem Pool.Watched.invariant {inv : σ → Prop} (each : ∀ i, Coop.Writing (guar i) (prog i))
    (kept : ∀ i s s', inv s → guar i s s' → ok i s s' → inv s') (outside : ∀ s s', inv s → env s s' → inv s')
    {s : σ} (start : inv s) (reaches : Relation.ReflTransGen (Pool.Watched prog env ok) (.init s) pool) :
    inv pool.state ∧ pool.Writing guar := by
  induction reaches with
  | refl => exact ⟨start, fun _ _ _ idle => by cases idle⟩
  | tail _ step ih =>
      obtain ⟨holds, waits⟩ := ih
      cases step with
      | @turn i p next allowed =>
          have writing := next.writing each waits
          refine ⟨(Proc.segment_invariant holds fun w mem before => ?_).1, waits.advance writing⟩
          exact kept i _ _ before ((writing _).writes w mem) (allowed w mem)
      | outside acts => exact ⟨outside _ _ holds acts, waits⟩

/-! ### Runs to completion -/

omit [DecidableEq ι] in
/-- The writes of a segment are among those of a whole run. -/
theorem Proc.writes_run (answer : (q : Q) → A q) (p : Proc σ ε A α) (s : σ) :
    ∀ w ∈ p.writes s, .wrote w.1 w.2 ∈ (p.run answer s).events := by
  induction p generalizing s with
  | pure a => exact fun _ mem => absurd mem List.not_mem_nil
  | throw e => exact fun _ mem => absurd mem List.not_mem_nil
  | await q k => exact fun _ mem => absurd mem List.not_mem_nil
  | get k ih => exact ih s s
  | put s' k ih =>
      intro w mem
      rcases List.mem_cons.mp mem with rfl | mem
      · exact .head _
      · exact .tail _ (ih s' w mem)

/-- The writes of the run are allowed. -/
def Run.Allowed (run : Run σ ε A α) (ok : σ → σ → Prop) : Prop :=
  ∀ e ∈ run.events, ∀ s s', e = .wrote s s' → ok s s'

theorem Pool.watched_rest {i : ι} (answer : (q : Q) → A q) (p : Proc σ ε A α) (pool : Pool ι σ ε A α)
    (allowed : (p.run answer pool.state).Allowed (ok i)) :
    Relation.ReflTransGen (Pool.Watched prog env ok) (pool.advance i p)
      ⟨(p.run answer pool.state).final,
        Function.update pool.phase i (.done (p.run answer pool.state).result)⟩ := by
  induction p generalizing pool with
  | pure a => exact .refl
  | throw e => exact .refl
  | get k ih => exact ih pool.state pool allowed
  | put s' k ih => exact ih ⟨s', pool.phase⟩ fun e mem => allowed e (.tail _ mem)
  | await q k ih =>
      have later : ((k (answer q)).run answer pool.state).Allowed (ok i) := fun e mem => allowed e (.tail _ mem)
      have rest := ih (answer q) ⟨pool.state, Function.update pool.phase i (.waiting q k)⟩ later
      dsimp only at rest
      rw [Function.update_idem] at rest
      refine .head (.turn (.resume (Function.update_self ..) (answer q)) fun w mem => ?_) rest
      exact later _ (Proc.writes_run answer _ _ w mem) _ _ rfl

/-- A task that nobody disturbs, from its start to its end. -/
theorem Pool.watched_run {i : ι} (answer : (q : Q) → A q) (pool : Pool ι σ ε A α) (idle : pool.phase i = .idle)
    (allowed : ((prog i).run answer pool.state).Allowed (ok i)) :
    ∃ pool', Relation.ReflTransGen (Pool.Watched prog env ok) pool pool' ∧
      pool'.state = ((prog i).run answer pool.state).final ∧ ∀ j, j ≠ i → pool'.phase j = pool.phase j := by
  refine ⟨_, .head (.turn (.start idle) fun w mem => ?_) (Pool.watched_rest answer (prog i) pool allowed), rfl,
    fun j other => Function.update_of_ne other ..⟩
  exact allowed _ (Proc.writes_run answer _ _ w mem) _ _ rfl

end Pools

end Coop
