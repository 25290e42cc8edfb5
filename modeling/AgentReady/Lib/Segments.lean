import AgentReady.Lib.Pool

/-!
What a process does between two awaits.

A contract speaks of single writes. A relation that a process only keeps from one await to the next,
because it needs two writes that belong together, is a matter of its segments.

* `Proc.Segments`: the weakest precondition for a relation between the ends of every segment.
* `Within`: every segment is within a preorder. It is closed under sequencing, so it is read off a
  process's structure.
* `Turn`: a task of a pool acts, up to its next await; `Turn.within` is soundness.
-/

namespace Coop

variable {ι σ ε Q α β : Type} {A : Q → Type}

namespace Proc

/-- From where the segment started, `s₀`, every segment of the process keeps `rel` when it ends at an
await, and the last one ends in `post`. A segment starts in any state. -/
def Segments (rel : σ → σ → Prop) (post : Except ε α → σ → σ → Prop) :
    Proc σ ε A α → (s₀ s : σ) → Prop
  | .pure a, s₀, s => post (.ok a) s₀ s
  | .throw e, s₀, s => post (.error e) s₀ s
  | .get k, s₀, s => (k s).Segments rel post s₀ s
  | .put s' k, s₀, _ => k.Segments rel post s₀ s'
  | .await _ k, s₀, s => rel s₀ s ∧ ∀ a s', (k a).Segments rel post s' s'

variable {rel : σ → σ → Prop} {post : Except ε α → σ → σ → Prop} {s₀ s : σ}

theorem segments_bind {p : Proc σ ε A α} {f : α → Proc σ ε A β} {post : Except ε β → σ → σ → Prop} :
    (p >>= f).Segments rel post s₀ s ↔ p.Segments rel (fun r s₀ s' => match r with
      | .ok a => (f a).Segments rel post s₀ s'
      | .error e => post (.error e) s₀ s') s₀ s := by
  change (p.bind f).Segments rel post s₀ s ↔ _
  induction p generalizing s₀ s with
  | pure a => exact Iff.rfl
  | throw e => exact Iff.rfl
  | get k ih => exact ih s
  | put s' k ih => exact ih
  | await q k ih => exact and_congr_right fun _ => forall_congr' fun a => forall_congr' fun s' => ih a

theorem segments_catch {p : Proc σ ε A α} {h : ε → Proc σ ε A α} :
    (tryCatch p h).Segments rel post s₀ s ↔ p.Segments rel (fun r s₀ s' => match r with
      | .ok a => post (.ok a) s₀ s'
      | .error e => (h e).Segments rel post s₀ s') s₀ s := by
  change (p.catch_ h).Segments rel post s₀ s ↔ _
  induction p generalizing s₀ s with
  | pure a => exact Iff.rfl
  | throw e => exact Iff.rfl
  | get k ih => exact ih s
  | put s' k ih => exact ih
  | await q k ih => exact and_congr_right fun _ => forall_congr' fun a => forall_congr' fun s' => ih a

theorem Segments.mono {rel' : σ → σ → Prop} {post' : Except ε α → σ → σ → Prop} {p : Proc σ ε A α}
    (h : p.Segments rel post s₀ s) (wider : ∀ s s', rel s s' → rel' s s')
    (weaken : ∀ r s s', post r s s' → post' r s s') : p.Segments rel' post' s₀ s := by
  induction p generalizing s₀ s with
  | pure a => exact weaken _ _ _ h
  | throw e => exact weaken _ _ _ h
  | get k ih => exact ih s h
  | put s' k ih => exact ih h
  | await q k ih => exact ⟨wider _ _ h.1, fun a s' => ih a (h.2 a s')⟩

theorem Segments.and {rel' : σ → σ → Prop} {post' : Except ε α → σ → σ → Prop} {p : Proc σ ε A α}
    (h : p.Segments rel post s₀ s) (h' : p.Segments rel' post' s₀ s) :
    p.Segments (fun s s' => rel s s' ∧ rel' s s') (fun r s s' => post r s s' ∧ post' r s s') s₀ s := by
  induction p generalizing s₀ s with
  | pure a => exact ⟨h, h'⟩
  | throw e => exact ⟨h, h'⟩
  | get k ih => exact ih s h h'
  | put s' k ih => exact ih h h'
  | await q k ih => exact ⟨⟨h.1, h'.1⟩, fun a s' => ih a (h.2 a s') (h'.2 a s')⟩

end Proc

/-! ### Within a preorder -/

/-- Every segment of the process is within the relation, where what came before it in the segment
was. -/
def Within (rel : σ → σ → Prop) (p : Proc σ ε A α) : Prop :=
  ∀ s₀ s, rel s₀ s → p.Segments rel (fun _ => rel) s₀ s

namespace Within

variable {rel : σ → σ → Prop}

theorem pure (a : α) : Within rel (Pure.pure a : Proc σ ε A α) := fun _ _ => id

theorem throw (e : ε) : Within rel (MonadExcept.throw e : Proc σ ε A α) := fun _ _ => id

theorem read : Within rel (Proc.read : Proc σ ε A σ) := fun _ _ => id

theorem modify (trans : ∀ s s' s'', rel s s' → rel s' s'' → rel s s'') {f : σ → σ}
    (step : ∀ s, rel s (f s)) : Within rel (Proc.modify f : Proc σ ε A Unit) :=
  fun s₀ s before => trans s₀ s (f s) before (step s)

theorem call (refl : ∀ s, rel s s) (q : Q) : Within rel (Proc.call q : Proc σ ε A (A q)) :=
  fun _ _ before => ⟨before, fun _ s => refl s⟩

theorem bind {p : Proc σ ε A α} {f : α → Proc σ ε A β} (hp : Within rel p)
    (hf : ∀ a, Within rel (f a)) : Within rel (p >>= f) := by
  intro s₀ s before
  refine Proc.segments_bind.mpr ((hp s₀ s before).mono (fun _ _ => id) fun r s₀ s after => ?_)
  cases r with
  | ok a => exact hf a s₀ s after
  | error e => exact after

theorem catch_ {p : Proc σ ε A α} {h : ε → Proc σ ε A α} (hp : Within rel p)
    (hh : ∀ e, Within rel (h e)) : Within rel (tryCatch p h) := by
  intro s₀ s before
  refine Proc.segments_catch.mpr ((hp s₀ s before).mono (fun _ _ => id) fun r s₀ s after => ?_)
  cases r with
  | ok a => exact after
  | error e => exact hh e s₀ s after

theorem ite {p : Prop} [Decidable p] {a b : Proc σ ε A α} (ha : Within rel a) (hb : Within rel b) :
    Within rel (if p then a else b) := by
  split
  · exact ha
  · exact hb

end Within

/-! ### Soundness -/

/-- A task that waits keeps the relation, whatever it is resumed with. -/
def Phase.Keeps (rel : σ → σ → Prop) : Phase σ ε A α → Prop
  | .waiting _ k => ∀ a s, (k a).Segments rel (fun _ => rel) s s
  | _ => True

theorem Proc.Segments.ends {rel : σ → σ → Prop} {p : Proc σ ε A α} {s₀ s : σ}
    (h : p.Segments rel (fun _ => rel) s₀ s) :
    rel s₀ (p.segment s).1 ∧ (p.segment s).2.phase.Keeps rel := by
  induction p generalizing s with
  | pure a => exact ⟨h, trivial⟩
  | throw e => exact ⟨h, trivial⟩
  | get k ih => exact ih s h
  | put s' k ih => exact ih h
  | await q k => exact h

section Pools

variable [DecidableEq ι] {prog : ι → Proc σ ε A α} {env : σ → σ → Prop}
  {answers : (q : Q) → A q → σ → Prop} {pool pool' : Pool ι σ ε A α}

/-- The task acts, from its start or from an answer up to its next await. -/
inductive Turn (prog : ι → Proc σ ε A α) (answers : (q : Q) → A q → σ → Prop) (pool : Pool ι σ ε A α)
    (i : ι) : Pool ι σ ε A α → Prop where
  | start (idle : pool.phase i = .idle) : Turn prog answers pool i (pool.advance i (prog i))
  | resume {q : Q} {k : A q → Proc σ ε A α} {a : A q} (waiting : pool.phase i = .waiting q k)
      (answered : answers q a pool.state) : Turn prog answers pool i (pool.advance i (k a))

theorem Pool.Step.turn (step : Pool.Step prog env answers pool pool') :
    (∃ i, Turn prog answers pool i pool') ∨
      ∃ s, env pool.state s ∧ pool' = { pool with state := s } := by
  cases step with
  | @start i idle => exact .inl ⟨i, .start idle⟩
  | @resume i q k a waiting answered => exact .inl ⟨i, .resume waiting answered⟩
  | @outside s acts => exact .inr ⟨s, acts, rfl⟩

theorem Turn.step {i : ι} (turn : Turn prog answers pool i pool') : Pool.Step prog env answers pool pool' := by
  cases turn with
  | start idle => exact .start idle
  | resume waiting answered => exact .resume waiting answered

/-- A task that nobody disturbs takes turns until it is done. -/
theorem Pool.turns_run {i : ι} (answer : (q : Q) → A q) (answered : ∀ q s, answers q (answer q) s)
    (p : Proc σ ε A α) (pool : Pool ι σ ε A α) :
    Relation.ReflTransGen (fun pool pool' => Turn prog answers pool i pool') (pool.advance i p)
      ⟨(p.run answer pool.state).final,
        Function.update pool.phase i (.done (p.run answer pool.state).result)⟩ := by
  induction p generalizing pool with
  | pure a => exact .refl
  | throw e => exact .refl
  | get k ih => exact ih pool.state pool
  | put s' k ih => exact ih ⟨s', pool.phase⟩
  | await q k ih =>
      have rest := ih (answer q) ⟨pool.state, Function.update pool.phase i (.waiting q k)⟩
      dsimp only at rest
      rw [Function.update_idem] at rest
      exact .head (.resume (Function.update_self _ _ _) (answered q _)) rest

/-- A task that is not disturbed runs to completion. -/
theorem Pool.reaches_run {i : ι} (answer : (q : Q) → A q) (answered : ∀ q s, answers q (answer q) s)
    (idle : pool.phase i = .idle) :
    Pool.Reaches prog env answers pool ⟨((prog i).run answer pool.state).final,
      Function.update pool.phase i (.done ((prog i).run answer pool.state).result)⟩ :=
  .head (.start idle) (Relation.ReflTransGen.mono (fun _ _ turn => Turn.step turn) _ _
    (Pool.turns_run answer answered (prog i) pool))

variable {rel : ι → σ → σ → Prop}

/-- What a task does in a turn is within its relation, and the tasks still keep theirs. -/
theorem Turn.within {i : ι} (each : ∀ i s, (prog i).Segments (rel i) (fun _ => rel i) s s)
    (waits : ∀ i, (pool.phase i).Keeps (rel i)) (turn : Turn prog answers pool i pool') :
    rel i pool.state pool'.state ∧ ∀ j, (pool'.phase j).Keeps (rel j) := by
  have advanced : ∀ p : Proc σ ε A α, p.Segments (rel i) (fun _ => rel i) pool.state pool.state →
      rel i pool.state (pool.advance i p).state ∧ ∀ j, ((pool.advance i p).phase j).Keeps (rel j) := by
    intro p h
    obtain ⟨kept, stops⟩ := h.ends
    refine ⟨kept, fun j => ?_⟩
    by_cases same : j = i
    · subst same
      simpa [Pool.advance] using stops
    · simpa [Pool.advance, same] using waits j
  cases turn with
  | start idle => exact advanced _ (each i pool.state)
  | resume waiting answered =>
      have keeps := waits i
      rw [waiting] at keeps
      exact advanced _ (keeps _ pool.state)

/-- Wherever a pool gets to, every task that waits keeps its relation. -/
theorem Pool.Reaches.keeps (each : ∀ i s, (prog i).Segments (rel i) (fun _ => rel i) s s)
    (waits : ∀ i, (pool.phase i).Keeps (rel i)) (reaches : Pool.Reaches prog env answers pool pool') :
    ∀ i, (pool'.phase i).Keeps (rel i) := by
  induction reaches with
  | refl => exact waits
  | tail _ step ih =>
      rcases step.turn with ⟨i, turn⟩ | ⟨s, -, rfl⟩
      · exact (turn.within each ih).2
      · exact ih

/-- What every turn and every act outside is within, a run is within. -/
theorem Pool.Reaches.within {keeps : σ → σ → Prop} (refl : ∀ s, keeps s s)
    (trans : ∀ s s' s'', keeps s s' → keeps s' s'' → keeps s s'')
    (narrow : ∀ i s s', rel i s s' → keeps s s') (acts : ∀ s s', env s s' → keeps s s')
    (each : ∀ i s, (prog i).Segments (rel i) (fun _ => rel i) s s)
    (waits : ∀ i, (pool.phase i).Keeps (rel i)) (reaches : Pool.Reaches prog env answers pool pool') :
    keeps pool.state pool'.state := by
  induction reaches with
  | refl => exact refl _
  | tail before step ih =>
      refine trans _ _ _ ih ?_
      rcases step.turn with ⟨i, turn⟩ | ⟨s, act, rfl⟩
      · exact narrow i _ _ (turn.within each (Pool.Reaches.keeps each waits before)).1
      · exact acts _ _ act

end Pools

end Coop
