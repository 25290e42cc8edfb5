import Mathlib.Logic.Relation
import Mathlib.Order.Basic

/-!
Cooperative processes over a shared state.

A `Proc` reads and writes a shared state, may throw, and is suspended only where
it awaits the answer of an outside call: between two awaits it runs atomically,
as a task of a single-threaded event loop does. `Proc.run` executes a process to
completion against given answers; `Proc.segment` executes it up to its next await.

A `Contract` states how a process may share the state:

* `rely`: what the others may do to the state while the process is suspended;
* `guar`: what each single write of the process does to the state;
* `calls`: when an outside call may be started;
* `answers`: which answers the process may be resumed with.

`Proc.Meets` is the weakest precondition for a contract and a postcondition. Its
rules (`Meets.bind`, `Meets.catch`, `Meets.conseq`) are what clients use;
`Meets.run` is soundness for a run to completion.
-/

namespace Coop

variable {σ ε Q α β : Type} {A : Q → Type}

inductive Proc (σ ε : Type) {Q : Type} (A : Q → Type) (α : Type) : Type where
  | pure (a : α)
  | throw (e : ε)
  | get (k : σ → Proc σ ε A α)
  | put (s : σ) (k : Proc σ ε A α)
  | await (q : Q) (k : A q → Proc σ ε A α)

namespace Proc

def bind : Proc σ ε A α → (α → Proc σ ε A β) → Proc σ ε A β
  | .pure a, f => f a
  | .throw e, _ => .throw e
  | .get k, f => .get fun s => (k s).bind f
  | .put s k, f => .put s (k.bind f)
  | .await q k, f => .await q fun a => (k a).bind f

/-- Run `p`; where it throws, continue with the handler. The writes made before
the throw stay. -/
def catch_ : Proc σ ε A α → (ε → Proc σ ε A α) → Proc σ ε A α
  | .pure a, _ => .pure a
  | .throw e, h => h e
  | .get k, h => .get fun s => (k s).catch_ h
  | .put s k, h => .put s (k.catch_ h)
  | .await q k, h => .await q fun a => (k a).catch_ h

instance : Monad (Proc σ ε A) where
  pure := .pure
  bind := bind

instance : MonadExceptOf ε (Proc σ ε A) where
  throw := .throw
  tryCatch := catch_

/-- The current state. -/
def read : Proc σ ε A σ := .get .pure

/-- Replace the state by `f` of it, in one write. -/
def modify (f : σ → σ) : Proc σ ε A Unit := .get fun s => .put (f s) (.pure ())

/-- Start the outside call `q` and wait for its answer. -/
def call (q : Q) : Proc σ ε A (A q) := .await q .pure

end Proc

/-! ### Execution -/

/-- What an execution does, in order: single writes, and answered outside calls. -/
inductive Event (σ : Type) {Q : Type} (A : Q → Type) where
  | wrote (before after : σ)
  | called (q : Q) (a : A q) (at_ : σ)

/-- A run to completion: how it ended, the state it left, and its events. -/
structure Run (σ ε : Type) {Q : Type} (A : Q → Type) (α : Type) where
  result : Except ε α
  final : σ
  events : List (Event σ A)

/-- How a segment ends: the process is done, or it waits for an answer. -/
inductive Outcome (σ ε : Type) {Q : Type} (A : Q → Type) (α : Type) where
  | done (result : Except ε α)
  | waiting (q : Q) (k : A q → Proc σ ε A α)

namespace Proc

/-- Execution to completion, undisturbed, with the given answers. -/
def run (answer : (q : Q) → A q) : Proc σ ε A α → σ → Run σ ε A α
  | .pure a, s => ⟨.ok a, s, []⟩
  | .throw e, s => ⟨.error e, s, []⟩
  | .get k, s => (k s).run answer s
  | .put s' k, s =>
      let r := k.run answer s'
      { r with events := .wrote s s' :: r.events }
  | .await q k, s =>
      let r := (k (answer q)).run answer s
      { r with events := .called q (answer q) s :: r.events }

/-- Execution up to the next await: the state reached and how the segment ends. -/
def segment : Proc σ ε A α → σ → σ × Outcome σ ε A α
  | .pure a, s => (s, .done (.ok a))
  | .throw e, s => (s, .done (.error e))
  | .get k, s => (k s).segment s
  | .put s' k, _ => k.segment s'
  | .await q k, s => (s, .waiting q k)

section RunRules

variable {answer : (q : Q) → A q}

@[simp] theorem run_pure (a : α) (s : σ) :
    (Pure.pure a : Proc σ ε A α).run answer s = ⟨.ok a, s, []⟩ := rfl

@[simp] theorem run_throw (e : ε) (s : σ) :
    (MonadExcept.throw e : Proc σ ε A α).run answer s = ⟨.error e, s, []⟩ := rfl

@[simp] theorem run_read (s : σ) :
    (read : Proc σ ε A σ).run answer s = ⟨.ok s, s, []⟩ := rfl

@[simp] theorem run_modify (f : σ → σ) (s : σ) :
    (modify f : Proc σ ε A Unit).run answer s = ⟨.ok (), f s, [.wrote s (f s)]⟩ := rfl

@[simp] theorem run_call (q : Q) (s : σ) :
    (call q : Proc σ ε A (A q)).run answer s = ⟨.ok (answer q), s, [.called q (answer q) s]⟩ := rfl

theorem run_bind (p : Proc σ ε A α) (f : α → Proc σ ε A β) (s : σ) :
    (p >>= f).run answer s =
      match (p.run answer s).result with
      | .ok a =>
          let r := (f a).run answer (p.run answer s).final
          { r with events := (p.run answer s).events ++ r.events }
      | .error e => ⟨.error e, (p.run answer s).final, (p.run answer s).events⟩ := by
  change (p.bind f).run answer s = _
  induction p generalizing s with
  | pure a => simp [bind, run]
  | throw e => simp [bind, run]
  | get k ih => simpa [bind, run] using ih s s
  | put s' k ih =>
      simp only [bind, run, ih]
      cases (k.run answer s').result <;> rfl
  | await q k ih =>
      simp only [bind, run, ih]
      cases ((k (answer q)).run answer s).result <;> rfl

theorem run_catch (p : Proc σ ε A α) (h : ε → Proc σ ε A α) (s : σ) :
    (tryCatch p h).run answer s =
      match (p.run answer s).result with
      | .ok a => ⟨.ok a, (p.run answer s).final, (p.run answer s).events⟩
      | .error e =>
          let r := (h e).run answer (p.run answer s).final
          { r with events := (p.run answer s).events ++ r.events } := by
  change (p.catch_ h).run answer s = _
  induction p generalizing s with
  | pure a => simp [catch_, run]
  | throw e => simp [catch_, run]
  | get k ih => simpa [catch_, run] using ih s s
  | put s' k ih =>
      simp only [catch_, run, ih]
      cases (k.run answer s').result <;> rfl
  | await q k ih =>
      simp only [catch_, run, ih]
      cases ((k (answer q)).run answer s).result <;> rfl

end RunRules

/-- Execution to completion, undisturbed, with the answers there are: how it ended and the state it
left, or `none` where an answer is missing. -/
def complete (answer : (q : Q) → Option (A q)) : Proc σ ε A α → σ → Option (Except ε α × σ)
  | .pure a, s => some (.ok a, s)
  | .throw e, s => some (.error e, s)
  | .get k, s => (k s).complete answer s
  | .put s' k, _ => k.complete answer s'
  | .await q k, s => (answer q).bind fun a => (k a).complete answer s

section CompleteRules

variable {answer : (q : Q) → Option (A q)}

@[simp] theorem complete_pure (a : α) (s : σ) :
    (Pure.pure a : Proc σ ε A α).complete answer s = some (.ok a, s) := rfl

@[simp] theorem complete_throw (e : ε) (s : σ) :
    (MonadExcept.throw e : Proc σ ε A α).complete answer s = some (.error e, s) := rfl

@[simp] theorem complete_read (s : σ) :
    (read : Proc σ ε A σ).complete answer s = some (.ok s, s) := rfl

@[simp] theorem complete_modify (f : σ → σ) (s : σ) :
    (modify f : Proc σ ε A Unit).complete answer s = some (.ok (), f s) := rfl

theorem complete_call {q : Q} {a : A q} (answered : answer q = some a) (s : σ) :
    (call q : Proc σ ε A (A q)).complete answer s = some (.ok a, s) := by
  change (answer q).bind _ = _
  rw [answered]
  rfl

theorem complete_bind (p : Proc σ ε A α) (f : α → Proc σ ε A β) (s : σ) :
    (p >>= f).complete answer s = (p.complete answer s).bind fun r =>
      match r.1 with
      | .ok a => (f a).complete answer r.2
      | .error e => some (.error e, r.2) := by
  change (p.bind f).complete answer s = _
  induction p generalizing s with
  | pure a => rfl
  | throw e => rfl
  | get k ih => exact ih s s
  | put s' k ih => exact ih s'
  | await q k ih =>
      change (answer q).bind _ = ((answer q).bind _).bind _
      rw [Option.bind_assoc]
      exact congrArg _ (funext fun a => ih a s)

theorem complete_catch (p : Proc σ ε A α) (h : ε → Proc σ ε A α) (s : σ) :
    (tryCatch p h).complete answer s = (p.complete answer s).bind fun r =>
      match r.1 with
      | .ok a => some (.ok a, r.2)
      | .error e => (h e).complete answer r.2 := by
  change (p.catch_ h).complete answer s = _
  induction p generalizing s with
  | pure a => rfl
  | throw e => rfl
  | get k ih => exact ih s s
  | put s' k ih => exact ih s'
  | await q k ih =>
      change (answer q).bind _ = ((answer q).bind _).bind _
      rw [Option.bind_assoc]
      exact congrArg _ (funext fun a => ih a s)

/-- The first part is done, and the rest goes on. -/
theorem complete_then {p : Proc σ ε A α} {f : α → Proc σ ε A β} {s s' : σ} {a : α}
    (first : p.complete answer s = some (.ok a, s')) :
    (p >>= f).complete answer s = (f a).complete answer s' := by
  rw [complete_bind, first]
  rfl

/-- Nothing is caught where nothing is thrown. -/
theorem complete_quiet {p : Proc σ ε A α} {h : ε → Proc σ ε A α} {s s' : σ} {a : α}
    (done : p.complete answer s = some (.ok a, s')) :
    (tryCatch p h).complete answer s = some (.ok a, s') := by
  rw [complete_catch, done]
  rfl

end CompleteRules

/-- Execution comes to an end, by a result and a state that satisfy `good` or by a throw. -/
def Finishes (answer : (q : Q) → Option (A q)) (good : α → σ → Prop) (p : Proc σ ε A α) (s : σ) : Prop :=
  ∃ r s', p.complete answer s = some (r, s') ∧ ∀ a, r = .ok a → good a s'

section FinishRules

variable {answer : (q : Q) → Option (A q)} {good good' : α → σ → Prop} {s : σ}

theorem Finishes.isSome {p : Proc σ ε A α} (h : p.Finishes answer good s) : (p.complete answer s).isSome = true := by
  obtain ⟨r, s', done, -⟩ := h
  rw [done]
  rfl

theorem Finishes.mono {p : Proc σ ε A α} (h : p.Finishes answer good s) (weaken : ∀ a s', good a s' → good' a s') :
    p.Finishes answer good' s := by
  obtain ⟨r, s', done, ended⟩ := h
  exact ⟨r, s', done, fun a is => weaken a s' (ended a is)⟩

theorem finishes_pure {a : α} (h : good a s) : (Pure.pure a : Proc σ ε A α).Finishes answer good s := by
  refine ⟨.ok a, s, rfl, fun b is => ?_⟩
  cases is
  exact h

theorem finishes_throw {e : ε} : (MonadExcept.throw e : Proc σ ε A α).Finishes answer good s := by
  refine ⟨.error e, s, rfl, fun b is => ?_⟩
  cases is

theorem finishes_read : (read : Proc σ ε A σ).Finishes answer (fun a s' => a = s ∧ s' = s) s := by
  refine ⟨.ok s, s, rfl, fun a is => ?_⟩
  cases is
  exact ⟨rfl, rfl⟩

theorem finishes_modify {f : σ → σ} : (modify f : Proc σ ε A Unit).Finishes answer (fun _ s' => s' = f s) s :=
  ⟨.ok (), f s, rfl, fun _ _ => rfl⟩

theorem finishes_call {q : Q} (answered : (answer q).isSome = true) :
    (call q : Proc σ ε A (A q)).Finishes answer (fun _ s' => s' = s) s := by
  obtain ⟨a, is⟩ := Option.isSome_iff_exists.mp answered
  exact ⟨.ok a, s, complete_call is s, fun _ _ => rfl⟩

theorem finishes_bind {p : Proc σ ε A α} {f : α → Proc σ ε A β} {good' : β → σ → Prop} (first : p.Finishes answer good s)
    (next : ∀ a s', good a s' → (f a).Finishes answer good' s') : (p >>= f).Finishes answer good' s := by
  obtain ⟨r, s', done, ended⟩ := first
  unfold Finishes
  rw [complete_bind, done]
  cases r with
  | ok a => exact next a s' (ended a rfl)
  | error e =>
      refine ⟨.error e, s', rfl, fun b is => ?_⟩
      cases is

theorem finishes_pure_bind {a : α} {f : α → Proc σ ε A β} {good' : β → σ → Prop} (h : (f a).Finishes answer good' s) :
    (Pure.pure a >>= f : Proc σ ε A β).Finishes answer good' s := h

/-- Whatever comes of the first part, the rest comes to an end. -/
theorem finishes_then {p : Proc σ ε A α} {f : α → Proc σ ε A β} {good' : β → σ → Prop}
    (first : p.Finishes answer (fun _ _ => True) s) (next : ∀ a s', (f a).Finishes answer good' s') :
    (p >>= f).Finishes answer good' s :=
  finishes_bind first fun a s' _ => next a s'

theorem finishes_catch {p : Proc σ ε A α} {h : ε → Proc σ ε A α} (tried : p.Finishes answer good s)
    (caught : ∀ e s', (h e).Finishes answer good s') : (tryCatch p h).Finishes answer good s := by
  obtain ⟨r, s', done, ended⟩ := tried
  unfold Finishes
  rw [complete_catch, done]
  cases r with
  | ok a =>
      refine ⟨.ok a, s', rfl, fun b is => ?_⟩
      cases is
      exact ended a rfl
  | error e => exact caught e s'

end FinishRules

end Proc

/-! ### Contracts -/

structure Contract (σ : Type) {Q : Type} (A : Q → Type) where
  rely : σ → σ → Prop
  guar : σ → σ → Prop
  calls : Q → σ → Prop
  answers : (q : Q) → A q → σ → Prop

namespace Proc

/-- The weakest precondition of `p` for a contract and a postcondition: from `s`,
every write keeps `guar`, every call is started where `calls` allows it, and `post`
holds at the end, whatever the others do within `rely` while `p` is suspended. -/
def Meets (c : Contract σ A) (post : Except ε α → σ → Prop) : Proc σ ε A α → σ → Prop
  | .pure a, s => post (.ok a) s
  | .throw e, s => post (.error e) s
  | .get k, s => (k s).Meets c post s
  | .put s' k, s => c.guar s s' ∧ k.Meets c post s'
  | .await q k, s =>
      c.calls q s ∧ ∀ a s', c.rely s s' → c.answers q a s' → (k a).Meets c post s'

variable {c : Contract σ A} {post : Except ε α → σ → Prop}

@[simp] theorem meets_pure {a : α} {s : σ} :
    (Pure.pure a : Proc σ ε A α).Meets c post s ↔ post (.ok a) s := Iff.rfl

@[simp] theorem meets_throw {e : ε} {s : σ} :
    (MonadExcept.throw e : Proc σ ε A α).Meets c post s ↔ post (.error e) s := Iff.rfl

@[simp] theorem meets_read {post : Except ε σ → σ → Prop} {s : σ} :
    (read : Proc σ ε A σ).Meets c post s ↔ post (.ok s) s := Iff.rfl

@[simp] theorem meets_modify {post : Except ε Unit → σ → Prop} {f : σ → σ} {s : σ} :
    (modify f : Proc σ ε A Unit).Meets c post s ↔ c.guar s (f s) ∧ post (.ok ()) (f s) := Iff.rfl

@[simp] theorem meets_call {q : Q} {post : Except ε (A q) → σ → Prop} {s : σ} :
    (call q : Proc σ ε A (A q)).Meets c post s ↔
      c.calls q s ∧ ∀ a s', c.rely s s' → c.answers q a s' → post (.ok a) s' := Iff.rfl

/-- Sequencing: the first process must lead to states from which the rest meets the
contract; a throw skips the rest. -/
theorem meets_bind {p : Proc σ ε A α} {f : α → Proc σ ε A β} {post : Except ε β → σ → Prop}
    {s : σ} :
    (p >>= f).Meets c post s ↔
      p.Meets c (fun r s' => match r with
        | .ok a => (f a).Meets c post s'
        | .error e => post (.error e) s') s := by
  change (p.bind f).Meets c post s ↔ _
  induction p generalizing s with
  | pure a => exact Iff.rfl
  | throw e => exact Iff.rfl
  | get k ih => exact ih s
  | put s' k ih => exact and_congr_right fun _ => ih
  | await q k ih =>
      exact and_congr_right fun _ => forall_congr' fun a => forall_congr' fun s' =>
        forall_congr' fun _ => forall_congr' fun _ => ih a

/-- A handler runs exactly where the body throws. -/
theorem meets_catch {p : Proc σ ε A α} {h : ε → Proc σ ε A α} {s : σ} :
    (tryCatch p h).Meets c post s ↔
      p.Meets c (fun r s' => match r with
        | .ok a => post (.ok a) s'
        | .error e => (h e).Meets c post s') s := by
  change (p.catch_ h).Meets c post s ↔ _
  induction p generalizing s with
  | pure a => exact Iff.rfl
  | throw e => exact Iff.rfl
  | get k ih => exact ih s
  | put s' k ih => exact and_congr_right fun _ => ih
  | await q k ih =>
      exact and_congr_right fun _ => forall_congr' fun a => forall_congr' fun s' =>
        forall_congr' fun _ => forall_congr' fun _ => ih a

/-- Consequence: a weaker guarantee, a weaker condition on calls and a weaker
postcondition follow; the process may assume more of the others. -/
theorem Meets.conseq {c c' : Contract σ A} {post post' : Except ε α → σ → Prop}
    (rely : ∀ s s', c'.rely s s' → c.rely s s') (guar : ∀ s s', c.guar s s' → c'.guar s s')
    (calls : ∀ q s, c.calls q s → c'.calls q s)
    (answers : ∀ q a s, c'.answers q a s → c.answers q a s)
    (weaken : ∀ r s, post r s → post' r s) {p : Proc σ ε A α} {s : σ}
    (h : p.Meets c post s) : p.Meets c' post' s := by
  induction p generalizing s with
  | pure a => exact weaken _ _ h
  | throw e => exact weaken _ _ h
  | get k ih => exact ih s h
  | put s' k ih => exact ⟨guar _ _ h.1, ih h.2⟩
  | await q k ih =>
      exact ⟨calls _ _ h.1, fun a s' hr ha => ih a (h.2 a s' (rely _ _ hr) (answers _ _ _ ha))⟩

/-- Only the postcondition is weakened. -/
theorem Meets.mono {post' : Except ε α → σ → Prop} {p : Proc σ ε A α} {s : σ}
    (h : p.Meets c post s) (weaken : ∀ r s, post r s → post' r s) : p.Meets c post' s :=
  h.conseq (fun _ _ => id) (fun _ _ => id) (fun _ _ => id) (fun _ _ _ => id) weaken

end Proc

/-! ### Soundness for runs -/

/-- An event keeps a contract: a write is guaranteed, a call is allowed where it starts. -/
def Event.Keeps (c : Contract σ A) : Event σ A → Prop
  | .wrote s s' => c.guar s s'
  | .called q _ s => c.calls q s

/-- Where an event happens: the states before and after a write, and the state in which a
call is answered. -/
def Event.At (p : σ → Prop) : Event σ A → Prop
  | .wrote s s' => p s ∧ p s'
  | .called _ _ s => p s

theorem Event.At.mono {p p' : σ → Prop} (weaken : ∀ s, p s → p' s) {e : Event σ A} (h : e.At p) :
    e.At p' := by
  cases e with
  | wrote s s' => exact ⟨weaken s h.1, weaken s' h.2⟩
  | called q a s => exact weaken s h

/-- The writes among the events lead from one state to another. -/
inductive Leads : σ → List (Event σ A) → σ → Prop where
  | nil (s : σ) : Leads s [] s
  | wrote {s s' s'' : σ} {events : List (Event σ A)} :
      Leads s' events s'' → Leads s (.wrote s s' :: events) s''
  | called {q : Q} {a : A q} {s s' : σ} {events : List (Event σ A)} :
      Leads s events s' → Leads s (.called q a s :: events) s'

theorem Leads.append {s s' s'' : σ} {l l' : List (Event σ A)} (h : Leads s l s')
    (h' : Leads s' l' s'') : Leads s (l ++ l') s'' := by
  induction h with
  | nil => exact h'
  | wrote _ ih => exact .wrote (ih h')
  | called _ ih => exact .called (ih h')

namespace Proc

/-- The events of a run lead from its start to its final state. -/
theorem run_leads (answer : (q : Q) → A q) (p : Proc σ ε A α) (s : σ) :
    Leads s (p.run answer s).events (p.run answer s).final := by
  induction p generalizing s with
  | pure a => exact .nil s
  | throw e => exact .nil s
  | get k ih => exact ih s s
  | put s' k ih => exact .wrote (ih s')
  | await q k ih => exact .called (ih (answer q) s)

/-- Soundness: an undisturbed run of a process that meets its contract keeps the
contract at every event and ends in the postcondition. The contract may say of an answer
that it was given in this run. -/
theorem Meets.run {c : Contract σ A} {post : Except ε α → σ → Prop} {answer : (q : Q) → A q}
    (still : ∀ s, c.rely s s) {p : Proc σ ε A α} {s : σ}
    (admitted : ∀ q s', .called q (answer q) s' ∈ (p.run answer s).events →
      c.answers q (answer q) s')
    (h : p.Meets c post s) :
    (∀ e ∈ (p.run answer s).events, e.Keeps c) ∧
      post (p.run answer s).result (p.run answer s).final := by
  induction p generalizing s with
  | pure a => exact ⟨by simp [Proc.run], h⟩
  | throw e => exact ⟨by simp [Proc.run], h⟩
  | get k ih => exact ih s admitted h
  | put s' k ih =>
      obtain ⟨events, final⟩ := ih (fun q s' mem => admitted q s' (.tail _ mem)) h.2
      refine ⟨fun e mem => ?_, final⟩
      rcases List.mem_cons.mp mem with rfl | mem
      · exact h.1
      · exact events e mem
  | await q k ih =>
      obtain ⟨events, final⟩ := ih (answer q) (fun q s' mem => admitted q s' (.tail _ mem))
        (h.2 (answer q) s (still s) (admitted q s (.head _)))
      refine ⟨fun e mem => ?_, final⟩
      rcases List.mem_cons.mp mem with rfl | mem
      · exact h.1
      · exact events e mem

end Proc

/-- An invariant kept by every guaranteed write holds wherever the events lead. -/
theorem Leads.invariant {c : Contract σ A} {inv : σ → Prop}
    (step : ∀ s s', inv s → c.guar s s' → inv s') {s s' : σ} {events : List (Event σ A)}
    (h : Leads s events s') (keeps : ∀ e ∈ events, e.Keeps c) (start : inv s) : inv s' := by
  induction h with
  | nil => exact start
  | wrote _ ih =>
      exact ih (fun e mem => keeps e (List.mem_cons_of_mem _ mem))
        (step _ _ start (keeps _ List.mem_cons_self))
  | called _ ih => exact ih (fun e mem => keeps e (List.mem_cons_of_mem _ mem)) start

/-- An invariant kept by every guaranteed write holds at every event. -/
theorem Leads.throughout {c : Contract σ A} {inv : σ → Prop}
    (step : ∀ s s', inv s → c.guar s s' → inv s') {s s' : σ} {events : List (Event σ A)}
    (h : Leads s events s') (keeps : ∀ e ∈ events, e.Keeps c) (start : inv s) :
    ∀ e ∈ events, e.At inv := by
  induction h with
  | nil => simp
  | wrote _ ih =>
      intro e mem
      have after := step _ _ start (keeps _ List.mem_cons_self)
      rcases List.mem_cons.mp mem with rfl | mem
      · exact ⟨start, after⟩
      · exact ih (fun e mem => keeps e (List.mem_cons_of_mem _ mem)) after e mem
  | called _ ih =>
      intro e mem
      rcases List.mem_cons.mp mem with rfl | mem
      · exact start
      · exact ih (fun e mem => keeps e (List.mem_cons_of_mem _ mem)) start e mem

end Coop
