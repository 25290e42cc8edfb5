import AgentReady.Lib.Segments

/-!
What a process asks for.

Every call has a price, and a process is within a price where no way through it asks for more, whatever it
reads and whatever it is answered.

* `Proc.Costs`: the bound. It adds up along a sequence.
* `Proc.Straight.segment`, `Proc.Straight.segments_bind`: a process that asks for nothing is one segment.
* `Proc.serve`: execution against a provider with a state of its own.
* `Proc.Costs.serve_le`, `Proc.Costs.serve_same`: what a provider is asked for, and providers that answer alike
  for as long as a price lasts.
-/

namespace Coop

variable {σ ε Q α β τ τ' : Type} {A : Q → Type}

namespace Proc

/-- No way through the process asks for more than `n`. -/
def Costs (cost : Q → Nat) : Proc σ ε A α → Nat → Prop
  | .pure _, _ => True
  | .throw _, _ => True
  | .get k, n => ∀ s, (k s).Costs cost n
  | .put _ k, n => k.Costs cost n
  | .await q k, n => cost q ≤ n ∧ ∀ a, (k a).Costs cost (n - cost q)

variable {cost : Q → Nat} {m n : Nat}

namespace Costs

theorem pure (a : α) : (Pure.pure a : Proc σ ε A α).Costs cost n := trivial

theorem throw (e : ε) : (MonadExcept.throw e : Proc σ ε A α).Costs cost n := trivial

theorem read : (Proc.read : Proc σ ε A σ).Costs cost n := fun _ => trivial

theorem modify (f : σ → σ) : (Proc.modify f : Proc σ ε A Unit).Costs cost n := fun _ => trivial

theorem call {q : Q} (affords : cost q ≤ n) : (Proc.call q : Proc σ ε A (A q)).Costs cost n :=
  ⟨affords, fun _ => trivial⟩

theorem mono {p : Proc σ ε A α} (h : p.Costs cost m) (le : m ≤ n) : p.Costs cost n := by
  induction p generalizing m n with
  | pure a => trivial
  | throw e => trivial
  | get k ih => exact fun s => ih s (h s) le
  | put s k ih => exact ih h le
  | await q k ih => exact ⟨Nat.le_trans h.1 le, fun a => ih a (h.2 a) (Nat.sub_le_sub_right le _)⟩

theorem bind {p : Proc σ ε A α} {f : α → Proc σ ε A β} (hp : p.Costs cost m) (hf : ∀ a, (f a).Costs cost n) :
    (p >>= f).Costs cost (m + n) := by
  change (p.bind f).Costs cost (m + n)
  induction p generalizing m with
  | pure a => exact (hf a).mono (Nat.le_add_left _ _)
  | throw e => trivial
  | get k ih => exact fun s => ih s (hp s)
  | put s k ih => exact ih hp
  | await q k ih =>
      refine ⟨Nat.le_trans hp.1 (Nat.le_add_right _ _), fun a => ?_⟩
      have rest := ih a (hp.2 a)
      have affords := hp.1
      rwa [show m + n - cost q = m - cost q + n by omega]

theorem catch_ {p : Proc σ ε A α} {h : ε → Proc σ ε A α} (hp : p.Costs cost m) (hh : ∀ e, (h e).Costs cost n) :
    (tryCatch p h).Costs cost (m + n) := by
  change (p.catch_ h).Costs cost (m + n)
  induction p generalizing m with
  | pure a => trivial
  | throw e => exact (hh e).mono (Nat.le_add_left _ _)
  | get k ih => exact fun s => ih s (hp s)
  | put s k ih => exact ih hp
  | await q k ih =>
      refine ⟨Nat.le_trans hp.1 (Nat.le_add_right _ _), fun a => ?_⟩
      have rest := ih a (hp.2 a)
      have affords := hp.1
      rwa [show m + n - cost q = m - cost q + n by omega]

theorem ite {p : Prop} [Decidable p] {a b : Proc σ ε A α} (ha : a.Costs cost n) (hb : b.Costs cost n) :
    (if p then a else b).Costs cost n := by
  split
  · exact ha
  · exact hb

/-- What asks for nothing comes first. -/
theorem then_ {p : Proc σ ε A α} {f : α → Proc σ ε A β} (hp : p.Costs cost 0) (hf : ∀ a, (f a).Costs cost n) :
    (p >>= f).Costs cost n := by
  have both := hp.bind hf
  rwa [Nat.zero_add] at both

end Costs

/-! ### Processes that ask for nothing -/

/-- The process is never suspended. -/
abbrev Straight (p : Proc σ ε A α) : Prop := p.Costs (fun _ => 1) 0

/-- A process that is never suspended is one segment. -/
theorem Straight.segment {p : Proc σ ε A α} (straight : p.Straight) (answer : (q : Q) → A q) (s : σ) :
    p.segment s = ((p.run answer s).final, .done (p.run answer s).result) := by
  induction p generalizing s with
  | pure a => rfl
  | throw e => rfl
  | get k ih => exact ih s (straight s) s
  | put s' k ih => exact ih straight s'
  | await q k ih => exact absurd straight.1 (Nat.not_succ_le_zero 0)

/-- What its segments lead to is where it ends. -/
theorem Straight.segments {p : Proc σ ε A α} (straight : p.Straight) {rel : σ → σ → Prop}
    {post : Except ε α → σ → σ → Prop} (answer : (q : Q) → A q) {s₀ s : σ} :
    p.Segments rel post s₀ s ↔ post (p.run answer s).result s₀ (p.run answer s).final := by
  induction p generalizing s with
  | pure a => exact Iff.rfl
  | throw e => exact Iff.rfl
  | get k ih => exact ih s (straight s)
  | put s' k ih => exact ih straight
  | await q k ih => exact absurd straight.1 (Nat.not_succ_le_zero 0)

/-- Whatever the process is answered, a value that it returns is `good`. -/
def Gives (good : α → Prop) : Proc σ ε A α → Prop
  | .pure a => good a
  | .throw _ => True
  | .get k => ∀ s, (k s).Gives good
  | .put _ k => k.Gives good
  | .await _ k => ∀ a, (k a).Gives good

namespace Gives

variable {good : α → Prop} {good' : β → Prop}

theorem bind {p : Proc σ ε A α} {f : α → Proc σ ε A β} (hp : p.Gives good) (hf : ∀ a, good a → (f a).Gives good') :
    (p >>= f).Gives good' := by
  change (p.bind f).Gives good'
  induction p with
  | pure a => exact hf a hp
  | throw e => trivial
  | get k ih => exact fun s => ih s (hp s)
  | put s k ih => exact ih hp
  | await q k ih => exact fun a => ih a (hp a)

theorem any (p : Proc σ ε A α) : p.Gives fun _ => True := by
  induction p with
  | pure a => trivial
  | throw e => trivial
  | get k ih => exact ih
  | put s k ih => exact ih
  | await q k ih => exact ih

/-- The value is that of the last part. -/
theorem last {p : Proc σ ε A α} {f : α → Proc σ ε A β} (hf : ∀ a, (f a).Gives good') : (p >>= f).Gives good' :=
  bind (any p) fun a _ => hf a

end Gives

/-- A process that is never suspended, and what follows it in its segment. -/
theorem Straight.segments_bind {p : Proc σ ε A α} {f : α → Proc σ ε A β} {step rel : σ → σ → Prop} {good : α → Prop}
    {post : Except ε β → σ → σ → Prop} {t₀ s₀ s : σ} (straight : p.Straight)
    (within : p.Segments step (fun _ => step) t₀ s) (gives : p.Gives good)
    (failed : ∀ e s', step t₀ s' → post (.error e) s₀ s')
    (next : ∀ a s', good a → step t₀ s' → (f a).Segments rel post s₀ s') : (p >>= f).Segments rel post s₀ s := by
  change (p.bind f).Segments rel post s₀ s
  induction p generalizing s with
  | pure a => exact next a s gives within
  | throw e => exact failed e s within
  | get k ih => exact ih s (straight s) within (gives s)
  | put s' k ih => exact ih straight within gives
  | await q k ih => exact absurd straight.1 (Nat.not_succ_le_zero 0)

/-! ### Execution against a provider -/

/-- Execution to completion, undisturbed, against a provider with a state of its own. -/
def serve (answer : τ → (q : Q) → τ × A q) : Proc σ ε A α → τ → σ → (Except ε α × σ) × τ
  | .pure a, t, s => ((.ok a, s), t)
  | .throw e, t, s => ((.error e, s), t)
  | .get k, t, s => (k s).serve answer t s
  | .put s' k, t, _ => k.serve answer t s'
  | .await q k, t, s => (k (answer t q).2).serve answer (answer t q).1 s

variable {answer : τ → (q : Q) → τ × A q} {answer' : τ' → (q : Q) → τ' × A q}

/-- A measure of the provider that an answer raises by no more than its price is raised by no more than the
price of the process. -/
theorem Costs.serve_le {p : Proc σ ε A α} (costs : p.Costs cost n) (measure : τ → Nat)
    (raises : ∀ t q, measure (answer t q).1 ≤ measure t + cost q) (t : τ) (s : σ) :
    measure (p.serve answer t s).2 ≤ measure t + n := by
  induction p generalizing n t s with
  | pure a => exact Nat.le_add_right _ _
  | throw e => exact Nat.le_add_right _ _
  | get k ih => exact ih s (costs s) t s
  | put s' k ih => exact ih costs t s'
  | await q k ih =>
      have rest := ih (answer t q).2 (costs.2 _) (answer t q).1 s
      have raised := raises t q
      have affords := costs.1
      change measure ((k (answer t q).2).serve answer (answer t q).1 s).2 ≤ _
      omega

/-- What every answer keeps of the provider, an execution keeps. -/
theorem serve_keeps (p : Proc σ ε A α) (keeps : τ → Prop) (kept : ∀ t q, keeps t → keeps (answer t q).1) {t : τ}
    (before : keeps t) (s : σ) : keeps (p.serve answer t s).2 := by
  induction p generalizing t s with
  | pure a => exact before
  | throw e => exact before
  | get k ih => exact ih s before s
  | put s' k ih => exact ih before s'
  | await q k ih => exact ih (answer t q).2 (kept t q before) s

/-- Providers that answer alike for as long as a price lasts. -/
theorem Costs.serve_same {p : Proc σ ε A α} (costs : p.Costs cost n) (alike : Nat → τ → τ' → Prop)
    (answers : ∀ left t t' q, alike left t t' → cost q ≤ left →
      (answer t q).2 = (answer' t' q).2 ∧ alike (left - cost q) (answer t q).1 (answer' t' q).1)
    (mono : ∀ left left' t t', left' ≤ left → alike left t t' → alike left' t t')
    {left : Nat} {t : τ} {t' : τ'} (related : alike (n + left) t t') (s : σ) :
    (p.serve answer t s).1 = (p.serve answer' t' s).1 ∧
      alike left (p.serve answer t s).2 (p.serve answer' t' s).2 := by
  induction p generalizing n t t' s with
  | pure a => exact ⟨rfl, mono _ _ _ _ (Nat.le_add_left _ _) related⟩
  | throw e => exact ⟨rfl, mono _ _ _ _ (Nat.le_add_left _ _) related⟩
  | get k ih => exact ih s (costs s) related s
  | put s' k ih => exact ih costs related s'
  | await q k ih =>
      have affords := costs.1
      obtain ⟨same, next⟩ := answers _ _ _ q related (by omega)
      have later : alike (n - cost q + left) (answer t q).1 (answer' t' q).1 := mono _ _ _ _ (by omega) next
      have rest := ih (answer t q).2 (costs.2 _) later s
      change ((k (answer t q).2).serve answer (answer t q).1 s).1 =
          ((k (answer' t' q).2).serve answer' (answer' t' q).1 s).1 ∧
        alike left ((k (answer t q).2).serve answer (answer t q).1 s).2
          ((k (answer' t' q).2).serve answer' (answer' t' q).1 s).2
      rw [← same]
      exact rest

end Proc

end Coop
