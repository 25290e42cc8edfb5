import AgentReady.Safety.Current

/-!
The versions of an order identify its intent.

A change of the intent has a new version, by a message as by a patch. Two turns break this: a message that starts
over sets the versions back to zero, and a message that makes an intent without a digest is given up after the
intent was changed and before its version is.

* `versions_monotonic`: in every run without such a message no version goes back, no version stands for two
  intents, and a patch for a version that was read before a change is refused.
-/

namespace AgentReady

open Coop Svc

/-! ### Orders -/

/-- Versions start at zero, and the first one stands for the empty intent. -/
structure Counted (x : Order) : Prop where
  nonneg : 0 ≤ x.marks.intentVersion
  blank : x.marks.intentVersion = 0 → x.intent = {}

section Orders

variable {P : Platform} {cfg : Config} {x y : Order} {act : Act} {v v' : View} {message o : String}

theorem Counted.later (counted : Counted x) (later : Later x y) : Counted y := by
  refine ⟨counted.nonneg.trans later.intentVersion, fun zero => ?_⟩
  have first : x.marks.intentVersion = 0 := le_antisymm (zero ▸ later.intentVersion) counted.nonneg
  by_contra other
  have changed := later.changed fun same => other (same.trans (counted.blank first))
  omega

/-- Every act that leaves the intent alone keeps its version. -/
theorem Later.of_step (step : Step P Eq x act y) (silent : ¬ act.Speaks) : Later x y := by
  cases step with
  | say | withdraw | restart => exact absurd trivial silent
  | recommend token => exact (keeps_recommended x token).later
  | _ => exact ⟨le_rfl, le_rfl, fun changed => absurd rfl changed⟩

/-! ### Calls -/

/-- The message starts an order over only where it has no versions yet, and changes the intent only to one that has
a digest. -/
structure View.Resumes (cfg : Config) (message : String) (answer : (q : Query) → q.Answer) (v : View) : Prop where
  restarts : ∀ merged heard, hear cfg v.clock message answer v.session.intent = .ok (merged, heard) →
    merged.action = .restart → v.order.marks.intentVersion = 0 ∧ v.order.marks.recommendationVersion = 0
  digested : ∀ outcome, interpretUserMessage cfg.platform v.clock message v.session.intent
      (proposed cfg message answer) = .ok outcome →
    (heardFrom cfg v.clock message answer v.session.intent outcome).2 ≠ v.session.intent →
    ∃ digest, intentDigest (heardFrom cfg v.clock message answer v.session.intent outcome).2 = .ok digest

/-- A message on the order that is acted on resumes it. -/
def Call.Resumes (cfg : Config) (o : String) (call : Call) (s : Services) : Prop :=
  match call.command with
  | .respond o' message supplied operationId => o' = o →
      respondRuns cfg (call.start s) o' message supplied operationId →
      ∀ v, (call.start s).view? o' = some v → v.Resumes cfg message call.answer
  | _ => True

theorem RespondEnds.later {answer : (q : Query) → q.Answer} {result : Except ServiceError Reply}
    (ends : RespondEnds cfg message answer v result v') (counted : Counted v.order)
    (resumes : v.Resumes cfg message answer) : Later v.order v'.order := by
  cases ends with
  | misheard misheard legal accepts =>
      rcases misheard.intent with same | ⟨outcome, m, interpreted, made, undigested⟩
      · rw [misheard.order, same]
        exact Later.refl _
      · rw [made] at undigested
        have unchanged : (heardFrom cfg v.clock message answer v.session.intent outcome).2 = v.session.intent := by
          by_contra changed
          obtain ⟨digest, digested⟩ := resumes.digested outcome interpreted changed
          cases digested.symm.trans undigested
        rw [misheard.order, made, unchanged]
        exact Later.refl _
  | @heard merged heard said intent approval turn versions =>
      by_cases restart : merged.action = .restart
      · obtain ⟨marks, blank⟩ := (if_pos restart).mp versions
        obtain ⟨first, unranked⟩ := resumes.restarts _ _ said restart
        refine ⟨?_, ?_, fun changed => absurd (blank.trans (counted.blank first).symm) changed⟩
        · rw [marks, first]
          exact le_rfl
        · rw [marks, unranked]
          exact le_rfl
      · exact (if_neg restart).mp versions

theorem PatchEnds.later {patch : Patch} {expected : Int} {result : Except ServiceError Reply}
    (ends : PatchEnds patch expected v result v') : Later v.order v'.order := by
  cases ends with
  | rejected invalid order legal => exact order ▸ Later.refl _
  | kept valid same keeps state refused => exact keeps.later
  | undigested valid changed quoted unknown order legal => exact order ▸ later_withdrawn _ _ _
  | refused valid changed digested paying illegal order => exact order ▸ later_withdrawn _ _ _
  | changed valid changed shopping approval state legal later => exact later

variable {s : Services} {call : Call}

/-- A message that resumes the order, or a patch of it, keeps the order of the versions. -/
theorem Call.later_of_converses (keyed : Keyed s) (converses : call.command.Converses o)
    (resumes : call.Resumes cfg o s) (start : OrderAt o (fun z => Later x z ∧ Counted z) s) :
    OrderAt o (fun z => Later x z ∧ Counted z) (call.final cfg s) := by
  have known : ¬ call.command.Opens := by
    cases command : call.command <;> rw [command] at converses <;> first | exact id | exact absurd converses id
  have ends := (Call.sound cfg (fun _ _ _ => True) known keyed fun _ _ _ _ => trivial).2
  cases at_ : (call.start s).view? o with
  | none => exact Call.keeps_unknown cfg known keyed at_
  | some v =>
  obtain ⟨since, counted⟩ := start v.order (order?_of_view at_ : (call.start s).order? o = _)
  suffices h : ∃ v', (call.final cfg s).view? o = some v' ∧ Later v.order v'.order by
    obtain ⟨v', at', later⟩ := h
    intro y shown
    obtain rfl := Option.some.inj ((order?_of_view at').symm.trans shown)
    exact ⟨since.trans later, counted.later later⟩
  unfold Call.Resumes at resumes
  cases command : call.command with
  | respond o' message supplied operationId =>
      rw [command] at converses ends resumes
      obtain rfl : o' = o := converses
      obtain ⟨v', at', ⟨-, same, -⟩ | ⟨runs, turn⟩⟩ := ends v at_
      · exact ⟨v', at', same ▸ Later.refl _⟩
      · exact ⟨v', at', (turn call.answer Alone.alone).later counted (resumes rfl runs v at_)⟩
  | intentPatch o' patch expected =>
      rw [command] at converses ends
      obtain rfl : o' = o := converses
      obtain ⟨v', at', patched⟩ := ends v at_
      exact ⟨v', at', patched.later⟩
  | _ =>
      rw [command] at converses
      exact absurd converses id

/-- One call keeps the order of the versions. -/
theorem Call.later (known : ¬ call.command.Opens) (keyed : Keyed s) (resumes : call.Resumes cfg o s)
    (start : OrderAt o (fun z => Later x z ∧ Counted z) s) :
    OrderAt o (fun z => Later x z ∧ Counted z) (call.final cfg s) := by
  by_cases converses : call.command.Converses o
  · exact Call.later_of_converses keyed converses resumes start
  · refine (Call.keeps (fun o' _ act => o' = o → ¬ act.Speaks) known keyed ?_ ?_ start).2
    · rintro o' y act acts rfl speaks
      exact converses (Command.converses_of_acts acts speaks)
    · rintro y act z ⟨since, counted⟩ step silent
      have later := Later.of_step step (silent rfl)
      exact ⟨since.trans later, counted.later later⟩

/-! ### Runs -/

/-- Calls on orders that exist, which resume the order. -/
def Resumed (cfg : Config) (o : String) (_ : History) (call : Call) (s : Services) : Prop :=
  ¬ call.command.Opens ∧ call.Resumes cfg o s

variable {start s₁ s₂ : Services} {history before after : History}

theorem later_of_trace (keyed : Keyed s₁) (trace : Trace cfg (Resumed cfg o) s₁ history s₂)
    (at_ : s₁.order? o = some x) (counted : Counted x) :
    Keyed s₂ ∧ OrderAt o (fun y => Later x y ∧ Counted y) s₂ := by
  induction trace with
  | nil =>
      refine ⟨keyed, fun y shown => ?_⟩
      obtain rfl := Option.some.inj (at_.symm.trans shown)
      exact ⟨Later.refl _, counted⟩
  | call call _ allowed ih =>
      obtain ⟨keyed, since⟩ := ih
      exact ⟨keyed_final keyed, Call.later allowed.1 keyed allowed.2 since⟩

/-- A call of the run changes the intent of the order. -/
def Changes (cfg : Config) (o : String) (s₁ s₂ : Services) : Prop :=
  ∃ before after a call x y, Trace cfg (Resumed cfg o) s₁ before a ∧ Resumed cfg o before call a ∧
    a.order? o = some x ∧ (call.final cfg a).order? o = some y ∧ y.intent ≠ x.intent ∧
    Trace cfg (Resumed cfg o) (call.final cfg a) after s₂

/-- Every patch of the order for the version is refused for it. -/
def Mismatches (cfg : Config) (o : String) (expected : Int) (s : Services) : Prop :=
  ∀ (patch : Patch) (answer : (q : Query) → q.Answer) (time : Int), ∃ r : IntentPatchResult,
    ((⟨.intentPatch o patch expected, answer, time⟩ : Call).run cfg s).result = .ok (.patched r) ∧
      r.ok = false ∧ r.reasonCodes = ["version_mismatch"]

theorem mismatches {expected : Int} (at_ : s.order? o = some x) (other : x.marks.intentVersion ≠ expected) :
    Mismatches cfg o expected s := by
  intro patch answer time
  obtain ⟨session, stored, rfl⟩ := Option.map_eq_some_iff.mp at_
  have differs : session.dialogue.intentVersion ≠ expected := other
  let r : IntentPatchResult :=
    { ok := false
      state := session.state
      error := some "Intent version mismatch. Please refresh."
      reasonCodes := ["version_mismatch"] }
  refine ⟨r, ?_, rfl, rfl⟩
  simp only [Call.run, Call.start, Command.op, intentPatch, session?, Proc.run_bind, Proc.run_read, Proc.run_pure,
    stored, if_pos differs]
  rfl

/-- In a run whose messages all resume the order, no version goes back, no version stands for two intents, and a patch
for a version from before a change of the intent is refused. -/
theorem versions_monotonic (opened : Opened o start) (early : Trace cfg (Resumed cfg o) start before s₁)
    (late : Trace cfg (Resumed cfg o) s₁ after s₂) (at₁ : s₁.order? o = some x) (at₂ : s₂.order? o = some y) :
    Later x y ∧ (Changes cfg o s₁ s₂ → Mismatches cfg o x.marks.intentVersion s₂) := by
  have blank : Counted (blankOrder o) := ⟨le_rfl, fun _ => rfl⟩
  obtain ⟨keyed₁, counted₁⟩ := later_of_trace opened.keyed early opened.order blank
  have counted := (counted₁ x at₁).2
  refine ⟨((later_of_trace keyed₁ late at₁ counted).2 y at₂).1, ?_⟩
  rintro ⟨before, after, a, call, z, z', trace, allowed, atz, atz', changed, rest⟩
  obtain ⟨keyed, since⟩ := later_of_trace keyed₁ trace at₁ counted
  obtain ⟨later, countedz⟩ := since z atz
  obtain ⟨next, countedz'⟩ := Call.later allowed.1 keyed allowed.2 (fun w shown => by
    obtain rfl := Option.some.inj (atz.symm.trans shown)
    exact ⟨Later.refl _, countedz⟩) z' atz'
  have last := ((later_of_trace (keyed_final keyed) rest atz' countedz').2 y at₂).1
  refine mismatches at₂ (ne_of_gt ?_)
  calc x.marks.intentVersion ≤ z.marks.intentVersion := later.intentVersion
    _ < z'.marks.intentVersion := next.changed changed
    _ ≤ y.marks.intentVersion := last.intentVersion

end Orders

/-! ### Two runs -/

namespace VersionsSample

/-- The size is patched. -/
def sizedServices : Services := openedServices.after [.intentPatch "ord_0" [("size", .str "UK 9")] 0]

/-- The order is started over, and another size is patched. -/
def restarting : List Command :=
  [.respond "ord_0" "start over" none none, .intentPatch "ord_0" [("size", .str "UK 10")] 0]

def restartedServices : Services := sizedServices.after restarting

/-- A patch for the version of the first size. -/
def stale : Call := (Command.intentPatch "ord_0" [("useCase", .str "road")] 1).plain

def versioned (x : Order) : Int × Option String := (x.marks.intentVersion, x.intent.size)

theorem restarted_facts : (sizedServices.order? "ord_0").map versioned = some (1, some "UK 9") ∧
    (restartedServices.order? "ord_0").map versioned = some (1, some "UK 10") ∧
    Succeeded (stale.run plainConfig restartedServices).result := by
  decide +kernel

theorem quoted_known : (quotedServices.order? "ord_0").map (·.marks.intentVersion) = some 2 := by
  decide +kernel

end VersionsSample

open VersionsSample in
/-- The plain run to a quote. -/
theorem versions_monotonic_plain : ∃ x y, openedServices.order? "ord_0" = some x ∧
    quotedServices.order? "ord_0" = some y ∧ Later x y ∧ x.marks.intentVersion < y.marks.intentVersion := by
  have start : Trace plainConfig (Resumed plainConfig "ord_0") openedServices [] openedServices := .nil
  obtain ⟨history, trace⟩ := start.after quoting fun _ _ command mem => by
    simp only [quoting, List.mem_cons, List.not_mem_nil, or_false] at mem
    rcases mem with rfl | rfl | rfl <;> exact ⟨id, trivial⟩
  obtain ⟨y, at_, two⟩ := Option.map_eq_some_iff.mp quoted_known
  have later := (versions_monotonic opened_plain start trace opened_plain.order at_).1
  refine ⟨_, y, opened_plain.order, at_, later, ?_⟩
  rw [two]
  decide

open VersionsSample in
/-- After the order was started over, its first version stands for another intent, and the patch for the version is
taken. -/
theorem versions_restarted : ∃ before after x y,
    Trace plainConfig (fun _ call _ => call.command.Direct) openedServices before sizedServices ∧
    Trace plainConfig (fun _ call _ => call.command.Direct) sizedServices after restartedServices ∧
    sizedServices.order? "ord_0" = some x ∧ restartedServices.order? "ord_0" = some y ∧ ¬ Later x y ∧
    stale.command = .intentPatch "ord_0" [("useCase", .str "road")] x.marks.intentVersion ∧
    Succeeded (stale.run plainConfig restartedServices).result := by
  obtain ⟨sized, restarted, success⟩ := restarted_facts
  have start : Trace plainConfig (fun _ call _ => call.command.Direct) openedServices [] openedServices := .nil
  obtain ⟨before, early⟩ := start.after [.intentPatch "ord_0" [("size", .str "UK 9")] 0] fun _ _ command mem => by
    obtain rfl := List.mem_singleton.mp mem
    exact trivial
  have middle : Trace plainConfig (fun _ call _ => call.command.Direct) sizedServices [] sizedServices := .nil
  obtain ⟨after, late⟩ := middle.after restarting fun _ _ command mem => by
    simp only [restarting, List.mem_cons, List.not_mem_nil, or_false] at mem
    rcases mem with rfl | rfl <;> exact trivial
  obtain ⟨x, at₁, first⟩ := Option.map_eq_some_iff.mp sized
  obtain ⟨y, at₂, second⟩ := Option.map_eq_some_iff.mp restarted
  obtain ⟨one, nine⟩ := Prod.mk.inj first
  obtain ⟨one', ten⟩ := Prod.mk.inj second
  refine ⟨before, after, x, y, early, late, at₁, at₂, fun later => ?_, by rw [one]; rfl, success⟩
  have changed := later.changed fun same => by
    rw [same, nine] at ten
    exact absurd ten (by decide)
  omega

end AgentReady
