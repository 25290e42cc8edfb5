import AgentReady.Lifecycle.Runs

/-!
An approval is for the present intent.

A quote is for the intent that it is made for, and an approval is of a current quote. A message or a patch
that changes the intent withdraws both. Between the change and the withdrawal the operations log the digest of
the new intent, and a turn whose intent has no digest stops there: an amount that is not finite has none.

* `intentDigest_isOk`: an intent has a digest if its amounts are finite.
* `approval_current`: in every run whose messages state finite amounts, what is approved is current.
-/

namespace AgentReady

open Coop Svc

/-! ### Digests -/

theorem canonicalizeFields_isOk : ∀ {fields : List (String × Json)},
    (∃ parts, canonicalizeFields fields = .ok parts) ↔ ∀ f ∈ fields, ∃ text, canonicalize f.2 = .ok text
  | [] => by simp [canonicalizeFields]
  | (key, value) :: rest => by
      rw [List.forall_mem_cons, ← canonicalizeFields_isOk, canonicalizeFields]
      cases canonicalize value <;> cases canonicalizeFields rest <;>
        simp [bind, Except.bind, pure, Except.pure]

theorem canonicalize_num {n : Json.Number} : (∃ text, canonicalize (.num n) = .ok text) ↔ n.isFinite = true := by
  rw [canonicalize]
  split <;> simp_all

theorem canonicalize_ofFields_isOk {fields : List (String × Option Json)} :
    (∃ text, canonicalize (Json.ofFields fields) = .ok text) ↔
      ∀ f ∈ fields, ∀ value, f.2 = some value → ∃ text, canonicalize value = .ok text := by
  have parts : (∃ text, canonicalize (Json.ofFields fields) = .ok text) ↔
      ∃ parts, canonicalizeFields (fields.filterMap fun f => f.2.map fun v => (f.1, v)) = .ok parts := by
    rw [Json.ofFields, canonicalize]
    cases canonicalizeFields (fields.filterMap fun f => f.2.map fun v => (f.1, v)) <;>
      simp [bind, Except.bind, pure, Except.pure]
  rw [parts, canonicalizeFields_isOk]
  simp only [List.mem_filterMap, Option.map_eq_some_iff]
  constructor
  · intro texts f mem value there
    exact texts (f.1, value) ⟨f, mem, value, there, rfl⟩
  · rintro texts _ ⟨f, mem, value, there, rfl⟩
    exact texts f mem value there

theorem intentDigest_isOk {i : ParsedIntent} : (∃ digest, intentDigest i = .ok digest) ↔ i.Finite := by
  unfold intentDigest ParsedIntent.toJson
  rw [canonicalize_ofFields_isOk]
  have texts : ∀ text : String, ∃ t, canonicalize (.str text) = .ok t := fun text => ⟨_, rfl⟩
  have bools : ∀ b : Bool, ∃ t, canonicalize (.bool b) = .ok t := fun b => ⟨_, rfl⟩
  simp only [List.forall_mem_cons, List.not_mem_nil, false_implies, implies_true, and_true,
    Option.map_eq_some_iff, forall_exists_index, and_imp, forall_apply_eq_imp_iff₂, texts, bools,
    canonicalize_num, true_and, ParsedIntent.Finite]
  cases i.maxAmountMinor <;> cases i.distanceKm <;> simp

/-! ### Orders -/

/-- An approval is of the present quote. -/
def ApprovedCurrent (x : Order) : Prop := x.approvalEventId.isSome = true → x.Current

section Orders

variable {P : Platform} {cfg : Config} {x y : Order} {act : Act} {v v' : View} {message o : String}

theorem ApprovedCurrent.keeps (h : ApprovedCurrent x) (keeps : Keeps x y) : ApprovedCurrent y := by
  intro approved
  have before : x.approvalEventId.isSome = true := by
    rw [keeps.order] at approved
    exact approved
  obtain ⟨valid, r, record, digest⟩ := h before
  refine ⟨keeps.quoteValid.trans valid, r, ?_, ?_⟩
  · rw [keeps.order]
    exact record
  · rw [keeps.order]
    exact digest

theorem ApprovedCurrent.withdrawn (gone : y.approvalEventId = none) : ApprovedCurrent y := by
  intro approved
  rw [gone] at approved
  cases approved

/-- The act sets, withdraws or forgets the intent. -/
def Act.Speaks : Act → Prop
  | .say _ | .withdraw _ | .restart => True
  | _ => False

/-- Every other act keeps an approval current. -/
theorem ApprovedCurrent.step (h : ApprovedCurrent x) (step : Step P Eq x act y) (silent : ¬ act.Speaks) :
    ApprovedCurrent y := by
  cases step with
  | say | withdraw | restart => exact absurd trivial silent
  | quote sealed present => exact fun _ => ⟨rfl, _, rfl, present⟩
  | grant current record => exact fun _ => current
  | tamper => exact .withdrawn rfl
  | recommend token => exact h.keeps (keeps_recommended _ _)
  | _ => exact h

/-! ### Calls -/

/-- The amounts of the intent that a message makes of one with finite amounts are finite. -/
def Call.StatesFinite (cfg : Config) (call : Call) (s : Services) : Prop :=
  match call.command with
  | .respond o message .. => ∀ v outcome, (call.start s).view? o = some v → v.session.intent.Finite →
      interpretUserMessage cfg.platform v.clock message v.session.intent (proposed cfg message call.answer) =
        .ok outcome →
      (heardFrom cfg v.clock message call.answer v.session.intent outcome).2.Finite
  | _ => True

theorem RespondEnds.approvedCurrent {answer : (q : Query) → q.Answer} {result : Except ServiceError Reply}
    (ends : RespondEnds cfg message answer v result v') (h : ApprovedCurrent v.order)
    (finite : ∀ outcome, v.session.intent.Finite →
      interpretUserMessage cfg.platform v.clock message v.session.intent (proposed cfg message answer) =
        .ok outcome → (heardFrom cfg v.clock message answer v.session.intent outcome).2.Finite) :
    ApprovedCurrent v'.order := by
  cases ends with
  | heard said intent approval turn versions =>
      rcases approval with gone | keeps
      · exact .withdrawn gone
      · exact h.keeps keeps
  | misheard misheard legal accepts =>
      intro approved
      rw [misheard.order] at approved
      have current := h approved
      rcases misheard.intent with same | ⟨outcome, m, interpreted, made, undigested⟩
      · rw [misheard.order, same]
        exact current
      · -- The approved intent has a digest, so its amounts are finite, and what is made of it has one too.
        obtain ⟨-, r, -, digest⟩ := current
        have made' := finite outcome (intentDigest_isOk.mp ⟨_, digest⟩) interpreted
        rw [← made] at made'
        obtain ⟨d, digested⟩ := intentDigest_isOk.mpr made'
        rw [undigested] at digested
        cases digested

theorem PatchEnds.approvedCurrent {patch : Patch} {expected : Int} {result : Except ServiceError Reply}
    (ends : PatchEnds patch expected v result v') (h : ApprovedCurrent v.order) : ApprovedCurrent v'.order := by
  cases ends with
  | rejected invalid order legal =>
      rw [order]
      exact h
  | kept valid same keeps state refused => exact h.keeps keeps
  | undigested valid changed quoted unknown order legal =>
      rw [order]
      exact .withdrawn rfl
  | refused valid changed digested paying illegal order =>
      rw [order]
      exact .withdrawn rfl
  | changed valid changed shopping approval state legal later => exact .withdrawn approval

/-- The command is a message on the order or a patch of it. -/
def Command.Converses (o : String) : Command → Prop
  | .respond o' .. | .intentPatch o' .. => o' = o
  | _ => False

theorem Command.converses_of_acts {c : Contract Services Query.Answer} {s : Services} {command : Command}
    (acts : command.Acts cfg c s o x act) (speaks : act.Speaks) : command.Converses o := by
  cases act with
  | say intent =>
      rcases Command.acts_say acts with ⟨_, _, _, rfl⟩ | ⟨_, _, _, rfl, -⟩ <;> rfl
  | withdraw record =>
      rcases Command.acts_withdraw acts with ⟨_, _, _, _, rfl, -⟩ | ⟨_, _, _, rfl, -⟩ <;> rfl
  | restart =>
      obtain ⟨_, _, _, _, rfl, -⟩ := Command.acts_restart acts
      rfl
  | _ => exact absurd speaks id

variable {s : Services} {call : Call}

/-- A message or a patch that ends leaves an approval current. -/
theorem Call.approvedCurrent_of_converses (keyed : Keyed s) (converses : call.command.Converses o)
    (finite : call.StatesFinite cfg s) (start : OrderAt o ApprovedCurrent s) :
    OrderAt o ApprovedCurrent (call.final cfg s) := by
  have known : ¬ call.command.Opens := by
    cases command : call.command <;> rw [command] at converses <;> first | exact id | exact absurd converses id
  have ends := (Call.sound cfg (fun _ _ _ => True) known keyed fun _ _ _ _ => trivial).2
  cases at_ : (call.start s).view? o with
  | none => exact Call.keeps_unknown cfg known keyed at_
  | some v =>
  have current : ApprovedCurrent v.order := start v.order (order?_of_view at_ : (call.start s).order? o = _)
  suffices h : ∃ v', (call.final cfg s).view? o = some v' ∧ ApprovedCurrent v'.order by
    obtain ⟨v', at', current'⟩ := h
    intro x shown
    obtain rfl := Option.some.inj ((order?_of_view at').symm.trans shown)
    exact current'
  unfold Call.StatesFinite at finite
  cases command : call.command with
  | respond o' message supplied operationId =>
      rw [command] at converses ends finite
      obtain rfl : o' = o := converses
      obtain ⟨v', at', ⟨-, same, -⟩ | ⟨-, turn⟩⟩ := ends v at_
      · exact ⟨v', at', same ▸ current⟩
      · exact ⟨v', at', (turn call.answer Alone.alone).approvedCurrent current fun outcome sane read =>
          finite v outcome at_ sane read⟩
  | intentPatch o' patch expected =>
      rw [command] at converses ends
      obtain rfl : o' = o := converses
      obtain ⟨v', at', patched⟩ := ends v at_
      exact ⟨v', at', patched.approvedCurrent current⟩
  | _ =>
      rw [command] at converses
      exact absurd converses id

theorem Call.approvedCurrent (known : ¬ call.command.Opens) (keyed : Keyed s) (finite : call.StatesFinite cfg s)
    (start : OrderAt o ApprovedCurrent s) : OrderAt o ApprovedCurrent (call.final cfg s) := by
  by_cases converses : call.command.Converses o
  · exact Call.approvedCurrent_of_converses keyed converses finite start
  · refine (Call.keeps (fun o' _ act => o' = o → ¬ act.Speaks) known keyed ?_ ?_ start).2
    · rintro o' x act acts rfl speaks
      exact converses (Command.converses_of_acts acts speaks)
    · exact fun x act y current step silent => current.step step (silent rfl)

/-- In a run of direct calls from an opened order whose messages state finite amounts, what is approved has a
record for the present intent, and a valid quote. -/
theorem approval_current {start : Services} {history : History} (opened : Opened o start)
    (trace : Trace cfg (fun _ call s => call.command.Direct ∧ call.StatesFinite cfg s) start history s) :
    OrderAt o ApprovedCurrent s := by
  suffices both : OrderAt o ApprovedCurrent s ∧ Keyed s from both.1
  induction trace with
  | nil =>
      refine ⟨fun x at_ => ?_, opened.keyed⟩
      obtain rfl := Option.some.inj (opened.order.symm.trans at_)
      exact .withdrawn rfl
  | call call before allowed ih =>
      obtain ⟨current, keyed⟩ := ih
      exact ⟨Call.approvedCurrent allowed.1.known keyed allowed.2 current, keyed_final keyed⟩

end Orders

/-- The plain run to a payment keeps its approval, and it is current. -/
theorem approval_current_paid :
    ∃ x, paidServices.order? "ord_0" = some x ∧ x.approvalEventId.isSome = true ∧ x.Current := by
  have start : Trace plainConfig (fun _ call s => call.command.Direct ∧ call.StatesFinite plainConfig s)
      openedServices [] openedServices := .nil
  obtain ⟨history, trace⟩ := trace_paid _ start fun _ _ command mem => by
    simp only [quoting, approving, initiating, verifying, List.mem_append, List.mem_cons, List.not_mem_nil,
      or_false] at mem
    rcases mem with (((rfl | rfl | rfl) | rfl) | rfl) | rfl <;> exact ⟨trivial, trivial⟩
  have shown : (paidServices.order? "ord_0").map (·.approvalEventId.isSome) = some true := by decide +kernel
  obtain ⟨x, at_, approved⟩ := Option.map_eq_some_iff.mp shown
  exact ⟨x, at_, approved, approval_current opened_plain trace x at_ approved⟩

end AgentReady
