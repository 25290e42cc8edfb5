import AgentReady.Lifecycle.Runs

/-!
The state of an order moves along the transition table.

* `moves_along_edges`: from payment on, every command moves an order along edges of the table, at
  every write; what is paid, refunded or expired stays so.
-/

namespace AgentReady

open Coop

/-- A path of edges of the transition table. -/
def OrderState.Path : OrderState → OrderState → Prop :=
  Relation.ReflTransGen fun source target => target ∈ source.allowedTransitions

/-- The states from payment on. -/
def paymentStates : List OrderState :=
  [.paymentPending, .paymentFailed, .paidVerified, .fulfilmentPending, .fulfilmentFailed,
    .fulfilled, .compensationPending, .refunded, .manualReview, .expired]

/-- The states of an order that is paid, refunded or expired. -/
def closedStates : List OrderState :=
  [.paidVerified, .fulfilmentPending, .fulfilmentFailed, .fulfilled, .compensationPending,
    .refunded, .manualReview, .expired]

theorem OrderState.Path.closed {source target : OrderState} (path : source.Path target)
    (closed : source ∈ closedStates) : target ∈ closedStates := by
  induction path with
  | refl => exact closed
  | @tail state next _ edge ih =>
      revert edge ih
      cases state <;> cases next <;> decide

section

variable {cfg : Config} {s : Services} {o : String} {x : Order} {call : Call}

/-- A command other than `createSession`, on an order from payment on. -/
theorem Call.keeps_path (known : ¬ call.command.Opens) (keyed : Keyed s)
    (at_ : s.order? o = some x) (paying : x.state ∈ paymentStates) :
    (∀ e ∈ call.events cfg s, e.At (OrderAt o fun y => x.state.Path y.state)) ∧
      OrderAt o (fun y => x.state.Path y.state) (call.final cfg s) := by
  -- `intentPatch` assigns `CLARIFYING` only where it started in a shopping state.
  refine Call.keeps (fun o' _ act => o' = o → act ≠ .clarify) known keyed ?_ ?_ ?_
  · rintro _ y act acts rfl rfl
    obtain ⟨_, _, v, -, stored, -, shopping⟩ := Command.acts_clarify acts
    obtain rfl : v.order = x := Option.some.inj ((order?_of_view stored).symm.trans at_)
    revert paying shopping
    change v.order.state ∈ _ → v.order.state ∈ _ → False
    cases v.order.state <;> decide
  · intro y act z path step licensed
    rcases step.state_edge with same | edge | ⟨clarifies, -⟩
    · exact same ▸ path
    · exact path.tail edge
    · exact absurd clarifies (licensed rfl)
  · intro y stored
    obtain rfl := Option.some.inj (at_.symm.trans stored)
    exact .refl

/-- From payment on, every command moves an order along edges of the transition table, also where
it throws; what is paid, refunded or expired stays so. -/
theorem moves_along_edges {history : History} (reached : Reached cfg history s)
    (at_ : s.order? o = some x) (paying : x.state ∈ paymentStates)
    (drawn : call.command.Opens → Call.drawnId cfg s ≠ o) :
    (∀ e ∈ call.events cfg s, e.At (OrderAt o fun y => x.state.Path y.state)) ∧
      OrderAt o (fun y => x.state.Path y.state ∧ (x.state ∈ closedStates → y.state ∈ closedStates))
        (call.final cfg s) := by
  have keyed := keyed_of_reached reached
  have paths : (∀ e ∈ call.events cfg s, e.At (OrderAt o fun y => x.state.Path y.state)) ∧
      OrderAt o (fun y => x.state.Path y.state) (call.final cfg s) := by
    by_cases opens : call.command.Opens
    · have creates := Call.creates cfg s opens
      have unmoved : ∀ s', Creates (Call.drawnId cfg s) s s' →
          OrderAt o (fun y => x.state.Path y.state) s' := by
        intro s' made y stored
        rcases made o y stored with before | ⟨rfl, -⟩
        · obtain rfl := Option.some.inj (at_.symm.trans before)
          exact .refl
        · exact absurd rfl (drawn opens)
      exact ⟨fun e mem => (creates.1 e mem).mono unmoved, unmoved _ creates.2⟩
    · exact Call.keeps_path opens keyed at_ paying
  exact ⟨paths.1, fun y stored => ⟨paths.2 y stored, (paths.2 y stored).closed⟩⟩

end

theorem moves_along_edges_fulfil : ∃ history x, Reached plainConfig history paidServices ∧
    paidServices.order? "ord_0" = some x ∧ x.state = .paidVerified ∧
    OrderAt "ord_0" (fun y => x.state.Path y.state ∧
        (x.state ∈ closedStates → y.state ∈ closedStates))
      ((Command.fulfil "ord_0" false none).plain.final plainConfig paidServices) := by
  obtain ⟨history, reached⟩ := reached_paid
  obtain ⟨x, at_, paid⟩ := Option.map_eq_some_iff.mp state_paid
  exact ⟨history, x, reached, at_, paid,
    (moves_along_edges reached at_ (by rw [paid]; decide) fun opens => absurd opens id).2⟩

end AgentReady
