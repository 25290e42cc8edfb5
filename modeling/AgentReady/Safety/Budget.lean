import AgentReady.Lifecycle.Calls
import AgentReady.Lifecycle.Runs
import AgentReady.Services.LlmBudget

/-!
What a conversation spends on the model provider.

A message makes at most one call of each kind, so the attempts are counted by the messages, and the default
budget of attempts is never spent before the default number of messages is.

* `bounded_answers`: what the budget lets through, of any calls.
* `attempts_bounded`: the attempts of any conversation.
* `budget_unnoticed`: a budget of three attempts for each message changes nothing.
* `cost_bounded`: the ceiling of the cost.
-/

namespace AgentReady

open Coop

variable {π τ : Type}

/-! ### The wrapper -/

namespace Sample

/-- A provider that answers nothing, and counts the tokens that it bills. -/
def metered : LlmProvider (Nat × Nat) where
  enabled := true
  answer t call := ((t.1 + call.inputTokenCeiling, t.2 + call.outputTokenCap), call.fallback)

def asked : List Exchange := [⟨.respond "ord_0" "UK 9" none none, 0, obliging 0⟩]

end Sample

/-- The calls of a provider, each at its own price. -/
def Query.priced (price : LlmCall → Nat) : Query → Nat
  | .interpret message => price (.interpret message)
  | .extractSoftPreferences message => price (.extractSoftPreferences message)
  | .explainRecommendation message hits => price (.explainRecommendation message hits)
  | _ => 0

/-- The price of a call depends on its kind only. -/
def Uniform (price : LlmCall → Nat) : Prop :=
  (∀ m, price (.interpret m) = price (.interpret "")) ∧
    (∀ m, price (.extractSoftPreferences m) = price (.extractSoftPreferences "")) ∧
    ∀ m hits, price (.explainRecommendation m hits) = price (.explainRecommendation "" [])

theorem Uniform.priced {price : LlmCall → Nat} (uniform : Uniform price) :
    Priced (Query.priced price) (price (.interpret "")) (price (.extractSoftPreferences ""))
      (price (.explainRecommendation "" [])) where
  interpret message := (uniform.1 message).le
  extract message := (uniform.2.1 message).le
  explain message hits := (uniform.2.2 message hits).le
  others q other := by
    cases q
    case interpret | extractSoftPreferences | explainRecommendation => cases other
    all_goals rfl

section Measured

variable {cfg : Config} {provider : LlmProvider τ} {price : LlmCall → Nat} {measure : τ → Nat}

theorem answering_raises (raises : ∀ t call, measure (provider.answer t call).1 ≤ measure t + price call)
    (world : (q : Query) → q.Answer) (t : τ) (q : Query) :
    measure (answering provider world t q).1 ≤ measure t + q.priced price := by
  cases q
  case interpret message => exact raises t _
  case extractSoftPreferences message => exact raises t _
  case explainRecommendation message hits => exact raises t _
  all_goals exact Nat.le_add_right _ _

/-- A measure that a call raises by no more than its price is raised, by an operation, by no more than the
price of the three calls that a message may make. -/
theorem run_measure (cfg : Config) (uniform : Uniform price)
    (raises : ∀ t call, measure (provider.answer t call).1 ≤ measure t + price call) (c : Conversation τ)
    (x : Exchange) :
    measure (c.run cfg provider x).provider ≤
      measure c.provider + if x.command.isMessage then perTurn price else 0 := by
  have costs : (x.command.op cfg).Costs (Query.priced price) _ := costs_op uniform.priced x.command
  have served := costs.serve_le measure (answering_raises raises x.world) c.provider
    { c.services with clock := x.time }
  refine served.trans (Nat.add_le_add_left ?_ _)
  cases x.command <;> exact le_rfl

theorem next_measure (cfg : Config) (uniform : Uniform price)
    (raises : ∀ t call, measure (provider.answer t call).1 ≤ measure t + price call) (maxMessages : Nat)
    (c : Conversation τ) (x : Exchange) :
    measure (c.next cfg provider maxMessages x).provider + perTurn price * c.messages ≤
      measure c.provider + perTurn price * (c.next cfg provider maxMessages x).messages := by
  have ran : ∀ c : Conversation τ, _ := fun c => run_measure cfg uniform raises c x
  unfold Conversation.next
  cases message : x.command.isMessage with
  | false =>
      have ran := ran c
      rw [message] at ran
      exact Nat.add_le_add_right ran _
  | true =>
      rw [if_pos rfl]
      cases begun : beginMessage maxMessages c.messages with
      | none => exact le_rfl
      | some messages =>
          have ran := ran { c with messages }
          rw [message, if_pos rfl] at ran
          have one_more : messages = c.messages + 1 := by
            unfold beginMessage at begun
            split at begun
            · cases begun
            · exact (Option.some.inj begun).symm
          change measure (Conversation.run cfg provider { c with messages } x).provider + _ ≤ _ + perTurn price * messages
          rw [one_more, Nat.mul_succ]
          exact Nat.le_trans (Nat.add_le_add_right ran _) (by dsimp only; omega)

/-- In a conversation the measure grows with the messages. -/
theorem after_measure (cfg : Config) (uniform : Uniform price)
    (raises : ∀ t call, measure (provider.answer t call).1 ≤ measure t + price call) (maxMessages : Nat)
    (c : Conversation τ) (exchanges : List Exchange) :
    measure (c.after cfg provider maxMessages exchanges).provider + perTurn price * c.messages ≤
      measure c.provider + perTurn price * (c.after cfg provider maxMessages exchanges).messages := by
  induction exchanges generalizing c with
  | nil => exact le_rfl
  | cons x rest ih =>
      have first := next_measure cfg uniform raises maxMessages c x
      have later := ih (c.next cfg provider maxMessages x)
      unfold Conversation.after at later ⊢
      rw [List.foldl_cons]
      omega

end Measured

theorem messages_next {cfg : Config} {provider : LlmProvider τ} {maxMessages : Nat} {c : Conversation τ} {x : Exchange}
    (within : c.messages ≤ maxMessages) : (c.next cfg provider maxMessages x).messages ≤ maxMessages := by
  unfold Conversation.next
  cases x.command.isMessage with
  | false => exact within
  | true =>
      rw [if_pos rfl]
      unfold beginMessage
      split
      · exact within
      · rename_i messages begun
        split at begun
        · cases begun
        · obtain rfl := Option.some.inj begun
          change c.messages + 1 ≤ maxMessages
          omega

theorem messages_after {cfg : Config} {provider : LlmProvider τ} {maxMessages : Nat} {c : Conversation τ}
    (within : c.messages ≤ maxMessages) (exchanges : List Exchange) :
    (c.after cfg provider maxMessages exchanges).messages ≤ maxMessages := by
  induction exchanges generalizing c with
  | nil => exact within
  | cons x rest ih => exact ih (messages_next within)

/-! ### Attempts -/

section Attempts

variable (cfg : Config) (inner : LlmProvider π) (maxMessages maxAttempts : Nat) {x : Exchange}

theorem used_raises (p : Bounded π) (call : LlmCall) :
    ((createBoundedLlmProvider inner maxAttempts).answer p call).1.used ≤ p.used + 1 := by
  unfold createBoundedLlmProvider consume
  dsimp only
  split
  · exact Nat.le_succ _
  · rename_i used begun
    split at begun
    · obtain rfl := Option.some.inj begun
      exact Nat.le_succ _
    · split at begun
      · cases begun
      · obtain rfl := Option.some.inj begun
        exact le_rfl

theorem used_within {p : Bounded π} (within : p.used ≤ maxAttempts) (call : LlmCall) :
    ((createBoundedLlmProvider inner maxAttempts).answer p call).1.used ≤ maxAttempts := by
  unfold createBoundedLlmProvider consume
  dsimp only
  split
  · exact within
  · rename_i used begun
    split at begun
    · obtain rfl := Option.some.inj begun
      exact within
    · split at begun
      · cases begun
      · rename_i left
        obtain rfl := Option.some.inj begun
        change p.used + 1 ≤ maxAttempts
        omega

theorem answering_within (world : (q : Query) → q.Answer) {p : Bounded π} (q : Query) (within : p.used ≤ maxAttempts) :
    (answering (createBoundedLlmProvider inner maxAttempts) world p q).1.used ≤ maxAttempts := by
  cases q
  case interpret | extractSoftPreferences | explainRecommendation => exact used_within inner maxAttempts within _
  all_goals exact within

theorem after_within (c : Conversation (Bounded π)) (within : c.provider.used ≤ maxAttempts) (exchanges : List Exchange) :
    (c.after cfg (createBoundedLlmProvider inner maxAttempts) maxMessages exchanges).provider.used ≤ maxAttempts := by
  have ran : ∀ (c : Conversation (Bounded π)) x, c.provider.used ≤ maxAttempts →
      (c.run cfg (createBoundedLlmProvider inner maxAttempts) x).provider.used ≤ maxAttempts := fun c x within =>
    Proc.serve_keeps (x.command.op cfg) (fun p : Bounded π => p.used ≤ maxAttempts)
      (fun _ q => answering_within inner maxAttempts x.world q) within _
  induction exchanges generalizing c with
  | nil => exact within
  | cons x rest ih =>
      refine ih (c.next cfg (createBoundedLlmProvider inner maxAttempts) maxMessages x) ?_
      unfold Conversation.next
      split
      · split
        · exact within
        · exact ran _ x within
      · exact ran _ x within

/-- However many operations are asked for and whatever is answered, a conversation uses no more attempts than
its budget, and no more than three for each message that it sent. -/
theorem attempts_bounded (s : Services) (p : π) (exchanges : List Exchange) :
    let c := (Conversation.mk s (Bounded.mk p 0) 0 []).after cfg (createBoundedLlmProvider inner maxAttempts) maxMessages
      exchanges
    c.messages ≤ maxMessages ∧ c.provider.used ≤ maxAttempts ∧ c.provider.used ≤ 3 * c.messages := by
  refine ⟨messages_after (Nat.zero_le _) exchanges, after_within cfg inner maxMessages maxAttempts _ (Nat.zero_le _) _, ?_⟩
  have each : Uniform fun _ => 1 := ⟨fun _ => rfl, fun _ => rfl, fun _ _ => rfl⟩
  have counted := after_measure cfg each (used_raises inner maxAttempts) maxMessages ⟨s, ⟨p, 0⟩, 0, []⟩ exchanges
  simpa [perTurn] using counted

/-- The bounded provider stands where the inner one does, and has some attempts left. -/
def Alike (left : Nat) (b : Bounded π) (p : π) : Prop :=
  b.inner = p ∧ (inner.enabled = true → b.used + left ≤ maxAttempts)

variable {inner maxAttempts}

theorem Alike.less {left left' : Nat} {b : Bounded π} {p : π} (le : left' ≤ left) (alike : Alike inner maxAttempts left b p) :
    Alike inner maxAttempts left' b p :=
  ⟨alike.1, fun enabled => Nat.le_trans (Nat.add_le_add_left le _) (alike.2 enabled)⟩

/-- With an attempt left, a call is answered as the inner provider answers it. -/
theorem Alike.answer {left : Nat} {b : Bounded π} {p : π} (alike : Alike inner maxAttempts left b p) (call : LlmCall)
    (affords : 1 ≤ left) :
    ((createBoundedLlmProvider inner maxAttempts).answer b call).2 = (inner.answer p call).2 ∧
      Alike inner maxAttempts (left - 1) ((createBoundedLlmProvider inner maxAttempts).answer b call).1
        (inner.answer p call).1 := by
  obtain ⟨rfl, lasts⟩ := alike
  cases enabled : inner.enabled with
  | false =>
      have passed : (createBoundedLlmProvider inner maxAttempts).answer b call =
          (⟨(inner.answer b.inner call).1, b.used⟩, (inner.answer b.inner call).2) := by
        simp [createBoundedLlmProvider, consume, enabled]
      rw [passed]
      refine ⟨rfl, rfl, fun on => ?_⟩
      rw [enabled] at on
      cases on
  | true =>
      have lasts := lasts enabled
      have left_over : ¬ maxAttempts ≤ b.used := by omega
      have passed : (createBoundedLlmProvider inner maxAttempts).answer b call =
          (⟨(inner.answer b.inner call).1, b.used + 1⟩, (inner.answer b.inner call).2) := by
        simp [createBoundedLlmProvider, consume, enabled, left_over]
      rw [passed]
      refine ⟨rfl, rfl, fun _ => ?_⟩
      change b.used + 1 + (left - 1) ≤ maxAttempts
      omega

theorem Alike.answering {left : Nat} {b : Bounded π} {p : π} (alike : Alike inner maxAttempts left b p)
    (world : (q : Query) → q.Answer) (q : Query) (affords : q.priced (fun _ => 1) ≤ left) :
    (answering (createBoundedLlmProvider inner maxAttempts) world b q).2 = (answering inner world p q).2 ∧
      Alike inner maxAttempts (left - q.priced fun _ => 1)
        (answering (createBoundedLlmProvider inner maxAttempts) world b q).1 (answering inner world p q).1 := by
  cases q
  case interpret message =>
    obtain ⟨same, next⟩ := alike.answer (.interpret message) affords
    exact ⟨congrArg (fun r => (⟨Except.toOption r, _⟩ : Query.Answer (.interpret message))) same, next⟩
  case extractSoftPreferences message =>
    obtain ⟨same, next⟩ := alike.answer (.extractSoftPreferences message) affords
    exact ⟨congrArg (fun r => (⟨r, _⟩ : Query.Answer (.extractSoftPreferences message))) same, next⟩
  case explainRecommendation message hits =>
    obtain ⟨same, next⟩ := alike.answer (.explainRecommendation message hits) affords
    exact ⟨congrArg (fun r => (⟨r, _⟩ : Query.Answer (.explainRecommendation message hits))) same, next⟩
  all_goals exact ⟨rfl, alike⟩

theorem run_alike (x : Exchange) (left : Nat) {c : Conversation (Bounded π)} {d : Conversation π}
    (services : c.services = d.services) (replies : c.replies = d.replies)
    (alike : Alike inner maxAttempts ((if x.command.isMessage then 3 else 0) + left) c.provider d.provider) :
    (c.run cfg (createBoundedLlmProvider inner maxAttempts) x).services = (d.run cfg inner x).services ∧
      (c.run cfg (createBoundedLlmProvider inner maxAttempts) x).replies = (d.run cfg inner x).replies ∧
      Alike inner maxAttempts left (c.run cfg (createBoundedLlmProvider inner maxAttempts) x).provider
        (d.run cfg inner x).provider := by
  have each : Uniform fun _ => 1 := ⟨fun _ => rfl, fun _ => rfl, fun _ _ => rfl⟩
  have costs : (x.command.op cfg).Costs (Query.priced fun _ => 1) _ := costs_op each.priced x.command
  have price : x.command.price 1 1 1 = if x.command.isMessage then 3 else 0 := by
    cases x.command <;> rfl
  rw [price] at costs
  have served := costs.serve_same (Alike inner maxAttempts)
    (fun left b p q alike affords => alike.answering x.world q affords)
    (fun _ _ _ _ le alike => alike.less le) alike { d.services with clock := x.time }
  unfold Conversation.run
  dsimp only
  rw [services, replies]
  exact ⟨congrArg (fun done => done.2) served.1, congrArg (fun done => d.replies ++ [done.1]) served.1, served.2⟩

end Attempts

/-- A budget of three attempts for each message that may be sent is never noticed: a conversation goes as it
would go without it. -/
theorem budget_unnoticed (cfg : Config) (inner : LlmProvider π) {maxMessages maxAttempts : Nat}
    (lasts : 3 * maxMessages ≤ maxAttempts) (s : Services) (p : π) (exchanges : List Exchange) :
    let bounded := (Conversation.mk s (Bounded.mk p 0) 0 []).after cfg (createBoundedLlmProvider inner maxAttempts)
      maxMessages exchanges
    let free := (Conversation.mk s p 0 []).after cfg inner maxMessages exchanges
    bounded.services = free.services ∧ bounded.replies = free.replies ∧ bounded.messages = free.messages ∧
      bounded.provider.inner = free.provider := by
  suffices law : ∀ (c : Conversation (Bounded π)) (d : Conversation π), c.services = d.services → c.replies = d.replies →
      c.messages = d.messages → c.messages ≤ maxMessages →
      Alike inner maxAttempts (3 * (maxMessages - c.messages)) c.provider d.provider →
      let c := c.after cfg (createBoundedLlmProvider inner maxAttempts) maxMessages exchanges
      let d := d.after cfg inner maxMessages exchanges
      c.services = d.services ∧ c.replies = d.replies ∧ c.messages = d.messages ∧ c.provider.inner = d.provider by
    refine law _ _ rfl rfl rfl (Nat.zero_le _) ⟨rfl, fun _ => ?_⟩
    simpa using lasts
  induction exchanges with
  | nil => exact fun c d services replies messages _ alike => ⟨services, replies, messages, alike.1⟩
  | cons x rest ih =>
      intro c d services replies messages within alike
      change let c := (c.next cfg (createBoundedLlmProvider inner maxAttempts) maxMessages x).after cfg _ maxMessages rest
        let d := (d.next cfg inner maxMessages x).after cfg inner maxMessages rest
        c.services = d.services ∧ c.replies = d.replies ∧ c.messages = d.messages ∧ c.provider.inner = d.provider
      unfold Conversation.next
      rw [← messages]
      cases message : x.command.isMessage with
      | false =>
          obtain ⟨services, replies, alike⟩ := run_alike cfg x (3 * (maxMessages - c.messages)) services
            replies (by rwa [message, if_neg Bool.false_ne_true, Nat.zero_add])
          exact ih _ _ services replies messages within alike
      | true =>
          rw [if_pos rfl, if_pos rfl]
          by_cases reached : maxMessages ≤ c.messages
          · rw [show beginMessage maxMessages c.messages = none from if_pos reached]
            exact ih c d services replies messages within alike
          · rw [show beginMessage maxMessages c.messages = some (c.messages + 1) from if_neg reached]
            obtain ⟨services, replies, alike⟩ := run_alike cfg x (3 * (maxMessages - (c.messages + 1)))
              (c := { c with messages := c.messages + 1 }) (d := { d with messages := c.messages + 1 }) services replies
              (alike.less (by rw [message, if_pos rfl]; omega))
            exact ih _ _ services replies rfl (by change c.messages + 1 ≤ maxMessages; omega) alike

/-- The default limits are such. -/
theorem budget_unnoticed_default :
    ((Conversation.mk openedServices (Bounded.mk (0, 0) 0) 0 []).after plainConfig
      (createBoundedLlmProvider Sample.metered defaultMaxAttempts) defaultMaxMessages Sample.asked).replies =
    ((Conversation.mk openedServices (0, 0) 0 []).after plainConfig Sample.metered defaultMaxMessages
      Sample.asked).replies :=
  (budget_unnoticed plainConfig Sample.metered (by decide) openedServices (0, 0) Sample.asked).2.1

/-! ### Cost -/

/-- If every call is billed for no more than its input ceiling and its output cap, a conversation costs no more
than `maxSessionCostUsd` of the messages that may be sent. -/
theorem cost_bounded (cfg : Config) (provider : LlmProvider τ) (maxMessages : Nat) {pricing : ModelPricing}
    (priced : 0 ≤ pricing.inputPerMillionUsd ∧ 0 ≤ pricing.outputPerMillionUsd) {inputTokens outputTokens : τ → Nat}
    (input : ∀ t call, inputTokens (provider.answer t call).1 ≤ inputTokens t + call.inputTokenCeiling)
    (output : ∀ t call, outputTokens (provider.answer t call).1 ≤ outputTokens t + call.outputTokenCap)
    (s : Services) (t : τ) (fresh : inputTokens t = 0 ∧ outputTokens t = 0) (exchanges : List Exchange) :
    let c := (Conversation.mk s t 0 []).after cfg provider maxMessages exchanges
    pricing.costUsd (inputTokens c.provider) (outputTokens c.provider) ≤ maxSessionCostUsd pricing maxMessages := by
  have bounded : ∀ (measure : τ → Nat) (price : LlmCall → Nat), Uniform price → measure t = 0 →
      (∀ t call, measure (provider.answer t call).1 ≤ measure t + price call) →
      measure ((Conversation.mk s t 0 []).after cfg provider maxMessages exchanges).provider ≤
        maxMessages * perTurn price := by
    intro measure price uniform zero raises
    have counted := after_measure cfg uniform raises maxMessages ⟨s, t, 0, []⟩ exchanges
    have sent : ((Conversation.mk s t 0 []).after cfg provider maxMessages exchanges).messages ≤ maxMessages :=
      messages_after (Nat.zero_le _) exchanges
    calc measure ((Conversation.mk s t 0 []).after cfg provider maxMessages exchanges).provider
        ≤ perTurn price * ((Conversation.mk s t 0 []).after cfg provider maxMessages exchanges).messages := by
          simpa [zero] using counted
      _ ≤ perTurn price * maxMessages := Nat.mul_le_mul_left _ sent
      _ = maxMessages * perTurn price := Nat.mul_comm _ _
  have billed_input := bounded inputTokens _ ⟨fun _ => rfl, fun _ => rfl, fun _ _ => rfl⟩ fresh.1 input
  have billed_output := bounded outputTokens _ ⟨fun _ => rfl, fun _ => rfl, fun _ _ => rfl⟩ fresh.2 output
  unfold ModelPricing.costUsd maxSessionCostUsd
  have in_ := mul_le_mul_of_nonneg_right (Nat.cast_le (α := ℚ).mpr billed_input) priced.1
  have out_ := mul_le_mul_of_nonneg_right (Nat.cast_le (α := ℚ).mpr billed_output) priced.2
  push_cast at in_ out_
  dsimp only
  gcongr

theorem cost_bounded_metered :
    let c := (Conversation.mk openedServices (0, 0) 0 []).after plainConfig Sample.metered defaultMaxMessages Sample.asked
    grokBuild01Pricing.costUsd c.provider.1 c.provider.2 ≤ maxSessionCostUsd grokBuild01Pricing defaultMaxMessages :=
  cost_bounded plainConfig Sample.metered defaultMaxMessages ⟨zero_le_one, zero_le_two⟩ (fun _ _ => le_rfl)
    (fun _ _ => le_rfl) openedServices (0, 0) ⟨rfl, rfl⟩ Sample.asked

end AgentReady
