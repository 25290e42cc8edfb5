import AgentReady.Lifecycle.Acting

/-!
Runs of the services: calls that run to completion one after another.

A `Call` is a command with the answers it is given and the time at which it is made. A
`Trace` keeps the history of a run: every write and every answered outside call.

* `Call.sound`: a call keeps its contract at every event, and ends as its command ends.
* `Call.keeps`: an invariant of orders that every licensed step keeps holds at every event.
* `keyed_of_trace`: in every run that starts keyed, the store stays keyed.
-/

namespace AgentReady

open Coop Svc

structure Call where
  command : Command
  answer : (q : Query) → q.Answer
  time : Int

/-- The writes and the answered outside calls of a run, in order. -/
abbrev History := List (Event Services Query.Answer)

namespace Call

/-- The services when the call starts. -/
def start (call : Call) (s : Services) : Services := { s with clock := call.time }

def run (cfg : Config) (call : Call) (s : Services) :
    Coop.Run Services ServiceError Query.Answer Reply :=
  (call.command.op cfg).run call.answer (call.start s)

/-- The services after the call. -/
def final (cfg : Config) (call : Call) (s : Services) : Services := (call.run cfg s).final

def events (cfg : Config) (call : Call) (s : Services) : History := (call.run cfg s).events

/-- The call runs alone, and every answer it is given is part of its run. -/
def contract (cfg : Config) (lic : String → Order → Act → Prop) (call : Call) (s : Services) :
    Contract Services Query.Answer :=
  alone cfg.platform lic call.command.Concerns call.answer fun q at_ =>
    .called q (call.answer q) at_ ∈ call.events cfg s

@[simp] theorem order?_start (call : Call) (s : Services) (o : String) :
    (call.start s).order? o = s.order? o := rfl

theorem view_start (call : Call) {s : Services} {o : String} {β : Type} {f : Order → β} {b : β}
    (known : (s.order? o).map f = some b) : ∃ v, (call.start s).view? o = some v ∧ f v.order = b :=
  view_of_map known

end Call

/-- A run of calls that are each allowed, from `start`: its history, and the services that it
leaves. -/
inductive Trace (cfg : Config) (ok : History → Call → Services → Prop) (start : Services) :
    History → Services → Prop where
  | nil : Trace cfg ok start [] start
  | call {history : History} {s : Services} (call : Call)
      (before : Trace cfg ok start history s) (allowed : ok history call s) :
      Trace cfg ok start (history ++ call.events cfg s) (call.final cfg s)

/-! ### Soundness -/

section Sound

variable {cfg : Config} {lic : String → Order → Act → Prop} {call : Call} {s : Services}

theorem Call.sound (cfg : Config) (lic : String → Order → Act → Prop) (known : ¬ call.command.Opens) (keyed : Keyed s)
    (licensed : ∀ o x act, call.command.Acts cfg (call.contract cfg lic s) (call.start s) o x act →
      lic o x act) :
    (∀ e ∈ call.events cfg s, e.Keeps (call.contract cfg lic s)) ∧
      call.command.Ends cfg (call.contract cfg lic s) (call.start s) (call.run cfg s).result
        (call.final cfg s) := by
  have meets : (call.command.op cfg).Meets (call.contract cfg lic s)
      (call.command.Ends cfg (call.contract cfg lic s) (call.start s)) (call.start s) :=
    Command.meets known (fun o on => Lawful.alone on) keyed licensed
  exact meets.run (fun _ => rfl) fun q s' mem => ⟨rfl, mem⟩

/-- A property of the order under an id, where there is one. -/
def OrderAt (o : String) (p : Order → Prop) (s : Services) : Prop := ∀ x, s.order? o = some x → p x

/-- A property that every licensed step keeps is kept by every write. -/
theorem Advances.keeps {P : Platform} {seen : Order → Order → Prop} {o : String} {p : Order → Prop}
    (step : ∀ x act y, p x → Step P seen x act y → lic o x act → p y) {s' : Services}
    (holds : OrderAt o p s) (h : Advances P seen lic s s') : OrderAt o p s' := by
  intro y at_
  rcases h.orders o with same | ⟨x, act, y', before, after, step', licensed⟩
  · exact holds y (same ▸ at_)
  · obtain rfl := Option.some.inj (after.symm.trans at_)
    exact step x act _ (holds x before) step' licensed

theorem Call.leads : Leads (call.start s) (call.events cfg s) (call.final cfg s) :=
  Proc.run_leads _ _ _

theorem Call.keeps (lic : String → Order → Act → Prop) {o : String} {p : Order → Prop} (known : ¬ call.command.Opens) (keyed : Keyed s)
    (licensed : ∀ o x act, call.command.Acts cfg (call.contract cfg lic s) (call.start s) o x act →
      lic o x act)
    (step : ∀ x act y, p x → Step cfg.platform Eq x act y → lic o x act → p y)
    (start : OrderAt o p s) :
    (∀ e ∈ call.events cfg s, e.At (OrderAt o p)) ∧ OrderAt o p (call.final cfg s) := by
  have keeps := (Call.sound cfg lic known keyed licensed).1
  have each : ∀ s s', OrderAt o p s → (call.contract cfg lic s).guar s s' → OrderAt o p s' :=
    fun _ _ holds advances => advances.keeps step holds
  exact ⟨Call.leads.throughout each keeps start, Call.leads.invariant each keeps start⟩

/-- An order that is not known stays unknown. -/
theorem Call.keeps_unknown (cfg : Config) {o : String} (known : ¬ call.command.Opens)
    (keyed : Keyed s) (unknown : (call.start s).view? o = none) {p : Order → Prop} :
    OrderAt o p (call.final cfg s) := by
  have start : OrderAt o (fun _ => False) s := by
    intro x at_
    rw [← call.order?_start, Services.order?_eq, unknown] at at_
    cases at_
  have final : OrderAt o (fun _ => False) (call.final cfg s) :=
    (Call.keeps (fun _ _ _ => True) known keyed (fun _ _ _ _ => trivial)
      (fun _ _ _ h _ _ => h) start).2
  exact fun x at_ => absurd (final x at_) id

/-! ### Creating sessions -/

/-- The order id that a call draws first. -/
def Call.drawnId (cfg : Config) (s : Services) : String := cfg.platform.newId "ord" s.draws

/-- A call that creates a session leaves the orders as they were, forgets some, and adds one under
the id it draws. -/
theorem Call.creates (cfg : Config) (s : Services) (opens : call.command.Opens) :
    (∀ e ∈ call.events cfg s, e.At (Creates (Call.drawnId cfg s) s)) ∧
      Creates (Call.drawnId cfg s) s (call.final cfg s) := by
  obtain ⟨command, answer, time⟩ := call
  cases command with
  | createSession operationId =>
      have meets : (createSession cfg operationId).Meets (creating (Call.drawnId cfg s))
          (fun _ _ => True) { s with clock := time } := createSession_meets
      have keeps : ∀ e ∈ ((createSession cfg operationId).run answer { s with clock := time }).events,
          e.Keeps (creating (Call.drawnId cfg s)) :=
        (meets.run (fun _ => rfl) fun _ _ _ => trivial).1
      have start : Creates (Call.drawnId cfg s) s { s with clock := time } := .of_orders fun _ _ => id
      have leads := Proc.run_leads answer (createSession cfg operationId) { s with clock := time }
      exact ⟨leads.throughout (fun _ _ h => h.trans) keeps start,
        leads.invariant (fun _ _ h => h.trans) keeps start⟩
  | _ => cases opens

/-! ### Keyed stores -/

theorem keyed_final (keyed : Keyed s) : Keyed (call.final cfg s) := by
  by_cases opens : call.command.Opens
  · intro o x at_
    rcases (Call.creates cfg s opens).2 o x at_ with before | ⟨rfl, named⟩
    · exact keyed o x before
    · exact named
  · intro o
    refine (Call.keeps (fun _ _ _ => True) opens keyed (fun _ _ _ _ => trivial) ?_
      (keyed o)).2
    exact fun x act y at_ step _ => step.id_eq.trans at_

theorem keyed_of_trace {ok : History → Call → Services → Prop} {start : Services}
    {history : History} (keyed : Keyed start) (trace : Trace cfg ok start history s) : Keyed s := by
  induction trace with
  | nil => exact keyed
  | call _ _ _ before => exact keyed_final before

end Sound

/-! ### Runs on an order -/

/-- What a client or a payment provider may call on an order that exists. Only a delivery marks an
order as verified. -/
def Command.Direct : Command → Prop
  | .createSession _ | .markVerifiedFromWebhook .. => False
  | _ => True

theorem Command.Direct.known {command : Command} (direct : command.Direct) : ¬ command.Opens := by
  cases command with
  | createSession => cases direct
  | _ => exact id

/-- The record of an order is for that order. -/
def NamedFor (o : String) (x : Order) : Prop :=
  ∀ r, x.record = some r → r.envelope.logicalOrderId = o

/-- Every record is for its order. -/
def AllNamed (s : Services) : Prop := ∀ o, OrderAt o (NamedFor o) s

/-- A session was just created under an id, in a store in which sessions and records stand under
their own order ids. -/
structure Opened (o : String) (s : Services) : Prop where
  keyed : Keyed s
  named : AllNamed s
  blank : ∃ time, s.sessions.get? o = some (newSession o time)
  unquoted : s.envelopes.get? o = none

/-- The order of a new session. -/
def blankOrder (o : String) : Order := (newSession o 0).order none

theorem Opened.order {o : String} {s : Services} (h : Opened o s) : s.order? o = some (blankOrder o) := by
  obtain ⟨_, blank⟩ := h.blank
  simp only [Services.order?, blank, h.unquoted, Option.map_some, blankOrder, Session.order,
    newSession]

/-- The event sets the state of the order to `PAID_VERIFIED`; the order is then `x`. -/
def EntersPaid (o : String) (x : Order) : Event Services Query.Answer → Prop
  | .wrote before after => (∀ y, before.order? o = some y → y.state ≠ .paidVerified) ∧
      after.order? o = some x ∧ x.state = .paidVerified
  | .called .. => False

section Entering

variable {P : Platform} {seen : Order → Order → Prop} {lic : String → Order → Act → Prop}
  {s s' : Services} {o : String} {x : Order}

/-- Only a licensed move of a pending payment, with evidence of it, sets the state to
`PAID_VERIFIED`. -/
theorem EntersPaid.from_pending (enters : EntersPaid o x (.wrote s s'))
    (advances : Advances P seen lic s s') :
    ∃ y, s.order? o = some y ∧ y.state = .paymentPending ∧ lic o y (.move .paidVerified) ∧
      Admits seen y .paidVerified ∧ x = { y with state := .paidVerified } := by
  obtain ⟨unpaid, after, paid⟩ := enters
  rcases advances.orders o with same | ⟨y, act, z, before, after', step, licensed⟩
  · exact absurd paid (unpaid x (same.symm.trans after))
  · obtain rfl := Option.some.inj (after'.symm.trans after)
    have other := unpaid y before
    cases step with
    | @move _ next allowed admitted =>
        obtain rfl : next = .paidVerified := paid
        refine ⟨y, before, ?_, licensed, admitted, rfl⟩
        revert allowed
        cases y.state <;> decide
    | clarify => cases paid
    | _ => exact absurd paid other

end Entering

/-! ### Runs from no sessions -/

theorem newId_injective {P : Platform} (distinct : Function.Injective P.randomHex) (tag : String) :
    Function.Injective (P.newId tag) := by
  intro n m same
  refine distinct (String.ext ?_)
  have lists := congrArg String.toList same
  simpa [Platform.newId] using lists

/-- A run of calls with nothing asked of them, from services without a session. -/
def Reached (cfg : Config) (history : History) (s : Services) : Prop :=
  ∃ time, Trace cfg (fun _ _ _ => True) { clock := time } history s

theorem keyed_of_reached {cfg : Config} {history : History} {s : Services}
    (reached : Reached cfg history s) : Keyed s := by
  obtain ⟨_, trace⟩ := reached
  exact keyed_of_trace (by rintro _ _ ⟨⟩) trace

/-- A platform that keeps every text as its own digest. -/
def plainPlatform : Platform where
  sha256 := id
  hmacSha256 secret payload := secret ++ payload
  randomHex := toString
  parseDate _ := none
  parseJson _ := none
  localOffset := 0

theorem plainPlatform_injective : Function.Injective plainPlatform.randomHex := by
  intro a b same
  have read := congrArg (fun text : String => Nat.ofDigitChars 10 text.toList 0) same
  simpa [plainPlatform, Nat.toList_repr, Nat.ofDigitChars_ten_toDigits] using read

/-- A mock configuration without a model provider. -/
def plainConfig : Config := ⟨plainPlatform, "signing", "secret", true, false, .mock⟩

/-- An outside that does what it is asked, and offers nothing else. -/
def obliging (time : Int) : (q : Query) → q.Answer
  | .yield => ⟨(), time⟩
  | .interpret _ | .extractSoftPreferences _ => ⟨none, time⟩
  | .explainRecommendation .. => ⟨none, time⟩
  | .initiate envelope =>
      ⟨.ok ⟨"att", envelope.logicalOrderId, .razorpayCheckout,
        some ("order_" ++ envelope.logicalOrderId), "created", "", envelope.totalMinor,
        envelope.currency⟩, time⟩
  | .verify input =>
      ⟨.ok ⟨true, input.rail, input.externalOrderId, input.externalPaymentId,
        input.expectedAmountMinor, "INR", "captured", none⟩, time⟩
  | .compensate _ => ⟨.ok ⟨true, .razorpayCheckout, some "rfnd", none⟩, time⟩
  | .devnetResource => ⟨.error "off", time⟩
  | .findActiveAttempt .. => ⟨.ok none, time⟩
  | .decryptStoredPayload _ => ⟨.error "off", time⟩
  | .prepareDevnetSpend .. => ⟨.error "off", time⟩
  | .runDevnetSpend .. => ⟨.error "off", time⟩

/-- A call of a command at time zero, obligingly answered. -/
def Command.plain (command : Command) : Call := ⟨command, obliging 0, 0⟩

/-- The services after plain calls. -/
def Services.after (s : Services) (commands : List Command) : Services :=
  commands.foldl (fun s command => command.plain.final plainConfig s) s

theorem Services.after_append (s : Services) (xs ys : List Command) :
    s.after (xs ++ ys) = (s.after xs).after ys :=
  List.foldl_append

theorem Trace.after {ok : History → Call → Services → Prop} {start s : Services} {history : History}
    (trace : Trace plainConfig ok start history s) (commands : List Command)
    (allowed : ∀ history s, ∀ command ∈ commands, ok history command.plain s) :
    ∃ history, Trace plainConfig ok start history (s.after commands) := by
  induction commands generalizing history s with
  | nil => exact ⟨_, trace⟩
  | cons command rest ih =>
      refine ih (.call command.plain trace (allowed _ _ _ List.mem_cons_self)) ?_
      exact fun history s command mem => allowed history s command (List.mem_cons_of_mem _ mem)

/-- A session. -/
def openedServices : Services := Services.after { clock := 0 } [.createSession none]

def quoting : List Command :=
  [.intentPatch "ord_0" [("size", .str "UK 9")] 0, .intentPatch "ord_0" [("useCase", .str "road")] 1,
    .buildQuote "ord_0" "p_streak_4" none none]

/-- A session with a quote. -/
def quotedServices : Services := openedServices.after quoting

def approving : List Command :=
  [.approve "ord_0" (((quotedServices.envelopes.get? "ord_0").map (·.digest)).getD "") none]

/-- The quote is approved. -/
def approvedServices : Services := quotedServices.after approving

def initiating : List Command := [.initiatePayment "ord_0" "razorpay_checkout" none]

/-- A payment is initiated. -/
def pendingServices : Services := approvedServices.after initiating

def verifying : List Command := [.verifyPayment "ord_0" "order_ord_0" "pay_0" "signature" none]

/-- The payment is verified. -/
def paidServices : Services := pendingServices.after verifying

/-- The plain run from a session to its payment. -/
theorem trace_paid (ok : History → Call → Services → Prop) {start : Services} {history : History}
    (trace : Trace plainConfig ok start history openedServices)
    (allowed : ∀ history s, ∀ command ∈ quoting ++ approving ++ initiating ++ verifying,
      ok history command.plain s) :
    ∃ history, Trace plainConfig ok start history paidServices := by
  simp only [List.mem_append] at allowed
  obtain ⟨_, quoted⟩ := trace.after quoting fun history s command mem =>
    allowed history s command (.inl (.inl (.inl mem)))
  obtain ⟨_, approved⟩ := quoted.after approving fun history s command mem =>
    allowed history s command (.inl (.inl (.inr mem)))
  obtain ⟨_, pending⟩ := approved.after initiating fun history s command mem =>
    allowed history s command (.inl (.inr mem))
  exact pending.after verifying fun history s command mem => allowed history s command (.inr mem)

theorem keyed_opened : Keyed openedServices := keyed_final (by rintro _ _ ⟨⟩)

theorem keyed_after {s : Services} (keyed : Keyed s) (commands : List Command) : Keyed (s.after commands) := by
  induction commands generalizing s with
  | nil => exact keyed
  | cons command rest ih => exact ih (keyed_final keyed)

theorem opened_plain : Opened "ord_0" openedServices := by
  have unquoted : openedServices.envelopes = ∅ := rfl
  refine ⟨keyed_opened, fun o x at_ r record => ?_, ⟨0, rfl⟩, rfl⟩
  obtain ⟨session, -, rfl⟩ := Option.map_eq_some_iff.mp at_
  rw [unquoted] at record
  cases record

/-- A plain run from the start. -/
theorem reached_after (commands : List Command) :
    ∃ history, Reached plainConfig history (Services.after { clock := 0 } commands) := by
  have start : Trace plainConfig (fun _ _ _ => True) { clock := 0 } [] { clock := 0 } := .nil
  obtain ⟨history, trace⟩ := start.after commands fun _ _ _ _ => trivial
  exact ⟨history, 0, trace⟩

theorem reached_approved : ∃ history, Reached plainConfig history approvedServices := by
  have reached := reached_after ([.createSession none] ++ quoting ++ approving)
  simp only [Services.after_append] at reached
  exact reached

theorem reached_pending : ∃ history, Reached plainConfig history pendingServices := by
  have reached := reached_after ([.createSession none] ++ quoting ++ approving ++ initiating)
  simp only [Services.after_append] at reached
  exact reached

theorem reached_paid : ∃ history, Reached plainConfig history paidServices := by
  have reached := reached_after ([.createSession none] ++ quoting ++ approving ++ initiating ++ verifying)
  simp only [Services.after_append] at reached
  exact reached

theorem state_paid : (paidServices.order? "ord_0").map Order.state = some .paidVerified := by
  decide +kernel

end AgentReady
