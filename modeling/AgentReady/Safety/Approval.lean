import AgentReady.Lifecycle.Runs

/-!
What is approved is what is paid.

The record, the approval and the state of an order are separate pieces. Most commands keep
them together at every write (`KeepsGrant`). `tamper` and `intentPatch` take them apart for a
while, and are followed to their ends. A quote, a message or a patch that replaces or deletes
the record of an approved order and is then refused leaves them apart: `Consistent` says
which calls do not do that.

* `approved_in_consistent_runs`: in every run of consistent calls, an order that is approved or
  pending payment has an approved record with the digest of its envelope, and so does an order
  that is set to `PAID_VERIFIED`.
-/

namespace AgentReady

open Coop Svc

/-- The states in which a payment is open: approved, or pending. -/
def openStates : List OrderState := [.approved, .paymentPending]

/-- The record has the digest of its envelope. -/
def SealedBy (P : Platform) (x : Order) : Prop :=
  ∀ r, x.record = some r → r.digest = P.envelopeDigest r.envelope

/-- Where a payment is open, the record was approved. -/
def Granted (x : Order) : Prop := x.state ∈ openStates → x.Approved

/-- A record exists, it was approved, and it has the digest of its envelope. -/
def Exact (P : Platform) (x : Order) : Prop :=
  x.approvalEventId.isSome ∧ ∃ r, x.record = some r ∧ x.approvedDigest = some r.digest ∧
    r.digest = P.envelopeDigest r.envelope

/-- The call does not replace or delete the record of an order whose payment is open, and then
fail. A quote is not accepted, a message does not change the intent or start over, and a patch
changes the intent only of an approved order, to one that has a digest. -/
def Call.Consistent (cfg : Config) (call : Call) (s : Services) : Prop :=
  match call.command with
  | .buildQuote o productId supplied operationId => ∀ v, (call.start s).view? o = some v →
      v.state ∈ openStates → buildQuoteRuns cfg (call.start s) o productId operationId →
      v.quote? cfg o productId supplied = none
  | .respond o message supplied operationId => ∀ v, (call.start s).view? o = some v →
      v.state ∈ openStates → respondRuns cfg (call.start s) o message supplied operationId →
      ¬ v.Overturns cfg message call.answer
  | .intentPatch o patch expected => ∀ v, (call.start s).view? o = some v →
      v.AcceptsPatch patch expected → v.patched patch ≠ v.session.intent →
      v.state ≠ .paymentPending ∧ (v.state = .approved → v.record.isSome →
        ∃ digest, intentDigest (v.patched patch) = .ok digest)
  | _ => True

/-- Where no payment is open, every call is consistent. -/
theorem Call.consistent_of_closed {cfg : Config} {call : Call} {s : Services}
    (closed : ∀ o, call.command.Concerns o → OrderAt o (fun x => x.state ∉ openStates) s) :
    call.Consistent cfg s := by
  have shut : ∀ {o v}, call.command.Concerns o → (call.start s).view? o = some v →
      v.state ∉ openStates := fun on at_ => closed _ on _ (order?_of_view at_ :)
  obtain ⟨command, answer, time⟩ := call
  cases command with
  | buildQuote => exact fun v at_ open_ => absurd open_ (shut rfl at_)
  | respond => exact fun v at_ open_ => absurd open_ (shut rfl at_)
  | intentPatch =>
      intro v at_ _ _
      have shut := shut rfl at_
      exact ⟨fun pending => shut (by rw [pending]; decide), fun approved => absurd
        (by rw [approved]; decide) shut⟩
  | _ => trivial

section Steps

variable {P : Platform} {x y : Order} {act : Act}

theorem SealedBy.step (h : SealedBy P x) (step : Step P Eq x act y) : SealedBy P y := by
  cases step with
  | withdraw gone =>
      intro r record
      rcases gone with rfl | rfl
      · cases record
      · exact h r record
  | restart =>
      intro r record
      cases record
  | quote sealed =>
      intro r record
      obtain rfl := Option.some.inj record
      exact sealed
  | tamper record sealed =>
      intro r record
      obtain rfl := Option.some.inj record
      exact sealed
  | _ => exact fun r record => h r record

/-- What may be done to an order without taking its record and its approval apart. -/
def KeepsGrant (x : Order) : Act → Prop
  | .withdraw _ | .restart | .quote .. | .tamper _ => x.state ∉ openStates
  | _ => True

theorem Granted.step (h : Granted x) (step : Step P Eq x act y) (licensed : KeepsGrant x act) :
    Granted y := by
  cases step with
  | withdraw | restart | quote | tamper => exact fun open_ => absurd open_ licensed
  | @grant _ r _ current record => exact fun _ => ⟨rfl, r, record, rfl⟩
  | @move _ next allowed admitted =>
      intro open_
      have among : next = .approved ∨ next = .paymentPending := by simpa [openStates] using open_
      rcases among with rfl | rfl
      · exact admitted
      · exact admitted
  | clarify =>
      exact fun open_ => absurd open_ (show OrderState.clarifying ∉ openStates by decide)
  | _ => exact fun open_ => h open_

theorem exact_of_approved (approved : x.Approved) (sealed : SealedBy P x) : Exact P x := by
  obtain ⟨event, r, record, digest⟩ := approved
  exact ⟨event, r, record, digest, sealed r record⟩

end Steps

section Calls

variable {cfg : Config} {s : Services} {o : String} {x y : Order} {call : Call}

/-- Every call keeps records sealed. -/
theorem Call.keeps_sealed (known : ¬ call.command.Opens) (keyed : Keyed s)
    (start : OrderAt o (SealedBy cfg.platform) s) :
    (∀ e ∈ call.events cfg s, e.At (OrderAt o (SealedBy cfg.platform))) ∧
      OrderAt o (SealedBy cfg.platform) (call.final cfg s) :=
  Call.keeps (fun _ _ _ => True) known keyed (fun _ _ _ _ => trivial)
    (fun _ _ _ sealed step _ => sealed.step step) start

/-- The commands that are followed to their ends. -/
def Command.Detaches (o : String) : Command → Prop
  | .tamper o' _ => o' = o
  | .intentPatch o' .. => o' = o
  | _ => False

/-- A consistent call keeps record and approval together, save `tamper` and `intentPatch`. -/
theorem keepsGrant_of_acts {c : Contract Services Query.Answer} {act : Act}
    (alone : Alone call.answer c) (consistent : call.Consistent cfg s)
    (other : ¬ call.command.Detaches o) (h : call.command.Acts cfg c (call.start s) o x act) :
    KeepsGrant x act := by
  have overturned : ∀ {message supplied operationId v},
      call.command = .respond o message supplied operationId → (call.start s).view? o = some v →
      respondRuns cfg (call.start s) o message supplied operationId →
      (∀ answer, Alone answer c → x.state = v.state ∧ v.Overturns cfg message answer) →
      x.state ∉ openStates := by
    intro message supplied operationId v command at_ runs overturns open_
    obtain ⟨state, overturns⟩ := overturns _ alone
    simp only [Call.Consistent, command] at consistent
    exact consistent v at_ (state ▸ open_) runs overturns
  cases act with
  | withdraw record =>
      rcases Command.acts_withdraw h with ⟨_, _, _, v, command, at_, runs, overturns⟩ |
        ⟨_, _, _, command, -⟩
      · exact overturned command at_ runs overturns
      · rw [command] at other
        exact absurd rfl other
  | restart =>
      obtain ⟨_, _, _, v, command, at_, runs, overturns⟩ := Command.acts_restart h
      exact overturned command at_ runs overturns
  | quote r productId =>
      obtain ⟨supplied, operationId, v, command, at_, runs, quoted, rfl⟩ := Command.acts_quote h
      intro open_
      simp only [Call.Consistent, command] at consistent
      have state : (v.selectable cfg).2.order.state = v.state := v.state_selectable cfg
      rw [consistent v at_ (state ▸ open_) runs] at quoted
      cases quoted
  | tamper r =>
      obtain ⟨_, _, command, -⟩ := Command.acts_tamper h
      rw [command] at other
      exact absurd rfl other
  | _ => trivial

/-- `tamper` leaves an order granted: the approval is withdrawn, and an open order is moved. -/
theorem Tampered.granted {field : String} {v v' : View} {result : Except ServiceError Reply}
    (h : Tampered cfg field v result v') (granted : Granted v.order) : Granted v'.order := by
  intro open_
  simp only [Tampered] at h
  cases changed : v.tampered? cfg field with
  | none =>
      rw [changed] at h
      rw [h.1] at open_ ⊢
      exact granted open_
  | some r =>
      rw [changed] at h
      rcases h with ⟨-, -, order⟩ | ⟨illegal, -, order⟩
      · rw [order] at open_
        exact absurd open_ (show OrderState.reapprovalRequired ∉ openStates by decide)
      · rw [order] at open_
        refine absurd ?_ illegal
        revert open_
        change v.state ∈ openStates → v.state.Leads .reapprovalRequired
        cases v.state <;> decide

/-- `intentPatch` leaves an order granted where the patch is consistent. -/
theorem PatchEnds.granted {patch : Patch} {expected : Int} {v v' : View}
    {result : Except ServiceError Reply} (h : PatchEnds patch expected v result v')
    (granted : Granted v.order)
    (consistent : v.AcceptsPatch patch expected → v.patched patch ≠ v.session.intent →
      v.state ≠ .paymentPending ∧ (v.state = .approved → v.record.isSome →
        ∃ digest, intentDigest (v.patched patch) = .ok digest)) : Granted v'.order := by
  intro open_
  cases h with
  | rejected invalid order =>
      rw [order] at open_ ⊢
      exact granted open_
  | kept valid same keeps state =>
      have open₀ : v.order.state ∈ openStates := by
        change v'.state ∈ openStates at open_
        rcases state with h | h | h <;> rw [h] at open_
        · exact open_
        · exact absurd open_ (by decide)
        · exact absurd open_ (by decide)
      obtain ⟨event, r, record, digest⟩ := granted open₀
      rw [keeps.order]
      exact ⟨event, r, record, digest⟩
  | undigested valid changed quoted unknown order =>
      rw [order] at open_
      obtain ⟨pending, digested⟩ := consistent valid changed
      have approved : v.state = .approved := by
        change v.state ∈ openStates at open_
        simp only [openStates, List.mem_cons, List.not_mem_nil, or_false] at open_
        exact open_.resolve_right pending
      obtain ⟨_, known⟩ := digested approved quoted
      cases known.symm.trans unknown
  | refused valid changed digested paying illegal order =>
      rw [order] at open_
      obtain ⟨pending, -⟩ := consistent valid changed
      change v.state ∈ openStates at open_
      simp only [openStates, List.mem_cons, List.not_mem_nil, or_false] at open_
      rcases open_ with approved | pending'
      · rw [approved] at paying
        exact absurd (by decide) paying
      · exact absurd pending' pending
  | changed valid changed shopping approval state legal later =>
      refine absurd open_ ?_
      change v'.state ∉ openStates
      revert state
      generalize v'.state = state
      cases state <;> decide

theorem Command.Detaches.known {command : Command} (detaches : command.Detaches o) :
    ¬ command.Opens := by
  cases command with
  | createSession => exact absurd detaches id
  | _ => exact id

/-- A consistent call that takes record and approval apart puts them together again. -/
theorem Call.granted_of_detaches (keyed : Keyed s) (detaches : call.command.Detaches o)
    (consistent : call.Consistent cfg s) (start : OrderAt o Granted s) :
    OrderAt o Granted (call.final cfg s) := by
  have known := detaches.known
  have ends := (Call.sound cfg (fun _ _ _ => True) known keyed fun _ _ _ _ => trivial).2
  cases at_ : (call.start s).view? o with
  | none => exact Call.keeps_unknown cfg known keyed at_
  | some v =>
  have granted : Granted v.order := start v.order (order?_of_view at_ : (call.start s).order? o = _)
  suffices h : ∃ v', (call.final cfg s).view? o = some v' ∧ Granted v'.order by
    obtain ⟨v', at', granted'⟩ := h
    intro x shown
    obtain rfl := Option.some.inj ((order?_of_view at').symm.trans shown)
    exact granted'
  cases command : call.command with
  | tamper o' field =>
      rw [command] at detaches ends
      obtain rfl : o' = o := detaches
      obtain ⟨v', at', tampered⟩ := ends v at_
      exact ⟨v', at', tampered.granted granted⟩
  | intentPatch o' patch expected =>
      rw [command] at detaches ends
      obtain rfl : o' = o := detaches
      simp only [Call.Consistent, command] at consistent
      obtain ⟨v', at', patched⟩ := ends v at_
      exact ⟨v', at', patched.granted granted (consistent v at_)⟩
  | _ =>
      rw [command] at detaches
      exact absurd detaches id

/-- A consistent call leaves an order granted, and what it sets to `PAID_VERIFIED` is approved. -/
theorem Call.consistent_granted (known : ¬ call.command.Opens) (keyed : Keyed s)
    (consistent : call.Consistent cfg s) (granted : OrderAt o Granted s) :
    OrderAt o Granted (call.final cfg s) ∧
      ∀ e ∈ call.events cfg s, ∀ x, EntersPaid o x e → x.Approved := by
  by_cases detaches : call.command.Detaches o
  · refine ⟨Call.granted_of_detaches keyed detaches consistent granted, fun e mem x enters => ?_⟩
    -- Neither `tamper` nor `intentPatch` pays.
    have keeps := (Call.sound cfg (fun o' _ act => o' = o → act ≠ .move .paidVerified) known keyed
      (by
        rintro _ x act acts rfl rfl
        obtain ⟨tampers, patches⟩ := Command.acts_move_paid acts
        revert detaches tampers patches
        cases call.command <;> first | exact fun h => absurd h id | skip
        · rintro rfl tampers
          exact absurd rfl (tampers _)
        · rintro rfl - patches
          exact absurd rfl (patches _ _))).1
    cases e with
    | called => exact absurd enters id
    | wrote before after =>
        obtain ⟨_, _, _, unlicensed, _⟩ := enters.from_pending (keeps _ mem)
        exact absurd rfl (unlicensed rfl)
  · let lic : String → Order → Act → Prop := fun o' x act => o' = o → KeepsGrant x act
    have licensed : ∀ o' x act, call.command.Acts cfg (call.contract cfg lic s) (call.start s) o' x act →
        lic o' x act := by
      rintro _ x act acts rfl
      exact keepsGrant_of_acts Alone.alone consistent detaches acts
    have step : ∀ x act y, Granted x → Step cfg.platform Eq x act y → lic o x act → Granted y :=
      fun _ _ _ granted step licensed => granted.step step (licensed rfl)
    obtain ⟨each, final⟩ := Call.keeps lic known keyed licensed step granted
    refine ⟨final, fun e mem x enters => ?_⟩
    cases e with
    | called => exact absurd enters id
    | wrote before after =>
        have advances := (Call.sound cfg lic known keyed licensed).1 _ mem
        obtain ⟨y, at_, pending, -, -, rfl⟩ := enters.from_pending advances
        have granted : Granted y := (each _ mem).1 y at_
        exact granted (show y.state ∈ openStates by rw [pending]; decide)

/-- In a run of consistent direct calls from an opened order, an order that is approved or pending
payment has an approved record with the digest of its envelope; so does an order when it is set to
`PAID_VERIFIED`. -/
theorem approved_in_consistent_runs {start : Services} {history : History} (opened : Opened o start)
    (trace : Trace cfg (fun _ call s => call.command.Direct ∧ call.Consistent cfg s) start
      history s) :
    OrderAt o (fun x => x.state ∈ openStates → Exact cfg.platform x) s ∧
      ∀ e ∈ history, ∀ x, EntersPaid o x e → Exact cfg.platform x := by
  suffices all : OrderAt o Granted s ∧ OrderAt o (SealedBy cfg.platform) s ∧ Keyed s ∧
      ∀ e ∈ history, ∀ x, EntersPaid o x e → Exact cfg.platform x by
    obtain ⟨granted, sealed, -, paid⟩ := all
    exact ⟨fun x at_ open_ => exact_of_approved (granted x at_ open_) (sealed x at_), paid⟩
  induction trace with
  | nil =>
      have blank : ∀ x, start.order? o = some x → x = blankOrder o := fun x at_ =>
        Option.some.inj (at_.symm.trans opened.order)
      refine ⟨fun x at_ open_ => ?_, fun x at_ r record => ?_, opened.keyed, by simp⟩
      · obtain rfl := blank x at_
        exact absurd open_ (show OrderState.draft ∉ openStates by decide)
      · obtain rfl := blank x at_
        cases record
  | @call history s call before allowed ih =>
      obtain ⟨granted, sealed, keyed, paid⟩ := ih
      obtain ⟨direct, consistent⟩ := allowed
      obtain ⟨granted', enters⟩ := Call.consistent_granted direct.known keyed consistent granted
      obtain ⟨each, sealed'⟩ := Call.keeps_sealed direct.known keyed sealed
      refine ⟨granted', sealed', keyed_final keyed, fun e mem x entered => ?_⟩
      rcases List.mem_append.mp mem with mem | mem
      · exact paid e mem x entered
      · refine exact_of_approved (enters e mem x entered) ?_
        cases e with
        | called => exact absurd entered id
        | wrote before after => exact (each _ mem).2 x entered.2.1

end Calls

/-- A patch that changes the size. -/
def resizing : List Command := [.intentPatch "ord_0" [("size", .str "UK 8")] 2]

/-- A pending payment, after a patch that changes the intent and is refused. -/
def resizedServices : Services := pendingServices.after resizing

/-- The patch deletes the record, and leaves the payment pending. -/
theorem resized_unrecorded : (resizedServices.order? "ord_0").map (fun x => (x.state, x.record.isNone)) =
    some (.paymentPending, true) := by
  decide +kernel

theorem approved_in_runs_false : ¬ ∀ history s,
    Trace plainConfig (fun _ call _ => call.command.Direct) openedServices history s →
    OrderAt "ord_0" (fun x => x.state ∈ openStates → Exact plainPlatform x) s ∧
      ∀ e ∈ history, ∀ x, EntersPaid "ord_0" x e → Exact plainPlatform x := by
  intro claim
  have opened : Trace plainConfig (fun _ call _ => call.command.Direct) openedServices [] openedServices :=
    .nil
  obtain ⟨history, trace⟩ := opened.after (quoting ++ approving ++ initiating ++ resizing)
    fun _ _ command mem => by
      simp only [quoting, approving, initiating, resizing, List.mem_append, List.mem_cons,
        List.not_mem_nil, or_false] at mem
      rcases mem with (((rfl | rfl | rfl) | rfl) | rfl) | rfl <;> trivial
  simp only [Services.after_append] at trace
  have unrecorded := resized_unrecorded
  obtain ⟨x, at_, kept⟩ := Option.map_eq_some_iff.mp unrecorded
  obtain ⟨pending, gone⟩ := Prod.mk.inj kept
  have exact_ := (claim history _ trace).1 x at_ (by rw [pending]; decide)
  obtain ⟨-, r, record, -⟩ := exact_
  rw [record] at gone
  cases gone

/-- The plain run to a payment; its calls are consistent. -/
theorem approved_in_consistent_runs_plain : ∃ history : History,
    OrderAt "ord_0" (fun x => x.state ∈ openStates → Exact plainPlatform x) paidServices ∧
      ∀ e ∈ history, ∀ x, EntersPaid "ord_0" x e → Exact plainPlatform x := by
  let ok : History → Call → Services → Prop := fun _ call s =>
    call.command.Direct ∧ call.Consistent plainConfig s
  have closed : ∀ {s : Services} {command : Command} {state : OrderState},
      (s.order? "ord_0").map Order.state = some state → state ∉ openStates →
      (∀ o, command.Concerns o → o = "ord_0") → command.plain.Consistent plainConfig s := by
    intro s command state known shut on
    refine Call.consistent_of_closed fun o concerns x at_ => ?_
    obtain rfl := on o concerns
    rw [at_] at known
    rwa [Option.some.inj known]
  have opened : Trace plainConfig ok openedServices [] openedServices := .nil
  have sized := opened.call (quoting[0].plain) ⟨trivial, closed
    (show (openedServices.order? "ord_0").map Order.state = some .draft by decide +kernel)
    (by decide) fun _ => id⟩
  have used := sized.call (quoting[1].plain) ⟨trivial, closed
    (show ((openedServices.after (quoting.take 1)).order? "ord_0").map Order.state =
      some .clarifying by decide +kernel) (by decide) fun _ => id⟩
  have quoted := used.call (quoting[2].plain) ⟨trivial, closed
    (show ((openedServices.after (quoting.take 2)).order? "ord_0").map Order.state =
      some .quoted by decide +kernel) (by decide) fun _ => id⟩
  obtain ⟨history, paid⟩ := quoted.after (approving ++ initiating ++ verifying)
    fun _ _ command mem => by
      simp only [approving, initiating, verifying, List.mem_append, List.mem_cons,
        List.not_mem_nil, or_false] at mem
      rcases mem with (rfl | rfl) | rfl <;> exact ⟨trivial, trivial⟩
  simp only [Services.after_append] at paid
  exact ⟨history, approved_in_consistent_runs opened_plain paid⟩

end AgentReady
