import AgentReady.Safety.Founded
import AgentReady.Safety.Payment

/-!
The mandate under which an order is paid, and what is paid after its time.

The policy looks up the mandate that the customer has when a payment is initiated or prepared, and a
confirmation of Agent Pay does not look it up again.

* `mandate_checked`: the mandate is of the envelope's customer, and it is the one that the envelope names
  unless another was issued on the instance since.
* `confirmed_permitted`: a confirmation pays what the policy would refuse exactly where it settles a payment
  whose envelope or mandate has expired.
-/

namespace AgentReady

open Coop Svc

variable {κ ι : Type} {F : Fleet κ ι} {P : Platform} {secret : String}

/-! ### The mandate of a payment -/

/-- The order and the rail for which a command has the policy checked before it starts a payment. -/
def Command.checks? : Command → Option (String × String)
  | .initiatePayment o rail _ => some (o, rail)
  | .prepareX402OrderPayment o _ => some (o, PaymentRail.x402Solana.name)
  | _ => none

/-- The policy allows the payment that the call is for. -/
def Call.Allowed (cfg : Config) (call : Call) (s : Services) (session : Session) (record : EnvelopeRecord) : Prop :=
  ∃ o rail, call.command.checks? = some (o, rail) ∧ s.sessions.get? o = some session ∧
    s.envelopes.get? o = some record ∧ (paymentVerdict cfg (call.start s) session record rail).allow = true

section Runs

variable [DecidableEq κ] [DecidableEq ι] {history : List (Stretch κ ι)} {pools : κ → Instance ι}

end Runs

namespace FoundedSample

def initiate : Call := (Command.initiatePayment "ord_0" "razorpay_checkout" none).plain

/-- The services in which another session was created after the quote was approved. -/
def reissued : Services := plain.after () { clock := 0 } [0, 1, 2, 3, 4, 6]

end FoundedSample

/-- The policy allows Agent Pay for the stored record of the order. -/
def Permitted (cfg : Config) (s : Services) (o : String) : Prop :=
  ∃ session record, s.sessions.get? o = some session ∧ s.envelopes.get? o = some record ∧
    (paymentVerdict cfg s session record PaymentRail.x402Solana.name).allow = true

/-- The times for which the envelope and the mandate hold have not all passed. -/
structure View.Lapsed (v : View) (r : EnvelopeRecord) : Prop where
  lapsed : r.envelope.expiresAt < isoString v.clock ∨
    ∃ mandate, v.mandates.get? v.session.customerId = some mandate ∧ mandate.expiresAt < isoString v.clock

theorem staleVerdict_allow {codes : List String} : (staleVerdict codes).allow = true ↔ codes = [] := by
  unfold staleVerdict
  split
  · rename_i none
    simp [none]
  · rename_i some
    simp [some]

/-- A payment that may be settled is permitted until its envelope or its mandate expires. -/
theorem Grounded.permitted_iff {s : Services} (grounded : Grounded P secret s) {cfg : Config}
    (platform : cfg.platform = P) {o paymentIdentifier : String} {v : View} {r : EnvelopeRecord}
    {payment : X402OrderPayment} (at_ : s.view? o = some v) (confirmable : v.Confirmable paymentIdentifier r payment) :
    Permitted cfg s o ↔ ¬ v.Lapsed r := by
  obtain ⟨stored, recorded, mandates, clock, -⟩ := view_cases at_
  rw [confirmable.record] at recorded
  obtain ⟨mandate, given, -, verdict⟩ := grounded.verdict platform stored recorded (.inr rfl)
  have approved : approvedRecord v.session r = true := by
    have prepared := confirmable.prepared
    simp only [preparedFor, Bool.and_eq_true, decide_eq_true_eq] at prepared
    simp [approvedRecord, prepared.1.2, prepared.2]
  have permitted : Permitted cfg s o ↔
      (paymentVerdict cfg s v.session r PaymentRail.x402Solana.name).allow = true := by
    constructor
    · rintro ⟨session, record, stored', recorded', allow⟩
      obtain rfl := Option.some.inj (stored'.symm.trans stored)
      obtain rfl := Option.some.inj (recorded'.symm.trans recorded)
      exact allow
    · exact fun allow => ⟨_, _, stored, recorded, allow⟩
  rw [permitted, verdict, staleVerdict_allow, staleCodes, approved]
  simp only [List.append_eq_nil_iff, codeWhen_eq_nil, Bool.not_true, and_true, decide_eq_false_iff_not]
  rw [mandates] at given
  rw [clock]
  constructor
  · rintro ⟨mandated, valid⟩ ⟨expired | ⟨mandate', given', expired⟩⟩
    · exact valid expired
    · obtain rfl := Option.some.inj (given.symm.trans given')
      exact mandated expired
  · exact fun lasts => ⟨fun expired => lasts ⟨.inr ⟨mandate, given, expired⟩⟩, fun expired => lasts ⟨.inl expired⟩⟩

/-- How a confirmation ends. -/
theorem confirmed_ends (cfg : Config) {call : Call} {s : Services} {o paymentIdentifier : String}
    {operationId : Option String} (confirms : call.command = .confirmX402OrderPayment o paymentIdentifier operationId) :
    Ends o ((call.start s).view? o) (Under (confirmRuns cfg (call.start s) o paymentIdentifier operationId)
      (Confirmed paymentIdentifier)) (call.run cfg s).result (call.final cfg s) := by
  have meets : (call.command.op cfg).Meets (call.contract cfg (fun _ _ _ => True) s)
      (Ends o ((call.start s).view? o) (Under (confirmRuns cfg (call.start s) o paymentIdentifier operationId)
        (Confirmed paymentIdentifier))) (call.start s) := by
    have lawful : Lawful cfg.platform Eq (fun _ _ _ => True) o (call.contract cfg (fun _ _ _ => True) s) :=
      .alone (by rw [confirms]; rfl)
    rw [confirms]
    exact confirmX402OrderPayment_meets lawful rfl fun _ _ _ _ _ => trivial
  have ended : (∀ e ∈ call.events cfg s, e.Keeps (call.contract cfg (fun _ _ _ => True) s)) ∧ _ :=
    meets.run (fun _ => rfl) fun q s' mem => ⟨rfl, mem⟩
  exact ended.2

/-- The call sets the state of the order to `PAID_VERIFIED`. -/
def Call.Pays (cfg : Config) (call : Call) (s : Services) (o : String) : Prop :=
  ∃ x, EntersPaid o x (.wrote (call.start s) (call.final cfg s))

/-- The call settles a payment whose envelope or mandate has expired. -/
def Call.PaysLapsed (cfg : Config) (call : Call) (s : Services) (o paymentIdentifier : String)
    (operationId : Option String) : Prop :=
  confirmRuns cfg (call.start s) o paymentIdentifier operationId ∧
    ∃ v r payment, (call.start s).view? o = some v ∧ v.Confirmable paymentIdentifier r payment ∧ v.Lapsed r

/-- Wherever a run leads, a confirmation pays only what the policy permits at its time if and only if it does
not settle a payment whose envelope or mandate has expired. -/
theorem confirmed_permitted [DecidableEq κ] [DecidableEq ι] (shares : F.Shares P secret)
    {history : List (Stretch κ ι)} {pools : κ → Instance ι} (run : F.Run (Authentic F) history pools) (k : κ)
    {call : Call} {o paymentIdentifier : String} {operationId : Option String}
    (confirms : call.command = .confirmX402OrderPayment o paymentIdentifier operationId) :
    (call.Pays (F.config k) (pools k).state o → Permitted (F.config k) (call.start (pools k).state) o) ↔
      ¬ call.PaysLapsed (F.config k) (pools k).state o paymentIdentifier operationId := by
  have before := (provenance shares run).grounded k
  have grounded : Grounded P secret (call.start (pools k).state) :=
    ⟨before.keyed, before.vested, before.founded.records, before.founded.mandates⟩
  have ends := confirmed_ends (F.config k) (s := (pools k).state) confirms
  constructor
  · rintro permitted ⟨runs, v, r, payment, at_, confirmable, lapsed⟩
    obtain ⟨v', after, under⟩ := ends v at_
    have paid : v'.state = .paidVerified := by
      cases (under.resolve_left fun idle => idle.1 runs).2 with
      | paid _ state => exact state
      | stays refused => exact absurd confirmable (refused r payment)
    refine (grounded.permitted_iff (shares.platform k) at_ confirmable).mp (permitted ⟨v'.order, ?_, ?_, paid⟩) lapsed
    · intro x shown already
      rw [Services.order?_eq, at_] at shown
      obtain rfl := Option.some.inj shown
      have unpaid := confirmable.unpaid
      rw [show v.state = .paidVerified from already] at unpaid
      simp [paidState] at unpaid
    · rw [Services.order?_eq, after]
      rfl
  · rintro lasts ⟨x, unpaid, shown, paid⟩
    rw [Services.order?_eq] at shown
    obtain ⟨v', after, rfl⟩ := Option.map_eq_some_iff.mp shown
    cases at_ : (call.start (pools k).state).view? o with
    | none =>
        have known : ¬ call.command.Opens := by
          rw [confirms]
          exact id
        have unknown : OrderAt o (fun _ => False) (call.final (F.config k) (pools k).state) :=
          Call.keeps_unknown (F.config k) known before.keyed at_
        exact (unknown v'.order (by rw [Services.order?_eq, after]; rfl)).elim
    | some v =>
        obtain ⟨v'', after', under⟩ := ends v at_
        obtain rfl := Option.some.inj (after.symm.trans after')
        have moved : v'.state ≠ v.state := fun same =>
          unpaid v.order (by rw [Services.order?_eq, at_]; rfl) (same.symm.trans paid)
        rcases under with ⟨-, same, -⟩ | ⟨runs, ended⟩
        · exact absurd (congrArg Order.state same) moved
        · cases ended with
          | paid confirmable _ =>
              exact (grounded.permitted_iff (shares.platform k) at_ confirmable).mpr fun lapsed =>
                lasts ⟨runs, _, _, _, at_, confirmable, lapsed⟩
          | stays _ state => exact absurd state moved

namespace FoundedSample

/-- The payment that is prepared, confirmed at a time. -/
def confirmation (time : Int) : Call :=
  ⟨.confirmX402OrderPayment "ord_0" (mockOrderPaymentIdentifier "digest") none, obliging time, time⟩

/-- After the quote has expired. -/
def late : Int := quoteExpiryMs + 60000

theorem late_facts : (prepared.order? "ord_0").map Order.state = some .approved ∧
    (((confirmation late).final shortConfig prepared).order? "ord_0").map Order.state = some .paidVerified ∧
    ((prepared.sessions.get? "ord_0").bind fun session => (prepared.envelopes.get? "ord_0").map fun record =>
      (paymentVerdict shortConfig ((confirmation late).start prepared) session record "x402_solana").allow) =
        some false := by
  decide +kernel

end FoundedSample

open FoundedSample in
theorem confirmed_permitted_plain : ∃ history pools paymentIdentifier operationId,
    plain.Run (Authentic plain) history pools ∧
    (confirmation 0).command = .confirmX402OrderPayment "ord_0" paymentIdentifier operationId ∧
    (((confirmation 0).Pays shortConfig (pools ()).state "ord_0" →
        Permitted shortConfig ((confirmation 0).start (pools ()).state) "ord_0") ↔
      ¬ (confirmation 0).PaysLapsed shortConfig (pools ()).state "ord_0" paymentIdentifier operationId) := by
  obtain ⟨history, pools, run, -⟩ := plain_run [0, 1, 2, 3, 4, 5] (by decide)
  exact ⟨history, pools, _, _, run, rfl, confirmed_permitted plain_shares run () rfl⟩

open FoundedSample in
/-- A payment that is confirmed after its quote has expired is paid, and the policy would refuse it. -/
theorem confirmed_lapsed : ∃ history pools paymentIdentifier operationId,
    plain.Run (Authentic plain) history pools ∧
    (confirmation late).command = .confirmX402OrderPayment "ord_0" paymentIdentifier operationId ∧
    (confirmation late).Pays shortConfig (pools ()).state "ord_0" ∧
    ¬ Permitted shortConfig ((confirmation late).start (pools ()).state) "ord_0" := by
  obtain ⟨approved, paid, refused⟩ := late_facts
  obtain ⟨history, pools, run, state⟩ := plain_run [0, 1, 2, 3, 4, 5] (by decide)
  have here : (pools ()).state = prepared := state
  obtain ⟨x, shown, paid⟩ := Option.map_eq_some_iff.mp paid
  refine ⟨history, pools, _, _, run, rfl, ⟨x, ?_, ?_, paid⟩, ?_⟩
  · intro y before already
    rw [here] at before
    rw [show prepared.order? "ord_0" = some y from before, Option.map_some, already] at approved
    cases approved
  · rw [here]
    exact shown
  · rw [here]
    rintro ⟨session, record, stored, recorded, allow⟩
    rw [show prepared.sessions.get? "ord_0" = some session from stored, Option.bind_some,
      show prepared.envelopes.get? "ord_0" = some record from recorded, Option.map_some] at refused
    exact absurd ((Option.some.inj refused).symm.trans allow) Bool.false_ne_true

end AgentReady
