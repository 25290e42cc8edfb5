import AgentReady.Safety.Refund
import AgentReady.Payments.Adapters
import AgentReady.Lib.Segments

/-!
No order is paid without a signature.

A payment is accepted under the signature of its checkout, which is the adapter's to check, or with a delivery
under the signature of its body; the mock Agent Pay rail needs neither. Operations interleave at their awaits, and
each may find other orders than it left; but evidence is only ever stored by an operation that was given it.

* `Command.Vouches`: the operation was given evidence of a payment.
* `payments_authentic`: wherever interleaved operations lead, an order with verified evidence was vouched for by an
  operation that was started, and so is every order that is set to `PAID_VERIFIED`.
-/

namespace AgentReady

open Coop Svc

/-- The configuration of the adapters. -/
def Config.adapters (cfg : Config) (keyId : Option String) (forceMock : Bool) : AdapterConfig where
  razorpayKeyId := keyId
  razorpayKeySecret := some cfg.razorpayKeySecret
  forceMock := forceMock

/-- The adapter gives the answer. -/
def PaymentAdapter.Gives (adapter : PaymentAdapter) : (q : Query) → q.Answer → Prop
  | .initiate envelope, a => ∃ attemptId createdAt, a.result = adapter.initiate attemptId createdAt envelope
  | .verify input, a => a.result = adapter.verify input
  | .compensate input, a => a.result = adapter.compensate input
  | _, _ => True

/-- The answers of the adapter, and what else is answered. -/
def PaymentAdapter.answering (adapter : PaymentAdapter) (otherwise : (q : Query) → q.Answer) :
    (q : Query) → q.Answer
  | .initiate envelope => ⟨adapter.initiate "att" "" envelope, 0⟩
  | .verify input => ⟨adapter.verify input, 0⟩
  | .compensate input => ⟨adapter.compensate input, 0⟩
  | q => otherwise q

theorem PaymentAdapter.gives_answering (adapter : PaymentAdapter) (otherwise : (q : Query) → q.Answer) (q : Query) :
    adapter.Gives q (adapter.answering otherwise q) := by
  cases q with
  | initiate envelope => exact ⟨"att", "", rfl⟩
  | verify | compensate => rfl
  | _ => trivial

/-- The answer is given by the adapter that is used, whatever the gateway reports. -/
def Config.Answered (cfg : Config) (keyId : Option String) (forceMock : Bool) (q : Query) (a : q.Answer) : Prop :=
  ∃ gateway adapter, (createAdapterRegistry cfg.platform (cfg.adapters keyId forceMock) gateway).get?
    .razorpayCheckout = some adapter ∧ adapter.Gives q a

/-- The command was given evidence of a payment of an order. -/
def Command.Vouches (cfg : Config) (webhookSecret o paymentId : String) : Command → Prop
  | .verifyPayment o' externalOrderId externalPaymentId signature _ => o' = o ∧ externalPaymentId = paymentId ∧
      signature = cfg.platform.checkoutSignature cfg.razorpayKeySecret externalOrderId paymentId
  | .webhook rawBody signature .. => Delivers cfg rawBody paymentId ∧
      signature = some (cfg.platform.razorpaySignature webhookSecret rawBody)
  | .confirmX402OrderPayment o' paymentIdentifier _ => o' = o ∧ paymentIdentifier = paymentId
  | _ => False

/-- What the routes call on orders that exist. -/
def Command.Served (webhookSecret : String) : Command → Prop
  | .createSession _ | .markVerifiedFromWebhook .. => False
  | .webhook _ _ _ secret => secret = webhookSecret
  | _ => True

/-- New orders, on which nothing was done, appear beside the ones that are known. -/
structure Launches (s s' : Services) : Prop where
  known : ∀ o x, s.order? o = some x → s'.order? o = some x
  fresh : ∀ o x, s'.order? o = some x → s.order? o = some x ∨ (x.Fresh ∧ x.id = o)

/-- Verified evidence of an order was vouched for. -/
def Vouched (vouches : String → Prop) (x : Order) : Prop :=
  ∀ v, x.verification = some v → v.verified = true →
    ∃ paymentId, x.externalPaymentId = some paymentId ∧ vouches paymentId

/-- What may be stored by who vouches for a payment. -/
def Vouching (vouches : String → String → Prop) (o : String) (_ : Order) : Act → Prop
  | .verify result paymentId => result.verified = true → vouches o paymentId
  | .settle payment _ => vouches o payment.paymentIdentifier
  | .webhook paymentId _ => vouches o paymentId
  | _ => True

section Steps

variable {P : Platform} {seen : Order → Order → Prop} {x y : Order} {act : Act} {o : String}
  {vouches : String → String → Prop}

theorem Vouched.step (h : Vouched (vouches o) x) (step : Step P seen x act y) (licensed : Vouching vouches o x act) :
    Vouched (vouches o) y := by
  cases step with
  | settle => exact fun v _ _ => ⟨_, rfl, licensed⟩
  | webhook => exact fun v _ _ => ⟨_, rfl, licensed⟩
  | verify =>
      intro v stored verified
      obtain rfl := Option.some.inj stored
      exact ⟨_, rfl, licensed verified⟩
  | _ => exact h

/-- Where the state is set to `PAID_VERIFIED`, verified evidence is stored. -/
theorem Step.enters_paid (step : Step P seen x act y) (unpaid : x.state ≠ .paidVerified)
    (paid : y.state = .paidVerified) : ∃ v, x.verification = some v ∧ v.verified = true := by
  cases step with
  | @move _ next allowed admitted =>
      obtain rfl : next = .paidVerified := paid
      obtain ⟨v, paymentId, ⟨stored, verified, -⟩, -⟩ := admitted
      exact ⟨v, stored, verified⟩
  | clarify => cases paid
  | _ => exact absurd paid unpaid

end Steps

/-! ### Operations -/

section Operations

variable {cfg : Config} {keyId : Option String} {forceMock : Bool} {webhookSecret : String} {s : Services}

/-- The contract of an operation that may be given evidence: between its turns, known orders stay known. -/
def vouching (cfg : Config) (keyId : Option String) (forceMock : Bool) (vouches : String → String → Prop) :
    Contract Services Query.Answer where
  rely s s' := ∀ o v, s.view? o = some v → ∃ v', s'.view? o = some v'
  guar := Advances cfg.platform (fun _ _ => True) (Vouching vouches)
  calls _ _ := True
  answers q a _ := cfg.Answered keyId forceMock q a

theorem lawful_vouching {vouches : String → String → Prop} (o : String) :
    Lawful cfg.platform (fun _ _ => True) (Vouching vouches) o (vouching cfg keyId forceMock vouches) where
  refl _ := trivial
  guar := id
  calls _ := trivial
  resumes rely at_ := by
    obtain ⟨v', at'⟩ := rely _ _ at_
    exact ⟨v', at', trivial⟩

/-- A delivery without the signature of its body is only recorded. -/
theorem unsigned_meets {rawBody secret : String} {signature eventIdHeader : Option String}
    {vouches : String → String → Prop}
    (unsigned : signature ≠ some (cfg.platform.razorpaySignature secret rawBody)) :
    (processRazorpayWebhookRaw cfg rawBody signature eventIdHeader secret).Meets
      (vouching cfg keyId forceMock vouches) (fun _ _ => True) s := by
  unfold processRazorpayWebhookRaw
  refine meets_ite (fun _ => Proc.meets_pure.mpr trivial) fun _ => ?_
  refine meets_ite (fun _ => ?_) fun signed => absurd unsigned signed
  exact Proc.meets_bind.mpr (meets_log (lawful_vouching "") rfl fun _ _ => Proc.meets_pure.mpr trivial)

/-- An operation stores evidence only where it vouches for it. -/
theorem Command.meets_vouching {command : Command} {vouches : String → String → Prop}
    (served : command.Served webhookSecret) (keyed : Keyed s)
    (vouched : ∀ o paymentId, command.Vouches cfg webhookSecret o paymentId → vouches o paymentId) :
    (command.op cfg).Meets (vouching cfg keyId forceMock vouches) (fun _ _ => True) s := by
  have known : ¬ command.Opens := by
    cases command with
    | createSession => exact served.elim
    | _ => exact id
  by_cases unsigned : ∃ rawBody signature eventIdHeader secret,
      command = .webhook rawBody signature eventIdHeader secret ∧
        signature ≠ some (cfg.platform.razorpaySignature secret rawBody)
  · obtain ⟨rawBody, signature, eventIdHeader, secret, rfl, unsigned⟩ := unsigned
    exact unsigned_meets unsigned
  have licensed : ∀ o x act, command.Acts cfg (vouching cfg keyId forceMock vouches) s o x act →
      Vouching vouches o x act := by
    intro o x act acts
    cases act with
    | verify result paymentId =>
        intro verified
        obtain ⟨_, _, _, v, r, s', rfl, -, -, -, a, answered, is⟩ := Command.acts_verify acts
        obtain ⟨gateway, adapter, used, gives⟩ := answered
        exact vouched _ _ ⟨rfl, rfl, authentic_registry used _ _ (gives.symm.trans is) verified⟩
    | settle payment r =>
        obtain ⟨operationId, rfl⟩ := Command.acts_settle acts
        exact vouched _ _ ⟨rfl, rfl⟩
    | webhook paymentId r =>
        rcases Command.acts_webhook acts with ⟨_, _, _, secret, rfl, delivers, -⟩ | ⟨_, _, rfl⟩
        · obtain rfl : secret = webhookSecret := served
          refine vouched _ _ ⟨delivers, ?_⟩
          by_contra other
          exact unsigned ⟨_, _, _, _, rfl, other⟩
        · exact served.elim
    | _ => trivial
  exact (Command.meets known (fun o _ => lawful_vouching o) keyed licensed).mono fun _ _ _ => trivial

/-! ### Interleaved operations -/

/-- What holds wherever the operations lead: sessions stand under their ids, and evidence was vouched for. -/
def VouchedFor (vouches : String → String → Prop) (s : Services) : Prop :=
  Keyed s ∧ ∀ o, OrderAt o (Vouched (vouches o)) s

theorem Order.Fresh.vouched {vouches : String → Prop} {x : Order} (h : x.Fresh) : Vouched vouches x :=
  fun _ stored _ => by cases h.unverified.symm.trans stored

theorem Launches.vouchedFor {vouches : String → String → Prop} {s' : Services} (launches : Launches s s')
    (h : VouchedFor vouches s) : VouchedFor vouches s' := by
  refine ⟨fun o x at_ => ?_, fun o x at_ => ?_⟩
  · rcases launches.fresh o x at_ with before | fresh
    · exact h.1 o x before
    · exact fresh.2
  · rcases launches.fresh o x at_ with before | fresh
    · exact h.2 o x before
    · exact fresh.1.vouched

theorem Advances.vouchedFor {P : Platform} {seen : Order → Order → Prop} {vouches : String → String → Prop}
    {s' : Services} (advances : Advances P seen (Vouching vouches) s s') (h : VouchedFor vouches s) :
    VouchedFor vouches s' := by
  refine ⟨fun o => ?_, fun o => ?_⟩
  · exact advances.keeps (p := fun x => x.id = o) (fun _ _ _ at_ step _ => step.id_eq.trans at_) (h.1 o)
  · exact advances.keeps (fun _ _ _ at_ step licensed => at_.step step licensed) (h.2 o)

/-- An order that is known is still there. -/
theorem known_view {o : String} {x : Order} (at_ : s.order? o = some x) : ∃ v, s.view? o = some v := by
  obtain ⟨v, shown, -⟩ := view_of_map (f := id) (by rw [at_, Option.map_some])
  exact ⟨v, shown⟩

theorem Advances.knows {P : Platform} {seen : Order → Order → Prop} {lic : String → Order → Act → Prop}
    {s' : Services} (advances : Advances P seen lic s s') {o : String} {v : View} (at_ : s.view? o = some v) :
    ∃ v', s'.view? o = some v' := by
  rcases advances.orders o with same | ⟨_, _, y, _, after, -⟩
  · exact known_view (same.trans (order?_of_view at_))
  · exact known_view after

variable {ι : Type} {ops : ι → Command}

/-- One of the operations vouches for a payment. -/
def AnyVouches (cfg : Config) (webhookSecret : String) (ops : ι → Command) (o paymentId : String) : Prop :=
  ∃ i, (ops i).Vouches cfg webhookSecret o paymentId

theorem shared_vouching (cfg : Config) (keyId : Option String) (forceMock : Bool)
    (served : ∀ i, (ops i).Served webhookSecret) :
    Shared (fun i => (ops i).op cfg) Launches (fun q a _ => cfg.Answered keyId forceMock q a)
      (VouchedFor (AnyVouches cfg webhookSecret ops))
      (fun _ => vouching cfg keyId forceMock (AnyVouches cfg webhookSecret ops)) (fun _ _ => True)
      (fun _ _ _ => True) where
  still _ s _ o v at_ := ⟨v, at_⟩
  chain _ s s' s'' first second o v at_ := by
    obtain ⟨v', at'⟩ := first o v at_
    exact second o v' at'
  others j s s' h advances := ⟨advances.vouchedFor h, fun i _ o v at_ => advances.knows at_⟩
  outside s s' h launches :=
    ⟨launches.vouchedFor h, fun i o v at_ => known_view (launches.known o _ (order?_of_view at_))⟩
  admitted _ _ _ _ _ := id
  waits _ _ _ _ _ := trivial
  meets i s h _ := Command.meets_vouching (served i) h.1 fun o paymentId vouches => ⟨i, vouches⟩

theorem vouchedFor_of_unpaid (vouches : String → String → Prop) (keyed : Keyed s)
    (unpaid : ∀ o, OrderAt o (fun x => ¬ x.IsVerified) s) : VouchedFor vouches s := by
  refine ⟨keyed, fun o x at_ v stored verified => absurd ?_ (unpaid o x at_)⟩
  show VerificationResult.isVerified x.verification = true
  rw [stored]
  exact verified

/-- Where the writes of an operation lead an order to `PAID_VERIFIED`, it was vouched for on the way. -/
theorem enters_vouched {P : Platform} {seen : Order → Order → Prop} {vouches : String → String → Prop}
    {s' : Services} {o : String} {x y : Order} (h : VouchedFor vouches s)
    (path : Relation.ReflTransGen (Advances P seen (Vouching vouches)) s s') (before : s.order? o = some x)
    (unpaid : x.state ≠ .paidVerified) (after : s'.order? o = some y) (paid : y.state = .paidVerified) :
    ∃ paymentId, vouches o paymentId := by
  have walk : VouchedFor vouches s' ∧ ∀ y, s'.order? o = some y → y.state = .paidVerified →
      ∃ paymentId, vouches o paymentId := by
    clear after paid
    induction path with
    | refl =>
        refine ⟨h, fun y after paid => ?_⟩
        obtain rfl := Option.some.inj (before.symm.trans after)
        exact absurd paid unpaid
    | tail _ write ih =>
        obtain ⟨kept, entered⟩ := ih
        refine ⟨write.vouchedFor kept, fun y after paid => ?_⟩
        rcases write.orders o with same | ⟨x₁, act, y', shown, shown', step, -⟩
        · exact entered y (same.symm.trans after) paid
        obtain rfl := Option.some.inj (shown'.symm.trans after)
        by_cases earlier : x₁.state = .paidVerified
        · exact entered x₁ shown earlier
        · obtain ⟨v, stored, verified⟩ := step.enters_paid earlier paid
          obtain ⟨paymentId, -, vouches⟩ := kept.2 o x₁ shown v stored verified
          exact ⟨paymentId, vouches⟩
  exact walk.2 y after paid

variable {pool : Pool ι Services ServiceError Query.Answer Reply}

/-- An operation that was started vouches for a payment. -/
def StartedVouches (cfg : Config) (webhookSecret : String) (ops : ι → Command)
    (pool : Pool ι Services ServiceError Query.Answer Reply) (o paymentId : String) : Prop :=
  ∃ i, pool.phase i ≠ .idle ∧ (ops i).Vouches cfg webhookSecret o paymentId

open Classical in
/-- The commands that were started. The others might as well do nothing. -/
noncomputable def startedOps (pool : Pool ι Services ServiceError Query.Answer Reply) (ops : ι → Command)
    (i : ι) : Command :=
  if pool.phase i = .idle then .mockCapture "" else ops i

theorem startedOps_op (cfg : Config) (ops : ι → Command) {i : ι} (started : pool.phase i ≠ .idle) :
    (startedOps pool ops i).op cfg = (ops i).op cfg := by
  rw [startedOps, if_neg started]

theorem served_startedOps (pool : Pool ι Services ServiceError Query.Answer Reply)
    (served : ∀ i, (ops i).Served webhookSecret) (i : ι) :
    (startedOps pool ops i).Served webhookSecret := by
  unfold startedOps
  split
  · trivial
  · exact served i

theorem startedVouches_of_any {o paymentId : String}
    (any : AnyVouches cfg webhookSecret (startedOps pool ops) o paymentId) :
    StartedVouches cfg webhookSecret ops pool o paymentId := by
  obtain ⟨i, vouches⟩ := any
  unfold startedOps at vouches
  split at vouches
  · exact vouches.elim
  · rename_i started
    exact ⟨i, started, vouches⟩

variable [DecidableEq ι]

/-- Wherever interleaved operations lead from services in which nothing is paid, an order with verified evidence was
vouched for by an operation that was started; and so is, in the next turn, an order whose state is set to
`PAID_VERIFIED`. -/
theorem payments_authentic (served : ∀ i, (ops i).Served webhookSecret) (keyed : Keyed s)
    (unpaid : ∀ o, OrderAt o (fun x => ¬ x.IsVerified) s)
    (reaches : Pool.Reaches (fun i => (ops i).op cfg) Launches (fun q a _ => cfg.Answered keyId forceMock q a)
      (.init s) pool) :
    (∀ o, OrderAt o (Vouched (StartedVouches cfg webhookSecret ops pool o)) pool.state) ∧
      ∀ i pool', Coop.Turn (fun i => (ops i).op cfg) (fun q a _ => cfg.Answered keyId forceMock q a) pool i
          pool' →
        ∀ o x y, pool.state.order? o = some x → x.state ≠ .paidVerified → pool'.state.order? o = some y →
          y.state = .paidVerified → ∃ paymentId, StartedVouches cfg webhookSecret ops pool' o paymentId := by
  have start := fun vouches => vouchedFor_of_unpaid vouches keyed unpaid
  refine ⟨fun o x at_ v stored verified => ?_, fun i pool' turn o x y before open_ after paid => ?_⟩
  · -- The run is one of the started operations alone.
    have alone := reaches.congr fun i started => startedOps_op cfg ops started
    have shared := shared_vouching cfg keyId forceMock (served_startedOps pool served)
    have kept := (shared.reaches (start _) (fun _ => trivial) alone).1
    obtain ⟨paymentId, named, any⟩ := kept.2 o x at_ v stored verified
    exact ⟨paymentId, named, startedVouches_of_any any⟩
  · obtain ⟨step, stays⟩ := turn.step.congr fun i started => startedOps_op cfg ops started
    have alone := reaches.congr fun i started => startedOps_op cfg ops (stays i started)
    have shared := shared_vouching cfg keyId forceMock (served_startedOps pool' served)
    have kept := (shared.reaches (start _) (fun _ => trivial) alone).1
    obtain ⟨_, path⟩ := shared.guaranteed (start _) (fun _ => trivial) alone step
    obtain ⟨paymentId, any⟩ := enters_vouched kept path before open_ after paid
    exact ⟨paymentId, startedVouches_of_any any⟩

end Operations

/-! ### A signed payment -/

namespace AuthenticSample

def mock : PaymentAdapter := MockRazorpayAdapter plainPlatform { keySecret := "secret" }

/-- The customer submits a payment under its signature. -/
def submitting (_ : Unit) : Command :=
  .verifyPayment "ord_0" "order_ord_0" "pay_0" (plainPlatform.checkoutSignature "secret" "order_ord_0" "pay_0") none

def submitted : Services := (((submitting ()).op plainConfig).run (mock.answering (obliging 0)) pendingServices).final

theorem submitted_facts :
    (submitted.order? "ord_0").map (fun x => x.verification.map (·.verified)) = some (some true) ∧
    pendingServices.sessions.entries.all (fun e => !VerificationResult.isVerified e.2.verification) = true := by
  decide +kernel

theorem unpaid_pending (o : String) : OrderAt o (fun x => ¬ x.IsVerified) pendingServices := by
  intro x at_ verified
  obtain ⟨session, stored, rfl⟩ := Option.map_eq_some_iff.mp at_
  have each := List.all_eq_true.mp submitted_facts.2 _ (OrderedMap.mem_entries (e := (o, session)).mpr stored)
  rw [show VerificationResult.isVerified session.verification = true from verified] at each
  cases each

/-- A gateway that is never asked. -/
def silent : Gateway := ⟨fun _ => .malformed "", fun _ => .malformed "", fun _ _ => .malformed ""⟩

theorem answered_mock (q : Query) : plainConfig.Answered none true q (mock.answering (obliging 0) q) :=
  ⟨silent, mock, rfl, mock.gives_answering _ q⟩

theorem keyed_pending : Keyed pendingServices :=
  keyed_after (keyed_after (keyed_after keyed_opened quoting) approving) initiating

theorem reaches_submitted : Pool.Reaches (fun i => (submitting i).op plainConfig) Launches
    (fun q a _ => plainConfig.Answered none true q a) (.init pendingServices)
    ⟨submitted, Function.update (fun _ => .idle) ()
      (.done (((submitting ()).op plainConfig).run (mock.answering (obliging 0)) pendingServices).result)⟩ :=
  Pool.reaches_run _ (fun q _ => answered_mock q) rfl

end AuthenticSample

open AuthenticSample in
/-- The submitted payment was vouched for by its submission. -/
theorem payments_authentic_submitted : ∃ pool : Pool Unit Services ServiceError Query.Answer Reply,
    Pool.Reaches (fun i => (submitting i).op plainConfig) Launches (fun q a _ => plainConfig.Answered none true q a)
      (.init pendingServices) pool ∧
    ∃ x paymentId, pool.state.order? "ord_0" = some x ∧ x.IsVerified ∧
      StartedVouches plainConfig "hook" submitting pool "ord_0" paymentId := by
  obtain ⟨x, at_, facts⟩ := Option.map_eq_some_iff.mp submitted_facts.1
  obtain ⟨v, stored, verified⟩ := Option.map_eq_some_iff.mp facts
  have served : ∀ i, (submitting i).Served "hook" := fun _ => trivial
  obtain ⟨paymentId, -, vouches⟩ := (payments_authentic served keyed_pending unpaid_pending
    reaches_submitted).1 "ord_0" x at_ v stored verified
  refine ⟨_, reaches_submitted, x, paymentId, at_, ?_, vouches⟩
  show VerificationResult.isVerified x.verification = true
  rw [stored]
  exact verified

end AgentReady
