import AgentReady.Safety.Founding

/-!
What is stored on any instance, in any run.

The instances share a signing secret, and import only snapshots that one of them exported. Then every record
that one of them stores is sealed over an envelope that the code built, and every mandate is the standard one;
so the policy never refuses a stored record for its digest, its merchant, its products, its rail or its amount.

* `founded`: the invariant, in every run.
* `verdict_founded`: what the policy decides on a stored record.
-/

namespace AgentReady

open Coop Svc

variable {κ ι : Type} {F : Fleet κ ι} {P : Platform} {secret : String}

/-! ### Imports -/

/-- A snapshot of a session whose record and mandate are founded. -/
structure SessionSnapshot.Sound (P : Platform) (secret : String) (snapshot : SessionSnapshot) : Prop where
  customer : snapshot.session.customerId = demoCustomer
  record : ∀ r, snapshot.envelope = some r → Sealed P secret snapshot.session.logicalOrderId r
  mandate : ∃ mandateId now, snapshot.mandate = some (buildMandate demoCustomer mandateId now)

/-- What an import may lead to, if what it imports is sound. -/
def Adopts (P : Platform) (secret : String) (carried : Option SessionSnapshot) (s s' : Services) : Prop :=
  (∀ snapshot ∈ carried, snapshot.Sound P secret) → Founded P secret .any s → Founded P secret .any s'

section Importing

variable {carried : Option SessionSnapshot} {snapshot : SessionSnapshot}

theorem Adopts.kept {s s' : Services} (records : ∀ o r, s'.envelopes.get? o = some r → s.envelopes.get? o = some r)
    (mandates : s'.mandates = s.mandates) : Adopts P secret carried s s' :=
  fun _ founded => ⟨fun o r stored => founded.records o r (records o r stored), mandates ▸ founded.mandates⟩

theorem adopting_modify {f : Services → Services} (step : ∀ s, Adopts P secret carried s (f s)) :
    Within (Adopts P secret carried) (Proc.modify f : Svc Unit) :=
  .modify (fun _ _ _ h h' sound founded => h' sound (h sound founded)) step

theorem adopting_yield : Within (Adopts P secret carried) (ask .yield) :=
  .bind (Within.call (fun _ _ founded => founded) _) fun _ =>
    .bind (adopting_modify fun _ => .kept (fun _ _ stored => stored) rfl) fun _ => .pure _

theorem adopting_adopt (carries : carried = some snapshot) (s : Services) :
    Adopts P secret carried s (s.adopt snapshot) := by
  intro sound founded
  have sound := sound snapshot carries
  refine ⟨fun o r stored => ?_, fun customer mandate given => ?_⟩
  · unfold Services.adopt at stored
    cases envelope : snapshot.envelope with
    | none =>
        rw [envelope] at stored
        exact founded.records o r stored
    | some record =>
        rw [envelope] at stored
        by_cases same : o = snapshot.session.logicalOrderId
        · subst same
          dsimp only at stored
          rw [OrderedMap.get?_set_self] at stored
          exact ⟨sound.record r (envelope.trans stored), trivial⟩
        · refine founded.records o r ?_
          simpa [OrderedMap.get?_set_of_ne _ same] using stored
  · obtain ⟨mandateId, now, given'⟩ := sound.mandate
    unfold Services.adopt at given
    rw [given'] at given
    dsimp only at given
    by_cases same : customer = snapshot.session.customerId
    · subst same
      rw [OrderedMap.get?_set_self] at given
      exact ⟨sound.customer, ⟨mandateId, now, (Option.some.inj given).symm⟩, trivial⟩
    · rw [OrderedMap.get?_set_of_ne _ same] at given
      exact founded.mandates customer mandate given

theorem adopting_importAudit (o : String) (events : List AuditEvent) :
    Within (Adopts P secret carried) (importAudit o events) := by
  have appends : ∀ event, Within (Adopts P secret carried) (Proc.modify (fun s : Services =>
      { s with audit := s.audit ++ [event] }) : Svc Unit) := fun event =>
    adopting_modify fun _ => .kept (fun _ _ stored => stored) rfl
  have marks : ∀ event, Within (Adopts P secret carried) (replayWebhook event) := by
    intro event
    unfold replayWebhook
    split
    · exact .pure ()
    · exact .bind .read fun _ => .ite (adopting_modify fun _ => .kept (fun _ _ stored => stored) rfl) (.pure ())
  have imports : ∀ event, Within (Adopts P secret carried) (importEvent event) := fun event =>
    .bind .read fun _ => .bind adopting_yield fun _ =>
      .ite (.bind (appends event) fun _ => .bind adopting_yield fun _ => marks event) (marks event)
  induction events with
  | nil => exact .pure ()
  | cons event rest ih => exact .ite (.bind (imports event) fun _ => ih) (.bind (.pure ()) fun _ => ih)

theorem adopting_importSession (cfg : Config) (codec : SnapshotCodec) (token : String)
    (expectedOrderId : Option String) :
    Within (Adopts P secret (codec.carried cfg.platform cfg.signingSecret token))
      (importSession cfg codec token expectedOrderId) := by
  refine .bind (.bind .read fun _ => .pure _) fun time => ?_
  cases opens : codec.openSnapshot cfg.platform cfg.signingSecret token (isoString time) with
  | none => exact .pure _
  | some snapshot =>
  dsimp only
  cases snapshot.refusal? cfg expectedOrderId with
  | some message => exact .pure _
  | none =>
  refine .bind (adopting_modify (adopting_adopt (carried_of_open opens))) fun _ => ?_
  refine .bind (adopting_importAudit _ _) fun _ => ?_
  exact .bind (adopting_modify fun _ => .kept (fun _ _ => records_pruneSessionCache)
    forgets_pruneSessionCache.mandates) fun _ => .pure _

end Importing

/-! ### Runs -/

/-- The instances share a platform and a signing secret. -/
structure Fleet.Shares (F : Fleet κ ι) (P : Platform) (secret : String) : Prop where
  platform : ∀ k, (F.config k).platform = P
  secret : ∀ k, (F.config k).signingSecret = secret

/-- The snapshot was exported by an instance. -/
def Exported (F : Fleet κ ι) (history : List (Stretch κ ι)) (snapshot : SessionSnapshot) : Prop :=
  ∃ t ∈ history, ∃ o, F.operation t.instance_ t.task = .exportSession o ∧ t.before.state.snapshot? o = some snapshot

/-- What is imported was exported. -/
def Authentic (F : Fleet κ ι) (history : List (Stretch κ ι)) (t : Stretch κ ι) : Prop :=
  ∀ token expected, F.operation t.instance_ t.task = .importSession token expected →
    ∀ snapshot ∈ F.codec.carried (F.config t.instance_).platform (F.config t.instance_).signingSecret token,
      Exported F history snapshot

/-- The operation issues a mandate, or takes one over. -/
def Operation.Issues : Operation → Prop
  | .command c => c.Opens
  | .exportSession _ => False
  | .importSession .. => True

/-- What a turn of an operation may do to what is stored. -/
def Fleet.Stores (F : Fleet κ ι) (P : Platform) (secret : String) (k : κ) (i : ι) (s s' : Services) : Prop :=
  match F.operation k i with
  | .importSession token _ =>
      Adopts P secret (F.codec.carried (F.config k).platform (F.config k).signingSecret token) s s'
  | operation => Retains P secret operation.Issues s s'

theorem Fleet.stores_segments (shares : F.Shares P secret) (k : κ) (i : ι) (s : Services) :
    (F.prog k i).Segments (fun s s' => F.Turns k i s s' ∧ F.Stores P secret k i s s')
      (fun _ s s' => F.Turns k i s s' ∧ F.Stores P secret k i s s') s s := by
  refine (F.turns_segments k i s).and ?_
  have plain : ∀ {issues : Prop} {α : Type} {p : Svc α}, Founding (F.config k) issues p →
      p.Segments (Retains P secret issues) (fun _ => Retains P secret issues) s s := fun {issues _ _} founding =>
    have retains : ∀ {s s' : Services}, Founds (F.config k) issues s s' → Retains P secret issues s s' :=
      fun founds => shares.platform k ▸ shares.secret k ▸ founds.founded
    (founding s s (.refl s)).mono (fun _ _ => retains) fun _ _ _ => retains
  have closed := founding_structural (F.config k) False
  unfold Fleet.Stores Fleet.prog
  cases F.operation k i with
  | command command =>
      exact plain ((founding_structural _ _).bind (founding_op command) fun _ => (founding_structural _ _).pure _)
  | exportSession o =>
      refine plain (p := exportSession (F.config k) F.codec o) (closed.bind closed.read fun s => ?_)
      cases s.snapshot? o with
      | none => exact closed.pure _
      | some snapshot => exact closed.bind (closed.ask _) fun _ => closed.pure _
  | importSession token expected =>
      exact adopting_importSession _ _ token expected s s fun _ founded => founded

/-- What holds of an instance. -/
structure Grounded (P : Platform) (secret : String) (s : Services) : Prop where
  keyed : Keyed s
  vested : Vested s
  founded : Founded P secret .any s

theorem Grounded.snapshot {s : Services} (grounded : Grounded P secret s) {o : String} {snapshot : SessionSnapshot}
    (exports : s.snapshot? o = some snapshot) : snapshot.Sound P secret := by
  obtain ⟨x, stored, rfl⟩ := Option.map_eq_some_iff.mp exports
  have id := keyed_iff.mp grounded.keyed o x stored
  have customer := grounded.founded.customer grounded.vested stored
  refine ⟨customer, fun r record => ?_, ?_⟩
  · change Sealed P secret x.logicalOrderId r
    rw [id]
    exact (grounded.founded.records o r record).1
  · obtain ⟨mandate, given⟩ := Option.isSome_iff_exists.mp (grounded.vested o x stored)
    obtain ⟨-, ⟨mandateId, now, rfl⟩, -⟩ := grounded.founded.mandates _ _ given
    exact ⟨mandateId, now, given⟩

theorem Grounded.turn {s s' : Services} (grounded : Grounded P secret s) {k : κ} {i : ι}
    (turns : F.Turns k i s s') (founds : F.Stores P secret k i s s')
    (imports : ∀ token expected, F.operation k i = .importSession token expected →
      ∀ snapshot ∈ F.codec.carried (F.config k).platform (F.config k).signingSecret token, snapshot.Sound P secret) :
    Grounded P secret s' := by
  refine ⟨turns.keyed grounded.keyed, ?_, ?_⟩
  · unfold Fleet.Turns at turns
    cases operation : F.operation k i with
    | importSession token expected =>
        rw [operation] at turns
        refine turns.vested (fun snapshot mem => ?_) grounded.vested
        obtain ⟨mandateId, now, given⟩ := (imports token expected operation snapshot mem).mandate
        rw [given]
        rfl
    | command command | exportSession o =>
        rw [operation] at turns
        exact turns.vested grounded.vested
  · unfold Fleet.Stores at founds
    cases operation : F.operation k i with
    | importSession token expected =>
        rw [operation] at founds
        exact founds (imports token expected operation) grounded.founded
    | command command | exportSession o =>
        rw [operation] at founds
        exact founds .any (fun _ _ => trivial) grounded.vested grounded.founded

theorem Grounded.drift {s s' : Services} (grounded : Grounded P secret s) (drifts : Drifts s s') : Grounded P secret s' := by
  refine ⟨drifts.keyed grounded.keyed, drifts.vested grounded.vested, ?_⟩
  obtain ⟨sessions, clock, rfl⟩ := drifts.rest
  exact ⟨grounded.founded.records, grounded.founded.mandates⟩

/-! ### Mandates -/

/-- The customer has the mandate of that id. -/
def InForce (s : Services) (mandateId : String) : Prop :=
  ∃ mandate, s.mandates.get? demoCustomer = some mandate ∧ mandate.mandateId = mandateId

/-- A mandate was issued on the instance, or taken over, when the order had a record that names the id. -/
def Reissued (F : Fleet κ ι) (history : List (Stretch κ ι)) (k : κ) (o mandateId : String) : Prop :=
  ∃ t ∈ history, t.instance_ = k ∧ (F.operation k t.task).Issues ∧
    ∃ r, t.after.state.envelopes.get? o = some r ∧ r.envelope.mandateId = mandateId

theorem Reissued.mono {history later : List (Stretch κ ι)} {k : κ} {o mandateId : String}
    (reissued : Reissued F history k o mandateId) : Reissued F (history ++ later) k o mandateId := by
  obtain ⟨t, mem, rest⟩ := reissued
  exact ⟨t, List.mem_append_left _ mem, rest⟩

/-- What a turn that issues no mandate keeps: a record names the current mandate, or what a record named. -/
theorem Grounded.named {s s' : Services} (grounded : Grounded P secret s)
    (retains : Retains P secret False s s') (mandated : (s.mandates.get? demoCustomer).isSome → (s'.mandates.get? demoCustomer).isSome)
    {o : String} {r : EnvelopeRecord} (stored : s'.envelopes.get? o = some r) :
    InForce s' r.envelope.mandateId ∨ ∃ before, s.envelopes.get? o = some before ∧
      before.envelope.mandateId = r.envelope.mandateId ∧
      (InForce s before.envelope.mandateId → InForce s' r.envelope.mandateId) := by
  let N : Naming :=
    { current := fun mandate => s.mandates.get? demoCustomer = some mandate
      names := fun o id => InForce s id ∨ ∃ before, s.envelopes.get? o = some before ∧ before.envelope.mandateId = id
      issued := fun mandate current _ => .inl ⟨mandate, current, rfl⟩ }
  have founded : Founded P secret N s := by
    refine ⟨fun o r stored => ⟨(grounded.founded.records o r stored).1, .inr ⟨r, stored, rfl⟩⟩, ?_⟩
    intro customer mandate given
    obtain ⟨rfl, standard, -⟩ := grounded.founded.mandates customer mandate given
    exact ⟨rfl, standard, given⟩
  have after := retains N (fun issues => issues.elim) grounded.vested founded
  have stays : ∀ id, InForce s id → InForce s' id := by
    rintro id ⟨mandate, given, named⟩
    obtain ⟨mandate', given'⟩ := Option.isSome_iff_exists.mp (mandated (by rw [given]; rfl))
    have same := (after.mandates _ mandate' given').2.2
    obtain rfl := Option.some.inj (given.symm.trans same)
    exact ⟨mandate, given', named⟩
  rcases (after.records o r stored).2 with current | ⟨before, stored', same⟩
  · exact .inl (stays _ current)
  · exact .inr ⟨before, stored', same, fun current => stays _ (same ▸ current)⟩

/-! ### What holds in every run -/

theorem Fleet.Turns.mandated {k : κ} {i : ι} {s s' : Services} (turns : F.Turns k i s s') (customer : String)
    (has : (s.mandates.get? customer).isSome) : (s'.mandates.get? customer).isSome := by
  unfold Fleet.Turns at turns
  cases operation : F.operation k i <;> rw [operation] at turns <;> exact turns.mandates customer has

/-- What holds of the instances and of their history. -/
structure Provenance (F : Fleet κ ι) (P : Platform) (secret : String) (history : List (Stretch κ ι))
    (S : κ → Services) : Prop where
  grounded : ∀ k, Grounded P secret (S k)
  exports : ∀ snapshot, Exported F history snapshot → snapshot.Sound P secret
  named : ∀ k o r, (S k).envelopes.get? o = some r →
    InForce (S k) r.envelope.mandateId ∨ Reissued F history k o r.envelope.mandateId

/-- A turn of an operation keeps what holds of the instances. -/
theorem Provenance.turn [DecidableEq κ] {history : List (Stretch κ ι)} {S : κ → Services} {t : Stretch κ ι}
    (law : Provenance F P secret history S) (here : S t.instance_ = t.before.state) (authentic : Authentic F history t)
    (turns : F.Turns t.instance_ t.task t.before.state t.after.state)
    (stores : F.Stores P secret t.instance_ t.task t.before.state t.after.state) :
    Provenance F P secret (history ++ [t]) (Function.update S t.instance_ t.after.state) := by
  have before : Grounded P secret t.before.state := here ▸ law.grounded t.instance_
  refine ⟨fun k => ?_, ?_, fun k o r stored => ?_⟩
  · by_cases same : k = t.instance_
    · subst same
      rw [Function.update_self]
      exact before.turn turns stores fun token expected operation snapshot mem =>
        law.exports snapshot (authentic token expected operation snapshot mem)
    · rw [Function.update_of_ne same]
      exact law.grounded k
  · rintro snapshot ⟨t', mem, o, operation, taken⟩
    rcases List.mem_append.mp mem with mem | mem
    · exact law.exports snapshot ⟨t', mem, o, operation, taken⟩
    · obtain rfl := List.mem_singleton.mp mem
      exact before.snapshot taken
  · by_cases same : k = t.instance_
    · subst same
      rw [Function.update_self] at stored ⊢
      by_cases issues : (F.operation t.instance_ t.task).Issues
      · exact .inr ⟨t, by simp, rfl, issues, r, stored, rfl⟩
      · have retains : Retains P secret False t.before.state t.after.state := by
          unfold Fleet.Stores at stores
          cases operation : F.operation t.instance_ t.task with
          | importSession token expected =>
              rw [operation] at issues
              exact absurd trivial issues
          | command command | exportSession o =>
              rw [operation] at stores issues
              exact fun N _ => stores N fun opens => absurd opens issues
        rcases before.named retains (turns.mandated demoCustomer) stored with current | ⟨r', stored', named, carries⟩
        · exact .inl current
        · rcases law.named t.instance_ o r' (here ▸ stored') with current | reissued
          · exact .inl (carries (here ▸ current))
          · exact .inr (named ▸ reissued.mono)
    · rw [Function.update_of_ne same] at stored ⊢
      exact (law.named k o r stored).imp_right Reissued.mono

/-- Every instance is grounded, wherever a run leads. -/
theorem provenance [DecidableEq κ] [DecidableEq ι] (shares : F.Shares P secret) {history : List (Stretch κ ι)}
    {pools : κ → Instance ι} (run : F.Run (Authentic F) history pools) :
    Provenance F P secret history fun k => (pools k).state := by
  refine run.invariant (Fleet.stores_segments shares) (Provenance F P secret) ?_
    (fun history S t law here authentic rel => law.turn here authentic rel.1 rel.2) ?_
  · intro clock
    refine ⟨fun k => ⟨?_, ?_, ?_, ?_⟩, ?_, ?_⟩
    · rintro o x ⟨⟩
    · rintro o x ⟨⟩
    · rintro o r ⟨⟩
    · rintro customer mandate ⟨⟩
    · rintro snapshot ⟨t, ⟨⟩, -⟩
    · rintro k o r ⟨⟩
  · intro history S k s law drifts
    obtain ⟨sessions, clock, drifted⟩ := drifts.rest
    refine ⟨fun k' => ?_, law.exports, fun k' o r stored => ?_⟩
    all_goals
      by_cases same : k' = k
      · subst same
        first
        | rw [Function.update_self]
          exact (law.grounded k').drift drifts
        | rw [Function.update_self, drifted] at stored ⊢
          exact law.named k' o r stored
      · first
        | rw [Function.update_of_ne same]
          exact law.grounded k'
        | rw [Function.update_of_ne same] at stored ⊢
          exact law.named k' o r stored

/-! ### The policy on what is stored -/

/-- Why the policy refuses a stored record: the times it holds for have passed, or it is not approved. -/
def staleCodes (mandateExpiresAt envelopeExpiresAt nowIso : String) (approved : Bool) : List String :=
  codeWhen (mandateExpiresAt < nowIso) "mandate_expired" ++
    codeWhen (envelopeExpiresAt < nowIso) "envelope_expired" ++
    codeWhen (!approved) "envelope_not_approved" ++
    codeWhen (!approved) "mandate_human_confirmation_required"

theorem staleCodes_within {mandateExpiresAt envelopeExpiresAt nowIso : String} {approved : Bool} :
    (staleCodes mandateExpiresAt envelopeExpiresAt nowIso approved).contains "mandate_amount_exceeded" = false := by
  unfold staleCodes codeWhen
  repeat' split
  all_goals decide

/-- The verdict on a stored record. -/
def staleVerdict (codes : List String) : PolicyVerdict :=
  if codes = [] then ⟨true, .allow, ["ok"]⟩ else ⟨false, .block, codes⟩

theorem mandateCodes_buildMandate {input : CheckEnvelopeInput} {o mandateId : String} {now : Int} {item : EnvelopeItem}
    {product : CatalogProduct} {variant : CatalogVariant} {cuts : Nat}
    (shaped : Shaped o input.envelope item product variant cuts) (auto : input.allowAutoApprove = false)
    (rail : input.rail = PaymentRail.razorpayCheckout.name ∨ input.rail = PaymentRail.x402Solana.name) :
    mandateCodes input (buildMandate demoCustomer mandateId now) =
      staleCodes (isoString (now + mandateExpiryMs)) input.envelope.expiresAt input.nowIso input.approved := by
  have amount := shaped.total_le
  have cheap : ¬ input.envelope.totalMinor > 1000000 := by omega
  have railed : (input.rail ≠ "" && !([PaymentRail.razorpayCheckout, .x402Solana].map PaymentRail.name).contains
      input.rail) = false := by
    rcases rail with rail | rail <;> rw [rail] <;> decide
  unfold mandateCodes staleCodes buildMandate
  dsimp only
  rw [railed, shaped.merchant, auto]
  simp [codeWhen, cheap]

/-- The policy refuses a stored record only for its times and its approval. -/
theorem Grounded.verdict {s : Services} (grounded : Grounded P secret s) {cfg : Config} (platform : cfg.platform = P)
    {o : String} {session : Session} {record : EnvelopeRecord} (stored : s.sessions.get? o = some session)
    (recorded : s.envelopes.get? o = some record) {rail : String}
    (known : rail = PaymentRail.razorpayCheckout.name ∨ rail = PaymentRail.x402Solana.name) :
    ∃ mandate, s.mandates.get? session.customerId = some mandate ∧
      mandate.customerId = record.envelope.customerId ∧
      paymentVerdict cfg s session record rail = staleVerdict (staleCodes mandate.expiresAt
        record.envelope.expiresAt (isoString s.clock) (approvedRecord session record)) := by
  obtain ⟨mandate, given⟩ := Option.isSome_iff_exists.mp (grounded.vested o session stored)
  obtain ⟨customer, ⟨mandateId, now, rfl⟩, -⟩ := grounded.founded.mandates _ _ given
  obtain ⟨sealed_, -⟩ := grounded.founded.records o record recorded
  obtain ⟨item, product, variant, cuts, shaped⟩ := sealed_.built.shape
  refine ⟨_, given, shaped.customer.symm, ?_⟩
  unfold paymentVerdict checkEnvelopeForPayment
  dsimp only
  rw [if_neg (by rw [platform, sealed_.digest]; simp), given]
  dsimp only
  rw [mandateCodes_buildMandate shaped rfl known]
  unfold staleVerdict
  dsimp only
  rw [staleCodes_within, if_neg Bool.false_ne_true]
  rfl

/-! ### Runs -/

section Stored

variable [DecidableEq κ] [DecidableEq ι] {history : List (Stretch κ ι)} {pools : κ → Instance ι}

/-- Whatever record is stored is sealed over an envelope of its order, of one piece of a listed product at no
more than its price. -/
theorem stored_record (shares : F.Shares P secret) (run : F.Run (Authentic F) history pools) (k : κ) {o : String}
    {r : EnvelopeRecord} (recorded : (pools k).state.envelopes.get? o = some r) :
    r.digest = P.envelopeDigest r.envelope ∧ r.signature = P.signEnvelope r.envelope secret ∧
      (∃ item product variant cuts, Shaped o r.envelope item product variant cuts) ∧
      r.envelope.totalMinor ≤ 494800 := by
  obtain ⟨sealed_, -⟩ := ((provenance shares run).grounded k).founded.records o r recorded
  obtain ⟨item, product, variant, cuts, shaped⟩ := sealed_.built.shape
  exact ⟨sealed_.digest, sealed_.signature, ⟨item, product, variant, cuts, shaped⟩, shaped.total_le⟩

end Stored

namespace FoundedSample

/-- A quote that is approved, and prepared for Agent Pay. -/
def preparing : List Command :=
  .createSession none :: quoting ++ [.approve "ord_0" "digest" none, .prepareX402OrderPayment "ord_0" none]

/-- A configuration in which every text has the same digest. -/
def shortConfig : Config :=
  { plainConfig with platform := { plainPlatform with sha256 := fun _ => "digest", hmacSha256 := fun _ _ => "signature" } }

/-- One instance, on which other sessions may be created. -/
def plain : Fleet Unit Nat where
  config _ := shortConfig
  codec := ⟨fun _ => "", fun _ => none⟩
  operation _ i := .command (preparing.getD i (.createSession none))

theorem plain_shares : plain.Shares shortConfig.platform "signing" := ⟨fun _ => rfl, fun _ => rfl⟩

theorem plain_authentic (history : List (Stretch Unit Nat)) (t : Stretch Unit Nat) : Authentic plain history t := by
  intro token expected operation
  cases operation

theorem plain_run (tasks : List Nat) (distinct : tasks.Nodup) : ∃ history pools,
    plain.Run (Authentic plain) history pools ∧ (pools ()).state = plain.after () { clock := 0 } tasks := by
  have start : plain.Run (Authentic plain) [] fun _ => .init { clock := 0 } := .start fun _ => 0
  obtain ⟨history, pools, run, state, -⟩ := start.calls (k := ()) distinct (fun _ _ => rfl)
    fun history t _ _ => plain_authentic history t
  exact ⟨_, pools, run, state⟩

/-- The services in which Agent Pay is prepared. -/
def prepared : Services := plain.after () { clock := 0 } [0, 1, 2, 3, 4, 5]

theorem prepared_known : (prepared.sessions.get? "ord_0").isSome ∧ (prepared.envelopes.get? "ord_0").isSome := by
  decide +kernel

end FoundedSample

open FoundedSample in
theorem stored_record_plain : ∃ history pools r, plain.Run (Authentic plain) history pools ∧
    (pools ()).state.envelopes.get? "ord_0" = some r ∧
    r.digest = shortConfig.platform.envelopeDigest r.envelope ∧
      r.signature = shortConfig.platform.signEnvelope r.envelope "signing" ∧
      (∃ item product variant cuts, Shaped "ord_0" r.envelope item product variant cuts) ∧
      r.envelope.totalMinor ≤ 494800 := by
  obtain ⟨history, pools, run, state⟩ := plain_run [0, 1, 2, 3, 4, 5] (by decide)
  obtain ⟨r, recorded⟩ := Option.isSome_iff_exists.mp prepared_known.2
  have recorded : (pools ()).state.envelopes.get? "ord_0" = some r := by rw [state]; exact recorded
  exact ⟨history, pools, r, run, recorded, stored_record plain_shares run () recorded⟩

end AgentReady
