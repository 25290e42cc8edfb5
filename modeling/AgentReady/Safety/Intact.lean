import AgentReady.Lifecycle.Runs

/-!
What a failed call leaves behind.

An operation fails when the transition check throws, or when a message is refused in the state of
the order. What it has written until then stays.

* `failed_intact`: a failed call leaves the order as it was, if and only if it does not get past its own
  checks in a state that the transition check then refuses (`Call.Spoils`).
-/

namespace AgentReady

open Coop Svc

/-- The operations that edit an order before the transition check. -/
def Command.Edits (o : String) : Command → Prop
  | .buildQuote o' .. | .approve o' .. | .tamper o' _ | .intentPatch o' .. | .verifyPayment o' .. |
    .respond o' .. => o' = o
  | _ => False

theorem Command.Edits.known {o : String} {command : Command} (edits : command.Edits o) : ¬ command.Opens := by
  cases command with
  | createSession => exact absurd edits id
  | _ => exact id

/-- A transition was refused or, in a turn, the message. -/
def Command.Fails (result : Except ServiceError Reply) : Command → Prop
  | .respond .. => Illegal result ∨ Refused result
  | _ => Illegal result

/-- The order has kept its state, intent, versions and quote marks, record, approval and evidence. -/
structure Intact (x y : Order) : Prop where
  state : y.state = x.state
  intent : y.intent = x.intent
  marks : y.marks = x.marks
  record : y.record = x.record
  approvalEventId : y.approvalEventId = x.approvalEventId
  approvedDigest : y.approvedDigest = x.approvedDigest
  externalPaymentId : y.externalPaymentId = x.externalPaymentId
  verification : y.verification = x.verification

theorem Intact.of_eq {x y : Order} (same : y = x) : Intact x y := by
  subst same
  exact ⟨rfl, rfl, rfl, rfl, rfl, rfl, rfl, rfl⟩

/-- The call passes its own checks and writes to an order, in a state that is then refused. -/
def Call.Spoils (cfg : Config) (call : Call) (s : Services) (v : View) : Prop :=
  match call.command with
  | .buildQuote o productId supplied operationId =>
      buildQuoteRuns cfg (call.start s) o productId operationId ∧
        (v.quote? cfg o productId supplied).isSome ∧ ¬ v.state.Leads .awaitingApproval
  | .approve o digest operationId =>
      approveRuns cfg (call.start s) o digest operationId ∧ (∃ r, v.Approvable digest r) ∧
        ¬ v.state.Leads .approved
  | .tamper _ field => (v.tampered? cfg field).isSome ∧ ¬ v.state.Leads .reapprovalRequired
  | .intentPatch _ patch expected =>
      v.AcceptsPatch patch expected ∧ v.patched patch ≠ v.session.intent ∧
        (v.record.isSome → ∃ digest, intentDigest (v.patched patch) = .ok digest) ∧ v.state ∉ shoppingStates
  | .verifyPayment o externalOrderId externalPaymentId signature operationId =>
      verifyPaymentRuns cfg (call.start s) o externalOrderId externalPaymentId operationId ∧
        ∃ r fetched, v.Asks externalOrderId r ∧
          (call.answer (.verify (verificationInput o externalOrderId externalPaymentId signature r))).result =
            .ok fetched ∧
          ¬ v.state.Leads (verificationTarget fetched v.order r) ∧
          ¬ (v.session.verification = some fetched ∧ v.session.externalPaymentId = some externalPaymentId)
  | .respond o message supplied operationId =>
      respondRuns cfg (call.start s) o message supplied operationId ∧
        ∃ merged heard, hear cfg v.clock message call.answer v.session.intent = .ok (merged, heard) ∧
          Searches message merged ∧
          ¬ v.TakesSearch (hasIntentChanged v.session.intent heard) heard ∧
          (heard ≠ v.session.intent ∨ v.state = .quoted)
  | _ => False

/-- The random source gives no quote the id of a quote that stands. -/
def Unrepeated (P : Platform) (s : Services) : Prop :=
  ∀ o r, s.envelopes.get? o = some r → ∀ n, s.draws ≤ n → P.newId "qt" n ≠ r.envelope.quoteId

/-! ### What each operation leaves -/

section Operations

variable {cfg : Config} {v v' : View} {result : Except ServiceError Reply}

/-- A quote has an id that was drawn for it. -/
theorem View.quoteId_drawn {o productId : String} {supplied : Option RecommendationBinding} {r : EnvelopeRecord}
    (quoted : v.quote? cfg o productId supplied = some r) :
    ∃ n, v.draws ≤ n ∧ r.envelope.quoteId = cfg.platform.newId "qt" n := by
  refine ⟨(v.selectable cfg).2.draws, ?_, ?_⟩
  · unfold View.selectable
    split
    · split
      · exact le_rfl
      · exact Nat.le_succ _
    · exact Nat.le_succ _
  · unfold View.quote? at quoted
    dsimp only at quoted
    split at quoted
    · split at quoted
      · obtain rfl := Option.some.inj quoted
        rfl
      · cases quoted
    · cases quoted

theorem Quoted.intact_iff {o productId : String} {supplied : Option RecommendationBinding}
    (ends : Quoted cfg o productId supplied v result v')
    (unrepeated : ∀ r, v.record = some r → ∀ n, v.draws ≤ n → cfg.platform.newId "qt" n ≠ r.envelope.quoteId) :
    (Illegal result → Intact v.order v'.order) ↔
      ¬ ((v.quote? cfg o productId supplied).isSome ∧ ¬ v.state.Leads .awaitingApproval) := by
  simp only [Quoted] at ends
  cases quoted : v.quote? cfg o productId supplied with
  | none =>
      rw [quoted] at ends
      exact iff_of_true (fun illegal => absurd illegal ends.2) (by simp)
  | some r =>
      rw [quoted] at ends
      rcases ends with ⟨leads, legal, -⟩ | ⟨stuck, illegal, order⟩
      · exact iff_of_true (fun illegal => absurd illegal legal) fun spoils => spoils.2 leads
      · refine iff_of_false (fun intact => ?_) (not_not.mpr ⟨rfl, stuck⟩)
        obtain ⟨n, later, id⟩ := View.quoteId_drawn quoted
        have record : some r = v.record := by
          have kept := (intact illegal).record
          rwa [order] at kept
        exact unrepeated r record.symm n later id.symm

theorem Approves.intact_iff {digest : String} (ends : Approves cfg digest v result v') :
    (Illegal result → Intact v.order v'.order) ↔
      ¬ ((∃ r, v.Approvable digest r) ∧ ¬ v.state.Leads .approved) := by
  rcases ends with ⟨unapprovable, unmoved⟩ | ⟨approvable, ⟨leads, legal, -⟩ | ⟨stuck, illegal, order⟩⟩
  · refine iff_of_true (fun illegal => ?_) fun spoils => unapprovable spoils.1
    rcases unmoved with same | ⟨legal, -⟩
    · exact .of_eq same
    · exact absurd illegal legal
  · exact iff_of_true (fun illegal => absurd illegal legal) fun spoils => spoils.2 leads
  · refine iff_of_false (fun intact => ?_) (not_not.mpr ⟨approvable, stuck⟩)
    obtain ⟨r, approvable⟩ := approvable
    -- What is approved now was not approved before.
    have event := (intact illegal).approvalEventId
    have approved := (intact illegal).approvedDigest
    rw [order] at event approved
    have fresh := approvable.fresh
    rw [Session.hasApproved, show v.session.approvalEventId = some (v.nextApproval cfg) from event.symm,
      show v.session.approvedDigest = some digest from approved.symm] at fresh
    simp [truthy, View.nextApproval, Platform.newId] at fresh

theorem requiresReapproval_irrefl (envelope : CommerceEnvelope) : requiresReapproval envelope envelope = false := by
  simp [requiresReapproval, materialChanges, changesBetween, changeOf]

/-- A tampered record is another one. -/
theorem View.tampered?_ne {field : String} {r : EnvelopeRecord} (changed : v.tampered? cfg field = some r) :
    v.record ≠ some r := by
  intro same
  rw [View.tampered?, same, Option.bind_some] at changed
  dsimp only at changed
  split at changed
  case isTrue material =>
      have envelope : (tamperEnvelope r.envelope field (cfg.platform.newId "nonce" v.draws)).1 = r.envelope :=
        congrArg EnvelopeRecord.envelope (Option.some.inj changed)
      rw [envelope, requiresReapproval_irrefl] at material
      cases material
  case isFalse => cases changed

theorem Tampered.intact_iff {field : String} (ends : Tampered cfg field v result v') :
    (Illegal result → Intact v.order v'.order) ↔
      ¬ ((v.tampered? cfg field).isSome ∧ ¬ v.state.Leads .reapprovalRequired) := by
  simp only [Tampered] at ends
  cases changed : v.tampered? cfg field with
  | none =>
      rw [changed] at ends
      exact iff_of_true (fun illegal => absurd illegal ends.2) (by simp)
  | some r =>
      rw [changed] at ends
      rcases ends with ⟨leads, legal, -⟩ | ⟨stuck, illegal, order⟩
      · exact iff_of_true (fun illegal => absurd illegal legal) fun spoils => spoils.2 leads
      · refine iff_of_false (fun intact => ?_) (not_not.mpr ⟨rfl, stuck⟩)
        have record : some r = v.record := by
          have kept := (intact illegal).record
          rwa [order] at kept
        exact View.tampered?_ne changed record.symm

theorem PatchEnds.intact_iff {patch : Patch} {expected : Int} (ends : PatchEnds patch expected v result v') :
    (Illegal result → Intact v.order v'.order) ↔
      ¬ (v.AcceptsPatch patch expected ∧ v.patched patch ≠ v.session.intent ∧
        (v.record.isSome → ∃ digest, intentDigest (v.patched patch) = .ok digest) ∧ v.state ∉ shoppingStates) := by
  cases ends with
  | rejected invalid _ legal =>
      exact iff_of_true (fun illegal => absurd illegal legal) fun spoils => invalid spoils.1
  | kept valid same _ _ refused =>
      exact iff_of_true (fun illegal => .of_eq (refused illegal)) fun spoils => spoils.2.1 same
  | undigested _ _ quoted unknown _ legal =>
      refine iff_of_true (fun illegal => absurd illegal legal) fun spoils => ?_
      obtain ⟨_, known⟩ := spoils.2.2.1 quoted
      cases known.symm.trans unknown
  | refused valid changed digested paying illegal order =>
      refine iff_of_false (fun intact => ?_) (not_not.mpr ⟨valid, changed, digested, paying⟩)
      have kept := (intact illegal).intent
      rw [order] at kept
      exact changed kept
  | changed _ _ shopping _ _ legal =>
      exact iff_of_true (fun illegal => absurd illegal legal) fun spoils => spoils.2.2.2 shopping

theorem VerifyEnds.intact_iff {o externalOrderId externalPaymentId signature : String}
    {c : Contract Services Query.Answer} {answer : (q : Query) → q.Answer} (alone : Alone answer c)
    (ends : VerifyEnds o externalOrderId externalPaymentId signature c v result v') :
    (Illegal result → Intact v.order v'.order) ↔
      ¬ ∃ r fetched, v.Asks externalOrderId r ∧
          (answer (.verify (verificationInput o externalOrderId externalPaymentId signature r))).result =
            .ok fetched ∧
          ¬ v.state.Leads (verificationTarget fetched v.order r) ∧
          ¬ (v.session.verification = some fetched ∧ v.session.externalPaymentId = some externalPaymentId) := by
  cases ends with
  | repeated repeats _ _ legal =>
      refine iff_of_true (fun illegal => absurd illegal legal) ?_
      rintro ⟨r, fetched, asks, -⟩
      exact Bool.false_ne_true (asks.unverified.symm.trans repeats.verified)
  | unasked _ unasked order _ =>
      refine iff_of_true (fun illegal => ?_) ?_
      · rcases order with same | ⟨legal, -⟩
        · exact .of_eq same
        · exact absurd illegal legal
      · rintro ⟨r, _, asks, -⟩
        exact unasked r asks
  | @unanswered r _ _ _ _ asks asked answered _ _ legal =>
      refine iff_of_true (fun illegal => absurd illegal legal) ?_
      rintro ⟨r', fetched, asks', answered', -⟩
      obtain rfl := Option.some.inj (asks'.record.symm.trans asks.record)
      rw [← alone.given asked.2] at answered'
      cases answered.symm.trans answered'
  | @settled r _ _ fetched x _ asks asked answered resumed settles =>
      obtain rfl := resumed (alone.still asked.1)
      have only : ∀ {r' fetched'}, v.Asks externalOrderId r' →
          (answer (.verify (verificationInput o externalOrderId externalPaymentId signature r'))).result =
            .ok fetched' → r' = r ∧ fetched' = fetched := by
        intro r' fetched' asks' answered'
        obtain rfl := Option.some.inj (asks'.record.symm.trans asks.record)
        rw [← alone.given asked.2] at answered'
        cases answered.symm.trans answered'
        exact ⟨rfl, rfl⟩
      rcases settles with ⟨leads, legal, -⟩ | ⟨stuck, illegal, -, order⟩
      · refine iff_of_true (fun illegal => absurd illegal legal) ?_
        rintro ⟨r', fetched', asks', answered', stuck, -⟩
        obtain ⟨rfl, rfl⟩ := only asks' answered'
        exact stuck leads
      · by_cases stored : v.session.verification = some fetched ∧
            v.session.externalPaymentId = some externalPaymentId
        · refine iff_of_true (fun _ => .of_eq ?_) ?_
          · rw [order, Order.evidenced, ← stored.1, ← stored.2]
            rfl
          · rintro ⟨r', fetched', asks', answered', -, unstored⟩
            obtain ⟨rfl, rfl⟩ := only asks' answered'
            exact unstored stored
        · have given : (answer (.verify (verificationInput o externalOrderId externalPaymentId signature r))).result =
              .ok fetched := by
            rw [← alone.given asked.2]
            exact answered
          refine iff_of_false (fun intact => stored ?_) (not_not.mpr ⟨r, fetched, asks, given, stuck, stored⟩)
          have intact := intact illegal
          rw [order] at intact
          exact ⟨intact.verification.symm, intact.externalPaymentId.symm⟩

theorem RespondEnds.intact_iff {message : String} {answer : (q : Query) → q.Answer}
    (ends : RespondEnds cfg message answer v result v') :
    (Illegal result ∨ Refused result → Intact v.order v'.order) ↔
      ¬ ∃ merged heard, hear cfg v.clock message answer v.session.intent = .ok (merged, heard) ∧
          Searches message merged ∧
          ¬ v.TakesSearch (hasIntentChanged v.session.intent heard) heard ∧
          (heard ≠ v.session.intent ∨ v.state = .quoted) := by
  cases ends with
  | misheard misheard legal accepts =>
      refine iff_of_true (fun fails => absurd fails (not_or.mpr ⟨legal, accepts⟩)) ?_
      rintro ⟨merged, heard, said, -⟩
      obtain ⟨_, unheard⟩ := misheard.result
      cases said.symm.trans unheard
  | @heard merged heard said intent approval turn versions =>
      have only : ∀ {m h}, hear cfg v.clock message answer v.session.intent = .ok (m, h) →
          m = merged ∧ h = heard := by
        intro m h said'
        cases said'.symm.trans said
        exact ⟨rfl, rfl⟩
      cases turn with
      | taken takes legal accepts =>
          refine iff_of_true (fun fails => absurd fails (not_or.mpr ⟨legal, accepts⟩)) ?_
          rintro ⟨m, h, said', searches, untaken, -⟩
          obtain ⟨rfl, rfl⟩ := only said'
          exact untaken (takes searches)
      | closed searches untaken state reply same intent =>
          by_cases kept : heard = v.session.intent
          · refine iff_of_true (fun _ => .of_eq (same kept)) ?_
            rintro ⟨m, h, said', -, -, changed | quoted⟩
            · obtain ⟨rfl, rfl⟩ := only said'
              exact changed kept
            · rw [quoted] at state
              revert state
              cases hasIntentChanged v.session.intent heard <;> decide
          · refine iff_of_false (fun intact => kept ?_)
              (not_not.mpr ⟨merged, heard, said, searches, untaken, .inl kept⟩)
            exact intent.symm.trans (intact (.inr reply)).intent
      | stuck searches untaken quoted illegal renewed =>
          refine iff_of_false (fun intact => ?_)
            (not_not.mpr ⟨merged, heard, said, searches, untaken, .inr quoted⟩)
          rw [(intact (.inl illegal)).marks] at renewed
          omega

end Operations

/-! ### Calls -/

section Calls

variable {cfg : Config} {s : Services} {o : String} {call : Call} {v v' : View}

/-- An operation that does not run leaves its order as it was. -/
theorem Under.intact_iff {runs fails spoils : Prop} {ends : View → Except ServiceError Reply → View → Prop}
    {result : Except ServiceError Reply} (h : Under runs ends v result v')
    (intact : ends v result v' → ((fails → Intact v.order v'.order) ↔ ¬ spoils)) :
    (fails → Intact v.order v'.order) ↔ ¬ (runs ∧ spoils) := by
  rcases h with ⟨idle, same, -⟩ | ⟨runs, ended⟩
  · exact iff_of_true (fun _ => .of_eq same) fun spoiled => idle spoiled.1
  · rw [intact ended, and_iff_right runs]

/-- A failed call leaves the order intact, if and only if it does not spoil it. -/
theorem failed_intact (keyed : Keyed s) (unrepeated : Unrepeated cfg.platform s) (edits : call.command.Edits o)
    (before : (call.start s).view? o = some v) (after : (call.final cfg s).view? o = some v') :
    (call.command.Fails (call.run cfg s).result → Intact v.order v'.order) ↔ ¬ call.Spoils cfg s v := by
  have ends := (Call.sound cfg (fun _ _ _ => True) edits.known keyed fun _ _ _ _ => trivial).2
  have alone : Alone call.answer (call.contract cfg (fun _ _ _ => True) s) := Alone.alone
  have reads : ∀ {result : View → Except ServiceError Reply → View → Prop},
      Ends o ((call.start s).view? o) result (call.run cfg s).result (call.final cfg s) →
      result v (call.run cfg s).result v' := by
    intro result ended
    obtain ⟨_, at_, h⟩ := ended v before
    obtain rfl := Option.some.inj (at_.symm.trans after)
    exact h
  obtain ⟨-, stored, -, -, draws⟩ := view_cases before
  unfold Call.Spoils
  cases command : call.command with
  | buildQuote o' productId supplied operationId =>
      rw [command] at edits ends
      obtain rfl : o' = o := edits
      refine (reads ends).intact_iff fun quoted => quoted.intact_iff fun r record n later => ?_
      exact unrepeated o' r (stored.trans record) n (draws ▸ later)
  | approve o' digest operationId =>
      rw [command] at edits ends
      obtain rfl : o' = o := edits
      exact (reads ends).intact_iff Approves.intact_iff
  | tamper o' field =>
      rw [command] at edits ends
      obtain rfl : o' = o := edits
      exact (reads ends).intact_iff
  | intentPatch o' patch expected =>
      rw [command] at edits ends
      obtain rfl : o' = o := edits
      exact (reads ends).intact_iff
  | verifyPayment o' externalOrderId externalPaymentId signature operationId =>
      rw [command] at edits ends
      obtain rfl : o' = o := edits
      exact (reads ends).intact_iff fun ended => ended.intact_iff alone
  | respond o' message supplied operationId =>
      rw [command] at edits ends
      obtain rfl : o' = o := edits
      exact (reads ends).intact_iff fun ended => (ended call.answer alone).intact_iff
  | _ =>
      rw [command] at edits
      exact absurd edits id

end Calls

/-! ### Two failures -/

namespace IntactSample

def illegal : Except ServiceError Reply → Bool
  | .error (.illegalTransition _ _) => true
  | _ => false

theorem illegal_iff {result : Except ServiceError Reply} : illegal result = true ↔ Illegal result := by
  cases result with
  | ok reply => exact iff_of_false Bool.false_ne_true id
  | error e => cases e <;> simp [illegal, Illegal]

/-- A payment is submitted of another order than was initiated. -/
def mistaken : Call := (Command.verifyPayment "ord_0" "order_other" "pay_0" "signature" none).plain

theorem mistaken_facts : illegal (mistaken.run plainConfig approvedServices).result = true ∧
    approvedServices.envelopes.entries.all (·.2.envelope.quoteId = plainPlatform.newId "qt" 7) = true ∧
    7 < approvedServices.draws ∧ (approvedServices.order? "ord_0").map Order.externalOrderId = some none ∧
    ((mistaken.final plainConfig approvedServices).order? "ord_0").map Order.state = some .approved := by
  decide +kernel

theorem unrepeated_approved : Unrepeated plainPlatform approvedServices := by
  obtain ⟨-, only, drawn, -⟩ := mistaken_facts
  intro o r stored n later same
  have is := List.all_eq_true.mp only _ (OrderedMap.mem_entries (e := (o, r)).mpr stored)
  rw [decide_eq_true_eq] at is
  have equal := newId_injective plainPlatform_injective "qt" (same.trans is)
  omega

/-- The price of a paid order is tampered with. -/
def tampering : Call := (Command.tamper "ord_0" "price").plain

def total (x : Order) : Option Int := x.record.map (·.envelope.totalMinor)

theorem tampering_facts : illegal (tampering.run plainConfig paidServices).result = true ∧
    (paidServices.order? "ord_0").map total = some (some 434800) ∧
    ((tampering.final plainConfig paidServices).order? "ord_0").map total = some (some 429800) := by
  decide +kernel

end IntactSample

open IntactSample in
/-- The refused submission leaves the order intact. -/
theorem failed_intact_mistaken : ∃ v v', (mistaken.start approvedServices).view? "ord_0" = some v ∧
    (mistaken.final plainConfig approvedServices).view? "ord_0" = some v' ∧
    Illegal (mistaken.run plainConfig approvedServices).result ∧ Intact v.order v'.order := by
  obtain ⟨illegal, -, -, unbound, kept⟩ := mistaken_facts
  obtain ⟨v, before, unbound⟩ := mistaken.view_start unbound
  obtain ⟨v', after, -⟩ := view_of_map kept
  have illegal := illegal_iff.mp illegal
  refine ⟨v, v', before, after, illegal, ?_⟩
  refine (failed_intact (keyed_after (keyed_after keyed_opened quoting) approving) unrepeated_approved
    (show mistaken.command.Edits "ord_0" from rfl) before after).mpr ?_ illegal
  -- No payment was initiated, so that none is asked of the adapter.
  rintro ⟨-, r, fetched, asks, -⟩
  cases unbound.symm.trans asks.same

open IntactSample in
/-- The refused change of the price stays in the record of the paid order. -/
theorem failed_changed : ∃ history v v', Reached plainConfig history paidServices ∧
    (tampering.start paidServices).view? "ord_0" = some v ∧
    (tampering.final plainConfig paidServices).view? "ord_0" = some v' ∧
    Illegal (tampering.run plainConfig paidServices).result ∧ ¬ Intact v.order v'.order := by
  obtain ⟨illegal, charged, reduced⟩ := tampering_facts
  obtain ⟨history, reached⟩ := reached_paid
  obtain ⟨v, before, charged⟩ := tampering.view_start charged
  obtain ⟨v', after, reduced⟩ := view_of_map reduced
  refine ⟨history, v, v', reached, before, after, illegal_iff.mp illegal, fun intact => ?_⟩
  rw [total, intact.record] at reduced
  cases charged.symm.trans reduced

end AgentReady
