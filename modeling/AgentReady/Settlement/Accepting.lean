import AgentReady.Settlement.Conduct

/-!
`accept` and `stagePreparedAttempt` follow the conduct of a worker.

The operations are taken from the inside out: a settlement is completed, a stored attempt is
joined, a claimed attempt is settled, a payment is accepted. Each rule says what holds where its
operation starts, and what its response reports.

* `accept_meets`, `stage_meets`: under every conduct, with every answer of the facilitator, the
  RPC node and the store. A response with status 200 reports a settled attempt for its request.
-/

namespace AgentReady.Settlement

open Coop

/-- The evidence that a response carries. -/
def Response.evidence (response : Response) : Option Json :=
  Json.optional (some response.body) "settlementEvidence"

/-- What is known where a settlement is completed. -/
structure Completes {S : Type} {store : SettlementStore S} (config : X402DevnetConfig)
    (laws : StoreLaws store) (c : Contract (World S) Ask.Answer) (w : String)
    (completion : DevnetMachineResource.Completion) (expected : ExpectedTransfer) (s : World S) :
    Prop where
  credited : completion.owner = w ∨ Awaited laws c completion.operationId s
  asset : expected.asset = config.devnetUsdcMint
  payee : expected.payee = config.payeePublicKey
  amount : Amount config c expected.amount
  payer : Payer c completion.operationId expected.payer s ∨ Saw laws c completion.operationId
    (fun _ a => a.status = .awaitingEvidence ∧ knownPayer a = expected.payer) s
  concerns : Concerns laws c completion.operationId completion.requestDigest s

theorem Completes.since {S : Type} {store : SettlementStore S} {config : X402DevnetConfig}
    {laws : StoreLaws store} {inv : World S → Prop} {c : Contract (World S) Ask.Answer} {w : String}
    {completion : DevnetMachineResource.Completion} {expected : ExpectedTransfer} {s s' : World S}
    (h : Completes config laws c w completion expected s) (conduct : Conduct config laws inv c w)
    (since : Since c s s') : Completes config laws c w completion expected s' where
  credited := h.credited.imp_right fun awaited => awaited.since since
  asset := h.asset
  payee := h.payee
  amount := h.amount
  payer := h.payer.imp (fun payer => payer.since conduct since) fun known => known.since since
  concerns := h.concerns.since since

/-- What is known of an attempt in the hands of its worker. -/
structure Holding {S : Type} {store : SettlementStore S} (laws : StoreLaws store) (c : Contract (World S) Ask.Answer) (w : String)
    (claimed : DevnetMachineResource.ClaimedAttempt) (s : World S) : Prop where
  worker : claimed.payment.call.workerId = w
  concerns : Concerns laws c claimed.operationId claimed.payment.call.requestDigest s
  bound : Saw laws c claimed.operationId (fun _ a =>
    a.payloadDigest = some claimed.payment.payloadDigest ∨ a.payloadDigest = some "") s

theorem Holding.since {S : Type} {store : SettlementStore S} {laws : StoreLaws store}
    {c : Contract (World S) Ask.Answer} {w : String}
    {claimed : DevnetMachineResource.ClaimedAttempt} {s s' : World S}
    (h : Holding laws c w claimed s) (since : Since c s s') : Holding laws c w claimed s' :=
  ⟨h.worker, h.concerns.since since, h.bound.since since⟩

namespace DevnetMachineResource

variable {S : Type} {self : DevnetMachineResource S} {laws : StoreLaws self.store}
  {inv : World S → Prop} {c : Contract (World S) Ask.Answer} {w : String} {s s' : World S}

/-- A response that says 200 carries the evidence of a settled attempt for the request. -/
def Reported (laws : StoreLaws self.store) (c : Contract (World S) Ask.Answer)
    (requestDigest : String) (response : Response) (s : World S) : Prop :=
  response.status = 200 → ∃ id, Concerns laws c id requestDigest s ∧
    Saw laws c id (fun _ a => a.status = .settled ∧
      response.evidence = some (a.evidenceJson.getD .null)) s

/-- A response with another status reports nothing. -/
theorem reported_respond {requestDigest : String} {status : Nat}
    {fields : List (String × Option Json)} (other : status ≠ 200) :
    Reported laws c requestDigest (respondWith status fields) s :=
  fun settled => absurd settled other

/-- The evidence is the last field of a resource that was paid for. -/
theorem evidence_respond (payer : String) (date : Int) (evidence : Json) :
    (respondWith 200 (self.score payer date ++ [("settlementEvidence", some evidence)])).evidence =
      some evidence := rfl

theorem evidence_replayed (payer : String) (row : Attempt) (date : Int) :
    (self.replayed payer row date).evidence = some (row.evidenceJson.getD .null) := rfl

/-- A replay of a settled row. -/
theorem reported_replayed {requestDigest id payer : String} {row : Attempt} {date : Int}
    (requested : Concerns laws c id requestDigest s) (saw : Saw laws c id (fun _ b => b = row) s)
    (settled : row.status = .settled) :
    Reported laws c requestDigest (self.replayed payer row date) s := by
  obtain ⟨s₀, b, before, stored, rfl⟩ := saw
  exact fun _ => ⟨id, requested, s₀, b, before, stored, settled, evidence_replayed ..⟩

/-! ### Writes of the worker -/

/-- A transition that the worker may make in any case. -/
theorem meets_proceed (conduct : Conduct self.config laws inv c w) {id owner : String}
    {fence : Option String} {from_ : List AttemptStatus} {to_ : AttemptStatus} {update : Update}
    (held : ∀ status ∈ from_, status ∈ leasedStatuses)
    (credited : owner = w ∨ Awaited laws c id s)
    (next : (to_ = .settling ∧ from_ = [.settling]) ∨
      to_ ∈ [AttemptStatus.rejected, .awaitingEvidence, .manual, .mismatch])
    (bare : update.Bare) (payer : ∀ p, update.payer = some (some p) → p ≠ "" → Payer c id p s) :
    (self.store.transition self.runtime id from_ to_ update (some owner) fence).Meets c
      (Reports fun _ s' => Passed inv c w s s') s := by
  refine reports_mono (meets_row conduct self.runtime trivial
    fun s₁ before _ old f new stored writes => ?_) fun row s' ended => ended.1
  cases writes with
  | transition status owned =>
      have credited : Credited laws c w old s₁ := by
        rcases credited with rfl | awaited
        · exact .inl (owned _ rfl)
        · exact .inr (awaited.since before.since)
      refine .proceed (held _ status) credited ?_ bare fun p given nonempty => ?_
      · rcases next with ⟨settling, rfl⟩ | next
        · exact .inl ⟨settling, List.mem_singleton.mp status⟩
        · exact .inr next
      · exact (payer p given nonempty).since conduct before.since

/-- The inspection was made, or there is none. -/
def Inspects (txHash requestDigest : String) (expected : ExpectedTransfer)
    (inspection : TransactionInspection) (s : World S) : Prop :=
  inspection = unavailable ∨ ∃ answer, .inspected txHash answer ∈ s.journal ∧
    inspection = inspect answer (memoForEnvelope requestDigest) expected

section Completing

variable {completion : Completion} {adapted : AdaptedSettlement} {expected : ExpectedTransfer}
  {requestDigest : String}

theorem inspectTransaction_meets (conduct : Conduct self.config laws inv c w) (start : inv s)
    {txHash : String} : (self.inspectTransaction txHash (memoForEnvelope requestDigest) expected).Meets
      c (Reports fun i s' => Passed inv c w s s' ∧ Inspects txHash requestDigest expected i s') s := by
  unfold inspectTransaction
  split
  · exact ⟨.refl start, .inl rfl⟩
  · refine reports_bind (reports_call conduct fun answer s₁ passed _ => passed) fun answer s₁ passed => ?_
    refine reports_bind (meets_record conduct passed.inv .inspected nofun) fun _ s₂ noted => ?_
    exact ⟨passed.trans noted.1, .inr ⟨answer, noted.2, rfl⟩⟩

theorem failClosed_meets (conduct : Conduct self.config laws inv c w)
    (completes : Completes self.config laws c w completion expected s) {to_ : AttemptStatus}
    (next : to_ ∈ [AttemptStatus.awaitingEvidence, .manual]) {error detail : String}
    {retryable : Bool} : (self.failClosed completion adapted to_ error detail retryable).Meets c
      (Reports (Reported laws c requestDigest)) s := by
  unfold failClosed
  have caught : (tryCatch (do
      let _ ← self.store.transition self.runtime completion.operationId
        [.settling, .awaitingEvidence] to_ { txHash := some (some adapted.transactionHash) }
        (some completion.owner) (some completion.fence))
      fun _ => pure () : Machine S Unit).Meets c (Reports fun _ _ => True) s := by
    refine reports_catch (reports_bind (meets_proceed conduct ?_ completes.credited ?_ ⟨rfl, rfl, rfl⟩
      nofun) fun _ _ _ => trivial) fun e s' => trivial
    · decide
    · right
      revert next
      cases to_ <;> decide
  refine reports_bind caught fun _ s' _ => reports_return (reported_respond ?_)
  split <;> decide

/-- The write that settles an attempt. -/
theorem meets_settle (conduct : Conduct self.config laws inv c w) {id owner fence txHash : String}
    {evidence : Json} {answer : Option Json} (credited : owner = w ∨ Awaited laws c id s)
    (shown : Shown self.config laws c id txHash requestDigest expected answer s) :
    (self.store.transition self.runtime id [.settling, .awaitingEvidence] .settled
      { txHash := some (some txHash), evidenceJson := some evidence } (some owner) (some fence)).Meets
      c (Reports fun row s' => Passed inv c w s s' ∧ ∀ new, row = some new →
        Saw laws c id (fun _ a => a.status = .settled ∧ a.evidenceJson = some evidence) s') s := by
  refine reports_mono (meets_row conduct self.runtime trivial
    fun s₁ before _ old f new stored writes => ?_) fun row s' ended => ⟨ended.1, fun new found => ?_⟩
  · cases writes with
    | transition status owned =>
        have held : old.status ∈ leasedStatuses := status
        have since := before.since
        refine .settle held ?_ (shown.since conduct since)
        rcases credited with rfl | awaited
        · exact .inl (owned _ rfl)
        · exact .inr (awaited.since since)
  · obtain ⟨old, f, s₁, s₂, -, -, writes, -, stored, relied⟩ := ended.2 new found
    cases writes with
    | transition => exact ⟨s₂, _, .single (.inl relied), stored, rfl, rfl⟩

theorem verified_of_else {i : TransactionInspection} (available : ¬ i.Unavailable)
    (matching : ¬ (i.memoVerification = .missing ∨ i.transferVerification = .mismatch)) :
    i.Verified := by
  obtain ⟨memo, transfer, _, _⟩ := i
  revert available matching
  unfold TransactionInspection.Unavailable TransactionInspection.Verified
  cases memo <;> cases transfer <;> simp

/-- The completion of a settlement that was inspected. -/
theorem inspected_meets (conduct : Conduct self.config laws inv c w)
    (completes : Completes self.config laws c w completion expected s)
    (requested : Concerns laws c completion.operationId requestDigest s) {i : TransactionInspection}
    (inspects : Inspects adapted.transactionHash completion.requestDigest expected i s) :
    (self.completeSettlement completion adapted expected (some i)).Meets c
      (Reports (Reported laws c requestDigest)) s := by
  unfold completeSettlement
  dsimp only
  refine reports_pure ?_
  split
  · exact failClosed_meets conduct completes (by decide)
  rename_i available
  split
  · exact failClosed_meets conduct completes (by decide)
  rename_i matching
  rcases inspects with rfl | ⟨answer, entry, rfl⟩
  · exact absurd (.inl rfl) available
  have shown : Shown self.config laws c completion.operationId adapted.transactionHash
      completion.requestDigest expected answer _ :=
    ⟨entry, verified_of_else available matching, completes.asset, completes.payee, completes.amount,
      completes.payer, completes.concerns⟩
  refine reports_read ?_
  refine reports_bind (P := fun settled s₂ => ∀ row, settled = some row → inv s₂ ∧ Since c s s₂ ∧
    ∀ new, row = some new → Saw laws c completion.operationId (fun _ a => a.status = .settled ∧
      a.evidenceJson = some (settlementEvidence completion adapted (inspect answer
        (memoForEnvelope completion.requestDigest) expected) s.date)) s₂) ?_ fun settled s₂ known => ?_
  · refine reports_catch (reports_bind (meets_settle conduct completes.credited shown)
      fun row s₂ ended => ?_) fun e s₂ => ?_
    · rintro _ ⟨⟩
      exact ⟨ended.1.inv, ended.1.since, ended.2⟩
    · rintro _ ⟨⟩
  cases settled with
  | none => exact reports_return (reported_respond (by decide))
  | some row =>
  obtain ⟨kept, since, saw⟩ := known row rfl
  cases row with
  | some new =>
      obtain ⟨s₀, a, before, stored, settled, evidence⟩ := saw new rfl
      refine reports_return fun _ => ⟨completion.operationId, requested.since since, s₀, a, before,
        stored, settled, ?_⟩
      rw [evidence]
      exact evidence_respond ..
  | none =>
      refine reports_bind (meets_get conduct) fun current s₃ ended => ?_
      obtain ⟨passed, seen⟩ := ended
      split
      · rename_i row found
        obtain ⟨found, settled⟩ := Option.filter_eq_some_iff.mp found
        obtain ⟨same, saw⟩ := seen row found
        refine reports_read (reports_return (reported_replayed
          ((requested.since since).since passed.since) (same ▸ saw) (by simpa using settled)))
      · exact failClosed_meets conduct ((completes.since conduct since).since conduct passed.since)
          (by decide)

theorem completeSettlement_meets (conduct : Conduct self.config laws inv c w) (start : inv s)
    (completes : Completes self.config laws c w completion expected s)
    (requested : Concerns laws c completion.operationId requestDigest s) :
    (self.completeSettlement completion adapted expected none).Meets c
      (Reports (Reported laws c requestDigest)) s := by
  unfold completeSettlement
  refine reports_bind (inspectTransaction_meets conduct start) fun i s₁ ended => ?_
  obtain ⟨passed, inspects⟩ := ended
  exact inspected_meets conduct (completes.since conduct passed.since)
    (requested.since passed.since) inspects

end Completing

/-! ### Joining -/

section Joining

variable {row : Attempt} {requestDigest : String}

theorem reported_unsettled {status : Nat} {error detail : String} {row : Attempt} {pending : Bool}
    (other : status ≠ 200) : Reported laws c requestDigest (unsettled status error detail row pending) s :=
  reported_respond other

theorem reported_inProgress {detail paymentIdentifier digest : String} :
    Reported laws c requestDigest (inProgress detail paymentIdentifier digest) s :=
  reported_respond (by decide)

/-- The reconciliation of a row that was awaiting its evidence. -/
theorem reconcile_meets (conduct : Conduct self.config laws inv c w) (start : inv s)
    (seen : Seen laws c row s) (awaiting : row.status = .awaitingEvidence)
    (requested : Concerns laws c row.operationId requestDigest s) {txHash owner fence : String} :
    (self.reconcile row txHash (knownPayer row) owner fence).Meets c
      (Reports (Reported laws c requestDigest)) s := by
  have awaited : Awaited laws c row.operationId s := seen.saw fun _ => awaiting
  unfold reconcile
  refine reports_bind (inspectTransaction_meets conduct start) fun i s₁ ended => ?_
  obtain ⟨passed, inspects⟩ := ended
  have since := passed.since
  split
  · refine inspected_meets conduct ?_ (requested.since since) inspects
    exact {
      credited := .inr (awaited.since since)
      asset := rfl
      payee := rfl
      amount := .inl rfl
      payer := .inr ((seen.saw fun _ => ⟨awaiting, rfl⟩).since since)
      concerns := (Seen.saw (p := fun _ a => a.requestDigest = row.requestDigest) seen
        fun _ => rfl).since since }
  split
  · refine reports_bind (meets_proceed conduct ?_ (.inr (awaited.since since)) ?_ ⟨rfl, rfl, rfl⟩ ?_)
      fun _ s₂ _ => reports_return (reported_unsettled (by decide))
    · decide
    · decide
    · rintro p ⟨⟩
  · exact reports_return (reported_unsettled (by decide))

/-- What a join leads to: a response that reports, or nothing, and the worker goes on. -/
def Joined (laws : StoreLaws self.store) (inv : World S → Prop) (c : Contract (World S) Ask.Answer)
    (w requestDigest : String) (s : World S) (joined : Option Response) (s' : World S) : Prop :=
  (joined = none → Passed inv c w s s') ∧
    ∀ response, joined = some response → Reported laws c requestDigest response s'

theorem joined_some {response : Response} (h : Reported laws c requestDigest response s') :
    Joined laws inv c w requestDigest s (some response) s' := by
  refine ⟨nofun, ?_⟩
  rintro _ ⟨⟩
  exact h

theorem joined_none (h : Passed inv c w s s') : Joined laws inv c w requestDigest s none s' :=
  ⟨fun _ => h, nofun⟩

theorem Joined.from_ {joined : Option Response} {s₁ : World S} (passed : Passed inv c w s s₁)
    (h : Joined laws inv c w requestDigest s₁ joined s') :
    Joined laws inv c w requestDigest s joined s' :=
  ⟨fun none_ => passed.trans (h.1 none_), h.2⟩

theorem meets_takeover (conduct : Conduct self.config laws inv c w) {id owner : String} :
    (self.store.claimRowForTakeover self.runtime id owner self.leaseTtl).Meets c
      (Reports fun taken s' => Passed inv c w s s' ∧
        ∀ row, taken = some row → row.operationId = id ∧ TakenOver laws inv c id s') s := by
  refine reports_mono (meets_row conduct self.runtime trivial
    fun s₁ before _ old f new stored writes => ?_) fun taken s' ended => ⟨ended.1, fun row found => ?_⟩
  · cases writes with
    | takeover held lapsed => exact .takeover held lapsed
  · obtain ⟨old, f, s₁, s₂, before, stored, writes, after, -, relied⟩ := ended.2 row found
    cases writes with
    | takeover held lapsed =>
        have since := after.since.trans (.single (.inl relied))
        exact ⟨rfl, s₁, old, since, stored, before.inv, held, lapsed⟩

/-- The slot of a lapsed attempt is opened again by who took it over. -/
theorem meets_reopen (conduct : Conduct self.config laws inv c w) {id : String}
    {owner fence : Option String} (taken : TakenOver laws inv c id s) :
    (self.store.transition self.runtime id [.settling] .pending {} owner fence).Meets c
      (Reports fun _ s' => Passed inv c w s s') s := by
  refine reports_mono (meets_row conduct self.runtime trivial
    fun s₁ before _ old f new stored writes => ?_) fun _ s' ended => ended.1
  cases writes with
  | transition status _ => exact .reopen (List.mem_singleton.mp status) (taken.since before.since)

theorem joinStoredRow_meets (conduct : Conduct self.config laws inv c w) {rejoins : Nat}
    (start : inv s) (seen : Seen laws c row s)
    (requested : Concerns laws c row.operationId requestDigest s) :
    (self.joinStoredRow rejoins row).Meets c
      (Reports (Joined laws inv c w requestDigest s)) s := by
  induction rejoins generalizing row s with
  | zero =>
      refine reports_bind (P := fun _ _ => True) (reports_call conduct fun _ _ _ _ => trivial) ?_
      exact fun never => never.elim
  | succ rejoins ih =>
      unfold joinStoredRow
      dsimp only
      split
      · rename_i settled
        exact reports_read (reports_return (joined_some (reported_replayed requested seen settled)))
      · exact reports_return (joined_some (reported_respond (by decide)))
      · exact reports_return (joined_some (reported_unsettled (by decide)))
      · exact reports_return (joined_some (reported_unsettled (by decide)))
      · exact reports_return (joined_some (reported_respond (by decide)))
      · rename_i awaiting
        split
        · exact reports_return (joined_some (reported_unsettled (by decide)))
        refine reports_read ?_
        split
        · refine reports_pure ?_
          dsimp only
          split
          · exact reports_bind (reconcile_meets conduct start seen awaiting requested)
              fun response s' reported => reports_return (joined_some reported)
          · exact reports_return (joined_some (reported_unsettled (by decide)))
        · refine reports_bind (meets_uuid conduct self.runtime start) fun uuid s₁ drawn => ?_
          refine reports_bind (meets_takeover conduct) fun held s₂ ended => ?_
          have passed := drawn.trans ended.1
          cases held with
          | none =>
              refine reports_bind (meets_get conduct) fun current s₃ read => ?_
              have passed := passed.trans read.1
              split
              · rename_i found
                obtain ⟨same, seen'⟩ := read.2 _ (Option.filter_eq_some_iff.mp found).1
                rw [← same] at requested
                exact reports_mono (ih passed.inv seen' (requested.since passed.since))
                  fun joined s' ended => ended.from_ passed
              · exact reports_return (joined_some reported_inProgress)
          | some held =>
              have seen := Saw.since seen passed.since
              have requested := requested.since passed.since
              dsimp only
              split
              · exact reports_bind (reconcile_meets conduct passed.inv seen awaiting requested)
                  fun response s' reported => reports_return (joined_some reported)
              · exact reports_return (joined_some (reported_unsettled (by decide)))
      · refine reports_read ?_
        split
        · exact reports_return (joined_some reported_inProgress)
        refine reports_bind (meets_uuid conduct self.runtime start) fun uuid s₁ drawn => ?_
        refine reports_bind (meets_takeover conduct) fun taken s₂ ended => ?_
        have passed := drawn.trans ended.1
        cases taken with
        | none =>
            refine reports_bind (meets_get conduct) fun current s₃ read => ?_
            have passed := passed.trans read.1
            cases current with
            | none =>
                exact reports_mono (ih passed.inv (Saw.since seen passed.since)
                  (requested.since passed.since)) fun joined s' ended => ended.from_ passed
            | some current =>
                obtain ⟨same, seen'⟩ := read.2 _ rfl
                rw [← same] at requested
                exact reports_mono (ih passed.inv seen' (requested.since passed.since))
                  fun joined s' ended => ended.from_ passed
        | some taken =>
            obtain ⟨same, lapsed⟩ := ended.2 taken rfl
            rw [← same] at lapsed
            refine reports_bind (meets_reopen conduct lapsed) fun _ s₃ reopened => ?_
            exact reports_return (joined_none (passed.trans reopened))
      · exact reports_return (joined_none (.refl start))

end Joining

/-! ### Settling -/

section Settling

variable {claimed : ClaimedAttempt}

/-- The payer that the facilitator confirmed is known; where it confirmed none, anyone is. -/
def Named (c : Contract (World S) Ask.Answer) (id : String) (payer : Option String) (s : World S) :
    Prop :=
  ∀ p, (payer.getD "" ≠ "" → p = payer.getD "") → Payer c id p s

theorem Named.since {id : String} {payer : Option String} (conduct : Conduct self.config laws inv c w)
    (h : Named c id payer s) (since : Since c s s') : Named c id payer s' :=
  fun p consistent => (h p consistent).since conduct since

theorem workerTransition_meets (conduct : Conduct self.config laws inv c w)
    (holding : Holding laws c w claimed s) {to_ : AttemptStatus} {update : Update}
    (next : to_ ∈ [AttemptStatus.settling, .rejected, .awaitingEvidence, .manual])
    (bare : update.Bare)
    (payer : ∀ p, update.payer = some (some p) → p ≠ "" → Payer c claimed.operationId p s) :
    (self.workerTransition claimed to_ update).Meets c (Reports fun _ s' => Passed inv c w s s') s := by
  refine meets_proceed conduct (by decide) (.inl holding.worker) ?_ bare payer
  rcases List.mem_cons.mp next with rfl | other
  · exact .inl ⟨rfl, rfl⟩
  · right
    revert other
    cases to_ <;> decide

/-- The lease of the worker is checked and renewed. -/
theorem meets_renew (conduct : Conduct self.config laws inv c w) {id owner fence : String}
    (worker : owner = w) :
    (self.store.revalidateForSettle self.runtime id owner fence self.leaseTtl).Meets c
      (Reports fun row s' => Passed inv c w s s' ∧ ∀ new, row = some new →
        ∃ s₀ a, c.rely s₀ s' ∧ laws.rows s₀.store id = some a ∧ a.status = .settling ∧
          a.leaseOwner = some w) s := by
  subst worker
  refine reports_mono (meets_row conduct self.runtime trivial
    fun s₁ before _ old f new stored writes => ?_) fun row s' ended => ⟨ended.1, fun new found => ?_⟩
  · cases writes with
    | renew settling owned => exact .renew settling owned
  · obtain ⟨old, f, s₁, s₂, -, -, writes, -, stored, relied⟩ := ended.2 new found
    cases writes with
    | renew settling owned => exact ⟨s₂, _, relied, stored, settling, owned⟩

theorem rejoin_meets (conduct : Conduct self.config laws inv c w)
    (holding : Holding laws c w claimed s) {detail : String} :
    (self.rejoin claimed detail).Meets c
      (Reports (Reported laws c claimed.payment.call.requestDigest)) s := by
  unfold rejoin
  refine reports_bind (meets_get conduct) fun reread s₁ read => ?_
  cases reread with
  | none => exact reports_return reported_inProgress
  | some reread =>
      obtain ⟨same, seen⟩ := read.2 _ rfl
      have requested := holding.concerns.since read.1.since
      rw [← same] at requested
      refine reports_bind (joinStoredRow_meets conduct read.1.inv seen requested)
        fun joined s₂ ended => reports_return ?_
      cases joined with
      | none => exact reported_inProgress
      | some response => exact ended.2 response rfl

theorem reported_undecided {status : Nat} {error detail requestDigest : String} {pending : Bool}
    {transaction : Option String} (other : status ≠ 200) :
    Reported laws c requestDigest (undecided claimed status error detail pending transaction) s :=
  reported_respond other

/-- The amount of an adapted settlement comes from the response, or is the canonical one. -/
theorem amount_of_response {response : SettleResponse} {payload accepted : Json} {s₀ : World S}
    {config : X402DevnetConfig} {requestDigest amount : String}
    (answered : c.answers (.settlePayment payload accepted) (.answered response) s₀)
    (chosen : (some ((response.amount.filter (· ≠ "")).getD
        (buildCanonicalRequirements config requestDigest).amount) = some amount ∧ amount ≠ "") ∨
      amount = (buildCanonicalRequirements config requestDigest).amount) :
    Amount config c amount := by
  rcases chosen with ⟨same, nonempty⟩ | rfl
  · cases given : response.amount.filter (· ≠ "") with
    | none =>
        rw [given] at same
        exact .inl (Option.some.inj same).symm
    | some settled =>
        rw [given] at same
        obtain rfl := Option.some.inj same
        have reported := (Option.filter_eq_some_iff.mp given).1
        exact .inr ⟨payload, accepted, response, s₀, answered, reported, nonempty⟩
  · exact .inl rfl

theorem settleAnswered_meets (conduct : Conduct self.config laws inv c w) (start : inv s)
    (holding : Holding laws c w claimed s) {payerFromVerify : Option String}
    (named : Named c claimed.operationId payerFromVerify s) {payload accepted : Json}
    {answer : SettleAnswer} {s₀ : World S}
    (answered : c.answers (.settlePayment payload accepted) answer s₀) :
    (self.settleAnswered claimed payerFromVerify answer).Meets c
      (Reports (Reported laws c claimed.payment.call.requestDigest)) s := by
  have confirmed : ∀ p, payerFromVerify.map some = some (some p) → p ≠ "" →
      Payer c claimed.operationId p s := by
    intro p given _
    obtain ⟨payer, rfl, same⟩ := Option.map_eq_some_iff.mp given
    exact named p fun _ => (Option.some.inj same).symm
  have either : ∀ p response, (if payerFromVerify.getD "" ≠ "" then payerFromVerify.getD ""
      else response) = p → Payer c claimed.operationId p s := by
    rintro p response rfl
    exact named _ fun given => if_pos given
  cases answer with
  | threw error message =>
      unfold settleAnswered
      dsimp only
      split
      · refine reports_bind (workerTransition_meets conduct holding (by decide) ⟨rfl, rfl, rfl⟩
          confirmed) fun _ s₁ _ => reports_return (reported_undecided (by decide))
      · refine reports_bind (workerTransition_meets conduct holding (by decide) ⟨rfl, rfl, rfl⟩
          confirmed) fun _ s₁ _ => reports_return (reported_undecided (by decide))
  | malformed =>
      refine reports_bind (workerTransition_meets conduct holding (by decide) ⟨rfl, rfl, rfl⟩
        ?_) fun _ s₁ _ => reports_return (reported_undecided (by decide))
      rintro p ⟨⟩
  | answered response =>
      unfold settleAnswered
      dsimp only
      split
      · refine reports_bind (workerTransition_meets conduct holding (by decide) ⟨rfl, rfl, rfl⟩
          ?_) fun _ s₁ _ => reports_return (reported_undecided (by decide))
        rintro p given _
        exact either p _ (Option.some.inj (Option.some.inj given))
      split
      · refine reports_bind (workerTransition_meets conduct holding ?_ ⟨rfl, rfl, rfl⟩
          ?_) fun _ s₁ _ => reports_return (reported_undecided (by decide))
        · split <;> decide
        · rintro p given _
          exact either p _ (Option.some.inj (Option.some.inj given))
      · rename_i adapted adapts
        have adapts := adaptSettlement_ok adapts
        split
        · refine completeSettlement_meets conduct start ?_ holding.concerns
          exact {
            credited := .inl holding.worker
            asset := adapts.asset
            payee := adapts.payee
            amount := amount_of_response answered adapts.amount
            payer := .inl (either _ _ adapts.payer.symm)
            concerns := holding.concerns }
        · refine reports_bind (workerTransition_meets conduct holding ?_ ⟨rfl, rfl, rfl⟩
            ?_) fun _ s₁ _ => reports_return (reported_undecided (by decide))
          · split <;> decide
          · rintro p given _
            exact either p _ (Option.some.inj (Option.some.inj given))

theorem workerId_ne_empty (call : AcceptCall) : call.workerId ≠ "" := by
  intro empty
  have length := congrArg String.length empty
  simp [AcceptCall.workerId] at length

theorem settleVerified_meets (conduct : Conduct self.config laws inv c w)
    (holding : Holding laws c w claimed s) {payerFromVerify : Option String}
    (named : Named c claimed.operationId payerFromVerify s) (unsent : Unsent w s) :
    (self.settleVerified claimed payerFromVerify).Meets c
      (Reports (Reported laws c claimed.payment.call.requestDigest)) s := by
  unfold settleVerified
  refine reports_bind (meets_renew conduct holding.worker) fun row s₁ ended => ?_
  obtain ⟨passed, renewed⟩ := ended
  have holding := holding.since passed.since
  cases row with
  | none => exact rejoin_meets conduct holding
  | some row =>
      have grounds : Grounds laws c w s₁
          (.submitted claimed.operationId w claimed.payment.payloadDigest) :=
        .submitted (holding.worker ▸ workerId_ne_empty _) (passed.unsent unsent) (renewed row rfl) holding.bound
      rw [holding.worker]
      refine reports_bind (meets_note conduct passed.inv grounds) fun _ s₂ noted => ?_
      refine reports_bind (P := fun answer s₃ => Passed inv c w s₂ s₃ ∧ c.answers (.settlePayment
        claimed.payment.payload claimed.payment.supplied) answer s₃) ?_ fun answer s₃ ended => ?_
      · exact reports_call conduct fun answer s₃ passed answered => ⟨passed, answered⟩
      · have since := noted.2.trans ended.1.since
        exact settleAnswered_meets conduct ended.1.inv (holding.since since)
          ((named.since conduct passed.since).since conduct since) ended.2

/-- A claimed attempt whose blockhash is recorded. -/
theorem settleRecorded_meets (conduct : Conduct self.config laws inv c w)
    (holding : Holding laws c w claimed s) (unsent : Unsent w s) {blockhash : Option String}
    (recorded : blockhash.getD "" ≠ "") : (self.settleClaimed claimed blockhash).Meets c
      (Reports (Reported laws c claimed.payment.call.requestDigest)) s := by
  unfold settleClaimed
  dsimp only
  rw [if_neg recorded]
  refine reports_bind (meets_renew conduct holding.worker) fun row s₁ ended => ?_
  have renewed := ended.1
  have holding := holding.since renewed.since
  cases row with
  | none => exact rejoin_meets conduct holding
  | some row =>
  refine reports_bind (P := fun answer s₂ => Passed inv c w s₁ s₂ ∧ c.answers
    (.verifyPayment claimed.payment.payload claimed.payment.supplied) answer s₂) ?_
    fun answer s₂ ended => ?_
  · exact reports_call conduct fun answer s₂ passed answered => ⟨passed, answered⟩
  obtain ⟨passed, answered⟩ := ended
  have holding := holding.since passed.since
  have unsent := passed.unsent (renewed.unsent unsent)
  cases answer with
  | error message =>
      refine reports_bind (workerTransition_meets conduct holding (by decide) ⟨rfl, rfl, rfl⟩
        ?_) fun _ s₃ _ => reports_return (reported_respond (by decide))
      rintro p ⟨⟩
  | ok response =>
      dsimp only
      split
      · refine reports_bind (workerTransition_meets conduct holding (by decide) ⟨rfl, rfl, rfl⟩
          ?_) fun _ s₃ _ => reports_return (reported_respond (by decide))
        rintro p ⟨⟩
      rename_i valid
      have valid : response.isValid = true := by simpa using valid
      split
      · rename_i unnamed
        refine settleVerified_meets conduct holding (fun p _ => .inr ?_) unsent
        refine ⟨_, _, response, s₂, answered, valid, ?_⟩
        cases given : response.payer with
        | none => rfl
        | some payer =>
            rw [given] at unnamed
            simpa [Option.filter] using unnamed
      · rename_i payer given
        obtain ⟨given, nonempty⟩ := Option.filter_eq_some_iff.mp given
        have nonempty : payer ≠ "" := by simpa using nonempty
        refine reports_bind (meets_record conduct passed.inv .verified nofun) fun _ s₃ noted => ?_
        have named : Named c claimed.operationId response.payer s₃ := by
          intro p consistent
          rw [given] at consistent
          rw [consistent nonempty]
          exact .inl noted.2
        have holding := holding.since noted.1.since
        refine reports_bind (workerTransition_meets conduct holding (by decide) ⟨rfl, rfl, rfl⟩
          ?_) fun persisted s₄ passed' => ?_
        · rintro p same _
          obtain rfl := Option.some.inj (Option.some.inj same)
          exact .inl noted.2
        · have holding := holding.since passed'.since
          cases persisted with
          | none => exact rejoin_meets conduct holding
          | some persisted =>
              exact settleVerified_meets conduct holding (named.since conduct passed'.since)
                (passed'.unsent (noted.1.unsent unsent))

theorem settleClaimed_meets (conduct : Conduct self.config laws inv c w)
    (holding : Holding laws c w claimed s) (unsent : Unsent w s) {blockhash : Option String} :
    (self.settleClaimed claimed blockhash).Meets c
      (Reports (Reported laws c claimed.payment.call.requestDigest)) s := by
  by_cases recorded : blockhash.getD "" = ""
  · have rest : ∀ s₁, Passed inv c w s s₁ → (self.settleClaimed claimed (some "recorded")).Meets c
        (Reports (Reported laws c claimed.payment.call.requestDigest)) s₁ := fun s₁ passed =>
      settleRecorded_meets conduct (holding.since passed.since) (passed.unsent unsent) (by decide)
    unfold settleClaimed at rest ⊢
    dsimp only at rest ⊢
    rw [if_neg (by decide)] at rest
    rw [if_pos recorded]
    refine reports_bind (reports_call conduct fun staged s₁ passed _ => passed) fun staged s₁ passed => ?_
    split
    · refine reports_bind (workerTransition_meets conduct (holding.since passed.since) (by decide)
        ⟨rfl, rfl, rfl⟩ ?_) fun _ s₂ written => rest s₂ (passed.trans written)
      rintro p ⟨⟩
    · exact rest s₁ passed
  · exact settleRecorded_meets conduct holding unsent recorded

end Settling

/-! ### Accepting -/

section Accepting

variable {payment : Presented} {row : Attempt}

/-- The claim of a pending attempt, with the payload it is bound to. -/
theorem meets_claim (conduct : Conduct self.config laws inv c w) {id owner : String}
    {sealedPayload payloadDigest : String} (worker : owner = w) (nonempty : payloadDigest ≠ "") :
    (self.store.claimForSettle self.runtime id owner self.leaseTtl sealedPayload payloadDigest).Meets c
      (Reports fun row s' => Passed inv c w s s' ∧ ∀ new, row = some new →
        new.payloadDigest ≠ none ∧ Saw laws c id (fun _ a => a = new) s') s := by
  subst worker
  refine reports_mono (meets_row conduct self.runtime trivial
    fun s₁ before _ old f new stored writes => ?_) fun row s' ended => ⟨ended.1, fun new found => ?_⟩
  · cases writes with
    | claim pending => exact .claim pending nonempty
  · obtain ⟨old, f, s₁, s₂, -, -, writes, -, stored, relied⟩ := ended.2 new found
    cases writes with
    | claim pending =>
        refine ⟨?_, s₂, _, .single (.inl relied), stored, rfl⟩
        change old.payloadDigest.or (some payloadDigest) ≠ none
        cases old.payloadDigest <;> simp

/-- The worker gives back an attempt that is bound to another payload. -/
theorem meets_abandon (conduct : Conduct self.config laws inv c w) {claimed : ClaimedAttempt}
    (worker : claimed.payment.call.workerId = w) (unsent : Unsent w s) :
    (self.workerTransition claimed .pending {}).Meets c
      (Reports fun _ s' => Passed inv c w s s') s := by
  refine reports_mono (meets_row conduct self.runtime trivial
    fun s₁ before _ old f new stored writes => ?_) fun _ s' ended => ended.1
  obtain ⟨payment, id, fence⟩ := claimed
  subst worker
  cases writes with
  | transition status owned =>
      exact .abandon (List.mem_singleton.mp status) (owned _ rfl) (before.unsent unsent)

theorem claimAttempt_meets (conduct : Conduct self.config laws inv c w) (start : inv s)
    (unsent : Unsent w s) (worker : payment.call.workerId = w) (nonempty : payment.payloadDigest ≠ "")
    (seen : Seen laws c row s) (digest : row.requestDigest = payment.call.requestDigest) :
    (self.claimAttempt payment row).Meets c
      (Reports (Reported laws c payment.call.requestDigest)) s := by
  have requested : Concerns laws c row.operationId payment.call.requestDigest s :=
    Seen.saw (p := fun _ a => a.requestDigest = payment.call.requestDigest) seen fun _ => digest
  unfold claimAttempt
  refine reports_bind (joinStoredRow_meets conduct start seen requested) fun joined s₁ ended => ?_
  cases joined with
  | some response => exact reports_return (ended.2 response rfl)
  | none =>
  have passed := ended.1 rfl
  refine reports_bind (meets_claim conduct worker nonempty) fun claimed s₂ ended => ?_
  have passed := passed.trans ended.1
  have requested := requested.since passed.since
  cases claimed with
  | none =>
      refine reports_bind (meets_get conduct) fun reread s₃ read => ?_
      cases reread with
      | none => exact reports_return (reported_respond (by decide))
      | some reread =>
          obtain ⟨same, seen⟩ := read.2 _ rfl
          have requested := requested.since read.1.since
          rw [← same] at requested
          refine reports_bind (joinStoredRow_meets conduct read.1.inv seen requested)
            fun joined s₄ ended => reports_return ?_
          cases joined with
          | none => exact reported_inProgress
          | some response => exact ended.2 response rfl
  | some claimed =>
      obtain ⟨digested, saw⟩ := ended.2 claimed rfl
      have unsent := passed.unsent unsent
      dsimp only
      split
      · refine reports_bind (meets_abandon conduct worker unsent) fun _ s₃ _ => ?_
        exact reports_return (reported_respond (by decide))
      · rename_i free
        have bound : claimed.payloadDigest = some payment.payloadDigest ∨
            claimed.payloadDigest = some "" := by
          obtain ⟨d, given⟩ := Option.ne_none_iff_exists'.mp digested
          unfold boundElsewhere at free
          rw [given] at free ⊢
          by_cases empty : d = ""
          · exact .inr (congrArg some empty)
          · exact .inl (by simpa [empty] using free)
        obtain ⟨s₀, a, since, stored, rfl⟩ := saw
        have holding : Holding laws c w ⟨payment, row.operationId, a.fenceToken.getD ""⟩ s₂ :=
          ⟨worker, requested, s₀, a, since, stored, bound⟩
        exact settleClaimed_meets conduct holding unsent

theorem acceptPayment_meets (conduct : Conduct self.config laws inv c w)
    (unsent : Unsent w s) (worker : payment.call.workerId = w)
    (nonempty : payment.payloadDigest ≠ "") : (self.acceptPayment payment).Meets c
      (Reports (Reported laws c payment.call.requestDigest)) s := by
  unfold acceptPayment
  refine reports_bind (meets_find conduct) fun rows s₁ passed => ?_
  split
  · exact reports_return (reported_respond (by decide))
  refine reports_bind (meets_resolve conduct passed.inv) fun resolution s₂ ended => ?_
  have passed := passed.trans ended.1
  have joins : (if resolution.row.requestDigest ≠ payment.call.requestDigest then
      return idempotencyConflict
    else if boundElsewhere resolution.row payment.payloadDigest then return ownershipConflict
    else self.claimAttempt payment resolution.row : Machine S Response).Meets c
      (Reports (Reported laws c payment.call.requestDigest)) s₂ := by
    split
    · exact reports_return (reported_respond (by decide))
    rename_i same
    split
    · exact reports_return (reported_respond (by decide))
    · exact claimAttempt_meets conduct passed.inv (passed.unsent unsent) worker nonempty ended.2
        (not_ne_iff.mp same)
  split
  · exact reports_return (reported_respond (by decide))
  · exact reports_return (reported_respond (by decide))
  · exact joins
  · exact joins

theorem accept_meets {call : AcceptCall} (conduct : Conduct self.config laws inv c call.workerId)
    (unsent : Unsent call.workerId s) :
    (self.accept call).Meets c (Reports (Reported laws c call.requestDigest)) s := by
  have nonempty : self.digestOfEncodedPayment call.paymentSignatureHeader ≠ "" :=
    self.runtime.sha256_ne_empty _
  unfold accept
  refine reports_bind (reports_call conduct fun ready s₁ passed _ => passed) fun ready s₁ passed => ?_
  cases ready with
  | error message => trivial
  | ok _ =>
  dsimp only
  split
  · exact reports_return (reported_respond (by decide))
  split
  · refine reports_bind (reports_call conduct fun quoted s₂ passed' _ => passed') fun quoted s₂ _ => ?_
    cases quoted with
    | error message => trivial
    | ok header => exact reports_return fun impossible => by cases impossible
  split
  · exact reports_return fun impossible => by cases impossible
  split
  · trivial
  split
  · exact reports_return (reported_respond (by decide))
  split
  · exact reports_return (reported_respond (by decide))
  split
  · trivial
  · exact reports_return (reported_respond (by decide))
  split
  · exact reports_return (reported_respond (by decide))
  · exact acceptPayment_meets conduct (passed.unsent unsent) rfl nonempty

/-- The digest of a staged payload is written to its pending attempt. -/
theorem meets_stage (conduct : Conduct self.config laws inv c w)
    {id sealedPayload payloadDigest paymentId : String} (nonempty : payloadDigest ≠ "") :
    (self.store.transition self.runtime id [.pending] .pending
      { signedPayloadEnc := some (some sealedPayload), payloadDigest := some (some payloadDigest)
        callerPaymentId := some paymentId } none none).Meets c
      (Reports fun _ s' => Passed inv c w s s') s := by
  refine reports_mono (meets_row conduct self.runtime trivial
    fun s₁ before answered old f new stored writes => ?_) fun _ s' ended => ended.1
  cases writes with
  | transition status _ => exact .stage (List.mem_singleton.mp status) nonempty answered

theorem stage_meets (conduct : Conduct self.config laws inv c w) (start : inv s)
    {input : StageInput} : (self.stagePreparedAttempt input).Meets c (Reports fun _ _ => True) s := by
  have nonempty : self.digestOfEncodedPayment input.encodedPayment ≠ "" :=
    self.runtime.sha256_ne_empty _
  unfold stagePreparedAttempt
  refine reports_bind (meets_resolve conduct start) fun resolution s₁ _ => ?_
  dsimp only
  split
  · trivial
  split
  · trivial
  split
  · trivial
  split
  · trivial
  split
  · exact reports_bind (meets_stage conduct nonempty) fun _ _ _ => trivial
  · trivial

end Accepting

end DevnetMachineResource

end AgentReady.Settlement
