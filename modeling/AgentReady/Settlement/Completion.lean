import AgentReady.Settlement.Evidence

/-!
The two ways to complete a settlement: at once, where the facilitator answers, and later, where an
attempt that awaits its evidence is joined.

Both inspect the transaction, and store what they find.

* `completions_agree_iff`: for a transaction that the node answers, they leave the same status
  exactly where it cannot be read, or is the canonical payment and the facilitator does not say that
  it settled another amount.
-/

namespace AgentReady.Settlement

open Coop

/-- The store answers, and so does the node. -/
def finalizedAs (answer : Json) : (q : Ask) → Option q.Answer
  | .dispatch _ | .deliver _ => some .through
  | .getTransaction _ => some (some answer)
  | _ => none

/-! ### What a transaction shows -/

/-- Reading the transaction throws. -/
def Unreadable (result : Json) (memo : String) : Prop :=
  (allInstructions result).anyM (isMemo memo) = none ∨
    (failed (Json.optional (some result) "meta") = false ∧ parsedTransfers result = none)

/-- What is stored where a settlement is completed at once. -/
def completionStatus (i : TransactionInspection) : AttemptStatus :=
  if i.Unavailable then .awaitingEvidence
  else if i.memoVerification = .missing ∨ i.transferVerification = .mismatch then .manual
  else .settled

/-- What is stored where an attempt that awaits its evidence is joined. -/
def reconcileStatus (i : TransactionInspection) : AttemptStatus :=
  if i.Verified then .settled
  else if i.memoVerification = .missing ∨ i.transferVerification = .mismatch then .mismatch
  else .awaitingEvidence

theorem completionStatus_verified {i : TransactionInspection} (h : i.Verified) :
    completionStatus i = .settled := by
  obtain ⟨memo, transfer, _, _⟩ := i
  obtain ⟨rfl, rfl⟩ : memo = .verified ∧ transfer = .verified := h
  rfl

section Reading

variable {answer result : Json} {memo : String} {expected : ExpectedTransfer}

theorem anyM_false {α : Type} {p : α → Option Bool} {l : List α} (h : l.anyM p = some false) {a : α}
    (mem : a ∈ l) : p a = some false := by
  induction l with
  | nil => cases mem
  | cons b rest ih =>
      rw [List.anyM] at h
      obtain ⟨found, first, others⟩ := Option.bind_eq_some_iff.mp h
      cases found with
      | true => cases others
      | false =>
          rcases List.mem_cons.mp mem with rfl | mem
          · exact first
          · exact ih others mem

theorem inspectResult_none : inspectResult result memo expected = none ↔ Unreadable result memo := by
  unfold inspectResult Unreadable
  cases looked : (allInstructions result).anyM (isMemo memo) with
  | none => exact iff_of_true rfl (.inl rfl)
  | some found =>
      change (if failed (Json.optional (some result) "meta") then _ else _) = none ↔ _
      split
      · rename_i fails
        exact iff_of_false (by rintro ⟨⟩) (by simp [fails])
      · rename_i succeeds
        cases parsed : parsedTransfers result with
        | none => exact iff_of_true rfl (.inr ⟨by simpa using succeeds, rfl⟩)
        | some transfers =>
            refine iff_of_false (fun none_ => ?_) (by simp)
            rw [Option.bind_eq_bind, Option.bind_some] at none_
            split at none_ <;> cases none_

theorem inspect_unreadable (found : resultOf (some answer) = some result)
    (unreadable : Unreadable result memo) : inspect (some answer) memo expected = unavailable := by
  unfold inspect
  rw [found]
  change (inspectResult result memo expected).getD unavailable = _
  rw [inspectResult_none.mpr unreadable]
  rfl

/-- The inspection of a result that can be read says yes or no. -/
theorem inspect_readable (found : resultOf (some answer) = some result)
    (readable : ¬ Unreadable result memo) :
    ¬ (inspect (some answer) memo expected).Unavailable ∧
      ((inspect (some answer) memo expected).Verified ↔ Paid result memo expected) := by
  cases inspected : inspectResult result memo expected with
  | none => exact absurd (inspectResult_none.mp inspected) readable
  | some i =>
      have same : inspect (some answer) memo expected = i := by
        unfold inspect
        rw [found]
        change (inspectResult result memo expected).getD unavailable = _
        rw [inspected]
        rfl
      obtain ⟨looked, searched, memo_, transfer, -⟩ := inspectResult_some inspected
      constructor
      · rw [same]
        rintro (none_ | none_)
        · rw [memo_] at none_
          cases looked <;> cases none_
        · exact transfer none_
      · constructor
        · intro verified
          obtain ⟨result', found', paid⟩ := inspect_verified verified
          obtain rfl := Option.some.inj (found.symm.trans found')
          exact paid
        · intro paid
          rw [same]
          obtain ⟨ix, mem, left_⟩ := paid.memo
          have there : looked = true := by
            cases looked with
            | true => rfl
            | false => cases left_.symm.trans (anyM_false searched mem)
          refine ⟨by rw [memo_, there]; rfl, ?_⟩
          unfold inspectResult at inspected
          rw [searched, paid.transfer] at inspected
          change (if failed (Json.optional (some result) "meta") then _ else _) = _ at inspected
          rw [paid.succeeded, if_neg (by decide)] at inspected
          have matching : [DevnetTransferEvidence.mk expected.asset expected.amount expected.payee
              expected.payer].filter (·.matches_ expected) = [⟨expected.asset, expected.amount,
              expected.payee, expected.payer⟩] := by
            simp [DevnetTransferEvidence.matches_]
          dsimp only [Option.bind_eq_bind, Option.bind_some] at inspected
          rw [matching] at inspected
          cases inspected
          rfl

end Reading

/-! ### Runs of the two ways -/

variable {S : Type}

/-- The status of an attempt after an operation that runs alone. -/
def statusAfter {α : Type} (rows : S → String → Option Attempt) (answer : Json) (id : String)
    (p : Machine S α) (s : World S) : Option AttemptStatus :=
  (p.complete (finalizedAs answer) s).bind fun r => (rows r.2.store id).map (·.status)

/-- An attempt is held, and the store lets its owner write it. -/
structure Held {store : SettlementStore S} (laws : StoreLaws store) (s : World S) (a : Attempt)
    (owner fence : String) : Prop where
  stored : laws.rows s.store a.operationId = some a
  writes : ∀ from_ to_ update minted, a.status ∈ from_ → ∃ next, store.exec
    (.transition a.operationId from_ to_ update (some owner) (some fence)) s.clock minted s.store =
      .ok ([a.transitioned s.clock to_ update], next) ∧
    laws.rows next a.operationId = some (a.transitioned s.clock to_ update)

section Runs

variable {store : SettlementStore S} {laws : StoreLaws store} {answer : Json} {s s' : World S}
  {a : Attempt} {owner fence id : String} {α β : Type}

theorem statusAfter_then {rows : S → String → Option Attempt} {p : Machine S α} {f : α → Machine S β}
    {x : α} (first : p.complete (finalizedAs answer) s = some (.ok x, s')) :
    statusAfter rows answer id (p >>= f) s = statusAfter rows answer id (f x) s' := by
  unfold statusAfter
  rw [Proc.complete_then first]

theorem statusAfter_pure {rows : S → String → Option Attempt} {x : α} {a : Attempt}
    (stored : rows s.store id = some a) :
    statusAfter rows answer id (pure x : Machine S α) s = some a.status := by
  unfold statusAfter
  rw [Proc.complete_pure]
  exact congrArg (Option.map _) stored

theorem statusAfter_map {rows : S → String → Option Attempt} {p : Machine S α} (f : α → β) :
    statusAfter rows answer id (do let x ← p; return f x) s = statusAfter rows answer id p s := by
  unfold statusAfter
  rw [Proc.complete_bind, Option.bind_assoc]
  refine congrArg _ (funext fun r => ?_)
  obtain ⟨ended, s'⟩ := r
  cases ended <;> rfl

/-- A statement that succeeds. -/
theorem complete_statement {oracle : (q : Ask) → Option q.Answer} {label : Statement}
    {run : World S → Except DbError (β × World S)} {b : β} {next : World S}
    (sent : oracle (.dispatch label) = some .through)
    (received : oracle (.deliver label) = some .through) (done : run s = .ok (b, next)) :
    (statement label run).complete oracle s = some (.ok b, next) := by
  unfold statement
  rw [Proc.complete_then (Proc.complete_call sent s)]
  dsimp only
  rw [Proc.complete_then (Proc.complete_read s), done]
  dsimp only
  rw [Proc.complete_then (Proc.complete_modify _ s)]
  unfold receive
  rw [Proc.complete_then (Proc.complete_call received next)]
  rfl

theorem Held.transition (held : Held laws s a owner fence) (answer : Json) (R : Runtime) {from_ : List AttemptStatus}
    (to_ : AttemptStatus) (update : Update) (status : a.status ∈ from_) :
    ∃ s', (store.transition R a.operationId from_ to_ update (some owner) (some fence)).complete
        (finalizedAs answer) s = some (.ok (some (a.transitioned s.clock to_ update)), s') ∧
      laws.rows s'.store a.operationId = some (a.transitioned s.clock to_ update) := by
  obtain ⟨next, done, stored⟩ := held.writes from_ to_ update (R.uuid s.draws) status
  refine ⟨{ s with store := next, draws := s.draws + 1 }, ?_, stored⟩
  have called : (store.call R (.transition a.operationId from_ to_ update (some owner) (some fence))).complete
      (finalizedAs answer) s = some (.ok [a.transitioned s.clock to_ update],
        { s with store := next, draws := s.draws + 1 }) := by
    refine complete_statement rfl rfl ?_
    dsimp only [World.draw]
    rw [done]
    rfl
  unfold SettlementStore.transition
  rw [Proc.complete_then called]
  rfl

/-- What is noted in the journal changes nothing. -/
theorem Held.noted (held : Held laws s a owner fence) (entry : Entry) :
    Held laws { s with journal := s.journal ++ [entry] } a owner fence :=
  ⟨held.stored, held.writes⟩

end Runs

namespace DevnetMachineResource

section Completing

variable {self : DevnetMachineResource S} {laws : StoreLaws self.store} {answer result : Json}
  {s s' : World S} {a : Attempt} {owner fence url memo txHash : String} {completion : Completion}
  {adapted : AdaptedSettlement} {expected : ExpectedTransfer}

theorem complete_inspect (reads : self.config.solanaRpcUrl.filter (· ≠ "") = some url) :
    (self.inspectTransaction txHash memo expected).complete (finalizedAs answer) s =
      some (.ok (inspect (some answer) memo expected),
        { s with journal := s.journal ++ [.inspected txHash (some answer)] }) := by
  unfold inspectTransaction
  rw [reads]
  rfl

theorem statusAfter_failClosed (held : Held laws s a completion.owner completion.fence)
    (open_ : a.status ∈ leasedStatuses) (same : completion.operationId = a.operationId)
    {to_ : AttemptStatus} {error detail : String} {retryable : Bool} :
    statusAfter laws.rows answer a.operationId
      (self.failClosed completion adapted to_ error detail retryable) s = some to_ := by
  unfold failClosed
  obtain ⟨s', done, stored⟩ := held.transition answer self.runtime to_
    { txHash := some (some adapted.transactionHash) } open_
  rw [same]
  rw [statusAfter_then (Proc.complete_quiet (Proc.complete_then done))]
  exact statusAfter_pure stored

/-- The completion of a settlement that was inspected. -/
theorem statusAfter_inspected (held : Held laws s a completion.owner completion.fence)
    (open_ : a.status ∈ leasedStatuses) (same : completion.operationId = a.operationId)
    (i : TransactionInspection) :
    statusAfter laws.rows answer a.operationId
      (self.completeSettlement completion adapted expected (some i)) s = some (completionStatus i) := by
  unfold completeSettlement completionStatus
  rw [statusAfter_then (Proc.complete_pure i s)]
  dsimp only
  by_cases missing : i.Unavailable
  · rw [if_pos missing, if_pos missing]
    exact statusAfter_failClosed held open_ same
  rw [if_neg missing, if_neg missing]
  by_cases mismatch : i.memoVerification = .missing ∨ i.transferVerification = .mismatch
  · rw [if_pos mismatch, if_pos mismatch]
    exact statusAfter_failClosed held open_ same
  rw [if_neg mismatch, if_neg mismatch]
  rw [statusAfter_then (Proc.complete_read s)]
  obtain ⟨s', done, stored⟩ := held.transition answer self.runtime .settled
    { txHash := some (some adapted.transactionHash)
      evidenceJson := some (settlementEvidence completion adapted i s.date) } open_
  rw [same]
  rw [statusAfter_then (Proc.complete_quiet (Proc.complete_then done))]
  exact statusAfter_pure stored

theorem statusAfter_completed (held : Held laws s a completion.owner completion.fence)
    (open_ : a.status ∈ leasedStatuses) (same : completion.operationId = a.operationId)
    (reads : self.config.solanaRpcUrl.filter (· ≠ "") = some url) :
    statusAfter laws.rows answer a.operationId
      (self.completeSettlement completion adapted expected none) s =
        some (completionStatus (inspect (some answer) (memoForEnvelope completion.requestDigest) expected)) := by
  have noted := held.noted (.inspected adapted.transactionHash (some answer))
  have inspected := @statusAfter_inspected _ self laws answer _ a completion adapted expected noted open_
    same (inspect (some answer) (memoForEnvelope completion.requestDigest) expected)
  unfold completeSettlement at inspected ⊢
  rw [statusAfter_then (complete_inspect reads)]
  rw [statusAfter_then (Proc.complete_pure _ _)] at inspected
  exact inspected

end Completing

/-- A settlement of a confirmed payer that the facilitator answers with success. -/
structure Answered (response : SettleResponse) (payer txHash : String) : Prop where
  success : response.success = true
  transaction : response.transaction = some txHash
  signed : txHash ≠ ""
  named : payer ≠ ""
  agrees : response.payer.getD "" = "" ∨ response.payer.getD "" = payer

/-- The amount that an answer gives, or else the canonical one. -/
def answeredAmount (config : X402DevnetConfig) (response : SettleResponse) : String :=
  (response.amount.filter (· ≠ "")).getD (toString config.amountMinor)

/-- The lease under which an attempt that awaits its evidence is joined: the one it has, or a fresh
one. -/
inductive Leases (self : DevnetMachineResource S) (s : World S) (row : Attempt) :
    Attempt → World S → Prop where
  | own (running : self.leased row s.date = true) : Leases self s row row s
  | taken {held : Attempt} {next : S} (lapsed : self.leased row s.date = false)
      (takes : self.store.exec (.claimRowForTakeover row.operationId
        ("reconcile-" ++ self.runtime.uuid s.draws) self.leaseTtl.micros) s.clock
          (self.runtime.uuid (s.draws + 1)) s.store = .ok ([held], next)) :
      Leases self s row held { s with store := next, draws := s.draws + 2 }

section Answers

variable {self : DevnetMachineResource S} {laws : StoreLaws self.store} {answer result : Json}
  {s s' : World S} {a row held : Attempt} {owner fence url payer txHash : String}
  {claimed : ClaimedAttempt} {response : SettleResponse}

theorem toString_ne_empty (n : Int) : toString n ≠ "" := by
  cases n with
  | ofNat n => exact Nat.repr_ne_empty
  | negSucc n =>
      intro empty
      have length := congrArg String.length empty
      simp [toString, Int.repr] at length

theorem answeredAmount_ne_empty (config : X402DevnetConfig) (response : SettleResponse) :
    answeredAmount config response ≠ "" := by
  unfold answeredAmount
  cases given : response.amount.filter (· ≠ "") with
  | none => exact toString_ne_empty _
  | some amount => simpa using (Option.filter_eq_some_iff.mp given).2

/-- A successful settlement is adapted. -/
theorem adaptSettlement_success (config : X402DevnetConfig)
    (network paymentIdentifier amount : String) {given : String} (signed : txHash ≠ "") (named : payer ≠ "") (nonempty : given ≠ "") :
    adaptSettlement { success := true, transaction := some txHash, network := some network
                      payer := some payer, amount := some given } config paymentIdentifier amount =
      .ok { success := true, transactionHash := txHash, payer, payee := config.payeePublicKey, network
            asset := config.devnetUsdcMint, amount := given, facilitatorUrl := config.facilitatorUrl
            paymentIdentifier } := by
  have filtered : (some given).filter (fun text => decide (text ≠ "")) = some given := by
    rw [Option.filter_some, if_pos (by simpa using nonempty)]
  have chosen : (orElse (some given) (some amount)).filter (· ≠ "") = some given := by
    unfold orElse
    rw [filtered]
    exact filtered
  unfold adaptSettlement
  rw [chosen]
  simp only [Option.getD_some, if_neg signed, if_neg named, if_true]
  rfl

/-- An answer is completed at once, by the transfer that it claims. -/
theorem statusAfter_settleAnswered
    (held : Held laws s a claimed.payment.call.workerId claimed.fence) (settling : a.status = .settling)
    (same : claimed.operationId = a.operationId)
    (reads : self.config.solanaRpcUrl.filter (· ≠ "") = some url)
    (answered : Answered response payer txHash) :
    statusAfter laws.rows answer a.operationId
      (self.settleAnswered claimed (some payer) (.answered response)) s =
        some (completionStatus (inspect (some answer) (memoForEnvelope claimed.payment.call.requestDigest)
          { canonicalTransfer self.config payer with amount := answeredAmount self.config response })) := by
  obtain ⟨success, transaction, signed, named, agrees⟩ := answered
  have confirmed : ¬ ((some payer).getD "" ≠ "" ∧ response.payer.getD "" ≠ "" ∧
      (some payer).getD "" ≠ response.payer.getD "") := by
    rintro ⟨-, given, other⟩
    rcases agrees with none_ | same
    · exact given none_
    · exact other same.symm
  have transaction : response.transaction.filter (· ≠ "") = some txHash := by
    rw [transaction]
    simp [Option.filter, signed]
  have adapted := adaptSettlement_success self.config
    ((response.network.filter (· ≠ "")).getD solanaDevnetCaip2) claimed.payment.paymentId
    (toString self.config.amountMinor) signed named (answeredAmount_ne_empty self.config response)
  have chosen : (if (some payer).getD "" ≠ "" then (some payer).getD "" else response.payer.getD "") =
      payer := if_pos named
  unfold settleAnswered
  dsimp only
  rw [if_neg confirmed, transaction, success, chosen]
  unfold answeredAmount at adapted ⊢
  split
  · rename_i refused
    cases refused.symm.trans adapted
  rename_i completed taken
  obtain rfl := Except.ok.inj (taken.symm.trans adapted)
  exact statusAfter_completed held (by rw [settling]; decide) same reads

/-- The reconciliation of an attempt that awaits its evidence. -/
theorem statusAfter_reconcile (reads : self.config.solanaRpcUrl.filter (· ≠ "") = some url)
    (writes : Held laws s held owner fence) (awaiting : held.status = .awaitingEvidence)
    (same : held.operationId = row.operationId) :
    statusAfter laws.rows answer row.operationId (self.reconcile row txHash payer owner fence) s =
      some (reconcileStatus (inspect (some answer) (memoForEnvelope row.requestDigest)
        (canonicalTransfer self.config payer))) := by
  have noted := writes.noted (.inspected txHash (some answer))
  have open_ : held.status ∈ leasedStatuses := by
    rw [awaiting]
    decide
  have expects : ({ asset := self.config.devnetUsdcMint
                    amount := (self.getCanonicalRequirements row.requestDigest).amount
                    payee := self.config.payeePublicKey, payer } : ExpectedTransfer) =
      canonicalTransfer self.config payer := rfl
  unfold reconcile reconcileStatus
  dsimp only
  rw [expects, statusAfter_then (complete_inspect reads)]
  generalize inspect (some answer) (memoForEnvelope row.requestDigest)
    (canonicalTransfer self.config payer) = i
  by_cases verified : i.Verified
  · rw [if_pos verified, if_pos verified, ← same]
    rw [statusAfter_inspected noted open_ rfl, completionStatus_verified verified]
  rw [if_neg verified, if_neg verified]
  by_cases mismatch : i.memoVerification = .missing ∨ i.transferVerification = .mismatch
  · rw [if_pos mismatch, if_pos mismatch, ← same]
    obtain ⟨s', done, stored⟩ := noted.transition answer self.runtime .mismatch {}
      (show held.status ∈ [.awaitingEvidence] by rw [awaiting]; decide)
    rw [statusAfter_then done]
    exact statusAfter_pure stored
  · rw [if_neg mismatch, if_neg mismatch, ← same]
    rw [statusAfter_pure noted.stored, awaiting]

/-- An attempt that awaits its evidence is joined under the lease it has, or a fresh one. -/
theorem statusAfter_joinStoredRow {rejoins : Nat}
    (reads : self.config.solanaRpcUrl.filter (· ≠ "") = some url)
    (awaiting : row.status = .awaitingEvidence) (transaction : row.txHash = some txHash)
    (signed : txHash ≠ "") (named : knownPayer row = payer) (leases : Leases self s row held s')
    (writes : Held laws s' held owner fence) (still : held.status = .awaitingEvidence)
    (same : held.operationId = row.operationId) (owned : held.leaseOwner = some owner)
    (owner_ : owner ≠ "") (fenced : held.fenceToken = some fence) (fence_ : fence ≠ "") :
    statusAfter laws.rows answer row.operationId (self.joinStoredRow (rejoins + 1) row) s =
      some (reconcileStatus (inspect (some answer) (memoForEnvelope row.requestDigest)
        (canonicalTransfer self.config payer))) := by
  have transaction : row.txHash.filter (· ≠ "") = some txHash := by
    rw [transaction, Option.filter_some, if_pos (by simpa using signed)]
  have owned : held.leaseOwner.filter (· ≠ "") = some owner := by
    rw [owned, Option.filter_some, if_pos (by simpa using owner_)]
  have fenced : held.fenceToken.filter (· ≠ "") = some fence := by
    rw [fenced, Option.filter_some, if_pos (by simpa using fence_)]
  have reconciled : ∀ s₁, s₁ = s' → statusAfter laws.rows answer row.operationId
      (do return some (← self.reconcile row txHash payer owner fence)) s₁ =
        some (reconcileStatus (inspect (some answer) (memoForEnvelope row.requestDigest)
          (canonicalTransfer self.config payer))) := by
    rintro s₁ rfl
    rw [statusAfter_map, statusAfter_reconcile reads writes still same]
  unfold joinStoredRow
  rw [awaiting]
  dsimp only
  rw [transaction]
  dsimp only
  cases leases with
  | own running =>
      rw [statusAfter_then (Proc.complete_read s), if_pos running]
      rw [statusAfter_then (Proc.complete_pure _ s)]
      dsimp only
      rw [owned, fenced]
      subst named
      exact reconciled s rfl
  | @taken _ next lapsed takes =>
      have drawn : (randomUUID self.runtime : Machine S String).complete (finalizedAs answer) s =
          some (.ok (self.runtime.uuid s.draws), { s with draws := s.draws + 1 }) := rfl
      have called : (self.store.call self.runtime (.claimRowForTakeover row.operationId
          ("reconcile-" ++ self.runtime.uuid s.draws) self.leaseTtl.micros)).complete
            (finalizedAs answer) { s with draws := s.draws + 1 } =
              some (.ok [held], { s with store := next, draws := s.draws + 2 }) := by
        refine complete_statement rfl rfl ?_
        dsimp only [World.draw]
        rw [takes]
        rfl
      have taken : (self.store.claimRowForTakeover self.runtime row.operationId
          ("reconcile-" ++ self.runtime.uuid s.draws) self.leaseTtl).complete (finalizedAs answer)
            { s with draws := s.draws + 1 } =
              some (.ok (some held), { s with store := next, draws := s.draws + 2 }) := by
        unfold SettlementStore.claimRowForTakeover
        rw [Proc.complete_then called]
        rfl
      rw [statusAfter_then (Proc.complete_read s), if_neg (by rw [lapsed]; decide)]
      rw [statusAfter_then drawn, statusAfter_then taken]
      dsimp only
      rw [owned, fenced]
      subst named
      exact reconciled _ rfl

end Answers

end DevnetMachineResource

/-! ### Agreement -/

open DevnetMachineResource

/-- A payment, submitted by a worker that holds its attempt, and the same payment joined later from
an attempt that awaits its evidence. -/
structure Inspectable {S : Type} (resource : DevnetMachineResource S) (laws : StoreLaws resource.store)
    (claimed : ClaimedAttempt) (response : SettleResponse) (payer txHash : String)
    (a : Attempt) (s : World S) (row : Attempt) (s' : World S) : Prop where
  /-- There is a node to ask. -/
  reads : ∃ url, resource.config.solanaRpcUrl.filter (· ≠ "") = some url
  answered : Answered response payer txHash
  operation : claimed.operationId = a.operationId
  settling : a.status = .settling
  held : Held laws s a claimed.payment.call.workerId claimed.fence
  awaiting : row.status = .awaitingEvidence
  transaction : row.txHash = some txHash
  confirmed : row.payer = some payer
  request : row.requestDigest = claimed.payment.call.requestDigest
  leases : ∃ (held : Attempt) (s₁ : World S) (owner fence : String),
    Leases resource s' row held s₁ ∧ Held laws s₁ held owner fence ∧
      held.status = .awaitingEvidence ∧ held.operationId = row.operationId ∧
      held.leaseOwner = some owner ∧ owner ≠ "" ∧ held.fenceToken = some fence ∧ fence ≠ ""

/-- Completed at once or joined later, a transaction leaves an attempt in the same status. -/
def CompletionsAgree {S : Type} (self : DevnetMachineResource S) (rows : S → String → Option Attempt)
    (claimed : ClaimedAttempt) (response : SettleResponse) (payer : String) (answer : Json)
    (a : Attempt) (s : World S) (row : Attempt) (s' : World S) (rejoins : Nat) : Prop :=
  statusAfter rows answer a.operationId
      (self.settleAnswered claimed (some payer) (.answered response)) s =
    statusAfter rows answer row.operationId (self.joinStoredRow (rejoins + 1) row) s'

section Agreement

variable {S : Type} {self : DevnetMachineResource S} {laws : StoreLaws self.store}
  {claimed : ClaimedAttempt} {response : SettleResponse} {payer txHash memo : String}
  {answer result : Json} {a row : Attempt} {s s' : World S} {rejoins : Nat}

theorem answeredAmount_eq {config : X402DevnetConfig} :
    answeredAmount config response = toString config.amountMinor ↔
      response.amount.getD "" = "" ∨ response.amount = some (toString config.amountMinor) := by
  unfold answeredAmount
  cases response.amount with
  | none => exact iff_of_true rfl (.inl rfl)
  | some amount =>
      by_cases empty : amount = ""
      · subst empty
        exact iff_of_true rfl (.inl rfl)
      · rw [Option.filter_some, if_pos (by simpa using empty)]
        simp [empty]

/-- Two statuses that differ where the transaction is not the expected payment. -/
theorem statuses_agree {i i' : TransactionInspection} (available : ¬ i.Unavailable)
    (available' : ¬ i'.Unavailable) :
    completionStatus i = reconcileStatus i' ↔ i.Verified ∧ i'.Verified := by
  obtain ⟨memo, transfer, _, _⟩ := i
  obtain ⟨memo', transfer', _, _⟩ := i'
  revert available available'
  unfold completionStatus reconcileStatus TransactionInspection.Unavailable
    TransactionInspection.Verified
  cases memo <;> cases transfer <;> cases memo' <;> cases transfer' <;> simp

/-- Both ways leave the same status exactly where the transaction cannot be read, or is the canonical
payment and the facilitator does not say that it settled another amount. -/
theorem completions_agree_iff
    (inspectable : Inspectable self laws claimed response payer txHash a s row s')
    (found : resultOf (some answer) = some result) :
    CompletionsAgree self laws.rows claimed response payer answer a s row s' rejoins ↔
      Unreadable result (memoForEnvelope row.requestDigest) ∨
        (Paid result (memoForEnvelope row.requestDigest) (canonicalTransfer self.config payer) ∧
          (response.amount.getD "" = "" ∨ response.amount = some (toString self.config.amountMinor))) := by
  obtain ⟨url, reads⟩ := inspectable.reads
  obtain ⟨held, s₁, owner, fence, leases, writes, still, same, owned, owner_, fenced, fence_⟩ :=
    inspectable.leases
  have named : knownPayer row = payer := by
    unfold knownPayer
    rw [inspectable.confirmed, Option.filter_some, if_pos (by simpa using inspectable.answered.named)]
  unfold CompletionsAgree
  rw [statusAfter_settleAnswered inspectable.held inspectable.settling
      inspectable.operation reads inspectable.answered,
    statusAfter_joinStoredRow reads inspectable.awaiting inspectable.transaction
      inspectable.answered.signed named leases writes still same owned owner_ fenced fence_,
    ← inspectable.request, Option.some_inj]
  by_cases unreadable : Unreadable result (memoForEnvelope row.requestDigest)
  · rw [inspect_unreadable found unreadable, inspect_unreadable found unreadable]
    exact iff_of_true rfl (.inl unreadable)
  obtain ⟨available, verified⟩ := @inspect_readable _ _ _ { canonicalTransfer self.config payer with
    amount := answeredAmount self.config response } found unreadable
  obtain ⟨available', verified'⟩ := @inspect_readable _ _ _ (canonicalTransfer self.config payer) found unreadable
  rw [statuses_agree available available', verified, verified']
  constructor
  · rintro ⟨answered, canonical⟩
    refine .inr ⟨canonical, answeredAmount_eq.mp ?_⟩
    have transfers := answered.transfer.symm.trans canonical.transfer
    simpa [canonicalTransfer] using transfers
  · rintro (unreadable' | ⟨canonical, amount⟩)
    · exact absurd unreadable' unreadable
    · rw [answeredAmount_eq.mpr amount]
      exact ⟨canonical, canonical⟩

end Agreement

/-! ### Another amount on chain -/

/-- In memory, whoever has the owner and the fence of an attempt may write it. -/
theorem MemoryStore.held {R : Runtime} {s : World MemoryStore} {a : Attempt} {owner fence : String}
    (stored : s.store.get? a.operationId = some a) (owned : a.leaseOwner = some owner)
    (fenced : a.fenceToken = some fence) : Held (MemoryStore.laws R) s a owner fence where
  stored := stored
  writes from_ to_ update minted status := by
    refine ⟨s.store.put (a.transitioned s.clock to_ update), ?_, ?_⟩
    · have applies : (s.store.get? a.operationId).filter (fun a => a.status ∈ from_ ∧
          ((some owner).isNone ∨ a.leaseOwner = some owner) ∧
          ((some fence).isNone ∨ a.fenceToken = some fence)) = some a := by
        rw [stored, Option.filter_some, if_pos (by simp [status, owned, fenced])]
      change Except.ok (s.store.updateIf _ _ _) = _
      unfold MemoryStore.updateIf
      rw [applies]
    · change MemoryStore.get? _ _ = _
      rw [MemoryStore.get?_put]
      exact Function.update_self ..

namespace Sample

/-- The first payment, in the hands of its worker. -/
def claimedPayment : ClaimedAttempt where
  payment := {
    call := call firstPayment "1", payload := payload "AQ=="
    supplied := (Json.optional (some (payload "AQ==")) "accepted").getD .null
    feePayer := "", paymentId, payloadDigest := firstDigest }
  operationId
  fence := "fence"

/-- Its attempt while it is settled. -/
def settlingAttempt : Attempt where
  operationId
  logicalOrderId := "ord_1"
  intentVersion := 0
  requestDigest
  resource := resourceUrl
  authRevision := "sauth_00000000000040008000000000000000"
  callerPaymentId := paymentId
  payloadDigest := some firstDigest
  payer := some "payer_key"
  status := .settling
  leaseOwner := some "worker-1"
  leaseExpiresAt := some (60000000 : Int)
  fenceToken := some "fence"
  createdAt := (0 : Int)
  updatedAt := (0 : Int)

/-- Its attempt where the evidence was not there at first. -/
def awaitingAttempt : Attempt :=
  { settlingAttempt with status := .awaitingEvidence, txHash := some "transaction" }

def settlingWorld : World MemoryStore := .start (MemoryStore.empty.put settlingAttempt) 0 0 0

def awaitingWorld : World MemoryStore := .start (MemoryStore.empty.put awaitingAttempt) 0 0 0

def response : SettleResponse := { success := true, transaction := some "transaction" }

theorem inspectable : Inspectable resource (MemoryStore.laws runtime) claimedPayment response "payer_key"
    "transaction" settlingAttempt settlingWorld awaitingAttempt awaitingWorld where
  reads := ⟨"https://rpc", rfl⟩
  answered := ⟨rfl, rfl, by decide, by decide, .inl rfl⟩
  operation := rfl
  settling := rfl
  held := MemoryStore.held (by decide +kernel) rfl rfl
  awaiting := rfl
  transaction := rfl
  confirmed := rfl
  request := rfl
  leases := ⟨awaitingAttempt, awaitingWorld, "worker-1", "fence", .own (by decide),
    MemoryStore.held (by decide +kernel) rfl rfl, rfl, rfl, rfl, by decide, rfl, by decide⟩

theorem paid : ∃ result, resultOf (some (finalized "10000" "payer_key")) = some result ∧
    Paid result (memoForEnvelope requestDigest) (canonicalTransfer resource.config "payer_key") :=
  inspect_verified (by decide +kernel)

end Sample

theorem completions_agree_iff_canonical : CompletionsAgree Sample.resource MemoryStore.get?
    Sample.claimedPayment Sample.response "payer_key" (Sample.finalized "10000" "payer_key")
      Sample.settlingAttempt Sample.settlingWorld Sample.awaitingAttempt Sample.awaitingWorld 0 := by
  obtain ⟨result, found, paid⟩ := Sample.paid
  exact (completions_agree_iff Sample.inspectable found).mpr (.inr ⟨paid, .inl rfl⟩)

theorem completions_agree_false : ¬ ∀ (S : Type) (self : DevnetMachineResource S)
    (laws : StoreLaws self.store) (claimed : ClaimedAttempt) (response : SettleResponse)
    (payer txHash : String) (answer result : Json) (a row : Attempt) (s s' : World S) (rejoins : Nat),
      Inspectable self laws claimed response payer txHash a s row s' →
      resultOf (some answer) = some result →
      CompletionsAgree self laws.rows claimed response payer answer a s row s' rejoins := by
  intro claim
  have agree := claim _ _ _ _ _ _ _ (Sample.finalized "1" "payer_key") _ _ _ _ _ 0 Sample.inspectable rfl
  revert agree
  unfold CompletionsAgree
  decide +kernel

end AgentReady.Settlement
