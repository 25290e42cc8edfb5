import AgentReady.Settlement.Pools

/-!
Settled means that the canonical payment is on chain, as long as the facilitator names the payer it
confirms and settles the canonical amount.

Any number of calls of `accept` and `stagePreparedAttempt` run over one of the two stores, with any
other answers, while leases expire and attempts are taken over, released or opened again.

* `settled_paid`: in runs in which the facilitator is plain, every settled attempt was inspected: its
  transaction leaves the memo and makes the one canonical transfer by a payer that was confirmed.
* `settled_paid_false`: the facilitator says that it settled another amount, and the attempt is
  settled by a transaction of that amount.
-/

namespace AgentReady.Settlement

open Coop

/-- The payment that an attempt is for. -/
def canonicalTransfer (config : X402DevnetConfig) (payer : String) : ExpectedTransfer where
  asset := config.devnetUsdcMint
  amount := toString config.amountMinor
  payee := config.payeePublicKey
  payer

/-- The transaction of an attempt was inspected, and is its canonical payment, by a payer that the
facilitator confirmed for it. -/
def PaidOnChain {S : Type} (config : X402DevnetConfig) (s : World S) (a : Attempt) : Prop :=
  ∃ txHash answer result payer, a.txHash = some txHash ∧ .inspected txHash answer ∈ s.journal ∧
    resultOf answer = some result ∧ .verified a.operationId payer ∈ s.journal ∧
    Paid result (memoForEnvelope a.requestDigest) (canonicalTransfer config payer)

/-- The facilitator names the payer of every payment it confirms, and settles the canonical amount or
does not say which. -/
def Plain {S : Type} (config : X402DevnetConfig) : (q : Ask) → q.Answer → World S → Prop
  | .verifyPayment .., .ok response, _ => response.isValid → response.payer.getD "" ≠ ""
  | .settlePayment .., .answered response, _ =>
      response.amount.getD "" = "" ∨ response.amount = some (toString config.amountMinor)
  | _, _, _ => True

instance {S : Type} (config : X402DevnetConfig) (q : Ask) (a : q.Answer) (s : World S) :
    Decidable (Plain config q a s) := by
  unfold Plain
  split <;> infer_instance

section Transfers

variable {result ix : Json} {t : DevnetTransferEvidence}

theorem stringValue_ne_empty {value : Option Json} {s : String} (h : Json.stringValue value = some s) :
    s ≠ "" := by
  unfold Json.stringValue at h
  split at h
  · split at h
    · cases h
    · rename_i nonempty
      cases h
      exact nonempty
  · cases h

theorem orElse_stringValue_ne_empty {a b : Option String} {s : String}
    (ha : ∀ s, a = some s → s ≠ "") (hb : ∀ s, b = some s → s ≠ "") (h : (a <|> b) = some s) :
    s ≠ "" := by
  cases a with
  | none => exact hb s (by simpa using h)
  | some first => exact ha s (by simpa using h)

/-- Every transfer that is read has a payer. -/
theorem transferOf_payer (h : transferOf result ix = some (some t)) : t.payer ≠ "" := by
  unfold transferOf at h
  simp only [Option.bind_eq_bind] at h
  obtain ⟨programId, -, h⟩ := Option.bind_eq_some_iff.mp h
  obtain ⟨program, -, h⟩ := Option.bind_eq_some_iff.mp h
  split at h
  · cases h
  obtain ⟨parsed, -, h⟩ := Option.bind_eq_some_iff.mp h
  split at h
  · cases h
  split at h
  · cases h
  obtain ⟨destinationBalance, -, h⟩ := Option.bind_eq_some_iff.mp h
  obtain ⟨sourceBalance, -, h⟩ := Option.bind_eq_some_iff.mp h
  split at h
  · rename_i mint amount payer minted paid named
    cases h
    refine orElse_stringValue_ne_empty (fun s => stringValue_ne_empty) (fun s found => ?_) named
    exact orElse_stringValue_ne_empty (fun s => stringValue_ne_empty)
      (fun s => stringValue_ne_empty) found
  · cases h

theorem mem_of_mapM {α β : Type} {f : α → Option β} {l : List α} {l' : List β} {b : β}
    (h : l.mapM f = some l') (mem : b ∈ l') : ∃ a ∈ l, f a = some b := by
  induction l generalizing l' with
  | nil =>
      cases h
      cases mem
  | cons a rest ih =>
      rw [List.mapM_cons] at h
      obtain ⟨b', first, h⟩ := Option.bind_eq_some_iff.mp h
      obtain ⟨bs, others, h⟩ := Option.bind_eq_some_iff.mp h
      cases h
      rcases List.mem_cons.mp mem with rfl | mem
      · exact ⟨a, List.mem_cons_self, first⟩
      · obtain ⟨a', mem', same⟩ := ih others mem
        exact ⟨a', List.mem_cons_of_mem _ mem', same⟩

theorem parsedTransfers_payer {transfers : List DevnetTransferEvidence}
    (h : parsedTransfers result = some transfers) (mem : t ∈ transfers) : t.payer ≠ "" := by
  obtain ⟨found, read, h⟩ := Option.bind_eq_some_iff.mp h
  cases h
  obtain ⟨x, mem, same⟩ := List.mem_filterMap.mp mem
  cases same
  obtain ⟨ix, -, made⟩ := mem_of_mapM read mem
  exact transferOf_payer made

/-- A payment that is on chain has a payer. -/
theorem Paid.payer {memo : String} {expected : ExpectedTransfer} (paid : Paid result memo expected) :
    expected.payer ≠ "" :=
  parsedTransfers_payer paid.transfer List.mem_cons_self

end Transfers

/-- What is known of the rows: who pays was confirmed, evidence is only there where the attempt is
settled, and a settled attempt is paid. -/
structure Vouched {S : Type} (config : X402DevnetConfig) (rows : S → String → Option Attempt)
    (s : World S) : Prop where
  payer : ∀ id a, rows s.store id = some a → ∀ p, a.payer = some p → p ≠ "" →
    .verified a.operationId p ∈ s.journal
  evidence : ∀ id a, rows s.store id = some a → a.evidenceJson ≠ none → a.status = .settled
  settled : ∀ id a, rows s.store id = some a → a.status = .settled → PaidOnChain config s a

section Vouched

variable {S : Type} {store : SettlementStore S} {config : X402DevnetConfig}
  {laws : StoreLaws store} {w : String} {s s' : World S} {old new : Attempt}

/-- The request that an attempt is for stays. -/
def KeepsRequest (a a' : Attempt) : Prop := a'.requestDigest = a.requestDigest

theorem KeepsRequest.trans {a a' a'' : Attempt} (h : KeepsRequest a a') (h' : KeepsRequest a' a'') :
    KeepsRequest a a'' :=
  Eq.trans h' h

theorem keepsRequest_refl (rows : String → Option Attempt) : Rowwise KeepsRequest rows rows :=
  Rowwise.refl (P := KeepsRequest) (fun _ => rfl) rows

theorem keepsRequest_trans {rows rows' rows'' : String → Option Attempt}
    (h : Rowwise KeepsRequest rows rows') (h' : Rowwise KeepsRequest rows' rows'') :
    Rowwise KeepsRequest rows rows'' :=
  Rowwise.trans (P := KeepsRequest) (fun _ _ _ => KeepsRequest.trans) h h'

theorem Reason.request {inv : World S → Prop} {c : Contract (World S) Ask.Answer}
    (reason : Reason config laws inv c w s old new) : KeepsRequest old new := by
  cases reason <;> exact rfl

/-- The contract of a worker of a plain facilitator. -/
abbrev plainly (config : X402DevnetConfig) (laws : StoreLaws store) (w : String) :
    Contract (World S) Ask.Answer :=
  contractOf (Vouched config laws.rows)
    (fun s s' => Rowwise KeepsRequest (laws.rows s.store) (laws.rows s'.store))
    (fun _ _ _ => True) (Plain config) w

theorem PaidOnChain.mono (h : PaidOnChain config s new) (journal : s.journal ⊆ s'.journal) :
    PaidOnChain config s' new := by
  obtain ⟨txHash, answer, result, payer, same, inspected, read, confirmed, paid⟩ := h
  exact ⟨txHash, answer, result, payer, same, journal inspected, read, journal confirmed, paid⟩

/-- A plain facilitator confirms whom it names. -/
theorem confirmed_of_payer {id payer : String} (h : Payer (plainly config laws w) id payer s) :
    .verified id payer ∈ s.journal := by
  rcases h with confirmed | ⟨payload, accepted, response, s₀, answered, valid, unnamed⟩
  · exact confirmed
  · exact absurd unnamed (answered valid)

/-- A plain facilitator settles the canonical amount. -/
theorem canonical_of_amount {amount : String} (h : Amount config (plainly config laws w) amount) :
    amount = toString config.amountMinor := by
  rcases h with canonical | ⟨payload, accepted, response, s₀, answered, settled, nonempty⟩
  · exact canonical
  · rcases answered with none_ | canonical
    · rw [settled] at none_
      exact absurd none_ nonempty
    · exact Option.some.inj (settled.symm.trans canonical)

/-- The payer that an awaiting attempt names was confirmed. -/
theorem confirmed_of_known {id : String} {a : Attempt} (start : Vouched config laws.rows s)
    (stored : laws.rows s.store id = some a) (awaiting : a.status = .awaitingEvidence)
    (named : knownPayer a ≠ "") : .verified id (knownPayer a) ∈ s.journal := by
  have same := laws.keyed stored
  have noEvidence : a.evidenceJson = none := by
    by_contra there
    exact absurd (awaiting.symm.trans (start.evidence id a stored there)) (by decide)
  cases known : a.payer.filter (· ≠ "") with
  | none =>
      have unnamed : knownPayer a = "" := by
        unfold knownPayer
        rw [known, noEvidence]
        rfl
      exact absurd unnamed named
  | some payer =>
      obtain ⟨given, nonempty⟩ := Option.filter_eq_some_iff.mp known
      have chosen : knownPayer a = payer := by
        unfold knownPayer
        rw [known]
      rw [chosen, ← same]
      exact start.payer id a stored payer given (by simpa using nonempty)

/-- The expected payer of a settlement that is shown was confirmed. -/
theorem Shown.confirmed {id txHash requestDigest : String} {expected : ExpectedTransfer}
    {answer : Option Json} (start : Vouched config laws.rows s)
    (shown : Shown config laws (plainly config laws w) id txHash requestDigest expected answer s)
    (named : expected.payer ≠ "") : .verified id expected.payer ∈ s.journal := by
  rcases shown.payer with payer | ⟨s₀, a, since, stored, awaiting, known⟩
  · exact confirmed_of_payer payer
  · have before := since.inv start
    rw [← known] at named ⊢
    exact Since.journal since (confirmed_of_known before stored awaiting named)

/-- A settlement that is shown is the canonical payment of its attempt. -/
theorem Shown.paid {txHash requestDigest : String} {expected : ExpectedTransfer}
    {answer : Option Json} (start : Vouched config laws.rows s)
    (stored : laws.rows s.store old.operationId = some old)
    (shown : Shown config laws (plainly config laws w) old.operationId txHash requestDigest expected
      answer s) (settled : new.txHash = some txHash) (id_ : new.operationId = old.operationId)
    (request : KeepsRequest old new) : PaidOnChain config s new := by
  obtain ⟨result, read, paid⟩ := inspect_verified shown.verified
  obtain ⟨s₀, a, since, stored₀, requested⟩ := shown.digest
  have keeps := since.keeps (fun s => keepsRequest_refl (laws.rows s.store)) fun _ _ _ => keepsRequest_trans
  obtain ⟨b, stored', same⟩ := keeps _ a stored₀
  obtain rfl := Option.some.inj (stored.symm.trans stored')
  have digest : new.requestDigest = requestDigest := by
    rw [request, same, requested]
  have expects : expected = canonicalTransfer config expected.payer := by
    rw [canonicalTransfer, ← shown.asset, ← shown.payee, ← canonical_of_amount shown.amount]
  refine ⟨txHash, answer, result, expected.payer, settled, shown.inspected, read, ?_, ?_⟩
  · rw [id_]
    exact shown.confirmed start paid.payer
  · rw [digest, ← expects]
    exact paid

/-- What a write keeps of a row: a payer that it names was confirmed, evidence is only there where
the attempt is settled, and a settled attempt is paid. -/
structure RowVouched (config : X402DevnetConfig) (s : World S) (a : Attempt) : Prop where
  payer : ∀ p, a.payer = some p → p ≠ "" → .verified a.operationId p ∈ s.journal
  evidence : a.evidenceJson ≠ none → a.status = .settled
  settled : a.status = .settled → PaidOnChain config s a

theorem Vouched.row {id : String} {a : Attempt} {rows : S → String → Option Attempt}
    (h : Vouched config rows s) (stored : rows s.store id = some a) : RowVouched config s a :=
  ⟨h.payer id a stored, h.evidence id a stored, h.settled id a stored⟩

theorem vouched_of_rows {rows : S → String → Option Attempt}
    (h : ∀ id a, rows s.store id = some a → RowVouched config s a) : Vouched config rows s :=
  ⟨fun id a stored => (h id a stored).payer, fun id a stored => (h id a stored).evidence,
    fun id a stored => (h id a stored).settled⟩

theorem RowVouched.mono {a : Attempt} (h : RowVouched config s a)
    (journal : s.journal ⊆ s'.journal) : RowVouched config s' a :=
  ⟨fun p given nonempty => journal (h.payer p given nonempty), h.evidence,
    fun settled => (h.settled settled).mono journal⟩

/-- An open attempt has no evidence. -/
theorem RowVouched.unevidenced {a : Attempt} (h : RowVouched config s a)
    (open_ : a.status ≠ .settled) : a.evidenceJson = none := by
  by_contra there
  exact open_ (h.evidence there)

/-- An attempt with the payer and the evidence of an open one, which is not settled. -/
theorem RowVouched.reopened (h : RowVouched config s old) (open_ : old.status ≠ .settled)
    (payer : new.payer = old.payer) (evidence : new.evidenceJson = old.evidenceJson)
    (id_ : new.operationId = old.operationId) (unsettled : new.status ≠ .settled) :
    RowVouched config s new where
  payer p given nonempty := id_ ▸ h.payer p (payer ▸ given) nonempty
  evidence there := absurd (evidence.trans (h.unevidenced open_)) there
  settled settled := absurd settled unsettled

theorem Reason.vouched (start : Vouched config laws.rows s)
    (stored : laws.rows s.store old.operationId = some old)
    (reason : Reason config laws (Vouched config laws.rows) (plainly config laws w) w s old new) :
    RowVouched config s new := by
  have row := start.row stored
  have request := reason.request
  have open_ : ∀ {status}, old.status = status → status ≠ .settled → old.status ≠ .settled :=
    fun same other => same ▸ other
  have heldOpen : old.status ∈ leasedStatuses → old.status ≠ .settled := by
    intro held settled
    rw [settled] at held
    exact absurd held (by decide)
  cases reason with
  | stage pending =>
      exact row.reopened (open_ pending (by decide)) rfl rfl rfl (by rintro ⟨⟩)
  | claim pending =>
      exact row.reopened (open_ pending (by decide)) rfl rfl rfl (by rintro ⟨⟩)
  | renew settling =>
      have unsettled := open_ settling (by decide)
      exact row.reopened unsettled rfl rfl rfl unsettled
  | @proceed to_ update held credited next bare payer =>
      have unsettled : to_ ≠ .settled := by
        rcases next with ⟨rfl, -⟩ | next
        · decide
        · rintro rfl
          exact absurd next (by decide)
      refine ⟨fun p given nonempty => ?_, fun there => ?_, fun settled => absurd settled unsettled⟩
      · change update.payer.getD old.payer = some p at given
        cases named : update.payer with
        | none =>
            rw [named] at given
            exact row.payer p given nonempty
        | some payer' =>
            rw [named] at given
            exact confirmed_of_payer (payer p (named.trans (congrArg some given)) nonempty)
      · change update.evidenceJson.or old.evidenceJson ≠ none at there
        rw [bare.evidenceJson, row.unevidenced (heldOpen held)] at there
        exact absurd rfl there
  | abandon settling =>
      exact row.reopened (open_ settling (by decide)) rfl rfl rfl (by rintro ⟨⟩)
  | settle held credited shown =>
      exact ⟨row.payer, fun _ => rfl, fun _ => shown.paid start stored rfl rfl request⟩
  | takeover held =>
      have unsettled := heldOpen held
      exact row.reopened unsettled rfl rfl rfl unsettled
  | reopen settling =>
      exact row.reopened (open_ settling (by decide)) rfl rfl rfl (by rintro ⟨⟩)

theorem RowVouched.reheld {a a' : Attempt} (h : RowVouched config s a) (reheld : a.Reheld a') :
    RowVouched config s a' := by
  obtain ⟨same, settled⟩ := reheld
  rw [same]
  refine ⟨h.payer, fun there => settled.mpr (h.evidence there), fun now => ?_⟩
  exact h.settled (settled.mp now)

/-- Workers of a plain facilitator tolerate each other. -/
def vouched (config : X402DevnetConfig) (laws : StoreLaws store) : Tolerance config laws where
  inv := Vouched config laws.rows
  keeps s s' := Rowwise KeepsRequest (laws.rows s.store) (laws.rows s'.store)
  spares _ _ _ := True
  allowed := Plain config
  outside := Outside laws.rows
  keeps_refl s := keepsRequest_refl _
  keeps_trans _ _ _ := keepsRequest_trans
  spares_refl _ _ := trivial
  spares_trans _ _ _ _ _ _ _ := trivial
  apart s s' start apart := by
    have keeps := apart.rowwise (P := KeepsRequest) fun a a' kept => by rw [KeepsRequest, kept.1]
    refine ⟨apart.1, vouched_of_rows fun id a stored => ?_, keeps, fun _ => trivial⟩
    have kept := apart.every (P := RowVouched config s) (fun a a' kept row => row.reheld kept)
      (fun id a stored => start.row stored) id a stored
    exact kept.mono (by rw [apart.1]; exact fun _ mem => mem)
  acts w s s' start act := by
    have keeps := act.rowwise (P := KeepsRequest) (fun _ => rfl) fun old new _ reason => reason.request
    refine ⟨vouched_of_rows fun id a stored => ?_, keeps, fun _ _ => trivial⟩
    have rows := act.every (P := RowVouched config s) (Q := RowVouched config s)
      (fun id a stored => start.row stored) ?_ (fun _ row => row)
      (fun old new stored _ reason => reason.vouched start stored) id a stored
    · exact rows.mono (Tolerance.journal_of_act act)
    · intro a clean _ unpaid
      refine ⟨fun p given => ?_, fun there => absurd clean.evidenceJson there, fun settled => ?_⟩
      · rw [unpaid] at given
        cases given
      · rw [clean.pending] at settled
        cases settled

end Vouched

section Deployed

variable {ι : Type} [DecidableEq ι] {b : Backend} {self : Deployment b} {tasks : ι → Task}
  {clock date : Int} {draws : Nat} {pool : Pool ι (World b.State) MachineError Ask.Answer Returned}

/-- In runs in which the facilitator names the payer it confirms and settles the canonical amount,
every settled attempt is paid on chain. -/
theorem settled_paid (distinct : Task.Distinct tasks)
    (reaches : Pool.Reaches (fun i => (tasks i).run self.toDevnetMachineResource) (Outside b.rows)
      (Plain self.config) (.init (.start b.empty clock date draws)) pool) (id : String) (a : Attempt)
    (stored : b.rows pool.state.store id = some a) (settled : a.status = .settled) :
    PaidOnChain self.config pool.state a := by
  rw [← self.laws_rows] at reaches stored
  have start : (vouched self.config self.laws).inv (.start b.empty clock date draws) := by
    refine vouched_of_rows fun id a stored => ?_
    rw [self.laws_rows] at stored
    cases (b.rows_empty id).symm.trans stored
  have kept := (((vouched self.config self.laws).shared distinct).reaches start
    (fun i id d mem => by cases mem) reaches).1
  exact kept.settled id a stored settled

end Deployed

/-! ### Another amount -/

namespace Sample

/-- The statuses of the rows, and the transfers of the transactions that were inspected. -/
def inspected (world : World MemoryStore) :
    Option AttemptStatus × List (Option (List DevnetTransferEvidence)) :=
  ((world.store.get? operationId).map (·.status), world.journal.filterMap fun entry =>
    match entry with
    | .inspected _ answer => some ((resultOf answer).bind parsedTransfers)
    | _ => none)

/-- A call of `accept` whose settlement is answered for an amount, and so is its transaction. -/
def paying (i : Fin 1) (answered : Option String) (amount : String) :
    List (Move (Fin 1) (World MemoryStore) Ask.Answer) :=
  .start i :: goes { settles := some (settled (some "payer_key") answered)
                     finalized := some (finalized amount "payer_key") } i 19

/-- The runs of one call over the store in memory. -/
abbrev Pays (allowed : (q : Ask) → q.Answer → World MemoryStore → Prop)
    (pool : Pool (Fin 1) (World MemoryStore) MachineError Ask.Answer Returned) : Prop :=
  Pool.Reaches (fun _ => (Task.accept (call firstPayment "1")).run resource) (Outside MemoryStore.get?)
    allowed (.init (.start MemoryStore.empty 0 0 0)) pool

theorem pays_of_play {allowed : (q : Ask) → q.Answer → World MemoryStore → Prop}
    [∀ q a s, Decidable (allowed q a s)] (answered : Option String) (amount : String)
    {outcome : Option AttemptStatus × List (Option (List DevnetTransferEvidence))}
    (played : (Pool.play? (fun (_ : Fin 1) => (Task.accept (call firstPayment "1")).run resource) allowed
      (.init (.start MemoryStore.empty 0 0 0)) (paying 0 answered amount)).map
        (fun pool => inspected pool.state) = some outcome) :
    ∃ pool, Pays allowed pool ∧ inspected pool.state = outcome := by
  obtain ⟨pool, plays, same⟩ := Option.map_eq_some_iff.mp played
  refine ⟨pool, Pool.reaches_of_play plays fun act mem => ?_, same⟩
  simp [paying, goes] at mem

theorem pays_canonically : ∃ pool, Pays (Plain resource.config) pool ∧ inspected pool.state =
    (some .settled, [some [⟨"usdc_mint", "10000", "payee_key", "payer_key"⟩]]) :=
  pays_of_play none "10000" (by decide +kernel)

theorem pays_otherwise : ∃ pool, Pays Unrestricted pool ∧ inspected pool.state =
    (some .settled, [some [⟨"usdc_mint", "1", "payee_key", "payer_key"⟩]]) :=
  pays_of_play (some "1") "1" (by decide +kernel)

end Sample

theorem settled_paid_canonically : ∃ (pool : Pool (Fin 1) (World MemoryStore) MachineError Ask.Answer
      Returned) (a : Attempt), pool.state.store.get? Sample.operationId = some a ∧
      a.status = .settled ∧ PaidOnChain Sample.resource.config pool.state a := by
  obtain ⟨pool, pays, outcome⟩ := Sample.pays_canonically
  obtain ⟨a, stored, settled⟩ := Option.map_eq_some_iff.mp (congrArg Prod.fst outcome)
  exact ⟨pool, a, stored, settled, @settled_paid _ _ .memory Sample.deployment _ 0 0 0 _
    (fun i j _ _ => Subsingleton.elim i j) pays _ a stored settled⟩

theorem settled_paid_false : ¬ ∀ (b : Backend) (self : Deployment b) (tasks : Fin 1 → Task)
    (clock date : Int) (draws : Nat)
    (pool : Pool (Fin 1) (World b.State) MachineError Ask.Answer Returned), Task.Distinct tasks →
      Pool.Reaches (fun i => (tasks i).run self.toDevnetMachineResource) (Outside b.rows) Unrestricted
        (.init (.start b.empty clock date draws)) pool →
      ∀ id a, b.rows pool.state.store id = some a → a.status = .settled →
        PaidOnChain self.config pool.state a := by
  intro claim
  obtain ⟨pool, pays, outcome⟩ := Sample.pays_otherwise
  obtain ⟨a, stored, settled⟩ := Option.map_eq_some_iff.mp (congrArg Prod.fst outcome)
  obtain ⟨txHash, answer, result, payer, -, mem, read, -, paid⟩ :=
    claim .memory Sample.deployment (fun _ => .accept (Sample.call Sample.firstPayment "1")) 0 0 0 pool
      (fun i j _ _ => Subsingleton.elim i j) pays _ a stored settled
  have listed := congrArg Prod.snd outcome
  have mem : some [DevnetTransferEvidence.mk "usdc_mint" "10000" "payee_key" payer] ∈
      (Sample.inspected pool.state).2 := by
    refine List.mem_filterMap.mpr ⟨_, mem, ?_⟩
    dsimp only
    rw [read]
    exact congrArg some paid.transfer
  rw [listed] at mem
  simp at mem

end AgentReady.Settlement
