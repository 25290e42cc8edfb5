import AgentReady.Settlement.Transfers

/-!
The operator's inspection of a finalized transaction (`inspectFinalizedForReconcile` of
`packages/payments/operator-cli.mjs`), which is a copy of the application's.

* `inspections_agree`: the two agree on every transaction that says its slot, and none of whose instructions or
  balances is `null`.
-/

namespace AgentReady.Settlement

/-! ### The copy -/

/-- What a finalized transaction is found to be. -/
structure FinalizedTransfer where
  slot : Json.Number
  feePayer : String
  transfer : DevnetTransferEvidence

/-- `ix?.program === "spl-memo" && ix?.programId === MEMO_PROGRAM_ID && ix?.parsed === memo`. -/
def finalizedMemo (memo : String) (ix : Json) : Bool :=
  (Json.optional (some ix) "program").any (Json.isText "spl-memo") &&
    (Json.optional (some ix) "programId").any (Json.isText memoProgramId) &&
    (Json.optional (some ix) "parsed").any (Json.isText memo)

/-- `balances.find((b) => b?.accountIndex === index)`. -/
def finalizedBalance (index : Int) (balances : List Json) : Option Json :=
  balances.find? fun balance => (Json.optional (some balance) "accountIndex").any (Json.isInt index)

/-- The candidate that an instruction is, if it is one. -/
def finalizedCandidate (keys : List String) (postBalances preBalances : List Json) (ix : Json) :
    Option DevnetTransferEvidence :=
  let programId := Json.stringValue (Json.optional (some ix) "programId")
  let program := Json.stringValue (Json.optional (some ix) "program")
  if foreign programId program then none
  else
    let parsed := Json.optional (some ix) "parsed"
    let info := Json.optional parsed "info"
    let type := Json.stringValue (Json.optional parsed "type")
    if !info.any Json.isTruthy || (type ≠ some "transfer" && type ≠ some "transferChecked") then none
    else do
      let tokenAmount := Json.optional info "tokenAmount"
      let destination ← Json.stringValue (Json.optional info "destination")
      let source := Json.stringValue (Json.optional info "source")
      let destIdx := indexOf keys destination
      let srcIdx := indexOf keys (source.getD "")
      let destBal := finalizedBalance destIdx postBalances
      let srcBal := finalizedBalance srcIdx preBalances
      let mint ← Json.stringValue (Json.optional info "mint") <|> Json.stringValue (Json.optional destBal "mint")
      let amount ← Json.stringValue (Json.optional tokenAmount "amount") <|>
        Json.stringValue (Json.optional info "amount")
      let payer ← Json.stringValue (Json.optional info "authority") <|> Json.stringValue (Json.optional info "owner") <|>
        Json.stringValue (Json.optional srcBal "owner")
      let recipient := (Json.stringValue (Json.optional destBal "owner") <|>
        (if 0 ≤ destIdx then keys[destIdx.toNat]? else none)).getD destination
      return { mint, amount, recipient, payer }

/-- `all`: the top-level instructions, and then the inner ones. -/
def finalizedInstructions (tx : Json) : List Json :=
  let meta_ := Json.optional (some tx) "meta"
  let message := Json.optional (Json.optional (some tx) "transaction") "message"
  Json.itemsOf (Json.optional message "instructions") ++
    (Json.itemsOf (Json.optional meta_ "innerInstructions")).flatMap fun group =>
      Json.itemsOf (Json.optional (some group) "instructions")

/-- `accountKeys`. -/
def finalizedKeys (tx : Json) : List String :=
  let message := Json.optional (Json.optional (some tx) "transaction") "message"
  (Json.itemsOf (Json.optional message "accountKeys")).map fun
    | .str key => key
    | key => (Json.stringValue (Json.optional (some key) "pubkey")).getD ""

/-- `candidates`. -/
def finalizedCandidates (tx : Json) : List DevnetTransferEvidence :=
  let meta_ := Json.optional (some tx) "meta"
  (finalizedInstructions tx).filterMap (finalizedCandidate (finalizedKeys tx)
    (Json.itemsOf (Json.optional meta_ "postTokenBalances")) (Json.itemsOf (Json.optional meta_ "preTokenBalances")))

/-- `inspectFinalizedForReconcile`: what is found, or the reason why nothing is. -/
def inspectFinalizedForReconcile (tx : Json) (memo : String) (expected : ExpectedTransfer) :
    Except String FinalizedTransfer :=
  if !tx.isTruthy || tx.typeof ≠ "object" then
    .error "transaction not queryable (not finalized yet or unknown signature)"
  else
    match Json.optional (some tx) "slot" with
    | some (.num slot) =>
        let meta_ := Json.optional (some tx) "meta"
        let message := Json.optional (Json.optional (some tx) "transaction") "message"
        if !meta_.any Json.isTruthy || !message.any Json.isTruthy then .error "transaction missing meta/message"
        else if failed meta_ then .error "transaction did not complete successfully (meta.err was not null)"
        else if !(finalizedInstructions tx).any (finalizedMemo memo) then
          .error "exact request-bound memo not found in transaction"
        else
          match finalizedCandidates tx, (finalizedCandidates tx).filter (·.matches_ expected) with
          | [_], [transfer] => .ok ⟨slot, ((finalizedKeys tx).head?.filter (· ≠ "")).getD "unknown", transfer⟩
          | _, _ =>
              .error ("transaction does not contain exactly one expected token transfer " ++
                "(mint, amount, recipient and payer must match)")
    | _ => .error "transaction has no slot"

/-! ### The two copies -/

def postBalances (result : Json) : List Json :=
  Json.itemsOf (Json.optional (Json.optional (some result) "meta") "postTokenBalances")

def preBalances (result : Json) : List Json :=
  Json.itemsOf (Json.optional (Json.optional (some result) "meta") "preTokenBalances")

/-- A transaction that says its slot, what it did and what came of it. Its lists may hold anything but `null`. -/
structure Queryable (tx : Json) : Prop where
  slot : ∃ n, Json.optional (some tx) "slot" = some (.num n)
  outcome : (Json.optional (some tx) "meta").any Json.isTruthy = true
  message : (Json.optional (Json.optional (some tx) "transaction") "message").any Json.isTruthy = true
  instructions : ∀ ix ∈ allInstructions tx, ix ≠ .null
  post : ∀ balance ∈ postBalances tx, balance ≠ .null
  pre : ∀ balance ∈ preBalances tx, balance ≠ .null

section Copies

variable {tx ix : Json} {memo : String} {expected : ExpectedTransfer} {balances : List Json} {index : Int}

theorem isMemo_eq (there : ix ≠ .null) : isMemo memo ix = some (finalizedMemo memo ix) := by
  simp [isMemo, finalizedMemo, access_of_ne_null there]

theorem anyM_isMemo {all : List Json} (there : ∀ ix ∈ all, ix ≠ .null) :
    all.anyM (isMemo memo) = some (all.any (finalizedMemo memo)) := by
  induction all with
  | nil => rfl
  | cons ix rest ih =>
      rw [List.anyM, isMemo_eq (there ix List.mem_cons_self), Option.bind_eq_bind, Option.bind_some, List.any_cons]
      cases finalizedMemo memo ix with
      | true => rfl
      | false => exact ih fun ix mem => there ix (List.mem_cons_of_mem _ mem)

theorem balanceAt_eq (there : ∀ balance ∈ balances, balance ≠ .null) :
    balanceAt index balances = some (finalizedBalance index balances) := by
  unfold balanceAt finalizedBalance
  induction balances with
  | nil => rfl
  | cons balance rest ih =>
      rw [List.findM?, access_of_ne_null (there balance List.mem_cons_self), List.find?_cons]
      cases here : (Json.optional (some balance) "accountIndex").any (Json.isInt index) with
      | true => simp [here]
      | false => simpa [here] using ih fun balance mem => there balance (List.mem_cons_of_mem _ mem)

/-- The account key at the index of the destination is the destination. -/
theorem getD_key {keys : List String} {key : String} {owner : Option String} :
    (owner.or (if 0 ≤ indexOf keys key then keys[(indexOf keys key).toNat]? else none)).getD key = owner.getD key := by
  cases owner with
  | some owner => rfl
  | none =>
      unfold indexOf
      cases at_ : keys.idxOf? key with
      | none => rfl
      | some i =>
          obtain ⟨less, is, -⟩ := List.idxOf?_eq_some_iff.mp at_
          simp [less, is]

theorem finalizedCandidate_eq {keys : List String} {post pre : List Json} : finalizedCandidate keys post pre ix =
    if isTransfer ix = true ∧ (infoOf ix).any Json.isTruthy = true then
      (stated ix "destination").bind fun destination =>
        resolved ix destination (finalizedBalance (indexOf keys destination) post)
          (finalizedBalance (indexOf keys ((stated ix "source").getD "")) pre)
    else none := by
  unfold finalizedCandidate
  dsimp only
  cases other : foreign (Json.stringValue (Json.optional (some ix) "programId"))
      (Json.stringValue (Json.optional (some ix) "program")) with
  | true => simp [isTransfer, other]
  | false =>
      simp only [Bool.false_eq_true, if_false]
      by_cases made : isTransfer ix = true ∧ (infoOf ix).any Json.isTruthy = true
      · have kind := (isTransfer_iff.mp made.1).2
        have informed := made.2
        rw [infoOf] at informed
        rw [if_pos made, if_neg (by rcases kind with kind | kind <;> simp [informed, kind])]
        simp only [resolved, stated, infoOf, Option.bind_eq_bind, Option.orElse_eq_orElse, Option.orElse_eq_or, getD_key]
      · rw [if_neg made, if_pos]
        simp only [isTransfer_iff, other, infoOf] at made
        simp at made ⊢
        tauto

theorem transferOf_finalized (there : ix ≠ .null) (post : ∀ balance ∈ postBalances tx, balance ≠ .null)
    (pre : ∀ balance ∈ preBalances tx, balance ≠ .null) :
    transferOf tx ix = some (finalizedCandidate (accountKeys tx) (postBalances tx) (preBalances tx) ix) := by
  rw [transferOf_eq there, finalizedCandidate_eq]
  split
  · cases stated ix "destination" with
    | none => rfl
    | some destination =>
        change resolvedIn tx ix destination = _
        unfold resolvedIn
        rw [← postBalances, ← preBalances, balanceAt_eq post, balanceAt_eq pre]
        rfl
  · rfl

theorem parsedTransfers_finalized (queryable : Queryable tx) : parsedTransfers tx = some (finalizedCandidates tx) := by
  have each : ∀ ix ∈ allInstructions tx, transferOf tx ix =
      some (finalizedCandidate (accountKeys tx) (postBalances tx) (preBalances tx) ix) :=
    fun ix mem => transferOf_finalized (queryable.instructions ix mem) queryable.post queryable.pre
  unfold parsedTransfers
  rw [mapM_join fun ix mem => by rw [each ix mem]; rfl, Option.bind_eq_bind, Option.bind_some, List.filterMap_map]
  have keys : finalizedKeys tx = accountKeys tx := rfl
  unfold finalizedCandidates
  rw [keys]
  exact congrArg some (List.filterMap_congr fun ix mem => by rw [Function.comp_apply, each ix mem]; rfl)

theorem Queryable.object (queryable : Queryable tx) : tx.isTruthy = true ∧ tx.typeof = "object" := by
  obtain ⟨n, slot⟩ := queryable.slot
  cases tx with
  | obj fields => exact ⟨rfl, rfl⟩
  | _ => cases slot

/-- The transaction is the expected payment, as the operator reads it. -/
structure PaidFor (tx : Json) (memo : String) (expected : ExpectedTransfer) : Prop where
  succeeded : failed (Json.optional (some tx) "meta") = false
  memo : (finalizedInstructions tx).any (finalizedMemo memo) = true
  transfer : finalizedCandidates tx = [expected.evidence]

theorem matching_evidence : [expected.evidence].filter (·.matches_ expected) = [expected.evidence] := by
  simp [DevnetTransferEvidence.matches_, ExpectedTransfer.evidence]

theorem finalized_ok {f : FinalizedTransfer} (found : inspectFinalizedForReconcile tx memo expected = .ok f) :
    PaidFor tx memo expected ∧ f.transfer = expected.evidence := by
  unfold inspectFinalizedForReconcile at found
  split at found
  · cases found
  split at found
  · dsimp only at found
    split at found
    · cases found
    split at found
    · cases found
    next succeeded =>
      split at found
      · cases found
      next memo_ =>
        split at found
        · next only transfer is matching =>
            cases found
            have mem : transfer ∈ [only].filter (·.matches_ expected) := by
              rw [← is, matching]
              exact List.mem_singleton_self _
            obtain ⟨same, matches_⟩ := List.mem_filter.mp mem
            have evidence := transfer.eq_of_matches matches_
            refine ⟨⟨by simpa using succeeded, (Bool.not_eq_false' _).mp (Bool.eq_false_iff.mpr memo_), ?_⟩, evidence⟩
            rw [← List.mem_singleton.mp same, evidence] at is
            exact is
        · cases found
  · cases found

theorem PaidFor.finalized (paid : PaidFor tx memo expected) (queryable : Queryable tx) :
    ∃ f, inspectFinalizedForReconcile tx memo expected = .ok f := by
  obtain ⟨n, slot⟩ := queryable.slot
  unfold inspectFinalizedForReconcile
  rw [if_neg (by simp [queryable.object]), slot]
  dsimp only
  rw [if_neg (by simp [queryable.outcome, queryable.message]), if_neg (by simp [paid.succeeded]), paid.memo,
    if_neg (by decide), paid.transfer, matching_evidence]
  exact ⟨_, rfl⟩

/-- What the application reports of the transfer of a verified transaction. -/
theorem inspect_transfer {answer : Option Json}
    (verified : (inspect answer memo expected).transferVerification = .verified) :
    (inspect answer memo expected).transfer = some expected.evidence := by
  unfold inspect at verified ⊢
  cases read : (resultOf answer).bind fun result => inspectResult result memo expected with
  | none =>
      rw [read] at verified
      cases verified
  | some i =>
      rw [read] at verified
      obtain ⟨result, -, inspected⟩ := Option.bind_eq_some_iff.mp read
      obtain ⟨-, -, -, -, counted⟩ := inspectResult_some inspected
      obtain ⟨succeeded, parsed⟩ := counted verified
      unfold inspectResult at inspected
      obtain ⟨found, -, inspected⟩ := Option.bind_eq_some_iff.mp inspected
      rw [succeeded, parsed] at inspected
      simp only [Bool.false_eq_true, if_false, Option.bind_eq_bind, Option.bind_some] at inspected
      have matching := @matching_evidence expected
      unfold ExpectedTransfer.evidence at matching
      rw [matching] at inspected
      cases inspected
      rfl

/-- The application and the operator agree on whether a transaction is the expected payment, and on what it moves. -/
theorem inspections_agree {answer : Option Json} (there : resultOf answer = some tx) (queryable : Queryable tx) :
    ((inspect answer memo expected).Verified ↔ ∃ f, inspectFinalizedForReconcile tx memo expected = .ok f) ∧
      ∀ f, inspectFinalizedForReconcile tx memo expected = .ok f →
        (inspect answer memo expected).transfer = some f.transfer := by
  have searched := @anyM_isMemo memo _ queryable.instructions
  have parsed := parsedTransfers_finalized queryable
  have readable : ¬ Unreadable tx memo := by simp [Unreadable, searched, parsed]
  have paid : Paid tx memo expected ↔ PaidFor tx memo expected := by
    have left_ : (∃ ix ∈ allInstructions tx, isMemo memo ix = some true) ↔
        (finalizedInstructions tx).any (finalizedMemo memo) = true := by
      rw [List.any_eq_true]
      refine exists_congr fun ix => and_congr_right fun mem => ?_
      rw [isMemo_eq (queryable.instructions ix mem), Option.some_inj]
    constructor
    · intro paid
      exact ⟨paid.succeeded, left_.mp paid.memo, Option.some.inj (parsed.symm.trans paid.transfer)⟩
    · intro paid
      exact ⟨paid.succeeded, left_.mpr paid.memo, parsed.trans (congrArg some paid.transfer)⟩
  obtain ⟨answer, rfl⟩ : ∃ a, answer = some a := by
    cases answer with
    | none => cases there
    | some a => exact ⟨a, rfl⟩
  have verified : (inspect (some answer) memo expected).Verified ↔ PaidFor tx memo expected :=
    (inspect_readable there readable).2.trans paid
  have agree : (inspect (some answer) memo expected).Verified ↔
      ∃ f, inspectFinalizedForReconcile tx memo expected = .ok f := by
    rw [verified]
    constructor
    · intro paid
      exact paid.finalized queryable
    · intro found
      obtain ⟨f, found⟩ := found
      exact (finalized_ok found).1
  refine ⟨agree, fun f found => ?_⟩
  rw [inspect_transfer (agree.mpr ⟨f, found⟩).2, (finalized_ok found).2]

theorem queryable_transferring : Queryable (transferring [checkedTransfer]) := by
  refine ⟨⟨7, rfl⟩, by decide +kernel, by decide +kernel, ?_, ?_, ?_⟩
  · intro ix mem
    change ix ∈ [_, checkedTransfer] at mem
    simp only [List.mem_cons, List.not_mem_nil, or_false] at mem
    rcases mem with rfl | rfl <;> intro null <;> cases null
  · intro balance mem
    cases mem
  · intro balance mem
    cases mem

/-- Both find the payment in a transaction that makes the one transfer. -/
theorem inspections_agree_paid :
    (inspect (some (.obj [("result", transferring [checkedTransfer])])) "memo"
      ⟨"usdc", "10000", "payee", "payer"⟩).Verified ∧
    ((inspect (some (.obj [("result", transferring [checkedTransfer])])) "memo"
      ⟨"usdc", "10000", "payee", "payer"⟩).Verified ↔
      ∃ f, inspectFinalizedForReconcile (transferring [checkedTransfer]) "memo"
        ⟨"usdc", "10000", "payee", "payer"⟩ = .ok f) :=
  ⟨by decide +kernel, (inspections_agree rfl queryable_transferring).1⟩

end Copies

end AgentReady.Settlement
