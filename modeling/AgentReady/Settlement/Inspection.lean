import AgentReady.Payments.Types

/-!
`inspectTransaction` (`packages/payments/src/devnet-machine.ts`): what the answer of the RPC
node to `getTransaction` shows.

The answer is any JSON value, and reading it may throw, as reading a property of `null` does;
then the evidence is unavailable. `none` stands for the throw. The private `verifyMemo`, which
inspects without an expected transfer, has no caller and is left out.

* `inspect_verified`: a verified inspection comes from a transaction that shows the memo and
  whose one transfer is the expected one.
-/

namespace AgentReady.Settlement

inductive MemoVerificationState where
  | verified | missing | unavailable
deriving DecidableEq, Repr

def MemoVerificationState.text : MemoVerificationState → String
  | verified => "verified"
  | missing => "missing"
  | unavailable => "unavailable"

inductive TransferVerificationState where
  | verified | mismatch | unavailable
deriving DecidableEq, Repr

def TransferVerificationState.text : TransferVerificationState → String
  | verified => "verified"
  | mismatch => "mismatch"
  | unavailable => "unavailable"

structure DevnetTransferEvidence where
  mint : String
  amount : String
  recipient : String
  payer : String
deriving DecidableEq

/-- The transfer that a settlement must have made. -/
structure ExpectedTransfer where
  asset : String
  amount : String
  payee : String
  payer : String
deriving DecidableEq

structure TransactionInspection where
  memoVerification : MemoVerificationState
  transferVerification : TransferVerificationState
  transfer : Option DevnetTransferEvidence := none
  reason : Option String := none
deriving DecidableEq

def memoProgramId : String := "MemoSq4gqABAXKb96qnH8TysNcWxMyWCqXgDLGmfcHr"

def tokenProgramIds : List String :=
  ["TokenkegQfeZyiNwAJbNbGKPFXCWuBvf9Ss623VQ5DA", "TokenzQdBNbLqP5VEhdkAS6EPFLC1sT3L4f5Y7W8X9Y"]

def unavailable : TransactionInspection := ⟨.unavailable, .unavailable, none, none⟩

/-! ### The parts of a transaction -/

/-- The top-level instructions, and then the inner ones. -/
def allInstructions (result : Json) : List Json :=
  let message := Json.optional (Json.optional (some result) "transaction") "message"
  let meta_ := Json.optional (some result) "meta"
  Json.itemsOf (Json.optional message "instructions") ++
    (Json.itemsOf (Json.optional meta_ "innerInstructions")).flatMap fun group =>
      Json.itemsOf (Json.optional (some group) "instructions")

/-- The instruction leaves the memo. -/
def isMemo (expectedMemo : String) (ix : Json) : Option Bool := do
  let program ← ix.access "program"
  let programId ← ix.access "programId"
  let parsed ← ix.access "parsed"
  return program.any (Json.isText "spl-memo") && programId.any (Json.isText memoProgramId) &&
    parsed.any (Json.isText expectedMemo)

/-- The transaction failed, or does not say that it did not. -/
def failed : Option Json → Bool
  | some (.obj fields) => Json.field? fields "err" ≠ some .null
  | _ => true

def accountKeys (result : Json) : List String :=
  let message := Json.optional (Json.optional (some result) "transaction") "message"
  (Json.itemsOf (Json.optional message "accountKeys")).map fun
    | .str key => key
    | key => (Json.stringValue (Json.optional (some key) "pubkey")).getD ""

/-- `keys.indexOf(key)`. -/
def indexOf (keys : List String) (key : String) : Int :=
  match keys.idxOf? key with
  | some i => i
  | none => -1

/-- The first balance of the account. -/
def balanceAt (index : Int) (balances : List Json) : Option (Option Json) :=
  balances.findM? fun balance => do
    let accountIndex ← balance.access "accountIndex"
    return accountIndex.any (Json.isInt index)

/-- The instruction is of another program. -/
def foreign (programId program : Option String) : Bool :=
  match programId with
  | some id => id ∉ tokenProgramIds
  | none => program ≠ some "spl-token"

/-- The transfer that an instruction makes, where it is one and can be resolved. -/
def transferOf (result : Json) (ix : Json) : Option (Option DevnetTransferEvidence) := do
  let meta_ := Json.optional (some result) "meta"
  let programId := Json.stringValue (← ix.access "programId")
  let program := Json.stringValue (← ix.access "program")
  if foreign programId program then return none
  let parsed ← ix.access "parsed"
  let info := Json.optional parsed "info"
  let type := Json.stringValue (Json.optional parsed "type")
  if !info.any Json.isTruthy || (type ≠ some "transfer" && type ≠ some "transferChecked") then
    return none
  let tokenAmount := Json.optional info "tokenAmount"
  let source := Json.stringValue (Json.optional info "source")
  match Json.stringValue (Json.optional info "destination") with
  | none => return none
  | some destination =>
      let keys := accountKeys result
      let destinationBalance ← balanceAt (indexOf keys destination)
        (Json.itemsOf (Json.optional meta_ "postTokenBalances"))
      let sourceBalance ← balanceAt (indexOf keys (source.getD ""))
        (Json.itemsOf (Json.optional meta_ "preTokenBalances"))
      let mint := Json.stringValue (Json.optional info "mint") <|>
        Json.stringValue (Json.optional destinationBalance "mint")
      let amount := Json.stringValue (Json.optional tokenAmount "amount") <|>
        Json.stringValue (Json.optional info "amount")
      let payer := Json.stringValue (Json.optional info "authority") <|>
        Json.stringValue (Json.optional info "owner") <|>
        Json.stringValue (Json.optional sourceBalance "owner")
      match mint, amount, payer with
      | some mint, some amount, some payer =>
          -- The account key at the index of the destination is the destination itself.
          let recipient := (Json.stringValue (Json.optional destinationBalance "owner")).getD destination
          return some { mint, amount, recipient, payer }
      | _, _, _ => return none

/-- The transfers of a transaction. -/
def parsedTransfers (result : Json) : Option (List DevnetTransferEvidence) := do
  let transfers ← (allInstructions result).mapM (transferOf result)
  return transfers.filterMap id

def DevnetTransferEvidence.matches_ (transfer : DevnetTransferEvidence) (expected : ExpectedTransfer) :
    Bool :=
  transfer.mint = expected.asset ∧ transfer.amount = expected.amount ∧
    transfer.recipient = expected.payee ∧ transfer.payer = expected.payer

/-! ### The inspection -/

def memoState (found : Bool) : MemoVerificationState := if found then .verified else .missing

/-- The inspection of a result that is there; `none` where it throws. -/
def inspectResult (result : Json) (expectedMemo : String) (expected : ExpectedTransfer) :
    Option TransactionInspection := do
  let found ← (allInstructions result).anyM (isMemo expectedMemo)
  let memoVerification := memoState found
  if failed (Json.optional (some result) "meta") then
    return {
      memoVerification, transferVerification := .mismatch
      reason := some "The original transaction did not complete successfully (meta.err was not null)." }
  let transfers ← parsedTransfers result
  match transfers, transfers.filter (·.matches_ expected) with
  | [_], [transfer] =>
      return { memoVerification, transferVerification := .verified, transfer := some transfer }
  | _, _ =>
      return {
        memoVerification, transferVerification := .mismatch
        reason := some ("The original transaction did not contain exactly one expected token " ++
          "transfer (mint, amount, recipient and payer must match).") }

/-- The result that an answer carries, where it carries one. -/
def resultOf (answer : Option Json) : Option Json := do
  let result ← (← answer).access "result"
  result.filter Json.isTruthy

/-- `inspectTransaction`, given what the node answers: `none` where there is no node, or it
does not answer with JSON. -/
def inspect (answer : Option Json) (expectedMemo : String) (expected : ExpectedTransfer) :
    TransactionInspection :=
  ((resultOf answer).bind fun result => inspectResult result expectedMemo expected).getD unavailable

/-- The evidence of a settlement is there, and shows the expected payment. -/
def TransactionInspection.Verified (i : TransactionInspection) : Prop :=
  i.memoVerification = .verified ∧ i.transferVerification = .verified

/-- The evidence is not there yet. -/
def TransactionInspection.Unavailable (i : TransactionInspection) : Prop :=
  i.memoVerification = .unavailable ∨ i.transferVerification = .unavailable

instance (i : TransactionInspection) : Decidable i.Verified := inferInstanceAs (Decidable (_ ∧ _))

instance (i : TransactionInspection) : Decidable i.Unavailable := inferInstanceAs (Decidable (_ ∨ _))

/-! ### What a verified inspection shows -/

/-- A transaction that is the expected payment: it did not fail, one of its instructions leaves
the memo, and the one transfer it makes is the expected one. -/
structure Paid (result : Json) (memo : String) (expected : ExpectedTransfer) : Prop where
  succeeded : failed (Json.optional (some result) "meta") = false
  memo : ∃ ix ∈ allInstructions result, isMemo memo ix = some true
  transfer : parsedTransfers result =
    some [⟨expected.asset, expected.amount, expected.payee, expected.payer⟩]

section Verified

variable {answer : Option Json} {result : Json} {memo : String} {expected expected' : ExpectedTransfer}

theorem exists_of_anyM {α : Type} {p : α → Option Bool} {l : List α} (h : l.anyM p = some true) :
    ∃ a ∈ l, p a = some true := by
  induction l with
  | nil => cases h
  | cons a rest ih =>
      rw [List.anyM] at h
      obtain ⟨found, first, others⟩ := Option.bind_eq_some_iff.mp h
      cases found with
      | true => exact ⟨a, List.mem_cons_self, first⟩
      | false =>
          obtain ⟨b, mem, holds⟩ := ih others
          exact ⟨b, List.mem_cons_of_mem _ mem, holds⟩

theorem DevnetTransferEvidence.eq_of_matches {t : DevnetTransferEvidence}
    (h : t.matches_ expected = true) :
    t = ⟨expected.asset, expected.amount, expected.payee, expected.payer⟩ := by
  obtain ⟨mint, amount, recipient, payer⟩ := t
  simpa [matches_] using h

/-- How the inspection of a result ends, where reading it does not throw. -/
theorem inspectResult_some {i : TransactionInspection} (h : inspectResult result memo expected = some i) :
    ∃ found, (allInstructions result).anyM (isMemo memo) = some found ∧
      i.memoVerification = memoState found ∧
      i.transferVerification ≠ .unavailable ∧
      (i.transferVerification = .verified → failed (Json.optional (some result) "meta") = false ∧
        parsedTransfers result =
          some [⟨expected.asset, expected.amount, expected.payee, expected.payer⟩]) := by
  unfold inspectResult at h
  obtain ⟨found, looked, rest⟩ := Option.bind_eq_some_iff.mp h
  refine ⟨found, looked, ?_⟩
  split at rest
  · cases rest
    exact ⟨rfl, nofun, nofun⟩
  · rename_i succeeded
    obtain ⟨transfers, parsed, ends⟩ := Option.bind_eq_some_iff.mp rest
    split at ends
    · rename_i only transfer matching
      cases ends
      refine ⟨rfl, nofun, fun _ => ⟨by simpa using succeeded, ?_⟩⟩
      have mem : transfer ∈ [only].filter (·.matches_ expected) := by simp [matching]
      obtain ⟨mem, matches_⟩ := List.mem_filter.mp mem
      rw [parsed, ← List.mem_singleton.mp mem, transfer.eq_of_matches matches_]
    · cases ends
      exact ⟨rfl, nofun, nofun⟩

/-- A verified inspection shows the expected payment. -/
theorem inspect_verified (h : (inspect answer memo expected).Verified) :
    ∃ result, resultOf answer = some result ∧ Paid result memo expected := by
  unfold inspect at h
  cases read : (resultOf answer).bind fun result => inspectResult result memo expected with
  | none =>
      rw [read] at h
      exact absurd h (by decide)
  | some i =>
      rw [read] at h
      obtain ⟨result, there, inspected⟩ := Option.bind_eq_some_iff.mp read
      obtain ⟨found, looked, memo_, -, transfer⟩ := inspectResult_some inspected
      obtain ⟨succeeded, parsed⟩ := transfer h.2
      have verified : found = true := by
        have stated := memo_.symm.trans h.1
        cases found with
        | true => rfl
        | false => cases stated
      exact ⟨result, there, succeeded, exists_of_anyM (verified ▸ looked), parsed⟩

end Verified

end AgentReady.Settlement
