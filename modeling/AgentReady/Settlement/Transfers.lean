import AgentReady.Settlement.Completion

/-!
What a verified inspection says of the transfers of a transaction.

A transfer instruction whose mint, amount, authority or destination is neither stated nor found among the balances
is passed over before the transfers are counted. So a transaction that is verified as the one expected transfer may
make others, that cannot be resolved.

* `transferOf_iff`: the transfer that an instruction makes.
* `verified_iff`: which transactions are verified.
* `one_transfer_iff`: a verified transaction makes no other transfer, if and only if all of its transfers can be
  resolved.
-/

namespace AgentReady.Settlement

/-! ### Transfer instructions -/

/-- The instruction is a transfer of an accepted token program, whether or not it can be resolved. -/
def isTransfer (ix : Json) : Bool :=
  let type := Json.stringValue (Json.optional (Json.optional (some ix) "parsed") "type")
  !foreign (Json.stringValue (Json.optional (some ix) "programId")) (Json.stringValue (Json.optional (some ix) "program"))
    && (type = some "transfer" || type = some "transferChecked")

def infoOf (ix : Json) : Option Json := Json.optional (Json.optional (some ix) "parsed") "info"

/-- What the information of the instruction states. -/
def stated (ix : Json) (name : String) : Option String := Json.stringValue (Json.optional (infoOf ix) name)

/-- The transfer that an instruction makes: what it does not state is found in the balance of its destination after
the transaction, and of its source before it. -/
structure MovesTokens (result ix : Json) (t : DevnetTransferEvidence) (destination : String)
    (after before : Option Json) : Prop where
  transfer : isTransfer ix = true
  target : stated ix "destination" = some destination
  post : balanceAt (indexOf (accountKeys result) destination)
    (Json.itemsOf (Json.optional (Json.optional (some result) "meta") "postTokenBalances")) = some after
  pre : balanceAt (indexOf (accountKeys result) ((stated ix "source").getD ""))
    (Json.itemsOf (Json.optional (Json.optional (some result) "meta") "preTokenBalances")) = some before
  mint : (stated ix "mint").or (Json.stringValue (Json.optional after "mint")) = some t.mint
  amount : (Json.stringValue (Json.optional (Json.optional (infoOf ix) "tokenAmount") "amount")).or
    (stated ix "amount") = some t.amount
  payer : (stated ix "authority").or ((stated ix "owner").or (Json.stringValue (Json.optional before "owner"))) =
    some t.payer
  recipient : (Json.stringValue (Json.optional after "owner")).getD destination = t.recipient

/-- The instruction makes the transfer. -/
def Transfers (result ix : Json) (t : DevnetTransferEvidence) : Prop :=
  ∃ destination after before, MovesTokens result ix t destination after before

section Instructions

variable {result ix : Json} {t : DevnetTransferEvidence} {name : String}

theorem access_of_ne_null (there : ix ≠ .null) : ix.access name = some (Json.optional (some ix) name) := by
  cases ix with
  | null => exact absurd rfl there
  | _ => rfl

theorem truthy_of_optional {j : Option Json} (there : (Json.optional j name).isSome) : j.any Json.isTruthy = true := by
  cases j with
  | none => cases there
  | some j =>
      cases j with
      | obj fields => rfl
      | _ => cases there

theorem isTransfer_iff : isTransfer ix = true ↔
    foreign (Json.stringValue (Json.optional (some ix) "programId"))
      (Json.stringValue (Json.optional (some ix) "program")) = false ∧
    (Json.stringValue (Json.optional (Json.optional (some ix) "parsed") "type") = some "transfer" ∨
      Json.stringValue (Json.optional (Json.optional (some ix) "parsed") "type") = some "transferChecked") := by
  simp [isTransfer]

/-- What an instruction with a destination makes, given its balances. -/
def resolved (ix : Json) (destination : String) (after before : Option Json) : Option DevnetTransferEvidence := do
  let mint ← (stated ix "mint").or (Json.stringValue (Json.optional after "mint"))
  let amount ← (Json.stringValue (Json.optional (Json.optional (infoOf ix) "tokenAmount") "amount")).or
    (stated ix "amount")
  let payer ← (stated ix "authority").or ((stated ix "owner").or (Json.stringValue (Json.optional before "owner")))
  return { mint, amount, recipient := (Json.stringValue (Json.optional after "owner")).getD destination, payer }

/-- What an instruction with a destination makes. -/
def resolvedIn (result ix : Json) (destination : String) : Option (Option DevnetTransferEvidence) := do
  let after ← balanceAt (indexOf (accountKeys result) destination)
    (Json.itemsOf (Json.optional (Json.optional (some result) "meta") "postTokenBalances"))
  let before ← balanceAt (indexOf (accountKeys result) ((stated ix "source").getD ""))
    (Json.itemsOf (Json.optional (Json.optional (some result) "meta") "preTokenBalances"))
  return resolved ix destination after before

/-- What an instruction that is there makes. -/
theorem transferOf_eq (there : ix ≠ .null) : transferOf result ix =
    if isTransfer ix = true ∧ (infoOf ix).any Json.isTruthy = true then
      (stated ix "destination").elim (some none) (resolvedIn result ix)
    else some none := by
  unfold transferOf
  simp only [access_of_ne_null there, Option.bind_eq_bind, Option.bind_some]
  cases other : foreign (Json.stringValue (Json.optional (some ix) "programId"))
      (Json.stringValue (Json.optional (some ix) "program")) with
  | true => simp [isTransfer, other]
  | false =>
      simp only [Bool.false_eq_true, if_false]
      by_cases made : isTransfer ix = true ∧ (infoOf ix).any Json.isTruthy = true
      · have kind := (isTransfer_iff.mp made.1).2
        have informed := made.2
        rw [infoOf] at informed
        rw [if_pos made, if_neg (by rcases kind with kind | kind <;> simp [informed, kind])]
        unfold stated infoOf
        cases Json.stringValue (Json.optional (Json.optional (Json.optional (some ix) "parsed") "info") "destination") with
        | none => rfl
        | some destination =>
            simp only [Option.elim, resolvedIn, resolved, stated, infoOf, Option.bind_eq_bind, Option.orElse_eq_orElse,
              Option.orElse_eq_or]
            refine Option.bind_congr fun after _ => Option.bind_congr fun before _ => ?_
            split
            · next mint amount payer is is' is'' => simp [is, is', is'']
            · next unresolved =>
                refine congrArg some (Eq.symm (Option.bind_eq_none_iff.mpr fun mint is => ?_))
                refine Option.bind_eq_none_iff.mpr fun amount is' => ?_
                exact Option.bind_eq_none_iff.mpr fun payer is'' => absurd is'' (unresolved mint amount payer is is')
      · rw [if_neg made, if_pos]
        · rfl
        · simp only [isTransfer_iff, other, infoOf] at made
          simp at made ⊢
          tauto

theorem resolved_iff {destination : String} {after before : Option Json} :
    resolved ix destination after before = some t ↔
      (stated ix "mint").or (Json.stringValue (Json.optional after "mint")) = some t.mint ∧
      (Json.stringValue (Json.optional (Json.optional (infoOf ix) "tokenAmount") "amount")).or (stated ix "amount") =
        some t.amount ∧
      (stated ix "authority").or ((stated ix "owner").or (Json.stringValue (Json.optional before "owner"))) =
        some t.payer ∧
      (Json.stringValue (Json.optional after "owner")).getD destination = t.recipient := by
  obtain ⟨mint, amount, recipient, payer⟩ := t
  unfold resolved
  constructor
  · intro made
    obtain ⟨mint, of_mint, made⟩ := Option.bind_eq_some_iff.mp made
    obtain ⟨amount, of_amount, made⟩ := Option.bind_eq_some_iff.mp made
    obtain ⟨payer, of_payer, made⟩ := Option.bind_eq_some_iff.mp made
    cases made
    exact ⟨of_mint, of_amount, of_payer, rfl⟩
  · intro parts
    obtain ⟨of_mint, of_amount, of_payer, rfl⟩ := parts
    rw [of_mint, of_amount, of_payer]
    rfl

theorem transferOf_iff : transferOf result ix = some (some t) ↔ Transfers result ix t := by
  constructor
  · intro made
    have there : ix ≠ .null := by
      intro null
      subst null
      cases made
    rw [transferOf_eq there] at made
    split at made
    · next kind =>
        cases target : stated ix "destination" with
        | none =>
            rw [target] at made
            cases made
        | some destination =>
            rw [target] at made
            obtain ⟨after, post, made⟩ := Option.bind_eq_some_iff.mp made
            obtain ⟨before, pre, made⟩ := Option.bind_eq_some_iff.mp made
            obtain ⟨mint, amount, payer, recipient⟩ := resolved_iff.mp (Option.some.inj made)
            exact ⟨destination, after, before, kind.1, target, post, pre, mint, amount, payer, recipient⟩
    · cases made
  · intro transfers
    obtain ⟨destination, after, before, moves⟩ := transfers
    have there : ix ≠ .null := by
      intro null
      subst null
      exact absurd moves.transfer (by decide)
    have informed : (infoOf ix).any Json.isTruthy = true := by
      refine truthy_of_optional (show (Json.optional (infoOf ix) "destination").isSome = true from ?_)
      have target := moves.target
      unfold stated at target
      cases at_ : Json.optional (infoOf ix) "destination" with
      | none =>
          rw [at_] at target
          cases target
      | some j => rfl
    rw [transferOf_eq there, if_pos ⟨moves.transfer, informed⟩, moves.target]
    simp only [Option.elim, resolvedIn, moves.post, moves.pre, Option.bind_eq_bind, Option.bind_some,
      resolved_iff.mpr ⟨moves.mint, moves.amount, moves.payer, moves.recipient⟩]
    rfl

end Instructions

/-! ### Counting -/

section Counting

variable {α β : Type}

theorem mapM_join {f : α → Option (Option β)} {l : List α} (all : ∀ a ∈ l, (f a).isSome = true) :
    l.mapM f = some (l.map fun a => (f a).join) := by
  induction l with
  | nil => rfl
  | cons a rest ih =>
      obtain ⟨b, here⟩ := Option.isSome_iff_exists.mp (all a List.mem_cons_self)
      rw [List.mapM_cons, here, ih fun a mem => all a (List.mem_cons_of_mem _ mem)]
      simp [here]

theorem isSome_of_mapM {f : α → Option β} {l : List α} {bs : List β} (read : l.mapM f = some bs) {a : α}
    (mem : a ∈ l) : (f a).isSome = true := by
  induction l generalizing bs with
  | nil => cases mem
  | cons b rest ih =>
      rw [List.mapM_cons] at read
      obtain ⟨c, head, read⟩ := Option.bind_eq_some_iff.mp read
      obtain ⟨cs, tail, -⟩ := Option.bind_eq_some_iff.mp read
      rcases List.mem_cons.mp mem with rfl | mem
      · rw [head]
        rfl
      · exact ih tail mem

theorem filterMap_eq_singleton {f : α → Option β} {l : List α} {b : β} :
    l.filterMap f = [b] ↔ ∃ a, l.filter (fun a => (f a).isSome) = [a] ∧ f a = some b := by
  induction l with
  | nil => simp
  | cons a rest ih =>
      cases here : f a with
      | none => simpa [here] using ih
      | some c =>
          have empty : rest.filterMap f = [] ↔ rest.filter (fun a => (f a).isSome) = [] := by
            simp [List.filterMap_eq_nil_iff, List.filter_eq_nil_iff]
          rw [List.filterMap_cons_some here, List.filter_cons_of_pos (by simp [here]), List.cons.injEq, empty]
          constructor
          · intro single
            obtain ⟨rfl, none_⟩ := single
            exact ⟨a, by rw [none_], here⟩
          · intro single
            obtain ⟨a', single, is⟩ := single
            obtain ⟨rfl, none_⟩ := List.cons.inj single
            exact ⟨Option.some.inj (here.symm.trans is), none_⟩

end Counting

def ExpectedTransfer.evidence (expected : ExpectedTransfer) : DevnetTransferEvidence :=
  ⟨expected.asset, expected.amount, expected.payee, expected.payer⟩

/-- The instruction makes a transfer that can be resolved. -/
def resolves (result ix : Json) : Bool := (transferOf result ix).join.isSome

/-- The transaction succeeded, and of its instructions exactly one is a transfer: the expected one. -/
structure OneTransfer (result : Json) (expected : ExpectedTransfer) : Prop where
  succeeded : Json.optional (Json.optional (some result) "meta") "err" = some .null
  one : ∃ ix, (allInstructions result).filter isTransfer = [ix] ∧ Transfers result ix expected.evidence

/-- The transaction can be read and succeeded, and of its instructions exactly one can be resolved as a transfer:
the expected one. -/
structure Passes (result : Json) (memo : String) (expected : ExpectedTransfer) : Prop where
  searched : ((allInstructions result).anyM (isMemo memo)).isSome = true
  read : ∀ ix ∈ allInstructions result, (transferOf result ix).isSome = true
  succeeded : Json.optional (Json.optional (some result) "meta") "err" = some .null
  one : ∃ ix, (allInstructions result).filter (resolves result) = [ix] ∧ Transfers result ix expected.evidence

section Verified

variable {answer : Option Json} {result ix : Json} {memo : String} {expected : ExpectedTransfer}

theorem resolves_iff : resolves result ix = true ↔ ∃ t, Transfers result ix t := by
  rw [resolves, Option.isSome_iff_exists]
  constructor
  · intro some_
    obtain ⟨t, is⟩ := some_
    exact ⟨t, transferOf_iff.mp (Option.join_eq_some_iff.mp is)⟩
  · intro transfers
    obtain ⟨t, transfers⟩ := transfers
    exact ⟨t, Option.join_eq_some_iff.mpr (transferOf_iff.mpr transfers)⟩

theorem isTransfer_of_resolves (made : resolves result ix = true) : isTransfer ix = true := by
  obtain ⟨t, destination, after, before, moves⟩ := resolves_iff.mp made
  exact moves.transfer

theorem not_failed_iff {meta_ : Option Json} : failed meta_ = false ↔ Json.optional meta_ "err" = some .null := by
  cases meta_ with
  | none => simp [failed, Json.optional]
  | some j => cases j <;> simp [failed, Json.optional, Json.access]

theorem parsedTransfers_iff {t : DevnetTransferEvidence} : parsedTransfers result = some [t] ↔
    (∀ ix ∈ allInstructions result, (transferOf result ix).isSome = true) ∧
      ∃ ix, (allInstructions result).filter (resolves result) = [ix] ∧ Transfers result ix t := by
  have one : (∃ ix, (allInstructions result).filter (resolves result) = [ix] ∧ Transfers result ix t) ↔
      (allInstructions result).filterMap (fun ix => (transferOf result ix).join) = [t] := by
    rw [filterMap_eq_singleton]
    simp only [Option.join_eq_some_iff, transferOf_iff]
    rfl
  rw [one]
  unfold parsedTransfers
  constructor
  · intro read
    obtain ⟨transfers, all, counted⟩ := Option.bind_eq_some_iff.mp read
    have each := fun ix => isSome_of_mapM all (a := ix)
    rw [mapM_join each] at all
    cases all
    refine ⟨each, ?_⟩
    simpa [List.filterMap_map] using Option.some.inj counted
  · intro read
    obtain ⟨each, counted⟩ := read
    rw [mapM_join each]
    simpa [List.filterMap_map] using counted

/-- The transactions that are verified. -/
theorem verified_iff : (inspect answer memo expected).transferVerification = .verified ↔
    ∃ result, resultOf answer = some result ∧ Passes result memo expected := by
  constructor
  · intro verified
    unfold inspect at verified
    cases read : (resultOf answer).bind fun result => inspectResult result memo expected with
    | none =>
        rw [read] at verified
        cases verified
    | some i =>
        rw [read] at verified
        obtain ⟨result, there, inspected⟩ := Option.bind_eq_some_iff.mp read
        obtain ⟨found, searched, -, -, counted⟩ := inspectResult_some inspected
        obtain ⟨succeeded, parsed⟩ := counted verified
        obtain ⟨each, one⟩ := parsedTransfers_iff.mp parsed
        exact ⟨result, there, by rw [searched]; rfl, each, not_failed_iff.mp succeeded, one⟩
  · intro passed
    obtain ⟨result, there, passes⟩ := passed
    obtain ⟨found, searched⟩ := Option.isSome_iff_exists.mp passes.searched
    have parsed := parsedTransfers_iff.mpr ⟨passes.read, passes.one⟩
    have matching : [expected.evidence].filter (·.matches_ expected) = [expected.evidence] := by
      simp [DevnetTransferEvidence.matches_, ExpectedTransfer.evidence]
    unfold inspect
    rw [there, Option.bind_some]
    unfold inspectResult
    rw [searched, not_failed_iff.mpr passes.succeeded, parsed]
    simp only [Option.bind_eq_bind, Option.bind_some, Bool.false_eq_true, if_false, matching]
    rfl

/-- A verified transaction makes no other transfer, if and only if all of its transfers can be resolved. -/
theorem one_transfer_iff :
    ((inspect answer memo expected).transferVerification = .verified →
      ∃ result, resultOf answer = some result ∧ OneTransfer result expected) ↔
    ∀ result, resultOf answer = some result → Passes result memo expected →
      ∀ ix ∈ allInstructions result, isTransfer ix = true → resolves result ix = true := by
  rw [verified_iff]
  constructor
  · intro one result there passes ix mem transfer
    obtain ⟨result', there', single⟩ := one ⟨result, there, passes⟩
    obtain rfl := Option.some.inj (there.symm.trans there')
    obtain ⟨ix', only, transfers⟩ := single.one
    have same : ix ∈ (allInstructions result).filter isTransfer := List.mem_filter.mpr ⟨mem, transfer⟩
    rw [only, List.mem_singleton] at same
    exact resolves_iff.mpr ⟨_, same ▸ transfers⟩
  · intro all verified
    obtain ⟨result, there, passes⟩ := verified
    obtain ⟨ix, only, transfers⟩ := passes.one
    refine ⟨result, there, passes.succeeded, ix, ?_, transfers⟩
    rw [← only]
    refine List.filter_congr fun ix mem => Bool.eq_iff_iff.mpr ?_
    exact ⟨all result there passes ix mem, isTransfer_of_resolves⟩

/-- A transfer of tokens between the two accounts, with what it states besides them. -/
def tokenTransfer (type source destination : String) (more : List (String × Json)) : Json :=
  .obj [("program", .str "spl-token"), ("programId", .str "TokenkegQfeZyiNwAJbNbGKPFXCWuBvf9Ss623VQ5DA"),
    ("parsed", .obj [("type", .str type),
      ("info", .obj ([("source", .str source), ("destination", .str destination)] ++ more))])]

/-- A transaction that makes the two transfers and leaves the memo. -/
def transferring (transfers : List Json) : Json :=
  .obj [("slot", .num 7), ("meta", .obj [("err", .null)]), ("transaction", .obj [("message", .obj [("instructions",
    .arr (.obj [("program", .str "spl-memo"), ("programId", .str memoProgramId), ("parsed", .str "memo")]
      :: transfers))])])]

/-- The expected transfer, checked. -/
def checkedTransfer : Json :=
  tokenTransfer "transferChecked" "source" "payee" [("mint", .str "usdc"), ("authority", .str "payer"),
    ("tokenAmount", .obj [("amount", .str "10000")])]

/-- A transfer to an account that has no balance afterwards. -/
def uncheckedTransfer : Json :=
  tokenTransfer "transfer" "source" "closed" [("authority", .str "payer"), ("amount", .str "990000")]

/-- A transfer whose mint is not found is not counted. -/
theorem one_transfer_false : ¬ ∀ (answer : Option Json) (memo : String) (expected : ExpectedTransfer),
    (inspect answer memo expected).transferVerification = .verified →
      ∃ result, resultOf answer = some result ∧ OneTransfer result expected := by
  intro all
  obtain ⟨result, there, single⟩ := all
    (some (.obj [("result", transferring [checkedTransfer, uncheckedTransfer])])) "memo"
    ⟨"usdc", "10000", "payee", "payer"⟩ (by decide +kernel)
  cases there
  obtain ⟨ix, only, -⟩ := single.one
  have two : ((allInstructions (transferring [checkedTransfer, uncheckedTransfer])).filter isTransfer).length = 2 := by
    decide +kernel
  rw [only] at two
  cases two

end Verified

end AgentReady.Settlement
