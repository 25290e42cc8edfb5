import AgentReady.Machine.Demo
import AgentReady.Settlement.Terms
import AgentReady.Lib.Decimal
import Mathlib.Data.List.Induction

/-!
The mock paid resource as its callers reach it: `accept` of `DemoMachineResource`
(`apps/web/lib/machine.ts`) over payloads that are JSON of any shape.

A payload comes from the payer. Its amount is compared through `Number()`, its payee only where
there is one, and its payment identifier is the key of a `Map`, whatever its type. The reading
of the header is left out.

* `accept_cases`: what one call does.
* `paidOnce_iff`: the runs in which the resource is served for a payment, and once for each.
* `runMachineSpend_mirrored`: on the agent's own payments it is the resource of `AgentReady.Machine.Demo`.
-/

namespace AgentReady.Untrusted

open AgentReady.Settlement

/-! ### `Number()` -/

/-- `2 ^ e`. -/
def power (e : Int) : ℚ := if 0 ≤ e then 2 ^ e.toNat else 1 / 2 ^ (-e).toNat

/-- The exponent of the greatest power of two that is not above a positive number. -/
def log2 (q : ℚ) : Int :=
  let e : Int := (q.num.natAbs.log2 : Int) - q.den.log2
  if power e ≤ q then e else e - 1

/-- The nearest integer, halves to the even one. -/
def halfEven (q : ℚ) : Int :=
  let rest := q - ⌊q⌋
  if rest < 1 / 2 then ⌊q⌋
  else if 1 / 2 < rest then ⌊q⌋ + 1
  else if ⌊q⌋ % 2 = 0 then ⌊q⌋ else ⌊q⌋ + 1

/-- The double nearest to a number. -/
def double (q : ℚ) : Json.Number :=
  if q = 0 then .finite 0
  else
    let quantum := power (max (log2 |q| - 52) (-1074))
    let nearest := halfEven (q / quantum) * quantum
    if 2 ^ 1024 ≤ |nearest| then .infinite (0 < q) else .finite nearest

/-- The exponent that follows the digits of a literal. -/
def exponent? : List Char → Option Int
  | [] => some 0
  | _ :: '-' :: rest => (digits 10 rest).map fun n => -(n : Int)
  | _ :: '+' :: rest => (digits 10 rest).map Int.ofNat
  | _ :: rest => (digits 10 rest).map Int.ofNat

/-- A decimal literal without a sign. -/
def decimal? (text : List Char) : Option ℚ :=
  let mantissa := text.takeWhile fun c => c ≠ 'e' && c ≠ 'E'
  let fraction := (mantissa.dropWhile (· ≠ '.')).tail
  do
    let n ← digits 10 (mantissa.takeWhile (· ≠ '.') ++ fraction)
    let e ← exponent? (text.drop mantissa.length)
    return n / 10 ^ fraction.length * (if 0 ≤ e then 10 ^ e.toNat else 1 / 10 ^ (-e).toNat)

def unsigned? (text : List Char) : Option Json.Number :=
  if text = "Infinity".toList then some (.infinite true) else (decimal? text).map double

/-- The double of a decoded number, which stands for the shortest decimal of it. -/
def rounded : Json.Number → Json.Number
  | .finite q => double q
  | .infinite positive => .infinite positive

def negated : Json.Number → Json.Number
  | .finite q => .finite (-q)
  | .infinite positive => .infinite (!positive)

/-- `StringToNumber`; `none` is NaN. -/
def stringToNumber (text : String) : Option Json.Number :=
  match trimmed text with
  | [] => some 0
  | '0' :: 'x' :: rest | '0' :: 'X' :: rest => (digits 16 rest).map fun n => double n
  | '0' :: 'o' :: rest | '0' :: 'O' :: rest => (digits 8 rest).map fun n => double n
  | '0' :: 'b' :: rest | '0' :: 'B' :: rest => (digits 2 rest).map fun n => double n
  | '-' :: rest => (unsigned? rest).map negated
  | '+' :: rest => unsigned? rest
  | text => unsigned? text

/-- `Number(value)`, of a value that may be undefined. -/
def toNumber : Option Json → Except String (Option Json.Number)
  | none => .ok none
  | some .null => .ok (some 0)
  | some (.bool b) => .ok (some (if b then 1 else 0))
  | some (.num n) => .ok (some (rounded n))
  | some value => (primitive value).map stringToNumber

/-! ### The resource -/

/-- A decoded payment, with what the route adds to it. -/
structure Call where
  payload : Json
  envelopeHash : String
  now : String

namespace Call

def field (call : Call) (name : String) : Option Json := Json.optional (some call.payload) name

def paymentIdentifier (call : Call) : Option Json := call.field "paymentIdentifier"

/-- `payload.paymentPayload?.name`. -/
def paymentPayload (call : Call) (name : String) : Option Json :=
  Json.optional (call.field "paymentPayload") name

end Call

structure SettlementResponse where
  success : Bool
  network : String
  payer : Option Json
  amount : Option Json
  transactionHash : String
  paymentIdentifier : Option Json
  memo : Option Json
deriving DecidableEq

/-- A key of a `Map`. An object or array is found by its identity alone, and each payload is decoded to
objects of its own: the key names the payload. -/
inductive MapKey where
  | undefined
  | null
  | bool (b : Bool)
  | num (n : Json.Number)
  | str (s : String)
  | object (payload : Nat)
deriving DecidableEq

def mapKey (payload : Nat) : Option Json → MapKey
  | none => .undefined
  | some .null => .null
  | some (.bool b) => .bool b
  | some (.num n) => .num n
  | some (.str s) => .str s
  | some (.arr _) | some (.obj _) => .object payload

structure DemoMachineResource where
  processed : OrderedMap MapKey SettlementResponse := ∅
  cachedResource : OrderedMap MapKey FitScoreResource := ∅
  /-- How many payloads have been decoded. -/
  decoded : Nat := 0

/-- What `accept` answers a decoded payment: a status of 200 with the settlement, or of 402. -/
inductive Answer where
  | accepted (resource : Option FitScoreResource) (note : Option String) (settlement : SettlementResponse)
  | rejected (detail : String)

def replayNote : String := "replay: cached result returned, no second charge"

namespace DemoMachineResource

def price (config : MachineSpendConfig) : Json.Number := double (config.amountMinor / 1000000)

def paymentErrors (config : MachineSpendConfig) (call : Call) : Except String (List String) := do
  let must (condition : Bool) (text : String) := if condition then [] else [text]
  if call.payload = .null then throw "Cannot read properties of null (reading 'scheme')"
  let network ← unlessText (call.field "network") config.network fun got => "wrong network " ++ got
  let amount ← toNumber (call.paymentPayload "amount")
  return must ((call.field "scheme").any (Json.isText "exact")) "scheme must be exact" ++
    network ++
    must (call.paymentIdentifier.any Json.isTruthy) "payment-identifier required" ++
    must (!amount.any (·.lt (price config))) "underpayment" ++
    must ((call.paymentPayload "payee").all fun p => !p.isTruthy || p.isText config.payeeWallet)
      "wrong recipient" ++
    must ((call.paymentPayload "memo").any (Json.isText (memoForEnvelope call.envelopeHash)))
      "memo mismatch"

def score (config : MachineSpendConfig) (payer : Option Json) (scoredAt : String) : FitScoreResource :=
  { AgentReady.DemoMachineResource.score config config.agentWallet scoredAt with
    fit := if payer.any (Json.isText config.agentWallet) then "wide" else "unknown" }

/-- The settlement of a payment whose identifier has the text. -/
def settle (config : MachineSpendConfig) (call : Call) (identifier : String) : SettlementResponse where
  success := true
  network := config.network
  payer := call.paymentPayload "payer"
  amount := call.paymentPayload "amount"
  transactionHash := "tx_mock_" ++ identifier
  paymentIdentifier := call.paymentIdentifier
  memo := call.paymentPayload "memo"

/-- `accept`: the answer, or what it throws. -/
def accept (config : MachineSpendConfig) (r : DemoMachineResource) (call : Call) :
    Except String Answer × DemoMachineResource :=
  let next := { r with decoded := r.decoded + 1 }
  let key := mapKey r.decoded call.paymentIdentifier
  match paymentErrors config call with
  | .error thrown => (.error thrown, next)
  | .ok (first :: rest) => (.ok (.rejected (joinWith "; " (first :: rest))), next)
  | .ok [] =>
      match r.processed.get? key with
      | some settlement => (.ok (.accepted (r.cachedResource.get? key) (some replayNote) settlement), next)
      | none =>
          match shown call.paymentIdentifier with
          | .error thrown => (.error thrown, next)
          | .ok identifier =>
              let settlement := settle config call identifier
              let resource := score config (call.paymentPayload "payer") call.now
              (.ok (.accepted (some resource) none settlement),
                { next with
                  processed := r.processed.set key settlement
                  cachedResource := r.cachedResource.set key resource })

/-! ### One call -/

/-- The checks that `accept` makes. -/
structure Passes (config : MachineSpendConfig) (call : Call) : Prop where
  scheme : call.field "scheme" = some (.str "exact")
  network : call.field "network" = some (.str config.network)
  identified : call.paymentIdentifier.any Json.isTruthy = true
  amount : ∃ n, toNumber (call.paymentPayload "amount") = .ok n ∧ n.any (·.lt (price config)) = false
  payee : ∀ p, call.paymentPayload "payee" = some p → p.isTruthy = true → p = .str config.payeeWallet
  memo : call.paymentPayload "memo" = some (.str (memoForEnvelope call.envelopeHash))

variable {config : MachineSpendConfig} {r : DemoMachineResource} {call : Call}

theorem not_null (given : call.field name = some value) : call.payload ≠ .null := by
  intro null
  simp [Call.field, Json.optional, Json.access, null] at given

theorem must_nil {condition : Prop} [Decidable condition] {text : String} :
    (if condition then [] else [text]) = ([] : List String) ↔ condition := by
  split <;> simp_all

theorem payee_allowed {payee : Option Json} {wallet : String} :
    (payee.all fun p => !p.isTruthy || p.isText wallet) = true ↔
      ∀ p, payee = some p → p.isTruthy = true → p = .str wallet := by
  cases payee with
  | none => simp
  | some p =>
      have same := @any_isText (some p) wallet
      simp only [Option.any_some, Option.some.injEq] at same
      simp only [Option.all_some, Bool.or_eq_true, Bool.not_eq_true', same, Option.some.injEq]
      constructor
      · rintro (falsy | is) _ rfl truthy
        · simp [truthy] at falsy
        · exact is
      · intro allowed
        cases truthy : p.isTruthy with
        | false => exact .inl rfl
        | true => exact .inr (allowed p rfl truthy)

theorem paymentErrors_nil : paymentErrors config call = .ok [] ↔ Passes config call := by
  unfold paymentErrors
  by_cases null : call.payload = .null
  · simp only [null, if_true]
    constructor
    · intro thrown
      cases thrown
    · intro passes
      exact absurd null (not_null passes.scheme)
  have networkNil := @unlessText_nil (call.field "network") config.network fun got => "wrong network " ++ got
  simp only [if_neg null]
  cases shownNetwork : unlessText (call.field "network") config.network fun got => "wrong network " ++ got with
  | error thrown =>
      rw [shownNetwork] at networkNil
      constructor
      · intro clean
        cases clean
      · intro passes
        exact absurd (networkNil.mpr passes.network) (by simp)
  | ok network =>
      rw [shownNetwork, Except.ok.injEq] at networkNil
      cases number : toNumber (call.paymentPayload "amount") with
      | error thrown =>
          constructor
          · intro clean
            cases clean
          · intro passes
            obtain ⟨n, read, -⟩ := passes.amount
            rw [number] at read
            cases read
      | ok n =>
          simp only [pure, Except.pure, bind, Except.bind, Except.ok.injEq, List.append_eq_nil_iff, must_nil,
            networkNil, any_isText, payee_allowed, Bool.not_eq_true']
          constructor
          · rintro ⟨⟨⟨⟨⟨scheme, network⟩, identified⟩, amount⟩, payee⟩, memo⟩
            exact ⟨scheme, network, identified, ⟨n, number, amount⟩, payee, memo⟩
          · intro passes
            obtain ⟨m, read, amount⟩ := passes.amount
            rw [number] at read
            obtain rfl := Except.ok.inj read
            exact ⟨⟨⟨⟨⟨passes.scheme, passes.network⟩, passes.identified⟩, amount⟩, passes.payee⟩, passes.memo⟩

/-- The settlement of an answer with a status of 200. -/
def settlement? : Except String Answer → Option SettlementResponse
  | .ok (.accepted _ _ settlement) => some settlement
  | _ => none

/-- What a call does: it is refused, it is answered from the settlement of its key, or it settles. -/
inductive Outcome (config : MachineSpendConfig) (r : DemoMachineResource) (call : Call) :
    Option SettlementResponse → DemoMachineResource → Prop where
  | refused (next : DemoMachineResource) (same : next.processed = r.processed) : Outcome config r call none next
  | replayed (passes : Passes config call) (next : DemoMachineResource) (settlement : SettlementResponse)
      (found : r.processed.get? (mapKey r.decoded call.paymentIdentifier) = some settlement)
      (same : next.processed = r.processed) : Outcome config r call (some settlement) next
  | settled (passes : Passes config call) (next : DemoMachineResource) (identifier : String)
      (absent : r.processed.get? (mapKey r.decoded call.paymentIdentifier) = none)
      (text : shown call.paymentIdentifier = .ok identifier)
      (stored : next.processed =
        r.processed.set (mapKey r.decoded call.paymentIdentifier) (settle config call identifier)) :
      Outcome config r call (some (settle config call identifier)) next

theorem accept_cases (config : MachineSpendConfig) (r : DemoMachineResource) (call : Call) :
    Outcome config r call (settlement? (accept config r call).1) (accept config r call).2 := by
  unfold accept
  dsimp only
  cases errors : paymentErrors config call with
  | error thrown => exact .refused _ rfl
  | ok errors' =>
      cases errors' with
      | cons first rest => exact .refused _ rfl
      | nil =>
          have passes := paymentErrors_nil.mp errors
          cases found : r.processed.get? (mapKey r.decoded call.paymentIdentifier) with
          | some settlement => exact .replayed passes _ settlement found rfl
          | none =>
              cases text : shown call.paymentIdentifier with
              | error thrown => exact .refused _ rfl
              | ok identifier => exact .settled passes _ identifier found text rfl

theorem accept_settles {identifier : String} (passes : Passes config call)
    (absent : r.processed.get? (mapKey r.decoded call.paymentIdentifier) = none)
    (text : shown call.paymentIdentifier = .ok identifier) :
    settlement? (accept config r call).1 = some (settle config call identifier) ∧
      (accept config r call).2.processed =
        r.processed.set (mapKey r.decoded call.paymentIdentifier) (settle config call identifier) := by
  unfold accept
  simp only [paymentErrors_nil.mpr passes, absent, text, settlement?, and_self]

@[simp] theorem accept_decoded : (accept config r call).2.decoded = r.decoded + 1 := by
  unfold accept
  dsimp only
  cases paymentErrors config call with
  | error thrown => rfl
  | ok errors =>
      cases errors with
      | cons first rest => rfl
      | nil =>
          cases r.processed.get? (mapKey r.decoded call.paymentIdentifier) with
          | some settlement => rfl
          | none => cases shown call.paymentIdentifier <;> rfl

/-! ### Runs -/

/-- The resource after calls. -/
def reached (config : MachineSpendConfig) (calls : List Call) : DemoMachineResource :=
  calls.foldl (fun r call => (accept config r call).2) {}

/-- The settlement that a call after others is answered with, where it is accepted. -/
def answered (config : MachineSpendConfig) (before : List Call) (call : Call) : Option SettlementResponse :=
  settlement? (accept config (reached config before) call).1

/-- No call so far was accepted under the call's payment identifier. -/
def Fresh (config : MachineSpendConfig) (before : List Call) (call : Call) : Prop :=
  ∀ earlier first after, before = earlier ++ first :: after → (answered config earlier first).isSome = true →
    first.paymentIdentifier ≠ call.paymentIdentifier

/-- The price is paid, in the scheme and on the network of the resource, to its wallet, for the envelope. -/
structure Paid (config : MachineSpendConfig) (call : Call) : Prop where
  scheme : call.field "scheme" = some (.str "exact")
  network : call.field "network" = some (.str config.network)
  amount : ∃ n, toNumber (call.paymentPayload "amount") = .ok (some n) ∧ n.lt (price config) = false
  payee : call.paymentPayload "payee" = some (.str config.payeeWallet)
  memo : call.paymentPayload "memo" = some (.str (memoForEnvelope call.envelopeHash))

/-- In a run, the resource is served for a payment, and an identifier is charged once. -/
structure PaidOnce (config : MachineSpendConfig) (calls : List Call) : Prop where
  paid : ∀ before call after, calls = before ++ call :: after → Fresh config before call →
    (answered config before call).isSome = true → Paid config call
  once : ∀ before first between again after settlement settlement',
    calls = before ++ first :: (between ++ again :: after) → Fresh config before first →
    answered config before first = some settlement →
    again.paymentIdentifier = first.paymentIdentifier →
    answered config (before ++ first :: between) again = some settlement' →
    settlement' = settlement ∧
      (reached config (before ++ first :: between ++ [again])).processed =
        (reached config (before ++ first :: between)).processed

/-- The amount is a number, and the payee is given. -/
def Explicit (config : MachineSpendConfig) (call : Call) : Prop :=
  toNumber (call.paymentPayload "amount") ≠ .ok none ∧
    ∃ payee, call.paymentPayload "payee" = some payee ∧
      (payee.isTruthy = true ∨ payee = .str config.payeeWallet)

/-- A call that is about to settle has an explicit amount and payee, and no settlement has its identifier. -/
def Settles (config : MachineSpendConfig) (r : DemoMachineResource) (call : Call) : Prop :=
  Passes config call → r.processed.get? (mapKey r.decoded call.paymentIdentifier) = none →
    (∃ identifier, shown call.paymentIdentifier = .ok identifier) →
    Explicit config call ∧
      ∀ key settlement, r.processed.get? key = some settlement →
        settlement.paymentIdentifier ≠ call.paymentIdentifier

theorem paid_iff (passes : Passes config call) : Paid config call ↔ Explicit config call := by
  obtain ⟨n, read, covers⟩ := passes.amount
  constructor
  · intro paid
    obtain ⟨m, read', -⟩ := paid.amount
    refine ⟨?_, _, paid.payee, .inr rfl⟩
    rw [read']
    simp
  · rintro ⟨number, payee, given, named⟩
    have is : payee = .str config.payeeWallet := by
      rcases named with truthy | is
      · exact passes.payee payee given truthy
      · exact is
    cases n with
    | none => exact absurd read number
    | some n => exact ⟨passes.scheme, passes.network, ⟨n, read, covers⟩, is ▸ given, passes.memo⟩

@[simp] theorem reached_snoc (config : MachineSpendConfig) (before : List Call) (call : Call) :
    reached config (before ++ [call]) = (accept config (reached config before) call).2 := by
  simp [reached]

/-- What is stored stays. -/
theorem get?_accept {key : MapKey} {settlement : SettlementResponse}
    (stored : r.processed.get? key = some settlement) :
    (accept config r call).2.processed.get? key = some settlement := by
  have outcome := accept_cases config r call
  generalize settlement? (accept config r call).1 = answer, (accept config r call).2 = next at outcome ⊢
  cases outcome with
  | refused _ same => rw [same, stored]
  | replayed passes _ settlement' found same => rw [same, stored]
  | settled passes _ identifier absent text put =>
      rw [put, OrderedMap.get?_set_of_ne _ _, stored]
      rintro rfl
      rw [stored] at absent
      cases absent

theorem get?_reached {key : MapKey} {settlement : SettlementResponse} {before : List Call} (after : List Call)
    (stored : (reached config before).processed.get? key = some settlement) :
    (reached config (before ++ after)).processed.get? key = some settlement := by
  induction after using List.reverseRecOn with
  | nil => simpa using stored
  | append_singleton after call ih =>
      rw [← List.append_assoc, reached_snoc]
      exact get?_accept ih

/-- Every settlement has the key of its identifier, in a payload that was decoded. -/
def Keyed (r : DemoMachineResource) : Prop :=
  ∀ key settlement, r.processed.get? key = some settlement →
    ∃ payload < r.decoded, key = mapKey payload settlement.paymentIdentifier

theorem Keyed.accept (keyed : Keyed r) : Keyed (accept config r call).2 := by
  have outcome := accept_cases config r call
  have decoded : (DemoMachineResource.accept config r call).2.decoded = r.decoded + 1 := accept_decoded
  generalize settlement? (DemoMachineResource.accept config r call).1 = answer,
    (DemoMachineResource.accept config r call).2 = next at outcome decoded ⊢
  intro key settlement stored
  have old (was : r.processed.get? key = some settlement) :
      ∃ payload < next.decoded, key = mapKey payload settlement.paymentIdentifier := by
    obtain ⟨payload, earlier, is⟩ := keyed key settlement was
    exact ⟨payload, by omega, is⟩
  cases outcome with
  | refused _ same =>
      rw [same] at stored
      exact old stored
  | replayed passes _ settlement' found same =>
      rw [same] at stored
      exact old stored
  | settled passes _ identifier absent text put =>
      rw [put, OrderedMap.get?_set] at stored
      split at stored
      · rename_i here
        obtain rfl := Option.some.inj stored
        exact ⟨r.decoded, by omega, here⟩
      · exact old stored

theorem keyed_reached (config : MachineSpendConfig) (calls : List Call) : Keyed (reached config calls) := by
  induction calls using List.reverseRecOn with
  | nil =>
      intro key settlement stored
      cases stored
  | append_singleton calls call ih =>
      rw [reached_snoc]
      exact ih.accept

/-- Two payloads share a key only where their identifiers are no objects, and the same. -/
theorem mapKey_inj {m n : Nat} {a b : Option Json} (same : mapKey m a = mapKey n b) (apart : n < m) :
    a = b ∧ ∀ l, mapKey l a = mapKey m a := by
  rcases a with _ | ⟨_ | _ | _ | _ | _ | _⟩ <;> rcases b with _ | ⟨_ | _ | _ | _ | _ | _⟩ <;>
    simp only [mapKey, reduceCtorEq, MapKey.bool.injEq, MapKey.num.injEq, MapKey.str.injEq,
      MapKey.object.injEq] at same <;>
    simp [mapKey, *] <;> omega

/-- A settlement is found under the key of a call only where the call has its identifier. -/
theorem Keyed.found (keyed : Keyed r) {settlement : SettlementResponse}
    (found : r.processed.get? (mapKey r.decoded call.paymentIdentifier) = some settlement) :
    call.paymentIdentifier = settlement.paymentIdentifier ∧
      ∀ l, mapKey l call.paymentIdentifier = mapKey r.decoded call.paymentIdentifier := by
  obtain ⟨payload, earlier, same⟩ := keyed _ _ found
  exact mapKey_inj same earlier

/-- An accepted call leaves its settlement stored, under its identifier. -/
theorem stored_of_answered {before : List Call} {settlement : SettlementResponse} (after : List Call)
    (accepted : answered config before call = some settlement) :
    settlement.paymentIdentifier = call.paymentIdentifier ∧
      ∃ key, (reached config (before ++ call :: after)).processed.get? key = some settlement := by
  have here : settlement.paymentIdentifier = call.paymentIdentifier ∧
      ∃ key, (reached config (before ++ [call])).processed.get? key = some settlement := by
    have outcome := accept_cases config (reached config before) call
    rw [reached_snoc]
    unfold answered at accepted
    rw [accepted] at outcome
    generalize (accept config (reached config before) call).2 = next at outcome ⊢
    cases outcome with
    | replayed passes _ _ found same =>
        refine ⟨((keyed_reached config before).found found).1.symm,
          mapKey (reached config before).decoded call.paymentIdentifier, ?_⟩
        rw [same]
        exact found
    | settled passes _ identifier absent text put =>
        refine ⟨rfl, mapKey (reached config before).decoded call.paymentIdentifier, ?_⟩
        rw [put, OrderedMap.get?_set_self]
  obtain ⟨named, key, stored⟩ := here
  refine ⟨named, key, ?_⟩
  rw [List.append_cons]
  exact get?_reached after stored

/-- A stored settlement is the answer of a call that was accepted. -/
theorem answered_of_stored {calls : List Call} {key : MapKey} {settlement : SettlementResponse}
    (stored : (reached config calls).processed.get? key = some settlement) :
    ∃ before call after, calls = before ++ call :: after ∧ answered config before call = some settlement := by
  induction calls using List.reverseRecOn with
  | nil => cases stored
  | append_singleton calls call ih =>
      have old (was : (reached config calls).processed.get? key = some settlement) :
          ∃ before call' after, calls ++ [call] = before ++ call' :: after ∧
            answered config before call' = some settlement := by
        obtain ⟨before, call', after, rfl, accepted⟩ := ih was
        exact ⟨before, call', after ++ [call], by simp, accepted⟩
      rw [reached_snoc] at stored
      cases accepted : answered config calls call with
      | none =>
          have outcome := accept_cases config (reached config calls) call
          unfold answered at accepted
          rw [accepted] at outcome
          generalize (accept config (reached config calls) call).2 = next at outcome stored
          cases outcome with
          | refused _ same =>
              rw [same] at stored
              exact old stored
      | some answer =>
          have outcome := accept_cases config (reached config calls) call
          have accepted' := accepted
          unfold answered at accepted'
          rw [accepted'] at outcome
          generalize (accept config (reached config calls) call).2 = next at outcome stored
          cases outcome with
          | replayed passes _ _ found same =>
              rw [same] at stored
              exact old stored
          | settled passes _ identifier absent text put =>
              rw [put, OrderedMap.get?_set] at stored
              split at stored
              · obtain rfl := Option.some.inj stored
                exact ⟨calls, call, [], rfl, accepted⟩
              · exact old stored

/-- Of the calls that were accepted under an identifier, one was the first. -/
theorem exists_first {id : Option Json} : ∀ {n : Nat} {calls earlier after : List Call} {call : Call},
    earlier.length ≤ n → calls = earlier ++ call :: after → (answered config earlier call).isSome = true →
    call.paymentIdentifier = id →
    ∃ before first between, calls = before ++ first :: between ∧ Fresh config before first ∧
      (answered config before first).isSome = true ∧ first.paymentIdentifier = id
  | n, calls, earlier, after, call, short, split, accepted, named => by
      by_cases fresh : Fresh config earlier call
      · exact ⟨earlier, call, after, split, fresh, accepted, named⟩
      unfold Fresh at fresh
      push Not at fresh
      obtain ⟨earlier', first, after', split', accepted', named'⟩ := fresh
      cases n with
      | zero => simp_all
      | succ n =>
          have short' : earlier'.length ≤ n := by
            rw [split'] at short
            simp at short
            omega
          have split₁ : calls = earlier' ++ first :: (after' ++ call :: after) := by simp [split, split']
          exact exists_first short' split₁ accepted' (named'.trans named)

/-- Nothing stored has the identifier of a call that is fresh. -/
theorem unnamed_of_fresh {before : List Call} (fresh : Fresh config before call) {key : MapKey}
    {settlement : SettlementResponse}
    (stored : (reached config before).processed.get? key = some settlement) :
    settlement.paymentIdentifier ≠ call.paymentIdentifier := by
  obtain ⟨earlier, first, after, split, accepted⟩ := answered_of_stored stored
  rw [(stored_of_answered after accepted).1]
  apply fresh earlier first after split
  rw [accepted]
  rfl

/-- A fresh call that is accepted settles. -/
theorem settled_of_fresh {before : List Call} (fresh : Fresh config before call)
    (accepted : (answered config before call).isSome = true) :
    Passes config call ∧
      (reached config before).processed.get?
        (mapKey (reached config before).decoded call.paymentIdentifier) = none ∧
      ∃ identifier, shown call.paymentIdentifier = .ok identifier := by
  have outcome := accept_cases config (reached config before) call
  obtain ⟨settlement, is⟩ := Option.isSome_iff_exists.mp accepted
  unfold answered at is
  rw [is] at outcome
  generalize (accept config (reached config before) call).2 = next at outcome
  cases outcome with
  | replayed passes _ _ found same =>
      exact absurd ((keyed_reached config before).found found).1.symm (unnamed_of_fresh fresh found)
  | settled passes _ identifier absent text put => exact ⟨passes, absent, identifier, text⟩

/-- The resource is served for payments, and once for each, in exactly the runs whose settling calls give an
amount and a payee and have an identifier of their own. -/
theorem paidOnce_iff (config : MachineSpendConfig) (calls : List Call) :
    PaidOnce config calls ↔
      ∀ before call after, calls = before ++ call :: after → Settles config (reached config before) call := by
  constructor
  · intro served before call after split passes absent ⟨identifier, text⟩
    obtain ⟨accepted, put⟩ := accept_settles passes absent text
    have unnamed : ∀ key settlement, (reached config before).processed.get? key = some settlement →
        settlement.paymentIdentifier ≠ call.paymentIdentifier := by
      intro key settlement stored named
      -- The first call that was accepted under the identifier makes this one a second charge.
      obtain ⟨earlier, other, later, split', accepted'⟩ := answered_of_stored stored
      obtain ⟨before', first, between, rfl, fresh, firstAccepted, same⟩ :=
        exists_first le_rfl split' (by rw [accepted']; rfl)
          ((stored_of_answered later accepted').1.symm.trans named)
      obtain ⟨settlement₁, is⟩ := Option.isSome_iff_exists.mp firstAccepted
      have unchanged := (served.once before' first between call after settlement₁ _
        (by simpa using split) fresh is same.symm accepted).2
      rw [reached_snoc, put] at unchanged
      have again := congrArg (·.get? (mapKey (reached config (before' ++ first :: between)).decoded
        call.paymentIdentifier)) unchanged
      simp [absent] at again
    refine ⟨(paid_iff passes).mp (served.paid before call after split ?_ ?_), unnamed⟩
    · intro earlier first later split' accepted' same
      obtain ⟨settlement, is⟩ := Option.isSome_iff_exists.mp accepted'
      obtain ⟨named, key, stored⟩ := stored_of_answered later is
      rw [← split'] at stored
      exact unnamed key settlement stored (named.trans same)
    · unfold answered
      rw [accepted]
      rfl
  · intro settles
    constructor
    · intro before call after split fresh accepted
      obtain ⟨passes, absent, text⟩ := settled_of_fresh fresh accepted
      exact (paid_iff passes).mpr (settles before call after split passes absent text).1
    · intro before first between again after settlement settlement' split fresh accepted same accepted'
      obtain ⟨named, key, stored⟩ := stored_of_answered between accepted
      have outcome := accept_cases config (reached config (before ++ first :: between)) again
      have keyed := keyed_reached config (before ++ first :: between)
      have settles' := settles (before ++ first :: between) again after (by simpa using split)
      unfold answered at accepted'
      rw [accepted'] at outcome
      rw [reached_snoc]
      generalize (accept config (reached config (before ++ first :: between)) again).2 = next at outcome ⊢
      cases outcome with
      | replayed passes _ _ found unchanged =>
          obtain ⟨payload, -, rfl⟩ := keyed key settlement stored
          rw [named, ← same, (keyed.found found).2 payload, found] at stored
          exact ⟨Option.some.inj stored, unchanged⟩
      | settled passes _ identifier absent text put =>
          exact absurd (named.trans same.symm)
            ((settles' passes absent ⟨identifier, text⟩).2 key settlement stored)

def bare : Call where
  payload := .obj [("scheme", .str "exact"), ("network", .str solanaDevnetCaip2), ("paymentIdentifier", .str "pid"),
    ("paymentPayload", .obj [("memo", .str (memoForEnvelope "digest"))])]
  envelopeHash := "digest"
  now := "2026-01-01T00:00:00.000Z"

theorem paidOnce_false : ¬ PaidOnce defaultMachineSpend [bare] := by
  intro served
  have fresh : Fresh defaultMachineSpend [] bare := by
    intro earlier first after split
    simp at split
  have accepted : (answered defaultMachineSpend [] bare).isSome = true := by decide +kernel
  obtain ⟨n, read, -⟩ := (served.paid [] bare [] rfl fresh accepted).amount
  cases read

/-! ### The agent's own payment -/

theorem toNat_of_isDigit {c : Char} (digit : c.isDigit = true) : 48 ≤ c.toNat ∧ c.toNat ≤ 57 := by
  simpa [Char.isDigit, UInt32.le_iff_toNat_le] using digit

theorem digits_eq {text : List Char} (nonempty : text ≠ []) (all : ∀ c ∈ text, c.isDigit = true) :
    digits 10 text = some (Nat.ofDigitChars 10 text 0) := by
  have value : ∀ c ∈ text, digitValue c = c.toNat - 48 := fun c mem => by
    unfold digitValue
    rw [if_pos (all c mem)]
  have small : text.all (digitValue · < 10) = true := by
    rw [List.all_eq_true]
    intro c mem
    have range := toNat_of_isDigit (all c mem)
    simp only [decide_eq_true_eq, value c mem]
    omega
  unfold digits
  rw [if_pos (by simp [nonempty, small]), Nat.ofDigitChars_eq_foldl]
  congr 1
  apply List.foldl_ext
  intro total c mem
  rw [value c mem, mul_comm]
  rfl

theorem decimal?_body (n k : Nat) : decimal? (Json.Number.body n k) = some ((n : ℚ) / 10 ^ k) := by
  obtain ⟨digits_, places⟩ := Json.Number.digits_body n k
  have plain : ∀ c ∈ Json.Number.body n k, c ≠ 'e' ∧ c ≠ 'E' := by
    intro c mem
    rcases Json.Number.mem_body mem with digit | rfl
    · exact ⟨Json.Number.ne_of_isDigit digit (by decide), Json.Number.ne_of_isDigit digit (by decide)⟩
    · decide
  have mantissa : (Json.Number.body n k).takeWhile (fun c => c ≠ 'e' && c ≠ 'E') = Json.Number.body n k :=
    List.takeWhile_eq_self_iff.mpr (by simpa using plain)
  have nonempty : Json.Number.padded n k ≠ [] := by
    have := Json.Number.length_padded n k
    intro none_
    simp [none_] at this
  unfold decimal?
  simp only [mantissa, digits_, places, digits_eq nonempty fun c mem => Json.Number.isDigit_padded mem,
    Json.Number.ofDigitChars_padded, List.drop_length]
  simp [exponent?]

/-- The number of an amount's text. -/
theorem stringToNumber_fixed (n k : Nat) :
    stringToNumber (Json.Number.fixed n k) = some (double (n / 10 ^ k)) := by
  have text : (Json.Number.fixed n k).toList = Json.Number.body n k := by
    rw [Json.Number.toList_fixed, if_neg (by omega), Int.natAbs_natCast]
  have visible : ∀ c ∈ (Json.Number.fixed n k).toList, isSpace c = false := by
    intro c mem
    rw [text] at mem
    rcases Json.Number.mem_body mem with digit | rfl
    · have range := toNat_of_isDigit digit
      exact not_isSpace (by omega)
    · decide
  have plain : ∀ c ∈ ['x', 'X', 'o', 'O', 'b', 'B', '-', '+', 'I'], c ∉ Json.Number.body n k := by
    intro c other mem
    simp only [List.mem_cons, List.not_mem_nil, or_false] at other
    rcases Json.Number.mem_body mem with digit | rfl
    · rcases other with rfl | rfl | rfl | rfl | rfl | rfl | rfl | rfl | rfl <;> revert digit <;> decide
    · simp at other
  have finite : Json.Number.body n k ≠ "Infinity".toList := by
    intro is
    exact plain 'I' (by decide) (by rw [is]; decide)
  unfold stringToNumber
  rw [trimmed_eq visible, text]
  -- No prefix of another base and no sign stands among the digits.
  split
  · next empty => exact absurd empty (Json.Number.body_ne_nil n k)
  all_goals first
    | next is => simp [is] at plain; done
    | rw [unsigned?, if_neg finite, decimal?_body]; rfl

/-- A settlement of the agent, as any payer's. -/
def untyped (s : AgentReady.SettlementResponse) : SettlementResponse where
  success := s.success
  network := s.network
  payer := some (.str s.payer)
  amount := some (.str s.amount)
  transactionHash := s.transactionHash.getD ""
  paymentIdentifier := s.paymentIdentifier.map .str
  memo := s.memo.map .str

/-- The resource of the agent's own payments has what this one has under a text. -/
structure Mirrors (typed : AgentReady.DemoMachineResource) (r : DemoMachineResource) : Prop where
  processed : ∀ id, r.processed.get? (.str id) = (typed.processed.get? id).map untyped
  cachedResource : ∀ id, r.cachedResource.get? (.str id) = typed.cachedResource.get? id
  paired : ∀ id, (typed.cachedResource.get? id).isSome = (typed.processed.get? id).isSome

/-- The payment that `runMachineSpend` signs. -/
def spend (config : MachineSpendConfig) (now envelopeHash paymentIdentifier : String) : Call where
  payload := .obj [("scheme", .str "exact"), ("network", .str config.network),
    ("paymentIdentifier", .str paymentIdentifier),
    ("paymentPayload", .obj [("transaction", .str ("tx_signed_mock_" ++ paymentIdentifier)),
      ("payer", .str config.agentWallet), ("amount", .str (formatX402Amount config.amountMinor)),
      ("payee", .str config.payeeWallet), ("memo", .str (memoForEnvelope envelopeHash))])]
  envelopeHash
  now

theorem lt_irrefl (n : Json.Number) : n.lt n = false := by
  cases n <;> simp [Json.Number.lt]

section Spend

variable {now envelopeHash id : String}

theorem field_spend : (spend config now envelopeHash id).field "scheme" = some (.str "exact") ∧
    (spend config now envelopeHash id).field "network" = some (.str config.network) ∧
    (spend config now envelopeHash id).paymentIdentifier = some (.str id) := by
  simp [spend, Call.field, Call.paymentIdentifier, Json.optional, Json.access, Json.field?]

theorem paymentPayload_spend :
    (spend config now envelopeHash id).paymentPayload "payer" = some (.str config.agentWallet) ∧
    (spend config now envelopeHash id).paymentPayload "amount" =
      some (.str (formatX402Amount config.amountMinor)) ∧
    (spend config now envelopeHash id).paymentPayload "payee" = some (.str config.payeeWallet) ∧
    (spend config now envelopeHash id).paymentPayload "memo" = some (.str (memoForEnvelope envelopeHash)) := by
  simp [spend, Call.field, Call.paymentPayload, Json.optional, Json.access, Json.field?]

theorem passes_spend (priced : 0 ≤ config.amountMinor) (named : id ≠ "") :
    Passes config (spend config now envelopeHash id) := by
  obtain ⟨scheme, network, identifier⟩ := @field_spend config now envelopeHash id
  obtain ⟨-, amount, payee, memo⟩ := @paymentPayload_spend config now envelopeHash id
  have number : stringToNumber (formatX402Amount config.amountMinor) = some (price config) := by
    obtain ⟨n, is⟩ := Int.eq_ofNat_of_zero_le priced
    rw [formatX402Amount, price, is, stringToNumber_fixed]
    norm_num
  constructor
  · exact scheme
  · exact network
  · simpa [identifier, Json.isTruthy] using named
  · rw [amount]
    exact ⟨_, congrArg Except.ok number, by simp [lt_irrefl]⟩
  · intro p given _
    rw [payee] at given
    exact (Option.some.inj given).symm
  · exact memo

/-- The agent's own payment is answered by both resources with the same, and leaves them the same. -/
theorem runMachineSpend_mirrored {typed : AgentReady.DemoMachineResource} (priced : 0 ≤ config.amountMinor)
    (named : id ≠ "") (mirrors : Mirrors typed r) :
    ∃ settlement resource note,
      (runMachineSpend config now typed envelopeHash id).1 = .ok (settlement, resource) ∧
      (accept config r (spend config now envelopeHash id)).1 =
        .ok (.accepted (some resource) note (untyped settlement)) ∧
      Mirrors (runMachineSpend config now typed envelopeHash id).2
        (accept config r (spend config now envelopeHash id)).2 := by
  obtain ⟨-, -, identifier⟩ := @field_spend config now envelopeHash id
  have errors := paymentErrors_nil.mpr (@passes_spend config now envelopeHash id priced named)
  have typedErrors : AgentReady.DemoMachineResource.paymentErrors config
      { scheme := "exact", network := config.network, paymentIdentifier := id,
        payer := config.agentWallet, amountMinor := config.amountMinor,
        payee := some config.payeeWallet, memo := some (memoForEnvelope envelopeHash) }
      envelopeHash = [] := by
    simp [AgentReady.DemoMachineResource.paymentErrors, named]
  have processed := mirrors.processed id
  have cached := mirrors.cachedResource id
  have paired := mirrors.paired id
  simp only [runMachineSpend, AgentReady.DemoMachineResource.accept, typedErrors, accept, errors, identifier,
    mapKey]
  cases found : typed.processed.get? id with
  | some settlement =>
      rw [found] at processed paired
      obtain ⟨resource, kept⟩ := Option.isSome_iff_exists.mp paired
      rw [kept] at cached
      simp only [kept, processed, cached, Option.map_some]
      exact ⟨settlement, resource, _, rfl, rfl, mirrors.processed, mirrors.cachedResource, mirrors.paired⟩
  | none =>
      obtain ⟨payer, amount, -, memo⟩ := @paymentPayload_spend config now envelopeHash id
      have text : shown (some (.str id)) = .ok id := by
        simp [shown, primitive, convertible, Json.toText]
      have settled (settlement : AgentReady.SettlementResponse)
          (same : settle config (spend config now envelopeHash id) id = untyped settlement)
          (resource : FitScoreResource) :
          Mirrors ⟨typed.processed.set id settlement, typed.cachedResource.set id resource⟩
            ⟨r.processed.set (.str id) (settle config (spend config now envelopeHash id) id),
              r.cachedResource.set (.str id) resource, r.decoded + 1⟩ := by
        rw [same]
        constructor <;> intro id' <;> by_cases here : id' = id
        · simp [here]
        · simpa [OrderedMap.get?_set, here] using mirrors.processed id'
        · simp [here]
        · simpa [OrderedMap.get?_set, here] using mirrors.cachedResource id'
        · simp [here]
        · simpa [OrderedMap.get?_set, here] using mirrors.paired id'
      rw [found] at processed
      simp only [processed, Option.map_none, text]
      have resource : score config ((spend config now envelopeHash id).paymentPayload "payer")
          (spend config now envelopeHash id).now =
            AgentReady.DemoMachineResource.score config config.agentWallet now := by
        rw [payer]
        simp [score, Json.isText, AgentReady.DemoMachineResource.score, spend]
      rw [resource]
      refine ⟨_, _, none, rfl, ?_, settled _ ?_ _⟩
      · simp [settle, untyped, identifier, payer, amount, memo]
      · simp [settle, untyped, identifier, payer, amount, memo]

end Spend

end DemoMachineResource

end AgentReady.Untrusted
