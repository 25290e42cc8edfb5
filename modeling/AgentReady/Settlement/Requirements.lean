import AgentReady.Payments.Types

/-!
The canonical terms of the paid resource (`packages/payments/src/x402.ts`): what a presented
payment is checked against, and how a settlement response is completed by them.

The presented terms are JSON values of any type. `none` is a field that is absent.
-/

namespace AgentReady.Settlement

/-- `X402DevnetConfig`; the secret key is left out, as nothing here signs. -/
structure X402DevnetConfig where
  facilitatorUrl : String
  solanaRpcUrl : Option String
  payerPublicKey : String
  payeePublicKey : String
  devnetUsdcMint : String
  amountMinor : Int

structure CanonicalPaymentRequirements where
  scheme : String := "exact"
  network : String
  asset : String
  amount : String
  payTo : String
  maxTimeoutSeconds : Int
  /-- `extra.memo`. -/
  memo : String

def buildCanonicalRequirements (config : X402DevnetConfig) (requestDigest : String) :
    CanonicalPaymentRequirements where
  network := solanaDevnetCaip2
  asset := config.devnetUsdcMint
  amount := toString config.amountMinor
  payTo := config.payeePublicKey
  maxTimeoutSeconds := 300
  memo := memoForEnvelope requestDigest

/-- The terms as they are stored with an attempt. -/
def CanonicalPaymentRequirements.toJson (r : CanonicalPaymentRequirements) : Json :=
  .obj [("scheme", .str r.scheme), ("network", .str r.network), ("asset", .str r.asset),
    ("amount", .str r.amount), ("payTo", .str r.payTo),
    ("maxTimeoutSeconds", minorJson r.maxTimeoutSeconds), ("extra", .obj [("memo", .str r.memo)])]

/-! ### `BigInt` -/

/-- The characters that `String.prototype.trim` removes. -/
def isSpace (c : Char) : Bool :=
  c.toNat ∈ [9, 10, 11, 12, 13, 32, 160, 0x1680, 0x2028, 0x2029, 0x202f, 0x205f, 0x3000, 0xfeff] ||
    (0x2000 ≤ c.toNat && c.toNat ≤ 0x200a)

def trimmed (text : String) : List Char :=
  ((text.toList.dropWhile isSpace).reverse.dropWhile isSpace).reverse

def digitValue (c : Char) : Nat :=
  if c.isDigit then c.toNat - 48
  else if 'a' ≤ c && c ≤ 'z' then c.toNat - 87
  else if 'A' ≤ c && c ≤ 'Z' then c.toNat - 55
  else 36

/-- The number that digits of a base spell; there must be one. -/
def digits (base : Nat) (text : List Char) : Option Nat :=
  if text ≠ [] && text.all (digitValue · < base) then
    some (text.foldl (fun n c => n * base + digitValue c) 0)
  else none

/-- `StringToBigInt`. -/
def parseBigInt (text : String) : Option Int :=
  match trimmed text with
  | [] => some 0
  | '0' :: 'x' :: rest | '0' :: 'X' :: rest => (digits 16 rest).map Int.ofNat
  | '0' :: 'o' :: rest | '0' :: 'O' :: rest => (digits 8 rest).map Int.ofNat
  | '0' :: 'b' :: rest | '0' :: 'B' :: rest => (digits 2 rest).map Int.ofNat
  | '-' :: rest => (digits 10 rest).map fun n => -(n : Int)
  | '+' :: rest => (digits 10 rest).map Int.ofNat
  | text => (digits 10 text).map Int.ofNat

mutual
/-- `String(value)` does not throw: no object in it has a property `toString` of its own, which would not be a
function. -/
def convertible : Json → Bool
  | .obj fields => (Json.field? fields "toString").isNone
  | .arr items => convertibleItems items
  | _ => true

def convertibleItems : List Json → Bool
  | [] => true
  | item :: rest => convertible item && convertibleItems rest
end

/-- `String(value)`. -/
def primitive (value : Json) : Except String String :=
  if convertible value then .ok value.toText else .error "Cannot convert object to primitive value"

/-- `BigInt(value)`; it throws where the value is no integer. -/
def bigInt (value : Json) : Except String Int :=
  match value with
  | .num (.finite q) =>
      if q.den = 1 then .ok q.num
      else .error s!"The number {value.toText} cannot be converted to a BigInt because it is not an integer"
  | .num (.infinite _) =>
      .error s!"The number {value.toText} cannot be converted to a BigInt because it is not an integer"
  | .bool b => .ok (if b then 1 else 0)
  | .null => .error "Cannot convert null to a BigInt"
  | .str _ | .arr _ | .obj _ => do
      let text ← primitive value
      match parseBigInt text with
      | some n => return n
      | none => throw s!"Cannot convert {text} to a BigInt"

/-! ### The check of the presented terms -/

/-- The terms that a payment presents. -/
structure SuppliedRequirements where
  scheme : Option Json
  network : Option Json
  asset : Option Json
  amount : Option Json
  payTo : Option Json
  memo : Option String

/-- A value in a message. -/
def shown : Option Json → Except String String
  | some value => primitive value
  | none => .ok "undefined"

/-- The message, unless the field is the text it must be. -/
def unlessText (field : Option Json) (text : String) (message : String → String) : Except String (List String) :=
  if field.any (Json.isText text) then .ok []
  else do
    let got ← shown field
    return [message got]

theorem any_isText {field : Option Json} {text : String} :
    field.any (Json.isText text) = true ↔ field = some (.str text) := by
  cases field with
  | none => simp
  | some value => cases value <;> simp [Json.isText]

theorem unlessText_nil {field : Option Json} {text : String} {message : String → String} :
    unlessText field text message = .ok [] ↔ field = some (.str text) := by
  unfold unlessText
  rw [← any_isText]
  split
  · rename_i same
    simp [same]
  · rename_i differs
    cases shown field <;> simp [bind, Except.bind, pure, Except.pure, differs]

def verifyCanonicalRequirements (supplied : SuppliedRequirements)
    (canonical : CanonicalPaymentRequirements) : Except String (List String) := do
  let scheme ← unlessText supplied.scheme canonical.scheme fun got =>
    s!"scheme must be {canonical.scheme}, got {got}"
  let network ← unlessText supplied.network canonical.network fun got =>
    s!"wrong network: expected {canonical.network}, got {got}"
  let asset ← unlessText supplied.asset canonical.asset fun got =>
    s!"wrong asset: expected {canonical.asset}, got {got}"
  let payTo ← unlessText supplied.payTo canonical.payTo fun got =>
    s!"wrong payee: expected {canonical.payTo}, got {got}"
  let memo ← unlessText (supplied.memo.map .str) canonical.memo fun got =>
    s!"memo mismatch: expected {canonical.memo}, got {got}"
  let errors := scheme ++ network ++ asset ++ payTo ++ memo
  match supplied.amount with
  | none => return errors
  | some amount =>
      let suppliedAtomic ← bigInt amount
      let canonicalAtomic ← bigInt (.str canonical.amount)
      if suppliedAtomic < canonicalAtomic then
        let got ← shown (some amount)
        return errors ++ [s!"underpayment: expected at least {canonical.amount}, got {got}"]
      else return errors

/-! ### Settlement responses -/

structure AdaptedSettlement where
  success : Bool
  transactionHash : String
  payer : String
  payee : String
  network : String
  asset : String
  amount : String
  facilitatorUrl : String
  paymentIdentifier : String
deriving DecidableEq

/-- What the facilitator answers to a settlement, as far as it is read. -/
structure RawSettlement where
  success : Bool
  transaction : Option String := none
  network : Option String := none
  payer : Option String := none
  amount : Option String := none
deriving DecidableEq

/-- `a || b`, on texts that may be absent. -/
def orElse (a b : Option String) : Option String := (a.filter (· ≠ "")).or b

/-- `adaptSettlement`, with the canonical terms and the payment identifier. -/
def adaptSettlement (raw : RawSettlement) (config : X402DevnetConfig)
    (paymentIdentifier amount : String) : Except String AdaptedSettlement := do
  if raw.success then
    if (raw.transaction.getD "") = "" then
      throw "Settlement returned success but no transaction signature was provided."
    if (raw.payer.getD "") = "" then
      throw "Settlement returned success but no payer was provided."
  let missing := "Settlement did not provide an amount and no verified canonical amount was available."
  match (orElse raw.amount (some amount)).filter (· ≠ "") with
  | none => throw missing
  | some amount =>
      return {
        success := raw.success
        transactionHash := raw.transaction.getD ""
        payer := raw.payer.getD ""
        payee := config.payeePublicKey
        network := raw.network.getD (if raw.success then solanaDevnetCaip2 else "")
        asset := config.devnetUsdcMint
        amount
        facilitatorUrl := config.facilitatorUrl
        paymentIdentifier }

/-- What an adapted settlement takes from the response, and what from the canonical terms. -/
structure Adapts (raw : RawSettlement) (config : X402DevnetConfig) (amount : String)
    (adapted : AdaptedSettlement) : Prop where
  success : adapted.success = raw.success
  transactionHash : adapted.transactionHash = raw.transaction.getD ""
  payer : adapted.payer = raw.payer.getD ""
  payee : adapted.payee = config.payeePublicKey
  asset : adapted.asset = config.devnetUsdcMint
  amount : (raw.amount = some adapted.amount ∧ adapted.amount ≠ "") ∨ adapted.amount = amount

/-- The first of two texts that is not empty. -/
theorem orElse_chosen {a b : Option String} {chosen : String}
    (h : (orElse a b).filter (· ≠ "") = some chosen) :
    (a = some chosen ∧ chosen ≠ "") ∨ b = some chosen := by
  obtain ⟨found, nonempty⟩ := Option.filter_eq_some_iff.mp h
  unfold orElse at found
  cases given : a.filter (· ≠ "") with
  | none =>
      rw [given] at found
      exact .inr found
  | some first =>
      rw [given] at found
      obtain rfl := Option.some.inj found
      exact .inl ⟨(Option.filter_eq_some_iff.mp given).1, by simpa using nonempty⟩

theorem adaptSettlement_ok {raw : RawSettlement} {config : X402DevnetConfig}
    {paymentIdentifier amount : String} {adapted : AdaptedSettlement}
    (h : adaptSettlement raw config paymentIdentifier amount = .ok adapted) :
    Adapts raw config amount adapted := by
  unfold adaptSettlement at h
  dsimp only [bind, Except.bind, pure, Except.pure, throw, throwThe, MonadExceptOf.throw] at h
  split at h
  · rename_i success
    split at h
    · cases h
    split at h
    · cases h
    split at h
    · cases h
    · rename_i chosen found
      cases h
      exact ⟨rfl, rfl, rfl, rfl, rfl, (orElse_chosen found).imp_right fun same => (Option.some.inj same).symm⟩
  · split at h
    · cases h
    · rename_i chosen found
      cases h
      exact ⟨rfl, rfl, rfl, rfl, rfl, (orElse_chosen found).imp_right fun same => (Option.some.inj same).symm⟩

end AgentReady.Settlement
