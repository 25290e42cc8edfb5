import AgentReady.Domain.Canonical

/-!
What the payment adapters are asked and answer (`packages/payments/src/types.ts`), and the
requests of the x402 rail (`packages/payments/src/x402.ts`).

Amounts are integers. The status of an attempt and of a fetched payment is the text the
payment provider reports. Left out are the checkout payload of an attempt and the raw
webhook payload of a verification input, which nothing here reads.
-/

namespace AgentReady

structure PaymentAttempt where
  attemptId : String
  logicalOrderId : String
  rail : PaymentRail
  externalOrderId : Option String
  status : String
  createdAt : String
  amountMinor : Int
  currency : String
deriving DecidableEq

structure VerificationInput where
  logicalOrderId : String
  envelopeHash : String
  rail : PaymentRail
  externalOrderId : String
  externalPaymentId : String
  expectedAmountMinor : Int
  signature : String
deriving DecidableEq

structure VerificationResult where
  verified : Bool
  rail : PaymentRail
  externalOrderId : String
  externalPaymentId : String
  amountMinor : Int
  currency : String
  status : String
  reason : Option String := none
deriving DecidableEq

structure CompensationInput where
  logicalOrderId : String
  envelopeHash : String
  rail : PaymentRail
  externalPaymentId : String
  amountMinor : Int
  reason : String
deriving DecidableEq

structure CompensationResult where
  compensated : Bool
  rail : PaymentRail
  refundId : Option String
  reason : Option String := none
deriving DecidableEq

/-! ### The x402 rail -/

def solanaDevnetCaip2 : String := "solana:EtWTRABZaYq6iMfeYKouRu166VU2xqa1"
def x402MockOrderNetwork : String := solanaDevnetCaip2
def x402MockOrderAsset : String := "usdc_devnet_mock_mint"
def x402MockOrderPayee : String := "demo_payee_RunVista_mock"
def x402MockOrderPurpose : String := "order_payment"

structure ToolSpendRequest where
  orderId : String
  intentVersion : Int
  resource : String
  amountMinor : Int
  network : String
  asset : String
  payee : String
  purpose : String
deriving DecidableEq

structure OrderPaymentRequest where
  logicalOrderId : String
  envelopeDigest : String
  network : String
  asset : String
  amountMinor : Int
  currency : String
  payee : String
  purpose : String
deriving DecidableEq

/-- `JSON.stringify` of an object of texts and integers, in the order written. -/
def flatText (fields : List (String × String)) : String :=
  "\x7b" ++ joinWith "," (fields.map fun f => Json.quote f.1 ++ ":" ++ f.2) ++ "\x7d"

def Platform.canonicalToolSpendRequestDigest (P : Platform) (r : ToolSpendRequest) : String :=
  P.sha256 (flatText [
    ("orderId", Json.quote r.orderId), ("intentVersion", toString r.intentVersion),
    ("resource", Json.quote r.resource), ("amountMinor", toString r.amountMinor),
    ("network", Json.quote r.network), ("asset", Json.quote r.asset),
    ("payee", Json.quote r.payee), ("purpose", Json.quote r.purpose)])

def Platform.canonicalOrderPaymentRequestDigest (P : Platform) (r : OrderPaymentRequest) :
    String :=
  P.sha256 (flatText [
    ("logicalOrderId", Json.quote r.logicalOrderId),
    ("envelopeDigest", Json.quote r.envelopeDigest), ("network", Json.quote r.network),
    ("asset", Json.quote r.asset), ("amountMinor", toString r.amountMinor),
    ("currency", Json.quote r.currency), ("payee", Json.quote r.payee),
    ("purpose", Json.quote r.purpose)])

/-- The first `n` characters. -/
def takeText (n : Nat) (s : String) : String := String.ofList (s.toList.take n)

def mockOrderPaymentIdentifier (requestDigest : String) : String :=
  "x402ord_" ++ takeText 12 requestDigest

/-- `(amountMinor / 10 ** 6).toFixed(6)`. -/
def formatX402Amount (amountMinor : Int) : String := Json.Number.fixed amountMinor 6

def memoForEnvelope (envelopeHash : String) : String := "agentcart:v1:" ++ envelopeHash

/-- `razorpaySignature`. -/
def Platform.razorpaySignature (P : Platform) (keySecret payload : String) : String :=
  P.hmacSha256 keySecret payload

end AgentReady
