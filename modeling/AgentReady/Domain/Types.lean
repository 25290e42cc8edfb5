import AgentReady.Lib.Json

/-!
The domain types of an order (`packages/domain/src/types.ts`): the order states and
their transition table, the purchase intent and mandate, and the commerce envelope.

Left out are the fields no function sets or reads: `buyerAgentId` and
`approvalEventId` of an envelope, and the weight of a soft preference.
-/

namespace AgentReady

inductive OrderState where
  | draft | clarifying | quoted | awaitingApproval | approved | paymentPending
  | paidVerified | fulfilmentPending | fulfilled | expired | reapprovalRequired
  | paymentFailed | fulfilmentFailed | compensationPending | refunded | manualReview
deriving DecidableEq, Repr

namespace OrderState

/-- The state's spelling on the wire and in error texts. -/
def name : OrderState → String
  | draft => "DRAFT"
  | clarifying => "CLARIFYING"
  | quoted => "QUOTED"
  | awaitingApproval => "AWAITING_APPROVAL"
  | approved => "APPROVED"
  | paymentPending => "PAYMENT_PENDING"
  | paidVerified => "PAID_VERIFIED"
  | fulfilmentPending => "FULFILMENT_PENDING"
  | fulfilled => "FULFILLED"
  | expired => "EXPIRED"
  | reapprovalRequired => "REAPPROVAL_REQUIRED"
  | paymentFailed => "PAYMENT_FAILED"
  | fulfilmentFailed => "FULFILMENT_FAILED"
  | compensationPending => "COMPENSATION_PENDING"
  | refunded => "REFUNDED"
  | manualReview => "MANUAL_REVIEW"

/-- `ALLOWED_TRANSITIONS`. -/
def allowedTransitions : OrderState → List OrderState
  | draft => [clarifying, quoted, expired]
  | clarifying => [clarifying, quoted, expired]
  | quoted => [awaitingApproval, expired, reapprovalRequired]
  | awaitingApproval => [approved, expired, reapprovalRequired, clarifying, quoted]
  | approved => [paymentPending, expired, reapprovalRequired]
  | paymentPending => [paidVerified, paymentFailed, reapprovalRequired, expired]
  | paidVerified => [fulfilmentPending, fulfilmentFailed]
  | fulfilmentPending => [fulfilled, fulfilmentFailed]
  | fulfilled => []
  | expired => []
  | reapprovalRequired => [awaitingApproval, approved, expired, clarifying, quoted]
  | paymentFailed => [paymentPending, expired]
  | fulfilmentFailed => [compensationPending]
  | compensationPending => [refunded, manualReview]
  | refunded => []
  | manualReview => [refunded, fulfilmentPending, fulfilled, compensationPending]

end OrderState

open OrderState

/-- `transitionState`: the reason where the transition is refused. -/
def transitionState (source target : OrderState) : Except String Unit :=
  if source = target then .ok ()
  else if target ∈ source.allowedTransitions then .ok ()
  else .error s!"Illegal transition {source.name} -> {target.name}"

inductive PaymentRail where
  | razorpayCheckout | razorpayReservePay | x402Solana
deriving DecidableEq, Repr

def PaymentRail.name : PaymentRail → String
  | razorpayCheckout => "razorpay_checkout"
  | razorpayReservePay => "razorpay_reserve_pay"
  | x402Solana => "x402_solana"

structure HardConstraints where
  maxAmountMinor : Json.Number
  currency : String
  size : Option String
  colour : Option String
  useCase : Option String
  mustBeReturnable : Option Bool
  deliverBy : Option String
deriving DecidableEq

/-- The soft preferences by name, as they are looked up: `distance`, `fit` and `cushioning`. An unset fit or
cushioning is the empty string; an unset distance, or one that is no number, is zero. -/
structure SoftPreferences where
  distance : Json.Number
  fit : String
  cushioning : String
deriving DecidableEq

structure PurchaseIntent where
  merchantId : String
  category : String
  hardConstraints : HardConstraints
  softPreferences : SoftPreferences
deriving DecidableEq

structure PurchaseMandate where
  mandateId : String
  customerId : String
  allowedMerchantIds : List String
  allowedProductIds : Option (List String)
  allowedRails : List PaymentRail
  maxAmountMinor : Int
  autoApproveBelowMinor : Option Int
  expiresAt : String
  humanConfirmationRequired : Bool
deriving DecidableEq

/-- The chosen variant of an item: its size and colour. -/
structure ItemVariant where
  size : String
  colour : String
deriving DecidableEq

structure EnvelopeItem where
  productId : String
  sku : String
  variant : ItemVariant
  quantity : Int
  unitAmountMinor : Int
deriving DecidableEq

structure CommerceEnvelope where
  version : Int
  logicalOrderId : String
  merchantId : String
  quoteId : String
  customerId : String
  buyerAgentId : Option String := none
  items : List EnvelopeItem
  subtotalMinor : Int
  taxMinor : Int
  shippingMinor : Int
  totalMinor : Int
  currency : String
  inventoryHoldId : String
  returnPolicyDigest : String
  shippingDestinationDigest : String
  mandateId : String
  approvalEventId : Option String := none
  issuedAt : String
  expiresAt : String
  nonce : String
deriving DecidableEq

end AgentReady
