import AgentReady.Services.Commands

/-!
The life of an order, abstractly.

An `Order` is what the services know of an order that matters for approval and payment:
the state, the intent, the versions and quote marks of the dialogue, the envelope record,
and the approval and payment facts. `Step` says, act by act, under which conditions each
of these may change; it is the specification that the operations are shown to follow.

`seen p x` relates an order as an operation saw it before it was suspended to the order
it finds when it resumes: equality where operations run one after another.

* `Step.state_edge`: an act that moves an order out of shopping and approval follows an
  edge of the transition table.
-/

namespace AgentReady

/-- The versions and quote marks of a dialogue. -/
structure Marks where
  intentVersion : Int
  recommendationVersion : Int
  recommendationIntentVersion : Option Int
  recommendationActionToken : Option String
  quoteProductId : Option String
  quoteValid : Bool
  quoteIntentVersion : Option Int
  quoteRecommendationVersion : Option Int
  quoteActionToken : Option String
deriving DecidableEq

def DialogueMemory.marks (m : DialogueMemory) : Marks where
  intentVersion := m.intentVersion
  recommendationVersion := m.recommendationVersion
  recommendationIntentVersion := m.recommendationIntentVersion
  recommendationActionToken := m.recommendationActionToken
  quoteProductId := m.quoteProductId
  quoteValid := m.quoteValid
  quoteIntentVersion := m.quoteIntentVersion
  quoteRecommendationVersion := m.quoteRecommendationVersion
  quoteActionToken := m.quoteActionToken

namespace Marks

/-- After a change of the intent. -/
def withdrawn (m : Marks) : Marks where
  intentVersion := m.intentVersion + 1
  recommendationVersion := m.recommendationVersion
  recommendationIntentVersion := none
  recommendationActionToken := none
  quoteProductId := none
  quoteValid := false
  quoteIntentVersion := none
  quoteRecommendationVersion := none
  quoteActionToken := none

/-- After a new recommendation. -/
def recommended (m : Marks) (token : String) : Marks :=
  { m with
    recommendationVersion := m.recommendationVersion + 1
    recommendationIntentVersion := some m.intentVersion
    recommendationActionToken := some token }

/-- After a quote for a product, under a recommendation. -/
def quoted (m : Marks) (productId : String) (b : RecommendationBinding) : Marks :=
  { m with
    quoteProductId := some productId
    quoteValid := true
    quoteIntentVersion := some b.intentVersion
    quoteRecommendationVersion := some b.recommendationVersion
    quoteActionToken := some b.recommendationActionToken }

end Marks

structure Order where
  id : String
  state : OrderState
  intent : ParsedIntent
  marks : Marks
  record : Option EnvelopeRecord
  approvalEventId : Option String
  approvedDigest : Option String
  externalOrderId : Option String
  externalPaymentId : Option String
  verification : Option VerificationResult
  x402 : Option X402OrderPayment
deriving DecidableEq

def Session.order (x : Session) (record : Option EnvelopeRecord) : Order where
  id := x.logicalOrderId
  state := x.state
  intent := x.intent
  marks := x.dialogue.marks
  record := record
  approvalEventId := x.approvalEventId
  approvedDigest := x.approvedDigest
  externalOrderId := x.externalOrderId
  externalPaymentId := x.externalPaymentId
  verification := x.verification
  x402 := x.x402OrderPayment

/-- The order under an id. -/
def Services.order? (s : Services) (orderId : String) : Option Order :=
  (s.sessions.get? orderId).map fun x => x.order (s.envelopes.get? orderId)

namespace Order

/-- The record exists and is the one that was approved. -/
def Approved (x : Order) : Prop :=
  x.approvalEventId.isSome ∧ ∃ r, x.record = some r ∧ x.approvedDigest = some r.digest

/-- The quote is valid and its record was made for the present intent. -/
def Current (x : Order) : Prop :=
  x.marks.quoteValid = true ∧
    ∃ r, x.record = some r ∧ intentDigest x.intent = .ok r.intentDigest

def IsVerified (x : Order) : Prop := VerificationResult.isVerified x.verification = true

instance (x : Order) : Decidable x.IsVerified := inferInstanceAs (Decidable (_ = true))

/-- Verified evidence of a payment is stored. -/
def HasEvidence (x : Order) (v : VerificationResult) (paymentId : String) : Prop :=
  x.verification = some v ∧ v.verified = true ∧ x.externalPaymentId = some paymentId

end Order

/-! ### Acts -/

/-- States that `intentPatch` may overwrite with `CLARIFYING`. -/
def shoppingStates : List OrderState :=
  [.draft, .clarifying, .quoted, .awaitingApproval, .approved, .reapprovalRequired]

inductive Act where
  | say (intent : ParsedIntent)
  | withdraw (record : Option EnvelopeRecord)
  | restart
  | recommend (token : String)
  | quote (record : EnvelopeRecord) (productId : String)
  | grant (approvalEventId digest : String)
  | move (next : OrderState)
  | clarify
  | tamper (record : EnvelopeRecord)
  | bindOrder (externalOrderId : Option String)
  | prepare (payment : X402OrderPayment)
  | settle (payment : X402OrderPayment) (record : EnvelopeRecord)
  | verify (result : VerificationResult) (paymentId : String)
  | webhook (paymentId : String) (record : EnvelopeRecord)

/-- What must hold where an order moves to a state, besides the edge. -/
def Admits (seen : Order → Order → Prop) (x : Order) : OrderState → Prop
  | .approved => x.Approved
  | .paymentPending => x.Approved
  | .paidVerified => ∃ v paymentId, x.HasEvidence v paymentId ∧
      ∃ p q r, seen p q ∧ q.record = x.record ∧ p.record = some r ∧
        v.amountMinor = r.envelope.totalMinor
  | .compensationPending => x.state = .fulfilmentFailed
  | _ => True

inductive Step (P : Platform) (seen : Order → Order → Prop) : Order → Act → Order → Prop where
  | say {x : Order} (intent : ParsedIntent) : Step P seen x (.say intent) { x with intent }
  | withdraw {x : Order} {record : Option EnvelopeRecord}
      (gone : record = none ∨ record = x.record) :
      Step P seen x (.withdraw record)
        { x with record, marks := x.marks.withdrawn, approvalEventId := none, approvedDigest := none }
  | restart {x : Order} :
      Step P seen x .restart
        { x with
          intent := {}, record := none, marks := createDialogueMemory.marks,
          approvalEventId := none, approvedDigest := none }
  | recommend {x : Order} (token : String) :
      Step P seen x (.recommend token) { x with marks := x.marks.recommended token }
  | quote {x : Order} {r : EnvelopeRecord} {productId : String}
      (sealed : r.digest = P.envelopeDigest r.envelope)
      (present : intentDigest x.intent = .ok r.intentDigest) :
      Step P seen x (.quote r productId)
        { x with record := some r, marks := x.marks.quoted productId r.recommendation }
  | grant {x : Order} {r : EnvelopeRecord} {approvalEventId : String}
      (current : x.Current) (record : x.record = some r) :
      Step P seen x (.grant approvalEventId r.digest)
        { x with approvalEventId := some approvalEventId, approvedDigest := some r.digest }
  | move {x : Order} {next : OrderState} (allowed : next ∈ x.state.allowedTransitions)
      (admitted : Admits seen x next) : Step P seen x (.move next) { x with state := next }
  | clarify {x : Order} (shopping : x.state ∈ shoppingStates) :
      Step P seen x .clarify { x with state := .clarifying }
  | tamper {x : Order} {r r' : EnvelopeRecord} (record : x.record = some r)
      (sealed : r'.digest = P.envelopeDigest r'.envelope)
      (intent : r'.intentDigest = r.intentDigest) :
      Step P seen x (.tamper r')
        { x with record := some r', approvalEventId := none, approvedDigest := none }
  | bindOrder {x : Order} (externalOrderId : Option String) :
      Step P seen x (.bindOrder externalOrderId) { x with externalOrderId }
  | prepare {x : Order} {payment : X402OrderPayment} (unpaid : ¬ x.IsVerified)
      (pending : payment.status = .pending) :
      Step P seen x (.prepare payment) { x with x402 := some payment }
  | settle {x : Order} {payment : X402OrderPayment} {r : EnvelopeRecord} (unpaid : ¬ x.IsVerified)
      (approved : x.Approved) (record : x.record = some r) :
      Step P seen x (.settle payment r)
        { x with
          x402 := some payment.settled
          verification := some (x402Verification payment.paymentIdentifier r)
          externalPaymentId := some payment.paymentIdentifier }
  | verify {p x : Order} {result : VerificationResult} {paymentId : String} (before : seen p x)
      (unpaid : ¬ p.IsVerified) :
      Step P seen x (.verify result paymentId)
        { x with verification := some result, externalPaymentId := some paymentId }
  | webhook {x : Order} {r : EnvelopeRecord} {paymentId externalOrderId : String}
      (record : x.record = some r) :
      Step P seen x (.webhook paymentId r)
        { x with
          verification := some (webhookVerification paymentId externalOrderId r)
          externalPaymentId := some paymentId }

theorem Step.id_eq {P : Platform} {seen : Order → Order → Prop} {x y : Order} {act : Act}
    (h : Step P seen x act y) : y.id = x.id := by
  cases h <;> rfl

/-- An act keeps the state, follows an edge, or clarifies a shopping state. -/
theorem Step.state_edge {P : Platform} {seen : Order → Order → Prop} {x y : Order} {act : Act}
    (h : Step P seen x act y) :
    y.state = x.state ∨ y.state ∈ x.state.allowedTransitions ∨
      (act = .clarify ∧ x.state ∈ shoppingStates) := by
  cases h with
  | move allowed _ => exact .inr (.inl allowed)
  | clarify shopping => exact .inr (.inr ⟨rfl, shopping⟩)
  | _ => exact .inl rfl

end AgentReady
