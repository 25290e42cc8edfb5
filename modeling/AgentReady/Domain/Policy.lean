import AgentReady.Domain.Canonical
import AgentReady.Lib.JsonText

/-!
The payment policy and the material-change rule (`packages/domain/src/policy.ts`).

* `checkEnvelopeForPayment_allow`: what an allowing verdict establishes about the
  envelope, the mandate and the approval.
* `requiresReapproval_of_totalMinor`, `requiresReapproval_of_items`: changes of the
  total or of the items always require approval again.
-/

namespace AgentReady

inductive PolicyDecision where
  | allow | block | review
deriving DecidableEq, Repr

structure PolicyVerdict where
  allow : Bool
  decision : PolicyDecision
  reasonCodes : List String
deriving DecidableEq

structure CheckEnvelopeInput where
  envelope : CommerceEnvelope
  mandate : Option PurchaseMandate
  expectedDigest : String
  rail : String
  approved : Bool
  allowAutoApprove : Bool
  nowIso : String

/-- A reason code, where its condition holds. -/
def codeWhen (condition : Bool) (code : String) : List String := if condition then [code] else []

/-- The reason codes of an envelope that has the expected digest, under a mandate. -/
def mandateCodes (input : CheckEnvelopeInput) (mandate : PurchaseMandate) : List String :=
  let envelope := input.envelope
  let isApproved := input.approved ||
    (input.allowAutoApprove && (mandate.autoApproveBelowMinor.getD (-1) ≥ envelope.totalMinor))
  codeWhen (!mandate.allowedMerchantIds.contains envelope.merchantId)
      "mandate_merchant_not_allowed" ++
    (match mandate.allowedProductIds with
      | none => []
      | some allowed =>
          ((envelope.items.map (·.productId)).dedup.filter fun p => !allowed.contains p).map
            fun _ => "mandate_product_not_allowed") ++
    codeWhen (input.rail ≠ "" && !(mandate.allowedRails.map PaymentRail.name).contains input.rail)
      "mandate_rail_not_allowed" ++
    codeWhen (envelope.totalMinor > mandate.maxAmountMinor) "mandate_amount_exceeded" ++
    codeWhen (mandate.expiresAt < input.nowIso) "mandate_expired" ++
    codeWhen (envelope.expiresAt < input.nowIso) "envelope_expired" ++
    codeWhen (!isApproved) "envelope_not_approved" ++
    codeWhen (mandate.humanConfirmationRequired && !input.approved)
      "mandate_human_confirmation_required"

def checkEnvelopeForPayment (P : Platform) (input : CheckEnvelopeInput) : PolicyVerdict :=
  if P.envelopeDigest input.envelope ≠ input.expectedDigest then
    ⟨false, .block, ["envelope_tampered"]⟩
  else match input.mandate with
    | none => ⟨false, .block, ["mandate_not_found"]⟩
    | some mandate =>
        let codes := mandateCodes input mandate
        if codes = [] then ⟨true, .allow, ["ok"]⟩
        else ⟨false, if codes.contains "mandate_amount_exceeded" then .review else .block, codes⟩

theorem codeWhen_eq_nil {condition : Bool} {code : String} :
    codeWhen condition code = [] ↔ condition = false := by
  cases condition <;> simp [codeWhen]

/-- An allowing verdict: the envelope has the expected digest, a mandate exists that is
neither expired nor exceeded, the envelope is not expired, and it is approved. -/
theorem checkEnvelopeForPayment_allow {P : Platform} {input : CheckEnvelopeInput}
    (h : (checkEnvelopeForPayment P input).allow = true) :
    P.envelopeDigest input.envelope = input.expectedDigest ∧
      ∃ mandate, input.mandate = some mandate ∧
        input.envelope.totalMinor ≤ mandate.maxAmountMinor ∧
        ¬ mandate.expiresAt < input.nowIso ∧ ¬ input.envelope.expiresAt < input.nowIso ∧
        (input.allowAutoApprove = false → input.approved = true) := by
  unfold checkEnvelopeForPayment at h
  split at h
  · simp at h
  · rename_i digest
    refine ⟨not_not.mp digest, ?_⟩
    split at h
    · simp at h
    · rename_i mandate hm
      by_cases hc : mandateCodes input mandate = []
      · simp only [mandateCodes, List.append_eq_nil_iff, codeWhen_eq_nil] at hc
        obtain ⟨⟨⟨⟨⟨-, amount⟩, mandateExpiry⟩, envelopeExpiry⟩, approval⟩, -⟩ := hc
        refine ⟨mandate, hm, ?_, ?_, ?_, fun auto => ?_⟩
        · simpa using amount
        · simpa using mandateExpiry
        · simpa using envelopeExpiry
        · simpa [auto] using approval
      · simp [hc] at h

/-! ### Material changes -/

structure MaterialChange where
  field : String
  before : String
  after : String
deriving DecidableEq

/-- A changed field, rendered before and after. -/
def changeOf {α : Type} [DecidableEq α] (field : String) (render : α → String)
    (before after : α) : List MaterialChange :=
  if before ≠ after then [⟨field, render before, render after⟩] else []

/-- `JSON.stringify` of the items: fields in the order in which they are built. -/
def itemsText (items : List EnvelopeItem) : String := Json.stringify (.arr (items.map EnvelopeItem.toJson))

/-- The changes between two envelopes whose items have the texts given. -/
def changesBetween (approved candidate : CommerceEnvelope) (beforeItems afterItems : String) :
    List MaterialChange :=
  changeOf "merchantId" id approved.merchantId candidate.merchantId ++
    changeOf "currency" id approved.currency candidate.currency ++
    changeOf "totalMinor" toString approved.totalMinor candidate.totalMinor ++
    changeOf "subtotalMinor" toString approved.subtotalMinor candidate.subtotalMinor ++
    changeOf "shippingMinor" toString approved.shippingMinor candidate.shippingMinor ++
    changeOf "taxMinor" toString approved.taxMinor candidate.taxMinor ++
    changeOf "returnPolicyDigest" id approved.returnPolicyDigest candidate.returnPolicyDigest ++
    changeOf "shippingDestinationDigest" id approved.shippingDestinationDigest
      candidate.shippingDestinationDigest ++
    changeOf "expiresAt" id approved.expiresAt candidate.expiresAt ++
    changeOf "mandateId" id approved.mandateId candidate.mandateId ++
    changeOf "items" id beforeItems afterItems

def materialChanges (approved candidate : CommerceEnvelope) : List MaterialChange :=
  changesBetween approved candidate (itemsText approved.items) (itemsText candidate.items)

def requiresReapproval (approved candidate : CommerceEnvelope) : Bool :=
  !(materialChanges approved candidate).isEmpty

theorem requiresReapproval_of_totalMinor {approved candidate : CommerceEnvelope}
    (h : approved.totalMinor ≠ candidate.totalMinor) :
    requiresReapproval approved candidate = true := by
  simp [requiresReapproval, materialChanges, changesBetween, changeOf, h]

theorem requiresReapproval_of_items {approved candidate : CommerceEnvelope}
    (h : itemsText approved.items ≠ itemsText candidate.items) :
    requiresReapproval approved candidate = true := by
  simp [requiresReapproval, materialChanges, changesBetween, changeOf, h]

end AgentReady
