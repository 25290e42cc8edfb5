import AgentReady.Domain.Injective
import AgentReady.Domain.Policy

/-!
Which changes require approval again (`packages/domain/src/policy.ts`).

The comparison reads ten fields and the JSON text of the items. An envelope is therefore looked at as the
object that is compared: its keys may be in any order, at every depth.

* `reapproval_iff`: where approval is required for just the material changes.
* `reapproval_false`: another inventory reservation does not require it.
-/

namespace AgentReady

open Json

/-- An envelope and the object that carries it, with its keys in any order. -/
structure WrittenEnvelope where
  envelope : CommerceEnvelope
  value : Json
  writable : value.Writable
  carries : value.Matches envelope.toJson

theorem matches_refl {a : Json} (writable : a.Writable) : a.Matches a :=
  (canonicalize_eq_iff writable writable).mp rfl

/-- The envelope with its keys in the order in which they are built. -/
def CommerceEnvelope.written (e : CommerceEnvelope) : WrittenEnvelope :=
  ⟨e, e.toJson, e.writable, matches_refl e.writable⟩

namespace WrittenEnvelope

/-- The items, as they are written. -/
def items (w : WrittenEnvelope) : Json := (optional (some w.value) "items").getD .null

/-- `JSON.stringify` of the items. -/
def itemsText (w : WrittenEnvelope) : String := stringify w.items

def materialChanges (approved candidate : WrittenEnvelope) : List MaterialChange :=
  changesBetween approved.envelope candidate.envelope approved.itemsText candidate.itemsText

def requiresReapproval (approved candidate : WrittenEnvelope) : Bool :=
  !(materialChanges approved candidate).isEmpty

/-- `envelopeDigest`, of the object. -/
def digest (P : Platform) (w : WrittenEnvelope) : String :=
  P.sha256 (match canonicalize w.value with | .ok text => text | .error _ => "")

end WrittenEnvelope

theorem requiresReapproval_written (approved candidate : CommerceEnvelope) :
    approved.written.requiresReapproval candidate.written = requiresReapproval approved candidate := rfl

theorem digest_written (P : Platform) (e : CommerceEnvelope) : e.written.digest P = P.envelopeDigest e := rfl

/-! ### Material fields -/

/-- The fields that are compared apart from the items are the same. -/
structure SameTerms (a c : CommerceEnvelope) : Prop where
  merchantId : a.merchantId = c.merchantId
  currency : a.currency = c.currency
  totalMinor : a.totalMinor = c.totalMinor
  subtotalMinor : a.subtotalMinor = c.subtotalMinor
  shippingMinor : a.shippingMinor = c.shippingMinor
  taxMinor : a.taxMinor = c.taxMinor
  returnPolicyDigest : a.returnPolicyDigest = c.returnPolicyDigest
  shippingDestinationDigest : a.shippingDestinationDigest = c.shippingDestinationDigest
  expiresAt : a.expiresAt = c.expiresAt
  mandateId : a.mandateId = c.mandateId

/-- No field that the material-change rule names differs. -/
structure SameMaterial (a c : CommerceEnvelope) : Prop extends SameTerms a c where
  items : a.items = c.items
  inventoryHoldId : a.inventoryHoldId = c.inventoryHoldId

theorem changeOf_eq_nil {α : Type} [DecidableEq α] {field : String} {render : α → String} {before after : α} :
    changeOf field render before after = [] ↔ before = after := by
  unfold changeOf
  split <;> simp_all

theorem changesBetween_eq_nil {a c : CommerceEnvelope} {before after : String} :
    changesBetween a c before after = [] ↔ SameTerms a c ∧ before = after := by
  simp only [changesBetween, List.append_eq_nil_iff, changeOf_eq_nil]
  constructor
  · rintro ⟨⟨⟨⟨⟨⟨⟨⟨⟨⟨h₁, h₂⟩, h₃⟩, h₄⟩, h₅⟩, h₆⟩, h₇⟩, h₈⟩, h₉⟩, h₁₀⟩, texts⟩
    exact ⟨⟨h₁, h₂, h₃, h₄, h₅, h₆, h₇, h₈, h₉, h₁₀⟩, texts⟩
  · rintro ⟨⟨h₁, h₂, h₃, h₄, h₅, h₆, h₇, h₈, h₉, h₁₀⟩, texts⟩
    exact ⟨⟨⟨⟨⟨⟨⟨⟨⟨⟨h₁, h₂⟩, h₃⟩, h₄⟩, h₅⟩, h₆⟩, h₇⟩, h₈⟩, h₉⟩, h₁₀⟩, texts⟩

/-- Approval is required where a term or the text of the items differs. -/
theorem requiresReapproval_iff {a c : WrittenEnvelope} :
    a.requiresReapproval c = true ↔ ¬ (SameTerms a.envelope c.envelope ∧ a.itemsText = c.itemsText) := by
  rw [WrittenEnvelope.requiresReapproval, Bool.not_eq_true', ← Bool.not_eq_true, List.isEmpty_iff,
    WrittenEnvelope.materialChanges, changesBetween_eq_nil]

/-! ### Items -/

/-- What the object holds as its items. -/
theorem WrittenEnvelope.items_spec (w : WrittenEnvelope) : w.items.Writable ∧
    w.items.Matches (.arr (w.envelope.items.map EnvelopeItem.toJson)) := by
  obtain ⟨e, value, writable, carries⟩ := w
  cases value with
  | obj fields =>
      have stored : field? e.toFields "items" = some (.arr (e.items.map EnvelopeItem.toJson)) := rfl
      have present : field? fields "items" ≠ none := by
        intro absent
        rw [absent_of_matches writable carries absent] at stored
        cases stored
      obtain ⟨items, found⟩ := Option.ne_none_iff_exists'.mp present
      have held : (WrittenEnvelope.mk e (.obj fields) writable carries).items = items := by
        simp [WrittenEnvelope.items, Json.optional, Json.access, found]
      rw [held]
      exact ⟨writableFields_iff.mp writable.2 _ (mem_of_field? found), matches_field carries "items" found stored⟩
  | _ => exact carries.elim

theorem items_writable (e : CommerceEnvelope) : (Json.arr (e.items.map EnvelopeItem.toJson)).Writable := by
  refine writableItems_iff.mpr fun i mem => ?_
  obtain ⟨item, -, rfl⟩ := List.mem_map.mp mem
  exact item.writable

/-- Items with one text are the same. -/
theorem items_of_itemsText {a c : WrittenEnvelope} (same : a.itemsText = c.itemsText) :
    a.envelope.items = c.envelope.items := by
  obtain ⟨writable, matches_⟩ := a.items_spec
  obtain ⟨writable', matches'⟩ := c.items_spec
  have items := stringify_injective writable writable' same
  refine items_injective ((canonicalize_eq_iff (items_writable _) (items_writable _)).mp ?_)
  rw [← (canonicalize_eq_iff writable (items_writable _)).mpr matches_,
    ← (canonicalize_eq_iff writable' (items_writable _)).mpr matches', items]

theorem envelope_of_digest {P : Platform} (collisionFree : Function.Injective P.sha256) {a c : WrittenEnvelope}
    (same : a.digest P = c.digest P) : a.envelope = c.envelope := by
  have text : ∀ w : WrittenEnvelope, w.digest P = P.sha256 w.envelope.canonicalText := by
    intro w
    rw [WrittenEnvelope.digest, (canonicalize_eq_iff w.writable w.envelope.writable).mpr w.carries,
      w.envelope.canonicalize_toJson]
  rw [text, text] at same
  exact canonicalText_injective (collisionFree same)

/-! ### The rule -/

/-- Only the inventory reservation differs, of what is material. -/
def OnlyHold (a c : WrittenEnvelope) : Prop :=
  SameTerms a.envelope c.envelope ∧ a.itemsText = c.itemsText ∧
    a.envelope.inventoryHoldId ≠ c.envelope.inventoryHoldId

/-- Nothing material differs, but the items are written with their keys in another order. -/
def OnlyOrder (a c : WrittenEnvelope) : Prop :=
  SameMaterial a.envelope c.envelope ∧ a.itemsText ≠ c.itemsText

/-- Approval is required again for just the material changes, and never where the digest is the same. -/
def FollowsRule (P : Platform) (a c : WrittenEnvelope) : Prop :=
  (a.requiresReapproval c = true ↔ ¬ SameMaterial a.envelope c.envelope) ∧
    (a.digest P = c.digest P → a.requiresReapproval c = false)

/-- Where the rule is followed: not where only the reservation differs, nor where only the order of an item's
keys does. -/
theorem reapproval_iff (P : Platform) (collisionFree : Function.Injective P.sha256) (a c : WrittenEnvelope) :
    FollowsRule P a c ↔ ¬ OnlyHold a c ∧ ¬ OnlyOrder a c := by
  constructor
  · rintro ⟨rule, -⟩
    rw [requiresReapproval_iff, not_iff_not] at rule
    constructor
    · rintro ⟨terms, texts, hold⟩
      exact hold (rule.mp ⟨terms, texts⟩).inventoryHoldId
    · rintro ⟨same, texts⟩
      exact texts (rule.mpr same).2
  · rintro ⟨noHold, noOrder⟩
    have rule : a.requiresReapproval c = true ↔ ¬ SameMaterial a.envelope c.envelope := by
      rw [requiresReapproval_iff, not_iff_not]
      constructor
      · rintro ⟨terms, texts⟩
        refine ⟨terms, items_of_itemsText texts, ?_⟩
        by_contra hold
        exact noHold ⟨terms, texts, hold⟩
      · intro same
        refine ⟨same.toSameTerms, ?_⟩
        by_contra texts
        exact noOrder ⟨same, texts⟩
    refine ⟨rule, fun digests => ?_⟩
    have envelopes := envelope_of_digest collisionFree digests
    rw [← Bool.not_eq_true, rule, not_not, envelopes]
    exact ⟨⟨rfl, rfl, rfl, rfl, rfl, rfl, rfl, rfl, rfl, rfl⟩, rfl, rfl⟩

namespace Sample

def reservedEnvelope (inventoryHoldId : String) : CommerceEnvelope where
  version := 1
  logicalOrderId := "ord_1"
  merchantId := "merchant"
  quoteId := "quote_1"
  customerId := "customer"
  items := [⟨"p_1", "sku_1", ⟨"UK 9", "black"⟩, 1, 100⟩]
  subtotalMinor := 100
  taxMinor := 0
  shippingMinor := 0
  totalMinor := 100
  currency := "INR"
  inventoryHoldId
  returnPolicyDigest := "returns"
  shippingDestinationDigest := "destination"
  mandateId := "mandate_1"
  issuedAt := "2026-01-01T00:00:00.000Z"
  expiresAt := "2026-01-01T00:30:00.000Z"
  nonce := "nonce_1"

def dearerEnvelope : CommerceEnvelope := { reservedEnvelope "hold_1" with totalMinor := 200 }

end Sample

/-- Another total is a material change, and requires approval. -/
theorem reapproval_iff_dearer : FollowsRule ⟨id, fun _ => id, fun _ => "", fun _ => none, fun _ => none, 0⟩
    (Sample.reservedEnvelope "hold_1").written Sample.dearerEnvelope.written := by
  refine (reapproval_iff _ Function.injective_id _ _).mpr ⟨?_, ?_⟩
  · rintro ⟨terms, -⟩
    exact absurd terms.totalMinor (by decide)
  · rintro ⟨same, -⟩
    exact absurd same.totalMinor (by decide)

/-- Another inventory reservation is a material change, and does not require approval. -/
theorem reapproval_false : ¬ ∀ a c : WrittenEnvelope,
    a.requiresReapproval c = true ↔ ¬ SameMaterial a.envelope c.envelope := by
  intro rule
  have required := (rule (Sample.reservedEnvelope "hold_1").written (Sample.reservedEnvelope "hold_2").written).mpr
    fun same => absurd same.inventoryHoldId (by decide)
  rw [requiresReapproval_iff] at required
  exact required ⟨⟨rfl, rfl, rfl, rfl, rfl, rfl, rfl, rfl, rfl, rfl⟩, rfl⟩

end AgentReady
