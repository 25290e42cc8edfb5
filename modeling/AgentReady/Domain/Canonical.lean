import AgentReady.Domain.Types

/-!
Canonical text, digests and identifiers (`packages/domain/src/canonical.ts`).

SHA-256, HMAC-SHA-256 and the random source come with the platform, so a development
that needs them collision free or fresh says so where it does. Everything else here is
computed: the canonical text of a JSON value sorts object keys and refuses a number
that is not finite.
-/

namespace AgentReady

/-- What the program takes from its platform. -/
structure Platform where
  sha256 : String → String
  hmacSha256 : (secret payload : String) → String
  /-- The hex text of the n-th draw of six random bytes. -/
  randomHex : Nat → String
  /-- `Date.parse`, in milliseconds; `none` where it is NaN. -/
  parseDate : String → Option Int
  /-- `JSON.parse`; `none` where it throws. -/
  parseJson : String → Option Json
  /-- Offset of local time from UTC, in milliseconds. -/
  localOffset : Int

def joinWith (sep : String) : List String → String
  | [] => ""
  | [s] => s
  | s :: rest => s ++ sep ++ joinWith sep rest

/-- The UTF-16 code units of a character. -/
def utf16 (c : Char) : List Nat :=
  if c.toNat < 0x10000 then [c.toNat]
  else [0xD800 + (c.toNat - 0x10000) / 0x400, 0xDC00 + (c.toNat - 0x10000) % 0x400]

def codeUnits (s : String) : List Nat := s.toList.flatMap utf16

/-- One sequence of units is the other or stands before it, as words do in a dictionary. -/
def unitsLe : List Nat → List Nat → Bool
  | [], _ => true
  | _ :: _, [] => false
  | u :: us, v :: vs => u < v || (u = v && unitsLe us vs)

/-- The order of `sort` on keys. -/
def byKey (a b : String × String) : Prop := unitsLe (codeUnits a.1) (codeUnits b.1) = true

instance : DecidableRel byKey := fun a b =>
  inferInstanceAs (Decidable (unitsLe (codeUnits a.1) (codeUnits b.1) = true))

mutual
/-- `canonicalStringify`. -/
def canonicalize : Json → Except String String
  | .null => .ok "null"
  | .str s => .ok (Json.quote s)
  | .num n => if n.isFinite then .ok n.render
      else .error s!"Cannot canonicalize non-finite number: {n.render}"
  | .bool b => .ok (if b then "true" else "false")
  | .arr items => do
      let parts ← canonicalizeItems items
      return "[" ++ joinWith "," parts ++ "]"
  | .obj fields => do
      let parts ← canonicalizeFields fields
      let sorted := parts.insertionSort byKey
      return "\x7b" ++ joinWith "," (sorted.map fun p => Json.quote p.1 ++ ":" ++ p.2) ++ "\x7d"

def canonicalizeItems : List Json → Except String (List String)
  | [] => .ok []
  | item :: rest => do
      let head ← canonicalize item
      let tail ← canonicalizeItems rest
      return head :: tail

def canonicalizeFields : List (String × Json) → Except String (List (String × String))
  | [] => .ok []
  | (key, value) :: rest => do
      let head ← canonicalize value
      let tail ← canonicalizeFields rest
      return (key, head) :: tail
end

/-- A minor-unit amount as a JSON number. -/
def minorJson (n : Int) : Json := .num (.ofInt n)

def EnvelopeItem.toJson (item : EnvelopeItem) : Json :=
  .obj [
    ("productId", .str item.productId),
    ("sku", .str item.sku),
    ("variant", .obj [("size", .str item.variant.size), ("colour", .str item.variant.colour)]),
    ("quantity", minorJson item.quantity),
    ("unitAmountMinor", minorJson item.unitAmountMinor)]

/-- A field that may be absent. -/
def optionalField (key : String) (value : Option String) : List (String × Json) :=
  match value with
  | none => []
  | some text => [(key, .str text)]

/-- The fields of an envelope that are there. -/
def CommerceEnvelope.toFields (e : CommerceEnvelope) : List (String × Json) :=
  [("version", minorJson e.version),
    ("logicalOrderId", .str e.logicalOrderId),
    ("merchantId", .str e.merchantId),
    ("quoteId", .str e.quoteId),
    ("customerId", .str e.customerId),
    ("items", .arr (e.items.map EnvelopeItem.toJson)),
    ("subtotalMinor", minorJson e.subtotalMinor),
    ("taxMinor", minorJson e.taxMinor),
    ("shippingMinor", minorJson e.shippingMinor),
    ("totalMinor", minorJson e.totalMinor),
    ("currency", .str e.currency),
    ("inventoryHoldId", .str e.inventoryHoldId),
    ("returnPolicyDigest", .str e.returnPolicyDigest),
    ("shippingDestinationDigest", .str e.shippingDestinationDigest),
    ("mandateId", .str e.mandateId),
    ("issuedAt", .str e.issuedAt),
    ("expiresAt", .str e.expiresAt),
    ("nonce", .str e.nonce)] ++
    optionalField "buyerAgentId" e.buyerAgentId ++ optionalField "approvalEventId" e.approvalEventId

def CommerceEnvelope.toJson (e : CommerceEnvelope) : Json := .obj e.toFields

/-- The canonical text of an envelope. Its amounts are integers, so there is one. -/
def CommerceEnvelope.canonicalText (e : CommerceEnvelope) : String :=
  match canonicalize e.toJson with
  | .ok text => text
  | .error _ => ""

namespace Platform

variable (P : Platform)

def envelopeDigest (e : CommerceEnvelope) : String := P.sha256 e.canonicalText

def signEnvelope (e : CommerceEnvelope) (secret : String) : String :=
  P.hmacSha256 secret (P.envelopeDigest e)

/-- `newId`, from the n-th draw of the random source. -/
def newId (tag : String) (draw : Nat) : String := tag ++ "_" ++ P.randomHex draw

end Platform

/-- No envelope holds a number that cannot be written, so `canonicalText` is the text
`canonicalize` gives. -/
theorem CommerceEnvelope.canonicalize_toJson (e : CommerceEnvelope) :
    canonicalize e.toJson = .ok e.canonicalText := by
  have item : ∀ i : EnvelopeItem, ∃ text, canonicalize i.toJson = .ok text :=
    fun i => ⟨_, rfl⟩
  have items : ∀ l : List EnvelopeItem,
      ∃ parts, canonicalizeItems (l.map EnvelopeItem.toJson) = .ok parts := by
    intro l
    induction l with
    | nil => exact ⟨[], rfl⟩
    | cons i rest ih =>
        obtain ⟨text, hi⟩ := item i
        obtain ⟨parts, hrest⟩ := ih
        exact ⟨text :: parts, by simp [canonicalizeItems, hi, hrest, bind, Except.bind, pure,
          Except.pure]⟩
  obtain ⟨parts, h⟩ := items e.items
  have ok : ∃ text, canonicalize e.toJson = .ok text := by
    simp only [CommerceEnvelope.toJson, CommerceEnvelope.toFields, canonicalize]
    cases e.buyerAgentId <;> cases e.approvalEventId
    all_goals
      simp only [optionalField, List.append_nil, List.cons_append, List.nil_append, canonicalizeFields,
        canonicalize, h]
      exact ⟨_, rfl⟩
  obtain ⟨text, eq⟩ := ok
  simp [canonicalText, eq]

end AgentReady
