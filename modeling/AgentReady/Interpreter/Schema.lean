import AgentReady.Domain.Canonical

/-!
The shopping intent of a session and the interpreter schema
(`apps/web/lib/intent.ts`, `apps/web/lib/interpreter/schema.ts`).

A proposal carries its value under its field, so a proposal of one field with the value
of another cannot be built. Confidence and the schema version of an interpretation are
left out: a validated interpretation has a fixed version and nothing reads the
confidence.

* `hasIntentChanged_iff`: the hand-written field comparison finds every change.
-/

namespace AgentReady

structure ParsedIntent where
  size : Option String := none
  colour : Option String := none
  useCase : Option String := none
  maxAmountMinor : Option Json.Number := none
  mustBeReturnable : Option Bool := none
  deliverBy : Option String := none
  distanceKm : Option Json.Number := none
  fit : Option String := none
  cushioning : Option String := none
deriving DecidableEq

namespace ParsedIntent

/-- The intent as the object it is in the source: unset fields are absent. -/
def toJson (i : ParsedIntent) : Json :=
  Json.ofFields [
    ("size", i.size.map .str),
    ("colour", i.colour.map .str),
    ("useCase", i.useCase.map .str),
    ("maxAmountMinor", i.maxAmountMinor.map .num),
    ("mustBeReturnable", i.mustBeReturnable.map .bool),
    ("deliverBy", i.deliverBy.map .str),
    ("distanceKm", i.distanceKm.map .num),
    ("fit", i.fit.map .str),
    ("cushioning", i.cushioning.map .str)]

/-- Every amount of the intent can be written as JSON. -/
def Finite (i : ParsedIntent) : Prop :=
  i.maxAmountMinor.all Json.Number.isFinite ∧ i.distanceKm.all Json.Number.isFinite

instance (i : ParsedIntent) : Decidable i.Finite := inferInstanceAs (Decidable (_ ∧ _))

end ParsedIntent

/-- `intentDigest`: the canonical text of the intent, refused for an amount that is not
finite. -/
def intentDigest (i : ParsedIntent) : Except String String := canonicalize i.toJson

def hasIntentChanged (before after : ParsedIntent) : Bool :=
  before.size ≠ after.size || before.colour ≠ after.colour ||
    before.useCase ≠ after.useCase || before.maxAmountMinor ≠ after.maxAmountMinor ||
    before.mustBeReturnable ≠ after.mustBeReturnable || before.deliverBy ≠ after.deliverBy ||
    before.distanceKm ≠ after.distanceKm || before.fit ≠ after.fit ||
    before.cushioning ≠ after.cushioning

theorem hasIntentChanged_iff {before after : ParsedIntent} :
    hasIntentChanged before after = true ↔ before ≠ after := by
  cases before
  cases after
  simp only [hasIntentChanged, Bool.or_eq_true, decide_eq_true_eq, ne_eq,
    ParsedIntent.mk.injEq, not_and_or]
  tauto

/-! ### Schema -/

inductive InterpretationAction where
  | search | refine | compare | explain | select | restart
deriving DecidableEq, Repr

namespace InterpretationAction

def name : InterpretationAction → String
  | search => "search"
  | refine => "refine"
  | compare => "compare"
  | explain => "explain"
  | select => "select"
  | restart => "restart"

/-- `INTERPRETER_ACTIONS`. -/
def all : List InterpretationAction := [search, refine, compare, explain, select, restart]

end InterpretationAction

def schemaVersion : String := "ai1.v1"
def hardConstraintNames : List String :=
  ["size", "useCase", "colour", "maxAmountMinor", "mustBeReturnable", "deliverBy"]
def softPreferenceNames : List String := ["fit", "cushioning", "distanceKm"]
def supportedSizes : List String := ["UK 6", "UK 7", "UK 8", "UK 9", "UK 10", "UK 11"]
def supportedUseCases : List String := ["road", "trail", "gym", "casual"]
def supportedColours : List String := ["black", "white", "grey", "navy", "blue", "red"]
def supportedFits : List String := ["wide", "narrow", "standard"]
def supportedCushioning : List String := ["max", "balanced", "minimal"]
def minAmountMinor : Json.Number := .ofInt 10000
def maxAmountMinor : Json.Number := .ofInt 1000000
def minDistanceKm : Json.Number := .ofInt 1
def maxDistanceKm : Json.Number := .ofInt 50
def maxHardConstraints : Nat := 6
def maxSoftPreferences : Nat := 3
def maxCorrections : Nat := 6
def maxRemovals : Nat := 6
def maxAmbiguities : Nat := 5
def maxProductIds : Nat := 5
def maxStringLength : Nat := 80
def maxEvidenceLength : Nat := 120

def allowedTopLevelKeys : List String :=
  ["schemaVersion", "action", "proposedHardConstraints", "proposedSoftPreferences",
    "corrections", "removals", "ambiguities", "confidence", "requestedProductIds"]

/-- The keys of a proposed constraint or preference. -/
def allowedProposalKeys : List String := ["name", "value", "evidence"]

inductive HardConstraintValue where
  | size (v : String)
  | useCase (v : String)
  | colour (v : String)
  | maxAmountMinor (v : Json.Number)
  | mustBeReturnable (v : Bool)
  | deliverBy (v : String)
deriving DecidableEq

def HardConstraintValue.name : HardConstraintValue → String
  | size _ => "size"
  | useCase _ => "useCase"
  | colour _ => "colour"
  | maxAmountMinor _ => "maxAmountMinor"
  | mustBeReturnable _ => "mustBeReturnable"
  | deliverBy _ => "deliverBy"

inductive SoftPreferenceValue where
  | fit (v : String)
  | cushioning (v : String)
  | distanceKm (v : Json.Number)
deriving DecidableEq

def SoftPreferenceValue.name : SoftPreferenceValue → String
  | fit _ => "fit"
  | cushioning _ => "cushioning"
  | distanceKm _ => "distanceKm"

structure ProposedHardConstraint where
  value : HardConstraintValue
  evidence : String
deriving DecidableEq

structure ProposedSoftPreference where
  value : SoftPreferenceValue
  evidence : String
deriving DecidableEq

structure StructuredInterpretation where
  action : InterpretationAction
  proposedHardConstraints : List ProposedHardConstraint
  proposedSoftPreferences : List ProposedSoftPreference
  corrections : List String
  removals : List String
  ambiguities : List String
  requestedProductIds : List String
deriving DecidableEq

end AgentReady
