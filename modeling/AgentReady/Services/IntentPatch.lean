import AgentReady.Services.Respond

/-!
Direct edits of the intent: `intentPatch` (`apps/web/lib/services.ts`).

A patch is validated as a whole, applied, and ranked at once. An intent that cannot be
ranked puts the order in `CLARIFYING` without the transition check.
-/

namespace AgentReady

open Svc

/-- The patch, as the own properties of the object. -/
abbrev Patch := List (String × Json)

/-- `allowedFields`: the type each field must have. -/
def allowedFields : List (String × String) :=
  [("maxAmountMinor", "number"), ("size", "string"), ("colour", "string"), ("useCase", "string"),
    ("fit", "string"), ("cushioning", "string"), ("distanceKm", "number"),
    ("mustBeReturnable", "boolean")]

/-- The text of a property that every object inherits, for which `key in allowedFields`
holds although no type is listed. -/
def inheritedText (key : String) : Option String :=
  if key = "__proto__" then some "[object Object]"
  else if key = "constructor" then some "function Object() \x7b [native code] \x7d"
  else if ["hasOwnProperty", "isPrototypeOf", "propertyIsEnumerable", "toLocaleString",
      "toString", "valueOf", "__defineGetter__", "__defineSetter__", "__lookupGetter__",
      "__lookupSetter__"].contains key then
    some ("function " ++ key ++ "() \x7b [native code] \x7d")
  else none

structure PatchError where
  message : String
  code : String

/-- The first field that is unknown or has the wrong type. -/
def fieldError : Patch → Option PatchError
  | [] => none
  | (key, value) :: rest =>
      match (allowedFields.find? (·.1 = key)).map Prod.snd with
      | some expected =>
          if value.typeof = expected then fieldError rest
          else some ⟨s!"Invalid type for {key}: expected {expected}", "invalid_type"⟩
      | none => match inheritedText key with
          | some text => some ⟨s!"Invalid type for {key}: expected {text}", "invalid_type"⟩
          | none => some ⟨s!"Unknown intent field: {key}", "invalid_field"⟩

def patchText (patch : Patch) (name : String) : Option String :=
  match Json.field? patch name with
  | some (.str s) => some s
  | _ => none

def patchNumber (patch : Patch) (name : String) : Option Json.Number :=
  match Json.field? patch name with
  | some (.num n) => some n
  | _ => none

/-- A text that is not among the valid ones. -/
def domainError (value : Option String) (valid : List String) (label code : String) :
    Option PatchError :=
  match value with
  | none => none
  | some v => if valid.contains v then none else some ⟨s!"Invalid {label}: {v}", code⟩

/-- The first value that is out of range. An empty size clears the size; an empty colour or
use case is refused. -/
def rangeError (patch : Patch) : Option PatchError :=
  let budget : Option PatchError := match patchNumber patch "maxAmountMinor" with
    | some n =>
        if n.lt (.ofInt 1000) || (Json.Number.ofInt 1000000).lt n then
          some ⟨"Budget must be between ₹100 and ₹1,00,000", "out_of_range"⟩
        else none
    | none => none
  (((budget).or
    (domainError ((patchText patch "size").filter (· ≠ "")) supportedSizes "size"
      "invalid_size")).or
    (domainError (patchText patch "colour") supportedColours "colour" "invalid_colour")).or
    (domainError (patchText patch "useCase") supportedUseCases "use case" "invalid_use_case")

/-- A patched text: kept where the patch does not name it, cleared by an empty text. -/
def patchedText (current : Option String) (value : Option String) : Option String :=
  match value with
  | none => current
  | some v => if v = "" then none else some v

def applyPatch (i : ParsedIntent) (patch : Patch) : ParsedIntent :=
  { i with
    maxAmountMinor := (patchNumber patch "maxAmountMinor").or i.maxAmountMinor
    size := patchedText i.size (patchText patch "size")
    colour := patchedText i.colour (patchText patch "colour")
    useCase := patchedText i.useCase (patchText patch "useCase")
    fit := patchedText i.fit (patchText patch "fit")
    cushioning := patchedText i.cushioning (patchText patch "cushioning")
    distanceKm := match patchNumber patch "distanceKm" with
      | none => i.distanceKm
      | some n => if n = 0 then none else some n
    mustBeReturnable := match Json.field? patch "mustBeReturnable" with
      | some (.bool b) => if b then some true else none
      | _ => i.mustBeReturnable }

/-- The state change that precedes the new ranking. -/
def patchTransition (orderId : String) (state : OrderState) (materialChange : Bool) : Svc Unit := do
  if state = .awaitingApproval && materialChange then setState orderId .quoted
  else if state = .approved && materialChange then setState orderId .reapprovalRequired
  else if state ≠ .awaitingApproval ∧ state ≠ .reapprovalRequired ∧ state ≠ .draft ∧
      state ≠ .clarifying ∧ state ≠ .approved then
    setState orderId .quoted

/-- The state change that follows the new ranking. -/
def patchOutcome (orderId : String) (ranked : Bool) : Svc Unit := do
  if !ranked then updateSession orderId fun s => { s with state := .clarifying }
  else if (← stateOf orderId) = .clarifying then setState orderId .quoted

/-- Rank for the patched intent, and report the session as it then is. -/
def rankPatched (cfg : Config) (orderId : String) (session : Session) (patch : Patch)
    (intent : ParsedIntent) : Svc Reply := do
  let ranking := rankProducts (buildPurchaseIntent intent) shoeCatalog (← now)
  recordRecommendation cfg orderId ranking
  syncMemory orderId ranking.productIds ranking.missingNames "intent_patch"
    (joinWith "," (patch.map Prod.fst))
  patchOutcome orderId ranking.ranked
  let digest ← digestOf intent
  log cfg fun id now =>
    { eventId := id, logicalOrderId := orderId, type := "intent.patched", actor := .customer,
      occurredAt := now, inputDigest := some digest, decision := some .allow,
      reasonCodes := ["intent_patch_applied"] }
  let binding ← recommendationBinding orderId
  let after := (← session? orderId).getD session
  return .patched
    { ok := true
      state := after.state
      parsedIntent := some after.intent
      intentVersion := some after.dialogue.intentVersion
      hits := if ranking.ranked then ranking.hits else []
      binding := some binding
      fitScores := after.machineSpend.map (·.fitScores) }

/-- Apply a valid patch. -/
def patchIntent (cfg : Config) (orderId : String) (session : Session) (patch : Patch) :
    Svc Reply := do
  let previousEnvelope ← record? orderId
  let intent := applyPatch session.intent patch
  updateSession orderId fun s => { s with intent := intent }
  let materialChange := hasIntentChanged session.intent intent
  if materialChange then
    withdrawQuote cfg orderId previousEnvelope ["intent_patch", "material_change_refinement"]
  patchTransition orderId session.state materialChange
  rankPatched cfg orderId session patch intent

def intentPatch (cfg : Config) (orderId : String) (patch : Patch) (expectedIntentVersion : Int) :
    Svc Reply := do
  match ← session? orderId with
  | none => return .patched { ok := false, state := .draft, error := some "Unknown session" }
  | some session =>
  if session.dialogue.intentVersion ≠ expectedIntentVersion then
    return .patched
      { ok := false, state := session.state,
        error := some "Intent version mismatch. Please refresh.",
        reasonCodes := ["version_mismatch"] }
  else match (fieldError patch).or (rangeError patch) with
    | some e =>
        return .patched
          { ok := false, state := session.state, error := some e.message, reasonCodes := [e.code] }
    | none => patchIntent cfg orderId session patch

end AgentReady
