import AgentReady.Interpreter.Deterministic

/-!
Validation of proposed interpretations (`apps/web/lib/interpreter/validate.ts`,
`provider.ts`) and of extracted soft preferences (`sanitizeSoftPreferences` of `llm.ts`).

A validator returns its issues beside its value. Listing the keys of a `null` element
throws, which is the outer `Except`.

* `sanitizeSoftPreferences_finite`: an extracted distance is finite.
-/

namespace AgentReady

structure ValidationIssue where
  field : String
  reason : String
deriving DecidableEq

/-- A value, beside the issues found on the way to it. -/
abbrev Checked (α : Type) := List ValidationIssue × α

/-- Length in UTF-16 code units. -/
def utf16Length (s : String) : Nat :=
  s.toList.foldl (fun n c => n + if c.toNat < 0x10000 then 1 else 2) 0

def isDigits (s : String) : Bool := !s.isEmpty && s.toList.all Char.isDigit

/-- The number, moved into `[low, high]`. -/
def clamp (low high n : Json.Number) : Json.Number :=
  let n := if n.lt low then low else n
  if high.lt n then high else n

def validateArray (value : Option Json) (max : Nat) (field : String) : Checked (List Json) :=
  match value with
  | none => ([], [])
  | some (.arr items) =>
      (if items.length > max then [⟨field, "array_too_large_" ++ toString max⟩] else [],
        items.take max)
  | some _ => ([⟨field, "not_an_array"⟩], [])

def validateStringArray (value : Option Json) (max : Nat) (field : String) :
    Checked (List String) :=
  let (issues, items) := validateArray value max field
  let element : Json → Checked (List String)
    | .str s =>
        if s.isEmpty then ([⟨field, "non_string_element"⟩], [])
        else if utf16Length s > maxStringLength then
          ([⟨field ++ "." ++ String.ofList (s.toList.take 16), "string_too_long"⟩], [])
        else ([], [s])
    | _ => ([⟨field, "non_string_element"⟩], [])
  let checked := items.map element
  (issues ++ checked.flatMap Prod.fst, checked.flatMap Prod.snd)

/-- `Object.keys`. -/
def objectKeys : Json → Except String (List String)
  | .null => .error "Cannot convert undefined or null to object"
  | .obj fields => .ok (fields.map Prod.fst)
  | .arr items => .ok (items.zipIdx.map fun p => toString p.2)
  | .str s => .ok ((List.range (utf16Length s)).map toString)
  | .bool _ | .num _ => .ok []

/-- A property of an element that may not be an object. -/
def property (item : Json) (name : String) : Option Json :=
  match item with
  | .obj fields => Json.field? fields name
  | _ => none

def inRange (low high n : Json.Number) : Bool := low.le n && n.le high

/-- `normalizeHardValue`: `none` where the proposal must be rejected. -/
def normalizeHardValue (P : Platform) (name : String) (value : Option Json) :
    Option HardConstraintValue :=
  match name, value with
  | "size", some (.num n) =>
      if inRange (.ofInt 6) (.ofInt 11) n then some (.size ("UK " ++ n.render)) else none
  | "size", some (.str s) =>
      let n := natOfDigits (s.toList.filter Char.isDigit)
      if supportedSizes.contains s then some (.size s)
      else if 6 ≤ n ∧ n ≤ 11 then some (.size ("UK " ++ toString n)) else none
  | "useCase", some (.str s) => if supportedUseCases.contains s then some (.useCase s) else none
  | "colour", some (.str s) => if supportedColours.contains s then some (.colour s) else none
  | "maxAmountMinor", some (.num n) =>
      if n.isFinite && inRange minAmountMinor maxAmountMinor n then some (.maxAmountMinor n.round)
      else none
  | "maxAmountMinor", some (.str s) =>
      let n := numberOf (natOfDigits s.toList)
      if isDigits s && inRange minAmountMinor maxAmountMinor n then some (.maxAmountMinor n)
      else none
  | "mustBeReturnable", some (.bool b) => some (.mustBeReturnable b)
  | "deliverBy", some (.str s) => (P.parseDate s).map fun ms => .deliverBy (isoString ms)
  | _, _ => none

/-- `normalizeSoftValue`. -/
def normalizeSoftValue (name : String) (value : Option Json) : Option SoftPreferenceValue :=
  match name, value with
  | "fit", some (.str s) => if supportedFits.contains s then some (.fit s) else none
  | "cushioning", some (.str s) =>
      if supportedCushioning.contains s then some (.cushioning s) else none
  | "distanceKm", some (.num n) =>
      if n.isFinite then some (.distanceKm (clamp minDistanceKm maxDistanceKm n.round)) else none
  | "distanceKm", some (.str s) =>
      if isDigits s then
        some (.distanceKm (clamp minDistanceKm maxDistanceKm (numberOf (natOfDigits s.toList))))
      else none
  | _, _ => none

/-- `validateHardConstraints` and `validateSoftPreferences`: an unknown key ends the scan,
any other defect drops the element. -/
def validateProposals {α : Type} (path : String) (names : List String) (badName : String)
    (normalize : String → Option Json → Option α) (message : String) :
    List Json → Except String (Checked (List (α × String)))
  | [] => .ok ([], [])
  | item :: rest => do
      let keys ← objectKeys item
      match keys.find? fun key => !allowedProposalKeys.contains key with
      | some key => return ([⟨path ++ "." ++ key, "unknown_field"⟩], [])
      | none =>
          let more ← validateProposals path names badName normalize message rest
          let skip (field reason : String) : Checked (List (α × String)) :=
            (⟨field, reason⟩ :: more.1, more.2)
          match property item "name" with
          | some (.str name) =>
              let field := path ++ "." ++ name
              if !names.contains name then return skip (path ++ ".name") badName
              else match normalize name (property item "value") with
                | none => return skip field ("invalid_value_for_" ++ name)
                | some value => match property item "evidence" with
                    | some (.str evidence) =>
                        if evidence.isEmpty then return skip (field ++ ".evidence") "missing_evidence"
                        else if utf16Length evidence > maxEvidenceLength then
                          return skip (field ++ ".evidence") "evidence_too_long"
                        else if !includes message.toList evidence.toList then
                          return skip (field ++ ".evidence") "evidence_not_in_message"
                        else return (more.1, (value, evidence) :: more.2)
                    | _ => return skip (field ++ ".evidence") "missing_evidence"
          | _ => return skip (path ++ ".name") badName

def parseAction : Option Json → Option InterpretationAction
  | some (.str s) => InterpretationAction.all.find? fun a => a.name = s
  | _ => none

/-- `validateInterpretation`: the issues of a rejected value, or the interpretation. -/
def validateInterpretation (P : Platform) (message : String) (productIds : List String) :
    Json → Except String (Except (List ValidationIssue) StructuredInterpretation)
  | .obj record => do
      match (record.map Prod.fst).find? fun key => !allowedTopLevelKeys.contains key with
      | some key => return .error [⟨key, "unknown_field"⟩]
      | none =>
          let get := Json.field? record
          let action := parseAction (get "action")
          let version : Bool := match get "schemaVersion" with
            | some (.str s) => s = schemaVersion
            | _ => false
          let confident : Bool := match get "confidence" with
            | some (.num n) => n.isFinite && inRange 0 1 n
            | _ => false
          let hard := validateArray (get "proposedHardConstraints") maxHardConstraints
            "proposedHardConstraints"
          let soft := validateArray (get "proposedSoftPreferences") maxSoftPreferences
            "proposedSoftPreferences"
          let corrections := validateStringArray (get "corrections") maxCorrections "corrections"
          let removals := validateStringArray (get "removals") maxRemovals "removals"
          let ambiguities := validateStringArray (get "ambiguities") maxAmbiguities "ambiguities"
          let requested := validateStringArray (get "requestedProductIds") maxProductIds
            "requestedProductIds"
          let issues :=
            (if version then [] else [⟨"schemaVersion", "unsupported_schema_version"⟩]) ++
              (if action.isSome then [] else [⟨"action", "invalid_action_enum"⟩]) ++
              (if confident then [] else [⟨"confidence", "confidence_out_of_bounds"⟩]) ++
              hard.1 ++ soft.1 ++ corrections.1 ++ removals.1 ++ ambiguities.1 ++ requested.1
          match action, issues with
          | some action, [] =>
              let hard ← validateProposals "proposedHardConstraints" hardConstraintNames
                "invalid_constraint_name" (normalizeHardValue P) message hard.2
              let soft ← validateProposals "proposedSoftPreferences" softPreferenceNames
                "invalid_preference_name" normalizeSoftValue message soft.2
              let unknown := (requested.2.filter fun id => !productIds.contains id).map fun id =>
                (⟨"requestedProductIds." ++ id, "unknown_product_id"⟩ : ValidationIssue)
              match hard.1 ++ soft.1 ++ unknown with
              | [] => return .ok {
                  action
                  proposedHardConstraints := hard.2.map fun p => ⟨p.1, p.2⟩
                  proposedSoftPreferences := soft.2.map fun p => ⟨p.1, p.2⟩
                  corrections := corrections.2
                  removals := removals.2
                  ambiguities := ambiguities.2
                  requestedProductIds := requested.2 }
              | found => return .error found
          | _, found => return .error found
  | _ => .ok (.error [⟨"root", "not_an_object"⟩])

/-! ### Providers -/

inductive InterpretationSource where
  | llm | deterministic
deriving DecidableEq, Repr

/-- Why the provider's proposal is not used: there is none, as the provider is disabled or
failed in one way or another, or it is not a valid one. -/
inductive FallbackReason where
  | unavailable | invalidSchema
deriving DecidableEq, Repr

structure InterpretationOutcome where
  source : InterpretationSource
  interpretation : StructuredInterpretation
  fallbackReason : Option FallbackReason := none
  rejectedReasons : List String := []

/-- `interpretUserMessage`, given what the provider returned: a JSON value, or nothing
where it is disabled or failed. -/
def interpretUserMessage (P : Platform) (now : Int) (message : String)
    (currentIntent : ParsedIntent) (proposal : Option Json) :
    Except String InterpretationOutcome := do
  let fallback := deterministicInterpretation P now message currentIntent
  match proposal with
  | none =>
      return { source := .deterministic, interpretation := fallback, fallbackReason := some .unavailable }
  | some value =>
      match ← validateInterpretation P message (shoeCatalog.products.map (·.productId)) value with
      | .error issues =>
          return {
            source := .deterministic
            interpretation := fallback
            fallbackReason := some .invalidSchema
            rejectedReasons := issues.map fun i => i.field ++ ":" ++ i.reason }
      | .ok interpretation => return { source := .llm, interpretation }

structure SoftPreferenceExtraction where
  fit : Option String
  cushioning : Option String
  distanceKm : Option Json.Number

/-- A text value, where it is one of the allowed ones. -/
def oneOf (allowed : List String) : Option Json → Option String
  | some (.str s) => if allowed.contains s then some s else none
  | _ => none

def sanitizeSoftPreferences : Json → Option SoftPreferenceExtraction
  | .obj record => some {
      fit := oneOf ["wide", "narrow", "standard"] (Json.field? record "fit")
      cushioning := oneOf ["max", "balanced", "minimal"] (Json.field? record "cushioning")
      distanceKm := match Json.field? record "distanceKm" with
        | some (.num n) => if n.isFinite then some (clamp (.ofInt 1) (.ofInt 50) n.round) else none
        | _ => none }
  | _ => none

theorem clamp_isFinite {low high n : Json.Number} (hl : low.isFinite) (hh : high.isFinite)
    (hn : n.isFinite) : (clamp low high n).isFinite := by
  unfold clamp
  by_cases below : n.lt low = true
  · by_cases above : high.lt low = true <;> simp [below, above, hl, hh]
  · by_cases above : high.lt n = true <;> simp [below, above, hn, hh]

theorem sanitizeSoftPreferences_finite {raw : Json} {soft : SoftPreferenceExtraction}
    (h : sanitizeSoftPreferences raw = some soft) :
    soft.distanceKm.all Json.Number.isFinite := by
  cases raw with
  | obj record =>
      simp only [sanitizeSoftPreferences, Option.some.injEq] at h
      subst h
      show Option.all _ (match Json.field? record "distanceKm" with
        | some (.num n) => if n.isFinite then some (clamp (.ofInt 1) (.ofInt 50) n.round) else none
        | _ => none) = true
      split
      · rename_i n _
        cases n with
        | finite q => exact clamp_isFinite rfl rfl rfl
        | infinite positive => rfl
      · rfl
  | _ => simp [sanitizeSoftPreferences] at h

end AgentReady
