import AgentReady.Interpreter.Intent

/-!
The deterministic interpreter (`apps/web/lib/interpreter/deterministic.ts`): actions,
corrections, removals and negations, on top of the parsed values.
-/

namespace AgentReady

open Regex

/-- `PRODUCT_NAME_ALIASES`, with the lower-cased name for a product without aliases. -/
def productAliases (product : CatalogProduct) : List String :=
  match product.productId with
  | "p_streak_4" => ["streak 4", "streak4", "streak"]
  | "p_vista_max" => ["max cushion", "vista max", "maxcushion"]
  | "p_stride_lite" => ["stride lite", "stride"]
  | "p_trail_rock" => ["trail rock"]
  | "p_gym_pace" => ["gym pace"]
  | "p_casual_day" => ["everyday", "casual day"]
  | _ => [String.ofList (toLowerCase product.name.toList)]

/-- `findProductIds`: the catalog products a message names, at most five. -/
def findProductIds (message : String) : List String :=
  let lower := toLowerCase message.toList
  ((shoeCatalog.products.filter fun product =>
    (productAliases product).any fun alias_ => includes lower alias_.toList).map
      (·.productId)).take 5

def phrase (words : List String) : Regex :=
  seqs (boundary :: ((words.map litI).intersperse (plus space)) ++ [boundary])

/-- `\bfirst\b.*second`, in either case. -/
def laterOn (first second : Regex) : Regex := seqs [first, star dot, second]

def wordI (w : String) : Regex := seqs [boundary, litI w, boundary]

/-- A name, where its condition holds. -/
def nameWhen (condition : Bool) (name : String) : List String := if condition then [name] else []

/-- `detectRemovals`: the constraints a message negates. -/
def detectRemovals (message : String) : List String :=
  let text := message.toList
  let dontBlack := seqs [boundary, litI "don", opt (lit "'"), litI "t", plus space,
    alts [litI "want", litI "like"], plus space, litI "black", boundary]
  (nameWhen ((alts [phrase ["not", "black"], phrase ["no", "black"], dontBlack]).test text)
      "colour" ++
    nameWhen (isNegated text "road" || isNegated text "running") "useCase" ++
    nameWhen (isNegated text "trail") "useCase" ++
    nameWhen (isNegated text "gym") "useCase" ++
    nameWhen (isNegated text "casual") "useCase" ++
    ["white", "grey", "navy", "blue", "red"].flatMap (fun c => nameWhen (isNegated text c) "colour") ++
    nameWhen ((alts [laterOn (wordI "remove") (wordI "cushioning"),
      phrase ["no", "cushioning"]]).test text) "cushioning" ++
    nameWhen ((alts [laterOn (wordI "remove") (wordI "fit"), phrase ["no", "wide"],
      phrase ["not", "wide"]]).test text) "fit" ++
    nameWhen ((alts [
      laterOn (wordI "remove")
        (seqs [boundary, alts [litI "return", litI "returnable"], boundary]),
      phrase ["not", "returnable"]]).test text) "mustBeReturnable").reverse.dedup.reverse

def detectCorrections (message : String) : List String :=
  let text := message.toList
  let changing (more : List Regex) := seqs [boundary,
    alts ([litI "actually", seqs [litI "make", plus space, litI "it"], litI "instead",
      litI "change", litI "switch"] ++ more), boundary]
  nameWhen ((laterOn (changing [litI "correction"]) (wordI "size")).test text) "size" ++
    nameWhen ((alts [laterOn (changing []) (wordI "budget"),
      seqs [boundary, alts [litI "under", litI "below", litI "max"], plus space, lit "₹"]]).test
        text) "maxAmountMinor"

/-- `evidenceFor`: the first occurrence of a token in the message, in the message's own
spelling, or else the token. -/
def evidenceFor (message token : String) : String :=
  let text := message.toList
  let lower := toLowerCase text
  let wanted := toLowerCase token.toList
  match fromIndexOf lower wanted with
  | some tail => String.ofList ((text.drop (lower.length - tail.length)).take token.length)
  | none => token

/-- `\bcheaper\b|\bcheapest\b|\blower\s+price\b|\bless\s+expensive\b`. -/
def cheaperPattern : Regex :=
  alts [wordI "cheaper", wordI "cheapest", phrase ["lower", "price"], phrase ["less", "expensive"]]

/-- `Math.max(10_000, Math.round(budget * 0.8))`. -/
def reducedBudget (budget : Json.Number) : Json.Number :=
  let reduced := (budget.scale (8 / 10)).round
  if reduced.lt (.ofInt 10000) then .ofInt 10000 else reduced

/-- The action of a message, in the order of precedence. -/
def detectAction (lower : List Char) (productIds corrections removals : List String) :
    InterpretationAction :=
  if (alts [wordI "restart", phrase ["start", "over"], phrase ["new", "conversation"]]).test lower
  then .restart
  else if (alts [wordI "compare", wordI "versus", wordI "vs"]).test lower && !productIds.isEmpty
  then .compare
  else if (alts [
      seqs [boundary, litI "why", plus space,
        alts [litI "not", litI "this", litI "that", litI "the"], boundary],
      seqs [boundary, litI "why", plus space, plus word, boundary],
      wordI "explain",
      phrase ["what", "am", "i", "compromising"]]).test lower
  then .explain
  else if (alts [wordI "select", wordI "pick", wordI "choose"]).test lower && !productIds.isEmpty
  then .select
  else if !removals.isEmpty || !corrections.isEmpty || (wordI "cheaper").test lower
  then .refine
  else .search

/-- A proposed value, with its evidence, where the value is set. -/
def proposeHard (message : String) {α : Type} (value : Option α) (make : α → HardConstraintValue)
    (token : α → String) : List ProposedHardConstraint :=
  value.toList.map fun v => ⟨make v, evidenceFor message (token v)⟩

def proposeSoft (message : String) {α : Type} (value : Option α) (make : α → SoftPreferenceValue)
    (token : α → String) : List ProposedSoftPreference :=
  value.toList.map fun v => ⟨make v, evidenceFor message (token v)⟩

def deterministicInterpretation (P : Platform) (now : Int) (message : String)
    (currentIntent : ParsedIntent) : StructuredInterpretation :=
  let lower := normalizeText message.toList
  let parsed := parseIntentMessage P now message
  let productIds := findProductIds message
  let removals := detectRemovals message
  let detected := detectCorrections message
  let hard :=
    proposeHard message parsed.size .size id ++
      proposeHard message parsed.colour .colour id ++
      proposeHard message parsed.useCase .useCase id ++
      proposeHard message parsed.maxAmountMinor .maxAmountMinor
        (fun n => (n.scale (1 / 100)).render) ++
      proposeHard message parsed.mustBeReturnable .mustBeReturnable (fun _ => "return")
  let soft :=
    proposeSoft message parsed.fit .fit id ++
      proposeSoft message parsed.cushioning .cushioning id ++
      proposeSoft message parsed.distanceKm .distanceKm (fun n => n.render ++ "K")
  -- A cheaper request lowers the budget, unless the message corrects it itself.
  let cheaper := cheaperPattern.test lower && !detected.contains "maxAmountMinor"
  let hard := if cheaper then
      hard ++ [⟨.maxAmountMinor (reducedBudget (currentIntent.maxAmountMinor.getD (.ofInt 500000))),
        evidenceFor message "cheaper"⟩]
    else hard
  let corrections := if cheaper then detected ++ ["maxAmountMinor"] else detected
  let action := detectAction lower productIds corrections removals
  { action
    proposedHardConstraints := hard
    proposedSoftPreferences := soft
    corrections
    removals
    ambiguities :=
      nameWhen (action = .compare && productIds.length < 2)
          "Which two products should I compare?" ++
        nameWhen (action = .explain) "Which recommendation would you like explained?"
    requestedProductIds := if action = .compare ∨ action = .select then productIds else [] }

end AgentReady
