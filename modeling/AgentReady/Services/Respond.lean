import AgentReady.Services.FitScore
import AgentReady.Services.Quote

/-!
A turn of the conversation: `respond` (`apps/web/lib/services.ts`).

The message is interpreted deterministically and by the model provider; the merged
proposals are applied to the intent, and a change of the intent withdraws the quote and
its approval before the message is acted on. The texts of replies are left out, save those
of errors.
-/

namespace AgentReady

open Svc

/-! ### Interpretation -/

/-- The elements of `more` whose key does not occur in `base`, after `base`; a key that
occurs twice keeps its first place and its last value. -/
def mergeByName {α : Type} (name : α → String) (base more : List α) : List α :=
  let put (l : List α) (a : α) : List α :=
    if l.any (name · = name a) then l.map fun b => if name b = name a then a else b else l ++ [a]
  let own := base.foldl put []
  more.foldl (fun l a => if l.any (name · = name a) then l else l ++ [a]) own

def union (a b : List String) : List String := (a ++ b).reverse.dedup.reverse

/-- `mergeInterpretation`: deterministic values win, the provider's fill the rest. -/
def mergeInterpretation (deterministic llm : StructuredInterpretation) :
    StructuredInterpretation where
  action := if deterministic.action ≠ .search then deterministic.action else llm.action
  proposedHardConstraints :=
    mergeByName (·.value.name) deterministic.proposedHardConstraints llm.proposedHardConstraints
  proposedSoftPreferences :=
    mergeByName (·.value.name) deterministic.proposedSoftPreferences llm.proposedSoftPreferences
  corrections := union deterministic.corrections llm.corrections
  removals := union deterministic.removals llm.removals
  ambiguities := if llm.ambiguities.isEmpty then deterministic.ambiguities else llm.ambiguities
  requestedProductIds :=
    if llm.requestedProductIds.isEmpty then deterministic.requestedProductIds
    else llm.requestedProductIds

namespace ParsedIntent

def setHard (i : ParsedIntent) : HardConstraintValue → ParsedIntent
  | .size v => { i with size := some v }
  | .useCase v => { i with useCase := some v }
  | .colour v => { i with colour := some v }
  | .maxAmountMinor v => { i with maxAmountMinor := some v }
  | .mustBeReturnable v => { i with mustBeReturnable := some v }
  | .deliverBy v => { i with deliverBy := some v }

def setSoft (i : ParsedIntent) : SoftPreferenceValue → ParsedIntent
  | .fit v => { i with fit := some v }
  | .cushioning v => { i with cushioning := some v }
  | .distanceKm v => { i with distanceKm := some v }

/-- `delete intent[field]`; a name that is no field deletes nothing. -/
def remove (i : ParsedIntent) : String → ParsedIntent
  | "size" => { i with size := none }
  | "useCase" => { i with useCase := none }
  | "colour" => { i with colour := none }
  | "maxAmountMinor" => { i with maxAmountMinor := none }
  | "mustBeReturnable" => { i with mustBeReturnable := none }
  | "deliverBy" => { i with deliverBy := none }
  | "fit" => { i with fit := none }
  | "cushioning" => { i with cushioning := none }
  | "distanceKm" => { i with distanceKm := none }
  | _ => i

end ParsedIntent

/-- `applyInterpretation`: hard constraints, then soft preferences, then removals. -/
def applyInterpretation (i : ParsedIntent) (merged : StructuredInterpretation) : ParsedIntent :=
  let i := merged.proposedHardConstraints.foldl (fun i c => i.setHard c.value) i
  let i := merged.proposedSoftPreferences.foldl (fun i p => i.setSoft p.value) i
  merged.removals.foldl ParsedIntent.remove i

/-- The soft preferences an extraction fills in, where the intent has none. -/
def enrich (i : ParsedIntent) (soft : SoftPreferenceExtraction) : ParsedIntent :=
  { i with
    fit := if truthy soft.fit && !truthy i.fit then soft.fit else i.fit
    cushioning :=
      if truthy soft.cushioning && !truthy i.cushioning then soft.cushioning else i.cushioning
    distanceKm :=
      if soft.distanceKm.isSome && !i.distanceKm.any (· ≠ 0) then soft.distanceKm
      else i.distanceKm }

/-- An extraction fills in at least one preference. -/
def enriches (i : ParsedIntent) (soft : SoftPreferenceExtraction) : Bool :=
  (truthy soft.fit && !truthy i.fit) || (truthy soft.cushioning && !truthy i.cushioning) ||
    (soft.distanceKm.isSome && !i.distanceKm.any (· ≠ 0))

def agentEvent (orderId type digest : String) (decision : Option PolicyDecision)
    (reasonCodes : List String) (id : String) (now : Int) : AuditEvent :=
  { eventId := id, logicalOrderId := orderId, type, actor := .agent, occurredAt := now,
    inputDigest := some digest, decision, reasonCodes }

/-- Log an agent event under the digest of the present intent. -/
def logIntent (cfg : Config) (orderId type : String) (decision : Option PolicyDecision)
    (reasonCodes : List String) : Svc Unit := do
  match ← session? orderId with
  | none => return ()
  | some session =>
      log cfg (agentEvent orderId type (← digestOf session.intent) decision reasonCodes)

/-- Soft-preference enrichment, when the provider's interpretation was not used. -/
def enrichIntent (cfg : Config) (orderId message : String) : Svc Unit := do
  match (← ask (.extractSoftPreferences message)).bind sanitizeSoftPreferences with
  | none => return ()
  | some soft =>
      match ← session? orderId with
      | none => return ()
      | some session =>
          if enriches session.intent soft then
            updateSession orderId fun s => { s with intent := enrich s.intent soft }
            logIntent cfg orderId "llm.soft_preferences_extracted" (some .allow)
              ["llm_advisory_only"]

/-- The provider's proposal for a message; nothing where no provider is configured. -/
def proposal (cfg : Config) (message : String) : Svc (Option Json) := do
  if cfg.llmEnabled then ask (.interpret message)
  else
    ask .yield
    return none

/-- A message interpreted: the proposals, and the intent and record they were applied to. -/
structure Turn where
  merged : StructuredInterpretation
  previousIntent : ParsedIntent
  previousEnvelope : Option EnvelopeRecord

/-- Interpret a message and apply the result to the intent. -/
def interpretTurn (cfg : Config) (orderId : String) (session : Session) (message : String) :
    Svc Turn := do
  let time ← now
  let deterministic := deterministicInterpretation cfg.platform time message session.intent
  let value ← proposal cfg message
  let outcome ← liftResult
    (interpretUserMessage cfg.platform time message session.intent value)
  let merged := mergeInterpretation deterministic outcome.interpretation
  let previousIntent := ((← session? orderId).getD session).intent
  let previousEnvelope ← record? orderId
  updateSession orderId fun s => { s with intent := applyInterpretation s.intent merged }
  if cfg.llmEnabled && outcome.source ≠ .llm then enrichIntent cfg orderId message
  logIntent cfg orderId "interpreter.interpreted" (some .allow)
    (if outcome.rejectedReasons.isEmpty then ["schema_validated"]
      else outcome.rejectedReasons.take 5)
  return { merged, previousIntent, previousEnvelope }

/-- The session after a change of its intent: without recommendation, quote and approval. -/
def Session.withdrawn (s : Session) : Session :=
  { s with
    lastRanking := none
    approvalEventId := none
    approvedDigest := none
    dialogue := { s.dialogue with
      intentVersion := s.dialogue.intentVersion + 1 }.invalidateRecommendations.invalidateQuote }

/-- Withdraw the recommendation, the quote and the approval after a change of the intent.
The record, where there was one, is deleted before the event is logged, so it is gone even
if the new intent has no digest. -/
def withdrawQuote (cfg : Config) (orderId : String) (previous : Option EnvelopeRecord)
    (reasonCodes : List String) : Svc Unit := do
  match previous with
  | none => updateSession orderId Session.withdrawn
  | some record =>
      replaceOrder orderId none Session.withdrawn
      match ← session? orderId with
      | none => return ()
      | some session =>
          let digest ← digestOf session.intent
          log cfg fun id now =>
            { eventId := id, logicalOrderId := orderId, type := "quote.invalidated",
              actor := .system, occurredAt := now, inputDigest := some record.digest,
              outputDigest := some digest, decision := some .block, reasonCodes }

/-! ### Actions on the shortlist -/

def findHit (ranking : RankingResult) (productId : String) : Option ProductMatch :=
  ranking.hits.find? (·.product.productId = productId)

/-- The two products a comparison is about; a single named one is compared with the best. -/
def comparedIds (session : Session) (ranking : RankingResult) (requested : List String) :
    Option (String × String) :=
  match requested with
  | a :: b :: _ => some (a, b)
  | [a] =>
      if includes (toLowerCase session.message.toList) " and ".toList then none
      else ranking.hits.head?.map fun best => (best.product.productId, a)
  | [] => none

def handleCompare (cfg : Config) (orderId : String) (session : Session)
    (requested : List String) : Svc Reply := do
  let fail (message : String) := Reply.respond (.error message session.state none)
  match session.lastRanking.filter (!·.hits.isEmpty) with
  | none =>
      return fail "No shortlist available to compare. Let me refine your search first."
  | some ranking =>
  match comparedIds session ranking requested with
  | none =>
      return fail "I need at least one product name to compare. Please specify which shoe."
  | some (idA, idB) =>
  match findHit ranking idA, findHit ranking idB with
  | some productA, some productB =>
      logIntent cfg orderId "action.compare" (some .allow) ["grounded_catalog_facts"]
      return .respond (.compare productA productB session.state)
  | _, _ => return fail "One or both of those products are not in your current shortlist."

def handleExplain (cfg : Config) (orderId : String) (session : Session)
    (requested : List String) : Svc Reply := do
  let fail (message : String) := Reply.respond (.error message session.state none)
  match session.lastRanking.filter (!·.hits.isEmpty) with
  | none => return fail "No shortlist available to explain. Let me refine your search first."
  | some ranking =>
      let named := ((findProductIds session.message).head?.bind (findHit ranking)).or
        ranking.hits.head?
      match (match requested with
        | id :: _ => findHit ranking id
        | [] => named) with
      | none => return fail "That product is not in your current shortlist."
      | some target =>
          logIntent cfg orderId "action.explain" (some .allow) ["grounded_catalog_facts"]
          return .respond (.explain target session.state)

def handleSelect (cfg : Config) (orderId : String) (session : Session) (requested : List String)
    (supplied : Option RecommendationBinding) : Svc Reply := do
  match requested.head?.filter (· ≠ "") with
  | none =>
      return .respond
        (.error "I couldn't identify which shoe you'd like to select." session.state none)
  | some productId =>
  match ← validateCurrentSelection cfg orderId session productId supplied with
  | .rejected message ranking binding codes =>
      let digest ← digestOf session.intent
      log cfg fun id now =>
        { eventId := id, logicalOrderId := orderId, type := "action.select_rejected",
          actor := .policy, occurredAt := now, inputDigest := some digest, decision := some .block,
          reasonCodes := codes }
      return .respond (.error message session.state
        (some ⟨ranking.hits, binding, productId, session.intent⟩))
  | .accepted _ _ binding =>
      updateSession orderId fun s =>
        { s with dialogue := { s.dialogue with selectedProductId := some productId } }
      logIntent cfg orderId "action.select" (some .allow) ["eligible_in_stock"]
      return .respond (.select productId session.state binding)

/-- The first match of a search under a reduced budget that is not the current best. -/
def cheaperOption (intent : ParsedIntent) (currentBest : ProductMatch) (now : Int) :
    Option ProductMatch :=
  let reduced := reducedBudget (intent.maxAmountMinor.getD (.ofInt 500000))
  let search := buildPurchaseIntent { intent with maxAmountMinor := some reduced }
  (rankProducts search shoeCatalog now).hits.find?
    (·.product.productId ≠ currentBest.product.productId)

/-- `handleCheaper`; the placeholder the source returns where nothing is ranked is `none`. -/
def handleCheaper (cfg : Config) (orderId : String) (session : Session) : Svc Reply := do
  let ranking ← match session.lastRanking.filter fun _ => isCurrentRecommendation session with
    | some ranking => pure ranking
    | none => refreshRecommendation cfg orderId session "refine" session.message
  let state ← stateOf orderId
  match ranking.hits with
  | [] => return .respond (.cheaper none none state)
  | currentBest :: _ =>
      let option := cheaperOption session.intent currentBest (← now)
      logIntent cfg orderId "action.cheaper" (some .allow) ["grounded_catalog_facts"]
      return .respond (.cheaper (some currentBest) option state)

/-! ### Search and refinement -/

def machineSpendAttemptSummary (session : Session) : Option MachineSpendAttemptSummary :=
  (session.machineSpendAttempt.filter (·.status ≠ .settled)).map fun a =>
    ⟨a.paymentIdentifier, a.requestDigest, a.status, a.retryable⟩

/-- `composeShortlistMessage`: the provider explains a shortlist that is not empty. -/
def composeShortlist (cfg : Config) (orderId : String) (ranking : RankingResult) : Svc Unit := do
  if cfg.llmEnabled && !ranking.hits.isEmpty then
    let message := ((← session? orderId).map (·.message)).getD ""
    let _ ← ask (.explainRecommendation message ranking.hits)
  ask .yield

/-- The shortlist reply for a ranking, as the session stands. -/
def shortlistReply (orderId : String) (session : Session) (ranking : RankingResult)
    (spend : Option MachineSpend) : Svc Reply := do
  let session := (← session? orderId).getD session
  let binding ← recommendationBinding orderId
  return .respond (.shortlist
    { hits := ranking.hits
      fitScores := session.machineSpend.map (·.fitScores)
      machineSpend := spend
      machineSpendAttempt := machineSpendAttemptSummary session
      state := session.state
      parsedIntent := session.intent
      binding })

/-- Answer a repeated constraint message from the current ranking. -/
def repeatShortlist (cfg : Config) (orderId message : String) (operationId : Option String)
    (session : Session) (ranking : RankingResult) (action : InterpretationAction) :
    Svc Reply := do
  composeShortlist cfg orderId ranking
  Svc.syncMemory orderId ranking.productIds [] action.name message
  let reply ← shortlistReply orderId session ranking none
  complete operationId .success (some (← stateOf orderId).name) none reply
  return reply

/-- Ask for the constraints a ranking misses. -/
def clarify (cfg : Config) (orderId message : String) (operationId : Option String)
    (session : Session) (ranking : RankingResult) : Svc Reply := do
  setState orderId .clarifying
  let topMissing := nextClarification session.intent ranking.missingNames
  logIntent cfg orderId "intent.clarification_requested" none []
  Svc.syncMemory orderId [] ranking.missingNames "clarify" message
  let state ← stateOf orderId
  let reply := Reply.respond (.clarify topMissing.toList
    (ranking.missing.flatMap (·.options)) state session.intent)
  complete operationId .success (some state.name) none reply
  return reply

/-- The turn pays for fit scores: a fit is wanted, none were bought, and an attempt is
pending or a first one is due for at least two candidates. -/
def shouldSpend (s : Services) (session : Session) (ranking : RankingResult) (envelopeHash : String) :
    Bool :=
  truthy session.intent.fit && session.machineSpend.isNone &&
    (session.machineSpendAttempt.any (·.status = .pending) ||
      (!session.machineSpendAttempt.any (·.status ≠ .rejected) && 2 ≤ ranking.hits.length &&
        !s.machineResource.hasProcessed envelopeHash))

/-- Present a new ranking as the shortlist. -/
def presentShortlist (cfg : Config) (orderId message : String) (operationId : Option String)
    (session : Session) (ranking : RankingResult) (action : InterpretationAction)
    (quoteInvalidated : Bool) : Svc Reply := do
  if (session.state = .awaitingApproval && quoteInvalidated) ||
      (session.state ≠ .awaitingApproval && session.state ≠ .reapprovalRequired) then
    setState orderId .quoted
  let envelopeHash ← digestOf session.intent
  let spend ← if shouldSpend (← Coop.Proc.read) session ranking envelopeHash then
      runFitScoreSpend cfg orderId session
    else pure none
  composeShortlist cfg orderId ranking
  logIntent cfg orderId "intent.shortlist_ranked" none []
  Svc.syncMemory orderId ranking.productIds [] action.name message
  let reply ← shortlistReply orderId session ranking spend
  complete operationId .success (some (← stateOf orderId).name) none reply
  return reply

/-- States in which a search or refinement is ranked. -/
def canRank (state : OrderState) (materialChange : Bool) : Bool :=
  state = .draft || state = .clarifying || state = .reapprovalRequired || state = .quoted ||
    (state = .awaitingApproval && materialChange)

/-- A search or refinement: repeat the shortlist, refuse, ask back, or rank. -/
def search (cfg : Config) (orderId message : String) (operationId : Option String)
    (action : InterpretationAction) (materialChange quoteInvalidated : Bool) : Svc Reply := do
  match ← session? orderId with
  | none => return .respond (.error "Unknown session. Start a new conversation." .draft none)
  | some session =>
  let pendingSpend := session.machineSpendAttempt.any fun a => a.status = .pending && a.retryable
  match session.lastRanking.filter fun r =>
      !materialChange && isCurrentRecommendation session && r.ranked && !pendingSpend with
  | some ranking => repeatShortlist cfg orderId message operationId session ranking action
  | none =>
  if !canRank session.state materialChange then
    let text := s!"Current state {session.state.name} does not accept new product messages."
    let reply := Reply.respond (.error text session.state none)
    complete operationId .failure none (some text) reply
    return reply
  else
    let ranking := rankProducts (buildPurchaseIntent session.intent) shoeCatalog (← now)
    recordRecommendation cfg orderId ranking
    if !ranking.ranked then clarify cfg orderId message operationId session ranking
    else presentShortlist cfg orderId message operationId session ranking action quoteInvalidated

/-- Start the conversation over. The state of the order stays. -/
def restart (orderId : String) : Svc Reply := do
  replaceOrder orderId none fun s => { s with
    dialogue := createDialogueMemory
    intent := {}
    lastRanking := none
    approvalEventId := none
    approvedDigest := none }
  return .respond (.restart (← stateOf orderId))

/-- A search or refinement, or a search for a cheaper option. -/
def searchOrCheaper (cfg : Config) (orderId message : String) (operationId : Option String)
    (action : InterpretationAction) (session : Session) (materialChange quoteInvalidated : Bool) :
    Svc Reply := do
  if cheaperPattern.test (toLowerCase message.toList) then
    if quoteInvalidated && session.state = .awaitingApproval then setState orderId .quoted
    handleCheaper cfg orderId session
  else
    search cfg orderId message operationId action materialChange quoteInvalidated

/-- Act on an interpreted message, after the effects of a change of the intent. -/
def act (cfg : Config) (orderId message : String) (supplied : Option RecommendationBinding)
    (operationId : Option String) (merged : StructuredInterpretation) (session : Session)
    (materialChange quoteInvalidated : Bool) : Svc Reply :=
  match merged.action with
  | .restart => restart orderId
  | .compare => handleCompare cfg orderId session merged.requestedProductIds
  | .explain => handleExplain cfg orderId session merged.requestedProductIds
  | .select => handleSelect cfg orderId session merged.requestedProductIds supplied
  | .search | .refine =>
      searchOrCheaper cfg orderId message operationId merged.action session materialChange
        quoteInvalidated

/-- Withdraw the quote if the message changed the intent, and act on the message. -/
def route (cfg : Config) (orderId message : String) (supplied : Option RecommendationBinding)
    (operationId : Option String) (turn : Turn) : Svc Reply := do
  match ← session? orderId with
  | none => return .respond (.error "Unknown session. Start a new conversation." .draft none)
  | some interpreted =>
  let materialChange := hasIntentChanged turn.previousIntent interpreted.intent
  let quoteInvalidated := materialChange && turn.previousEnvelope.isSome
  if materialChange then
    withdrawQuote cfg orderId turn.previousEnvelope
      ["material_change_refinement", "recommendation_result_invalidated"]
  let session := (← session? orderId).getD interpreted
  act cfg orderId message supplied operationId turn.merged session materialChange quoteInvalidated

/-- How `respond` treats a used operation id. -/
def respondPrior : IdempotencyResult Reply → OrderState → Prior
  | .new _, _ => .run
  | .conflict existing _, _ =>
      .reply (.respond (.error (conflictMessage existing) .draft none))
  | .replay record, _ =>
      match record.phase, record.resultPayload with
      | .completed, some payload | .failed, some payload | .rejected, some payload =>
          .reply payload
      | .failed, none | .rejected, none =>
          .reply (.respond (.error (record.errorRef.getD ("Operation " ++ record.phase.name))
            .draft none))
      | _, _ => .reply (.respond (.error "Operation in progress" .draft none))

def respond (cfg : Config) (orderId message : String) (supplied : Option RecommendationBinding)
    (operationId : Option String) : Svc Reply :=
  let binding := supplied.getD ⟨0, 0, ""⟩
  idempotent cfg operationId
    ⟨"conversation.respond", [("orderId", .text orderId), ("message", .text message),
      ("intentVersion", .number binding.intentVersion),
      ("recommendationVersion", .number binding.recommendationVersion),
      ("recommendationActionToken", .text binding.recommendationActionToken)]⟩ orderId
    respondPrior do
  match ← session? orderId with
  | none =>
      let reply := Reply.respond
        (.error "Unknown session. Start a new conversation." .draft none)
      complete operationId .failure none (some "Unknown session") reply
      return reply
  | some session =>
      updateSession orderId fun s => { s with message := message }
      let turn ← interpretTurn cfg orderId session message
      route cfg orderId message supplied operationId turn

end AgentReady
