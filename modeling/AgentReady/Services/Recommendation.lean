import AgentReady.Services.State

/-!
Recommendations, their bindings, and the selection check (`apps/web/lib/services.ts`,
`apps/web/lib/dialogue.ts`).

A recommendation is current when it was made for the present version of the intent. Its
binding (intent version, recommendation version, action token) is what the client sends
back with a selection.
-/

namespace AgentReady

/-! ### Dialogue memory -/

namespace DialogueMemory

def invalidateQuote (m : DialogueMemory) : DialogueMemory :=
  { m with
    quoteValid := false
    selectedProductId := none
    quoteProductId := none
    quoteIntentVersion := none
    quoteRecommendationVersion := none
    quoteActionToken := none }

def invalidateRecommendations (m : DialogueMemory) : DialogueMemory :=
  { m with
    shownProductIds := []
    recommendationIntentVersion := none
    recommendationActionToken := none }

/-- The last `n` elements. -/
def lastN {α : Type} (n : Nat) (l : List α) : List α := l.drop (l.length - n)

def syncMemory (m : DialogueMemory) (shownIds missing : List String)
    (recentAction userEvidence : String) : DialogueMemory :=
  { m with
    unresolved := missing
    shownProductIds := shownIds
    recentActions := lastN 10 (m.recentActions ++ [recentAction])
    evidence :=
      if userEvidence ≠ "" && !m.evidence.contains userEvidence then
        lastN 8 (m.evidence ++ [userEvidence])
      else m.evidence }

end DialogueMemory

/-- `isFieldResolved`. -/
def isFieldResolved (intent : ParsedIntent) : String → Bool
  | "size" => truthy intent.size
  | "useCase" => truthy intent.useCase
  | "colour" => truthy intent.colour
  | "maxAmountMinor" => intent.maxAmountMinor.any (· ≠ 0)
  | "mustBeReturnable" => intent.mustBeReturnable = some true
  | "deliverBy" => truthy intent.deliverBy
  | _ => false

def nextClarification (intent : ParsedIntent) (missing : List String) : Option String :=
  let stillMissing := missing.filter fun name => !isFieldResolved intent name
  if stillMissing.contains "size" then some "size"
  else if stillMissing.contains "useCase" then some "useCase"
  else stillMissing.head?

/-! ### Bindings -/

def isCurrentRecommendation (session : Session) : Bool :=
  session.lastRanking.isSome && 0 < session.dialogue.recommendationVersion &&
    session.dialogue.recommendationIntentVersion = some session.dialogue.intentVersion &&
    truthy session.dialogue.recommendationActionToken

/-- The binding of the last recommendation, current or not. -/
def Session.binding (session : Session) : RecommendationBinding :=
  ⟨session.dialogue.intentVersion, session.dialogue.recommendationVersion,
    session.dialogue.recommendationActionToken.getD ""⟩

def buildPurchaseIntent (intent : ParsedIntent) : PurchaseIntent where
  merchantId := shoeCatalog.merchantId
  category := "running_shoes"
  hardConstraints :=
    { maxAmountMinor := intent.maxAmountMinor.getD (.ofInt 1000000)
      currency := "INR"
      size := intent.size
      colour := intent.colour
      useCase := intent.useCase
      mustBeReturnable := intent.mustBeReturnable
      deliverBy := intent.deliverBy }
  softPreferences :=
    ⟨intent.distanceKm.getD 0, intent.fit.getD "", intent.cushioning.getD ""⟩

/-- The ids of the products in a ranking. -/
def RankingResult.productIds (r : RankingResult) : List String :=
  r.hits.map (·.product.productId)

/-- The names of the constraints a ranking misses. -/
def RankingResult.missingNames (r : RankingResult) : List String := r.missing.map (·.name)

/-! ### The selection check -/

inductive SelectionValidation where
  | accepted (product : CatalogProduct) (variant : CatalogVariant)
      (binding : RecommendationBinding)
  | rejected (message : String) (ranking : RankingResult) (binding : RecommendationBinding)
      (reasonCodes : List String)

/-- The checks of `validateCurrentSelection` against the current recommendation: the
product and its variant, or the message and reason codes of the first check that fails. -/
def checkSelection (session : Session) (ranking : RankingResult) (productId : String)
    (supplied : Option RecommendationBinding) (now : Int) :
    Except (String × List String) (CatalogProduct × CatalogVariant) :=
  let intent := session.intent
  let maxAmountMinor := intent.maxAmountMinor.getD (.ofInt 1000000)
  let bindingMatches := supplied.all (· = session.binding)
  match shoeCatalog.products.find? (·.productId = productId) with
  | none => .error (s!"Unknown product: {productId}. I refreshed your options.", ["unknown_product"])
  | some product =>
      let because (text : String) (codes : List String) :
          Except (String × List String) (CatalogProduct × CatalogVariant) :=
        .error (product.name ++ text ++ " I refreshed your options.", codes)
      if maxAmountMinor.lt (.ofInt product.priceMinor) then
        because (" no longer fits your " ++ fmtPrice maxAmountMinor ++ " budget.")
          ("budget_exceeded" :: (if bindingMatches then [] else ["stale_recommendation"]))
      else if !bindingMatches then
        because " is from an older recommendation."
          ["stale_recommendation", "recommendation_version_mismatch"]
      else if !truthy intent.size then
        .error ("Choose a size before selecting a shoe. I refreshed your options.",
          ["size_required"])
      else
        let size := intent.size.getD ""
        match product.variants.find? (·.size = size) with
        | none => because (" is not available in " ++ size ++ ".") ["size_unavailable"]
        | some variant =>
            if variant.inStock ≤ 0 then
              because (" in " ++ size ++ " is out of stock.") ["out_of_stock"]
            else match ranking.hits.find? (·.product.productId = productId) with
              | none => because " is not in your current eligible recommendations."
                  ["not_current_recommendation"]
              | some hit =>
                  let e := hit.eligibility
                  if !session.dialogue.shownProductIds.contains productId then
                    because " is not in your current eligible recommendations."
                      ["not_current_recommendation"]
                  else if !e.rejectionReasons.isEmpty || !e.withinBudget || !e.sizeAvailable ||
                      !e.inStock || !e.returnable || !e.deliveryMet then
                    because " no longer satisfies your current requirements." ["eligibility_failed"]
                  else if truthy intent.colour &&
                      !product.colour.contains (intent.colour.getD "") then
                    because " does not match your requested colour." ["colour_constraint_failed"]
                  else if intent.mustBeReturnable.getD false && !product.returnable then
                    because " is not returnable as required." ["returnability_constraint_failed"]
                  else if truthy intent.deliverBy &&
                      intent.deliverBy.getD "" <
                        (estimateShipping product.deliveryLeadDays now).deliverBy then
                    because " cannot meet your delivery deadline." ["delivery_constraint_failed"]
                  else if product.category ≠ "running_shoes" ∨ product.currency ≠ "INR" then
                    because " is not a valid RunVista product." ["catalog_identity_failed"]
                  else .ok (product, variant)

namespace Svc

def recordRecommendation (cfg : Config) (orderId : String) (ranking : RankingResult) :
    Svc Unit := do
  let token ← newId cfg "rec"
  updateSession orderId fun s => { s with
    lastRanking := some ranking
    dialogue := { s.dialogue with
      recommendationVersion := s.dialogue.recommendationVersion + 1
      recommendationIntentVersion := some s.dialogue.intentVersion
      recommendationActionToken := some token } }

def syncMemory (orderId : String) (shownIds missing : List String)
    (recentAction userEvidence : String) : Svc Unit :=
  updateSession orderId fun s =>
    { s with dialogue := s.dialogue.syncMemory shownIds missing recentAction userEvidence }

/-- The binding of the current recommendation; a throw where there is none. -/
def recommendationBinding (orderId : String) : Svc RecommendationBinding := do
  match ← session? orderId with
  | some session =>
      if isCurrentRecommendation session then return session.binding
      else throw (.other "No current recommendation result")
  | none => throw (.other "No current recommendation result")

/-- Rank for the present intent and record the result. -/
def refreshRecommendation (cfg : Config) (orderId : String) (session : Session)
    (recentAction userEvidence : String) : Svc RankingResult := do
  let ranking := rankProducts (buildPurchaseIntent session.intent) shoeCatalog (← now)
  recordRecommendation cfg orderId ranking
  syncMemory orderId ranking.productIds ranking.missingNames recentAction userEvidence
  return ranking

/-- `currentRecommendation`: the last ranking, renewed unless it is current. -/
def currentRecommendation (cfg : Config) (orderId : String) (session : Session) :
    Svc (RankingResult × RecommendationBinding) := do
  let ranking ← match session.lastRanking with
    | some ranking =>
        if isCurrentRecommendation session then pure ranking
        else refreshRecommendation cfg orderId session "refresh" ""
    | none => refreshRecommendation cfg orderId session "refresh" ""
  return (ranking, ← recommendationBinding orderId)

def validateCurrentSelection (cfg : Config) (orderId : String) (session : Session)
    (productId : String) (supplied : Option RecommendationBinding) :
    Svc SelectionValidation := do
  let (ranking, binding) ← currentRecommendation cfg orderId session
  let session := ((← session? orderId).getD session)
  match checkSelection session ranking productId supplied (← now) with
  | .ok (product, variant) => return .accepted product variant binding
  | .error (message, codes) => return .rejected message ranking binding codes

end Svc

end AgentReady
