import AgentReady.Domain.Catalog
import AgentReady.Domain.Policy

/-!
Product ranking (`packages/catalog/src/ranking.ts`).

Every product is evaluated against the hard constraints and scored on the soft
preferences; the eligible ones are sorted by normalized score, stably, and the first
three are given roles. Comparing a product with the best of the shortlist by identity
is comparing their positions, so `assignRoles` works on the tail.

* `rankProducts_eligible`: whatever is ranked has no rejection reason.
* `rankProducts_of_missing`: without the required constraints nothing is ranked.
-/

namespace AgentReady

structure MissingConstraint where
  name : String
  label : String
  options : List String
deriving DecidableEq

/-- A text that JavaScript treats as true: present and not empty. -/
def truthy (s : Option String) : Bool := s.any (· ≠ "")

def missingHardConstraints (c : HardConstraints) : List MissingConstraint :=
  (if truthy c.size then [] else [⟨"size", "Shoe size (e.g. UK 9)", []⟩]) ++
    (if truthy c.useCase then [] else
      [⟨"useCase", "Primary use (road, trail, gym, casual)", ["road", "trail", "gym", "casual"]⟩])

namespace ScoreWeights

def useCase : Int := 28
def fit : Int := 14
def cushioning : Int := 14
def distance : Int := 10
def colour : Int := 5
def budget : Int := 8
def delivery : Int := 7
def returnable : Int := 5
def rating : Int := 10

/-- `SCORE_MAXIMUM`. -/
def maximum : Int :=
  useCase + fit + cushioning + distance + colour + budget + delivery + returnable + rating

end ScoreWeights

inductive RecommendationRole where
  | bestOverall | cheaperAlternative | tradeoffChoice | none
deriving DecidableEq, Repr

structure EligibilityEvidence where
  withinBudget : Bool
  sizeAvailable : Bool
  inStock : Bool
  returnable : Bool
  deliveryMet : Bool
  rejectionReasons : List String
deriving DecidableEq

structure ProductMatch where
  product : CatalogProduct
  score : Int
  scoreNormalized : Int
  role : RecommendationRole
  roleJustification : String
  matchedRequirements : List String
  matchedPreferences : List String
  compromises : List String
  eligibility : EligibilityEvidence
  colourMatched : Bool
deriving DecidableEq

structure RankingResult where
  hits : List ProductMatch
  missing : List MissingConstraint
  ranked : Bool
deriving DecidableEq

def capitalize (value : String) : String :=
  match value.toList with
  | [] => ""
  | c :: rest => String.ofList (c.toUpper :: rest)

/-- `Math.round` of a rational. -/
def roundHalfUp (q : ℚ) : Int := ⌊q + 1 / 2⌋

/-- `fmtPrice`. -/
def fmtPrice (minor : Json.Number) : String := "₹" ++ rupees minor

/-- The part of an evaluation that decides eligibility. -/
def eligibility (product : CatalogProduct) (c : HardConstraints) (now : Int) :
    EligibilityEvidence :=
  let sizeAvailable := product.variants.any fun v => truthy c.size && some v.size = c.size
  let inStock := product.variants.any fun v =>
    truthy c.size && some v.size = c.size && v.inStock > 0
  let withinBudget := (Json.Number.ofInt product.priceMinor).le c.maxAmountMinor
  let returnable := !(c.mustBeReturnable.getD false) || product.returnable
  let delivery := estimateShipping product.deliveryLeadDays now
  let deliveryMet := !truthy c.deliverBy || delivery.deliverBy ≤ c.deliverBy.getD ""
  let size := c.size.getD "undefined"
  { withinBudget, sizeAvailable, inStock, returnable, deliveryMet,
    rejectionReasons :=
      codeWhen (!withinBudget) ("₹" ++ fmtPrice (.ofInt product.priceMinor) ++
          " exceeds budget of ₹" ++ fmtPrice c.maxAmountMinor) ++
        codeWhen (!sizeAvailable) ("Size " ++ size ++ " not available") ++
        codeWhen (!inStock) ("Out of stock in " ++ size) ++
        codeWhen (!returnable) "Not returnable (required)" ++
        codeWhen (!deliveryMet)
          ("Delivery after deadline (" ++ toString product.deliveryLeadDays ++ " days)") }

/-- `delta <= 2`, for the distance between a product's typical distance and the request. -/
def closeTo (typical : Nat) : Json.Number → Bool
  | .finite q => |(typical : ℚ) - q| ≤ 2
  | .infinite _ => false

/-- What a criterion adds to a match: points and texts. -/
structure Contribution where
  points : Int := 0
  requirement : List String := []
  preference : List String := []
  compromise : List String := []

def useCaseContribution (product : CatalogProduct) (c : HardConstraints) : Contribution :=
  let useCase := c.useCase.getD "undefined"
  if some product.useCase = c.useCase then
    { points := ScoreWeights.useCase, requirement := ["Purpose-built for " ++ useCase] }
  else
    { points := roundHalfUp (ScoreWeights.useCase * (43 / 100)),
      compromise := ["Not purpose-built for " ++ useCase] }

/-- A wish for `requested`, empty where there is none, met by `actual`. -/
def wishContribution (points : Int) (requested actual noun label : String) : Contribution :=
  if requested = "" ∨ actual = requested then
    { points, preference := codeWhen (requested ≠ "") (capitalize actual ++ noun) }
  else { compromise := [label ++ " is " ++ actual ++ ", not " ++ requested] }

def distanceContribution (product : CatalogProduct) (distance : Json.Number) : Contribution :=
  let typical := product.typicalDistanceKm
  if (0 : Json.Number).lt distance then
    if closeTo typical distance then
      { points := ScoreWeights.distance,
        preference := ["Covers ~" ++ distance.render ++ "K distance"] }
    else if (Json.Number.ofInt typical).lt distance then
      { compromise := ["Optimised for " ++ toString typical ++ "K, shorter than ~" ++
          distance.render ++ "K"] }
    else { preference := ["Handles up to " ++ toString typical ++ "K"] }
  else {}

def colourContribution (matched : Bool) (c : HardConstraints) : Contribution :=
  let colour := c.colour.getD ""
  if matched then
    { points := ScoreWeights.colour,
      preference := codeWhen (truthy c.colour) (capitalize colour ++ " colour") }
  else { compromise := ["No " ++ colour ++ " colourway"] }

def budgetContribution (product : CatalogProduct) (withinBudget : Bool) : Contribution :=
  if withinBudget then
    { points := ScoreWeights.budget,
      requirement := [fmtPrice (.ofInt product.priceMinor) ++ " within budget"] }
  else {}

def deliveryContribution (product : CatalogProduct) (deliveryMet : Bool) : Contribution :=
  let days := product.deliveryLeadDays
  if deliveryMet then
    { points := ScoreWeights.delivery,
      requirement := ["Ships in " ++ toString days ++ " day" ++ (if days = 1 then "" else "s")] }
  else { compromise := ["Ships in " ++ toString days ++ " days, after deadline"] }

/-- `Math.min(100, Math.max(0, Math.round((raw / SCORE_MAXIMUM) * 100)))`. -/
def normalizeScore (raw : Int) : Int :=
  min 100 (max 0 (roundHalfUp ((raw : ℚ) / ScoreWeights.maximum * 100)))

def evaluate (product : CatalogProduct) (c : HardConstraints) (soft : SoftPreferences)
    (now : Int) : ProductMatch :=
  let e := eligibility product c now
  let colourMatched := !truthy c.colour || product.colour.contains (c.colour.getD "")
  let parts := [
    useCaseContribution product c,
    wishContribution ScoreWeights.fit soft.fit product.fit " fit" "Fit",
    wishContribution ScoreWeights.cushioning soft.cushioning product.cushioning " cushioning"
      "Cushioning",
    distanceContribution product soft.distance,
    colourContribution colourMatched c,
    budgetContribution product e.withinBudget,
    deliveryContribution product e.deliveryMet,
    { points := if e.returnable then ScoreWeights.returnable else 0 },
    { points := roundHalfUp (product.rating / 5 * ScoreWeights.rating) }]
  let raw := (parts.map (·.points)).sum
  { product
    score := raw
    scoreNormalized := normalizeScore raw
    role := .none
    roleJustification := ""
    matchedRequirements := parts.flatMap (·.requirement)
    matchedPreferences := parts.flatMap (·.preference)
    compromises := parts.flatMap (·.compromise)
    eligibility := e
    colourMatched }

/-! ### Roles -/

/-- The first match that satisfies `p`, changed by `f`. -/
def updateFirst (p : ProductMatch → Bool) (f : ProductMatch → ProductMatch) :
    List ProductMatch → List ProductMatch
  | [] => []
  | m :: rest => if p m then f m :: rest else m :: updateFirst p f rest

def assignRoles : List ProductMatch → List ProductMatch
  | [] => []
  | best :: rest =>
      let bestPrice := best.product.priceMinor
      let best' := { best with
        role := .bestOverall,
        roleJustification := "Highest preference match score across all criteria" }
      let withCheaper := rest |> updateFirst (·.product.priceMinor < bestPrice) fun m =>
        { m with
          role := .cheaperAlternative,
          roleJustification := fmtPrice (.ofInt (bestPrice - m.product.priceMinor)) ++
            " less than " ++ best.product.name ++ " while meeting all requirements" }
      best' :: (withCheaper |> updateFirst (fun m => m.role = .none && !m.compromises.isEmpty)
        fun m => { m with
          role := .tradeoffChoice,
          roleJustification := m.compromises.headD "Different trade-off profile" })

/-- Higher normalized scores first. -/
def byScore (a b : ProductMatch) : Prop := b.scoreNormalized ≤ a.scoreNormalized

instance : DecidableRel byScore := fun a b =>
  inferInstanceAs (Decidable (b.scoreNormalized ≤ a.scoreNormalized))

def rankProducts (intent : PurchaseIntent) (catalog : Catalog) (now : Int) : RankingResult :=
  let missing := missingHardConstraints intent.hardConstraints
  if missing ≠ [] then ⟨[], missing, false⟩
  else
    let all := catalog.products.map fun product =>
      evaluate product intent.hardConstraints intent.softPreferences now
    let eligible := all.filter fun m => m.eligibility.rejectionReasons.isEmpty
    ⟨assignRoles ((eligible.insertionSort byScore).take 3), [], true⟩

theorem rankProducts_of_missing {intent : PurchaseIntent} {catalog : Catalog} {now : Int}
    (h : missingHardConstraints intent.hardConstraints ≠ []) :
    rankProducts intent catalog now = ⟨[], missingHardConstraints intent.hardConstraints, false⟩ := by
  simp [rankProducts, h]

theorem mem_updateFirst {p : ProductMatch → Bool} {f : ProductMatch → ProductMatch}
    {m : ProductMatch} : ∀ {l : List ProductMatch}, m ∈ updateFirst p f l →
      ∃ m' ∈ l, m = m' ∨ m = f m'
  | [], mem => by simp [updateFirst] at mem
  | m₀ :: rest, mem => by
      by_cases hp : p m₀
      · simp only [updateFirst, hp, if_true, List.mem_cons] at mem
        rcases mem with rfl | mem
        · exact ⟨m₀, List.mem_cons_self, .inr rfl⟩
        · exact ⟨m, List.mem_cons_of_mem _ mem, .inl rfl⟩
      · simp only [updateFirst, hp, if_false, Bool.false_eq_true, List.mem_cons] at mem
        rcases mem with rfl | mem
        · exact ⟨m, List.mem_cons_self, .inl rfl⟩
        · obtain ⟨m', mem', eq⟩ := mem_updateFirst mem
          exact ⟨m', List.mem_cons_of_mem _ mem', eq⟩

/-- Giving roles changes neither a match's product nor its evidence. -/
theorem mem_assignRoles {m : ProductMatch} : ∀ {l : List ProductMatch}, m ∈ assignRoles l →
    ∃ m' ∈ l, m.product = m'.product ∧ m.eligibility = m'.eligibility
  | [], mem => by simp [assignRoles] at mem
  | best :: rest, mem => by
      simp only [assignRoles, List.mem_cons] at mem
      rcases mem with rfl | mem
      · exact ⟨best, List.mem_cons_self, rfl, rfl⟩
      · obtain ⟨m₁, mem₁, eq₁⟩ := mem_updateFirst mem
        obtain ⟨m₂, mem₂, eq₂⟩ := mem_updateFirst mem₁
        refine ⟨m₂, List.mem_cons_of_mem _ mem₂, ?_, ?_⟩ <;>
          rcases eq₁ with rfl | rfl <;> rcases eq₂ with rfl | rfl <;> rfl

/-- A ranked match is the evaluation of a catalog product with no rejection reason. -/
theorem rankProducts_eligible {intent : PurchaseIntent} {catalog : Catalog} {now : Int}
    {m : ProductMatch} (mem : m ∈ (rankProducts intent catalog now).hits) :
    m.product ∈ catalog.products ∧ m.eligibility = eligibility m.product intent.hardConstraints now ∧
      m.eligibility.rejectionReasons = [] := by
  by_cases missing : missingHardConstraints intent.hardConstraints = []
  · simp only [rankProducts, missing, ne_eq, not_true_eq_false, if_false] at mem
    obtain ⟨m', mem', product, evidence⟩ := mem_assignRoles mem
    have sorted := (List.mem_insertionSort byScore).mp (List.mem_of_mem_take mem')
    obtain ⟨evaluated, eligible⟩ := List.mem_filter.mp sorted
    obtain ⟨p, memP, rfl⟩ := List.mem_map.mp evaluated
    rw [product, evidence]
    exact ⟨memP, rfl, List.isEmpty_iff.mp eligible⟩
  · simp [rankProducts_of_missing missing] at mem

end AgentReady
