import AgentReady.Domain.Shortlist
import AgentReady.Lifecycle.Conversing
import AgentReady.Lifecycle.Runs
import AgentReady.Services.Precedence

/-!
The answer to a request for something cheaper (`handleCheaper` of `apps/web/lib/services.ts`).

The search ranks again under a reduced budget and takes the first product other than the current best. What it
takes is `Foremost`: it is the best scored of the others, and its price need not be lower.

* `handleCheaperIn`: the answer over any catalog.
* `cheaperIn_foremost`: what the search takes.
* `cheaper_truthful_iff`: the answer is true if and only if what is foremost is cheaper, and nothing that is
  cheaper is left where nothing is.
-/

namespace AgentReady

open Coop StableSort Svc

/-! ### The answer -/

/-- The intent of a search for something cheaper. -/
def cheaperIntent (i : ParsedIntent) : PurchaseIntent :=
  buildPurchaseIntent { i with maxAmountMinor := some (cheaperBudget i) }

/-- The first match of that search that is not the current best. -/
def cheaperIn (catalog : Catalog) (i : ParsedIntent) (best : CatalogProduct) (now : Int) : Option ProductMatch :=
  (rankProducts (cheaperIntent i) catalog now).hits.find? (·.product.productId ≠ best.productId)

def refreshRecommendationIn (catalog : Catalog) (cfg : Config) (orderId : String) (session : Session)
    (recentAction userEvidence : String) : Svc RankingResult := do
  let ranking := rankProducts (buildPurchaseIntent session.intent) catalog (← now)
  recordRecommendation cfg orderId ranking
  syncMemory orderId ranking.productIds ranking.missingNames recentAction userEvidence
  return ranking

/-- `handleCheaper` over a catalog. -/
def handleCheaperIn (catalog : Catalog) (cfg : Config) (orderId : String) (session : Session) : Svc Reply := do
  let ranking ← match session.lastRanking.filter fun _ => isCurrentRecommendation session with
    | some ranking => pure ranking
    | none => refreshRecommendationIn catalog cfg orderId session "refine" session.message
  let state ← stateOf orderId
  match ranking.hits with
  | [] => return .respond (.cheaper none none state)
  | currentBest :: _ =>
      let option := cheaperIn catalog session.intent currentBest.product (← now)
      logIntent cfg orderId "action.cheaper" (some .allow) ["grounded_catalog_facts"]
      return .respond (.cheaper (some currentBest) option state)

theorem handleCheaper_eq : handleCheaper = handleCheaperIn shoeCatalog := rfl

/-! ### What is taken -/

section Taken

variable {catalog : Catalog} {i : ParsedIntent} {now : Int} {best : CatalogProduct}

/-- The product is eligible under the reduced budget. -/
def Affordable (i : ParsedIntent) (now : Int) (p : CatalogProduct) : Prop :=
  Meets (cheaperIntent i).hardConstraints now p

/-- The first of two places is ahead of the other: its score is higher, or the same and it stands first. -/
def Ahead (i : ParsedIntent) (now : Int) (p q : CatalogProduct) (place place' : Nat) : Prop :=
  scoreOf (cheaperIntent i) now q < scoreOf (cheaperIntent i) now p ∨
    (scoreOf (cheaperIntent i) now p = scoreOf (cheaperIntent i) now q ∧ place < place')

/-- The product at the place is the best scored of the affordable ones that are not the current best, and among
the best three. -/
structure Foremost (catalog : Catalog) (i : ParsedIntent) (now : Int) (best : CatalogProduct) (place : Nat)
    (p : CatalogProduct) : Prop where
  here : catalog.products[place]? = some p
  affordable : Affordable i now p
  other : p.productId ≠ best.productId
  first : ∀ place' q, catalog.products[place']? = some q → Affordable i now q → Ahead i now q p place' place →
    q.productId = best.productId
  among : ∀ places : List Nat, places.Nodup → (∀ place' ∈ places, ∃ q, catalog.products[place']? = some q ∧
    Affordable i now q ∧ Ahead i now q p place' place) → places.length < 3

theorem not_precedes_symm {α β : Type} [LinearOrder β] {key : α → β} {a b : α × Nat} (ab : Precedes key a b) :
    ¬ Precedes key b a := by
  intro ba
  rcases ab with less | ⟨same, before⟩ <;> rcases ba with less' | ⟨same', before'⟩
  · exact absurd (less.trans less') (lt_irrefl _)
  · exact absurd same' less.ne
  · exact absurd same less'.ne
  · omega

/-- The entries of the search, and what it takes of them. -/
theorem cheaperIn_entries (sized : truthy i.size = true) (used : truthy i.useCase = true) :
    ∃ entries : List (ProductMatch × Nat),
      (cheaperIn catalog i best now).map (·.product) =
        ((entries.take 3).find? (·.1.product.productId ≠ best.productId)).map (·.1.product) ∧
      (entries.map Prod.snd).Nodup ∧ entries.Pairwise (Precedes (·.scoreNormalized)) ∧
      ∀ e, e ∈ entries ↔ ∃ p, catalog.products[e.2]? = some p ∧
        e.1 = evaluate p (cheaperIntent i).hardConstraints (cheaperIntent i).softPreferences now ∧
        Affordable i now p := by
  obtain ⟨entries, shortlist, nodup, ordered, entry⟩ :=
    exists_ranking (show truthy (cheaperIntent i).hardConstraints.size = true from sized) used
  refine ⟨entries, ?_, nodup, ordered, entry⟩
  have products : (rankProducts (cheaperIntent i) catalog now).hits.map (·.product) =
      (entries.take 3).map (·.1.product) := by
    rw [shortlist, map_assignRoles fun _ _ _ => rfl, List.map_map]
    rfl
  have found := congrArg (List.find? (·.productId ≠ best.productId)) products
  rw [List.find?_map, List.find?_map] at found
  exact found

/-- The search takes what is foremost. -/
theorem cheaperIn_foremost (sized : truthy i.size = true) (used : truthy i.useCase = true) {p : CatalogProduct} :
    (cheaperIn catalog i best now).map (·.product) = some p ↔ ∃ place, Foremost catalog i now best place p := by
  obtain ⟨entries, found, nodup, ordered, entry⟩ := cheaperIn_entries sized used
  rw [found, Option.map_eq_some_iff]
  constructor
  · intro taken
    obtain ⟨e, taken, rfl⟩ := taken
    obtain ⟨other, before, after, split, same⟩ := List.find?_eq_some_iff_append.mp taken
    have whole : entries = before ++ e :: (after ++ entries.drop 3) := by
      rw [← List.cons_append, ← List.append_assoc, ← split, List.take_append_drop]
    obtain ⟨p, here, is, affordable⟩ := (entry e).mp (by rw [whole]; simp)
    have product : e.1.product = p := by rw [is]; rfl
    -- An affordable place that is ahead stands before.
    have ahead : ∀ place q, catalog.products[place]? = some q → Affordable i now q →
        Ahead i now q p place e.2 → ∃ e' ∈ before, e'.2 = place ∧ e'.1.product = q := by
      intro place q there fits leads
      have mem := (entry (_, place)).mpr ⟨q, there, rfl, fits⟩
      have precedes : Precedes ProductMatch.scoreNormalized
          (evaluate q (cheaperIntent i).hardConstraints (cheaperIntent i).softPreferences now, place) e := by
        rw [Precedes, is]
        exact leads
      rw [whole] at mem ordered
      rcases List.mem_append.mp mem with mem | mem
      · exact ⟨_, mem, rfl, rfl⟩
      · rcases List.mem_cons.mp mem with rfl | mem
        · exact absurd precedes (not_precedes_symm precedes)
        · have later := (List.pairwise_cons.mp (List.pairwise_append.mp ordered).2.1).1 _ mem
          exact absurd precedes (not_precedes_symm later)
    rw [product]
    refine ⟨e.2, here, affordable, ?_, ?_, ?_⟩
    · rw [← product]
      simpa using other
    · intro place q there fits leads
      obtain ⟨e', mem, -, rfl⟩ := ahead place q there fits leads
      simpa using same e' mem
    · intro places distinct each
      have sub : places ⊆ before.map Prod.snd := by
        intro place mem
        obtain ⟨q, there, fits, leads⟩ := each place mem
        obtain ⟨e', mem', rfl, -⟩ := ahead place q there fits leads
        exact List.mem_map_of_mem mem'
      have few := (List.subperm_of_subset distinct sub).length_le
      have three : (entries.take 3).length ≤ 3 := List.length_take_le _ _
      rw [split] at three
      simp only [List.length_map, List.length_append, List.length_cons] at few three
      omega
  · intro foremost
    obtain ⟨place, foremost⟩ := foremost
    have mem : (evaluate p (cheaperIntent i).hardConstraints (cheaperIntent i).softPreferences now, place) ∈ entries :=
      (entry _).mpr ⟨p, foremost.here, rfl, foremost.affordable⟩
    obtain ⟨before, after, whole⟩ := List.append_of_mem mem
    have parts := ordered
    rw [whole] at parts
    -- What stands before is affordable and ahead.
    have ahead : ∀ e ∈ before, ∃ q, catalog.products[e.2]? = some q ∧ e.1.product = q ∧ Affordable i now q ∧
        Ahead i now q p e.2 place := by
      intro e own
      obtain ⟨q, there, is, fits⟩ := (entry e).mp (by rw [whole]; exact List.mem_append_left _ own)
      have precedes := (List.pairwise_append.mp parts).2.2 e own _ List.mem_cons_self
      rw [Precedes, is] at precedes
      exact ⟨q, there, by rw [is]; rfl, fits, precedes⟩
    have few : before.length < 3 := by
      have := foremost.among (before.map Prod.snd) ?_ ?_
      · simpa using this
      · rw [whole, List.map_append] at nodup
        exact (List.nodup_append.mp nodup).1
      · intro place' mem
        obtain ⟨e, own, rfl⟩ := List.mem_map.mp mem
        obtain ⟨q, there, -, fits, leads⟩ := ahead e own
        exact ⟨q, there, fits, leads⟩
    refine ⟨(evaluate p (cheaperIntent i).hardConstraints (cheaperIntent i).softPreferences now, place),
      List.find?_eq_some_iff_append.mpr ⟨?_, before, after.take (2 - before.length), ?_, ?_⟩, rfl⟩
    · simpa [evaluate] using foremost.other
    · have room : 3 - before.length = (2 - before.length) + 1 := by omega
      rw [whole, List.take_append, List.take_of_length_le few.le, room, List.take_succ_cons]
    · intro e own
      obtain ⟨q, there, rfl, fits, leads⟩ := ahead e own
      simpa using foremost.first e.2 _ there fits leads

/-- The answer is true: what is offered is eligible and cheaper, and where nothing is offered, nothing eligible is
cheaper. -/
structure Truthful (catalog : Catalog) (i : ParsedIntent) (now : Int) (than : CatalogProduct)
    (option : Option ProductMatch) : Prop where
  cheaper : ∀ m, option = some m →
    Meets (buildPurchaseIntent i).hardConstraints now m.product ∧ m.product.priceMinor < than.priceMinor
  nothing : option = none → ∀ p ∈ catalog.products, Meets (buildPurchaseIntent i).hardConstraints now p →
    than.priceMinor ≤ p.priceMinor

/-- What is foremost is cheaper and within the budget, and where nothing is foremost, nothing eligible is cheaper. -/
structure ForemostCheaper (catalog : Catalog) (i : ParsedIntent) (now : Int) (than : CatalogProduct) : Prop where
  cheaper : ∀ place p, Foremost catalog i now than place p → p.priceMinor < than.priceMinor ∧
    (Json.Number.ofInt p.priceMinor).le (buildPurchaseIntent i).hardConstraints.maxAmountMinor = true
  nothing : (∀ place p, ¬ Foremost catalog i now than place p) → ∀ p ∈ catalog.products,
    Meets (buildPurchaseIntent i).hardConstraints now p → than.priceMinor ≤ p.priceMinor

/-- What is affordable under the reduced budget is eligible if it is within the budget. -/
theorem Affordable.meets {p : CatalogProduct} (fits : Affordable i now p)
    (budget : (Json.Number.ofInt p.priceMinor).le (buildPurchaseIntent i).hardConstraints.maxAmountMinor = true) :
    Meets (buildPurchaseIntent i).hardConstraints now p :=
  ⟨budget, fits.size, fits.stock, fits.returnable, fits.delivery⟩

theorem truthful_cheaperIn (sized : truthy i.size = true) (used : truthy i.useCase = true) :
    Truthful catalog i now best (cheaperIn catalog i best now) ↔ ForemostCheaper catalog i now best := by
  have foremost : ∀ {p : CatalogProduct}, (cheaperIn catalog i best now).map (·.product) = some p ↔
      ∃ place, Foremost catalog i now best place p := cheaperIn_foremost sized used
  constructor
  · intro truthful
    constructor
    · intro place p leads
      obtain ⟨m, taken, rfl⟩ := Option.map_eq_some_iff.mp (foremost.mpr ⟨place, leads⟩)
      obtain ⟨meets, less⟩ := truthful.cheaper m taken
      exact ⟨less, meets.budget⟩
    · intro none_
      refine truthful.nothing ?_
      cases taken : cheaperIn catalog i best now with
      | none => rfl
      | some m =>
          obtain ⟨place, leads⟩ := foremost.mp (congrArg (Option.map (·.product)) taken)
          exact absurd leads (none_ place _)
  · intro right
    constructor
    · intro m taken
      obtain ⟨place, leads⟩ := foremost.mp (congrArg (Option.map (·.product)) taken)
      obtain ⟨less, budget⟩ := right.cheaper place _ leads
      exact ⟨leads.affordable.meets budget, less⟩
    · intro none_
      refine right.nothing fun place p leads => ?_
      have taken := foremost.mpr ⟨place, leads⟩
      rw [none_] at taken
      cases taken

end Taken

/-! ### The run -/

section Answered

variable {catalog : Catalog} {cfg : Config} {s : Services} {o : String} {v : View}
  {answer : (q : Query) → q.Answer}

/-- The ranking a request for something cheaper starts from. -/
def comparedRanking (catalog : Catalog) (x : Session) (now : Int) : RankingResult :=
  (x.lastRanking.filter fun _ => isCurrentRecommendation x).getD (rankProducts (buildPurchaseIntent x.intent) catalog now)

def currentBest (catalog : Catalog) (x : Session) (now : Int) : Option ProductMatch :=
  (comparedRanking catalog x now).hits.head?

/-- The product of the match that is answered as the current best; where nothing is ranked it is the first of the
catalog. -/
def comparedWith (catalog : Catalog) (x : Session) (now : Int) : Option CatalogProduct :=
  ((currentBest catalog x now).map (·.product)).or catalog.products.head?

theorem lawful_undisturbed (cfg : Config) (o : String) (answer : (q : Query) → q.Answer) :
    Lawful cfg.platform Eq (fun _ _ _ => True) o
      (alone cfg.platform (fun _ _ _ => True) (fun _ => True) answer fun _ _ => True) :=
  .alone trivial

/-- What the request is answered with. -/
theorem handleCheaperIn_answers (at_ : s.view? o = some v) {best option : Option ProductMatch} {state : OrderState}
    (answered : ((handleCheaperIn catalog cfg o v.session).run answer s).result =
      .ok (.respond (.cheaper best option state))) :
    best = currentBest catalog v.session v.clock ∧
      option = best.bind fun m => cheaperIn catalog v.session.intent m.product v.clock := by
  have lawful := lawful_undisturbed cfg o answer
  let post : Except ServiceError Reply → Services → Prop := fun r _ => ∀ best option state,
    r = .ok (.respond (.cheaper best option state)) → best = currentBest catalog v.session v.clock ∧
      option = best.bind fun m => cheaperIn catalog v.session.intent m.product v.clock
  have rest : ∀ (ranking : RankingResult) (s' : Services) (v' : View), s'.view? o = some v' → v'.clock = v.clock →
      comparedRanking catalog v.session v.clock = ranking → Proc.Meets
        (alone cfg.platform (fun _ _ _ => True) (fun _ => True) answer fun _ _ => True) post (do
          let state ← stateOf o
          match ranking.hits with
          | [] => return .respond (.cheaper none none state)
          | currentBest :: _ =>
              let option := cheaperIn catalog v.session.intent currentBest.product (← now)
              logIntent cfg o "action.cheaper" (some .allow) ["grounded_catalog_facts"]
              return .respond (.cheaper (some currentBest) option state) : Svc Reply) s' := by
    intro ranking s' v' at' clock compared
    refine Proc.meets_bind.mpr (meets_stateOf at' ?_)
    dsimp only
    split
    · next empty =>
        intro best option state is
        cases is
        simp [currentBest, compared, empty]
    · next head tail ranked =>
        refine Proc.meets_bind.mpr (meets_now at' ?_)
        refine Proc.meets_bind.mpr (meets_logIntent lawful at' (fun m _ => ?_) fun _ s'' _ at'' => ?_)
        · intro best option state is
          cases is
        · intro best option state is
          cases is
          simp [currentBest, compared, ranked, clock]
  have meets : (handleCheaperIn catalog cfg o v.session).Meets
      (alone cfg.platform (fun _ _ _ => True) (fun _ => True) answer fun _ _ => True) post s := by
    unfold handleCheaperIn
    split
    · next ranking current =>
        exact rest _ s v at_ rfl (by rw [comparedRanking, current]; rfl)
    · next none_ =>
        refine Proc.meets_bind.mpr (Proc.meets_bind.mpr (meets_now at_ ?_))
        refine Proc.meets_bind.mpr (meets_recordRecommendation lawful at_ (fun _ => trivial) fun s₁ at₁ => ?_)
        refine Proc.meets_bind.mpr (meets_syncMemory lawful at₁ fun s₂ at₂ => ?_)
        exact rest _ s₂ _ at₂ rfl (by rw [comparedRanking, none_]; rfl)
  have run := meets.run (fun _ => rfl) fun _ _ _ => And.intro rfl trivial
  exact run.2 best option state answered

/-- When the request is answered truthfully. Where something is ranked, what is foremost is cheaper than the current
best; where nothing is, nothing eligible is cheaper than the product that is answered in its place. -/
def CheaperHolds (catalog : Catalog) (x : Session) (now : Int) (than : CatalogProduct) : Prop :=
  match currentBest catalog x now with
  | some _ => ForemostCheaper catalog x.intent now than
  | none => ∀ p ∈ catalog.products, Meets (buildPurchaseIntent x.intent).hardConstraints now p →
      than.priceMinor ≤ p.priceMinor

theorem cheaper_truthful_iff (at_ : s.view? o = some v) (complete : v.session.intent.Complete)
    {best option : Option ProductMatch} {state : OrderState}
    (answered : ((handleCheaperIn catalog cfg o v.session).run answer s).result =
      .ok (.respond (.cheaper best option state)))
    {than : CatalogProduct} (compared : comparedWith catalog v.session v.clock = some than) :
    Truthful catalog v.session.intent v.clock than option ↔ CheaperHolds catalog v.session v.clock than := by
  obtain ⟨rfl, rfl⟩ := handleCheaperIn_answers at_ answered
  have named : truthy v.session.intent.size = true ∧ truthy v.session.intent.useCase = true := by
    have parts := List.append_eq_nil_iff.mp complete
    constructor
    · by_contra unsized
      simp [buildPurchaseIntent, unsized] at parts
    · by_contra unused
      simp [buildPurchaseIntent, unused] at parts
  unfold CheaperHolds
  cases ranked : currentBest catalog v.session v.clock with
  | some m =>
      have same : m.product = than := by simpa [comparedWith, ranked] using compared
      rw [← same]
      exact truthful_cheaperIn named.1 named.2
  | none =>
      constructor
      · intro truthful
        exact truthful.nothing rfl
      · intro none_
        constructor
        · intro m taken
          cases taken
        · intro _
          exact none_

end Answered

/-- The services once a shoe of size UK 9 for the use is asked for. -/
def comparingServices (useCase : String) : Services :=
  .after { clock := 0 } [.createSession none, .intentPatch "ord_0" [("size", .str "UK 9")] 0,
    .intentPatch "ord_0" [("useCase", .str useCase)] 1]

/-- What a match is: its product, and the price. -/
def ProductMatch.priced (m : ProductMatch) : String × Int := (m.product.productId, m.product.priceMinor)

/-- What is answered as the best match and as the cheaper one, and the product it is cheaper than. -/
def cheaperAnswer (s : Services) (orderId : String) (x : Session) : List (Option (String × Int)) :=
  match ((handleCheaperIn shoeCatalog plainConfig orderId x).run (obliging 0) s).result with
  | .ok (.respond (.cheaper best option _)) => [best.map (·.priced), option.map (·.priced),
      (comparedWith shoeCatalog x s.clock).map fun p => (p.productId, p.priceMinor)]
  | _ => []

theorem cheaperAnswer_eq {s : Services} {orderId : String} {x : Session} {best option than : Option (String × Int)}
    (answered : cheaperAnswer s orderId x = [best, option, than]) : ∃ best' option' state,
      ((handleCheaperIn shoeCatalog plainConfig orderId x).run (obliging 0) s).result =
        .ok (.respond (.cheaper best' option' state)) ∧ option'.map (·.priced) = option ∧
      (comparedWith shoeCatalog x s.clock).map (fun p => (p.productId, p.priceMinor)) = than := by
  unfold cheaperAnswer at answered
  split at answered
  · next best' option' state is =>
      simp only [List.cons.injEq] at answered
      exact ⟨best', option', state, is, answered.2.1, answered.2.2.1⟩
  · cases answered

instance {i : ParsedIntent} : Decidable i.Complete := inferInstanceAs (Decidable (missingHardConstraints _ = []))

/-- A session for the use, and what is answered in it. -/
theorem exists_answered (useCase : String) (best option than : Option (String × Int))
    (answered : ((comparingServices useCase).view? "ord_0").map
      (fun v => (cheaperAnswer (comparingServices useCase) "ord_0" v.session, decide v.session.intent.Complete)) =
        some ([best, option, than], true)) : ∃ v best' option' state,
      (comparingServices useCase).view? "ord_0" = some v ∧ v.session.intent.Complete ∧
      ((handleCheaperIn shoeCatalog plainConfig "ord_0" v.session).run (obliging 0) (comparingServices useCase)).result =
        .ok (.respond (.cheaper best' option' state)) ∧ option'.map (·.priced) = option ∧
      (comparedWith shoeCatalog v.session v.clock).map (fun p => (p.productId, p.priceMinor)) = than := by
  obtain ⟨v, at_, is⟩ := Option.map_eq_some_iff.mp answered
  obtain ⟨is, complete⟩ := Prod.mk.inj is
  obtain ⟨best', option', state, result, taken, compared⟩ := cheaperAnswer_eq is
  rw [(view_cases at_).2.2.2.1] at compared
  exact ⟨v, best', option', state, at_, of_decide_eq_true complete, result, taken, compared⟩

/-- On the road the answer is a cheaper shoe. -/
theorem cheaper_truthful_road : ∃ v option than, (comparingServices "road").view? "ord_0" = some v ∧
    option.map ProductMatch.priced = some ("p_stride_lite", 349900) ∧
    (Truthful shoeCatalog v.session.intent v.clock than option ↔ CheaperHolds shoeCatalog v.session v.clock than) := by
  obtain ⟨v, best, option, state, at_, complete, result, taken, compared⟩ := exists_answered "road"
    (some ("p_streak_4", 429900)) (some ("p_stride_lite", 349900)) (some ("p_streak_4", 429900)) (by decide +kernel)
  obtain ⟨than, is, -⟩ := Option.map_eq_some_iff.mp compared
  exact ⟨v, option, than, at_, taken, cheaper_truthful_iff at_ complete result is⟩

/-- What is offered as cheaper than a casual shoe costs more. -/
theorem cheaper_truthful_false : ¬ ∀ (catalog : Catalog) (cfg : Config) (s : Services) (o : String) (v : View)
    (answer : (q : Query) → q.Answer) (best option : Option ProductMatch) (state : OrderState) (than : CatalogProduct),
    s.view? o = some v → v.session.intent.Complete →
      ((handleCheaperIn catalog cfg o v.session).run answer s).result = .ok (.respond (.cheaper best option state)) →
        comparedWith catalog v.session v.clock = some than →
          Truthful catalog v.session.intent v.clock than option := by
  intro all
  obtain ⟨v, best, option, state, at_, complete, result, taken, compared⟩ := exists_answered "casual"
    (some ("p_casual_day", 299900)) (some ("p_stride_lite", 349900)) (some ("p_casual_day", 299900)) (by decide +kernel)
  obtain ⟨than, is, price⟩ := Option.map_eq_some_iff.mp compared
  obtain ⟨m, rfl, price'⟩ := Option.map_eq_some_iff.mp taken
  have cheaper := ((all _ _ _ _ v _ best _ state than at_ complete result is).cheaper m rfl).2
  have dearer : m.product.priceMinor = 349900 := congrArg Prod.snd price'
  have compared : than.priceMinor = 299900 := congrArg Prod.snd price
  omega

end AgentReady
