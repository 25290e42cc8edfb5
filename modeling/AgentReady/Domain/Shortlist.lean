import AgentReady.Domain.Ranking
import AgentReady.Lib.StableSort

/-!
What a shortlist is (`packages/catalog/src/ranking.ts`).

A product may stand in the catalog more than once, so matches are told apart by their places in it.

* `Meets`: the hard constraints, and `rejectionReasons_eq_nil`: a product is rejected for nothing else.
* `ranks_correctly`: the shortlist of every catalog holds its best eligible products in their order, with
  the roles that they earn.
-/

namespace AgentReady

open StableSort

/-- The product meets every hard constraint. -/
structure Meets (c : HardConstraints) (now : Int) (p : CatalogProduct) : Prop where
  budget : (Json.Number.ofInt p.priceMinor).le c.maxAmountMinor = true
  size : ∃ v ∈ p.variants, some v.size = c.size
  stock : ∃ v ∈ p.variants, some v.size = c.size ∧ 0 < v.inStock
  returnable : c.mustBeReturnable = some true → p.returnable = true
  delivery : truthy c.deliverBy = true →
    (estimateShipping p.deliveryLeadDays now).deliverBy ≤ c.deliverBy.getD ""

theorem rejectionReasons_eq_nil {c : HardConstraints} {now : Int} {p : CatalogProduct}
    (sized : truthy c.size = true) : (eligibility p c now).rejectionReasons = [] ↔ Meets c now p := by
  simp only [eligibility, List.append_eq_nil_iff, codeWhen_eq_nil, Bool.not_eq_false', List.any_eq_true,
    Bool.or_eq_true, Bool.not_eq_true', Bool.and_eq_true, decide_eq_true_eq, sized, true_and]
  constructor
  · rintro ⟨⟨⟨⟨budget, size⟩, stock⟩, returnable⟩, delivery⟩
    refine ⟨budget, size, stock, fun required => ?_, fun due => ?_⟩
    · exact returnable.resolve_left (by simp [required])
    · exact delivery.resolve_left (by simp [due])
  · intro meets
    refine ⟨⟨⟨⟨meets.budget, meets.size⟩, meets.stock⟩, ?_⟩, ?_⟩
    · cases required : c.mustBeReturnable.getD false with
      | false => exact .inl rfl
      | true =>
          refine .inr (meets.returnable ?_)
          cases given : c.mustBeReturnable with
          | none => simp [given] at required
          | some b => simpa [given] using required
    · cases due : truthy c.deliverBy with
      | false => exact .inl rfl
      | true => exact .inr (meets.delivery due)

theorem normalizeScore_range (raw : Int) : 0 ≤ normalizeScore raw ∧ normalizeScore raw ≤ 100 := by
  unfold normalizeScore
  omega

/-! ### Roles -/

section UpdateFirst

variable {p : ProductMatch → Bool} {f : ProductMatch → ProductMatch}

/-- What an update leaves in place. -/
theorem map_updateFirst {β : Type} {g : ProductMatch → β} (same : ∀ m, g (f m) = g m) :
    ∀ l : List ProductMatch, (updateFirst p f l).map g = l.map g
  | [] => rfl
  | m :: rest => by
      unfold updateFirst
      split
      · simp [same]
      · simp [map_updateFirst same rest]

/-- A test that an update does not change is passed as often. -/
theorem countP_updateFirst {q : ProductMatch → Bool} (same : ∀ m, p m = true → q (f m) = q m) :
    ∀ l : List ProductMatch, (updateFirst p f l).countP q = l.countP q
  | [] => rfl
  | m :: rest => by
      unfold updateFirst
      split
      · rename_i passes
        simp only [List.countP_cons, same m passes]
      · simp only [List.countP_cons, countP_updateFirst same rest]

/-- A role that nobody had is given once, where somebody may get it. -/
theorem countP_role {role : RecommendationRole} (gives : ∀ m, (f m).role = role) :
    ∀ l : List ProductMatch, l.countP (·.role = role) = 0 →
      (updateFirst p f l).countP (·.role = role) = if l.any p then 1 else 0
  | [], _ => rfl
  | m :: rest, nobody => by
      simp only [List.countP_cons, Nat.add_eq_zero_iff] at nobody
      unfold updateFirst
      split
      · rename_i passes
        simp [gives, nobody.1, passes]
      · rename_i fails
        simp only [List.countP_cons, countP_role gives rest nobody.1, nobody.2, List.any_cons,
          Bool.eq_false_iff.mpr fails, Bool.false_or, Nat.add_zero]

/-- Who gets a role passed the test, but for the texts that giving it changes. -/
theorem role_updateFirst {role : RecommendationRole} {m : ProductMatch} {l : List ProductMatch}
    (mem : m ∈ updateFirst p f l) (given : m.role = role) (nobody : l.countP (·.role = role) = 0) :
    ∃ m' ∈ l, p m' = true ∧ m = f m' := by
  induction l with
  | nil => cases mem
  | cons head rest ih =>
      simp only [List.countP_cons, Nat.add_eq_zero_iff] at nobody
      unfold updateFirst at mem
      split at mem
      · rename_i passes
        rcases List.mem_cons.mp mem with rfl | mem
        · exact ⟨head, List.mem_cons_self, passes, rfl⟩
        · have none_ := List.countP_eq_zero.mp nobody.1 m mem
          simp [given] at none_
      · rcases List.mem_cons.mp mem with rfl | mem
        · simp [given] at nobody
        · obtain ⟨m', own, passes, rfl⟩ := ih mem nobody.1
          exact ⟨m', List.mem_cons_of_mem _ own, passes, rfl⟩

end UpdateFirst

/-- The roles of a shortlist. -/
structure RolesGiven (hits : List ProductMatch) : Prop where
  first : ∀ best rest, hits = best :: rest → best.role = .bestOverall ∧ ∀ m ∈ rest, m.role ≠ .bestOverall
  cheaper_once : hits.countP (·.role = .cheaperAlternative) ≤ 1
  cheaper : ∀ best rest, hits = best :: rest → ∀ m ∈ hits, m.role = .cheaperAlternative →
    m.product.priceMinor < best.product.priceMinor
  cheaper_given : ∀ best rest, hits = best :: rest →
    (∃ m ∈ hits, m.product.priceMinor < best.product.priceMinor) → ∃ m ∈ hits, m.role = .cheaperAlternative
  tradeoff_once : hits.countP (·.role = .tradeoffChoice) ≤ 1
  tradeoff : ∀ m ∈ hits, m.role = .tradeoffChoice → m.compromises ≠ []

section Tail

variable {first best : ProductMatch} {rest : List ProductMatch} {f g : ProductMatch → ProductMatch}

/-- The first match has its role, and the first cheaper and the first compromising of the others get theirs. -/
theorem rolesGiven_tail (leads : first.role = .bestOverall) (price : first.product = best.product)
    (unassigned : ∀ m ∈ rest, m.role = .none) (cheaper : ∀ m, (f m).role = .cheaperAlternative)
    (product : ∀ m, (f m).product = m.product) (tradeoff : ∀ m, (g m).role = .tradeoffChoice)
    (product' : ∀ m, (g m).product = m.product) (compromises' : ∀ m, (g m).compromises = m.compromises) :
    RolesGiven (first :: updateFirst (fun m => m.role = .none && !m.compromises.isEmpty) g
      (updateFirst (fun m => m.product.priceMinor < best.product.priceMinor) f rest)) := by
  have free : ∀ role, role ≠ .none → rest.countP (·.role = role) = 0 := by
    intro role some_
    refine List.countP_eq_zero.mpr fun m mem => ?_
    rw [decide_eq_true_eq, unassigned m mem]
    exact some_.symm
  generalize mid_ : updateFirst (fun m => decide (m.product.priceMinor < best.product.priceMinor)) f rest = mid
  generalize final_ : updateFirst (fun m => decide (m.role = .none) && !m.compromises.isEmpty) g mid = final
  -- The roles in the middle, and at the end.
  have midCheaper := countP_role (p := fun m => m.product.priceMinor < best.product.priceMinor) cheaper rest
    (free _ (by decide))
  have midOther : ∀ role, role ≠ .none → role ≠ .cheaperAlternative → mid.countP (·.role = role) = 0 := by
    intro role some_ other
    refine List.countP_eq_zero.mpr fun m mem => ?_
    obtain ⟨m', own, rfl | rfl⟩ := mem_updateFirst (mid_ ▸ mem)
    · simpa [unassigned m own] using some_.symm
    · simpa [cheaper] using other.symm
  have finalKept : ∀ role, role ≠ .none → role ≠ .tradeoffChoice →
      final.countP (·.role = role) = mid.countP (·.role = role) := by
    intro role some_ other
    rw [← final_]
    refine countP_updateFirst (fun m passes => ?_) mid
    simp only [Bool.and_eq_true, decide_eq_true_eq] at passes
    rw [tradeoff, passes.1, decide_eq_false other.symm, decide_eq_false some_.symm]
  have finalTradeoff := countP_role (p := fun m => m.role = .none && !m.compromises.isEmpty) tradeoff mid
    (midOther _ (by decide) (by decide))
  rw [mid_] at midCheaper
  rw [final_] at finalTradeoff
  have products : final.map (·.product) = rest.map (·.product) := by
    rw [← final_, ← mid_, map_updateFirst product', map_updateFirst product]
  constructor
  · rintro b r same
    obtain ⟨rfl, rfl⟩ := List.cons.inj same
    refine ⟨leads, fun m mem role => ?_⟩
    have nobody := (finalKept .bestOverall (by decide) (by decide)).trans (midOther _ (by decide) (by decide))
    exact List.countP_eq_zero.mp nobody m mem (by simp [role])
  · rw [List.countP_cons, finalKept _ (by decide) (by decide), midCheaper, leads]
    split <;> simp
  · rintro b r same m mem role
    obtain ⟨rfl, rfl⟩ := List.cons.inj same
    rcases List.mem_cons.mp mem with rfl | mem
    · rw [leads] at role
      cases role
    · obtain ⟨m₁, own, rfl | rfl⟩ := mem_updateFirst (final_ ▸ mem)
      · obtain ⟨m₂, -, cheaper_, rfl⟩ := role_updateFirst (mid_ ▸ own) role (free _ (by decide))
        rw [price, product]
        exact of_decide_eq_true cheaper_
      · rw [tradeoff] at role
        cases role
  · rintro b r same ⟨m, mem, less⟩
    obtain ⟨rfl, rfl⟩ := List.cons.inj same
    rcases List.mem_cons.mp mem with rfl | mem
    · exact absurd less (lt_irrefl _)
    · have listed : m.product ∈ rest.map (·.product) := by
        rw [← products]
        exact List.mem_map_of_mem mem
      obtain ⟨m', own, product_⟩ := List.mem_map.mp listed
      have any : rest.any (fun m => m.product.priceMinor < best.product.priceMinor) = true := by
        refine List.any_eq_true.mpr ⟨m', own, ?_⟩
        rw [product_, ← price]
        exact decide_eq_true less
      have once := (finalKept .cheaperAlternative (by decide) (by decide)).trans midCheaper
      rw [any, if_pos rfl] at once
      obtain ⟨m'', own', role⟩ := List.countP_pos_iff.mp (once ▸ Nat.one_pos)
      exact ⟨m'', List.mem_cons_of_mem _ own', of_decide_eq_true role⟩
  · rw [List.countP_cons, finalTradeoff, leads]
    split <;> simp
  · intro m mem role
    rcases List.mem_cons.mp mem with rfl | mem
    · rw [leads] at role
      cases role
    · obtain ⟨m', -, passes, rfl⟩ := role_updateFirst (final_ ▸ mem) role (midOther _ (by decide) (by decide))
      rw [compromises']
      simp only [Bool.and_eq_true, Bool.not_eq_true', List.isEmpty_eq_false_iff] at passes
      exact passes.2

end Tail

/-- Where nobody has a role yet, the roles are given as they should be. -/
theorem rolesGiven_assignRoles : ∀ {l : List ProductMatch}, (∀ m ∈ l, m.role = .none) → RolesGiven (assignRoles l)
  | [], _ => by
      refine ⟨?_, by simp [assignRoles], ?_, ?_, by simp [assignRoles], by simp [assignRoles]⟩
      all_goals rintro best rest ⟨⟩
  | best :: rest, unassigned =>
      rolesGiven_tail rfl rfl (fun m mem => unassigned m (List.mem_cons_of_mem _ mem)) (fun _ => rfl)
        (fun _ => rfl) (fun _ => rfl) (fun _ => rfl) fun _ => rfl

/-- Giving roles keeps what is not about them. -/
theorem map_assignRoles {β : Type} {g : ProductMatch → β}
    (same : ∀ (m : ProductMatch) role roleJustification, g { m with role, roleJustification } = g m) :
    ∀ l : List ProductMatch, (assignRoles l).map g = l.map g
  | [] => rfl
  | best :: rest => by
      simp only [assignRoles, List.map_cons, same]
      rw [map_updateFirst fun m => same m _ _, map_updateFirst fun m => same m _ _]

/-! ### Shortlists -/

/-- The score of a product. -/
def scoreOf (intent : PurchaseIntent) (now : Int) (p : CatalogProduct) : Int :=
  (evaluate p intent.hardConstraints intent.softPreferences now).scoreNormalized

/-- The matches stand for the products at the places given, which are the best of the eligible ones. -/
structure Ranked (intent : PurchaseIntent) (catalog : Catalog) (now : Int) (hits : List ProductMatch)
    (eligible places : List Nat) : Prop where
  eligible_nodup : eligible.Nodup
  eligible_iff : ∀ i, i ∈ eligible ↔ ∃ p, catalog.products[i]? = some p ∧ Meets intent.hardConstraints now p
  count : hits.length = min 3 eligible.length
  distinct : places.Nodup
  stands : List.Forall₂ (fun m i => catalog.products[i]? = some m.product) hits places
  meets : ∀ m ∈ hits, Meets intent.hardConstraints now m.product
  scored : ∀ m ∈ hits, m.scoreNormalized = scoreOf intent now m.product ∧
    0 ≤ m.scoreNormalized ∧ m.scoreNormalized ≤ 100
  ordered : (hits.zip places).Pairwise (Precedes (·.scoreNormalized))
  best : ∀ i ∈ eligible, i ∉ places → ∀ p, catalog.products[i]? = some p →
    ∀ m ∈ hits, scoreOf intent now p ≤ m.scoreNormalized

/-- The eligible products in their order, the best three of which are the shortlist. -/
theorem exists_ranking {intent : PurchaseIntent} {catalog : Catalog} {now : Int}
    (sized : truthy intent.hardConstraints.size = true) (used : truthy intent.hardConstraints.useCase = true) :
    ∃ entries : List (ProductMatch × Nat),
      (rankProducts intent catalog now).hits = assignRoles ((entries.take 3).map Prod.fst) ∧
      (entries.map Prod.snd).Nodup ∧ entries.Pairwise (Precedes (·.scoreNormalized)) ∧
      ∀ e, e ∈ entries ↔ ∃ p, catalog.products[e.2]? = some p ∧
        e.1 = evaluate p intent.hardConstraints intent.softPreferences now ∧ Meets intent.hardConstraints now p := by
  obtain ⟨entries, perm, sorted, ordered⟩ := @exists_entries ProductMatch Int _ ProductMatch.scoreNormalized
    (fun m => m.eligibility.rejectionReasons.isEmpty)
    (catalog.products.map fun p => evaluate p intent.hardConstraints intent.softPreferences now) 0
  refine ⟨entries, ?_, ?_, ordered, fun e => ?_⟩
  · have complete : missingHardConstraints intent.hardConstraints = [] := by
      simp [missingHardConstraints, sized, used]
    simp only [rankProducts, complete, ne_eq, not_true_eq_false, if_false, List.map_take, sorted]
    rfl
  · refine ((perm.map Prod.snd).nodup_iff).mpr ((List.filter_sublist.map Prod.snd).nodup ?_)
    rw [List.zipIdx_map_snd]
    exact List.nodup_range'
  · obtain ⟨m, i⟩ := e
    rw [perm.mem_iff, List.mem_filter, List.mem_zipIdx_iff_getElem?, List.getElem?_map]
    simp only [Option.map_eq_some_iff, List.isEmpty_iff]
    constructor
    · rintro ⟨⟨p, here, rfl⟩, passes⟩
      exact ⟨p, here, rfl, (rejectionReasons_eq_nil sized).mp passes⟩
    · rintro ⟨p, here, rfl, meets⟩
      exact ⟨⟨p, here, rfl⟩, (rejectionReasons_eq_nil sized).mpr meets⟩

/-- The shortlist of an intent with a size and a use case is right, for every catalog and at every time. -/
theorem ranks_correctly (intent : PurchaseIntent) (catalog : Catalog) (now : Int)
    (sized : truthy intent.hardConstraints.size = true) (used : truthy intent.hardConstraints.useCase = true) :
    ∃ eligible places, Ranked intent catalog now (rankProducts intent catalog now).hits eligible places ∧
      RolesGiven (rankProducts intent catalog now).hits := by
  obtain ⟨entries, shortlist, nodup, ordered, entry⟩ := @exists_ranking intent catalog now sized used
  have top : ∀ e ∈ entries.take 3, e ∈ entries := fun e mem => List.mem_of_mem_take mem
  have kept : ∀ {β : Type} (g : ProductMatch → β),
      (∀ (m : ProductMatch) role roleJustification, g { m with role, roleJustification } = g m) →
      (rankProducts intent catalog now).hits.map g = (entries.take 3).map fun e => g e.1 := by
    intro β g same
    rw [shortlist, map_assignRoles same, List.map_map]
    rfl
  -- A match has the product and the score of an entry.
  have found : ∀ m ∈ (rankProducts intent catalog now).hits, ∃ e ∈ entries.take 3,
      e.1.product = m.product ∧ e.1.scoreNormalized = m.scoreNormalized := by
    intro m mem
    have listed := List.mem_map_of_mem (f := fun m => (m.product, m.scoreNormalized)) mem
    rw [kept (fun m => (m.product, m.scoreNormalized)) fun _ _ _ => rfl] at listed
    obtain ⟨e, own, same⟩ := List.mem_map.mp listed
    exact ⟨e, own, (Prod.mk.inj same).1, (Prod.mk.inj same).2⟩
  refine ⟨entries.map Prod.snd, (entries.take 3).map Prod.snd, ?_, ?_⟩
  · constructor
    · exact nodup
    · intro i
      constructor
      · intro mem
        obtain ⟨e, own, rfl⟩ := List.mem_map.mp mem
        obtain ⟨p, here, -, meets⟩ := (entry e).mp own
        exact ⟨p, here, meets⟩
      · rintro ⟨p, here, meets⟩
        exact List.mem_map.mpr ⟨(_, i), (entry (_, i)).mpr ⟨p, here, rfl, meets⟩, rfl⟩
    · have lengths := congrArg List.length (kept (·.product) fun _ _ _ => rfl)
      simpa using lengths
    · rw [List.map_take]
      exact (List.take_sublist 3 _).nodup nodup
    · have products := kept (·.product) fun _ _ _ => rfl
      rw [← List.forall₂_map_left_iff (f := fun m : ProductMatch => m.product)
        (R := fun p i => catalog.products[i]? = some p), products, List.forall₂_map_left_iff,
        List.forall₂_map_right_iff, List.forall₂_same]
      intro e mem
      obtain ⟨p, here, same, -⟩ := (entry e).mp (top e mem)
      rw [here, same]
      rfl
    · intro m mem
      obtain ⟨e, own, product, -⟩ := found m mem
      obtain ⟨p, -, same, meets⟩ := (entry e).mp (top e own)
      rw [← product, same]
      exact meets
    · intro m mem
      obtain ⟨e, own, product, score⟩ := found m mem
      obtain ⟨p, -, same, -⟩ := (entry e).mp (top e own)
      rw [← score, ← product, same]
      exact ⟨rfl, normalizeScore_range _⟩
    · have scores := kept (·.scoreNormalized) fun _ _ _ => rfl
      have zipped : ((rankProducts intent catalog now).hits.zip ((entries.take 3).map Prod.snd)).map
          (Prod.map (·.scoreNormalized) id) = (entries.take 3).map (Prod.map (·.scoreNormalized) id) := by
        rw [← List.zip_map_left, scores, List.zip_map', Prod.map_def]
        rfl
      have sorted : ((entries.take 3).map (Prod.map ProductMatch.scoreNormalized id)).Pairwise (Precedes id) :=
        List.pairwise_map.mpr (ordered.sublist (List.take_sublist 3 entries))
      rw [← zipped] at sorted
      have apart := List.pairwise_map.mp sorted
      exact apart
    · intro i mem omitted p here m mem'
      obtain ⟨e, own, rfl⟩ := List.mem_map.mp mem
      obtain ⟨p', here', same, -⟩ := (entry e).mp own
      obtain rfl := Option.some.inj (here.symm.trans here')
      have dropped : e ∈ entries.drop 3 := by
        rcases List.mem_append.mp ((List.take_append_drop 3 entries).symm ▸ own) with taken | dropped
        · exact absurd (List.mem_map_of_mem taken) omitted
        · exact dropped
      obtain ⟨e', own', -, score⟩ := found m mem'
      have parts : (entries.take 3 ++ entries.drop 3).Pairwise (Precedes (·.scoreNormalized)) := by
        rwa [List.take_append_drop]
      have le := le_of_precedes ((List.pairwise_append.mp parts).2.2 e' own' e dropped)
      rw [same, score] at le
      exact le
  · rw [shortlist]
    refine rolesGiven_assignRoles fun m mem => ?_
    obtain ⟨e, own, rfl⟩ := List.mem_map.mp mem
    obtain ⟨p, -, same, -⟩ := (entry e).mp (top e own)
    rw [same]
    rfl

/-- An intent for road shoes. -/
def Sample.roadIntent : PurchaseIntent where
  merchantId := "merchant_runvista"
  category := "running_shoes"
  hardConstraints := ⟨500000, "INR", some "UK 9", none, some "road", none, none⟩
  softPreferences := ⟨10, "standard", ""⟩

theorem ranks_correctly_road : ∃ eligible places,
    Ranked Sample.roadIntent shoeCatalog 0 (rankProducts Sample.roadIntent shoeCatalog 0).hits eligible places ∧
      RolesGiven (rankProducts Sample.roadIntent shoeCatalog 0).hits :=
  ranks_correctly Sample.roadIntent shoeCatalog 0 (by decide) (by decide)

end AgentReady
