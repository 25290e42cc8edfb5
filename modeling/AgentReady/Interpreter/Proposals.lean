import AgentReady.Interpreter.Validate
import AgentReady.Lib.Decimal
import Mathlib.Tactic.IntervalCases

/-!
What validation says of a proposed interpretation (`apps/web/lib/interpreter/validate.ts`,
`provider.ts`).

* `validateProposals_ok`: the proposals that are taken are those of the elements, each in its place.
* `validated_in_schema_iff`: an interpretation that is taken is inside the schema, save for a numeric size
  that is not whole.
* `interpretation_total_iff`: interpreting a message ends in an outcome, save where a `null` among the
  proposals is read.
-/

namespace AgentReady

/-! ### Domains -/

/-- A whole number between two others. -/
def Whole (low high : Int) (n : Json.Number) : Prop := ∃ z : Int, n = .ofInt z ∧ low ≤ z ∧ z ≤ high

/-- The value is one that its field supports. -/
def HardConstraintValue.InDomain : HardConstraintValue → Prop
  | size v => v ∈ supportedSizes
  | useCase v => v ∈ supportedUseCases
  | colour v => v ∈ supportedColours
  | maxAmountMinor n => Whole 10000 1000000 n
  | mustBeReturnable _ => True
  | deliverBy v => ∃ ms, v = isoString ms

def SoftPreferenceValue.InDomain : SoftPreferenceValue → Prop
  | fit v => v ∈ supportedFits
  | cushioning v => v ∈ supportedCushioning
  | distanceKm n => Whole 1 50 n

/-- The evidence is a part of the message, and not too long. -/
structure Supports (message evidence : String) : Prop where
  some_ : evidence ≠ ""
  length : utf16Length evidence ≤ maxEvidenceLength
  part : evidence.toList <:+: message.toList

/-- The texts are few, and none is empty or too long. -/
structure Listed (max : Nat) (texts : List String) : Prop where
  few : texts.length ≤ max
  each : ∀ s ∈ texts, s ≠ "" ∧ utf16Length s ≤ maxStringLength

/-- The interpretation is inside the schema. -/
structure InSchema (message : String) (productIds : List String) (i : StructuredInterpretation) : Prop where
  hard : ∀ c ∈ i.proposedHardConstraints, c.value.InDomain ∧ Supports message c.evidence
  soft : ∀ p ∈ i.proposedSoftPreferences, p.value.InDomain ∧ Supports message p.evidence
  fewHard : i.proposedHardConstraints.length ≤ maxHardConstraints
  fewSoft : i.proposedSoftPreferences.length ≤ maxSoftPreferences
  corrections : Listed maxCorrections i.corrections
  removals : Listed maxRemovals i.removals
  ambiguities : Listed maxAmbiguities i.ambiguities
  requested : Listed maxProductIds i.requestedProductIds
  known : ∀ id ∈ i.requestedProductIds, id ∈ productIds

/-! ### Numbers -/

section Numbers

variable {n : Json.Number} {low high : Int}

theorem inRange_ofInt : inRange (.ofInt low) (.ofInt high) n = true ↔
    ∃ q : ℚ, n = .finite q ∧ low ≤ q ∧ q ≤ high := by
  cases n with
  | finite q => simp [inRange, Json.Number.le, Json.Number.lt, Json.Number.ofInt]
  | infinite positive => cases positive <;> simp [inRange, Json.Number.le, Json.Number.lt, Json.Number.ofInt]

theorem whole_round {q : ℚ} (above : low ≤ q) (below : q ≤ high) : Whole low high (Json.Number.finite q).round := by
  refine ⟨⌊q + 1 / 2⌋, rfl, Int.le_floor.mpr ?_, ?_⟩
  · linarith
  · have : ⌊q + 1 / 2⌋ < high + 1 := Int.floor_lt.mpr (by push_cast; linarith)
    omega

theorem whole_numberOf {n : Nat} (within : inRange (.ofInt low) (.ofInt high) (numberOf n) = true) :
    Whole low high (numberOf n) := by
  obtain ⟨q, is, above, below⟩ := inRange_ofInt.mp within
  unfold numberOf at is ⊢
  split at is
  · next small =>
      rw [if_pos small]
      obtain rfl := Json.Number.finite.inj is
      exact ⟨n, rfl, by exact_mod_cast above, by exact_mod_cast below⟩
  · cases is

theorem lt_ofInt {a b : Int} : (Json.Number.ofInt a).lt (.ofInt b) = decide (a < b) := by
  simp [Json.Number.lt, Json.Number.ofInt]

/-- What is moved between two whole numbers is whole, if it was or is none of the two. -/
theorem whole_clamp (le : low ≤ high) (is : ∀ q, n = .finite q → ∃ z : Int, q = z) :
    Whole low high (clamp (.ofInt low) (.ofInt high) n) := by
  have bottom : Whole low high (.ofInt low) := ⟨low, rfl, le_rfl, le⟩
  have top : Whole low high (.ofInt high) := ⟨high, rfl, le, le_rfl⟩
  unfold clamp
  dsimp only
  by_cases tooLow : n.lt (.ofInt low) = true
  · rw [if_pos tooLow, lt_ofInt, decide_eq_false (not_lt.mpr le)]
    exact bottom
  · rw [if_neg tooLow]
    by_cases tooHigh : (Json.Number.ofInt high).lt n = true
    · simpa [tooHigh] using top
    · have inside : inRange (.ofInt low) (.ofInt high) n = true := by
        simp only [inRange, Json.Number.le, Bool.and_eq_true, Bool.not_eq_true']
        exact ⟨by simpa using tooLow, by simpa using tooHigh⟩
      obtain ⟨q, rfl, above, below⟩ := inRange_ofInt.mp inside
      obtain ⟨z, rfl⟩ := is q rfl
      simp only [tooHigh, Bool.false_eq_true, if_false]
      exact ⟨z, rfl, by exact_mod_cast above, by exact_mod_cast below⟩

theorem round_whole {q : ℚ} (is : n.round = .finite q) : ∃ z : Int, q = z := by
  cases n with
  | finite p =>
      obtain rfl := Json.Number.finite.inj is
      exact ⟨_, rfl⟩
  | infinite positive => cases is

theorem numberOf_whole {m : Nat} {q : ℚ} (is : numberOf m = .finite q) : ∃ z : Int, q = z := by
  unfold numberOf at is
  split at is
  · obtain rfl := Json.Number.finite.inj is
    exact ⟨m, rfl⟩
  · cases is

end Numbers

/-! ### Values -/

/-- A numeric size, where there is one, is whole. -/
def WholeSize (item : Json) : Prop :=
  property item "name" = some (.str "size") → ∀ q, property item "value" = some (.num (.finite q)) → q.den = 1

/-- A number that is not whole is written with a point. -/
theorem dot_mem_render {q : ℚ} (low : 6 ≤ q) (high : q ≤ 11) (broken : q.den ≠ 1) :
    '.' ∈ (Json.Number.finite q).render.toList := by
  have size : q * q.den = q.num := Rat.mul_den_eq_num q
  have den : (0 : ℚ) < q.den := by exact_mod_cast q.den_pos
  have least : 6 * (q.den : ℤ) ≤ q.num := by
    have : 6 * (q.den : ℚ) ≤ q.num := by nlinarith
    exact_mod_cast this
  have most : q.num ≤ 11 * (q.den : ℤ) := by
    have : (q.num : ℚ) ≤ 11 * q.den := by nlinarith
    exact_mod_cast this
  have positive := q.den_pos
  have plain : Json.Number.isPlain q = true := by
    have : q.num ≠ 0 := by omega
    simp only [Json.Number.isPlain, Bool.or_eq_true, Bool.and_eq_true, decide_eq_true_eq]
    exact .inr ⟨by omega, by omega⟩
  have some_ : Json.Number.places q q.den 0 ≠ 0 := by
    obtain ⟨fuel, succ⟩ := Nat.exists_eq_succ_of_ne_zero q.den_nz
    have first : ¬ (q * 10 ^ 0).den = 1 := by simpa using broken
    rw [succ, Json.Number.places, if_neg first]
    have := Json.Number.le_places q fuel (0 + 1)
    omega
  simp only [Json.Number.render, plain, if_true, Json.Number.toList_fixed]
  split <;> simp [Json.Number.body, some_]

theorem size_whole {q : ℚ} (low : 6 ≤ q) (high : q ≤ 11) :
    "UK " ++ (Json.Number.finite q).render ∈ supportedSizes ↔ q.den = 1 := by
  constructor
  · intro mem
    by_contra broken
    have dot := dot_mem_render low high broken
    have : '.' ∈ ("UK " ++ (Json.Number.finite q).render).toList := by
      rw [String.toList_append]
      exact List.mem_append_right _ dot
    generalize "UK " ++ (Json.Number.finite q).render = size at mem this
    revert this
    simp only [supportedSizes, List.mem_cons, List.not_mem_nil, or_false] at mem
    rcases mem with rfl | rfl | rfl | rfl | rfl | rfl <;> decide
  · intro whole
    obtain ⟨z, rfl⟩ : ∃ z : Int, q = z := ⟨q.num, (Rat.den_eq_one_iff q).mp whole |>.symm⟩
    have low : 6 ≤ z := by exact_mod_cast low
    have high : z ≤ 11 := by exact_mod_cast high
    interval_cases z <;> decide +kernel

/-- A digit size is supported. -/
theorem digits_size {n : Nat} (low : 6 ≤ n) (high : n ≤ 11) : "UK " ++ toString n ∈ supportedSizes := by
  interval_cases n <;> decide

section Normalizing

variable {P : Platform} {name : String} {value : Option Json}

/-- A hard value that is taken is in its domain, save for a numeric size that is not whole. -/
theorem normalizeHardValue_inDomain {v : HardConstraintValue} (taken : normalizeHardValue P name value = some v) :
    v.InDomain ↔ (name = "size" → ∀ q, value = some (.num (.finite q)) → q.den = 1) := by
  unfold normalizeHardValue at taken
  split at taken
  · next n =>
      split at taken
      · next inside =>
          obtain rfl := Option.some.inj taken
          obtain ⟨q, rfl, low, high⟩ := inRange_ofInt.mp inside
          have low : (6 : ℚ) ≤ q := by exact_mod_cast low
          have high : q ≤ (11 : ℚ) := by exact_mod_cast high
          simpa [HardConstraintValue.InDomain] using size_whole low high
      · cases taken
  · next s =>
      refine iff_of_true ?_ (by simp)
      dsimp only at taken
      split at taken
      · next supported =>
          obtain rfl := Option.some.inj taken
          simpa [HardConstraintValue.InDomain] using supported
      · split at taken
        · next inside =>
            obtain rfl := Option.some.inj taken
            exact digits_size inside.1 inside.2
        · cases taken
  · next s =>
      refine iff_of_true ?_ (by simp)
      split at taken
      · next supported =>
          obtain rfl := Option.some.inj taken
          simpa [HardConstraintValue.InDomain] using supported
      · cases taken
  · next s =>
      refine iff_of_true ?_ (by simp)
      split at taken
      · next supported =>
          obtain rfl := Option.some.inj taken
          simpa [HardConstraintValue.InDomain] using supported
      · cases taken
  · next n =>
      refine iff_of_true ?_ (by simp)
      split at taken
      · next inside =>
          obtain rfl := Option.some.inj taken
          obtain ⟨q, rfl, low, high⟩ := inRange_ofInt.mp (Bool.and_eq_true_iff.mp inside).2
          exact whole_round low high
      · cases taken
  · next s =>
      refine iff_of_true ?_ (by simp)
      dsimp only at taken
      split at taken
      · next inside =>
          obtain rfl := Option.some.inj taken
          exact whole_numberOf (Bool.and_eq_true_iff.mp inside).2
      · cases taken
  · next b =>
      refine iff_of_true ?_ (by simp)
      obtain rfl := Option.some.inj taken
      trivial
  · next s =>
      refine iff_of_true ?_ (by simp)
      obtain ⟨ms, -, rfl⟩ := Option.map_eq_some_iff.mp taken
      exact ⟨ms, rfl⟩
  · cases taken

theorem normalizeSoftValue_inDomain {v : SoftPreferenceValue} (taken : normalizeSoftValue name value = some v) :
    v.InDomain := by
  unfold normalizeSoftValue at taken
  split at taken
  · split at taken
    · next supported =>
        obtain rfl := Option.some.inj taken
        simpa [SoftPreferenceValue.InDomain] using supported
    · cases taken
  · split at taken
    · next supported =>
        obtain rfl := Option.some.inj taken
        simpa [SoftPreferenceValue.InDomain] using supported
    · cases taken
  · split at taken
    · obtain rfl := Option.some.inj taken
      exact whole_clamp (by decide) fun _ => round_whole
    · cases taken
  · split at taken
    · obtain rfl := Option.some.inj taken
      exact whole_clamp (by decide) fun _ => numberOf_whole
    · cases taken
  · cases taken

end Normalizing

/-! ### Lists -/

theorem isInfix_of_includes {part : List Char} : ∀ {text : List Char}, includes text part = true → part <:+: text
  | [], holds => by
      rw [List.isEmpty_iff.mp holds]
  | c :: rest, holds => by
      rcases Bool.or_eq_true_iff.mp holds with first | later
      · exact (List.isPrefixOf_iff_prefix.mp first).isInfix
      · exact (isInfix_of_includes later).trans (List.suffix_cons c rest).isInfix

/-- A field has no more elements than it may. -/
theorem length_validateArray (value : Option Json) (max : Nat) (field : String) :
    (validateArray value max field).2.length ≤ max := by
  unfold validateArray
  split <;> simp

/-- The elements of a field that raises no issue are all taken. -/
theorem validateArray_ok {value : Option Json} {max : Nat} {field : String}
    (ok : (validateArray value max field).1 = []) {items : List Json} (is : value = some (.arr items)) :
    (validateArray value max field).2 = items := by
  subst is
  have few : items.length ≤ max := by
    by_contra many
    simp [validateArray, not_le.mp many] at ok
  exact List.take_of_length_le few

theorem length_flatMap_le {α β : Type} {f : α → List β} (one : ∀ a, (f a).length ≤ 1) :
    ∀ l : List α, (l.flatMap f).length ≤ l.length
  | [] => le_rfl
  | a :: rest => by
      have := one a
      have := length_flatMap_le one rest
      simp only [List.flatMap_cons, List.length_append, List.length_cons]
      omega

/-- The texts of a field are few, and none is empty or too long. -/
theorem listed (value : Option Json) (max : Nat) (field : String) :
    Listed max (validateStringArray value max field).2 := by
  unfold validateStringArray
  dsimp only
  constructor
  · rw [List.flatMap_map]
    refine (length_flatMap_le (fun item => ?_) _).trans (length_validateArray value max field)
    split
    · split
      · simp
      · split <;> simp
    · simp
  · intro s mem
    obtain ⟨checked, made, taken⟩ := List.mem_flatMap.mp mem
    obtain ⟨item, -, rfl⟩ := List.mem_map.mp made
    split at taken
    · next t =>
        split at taken
        · simp at taken
        · next some_ =>
            split at taken
            · simp at taken
            · next short =>
                obtain rfl := List.mem_singleton.mp taken
                exact ⟨by simpa using some_, not_lt.mp short⟩
    · simp at taken

/-! ### Proposals -/

/-- What a computation that succeeds goes through. -/
theorem ok_of_bind {ε α β : Type} {x : Except ε α} {f : α → Except ε β} {b : β} (ok : (x >>= f) = .ok b) :
    ∃ a, x = .ok a ∧ f a = .ok b := by
  cases x with
  | error e => cases ok
  | ok a => exact ⟨a, rfl, ok⟩

/-- The element proposes the value, and gives the evidence for it. -/
def Proposes {α : Type} (names : List String) (normalize : String → Option Json → Option α) (message : String)
    (item : Json) (p : α × String) : Prop :=
  ∃ name ∈ names, property item "name" = some (.str name) ∧ normalize name (property item "value") = some p.1 ∧
    property item "evidence" = some (.str p.2) ∧ Supports message p.2

/-- The proposals that are taken are those of the elements, each in its place. -/
theorem validateProposals_ok {α : Type} {path badName message : String} {names : List String}
    {normalize : String → Option Json → Option α} : ∀ {items : List Json} {out : List (α × String)},
    validateProposals path names badName normalize message items = .ok ([], out) →
      List.Forall₂ (Proposes names normalize message) items out
  | [], _, ok => by
      obtain rfl := (Prod.mk.inj (Except.ok.inj ok)).2
      exact .nil
  | item :: rest, out, ok => by
      unfold validateProposals at ok
      obtain ⟨keys, -, ok⟩ := ok_of_bind ok
      split at ok
      · cases ok
      · obtain ⟨more, moreIs, ok⟩ := ok_of_bind ok
        dsimp only at ok
        split at ok
        · next name named =>
            split at ok
            · cases ok
            · next known =>
                split at ok
                · cases ok
                · next value taken =>
                    split at ok
                    · next evidence given =>
                        split at ok
                        · cases ok
                        · next some_ =>
                            split at ok
                            · cases ok
                            · next short =>
                                split at ok
                                · cases ok
                                · next inside =>
                                    obtain ⟨none_, rfl⟩ := Prod.mk.inj (Except.ok.inj ok)
                                    obtain ⟨issues, moreOut⟩ := more
                                    obtain rfl : issues = [] := none_
                                    refine .cons ⟨name, by simpa using known, named, taken, given, ?_⟩
                                      (validateProposals_ok moreIs)
                                    exact ⟨by simpa using some_, not_lt.mp short,
                                      isInfix_of_includes (by simpa using inside)⟩
                    · cases ok
        · cases ok

/-- The keys of the element are read, and are among the allowed ones. -/
def Passes (item : Json) : Prop := ∃ keys, objectKeys item = .ok keys ∧ ∀ key ∈ keys, key ∈ allowedProposalKeys

/-- The scan of the elements comes to a `null`. -/
def ReachesNull (items : List Json) : Prop :=
  ∃ before after, items = before ++ .null :: after ∧ ∀ item ∈ before, Passes item

theorem reachesNull_cons {item : Json} {rest : List Json} :
    ReachesNull (item :: rest) ↔ item = .null ∨ Passes item ∧ ReachesNull rest := by
  constructor
  · intro reaches
    obtain ⟨before, after, split, passes⟩ := reaches
    cases before with
    | nil => exact .inl (List.cons.inj split).1
    | cons first before =>
        obtain ⟨rfl, rfl⟩ := List.cons.inj split
        exact .inr ⟨passes _ (List.mem_cons_self ..), before, after, rfl,
          fun item mem => passes item (List.mem_cons_of_mem _ mem)⟩
  · intro reaches
    rcases reaches with rfl | ⟨passes, before, after, rfl, more⟩
    · exact ⟨[], rest, rfl, by simp⟩
    · exact ⟨item :: before, after, rfl, by simpa using ⟨passes, more⟩⟩

theorem not_passes_null : ¬ Passes .null := by
  intro passes
  obtain ⟨keys, is, -⟩ := passes
  cases is

/-- The elements are read to an end, save where a `null` is come to. -/
theorem validateProposals_isOk {α : Type} (path : String) (names : List String) (badName : String)
    (normalize : String → Option Json → Option α) (message : String) : ∀ {items : List Json},
    (∃ r, validateProposals path names badName normalize message items = .ok r) ↔ ¬ ReachesNull items
  | [] => by
      refine iff_of_true ⟨_, rfl⟩ ?_
      intro reaches
      obtain ⟨before, after, split, -⟩ := reaches
      cases before <;> cases split
  | item :: rest => by
      rw [reachesNull_cons]
      unfold validateProposals
      cases is : objectKeys item with
      | error e =>
          have : item = .null := by
            cases item <;> first | rfl | cases is
          subst this
          exact iff_of_false (by intro ends; obtain ⟨r, ends⟩ := ends; cases ends) (by simp)
      | ok keys =>
          have some_ : item ≠ .null := by
            rintro rfl
            cases is
          have passes : Passes item ↔ (keys.find? fun key => !allowedProposalKeys.contains key) = none := by
            simp [Passes, is]
          simp only [bind, Except.bind]
          cases found : keys.find? fun key => !allowedProposalKeys.contains key with
          | some key =>
              refine iff_of_true ⟨_, rfl⟩ ?_
              rw [passes, found]
              simp [some_]
          | none =>
              simp only [some_, passes, found, false_or, true_and,
                ← validateProposals_isOk path names badName normalize message]
              constructor
              · intro ends
                obtain ⟨r, ends⟩ := ends
                obtain ⟨more, is, -⟩ := ok_of_bind ends
                exact ⟨more, is⟩
              · intro ends
                obtain ⟨more, ends⟩ := ends
                rw [ends]
                dsimp only [bind, Except.bind]
                repeat' split
                all_goals exact ⟨_, rfl⟩

/-! ### Interpretations -/

/-- The elements of a field. -/
def elements (raw : Json) (field : String) : List Json :=
  match property raw field with
  | some (.arr items) => items
  | _ => []

/-- The elements of a field that raises no issue are all taken. -/
theorem validateArray_elements {raw : Json} {max : Nat} {field : String}
    (ok : (validateArray (property raw field) max field).1 = []) :
    (validateArray (property raw field) max field).2 = elements raw field := by
  unfold elements
  cases is : property raw field with
  | none => rfl
  | some value =>
      cases value with
      | arr items => exact validateArray_ok (by rw [← is]; exact ok) rfl
      | _ =>
          rw [is] at ok
          cases ok

/-- The version is the supported one. -/
def isVersioned (raw : Json) : Bool :=
  match property raw "schemaVersion" with
  | some (.str s) => s = schemaVersion
  | _ => false

/-- The confidence is a number between zero and one. -/
def isConfident (raw : Json) : Bool :=
  match property raw "confidence" with
  | some (.num n) => n.isFinite && inRange 0 1 n
  | _ => false

/-- The issues found before the proposals are read. -/
def firstIssues (raw : Json) : List ValidationIssue :=
  (if isVersioned raw then [] else [⟨"schemaVersion", "unsupported_schema_version"⟩]) ++
    (if (parseAction (property raw "action")).isSome then [] else [⟨"action", "invalid_action_enum"⟩]) ++
    (if isConfident raw then [] else [⟨"confidence", "confidence_out_of_bounds"⟩]) ++
    (validateArray (property raw "proposedHardConstraints") maxHardConstraints "proposedHardConstraints").1 ++
    (validateArray (property raw "proposedSoftPreferences") maxSoftPreferences "proposedSoftPreferences").1 ++
    (validateStringArray (property raw "corrections") maxCorrections "corrections").1 ++
    (validateStringArray (property raw "removals") maxRemovals "removals").1 ++
    (validateStringArray (property raw "ambiguities") maxAmbiguities "ambiguities").1 ++
    (validateStringArray (property raw "requestedProductIds") maxProductIds "requestedProductIds").1

/-- The value is an object that raises no issue before its proposals are read. -/
structure WellFormed (raw : Json) : Prop where
  keys : ∃ record, raw = .obj record ∧ ∀ key ∈ record.map Prod.fst, key ∈ allowedTopLevelKeys
  clear : firstIssues raw = []

section Interpretations

variable {P : Platform} {message : String} {productIds : List String} {raw : Json}

/-- The ids that are requested and are not of the catalog. -/
def unknownIds (productIds : List String) (raw : Json) : List ValidationIssue :=
  ((validateStringArray (property raw "requestedProductIds") maxProductIds "requestedProductIds").2.filter
    fun id => !productIds.contains id).map fun id => ⟨"requestedProductIds." ++ id, "unknown_product_id"⟩

/-- The two scans of the proposals. -/
def scans (P : Platform) (message : String) (raw : Json) :
    Except String (Checked (List (HardConstraintValue × String)) × Checked (List (SoftPreferenceValue × String))) := do
  let hard ← validateProposals "proposedHardConstraints" hardConstraintNames "invalid_constraint_name"
    (normalizeHardValue P) message (elements raw "proposedHardConstraints")
  let soft ← validateProposals "proposedSoftPreferences" softPreferenceNames "invalid_preference_name"
    normalizeSoftValue message (elements raw "proposedSoftPreferences")
  return (hard, soft)

/-- The issues that stop an object, or what its proposals come to. -/
theorem validateInterpretation_cases (P : Platform) (message : String) (productIds : List String) (raw : Json) :
    (¬ WellFormed raw ∧ ∃ issues, validateInterpretation P message productIds raw = .ok (.error issues)) ∨
    (WellFormed raw ∧ ∃ action, parseAction (property raw "action") = some action ∧
      validateInterpretation P message productIds raw = (scans P message raw >>= fun r =>
        match r.1.1 ++ r.2.1 ++ unknownIds productIds raw with
        | [] => .ok (.ok {
            action
            proposedHardConstraints := r.1.2.map fun p => ⟨p.1, p.2⟩
            proposedSoftPreferences := r.2.2.map fun p => ⟨p.1, p.2⟩
            corrections := (validateStringArray (property raw "corrections") maxCorrections "corrections").2
            removals := (validateStringArray (property raw "removals") maxRemovals "removals").2
            ambiguities := (validateStringArray (property raw "ambiguities") maxAmbiguities "ambiguities").2
            requestedProductIds := (validateStringArray (property raw "requestedProductIds") maxProductIds
              "requestedProductIds").2 })
        | found => .ok (.error found))) := by
  cases raw with
  | obj record =>
      cases found : (record.map Prod.fst).find? fun key => !allowedTopLevelKeys.contains key with
      | some key =>
          left
          constructor
          · intro formed
            obtain ⟨record, is, known⟩ := formed.keys
            obtain rfl := Json.obj.inj is
            have := List.find?_some found
            simp [known key (List.mem_of_find?_eq_some found)] at this
          · refine ⟨[⟨key, "unknown_field"⟩], ?_⟩
            unfold validateInterpretation
            dsimp only
            rw [found]
            rfl
      | none =>
          have keys : ∃ record', Json.obj record = .obj record' ∧
              ∀ key ∈ record'.map Prod.fst, key ∈ allowedTopLevelKeys := ⟨record, rfl, by simpa using found⟩
          have formed : WellFormed (.obj record) ↔ firstIssues (.obj record) = [] :=
            ⟨fun formed => formed.clear, fun clear => ⟨keys, clear⟩⟩
          generalize is : validateInterpretation P message productIds (.obj record) = result
          unfold validateInterpretation at is
          dsimp only at is
          rw [found] at is
          dsimp only at is
          split at is
          · next action acts clear =>
              right
              have clear : firstIssues (.obj record) = [] := clear
              refine ⟨formed.mpr clear, action, acts, ?_⟩
              simp only [firstIssues, List.append_eq_nil_iff] at clear
              obtain ⟨⟨⟨⟨⟨⟨-, hard⟩, soft⟩, -⟩, -⟩, -⟩, -⟩ := clear
              rw [← is]
              simp only [scans, ← validateArray_elements hard, ← validateArray_elements soft, bind_assoc]
              rfl
          · next stopped =>
              left
              refine ⟨?_, _, is.symm⟩
              intro clear
              have clear := formed.mp clear
              have parts := clear
              simp only [firstIssues, List.append_eq_nil_iff] at parts
              obtain ⟨⟨⟨⟨⟨⟨⟨⟨-, acts⟩, -⟩, -⟩, -⟩, -⟩, -⟩, -⟩, -⟩ := parts
              cases action : parseAction (property (.obj record) "action") with
              | none => simp [action] at acts
              | some action_ => exact stopped action_ action clear
  | _ =>
      left
      refine ⟨?_, _, rfl⟩
      intro formed
      obtain ⟨record, is, -⟩ := formed.keys
      cases is

/-- What holds of paired elements holds of all of the one list where it holds of all of the other. -/
theorem forall_iff_of_forall₂ {α β : Type} {R : α → β → Prop} {p : α → Prop} {q : β → Prop}
    (each : ∀ a b, R a b → (p a ↔ q b)) {as : List α} {bs : List β} (pairs : List.Forall₂ R as bs) :
    (∀ a ∈ as, p a) ↔ ∀ b ∈ bs, q b := by
  induction pairs with
  | nil => simp
  | cons pair _ ih => simp only [List.forall_mem_cons, each _ _ pair, ih]

theorem proposes_inDomain (item : Json) (p : HardConstraintValue × String)
    (proposes : Proposes hardConstraintNames (normalizeHardValue P) message item p) :
    WholeSize item ↔ p.1.InDomain := by
  obtain ⟨name, -, named, taken, -⟩ := proposes
  rw [normalizeHardValue_inDomain taken]
  simp [WholeSize, named]

theorem supports_of_proposes {α : Type} {names : List String} {normalize : String → Option Json → Option α}
    {items : List Json} {out : List (α × String)} (pairs : List.Forall₂ (Proposes names normalize message) items out) :
    ∀ p ∈ out, Supports message p.2 := by
  refine (forall_iff_of_forall₂ (p := fun _ => True) ?_ pairs).mp fun _ _ => trivial
  intro item p proposes
  obtain ⟨-, -, -, -, -, supports⟩ := proposes
  exact iff_of_true trivial supports

theorem softs_inDomain {items : List Json} {out : List (SoftPreferenceValue × String)}
    (pairs : List.Forall₂ (Proposes softPreferenceNames normalizeSoftValue message) items out) :
    ∀ p ∈ out, p.1.InDomain := by
  refine (forall_iff_of_forall₂ (p := fun _ => True) ?_ pairs).mp fun _ _ => trivial
  intro item p proposes
  obtain ⟨name, -, -, taken, -⟩ := proposes
  exact iff_of_true trivial (normalizeSoftValue_inDomain taken)

/-- A well formed object has no more proposals than it may. -/
theorem WellFormed.few (formed : WellFormed raw) :
    (elements raw "proposedHardConstraints").length ≤ maxHardConstraints ∧
      (elements raw "proposedSoftPreferences").length ≤ maxSoftPreferences := by
  have clear := formed.clear
  simp only [firstIssues, List.append_eq_nil_iff] at clear
  obtain ⟨⟨⟨⟨⟨⟨-, hard⟩, soft⟩, -⟩, -⟩, -⟩, -⟩ := clear
  rw [← validateArray_elements hard, ← validateArray_elements soft]
  exact ⟨length_validateArray _ _ _, length_validateArray _ _ _⟩

/-- What a valid interpretation is made of: the proposals of the elements, each in its place. -/
structure Validated (P : Platform) (message : String) (productIds : List String) (raw : Json)
    (i : StructuredInterpretation) : Prop where
  hard : ∃ pairs, i.proposedHardConstraints = pairs.map (fun p => ⟨p.1, p.2⟩) ∧
    List.Forall₂ (Proposes hardConstraintNames (normalizeHardValue P) message)
      (elements raw "proposedHardConstraints") pairs
  soft : ∃ pairs, i.proposedSoftPreferences = pairs.map (fun p => ⟨p.1, p.2⟩) ∧
    List.Forall₂ (Proposes softPreferenceNames normalizeSoftValue message)
      (elements raw "proposedSoftPreferences") pairs
  formed : WellFormed raw
  corrections : Listed maxCorrections i.corrections
  removals : Listed maxRemovals i.removals
  ambiguities : Listed maxAmbiguities i.ambiguities
  requested : Listed maxProductIds i.requestedProductIds
  known : ∀ id ∈ i.requestedProductIds, id ∈ productIds

theorem validated_of_ok {i : StructuredInterpretation}
    (valid : validateInterpretation P message productIds raw = .ok (.ok i)) :
    Validated P message productIds raw i := by
  rcases validateInterpretation_cases P message productIds raw with
    ⟨-, issues, stopped⟩ | ⟨formed, action, -, is⟩
  · rw [stopped] at valid
    cases valid
  rw [is] at valid
  obtain ⟨r, scanned, valid⟩ := ok_of_bind valid
  split at valid
  · next none_ =>
      obtain ⟨hard, hardIs, scanned⟩ := ok_of_bind scanned
      obtain ⟨soft, softIs, scanned⟩ := ok_of_bind scanned
      obtain rfl := Except.ok.inj scanned
      obtain rfl := Except.ok.inj (Except.ok.inj valid)
      simp only [List.append_eq_nil_iff] at none_
      obtain ⟨⟨hardClear, softClear⟩, unknown⟩ := none_
      obtain ⟨hardIssues, hard⟩ := hard
      obtain ⟨softIssues, soft⟩ := soft
      obtain rfl : hardIssues = [] := hardClear
      obtain rfl : softIssues = [] := softClear
      refine ⟨⟨hard, rfl, validateProposals_ok hardIs⟩, ⟨soft, rfl, validateProposals_ok softIs⟩, formed,
        listed _ _ _, listed _ _ _, listed _ _ _, listed _ _ _, ?_⟩
      intro id mem
      by_contra strange
      have : (⟨"requestedProductIds." ++ id, "unknown_product_id"⟩ : ValidationIssue) ∈
          unknownIds productIds raw :=
        List.mem_map.mpr ⟨id, List.mem_filter.mpr ⟨mem, by simpa using strange⟩, rfl⟩
      rw [unknown] at this
      cases this
  · cases valid

/-- The hard constraints are in their domains, if and only if each numeric size among the proposals is whole. -/
theorem Validated.domains_iff {i : StructuredInterpretation} (v : Validated P message productIds raw i) :
    (∀ c ∈ i.proposedHardConstraints, c.value.InDomain) ↔
      ∀ item ∈ elements raw "proposedHardConstraints", WholeSize item := by
  obtain ⟨pairs, is, proposed⟩ := v.hard
  have whole := forall_iff_of_forall₂ proposes_inDomain proposed
  rw [whole, is]
  simp only [List.forall_mem_map]

theorem Validated.soft_inDomain {i : StructuredInterpretation} (v : Validated P message productIds raw i) :
    ∀ p ∈ i.proposedSoftPreferences, p.value.InDomain := by
  obtain ⟨pairs, is, proposed⟩ := v.soft
  rw [is, List.forall_mem_map]
  exact softs_inDomain proposed

theorem Validated.inSchema {i : StructuredInterpretation} (v : Validated P message productIds raw i)
    (domains : ∀ c ∈ i.proposedHardConstraints, c.value.InDomain) : InSchema message productIds i := by
  obtain ⟨hards, hardIs, hardProposed⟩ := v.hard
  obtain ⟨softs, softIs, softProposed⟩ := v.soft
  refine ⟨fun c mem => ⟨domains c mem, ?_⟩, fun p mem => ⟨v.soft_inDomain p mem, ?_⟩, ?_, ?_, v.corrections,
    v.removals, v.ambiguities, v.requested, v.known⟩
  · rw [hardIs] at mem
    obtain ⟨p, taken, rfl⟩ := List.mem_map.mp mem
    exact supports_of_proposes hardProposed p taken
  · rw [softIs] at mem
    obtain ⟨p, taken, rfl⟩ := List.mem_map.mp mem
    exact supports_of_proposes softProposed p taken
  · rw [hardIs, List.length_map, ← hardProposed.length_eq]
    exact v.formed.few.1
  · rw [softIs, List.length_map, ← softProposed.length_eq]
    exact v.formed.few.2

/-- A valid interpretation is inside the schema, if and only if each numeric size among its proposals
is whole. -/
theorem validated_in_schema_iff {i : StructuredInterpretation}
    (valid : validateInterpretation P message productIds raw = .ok (.ok i)) :
    InSchema message productIds i ↔ ∀ item ∈ elements raw "proposedHardConstraints", WholeSize item := by
  have v := validated_of_ok valid
  rw [← v.domains_iff]
  constructor
  · intro inside c mem
    exact (inside.hard c mem).1
  · exact v.inSchema

/-- A proposal of hard constraints only. -/
def hardProposal (items : List Json) : Json := .obj [("schemaVersion", .str schemaVersion),
  ("action", .str "search"), ("confidence", .num 1), ("proposedHardConstraints", .arr items)]

/-- A proposed size. -/
def sizeProposal (size : ℚ) : Json := hardProposal [.obj [("name", .str "size"),
  ("value", .num (.finite size)), ("evidence", .str "shoes")]]

/-- The interpretation that a size comes to. -/
def sizeInterpretation (size : String) : StructuredInterpretation :=
  { action := .search, proposedHardConstraints := [⟨.size size, "shoes"⟩], proposedSoftPreferences := [],
    corrections := [], removals := [], ambiguities := [], requestedProductIds := [] }

theorem validated_in_schema_seven : ∃ P : Platform,
    validateInterpretation P "shoes" [] (sizeProposal 7) = .ok (.ok (sizeInterpretation "UK 7")) ∧
      (InSchema "shoes" [] (sizeInterpretation "UK 7") ↔
        ∀ item ∈ elements (sizeProposal 7) "proposedHardConstraints", WholeSize item) := by
  have valid : validateInterpretation ⟨id, fun _ => id, toString, fun _ => none, fun _ => none, 0⟩ "shoes" []
      (sizeProposal 7) = .ok (.ok (sizeInterpretation "UK 7")) := by decide +kernel
  exact ⟨_, valid, validated_in_schema_iff valid⟩

/-- A size of six and a half is taken, and is none of the supported ones. -/
theorem validated_in_schema_false : ¬ ∀ P message productIds raw i,
    validateInterpretation P message productIds raw = .ok (.ok i) → InSchema message productIds i := by
  intro all
  have valid : validateInterpretation ⟨id, fun _ => id, toString, fun _ => none, fun _ => none, 0⟩ "shoes" []
      (sizeProposal (13 / 2)) = .ok (.ok (sizeInterpretation "UK 6.5")) := by decide +kernel
  have size := ((all _ _ _ _ _ valid).hard _ (List.mem_singleton.mpr rfl)).1
  simp [HardConstraintValue.InDomain, supportedSizes] at size

/-- Where a well formed object makes the scan of its proposals read a `null`. -/
def NullReached (raw : Json) : Prop :=
  WellFormed raw ∧
    (ReachesNull (elements raw "proposedHardConstraints") ∨ ReachesNull (elements raw "proposedSoftPreferences"))

theorem scans_isOk : (∃ r, scans P message raw = .ok r) ↔
    ¬ ReachesNull (elements raw "proposedHardConstraints") ∧
      ¬ ReachesNull (elements raw "proposedSoftPreferences") := by
  rw [← validateProposals_isOk "proposedHardConstraints" hardConstraintNames "invalid_constraint_name"
      (normalizeHardValue P) message,
    ← validateProposals_isOk "proposedSoftPreferences" softPreferenceNames "invalid_preference_name"
      normalizeSoftValue message]
  constructor
  · intro ends
    obtain ⟨r, ends⟩ := ends
    obtain ⟨hard, hardIs, ends⟩ := ok_of_bind ends
    obtain ⟨soft, softIs, -⟩ := ok_of_bind ends
    exact ⟨⟨hard, hardIs⟩, soft, softIs⟩
  · intro ends
    obtain ⟨⟨hard, hardIs⟩, soft, softIs⟩ := ends
    exact ⟨(hard, soft), by simp only [scans, hardIs, softIs]; rfl⟩

/-- Validation comes to an end, save where a `null` is read. -/
theorem validateInterpretation_isOk (P : Platform) (message : String) (productIds : List String) (raw : Json) :
    (∃ r, validateInterpretation P message productIds raw = .ok r) ↔ ¬ NullReached raw := by
  rcases validateInterpretation_cases P message productIds raw with
    ⟨broken, issues, stopped⟩ | ⟨formed, action, -, is⟩
  · exact iff_of_true ⟨_, stopped⟩ fun reached => broken reached.1
  · have reached : ¬ NullReached raw ↔ ∃ r, scans P message raw = .ok r := by
      rw [scans_isOk, NullReached, ← not_or]
      simp [formed]
    rw [reached, is]
    constructor
    · intro ends
      obtain ⟨r, ends⟩ := ends
      obtain ⟨r, ends, -⟩ := ok_of_bind ends
      exact ⟨r, ends⟩
    · intro ends
      obtain ⟨r, ends⟩ := ends
      rw [ends]
      dsimp only [bind, Except.bind]
      split
      · exact ⟨_, rfl⟩
      · exact ⟨_, rfl⟩

end Interpretations

/-- Interpreting a message with what the provider proposes ends in an outcome, the proposal where it is valid
and the deterministic interpretation where it is not, if and only if no `null` is read among the proposals. -/
theorem interpretation_total_iff {P : Platform} {now : Int} {message : String} {intent : ParsedIntent}
    {proposal : Json} :
    (∃ outcome, interpretUserMessage P now message intent (some proposal) = .ok outcome ∧
      (outcome.source = .llm ∧ validateInterpretation P message (shoeCatalog.products.map (·.productId)) proposal =
          .ok (.ok outcome.interpretation) ∨
        outcome.source = .deterministic ∧
          outcome.interpretation = deterministicInterpretation P now message intent ∧
          outcome.fallbackReason = some .invalidSchema)) ↔ ¬ NullReached proposal := by
  rw [← validateInterpretation_isOk P message (shoeCatalog.products.map (·.productId))]
  constructor
  · intro total
    obtain ⟨outcome, ends, -⟩ := total
    obtain ⟨r, is, -⟩ := ok_of_bind ends
    exact ⟨r, is⟩
  · intro ends
    obtain ⟨r, is⟩ := ends
    unfold interpretUserMessage
    dsimp only
    rw [is]
    cases r with
    | error issues => exact ⟨_, rfl, .inr ⟨rfl, rfl, rfl⟩⟩
    | ok interpretation => exact ⟨_, rfl, .inl ⟨rfl, rfl⟩⟩

/-- A `null` among the proposed constraints throws. -/
theorem interpretation_total_false : ¬ ∀ P now message intent proposal, ∃ outcome,
    interpretUserMessage P now message intent (some proposal) = .ok outcome := by
  intro all
  obtain ⟨outcome, ends⟩ := all ⟨id, fun _ => id, toString, fun _ => none, fun _ => none, 0⟩ 0 "shoes" {}
    (hardProposal [.null])
  cases ends

end AgentReady
