import AgentReady.Services.Respond
import AgentReady.Interpreter.Proposals

/-!
Which proposal sets a field of the intent (`mergeInterpretation` and `applyInterpretation` of
`apps/web/lib/services.ts`, over `apps/web/lib/interpreter/deterministic.ts`).

* `find?_mergeByName`, `nodup_mergeByName`: merging keeps one proposal for each field, the last deterministic
  one or else the provider's first.
* `value_applyInterpretation`: a field is what its proposal says, unless it is removed.
* `parsed_wins_iff`: what is parsed from a message is what the intent has, if and only if no removal, request
  for something cheaper or unproposed date is in the way.
-/

namespace AgentReady

/-! ### Values by field -/

def HardConstraintValue.json : HardConstraintValue → Json
  | size v => .str v
  | useCase v => .str v
  | colour v => .str v
  | maxAmountMinor n => .num n
  | mustBeReturnable b => .bool b
  | deliverBy v => .str v

def SoftPreferenceValue.json : SoftPreferenceValue → Json
  | fit v => .str v
  | cushioning v => .str v
  | distanceKm n => .num n

namespace ParsedIntent

/-- The value of a field, where it is set. -/
def value (i : ParsedIntent) : String → Option Json
  | "size" => i.size.map .str
  | "useCase" => i.useCase.map .str
  | "colour" => i.colour.map .str
  | "maxAmountMinor" => i.maxAmountMinor.map .num
  | "mustBeReturnable" => i.mustBeReturnable.map .bool
  | "deliverBy" => i.deliverBy.map .str
  | "fit" => i.fit.map .str
  | "cushioning" => i.cushioning.map .str
  | "distanceKm" => i.distanceKm.map .num
  | _ => none

variable {i : ParsedIntent} {n : String}

theorem value_setHard {v : HardConstraintValue} :
    (i.setHard v).value n = if v.name = n then some v.json else i.value n := by
  by_cases same : v.name = n
  · subst same
    cases v <;> simp [setHard, value, HardConstraintValue.name, HardConstraintValue.json]
  · rw [if_neg same]
    cases v <;> simp only [HardConstraintValue.name] at same <;> unfold value setHard <;> split <;> simp_all

theorem value_setSoft {v : SoftPreferenceValue} :
    (i.setSoft v).value n = if v.name = n then some v.json else i.value n := by
  by_cases same : v.name = n
  · subst same
    cases v <;> simp [setSoft, value, SoftPreferenceValue.name, SoftPreferenceValue.json]
  · rw [if_neg same]
    cases v <;> simp only [SoftPreferenceValue.name] at same <;> unfold value setSoft <;> split <;> simp_all

theorem value_remove {r : String} : (i.remove r).value n = if r = n then none else i.value n := by
  by_cases same : r = n
  · subst same
    unfold value remove
    split <;> simp_all
  · rw [if_neg same]
    unfold remove
    split <;> unfold value <;> split <;> simp_all

theorem value_foldl_remove {names : List String} :
    (names.foldl remove i).value n = if n ∈ names then none else i.value n := by
  induction names generalizing i with
  | nil => rfl
  | cons r rest ih =>
      rw [List.foldl_cons, ih, value_remove]
      by_cases same : r = n
      · simp [same]
      · simp [same, Ne.symm same]

end ParsedIntent

/-! ### Merging -/

section Merging

variable {α : Type} {name : α → String} {n : String}

/-- Put an element in the place of the one of its name, or at the end. -/
def putByName (name : α → String) (l : List α) (a : α) : List α :=
  if l.any (name · = name a) then l.map fun b => if name b = name a then a else b else l ++ [a]

/-- Put an element at the end, where there is none of its name. -/
def addByName (name : α → String) (l : List α) (a : α) : List α :=
  if l.any (name · = name a) then l else l ++ [a]

theorem mergeByName_eq (base more : List α) :
    mergeByName name base more = more.foldl (addByName name) (base.foldl (putByName name) []) := rfl

/-- The elements of a name are replaced, and no others. -/
theorem find?_replace (a : α) (l : List α) :
    (l.map fun b => if name b = name a then a else b).find? (name · = n) =
      if name a = n then (if l.any (name · = n) then some a else none) else l.find? (name · = n) := by
  induction l with
  | nil => simp
  | cons b rest ih =>
      rw [List.map_cons, List.find?_cons, List.find?_cons, List.any_cons, ih]
      by_cases replaced : name b = name a
      · by_cases same : name a = n
        · simp [replaced, same]
        · simp [replaced, same]
      · by_cases same : name a = n
        · subst same
          simp [replaced]
        · simp [replaced, same]

theorem find?_putByName (l : List α) (a : α) :
    (putByName name l a).find? (name · = n) = if name a = n then some a else l.find? (name · = n) := by
  unfold putByName
  by_cases held : l.any (name · = name a) = true
  · rw [if_pos held, find?_replace]
    by_cases same : name a = n
    · subst same
      simp only [held, if_true]
    · simp only [if_neg same]
  · have absent : l.find? (name · = name a) = none := by simpa using held
    rw [if_neg held, List.find?_append]
    by_cases same : name a = n
    · subst same
      simp [absent]
    · simp [same]

theorem find?_addByName (l : List α) (a : α) :
    (addByName name l a).find? (name · = n) =
      (l.find? (name · = n)).or (if name a = n then some a else none) := by
  unfold addByName
  by_cases held : l.any (name · = name a) = true
  · rw [if_pos held]
    by_cases same : name a = n
    · subst same
      have found : (l.find? (name · = name a)).isSome := by simpa using held
      obtain ⟨b, found⟩ := Option.isSome_iff_exists.mp found
      simp [found]
    · simp [same]
  · rw [if_neg held, List.find?_append]
    simp [List.find?_cons]
    by_cases same : name a = n <;> simp [same]

theorem find?_foldl_putByName (base l : List α) :
    (base.foldl (putByName name) l).find? (name · = n) =
      (base.reverse.find? (name · = n)).or (l.find? (name · = n)) := by
  induction base generalizing l with
  | nil => rfl
  | cons a rest ih =>
      rw [List.foldl_cons, ih, find?_putByName, List.reverse_cons, List.find?_append]
      by_cases same : name a = n <;> simp [same]

theorem find?_foldl_addByName (more l : List α) :
    (more.foldl (addByName name) l).find? (name · = n) =
      (l.find? (name · = n)).or (more.find? (name · = n)) := by
  induction more generalizing l with
  | nil => simp
  | cons a rest ih =>
      rw [List.foldl_cons, ih, find?_addByName, List.find?_cons]
      by_cases same : name a = n <;> simp [same]

/-- The element of a name is the last of the base, or else the first of the others. -/
theorem find?_mergeByName (base more : List α) :
    (mergeByName name base more).find? (name · = n) =
      (base.reverse.find? (name · = n)).or (more.find? (name · = n)) := by
  rw [mergeByName_eq, find?_foldl_addByName, find?_foldl_putByName]
  simp

theorem nodup_putByName {l : List α} (distinct : (l.map name).Nodup) (a : α) :
    ((putByName name l a).map name).Nodup := by
  unfold putByName
  by_cases held : l.any (name · = name a) = true
  · have same : (l.map fun b => if name b = name a then a else b).map name = l.map name := by
      rw [List.map_map]
      refine List.map_congr_left fun b _ => ?_
      by_cases same : name b = name a <;> simp [same]
    rw [if_pos held, same]
    exact distinct
  · rw [if_neg held, List.map_append]
    refine distinct.append (by simp) ?_
    simpa [List.disjoint_singleton] using held

theorem nodup_addByName {l : List α} (distinct : (l.map name).Nodup) (a : α) :
    ((addByName name l a).map name).Nodup := by
  unfold addByName
  by_cases held : l.any (name · = name a) = true
  · rw [if_pos held]
    exact distinct
  · rw [if_neg held, List.map_append]
    refine distinct.append (by simp) ?_
    simpa [List.disjoint_singleton] using held

/-- There is one element of each name. -/
theorem nodup_mergeByName (base more : List α) : ((mergeByName name base more).map name).Nodup := by
  have kept : ∀ (set : List α → α → List α), (∀ l a, (l.map name).Nodup → ((set l a).map name).Nodup) →
      ∀ (more l : List α), (l.map name).Nodup → ((more.foldl set l).map name).Nodup := by
    intro set each more
    induction more with
    | nil => exact fun _ => id
    | cons a rest ih => exact fun l distinct => ih _ (each l a distinct)
  rw [mergeByName_eq]
  refine kept _ (fun _ a distinct => nodup_addByName distinct a) _ _ ?_
  exact kept _ (fun _ a distinct => nodup_putByName distinct a) _ _ List.nodup_nil

theorem mem_putByName {l : List α} {a b : α} (mem : b ∈ putByName name l a) : b ∈ l ∨ b = a := by
  unfold putByName at mem
  split at mem
  · obtain ⟨d, held, rfl⟩ := List.mem_map.mp mem
    by_cases same : name d = name a
    · simp [same]
    · simp [same, held]
  · simpa using mem

theorem mem_addByName {l : List α} {a b : α} (mem : b ∈ addByName name l a) : b ∈ l ∨ b = a := by
  unfold addByName at mem
  split at mem
  · exact .inl mem
  · simpa using mem

/-- Elements come from one list or the other. -/
theorem mem_mergeByName {base more : List α} {a : α} (mem : a ∈ mergeByName name base more) :
    a ∈ base ∨ a ∈ more := by
  have among : ∀ (set : List α → α → List α), (∀ l a b, b ∈ set l a → b ∈ l ∨ b = a) →
      ∀ (more l : List α), a ∈ more.foldl set l → a ∈ l ∨ a ∈ more := by
    intro set each more
    induction more with
    | nil => exact fun _ mem => .inl mem
    | cons b rest ih =>
        intro l mem
        rcases ih _ mem with mem | mem
        · rcases each _ _ _ mem with mem | rfl
          · exact .inl mem
          · exact .inr List.mem_cons_self
        · exact .inr (List.mem_cons_of_mem _ mem)
  rcases among _ (fun _ _ _ => mem_addByName) _ _ mem with mem | mem
  · rcases among _ (fun _ _ _ => mem_putByName) _ _ mem with mem | mem
    · cases mem
    · exact .inl mem
  · exact .inr mem

end Merging

/-! ### Applying -/

section Applying

variable {i : ParsedIntent} {n : String}

/-- Elements of distinct names are set each under its name. -/
theorem value_foldl {α : Type} (name : α → String) (json : α → Json) {set : ParsedIntent → α → ParsedIntent}
    (each : ∀ i a, (set i a).value n = if name a = n then some (json a) else i.value n) {l : List α}
    (distinct : (l.map name).Nodup) :
    (l.foldl set i).value n = ((l.find? (name · = n)).map json).or (i.value n) := by
  induction l generalizing i with
  | nil => rfl
  | cons a rest ih =>
      rw [List.map_cons, List.nodup_cons] at distinct
      rw [List.foldl_cons, ih distinct.2, each, List.find?_cons]
      by_cases same : name a = n
      · subst same
        have absent : rest.find? (name · = name a) = none := by
          rw [List.find?_eq_none]
          intro b mem named
          exact distinct.1 (List.mem_map.mpr ⟨b, mem, by simpa using named⟩)
        simp [absent]
      · simp [same]

/-- The value that a merge proposes for a field. -/
def proposedValue {α : Type} (name : α → String) (json : α → Json) (base more : List α) (n : String) : Option Json :=
  ((base.reverse.find? (name · = n)).or (more.find? (name · = n))).map json

def hardValue (deterministic llm : StructuredInterpretation) (n : String) : Option Json :=
  proposedValue (fun c : ProposedHardConstraint => c.value.name) (fun c => c.value.json)
    deterministic.proposedHardConstraints llm.proposedHardConstraints n

def softValue (deterministic llm : StructuredInterpretation) (n : String) : Option Json :=
  proposedValue (fun p : ProposedSoftPreference => p.value.name) (fun p => p.value.json)
    deterministic.proposedSoftPreferences llm.proposedSoftPreferences n

/-- A field is what the merged proposals say, or what it was, unless it is removed. -/
theorem value_applyInterpretation {deterministic llm : StructuredInterpretation} :
    (applyInterpretation i (mergeInterpretation deterministic llm)).value n =
      if n ∈ deterministic.removals ∨ n ∈ llm.removals then none
      else (softValue deterministic llm n).or ((hardValue deterministic llm n).or (i.value n)) := by
  have removals : ∀ m, m ∈ (mergeInterpretation deterministic llm).removals ↔
      m ∈ deterministic.removals ∨ m ∈ llm.removals := by
    intro m
    simp [mergeInterpretation, union, or_comm]
  have soft : ∀ i : ParsedIntent, ((mergeInterpretation deterministic llm).proposedSoftPreferences.foldl
      (fun i p => i.setSoft p.value) i).value n = (softValue deterministic llm n).or (i.value n) := by
    intro i
    rw [softValue, proposedValue, ← find?_mergeByName]
    exact value_foldl (fun p : ProposedSoftPreference => p.value.name) (fun p => p.value.json)
      (fun _ _ => ParsedIntent.value_setSoft) (nodup_mergeByName _ _)
  have hard : ((mergeInterpretation deterministic llm).proposedHardConstraints.foldl
      (fun i c => i.setHard c.value) i).value n = (hardValue deterministic llm n).or (i.value n) := by
    rw [hardValue, proposedValue, ← find?_mergeByName]
    exact value_foldl (fun c : ProposedHardConstraint => c.value.name) (fun c => c.value.json)
      (fun _ _ => ParsedIntent.value_setHard) (nodup_mergeByName _ _)
  unfold applyInterpretation
  dsimp only
  rw [ParsedIntent.value_foldl_remove, soft, hard]
  simp only [removals]

/-! ### The deterministic interpretation -/

variable {P : Platform} {now : Int} {message : String} {llm : StructuredInterpretation}

/-- The message asks for something cheaper, and does not set the budget anew. -/
def asksCheaper (message : String) : Bool :=
  cheaperPattern.test (normalizeText message.toList) && !(detectCorrections message).contains "maxAmountMinor"

/-- The budget that a request for something cheaper leaves. -/
def cheaperBudget (i : ParsedIntent) : Json.Number := reducedBudget (i.maxAmountMinor.getD (.ofInt 500000))

theorem removals_deterministic : (deterministicInterpretation P now message i).removals = detectRemovals message :=
  rfl

theorem find?_proposeHard {α : Type} {value : Option α} {make : α → HardConstraintValue} {token : α → String}
    {f : String} {json : α → Json} (named : ∀ v, (make v).name = f) (valued : ∀ v, (make v).json = json v) :
    ((proposeHard message value make token).reverse.find? (·.value.name = n)).map (·.value.json) =
      if f = n then value.map json else none := by
  cases value with
  | none => simp [proposeHard]
  | some v =>
      by_cases same : f = n <;> simp [proposeHard, named, valued, same]

theorem find?_proposeSoft {α : Type} {value : Option α} {make : α → SoftPreferenceValue} {token : α → String}
    {f : String} {json : α → Json} (named : ∀ v, (make v).name = f) (valued : ∀ v, (make v).json = json v) :
    ((proposeSoft message value make token).reverse.find? (·.value.name = n)).map (·.value.json) =
      if f = n then value.map json else none := by
  cases value with
  | none => simp [proposeSoft]
  | some v =>
      by_cases same : f = n <;> simp [proposeSoft, named, valued, same]

theorem softValue_deterministic : softValue (deterministicInterpretation P now message i) llm n =
    (if n ∈ softPreferenceNames then (parseIntentMessage P now message).value n else none).or
      ((llm.proposedSoftPreferences.find? (·.value.name = n)).map (·.value.json)) := by
  simp only [softValue, proposedValue, deterministicInterpretation, List.reverse_append, List.find?_append,
    Option.map_or]
  rw [find?_proposeSoft (f := "distanceKm") (fun _ => rfl) (fun _ => rfl),
    find?_proposeSoft (f := "cushioning") (fun _ => rfl) (fun _ => rfl),
    find?_proposeSoft (f := "fit") (fun _ => rfl) (fun _ => rfl)]
  congr 1
  by_cases soft : n ∈ softPreferenceNames
  · rw [if_pos soft]
    simp only [softPreferenceNames, List.mem_cons, List.not_mem_nil, or_false] at soft
    rcases soft with rfl | rfl | rfl <;> simp [ParsedIntent.value, SoftPreferenceValue.json]
  · rw [if_neg soft]
    simp only [softPreferenceNames, List.mem_cons, List.not_mem_nil, or_false, not_or] at soft
    obtain ⟨fit, cushioning, distance⟩ := soft
    simp [Ne.symm fit, Ne.symm cushioning, Ne.symm distance]

/-- The fields that the deterministic interpretation proposes as hard constraints, as they are parsed. -/
def parsedNames : List String := ["size", "colour", "useCase", "maxAmountMinor", "mustBeReturnable"]

/-- What is parsed of a message, as hard constraints. -/
def parsedConstraints (P : Platform) (now : Int) (message : String) : List ProposedHardConstraint :=
  let parsed := parseIntentMessage P now message
  proposeHard message parsed.size .size id ++
    proposeHard message parsed.colour .colour id ++
    proposeHard message parsed.useCase .useCase id ++
    proposeHard message parsed.maxAmountMinor .maxAmountMinor (fun n => (n.scale (1 / 100)).render) ++
    proposeHard message parsed.mustBeReturnable .mustBeReturnable (fun _ => "return")

theorem find?_parsedConstraints :
    ((parsedConstraints P now message).reverse.find? (·.value.name = n)).map (·.value.json) =
      if n ∈ parsedNames then (parseIntentMessage P now message).value n else none := by
  simp only [parsedConstraints, List.reverse_append, List.find?_append, Option.map_or]
  rw [find?_proposeHard (f := "mustBeReturnable") (fun _ => rfl) (fun _ => rfl),
    find?_proposeHard (f := "maxAmountMinor") (fun _ => rfl) (fun _ => rfl),
    find?_proposeHard (f := "useCase") (fun _ => rfl) (fun _ => rfl),
    find?_proposeHard (f := "colour") (fun _ => rfl) (fun _ => rfl),
    find?_proposeHard (f := "size") (fun _ => rfl) (fun _ => rfl)]
  by_cases hard : n ∈ parsedNames
  · rw [if_pos hard]
    simp only [parsedNames, List.mem_cons, List.not_mem_nil, or_false] at hard
    rcases hard with rfl | rfl | rfl | rfl | rfl <;> simp [ParsedIntent.value, HardConstraintValue.json]
  · rw [if_neg hard]
    simp only [parsedNames, List.mem_cons, List.not_mem_nil, or_false, not_or] at hard
    obtain ⟨size, colour, useCase, budget, returnable⟩ := hard
    simp [Ne.symm size, Ne.symm colour, Ne.symm useCase, Ne.symm budget, Ne.symm returnable]

/-- The deterministic interpretation proposes what is parsed, and then a lower budget where something cheaper is
asked for. -/
theorem hard_deterministic : (deterministicInterpretation P now message i).proposedHardConstraints =
    parsedConstraints P now message ++ if asksCheaper message then
      [⟨.maxAmountMinor (cheaperBudget i), evidenceFor message "cheaper"⟩] else [] := by
  show (if asksCheaper message = true then _ else _) = _
  cases asksCheaper message <;> simp [parsedConstraints, cheaperBudget]

theorem hardValue_deterministic : hardValue (deterministicInterpretation P now message i) llm n =
    (if n = "maxAmountMinor" ∧ asksCheaper message = true then some (.num (cheaperBudget i))
      else if n ∈ parsedNames then (parseIntentMessage P now message).value n else none).or
      ((llm.proposedHardConstraints.find? (·.value.name = n)).map (·.value.json)) := by
  rw [hardValue, proposedValue, Option.map_or, hard_deterministic, List.reverse_append, List.find?_append,
    Option.map_or, find?_parsedConstraints]
  congr 1
  cases asksCheaper message with
  | false => simp
  | true =>
      by_cases budget : n = "maxAmountMinor"
      · simp [budget, HardConstraintValue.name, HardConstraintValue.json]
      · simp [budget, Ne.symm budget, HardConstraintValue.name]

theorem value_isSome {parsed : ParsedIntent} {j : Json} (set : parsed.value n = some j) :
    n ∈ parsedNames ∨ n ∈ softPreferenceNames ∨ n = "deliverBy" := by
  unfold ParsedIntent.value at set
  split at set <;> simp_all [parsedNames, softPreferenceNames]

/-- Nothing is in the way of what is parsed from a message: it is not removed, its budget is what a request for
something cheaper leaves, and its date is proposed or there already. -/
structure Undisturbed (P : Platform) (now : Int) (message : String) (i : ParsedIntent)
    (llm : StructuredInterpretation) : Prop where
  kept : ∀ n, ((parseIntentMessage P now message).value n).isSome → n ∉ detectRemovals message ∧ n ∉ llm.removals
  budget : asksCheaper message = true →
    ∀ b, (parseIntentMessage P now message).maxAmountMinor = some b → cheaperBudget i = b
  date : ∀ d, (parseIntentMessage P now message).deliverBy = some d →
    ((llm.proposedHardConstraints.find? (·.value.name = "deliverBy")).map (·.value.json)).or (i.value "deliverBy") =
      some (.str d)

theorem find?_soft {l : List ProposedSoftPreference} (other : n ∉ softPreferenceNames) :
    l.find? (·.value.name = n) = none := by
  rw [List.find?_eq_none]
  intro p _ named
  have named : p.value.name = n := by simpa using named
  apply other
  rw [← named]
  cases p.value <;> simp [SoftPreferenceValue.name, softPreferenceNames]

/-- What a message makes of a field that is parsed from it. -/
theorem value_said {j : Json} (set : (parseIntentMessage P now message).value n = some j) :
    (applyInterpretation i (mergeInterpretation (deterministicInterpretation P now message i) llm)).value n =
      if n ∈ detectRemovals message ∨ n ∈ llm.removals then none
      else if n = "maxAmountMinor" ∧ asksCheaper message = true then some (.num (cheaperBudget i))
      else if n = "deliverBy" then
        ((llm.proposedHardConstraints.find? (·.value.name = "deliverBy")).map (·.value.json)).or (i.value "deliverBy")
      else some j := by
  rw [value_applyInterpretation, removals_deterministic, softValue_deterministic, hardValue_deterministic, set]
  refine if_congr Iff.rfl rfl ?_
  rcases value_isSome set with hard | soft | rfl
  · have other : n ∉ softPreferenceNames ∧ n ≠ "deliverBy" := by
      simp only [parsedNames, List.mem_cons, List.not_mem_nil, or_false] at hard
      rcases hard with rfl | rfl | rfl | rfl | rfl <;> decide
    rw [if_neg other.1, find?_soft other.1, if_pos hard, if_neg other.2]
    by_cases cheaper : n = "maxAmountMinor" ∧ asksCheaper message = true
    · simp [cheaper]
    · simp only [if_neg cheaper]
      rfl
  · have other : n ≠ "maxAmountMinor" ∧ n ≠ "deliverBy" := by
      simp only [softPreferenceNames, List.mem_cons, List.not_mem_nil, or_false] at soft
      rcases soft with rfl | rfl | rfl <;> decide
    have budget : ¬ (n = "maxAmountMinor" ∧ asksCheaper message = true) := fun cheaper => other.1 cheaper.1
    rw [if_pos soft, if_neg budget, if_neg budget, if_neg other.2]
    rfl
  · rw [if_neg (by decide), find?_soft (by decide), if_neg (by simp), if_neg (by decide), if_neg (by simp),
      if_pos rfl]
    rfl

/-- What is parsed from a message is what the intent has, if and only if nothing is in the way. -/
theorem parsed_wins_iff :
    (∀ n j, (parseIntentMessage P now message).value n = some j →
      (applyInterpretation i (mergeInterpretation (deterministicInterpretation P now message i) llm)).value n =
        some j) ↔ Undisturbed P now message i llm := by
  constructor
  · intro wins
    have kept : ∀ n, ((parseIntentMessage P now message).value n).isSome →
        ¬ (n ∈ detectRemovals message ∨ n ∈ llm.removals) := by
      intro n set removed
      obtain ⟨j, set⟩ := Option.isSome_iff_exists.mp set
      have won := wins n j set
      rw [value_said set, if_pos removed] at won
      cases won
    refine ⟨fun n set => not_or.mp (kept n set), fun cheaper b set => ?_, fun d set => ?_⟩
    · have set : (parseIntentMessage P now message).value "maxAmountMinor" = some (.num b) := by
        simp [ParsedIntent.value, set]
      have won := wins _ _ set
      rw [value_said set, if_neg (kept _ (by rw [set]; rfl)), if_pos ⟨rfl, cheaper⟩] at won
      exact Json.num.inj (Option.some.inj won)
    · have set : (parseIntentMessage P now message).value "deliverBy" = some (.str d) := by
        simp [ParsedIntent.value, set]
      have won := wins _ _ set
      rwa [value_said set, if_neg (kept _ (by rw [set]; rfl)), if_neg (by simp), if_pos rfl] at won
  · intro undisturbed n j set
    have kept := not_or.mpr (undisturbed.kept n (by rw [set]; rfl))
    rw [value_said set, if_neg kept]
    split
    · next cheaper =>
        obtain ⟨rfl, cheaper⟩ := cheaper
        obtain ⟨b, parsed, rfl⟩ := Option.map_eq_some_iff.mp set
        rw [undisturbed.budget cheaper b parsed]
    · split
      · next date =>
          subst date
          obtain ⟨d, parsed, rfl⟩ := Option.map_eq_some_iff.mp set
          exact undisturbed.date d parsed
      · rfl

/-- The colour that is asked for is removed with the one that is negated. -/
theorem parsed_wins_false : ¬ ∀ P now message i productIds raw llm,
    validateInterpretation P message productIds raw = .ok (.ok llm) →
      ∀ n j, (parseIntentMessage P now message).value n = some j →
        (applyInterpretation i (mergeInterpretation (deterministicInterpretation P now message i) llm)).value n =
          some j := by
  intro wins
  have valid : validateInterpretation ⟨id, fun _ => id, toString, fun _ => none, fun _ => none, 0⟩ "white not black"
      [] (hardProposal []) = .ok (.ok ⟨.search, [], [], [], [], [], []⟩) := by decide +kernel
  have parsed : (parseIntentMessage ⟨id, fun _ => id, toString, fun _ => none, fun _ => none, 0⟩ 0
      "white not black").colour = some "white" := by decide +kernel
  have won := wins _ 0 _ {} _ _ _ valid "colour" (.str "white") (by simp [ParsedIntent.value, parsed])
  rw [value_applyInterpretation, if_pos (.inl (by decide +kernel))] at won
  cases won

end Applying

end AgentReady
