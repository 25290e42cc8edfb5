import Mathlib.Data.List.Nodup
import Mathlib.Data.Option.Basic

/-!
Insertion-ordered maps: a list of entries with distinct keys.

Iteration follows insertion order, `set` on a present key keeps the key's place,
and `erase` followed by `set` moves the key to the end. Distinctness of the keys
is a field, so a map with a shadowed entry cannot be built.

* `get?_set_self`, `get?_set_of_ne`, `get?_erase_self`, `get?_erase_of_ne`: the
  lookup of each update, which is all a client needs to reason about one.
* `find?_eq_some`: what a scan over the values returns is stored under some key.
* `get?_map`, `set_map`, `values_map`: a map whose values are taken under a function.
-/

/-- A map whose entries are listed in insertion order. -/
structure OrderedMap (κ α : Type) where
  entries : List (κ × α)
  nodup : (entries.map Prod.fst).Nodup

namespace OrderedMap

variable {κ α : Type}

def empty : OrderedMap κ α := ⟨[], List.nodup_nil⟩

instance : EmptyCollection (OrderedMap κ α) := ⟨empty⟩

instance : Inhabited (OrderedMap κ α) := ⟨empty⟩

def size (m : OrderedMap κ α) : Nat := m.entries.length

def values (m : OrderedMap κ α) : List α := m.entries.map Prod.snd

/-- The oldest key. -/
def firstKey? (m : OrderedMap κ α) : Option κ := m.entries.head?.map Prod.fst

/-- The first value, in insertion order, that satisfies `p`. -/
def find? (m : OrderedMap κ α) (p : α → Bool) : Option α := m.values.find? p

variable {β : Type}

/-- The values under a function, each in its place. -/
def map (f : α → β) (m : OrderedMap κ α) : OrderedMap κ β :=
  ⟨m.entries.map fun e => (e.1, f e.2), by simpa [Function.comp_def] using m.nodup⟩

theorem values_map (f : α → β) (m : OrderedMap κ α) : (m.map f).values = m.values.map f := by
  simp [values, map, Function.comp_def]

section Keyed

variable [DecidableEq κ]

def lookup (k : κ) : List (κ × α) → Option α
  | [] => none
  | (k', v) :: rest => if k' = k then some v else lookup k rest

def store (k : κ) (v : α) : List (κ × α) → List (κ × α)
  | [] => [(k, v)]
  | (k', v') :: rest => if k' = k then (k, v) :: rest else (k', v') :: store k v rest

theorem mem_keys_store {k x : κ} {v : α} :
    ∀ {l : List (κ × α)}, x ∈ (store k v l).map Prod.fst ↔ x = k ∨ x ∈ l.map Prod.fst
  | [] => by simp [store]
  | (k', v') :: rest => by
      by_cases h : k' = k
      · simp [store, h]
      · simp only [store, if_neg h, List.map_cons, List.mem_cons, mem_keys_store]
        tauto

theorem nodup_store {k : κ} {v : α} :
    ∀ {l : List (κ × α)}, (l.map Prod.fst).Nodup → ((store k v l).map Prod.fst).Nodup
  | [], _ => by simp [store]
  | (k', v') :: rest, h => by
      rw [List.map_cons, List.nodup_cons] at h
      by_cases hk : k' = k
      · subst hk
        simpa [store] using h
      · simp only [store, if_neg hk, List.map_cons, List.nodup_cons]
        refine ⟨fun mem => ?_, nodup_store h.2⟩
        rcases mem_keys_store.mp mem with rfl | mem'
        · exact hk rfl
        · exact h.1 mem'

theorem lookup_store_self (k : κ) (v : α) : ∀ l : List (κ × α), lookup k (store k v l) = some v
  | [] => by simp [store, lookup]
  | (k', v') :: rest => by
      by_cases h : k' = k
      · simp [store, lookup, h]
      · simp [store, lookup, h, lookup_store_self k v rest]

theorem lookup_store_of_ne {k k' : κ} (h : k' ≠ k) (v : α) :
    ∀ l : List (κ × α), lookup k' (store k v l) = lookup k' l
  | [] => by simp [store, lookup, Ne.symm h]
  | (k₀, v₀) :: rest => by
      by_cases h₀ : k₀ = k
      · subst h₀
        simp [store, lookup, Ne.symm h]
      · simp [store, lookup, h₀, lookup_store_of_ne h v rest]

theorem lookup_eq_none {k : κ} :
    ∀ {l : List (κ × α)}, k ∉ l.map Prod.fst → lookup k l = none
  | [], _ => rfl
  | (k', v') :: rest, h => by
      simp only [List.map_cons, List.mem_cons, not_or] at h
      simp [lookup, Ne.symm h.1, lookup_eq_none h.2]

theorem lookup_filter_of_ne {k k' : κ} (h : k' ≠ k) :
    ∀ l : List (κ × α), lookup k' (l.filter fun e => e.1 ≠ k) = lookup k' l
  | [] => rfl
  | (k₀, v₀) :: rest => by
      have ih := lookup_filter_of_ne h rest
      by_cases h₀ : k₀ = k
      · subst h₀
        simp only [ne_eq, not_true_eq_false, decide_false, Bool.false_eq_true,
          not_false_eq_true, List.filter_cons_of_neg, lookup, if_neg (Ne.symm h)]
        exact ih
      · simp only [ne_eq, h₀, not_false_eq_true, decide_true, List.filter_cons_of_pos, lookup]
        rw [ih]

def get? (m : OrderedMap κ α) (k : κ) : Option α := lookup k m.entries

def has (m : OrderedMap κ α) (k : κ) : Bool := (m.get? k).isSome

def set (m : OrderedMap κ α) (k : κ) (v : α) : OrderedMap κ α :=
  ⟨store k v m.entries, nodup_store m.nodup⟩

def erase (m : OrderedMap κ α) (k : κ) : OrderedMap κ α :=
  ⟨m.entries.filter fun e => e.1 ≠ k, m.nodup.sublist (List.filter_sublist.map Prod.fst)⟩

@[simp] theorem get?_empty (k : κ) : (∅ : OrderedMap κ α).get? k = none := rfl

@[simp] theorem get?_set_self (m : OrderedMap κ α) (k : κ) (v : α) :
    (m.set k v).get? k = some v :=
  lookup_store_self k v m.entries

theorem get?_set_of_ne (m : OrderedMap κ α) {k k' : κ} (h : k' ≠ k) (v : α) :
    (m.set k v).get? k' = m.get? k' :=
  lookup_store_of_ne h v m.entries

theorem get?_set (m : OrderedMap κ α) (k k' : κ) (v : α) :
    (m.set k v).get? k' = if k' = k then some v else m.get? k' := by
  split
  · rename_i same
    rw [same, get?_set_self]
  · rename_i other
    exact get?_set_of_ne m other v

theorem has_set {m : OrderedMap κ α} {k k' : κ} {v : α} :
    (m.set k v).has k' = true ↔ k' = k ∨ m.has k' = true := by
  rw [has, get?_set]
  split <;> simp_all [has]

@[simp] theorem get?_erase_self (m : OrderedMap κ α) (k : κ) : (m.erase k).get? k = none := by
  apply lookup_eq_none
  simp [erase]

theorem get?_erase_of_ne (m : OrderedMap κ α) {k k' : κ} (h : k' ≠ k) :
    (m.erase k).get? k' = m.get? k' :=
  lookup_filter_of_ne h m.entries

theorem lookup_of_mem {k : κ} {v : α} :
    ∀ {l : List (κ × α)}, (l.map Prod.fst).Nodup → (k, v) ∈ l → lookup k l = some v
  | (k', v') :: rest, nodup, mem => by
      rw [List.map_cons, List.nodup_cons] at nodup
      rcases List.mem_cons.mp mem with eq | mem'
      · cases eq
        simp [lookup]
      · have ne : k' ≠ k := by
          rintro rfl
          exact nodup.1 (List.mem_map.mpr ⟨_, mem', rfl⟩)
        simp [lookup, ne, lookup_of_mem nodup.2 mem']

theorem mem_of_lookup {k : κ} {v : α} : ∀ {l : List (κ × α)}, lookup k l = some v → (k, v) ∈ l
  | (k', v') :: rest, h => by
      by_cases eq : k' = k
      · subst eq
        simp only [lookup, if_true, Option.some.injEq] at h
        simp [h]
      · rw [lookup, if_neg eq] at h
        exact List.mem_cons_of_mem _ (mem_of_lookup h)

/-- The entries are what the lookup finds. -/
theorem mem_entries {m : OrderedMap κ α} {e : κ × α} : e ∈ m.entries ↔ m.get? e.1 = some e.2 :=
  ⟨lookup_of_mem m.nodup, mem_of_lookup⟩

/-- A value that is stored again keeps its place. -/
theorem store_of_lookup {k : κ} {old : α} (new : α) : ∀ {l : List (κ × α)}, lookup k l = some old →
    ∃ before after, l = before ++ (k, old) :: after ∧ store k new l = before ++ (k, new) :: after
  | (k', v') :: rest, h => by
      by_cases eq : k' = k
      · subst eq
        simp only [lookup, if_true, Option.some.injEq] at h
        subst h
        exact ⟨[], rest, rfl, by simp [store]⟩
      · rw [lookup, if_neg eq] at h
        obtain ⟨before, after, same, stored⟩ := store_of_lookup new h
        exact ⟨(k', v') :: before, after, by rw [same]; rfl, by simp [store, eq, stored]⟩

/-- A value under a fresh key comes last. -/
theorem store_of_none {k : κ} (v : α) :
    ∀ {l : List (κ × α)}, lookup k l = none → store k v l = l ++ [(k, v)]
  | [], _ => rfl
  | (k', v') :: rest, h => by
      by_cases eq : k' = k
      · simp [lookup, eq] at h
      · rw [lookup, if_neg eq] at h
        simp [store, eq, store_of_none v h]

theorem values_set {m : OrderedMap κ α} {k : κ} {old : α} (stored : m.get? k = some old) (new : α) :
    ∃ before after, m.values = before ++ old :: after ∧ (m.set k new).values = before ++ new :: after := by
  obtain ⟨before, after, same, put⟩ := store_of_lookup new stored
  refine ⟨before.map Prod.snd, after.map Prod.snd, ?_, ?_⟩
  · simp [values, same]
  · simp [values, set, put]

theorem values_set_of_none {m : OrderedMap κ α} {k : κ} (free : m.get? k = none) (v : α) :
    (m.set k v).values = m.values ++ [v] := by
  have put := store_of_none v free
  simp [values, set, put]

/-- A scan over the values returns a value stored under some key. -/
theorem find?_eq_some {m : OrderedMap κ α} {p : α → Bool} {v : α} (h : m.find? p = some v) :
    p v = true ∧ ∃ k, m.get? k = some v := by
  refine ⟨List.find?_some h, ?_⟩
  obtain ⟨⟨k, v'⟩, mem, rfl⟩ := List.mem_map.mp (List.mem_of_find?_eq_some h)
  exact ⟨k, lookup_of_mem m.nodup mem⟩

/-! ### Values under a function -/

theorem lookup_map (f : α → β) (k : κ) :
    ∀ l : List (κ × α), lookup k (l.map fun e => (e.1, f e.2)) = (lookup k l).map f
  | [] => rfl
  | (k', v') :: rest => by
      by_cases eq : k' = k
      · simp [lookup, eq]
      · simp [lookup, eq, lookup_map f k rest]

theorem store_map (f : α → β) (k : κ) (v : α) : ∀ l : List (κ × α),
    store k (f v) (l.map fun e => (e.1, f e.2)) = (store k v l).map fun e => (e.1, f e.2)
  | [] => rfl
  | (k', v') :: rest => by
      by_cases eq : k' = k
      · simp [store, eq]
      · simp [store, eq, store_map f k v rest]

@[simp] theorem get?_map (f : α → β) (m : OrderedMap κ α) (k : κ) :
    (m.map f).get? k = (m.get? k).map f :=
  lookup_map f k m.entries

theorem set_map (f : α → β) (m : OrderedMap κ α) (k : κ) (v : α) :
    (m.map f).set k (f v) = (m.set k v).map f := by
  unfold set map
  congr 1
  exact store_map f k v m.entries

end Keyed

end OrderedMap
