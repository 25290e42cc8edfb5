import Mathlib.Data.List.Sort

/-!
Stable sorting, by the places that the values had.

* `exists_entries`: sorting what a test lets through, by a key that falls, lists these values with their
  places, each before those with a lower key, and before those with the same key that stood after it.
-/

namespace StableSort

variable {α β : Type} [LinearOrder β] (key : α → β)

/-- A value with a higher key, or with the same key and an earlier place. -/
def Precedes (a b : α × Nat) : Prop := key b.1 < key a.1 ∨ (key a.1 = key b.1 ∧ a.2 < b.2)

/-- Higher keys first. -/
def Falls (a b : α) : Prop := key b ≤ key a

instance : DecidableRel (Falls key) := fun a b => inferInstanceAs (Decidable (key b ≤ key a))

/-- The entry is put before the first one whose key is not higher. -/
def insert (entry : α × Nat) : List (α × Nat) → List (α × Nat)
  | [] => [entry]
  | head :: rest => if Falls key entry.1 head.1 then entry :: head :: rest else head :: insert entry rest

variable {key}

theorem le_of_precedes {a b : α × Nat} (precedes : Precedes key a b) : key b.1 ≤ key a.1 := by
  rcases precedes with less | ⟨same, -⟩
  · exact less.le
  · exact same.symm.le

theorem perm_insert (entry : α × Nat) : ∀ entries, (insert key entry entries).Perm (entry :: entries)
  | [] => .refl _
  | head :: rest => by
      unfold insert
      split
      · exact .refl _
      · exact ((perm_insert entry rest).cons head).trans (.swap entry head rest)

theorem map_insert (entry : α × Nat) : ∀ entries, (insert key entry entries).map Prod.fst =
    (entries.map Prod.fst).orderedInsert (Falls key) entry.1
  | [] => rfl
  | head :: rest => by
      unfold insert
      rw [List.map_cons, List.orderedInsert_cons]
      split
      · rfl
      · rw [List.map_cons, map_insert entry rest]

/-- An entry that stood before all others is put in its order. -/
theorem pairwise_insert {entry : α × Nat} : ∀ {entries : List (α × Nat)}, entries.Pairwise (Precedes key) →
    (∀ e ∈ entries, entry.2 < e.2) → (insert key entry entries).Pairwise (Precedes key)
  | [], _, _ => List.pairwise_singleton _ _
  | head :: rest, ordered, after => by
      obtain ⟨first, ordered'⟩ := List.pairwise_cons.mp ordered
      unfold insert
      split
      · rename_i falls
        refine List.pairwise_cons.mpr ⟨fun e mem => ?_, ordered⟩
        have lower : key e.1 ≤ key entry.1 := by
          rcases List.mem_cons.mp mem with rfl | mem
          · exact falls
          · exact (le_of_precedes (first e mem)).trans falls
        rcases lower.lt_or_eq with less | same
        · exact .inl less
        · exact .inr ⟨same.symm, after e mem⟩
      · rename_i rises
        refine List.pairwise_cons.mpr ⟨fun e mem => ?_, pairwise_insert ordered' fun e mem =>
          after e (List.mem_cons_of_mem _ mem)⟩
        rcases List.mem_cons.mp ((perm_insert entry rest).mem_iff.mp mem) with rfl | mem
        · exact .inl (lt_of_not_ge rises)
        · exact first e mem

/-- The values that pass the test, sorted, are entries in the order of keys and places. -/
theorem exists_entries (passes : α → Bool) : ∀ (values : List α) (start : Nat), ∃ entries : List (α × Nat),
    entries.Perm ((values.zipIdx start).filter fun e => passes e.1) ∧
    entries.map Prod.fst = (values.filter passes).insertionSort (Falls key) ∧
    entries.Pairwise (Precedes key)
  | [], _ => ⟨[], .refl _, rfl, .nil⟩
  | value :: values, start => by
      obtain ⟨entries, perm, sorted, ordered⟩ := exists_entries passes values (start + 1)
      cases passed : passes value with
      | false => exact ⟨entries, by simpa [passed] using perm, by simpa [passed] using sorted, ordered⟩
      | true =>
          have after : ∀ e ∈ entries, start < e.2 := by
            intro e mem
            have among := (List.mem_filter.mp (perm.mem_iff.mp mem)).1
            exact List.le_snd_of_mem_zipIdx among
          refine ⟨insert key (value, start) entries, ?_, ?_, pairwise_insert ordered after⟩
          · simpa [passed] using (perm_insert _ entries).trans (perm.cons _)
          · simp [passed, map_insert, sorted]

end StableSort
