import AgentReady.Lib.JsonText
import AgentReady.Lib.OrderedMap
import Mathlib.Order.Monotone.Basic
import Mathlib.Data.Finset.Card

/-!
Objects that refer to each other, and the JSON values that they stand for.

A heap lists its objects; a value holds itself or refers to one of them. Objects can be shared, and can be
assigned to, so a reference stands for a JSON value only as long as nothing that it reaches is assigned to.

* `read_of_agree`: what a value stands for depends on the objects that it reaches, and on no other.
* `read_structuredClone`, `apart_structuredClone`: a clone stands for the same value, and reaches no object
  that was there before; and so `allocate_reads`, `apart_allocate`, of the objects of a text that is read.
* `toJson_of_read`: a value that stands for one is found by looking no deeper than there are objects.
-/

namespace Objects

inductive Value where
  | null
  | bool (b : Bool)
  | num (n : Json.Number)
  | str (s : String)
  | ref (a : Nat)
deriving DecidableEq

/-- An array, or an object with its own properties in order. -/
inductive Cell where
  | arr (items : List Value)
  | obj (fields : List (String × Value))

abbrev Heap := List Cell

def Cell.values : Cell → List Value
  | arr items => items
  | obj fields => fields.map Prod.snd

/-! ### What a value stands for -/

/-- The JSON value that a value stands for, if it has one that is no deeper than this. -/
def read (h : Heap) : Nat → Value → Option Json
  | _, .null => some .null
  | _, .bool b => some (.bool b)
  | _, .num n => some (.num n)
  | _, .str s => some (.str s)
  | 0, .ref _ => none
  | depth + 1, .ref a =>
      match h[a]? with
      | none => none
      | some (.arr items) => (items.mapM (read h depth)).map .arr
      | some (.obj fields) =>
          (fields.mapM fun f => (read h depth f.2).map (f.1, ·)).map .obj

/-- The value of `v`: none, where an object is reached from itself. -/
def toJson (h : Heap) (v : Value) : Option Json := read h h.length v

/-- `v` stands for `j`. -/
def Reads (h : Heap) (v : Value) (j : Json) : Prop := ∃ depth, read h depth v = some j

/-- The objects that `v` refers to, and those they refer to. -/
inductive Reach (h : Heap) : Value → Nat → Prop where
  | self (a : Nat) : Reach h (.ref a) a
  | into {a b : Nat} {cell : Cell} {v : Value} : h[a]? = some cell → v ∈ cell.values → Reach h v b →
      Reach h (.ref a) b

section Lists

variable {α β : Type} {f g : α → Option β}

theorem mapM_le {l : List α} {bs : List β} (le : ∀ x ∈ l, ∀ b, f x = some b → g x = some b)
    (all : l.mapM f = some bs) : l.mapM g = some bs := by
  induction l generalizing bs with
  | nil => exact all
  | cons x l ih =>
      simp only [List.mapM_cons, Option.bind_eq_bind, Option.bind_eq_some_iff] at all ⊢
      obtain ⟨b, head, rest, tail, made⟩ := all
      exact ⟨b, le x List.mem_cons_self b head, rest,
        ih (fun y mem => le y (List.mem_cons_of_mem _ mem)) tail, made⟩

theorem map_snd_le {f g : α → Option β} {fields : List (String × α)} {values : List (String × β)}
    (le : ∀ x b, f x = some b → g x = some b)
    (all : fields.mapM (fun p => (f p.2).map (p.1, ·)) = some values) :
    fields.mapM (fun p => (g p.2).map (p.1, ·)) = some values := by
  refine mapM_le (fun p _ q one => ?_) all
  obtain ⟨b, deep, made⟩ := Option.map_eq_some_iff.mp one
  exact Option.map_eq_some_iff.mpr ⟨b, le _ _ deep, made⟩

theorem mapM_congr_of_mem {l : List α} (same : ∀ x ∈ l, f x = g x) : l.mapM f = l.mapM g := by
  induction l with
  | nil => rfl
  | cons x l ih =>
      rw [List.mapM_cons, List.mapM_cons, same x List.mem_cons_self,
        ih fun y mem => same y (List.mem_cons_of_mem _ mem)]

theorem isSome_mapM {l : List α} : (l.mapM f).isSome ↔ ∀ x ∈ l, (f x).isSome := by
  induction l with
  | nil => simp
  | cons x l ih =>
      cases head : f x with
      | none => simp [List.mapM_cons, head]
      | some b =>
          cases tail : l.mapM f with
          | none => simpa [List.mapM_cons, head, tail] using ih
          | some bs => simpa [List.mapM_cons, head, tail] using ih

end Lists

section Reading

variable {h h' : Heap} {v : Value} {j j' : Json} {depth : Nat}

theorem read_succ : ∀ {depth : Nat} {v : Value} {j : Json}, read h depth v = some j →
    read h (depth + 1) v = some j := by
  intro depth
  induction depth with
  | zero =>
      intro v j found
      cases v <;> simp_all [read]
  | succ depth ih =>
      intro v j found
      cases v with
      | ref a =>
          simp only [read] at found ⊢
          cases here : h[a]? with
          | none => simp [here] at found
          | some cell =>
              cases cell with
              | arr items =>
                  simp only [here, Option.map_eq_some_iff] at found ⊢
                  obtain ⟨values, read_, rfl⟩ := found
                  exact ⟨values, mapM_le (fun _ _ _ => ih) read_, rfl⟩
              | obj fields =>
                  simp only [here, Option.map_eq_some_iff] at found ⊢
                  obtain ⟨values, read_, rfl⟩ := found
                  exact ⟨values, map_snd_le (fun _ _ => ih) read_, rfl⟩
      | null => exact found
      | bool b => exact found
      | num n => exact found
      | str s => exact found

theorem read_le {depth' : Nat} (le : depth ≤ depth') (found : read h depth v = some j) :
    read h depth' v = some j := by
  induction le with
  | refl => exact found
  | step _ ih => exact read_succ ih

theorem mapM_member_le {depth' : Nat} (le : depth ≤ depth') {fields : List (String × Value)}
    {values : List (String × Json)} (all : fields.mapM (fun f => (read h depth f.2).map (f.1, ·)) = some values) :
    fields.mapM (fun f => (read h depth' f.2).map (f.1, ·)) = some values :=
  map_snd_le (fun _ _ => read_le le) all

theorem Reads.unique (one : Reads h v j) (other : Reads h v j') : j = j' := by
  obtain ⟨depth, found⟩ := one
  obtain ⟨depth', found'⟩ := other
  have first := read_le (Nat.le_max_left depth depth') found
  have second := read_le (Nat.le_max_right depth depth') found'
  exact Option.some.inj (first.symm.trans second)

/-- What a value stands for depends on the objects that it reaches, and on no other. -/
theorem read_of_agree : ∀ {depth : Nat} {v : Value}, (∀ a, Reach h v a → h'[a]? = h[a]?) →
    read h' depth v = read h depth v := by
  intro depth
  induction depth with
  | zero =>
      intro v _
      cases v <;> rfl
  | succ depth ih =>
      intro v agree
      cases v with
      | ref a =>
          simp only [read, agree a (.self a)]
          cases here : h[a]? with
          | none => rfl
          | some cell =>
              cases cell with
              | arr items =>
                  have each : ∀ x ∈ items, read h' depth x = read h depth x := by
                    intro x mem
                    exact ih fun b reach => agree b (.into here mem reach)
                  simp only [mapM_congr_of_mem each]
              | obj fields =>
                  have each : ∀ f ∈ fields, (read h' depth f.2).map (f.1, ·) = (read h depth f.2).map (f.1, ·) := by
                    intro f mem
                    rw [ih fun b reach => agree b (.into here (List.mem_map_of_mem mem) reach)]
                  simp only [mapM_congr_of_mem each]
      | null => rfl
      | bool b => rfl
      | num n => rfl
      | str s => rfl

theorem Reads.of_agree (agree : ∀ a, Reach h v a → h'[a]? = h[a]?) (reads : Reads h v j) : Reads h' v j := by
  obtain ⟨depth, found⟩ := reads
  exact ⟨depth, (read_of_agree agree).trans found⟩

end Reading

/-! ### How deep a value is -/

section Depth

variable {h : Heap}

/-- The objects that stand for a value no deeper than this. -/
def within (h : Heap) (depth : Nat) : Finset Nat :=
  (Finset.range h.length).filter fun a => (read h depth (.ref a)).isSome

theorem isSome_read_ref {depth a : Nat} : (read h (depth + 1) (.ref a)).isSome ↔
    ∃ cell, h[a]? = some cell ∧ ∀ v ∈ cell.values, (read h depth v).isSome := by
  cases here : h[a]? with
  | none => simp [read, here]
  | some cell =>
      cases cell with
      | arr items => simp [read, here, Cell.values, isSome_mapM]
      | obj fields => simpa [read, here, Cell.values, isSome_mapM] using forall_comm

theorem isSome_read_ref_iff {depth a : Nat} : (read h depth (.ref a)).isSome ↔ a ∈ within h depth := by
  constructor
  · intro found
    refine Finset.mem_filter.mpr ⟨Finset.mem_range.mpr ?_, found⟩
    cases depth with
    | zero => cases found
    | succ depth =>
        obtain ⟨cell, here, -⟩ := isSome_read_ref.mp found
        exact (List.getElem?_eq_some_iff.mp here).choose
  · intro mem
    exact (Finset.mem_filter.mp mem).2

theorem within_mono : Monotone (within h) := by
  refine monotone_nat_of_le_succ fun depth a mem => ?_
  obtain ⟨j, found⟩ := Option.isSome_iff_exists.mp (isSome_read_ref_iff.mpr mem)
  exact isSome_read_ref_iff.mp (Option.isSome_iff_exists.mpr ⟨j, read_succ found⟩)

theorem isSome_read_of_within {depth depth' : Nat} (sub : within h depth ⊆ within h depth') {v : Value}
    (found : (read h depth v).isSome) : (read h depth' v).isSome := by
  cases v with
  | ref a => exact isSome_read_ref_iff.mpr (sub (isSome_read_ref_iff.mp found))
  | null => simp [read]
  | bool b => simp [read]
  | num n => simp [read]
  | str s => simp [read]

/-- Where one more level finds no new object, neither does the next. -/
theorem within_stable {depth : Nat} (same : within h (depth + 1) ⊆ within h depth) :
    within h (depth + 2) ⊆ within h (depth + 1) := by
  intro a mem
  obtain ⟨cell, here, each⟩ := isSome_read_ref.mp (isSome_read_ref_iff.mpr mem)
  exact isSome_read_ref_iff.mp (isSome_read_ref.mpr
    ⟨cell, here, fun v mem => isSome_read_of_within same (each v mem)⟩)

/-- No value is deeper than there are objects. -/
theorem within_length {depth : Nat} (deep : h.length ≤ depth) : within h depth = within h h.length := by
  refine (Finset.eq_of_subset_of_card_le (within_mono deep) ?_).symm
  refine (Nat.stabilises_of_monotone (f := fun depth => (within h depth).card) ?_ ?_ ?_ deep).le
  · intro depth depth' le
    exact Finset.card_le_card (within_mono le)
  · intro depth
    exact (Finset.card_filter_le _ _).trans (Finset.card_range _).le
  · intro depth same
    have stable : within h (depth + 1) ⊆ within h depth :=
      (Finset.eq_of_subset_of_card_le (within_mono depth.le_succ) same.ge).ge
    exact (Finset.card_le_card (within_mono (depth + 1).le_succ)).antisymm
      (Finset.card_le_card (within_stable stable))

/-- A value that stands for one is found by looking no deeper than there are objects. -/
theorem toJson_of_read {v : Value} {j : Json} (reads : Reads h v j) : toJson h v = some j := by
  obtain ⟨depth, found⟩ := reads
  have deep := read_le (Nat.le_add_right depth h.length) found
  have sub : within h (depth + h.length) ⊆ within h h.length := (within_length (Nat.le_add_left _ _)).le
  obtain ⟨j', here⟩ := Option.isSome_iff_exists.mp
    (isSome_read_of_within sub (Option.isSome_iff_exists.mpr ⟨j, deep⟩))
  rw [toJson, here, Reads.unique ⟨_, here⟩ ⟨_, found⟩]

end Depth

/-! ### Making objects -/

/-- Another heap's value, where its objects come after these. -/
def Value.shift (by_ : Nat) : Value → Value
  | ref a => .ref (by_ + a)
  | v => v

def Cell.shift (by_ : Nat) : Cell → Cell
  | arr items => .arr (items.map (.shift by_))
  | obj fields => .obj (fields.map fun f => (f.1, f.2.shift by_))

/-- `structuredClone`: the objects that `v` reaches, again, sharing what they share. The whole heap is there
again; of that, what the clone does not reach is not to be had. -/
def structuredClone (h : Heap) (v : Value) : Heap × Value :=
  (h ++ h.map (.shift h.length), v.shift h.length)

mutual
/-- The objects of a value that is read from a text. -/
def allocate (h : Heap) : Json → Heap × Value
  | .null => (h, .null)
  | .bool b => (h, .bool b)
  | .num n => (h, .num n)
  | .str s => (h, .str s)
  | .arr items =>
      let made := allocateItems h items
      (made.1 ++ [.arr made.2], .ref made.1.length)
  | .obj fields =>
      let made := allocateFields h fields
      (made.1 ++ [.obj made.2], .ref made.1.length)

def allocateItems (h : Heap) : List Json → Heap × List Value
  | [] => (h, [])
  | item :: rest =>
      let one := allocate h item
      let others := allocateItems one.1 rest
      (others.1, one.2 :: others.2)

def allocateFields (h : Heap) : List (String × Json) → Heap × List (String × Value)
  | [] => (h, [])
  | (key, value) :: rest =>
      let one := allocate h value
      let others := allocateFields one.1 rest
      (others.1, (key, one.2) :: others.2)
end

/-- The references of a value are in `K`. -/
def Value.In (K : Set Nat) : Value → Prop
  | ref a => a ∈ K
  | _ => True

/-- The objects of `K` refer to no others. -/
def Closed (h : Heap) (K : Set Nat) : Prop :=
  ∀ a ∈ K, ∀ cell, h[a]? = some cell → ∀ v ∈ cell.values, v.In K

/-- From `v`, no object before the `n`th is reached. -/
def Apart (h : Heap) (n : Nat) (v : Value) : Prop := ∀ a, Reach h v a → n ≤ a

section Making

variable {h h' : Heap} {K K' : Set Nat} {v : Value} {j : Json} {n : Nat}

theorem Closed.reach (closed : Closed h K) {a : Nat} (reach : Reach h v a) (is : v.In K) : a ∈ K := by
  induction reach with
  | self => exact is
  | into here mem _ ih => exact ih (closed _ is _ here _ mem)

theorem Value.In.mono (sub : K ⊆ K') (is : v.In K) : v.In K' := by
  cases v with
  | ref a => exact sub is
  | null => trivial
  | bool b => trivial
  | num n => trivial
  | str s => trivial

theorem Closed.union (closed : Closed h K) (closed' : Closed h K') : Closed h (K ∪ K') := by
  rintro a (mem | mem) cell here w refers
  · exact (closed a mem cell here w refers).mono Set.subset_union_left
  · exact (closed' a mem cell here w refers).mono Set.subset_union_right

theorem closed_reach (h : Heap) (v : Value) : Closed h {a | Reach h v a} := by
  intro a mem cell here w refers
  induction mem with
  | self a =>
      cases w with
      | ref b => exact .into here refers (.self b)
      | null => trivial
      | bool b => trivial
      | num n => trivial
      | str s => trivial
  | into above in_ reach ih =>
      cases w with
      | ref b => exact .into above in_ (ih here)
      | null => trivial
      | bool b => trivial
      | num n => trivial
      | str s => trivial

/-- A new object refers to what its maker has. -/
theorem Closed.push {cell : Cell} (closed : Closed h K) (own : ∀ v ∈ cell.values, v.In K) :
    Closed (h ++ [cell]) K := by
  intro a mem other here
  rw [List.getElem?_append] at here
  split at here
  · exact closed a mem other here
  · obtain rfl := List.mem_singleton.mp (List.mem_of_getElem? here)
    exact own

theorem Closed.set {cell : Cell} {a : Nat} (closed : Closed h K) (own : ∀ v ∈ cell.values, v.In K) :
    Closed (h.set a cell) K := by
  intro b mem other here
  rw [List.getElem?_set] at here
  split at here
  · split at here
    · obtain rfl := Option.some.inj here
      exact own
    · cases here
  · exact closed b mem other here

/-- A value that stands for one reaches no object that is not there. -/
theorem Reads.live (reads : Reads h v j) {a : Nat} (reach : Reach h v a) : a < h.length := by
  obtain ⟨depth, found⟩ := reads
  replace found : (read h depth v).isSome := by
    rw [found]
    rfl
  induction reach generalizing depth with
  | self a => exact Finset.mem_range.mp (Finset.mem_filter.mp (isSome_read_ref_iff.mp found)).1
  | into here mem _ ih =>
      cases depth with
      | zero => cases found
      | succ depth =>
          obtain ⟨cell, here', each⟩ := isSome_read_ref.mp found
          obtain rfl := Option.some.inj (here.symm.trans here')
          exact ih depth (each _ mem)

theorem Reads.extend (le : h <+: h') (reads : Reads h v j) : Reads h' v j := by
  obtain ⟨rest, rfl⟩ := le
  exact reads.of_agree fun a reach => List.getElem?_append_left (reads.live reach)

theorem Closed.of_agree (closed : Closed h K) (agree : ∀ a ∈ K, h'[a]? = h[a]?) : Closed h' K := by
  intro a mem cell here
  rw [agree a mem] at here
  exact closed a mem cell here

theorem in_reach (h : Heap) (v : Value) : v.In {a | Reach h v a} := by
  cases v with
  | ref a => exact .self a
  | null => trivial
  | bool b => trivial
  | num n => trivial
  | str s => trivial

/-- What a value reaches depends on the objects that it reaches, and on no other. -/
theorem Reach.of_agree {a : Nat} (agree : ∀ a, Reach h v a → h'[a]? = h[a]?) (reach : Reach h' v a) :
    Reach h v a :=
  ((closed_reach h v).of_agree agree).reach reach (in_reach h v)

theorem Closed.apart (closed : Closed h {a | n ≤ a}) (is : v.In {a | n ≤ a}) : Apart h n v :=
  fun _ reach => closed.reach reach is

theorem closed_length (h : Heap) : Closed h {a | h.length ≤ a} := by
  intro a past cell here
  rw [List.getElem?_eq_none past] at here
  cases here

/-- What a value reaches is no deeper than the value. -/
theorem isSome_read_of_reach {depth a : Nat} (found : (read h depth v).isSome) (reach : Reach h v a) :
    (read h depth (.ref a)).isSome := by
  induction reach generalizing depth with
  | self a => exact found
  | into here mem _ ih =>
      cases depth with
      | zero => cases found
      | succ depth =>
          obtain ⟨cell, here', each⟩ := isSome_read_ref.mp found
          obtain rfl := Option.some.inj (here.symm.trans here')
          exact isSome_read_of_within (within_mono depth.le_succ) (ih (each _ mem))

/-- An object that stands for a value is not reached from itself. -/
theorem Reads.acyclic {a : Nat} {cell : Cell} (reads : Reads h (.ref a) j) (here : h[a]? = some cell)
    (mem : v ∈ cell.values) : ¬ Reach h v a := by
  intro reach
  have deep : ∃ depth, (read h depth (.ref a)).isSome := by
    obtain ⟨depth, found⟩ := reads
    exact ⟨depth, by rw [found]; rfl⟩
  classical
  have least := Nat.find_spec deep
  cases first : Nat.find deep with
  | zero =>
      rw [first] at least
      cases least
  | succ depth =>
      rw [first] at least
      obtain ⟨cell', here', each⟩ := isSome_read_ref.mp least
      obtain rfl := Option.some.inj (here.symm.trans here')
      exact Nat.find_min deep (m := depth) (by omega) (isSome_read_of_reach (each v mem) reach)

/-! #### Assignment -/

/-- The own property of an object. -/
def property (h : Heap) (record : Value) (key : String) : Option Value :=
  match record with
  | .ref a =>
      match h[a]? with
      | some (.obj fields) => OrderedMap.lookup key fields
      | _ => none
  | _ => none

/-- `record[key] = v`. -/
def assign (h : Heap) (record : Value) (key : String) (v : Value) : Heap :=
  match record with
  | .ref a =>
      match h[a]? with
      | some (.obj fields) => h.set a (.obj (OrderedMap.store key v fields))
      | _ => h
  | _ => h

/-- The properties of an object stand for those of its value, each by the same name. -/
def ReadsFields (h : Heap) : List (String × Value) → List (String × Json) → Prop :=
  List.Forall₂ fun f g => f.1 = g.1 ∧ Reads h f.2 g.2

theorem readsFields_of_mapM {depth : Nat} {fields : List (String × Value)} {values : List (String × Json)}
    (each : fields.mapM (fun f => (read h depth f.2).map (f.1, ·)) = some values) : ReadsFields h fields values := by
  induction fields generalizing values with
  | nil =>
      obtain rfl := Option.some.inj each
      exact .nil
  | cons f fields ih =>
      simp only [List.mapM_cons, Option.bind_eq_bind, Option.bind_eq_some_iff] at each
      obtain ⟨g, one, rest, others, made⟩ := each
      obtain ⟨value, deep, rfl⟩ := Option.map_eq_some_iff.mp one
      obtain rfl := Option.some.inj made
      exact .cons ⟨rfl, depth, deep⟩ (ih others)

theorem ReadsFields.mapM {fields : List (String × Value)} {values : List (String × Json)}
    (each : ReadsFields h fields values) :
    ∃ depth, fields.mapM (fun f => (read h depth f.2).map (f.1, ·)) = some values := by
  induction each with
  | nil => exact ⟨0, rfl⟩
  | cons one _ ih =>
      obtain ⟨key, depth, one⟩ := one
      obtain ⟨depth', others⟩ := ih
      refine ⟨max depth depth', ?_⟩
      have one := read_le (Nat.le_max_left depth depth') one
      have others := mapM_member_le (Nat.le_max_right depth depth') others
      simp [List.mapM_cons, one, others, key]

/-- An object stands for a value where its properties do. -/
theorem reads_obj {a : Nat} {fields : List (String × Value)} {values : List (String × Json)}
    (here : h[a]? = some (.obj fields)) : Reads h (.ref a) (.obj values) ↔ ReadsFields h fields values := by
  constructor
  · rintro ⟨depth, found⟩
    cases depth with
    | zero => cases found
    | succ depth =>
        simp only [read, here, Option.map_eq_some_iff] at found
        obtain ⟨values', each, same⟩ := found
        obtain rfl := Json.obj.inj same
        exact readsFields_of_mapM each
  · intro each
    obtain ⟨depth, each⟩ := each.mapM
    refine ⟨depth + 1, ?_⟩
    simp only [read, here, each, Option.map_some]

theorem Reads.object {values : List (String × Json)} (reads : Reads h v (.obj values)) :
    ∃ a fields, v = .ref a ∧ h[a]? = some (.obj fields) ∧ ReadsFields h fields values := by
  obtain ⟨depth, found⟩ := reads
  cases v with
  | ref a =>
      cases depth with
      | zero => cases found
      | succ depth =>
          have found' := found
          simp only [read] at found'
          cases here : h[a]? with
          | none => simp [here] at found'
          | some cell =>
              cases cell with
              | arr items => simp [here] at found'
              | obj fields => exact ⟨a, fields, rfl, here, (reads_obj here).mp ⟨_, found⟩⟩
  | null => cases depth <;> cases found
  | bool b => cases depth <;> cases found
  | num n => cases depth <;> cases found
  | str s => cases depth <;> cases found

/-- Only a text stands for a text. -/
theorem Reads.text {s : String} (reads : Reads h v (.str s)) : v = .str s := by
  obtain ⟨depth, found⟩ := reads
  cases v with
  | str t => cases depth <;> cases found <;> rfl
  | null => cases depth <;> cases found
  | bool b => cases depth <;> cases found
  | num n => cases depth <;> cases found
  | ref a =>
      exfalso
      cases depth with
      | zero => cases found
      | succ depth =>
          simp only [read] at found
          split at found
          · cases found
          · obtain ⟨_, -, made⟩ := Option.map_eq_some_iff.mp found
            cases made
          · obtain ⟨_, -, made⟩ := Option.map_eq_some_iff.mp found
            cases made

theorem ReadsFields.lookup {fields : List (String × Value)} {values : List (String × Json)}
    (each : ReadsFields h fields values) (key : String) :
    Option.Rel (Reads h) (OrderedMap.lookup key fields) (OrderedMap.lookup key values) := by
  induction each with
  | nil => exact .none
  | @cons f g _ _ one _ ih =>
      obtain ⟨k, w⟩ := f
      obtain ⟨k', w'⟩ := g
      obtain ⟨rfl, one⟩ := one
      simp only [OrderedMap.lookup]
      split
      · exact .some one
      · exact ih

theorem ReadsFields.store {fields : List (String × Value)} {values : List (String × Json)} {key : String}
    (each : ReadsFields h fields values) (own : Reads h v j) :
    ReadsFields h (OrderedMap.store key v fields) (OrderedMap.store key j values) := by
  induction each with
  | nil => exact .cons ⟨rfl, own⟩ .nil
  | @cons f g _ _ one rest ih =>
      obtain ⟨k, w⟩ := f
      obtain ⟨k', w'⟩ := g
      obtain ⟨rfl, one⟩ := one
      simp only [OrderedMap.store]
      split
      · exact .cons ⟨rfl, own⟩ rest
      · exact .cons ⟨rfl, one⟩ ih

theorem ReadsFields.frame {fields : List (String × Value)} {values : List (String × Json)}
    (each : ReadsFields h fields values) (keep : ∀ f ∈ fields, ∀ k, Reads h f.2 k → Reads h' f.2 k) :
    ReadsFields h' fields values := by
  induction each with
  | nil => exact .nil
  | cons one _ ih =>
      exact .cons ⟨one.1, keep _ List.mem_cons_self _ one.2⟩
        (ih fun f mem => keep f (List.mem_cons_of_mem _ mem))

/-- An assignment changes what the object stands for, and nothing that does not reach it. -/
theorem Reads.assign {a : Nat} {values : List (String × Json)} {key : String}
    (reads : Reads h (.ref a) (.obj values)) (own : Reads h v j) (apart : ¬ Reach h v a) :
    Reads (assign h (.ref a) key v) (.ref a) (.obj (OrderedMap.store key j values)) := by
  obtain ⟨b, fields, same, here, each⟩ := reads.object
  obtain rfl := Value.ref.inj same
  have frame : ∀ {w k}, Reads h w k → ¬ Reach h w a →
      Reads (h.set a (.obj (OrderedMap.store key v fields))) w k := by
    intro w k reads free
    refine reads.of_agree fun b reach => List.getElem?_set_ne ?_
    rintro rfl
    exact free reach
  have there : (h.set a (.obj (OrderedMap.store key v fields)))[a]? =
      some (.obj (OrderedMap.store key v fields)) := by
    rw [List.getElem?_set_self (List.getElem?_eq_some_iff.mp here).choose]
  have framed : ReadsFields (h.set a (.obj (OrderedMap.store key v fields))) fields values := by
    refine each.frame fun f mem k one => frame one ?_
    exact reads.acyclic here (List.mem_map_of_mem mem)
  simp only [Objects.assign, here]
  exact (reads_obj there).mpr (framed.store (frame own apart))

/-! #### A clone -/

theorem shift_in (n : Nat) (v : Value) : (v.shift n).In {a | n ≤ a} := by
  cases v with
  | ref a => exact Nat.le_add_right n a
  | null => trivial
  | bool b => trivial
  | num n => trivial
  | str s => trivial

theorem values_shift (n : Nat) (cell : Cell) : (cell.shift n).values = cell.values.map (Value.shift n) := by
  cases cell with
  | arr items => rfl
  | obj fields => simp [Cell.shift, Cell.values, Function.comp_def]

theorem getElem?_clone (h : Heap) (a : Nat) :
    (h ++ h.map (Cell.shift h.length))[h.length + a]? = (h[a]?).map (Cell.shift h.length) := by
  rw [List.getElem?_append_right (Nat.le_add_right _ _), Nat.add_sub_cancel_left, List.getElem?_map]

/-- A clone stands for the same value. -/
theorem read_structuredClone (h : Heap) : ∀ {depth : Nat} {v : Value},
    read (structuredClone h v).1 depth (structuredClone h v).2 = read h depth v := by
  intro depth
  induction depth with
  | zero =>
      intro v
      cases v <;> rfl
  | succ depth ih =>
      intro v
      cases v with
      | ref a =>
          simp only [structuredClone, Value.shift, read, getElem?_clone]
          simp only [structuredClone] at ih
          cases h[a]? with
          | none => rfl
          | some cell =>
              cases cell with
              | arr items => simp only [Option.map_some, Cell.shift, List.mapM_map, Function.comp_def, ih]
              | obj fields => simp only [Option.map_some, Cell.shift, List.mapM_map, Function.comp_def, ih]
      | null => rfl
      | bool b => rfl
      | num n => rfl
      | str s => rfl

/-- A clone reaches no object that was there before. -/
theorem apart_structuredClone (h : Heap) (v : Value) :
    Apart (structuredClone h v).1 h.length (structuredClone h v).2 := by
  refine Closed.apart ?_ (shift_in h.length v)
  intro a past cell here w mem
  obtain ⟨b, rfl⟩ := Nat.exists_eq_add_of_le past
  rw [structuredClone, getElem?_clone] at here
  obtain ⟨original, -, rfl⟩ := Option.map_eq_some_iff.mp here
  rw [values_shift] at mem
  obtain ⟨w, -, rfl⟩ := List.mem_map.mp mem
  exact shift_in h.length w

theorem structuredClone_extends (h : Heap) (v : Value) : h <+: (structuredClone h v).1 :=
  List.prefix_append _ _

/-! #### Objects that are read from a text -/

mutual
theorem allocate_extends : ∀ (h : Heap) (j : Json), h <+: (allocate h j).1
  | _, .null | _, .bool _ | _, .num _ | _, .str _ => List.prefix_refl _
  | h, .arr items => (allocateItems_extends h items).trans (List.prefix_append _ _)
  | h, .obj fields => (allocateFields_extends h fields).trans (List.prefix_append _ _)

theorem allocateItems_extends : ∀ (h : Heap) (items : List Json), h <+: (allocateItems h items).1
  | _, [] => List.prefix_refl _
  | h, item :: rest => (allocate_extends h item).trans (allocateItems_extends _ rest)

theorem allocateFields_extends : ∀ (h : Heap) (fields : List (String × Json)), h <+: (allocateFields h fields).1
  | _, [] => List.prefix_refl _
  | h, (_, value) :: rest => (allocate_extends h value).trans (allocateFields_extends _ rest)
end

mutual
theorem allocate_closed : ∀ (h : Heap) (j : Json), Closed h {a | n ≤ a} → n ≤ h.length →
    Closed (allocate h j).1 {a | n ≤ a} ∧ (allocate h j).2.In {a | n ≤ a}
  | _, .null, closed, _ | _, .bool _, closed, _ | _, .num _, closed, _ | _, .str _, closed, _ =>
      ⟨closed, trivial⟩
  | h, .arr items, closed, le => by
      obtain ⟨inner, each⟩ := allocateItems_closed h items closed le
      exact ⟨inner.push each, le.trans (allocateItems_extends h items).length_le⟩
  | h, .obj fields, closed, le => by
      obtain ⟨inner, each⟩ := allocateFields_closed h fields closed le
      exact ⟨inner.push each, le.trans (allocateFields_extends h fields).length_le⟩

theorem allocateItems_closed : ∀ (h : Heap) (items : List Json), Closed h {a | n ≤ a} → n ≤ h.length →
    Closed (allocateItems h items).1 {a | n ≤ a} ∧ ∀ v ∈ (allocateItems h items).2, v.In {a | n ≤ a}
  | _, [], closed, _ => ⟨closed, by simp [allocateItems]⟩
  | h, item :: rest, closed, le => by
      obtain ⟨inner, one⟩ := allocate_closed h item closed le
      obtain ⟨others, each⟩ := allocateItems_closed _ rest inner (le.trans (allocate_extends h item).length_le)
      exact ⟨others, List.forall_mem_cons.mpr ⟨one, each⟩⟩

theorem allocateFields_closed : ∀ (h : Heap) (fields : List (String × Json)), Closed h {a | n ≤ a} →
    n ≤ h.length → Closed (allocateFields h fields).1 {a | n ≤ a} ∧
      ∀ v ∈ (allocateFields h fields).2.map Prod.snd, v.In {a | n ≤ a}
  | _, [], closed, _ => ⟨closed, by simp [allocateFields]⟩
  | h, (_, value) :: rest, closed, le => by
      obtain ⟨inner, one⟩ := allocate_closed h value closed le
      obtain ⟨others, each⟩ := allocateFields_closed _ rest inner (le.trans (allocate_extends h value).length_le)
      exact ⟨others, List.forall_mem_cons.mpr ⟨one, each⟩⟩
end

mutual
theorem allocate_reads : ∀ (h : Heap) (j : Json), Reads (allocate h j).1 (allocate h j).2 j
  | _, .null | _, .bool _ | _, .num _ | _, .str _ => ⟨0, rfl⟩
  | h, .arr items => by
      obtain ⟨depth, each⟩ := allocateItems_reads h items [.arr (allocateItems h items).2]
      refine ⟨depth + 1, ?_⟩
      simp [read, allocate, each]
  | h, .obj fields => by
      obtain ⟨depth, each⟩ := allocateFields_reads h fields [.obj (allocateFields h fields).2]
      refine ⟨depth + 1, ?_⟩
      simp [read, allocate, each]

theorem allocateItems_reads : ∀ (h : Heap) (items : List Json) (more : List Cell), ∃ depth,
    (allocateItems h items).2.mapM (read ((allocateItems h items).1 ++ more) depth) = some items
  | _, [], _ => ⟨0, rfl⟩
  | h, item :: rest, more => by
      have le : (allocate h item).1 <+: (allocateItems h (item :: rest)).1 ++ more :=
        (allocateItems_extends _ rest).trans (List.prefix_append _ _)
      obtain ⟨depth, one⟩ := (allocate_reads h item).extend le
      obtain ⟨depth', others⟩ := allocateItems_reads (allocate h item).1 rest more
      refine ⟨max depth depth', ?_⟩
      have one := read_le (Nat.le_max_left depth depth') one
      have others := mapM_le (fun _ _ _ => read_le (Nat.le_max_right depth depth')) others
      simp only [allocateItems] at one ⊢
      simp [List.mapM_cons, one, others]

theorem allocateFields_reads : ∀ (h : Heap) (fields : List (String × Json)) (more : List Cell), ∃ depth,
    (allocateFields h fields).2.mapM (fun f => (read ((allocateFields h fields).1 ++ more) depth f.2).map (f.1, ·)) =
      some fields
  | _, [], _ => ⟨0, rfl⟩
  | h, (key, value) :: rest, more => by
      have le : (allocate h value).1 <+: (allocateFields h ((key, value) :: rest)).1 ++ more :=
        (allocateFields_extends _ rest).trans (List.prefix_append _ _)
      obtain ⟨depth, one⟩ := (allocate_reads h value).extend le
      obtain ⟨depth', others⟩ := allocateFields_reads (allocate h value).1 rest more
      refine ⟨max depth depth', ?_⟩
      have one := read_le (Nat.le_max_left depth depth') one
      have others := mapM_member_le (Nat.le_max_right depth depth') others
      simp only [allocateFields] at one ⊢
      simp [List.mapM_cons, one, others]
end

theorem apart_allocate (h : Heap) (j : Json) : Apart (allocate h j).1 h.length (allocate h j).2 := by
  obtain ⟨closed, is⟩ := allocate_closed h j (closed_length h) le_rfl
  exact closed.apart is

end Making

end Objects
