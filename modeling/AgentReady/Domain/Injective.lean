import AgentReady.Domain.Canonical
import AgentReady.Lib.JsonText

/-!
The canonical text of a value determines the value, up to the order of object keys.

* `Json.Matches`: equality up to the order of keys, at every depth.
* `canonicalize_eq_iff`: two writable values have one canonical text when they match.
* `canonicalText_injective`: an envelope is determined by its canonical text.
-/

namespace Json

mutual
/-- Equality up to the order of object keys, at every depth. -/
def Matches : Json → Json → Prop
  | .null, .null => True
  | .bool a, .bool b => a = b
  | .num a, .num b => a = b
  | .str a, .str b => a = b
  | .arr as, .arr bs => MatchesItems as bs
  | .obj as, .obj bs => as.length = bs.length ∧ MatchesFields as bs
  | _, _ => False

def MatchesItems : List Json → List Json → Prop
  | [], [] => True
  | a :: as, b :: bs => Matches a b ∧ MatchesItems as bs
  | _, _ => False

/-- Every field is one of the others, under its key. -/
def MatchesFields : List (String × Json) → List (String × Json) → Prop
  | [], _ => True
  | (key, a) :: as, bs => (∃ b, field? bs key = some b ∧ Matches a b) ∧ MatchesFields as bs
end

@[simp] theorem matches_str {s : String} {b : Json} : (str s).Matches b ↔ b = .str s := by
  cases b <;> simp [Matches, eq_comm]

@[simp] theorem matches_num {n : Number} {b : Json} : (num n).Matches b ↔ b = .num n := by
  cases b <;> simp [Matches, eq_comm]

@[simp] theorem matches_obj {as bs : List (String × Json)} :
    (obj as).Matches (.obj bs) ↔ as.length = bs.length ∧ MatchesFields as bs := Iff.rfl

@[simp] theorem matchesFields_nil (bs : List (String × Json)) : MatchesFields [] bs := trivial

@[simp] theorem matchesFields_cons {key : String} {a : Json} {as bs : List (String × Json)} :
    MatchesFields ((key, a) :: as) bs ↔
      (∃ b, field? bs key = some b ∧ a.Matches b) ∧ MatchesFields as bs := Iff.rfl

theorem writableFields_iff : ∀ {fields : List (String × Json)},
    WritableFields fields ↔ ∀ f ∈ fields, f.2.Writable
  | [] => by simp [WritableFields]
  | (key, value) :: rest => by simp [WritableFields, writableFields_iff]

theorem writableItems_iff : ∀ {items : List Json}, WritableItems items ↔ ∀ i ∈ items, i.Writable
  | [] => by simp [WritableItems]
  | item :: rest => by simp [WritableItems, writableItems_iff]

theorem mem_of_field? {key : String} {value : Json} : ∀ {fields : List (String × Json)},
    field? fields key = some value → (key, value) ∈ fields
  | (k, v) :: rest, found => by
      unfold field? at found
      split at found
      · rename_i same
        rw [← same, Option.some.inj found]
        exact List.mem_cons_self
      · exact List.mem_cons_of_mem _ (mem_of_field? found)

theorem field?_eq_none {key : String} : ∀ {fields : List (String × Json)},
    field? fields key = none ↔ key ∉ fields.map Prod.fst
  | [] => by simp [field?]
  | (k, v) :: rest => by
      by_cases same : k = key
      · simp [field?, same]
      · simp only [field?, if_neg same, field?_eq_none, List.map_cons, List.mem_cons, not_or]
        exact ⟨fun absent => ⟨Ne.symm same, absent⟩, And.right⟩

theorem field?_of_mem {key : String} {value : Json} : ∀ {fields : List (String × Json)},
    (fields.map Prod.fst).Nodup → (key, value) ∈ fields → field? fields key = some value
  | (k, v) :: rest, nodup, mem => by
      simp only [List.map_cons, List.nodup_cons] at nodup
      rcases List.mem_cons.mp mem with same | mem
      · obtain ⟨rfl, rfl⟩ := Prod.mk.inj same
        simp [field?]
      · have other : k ≠ key := by
          rintro rfl
          exact nodup.1 (List.mem_map_of_mem (f := Prod.fst) mem)
        rw [field?, if_neg other]
        exact field?_of_mem nodup.2 mem

end Json

namespace AgentReady

open Json

/-! ### Keys -/

theorem utf16_injective {c c' : Char} {rest rest' : List Nat} (same : utf16 c ++ rest = utf16 c' ++ rest') :
    c = c' ∧ rest = rest' := by
  have range : ∀ c : Char, c.toNat < 0xD800 ∨ (0xDFFF < c.toNat ∧ c.toNat < 0x110000) := fun c => c.valid
  have valid := range c
  have valid' := range c'
  unfold utf16 at same
  split at same <;> split at same
  all_goals simp only [List.cons_append, List.nil_append, List.cons.injEq] at same
  · exact ⟨Char.toNat_inj.mp same.1, same.2⟩
  · omega
  · omega
  · obtain ⟨high, low, rest⟩ := same
    exact ⟨Char.toNat_inj.mp (by omega), rest⟩

theorem codeUnits_injective {s s' : String} (same : codeUnits s = codeUnits s') : s = s' := by
  have chars : ∀ cs cs' : List Char, cs.flatMap utf16 = cs'.flatMap utf16 → cs = cs' := by
    intro cs
    induction cs with
    | nil =>
        rintro (_ | ⟨c', cs'⟩) same
        · rfl
        · simp only [List.flatMap_nil, List.flatMap_cons, utf16] at same
          split at same <;> cases same
    | cons c cs ih =>
        rintro (_ | ⟨c', cs'⟩) same
        · simp only [List.flatMap_nil, List.flatMap_cons, utf16] at same
          split at same <;> cases same
        · simp only [List.flatMap_cons] at same
          obtain ⟨rfl, rest⟩ := utf16_injective same
          rw [ih cs' rest]
  exact String.toList_inj.mp (chars _ _ same)

theorem unitsLe_total : ∀ us vs : List Nat, unitsLe us vs = true ∨ unitsLe vs us = true
  | [], _ => .inl rfl
  | _ :: _, [] => .inr rfl
  | u :: us, v :: vs => by
      rcases Nat.lt_trichotomy u v with less | rfl | less
      · simp [unitsLe, less]
      · simpa [unitsLe] using unitsLe_total us vs
      · simp [unitsLe, less]

theorem unitsLe_trans : ∀ {us vs ws : List Nat}, unitsLe us vs = true → unitsLe vs ws = true →
    unitsLe us ws = true
  | [], _, _, _, _ => rfl
  | _ :: _, [], _, le, _ => by cases le
  | _ :: _, _ :: _, [], _, le => by cases le
  | u :: us, v :: vs, w :: ws, le, le' => by
      simp only [unitsLe, Bool.or_eq_true, Bool.and_eq_true, decide_eq_true_eq] at *
      rcases le with less | ⟨rfl, le⟩
      · exact .inl (by omega)
      · rcases le' with less | ⟨rfl, le'⟩
        · exact .inl less
        · exact .inr ⟨rfl, unitsLe_trans le le'⟩

theorem unitsLe_antisymm : ∀ {us vs : List Nat}, unitsLe us vs = true → unitsLe vs us = true → us = vs
  | [], [], _, _ => rfl
  | [], _ :: _, _, le => by cases le
  | _ :: _, [], le, _ => by cases le
  | u :: us, v :: vs, le, le' => by
      simp only [unitsLe, Bool.or_eq_true, Bool.and_eq_true, decide_eq_true_eq] at le le'
      have head : u = v := by omega
      subst head
      rw [unitsLe_antisymm (le.resolve_left (lt_irrefl u)).2 (le'.resolve_left (lt_irrefl u)).2]

instance : Std.Total byKey := ⟨fun a b => unitsLe_total (codeUnits a.1) (codeUnits b.1)⟩

instance : IsTrans (String × String) byKey := ⟨fun _ _ _ => unitsLe_trans⟩

/-- Members under distinct keys are sorted in one way. -/
theorem sort_eq_of_perm {as bs : List (String × String)} (nodup : (as.map Prod.fst).Nodup)
    (perm : as.Perm bs) : as.insertionSort byKey = bs.insertionSort byKey := by
  have sorted : ∀ l : List (String × String), (l.insertionSort byKey).Pairwise byKey :=
    fun l => List.pairwise_insertionSort byKey l
  have perms : (as.insertionSort byKey).Perm (bs.insertionSort byKey) :=
    ((List.perm_insertionSort byKey as).trans perm).trans (List.perm_insertionSort byKey bs).symm
  refine perms.eq_of_pairwise (fun a b mem mem' le ge => ?_) (sorted as) (sorted bs)
  have key : a.1 = b.1 := codeUnits_injective (unitsLe_antisymm le ge)
  have own := (List.mem_insertionSort byKey).mp mem
  have own' := perm.mem_iff.mpr ((List.mem_insertionSort byKey).mp mem')
  exact List.inj_on_of_nodup_map nodup own own' key

/-! ### Canonical texts -/

theorem toList_joinWith : ∀ texts : List String,
    (joinWith "," texts).toList = joined ',' (texts.map String.toList)
  | [] => rfl
  | [text] => by simp [joinWith, joined]
  | text :: next :: rest => by
      simp [joinWith, toList_joinWith (next :: rest), joined]

theorem canonicalizeItems_iff : ∀ {items : List Json} {parts : List String},
    canonicalizeItems items = .ok parts ↔ List.Forall₂ (fun item part => canonicalize item = .ok part) items parts
  | [], parts => by
      rw [canonicalizeItems, List.forall₂_nil_left_iff]
      simp [eq_comm]
  | item :: rest, parts => by
      rw [canonicalizeItems, List.forall₂_cons_left_iff]
      cases head : canonicalize item with
      | error e => simp [bind, Except.bind]
      | ok text =>
          have tails := @canonicalizeItems_iff rest
          cases tail : canonicalizeItems rest with
          | error e =>
              simp only [tail, reduceCtorEq, false_iff] at tails
              simp [bind, Except.bind, tails]
          | ok texts =>
              simp only [tail, Except.ok.injEq] at tails
              simp [bind, Except.bind, pure, Except.pure, ← tails, eq_comm]

theorem canonicalizeFields_iff : ∀ {fields : List (String × Json)} {parts : List (String × String)},
    canonicalizeFields fields = .ok parts ↔
      List.Forall₂ (fun f p => f.1 = p.1 ∧ canonicalize f.2 = .ok p.2) fields parts
  | [], parts => by
      rw [canonicalizeFields, List.forall₂_nil_left_iff]
      simp [eq_comm]
  | (key, value) :: rest, parts => by
      rw [canonicalizeFields, List.forall₂_cons_left_iff]
      cases head : canonicalize value with
      | error e => simp [bind, Except.bind]
      | ok text =>
          have tails := @canonicalizeFields_iff rest
          cases tail : canonicalizeFields rest with
          | error e =>
              simp only [tail, reduceCtorEq, false_iff] at tails
              simp [bind, Except.bind, tails]
          | ok texts =>
              simp only [tail, Except.ok.injEq] at tails
              simp [bind, Except.bind, pure, Except.pure, ← tails, eq_comm]

/-- The text of an object with the members given, sorted by key. -/
def objectText (parts : List (String × String)) : String :=
  "\x7b" ++ joinWith "," ((parts.insertionSort byKey).map fun p => Json.quote p.1 ++ ":" ++ p.2) ++ "\x7d"

theorem canonicalize_arr {items : List Json} {text : String} :
    canonicalize (.arr items) = .ok text ↔ ∃ parts,
      List.Forall₂ (fun item part => canonicalize item = .ok part) items parts ∧
        text = "[" ++ joinWith "," parts ++ "]" := by
  simp only [← canonicalizeItems_iff]
  rw [canonicalize]
  cases canonicalizeItems items with
  | error e => simp [bind, Except.bind]
  | ok parts => simp [bind, Except.bind, pure, Except.pure, eq_comm]

theorem canonicalize_obj {fields : List (String × Json)} {text : String} :
    canonicalize (.obj fields) = .ok text ↔ ∃ parts,
      List.Forall₂ (fun f p => f.1 = p.1 ∧ canonicalize f.2 = .ok p.2) fields parts ∧
        text = objectText parts := by
  simp only [← canonicalizeFields_iff]
  rw [canonicalize]
  cases canonicalizeFields fields with
  | error e => simp [bind, Except.bind]
  | ok parts => simp [bind, Except.bind, pure, Except.pure, eq_comm, objectText]

mutual
/-- A writable value has a canonical text. -/
theorem canonicalize_total : ∀ a : Json, a.Writable → ∃ text, canonicalize a = .ok text
  | .null, _ => ⟨_, rfl⟩
  | .bool _, _ => ⟨_, rfl⟩
  | .str _, _ => ⟨_, rfl⟩
  | .num (.finite _), _ => ⟨_, rfl⟩
  | .num (.infinite _), writable => writable.elim
  | .arr items, writable => by
      obtain ⟨parts, texts⟩ := canonicalizeItems_total items writable
      exact ⟨_, canonicalize_arr.mpr ⟨parts, canonicalizeItems_iff.mp texts, rfl⟩⟩
  | .obj fields, writable => by
      obtain ⟨parts, texts⟩ := canonicalizeFields_total fields writable.2
      exact ⟨_, canonicalize_obj.mpr ⟨parts, canonicalizeFields_iff.mp texts, rfl⟩⟩

theorem canonicalizeItems_total : ∀ items : List Json, WritableItems items →
    ∃ parts, canonicalizeItems items = .ok parts
  | [], _ => ⟨_, rfl⟩
  | item :: rest, writable => by
      obtain ⟨text, head⟩ := canonicalize_total item writable.1
      obtain ⟨parts, tail⟩ := canonicalizeItems_total rest writable.2
      exact ⟨text :: parts, by simp [canonicalizeItems, head, tail, bind, Except.bind, pure, Except.pure]⟩

theorem canonicalizeFields_total : ∀ fields : List (String × Json), WritableFields fields →
    ∃ parts, canonicalizeFields fields = .ok parts
  | [], _ => ⟨_, rfl⟩
  | (key, value) :: rest, writable => by
      obtain ⟨text, head⟩ := canonicalize_total value writable.1
      obtain ⟨parts, tail⟩ := canonicalizeFields_total rest writable.2
      exact ⟨(key, text) :: parts, by
        simp [canonicalizeFields, head, tail, bind, Except.bind, pure, Except.pure]⟩
end

/-- A member as its characters. -/
def chars (p : String × String) : String × List Char := (p.1, p.2.toList)

theorem chars_injective {p p' : String × String} (same : chars p = chars p') : p = p' := by
  obtain ⟨key, value⟩ := Prod.mk.inj same
  exact Prod.ext key (String.toList_inj.mp value)

theorem toList_arrayText (parts : List String) :
    ("[" ++ joinWith "," parts ++ "]").toList = '[' :: (joined ',' (parts.map String.toList) ++ [']']) := by
  simp [toList_joinWith]

theorem toList_objectText (parts : List (String × String)) :
    (objectText parts).toList =
      '\x7b' :: (joined ',' (((parts.insertionSort byKey).map chars).map member) ++ ['\x7d']) := by
  simp only [objectText, String.toList_append, toList_joinWith, List.map_map]
  simp [Function.comp_def, member, chars]

mutual
/-- A canonical text is the text of a value. -/
theorem canonicalize_text : ∀ (a : Json) {text : String}, canonicalize a = .ok text → Text text.toList
  | .null, _, wrote => by
      obtain rfl := Except.ok.inj wrote
      exact .atom plain_null (by decide)
  | .bool b, _, wrote => by
      obtain rfl := Except.ok.inj wrote
      exact .atom (plain_bool b) (by cases b <;> decide)
  | .str s, _, wrote => by
      obtain rfl := Except.ok.inj wrote
      exact .quoted s
  | .num (.finite q), _, wrote => by
      obtain rfl := Except.ok.inj wrote
      exact .atom (fun c mem => not_structural_of_plain (Number.mem_render mem)) (Number.render_ne_nil q)
  | .num (.infinite _), _, wrote => by cases wrote
  | .arr items, _, wrote => by
      obtain ⟨parts, texts, rfl⟩ := canonicalize_arr.mp wrote
      rw [toList_arrayText]
      refine .arr fun t mem => ?_
      obtain ⟨part, own, rfl⟩ := List.mem_map.mp mem
      exact canonicalizeItems_text items (canonicalizeItems_iff.mpr texts) part own
  | .obj fields, _, wrote => by
      obtain ⟨parts, texts, rfl⟩ := canonicalize_obj.mp wrote
      rw [toList_objectText]
      refine .obj fun p mem => ?_
      obtain ⟨part, own, rfl⟩ := List.mem_map.mp mem
      exact canonicalizeFields_text fields (canonicalizeFields_iff.mpr texts) part
        ((List.mem_insertionSort byKey).mp own)

theorem canonicalizeItems_text : ∀ (items : List Json) {parts : List String},
    canonicalizeItems items = .ok parts → ∀ part ∈ parts, Text part.toList
  | [], parts, wrote => by
      obtain rfl := Except.ok.inj wrote
      simp
  | item :: rest, parts, wrote => by
      obtain ⟨head, tail, text, texts, rfl⟩ := List.forall₂_cons_left_iff.mp (canonicalizeItems_iff.mp wrote)
      intro part mem
      rcases List.mem_cons.mp mem with rfl | mem
      · exact canonicalize_text item text
      · exact canonicalizeItems_text rest (canonicalizeItems_iff.mpr texts) part mem

theorem canonicalizeFields_text : ∀ (fields : List (String × Json)) {parts : List (String × String)},
    canonicalizeFields fields = .ok parts → ∀ part ∈ parts, Text part.2.toList
  | [], parts, wrote => by
      obtain rfl := Except.ok.inj wrote
      simp
  | (key, value) :: rest, parts, wrote => by
      obtain ⟨head, tail, text, texts, rfl⟩ := List.forall₂_cons_left_iff.mp (canonicalizeFields_iff.mp wrote)
      intro part mem
      rcases List.mem_cons.mp mem with rfl | mem
      · exact canonicalize_text value text.2
      · exact canonicalizeFields_text rest (canonicalizeFields_iff.mpr texts) part mem
end

/-! ### What a text says -/

/-- The kind of a value, by the first character of its text. -/
def kindOf (c : Char) : Nat :=
  if c = 'n' then 0 else if c = 't' ∨ c = 'f' then 1 else if c = '"' then 2 else if c = '[' then 3
  else if c = '\x7b' then 4 else 5

def kind : Json → Nat
  | .null => 0
  | .bool _ => 1
  | .str _ => 2
  | .arr _ => 3
  | .obj _ => 4
  | .num _ => 5

theorem kindOf_plain {c : Char} (plain : Number.IsPlain c) : kindOf c = 5 := by
  have other : ∀ d : Char, ¬ Number.IsPlain d → c ≠ d := by
    rintro d strange rfl
    exact strange plain
  simp [kindOf, other 'n' (by decide), other 't' (by decide), other 'f' (by decide), other '"' (by decide),
    other '[' (by decide), other '\x7b' (by decide)]

theorem kind_text {a : Json} {text : String} (wrote : canonicalize a = .ok text) :
    text.toList.head?.map kindOf = some (kind a) := by
  cases a with
  | null =>
      obtain rfl := Except.ok.inj wrote
      rfl
  | bool b =>
      obtain rfl := Except.ok.inj wrote
      cases b <;> rfl
  | str s =>
      obtain rfl := Except.ok.inj wrote
      rw [toList_quote]
      rfl
  | arr items =>
      obtain ⟨parts, -, rfl⟩ := canonicalize_arr.mp wrote
      rw [toList_arrayText]
      rfl
  | obj fields =>
      obtain ⟨parts, -, rfl⟩ := canonicalize_obj.mp wrote
      rw [toList_objectText]
      rfl
  | num n =>
      cases n with
      | infinite positive => cases wrote
      | finite q =>
          obtain rfl := Except.ok.inj wrote
          obtain ⟨c, rest, begins⟩ := List.exists_cons_of_ne_nil (Number.render_ne_nil q)
          have plain := Number.mem_render (c := c) (by rw [begins]; exact List.mem_cons_self)
          rw [begins]
          exact congrArg some (kindOf_plain plain)

/-- Items with one text have the same texts. -/
theorem arrayText_injective {parts parts' : List String} (texts : ∀ t ∈ parts, Text t.toList)
    (texts' : ∀ t ∈ parts', Text t.toList)
    (same : "[" ++ joinWith "," parts ++ "]" = "[" ++ joinWith "," parts' ++ "]") : parts = parts' := by
  have lists := congrArg String.toList same
  rw [toList_arrayText, toList_arrayText, List.cons.injEq] at lists
  refine List.map_injective_iff.mpr (fun _ _ => String.toList_inj.mp) (items_delimited ?_ ?_ lists.2).1
  · intro t mem
    obtain ⟨part, own, rfl⟩ := List.mem_map.mp mem
    exact ⟨texts part own, (texts part own).delimited⟩
  · intro t mem
    obtain ⟨part, own, rfl⟩ := List.mem_map.mp mem
    exact texts' part own

/-- Members with one text are the same up to their order. -/
theorem objectText_perm {parts parts' : List (String × String)} (texts : ∀ p ∈ parts, Text p.2.toList)
    (texts' : ∀ p ∈ parts', Text p.2.toList) (same : objectText parts = objectText parts') :
    parts.Perm parts' := by
  have lists := congrArg String.toList same
  rw [toList_objectText, toList_objectText, List.cons.injEq] at lists
  have sorted : parts.insertionSort byKey = parts'.insertionSort byKey := by
    refine List.map_injective_iff.mpr (fun _ _ => chars_injective) (members_delimited ?_ ?_ lists.2).1
    · intro p mem
      obtain ⟨part, own, rfl⟩ := List.mem_map.mp mem
      have text := texts part ((List.mem_insertionSort byKey).mp own)
      exact ⟨text, text.delimited⟩
    · intro p mem
      obtain ⟨part, own, rfl⟩ := List.mem_map.mp mem
      exact texts' part ((List.mem_insertionSort byKey).mp own)
  calc parts.Perm (parts.insertionSort byKey) := (List.perm_insertionSort byKey parts).symm
    _ = parts'.insertionSort byKey := sorted
    List.Perm _ parts' := List.perm_insertionSort byKey parts'

theorem mem_right_of_forall₂ {α β : Type} {R : α → β → Prop} {as : List α} {bs : List β}
    (related : List.Forall₂ R as bs) {b : β} (mem : b ∈ bs) : ∃ a ∈ as, R a b := by
  induction related with
  | nil => cases mem
  | cons head _ ih =>
      rcases List.mem_cons.mp mem with rfl | mem
      · exact ⟨_, List.mem_cons_self, head⟩
      · obtain ⟨a, own, related⟩ := ih mem
        exact ⟨a, List.mem_cons_of_mem _ own, related⟩

theorem keys_of_forall₂ {fields : List (String × Json)} {parts : List (String × String)}
    (texts : List.Forall₂ (fun f p => f.1 = p.1 ∧ canonicalize f.2 = .ok p.2) fields parts) :
    fields.map Prod.fst = parts.map Prod.fst := by
  induction texts with
  | nil => rfl
  | cons head _ ih => simp [head.1, ih]

mutual
/-- Values with one canonical text match. -/
theorem matches_of_canonicalize : ∀ (a b : Json) {text : String}, a.Writable → b.Writable →
    canonicalize a = .ok text → canonicalize b = .ok text → a.Matches b
  | .null, b, _, _, _, wrote, wrote' => by
      have same := (kind_text wrote).symm.trans (kind_text wrote')
      cases b <;> simp [kind] at same
      trivial
  | .bool v, b, _, _, _, wrote, wrote' => by
      have same := (kind_text wrote).symm.trans (kind_text wrote')
      obtain ⟨v', rfl⟩ : ∃ v', b = .bool v' := by cases b <;> simp [kind] at same ⊢
      have text := Except.ok.inj (wrote.trans wrote'.symm)
      cases v <;> cases v' <;> first | rfl | exact absurd text (by decide)
  | .str s, b, _, _, _, wrote, wrote' => by
      have same := (kind_text wrote).symm.trans (kind_text wrote')
      cases b <;> simp [kind] at same
      obtain rfl := Except.ok.inj wrote
      have text := congrArg String.toList (Except.ok.inj wrote').symm
      exact (@quote_delimited _ _ [] [] (by rw [text])).1
  | .num n, b, _, writable, writable', wrote, wrote' => by
      have same := (kind_text wrote).symm.trans (kind_text wrote')
      cases b <;> simp [kind] at same
      rename_i n'
      cases n with
      | infinite positive => cases wrote
      | finite q =>
          cases n' with
          | infinite positive => cases wrote'
          | finite q' =>
              obtain rfl := Except.ok.inj wrote
              have text := congrArg String.toList (Except.ok.inj wrote')
              have value := Number.ofText_render writable
              rw [← text, Number.ofText_render writable'] at value
              exact congrArg Number.finite value.symm
  | .arr as, b, _, writable, writable', wrote, wrote' => by
      have same := (kind_text wrote).symm.trans (kind_text wrote')
      cases b <;> simp [kind] at same
      rename_i bs
      obtain ⟨parts, texts, rfl⟩ := canonicalize_arr.mp wrote
      obtain ⟨parts', texts', text⟩ := canonicalize_arr.mp wrote'
      obtain rfl := arrayText_injective (canonicalizeItems_text as (canonicalizeItems_iff.mpr texts))
        (canonicalizeItems_text bs (canonicalizeItems_iff.mpr texts')) text
      exact matchesItems_of_canonicalize as bs writable writable' texts texts'
  | .obj as, b, _, writable, writable', wrote, wrote' => by
      have same := (kind_text wrote).symm.trans (kind_text wrote')
      cases b <;> simp [kind] at same
      rename_i bs
      obtain ⟨parts, texts, rfl⟩ := canonicalize_obj.mp wrote
      obtain ⟨parts', texts', text⟩ := canonicalize_obj.mp wrote'
      have perm := objectText_perm (canonicalizeFields_text as (canonicalizeFields_iff.mpr texts))
        (canonicalizeFields_text bs (canonicalizeFields_iff.mpr texts')) text
      refine ⟨texts.length_eq.trans (perm.length_eq.trans texts'.length_eq.symm), ?_⟩
      refine matchesFields_of_canonicalize as bs texts writable.2 fun p mem => ?_
      obtain ⟨⟨key, b⟩, own, rfl, wrote⟩ := mem_right_of_forall₂ texts' (perm.mem_iff.mp mem)
      exact ⟨b, field?_of_mem writable'.1 own, writableFields_iff.mp writable'.2 _ own, wrote⟩

theorem matchesItems_of_canonicalize : ∀ (as bs : List Json) {parts : List String}, WritableItems as →
    WritableItems bs → List.Forall₂ (fun item part => canonicalize item = .ok part) as parts →
    List.Forall₂ (fun item part => canonicalize item = .ok part) bs parts → MatchesItems as bs
  | [], bs, _, _, _, texts, texts' => by
      obtain rfl := List.forall₂_nil_left_iff.mp texts
      obtain rfl := List.forall₂_nil_right_iff.mp texts'
      trivial
  | a :: as, bs, _, writable, writable', texts, texts' => by
      obtain ⟨text, rest, head, tail, rfl⟩ := List.forall₂_cons_left_iff.mp texts
      obtain ⟨b, bs, head', tail', rfl⟩ := List.forall₂_cons_right_iff.mp texts'
      exact ⟨matches_of_canonicalize a b writable.1 writable'.1 head head',
        matchesItems_of_canonicalize as bs writable.2 writable'.2 tail tail'⟩

theorem matchesFields_of_canonicalize : ∀ (as bs : List (String × Json)) {parts : List (String × String)},
    List.Forall₂ (fun f p => f.1 = p.1 ∧ canonicalize f.2 = .ok p.2) as parts → WritableFields as →
    (∀ p ∈ parts, ∃ b, field? bs p.1 = some b ∧ b.Writable ∧ canonicalize b = .ok p.2) → MatchesFields as bs
  | [], _, _, _, _, _ => trivial
  | (key, a) :: as, bs, _, texts, writable, found => by
      obtain ⟨p, rest, ⟨same, head⟩, tail, rfl⟩ := List.forall₂_cons_left_iff.mp texts
      obtain ⟨b, stored, writable', wrote⟩ := found p List.mem_cons_self
      refine ⟨⟨b, (congrArg (field? bs) same).trans stored, matches_of_canonicalize a b writable.1 writable' head wrote⟩, ?_⟩
      exact matchesFields_of_canonicalize as bs tail writable.2
        fun p mem => found p (List.mem_cons_of_mem _ mem)
end

/-! ### What a text leaves out -/

mutual
/-- Values that match have one canonical text. -/
theorem canonicalize_of_matches : ∀ (a b : Json) {text : String}, a.Writable → b.Writable → a.Matches b →
    canonicalize a = .ok text → canonicalize b = .ok text
  | .null, b, _, _, _, same, wrote => by
      cases b <;> first | exact wrote | exact same.elim
  | .bool v, b, _, _, _, same, wrote => by
      cases b <;> first | exact same.elim | skip
      rw [← show v = _ from same]
      exact wrote
  | .str s, b, _, _, _, same, wrote => by
      cases b <;> first | exact same.elim | skip
      rw [← show s = _ from same]
      exact wrote
  | .num n, b, _, _, _, same, wrote => by
      cases b <;> first | exact same.elim | skip
      rw [← show n = _ from same]
      exact wrote
  | .arr as, b, _, writable, writable', same, wrote => by
      cases b <;> first | exact same.elim | skip
      rename_i bs
      obtain ⟨parts, texts, rfl⟩ := canonicalize_arr.mp wrote
      exact canonicalize_arr.mpr ⟨parts, canonicalizeItems_of_matches as bs writable writable' same texts, rfl⟩
  | .obj as, b, _, writable, writable', same, wrote => by
      cases b <;> first | exact same.elim | skip
      rename_i bs
      obtain ⟨parts, texts, rfl⟩ := canonicalize_obj.mp wrote
      obtain ⟨parts', wrote'⟩ := canonicalizeFields_total bs writable'.2
      have texts' := canonicalizeFields_iff.mp wrote'
      refine canonicalize_obj.mpr ⟨parts', texts', ?_⟩
      have nodup : (parts.map Prod.fst).Nodup := keys_of_forall₂ texts ▸ writable.1
      have nodup' : (parts'.map Prod.fst).Nodup := keys_of_forall₂ texts' ▸ writable'.1
      have among := canonicalizeFields_of_matches as bs texts texts' writable.2 writable' same.2
      have perm : parts.Perm parts' := by
        refine (List.subperm_of_subset nodup.of_map among).perm_of_length_le ?_
        rw [← texts.length_eq, ← texts'.length_eq, same.1]
      unfold objectText
      rw [sort_eq_of_perm nodup perm]

theorem canonicalizeItems_of_matches : ∀ (as bs : List Json) {parts : List String}, WritableItems as →
    WritableItems bs → MatchesItems as bs →
    List.Forall₂ (fun item part => canonicalize item = .ok part) as parts →
    List.Forall₂ (fun item part => canonicalize item = .ok part) bs parts
  | [], [], _, _, _, _, texts => texts
  | [], _ :: _, _, _, _, same, _ => same.elim
  | _ :: _, [], _, _, _, same, _ => same.elim
  | a :: as, b :: bs, _, writable, writable', same, texts => by
      obtain ⟨text, rest, head, tail, rfl⟩ := List.forall₂_cons_left_iff.mp texts
      exact .cons (canonicalize_of_matches a b writable.1 writable'.1 same.1 head)
        (canonicalizeItems_of_matches as bs writable.2 writable'.2 same.2 tail)

theorem canonicalizeFields_of_matches : ∀ (as bs : List (String × Json)) {parts parts' : List (String × String)},
    List.Forall₂ (fun f p => f.1 = p.1 ∧ canonicalize f.2 = .ok p.2) as parts →
    List.Forall₂ (fun f p => f.1 = p.1 ∧ canonicalize f.2 = .ok p.2) bs parts' → WritableFields as →
    (Json.obj bs).Writable → MatchesFields as bs → parts ⊆ parts'
  | [], _, _, _, texts, _, _, _, _ => by
      obtain rfl := List.forall₂_nil_left_iff.mp texts
      exact List.nil_subset _
  | (key, a) :: as, bs, _, parts', texts, texts', writable, writable', same => by
      obtain ⟨⟨key', text⟩, rest, ⟨rfl, head⟩, tail, rfl⟩ := List.forall₂_cons_left_iff.mp texts
      obtain ⟨⟨b, found, matches_⟩, others⟩ := same
      have own := mem_of_field? found
      have wrote := canonicalize_of_matches a b writable.1 (writableFields_iff.mp writable'.2 _ own) matches_ head
      obtain ⟨p, mem, key, text'⟩ := mem_right_of_forall₂ texts'.flip own
      refine List.cons_subset.mpr ⟨?_, canonicalizeFields_of_matches as bs tail texts' writable.2 writable' others⟩
      obtain ⟨k, t⟩ := p
      obtain rfl : _ = k := key
      obtain rfl := Except.ok.inj (wrote.symm.trans text')
      exact mem
end

/-- Two values have one canonical text just where they match. -/
theorem canonicalize_eq_iff {a b : Json} (writable : a.Writable) (writable' : b.Writable) :
    canonicalize a = canonicalize b ↔ a.Matches b := by
  obtain ⟨text, wrote⟩ := canonicalize_total a writable
  constructor
  · intro same
    exact matches_of_canonicalize a b writable writable' wrote (same ▸ wrote)
  · intro same
    rw [wrote, canonicalize_of_matches a b writable writable' same wrote]

/-! ### Envelopes -/

theorem minorJson_writable (n : Int) : (minorJson n).Writable := by
  refine ⟨0, ?_⟩
  simp

theorem minorJson_matches {n n' : Int} (same : (minorJson n).Matches (minorJson n')) : n = n' := by
  have value : ((n : Int) : ℚ) = n' := Number.finite.inj same
  exact_mod_cast value

theorem EnvelopeItem.writable (item : EnvelopeItem) : item.toJson.Writable := by
  simp [EnvelopeItem.toJson, Json.Writable, WritableFields, minorJson_writable]

theorem CommerceEnvelope.writable (e : CommerceEnvelope) : e.toJson.Writable := by
  have items : WritableItems (e.items.map EnvelopeItem.toJson) := by
    refine writableItems_iff.mpr fun i mem => ?_
    obtain ⟨item, -, rfl⟩ := List.mem_map.mp mem
    exact item.writable
  unfold CommerceEnvelope.toJson CommerceEnvelope.toFields
  cases e.buyerAgentId <;> cases e.approvalEventId <;>
    simp [optionalField, Json.Writable, WritableFields, minorJson_writable, items]

/-- What an object holds under a key, a matching one holds too. -/
theorem matches_some {as bs : List (String × Json)} (same : (Json.obj as).Matches (.obj bs)) {key : String}
    {a : Json} (stored : field? as key = some a) : ∃ b, field? bs key = some b ∧ a.Matches b := by
  have among : ∀ {as : List (String × Json)}, MatchesFields as bs → field? as key = some a →
      ∃ b, field? bs key = some b ∧ a.Matches b := by
    intro as
    induction as with
    | nil => exact fun _ stored => by cases stored
    | cons f as ih =>
        rintro ⟨own, others⟩ stored
        unfold field? at stored
        split at stored
        · rename_i here
          obtain rfl := Option.some.inj stored
          rwa [here] at own
        · exact ih others stored
  exact among same.2 stored

theorem matches_field {as bs : List (String × Json)} (same : (Json.obj as).Matches (.obj bs)) (key : String)
    {a b : Json} (stored : field? as key = some a) (stored' : field? bs key = some b) : a.Matches b := by
  obtain ⟨b', found, matches_⟩ := matches_some same stored
  rwa [Option.some.inj (found.symm.trans stored')] at matches_

/-- Objects that match have the same keys. -/
theorem absent_of_matches {as bs : List (String × Json)} (writable : (Json.obj as).Writable)
    (same : (Json.obj as).Matches (.obj bs)) {key : String} (absent : field? as key = none) :
    field? bs key = none := by
  have among : ∀ {as : List (String × Json)}, MatchesFields as bs → as.map Prod.fst ⊆ bs.map Prod.fst := by
    intro as
    induction as with
    | nil => exact fun _ => List.nil_subset _
    | cons f as ih =>
        rintro ⟨⟨b, found, -⟩, others⟩
        have held : f.1 ∈ bs.map Prod.fst := List.mem_map.mpr ⟨(f.1, b), mem_of_field? found, rfl⟩
        exact List.cons_subset.mpr ⟨held, ih others⟩
  have keys : (as.map Prod.fst).Perm (bs.map Prod.fst) :=
    (List.subperm_of_subset writable.1 (among same.2)).perm_of_length_le (by simp [same.1])
  rw [field?_eq_none] at *
  rwa [← keys.mem_iff]

theorem EnvelopeItem.toJson_injective {i i' : EnvelopeItem} (same : i.toJson.Matches i'.toJson) : i = i' := by
  have productId : i.productId = i'.productId := matches_field same "productId" rfl rfl
  have sku : i.sku = i'.sku := matches_field same "sku" rfl rfl
  have quantity := minorJson_matches (matches_field same "quantity" rfl rfl)
  have unitAmountMinor := minorJson_matches (matches_field same "unitAmountMinor" rfl rfl)
  have variant := matches_field same "variant" rfl rfl
  have size : i.variant.size = i'.variant.size := matches_field variant "size" rfl rfl
  have colour : i.variant.colour = i'.variant.colour := matches_field variant "colour" rfl rfl
  obtain ⟨_, _, ⟨_, _⟩, _, _⟩ := i
  obtain ⟨_, _, ⟨_, _⟩, _, _⟩ := i'
  dsimp only at *
  subst productId sku quantity unitAmountMinor size colour
  rfl

theorem items_injective : ∀ {items items' : List EnvelopeItem},
    MatchesItems (items.map EnvelopeItem.toJson) (items'.map EnvelopeItem.toJson) → items = items'
  | [], [], _ => rfl
  | [], _ :: _, same => same.elim
  | _ :: _, [], same => same.elim
  | i :: items, i' :: items', same => by
      rw [EnvelopeItem.toJson_injective same.1, items_injective same.2]

theorem field?_append (as bs : List (String × Json)) (key : String) :
    field? (as ++ bs) key = (field? as key).or (field? bs key) := by
  induction as with
  | nil => rfl
  | cons f as ih =>
      simp only [List.cons_append, field?]
      split
      · rfl
      · exact ih

theorem field?_optional (key name : String) (value : Option String) :
    field? (optionalField name value) key = if name = key then value.map .str else none := by
  cases value <;> simp [optionalField, field?]

theorem field?_buyerAgentId (e : CommerceEnvelope) :
    field? e.toFields "buyerAgentId" = e.buyerAgentId.map .str := by
  simp [CommerceEnvelope.toFields, field?, field?_append, field?_optional]

theorem field?_approvalEventId (e : CommerceEnvelope) :
    field? e.toFields "approvalEventId" = e.approvalEventId.map .str := by
  simp [CommerceEnvelope.toFields, field?, field?_append, field?_optional]

/-- An envelope is determined by its value. -/
theorem CommerceEnvelope.toJson_injective {e e' : CommerceEnvelope} (same : e.toJson.Matches e'.toJson) :
    e = e' := by
  have text : ∀ key s s', field? e.toFields key = some (.str s) → field? e'.toFields key = some (.str s') →
      s = s' := fun key _ _ stored stored' => matches_field same key stored stored'
  have amount : ∀ key n n', field? e.toFields key = some (minorJson n) →
      field? e'.toFields key = some (minorJson n') → n = n' :=
    fun key _ _ stored stored' => minorJson_matches (matches_field same key stored stored')
  have optional : ∀ key (o o' : Option String), field? e.toFields key = o.map Json.str →
      field? e'.toFields key = o'.map Json.str → o = o' := by
    intro key o o' stored stored'
    cases o with
    | none =>
        have absent := absent_of_matches e.writable same stored
        rw [stored'] at absent
        exact (Option.map_eq_none_iff.mp absent).symm
    | some s =>
        obtain ⟨b, found, held⟩ := matches_some same stored
        rw [stored', matches_str.mp held] at found
        exact (Option.map_injective (fun _ _ => Json.str.inj) found).symm
  have version := amount "version" _ _ rfl rfl
  have logicalOrderId := text "logicalOrderId" _ _ rfl rfl
  have merchantId := text "merchantId" _ _ rfl rfl
  have quoteId := text "quoteId" _ _ rfl rfl
  have customerId := text "customerId" _ _ rfl rfl
  have items := items_injective (matches_field same "items" rfl rfl)
  have subtotalMinor := amount "subtotalMinor" _ _ rfl rfl
  have taxMinor := amount "taxMinor" _ _ rfl rfl
  have shippingMinor := amount "shippingMinor" _ _ rfl rfl
  have totalMinor := amount "totalMinor" _ _ rfl rfl
  have currency := text "currency" _ _ rfl rfl
  have inventoryHoldId := text "inventoryHoldId" _ _ rfl rfl
  have returnPolicyDigest := text "returnPolicyDigest" _ _ rfl rfl
  have shippingDestinationDigest := text "shippingDestinationDigest" _ _ rfl rfl
  have mandateId := text "mandateId" _ _ rfl rfl
  have issuedAt := text "issuedAt" _ _ rfl rfl
  have expiresAt := text "expiresAt" _ _ rfl rfl
  have nonce := text "nonce" _ _ rfl rfl
  have buyerAgentId := optional "buyerAgentId" _ _ (field?_buyerAgentId e) (field?_buyerAgentId e')
  have approvalEventId := optional "approvalEventId" _ _ (field?_approvalEventId e) (field?_approvalEventId e')
  cases e
  cases e'
  dsimp only at *
  subst version logicalOrderId merchantId quoteId customerId buyerAgentId approvalEventId items subtotalMinor taxMinor shippingMinor
    totalMinor currency inventoryHoldId returnPolicyDigest shippingDestinationDigest mandateId issuedAt
    expiresAt nonce
  rfl

/-- An envelope is determined by its canonical text. -/
theorem canonicalText_injective {e e' : CommerceEnvelope} (same : e.canonicalText = e'.canonicalText) :
    e = e' := by
  refine CommerceEnvelope.toJson_injective ((canonicalize_eq_iff e.writable e'.writable).mp ?_)
  rw [e.canonicalize_toJson, e'.canonicalize_toJson, same]

end AgentReady
