import AgentReady.Lib.Unambiguous

/-!
Writing and reading the texts of JSON values.

* `parse_stringify`: what is written is read back, of every value that JSON can carry.
* `stringify_injective`: so a text is written for one value.
-/

namespace Json

mutual
/-- A value that JSON can carry: its numbers are decimals, and no object has a key twice. -/
def Writable : Json → Prop
  | .null | .bool _ | .str _ => True
  | .num (.finite q) => Number.Decimal q
  | .num (.infinite _) => False
  | .arr items => WritableItems items
  | .obj fields => (fields.map Prod.fst).Nodup ∧ WritableFields fields

def WritableItems : List Json → Prop
  | [] => True
  | item :: rest => Writable item ∧ WritableItems rest

def WritableFields : List (String × Json) → Prop
  | [] => True
  | (_, value) :: rest => Writable value ∧ WritableFields rest
end

/-! ### Writing -/

mutual
def write : Json → List Char
  | .null | .num (.infinite _) => "null".toList
  | .bool b => (if b then "true" else "false").toList
  | .num (.finite q) => (Number.finite q).render.toList
  | .str s => (quote s).toList
  | .arr items => '[' :: (joined ',' (writeItems items) ++ [']'])
  | .obj fields => '\x7b' :: (joined ',' ((writeFields fields).map member) ++ ['\x7d'])

def writeItems : List Json → List (List Char)
  | [] => []
  | item :: rest => write item :: writeItems rest

def writeFields : List (String × Json) → List (String × List Char)
  | [] => []
  | (key, value) :: rest => (key, write value) :: writeFields rest
end

/-- `JSON.stringify`, of a value. -/
def stringify (value : Json) : String := String.ofList (write value)

/-! ### Reading -/

/-- The rest of a string literal. -/
def readChars : Nat → List Char → Option (List Char × List Char)
  | 0, _ => none
  | fuel + 1, text =>
      if text.head? = some '"' then some ([], text.tail) else do
        let (c, rest) ← unescape text
        let (cs, rest) ← readChars fuel rest
        return (c :: cs, rest)

/-- A string literal, after its opening quote. -/
def readString (text : List Char) : Option (String × List Char) :=
  (readChars (text.length + 1) text).map fun r => (String.ofList r.1, r.2)

/-- A word or a number, which has to be written as it would be. -/
def readAtom (word : List Char) : Option Json :=
  if word = "null".toList then some .null
  else if word = "true".toList then some (.bool true)
  else if word = "false".toList then some (.bool false)
  else if (Number.finite (Number.ofText word)).render.toList = word then
    some (.num (.finite (Number.ofText word)))
  else none

mutual
def readValue : Nat → List Char → Option (Json × List Char)
  | 0, _ | _, [] => none
  | fuel + 1, c :: rest =>
      if c = '"' then (readString rest).map fun r => (.str r.1, r.2)
      else if c = '[' then
        if rest.head? = some ']' then some (.arr [], rest.tail)
        else (readItems fuel rest).map fun r => (.arr r.1, r.2)
      else if c = '\x7b' then
        if rest.head? = some '\x7d' then some (.obj [], rest.tail)
        else (readMembers fuel rest).map fun r => (.obj r.1, r.2)
      else (readAtom ((c :: rest).takeWhile fun c => ¬ IsStructural c)).map fun v =>
        (v, (c :: rest).dropWhile fun c => ¬ IsStructural c)

def readItems : Nat → List Char → Option (List Json × List Char)
  | 0, _ => none
  | fuel + 1, text => do
      let (item, rest) ← readValue fuel text
      if rest.head? = some ',' then
        let (items, rest) ← readItems fuel rest.tail
        return (item :: items, rest)
      else if rest.head? = some ']' then return ([item], rest.tail)
      else none

def readMembers : Nat → List Char → Option (List (String × Json) × List Char)
  | 0, _ => none
  | fuel + 1, text =>
      if text.head? ≠ some '"' then none else do
        let (key, rest) ← readString text.tail
        if rest.head? ≠ some ':' then none else do
          let (value, rest) ← readValue fuel rest.tail
          if rest.head? = some ',' then
            let (members, rest) ← readMembers fuel rest.tail
            return ((key, value) :: members, rest)
          else if rest.head? = some '\x7d' then return ([(key, value)], rest.tail)
          else none
end

/-- `JSON.parse`, of a text without spaces whose literals are written as `JSON.stringify` writes them. -/
def parse (text : String) : Option Json :=
  match readValue (2 * text.toList.length + 1) text.toList with
  | some (value, []) => some value
  | _ => none

/-! ### Round trip -/

theorem readChars_escapes : ∀ (cs rest : List Char) (fuel : Nat), cs.length < fuel →
    readChars fuel (cs.flatMap escape ++ '"' :: rest) = some (cs, rest)
  | [], rest, fuel + 1, _ => by simp [readChars]
  | c :: cs, rest, fuel + 1, enough => by
      rw [List.flatMap_cons, List.append_assoc, readChars, unescape_escape]
      have open_ : (escape c ++ (cs.flatMap escape ++ '"' :: rest)).head? ≠ some '"' := by
        intro first
        obtain ⟨tail, same⟩ := List.head?_eq_some_iff.mp first
        exact escape_ne_quote c _ _ same
      rw [if_neg open_]
      have rest_ := readChars_escapes cs rest fuel (by simpa using enough)
      simp [rest_]

theorem length_escape (c : Char) : 0 < (escape c).length := by
  refine List.length_pos_of_ne_nil fun none_ => ?_
  have read := unescape_escape c []
  rw [none_] at read
  cases read

theorem length_le_escapes : ∀ cs : List Char, cs.length ≤ (cs.flatMap escape).length
  | [] => Nat.le_refl _
  | c :: cs => by
      have := length_escape c
      have := length_le_escapes cs
      simp only [List.length_cons, List.flatMap_cons, List.length_append]
      omega

theorem readString_quote (s : String) (rest : List Char) :
    readString (s.toList.flatMap escape ++ '"' :: rest) = some (s, rest) := by
  have size := length_le_escapes s.toList
  rw [readString, readChars_escapes _ _ _ (by simp only [List.length_append]; omega)]
  simp

theorem head_stop {c : Char} {rest : List Char} (ends : Ends IsStop rest) :
    rest.head? = some c → IsStructural c := fun first => (ends c first).structural

/-- A plain text is told from what follows it. -/
theorem takeWhile_plain {text rest : List Char} (plain : ∀ c ∈ text, ¬ IsStructural c) (ends : Ends IsStop rest) :
    (text ++ rest).takeWhile (fun c => ¬ IsStructural c) = text ∧
      (text ++ rest).dropWhile (fun c => ¬ IsStructural c) = rest := by
  rw [List.takeWhile_append_of_pos (by simpa using plain), List.dropWhile_append_of_pos (by simpa using plain)]
  cases rest with
  | nil => simp
  | cons c rest =>
      have structural : IsStructural c := (ends c rfl).structural
      rw [List.takeWhile_cons_of_neg (by simpa using structural),
        List.dropWhile_cons_of_neg (by simpa using structural)]
      simp

theorem readValue_atom {word rest : List Char} {value : Json} {fuel : Nat} (some_ : word ≠ [])
    (plain : ∀ c ∈ word, ¬ IsStructural c) (ends : Ends IsStop rest) (reads : readAtom word = some value) :
    readValue (fuel + 1) (word ++ rest) = some (value, rest) := by
  obtain ⟨taken, dropped⟩ := takeWhile_plain plain ends
  obtain ⟨c, word, rfl⟩ := List.exists_cons_of_ne_nil some_
  have own := plain c List.mem_cons_self
  have other : ∀ d, IsStructural d → c ≠ d := by
    rintro d structural rfl
    exact own structural
  rw [List.cons_append] at *
  rw [readValue, if_neg (other '"' (by decide)), if_neg (other '[' (by decide)),
    if_neg (other '\x7b' (by decide)), taken, dropped, reads]
  rfl

theorem readAtom_render {q : ℚ} (decimal : Number.Decimal q) :
    readAtom (Number.finite q).render.toList = some (.num (.finite q)) := by
  have other : ∀ word : List Char, (∃ c ∈ word, ¬ Number.IsPlain c) → (Number.finite q).render.toList ≠ word := by
    rintro word ⟨c, mem, strange⟩ same
    exact strange (Number.mem_render (same ▸ mem))
  unfold readAtom
  rw [if_neg (other _ ⟨'n', by decide, by decide⟩), if_neg (other _ ⟨'t', by decide, by decide⟩),
    if_neg (other _ ⟨'f', by decide, by decide⟩), Number.ofText_render decimal, if_pos rfl]

theorem not_structural_of_plain {c : Char} (plain : Number.IsPlain c) : ¬ IsStructural c := by
  intro structural
  simp only [IsStructural, List.mem_cons, List.not_mem_nil, or_false] at structural
  rcases structural with rfl | rfl | rfl | rfl | rfl | rfl | rfl <;> exact absurd plain (by decide)

/-- A value does not begin as its container ends. -/
theorem write_begins : ∀ value : Json, ∃ c rest, write value = c :: rest ∧ ¬ IsStop c := by
  intro value
  cases value with
  | null => exact ⟨'n', _, rfl, by decide⟩
  | bool b =>
      cases b
      · exact ⟨'f', _, rfl, by decide⟩
      · exact ⟨'t', _, rfl, by decide⟩
  | num n =>
      cases n with
      | infinite positive => exact ⟨'n', _, rfl, by decide⟩
      | finite q =>
          obtain ⟨c, rest, begins⟩ := List.exists_cons_of_ne_nil (Number.render_ne_nil q)
          refine ⟨c, rest, begins, fun stops => ?_⟩
          have mem : c ∈ (Number.finite q).render.toList := by
            rw [begins]
            exact List.mem_cons_self
          exact not_structural_of_plain (Number.mem_render mem) stops.structural
  | str s => exact ⟨'"', _, toList_quote s, by decide⟩
  | arr items => exact ⟨'[', _, rfl, by decide⟩
  | obj fields => exact ⟨'\x7b', _, rfl, by decide⟩

theorem head_write {value : Json} {rest : List Char} {c : Char} (stops : IsStop c) :
    (write value ++ rest).head? ≠ some c := by
  obtain ⟨d, tail, begins, free⟩ := write_begins value
  rw [begins]
  rintro first
  exact free (Option.some.inj first ▸ stops)

theorem length_write (value : Json) : 0 < (write value).length := by
  obtain ⟨c, rest, begins, -⟩ := write_begins value
  simp [begins]

theorem readItems_last {fuel : Nat} {text rest : List Char} {item : Json}
    (head : readValue fuel text = some (item, ']' :: rest)) :
    readItems (fuel + 1) text = some ([item], rest) := by
  simp [readItems, head]

theorem readItems_cons {fuel : Nat} {text rest rest' : List Char} {item : Json} {items : List Json}
    (head : readValue fuel text = some (item, ',' :: rest)) (tail : readItems fuel rest = some (items, rest')) :
    readItems (fuel + 1) text = some (item :: items, rest') := by
  simp [readItems, head, tail]

theorem readMembers_last {fuel : Nat} {key : String} {text rest : List Char} {value : Json}
    (head : readValue fuel text = some (value, '\x7d' :: rest)) :
    readMembers (fuel + 1) ((quote key).toList ++ ':' :: text) = some ([(key, value)], rest) := by
  have name := readString_quote key (':' :: text)
  simp [readMembers, toList_quote, name, head]

theorem readMembers_cons {fuel : Nat} {key : String} {text rest rest' : List Char} {value : Json}
    {members : List (String × Json)} (head : readValue fuel text = some (value, ',' :: rest))
    (tail : readMembers fuel rest = some (members, rest')) :
    readMembers (fuel + 1) ((quote key).toList ++ ':' :: text) = some ((key, value) :: members, rest') := by
  have name := readString_quote key (':' :: text)
  simp [readMembers, toList_quote, name, head, tail]

mutual
theorem readValue_write : ∀ (value : Json) (fuel : Nat) (rest : List Char), value.Writable → Ends IsStop rest →
    2 * (write value).length ≤ fuel → readValue (fuel + 1) (write value ++ rest) = some (value, rest)
  | .null, _, _, _, ends, _ => readValue_atom (by decide) plain_null ends rfl
  | .bool true, _, _, _, ends, _ => readValue_atom (by decide) (plain_bool true) ends rfl
  | .bool false, _, _, _, ends, _ => readValue_atom (by decide) (plain_bool false) ends rfl
  | .num (.finite q), _, _, writable, ends, _ =>
      readValue_atom (Number.render_ne_nil q) (fun _ mem => not_structural_of_plain (Number.mem_render mem)) ends
        (readAtom_render writable)
  | .num (.infinite _), _, _, writable, _, _ => writable.elim
  | .str s, fuel, rest, _, _, _ => by
      rw [write, toList_quote, List.cons_append, List.append_assoc, readValue, if_pos rfl]
      exact congrArg (Option.map _) (readString_quote s rest)
  | .arr items, fuel, rest, writable, _, enough => by
      simp only [write, List.length_cons, List.length_append, List.length_nil] at enough
      have read := readItems_write items fuel rest writable (by omega)
      simp only [write, List.cons_append, List.append_assoc, List.nil_append]
      rw [readValue, if_neg (by decide), if_pos rfl]
      cases items with
      | nil => simp [writeItems, joined]
      | cons item items =>
          have open_ : (joined ',' (writeItems (item :: items)) ++ ']' :: rest).head? ≠ some ']' := by
            rw [writeItems, joined, List.append_assoc]
            exact head_write (by decide)
          rw [if_neg open_, read (by simp)]
          rfl
  | .obj fields, fuel, rest, writable, _, enough => by
      simp only [write, List.length_cons, List.length_append, List.length_nil] at enough
      have read := readMembers_write fields fuel rest writable.2 (by omega)
      simp only [write, List.cons_append, List.append_assoc, List.nil_append]
      rw [readValue, if_neg (by decide), if_neg (by decide), if_pos rfl]
      cases fields with
      | nil => simp [writeFields, joined]
      | cons field fields =>
          have open_ : (joined ',' ((writeFields (field :: fields)).map member) ++ '\x7d' :: rest).head? ≠
              some '\x7d' := by
            simp [writeFields, joined, member, toList_quote]
          rw [if_neg open_, read (by simp)]
          rfl

theorem readItems_write : ∀ (items : List Json) (fuel : Nat) (rest : List Char), WritableItems items →
    2 * (joined ',' (writeItems items)).length + 2 ≤ fuel → items ≠ [] →
    readItems fuel (joined ',' (writeItems items) ++ ']' :: rest) = some (items, rest)
  | [], _, _, _, _, some_ => absurd rfl some_
  | [item], fuel, rest, writable, enough, _ => by
      obtain ⟨fuel, rfl⟩ : ∃ n, fuel = n + 2 := ⟨fuel - 2, by omega⟩
      simp only [writeItems, joined, List.flatMap_nil, List.append_nil] at enough ⊢
      exact readItems_last (readValue_write item fuel _ writable.1 (.cons (by decide)) (by omega))
  | item :: next :: items, fuel, rest, writable, enough, _ => by
      obtain ⟨fuel, rfl⟩ : ∃ n, fuel = n + 2 := ⟨fuel - 2, by omega⟩
      have some_ := length_write item
      have tail := readItems_write (next :: items) (fuel + 1) rest writable.2
      simp only [writeItems, joined, List.flatMap_cons, List.cons_append, List.append_assoc, List.length_append,
        List.length_cons] at enough tail ⊢
      have head := readValue_write item fuel (',' :: (write next ++ ((writeItems items).flatMap (',' :: ·) ++
        ']' :: rest))) writable.1 (.cons (by decide)) (by omega)
      exact readItems_cons head (tail (by omega) (by simp))

theorem readMembers_write : ∀ (fields : List (String × Json)) (fuel : Nat) (rest : List Char),
    WritableFields fields → 2 * (joined ',' ((writeFields fields).map member)).length + 2 ≤ fuel → fields ≠ [] →
    readMembers fuel (joined ',' ((writeFields fields).map member) ++ '\x7d' :: rest) = some (fields, rest)
  | [] => fun _ _ _ _ some_ => absurd rfl some_
  | [(key, value)] => by
      intro fuel rest writable enough _
      obtain ⟨fuel, rfl⟩ : ∃ n, fuel = n + 2 := ⟨fuel - 2, by omega⟩
      simp only [writeFields, List.map_cons, List.map_nil, joined, List.flatMap_nil, List.append_nil, member,
        List.append_assoc, List.cons_append, List.length_append, List.length_cons] at enough ⊢
      exact readMembers_last (readValue_write value fuel _ writable.1 (.cons (by decide)) (by omega))
  | (key, value) :: next :: fields => by
      intro fuel rest writable enough _
      obtain ⟨fuel, rfl⟩ : ∃ n, fuel = n + 2 := ⟨fuel - 2, by omega⟩
      have tail := readMembers_write (next :: fields) (fuel + 1) rest writable.2
      obtain ⟨key', value'⟩ := next
      simp only [writeFields, List.map_cons, joined, List.flatMap_cons, List.cons_append, List.append_assoc,
        List.length_append, List.length_cons, member] at enough tail ⊢
      have head := readValue_write value fuel (',' :: ((quote key').toList ++ ':' :: (write value' ++
        (((writeFields fields).map member).flatMap (',' :: ·) ++ '\x7d' :: rest)))) writable.1
        (.cons (by decide)) (by omega)
      exact readMembers_cons head (tail (by omega) (by simp))
end

/-- What is written is read back. -/
theorem parse_stringify {value : Json} (writable : value.Writable) : parse (stringify value) = some value := by
  have read := readValue_write value (2 * (write value).length) [] writable (by rintro c ⟨⟩) le_rfl
  rw [List.append_nil] at read
  simp [parse, stringify, read]

/-- A text is written for one value. -/
theorem stringify_injective {a b : Json} (writable : a.Writable) (writable' : b.Writable)
    (same : stringify a = stringify b) : a = b := by
  have read := parse_stringify writable
  rw [same, parse_stringify writable'] at read
  exact (Option.some.inj read).symm

end Json
