import AgentReady.Lib.Decimal

/-!
Texts that can be told from what follows them.

A text is delimited when it is fixed by any longer text that it begins, as long as the rest begins with a
stop. Lists of delimited texts between brackets are delimited again, and so are the texts of JSON.

* `Delimited.of_joined`: texts joined by a separator and closed.
* `Json.quote_delimited`: a string literal fixes its string.
* `Json.Text.delimited`: the text of a JSON value fixes itself.
-/

/-! ### Delimited texts -/

section Delimited

variable {α : Type}

/-- Nothing follows, or a stop. -/
def Ends (stop : α → Prop) (rest : List α) : Prop := ∀ c ∈ rest.head?, stop c

theorem Ends.cons {stop : α → Prop} {c : α} {rest : List α} (stops : stop c) : Ends stop (c :: rest) := by
  intro d first
  obtain rfl := Option.some.inj first
  exact stops

/-- The text is fixed among those of `L` by any longer text that it begins. -/
def Delimited (stop : α → Prop) (L : List α → Prop) (text : List α) : Prop :=
  ∀ text' rest rest', L text' → Ends stop rest → Ends stop rest' → text ++ rest = text' ++ rest' →
    text = text' ∧ rest = rest'

/-- The texts with the separator between them. -/
def joined (sep : α) : List (List α) → List α
  | [] => []
  | text :: rest => text ++ rest.flatMap (sep :: ·)

variable {stop : α → Prop} {L : List α → Prop} {sep close : α}

theorem Ends.joined (separates : stop sep) (closes : stop close) (texts : List (List α)) (rest : List α) :
    Ends stop (texts.flatMap (sep :: ·) ++ close :: rest) := by
  cases texts with
  | nil => exact .cons closes
  | cons text texts => exact .cons separates

/-- What follows the first text of a joined list. -/
theorem Delimited.tails (separates : stop sep) (closes : stop close) (different : sep ≠ close) :
    ∀ {texts texts' : List (List α)} {rest rest' : List α}, (∀ t ∈ texts, Delimited stop L t) →
      (∀ t ∈ texts', L t) →
      texts.flatMap (sep :: ·) ++ close :: rest = texts'.flatMap (sep :: ·) ++ close :: rest' →
      texts = texts' ∧ rest = rest'
  | [], [], rest, rest', _, _, same => by simpa using same
  | [], _ :: _, _, _, _, _, same => absurd (List.head_eq_of_cons_eq same).symm different
  | _ :: _, [], _, _, _, _, same => absurd (List.head_eq_of_cons_eq same) different
  | text :: texts, text' :: texts', rest, rest', delimited, member, same => by
      simp only [List.flatMap_cons, List.cons_append, List.append_assoc, List.cons.injEq, true_and] at same
      obtain ⟨rfl, left⟩ := delimited text List.mem_cons_self text' _ _ (member text' List.mem_cons_self)
        (Ends.joined separates closes texts rest) (Ends.joined separates closes texts' rest') same
      obtain ⟨rfl, rfl⟩ := Delimited.tails separates closes different
        (fun t mem => delimited t (List.mem_cons_of_mem _ mem))
        (fun t mem => member t (List.mem_cons_of_mem _ mem)) left
      exact ⟨rfl, rfl⟩

/-- Delimited texts are fixed by their join, closed. -/
theorem Delimited.of_joined (separates : stop sep) (closes : stop close) (different : sep ≠ close)
    (begins : ∀ t, L t → ∃ c rest, t = c :: rest ∧ c ≠ close) {texts texts' : List (List α)}
    {rest rest' : List α} (delimited : ∀ t ∈ texts, L t ∧ Delimited stop L t) (member : ∀ t ∈ texts', L t)
    (same : joined sep texts ++ close :: rest = joined sep texts' ++ close :: rest') :
    texts = texts' ∧ rest = rest' := by
  cases texts with
  | nil =>
      cases texts' with
      | nil => simpa [joined] using same
      | cons text' texts' =>
          obtain ⟨c, _, rfl, other⟩ := begins text' (member text' List.mem_cons_self)
          exact absurd (List.head_eq_of_cons_eq same).symm other
  | cons text texts =>
      obtain ⟨own, fixed⟩ := delimited text List.mem_cons_self
      cases texts' with
      | nil =>
          obtain ⟨c, _, rfl, other⟩ := begins text own
          exact absurd (List.head_eq_of_cons_eq same) other
      | cons text' texts' =>
          simp only [joined, List.append_assoc] at same
          obtain ⟨rfl, left⟩ := fixed text' _ _ (member text' List.mem_cons_self)
            (Ends.joined separates closes texts rest) (Ends.joined separates closes texts' rest') same
          obtain ⟨rfl, rfl⟩ := Delimited.tails separates closes different
            (fun t mem => (delimited t (List.mem_cons_of_mem _ mem)).2)
            (fun t mem => member t (List.mem_cons_of_mem _ mem)) left
          exact ⟨rfl, rfl⟩

end Delimited

namespace Json

/-! ### String literals -/

def hexValue (c : Char) : Nat := if c.isDigit then c.toNat - 48 else c.toNat - 87

/-- The character that a string literal goes on with. -/
def unescape : List Char → Option (Char × List Char)
  | '\\' :: 'n' :: rest => some ('\n', rest)
  | '\\' :: 'r' :: rest => some ('\r', rest)
  | '\\' :: 't' :: rest => some ('\t', rest)
  | '\\' :: 'b' :: rest => some (Char.ofNat 8, rest)
  | '\\' :: 'f' :: rest => some (Char.ofNat 12, rest)
  | '\\' :: 'u' :: _ :: _ :: high :: low :: rest =>
      some (Char.ofNat (16 * hexValue high + hexValue low), rest)
  | '\\' :: c :: rest => some (c, rest)
  | c :: rest => some (c, rest)
  | [] => none

theorem hexValue_hexDigit : ∀ n < 16, hexValue (hexDigit n) = n := by decide

theorem unescape_escape (c : Char) (rest : List Char) : unescape (escape c ++ rest) = some (c, rest) := by
  unfold escape
  by_cases quote : c = '"'
  · subst quote
    rfl
  by_cases slash : c = '\\'
  · subst slash
    rfl
  rw [if_neg quote, if_neg slash]
  split
  · rename_i same
    rw [same]
    rfl
  split
  · rename_i same
    rw [same]
    rfl
  split
  · rename_i same
    rw [same]
    rfl
  split
  · rename_i code
    rw [← Char.ofNat_toNat c, code]
    rfl
  split
  · rename_i code
    rw [← Char.ofNat_toNat c, code]
    rfl
  split
  · rename_i control
    have high := hexValue_hexDigit (c.toNat / 16) (by omega)
    have low := hexValue_hexDigit (c.toNat % 16) (by omega)
    change some (Char.ofNat (16 * hexValue (hexDigit (c.toNat / 16)) + hexValue (hexDigit (c.toNat % 16))),
      rest) = _
    rw [high, low, Nat.div_add_mod, Char.ofNat_toNat]
  · exact unescape.eq_8 c rest (by simp [slash]) (by simp [slash]) (by simp [slash]) (by simp [slash])
      (by simp [slash]) (by simp [slash]) (by simp [slash])

theorem escape_ne_quote (c : Char) (rest rest' : List Char) : escape c ++ rest ≠ '"' :: rest' := by
  intro same
  have read := unescape_escape c rest
  rw [same] at read
  obtain ⟨rfl, -⟩ := Prod.mk.inj (Option.some.inj read)
  cases same

theorem escapes_injective : ∀ {cs cs' rest rest' : List Char},
    cs.flatMap escape ++ '"' :: rest = cs'.flatMap escape ++ '"' :: rest' → cs = cs' ∧ rest = rest'
  | [], [], rest, rest', same => by simpa using same
  | [], c' :: cs', rest, rest', same => by
      simp only [List.flatMap_nil, List.nil_append, List.flatMap_cons, List.append_assoc] at same
      exact absurd same.symm (escape_ne_quote c' _ _)
  | c :: cs, [], rest, rest', same => by
      simp only [List.flatMap_nil, List.nil_append, List.flatMap_cons, List.append_assoc] at same
      exact absurd same (escape_ne_quote c _ _)
  | c :: cs, c' :: cs', rest, rest', same => by
      simp only [List.flatMap_cons, List.append_assoc] at same
      have read := congrArg unescape same
      rw [unescape_escape, unescape_escape] at read
      obtain ⟨rfl, left⟩ := Prod.mk.inj (Option.some.inj read)
      obtain ⟨rfl, rfl⟩ := escapes_injective left
      exact ⟨rfl, rfl⟩

theorem toList_quote (s : String) : (quote s).toList = '"' :: (s.toList.flatMap escape ++ ['"']) := by
  simp [quote]

/-- A string literal fixes its string, and what follows it. -/
theorem quote_delimited {s s' : String} {rest rest' : List Char}
    (same : (quote s).toList ++ rest = (quote s').toList ++ rest') : s = s' ∧ rest = rest' := by
  rw [toList_quote, toList_quote] at same
  simp only [List.cons_append, List.append_assoc, List.cons.injEq, true_and] at same
  obtain ⟨chars, rest⟩ := escapes_injective same
  exact ⟨String.toList_inj.mp chars, rest⟩

/-! ### Values -/

/-- The characters that stand between values. -/
def IsStructural (c : Char) : Prop := c ∈ ['"', ',', ':', '[', ']', '\x7b', '\x7d']

instance : DecidablePred IsStructural := fun c => inferInstanceAs (Decidable (c ∈ _))

/-- What may follow a value. -/
def IsStop (c : Char) : Prop := c ∈ [',', ']', '\x7d']

instance : DecidablePred IsStop := fun c => inferInstanceAs (Decidable (c ∈ _))

theorem IsStop.structural {c : Char} (stops : IsStop c) : IsStructural c := by
  simp only [IsStop, List.mem_cons, List.not_mem_nil, or_false] at stops
  rcases stops with rfl | rfl | rfl <;> decide

theorem plain_null : ∀ c ∈ "null".toList, ¬ IsStructural c := by
  simp [IsStructural]

theorem plain_bool : ∀ b : Bool, ∀ c ∈ (if b then "true" else "false").toList, ¬ IsStructural c := by
  intro b
  cases b
  · simp [IsStructural]
  · simp [IsStructural]

/-- A member of an object: its key and the text of its value. -/
def member (p : String × List Char) : List Char := (quote p.1).toList ++ ':' :: p.2

/-- The texts of values, without spaces. -/
inductive Text : List Char → Prop where
  | atom {text : List Char} (plain : ∀ c ∈ text, ¬ IsStructural c) (some_ : text ≠ []) : Text text
  | quoted (s : String) : Text (quote s).toList
  | arr {texts : List (List Char)} (items : ∀ t ∈ texts, Text t) : Text ('[' :: (joined ',' texts ++ [']']))
  | obj {members : List (String × List Char)} (values : ∀ p ∈ members, Text p.2) :
      Text ('\x7b' :: (joined ',' (members.map member) ++ ['\x7d']))

/-- A value's text does not begin as what may follow one. -/
theorem Text.begins {text : List Char} (is : Text text) : ∃ c rest, text = c :: rest ∧ ¬ IsStop c := by
  cases is with
  | atom plain some_ =>
      obtain ⟨c, rest, rfl⟩ := List.exists_cons_of_ne_nil some_
      exact ⟨c, rest, rfl, fun stops => plain c List.mem_cons_self stops.structural⟩
  | quoted s => exact ⟨'"', _, toList_quote s, by simp [IsStop]⟩
  | arr => exact ⟨'[', _, rfl, by simp [IsStop]⟩
  | obj => exact ⟨'\x7b', _, rfl, by simp [IsStop]⟩

theorem ne_of_not_isStop {c d : Char} (free : ¬ IsStop c) (stops : IsStop d) : c ≠ d := by
  rintro rfl
  exact free stops

theorem begins_member {text : List Char} (is : ∃ p, Text p.2 ∧ text = member p) :
    ∃ c rest, text = c :: rest ∧ ¬ IsStop c := by
  obtain ⟨p, -, rfl⟩ := is
  exact ⟨'"', _, by rw [member, toList_quote, List.cons_append], by simp [IsStop]⟩

/-- Plain characters are told from a structural one. -/
theorem plain_delimited : ∀ {text text' rest rest' : List Char}, (∀ c ∈ text, ¬ IsStructural c) →
    (∀ c ∈ text', ¬ IsStructural c) → Ends IsStructural rest → Ends IsStructural rest' →
    text ++ rest = text' ++ rest' → text = text' ∧ rest = rest'
  | [], [], _, _, _, _, _, _, same => ⟨rfl, same⟩
  | [], c :: _, rest, _, _, plain, ends, _, same => by
      have first : rest = c :: _ := same
      exact absurd (ends c (by rw [first]; rfl)) (plain c List.mem_cons_self)
  | c :: _, [], _, rest', plain, _, _, ends, same => by
      have first : rest' = c :: _ := same.symm
      exact absurd (ends c (by rw [first]; rfl)) (plain c List.mem_cons_self)
  | c :: text, c' :: text', _, _, plain, plain', ends, ends', same => by
      simp only [List.cons_append, List.cons.injEq] at same
      obtain ⟨rfl, same⟩ := same
      obtain ⟨rfl, rfl⟩ := plain_delimited (fun d mem => plain d (List.mem_cons_of_mem _ mem))
        (fun d mem => plain' d (List.mem_cons_of_mem _ mem)) ends ends' same
      exact ⟨rfl, rfl⟩

theorem ends_structural {rest : List Char} (ends : Ends IsStop rest) : Ends IsStructural rest :=
  fun c first => (ends c first).structural

/-- A plain character begins neither a string nor an array nor an object. -/
theorem plain_ne {text rest rest' : List Char} {c : Char} (plain : ∀ c ∈ text, ¬ IsStructural c)
    (some_ : text ≠ []) (structural : IsStructural c) : text ++ rest ≠ c :: rest' := by
  obtain ⟨d, text, rfl⟩ := List.exists_cons_of_ne_nil some_
  intro same
  obtain rfl := List.head_eq_of_cons_eq same
  exact plain d List.mem_cons_self structural

/-- The members of an object are delimited, where their values are. -/
theorem member_delimited {p : String × List Char} (value : Delimited IsStop Text p.2) :
    Delimited IsStop (fun text => ∃ p, Text p.2 ∧ text = member p) (member p) := by
  rintro _ rest rest' ⟨p', is, rfl⟩ ends ends' same
  simp only [member, List.append_assoc, List.cons_append] at same ⊢
  obtain ⟨key, same⟩ := quote_delimited same
  obtain ⟨text, rfl⟩ := value p'.2 rest rest' is ends ends' (List.tail_eq_of_cons_eq same)
  exact ⟨by rw [key, text], rfl⟩

theorem member_injective {p p' : String × List Char} (same : member p = member p') : p = p' := by
  obtain ⟨key, value⟩ := quote_delimited same
  exact Prod.ext key (List.tail_eq_of_cons_eq value)

/-- The items of an array are fixed by its text. -/
theorem items_delimited {texts texts' : List (List Char)} {rest rest' : List Char}
    (items : ∀ t ∈ texts, Text t ∧ Delimited IsStop Text t) (items' : ∀ t ∈ texts', Text t)
    (same : joined ',' texts ++ ']' :: rest = joined ',' texts' ++ ']' :: rest') :
    texts = texts' ∧ rest = rest' := by
  refine Delimited.of_joined (by simp [IsStop]) (by simp [IsStop]) (by decide) ?_ items items' same
  intro t is
  obtain ⟨c, rest, begins, free⟩ := is.begins
  exact ⟨c, rest, begins, ne_of_not_isStop free (by simp [IsStop])⟩

/-- The members of an object are fixed by its text. -/
theorem members_delimited {members members' : List (String × List Char)} {rest rest' : List Char}
    (values : ∀ p ∈ members, Text p.2 ∧ Delimited IsStop Text p.2) (values' : ∀ p ∈ members', Text p.2)
    (same : joined ',' (members.map member) ++ '\x7d' :: rest =
      joined ',' (members'.map member) ++ '\x7d' :: rest') : members = members' ∧ rest = rest' := by
  have fixed : ∀ t ∈ members.map member, (∃ p, Text p.2 ∧ t = member p) ∧
      Delimited IsStop (fun text => ∃ p, Text p.2 ∧ text = member p) t := by
    intro t mem
    obtain ⟨p, own, rfl⟩ := List.mem_map.mp mem
    exact ⟨⟨p, (values p own).1, rfl⟩, member_delimited (values p own).2⟩
  have members_ : ∀ t ∈ members'.map member, ∃ p, Text p.2 ∧ t = member p := by
    intro t mem
    obtain ⟨p, own, rfl⟩ := List.mem_map.mp mem
    exact ⟨p, values' p own, rfl⟩
  obtain ⟨texts, rest⟩ := Delimited.of_joined (by simp [IsStop]) (by simp [IsStop]) (by decide)
    (fun t is => by
      obtain ⟨c, rest, begins, free⟩ := begins_member is
      exact ⟨c, rest, begins, ne_of_not_isStop free (by simp [IsStop])⟩) fixed members_ same
  exact ⟨List.map_injective_iff.mpr (fun _ _ => member_injective) texts, rest⟩

/-- The text of a value fixes itself, and what follows it. -/
theorem Text.delimited {text : List Char} (is : Text text) : Delimited IsStop Text text := by
  induction is with
  | atom plain some_ =>
      rintro text' rest rest' is' ends ends' same
      cases is' with
      | atom plain' some_' => exact plain_delimited plain plain' (ends_structural ends) (ends_structural ends') same
      | quoted s =>
          rw [toList_quote] at same
          exact absurd same (plain_ne plain some_ (by decide))
      | arr items => exact absurd same (plain_ne plain some_ (by decide))
      | obj values => exact absurd same (plain_ne plain some_ (by decide))
  | quoted s =>
      rintro text' rest rest' is' ends ends' same
      cases is' with
      | atom plain' some_' =>
          rw [toList_quote] at same
          exact absurd same.symm (plain_ne plain' some_' (by decide))
      | quoted s' =>
          obtain ⟨rfl, rfl⟩ := quote_delimited same
          exact ⟨rfl, rfl⟩
      | arr items =>
          rw [toList_quote] at same
          exact absurd (List.head_eq_of_cons_eq same) (by decide)
      | obj values =>
          rw [toList_quote] at same
          exact absurd (List.head_eq_of_cons_eq same) (by decide)
  | @arr texts items ih =>
      rintro text' rest rest' is' ends ends' same
      cases is' with
      | atom plain' some_' => exact absurd same.symm (plain_ne plain' some_' (by decide))
      | quoted s' =>
          rw [toList_quote] at same
          exact absurd (List.head_eq_of_cons_eq same) (by decide)
      | @arr texts' items' =>
          simp only [List.cons_append, List.append_assoc, List.cons.injEq, true_and, List.nil_append] at same
          obtain ⟨rfl, rfl⟩ := items_delimited (fun t mem => ⟨items t mem, ih t mem⟩) items' same
          exact ⟨rfl, rfl⟩
      | obj values => exact absurd (List.head_eq_of_cons_eq same) (by decide)
  | @obj members values ih =>
      rintro text' rest rest' is' ends ends' same
      cases is' with
      | atom plain' some_' => exact absurd same.symm (plain_ne plain' some_' (by decide))
      | quoted s' =>
          rw [toList_quote] at same
          exact absurd (List.head_eq_of_cons_eq same) (by decide)
      | arr items => exact absurd (List.head_eq_of_cons_eq same) (by decide)
      | @obj members' values' =>
          simp only [List.cons_append, List.append_assoc, List.cons.injEq, true_and, List.nil_append] at same
          obtain ⟨rfl, rfl⟩ := members_delimited (fun p mem => ⟨values p mem, ih p mem⟩) values' same
          exact ⟨rfl, rfl⟩

end Json
