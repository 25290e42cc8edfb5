import AgentReady.Settlement.Interface
import AgentReady.Lib.Decimal

/-!
The identity of an attempt (`buildOperationId` of `packages/payments/src/x402-settlement-store.ts`).

The five values of an attempt are joined by bars before they are hashed, and a bar in a value stays as it
is. The text is read back by its segments: those of the order id, the version, and those of the rest.

* `segments_encoding`: the segments of the text.
* `operationId_unambiguous_iff`: an attempt is alone with its text where only its order id has bars, and
  none of the segments that they begin is an integer.
* `requests_collide`: two requests, each with its own digest, that are one attempt.
-/

namespace AgentReady.Settlement

/-- What `buildOperationId` is given. -/
structure AttemptIdentity where
  logicalOrderId : String
  intentVersion : Int
  requestDigest : String
  resource : String
  authRevision : String
deriving DecidableEq

/-- The segments of a text between its bars. -/
def segments (text : String) : List (List Char) := text.toList.splitOn '|'

namespace AttemptIdentity

/-- The text that is hashed. -/
def encoding (x : AttemptIdentity) : String :=
  "|".intercalate [x.logicalOrderId, toString x.intentVersion, x.requestDigest, x.resource, x.authRevision]

/-- The operation id. -/
def operationId (R : Runtime) (x : AttemptIdentity) : String := R.platform.sha256 x.encoding

/-- No other attempt has the same text. -/
def Unambiguous (x : AttemptIdentity) : Prop := ∀ y : AttemptIdentity, x.encoding = y.encoding → x = y

/-- Neither the digest, the resource nor the revision has a bar, and no segment of the order id after the
first is an integer. -/
structure Plain (x : AttemptIdentity) : Prop where
  digest : '|' ∉ x.requestDigest.toList
  resource : '|' ∉ x.resource.toList
  revision : '|' ∉ x.authRevision.toList
  order : ∀ segment ∈ (segments x.logicalOrderId).tail, ∀ n : Int, segment ≠ (toString n).toList

theorem buildOperationId_eq (R : Runtime) (input : ResolveInput) (authRevision : String) :
    R.buildOperationId input authRevision =
      operationId R ⟨input.logicalOrderId, input.intentVersion, input.requestDigest, input.resource,
        authRevision⟩ := rfl

end AttemptIdentity

/-! ### Segments -/

theorem segments_ne_nil (text : String) : segments text ≠ [] := List.splitOn_ne_nil '|' text.toList

theorem segments_inj {text text' : String} (same : segments text = segments text') : text = text' := by
  have joined := congrArg ['|'].intercalate same
  rw [segments, segments, List.intercalate_splitOn, List.intercalate_splitOn] at joined
  exact String.toList_inj.mp joined

theorem segments_plain {text : String} (plain : '|' ∉ text.toList) : segments text = [text.toList] :=
  List.splitOn_eq_singleton plain

theorem segments_bar (text rest : String) :
    segments (text ++ "|" ++ rest) = segments text ++ segments rest := by
  simp [segments, String.toList_append, List.splitOn_append_cons_self]

/-- A part has no separator. -/
theorem not_mem_of_mem_splitOn {sep : Char} {text part : List Char} (mem : part ∈ text.splitOn sep) :
    sep ∉ part := by
  induction text generalizing part with
  | nil =>
      rw [List.splitOn_nil, List.mem_singleton] at mem
      simp [mem]
  | cons c rest ih =>
      obtain ⟨head, tail, split⟩ := List.exists_cons_of_ne_nil (List.splitOn_ne_nil sep rest)
      rw [List.splitOn_cons_eq_if_modifyHead, split, List.modifyHead_cons] at mem
      rw [split] at ih
      by_cases same : c = sep
      · rw [if_pos (by simpa using same)] at mem
        rcases List.mem_cons.mp mem with rfl | mem
        · simp
        · exact ih mem
      · rw [if_neg (by simpa using same)] at mem
        rcases List.mem_cons.mp mem with rfl | mem
        · simp only [List.mem_cons, not_or]
          exact ⟨Ne.symm same, ih List.mem_cons_self⟩
        · exact ih (List.mem_cons_of_mem _ mem)

theorem bar_not_mem {text : String} {segment : List Char} (mem : segment ∈ segments text) :
    '|' ∉ segment :=
  not_mem_of_mem_splitOn mem

/-- The text with the segments. -/
def ofSegments (parts : List (List Char)) : String := String.ofList (['|'].intercalate parts)

theorem segments_ofSegments {parts : List (List Char)} (plain : ∀ part ∈ parts, '|' ∉ part)
    (some_ : parts ≠ []) : segments (ofSegments parts) = parts := by
  rw [segments, ofSegments, String.toList_ofList, List.splitOn_intercalate '|' plain some_]

/-- The text of an integer: its digits, after the sign of a negative one. -/
theorem toList_int (n : Int) :
    (toString n).toList = if n < 0 then '-' :: (toString n.natAbs).toList else (toString n.natAbs).toList := by
  cases n with
  | ofNat m => rw [if_neg (by simp)]; rfl
  | negSucc m =>
      rw [if_pos (Int.negSucc_lt_zero m)]
      change ("-" ++ toString (m + 1)).toList = _
      rw [String.toList_append]
      rfl

theorem bar_not_mem_int (n : Int) : '|' ∉ (toString n).toList := by
  have digits : '|' ∉ (toString n.natAbs).toList := by
    intro mem
    exact absurd (Json.Number.isDigit_of_mem mem) (by decide)
  rw [toList_int]
  split
  · simpa using digits
  · exact digits

theorem toString_int_injective {n m : Int} (same : (toString n).toList = (toString m).toList) : n = m := by
  have natural : ∀ a b : Nat, (toString a).toList = (toString b).toList → a = b := by
    intro a b same
    have read := congrArg (Nat.ofDigitChars 10 · 0) same
    simpa only [Json.Number.toList_digits, Nat.ofDigitChars_ten_toDigits] using read
  have unsigned : ∀ (a : Nat) (rest : List Char), (toString a).toList ≠ '-' :: rest := by
    intro a rest is
    exact absurd (Json.Number.isDigit_of_mem (is ▸ List.mem_cons_self)) (by decide)
  rw [toList_int, toList_int] at same
  split at same <;> split at same
  · have absolute := natural _ _ (List.cons.inj same).2
    omega
  · exact absurd same.symm (unsigned _ _)
  · exact absurd same (unsigned _ _)
  · have absolute := natural _ _ same
    omega

namespace AttemptIdentity

theorem segments_encoding (x : AttemptIdentity) :
    segments x.encoding = segments x.logicalOrderId ++ (toString x.intentVersion).toList ::
      (segments x.requestDigest ++ segments x.resource ++ segments x.authRevision) := by
  simp only [encoding, String.intercalate_cons_cons, String.intercalate_singleton, segments_bar,
    segments_plain (bar_not_mem_int _), List.singleton_append, List.append_assoc]

/-- The segments are read in another way: up to an integer, and in three parts after it. -/
theorem of_split {x : AttemptIdentity} {before d r after : List (List Char)} {n : Int}
    (split : segments x.encoding = before ++ (toString n).toList :: (d ++ r ++ after))
    (some_ : before ≠ [] ∧ d ≠ [] ∧ r ≠ [] ∧ after ≠ []) :
    x.encoding = encoding ⟨ofSegments before, n, ofSegments d, ofSegments r, ofSegments after⟩ := by
  obtain ⟨first, second, third, last⟩ := some_
  have plain : ∀ part ∈ before ++ (toString n).toList :: (d ++ r ++ after), '|' ∉ part := by
    rw [← split]
    exact fun part mem => bar_not_mem mem
  refine segments_inj ?_
  rw [split, segments_encoding, segments_ofSegments (fun part mem => plain part (by simp [mem])) first,
    segments_ofSegments (fun part mem => plain part (by simp [mem])) second,
    segments_ofSegments (fun part mem => plain part (by simp [mem])) third,
    segments_ofSegments (fun part mem => plain part (by simp [mem])) last]

/-- A text with a bar has at least two segments. -/
theorem two_segments {text : String} (bar : '|' ∈ text.toList) :
    ∃ first second rest, segments text = first :: second :: rest := by
  obtain ⟨first, rest, split⟩ := List.exists_cons_of_ne_nil (segments_ne_nil text)
  cases rest with
  | cons second rest => exact ⟨first, second, rest, split⟩
  | nil =>
      have whole : text = String.ofList first := by
        refine segments_inj ?_
        rw [split, segments_plain]
        · simp
        · simpa using bar_not_mem (split ▸ List.mem_singleton_self first)
      refine absurd bar ?_
      rw [whole, String.toList_ofList]
      exact bar_not_mem (split ▸ List.mem_singleton_self first)

/-- An attempt whose segments are read in another way is not alone with its text. -/
theorem not_unambiguous {x : AttemptIdentity} (before d r after : List (List Char)) (n : Int)
    (split : segments x.encoding = before ++ (toString n).toList :: (d ++ r ++ after))
    (some_ : before ≠ [] ∧ d ≠ [] ∧ r ≠ [] ∧ after ≠ [])
    (other : segments x.logicalOrderId ≠ before ∨ segments x.requestDigest ≠ d) : ¬ x.Unambiguous := by
  have plain : ∀ part ∈ before ++ (toString n).toList :: (d ++ r ++ after), '|' ∉ part := by
    rw [← split]
    exact fun part mem => bar_not_mem mem
  intro alone
  have same := alone _ (of_split split some_)
  rcases other with other | other
  · refine other ?_
    rw [same]
    exact segments_ofSegments (fun part mem => plain part (by simp [mem])) some_.1
  · refine other ?_
    rw [same]
    exact segments_ofSegments (fun part mem => plain part (by simp [mem])) some_.2.1

/-- An attempt that is alone with its text is plain. -/
theorem Unambiguous.plain {x : AttemptIdentity} (alone : x.Unambiguous) : x.Plain := by
  have order := segments_ne_nil x.logicalOrderId
  have digest := segments_ne_nil x.requestDigest
  have resource := segments_ne_nil x.resource
  have revision := segments_ne_nil x.authRevision
  have whole := x.segments_encoding
  constructor
  · -- the digest ends at its first bar
    intro bar
    obtain ⟨d, second, rest, split⟩ := two_segments bar
    refine not_unambiguous (segments x.logicalOrderId) [d] (second :: rest)
      (segments x.resource ++ segments x.authRevision) x.intentVersion ?_
      ⟨order, by simp, by simp, by simp [resource]⟩ (.inr (by simp [split])) alone
    simpa [split] using whole
  · -- the digest takes the resource up to its first bar
    intro bar
    obtain ⟨r, second, rest, split⟩ := two_segments bar
    refine not_unambiguous (segments x.logicalOrderId) (segments x.requestDigest ++ [r]) (second :: rest)
      (segments x.authRevision) x.intentVersion ?_
      ⟨order, by simp, by simp, revision⟩ (.inr (by simp)) alone
    simpa [split] using whole
  · -- the digest takes the resource
    intro bar
    obtain ⟨a, second, rest, split⟩ := two_segments bar
    refine not_unambiguous (segments x.logicalOrderId) (segments x.requestDigest ++ segments x.resource)
      [a] (second :: rest) x.intentVersion ?_
      ⟨order, by simp [digest], by simp, by simp⟩ (.inr (by simp [resource])) alone
    simpa [split] using whole
  · -- the order id ends before the integer
    intro segment mem n is
    obtain ⟨first, tail, split⟩ := List.exists_cons_of_ne_nil order
    rw [split] at mem
    obtain ⟨before, after, split'⟩ := List.append_of_mem mem
    rw [List.tail_cons] at split'
    refine not_unambiguous (first :: before) (after ++ [(toString x.intentVersion).toList])
      (segments x.requestDigest) (segments x.resource ++ segments x.authRevision) n ?_
      ⟨by simp, by simp, digest, by simp [resource]⟩ (.inl ?_) alone
    · simpa [split, split', is] using whole
    · rw [split, split']
      simp

/-- A plain attempt is alone with its text: the version of another could only stand in its order id. -/
theorem Plain.unambiguous {x : AttemptIdentity} (plain : x.Plain) : x.Unambiguous := by
  intro y same
  have both := congrArg segments same
  rw [segments_encoding, segments_encoding, segments_plain plain.digest, segments_plain plain.resource,
    segments_plain plain.revision] at both
  have order := List.length_pos_iff.mpr (segments_ne_nil y.logicalOrderId)
  have digest := List.length_pos_iff.mpr (segments_ne_nil y.requestDigest)
  have resource := List.length_pos_iff.mpr (segments_ne_nil y.resource)
  have revision := List.length_pos_iff.mpr (segments_ne_nil y.authRevision)
  have aligned : segments x.logicalOrderId = segments y.logicalOrderId := by
    rcases List.append_eq_append_iff.mp both with ⟨more, longer, rest⟩ | ⟨more, longer, rest⟩
    · have lengths := congrArg List.length rest
      simp only [List.length_cons, List.length_append, List.length_nil] at lengths
      have none_ : more = [] := List.length_eq_zero_iff.mp (by omega)
      rw [longer, none_, List.append_nil]
    · cases more with
      | nil => rw [longer, List.append_nil]
      | cons segment more =>
          -- the version of `y` is a segment of the order id of `x`
          obtain ⟨first, before, split⟩ := List.exists_cons_of_ne_nil (segments_ne_nil y.logicalOrderId)
          have version := (List.cons.inj rest).1
          refine absurd version.symm (plain.order segment ?_ y.intentVersion)
          rw [longer, split]
          simp
  rw [aligned, List.append_cancel_left_eq, List.cons.injEq] at both
  obtain ⟨version, rest⟩ := both
  have lengths := congrArg List.length rest
  simp only [List.length_append, List.length_cons, List.length_nil] at lengths
  obtain ⟨d, digest'⟩ := List.length_eq_one_iff.mp (show (segments y.requestDigest).length = 1 by omega)
  obtain ⟨r, resource'⟩ := List.length_eq_one_iff.mp (show (segments y.resource).length = 1 by omega)
  obtain ⟨a, revision'⟩ := List.length_eq_one_iff.mp (show (segments y.authRevision).length = 1 by omega)
  simp only [digest', resource', revision', List.cons_append, List.nil_append, List.cons.injEq,
    and_true] at rest
  obtain ⟨rfl, rfl, rfl⟩ := rest
  obtain ⟨o, v, d, r, a⟩ := x
  obtain ⟨o', v', d', r', a'⟩ := y
  simp only [AttemptIdentity.mk.injEq]
  dsimp only at *
  refine ⟨segments_inj aligned, toString_int_injective version, ?_, ?_, ?_⟩
  · exact segments_inj ((segments_plain plain.digest).trans digest'.symm)
  · exact segments_inj ((segments_plain plain.resource).trans resource'.symm)
  · exact segments_inj ((segments_plain plain.revision).trans revision'.symm)

/-- An attempt is alone with its text where it is plain, and so with its operation id where no two texts
have one digest. -/
theorem operationId_unambiguous_iff (x : AttemptIdentity) :
    (x.Unambiguous ↔ x.Plain) ∧ ∀ R : Runtime, Function.Injective R.platform.sha256 →
      ((∀ y : AttemptIdentity, operationId R x = operationId R y → x = y) ↔ x.Plain) := by
  have iff : x.Unambiguous ↔ x.Plain := ⟨Unambiguous.plain, Plain.unambiguous⟩
  refine ⟨iff, fun R collisionFree => ?_⟩
  rw [← iff]
  constructor
  · intro alone y same
    exact alone y (congrArg R.platform.sha256 same)
  · intro alone y same
    exact alone y (collisionFree same)

/-! ### Collisions -/

/-- An attempt under an approval id that spells out the rest of another. -/
def spelledOut (digest : String → Int → String) (resource order revision : String) : AttemptIdentity :=
  ⟨"ord_1", 1, digest "ord_1" 1, resource,
    "appr_1|2|" ++ digest order 2 ++ "|" ++ resource ++ "|" ++ revision⟩

/-- The order id that begins as the attempt before is written. -/
def spelledOrder (digest : String → Int → String) (resource : String) : String :=
  "ord_1|1|" ++ digest "ord_1" 1 ++ "|" ++ resource ++ "|appr_1"

/-- However digests are made of requests, there are two requests with their own digests that are one
attempt. -/
theorem requests_collide (digest : String → Int → String) (resource revision : String) :
    let order := spelledOrder digest resource
    (spelledOut digest resource order revision).encoding =
        encoding ⟨order, 2, digest order 2, resource, revision⟩ ∧
      (spelledOut digest resource order revision).logicalOrderId ≠ order := by
  constructor
  · have one : toString (1 : Int) = "1" := rfl
    have two : toString (2 : Int) = "2" := rfl
    apply String.toList_inj.mp
    simp [encoding, spelledOut, spelledOrder, one, two, String.toList_append]
  · intro same
    have longer := congrArg (fun text => text.toList.length) same
    have five : "ord_1".toList.length = 5 := rfl
    have eight : "ord_1|1|".toList.length = 8 := rfl
    simp only [spelledOut, spelledOrder, String.toList_append, List.length_append, five, eight] at longer
    omega

/-- Two attempts with one operation id, whatever the digest. -/
theorem operationId_collides :
    encoding ⟨"ord_1", 1, "1f", "/fit", "appr_1|2|2e|/fit|appr_2"⟩ =
        encoding ⟨"ord_1|1|1f|/fit|appr_1", 2, "2e", "/fit", "appr_2"⟩ ∧
      ¬ Unambiguous ⟨"ord_1", 1, "1f", "/fit", "appr_1|2|2e|/fit|appr_2"⟩ := by
  have same : encoding ⟨"ord_1", 1, "1f", "/fit", "appr_1|2|2e|/fit|appr_2"⟩ =
      encoding ⟨"ord_1|1|1f|/fit|appr_1", 2, "2e", "/fit", "appr_2"⟩ := by decide +kernel
  refine ⟨same, fun alone => ?_⟩
  have impossible := alone _ same
  revert impossible
  decide

end AttemptIdentity

end AgentReady.Settlement
