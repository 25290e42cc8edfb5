import AgentReady.Lib.Json
import Mathlib.Data.List.TakeWhile
import Mathlib.Data.Nat.Factorization.Basic
import Mathlib.Tactic.FieldSimp

/-!
The texts of numbers can be read back.

* `ofText_render`: the number that a text was written for, of every number that has a decimal text.
* `plain_render`: the characters of the text of a number.
-/

namespace Json.Number

/-! ### Reading -/

/-- The value of digits with a point among them. -/
def ofDigits (text : List Char) : ℚ :=
  (Nat.ofDigitChars 10 (text.takeWhile (· ≠ '.') ++ (text.dropWhile (· ≠ '.')).tail) 0 : ℚ) /
    10 ^ (text.dropWhile (· ≠ '.')).tail.length

/-- The value of digits after a sign, if there is one. -/
def ofDecimal : List Char → ℚ
  | '-' :: text => -ofDigits text
  | text => ofDigits text

/-- The power of ten that an exponent stands for. -/
def ofExponent : List Char → ℚ
  | 'e' :: '-' :: digits => (10 ^ Nat.ofDigitChars 10 digits 0)⁻¹
  | 'e' :: '+' :: digits => 10 ^ Nat.ofDigitChars 10 digits 0
  | _ => 1

/-- The value of a number's text. -/
def ofText (text : List Char) : ℚ :=
  ofDecimal (text.takeWhile (· ≠ 'e')) * ofExponent (text.dropWhile (· ≠ 'e'))

/-! ### Digits -/

theorem toList_digits (n : Nat) : (toString n).toList = Nat.toDigits 10 n := Nat.toList_repr

theorem isDigit_of_mem {n : Nat} {c : Char} (mem : c ∈ (toString n).toList) : c.isDigit := by
  rw [toList_digits] at mem
  exact Nat.isDigit_of_mem_toDigits (by decide) (by decide) mem

theorem ofDigitChars_replicate (digits : List Char) :
    ∀ n, Nat.ofDigitChars 10 (List.replicate n '0' ++ digits) 0 = Nat.ofDigitChars 10 digits 0
  | 0 => rfl
  | n + 1 => by
      rw [List.replicate_succ, List.cons_append, Nat.ofDigitChars_cons]
      exact ofDigitChars_replicate digits n

/-- The digits of `fixed` before the point is put in. -/
def padded (n k : Nat) : List Char :=
  List.replicate (k + 1 - (toString n).length) '0' ++ (toString n).toList

theorem isDigit_padded {n k : Nat} {c : Char} (mem : c ∈ padded n k) : c.isDigit := by
  rcases List.mem_append.mp mem with mem | mem
  · rw [List.eq_of_mem_replicate mem]
    rfl
  · exact isDigit_of_mem mem

theorem length_padded (n k : Nat) : k < (padded n k).length := by
  simp only [padded, List.length_append, List.length_replicate, String.length_toList]
  omega

/-- The text of `fixed`, without its sign. -/
def body (n k : Nat) : List Char :=
  if k = 0 then padded n k else
    (padded n k).take ((padded n k).length - k) ++ '.' :: (padded n k).drop ((padded n k).length - k)

theorem toList_fixed (n : Int) (k : Nat) :
    (fixed n k).toList = if n < 0 then '-' :: body n.natAbs k else body n.natAbs k := by
  have lengths : (String.ofList (List.replicate (k + 1 - (toString n.natAbs).length) '0') ++
      toString n.natAbs).toList = padded n.natAbs k := by
    simp [padded]
  have length : (String.ofList (List.replicate (k + 1 - (toString n.natAbs).length) '0') ++
      toString n.natAbs).length = (padded n.natAbs k).length := by
    rw [← lengths, String.length_toList]
  unfold fixed body
  dsimp only
  rw [length, lengths]
  by_cases integral : k = 0
  · simp only [if_pos integral]
    split
    · rw [String.toList_append, lengths]
      rfl
    · exact lengths
  · simp only [if_neg integral]
    split <;> simp

theorem ne_of_isDigit {c d : Char} (digit : c.isDigit) (other : ¬ d.isDigit) : c ≠ d := by
  rintro rfl
  exact other digit

/-- The digits of the text, without the point: all of them, and how many follow it. -/
theorem digits_body (n k : Nat) :
    (body n k).takeWhile (· ≠ '.') ++ ((body n k).dropWhile (· ≠ '.')).tail = padded n k ∧
      ((body n k).dropWhile (· ≠ '.')).tail.length = k := by
  have whole : ∀ c ∈ padded n k, (c ≠ '.' : Prop) := fun c mem =>
    ne_of_isDigit (isDigit_padded mem) (by decide)
  unfold body
  split
  · rename_i integral
    subst integral
    rw [List.takeWhile_eq_self_iff.mpr (by simpa using whole),
      List.dropWhile_eq_nil_iff.mpr (by simpa using whole)]
    simp
  · have before : ∀ c ∈ (padded n k).take ((padded n k).length - k), (c ≠ '.' : Prop) :=
      fun c mem => whole c (List.mem_of_mem_take mem)
    rw [List.takeWhile_append_of_pos (by simpa using before),
      List.dropWhile_append_of_pos (by simpa using before)]
    have size : ((padded n k).drop ((padded n k).length - k)).length = k := by
      have := length_padded n k
      simp only [List.length_drop]
      omega
    simp only [ne_eq, not_true_eq_false, decide_false, Bool.false_eq_true, not_false_eq_true,
      List.takeWhile_cons_of_neg, List.append_nil, List.dropWhile_cons_of_neg, List.tail_cons,
      List.take_append_drop, size, and_self]

theorem ofDigitChars_padded (n k : Nat) : Nat.ofDigitChars 10 (padded n k) 0 = n := by
  rw [padded, ofDigitChars_replicate, toList_digits, Nat.ofDigitChars_ten_toDigits]

theorem ofDigits_body (n k : Nat) : ofDigits (body n k) = n / 10 ^ k := by
  unfold ofDigits
  rw [(digits_body n k).1, (digits_body n k).2, ofDigitChars_padded]

theorem head_body {n k : Nat} : ∀ text, body n k ≠ '-' :: text := by
  intro text same
  have digit : ∀ c, (body n k).head? = some c → c.isDigit := by
    intro c first
    have some_ := length_padded n k
    unfold body at first
    split at first
    · exact isDigit_padded (List.mem_of_head? first)
    · have taken : 0 < (padded n k).length - k := by omega
      rw [List.head?_append_of_ne_nil _ (by
        intro none_
        have := congrArg List.length none_
        simp only [List.length_take, List.length_nil] at this
        omega)] at first
      exact isDigit_padded (List.mem_of_mem_take (List.mem_of_head? first))
  rw [same] at digit
  exact absurd (digit '-' rfl) (by decide)

theorem ofDecimal_fixed (n : Int) (k : Nat) : ofDecimal (fixed n k).toList = n / 10 ^ k := by
  rw [toList_fixed]
  split
  · rename_i negative
    rw [ofDecimal, ofDigits_body, Nat.cast_natAbs, abs_of_neg negative]
    push_cast
    ring
  · rename_i nonnegative
    have value : ofDecimal (body n.natAbs k) = ofDigits (body n.natAbs k) := by
      unfold ofDecimal
      split
      · rename_i same
        exact absurd same (head_body _)
      · rfl
    rw [value, ofDigits_body, Nat.cast_natAbs, abs_of_nonneg (by omega)]

/-! ### Characters -/

/-- The characters that the text of a number may have. -/
def IsPlain (c : Char) : Prop := c.isDigit ∨ c = '.' ∨ c = '-' ∨ c = '+' ∨ c = 'e'

instance : DecidablePred IsPlain := fun _ => inferInstanceAs (Decidable (_ ∨ _))

theorem mem_body {n k : Nat} {c : Char} (mem : c ∈ body n k) : c.isDigit ∨ c = '.' := by
  unfold body at mem
  split at mem
  · exact .inl (isDigit_padded mem)
  · simp only [List.mem_append, List.mem_cons] at mem
    rcases mem with mem | rfl | mem
    · exact .inl (isDigit_padded (List.mem_of_mem_take mem))
    · exact .inr rfl
    · exact .inl (isDigit_padded (List.mem_of_mem_drop mem))

theorem mem_fixed {n : Int} {k : Nat} {c : Char} (mem : c ∈ (fixed n k).toList) :
    c.isDigit ∨ c = '.' ∨ c = '-' := by
  rw [toList_fixed] at mem
  split at mem
  · rcases List.mem_cons.mp mem with rfl | mem
    · exact .inr (.inr rfl)
    · exact (mem_body mem).imp_right .inl
  · exact (mem_body mem).imp_right .inl

theorem ne_e_of_mem_fixed {n : Int} {k : Nat} {c : Char} (mem : c ∈ (fixed n k).toList) : c ≠ 'e' := by
  rcases mem_fixed mem with digit | rfl | rfl
  · exact ne_of_isDigit digit (by decide)
  · decide
  · decide

/-! ### Writing -/

theorem ofText_fixed (n : Int) (k : Nat) : ofText (fixed n k).toList = n / 10 ^ k := by
  have none_ : ∀ c ∈ (fixed n k).toList, (c ≠ 'e' : Prop) := fun c mem => ne_e_of_mem_fixed mem
  unfold ofText
  rw [List.takeWhile_eq_self_iff.mpr (by simpa using none_),
    List.dropWhile_eq_nil_iff.mpr (by simpa using none_), ofDecimal_fixed]
  exact mul_one _

theorem trimmed_spec : ∀ fuel n, (trimmed fuel n).1 * 10 ^ (trimmed fuel n).2 = n
  | 0, n => by simp [trimmed]
  | fuel + 1, n => by
      unfold trimmed
      split
      · rename_i divides
        dsimp only
        rw [pow_succ, ← mul_assoc, trimmed_spec fuel (n / 10)]
        omega
      · simp

/-- The text of `exponential`. -/
theorem toList_exponential (n : Int) (k : Nat) : ∃ m digits : Nat, ∃ e : Int, ∃ s : Int,
    (exponential n k).toList = (fixed (s * m) digits).toList ++
      'e' :: (if e < 0 then '-' else '+') :: (toString e.natAbs).toList ∧
    ((s * m : Int) : ℚ) / 10 ^ digits * (10 : ℚ) ^ e = n / 10 ^ k := by
  obtain ⟨m, z, trims⟩ : ∃ m z, trimmed (toString n.natAbs).length n.natAbs = (m, z) := ⟨_, _, rfl⟩
  have value := trimmed_spec (toString n.natAbs).length n.natAbs
  rw [trims] at value
  dsimp only at value
  refine ⟨m, (toString m).length - 1, z + ((toString m).length - 1 : Nat) - k, n.sign, ?_, ?_⟩
  · unfold exponential
    rw [trims]
    dsimp only
    simp only [String.toList_append, List.append_assoc]
    congr 1
    split <;> simp
  · have whole : (n : ℚ) = (n.sign * m : Int) * 10 ^ z := by
      have : n = n.sign * (m * 10 ^ z : Nat) := by
        rw [value]
        exact (Int.sign_mul_natAbs n).symm
      calc (n : ℚ) = ((n.sign * (m * 10 ^ z : Nat) : Int) : ℚ) := by rw [← this]
        _ = (n.sign * m : Int) * 10 ^ z := by push_cast; ring
    have ten : (10 : ℚ) ≠ 0 := by norm_num
    rw [whole, zpow_sub₀ ten, zpow_add₀ ten, zpow_natCast, zpow_natCast, zpow_natCast]
    field_simp

theorem ofExponent_text (e : Int) :
    ofExponent ('e' :: (if e < 0 then '-' else '+') :: (toString e.natAbs).toList) = (10 : ℚ) ^ e := by
  have value : Nat.ofDigitChars 10 (toString e.natAbs).toList 0 = e.natAbs := by
    rw [toList_digits, Nat.ofDigitChars_ten_toDigits]
  split
  · rename_i negative
    rw [ofExponent, value, ← zpow_natCast, ← zpow_neg]
    congr 1
    omega
  · rename_i nonnegative
    rw [ofExponent, value, ← zpow_natCast]
    congr 1
    omega

theorem ofText_exponential (n : Int) (k : Nat) : ofText (exponential n k).toList = n / 10 ^ k := by
  obtain ⟨m, digits, e, s, text, value⟩ := toList_exponential n k
  have none_ : ∀ c ∈ (fixed (s * m) digits).toList, (c ≠ 'e' : Prop) := fun c mem => ne_e_of_mem_fixed mem
  rw [text]
  unfold ofText
  rw [List.takeWhile_append_of_pos (by simpa using none_), List.dropWhile_append_of_pos (by simpa using none_),
    List.takeWhile_cons_of_neg (by simp), List.dropWhile_cons_of_neg (by simp), List.append_nil,
    ofDecimal_fixed, ofExponent_text, value]

/-! ### Decimals -/

/-- The number has a decimal text. -/
def Decimal (q : ℚ) : Prop := ∃ k : Nat, (q * 10 ^ k).den = 1

theorem den_mul_pow {q : ℚ} {k : Nat} : (q * 10 ^ k).den = 1 ↔ q.den ∣ 10 ^ k := by
  have quotient : q * 10 ^ k = ((q.num * 10 ^ k : Int) : ℚ) / (q.den : Int) := by
    conv_lhs => rw [← Rat.num_div_den q]
    push_cast
    ring
  have coprime : Nat.Coprime q.den q.num.natAbs := q.reduced.symm
  rw [quotient, Rat.den_div_intCast_eq_one_iff _ _ (Int.natCast_ne_zero.mpr q.den_nz), Int.natCast_dvd,
    Int.natAbs_mul, Int.natAbs_pow]
  exact coprime.dvd_mul_left

/-- A decimal has no more places than its denominator. -/
theorem Decimal.places_le {q : ℚ} (decimal : Decimal q) : (q * 10 ^ q.den).den = 1 := by
  obtain ⟨k, integral⟩ := decimal
  rw [den_mul_pow] at *
  have ten : ∀ n, (10 ^ n : Nat) ≠ 0 := fun n => pow_ne_zero n (by decide)
  rw [← Nat.factorization_le_iff_dvd q.den_nz (ten _)] at *
  intro p
  have bounded := integral p
  simp only [Nat.factorization_pow, Finsupp.smul_apply, smul_eq_mul] at *
  by_cases factor : Nat.factorization 10 p = 0
  · simpa [factor] using bounded
  · calc q.den.factorization p ≤ q.den := (Nat.factorization_lt p q.den_nz).le
      _ ≤ q.den * Nat.factorization 10 p := Nat.le_mul_of_pos_right _ (Nat.pos_of_ne_zero factor)

theorem places_spec {q : ℚ} : ∀ fuel k, (q * 10 ^ (k + fuel)).den = 1 → (q * 10 ^ places q fuel k).den = 1
  | 0, k, integral => by simpa [places] using integral
  | fuel + 1, k, integral => by
      unfold places
      split
      · assumption
      · exact places_spec fuel (k + 1) (by rwa [Nat.add_assoc, Nat.add_comm 1])

theorem le_places (q : ℚ) : ∀ fuel k, k ≤ places q fuel k
  | 0, k => le_rfl
  | fuel + 1, k => by
      unfold places
      split
      · exact le_rfl
      · exact (Nat.le_succ k).trans (le_places q fuel (k + 1))

/-- What is written for a decimal is read back. -/
theorem ofText_render {q : ℚ} (decimal : Decimal q) : ofText (Number.finite q).render.toList = q := by
  have integral : (q * 10 ^ places q q.den 0).den = 1 :=
    places_spec q.den 0 (by simpa using decimal.places_le)
  have whole : ((⌊q * 10 ^ places q q.den 0⌋ : Int) : ℚ) / 10 ^ places q q.den 0 = q := by
    rw [← (Rat.den_eq_one_iff _).mp integral, Int.floor_intCast, (Rat.den_eq_one_iff _).mp integral]
    exact mul_div_cancel_right₀ q (pow_ne_zero _ (by norm_num))
  unfold render
  dsimp only
  split
  · exact (ofText_fixed _ _).trans whole
  · exact (ofText_exponential _ _).trans whole

theorem body_ne_nil (n k : Nat) : body n k ≠ [] := by
  have size := length_padded n k
  unfold body
  split
  · exact List.ne_nil_of_length_pos (by omega)
  · simp

theorem fixed_ne_nil (n : Int) (k : Nat) : (fixed n k).toList ≠ [] := by
  rw [toList_fixed]
  split
  · simp
  · exact body_ne_nil _ _

theorem render_ne_nil (q : ℚ) : (Number.finite q).render.toList ≠ [] := by
  unfold render
  dsimp only
  split
  · exact fixed_ne_nil _ _
  · obtain ⟨m, digits, e, s, text, -⟩ := toList_exponential ⌊q * 10 ^ places q q.den 0⌋ (places q q.den 0)
    rw [text]
    simp

theorem mem_render {q : ℚ} {c : Char} (mem : c ∈ (Number.finite q).render.toList) : IsPlain c := by
  have fixed : ∀ n k, c ∈ (fixed n k).toList → IsPlain c := by
    intro n k mem
    rcases mem_fixed mem with digit | point | minus
    · exact .inl digit
    · exact .inr (.inl point)
    · exact .inr (.inr (.inl minus))
  unfold render at mem
  dsimp only at mem
  split at mem
  · exact fixed _ _ mem
  · obtain ⟨m, digits, e, s, text, -⟩ := toList_exponential ⌊q * 10 ^ places q q.den 0⌋ (places q q.den 0)
    rw [text] at mem
    simp only [List.mem_append, List.mem_cons] at mem
    rcases mem with mem | rfl | sign | mem
    · exact fixed _ _ mem
    · exact .inr (.inr (.inr (.inr rfl)))
    · split at sign
      · exact .inr (.inr (.inl sign))
      · exact .inr (.inr (.inr (.inl sign)))
    · exact .inl (isDigit_of_mem mem)

end Json.Number
