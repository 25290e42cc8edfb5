import AgentReady.Settlement.Requirements

/-!
Which terms a presented payment is accepted with (`verifyCanonicalRequirements` of `packages/payments/src/x402.ts`).

The terms come from a JSON text that the payer wrote, and any of them may be of any type or absent. The amount is
converted by `BigInt`, and only where it is there.

* `verifyCanonicalRequirements_ok`: when the check returns, and when it finds no error.
* `requirements_exact_iff`: when it does what it should.
-/

namespace AgentReady.Settlement

/-! ### Decimal integers -/

/-- The integer that the text spells in decimal: digits, and perhaps a minus sign before them. -/
def decimalInteger? (text : String) : Option Int :=
  match text.toList with
  | '-' :: rest => (digits 10 rest).map fun n => -Int.ofNat n
  | text => (digits 10 text).map Int.ofNat

section Decimal

variable {text : List Char} {c : Char} {n : Nat}

theorem isDigit_of_digitValue (digit : digitValue c < 10) : 48 ≤ c.toNat ∧ c.toNat ≤ 57 := by
  unfold digitValue at digit
  split at digit
  · next decimal => simpa [Char.isDigit, UInt32.le_iff_toNat_le] using decimal
  split at digit
  · next lower =>
      have from_ : 97 ≤ c.toNat := by
        have := (Bool.and_eq_true_iff.mp lower).1
        simpa [Char.le_def, UInt32.le_iff_toNat_le] using this
      omega
  split at digit
  · next upper =>
      have from_ : 65 ≤ c.toNat := by
        have := (Bool.and_eq_true_iff.mp upper).1
        simpa [Char.le_def, UInt32.le_iff_toNat_le] using this
      omega
  · omega

theorem not_isSpace (visible : 45 ≤ c.toNat ∧ c.toNat ≤ 57) : isSpace c = false := by
  simp only [isSpace, List.mem_cons, List.not_mem_nil, or_false, Bool.or_eq_false_iff, decide_eq_false_iff_not,
    Bool.and_eq_false_iff]
  omega

theorem digits_eq_some (spelled : digits 10 text = some n) : text ≠ [] ∧ ∀ c ∈ text, digitValue c < 10 := by
  unfold digits at spelled
  split at spelled
  · next all => simpa using all
  · cases spelled

theorem dropWhile_isSpace (visible : ∀ c ∈ text, isSpace c = false) : text.dropWhile isSpace = text := by
  cases text with
  | nil => rfl
  | cons c rest => rw [List.dropWhile_cons_of_neg (by simp [visible c List.mem_cons_self])]

theorem trimmed_eq {text : String} (visible : ∀ c ∈ text.toList, isSpace c = false) : trimmed text = text.toList := by
  unfold trimmed
  rw [dropWhile_isSpace visible, dropWhile_isSpace fun c mem => visible c (List.mem_reverse.mp mem),
    List.reverse_reverse]

theorem not_digit {c : Char} (sign : c ∈ ['x', 'X', 'o', 'O', 'b', 'B', '-', '+']) : ¬ digitValue c < 10 := by
  intro digit
  have range := isDigit_of_digitValue digit
  simp only [List.mem_cons, List.not_mem_nil, or_false] at sign
  rcases sign with rfl | rfl | rfl | rfl | rfl | rfl | rfl | rfl <;> revert range <;> decide

/-- `BigInt` of a decimal integer. -/
theorem parseBigInt_decimal {text : String} {n : Int} (spelled : decimalInteger? text = some n) :
    parseBigInt text = some n := by
  unfold decimalInteger? at spelled
  split at spelled
  · next rest signed =>
      obtain ⟨m, read, rfl⟩ := Option.map_eq_some_iff.mp spelled
      have visible : ∀ c ∈ text.toList, isSpace c = false := by
        intro c mem
        rw [signed] at mem
        rcases List.mem_cons.mp mem with rfl | mem
        · decide
        · have range := isDigit_of_digitValue ((digits_eq_some read).2 c mem)
          exact not_isSpace (by omega)
      unfold parseBigInt
      rw [trimmed_eq visible, signed]
      simp [read]
  · next unsigned =>
      obtain ⟨m, read, rfl⟩ := Option.map_eq_some_iff.mp spelled
      obtain ⟨nonempty, all⟩ := digits_eq_some read
      have visible : ∀ c ∈ text.toList, isSpace c = false := by
        intro c mem
        have range := isDigit_of_digitValue (all c mem)
        exact not_isSpace (by omega)
      have plain : ∀ c ∈ ['x', 'X', 'o', 'O', 'b', 'B', '-', '+'], c ∉ text.toList :=
        fun c sign mem => not_digit sign (all c mem)
      unfold parseBigInt
      rw [trimmed_eq visible]
      -- No prefix of another base and no sign stands among the digits.
      split
      · next empty => exact absurd empty nonempty
      all_goals first
        | exact spelled
        | next is => simp [is] at plain

end Decimal

/-! ### The check -/

section Check

variable {supplied : SuppliedRequirements} {canonical : CanonicalPaymentRequirements} {c : Int} {field : Option Json}
  {text : String} {message : String → String}

/-- The presented terms are the canonical ones, apart from the amount. -/
structure Matches (supplied : SuppliedRequirements) (canonical : CanonicalPaymentRequirements) : Prop where
  scheme : supplied.scheme = some (.str canonical.scheme)
  network : supplied.network = some (.str canonical.network)
  asset : supplied.asset = some (.str canonical.asset)
  payTo : supplied.payTo = some (.str canonical.payTo)
  memo : supplied.memo = some canonical.memo

/-- The presented amount is the decimal spelling of an integer that is not below the canonical one. -/
def Covers (supplied : SuppliedRequirements) (c : Int) : Prop :=
  ∃ text n, supplied.amount = some (.str text) ∧ decimalInteger? text = some n ∧ c ≤ n

/-- The texts that are shown of the terms that do not match. -/
def Showable (supplied : SuppliedRequirements) : Prop :=
  ∀ field ∈ [supplied.scheme, supplied.network, supplied.asset, supplied.payTo], ∀ value, field = some value →
    convertible value = true

theorem shown_ok (convertible_ : ∀ value, field = some value → convertible value = true) :
    ∃ got, shown field = .ok got := by
  cases field with
  | none => exact ⟨_, rfl⟩
  | some value =>
      refine ⟨value.toText, ?_⟩
      rw [shown, primitive, if_pos (convertible_ value rfl)]

/-- A term is compared. -/
theorem unlessText_ok (text : String) (message : String → String) (convertible_ : ∀ value, field = some value → convertible value = true) :
    ∃ errors, unlessText field text message = .ok errors ∧ (errors = [] ↔ field = some (.str text)) := by
  unfold unlessText
  by_cases same : field = some (.str text)
  · rw [if_pos (any_isText.mpr same)]
    exact ⟨[], rfl, iff_of_true rfl same⟩
  · obtain ⟨got, shown_⟩ := shown_ok convertible_
    rw [if_neg fun same' => same (any_isText.mp same'), shown_]
    exact ⟨[message got], rfl, iff_of_false (by simp) same⟩

/-- A term that is compared on the way to a result can be shown. -/
theorem convertible_of_unlessText {f : List String → Except String (List String)} {errors : List String}
    (ok : (unlessText field text message >>= f) = .ok errors) :
    (∀ value, field = some value → convertible value = true) ∧ ∃ more, f more = .ok errors := by
  cases compared : unlessText field text message with
  | error thrown =>
      rw [compared] at ok
      cases ok
  | ok more =>
      rw [compared] at ok
      refine ⟨fun value there => ?_, more, ok⟩
      by_contra not_
      have other : field.any (Json.isText text) = false := by
        rw [Bool.eq_false_iff, ne_eq, any_isText, there]
        intro same
        cases same
        exact not_ rfl
      rw [unlessText, other, there, shown, primitive, if_neg not_] at compared
      cases compared

theorem bigInt_decimal {n : Int} (spelled : decimalInteger? text = some n) : bigInt (.str text) = .ok n := by
  have itself : primitive (.str text) = .ok text := rfl
  unfold bigInt
  dsimp only [bind, Except.bind]
  rw [itself]
  dsimp only
  rw [parseBigInt_decimal spelled]
  rfl

theorem convertible_of_bigInt {amount : Json} {n : Int} (ok : bigInt amount = .ok n) : convertible amount = true := by
  by_contra not_
  have thrown : primitive amount = .error "Cannot convert object to primitive value" := if_neg not_
  cases amount with
  | arr items =>
      unfold bigInt at ok
      rw [thrown] at ok
      cases ok
  | obj fields =>
      unfold bigInt at ok
      rw [thrown] at ok
      cases ok
  | _ => exact not_ rfl

/-- The check returns if all terms can be shown and the amount is an integer, and finds no error if the terms match
and the amount is not below the canonical one. -/
theorem verifyCanonicalRequirements_ok (decimal : decimalInteger? canonical.amount = some c) (shown_ : Showable supplied)
    (integer : ∀ amount, supplied.amount = some amount → ∃ n, bigInt amount = .ok n) :
    ∃ errors, verifyCanonicalRequirements supplied canonical = .ok errors ∧
      (errors = [] ↔ Matches supplied canonical ∧
        ∀ amount, supplied.amount = some amount → ∀ n, bigInt amount = .ok n → c ≤ n) := by
  obtain ⟨e₁, scheme, same₁⟩ := unlessText_ok canonical.scheme
    (fun got => s!"scheme must be {canonical.scheme}, got {got}") (shown_ supplied.scheme (by simp))
  obtain ⟨e₂, network, same₂⟩ := unlessText_ok canonical.network
    (fun got => s!"wrong network: expected {canonical.network}, got {got}") (shown_ supplied.network (by simp))
  obtain ⟨e₃, asset, same₃⟩ := unlessText_ok canonical.asset
    (fun got => s!"wrong asset: expected {canonical.asset}, got {got}") (shown_ supplied.asset (by simp))
  obtain ⟨e₄, payTo, same₄⟩ := unlessText_ok canonical.payTo
    (fun got => s!"wrong payee: expected {canonical.payTo}, got {got}") (shown_ supplied.payTo (by simp))
  have text_ : ∀ value, supplied.memo.map Json.str = some value → convertible value = true := by
    intro value there
    obtain ⟨text, -, rfl⟩ := Option.map_eq_some_iff.mp there
    rfl
  obtain ⟨e₅, memo, same₅⟩ := unlessText_ok canonical.memo
    (fun got => s!"memo mismatch: expected {canonical.memo}, got {got}") text_
  have matches_ : e₁ ++ e₂ ++ e₃ ++ e₄ ++ e₅ = [] ↔ Matches supplied canonical := by
    simp only [List.append_eq_nil_iff, same₁, same₂, same₃, same₄, same₅]
    constructor
    · intro all
      obtain ⟨⟨⟨⟨scheme, network⟩, asset⟩, payTo⟩, memo⟩ := all
      obtain ⟨memo', there, is⟩ := Option.map_eq_some_iff.mp memo
      exact ⟨scheme, network, asset, payTo, by rw [there, Json.str.inj is]⟩
    · intro all
      exact ⟨⟨⟨⟨all.scheme, all.network⟩, all.asset⟩, all.payTo⟩, by rw [all.memo]; rfl⟩
  unfold verifyCanonicalRequirements
  rw [scheme, network, asset, payTo, memo]
  cases there : supplied.amount with
  | none =>
      refine ⟨_, rfl, matches_.trans (and_iff_left ?_).symm⟩
      intro amount none_
      cases none_
  | some amount =>
      obtain ⟨n, is⟩ := integer amount there
      have covers : (∀ amount', some amount = some amount' → ∀ n, bigInt amount' = .ok n → c ≤ n) ↔ c ≤ n := by
        constructor
        · intro all
          exact all amount rfl n is
        · intro covers amount' same n' is'
          cases same
          rw [is] at is'
          cases is'
          exact covers
      rw [covers, ← matches_]
      dsimp only [bind, Except.bind]
      rw [is, bigInt_decimal decimal]
      dsimp only
      split
      · next below =>
          rw [shown, primitive, if_pos (convertible_of_bigInt is)]
          refine ⟨_, rfl, iff_of_false (by simp) ?_⟩
          intro all
          omega
      · next above => exact ⟨_, rfl, (and_iff_left (by omega)).symm⟩

/-- What is there where the check returns. -/
theorem shown_of_verified {errors : List String} (ok : verifyCanonicalRequirements supplied canonical = .ok errors) :
    Showable supplied ∧ ∀ amount, supplied.amount = some amount → ∃ n, bigInt amount = .ok n := by
  unfold verifyCanonicalRequirements at ok
  obtain ⟨scheme, e₁, ok⟩ := convertible_of_unlessText ok
  obtain ⟨network, e₂, ok⟩ := convertible_of_unlessText ok
  obtain ⟨asset, e₃, ok⟩ := convertible_of_unlessText ok
  obtain ⟨payTo, e₄, ok⟩ := convertible_of_unlessText ok
  obtain ⟨-, e₅, ok⟩ := convertible_of_unlessText ok
  constructor
  · intro field mem
    simp only [List.mem_cons, List.not_mem_nil, or_false] at mem
    rcases mem with rfl | rfl | rfl | rfl
    · exact scheme
    · exact network
    · exact asset
    · exact payTo
  · intro amount there
    rw [there] at ok
    cases is : bigInt amount with
    | ok n => exact ⟨n, rfl⟩
    | error thrown =>
        dsimp only at ok
        rw [is] at ok
        cases ok

/-- The terms of a payment on which the check does what it should: the terms can be shown, the amount, where it is
there, converts to an integer, and it is there and in decimal if the other terms match and it is not too low. -/
structure WellSpelled (supplied : SuppliedRequirements) (canonical : CanonicalPaymentRequirements) (c : Int) : Prop where
  shown : Showable supplied
  integer : ∀ amount, supplied.amount = some amount → ∃ n, bigInt amount = .ok n
  decimal : Matches supplied canonical → ∃ amount, supplied.amount = some amount ∧
    ∀ n, bigInt amount = .ok n → c ≤ n → ∃ text, amount = .str text ∧ (decimalInteger? text).isSome = true

theorem requirements_exact_iff (decimal : decimalInteger? canonical.amount = some c) :
    (∃ errors, verifyCanonicalRequirements supplied canonical = .ok errors ∧
      (errors = [] ↔ Matches supplied canonical ∧ Covers supplied c)) ↔ WellSpelled supplied canonical c := by
  constructor
  · intro exact_
    obtain ⟨errors, ok, exact_⟩ := exact_
    obtain ⟨shown_, integer⟩ := shown_of_verified ok
    obtain ⟨errors', ok', found⟩ := verifyCanonicalRequirements_ok decimal shown_ integer
    rw [ok] at ok'
    cases ok'
    refine ⟨shown_, integer, fun matches_ => ?_⟩
    have covers := found.symm.trans exact_
    cases there : supplied.amount with
    | none =>
        obtain ⟨-, text, n, is, -⟩ := covers.mp ⟨matches_, fun amount none_ => by rw [there] at none_; cases none_⟩
        rw [there] at is
        cases is
    | some amount =>
        refine ⟨amount, rfl, fun n is above => ?_⟩
        have enough : ∀ amount', supplied.amount = some amount' → ∀ n, bigInt amount' = .ok n → c ≤ n := by
          intro amount' there' n' is'
          rw [there] at there'
          cases there'
          rw [is] at is'
          cases is'
          exact above
        obtain ⟨-, text, n, is', spelled, -⟩ := covers.mp ⟨matches_, enough⟩
        rw [there] at is'
        exact ⟨text, Option.some.inj is', by rw [spelled]; rfl⟩
  · intro spelled
    obtain ⟨errors, ok, found⟩ := verifyCanonicalRequirements_ok decimal spelled.shown spelled.integer
    refine ⟨errors, ok, found.trans (and_congr_right fun matches_ => ?_)⟩
    obtain ⟨amount, there, inDecimal⟩ := spelled.decimal matches_
    constructor
    · intro enough
      obtain ⟨n, is⟩ := spelled.integer amount there
      have above := enough amount there n is
      obtain ⟨text, rfl, some_⟩ := inDecimal n is above
      obtain ⟨n', spelled'⟩ := Option.isSome_iff_exists.mp some_
      rw [bigInt_decimal spelled'] at is
      cases is
      exact ⟨text, n, there, spelled', above⟩
    · intro covers amount' there' n' is'
      obtain ⟨text, n, is, spelled', above⟩ := covers
      rw [is] at there'
      cases there'
      rw [bigInt_decimal spelled'] at is'
      cases is'
      exact above

end Check

/-- The terms of a resource for ten thousand units. -/
def canonicalTerms : CanonicalPaymentRequirements where
  network := "devnet"
  asset := "usdc"
  amount := "10000"
  payTo := "payee"
  maxTimeoutSeconds := 300
  memo := "memo"

/-- The terms with another amount. -/
def presenting (amount : Option Json) : SuppliedRequirements :=
  ⟨some (.str "exact"), some (.str "devnet"), some (.str "usdc"), amount, some (.str "payee"), some "memo"⟩

theorem requirements_exact_paid : verifyCanonicalRequirements (presenting (some (.str "10000"))) canonicalTerms = .ok [] ∧
    ((∃ errors, verifyCanonicalRequirements (presenting (some (.str "10000"))) canonicalTerms = .ok errors ∧
      (errors = [] ↔ Matches (presenting (some (.str "10000"))) canonicalTerms ∧
        Covers (presenting (some (.str "10000"))) 10000)) ↔
      WellSpelled (presenting (some (.str "10000"))) canonicalTerms 10000) :=
  ⟨by decide +kernel, requirements_exact_iff (by decide +kernel)⟩

/-- Without an amount the terms are accepted. -/
theorem requirements_exact_false : ¬ ∀ (supplied : SuppliedRequirements) (canonical : CanonicalPaymentRequirements)
    (c : Int), decimalInteger? canonical.amount = some c →
      ∃ errors, verifyCanonicalRequirements supplied canonical = .ok errors ∧
        (errors = [] ↔ Matches supplied canonical ∧ Covers supplied c) := by
  intro all
  obtain ⟨errors, ok, exact_⟩ := all (presenting none) canonicalTerms 10000 (by decide +kernel)
  have accepted : verifyCanonicalRequirements (presenting none) canonicalTerms = .ok [] := by decide +kernel
  rw [accepted] at ok
  cases ok
  obtain ⟨-, text, n, there, -⟩ := exact_.mp rfl
  cases there

end AgentReady.Settlement
