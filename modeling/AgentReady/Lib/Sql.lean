import Mathlib.Data.Option.Basic
import Mathlib.Order.Defs.LinearOrder

/-!
The conditions of SQL.

A condition is true, false or NULL, and a comparison with NULL is NULL. The places that
test a condition read NULL differently: an `IF` or a `WHERE` takes effect only where the
condition is true (`Fires`), a `CHECK` is violated only where it is false (`Passes`).
Both commute with the connectives, and a negation exchanges them, so a condition of
either kind reduces to a proposition about the columns it reads.
-/

namespace Sql

variable {α : Type}

/-- The truth value of a condition; `none` is NULL. -/
abbrev Truth := Option Bool

namespace Truth

def not : Truth → Truth
  | some b => some !b
  | none => none

def and : Truth → Truth → Truth
  | some false, _ => some false
  | _, some false => some false
  | some true, some true => some true
  | _, _ => none

def or : Truth → Truth → Truth
  | some true, _ => some true
  | _, some true => some true
  | some false, some false => some false
  | _, _ => none

/-- An `IF` or a `WHERE` with the condition takes effect. -/
def Fires (t : Truth) : Prop := t = some true

/-- A `CHECK` of the condition accepts the row. -/
def Passes (t : Truth) : Prop := t ≠ some false

instance (t : Truth) : Decidable t.Fires := inferInstanceAs (Decidable (t = some true))

instance (t : Truth) : Decidable t.Passes := inferInstanceAs (Decidable (t ≠ some false))

variable {t u : Truth}

@[simp] theorem fires_and : (t.and u).Fires ↔ t.Fires ∧ u.Fires := by
  rcases t with _ | _ | _ <;> rcases u with _ | _ | _ <;> decide

@[simp] theorem fires_or : (t.or u).Fires ↔ t.Fires ∨ u.Fires := by
  rcases t with _ | _ | _ <;> rcases u with _ | _ | _ <;> decide

@[simp] theorem fires_not : t.not.Fires ↔ ¬ t.Passes := by
  rcases t with _ | _ | _ <;> decide

@[simp] theorem passes_and : (t.and u).Passes ↔ t.Passes ∧ u.Passes := by
  rcases t with _ | _ | _ <;> rcases u with _ | _ | _ <;> decide

@[simp] theorem passes_or : (t.or u).Passes ↔ t.Passes ∨ u.Passes := by
  rcases t with _ | _ | _ <;> rcases u with _ | _ | _ <;> decide

@[simp] theorem passes_not : t.not.Passes ↔ ¬ t.Fires := by
  rcases t with _ | _ | _ <;> decide

end Truth

/-! ### Comparisons -/

/-- A condition that is never NULL. -/
def is (p : Prop) [Decidable p] : Truth := some (decide p)

/-- `a IS NULL`. -/
def isNull (a : Option α) : Truth := some a.isNone

/-- `a IS NOT NULL`. -/
def isNotNull (a : Option α) : Truth := some a.isSome

/-- A condition on a column, NULL where the column is. -/
def test (p : α → Prop) [DecidablePred p] (a : Option α) : Truth := a.map fun a => decide (p a)

/-- `a IS DISTINCT FROM b`, which takes NULL for a value. -/
def isDistinct [DecidableEq α] (a b : Option α) : Truth := is (a ≠ b)

/-- `a = b`. -/
def eq [DecidableEq α] (a b : Option α) : Truth := a.bind fun a => test (a = ·) b

section Rules

variable {a b : Option α}

@[simp] theorem fires_is {p : Prop} [Decidable p] : (is p).Fires ↔ p := by
  simp [Truth.Fires, is]

@[simp] theorem passes_is {p : Prop} [Decidable p] : (is p).Passes ↔ p := by
  simp [Truth.Passes, is]

@[simp] theorem fires_isNull : (isNull a).Fires ↔ a = none := by
  cases a <;> simp [Truth.Fires, isNull]

@[simp] theorem passes_isNull : (isNull a).Passes ↔ a = none := by
  cases a <;> simp [Truth.Passes, isNull]

@[simp] theorem fires_isNotNull : (isNotNull a).Fires ↔ a ≠ none := by
  cases a <;> simp [Truth.Fires, isNotNull]

@[simp] theorem passes_isNotNull : (isNotNull a).Passes ↔ a ≠ none := by
  cases a <;> simp [Truth.Passes, isNotNull]

@[simp] theorem fires_test {p : α → Prop} [DecidablePred p] :
    (test p a).Fires ↔ ∃ x, a = some x ∧ p x := by
  cases a <;> simp [Truth.Fires, test]

@[simp] theorem passes_test {p : α → Prop} [DecidablePred p] :
    (test p a).Passes ↔ ∀ x, a = some x → p x := by
  cases a <;> simp [Truth.Passes, test]

@[simp] theorem fires_isDistinct [DecidableEq α] : (isDistinct a b).Fires ↔ a ≠ b := fires_is

@[simp] theorem fires_eq [DecidableEq α] : (eq a b).Fires ↔ ∃ x, a = some x ∧ b = some x := by
  cases a <;> cases b <;> simp [Truth.Fires, eq, test, eq_comm]

end Rules

end Sql
