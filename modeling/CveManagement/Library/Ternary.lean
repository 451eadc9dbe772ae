import Mathlib.Data.Option.Basic

/-!
# Conditions that may be unknown

The conditions of SQL are true, false or unknown, a comparison with `NULL` being unknown; a
`CASE` or a `WHERE` goes by whether its condition is true. `Ternary.Holds` is that reading,
and for it `OR` and `AND` are the ordinary ones (`Ternary.holds_or`, `Ternary.holds_and`).
-/

/-- A truth value; `none` is unknown. -/
abbrev Ternary := Option Bool

namespace Ternary

variable {α : Type*}

/-- The condition is true. -/
def Holds (a : Ternary) : Prop := a = some true

instance (a : Ternary) : Decidable a.Holds := inferInstanceAs (Decidable (a = some true))

/-- `OR`. -/
def or : Ternary → Ternary → Ternary
  | some true, _ => some true
  | _, some true => some true
  | some false, some false => some false
  | _, _ => none

/-- `AND`. -/
def and : Ternary → Ternary → Ternary
  | some false, _ => some false
  | _, some false => some false
  | some true, some true => some true
  | _, _ => none

/-- A comparison of a column with a constant. -/
def compare (p : α → Bool) (column : Option α) : Ternary := column.map p

/-- `IS NOT NULL`. -/
def isNotNull (column : Option α) : Ternary := some column.isSome

@[simp] theorem holds_or (a b : Ternary) : (a.or b).Holds ↔ a.Holds ∨ b.Holds := by
  rcases a with _ | _ | _ <;> rcases b with _ | _ | _ <;> decide

@[simp] theorem holds_and (a b : Ternary) : (a.and b).Holds ↔ a.Holds ∧ b.Holds := by
  rcases a with _ | _ | _ <;> rcases b with _ | _ | _ <;> decide

@[simp] theorem holds_compare (p : α → Bool) (column : Option α) :
    (compare p column).Holds ↔ ∃ x, column = some x ∧ p x = true := by
  cases column <;> simp [compare, Holds]

@[simp] theorem holds_isNotNull (column : Option α) :
    (isNotNull column).Holds ↔ ∃ x, column = some x := by
  cases column <;> simp [isNotNull, Holds]

end Ternary
