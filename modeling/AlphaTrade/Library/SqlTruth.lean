import Mathlib.Data.List.Basic

/-!
# Conditions of a database

A condition of SQL is true, false or unknown; a comparison with null is unknown, and a row is
selected where its condition is true.
-/
namespace AlphaTrade.Library

/-- True, false, or unknown as `none`. -/
abbrev SqlTruth := Option Bool

namespace SqlTruth

def Holds (t : SqlTruth) : Prop := t = some true

instance (t : SqlTruth) : Decidable t.Holds := inferInstanceAs (Decidable (t = some true))

def and : SqlTruth → SqlTruth → SqlTruth
  | some false, _ | _, some false => some false
  | some true, some true => some true
  | _, _ => none

def or : SqlTruth → SqlTruth → SqlTruth
  | some true, _ | _, some true => some true
  | some false, some false => some false
  | _, _ => none

/-- `or_(*conditions)`. -/
def orAll (ts : List SqlTruth) : SqlTruth := ts.foldr or (some false)

/-- `column IS NULL`. -/
def isNull {α : Type*} (column : Option α) : SqlTruth := some column.isNone

def compare {α : Type*} (p : α → Bool) (column : Option α) : SqlTruth := column.map p

@[simp, grind =] theorem holds_and {s t : SqlTruth} : (s.and t).Holds ↔ s.Holds ∧ t.Holds := by
  rcases s with _ | _ | _ <;> rcases t with _ | _ | _ <;> simp [and, Holds]

@[simp, grind =] theorem holds_or {s t : SqlTruth} : (s.or t).Holds ↔ s.Holds ∨ t.Holds := by
  rcases s with _ | _ | _ <;> rcases t with _ | _ | _ <;> simp [or, Holds]

variable {ts : List SqlTruth}

theorem holds_orAll : (orAll ts).Holds ↔ ∃ t ∈ ts, t.Holds := by
  induction ts with
  | nil => simp [orAll, Holds]
  | cons t ts ih =>
    have split : orAll (t :: ts) = t.or (orAll ts) := rfl
    rw [split, holds_or, ih, List.exists_mem_cons_iff]

@[simp] theorem not_holds_orAll_nil : ¬(orAll []).Holds := by decide

@[simp] theorem holds_orAll_cons {t : SqlTruth} :
    (orAll (t :: ts)).Holds ↔ t.Holds ∨ (orAll ts).Holds := holds_or

@[simp] theorem holds_orAll_append {ss : List SqlTruth} :
    (orAll (ss ++ ts)).Holds ↔ (orAll ss).Holds ∨ (orAll ts).Holds := by
  simp only [holds_orAll, List.mem_append, or_and_right, exists_or]

@[simp] theorem holds_orAll_map {α : Type*} {f : α → SqlTruth} {as : List α} :
    (orAll (as.map f)).Holds ↔ ∃ a ∈ as, (f a).Holds := by
  simp only [holds_orAll, List.mem_map, exists_exists_and_eq_and]

@[simp, grind =] theorem holds_isNull {α : Type*} {column : Option α} :
    (isNull column).Holds ↔ column = none := by
  simp [isNull, Holds]

@[simp, grind =] theorem holds_compare {α : Type*} {p : α → Bool} {column : Option α} :
    (compare p column).Holds ↔ ∃ a, column = some a ∧ p a = true := by
  simp [compare, Holds]

end SqlTruth

end AlphaTrade.Library
