import Mathlib.Algebra.Order.Group.Basic
import Mathlib.Algebra.Order.Group.Defs
import Mathlib.Order.Lattice
import Mathlib.Tactic.Abel

/-!
# Subtraction clamped at zero

A ledger column is lowered by subtracting and then replacing a negative result
by zero. Lowering it twice by nonnegative amounts is lowering it once by their
sum, so the order of the amounts does not matter, and while the column covers
the amount the clamp does nothing.
-/
namespace AlphaTrade.Library

variable {α : Type*} [AddCommGroup α] [LinearOrder α]

/-- `if x < 0: x = 0`. -/
def clampZero (x : α) : α := if x < 0 then 0 else x

theorem clampZero_of_nonneg {x : α} (h : 0 ≤ x) : clampZero x = x := if_neg (not_lt.mpr h)

theorem clampZero_eq_max (x : α) : clampZero x = max 0 x := by
  unfold clampZero
  split
  · rename_i h; exact (max_eq_left h.le).symm
  · rename_i h; exact (max_eq_right (not_lt.mp h)).symm

theorem clampZero_nonneg (x : α) : 0 ≤ clampZero x := by
  rw [clampZero_eq_max]; exact le_max_left _ _

variable [IsOrderedAddMonoid α]

/-- Two clamped subtractions are one. -/
theorem clampZero_sub_sub (a : α) {b : α} (hb : 0 ≤ b) :
    clampZero (clampZero a - b) = clampZero (a - b) := by
  simp only [clampZero_eq_max]
  rcases le_total 0 a with ha | ha
  · rw [max_eq_right ha]
  · rw [max_eq_left ha, max_eq_left (by simpa using hb),
      max_eq_left (sub_nonpos.mpr (ha.trans hb))]

/-- What is left after taking off at most all of it. -/
theorem sub_min_eq_clampZero (a b : α) : a - min b a = clampZero (a - b) := by
  rw [clampZero_eq_max]
  rcases le_total b a with h | h
  · rw [min_eq_left h, max_eq_right (sub_nonneg.mpr h)]
  · rw [min_eq_right h, max_eq_left (sub_nonpos.mpr h), sub_self]

/-- A total that covers a part, after the part has shrunk. -/
theorem clampZero_add_sub (total : α) {a b : α} (h : b ≤ a) :
    clampZero (clampZero (total + a) - (a - b)) = clampZero (total + b) := by
  rw [clampZero_sub_sub _ (sub_nonneg.mpr h)]
  congr 1
  abel

end AlphaTrade.Library
