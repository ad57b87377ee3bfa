import Mathlib.Data.Rat.Floor
import Mathlib.Algebra.Order.Field.Basic

/-!
# Rounding toward zero

`ROUND_DOWN` of decimal arithmetic, to an integer, to a number of places and to a
multiple of a step. All three are monotone, and the multiple of a step is the
largest one below a number that is not negative.
-/
namespace AlphaTrade.Library

def truncate (x : ℚ) : Int := if 0 ≤ x then ⌊x⌋ else ⌈x⌉

variable {x : ℚ} {places : Nat}

theorem truncate_mono {y : ℚ} (h : x ≤ y) : truncate x ≤ truncate y := by
  unfold truncate
  split_ifs with hx hy hy
  · exact Int.floor_le_floor h
  · exact absurd (hx.trans h) hy
  · have below : ⌈x⌉ ≤ 0 := Int.ceil_le.mpr (by exact_mod_cast (not_le.mp hx).le)
    exact below.trans (Int.floor_nonneg.mpr hy)
  · exact Int.ceil_le_ceil h

theorem truncate_of_nonneg (h : 0 ≤ x) : truncate x = ⌊x⌋ := if_pos h

def quantizeDown (places : Nat) (x : ℚ) : ℚ := truncate (x * 10 ^ places) / 10 ^ places

theorem quantizeDown_mono {y : ℚ} (h : x ≤ y) : quantizeDown places x ≤ quantizeDown places y := by
  unfold quantizeDown
  have scale : (0 : ℚ) ≤ 10 ^ places := by positivity
  have digits := truncate_mono (mul_le_mul_of_nonneg_right h scale)
  exact div_le_div_of_nonneg_right (by exact_mod_cast digits) scale

theorem quantizeDown_le (h : 0 ≤ x) : quantizeDown places x ≤ x := by
  have scale : (0 : ℚ) < 10 ^ places := by positivity
  unfold quantizeDown
  rw [truncate_of_nonneg (mul_nonneg h scale.le), div_le_iff₀ scale]
  exact Int.floor_le _

theorem quantizeDown_nonneg (h : 0 ≤ x) : 0 ≤ quantizeDown places x := by
  have scale : (0 : ℚ) < 10 ^ places := by positivity
  unfold quantizeDown
  rw [truncate_of_nonneg (mul_nonneg h scale.le)]
  have digits : (0 : ℚ) ≤ (⌊x * 10 ^ places⌋ : Int) := by
    exact_mod_cast Int.floor_nonneg.mpr (mul_nonneg h scale.le)
  exact div_nonneg digits scale.le

def roundToStep (x step : ℚ) : ℚ := truncate (x / step) * step

theorem roundToStep_mono {y step : ℚ} (positive : 0 < step) (h : x ≤ y) :
    roundToStep x step ≤ roundToStep y step := by
  unfold roundToStep
  have steps := truncate_mono (div_le_div_of_nonneg_right h positive.le)
  exact mul_le_mul_of_nonneg_right (by exact_mod_cast steps) positive.le

theorem roundToStep_le {step : ℚ} (positive : 0 < step) (h : 0 ≤ x) : roundToStep x step ≤ x := by
  unfold roundToStep
  rw [truncate_of_nonneg (div_nonneg h positive.le)]
  exact (le_div_iff₀ positive).mp (Int.floor_le _)

/-- A positive rounding is so many steps. -/
theorem exists_steps {step : ℚ} (positive : 0 < step) (h : 0 < roundToStep x step) :
    ∃ steps : Nat, 0 < steps ∧ roundToStep x step = steps * step := by
  have up : (0 : ℚ) < (truncate (x / step) : Int) := pos_of_mul_pos_left h positive.le
  have up : 0 < truncate (x / step) := by exact_mod_cast up
  obtain ⟨steps, same⟩ := Int.eq_ofNat_of_zero_le up.le
  refine ⟨steps, by omega, ?_⟩
  unfold roundToStep
  rw [same]
  simp

/-- A multiple of the step below a number is below its rounding. -/
theorem roundToStep_le_roundToStep {y step : ℚ} (positive : 0 < step) (hy : 0 ≤ y)
    (h : roundToStep x step ≤ y) : roundToStep x step ≤ roundToStep y step := by
  have steps : ((truncate (x / step) : Int) : ℚ) ≤ y / step := (le_div_iff₀ positive).mpr h
  have digits : truncate (x / step) ≤ truncate (y / step) := by
    rw [truncate_of_nonneg (div_nonneg hy positive.le)]
    exact Int.le_floor.mpr steps
  exact mul_le_mul_of_nonneg_right (by exact_mod_cast digits) positive.le

end AlphaTrade.Library
