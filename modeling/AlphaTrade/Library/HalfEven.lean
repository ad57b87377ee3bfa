import Mathlib.Data.Int.Log
import Mathlib.Data.Rat.Floor
import AlphaTrade.Library.DecimalContext

/-!
# Rounding half to even

`quantize` of decimal arithmetic under `ROUND_HALF_EVEN`, its default. The result is the multiple of
the last place nearest to a number, which determines it. The operations of a context round their
results alike, to as many digits as the context has.
-/
namespace AlphaTrade.Library

def roundHalfEven (x : ℚ) : Int :=
  if 2 * (x - ⌊x⌋) < 1 then ⌊x⌋
  else if 1 < 2 * (x - ⌊x⌋) then ⌊x⌋ + 1
  else if ⌊x⌋ % 2 = 0 then ⌊x⌋ else ⌊x⌋ + 1

theorem roundHalfEven_nearest (x : ℚ) : Nearest 1 x (roundHalfEven x) := by
  have least : 0 ≤ x - ⌊x⌋ := sub_nonneg.mpr (Int.floor_le x)
  have most : x - ⌊x⌋ < 1 := by linarith [Int.lt_floor_add_one x]
  have down : |x - ⌊x⌋| = x - ⌊x⌋ := abs_of_nonneg least
  have up : |x - (⌊x⌋ + 1 : Int)| = 1 - (x - ⌊x⌋) := by
    rw [abs_of_nonpos (by push_cast; linarith)]
    push_cast
    ring
  refine ⟨roundHalfEven x, (mul_one _).symm, ?_⟩
  unfold roundHalfEven
  split_ifs with below above even
  · rw [down]
    exact ⟨below.le, fun tie => absurd tie below.ne⟩
  · rw [up]
    exact ⟨by linarith, fun tie => absurd tie (by linarith)⟩
  · rw [down]
    exact ⟨not_lt.mp above, fun _ => even⟩
  · rw [up]
    exact ⟨by linarith, fun _ => by omega⟩

/-- `value.quantize(Decimal(1).scaleb(-places))` -/
def quantize (places : Nat) (value : ℚ) : ℚ := roundHalfEven (value * 10 ^ places) / 10 ^ places

variable {places : Nat}

theorem quantize_nearest (places : Nat) (value : ℚ) :
    Nearest ((10 ^ places)⁻¹) value (quantize places value) := by
  have scale : (0 : ℚ) < 10 ^ places := by positivity
  have near := (roundHalfEven_nearest (value * 10 ^ places)).scale (inv_pos.mpr scale)
  rwa [one_mul, mul_inv_cancel_right₀ scale.ne', ← div_eq_mul_inv] at near

/-- What is nearest to a number is its rounding. -/
theorem quantize_eq_of_nearest {value rounded : ℚ}
    (near : Nearest ((10 ^ places)⁻¹) value rounded) : quantize places value = rounded :=
  (quantize_nearest places value).unique (by positivity) near

/-- Numbers that round alike are no further apart than a last place. -/
theorem abs_sub_le_of_quantize_eq {value other : ℚ}
    (same : quantize places value = quantize places other) :
    |value - other| ≤ (10 ^ places)⁻¹ := by
  obtain ⟨-, -, near, -⟩ := quantize_nearest places value
  obtain ⟨-, -, near', -⟩ := quantize_nearest places other
  rw [abs_sub_comm, ← same] at near'
  have := abs_sub_le value (quantize places value) other
  linarith

@[simp] theorem quantize_quantize (places : Nat) (value : ℚ) :
    quantize places (quantize places value) = quantize places value := by
  obtain ⟨n, multiple, -⟩ := quantize_nearest places value
  refine quantize_eq_of_nearest ?_
  rw [multiple]
  exact nearest_self (by positivity) n

end AlphaTrade.Library
