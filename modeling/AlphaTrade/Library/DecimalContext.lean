import Mathlib.Algebra.Order.Field.Power
import Mathlib.Data.Rat.Cast.Order
import Mathlib.Tactic.FieldSimp
import Mathlib.Tactic.Linarith
import Mathlib.Tactic.Ring
import AlphaTrade.Library.PyValue

/-!
# Decimals in a context

An operation of `decimal` keeps as many digits as its context has. A number with more is rounded to
the nearest that fits, ties going to the even digit. `RoundsTo` says so of the numbers alone, and
`finalize` does it to a coefficient and an exponent.
-/
namespace AlphaTrade.Library

/-- The number of a finite decimal, with the exponent as a power. -/
theorem PyDecimal.toRat_finite (negative : Bool) (coefficient : Nat) (exponent : Int) :
    (PyDecimal.finite negative coefficient exponent).toRat =
      if negative then -(coefficient * (10 : ℚ) ^ exponent) else coefficient * 10 ^ exponent := by
  cases exponent with
  | ofNat n => simp [toRat]
  | negSucc n => simp [toRat, zpow_negSucc, div_eq_mul_inv]

/-! ## Texts of integers -/

theorem toDigits_injective {m n : Nat} (same : Nat.toDigits 10 m = Nat.toDigits 10 n) :
    m = n := by
  rw [← Nat.ofDigitChars_ten_toDigits (n := m), same, Nat.ofDigitChars_ten_toDigits]

/-- The sign and the digits of an integer. -/
theorem toList_toString (n : Int) : (toString n).toList =
    if n < 0 then '-' :: Nat.toDigits 10 n.natAbs else Nat.toDigits 10 n.natAbs := by
  cases n with
  | ofNat n => simp [toString, Int.repr]
  | negSucc n => simp [toString, Int.repr, Int.negSucc_lt_zero]

theorem toString_injective {m n : Int} (same : toString m = toString n) : m = n := by
  have lists := congrArg String.toList same
  rw [toList_toString, toList_toString] at lists
  have notSign : ∀ k : Nat, '-' ∉ Nat.toDigits 10 k := fun k sign =>
    absurd (Nat.isDigit_of_mem_toDigits (by decide) (by decide) sign) (by decide)
  split_ifs at lists with negM negN negN
  · have := toDigits_injective (List.cons.inj lists).2
    omega
  · exact absurd (lists ▸ List.mem_cons_self) (notSign _)
  · exact absurd (lists ▸ List.mem_cons_self) (notSign _)
  · have := toDigits_injective lists
    omega

/-! ## Nearest multiples -/

def Nearest (step x y : ℚ) : Prop :=
  ∃ n : Int, y = n * step ∧ 2 * |x - y| ≤ step ∧ (2 * |x - y| = step → n % 2 = 0)

variable {step : ℚ}

theorem Nearest.unique {x y z : ℚ} (positive : 0 < step) (first : Nearest step x y)
    (second : Nearest step x z) : y = z := by
  obtain ⟨m, rfl, nearM, evenM⟩ := first
  obtain ⟨n, rfl, nearN, evenN⟩ := second
  have apart : |(m - n : ℚ)| * step ≤ step := by
    have triangle := abs_sub_le (m * step) x (n * step)
    rw [← sub_mul, abs_mul, abs_of_pos positive, abs_sub_comm _ x] at triangle
    linarith
  have close : |m - n| ≤ 1 := by
    have : |(m - n : ℚ)| ≤ 1 := by
      rwa [mul_le_iff_le_one_left positive] at apart
    exact_mod_cast this
  rcases eq_or_ne m n with rfl | differ
  · rfl
  -- two neighbours at the same distance are both even
  have gap : |(m - n : ℚ)| = 1 := by
    have : |m - n| = 1 := by
      have := abs_pos.mpr (sub_ne_zero.mpr differ)
      omega
    exact_mod_cast this
  have sum : step ≤ |x - m * step| + |x - n * step| := by
    have triangle := abs_sub_le (m * step) x (n * step)
    rwa [← sub_mul, abs_mul, abs_of_pos positive, gap, one_mul, abs_sub_comm _ x] at triangle
  have onM := evenM (by linarith)
  have onN := evenN (by linarith)
  rcases abs_eq (one_pos.le : (0 : Int) ≤ 1) |>.mp (by exact_mod_cast gap : |m - n| = 1) with h | h
  all_goals omega

theorem Nearest.neg {x y : ℚ} (near : Nearest step x y) : Nearest step (-x) (-y) := by
  obtain ⟨n, rfl, within, even⟩ := near
  have same : |-x - -(n * step)| = |x - n * step| := by
    rw [neg_sub_neg, abs_sub_comm]
  refine ⟨-n, by push_cast; ring, by rwa [same], fun tie => ?_⟩
  have := even (same ▸ tie)
  omega

theorem Nearest.scale {x y factor : ℚ} (positive : 0 < factor) (near : Nearest step x y) :
    Nearest (step * factor) (x * factor) (y * factor) := by
  obtain ⟨n, rfl, within, even⟩ := near
  have same : |x * factor - n * step * factor| = |x - n * step| * factor := by
    rw [← sub_mul, abs_mul, abs_of_pos positive]
  refine ⟨n, by ring, ?_, fun tie => even ?_⟩
  · rw [same, ← mul_assoc]
    exact mul_le_mul_of_nonneg_right within positive.le
  · rw [same, ← mul_assoc] at tie
    exact mul_right_cancel₀ positive.ne' tie

/-- A multiple of the step is nearest to itself. -/
theorem nearest_self (positive : 0 < step) (n : Int) : Nearest step (n * step) (n * step) := by
  refine ⟨n, rfl, by simpa using positive.le, fun tie => ?_⟩
  simp only [sub_self, abs_zero, mul_zero] at tie
  exact absurd tie positive.ne

/-! ## Dropping digits -/

def dropDigits (coefficient digits : Nat) : Nat :=
  let kept := coefficient / 10 ^ digits
  let rest := coefficient % 10 ^ digits
  if 2 * rest < 10 ^ digits then kept
  else if 10 ^ digits < 2 * rest then kept + 1
  else if kept % 2 = 0 then kept else kept + 1

theorem dropDigits_nearest (coefficient digits : Nat) :
    Nearest (10 ^ digits) coefficient (dropDigits coefficient digits * 10 ^ digits) := by
  set step := 10 ^ digits with isStep
  have cast : (10 : ℚ) ^ digits = (step : Nat) := by rw [isStep]; push_cast; rfl
  rw [cast]
  set kept := coefficient / step with isKept
  set rest := coefficient % step with isRest
  have parts : (coefficient : ℚ) = step * kept + rest := by
    exact_mod_cast (Nat.div_add_mod coefficient step).symm
  have bounded : (rest : ℚ) < step := by
    exact_mod_cast Nat.mod_lt coefficient (Nat.pow_pos (by decide : 0 < 10))
  have nonneg : (0 : ℚ) ≤ rest := Nat.cast_nonneg rest
  have down : |(coefficient : ℚ) - (kept : Nat) * step| = rest := by
    rw [parts, abs_of_nonneg (by linarith)]
    ring
  have up : |(coefficient : ℚ) - ((kept + 1 : Nat) : ℚ) * step| = step - rest := by
    push_cast
    rw [parts, abs_of_nonpos (by linarith)]
    ring
  unfold dropDigits
  rw [← isStep, ← isKept, ← isRest]
  dsimp only
  split_ifs with below above even
  · have : 2 * (rest : ℚ) < step := by exact_mod_cast below
    exact ⟨kept, by push_cast; rfl, by linarith, fun tie => by linarith⟩
  · have : (step : ℚ) < 2 * rest := by exact_mod_cast above
    exact ⟨(kept + 1 : Nat), by push_cast; rfl, by linarith, fun tie => by linarith⟩
  · have tie : 2 * (rest : ℚ) = step := by exact_mod_cast (by omega : 2 * rest = step)
    exact ⟨kept, by push_cast; rfl, by linarith, fun _ => by omega⟩
  · have tie : 2 * (rest : ℚ) = step := by exact_mod_cast (by omega : 2 * rest = step)
    exact ⟨(kept + 1 : Nat), by push_cast; rfl, by linarith, fun _ => by omega⟩

@[simp] theorem dropDigits_zero (coefficient : Nat) : dropDigits coefficient 0 = coefficient := by
  simp [dropDigits, Nat.mod_one]

/-! ## Contexts -/

structure DecimalContext where
  prec : Nat
  emin : Int
  emax : Int

namespace DecimalContext

def etiny (context : DecimalContext) : Int := context.emin - (context.prec - 1)

def default : DecimalContext := ⟨28, -999999, 999999⟩

end DecimalContext

/-- `len(value.as_tuple().digits)`. -/
def digitCount (coefficient : Nat) : Nat := (Nat.toDigits 10 coefficient).length

theorem digitCount_le_iff {coefficient digits : Nat} (positive : 0 < digits) :
    digitCount coefficient ≤ digits ↔ coefficient < 10 ^ digits :=
  Nat.length_toDigits_le_iff (by decide) positive

theorem digitCount_pos (coefficient : Nat) : 0 < digitCount coefficient :=
  Nat.length_toDigits_pos

theorem lt_pow_digitCount (coefficient : Nat) : coefficient < 10 ^ digitCount coefficient :=
  (digitCount_le_iff (digitCount_pos coefficient)).mp le_rfl

theorem pow_le_of_digitCount {coefficient : Nat} (positive : 0 < coefficient) :
    10 ^ (digitCount coefficient - 1) ≤ coefficient := by
  rcases Nat.eq_zero_or_pos (digitCount coefficient - 1) with single | several
  · rw [single]
    exact positive
  · by_contra small
    have := (digitCount_le_iff several).mpr (not_le.mp small)
    omega

def DecimalContext.lastExponent (context : DecimalContext) (coefficient : Nat) (exponent : Int) :
    Int :=
  max (exponent + digitCount coefficient - context.prec) context.etiny

def DecimalContext.rounded (context : DecimalContext) (coefficient : Nat) (exponent : Int) :
    Nat × Int :=
  let last := max exponent (context.lastExponent coefficient exponent)
  (dropDigits coefficient (last - exponent).toNat, last)

/-- What a context keeps. Nothing is `Overflow`, which is raised. -/
def DecimalContext.finalize (context : DecimalContext) (coefficient : Nat) (exponent : Int) :
    Option (Nat × Int) :=
  let result := context.rounded coefficient exponent
  if result.1 ≠ 0 ∧ context.emax < result.2 + digitCount result.1 - 1 then none else some result

/-! ## Rounding to a context -/

def DecimalContext.RoundsTo (context : DecimalContext) (x y : ℚ) : Prop :=
  (x = 0 ∧ y = 0) ∨ ∃ k : Int, (10 : ℚ) ^ k ≤ |x| ∧ |x| < 10 ^ (k + 1) ∧
    Nearest (10 ^ max (k + 1 - context.prec) context.etiny) x y

namespace DecimalContext

variable {context : DecimalContext}

theorem RoundsTo.unique {x y z : ℚ} (first : context.RoundsTo x y)
    (second : context.RoundsTo x z) : y = z := by
  rcases first with ⟨zero, rfl⟩ | ⟨j, jLe, ltJ, nearJ⟩
  · rcases second with ⟨-, rfl⟩ | ⟨k, kLe, -⟩
    · rfl
    · rw [zero, abs_zero] at kLe
      exact absurd kLe (zpow_pos (by norm_num) k).not_ge
  · rcases second with ⟨zero, -⟩ | ⟨k, kLe, ltK, nearK⟩
    · rw [zero, abs_zero] at jLe
      exact absurd jLe (zpow_pos (by norm_num) j).not_ge
    · have one : (1 : ℚ) < 10 := by norm_num
      have up := (zpow_lt_zpow_iff_right₀ one).mp (jLe.trans_lt ltK)
      have down := (zpow_lt_zpow_iff_right₀ one).mp (kLe.trans_lt ltJ)
      obtain rfl : j = k := by omega
      exact nearJ.unique (zpow_pos (by norm_num) _) nearK

theorem RoundsTo.neg {x y : ℚ} (rounds : context.RoundsTo x y) : context.RoundsTo (-x) (-y) := by
  rcases rounds with ⟨rfl, rfl⟩ | ⟨k, le, lt, near⟩
  · exact .inl ⟨neg_zero, neg_zero⟩
  · exact .inr ⟨k, by rwa [abs_neg], by rwa [abs_neg], near.neg⟩

variable {coefficient : Nat} {exponent : Int}

/-- The decade that a coefficient with an exponent is in. -/
theorem decade (positive : 0 < coefficient) (exponent : Int) :
    (10 : ℚ) ^ (digitCount coefficient - 1 + exponent : Int) ≤ coefficient * 10 ^ exponent ∧
      coefficient * (10 : ℚ) ^ exponent <
        10 ^ (digitCount coefficient - 1 + exponent + 1 : Int) := by
  have scale : (0 : ℚ) < 10 ^ exponent := zpow_pos (by norm_num) exponent
  have low : (10 : ℚ) ^ (digitCount coefficient - 1) ≤ coefficient := by
    exact_mod_cast pow_le_of_digitCount positive
  have high : (coefficient : ℚ) < 10 ^ digitCount coefficient := by
    exact_mod_cast lt_pow_digitCount coefficient
  have next : (digitCount coefficient - 1 + exponent + 1 : Int) =
      digitCount coefficient + exponent := by ring
  rw [← zpow_natCast, Nat.cast_sub (digitCount_pos coefficient)] at low
  rw [← zpow_natCast] at high
  rw [next, zpow_add₀ (by norm_num), zpow_add₀ (by norm_num)]
  exact ⟨mul_le_mul_of_nonneg_right low scale.le, mul_lt_mul_of_pos_right high scale⟩

/-- A whole number of units is one of smaller units. -/
theorem nearest_of_place (n : Int) {place : Int} (below : place ≤ exponent) :
    Nearest (10 ^ place) (n * (10 : ℚ) ^ exponent) (n * 10 ^ exponent) := by
  obtain ⟨more, isMore⟩ := Int.eq_ofNat_of_zero_le (sub_nonneg.mpr below)
  have split : exponent = (more : Int) + place := by omega
  have whole : (n : ℚ) * 10 ^ exponent = ((n * 10 ^ more : Int) : ℚ) * 10 ^ place := by
    rw [split, zpow_add₀ (by norm_num), zpow_natCast]
    push_cast
    ring
  rw [whole]
  exact nearest_self (zpow_pos (by norm_num) place) _

/-- A number of no more digits than the context has stays as it is. -/
theorem roundsTo_self (fits : coefficient < 10 ^ context.prec) (some : 0 < context.prec)
    (tiny : context.etiny ≤ exponent) :
    context.RoundsTo (coefficient * 10 ^ exponent) (coefficient * 10 ^ exponent) := by
  rcases Nat.eq_zero_or_pos coefficient with rfl | positive
  · exact .inl ⟨by simp, by simp⟩
  have ⟨low, high⟩ := decade positive exponent
  have count := (digitCount_le_iff some).mpr fits
  have magnitude : |(coefficient : ℚ) * 10 ^ exponent| = coefficient * 10 ^ exponent :=
    abs_of_nonneg (by positivity)
  refine .inr ⟨digitCount coefficient - 1 + exponent, by rwa [magnitude], by rwa [magnitude], ?_⟩
  exact nearest_of_place coefficient (max_le (by omega) tiny)

theorem rounded_roundsTo (positive : 0 < coefficient) (exponent : Int) :
    context.RoundsTo (coefficient * 10 ^ exponent)
      ((context.rounded coefficient exponent).1 *
        10 ^ (context.rounded coefficient exponent).2) := by
  have ⟨low, high⟩ := decade positive exponent
  have magnitude : |(coefficient : ℚ) * 10 ^ exponent| = coefficient * 10 ^ exponent :=
    abs_of_nonneg (by positivity)
  refine .inr ⟨digitCount coefficient - 1 + exponent, by rwa [magnitude], by rwa [magnitude], ?_⟩
  have place : max ((digitCount coefficient : Int) - 1 + exponent + 1 - context.prec)
      context.etiny = context.lastExponent coefficient exponent := by
    unfold lastExponent
    congr 1
    ring
  rw [place, rounded]
  dsimp only
  rcases le_or_gt (context.lastExponent coefficient exponent) exponent with fits | rounds
  · -- no digit is dropped
    rw [max_eq_left fits, sub_self, Int.toNat_zero, dropDigits_zero]
    exact nearest_of_place coefficient fits
  · rw [max_eq_right rounds.le]
    obtain ⟨places, isPlaces⟩ := Int.eq_ofNat_of_zero_le (sub_nonneg.mpr rounds.le)
    have split : context.lastExponent coefficient exponent = (places : Int) + exponent := by omega
    have near := (dropDigits_nearest coefficient places).scale
      (zpow_pos (by norm_num : (0 : ℚ) < 10) exponent)
    rw [isPlaces, Int.toNat_natCast, split, zpow_add₀ (by norm_num), zpow_natCast, ← mul_assoc]
    exact near

/-- A rounded coefficient has the digits of the context, or is one followed by zeros. -/
theorem rounded_le (coefficient : Nat) (exponent : Int) (some : 0 < context.prec) :
    (context.rounded coefficient exponent).1 ≤ 10 ^ context.prec := by
  unfold rounded
  dsimp only
  set digits := (max exponent (context.lastExponent coefficient exponent) - exponent).toNat
    with isDigits
  have enough : digitCount coefficient ≤ digits + context.prec := by
    have : exponent + digitCount coefficient - context.prec ≤
        max exponent (context.lastExponent coefficient exponent) :=
      (le_max_left _ _).trans (le_max_right _ _)
    omega
  have bounded : coefficient < 10 ^ digits * 10 ^ context.prec := by
    rw [← pow_add]
    exact (digitCount_le_iff (by omega)).mp enough
  have kept : coefficient / 10 ^ digits < 10 ^ context.prec := Nat.div_lt_of_lt_mul bounded
  unfold dropDigits
  dsimp only
  split_ifs <;> omega

theorem finalize_eq_some {result : Nat × Int} :
    context.finalize coefficient exponent = some result ↔
      context.rounded coefficient exponent = result ∧
        (result.1 = 0 ∨ result.2 + digitCount result.1 - 1 ≤ context.emax) := by
  unfold finalize
  dsimp only
  split_ifs with large
  · refine iff_of_false nofun ?_
    rintro ⟨rfl, zero | fits⟩
    · exact large.1 zero
    · exact absurd fits large.2.not_ge
  · rw [Option.some.injEq]
    constructor
    · rintro rfl
      refine ⟨rfl, ?_⟩
      by_contra outside
      push Not at outside
      exact large outside
    · exact And.left

end DecimalContext

end AlphaTrade.Library
