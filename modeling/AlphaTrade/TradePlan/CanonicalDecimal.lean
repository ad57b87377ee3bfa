import AlphaTrade.Library.Check
import AlphaTrade.Library.DecimalContext

/-!
# The canonical form of a decimal

A canonical document writes a decimal as a whole number and a scale. `normalize` strips the zeros,
and before that it rounds to the digits of the context, so two numbers have one form where the
context keeps the same of both.
-/
namespace AlphaTrade.TradePlan
open Library

/-! ## The model -/

/-- What is raised: by the encoder, by the context, or by `str` of a long integer. -/
inductive SerializationError where
  | notFinite | overflow | tooManyDigits
  deriving DecidableEq, Repr

/-- `{"scale": scale, "value": value}`. -/
structure CanonicalDecimal where
  scale : Int
  value : String
  deriving DecidableEq, Repr

def stripZeros : Nat → Nat → Int → Nat × Int
  | 0, coefficient, exponent => (coefficient, exponent)
  | fuel + 1, coefficient, exponent =>
    if coefficient % 10 = 0 then stripZeros fuel (coefficient / 10) (exponent + 1)
    else (coefficient, exponent)

/-- `value.normalize()`, without the sign. -/
def normalize (coefficient : Nat) (exponent : Int) : Option (Nat × Int) :=
  (DecimalContext.default.finalize coefficient exponent).map fun result =>
    if result.1 = 0 then (0, 0) else stripZeros (digitCount result.1) result.1 result.2

/-- The digits that `str` writes of an integer at most. -/
def maxStrDigits : Nat := 4300

/-- `_canonical_decimal`. -/
def canonicalDecimal : PyDecimal → Except SerializationError CanonicalDecimal
  | .finite negative coefficient exponent =>
    if coefficient = 0 then .ok ⟨0, "0"⟩
    else
      match normalize coefficient exponent with
      | none => .error .overflow
      | some (digits, exponent) => do
        let integer := if 0 ≤ exponent then digits * 10 ^ exponent.toNat else digits
        let scale := if 0 ≤ exponent then 0 else -exponent
        let signed : Int := if negative then -integer else integer
        ensure (digitCount integer ≤ maxStrDigits) .tooManyDigits
        return ⟨scale, toString signed⟩
  | _ => .error .notFinite

/-! ## Reduced forms -/

/-- A whole number over a power of ten, in lowest terms. -/
structure Reduced (scale : Int) (n : Int) : Prop where
  nonneg : 0 ≤ scale
  lowest : scale = 0 ∨ n % 10 ≠ 0

theorem Reduced.unique {s t m n : Int} (first : Reduced s m) (second : Reduced t n)
    (same : (m : ℚ) / 10 ^ s = n / 10 ^ t) : s = t ∧ m = n := by
  have ten : (10 : ℚ) ≠ 0 := by norm_num
  have cross : ∀ {s t m n : Int}, Reduced s m → Reduced t n → (m : ℚ) / 10 ^ s = n / 10 ^ t →
      s ≤ t → s = t ∧ m = n := by
    intro s t m n first second same le
    obtain ⟨more, isMore⟩ := Int.eq_ofNat_of_zero_le (sub_nonneg.mpr le)
    have scaled : n = m * 10 ^ more := by
      rw [show t = (more : Int) + s by omega, zpow_add₀ ten, zpow_natCast,
        div_eq_div_iff (zpow_ne_zero s ten) (mul_ne_zero (pow_ne_zero more ten)
          (zpow_ne_zero s ten)), ← mul_assoc] at same
      have := mul_right_cancel₀ (zpow_ne_zero s ten) same
      exact_mod_cast this.symm
    cases more with
    | zero => exact ⟨by omega, by simpa using scaled.symm⟩
    | succ more =>
      have : n % 10 = 0 := by
        rw [scaled, pow_succ, ← mul_assoc]
        exact Int.mul_emod_left _ 10
      rcases second.lowest with zero | lowest
      · have := first.nonneg
        omega
      · exact absurd this lowest
  rcases le_total s t with le | le
  · exact cross first second same le
  · obtain ⟨rfl, rfl⟩ := cross second first same.symm le
    exact ⟨rfl, rfl⟩

/-! ## Stripping zeros -/

variable {coefficient digits : Nat} {value : PyDecimal}

/-- Stripping keeps the number. Where the fuel is enough, no zero is left. -/
theorem stripZeros_spec {fuel : Nat} (positive : 0 < coefficient) (enough : coefficient < 10 ^ fuel)
    (exponent : Int) :
    let result := stripZeros fuel coefficient exponent
    (result.1 : ℚ) * 10 ^ result.2 = coefficient * 10 ^ exponent ∧ result.1 % 10 ≠ 0 ∧
      result.1 ≤ coefficient := by
  induction fuel generalizing coefficient exponent with
  | zero => omega
  | succ fuel ih =>
    simp only [stripZeros]
    split_ifs with zero
    · have whole : coefficient = coefficient / 10 * 10 := by omega
      have next := ih (by omega : 0 < coefficient / 10)
        (Nat.div_lt_of_lt_mul (by rwa [← pow_succ'])) (exponent + 1)
      refine ⟨next.1.trans ?_, next.2.1, by omega⟩
      have cast : (coefficient : ℚ) = (coefficient / 10 : Nat) * 10 := by exact_mod_cast whole
      rw [cast, zpow_add_one₀ (by norm_num)]
      ring
    · exact ⟨rfl, zero, le_rfl⟩

/-- The number that `normalize` keeps, in lowest terms. -/
theorem normalize_spec (positive : 0 < coefficient) {exponent : Int} {last : Int}
    (done : normalize coefficient exponent = some (digits, last)) :
    DecimalContext.default.RoundsTo (coefficient * 10 ^ exponent) (digits * 10 ^ last) ∧
      (digits % 10 ≠ 0 ∨ (digits = 0 ∧ last = 0)) ∧ digits ≤ 10 ^ 28 := by
  obtain ⟨result, kept, normal⟩ := Option.map_eq_some_iff.mp done
  obtain ⟨rounded, -⟩ := DecimalContext.finalize_eq_some.mp kept
  have rounds : DecimalContext.default.RoundsTo (coefficient * 10 ^ exponent) _ :=
    DecimalContext.rounded_roundsTo positive exponent
  have bounded : result.1 ≤ 10 ^ 28 := rounded ▸ DecimalContext.rounded_le _ _ (by decide)
  rw [rounded] at rounds
  split_ifs at normal with zero
  · obtain ⟨rfl, rfl⟩ := Prod.mk.inj normal
    rw [zero] at rounds
    simp only [Nat.cast_zero, zero_mul] at rounds ⊢
    exact ⟨rounds, .inr ⟨trivial, trivial⟩, by omega⟩
  · have spec := stripZeros_spec (Nat.pos_of_ne_zero zero) (lt_pow_digitCount result.1) result.2
    rw [normal] at spec
    exact ⟨spec.1 ▸ rounds, .inl spec.2.1, spec.2.2.trans bounded⟩

/-! ## What a form says -/

def FormOf (y : ℚ) (form : CanonicalDecimal) : Prop :=
  ∃ n : Int, form = ⟨form.scale, toString n⟩ ∧ Reduced form.scale n ∧ y = n / 10 ^ form.scale

theorem FormOf.eq_iff {y z : ℚ} {first second : CanonicalDecimal} (isFirst : FormOf y first)
    (isSecond : FormOf z second) : first = second ↔ y = z := by
  obtain ⟨m, isM, reducedM, rfl⟩ := isFirst
  obtain ⟨n, isN, reducedN, rfl⟩ := isSecond
  constructor
  · rintro rfl
    rw [toString_injective (congrArg CanonicalDecimal.value (isM.symm.trans isN))]
  · intro same
    obtain ⟨scales, rfl⟩ := reducedM.unique reducedN same
    rw [isM, isN, scales]

/-- The whole number that is written for a coefficient and an exponent in lowest terms. -/
theorem formOf_normal {last : Int} (lowest : digits % 10 ≠ 0 ∨ digits = 0 ∧ last = 0)
    (negative : Bool) :
    FormOf (if negative then -(digits * (10 : ℚ) ^ last) else digits * 10 ^ last)
      ⟨if 0 ≤ last then 0 else -last, toString (if negative then
        -((if 0 ≤ last then digits * 10 ^ last.toNat else digits : Nat) : Int)
        else ((if 0 ≤ last then digits * 10 ^ last.toNat else digits : Nat) : Int))⟩ := by
  refine ⟨_, rfl, ⟨?_, ?_⟩, ?_⟩
  · dsimp only
    split_ifs <;> omega
  · dsimp only
    split_ifs with whole
    · exact .inl rfl
    · exact .inl rfl
    · exact .inr (by omega)
    · exact .inr (by omega)
  · dsimp only
    rcases Int.le_total 0 last with whole | part
    · obtain ⟨places, rfl⟩ := Int.eq_ofNat_of_zero_le whole
      cases negative <;> simp
    · rcases part.lt_or_eq with part | rfl
      · rw [if_neg part.not_ge, if_neg part.not_ge, zpow_neg]
        cases negative <;> simp
      · cases negative <;> simp

/-- The whole number that is written is short where the number that is kept is small. -/
theorem integer_lt_iff (short : digits ≤ 10 ^ 28) (last : Int) :
    (if 0 ≤ last then digits * 10 ^ last.toNat else digits) < 10 ^ maxStrDigits ↔
      (digits : ℚ) * 10 ^ last < 10 ^ maxStrDigits := by
  split_ifs with whole
  · obtain ⟨places, rfl⟩ := Int.eq_ofNat_of_zero_le whole
    rw [Int.toNat_natCast, zpow_natCast]
    exact_mod_cast Iff.rfl
  · have limit : (10 : Nat) ^ 28 < 10 ^ maxStrDigits :=
      Nat.pow_lt_pow_right (by decide) (by decide)
    have small : digits < 10 ^ maxStrDigits := short.trans_lt limit
    have shrinks : (10 : ℚ) ^ last ≤ 1 := zpow_le_one_of_nonpos₀ (by norm_num) (by omega)
    refine iff_of_true small ?_
    calc (digits : ℚ) * 10 ^ last ≤ digits * 1 :=
          mul_le_mul_of_nonneg_left shrinks (Nat.cast_nonneg digits)
      _ = digits := mul_one _
      _ < 10 ^ maxStrDigits := by exact_mod_cast small

/-- Nothing that overflows the context is short enough for `str`. -/
theorem le_of_overflow {exponent : Int}
    (large : DecimalContext.default.finalize coefficient exponent = none) :
    (10 : ℚ) ^ maxStrDigits ≤ (DecimalContext.default.rounded coefficient exponent).1 *
      10 ^ (DecimalContext.default.rounded coefficient exponent).2 := by
  set result := DecimalContext.default.rounded coefficient exponent with isResult
  have outside : ¬ (result.1 = 0 ∨ result.2 + digitCount result.1 - 1 ≤ 999999) := by
    intro fits
    have := DecimalContext.finalize_eq_some.mpr ⟨isResult.symm, fits⟩
    rw [large] at this
    cases this
  push Not at outside
  have ⟨low, _⟩ := DecimalContext.decade (Nat.pos_of_ne_zero outside.1) result.2
  refine le_trans ?_ low
  have digits : (maxStrDigits : Int) ≤ digitCount result.1 - 1 + result.2 := by
    have : (maxStrDigits : Int) = 4300 := rfl
    omega
  rw [← zpow_natCast]
  exact zpow_le_zpow_right₀ (by norm_num) digits

/-- The encoder writes the number that the context keeps, where that is not too long for `str`. -/
theorem canonicalDecimal_of_roundsTo (isFinite : value.isFinite = true) {y : ℚ}
    (rounds : DecimalContext.default.RoundsTo value.toRat y) :
    if |y| < 10 ^ maxStrDigits then
      ∃ form, canonicalDecimal value = .ok form ∧ FormOf y form
    else ∀ form, canonicalDecimal value ≠ .ok form := by
  cases value with
  | infinite _ => cases isFinite
  | nan => cases isFinite
  | finite negative coefficient exponent =>
    rw [PyDecimal.toRat_finite] at rounds
    rcases Nat.eq_zero_or_pos coefficient with rfl | positive
    · have nothing : y = 0 := by
        refine rounds.unique (.inl ⟨?_, rfl⟩)
        cases negative <;> simp
      rw [nothing, abs_zero, if_pos (by positivity)]
      exact ⟨_, rfl, 0, rfl, ⟨le_rfl, .inl rfl⟩, by simp⟩
    set magnitude := (coefficient : ℚ) * 10 ^ exponent with isMagnitude
    -- the sign plays no part in the rounding
    have signed : ∀ r, DecimalContext.default.RoundsTo magnitude r →
        y = if negative then -r else r := by
      intro r isRounded
      cases negative
      · exact rounds.unique isRounded
      · exact rounds.unique isRounded.neg
    have size : ∀ r, 0 ≤ r → y = (if negative then -r else r) → |y| = r := by
      intro r nonneg same
      rw [same]
      split_ifs
      · rw [abs_neg, abs_of_nonneg nonneg]
      · exact abs_of_nonneg nonneg
    cases done : normalize coefficient exponent with
    | none =>
      simp only [canonicalDecimal, positive.ne', if_false, done]
      have large := le_of_overflow (Option.map_eq_none_iff.mp done)
      have value := signed _ (DecimalContext.rounded_roundsTo positive exponent)
      rw [← size _ (by positivity) value] at large
      rw [if_neg large.not_gt]
      exact fun _ => nofun
    | some result =>
      obtain ⟨digits, last⟩ := result
      simp only [canonicalDecimal, positive.ne', if_false, done]
      obtain ⟨isRounded, lowest, short⟩ := normalize_spec positive done
      have value := signed _ isRounded
      rw [size _ (by positivity) value]
      have fits := (digitCount_le_iff (by decide : 0 < maxStrDigits)).trans
        (integer_lt_iff short last)
      by_cases small : (digits : ℚ) * 10 ^ last < 10 ^ maxStrDigits
      · rw [if_pos small]
        refine ⟨_, bind_eq_ok.mpr ⟨(), ensure_of (fits.mpr small), rfl⟩, ?_⟩
        rw [value]
        exact formOf_normal lowest negative
      · rw [if_neg small]
        intro form written
        obtain ⟨_, counted, -⟩ := bind_eq_ok.mp written
        exact small (fits.mp (ensure_eq_ok.mp counted))

def Identifies (first second : PyDecimal) : Prop :=
  ∃ left right, canonicalDecimal first = .ok left ∧ canonicalDecimal second = .ok right ∧
    (left = right ↔ first.toRat = second.toRat)

def KeptApart (first second : PyDecimal) : Prop :=
  ∃ y z, DecimalContext.default.RoundsTo first.toRat y ∧
    DecimalContext.default.RoundsTo second.toRat z ∧
    |y| < 10 ^ maxStrDigits ∧ |z| < 10 ^ maxStrDigits ∧ (y = z → first.toRat = second.toRat)

/-- A context keeps some number of every finite decimal. -/
theorem exists_roundsTo (value : PyDecimal) :
    ∃ y, DecimalContext.default.RoundsTo value.toRat y := by
  match value with
  | .infinite _ | .nan => exact ⟨0, .inl ⟨rfl, rfl⟩⟩
  | .finite negative coefficient exponent =>
    rw [PyDecimal.toRat_finite]
    rcases Nat.eq_zero_or_pos coefficient with rfl | positive
    · exact ⟨0, .inl ⟨by cases negative <;> simp, rfl⟩⟩
    · have rounds : DecimalContext.default.RoundsTo (coefficient * 10 ^ exponent) _ :=
        DecimalContext.rounded_roundsTo positive exponent
      cases negative
      · exact ⟨_, rounds⟩
      · exact ⟨_, rounds.neg⟩

/-- Forms identify numbers that the context keeps apart, and no others. -/
theorem canonical_decimals_identify {first second : PyDecimal} (isFirst : first.isFinite = true)
    (isSecond : second.isFinite = true) : Identifies first second ↔ KeptApart first second := by
  obtain ⟨y, toY⟩ := exists_roundsTo first
  obtain ⟨z, toZ⟩ := exists_roundsTo second
  have formFirst := canonicalDecimal_of_roundsTo isFirst toY
  have formSecond := canonicalDecimal_of_roundsTo isSecond toZ
  have same : first.toRat = second.toRat → y = z := fun same => (same ▸ toY).unique toZ
  constructor
  · rintro ⟨left, right, isLeft, isRight, identify⟩
    split_ifs at formFirst with smallY
    · split_ifs at formSecond with smallZ
      · obtain ⟨_, isLeft', ofY⟩ := formFirst
        obtain ⟨_, isRight', ofZ⟩ := formSecond
        obtain rfl := Except.ok.inj (isLeft.symm.trans isLeft')
        obtain rfl := Except.ok.inj (isRight.symm.trans isRight')
        exact ⟨y, z, toY, toZ, smallY, smallZ, fun kept =>
          identify.mp ((ofY.eq_iff ofZ).mpr kept)⟩
      · exact absurd isRight (formSecond right)
    · exact absurd isLeft (formFirst left)
  · rintro ⟨y', z', toY', toZ', smallY, smallZ, apart⟩
    obtain rfl := toY.unique toY'
    obtain rfl := toZ.unique toZ'
    rw [if_pos smallY] at formFirst
    rw [if_pos smallZ] at formSecond
    obtain ⟨left, isLeft, ofY⟩ := formFirst
    obtain ⟨right, isRight, ofZ⟩ := formSecond
    exact ⟨left, right, isLeft, isRight, (ofY.eq_iff ofZ).trans ⟨apart, same⟩⟩

/-- No more digits than the context has, and a size that `str` writes. -/
def Short : PyDecimal → Prop
  | .finite _ coefficient exponent =>
    coefficient < 10 ^ 28 ∧ DecimalContext.default.etiny ≤ exponent ∧
      (coefficient : ℚ) * 10 ^ exponent < 10 ^ maxStrDigits
  | _ => False

/-- The context keeps a short number as it is. -/
theorem Short.roundsTo (short : Short value) :
    DecimalContext.default.RoundsTo value.toRat value.toRat ∧
      |value.toRat| < 10 ^ maxStrDigits := by
  match value with
  | .infinite _ | .nan => exact short.elim
  | .finite negative coefficient exponent =>
    obtain ⟨digits, place, size⟩ := short
    have rounds : DecimalContext.default.RoundsTo (coefficient * 10 ^ exponent)
        (coefficient * 10 ^ exponent) :=
      DecimalContext.roundsTo_self digits (by decide) place
    rw [PyDecimal.toRat_finite]
    have nonneg : (0 : ℚ) ≤ coefficient * 10 ^ exponent :=
      mul_nonneg (Nat.cast_nonneg coefficient) (zpow_pos (by norm_num) exponent).le
    rw [← abs_of_nonneg nonneg] at size
    cases negative
    · rw [if_neg Bool.false_ne_true]
      exact ⟨rounds, size⟩
    · rw [if_pos rfl, abs_neg]
      exact ⟨rounds.neg, size⟩

theorem keptApart_of_short {first second : PyDecimal} (shortFirst : Short first)
    (shortSecond : Short second) : KeptApart first second :=
  ⟨first.toRat, second.toRat, shortFirst.roundsTo.1, shortSecond.roundsTo.1,
    shortFirst.roundsTo.2, shortSecond.roundsTo.2, id⟩

/-- One more than ten to the twenty-eighth has the form of that power. -/
theorem twenty_nine_digits_collide :
    canonicalDecimal (.finite false 10000000000000000000000000001 0) =
        canonicalDecimal (.finite false 1 28) ∧
      ¬ Identifies (.finite false 10000000000000000000000000001 0) (.finite false 1 28) := by
  have same : canonicalDecimal (.finite false 10000000000000000000000000001 0) =
      canonicalDecimal (.finite false 1 28) := by decide
  refine ⟨same, ?_⟩
  rintro ⟨left, right, isLeft, isRight, identify⟩
  rw [same, isRight] at isLeft
  have equal := identify.mp (Except.ok.inj isLeft).symm
  norm_num [PyDecimal.toRat] at equal

/-- Zeros at the end make no difference. -/
theorem trailing_zeros_identified :
    Identifies (.finite false 150 (-2)) (.finite false 15 (-1)) := by
  have size : ∀ {x : ℚ}, x < 10 ^ 3 → x < 10 ^ maxStrDigits := fun small =>
    small.trans_le (pow_le_pow_right₀ (by norm_num) (by norm_num [maxStrDigits]))
  refine (canonical_decimals_identify rfl rfl).mpr (keptApart_of_short ?_ ?_)
  · exact ⟨by norm_num, by decide, size (by norm_num)⟩
  · exact ⟨by norm_num, by decide, size (by norm_num)⟩

end AlphaTrade.TradePlan
