import AlphaTrade.Library.Rounding
import AlphaTrade.Risk.Profile

/-!
# The position sizer

Effective risk is the least of the grade risk, the profile's allowance, the code
ceiling and the room left under the daily and aggregate budgets. Quantity comes
from the adverse stop distance with costs inside, and notional caps cut it.
Leverage sets margin and does not change quantity.

The arithmetic is exact. `quantityOf_eq_min` says that the two roundings to the
lot step amount to one minimum, and from it everything the sizer returns is
monotone in the limits of the profile.
-/
namespace AlphaTrade.Risk
open Library

/-- What the caller has. A missing field is `none`. -/
structure SizingInput where
  equity : Option PyDecimal
  entry : Option PyDecimal
  stop : Option PyDecimal
  direction : Option String
  grade : Option Grade
  gradeRiskPercent : Option PyDecimal
  atr : Option PyDecimal
  gapBeyondStop : Option PyDecimal
  feeRate : Option PyDecimal
  fundingRate : Option PyDecimal
  fundingPeriods : Option PyDecimal
  slippageRate : Option PyDecimal
  lotStep : Option PyDecimal
  minQuantity : Option PyDecimal
  remainingDailyBudgetPercent : Option PyDecimal
  openRiskPercent : Option PyDecimal
  openNotional : Option PyDecimal
  openPositions : Option Int
  leverage : Option PyDecimal
  marginMode : Option String

structure SizingResult where
  quantity : ℚ
  notional : ℚ
  margin : ℚ
  effectiveRiskPercent : ℚ
  riskAmount : ℚ
  costAmount : ℚ
  costShareOfR : ℚ
  stopDistance : ℚ
  adverseDistance : ℚ
  notionalCapped : Bool
  gradeRiskPercent : ℚ
  profileRiskPercent : ℚ
  ceilingPercent : ℚ
  budgetRoomPercent : ℚ
  leverage : ℚ
  deriving DecidableEq

inductive Direction where
  | long | short
  deriving DecidableEq, Repr

/-- The figures of an input after the checks that do not look at the profile. -/
structure Figures where
  equity : ℚ
  entry : ℚ
  stop : ℚ
  atr : ℚ
  gap : ℚ
  feeRate : ℚ
  fundingRate : ℚ
  fundingPeriods : ℚ
  slippageRate : ℚ
  lotStep : ℚ
  minQuantity : ℚ
  remainingDaily : ℚ
  openRisk : ℚ
  openNotional : ℚ
  gradeRisk : ℚ
  openPositions : Int
  direction : Direction
  grade : Grade

/-- `_required`: a finite number. -/
def required (value : Option PyDecimal) (code : String) : Except PolicyError ℚ :=
  match value with
  | some (.finite negative coefficient exponent) =>
    .ok (PyDecimal.finite negative coefficient exponent).toRat
  | _ => .error (.rejected code)

def present {α : Type} (value : Option α) (code : String) : Except PolicyError α :=
  match value with
  | some a => .ok a
  | none => .error (.rejected code)

@[simp] theorem present_eq_ok {α : Type} {value : Option α} {code : String} {a : α} :
    present value code = .ok a ↔ value = some a := by
  cases value <;> simp [present]

def directionOf : Option String → Except PolicyError Direction
  | some "long" => .ok .long
  | some "short" => .ok .short
  | _ => .error (.rejected "direction_missing")

def gradeOf (grade : Option Grade) (replaceGradeCap : Bool) : Except PolicyError Grade :=
  match grade with
  | none => .error (.rejected "grade_not_tradable")
  | some grade =>
    if grade = .c ∧ replaceGradeCap = false then .error (.rejected "grade_not_tradable")
    else .ok grade

def positive (value : ℚ) (code : String) : Except PolicyError Unit :=
  ensure (0 < value) (.rejected code)

def nonNegative (value : ℚ) (code : String) : Except PolicyError Unit :=
  ensure (0 ≤ value) (.rejected code)

/-- Every figure is there. -/
def readFigures (data : SizingInput) (replaceGradeCap : Bool) : Except PolicyError Figures := do
  let equity ← required data.equity "equity_missing"
  let entry ← required data.entry "entry_missing"
  let stop ← required data.stop "stop_missing"
  let atr ← required data.atr "atr_missing"
  let gap ← required data.gapBeyondStop "gap_missing"
  let feeRate ← required data.feeRate "fee_rate_missing"
  let fundingRate ← required data.fundingRate "funding_rate_missing"
  let fundingPeriods ← required data.fundingPeriods "funding_periods_missing"
  let slippageRate ← required data.slippageRate "slippage_rate_missing"
  let lotStep ← required data.lotStep "lot_step_missing"
  let minQuantity ← required data.minQuantity "min_quantity_missing"
  let remainingDaily ← required data.remainingDailyBudgetPercent "daily_budget_missing"
  let openRisk ← required data.openRiskPercent "open_risk_missing"
  let openNotional ← required data.openNotional "open_notional_missing"
  let gradeRisk ← required data.gradeRiskPercent "grade_risk_missing"
  let openPositions ← present data.openPositions "open_positions_missing"
  let direction ← directionOf data.direction
  let grade ← gradeOf data.grade replaceGradeCap
  let marginMode ← present data.marginMode "margin_mode_missing"
  ensure (marginMode.toLower = "isolated") (.rejected "margin_mode_not_isolated")
  return ⟨equity, entry, stop, atr, gap, feeRate, fundingRate, fundingPeriods, slippageRate,
    lotStep, minQuantity, remainingDaily, openRisk, openNotional, gradeRisk, openPositions,
    direction, grade⟩

/-- Every figure has the sign it must have. -/
def checkFigures (figures : Figures) : Except PolicyError Unit := do
  positive figures.equity "equity_invalid"
  positive figures.entry "entry_invalid"
  positive figures.atr "atr_invalid"
  nonNegative figures.gap "gap_invalid"
  nonNegative figures.feeRate "fee_rate_invalid"
  nonNegative figures.fundingPeriods "funding_periods_invalid"
  nonNegative figures.slippageRate "slippage_rate_invalid"
  positive figures.lotStep "lot_step_invalid"
  positive figures.minQuantity "min_quantity_invalid"
  positive figures.stop "stop_not_positive"
  nonNegative figures.openRisk "open_risk_invalid"
  nonNegative figures.openNotional "open_notional_invalid"
  nonNegative figures.remainingDaily "daily_budget_invalid"
  nonNegative figures.gradeRisk "grade_risk_invalid"
  ensure (0 ≤ figures.openPositions) (.rejected "open_positions_invalid")

/-- The part of `size_trade` before it looks at a limit of the profile. -/
def figuresOf (data : SizingInput) (replaceGradeCap : Bool) : Except PolicyError Figures := do
  let figures ← readFigures data replaceGradeCap
  checkFigures figures
  return figures

def stopDistance (figures : Figures) : Except PolicyError ℚ :=
  match figures.direction with
  | .long => do
    ensure (figures.stop < figures.entry) (.rejected "stop_on_wrong_side")
    return figures.entry - figures.stop
  | .short => do
    ensure (figures.entry < figures.stop) (.rejected "stop_on_wrong_side")
    return figures.stop - figures.entry

def unitCost (figures : Figures) : ℚ :=
  figures.entry * figures.feeRate + figures.stop * figures.feeRate +
    figures.entry * |figures.fundingRate| * figures.fundingPeriods +
    figures.entry * figures.slippageRate

def costShare (adverse unitCost : ℚ) : Except PolicyError ℚ := do
  ensure (0 < adverse) (.rejected "adverse_distance_invalid")
  return if unitCost = 0 then 0 else unitCost / (adverse + unitCost)

def leverageOf (profile : RiskPolicyProfile) (leverage : Option PyDecimal) :
    Except PolicyError ℚ :=
  match leverage with
  | none => .ok profile.defaultLeverage
  | some leverage => required (some leverage) "leverage_invalid"

/-- `max(profile.risk_percent_by_grade.values())`. -/
def profileMax (profile : RiskPolicyProfile) : ℚ :=
  gradeOrder.foldl (fun most grade => max most (profile.riskPercentByGrade grade))
    (profile.riskPercentByGrade .aPlus)

def budgetRoom (profile : RiskPolicyProfile) (figures : Figures) : ℚ :=
  let dailyCap := min (min profile.dailyLossLimitPercent hardMaxDailyLossPercent)
    figures.remainingDaily
  min (dailyCap - figures.openRisk) (profile.maxAggregateOpenRiskPercent - figures.openRisk)

/-- The effective risk and the profile risk that is recorded with it. -/
def effectiveRisk (profile : RiskPolicyProfile) (figures : Figures) (replaceGradeCap : Bool) :
    Except PolicyError (ℚ × ℚ) :=
  let ceiling := riskCeilingFor profile.kind
  if replaceGradeCap then do
    let hardCeiling := min paperDemoMaxRiskPerTradePercent ceiling
    ensure (figures.gradeRisk ≤ hardCeiling) (.rejected "risk_override_exceeds_ceiling")
    ensure (figures.gradeRisk ≤ profileMax profile) (.rejected "risk_override_exceeds_profile_max")
    return (min (min figures.gradeRisk hardCeiling) (budgetRoom profile figures),
      profileMax profile)
  else
    let profileRisk := profile.riskPercentByGrade figures.grade
    .ok (min (min (min figures.gradeRisk profileRisk) ceiling) (budgetRoom profile figures),
      profileRisk)

/-- `_round_lot`. -/
def roundLot (quantity lotStep : ℚ) : ℚ := roundToStep quantity lotStep

def notionalRoom (profile : RiskPolicyProfile) (figures : Figures) : ℚ :=
  min (figures.equity * profile.maxNotionalPerTradePercent / 100)
    (figures.equity * profile.maxAggregateNotionalPercent / 100 - figures.openNotional)

def capQuantity (figures : Figures) (quantity room : ℚ) (preserveGradeRisk : Bool) :
    Except PolicyError (ℚ × Bool) :=
  if room < quantity * figures.entry then do
    ensure (preserveGradeRisk = false) (.rejected "notional_cap_shrinks_grade_risk")
    return (roundLot (room / figures.entry) figures.lotStep, true)
  else .ok (quantity, false)

/-- `_QUANTUM`. -/
def quantum : ℚ := 1 / 10 ^ 8

/-- The part of `size_trade` that depends on the profile. -/
def sizeFigures (profile : RiskPolicyProfile) (figures : Figures) (leverage : Option PyDecimal)
    (preserveGradeRisk replaceGradeCap : Bool) : Except PolicyError SizingResult := do
  ensure (figures.openPositions < profile.maxOpenPositions) (.rejected "max_open_positions")
  let distance ← stopDistance figures
  ensure (max (profile.minStopAtrMultiple * figures.atr)
    (figures.entry * profile.minStopAbsoluteFloor) ≤ distance) (.rejected "stop_too_tight")
  let leverage ← leverageOf profile leverage
  ensure (1 ≤ leverage ∧ leverage ≤ profile.maxLeverage ∧ leverage ≤ hardMaxLeverage)
    (.rejected "leverage_exceeds_ceiling")
  ensure (0 < budgetRoom profile figures) (.rejected "budget_exhausted")
  let (effective, profileRisk) ← effectiveRisk profile figures replaceGradeCap
  ensure (0 < effective) (.rejected "budget_exhausted")
  let adverse := distance + figures.gap
  let cost := unitCost figures
  let share ← costShare adverse cost
  ensure (share ≤ profile.maxCostShareOfR) (.rejected "costs_exceed_r")
  let riskAmount := figures.equity * effective / 100
  ensure (0 < adverse + cost) (.rejected "sizing_denominator_invalid")
  let wanted := roundLot (riskAmount / (adverse + cost)) figures.lotStep
  ensure (0 < notionalRoom profile figures) (.rejected "notional_cap")
  let (quantity, capped) ←
    capQuantity figures wanted (notionalRoom profile figures) preserveGradeRisk
  ensure (figures.minQuantity ≤ quantity) (.rejected "below_min_quantity")
  let notional := quantizeDown 8 (quantity * figures.entry)
  let costAmount := quantizeDown 8 (quantity * cost)
  let realizedR := quantizeDown 8 (quantity * adverse) + costAmount
  ensure (0 < realizedR ∧ realizedR ≤ riskAmount + quantum) (.rejected "risk_amount_invalid")
  let realizedShare := costAmount / realizedR
  ensure (realizedShare ≤ profile.maxCostShareOfR) (.rejected "costs_exceed_r")
  return {
    quantity := quantity
    notional := notional
    margin := quantizeDown 8 (notional / leverage)
    effectiveRiskPercent := quantizeDown 8 (realizedR / figures.equity * 100)
    riskAmount := realizedR
    costAmount := costAmount
    costShareOfR := realizedShare
    stopDistance := distance
    adverseDistance := adverse
    notionalCapped := capped
    gradeRiskPercent := figures.gradeRisk
    profileRiskPercent := profileRisk
    ceilingPercent := riskCeilingFor profile.kind
    budgetRoomPercent := budgetRoom profile figures
    leverage := leverage }

def sizeTrade (profile : RiskPolicyProfile) (data : SizingInput)
    (promotion : Option PromotionReport) (preserveGradeRisk replaceGradeCap : Bool) :
    Except PolicyError SizingResult := do
  validateProfile profile
  assertPromotionAllows profile promotion
  let figures ← figuresOf data replaceGradeCap
  sizeFigures profile figures data.leverage preserveGradeRisk replaceGradeCap

/-! ## What an accepted trade is -/

/-- The signs that `figuresOf` has checked. -/
structure Figures.Checked (figures : Figures) : Prop where
  equity : 0 < figures.equity
  entry : 0 < figures.entry
  stop : 0 < figures.stop
  gap : 0 ≤ figures.gap
  feeRate : 0 ≤ figures.feeRate
  fundingPeriods : 0 ≤ figures.fundingPeriods
  slippageRate : 0 ≤ figures.slippageRate
  lotStep : 0 < figures.lotStep

variable {figures : Figures} {leverage : Option PyDecimal} {proposed previous : RiskPolicyProfile}

theorem checkFigures_checked (h : checkFigures figures = .ok ()) : figures.Checked := by
  simp only [checkFigures, positive, nonNegative, bind_eq_ok, ensure_eq_ok, exists_const] at h
  obtain ⟨equity, entry, -, gap, fee, periods, slippage, lot, -, stop, -⟩ := h
  exact ⟨equity, entry, stop, gap, fee, periods, slippage, lot⟩

theorem figuresOf_checked {data : SizingInput} {replaceGradeCap : Bool}
    (h : figuresOf data replaceGradeCap = .ok figures) : figures.Checked := by
  simp only [figuresOf, bind_eq_ok, pure, Except.pure, Except.ok.injEq] at h
  obtain ⟨_, -, _, signs, rfl⟩ := h
  exact checkFigures_checked signs

theorem Figures.Checked.unitCost_nonneg (checked : figures.Checked) : 0 ≤ unitCost figures := by
  obtain ⟨-, entry, stop, -, fee, periods, slippage, -⟩ := checked
  unfold unitCost
  positivity

def gradedRisk (profile : RiskPolicyProfile) (figures : Figures) : ℚ :=
  min (min (min figures.gradeRisk (profile.riskPercentByGrade figures.grade))
    (riskCeilingFor profile.kind)) (budgetRoom profile figures)

def wantedLots (profile : RiskPolicyProfile) (figures : Figures) (distance : ℚ) : ℚ :=
  roundLot (figures.equity * gradedRisk profile figures / 100 /
    (distance + figures.gap + unitCost figures)) figures.lotStep

/-- Cutting a quantity that exceeds the room is taking the lesser of two roundings. -/
theorem capQuantity_eq_min (checked : figures.Checked) {quantity room : ℚ}
    (lots : ∃ x, quantity = roundLot x figures.lotStep) (room_nonneg : 0 ≤ room) {cut : ℚ × Bool}
    (h : capQuantity figures quantity room false = .ok cut) :
    cut.1 = min quantity (roundLot (room / figures.entry) figures.lotStep) := by
  obtain ⟨x, rfl⟩ := lots
  have nonneg : 0 ≤ room / figures.entry := div_nonneg room_nonneg checked.entry.le
  unfold capQuantity at h
  split_ifs at h with exceeds
  · simp only [ensure, if_true, bind, Except.bind, pure, Except.pure, Except.ok.injEq] at h
    subst h
    have below := roundToStep_le checked.lotStep nonneg
    have cap : room / figures.entry < roundLot x figures.lotStep :=
      (div_lt_iff₀ checked.entry).mpr exceeds
    exact (min_eq_right (below.trans cap.le)).symm
  · obtain rfl := Except.ok.inj h
    have fits : roundLot x figures.lotStep ≤ room / figures.entry :=
      (le_div_iff₀ checked.entry).mpr (not_lt.mp exceeds)
    exact (min_eq_left (roundToStep_le_roundToStep checked.lotStep nonneg fits)).symm

/-- What the sizer returns when it accepts, neither flag being set. -/
theorem sizeFigures_eq_ok {profile : RiskPolicyProfile} (checked : figures.Checked)
    {result : SizingResult} (h : sizeFigures profile figures leverage false false = .ok result) :
    ∃ distance, stopDistance figures = .ok distance ∧ 0 < distance + figures.gap ∧
      result.quantity = min (wantedLots profile figures distance)
        (roundLot (notionalRoom profile figures / figures.entry) figures.lotStep) ∧
      result.notional = quantizeDown 8 (result.quantity * figures.entry) ∧
      result.riskAmount = quantizeDown 8 (result.quantity * (distance + figures.gap)) +
        quantizeDown 8 (result.quantity * unitCost figures) := by
  simp only [sizeFigures, bind_eq_ok, ensure_eq_ok, exists_const, pure, Except.pure,
    Except.ok.injEq] at h
  obtain ⟨-, distance, stop, -, _, -, -, -, ⟨effective, recorded⟩, risk, -, _, share, -, -, room,
    ⟨quantity, capped⟩, cut, -, -, -, rfl⟩ := h
  have graded : effective = gradedRisk profile figures := by
    simp only [effectiveRisk, Bool.false_eq_true, if_false, Except.ok.injEq, Prod.mk.injEq] at risk
    exact risk.1.symm
  have adverse : 0 < distance + figures.gap := by
    simp only [costShare, bind_eq_ok, ensure_eq_ok, exists_const] at share
    exact share.1
  subst graded
  exact ⟨distance, stop, adverse, capQuantity_eq_min checked ⟨_, rfl⟩ room.le cut, rfl, rfl⟩

/-! ## Tightening -/

theorem budgetRoom_mono (figures : Figures) (tighter : NoLooser proposed previous) :
    budgetRoom proposed figures ≤ budgetRoom previous figures := by
  have daily := tighter.dailyLossLimitPercent
  have aggregate := tighter.maxAggregateOpenRiskPercent
  simp only [budgetRoom]
  gcongr

theorem gradedRisk_mono (figures : Figures) (tighter : NoLooser proposed previous)
    (kind : previous.kind = proposed.kind) :
    gradedRisk proposed figures ≤ gradedRisk previous figures := by
  have grade := tighter.riskPercentByGrade figures.grade (mem_gradeOrder _)
  have room := budgetRoom_mono figures tighter
  unfold gradedRisk
  rw [kind]
  gcongr

theorem wantedLots_mono (checked : figures.Checked) (tighter : NoLooser proposed previous)
    (kind : previous.kind = proposed.kind) {distance : ℚ} (adverse : 0 < distance + figures.gap) :
    wantedLots proposed figures distance ≤ wantedLots previous figures distance := by
  have risk := gradedRisk_mono figures tighter kind
  have cost := checked.unitCost_nonneg
  have equity := checked.equity
  refine roundToStep_mono checked.lotStep ?_
  gcongr

theorem notionalRoom_mono (checked : figures.Checked) (tighter : NoLooser proposed previous) :
    notionalRoom proposed figures ≤ notionalRoom previous figures := by
  have perTrade := tighter.maxNotionalPerTradePercent
  have aggregate := tighter.maxAggregateNotionalPercent
  have equity := checked.equity
  unfold notionalRoom
  gcongr

/-- Quantity, notional and risk amount are monotone in the limits. -/
theorem sizeFigures_mono (checked : figures.Checked) (tighter : NoLooser proposed previous)
    (kind : previous.kind = proposed.kind) {before after : SizingResult}
    (was : sizeFigures previous figures leverage false false = .ok before)
    (now : sizeFigures proposed figures leverage false false = .ok after) :
    after.quantity ≤ before.quantity ∧ after.notional ≤ before.notional ∧
      after.riskAmount ≤ before.riskAmount := by
  obtain ⟨distance, found, adverse, quantity, notional, risk⟩ := sizeFigures_eq_ok checked was
  obtain ⟨_, found', -, quantity', notional', risk'⟩ := sizeFigures_eq_ok checked now
  obtain rfl := Except.ok.inj (found.symm.trans found')
  have fewer : after.quantity ≤ before.quantity := by
    rw [quantity, quantity']
    have room := div_le_div_of_nonneg_right (notionalRoom_mono checked tighter) checked.entry.le
    exact min_le_min (wantedLots_mono checked tighter kind adverse)
      (roundToStep_mono checked.lotStep room)
  have scaled : ∀ {x : ℚ}, 0 ≤ x →
      quantizeDown 8 (after.quantity * x) ≤ quantizeDown 8 (before.quantity * x) :=
    fun nonneg => quantizeDown_mono (mul_le_mul_of_nonneg_right fewer nonneg)
  refine ⟨fewer, ?_, ?_⟩
  · rw [notional, notional']
    exact scaled checked.entry.le
  · rw [risk, risk']
    exact add_le_add (scaled adverse.le) (scaled checked.unitCost_nonneg)

/-- A change that is classified as a tightening never enlarges a trade: whatever
is accepted under both profiles is no larger under the new one. Leverage does not
enter, whether the input names it or not. -/
theorem tightening_never_enlarges {previous proposed : RiskPolicyProfile}
    (kind : previous.kind = proposed.kind) (prior : AtEightPlaces previous)
    (stored : AtEightPlaces proposed)
    (tightening : classifyChange (some previous) proposed none = .ok .tightening)
    (data : SizingInput) (promotion promotion' : Option PromotionReport)
    {before after : SizingResult}
    (was : sizeTrade previous data promotion false false = .ok before)
    (now : sizeTrade proposed data promotion' false false = .ok after) :
    after.quantity ≤ before.quantity ∧ after.notional ≤ before.notional ∧
      after.riskAmount ≤ before.riskAmount := by
  have tighter := noLooser_of_classify tightening (by decide) prior stored
  simp only [sizeTrade, bind_eq_ok] at was now
  obtain ⟨_, -, _, -, figures, read, was⟩ := was
  obtain ⟨_, -, _, -, _, read', now⟩ := now
  obtain rfl := Except.ok.inj (read.symm.trans read')
  exact sizeFigures_mono (figuresOf_checked read) tighter kind was now

def halvedProfile : RiskPolicyProfile :=
  { placeholderProfile .demo with
    riskPercentByGrade := fun grade => if grade = .aPlus then 1 / 2 else if grade = .c then 0 else 1
    maxNotionalPerTradePercent := 5 }

/-- A long at 100 with the stop at 95 on an account of 10000. -/
def longInput : SizingInput where
  equity := some (.finite false 10000 0)
  entry := some (.finite false 100 0)
  stop := some (.finite false 95 0)
  direction := some "long"
  grade := some .aPlus
  gradeRiskPercent := some (.finite false 1 0)
  atr := some (.finite false 2 0)
  gapBeyondStop := some (.finite false 0 0)
  feeRate := some (.finite false 5 (-4))
  fundingRate := some (.finite false 1 (-4))
  fundingPeriods := some (.finite false 1 0)
  slippageRate := some (.finite false 1 (-3))
  lotStep := some (.finite false 1 (-3))
  minQuantity := some (.finite false 1 (-3))
  remainingDailyBudgetPercent := some (.finite false 1 0)
  openRiskPercent := some (.finite false 0 0)
  openNotional := some (.finite false 0 0)
  openPositions := some 0
  leverage := some (.finite false 1 0)
  marginMode := some "Isolated"

theorem tightening_never_enlarges_halved :
    ∃ before after, sizeTrade (placeholderProfile .demo) longInput none false false = .ok before ∧
      sizeTrade halvedProfile longInput none false false = .ok after ∧
      after.quantity ≤ before.quantity ∧ after.notional ≤ before.notional ∧
      after.riskAmount ≤ before.riskAmount := by
  have accepted : (sizeTrade (placeholderProfile .demo) longInput none false false).isOk ∧
      (sizeTrade halvedProfile longInput none false false).isOk := by decide +kernel
  match was : sizeTrade (placeholderProfile .demo) longInput none false false,
    now : sizeTrade halvedProfile longInput none false false with
  | .ok before, .ok after =>
    exact ⟨before, after, rfl, rfl, tightening_never_enlarges (by decide) (by decide +kernel)
      (by decide +kernel) (by decide +kernel) longInput none none was now⟩
  | .error _, _ | _, .error _ => simp [was, now, Except.isOk, Except.toBool] at accepted

end AlphaTrade.Risk
