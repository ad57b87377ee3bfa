import Mathlib
import AlphaTrade.Risk.PlanSizing

/-!
# A sized plan against its own recheck

The sizer spends `effective` percent of the equity and rounds the quantity down to a
lot, so what a stop costs is no more than that percent. The recheck prices the stored
quantity again with the same unit costs. Every limit it looks at bounds `effective`
too, but the cap of the grade: an override replaces that cap in the sizer and not in
the recheck.
-/
namespace AlphaTrade.Risk
open Library

/-! ## What the sizer accepts -/

/-- A trade whose quantity is what `effective` percent of the equity pays for, uncut. -/
structure Figures.SizedAt (figures : Figures) (profile : RiskPolicyProfile)
    (effective quantity : ℚ) : Prop where
  positions : figures.openPositions < profile.maxOpenPositions
  apart : 0 < |figures.entry - figures.stop|
  positive : 0 < effective
  withinBudget : effective ≤ budgetRoom profile figures
  lots : quantity = roundLot (figures.equity * effective / 100 /
    (|figures.entry - figures.stop| + figures.gap + unitCost figures)) figures.lotStep
  notional : quantity * figures.entry ≤ notionalRoom profile figures
  atLeast : figures.minQuantity ≤ quantity

theorem stopDistance_eq_abs {figures : Figures} {distance : ℚ}
    (h : stopDistance figures = .ok distance) :
    distance = |figures.entry - figures.stop| ∧ 0 < distance := by
  unfold stopDistance at h
  split at h
  · simp only [bind_eq_ok, ensure_eq_ok, exists_const, pure, Except.pure, Except.ok.injEq] at h
    obtain ⟨below, rfl⟩ := h
    have positive := sub_pos.mpr below
    exact ⟨(abs_of_pos positive).symm, positive⟩
  · simp only [bind_eq_ok, ensure_eq_ok, exists_const, pure, Except.pure, Except.ok.injEq] at h
    obtain ⟨above, rfl⟩ := h
    have positive := sub_pos.mpr above
    exact ⟨by rw [abs_sub_comm, abs_of_pos positive], positive⟩

/-- Where the grade risk is preserved, no notional cap has cut the quantity. -/
theorem capQuantity_preserved {figures : Figures} {quantity room : ℚ} {cut : ℚ × Bool}
    (h : capQuantity figures quantity room true = .ok cut) :
    cut.1 = quantity ∧ quantity * figures.entry ≤ room := by
  unfold capQuantity at h
  split_ifs at h with exceeds
  · simp [ensure, bind, Except.bind] at h
  · obtain rfl := Except.ok.inj h
    exact ⟨rfl, not_lt.mp exceeds⟩

variable {profile : RiskPolicyProfile} {replaceGradeCap : Bool} {risk : ℚ × ℚ}
  {result : SizingResult} {grade : Grade}

theorem effectiveRisk_le_budget {figures : Figures}
    (h : effectiveRisk profile figures replaceGradeCap = .ok risk) :
    risk.1 ≤ budgetRoom profile figures := by
  unfold effectiveRisk at h
  split_ifs at h
  · simp only [bind_eq_ok, ensure_eq_ok, exists_const, pure, Except.pure, Except.ok.injEq] at h
    obtain ⟨-, -, rfl⟩ := h
    exact min_le_right _ _
  · obtain rfl := Except.ok.inj h
    exact min_le_right _ _

theorem sizeFigures_sizedAt {figures : Figures} {leverage : Option PyDecimal}
    (h : sizeFigures profile figures leverage true replaceGradeCap = .ok result) :
    ∃ risk, effectiveRisk profile figures replaceGradeCap = .ok risk ∧
      figures.SizedAt profile risk.1 result.quantity := by
  simp only [sizeFigures, bind_eq_ok, ensure_eq_ok, exists_const, pure, Except.pure,
    Except.ok.injEq] at h
  obtain ⟨positions, distance, stop, -, _, -, -, -, ⟨effective, recorded⟩, risk, positive, _, -,
    -, -, -, ⟨quantity, capped⟩, cut, atLeast, -, -, rfl⟩ := h
  obtain ⟨rfl, apart⟩ := stopDistance_eq_abs stop
  obtain ⟨rfl, notional⟩ := capQuantity_preserved cut
  exact ⟨_, risk, ⟨positions, apart, positive, effectiveRisk_le_budget risk, rfl, notional,
    atLeast⟩⟩


/-! ## An accepted plan -/

def SizingRequest.multiplier (request : SizingRequest) : ℚ :=
  (volatilityFactor (volatility (request.atr.getD 0) request.entry)).getD 0 *
    alignmentFactor (request.grade.trendScore = some 1) *
    alignmentFactor (request.grade.momentumScore = some 1)

def SizingRequest.figures (request : SizingRequest) (direction : Direction) (grade : Grade)
    (gradeRisk : ℚ) : Figures :=
  (request.sizing (request.atr.getD 0) gradeRisk).figures direction grade

/-- What a request was accepted with. -/
structure SizingRequest.Accepted (request : SizingRequest) (plan : SizedPlan)
    (direction : Direction) (gradeRisk : ℚ) (risk : ℚ × ℚ) : Prop where
  grade : request.grade.grade = some plan.grade
  entry : plan.entry = request.entry
  stop : plan.stop = request.stop
  valid : validateProfile request.profile = .ok ()
  requested : requestedRisk request plan.grade = .ok gradeRisk
  tradable : plan.grade = .c → request.fixedRiskPercent.isSome
  adjusted : request.multiplier ≤ 1
  signs : checkFigures (request.figures direction plan.grade (gradeRisk * request.multiplier)) =
    .ok ()
  effective : effectiveRisk request.profile
    (request.figures direction plan.grade (gradeRisk * request.multiplier))
    request.fixedRiskPercent.isSome = .ok risk
  sized : (request.figures direction plan.grade (gradeRisk * request.multiplier)).SizedAt
    request.profile risk.1 plan.quantity

variable {request : SizingRequest}

theorem applyAdjusters_eq_ok {atr trend momentum risk : ℚ} {adjusted : AdjusterResult}
    (hatr : request.atr = some atr) (htrend : request.grade.trendScore = some trend)
    (hmomentum : request.grade.momentumScore = some momentum)
    (h : applyAdjusters risk (request.adjusters atr trend momentum) = .ok adjusted) :
    adjusted.adjustedRiskPercent = risk * request.multiplier ∧ request.multiplier ≤ 1 := by
  simp only [applyAdjusters, SizingRequest.adjusters, bind_eq_ok, ensure_eq_ok, present_eq_ok,
    exists_const, pure, Except.pure, Except.ok.injEq, Option.some.injEq, exists_eq_left'] at h
  obtain ⟨-, factor, found, -, product, rfl⟩ := h
  have multiplier : request.multiplier =
      factor * alignmentFactor (trend = 1) * alignmentFactor (momentum = 1) := by
    simp only [SizingRequest.multiplier, hatr, htrend, hmomentum, Option.getD_some, found,
      Option.some.injEq]
  rw [multiplier]
  exact ⟨rfl, product⟩

theorem PlanSizing.sizeTrade_eq_ok {sizing : PlanSizing} {promotion : Option PromotionReport}
    {preserve replace : Bool}
    (h : sizing.sizeTrade profile grade promotion preserve replace = .ok result) :
    ∃ direction, validateProfile profile = .ok () ∧ (grade = .c → replace = true) ∧
      checkFigures (sizing.figures direction grade) = .ok () ∧
      sizeFigures profile (sizing.figures direction grade) sizing.leverage preserve replace =
        .ok result := by
  simp only [PlanSizing.sizeTrade, gradeOf, bind_eq_ok, ensure_eq_ok, exists_const] at h
  obtain ⟨_, valid, _, -, direction, -, graded, tradable, -, _, signs, sizes⟩ := h
  split_ifs at tradable with untradable
  obtain rfl := Except.ok.inj tradable
  refine ⟨direction, valid, fun isC => ?_, signs, sizes⟩
  simpa [isC] using untradable

variable {plan : SizedPlan}

theorem sizeForProfile_accepted (h : sizeForProfile request = .ok plan) :
    ∃ direction gradeRisk risk, request.Accepted plan direction gradeRisk risk := by
  unfold sizeForProfile at h
  split at h
  · simp at h
  rename_i grade hgrade
  simp only [bind_eq_ok, caught_eq_ok, ensure_eq_ok, present_eq_ok, exists_const, pure,
    Except.pure, Except.ok.injEq] at h
  obtain ⟨trend, htrend, momentum, hmomentum, -, atr, hatr, -, -, gradeRisk, requested, -,
    sized, decided, _, -, -, rfl⟩ := h
  simp only [decideTrade, hgrade, bind_eq_ok, caught_eq_ok, ensure_eq_ok, exists_const, pure,
    Except.pure, Except.ok.injEq] at decided
  obtain ⟨-, -, adjusted, adjusts, _, sizes, _, -, -, -, rfl⟩ := decided
  obtain ⟨risk, reduced⟩ : adjusted.adjustedRiskPercent = gradeRisk * request.multiplier ∧ _ :=
    applyAdjusters_eq_ok hatr htrend hmomentum adjusts
  obtain ⟨direction, valid, tradable, signs, sizes⟩ := PlanSizing.sizeTrade_eq_ok sizes
  obtain ⟨effective, heffective, sizedAt⟩ := sizeFigures_sizedAt sizes
  have same : ({ request.sizing atr gradeRisk with
      gradeRiskPercent := adjusted.adjustedRiskPercent }).figures direction grade =
      request.figures direction grade (gradeRisk * request.multiplier) := by
    rw [SizingRequest.figures, hatr, ← risk]
    rfl
  rw [same] at signs heffective sizedAt
  exact ⟨direction, gradeRisk, effective,
    ⟨hgrade, rfl, rfl, valid, requested, tradable, reduced, signs, heffective, sizedAt⟩⟩

/-! ## What a stop costs -/

def SizingRequest.unitCost (request : SizingRequest) (hold : Option DecimalValue) : ℚ :=
  profileUnitCost request.entry request.stop request.includeBookBuffer request.fundingRate
    request.fundingRateVerified hold

def SizingRequest.unitLoss (request : SizingRequest) (hold : Option DecimalValue) : ℚ :=
  |request.entry - request.stop| + request.unitCost hold

def SizingRequest.lots (request : SizingRequest) (hold : Option DecimalValue) (percent : ℚ) : ℚ :=
  roundLot (request.equity * percent / 100 / request.unitLoss hold) request.lotStep

def SizingRequest.added (request : SizingRequest) (quantity : ℚ) : ℚ :=
  quantity * request.unitLoss none / request.equity * 100

theorem one_le_funding_periods (liveRate : Option DecimalValue) (liveVerified : Bool)
    (hold : Option DecimalValue) : 1 ≤ (paperDemoFunding liveRate liveVerified hold).2 := by
  have one : ∀ periods : ℚ, 1 ≤ if periods < 1 then 1 else periods := fun periods => by
    split_ifs with h
    · exact le_refl 1
    · exact not_lt.mp h
  unfold paperDemoFunding
  split <;> exact one _

theorem funding_periods_default (liveRate : Option DecimalValue) (liveVerified : Bool) :
    (paperDemoFunding liveRate liveVerified none).2 = 1 := by
  unfold paperDemoFunding
  split <;> norm_num [holdHours, defaultHoldHours]

theorem funding_rate_eq (liveRate : Option DecimalValue) (liveVerified : Bool)
    (hold hold' : Option DecimalValue) : (paperDemoFunding liveRate liveVerified hold).1 =
      (paperDemoFunding liveRate liveVerified hold').1 := by
  unfold paperDemoFunding
  split <;> rfl

/-- No hold has fewer funding windows than the default one. -/
theorem unitCost_default_le (entry : 0 ≤ request.entry) (hold : Option DecimalValue) :
    request.unitCost none ≤ request.unitCost hold := by
  have windows := one_le_funding_periods request.fundingRate request.fundingRateVerified hold
  simp only [SizingRequest.unitCost, profileUnitCost, funding_periods_default,
    funding_rate_eq _ _ none hold]
  gcongr

theorem unitCost_default_nonneg (entry : 0 ≤ request.entry) (stop : 0 ≤ request.stop) :
    0 ≤ request.unitCost none := by
  have slippage : 0 ≤ slippageRate request.includeBookBuffer := by
    unfold slippageRate
    split_ifs <;> norm_num
  have fee : 0 ≤ takerFeeRate := by norm_num [takerFeeRate]
  simp only [SizingRequest.unitCost, profileUnitCost, funding_periods_default]
  positivity

theorem unitCost_figures (request : SizingRequest) (direction : Direction) (grade : Grade)
    (gradeRisk : ℚ) : unitCost (request.figures direction grade gradeRisk) =
      request.unitCost request.expectedHoldHours := rfl

theorem checkFigures_more {figures : Figures} (h : checkFigures figures = .ok ()) :
    0 < figures.minQuantity ∧ 0 ≤ figures.openRisk := by
  simp only [checkFigures, positive, nonNegative, bind_eq_ok, ensure_eq_ok, exists_const] at h
  obtain ⟨-, -, -, -, -, -, -, -, least, -, openRisk, -⟩ := h
  exact ⟨least, openRisk⟩

section accepted
variable {request : SizingRequest} {plan : SizedPlan} {direction : Direction} {gradeRisk : ℚ}
  {risk : ℚ × ℚ}

theorem equity_pos (accepted : request.Accepted plan direction gradeRisk risk) :
    0 < request.equity := (checkFigures_checked accepted.signs).equity

theorem unitLoss_pos (accepted : request.Accepted plan direction gradeRisk risk) :
    0 < request.unitLoss none := by
  have checked := checkFigures_checked accepted.signs
  have cost : 0 ≤ request.unitCost none :=
    unitCost_default_nonneg checked.entry.le checked.stop.le
  have apart : 0 < |request.entry - request.stop| := accepted.sized.apart
  exact add_pos_of_pos_of_nonneg apart cost

theorem unitLoss_default_le (accepted : request.Accepted plan direction gradeRisk risk) :
    request.unitLoss none ≤ request.unitLoss request.expectedHoldHours := by
  have entry : 0 < request.entry := (checkFigures_checked accepted.signs).entry
  exact add_le_add_right (unitCost_default_le entry.le _) _

theorem quantity_pos (accepted : request.Accepted plan direction gradeRisk risk) :
    0 < plan.quantity :=
  (checkFigures_more accepted.signs).1.trans_le accepted.sized.atLeast

/-- The quantity is what the effective risk pays for at the sizer's own unit loss. -/
theorem quantity_eq_lots (accepted : request.Accepted plan direction gradeRisk risk) :
    plan.quantity = request.lots request.expectedHoldHours risk.1 := by
  have lots := accepted.sized.lots
  rw [unitCost_figures] at lots
  simpa [SizingRequest.lots, SizingRequest.unitLoss, SizingRequest.figures, PlanSizing.figures,
    SizingRequest.sizing] using lots

/-- A quantity loses no more than a percent when that percent pays for it. -/
theorem added_le_iff (accepted : request.Accepted plan direction gradeRisk risk)
    {quantity percent : ℚ} : request.added quantity ≤ percent ↔
      quantity ≤ request.equity * percent / 100 / request.unitLoss none := by
  rw [SizingRequest.added, le_div_iff₀ (unitLoss_pos accepted), div_mul_eq_mul_div,
    div_le_iff₀ (equity_pos accepted), le_div_iff₀ (by norm_num), mul_comm percent]

/-- The recheck adds no more than the risk that the sizer was allowed. -/
theorem added_le_effective (accepted : request.Accepted plan direction gradeRisk risk) :
    request.added plan.quantity ≤ risk.1 := by
  have loss := unitLoss_pos accepted
  have longer := unitLoss_default_le accepted
  have equity := equity_pos accepted
  have lot : 0 < request.lotStep := (checkFigures_checked accepted.signs).lotStep
  have positive := accepted.sized.positive
  apply (added_le_iff accepted).mpr
  calc plan.quantity = request.lots request.expectedHoldHours risk.1 := quantity_eq_lots accepted
    _ ≤ request.equity * risk.1 / 100 / request.unitLoss request.expectedHoldHours := by
        apply roundToStep_le lot
        have := loss.trans_le longer
        positivity
    _ ≤ request.equity * risk.1 / 100 / request.unitLoss none := by gcongr

theorem added_pos (accepted : request.Accepted plan direction gradeRisk risk) :
    0 < request.added plan.quantity := by
  have quantity := quantity_pos accepted
  have loss := unitLoss_pos accepted
  have equity := equity_pos accepted
  unfold SizingRequest.added
  positivity

end accepted

/-! ## The marked plan -/

/-- Terms that carry a sized plan, on a contract of one unit, and no grade yet. -/
structure PlanTerms.Carries (terms : PlanTerms) (plan : SizedPlan) : Prop where
  quantity : terms.quantity = plan.quantity
  entry : terms.executionPrice = plan.entry
  stop : terms.stop = plan.stop
  multiplier : terms.contractMultiplier = 1
  unmarked : ∀ input ∈ terms.calculationInputs, input.name ≠ profileSizingGrade

/-- What `build_internal_paper_terms` makes of a sized plan. -/
def paperTerms (plan : SizedPlan) : PlanTerms where
  quantity := plan.quantity
  executionPrice := plan.entry
  stop := plan.stop
  contractMultiplier := 1
  calculationInputs := [{
    name := "rounded_base_quantity"
    inputValue := plan.quantity
    resultValue := plan.quantity
    unit := "BASE"
    formulaId := "floor-to-lot"
    formulaVersion := "1"
    precision := 3
    roundingMode := "ROUND_FLOOR"
    conservativeRemainder := 0 }]

theorem paperTerms_carries (plan : SizedPlan) : (paperTerms plan).Carries plan :=
  ⟨rfl, rfl, rfl, rfl, by simp [paperTerms, profileSizingGrade]⟩

def markedCap (profile : RiskPolicyProfile) (grade : Grade) (percent : ℚ) : ℚ :=
  if profile.riskPercentByGrade grade ≤ 0 then percent
  else min percent (profile.riskPercentByGrade grade)

theorem gradeByCode_gradeCode (grade : Grade) : gradeByCode (gradeCode grade) = some grade := by
  cases grade <;> decide

theorem storedSizingGradeCap_marked {terms : PlanTerms} (carries : terms.Carries plan)
    (profile : RiskPolicyProfile) (grade : Grade) {percent : ℚ} (positive : 0 < percent) :
    storedSizingGradeCap (withProfileSizingGrade terms grade percent) profile =
      some (markedCap profile grade percent) := by
  have none : terms.calculationInputs.filter (fun input => input.name = profileSizingGrade) = [] :=
    List.filter_eq_nil_iff.mpr fun input mem => by simpa using carries.unmarked input mem
  unfold storedSizingGradeCap withProfileSizingGrade
  simp only [List.filter_append, none, List.nil_append]
  simp only [profileSizingGradePayload, List.filter_cons, decide_true, if_true, List.filter_nil,
    gradeByCode_gradeCode, not_le.mpr positive, if_false, markedCap]
  split_ifs <;> rfl

section accepted
variable {request : SizingRequest} {plan : SizedPlan} {direction : Direction} {gradeRisk : ℚ}
  {risk : ℚ × ℚ}

/-- The book has room for what the plan adds. -/
theorem added_fits (accepted : request.Accepted plan direction gradeRisk risk) :
    request.book.openRiskPercent + request.added plan.quantity ≤
        request.book.remainingDailyBudgetPercent ∧
      request.book.openRiskPercent + request.added plan.quantity ≤
        request.profile.maxAggregateOpenRiskPercent ∧
      request.added plan.quantity ≤ hardMaxDailyLossPercent := by
  have added := (added_le_effective accepted).trans accepted.sized.withinBudget
  have openRisk : 0 ≤ request.book.openRiskPercent := (checkFigures_more accepted.signs).2
  simp only [budgetRoom, SizingRequest.figures, PlanSizing.figures, SizingRequest.sizing,
    le_min_iff, le_sub_iff_add_le'] at added
  obtain ⟨⟨⟨-, hard⟩, remaining⟩, aggregate⟩ := added
  exact ⟨remaining, aggregate, (le_add_of_nonneg_left openRisk).trans hard⟩

variable {percent : ℚ}

theorem markedCap_pos (profile : RiskPolicyProfile) (grade : Grade) (positive : 0 < percent) :
    0 < markedCap profile grade percent := by
  unfold markedCap
  split_ifs with table
  · exact positive
  · exact lt_min positive (not_le.mp table)

/-- The notional of the plan is within both caps. -/
theorem notional_fits (accepted : request.Accepted plan direction gradeRisk risk) :
    plan.quantity * request.entry ≤
        request.equity * request.profile.maxNotionalPerTradePercent / 100 ∧
      request.book.openNotional + plan.quantity * request.entry ≤
        request.equity * request.profile.maxAggregateNotionalPercent / 100 := by
  have room := accepted.sized.notional
  simp only [notionalRoom, SizingRequest.figures, PlanSizing.figures, SizingRequest.sizing,
    le_min_iff, le_sub_iff_add_le'] at room
  exact room

/-- Of all that the recheck looks at, only the channel and the grade's cap can refuse. -/
theorem recheck_marked_iff (accepted : request.Accepted plan direction gradeRisk risk)
    {terms : PlanTerms} (carries : terms.Carries plan) (positive : 0 < percent) :
    recheck request (withProfileSizingGrade terms plan.grade percent) = .ok () ↔
      request.added plan.quantity ≤ channelCeiling request.channel ∧
        request.added plan.quantity ≤ markedCap request.profile plan.grade percent := by
  have checked := checkFigures_checked accepted.signs
  have signs : 0 < plan.quantity ∧ 0 < plan.entry ∧ 0 < plan.stop ∧ (0 : ℚ) < 1 ∧
      0 < request.equity :=
    ⟨quantity_pos accepted, accepted.entry ▸ checked.entry, accepted.stop ▸ checked.stop, one_pos,
      checked.equity⟩
  have cap := markedCap_pos request.profile plan.grade positive
  have cash : stopOutCash (plan.quantity * 1) plan.entry plan.stop request.includeBookBuffer
      request.fundingRate request.fundingRateVerified none / request.equity * 100 =
      request.added plan.quantity := by
    rw [mul_one, accepted.entry, accepted.stop]
    rfl
  obtain ⟨remaining, aggregate, small⟩ := added_fits accepted
  obtain ⟨perTrade, together⟩ := notional_fits accepted
  rw [← accepted.entry, ← mul_one plan.quantity] at perTrade together
  have openRisk : 0 ≤ request.book.openRiskPercent := (checkFigures_more accepted.signs).2
  have added := added_pos accepted
  have budget : 0 < request.book.remainingDailyBudgetPercent :=
    (add_pos_of_nonneg_of_pos openRisk added).trans_le remaining
  have range : 0 ≤ request.added plan.quantity ∧ request.added plan.quantity ≤ 100 :=
    ⟨added.le, small.trans (by norm_num [hardMaxDailyLossPercent])⟩
  have positions : request.book.openPositions + 1 ≤ request.profile.maxOpenPositions :=
    Int.add_one_le_iff.mpr accepted.sized.positions
  have tolerance : 0 ≤ openNotionalMatchTolerance := by norm_num [openNotionalMatchTolerance]
  unfold recheck storedPlanLimitRefusal
  rw [storedSizingGradeCap_marked carries _ _ positive]
  simp only [withProfileSizingGrade, carries.quantity, carries.entry, carries.stop,
    carries.multiplier, cash, bind_eq_ok, ensure_eq_ok, caught_eq_ok, present_eq_ok, exists_const,
    Option.some.injEq, exists_eq_left', signs, true_and, cap, budget,
    positions, le_add_of_le_of_nonneg remaining tolerance,
    le_add_of_le_of_nonneg aggregate tolerance, le_add_of_le_of_nonneg perTrade tolerance,
    le_add_of_le_of_nonneg together tolerance, sizedRiskBlockedForChannel, range]
  simp only [pure, Except.pure, Except.ok.injEq, exists_eq_left', decide_eq_false_iff_not, not_or,
    not_le, not_lt, cap, true_and, le_min_iff]

end accepted

/-! ## Graded sizing -/

theorem riskPercent_pos_of_valid (valid : validateProfile profile = .ok ()) (tradable :
    grade ≠ .c) :
    0 < profile.riskPercentByGrade grade := by
  obtain ⟨_, grades, _⟩ := bind_eq_ok.mp valid
  simp only [tradableGrades, List.forM_eq_forM, List.forM_cons, List.forM_nil, bind_eq_ok,
    requirePercent, ensure_eq_ok, exists_const] at grades
  obtain ⟨⟨-, aPlus⟩, ⟨-, a⟩, ⟨-, bPlus⟩, ⟨-, b⟩, -⟩ := grades
  cases grade with
  | aPlus => exact aPlus
  | a => exact a
  | bPlus => exact bPlus
  | b => exact b
  | c => exact absurd rfl tradable

theorem riskCeilingFor_le (kind : PolicyKind) :
    riskCeilingFor kind ≤ paperDemoMaxRiskPerTradePercent := by
  unfold riskCeilingFor
  split_ifs <;> norm_num [paperDemoMaxRiskPerTradePercent, hardMaxRiskPerTradePercent]

/-- A paper profile that risks a quarter percent on a B. -/
def quarterProfile : RiskPolicyProfile :=
  { placeholderProfile .internalPaper with
    riskPercentByGrade := fun
      | .c => 0
      | .b => 1 / 4
      | _ => 1
    maxNotionalPerTradePercent := 50
    maxAggregateNotionalPercent := 100 }

/-- A long at 100 with the stop at 95 on an account of 10000 and an empty book. -/
def gradedRequest : SizingRequest where
  profile := quarterProfile
  grade := ⟨some .b, some 0, some 1, none⟩
  equity := 10000
  entry := 100
  stop := 95
  target := 110
  direction := "long"
  atr := some 2
  lotStep := 1 / 1000
  minQuantity := 1 / 1000
  book := ⟨0, 0, 0, 1⟩
  breakerRefusing := false
  executionChannel := some "internal_paper"

/-- What the request is sized to: 2.438 lots, for half of the quarter percent. -/
def gradedPlan : SizedPlan where
  quantity := 2438 / 1000
  leverage := 1
  grade := .b
  riskPercent := 12499626 / 100000000
  plannedR := 2
  entry := 100
  stop := 95
  target := 110
  fundingRate := 1 / 10000
  fundingPeriods := 1
  riskCashCeiling := 25 / 2

def SizingRequest.budgetRoom (request : SizingRequest) : ℚ :=
  min (min (min request.profile.dailyLossLimitPercent hardMaxDailyLossPercent)
      request.book.remainingDailyBudgetPercent - request.book.openRiskPercent)
    (request.profile.maxAggregateOpenRiskPercent - request.book.openRiskPercent)

def SizingRequest.overrideRisk (request : SizingRequest) (fixed : ℚ) : ℚ :=
  min (min (fixed * request.multiplier) (overrideCeiling request.profile)) request.budgetRoom

/-- The override buys no more lots than the grade's own percent does, where the grade
has one, nor than the ceiling of a channel that is neither paper nor demo. -/
def SizingRequest.GradeCoversOverride (request : SizingRequest) (fixed : ℚ) (grade : Grade) :
    Prop :=
  (request.profile.riskPercentByGrade grade ≤ 0 ∨
    request.lots request.expectedHoldHours (request.overrideRisk fixed) ≤
      request.lots none (request.profile.riskPercentByGrade grade)) ∧
  (request.channel ∈ paperDemoKinds ∨
    request.lots request.expectedHoldHours (request.overrideRisk fixed) ≤
      request.lots none hardMaxRiskPerTradePercent)

variable {direction : Direction}

/-- Comparing what a quantity loses with a percent is comparing lots. -/
theorem added_le_iff_lots {gradeRisk : ℚ}
    (accepted : request.Accepted plan direction gradeRisk risk) {percent : ℚ} (nonneg :
      0 ≤ percent) :
    request.added plan.quantity ≤ percent ↔
      request.lots request.expectedHoldHours risk.1 ≤ request.lots none percent := by
  have lot : 0 < request.lotStep := (checkFigures_checked accepted.signs).lotStep
  have equity := equity_pos accepted
  have loss := unitLoss_pos accepted
  have pays : 0 ≤ request.equity * percent / 100 / request.unitLoss none := by positivity
  rw [added_le_iff accepted, quantity_eq_lots accepted]
  constructor
  · exact fun fits => roundToStep_le_roundToStep lot pays fits
  · exact fun fewer => fewer.trans (roundToStep_le lot pays)

/-- What an accepted override comes to. -/
theorem overrideRisk_of_accepted {gradeRisk : ℚ} {fixed : ℚ}
    (accepted : request.Accepted plan direction gradeRisk risk)
    (override : request.fixedRiskPercent = some (.finite fixed)) :
    0 < fixed ∧ risk.1 = request.overrideRisk fixed ∧ risk.1 ≤ fixed := by
  have requested := accepted.requested
  simp only [requestedRisk, override, admitOverride, bind_eq_ok, ensure_eq_ok, exists_const, pure,
    Except.pure, Except.ok.injEq] at requested
  obtain ⟨positive, -, -, rfl⟩ := requested
  have effective := accepted.effective
  simp only [override, effectiveRisk, Option.isSome_some, if_true, bind_eq_ok, ensure_eq_ok,
    exists_const, pure, Except.pure, Except.ok.injEq] at effective
  obtain ⟨-, -, rfl⟩ := effective
  refine ⟨positive, rfl, ?_⟩
  calc request.overrideRisk fixed ≤ fixed * request.multiplier :=
        (min_le_left _ _).trans (min_le_left _ _)
    _ ≤ fixed := mul_le_of_le_one_right positive.le accepted.adjusted

def overrideRequest : SizingRequest := { gradedRequest with fixedRiskPercent := some (.finite 1) }

def overridePlan : SizedPlan :=
  { gradedPlan with
    quantity := 9752 / 1000
    riskPercent := 49998504 / 100000000
    riskCashCeiling := 50 }

def ungradedRequest : SizingRequest :=
  { overrideRequest with grade := ⟨some .c, some 0, some 0, none⟩ }

def ungradedPlan : SizedPlan :=
  { overridePlan with
    quantity := 4876 / 1000
    grade := .c
    riskPercent := 24999252 / 100000000
    riskCashCeiling := 25 }

end AlphaTrade.Risk
