import Mathlib.Data.List.Sort
import AlphaTrade.Risk.Sizer

/-!
# Sizing a plan under a profile

`sizeForProfile` grades, adjusts and sizes one new plan, from what the caller has
read: the account, the open book and the profile in force. A plan is marked with the
grade that sized it. Before the stored plan is approved it is priced again against
the current book, and `storedPlanLimitRefusal` refuses it where it no longer fits.

Decimals that a comparison or a formula reads are exact rationals, as in the sizer.
-/
namespace AlphaTrade.Risk
open Library

/-- A reason code that is returned, or an exception. -/
inductive SizingError where
  | reason (code : String)
  | raised (error : PolicyError)
  | validation
  deriving DecidableEq, Repr

def caught {α : Type} : Except PolicyError α → Except SizingError α
  | .ok a => .ok a
  | .error (.rejected code) => .error (.reason code)
  | .error error => .error (.raised error)

@[simp] theorem caught_eq_ok {α : Type} {x : Except PolicyError α} {a : α} :
    caught x = .ok a ↔ x = .ok a := by
  match x with
  | .ok _ => simp [caught]
  | .error (.rejected _) | .error .invalidOperation | .error .integrity => simp [caught]

/-! ## Grade and adjusters -/

structure GradeDecision where
  grade : Option Grade
  trendScore : Option ℚ
  momentumScore : Option ℚ
  refusal : Option String
  deriving DecidableEq

def GradeDecision.tradable (decision : GradeDecision) : Bool :=
  decision.grade.any (· ≠ .c) && decision.refusal.isNone

/-- `decision.refusal or "grade_not_tradable"`. -/
def GradeDecision.refusalOr (decision : GradeDecision) : String :=
  match decision.refusal with
  | none | some "" => "grade_not_tradable"
  | some refusal => refusal

/-- `None` means that the input was not supplied. -/
structure AdjusterInputs where
  volatilityRegime : Option String
  trendAligned : Option Bool
  momentumAligned : Option Bool

/-- `_VOLATILITY`. -/
def volatilityFactor : String → Option ℚ
  | "low" => some 1
  | "normal" => some 1
  | "high" => some (1 / 2)
  | "extreme" => some (1 / 4)
  | _ => none

/-- `_MISALIGNED` unless aligned. -/
def alignmentFactor (aligned : Bool) : ℚ := if aligned then 1 else 1 / 2

structure AdjusterResult where
  adjustedRiskPercent : ℚ
  volatilityMultiplier : ℚ
  trendMultiplier : ℚ
  momentumMultiplier : ℚ
  product : ℚ

def applyAdjusters (riskPercent : ℚ) (inputs : AdjusterInputs) :
    Except PolicyError AdjusterResult := do
  let regime ← present inputs.volatilityRegime "adjuster_input_missing"
  let trendAligned ← present inputs.trendAligned "adjuster_input_missing"
  let momentumAligned ← present inputs.momentumAligned "adjuster_input_missing"
  ensure (0 ≤ riskPercent) (.rejected "adjuster_input_invalid")
  let volatility ← present (volatilityFactor regime) "adjuster_input_invalid"
  let trend := alignmentFactor trendAligned
  let momentum := alignmentFactor momentumAligned
  ensure (volatility ≤ 1 ∧ trend ≤ 1 ∧ momentum ≤ 1) (.rejected "adjuster_would_increase_risk")
  let product := volatility * trend * momentum
  ensure (product ≤ 1) (.rejected "adjuster_would_increase_risk")
  return ⟨riskPercent * product, volatility, trend, momentum, product⟩

/-! ## The liquidation buffer -/

/-- Inclusive notional floor and the maintenance rate above it. -/
structure MaintenanceTier where
  notionalFloor : ℚ
  maintenanceRate : DecimalValue
  deriving DecidableEq

structure LiquidationCheck where
  accepted : Bool
  reason : Option String
  liquidationDistance : Option ℚ
  requiredBuffer : Option ℚ
  maintenanceRate : Option ℚ

def requiredBuffer (stopDistance atr : ℚ) : Except PolicyError ℚ := do
  ensure (0 < stopDistance ∧ 0 < atr) (.rejected "liquidation_inputs_invalid")
  return max (stopDistance * 2) (stopDistance + 3 / 2 * atr)

def considerTier (notional : ℚ) (chosen : Option ℚ) (tier : MaintenanceTier) :
    Except PolicyError (Option ℚ) := do
  ensure (tier.maintenanceRate.isFinite = true) (.rejected "maintenance_rate_invalid")
  let rate := tier.maintenanceRate.toRat
  ensure (0 ≤ rate ∧ rate < 1) (.rejected "maintenance_rate_invalid")
  return if tier.notionalFloor ≤ notional then some rate else chosen

/-- The rate of the tier that `select_maintenance_tier` picks. -/
def selectMaintenanceTier (notional : ℚ) (tiers : List MaintenanceTier) :
    Except PolicyError ℚ := do
  ensure (tiers ≠ []) (.rejected "maintenance_tiers_unavailable")
  ensure (0 < notional) (.rejected "notional_invalid")
  let sorted := tiers.insertionSort fun left right => left.notionalFloor ≤ right.notionalFloor
  let chosen ← sorted.foldlM (considerTier notional) none
  present chosen "maintenance_tier_unmatched"

def liquidationDistance (entry leverage maintenanceRate : ℚ) : Except PolicyError ℚ := do
  ensure (0 < entry ∧ 1 ≤ leverage) (.rejected "liquidation_inputs_invalid")
  let distance := entry * (1 / leverage - maintenanceRate)
  ensure (0 < distance) (.rejected "liquidation_distance_non_positive")
  return distance

/-- The part of `check_liquidation_buffer` inside its `try`. -/
def liquidationFigures (entry stopDistance atr leverage notional : ℚ)
    (tiers : List MaintenanceTier) : Except PolicyError (ℚ × ℚ × ℚ) := do
  let buffer ← requiredBuffer stopDistance atr
  let rate ← selectMaintenanceTier notional tiers
  let distance ← liquidationDistance entry leverage rate
  return (distance, buffer, rate)

/-- Refuse unless isolated margin clears the buffer. -/
def checkLiquidationBuffer (entry stopDistance : ℚ) (atr : Option ℚ) (leverage notional : ℚ)
    (marginMode : Option String) (tiers : List MaintenanceTier) :
    Except PolicyError LiquidationCheck :=
  if marginMode.all (fun mode => mode.toLower ≠ "isolated") then
    .ok ⟨false, some "margin_mode_not_isolated", none, none, none⟩
  else
    match atr with
    | none => .ok ⟨false, some "atr_missing", none, none, none⟩
    | some atr =>
      if atr ≤ 0 then .ok ⟨false, some "atr_missing", none, none, none⟩
      else
        match liquidationFigures entry stopDistance atr leverage notional tiers with
        | .error (.rejected code) => .ok ⟨false, some code, none, none, none⟩
        | .error error => .error error
        | .ok (distance, buffer, rate) =>
          .ok {
            accepted := buffer ≤ distance
            reason := if distance < buffer then some "liquidation_inside_buffer" else none
            liquidationDistance := some distance
            requiredBuffer := some buffer
            maintenanceRate := some rate }

/-! ## The decision -/

/-- What the sizer is handed here: every field is there. -/
structure PlanSizing where
  equity : ℚ
  entry : ℚ
  stop : ℚ
  direction : String
  gradeRiskPercent : ℚ
  atr : ℚ
  gapBeyondStop : ℚ
  feeRate : ℚ
  fundingRate : ℚ
  fundingPeriods : ℚ
  slippageRate : ℚ
  lotStep : ℚ
  minQuantity : ℚ
  remainingDailyBudgetPercent : ℚ
  openRiskPercent : ℚ
  openNotional : ℚ
  openPositions : Int
  leverage : Option PyDecimal
  marginMode : String

/-- The figures that `size_trade` computes with. -/
def PlanSizing.figures (sizing : PlanSizing) (direction : Direction) (grade : Grade) : Figures where
  equity := sizing.equity
  entry := sizing.entry
  stop := sizing.stop
  atr := sizing.atr
  gap := sizing.gapBeyondStop
  feeRate := sizing.feeRate
  fundingRate := sizing.fundingRate
  fundingPeriods := sizing.fundingPeriods
  slippageRate := sizing.slippageRate
  lotStep := sizing.lotStep
  minQuantity := sizing.minQuantity
  remainingDaily := sizing.remainingDailyBudgetPercent
  openRisk := sizing.openRiskPercent
  openNotional := sizing.openNotional
  gradeRisk := sizing.gradeRiskPercent
  openPositions := sizing.openPositions
  direction := direction
  grade := grade

/-- `size_trade` where no field is missing. -/
def PlanSizing.sizeTrade (sizing : PlanSizing) (profile : RiskPolicyProfile) (grade : Grade)
    (promotion : Option PromotionReport) (preserveGradeRisk replaceGradeCap : Bool) :
    Except PolicyError SizingResult := do
  validateProfile profile
  assertPromotionAllows profile promotion
  let direction ← directionOf (some sizing.direction)
  let grade ← gradeOf (some grade) replaceGradeCap
  ensure (sizing.marginMode.toLower = "isolated") (.rejected "margin_mode_not_isolated")
  let figures := sizing.figures direction grade
  checkFigures figures
  sizeFigures profile figures sizing.leverage preserveGradeRisk replaceGradeCap

/-- `decide_trade` with `reduce_leverage` off and no suggestion from an AI. -/
def decideTrade (profile : RiskPolicyProfile) (decision : GradeDecision)
    (adjusters : AdjusterInputs) (sizing : PlanSizing) (refuseNewTrades : Bool)
    (tiers : List MaintenanceTier) (promotion : Option PromotionReport)
    (preserveGradeRisk replaceGradeCap : Bool) : Except SizingError SizingResult := do
  ensure (refuseNewTrades = false) (.reason "breaker_active")
  match decision.grade with
  | none => .error (.reason decision.refusalOr)
  | some grade => do
    ensure (decision.tradable ∨ replaceGradeCap) (.reason decision.refusalOr)
    let adjusted ← caught (applyAdjusters sizing.gradeRiskPercent adjusters)
    let attempt := { sizing with gradeRiskPercent := adjusted.adjustedRiskPercent }
    let sized ← caught
      (attempt.sizeTrade profile grade promotion preserveGradeRisk replaceGradeCap)
    let liquidation ← caught (checkLiquidationBuffer sizing.entry sized.stopDistance sizing.atr
      sized.leverage sized.notional sizing.marginMode tiers)
    ensure (liquidation.accepted = true)
      (.reason (liquidation.reason.getD "liquidation_inside_buffer"))
    ensure (sized.margin ≤ sizing.equity) (.reason "margin_exceeds_equity")
    return sized

/-! ## Costs -/

/-- `PAPER_DEMO_TAKER_FEE_RATE`. -/
def takerFeeRate : ℚ := 6 / 10000

/-- `PAPER_DEMO_FUNDING_RATE_PER_8H`. -/
def fundingRatePer8h : ℚ := 1 / 10000

/-- `PAPER_DEMO_EXPECTED_HOLD_HOURS`. -/
def defaultHoldHours : ℚ := 8

/-- `DEMO_BOOK_BUFFER_RATE`, where the buffer is included. -/
def slippageRate (includeBookBuffer : Bool) : ℚ := if includeBookBuffer then 2 / 1000 else 0

def holdHours : Option DecimalValue → ℚ
  | some (.finite hold) => if hold ≤ 0 then defaultHoldHours else hold
  | _ => defaultHoldHours

/-- The rate for eight hours and the number of windows. A verified live rate counts
where it is above the floor. -/
def paperDemoFunding (liveRate : Option DecimalValue) (liveVerified : Bool)
    (expectedHoldHours : Option DecimalValue) : ℚ × ℚ :=
  let periods := holdHours expectedHoldHours / 8
  let periods := if periods < 1 then 1 else periods
  match liveVerified, liveRate with
  | true, some (.finite rate) =>
    (if |rate| < fundingRatePer8h then fundingRatePer8h else |rate|, periods)
  | _, _ => (fundingRatePer8h, periods)

/-- Entry fee, exit fee at the stop, funding, and the book buffer where it is included. -/
def profileUnitCost (entry stop : ℚ) (includeBookBuffer : Bool)
    (fundingRate : Option DecimalValue) (liveVerified : Bool)
    (expectedHoldHours : Option DecimalValue) : ℚ :=
  let (rate, periods) := paperDemoFunding fundingRate liveVerified expectedHoldHours
  entry * takerFeeRate + stop * takerFeeRate + entry * |rate| * periods +
    entry * slippageRate includeBookBuffer

def stopOutCash (size entry stop : ℚ) (includeBookBuffer : Bool)
    (fundingRate : Option DecimalValue) (liveVerified : Bool)
    (expectedHoldHours : Option DecimalValue) : ℚ :=
  size * (|entry - stop| +
    profileUnitCost entry stop includeBookBuffer fundingRate liveVerified expectedHoldHours)

/-! ## Sizing -/

/-- What the account has open. -/
structure ProfileOpenBook where
  openRiskPercent : ℚ
  openNotional : ℚ
  openPositions : Int
  remainingDailyBudgetPercent : ℚ
  deriving DecidableEq

/-- The arguments of `size_for_profile`. -/
structure SizingRequest where
  profile : RiskPolicyProfile
  grade : GradeDecision
  equity : ℚ
  entry : ℚ
  stop : ℚ
  target : ℚ
  direction : String
  atr : Option ℚ
  lotStep : ℚ
  minQuantity : ℚ
  book : ProfileOpenBook
  breakerRefusing : Bool
  leverage : Option PyDecimal := none
  includeBookBuffer : Bool := false
  maintenanceTiers : Option (List MaintenanceTier) := none
  fundingRate : Option DecimalValue := none
  fundingRateVerified : Bool := false
  expectedHoldHours : Option DecimalValue := none
  executionChannel : Option String := none
  fixedRiskPercent : Option DecimalValue := none

structure SizedPlan where
  quantity : ℚ
  leverage : ℚ
  grade : Grade
  riskPercent : ℚ
  plannedR : ℚ
  entry : ℚ
  stop : ℚ
  target : ℚ
  fundingRate : ℚ
  fundingPeriods : ℚ
  riskCashCeiling : ℚ
  deriving DecidableEq

/-- `PAPER_CONSERVATIVE_MAINTENANCE_TIERS`. -/
def conservativeTiers : List MaintenanceTier := [⟨0, .finite (2 / 100)⟩]

/-- `_volatility`. -/
def volatility (atr entry : ℚ) : String :=
  let ratio := atr / entry
  if ratio < 1 / 100 then "low" else if ratio < 3 / 100 then "normal"
  else if ratio < 6 / 100 then "high" else "extreme"

def PolicyKind.value : PolicyKind → String
  | .conservative => "conservative"
  | .standard => "standard"
  | .aggressive => "aggressive"
  | .internalPaper => "internal_paper"
  | .demo => "demo"

/-- `PAPER_DEMO_KINDS`, as channel names. -/
def paperDemoKinds : List String := ["internal_paper", "demo"]

def channelCeiling (channel : String) : ℚ :=
  if channel ∈ paperDemoKinds then paperDemoMaxRiskPerTradePercent
  else hardMaxRiskPerTradePercent

/-- `_sized_risk_blocked_for_channel`. The request model takes a percent from 0 to 100. -/
def sizedRiskBlockedForChannel (channel : String) (riskPercent profileCap : ℚ) :
    Except SizingError Bool := do
  ensure (0 ≤ riskPercent ∧ riskPercent ≤ 100) .validation
  return profileCap ≤ 0 ∨ min (channelCeiling channel) profileCap < riskPercent

def overrideCeiling (profile : RiskPolicyProfile) : ℚ :=
  min paperDemoMaxRiskPerTradePercent (riskCeilingFor profile.kind)

/-- `fixed_risk_override_refusal`: the override that is admitted. -/
def admitOverride (fixedRiskPercent : DecimalValue) (profile : RiskPolicyProfile) :
    Except SizingError ℚ :=
  match fixedRiskPercent with
  | .finite fixed => do
    ensure (0 < fixed) (.reason "risk_override_invalid")
    ensure (fixed ≤ overrideCeiling profile) (.reason "risk_override_exceeds_ceiling")
    ensure (fixed ≤ profileMax profile) (.reason "risk_override_exceeds_profile_max")
    return fixed
  | _ => .error (.reason "risk_override_invalid")

def requestedRisk (request : SizingRequest) (grade : Grade) : Except SizingError ℚ :=
  match request.fixedRiskPercent with
  | some fixed => admitOverride fixed request.profile
  | none => .ok (request.profile.riskPercentByGrade grade)

def SizingRequest.channel (request : SizingRequest) : String :=
  request.executionChannel.getD request.profile.kind.value

def SizingRequest.funding (request : SizingRequest) : ℚ × ℚ :=
  paperDemoFunding request.fundingRate request.fundingRateVerified request.expectedHoldHours

/-- The `SizingInput` of the call. -/
def SizingRequest.sizing (request : SizingRequest) (atr gradeRisk : ℚ) : PlanSizing where
  equity := request.equity
  entry := request.entry
  stop := request.stop
  direction := request.direction
  gradeRiskPercent := gradeRisk
  atr := atr
  gapBeyondStop := 0
  feeRate := takerFeeRate
  fundingRate := request.funding.1
  fundingPeriods := request.funding.2
  slippageRate := slippageRate request.includeBookBuffer
  lotStep := request.lotStep
  minQuantity := request.minQuantity
  remainingDailyBudgetPercent := request.book.remainingDailyBudgetPercent
  openRiskPercent := request.book.openRiskPercent
  openNotional := request.book.openNotional
  openPositions := request.book.openPositions
  leverage := request.leverage
  marginMode := "isolated"

def SizingRequest.adjusters (request : SizingRequest) (atr trend momentum : ℚ) :
    AdjusterInputs where
  volatilityRegime := some (volatility atr request.entry)
  trendAligned := some (decide (trend = 1))
  momentumAligned := some (decide (momentum = 1))

def sizingCap (request : SizingRequest) (grade : Grade) : ℚ :=
  if request.fixedRiskPercent.isSome then profileMax request.profile
  else request.profile.riskPercentByGrade grade

/-- Size one new paper or demo plan. -/
def sizeForProfile (request : SizingRequest) : Except SizingError SizedPlan := do
  let replaceGradeCap := request.fixedRiskPercent.isSome
  match request.grade.grade with
  | none => .error (.reason request.grade.refusalOr)
  | some grade => do
    let trend ← caught (present request.grade.trendScore "grade_unavailable")
    let momentum ← caught (present request.grade.momentumScore "grade_unavailable")
    ensure (replaceGradeCap ∨ request.grade.tradable) (.reason request.grade.refusalOr)
    let atr ← caught (present request.atr "atr_missing")
    ensure (0 < atr) (.reason "atr_missing")
    ensure (¬(0 < request.book.openNotional ∧ request.book.openRiskPercent ≤ 0))
      (.reason "open_risk_uncomputed")
    let gradeRisk ← requestedRisk request grade
    let distance := |request.entry - request.stop|
    let reward := |request.target - request.entry|
    ensure (0 < distance ∧ 0 < reward ∧ 0 < request.entry) (.reason "invalidation_unavailable")
    let sized ← decideTrade request.profile request.grade (request.adjusters atr trend momentum)
      (request.sizing atr gradeRisk) request.breakerRefusing
      (request.maintenanceTiers.getD conservativeTiers) none true replaceGradeCap
    let blocked ← sizedRiskBlockedForChannel request.channel sized.effectiveRiskPercent
      (sizingCap request grade)
    ensure (blocked = false) (.reason "risk_percent_exceeds_channel_ceiling")
    return {
      quantity := sized.quantity
      leverage := sized.leverage
      grade := grade
      riskPercent := sized.effectiveRiskPercent
      plannedR := quantizeHalfEven 8 (reward / distance)
      entry := request.entry
      stop := request.stop
      target := request.target
      fundingRate := request.funding.1
      fundingPeriods := request.funding.2
      riskCashCeiling := request.equity *
        min (min (min sized.gradeRiskPercent (sizingCap request grade)) sized.ceilingPercent)
          sized.budgetRoomPercent / 100 }

/-! ## The stored plan -/

structure CalculationInput where
  name : String
  inputValue : ℚ
  resultValue : ℚ
  unit : String
  formulaId : String
  formulaVersion : String
  precision : Nat
  roundingMode : String
  conservativeRemainder : ℚ
  deriving DecidableEq

/-- The terms of a plan that the recheck reads. -/
structure PlanTerms where
  quantity : ℚ
  executionPrice : ℚ
  stop : ℚ
  contractMultiplier : ℚ
  calculationInputs : List CalculationInput
  deriving DecidableEq

/-- `PROFILE_SIZING_GRADE`. -/
def profileSizingGrade : String := "profile_sizing_grade"

/-- `_GRADE_CODE`. -/
def gradeCode : Grade → ℚ
  | .aPlus => 1
  | .a => 2
  | .bPlus => 3
  | .b => 4
  | .c => 5

/-- `_GRADE_BY_CODE`. -/
def gradeByCode (code : ℚ) : Option Grade := gradeOrder.find? fun grade => gradeCode grade = code

def profileSizingGradePayload (grade : Grade) (riskPercent : ℚ) : CalculationInput where
  name := profileSizingGrade
  inputValue := gradeCode grade
  resultValue := riskPercent
  unit := "PERCENT"
  formulaId := "profile-grade-cap"
  formulaVersion := "1"
  precision := 8
  roundingMode := "ROUND_FLOOR"
  conservativeRemainder := 0

def withProfileSizingGrade (terms : PlanTerms) (grade : Grade) (riskPercent : ℚ) : PlanTerms :=
  { terms with
    calculationInputs :=
      terms.calculationInputs ++ [profileSizingGradePayload grade riskPercent] }

/-- Cap for the grade written on the plan, or `none` where it is not written once. -/
def storedSizingGradeCap (terms : PlanTerms) (profile : RiskPolicyProfile) : Option ℚ :=
  match terms.calculationInputs.filter fun input => input.name = profileSizingGrade with
  | [marker] =>
    match gradeByCode marker.inputValue with
    | none => none
    | some grade =>
      if marker.resultValue ≤ 0 then none
      else
        let current := profile.riskPercentByGrade grade
        -- the percent of grade C is zero, and the stored one is the override
        if current ≤ 0 then some marker.resultValue else some (min marker.resultValue current)
  | _ => none

/-- `OPEN_NOTIONAL_MATCH_TOLERANCE`. -/
def openNotionalMatchTolerance : ℚ := 1 / 10 ^ 8

/-- `STORED_PLAN_EXCEEDS_LIMITS`. -/
def storedPlanExceedsLimits : SizingError := .reason "stored_plan_exceeds_current_limits"

/-- Refuse a stored plan whose stop risk no longer fits the current book. -/
def storedPlanLimitRefusal (quantity entry stop contractMultiplier equity : ℚ)
    (book : ProfileOpenBook) (profile : RiskPolicyProfile) (executionChannel : String)
    (includeBookBuffer : Bool) (sizingGradeCap : Option ℚ) (fundingRate : Option DecimalValue)
    (liveVerified : Bool) : Except SizingError Unit := do
  ensure (0 < quantity ∧ 0 < entry ∧ 0 < stop ∧ 0 < contractMultiplier ∧ 0 < equity)
    (.reason "stored_plan_limits_uncomputed")
  let cap ← caught (present sizingGradeCap "stored_plan_limits_uncomputed")
  ensure (0 < cap) (.reason "stored_plan_limits_uncomputed")
  let size := quantity * contractMultiplier
  let cash := stopOutCash size entry stop includeBookBuffer fundingRate liveVerified none
  let added := cash / equity * 100
  let notional := size * entry
  ensure (book.openPositions + 1 ≤ profile.maxOpenPositions) storedPlanExceedsLimits
  ensure (0 < book.remainingDailyBudgetPercent ∧ book.openRiskPercent + added ≤
    book.remainingDailyBudgetPercent + openNotionalMatchTolerance) storedPlanExceedsLimits
  ensure (book.openRiskPercent + added ≤
    profile.maxAggregateOpenRiskPercent + openNotionalMatchTolerance) storedPlanExceedsLimits
  let perTrade := equity * profile.maxNotionalPerTradePercent / 100
  let aggregate := equity * profile.maxAggregateNotionalPercent / 100
  ensure (notional ≤ perTrade + openNotionalMatchTolerance) storedPlanExceedsLimits
  ensure (book.openNotional + notional ≤ aggregate + openNotionalMatchTolerance)
    storedPlanExceedsLimits
  let blocked ← sizedRiskBlockedForChannel executionChannel added cap
  ensure (blocked = false) (.reason "risk_percent_exceeds_channel_ceiling")

def recheck (request : SizingRequest) (terms : PlanTerms) : Except SizingError Unit :=
  storedPlanLimitRefusal terms.quantity terms.executionPrice terms.stop terms.contractMultiplier
    request.equity request.book request.profile request.channel request.includeBookBuffer
    (storedSizingGradeCap terms request.profile) request.fundingRate request.fundingRateVerified

end AlphaTrade.Risk
