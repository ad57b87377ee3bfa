import AlphaTrade.Fusion.FirstSlice
import AlphaTrade.Fusion.Swings

/-!
# The fusion evaluator

The first-slice path of `evaluate_setup`. The evaluators write into the rule table one after
another, and the assessment is resolved from the table alone. An exception that no handler catches
is an error; `validation` stands for the exceptions that are none of the market contract's.
-/
namespace AlphaTrade.Fusion
open Library Market
open Execution (Instant)
open SignalFusion (SetupAssessmentState)

variable (runtime : FusionRuntime)

/-! ## Exceptions -/

/-- `GapDetectedError` and its subclasses. -/
def isGapDetected : MarketError → Bool
  | .gapDetected _ | .unrecoverableGap _ | .incompleteTradeWindow _ | .emptyTradeWindow _ => true
  | _ => false

/-- `MarketContractError` and its subclasses. -/
def isMarketContract : MarketError → Bool
  | .validation _ | .raised _ | .provider _ => false
  | _ => true

def isStaleEvidence : MarketError → Bool
  | .staleEvidence _ => true
  | _ => false

/-- What a handler of `ValueError` catches. -/
def isValueError : MarketError → Bool
  | .raised _ | .provider _ => false
  | _ => true

/-- `zip(..., strict=True)` over collections of different lengths. -/
def unpairedZip : MarketError := .validation "zip() arguments are of different lengths"

/-! ## Policy -/

/-- `set(roles) < set(others)`. -/
def strictSubset (roles others : List EvidenceRole) : Prop :=
  (∀ role ∈ roles, role ∈ others) ∧ ∃ role ∈ others, role ∉ roles

instance (roles others : List EvidenceRole) : Decidable (strictSubset roles others) :=
  inferInstanceAs (Decidable (_ ∧ _))

/-- `_policy_compatible`: the first reason against the policy. -/
def policyReason (policy : FusionPolicy) (command : AssessmentCommand) : Option String :=
  if policy.policyVersion ≠ defaultFusionPolicyVersion then some "incompatible_policy_version"
  else if command.fusionPolicyVersion ≠ policy.policyVersion then
    some "incompatible_policy_version"
  else if command.organizationId ≠ policy.organizationId then some "incompatible_policy_version"
  else if command.strategyVersionId ≠ policy.strategyVersionId then
    some "incompatible_policy_version"
  else if command.executableSetup ≠ policy.executableSetup then some "incompatible_policy_version"
  else if command.finalityPolicyVersion ≠ policy.finalityPolicyVersion then
    some "incompatible_policy_version"
  else if command.freshnessPolicyVersion ≠ policy.freshnessPolicyVersion then
    some "incompatible_policy_version"
  else if command.correctionSelectionPolicy ≠ policy.correctionSelectionPolicy then
    some "incompatible_policy_version"
  else if command.direction ≠ .short then some "incompatible_policy_version"
  else if strictSubset command.mandatoryEvidenceRoles policy.requiredRoles then
    some "missing_required_evidence"
  else if command.roleTimeframes ≠ policy.roleTimeframes then some "incompatible_policy_version"
  else if policy.confirmationScore ≠ 1 then some "incompatible_policy_version"
  else none

def recordPolicy (policy : FusionPolicy) (command : AssessmentCommand) (rules : Rules) : Rules :=
  match policyReason policy command with
  | none => rules.record (.pass .policyCompatible none)
  | some reason => rules.record (.fail .policyCompatible reason none)

/-! ## Window -/

def classifyContractError : FusionError → String
  | .formingObservationNotExecutable _ => "forming_evidence"
  | .evidenceIdentityMismatch _ => "wrong_venue_or_market"
  | .tenantAssertionSelection _ => "missing_required_evidence"
  | .evidenceWindowContract _ | .conflictingSemanticInput _ => "missing_required_evidence"
  | .validation _ | .value _ => "market_disqualifier"

def failClosedHash (command : AssessmentCommand) (reason : String) : String :=
  runtime.failClosedSha256 {
    direction := command.direction
    fusionPolicyVersion := command.fusionPolicyVersion
    organizationId := command.organizationId
    reason
    setupDefinitionId := command.executableSetup.setupDefinitionId
    strategyVersionId := command.strategyVersionId }

def commandWindow (command : AssessmentCommand) : Except FusionError CanonicalEvidenceWindowV1 :=
  evidenceWindowFromAssessmentCommand runtime.windowSha256 command

/-- `identity_reason`. -/
def identityReason (command : AssessmentCommand) : Option String :=
  match commandWindow runtime command with
  | .ok _ => none
  | .error e => some (classifyContractError e)

/-- `window_hash`. -/
def windowHash (command : AssessmentCommand) : String :=
  match commandWindow runtime command with
  | .ok window => window.contentHash
  | .error e => failClosedHash runtime command (classifyContractError e)

/-- `assessment_window`. -/
def assessmentWindow (command : AssessmentCommand) : HalfOpenInterval :=
  match commandWindow runtime command with
  | .ok window => window.interval
  | .error _ => command.interval

/-! ## Identity -/

/-- The token of the symbol; its base asset is read by no function here. -/
def requireLinearUsdtSymbol (symbol : String) : Except MarketError String := do
  let token := runtime.upper (runtime.strip symbol)
  ensure (runtime.isalnum token = true)
    (.wrongInstrument "Perpetual symbols must be alphanumeric.")
  ensure ("USDT".toList <:+ token.toList ∧ 7 ≤ token.length)
    (.wrongInstrument "USD-M perpetual evidence requires a linear USDT-margined symbol.")
  let base := token.length - 4
  ensure (2 ≤ base ∧ base ≤ 16) (.wrongInstrument "USD-M perpetual base asset is missing.")
  return token

def canonicalInstrumentId (venue : VenueId) (token : String) : String :=
  venue.value ++ ":usdm_futures:perpetual:" ++ runtime.upper token

def instrumentMatchesRequestedSymbol (identity : EvidenceMarketIdentity) (symbol : String) :
    Bool :=
  match requireLinearUsdtSymbol runtime symbol with
  | .error _ => false
  | .ok token =>
    match identity.venue with
    | .binance | .bybit =>
      identity.instrument.instrumentId = canonicalInstrumentId runtime identity.venue token
    | .blofin => false

def evaluateMarketIdentity (command : AssessmentCommand) (rules : Rules)
    (identityReason : Option String) (marketSymbol : String) : Rules :=
  let identity := command.evidenceIdentity
  let venueOk : Prop := identity.venue = .binance ∨ identity.venue = .bybit
  let marketOk : Prop := identity.marketType = .perpetual
  let timeframeOk : Prop := identity.timeframe = some firstSliceTriggerTimeframe
  let fallbackUsed := identity.provenance.fallbackUsed
  let rules :=
    if identityReason = some "wrong_venue_or_market" ∨ ¬(venueOk ∧ marketOk ∧ timeframeOk) then
      rules.record (.fail .marketIdentity "wrong_venue_or_market" (some .triggerOhlcv))
    else if ¬ instrumentMatchesRequestedSymbol runtime identity marketSymbol then
      rules.record (.fail .marketIdentity "wrong_instrument" (some .triggerOhlcv))
    else rules.record (.pass .marketIdentity (some .triggerOhlcv))
  let perpetualOk : Prop :=
    marketOk ∧ identity.instrument.marketType = .perpetual ∧ ¬ fallbackUsed
  let rules :=
    if fallbackUsed then
      rules.record (.fail .perpetualIdentity "required_source_fallback" none)
    else if ¬ perpetualOk then
      rules.record (.fail .perpetualIdentity "wrong_perpetual_identity" none)
    else rules.record (.pass .perpetualIdentity none)
  let rules :=
    if identityReason = some "forming_evidence" then
      rules.record (.fail .finalEvidence "forming_evidence" (some .triggerOhlcv))
    else rules
  if identityReason = some "missing_required_evidence" then
    rules.record (.fail .completeWarmup "missing_required_evidence" none)
  else rules

/-! ## Series -/

def orderedBars (bars : List OhlcvBar) (timeframe : Timeframe) : List OhlcvBar :=
  sortedOn (fun bar => toLex (bar.intervalStart, toLex (bar.sourceEventId, bar.revision)))
    (bars.filter fun bar => bar.timeframe = timeframe)

def contextBarForTrigger (trigger : OhlcvBar) (bars4h : List OhlcvBar) : Option OhlcvBar :=
  ((orderedBars bars4h .h4).filter fun bar => bar.intervalEnd ≤ trigger.intervalEnd).getLast?

/-- The two reads of `_evaluate_series`. -/
def requireBothSeries (command : AssessmentCommand) (bars15m bars4h : List OhlcvBar)
    (evaluated : Instant) : Except SeriesError (ClosedOhlcvSeries × ClosedOhlcvSeries) := do
  let identity4h := { command.evidenceIdentity with timeframe := some firstSliceContextTimeframe }
  let series15m ← requireClosedSeries bars15m command.evidenceIdentity .m15 evaluated
    firstSliceMinFinal15m
  let series4h ← requireClosedSeries bars4h identity4h .h4 evaluated firstSliceMinFinal4h
  return (series15m, series4h)

/-- The handlers of `_evaluate_series`. -/
def recordSeriesError (rules : Rules) : SeriesError → Except MarketError Rules
  | .formingCandle _ =>
    .ok ((rules.record (.fail .finalEvidence "forming_evidence" (some .triggerOhlcv))).record
      (.fail .completeWarmup "incomplete_warmup" none))
  | .market (.wrongMarket _) | .market (.wrongInstrument _) =>
    .ok ((rules.record (.fail .marketIdentity "wrong_venue_or_market" (some .trigger))).record
      (.fail .completeWarmup "wrong_venue_or_market" none))
  | .market e =>
    if isGapDetected e then
      .ok (rules.record (.fail .noUnresolvedGap "required_source_gapped" (some .trigger)))
    else if isMarketContract e then
      .ok (rules.record (.fail .completeWarmup "incomplete_warmup" none))
    else .error e

def evaluateSeries (command : AssessmentCommand) (evidence : FirstSliceEvidenceBundle)
    (evaluated : Instant) (rules : Rules) :
    Except MarketError (List OhlcvBar × List OhlcvBar × Rules) :=
  let bars15m := orderedBars evidence.bars15m .m15
  let bars4h := orderedBars evidence.bars4h .h4
  if ∃ bar ∈ bars15m ++ bars4h, ¬ bar.Closed then
    .ok (bars15m, bars4h,
      rules.record (.fail .finalEvidence "forming_evidence" (some .triggerOhlcv)))
  else
    let rules :=
      if (rules.get .finalEvidence).reasonCode ≠ some "forming_evidence" then
        rules.record (.pass .finalEvidence (some .triggerOhlcv))
      else rules
    match requireBothSeries command bars15m bars4h evaluated with
    | .error e => do
      let rules ← recordSeriesError rules e
      return (bars15m, bars4h, rules)
    | .ok (series15m, series4h) =>
      let rules :=
        if rules.Pending .completeWarmup then rules.record (.pass .completeWarmup none) else rules
      .ok (series15m.bars, series4h.bars, rules)

/-! ## Average true range and trigger -/

def evaluateAtr (bars : List OhlcvBar) (ruleId : RuleId) (rules : Rules) (period : Int) :
    Except MarketError (Option ℚ × Rules) :=
  if bars = [] ∨ ∃ bar ∈ bars, bar.finality ≠ .final then
    .ok (none, rules.record (.fail ruleId "incomplete_warmup" none))
  else do
    match ← computeWilderAtrV1 bars period with
    | .error reason => return (none, rules.record (.fail ruleId reason none))
    | .ok value => return (some value, rules.record (.pass ruleId none))

def evaluateTriggerBinding (command : AssessmentCommand) (trigger : Option OhlcvBar)
    (rules : Rules) : Rules :=
  match trigger with
  | none => rules.record (.fail .completeWarmup "missing_required_evidence" none)
  | some trigger =>
    if trigger.sourceEventId ≠ command.trigger.naturalEventId ∨
        trigger.revision ≠ command.trigger.revision then
      rules.record (.fail .finalEvidence "missing_required_evidence" (some .trigger))
    else rules

/-! ## Subsequent candles -/

/-- The loop of `_contiguous_subsequent`. -/
def contiguousFrom : Instant → List OhlcvBar → List OhlcvBar
  | _, [] => []
  | expected, bar :: bars =>
    if ¬ bar.Closed then []
    else if bar.intervalStart ≠ expected then []
    else bar :: contiguousFrom bar.intervalEnd bars

def contiguousSubsequent (trigger : OhlcvBar) (bars : List OhlcvBar) : List OhlcvBar :=
  contiguousFrom trigger.intervalEnd (orderedBars bars .m15)

def invalidationPrice (trigger : OhlcvBar) (tickSize atr15m : ℚ)
    (params : FirstSliceEvaluationParams) : ℚ :=
  trigger.high + max (params.invalidationAtr * atr15m) (params.invalidationTicks * tickSize)

def Invalidated (trigger : OhlcvBar) (bars : List OhlcvBar) (price : ℚ) : Prop :=
  ∃ bar ∈ contiguousSubsequent trigger bars, price < bar.high

instance (trigger : OhlcvBar) (bars : List OhlcvBar) (price : ℚ) :
    Decidable (Invalidated trigger bars price) := inferInstanceAs (Decidable (∃ _ ∈ _, _))

def Elapsed (trigger : OhlcvBar) (bars : List OhlcvBar) (params : FirstSliceEvaluationParams) :
    Prop := params.expiryBars ≤ (contiguousSubsequent trigger bars).length

instance (trigger : OhlcvBar) (bars : List OhlcvBar) (params : FirstSliceEvaluationParams) :
    Decidable (Elapsed trigger bars params) := inferInstanceAs (Decidable (_ ≤ _))

def evaluateExpiryInvalidation (trigger : OhlcvBar) (evidence : FirstSliceEvidenceBundle)
    (atr15m : ℚ) (rules : Rules) (params : FirstSliceEvaluationParams) : Rules :=
  let price := invalidationPrice trigger evidence.tickSize atr15m params
  (rules.record (.check .notInvalidated
    (¬ Invalidated trigger evidence.subsequentFinal15m price) "pattern_invalidated" none)).record
    (.check .notExpired (¬ Elapsed trigger evidence.subsequentFinal15m params)
      "validity_interval_elapsed" none)

/-! ## Resistance -/

/-- A level that counts for the market of the command before the trigger. -/
def ManualResistanceEvidence.Eligible (item : ManualResistanceEvidence)
    (identity : EvidenceMarketIdentity) (triggerStart : Instant) : Prop :=
  item.valid = true ∧ item.timeframe = .h4 ∧ item.effectiveAt < triggerStart ∧
    item.venue = identity.venue ∧ item.marketType = identity.marketType ∧
    item.instrumentId = identity.instrument.instrumentId

instance (item : ManualResistanceEvidence) (identity : EvidenceMarketIdentity)
    (triggerStart : Instant) : Decidable (item.Eligible identity triggerStart) :=
  inferInstanceAs (Decidable (_ ∧ _))

/-- The level, or the reason against it. -/
def selectResistance (evidence : FirstSliceEvidenceBundle) (command : AssessmentCommand)
    (swingPrice : ℚ) (triggerStart : Instant) : Except String ManualResistanceEvidence :=
  match command.manualLevelRevision with
  | none => .error "missing_manual_resistance"
  | some ref =>
    let eligible :=
      evidence.resistances.filter fun item => item.Eligible command.evidenceIdentity triggerStart
    match (evidence.resistances.filter fun item => item.ref = ref).getLast? with
    | none => .error "invalid_manual_level_revision"
    | some matchingRef =>
      if ¬ matchingRef.valid then .error "invalid_manual_level_revision"
      else if triggerStart ≤ matchingRef.effectiveAt then .error "invalid_manual_level_revision"
      else if matchingRef.timeframe ≠ .h4 then .error "invalid_manual_level_revision"
      else
        match (sortedOn (fun item => toLex (|item.price - swingPrice|,
            toLex (item.ref.levelId, item.ref.revisionNumber))) eligible).head? with
        | none => .error "missing_manual_resistance"
        | some nearest =>
          if nearest.ref ≠ ref then .error "invalid_manual_level_revision" else .ok nearest

/-! ## Observations -/

/-- `_observation_for_role`: the search ends at the first observation of the role. -/
def observationForRole (command : AssessmentCommand) (role : EvidenceRole) :
    Except MarketError (Option PublicMarketObservation) :=
  match command.occupants.find? fun occupant => occupant.2 = role with
  | some (observation, _) => .ok (some observation)
  | none =>
    if command.publicObservations.length = command.selectedRoles.length then .ok none
    else .error unpairedZip

def observationsForRole (command : AssessmentCommand) (role : EvidenceRole) :
    Except MarketError (List PublicMarketObservation) := do
  ensure (command.publicObservations.length = command.selectedRoles.length) unpairedZip
  return (command.occupants.filter fun occupant => occupant.2 = role).map Prod.fst

/-- A role, the type that its observation must have and the payload that it must carry. -/
structure Binding where
  observation : Option PublicMarketObservation
  expectedType : ObservationType
  expectedPayloadHash : String
  role : EvidenceRole

/-- `_payload_matches`. -/
def Binding.Matches (binding : Binding) : Prop :=
  ∃ observation ∈ binding.observation, observation.observationType = binding.expectedType ∧
    observation.payloadContentHash = binding.expectedPayloadHash

instance (binding : Binding) : Decidable binding.Matches :=
  inferInstanceAs (Decidable (∃ _ ∈ _, _))

/-- The bindings of the payloads that the evaluation consumes. -/
def consumedBindings (command : AssessmentCommand) (trigger : OhlcvBar)
    (context : Option OhlcvBar) (cvdHash flowHash coverageHash : String) :
    Except MarketError (List Binding) := do
  let triggerObs ← observationForRole command .triggerOhlcv
  let contextObs ← observationForRole command .contextOhlcv
  let cvdObs ← observationForRole command .cvdWindow
  let flowObs ← observationForRole command .signedFlow
  let coverageObs ← observationForRole command .tradeEvent
  let contextBinding := context.toList.map fun context =>
    ⟨contextObs, .ohlcv, context.contentHash, .contextOhlcv⟩
  return ⟨triggerObs, .ohlcv, trigger.contentHash, .triggerOhlcv⟩ :: contextBinding ++
    [⟨cvdObs, .cvd, cvdHash, .cvdWindow⟩, ⟨flowObs, .volume, flowHash, .signedFlow⟩,
      ⟨coverageObs, .trade, coverageHash, .tradeEvent⟩]

/-- `_bind_consumed_observations`: the first binding that does not match is recorded. -/
def unboundRole (bindings : List Binding) : Option EvidenceRole :=
  (bindings.find? fun binding => ¬ binding.Matches).map (·.role)

/-! ## Freshness and flow -/

/-- `_fail_pattern_rules`. -/
def patternRuleIds : List RuleId :=
  [.confirmedSwingHigh, .manual4hResistance, .htfResistanceContext, .ltfLiquiditySweep,
    .volumeSpike, .bearishCvdDivergence, .aggressiveSellImbalance, .notInvalidated, .notExpired]

def failPatternRules (rules : Rules) (keepExisting : Bool) : Rules :=
  patternRuleIds.foldl (fun rules ruleId =>
    if keepExisting ∧ ¬ rules.Pending ruleId then rules
    else rules.record (.fail ruleId "fail_closed_prerequisite" none)) rules

def failRemainingPattern (rules : Rules) : Rules :=
  [RuleId.htfResistanceContext, .ltfLiquiditySweep, .volumeSpike, .bearishCvdDivergence,
    .aggressiveSellImbalance].foldl (fun rules ruleId =>
      if rules.Pending ruleId then rules.record (.fail ruleId "fail_closed_prerequisite" none)
      else rules) rules

/-- What the evaluation consumes of a snapshot. -/
structure ConsumedFlow where
  trigger : OhlcvBar
  cvd : CvdWindow
  flow : SignedQuoteFlow

/-- The body of the `try`. -/
def consumeFlow (command : AssessmentCommand) (snapshot : TradeStreamSnapshot)
    (series15m : List OhlcvBar) (trigger : Option OhlcvBar) (evaluated : Instant) :
    Except SeriesError ConsumedFlow :=
  match trigger with
  | none => .error (.market (.incompleteWarmUp "Trigger bar missing."))
  | some trigger => do
    let closed ← requireClosedSeries series15m command.evidenceIdentity .m15 evaluated
      firstSliceMinFinal15m
    let liveWindow := liveConfirmationWindowOpen trigger.intervalEnd evaluated
    let cvd ← raising (firstSliceCvdWindow runtime.toFlowHashing command.evidenceIdentity closed
      snapshot evaluated liveWindow)
    let flow ← raising (barSignedQuoteFlow runtime.toFlowHashing command.evidenceIdentity trigger
      snapshot evaluated liveWindow)
    if liveWindow then
      let terminal ← raising (snapshotTerminalEventTime snapshot)
      let _ ← raising (evaluateFreshness terminal evaluated firstSliceFreshnessPolicy true)
    return ⟨trigger, cvd, flow⟩

/-- The handlers of `_evaluate_freshness_and_flow`. -/
def flowFailure : SeriesError → Except MarketError RuleResult
  | .formingCandle _ => .ok (.fail .completeWarmup "incomplete_warmup" none)
  | .market e =>
    if isStaleEvidence e then
      .ok (.fail .freshness "required_source_stale" (some .tradeEvent))
    else if isGapDetected e then
      .ok (.fail .noUnresolvedGap "required_source_gapped" (some .cvdWindow))
    else
      match e with
      | .wrongMarket _ | .wrongInstrument _ | .spotFallbackRejected _ =>
        .ok (.fail .marketIdentity "wrong_venue_or_market" (some .cvdWindow))
      | e =>
        if isMarketContract e then .ok (.fail .completeWarmup "incomplete_warmup" none)
        else .error e

def priorBars (series15m : List OhlcvBar) (lookback : Int) : List OhlcvBar :=
  (sliceFrom series15m (-(lookback + 1))).dropLast

def volumeRule (series15m : List OhlcvBar) (trigger : OhlcvBar)
    (params : FirstSliceEvaluationParams) : Except MarketError RuleResult :=
  let prior := priorBars series15m params.volumeLookback
  if (prior.length : Int) ≠ params.volumeLookback then
    .ok (.fail .volumeSpike "missing_required_evidence" (some .volume))
  else if params.volumeLookback = 0 then .error (.validation "decimal.DivisionUndefined")
  else
    let meanVolume := (prior.map (·.baseVolume)).sum / params.volumeLookback
    if meanVolume = 0 then .ok (.fail .volumeSpike "volume_failure" (some .volume))
    else .ok (.check .volumeSpike (params.volumeRatio ≤ trigger.baseVolume / meanVolume)
      "volume_failure" (some .volume))

def sweepReason (trigger : OhlcvBar) (swing : ConfirmedSwingHigh) (atr15m : ℚ)
    (params : FirstSliceEvaluationParams) : Option String :=
  if ¬ swing.price + params.sweepAtr * atr15m ≤ trigger.high then some "sweep_failed"
  else if ¬ (trigger.close < swing.price ∧ trigger.close < trigger.openPrice) then
    some "close_failed"
  else none

def sweepRule (trigger : OhlcvBar) (swing : ConfirmedSwingHigh) (atr15m : ℚ)
    (params : FirstSliceEvaluationParams) : RuleResult :=
  match sweepReason trigger swing atr15m params with
  | none => .pass .ltfLiquiditySweep (some .trigger)
  | some reason => .fail .ltfLiquiditySweep reason (some .trigger)

/-- The pattern behind the resistance. -/
def evaluatePattern (snapshot : TradeStreamSnapshot) (series15m : List OhlcvBar)
    (consumed : ConsumedFlow) (windowStart : Instant) (swing : ConfirmedSwingHigh)
    (resistance : ManualResistanceEvidence) (atr15m atr4h : ℚ) (rules : Rules)
    (params : FirstSliceEvaluationParams) : Except MarketError Rules := do
  let trigger := consumed.trigger
  let rules := rules.record (.check .htfResistanceContext
    (|swing.price - resistance.price| ≤ params.swingAtrDistance * atr4h)
    "resistance_tolerance_failure" (some .structural))
  let rules := rules.record (sweepRule trigger swing atr15m params)
  let volume ← volumeRule series15m trigger params
  let rules := rules.record volume
  let cvdT ← signedQuoteDeltaUntil snapshot windowStart trigger.intervalEnd 0
  let cvdS ← signedQuoteDeltaUntil snapshot windowStart swing.bar.intervalEnd 0
  let rules := rules.record (.check .bearishCvdDivergence
    (swing.price < trigger.high ∧ cvdT < cvdS) "cvd_divergence_failure" (some .cvdWindow))
  return rules.record (.check .aggressiveSellImbalance
    (consumed.flow.signedFlowRatio ≤ params.sellImbalance) "aggressive_sell_imbalance_failure"
    (some .signedFlow))

/-- The swing, its resistance and the pattern. Each way ends with `_evaluate_expiry_invalidation`
in the source, which the caller applies here. -/
def evaluateSwing (command : AssessmentCommand) (evidence : FirstSliceEvidenceBundle)
    (snapshot : TradeStreamSnapshot) (series15m : List OhlcvBar) (consumed : ConsumedFlow)
    (atr15m atr4h : ℚ) (rules : Rules) (params : FirstSliceEvaluationParams) :
    Except MarketError Rules := do
  let trigger := consumed.trigger
  let windowStart ← firstSliceBaselineOpen trigger firstSliceCvdLookbackBars
  match mostRecentConfirmedSwingHigh series15m (some windowStart) (some trigger) with
  | none =>
    return failRemainingPattern
      (rules.record (.fail .confirmedSwingHigh "missing_confirmed_swing" (some .swing)))
  | some swing => do
    let rules := rules.record (.pass .confirmedSwingHigh (some .swing))
    match selectResistance evidence command swing.price trigger.intervalStart with
    | .error reason =>
      return failRemainingPattern
        (rules.record (.fail .manual4hResistance reason (some .structural)))
    | .ok resistance =>
      evaluatePattern snapshot series15m consumed windowStart swing resistance atr15m atr4h
        (rules.record (.pass .manual4hResistance (some .structural))) params

def StaleObservation (command : AssessmentCommand) : Prop :=
  ∃ observation ∈ command.publicObservations, observation.freshnessState = .stale ∨
    observation.freshnessState = .unknown ∨ observation.freshnessState = .gap

instance (command : AssessmentCommand) : Decidable (StaleObservation command) :=
  inferInstanceAs (Decidable (∃ _ ∈ _, _))

/-- The part of `_evaluate_freshness_and_flow` behind the handlers. -/
def evaluateConsumed (command : AssessmentCommand) (evidence : FirstSliceEvidenceBundle)
    (snapshot : TradeStreamSnapshot) (series15m : List OhlcvBar) (consumed : ConsumedFlow)
    (rules : Rules) (atr15m atr4h : Option ℚ) (params : FirstSliceEvaluationParams) :
    Except MarketError Rules := do
  let bindings ← consumedBindings command consumed.trigger
    (contextBarForTrigger consumed.trigger evidence.bars4h) consumed.cvd.contentHash
    consumed.flow.contentHash snapshot.coverage.contentHash
  match unboundRole bindings with
  | some role =>
    return failPatternRules
      (rules.record (.fail .marketIdentity "wrong_venue_or_market" (some role))) true
  | none =>
    let rules :=
      if rules.Pending .freshness then rules.record (.pass .freshness (some .tradeEvent))
      else rules
    let rules :=
      if rules.Pending .noUnresolvedGap then
        rules.record (.pass .noUnresolvedGap (some .cvdWindow))
      else rules
    match atr15m, atr4h with
    | some atr15m, some atr4h => do
      let rules ← evaluateSwing command evidence snapshot series15m consumed atr15m atr4h rules
        params
      return evaluateExpiryInvalidation consumed.trigger evidence atr15m rules params
    | _, _ => return failPatternRules rules true

def evaluateFreshnessAndFlow (command : AssessmentCommand) (evidence : FirstSliceEvidenceBundle)
    (series15m : List OhlcvBar) (trigger : Option OhlcvBar) (evaluated : Instant) (rules : Rules)
    (atr15m atr4h : Option ℚ) (params : FirstSliceEvaluationParams) : Except MarketError Rules :=
  match evidence.snapshot with
  | none =>
    let rules := rules.record (.fail .freshness "missing_required_evidence" (some .cvdWindow))
    let rules :=
      rules.record (.fail .noUnresolvedGap "missing_required_evidence" (some .cvdWindow))
    let rules :=
      if rules.Passed .completeWarmup then
        rules.record (.fail .completeWarmup "missing_required_evidence" none)
      else rules
    .ok (failPatternRules rules false)
  | some snapshot =>
    let rules :=
      if StaleObservation command then
        rules.record (.fail .freshness "required_source_stale" (some .tradeEvent))
      else rules
    match consumeFlow runtime command snapshot series15m trigger evaluated with
    | .error e => do
      let failure ← flowFailure e
      return failPatternRules (rules.record failure) true
    | .ok consumed =>
      evaluateConsumed command evidence snapshot series15m consumed rules atr15m atr4h params

/-! ## Required roles -/

/-- `DERIVATIVE_ROLES`. -/
def derivativeMetric : EvidenceRole → Option DerivativeMetric
  | .openInterest => some .openInterest
  | .funding => some .funding
  | _ => none

/-- The observation of a required derivative is the one bound to the command. The search for it
never fails behind the gate of the observations. -/
def requireDerivativeBinding (command : AssessmentCommand)
    (marketIntelligence : List DerivativeObservation) (role : EvidenceRole) :
    Except MarketError Unit :=
  match derivativeMetric role with
  | none => .ok ⟨⟩
  | some metric =>
    match marketIntelligence.find? fun item => item.metric = metric with
    | none => .error (.provider "StopIteration")
    | some item => do
      let selected ← observationsForRole command role
      let expected ← observationFromDerivative runtime.toEnvelopeHashing item
      ensure (selected = [expected])
        (.wrongSource "Required OI/funding payload is not bound to the command.")

/-- The `try` over the required derivatives. -/
def requireDerivatives (policy : FusionPolicy) (command : AssessmentCommand)
    (evidence : FirstSliceEvidenceBundle) (evaluated : Instant) : Except MarketError Unit := do
  requireDerivativeObservations runtime.toEnvelopeHashing evidence.marketIntelligence
    (policy.requiredRoles.filterMap derivativeMetric) command.evidenceIdentity evaluated
  policy.requiredRoles.forM
    (requireDerivativeBinding runtime command evidence.marketIntelligence)

/-- `ORDER_FLOW_ROLES`. -/
def IsOrderFlowRole (role : EvidenceRole) : Prop := role = .cvd5m ∨ role = .orderFlow5m

instance (role : EvidenceRole) : Decidable (IsOrderFlowRole role) :=
  inferInstanceAs (Decidable (_ ∨ _))

def requireBoundOrderFlow (item : Option OrderFlowObservation) (command : AssessmentCommand)
    (requiredRoles : List EvidenceRole) (evaluatedAt : Instant) (triggerEnd : Option Instant) :
    Except MarketError Unit :=
  let roles := requiredRoles.filter fun role => IsOrderFlowRole role
  if roles = [] then .ok ⟨⟩
  else do
    let item ← requireOrderFlowEvidence runtime.toEnvelopeHashing item command.evidenceIdentity
      evaluatedAt
    ensure (triggerEnd = some item.windowEnd)
      (.wrongSource "Required 5m order flow is not bound to the trigger close.")
    roles.forM fun role => do
      let selected ← observationsForRole command role
      let expected ← observationFromOrderFlow runtime.toEnvelopeHashing item
        (decide (role = .cvd5m))
      ensure (selected = [expected])
        (.wrongSource "Required 5m payload is not bound to the command.")

/-- The handler of both gates, which catches every `ValueError`. -/
def recordGate (rules : Rules) : Except MarketError Unit → Except MarketError Rules
  | .ok _ => .ok rules
  | .error e =>
    if isValueError e then
      .ok (rules.record (.fail .completeWarmup
        (if isStaleEvidence e then "required_source_stale" else "missing_required_evidence") none))
    else .error e

/-! ## Assessment -/

/-- `_LIVE_STATES`. -/
def IsLive (state : SetupAssessmentState) : Prop :=
  state = .watch ∨ state = .partialMatch ∨ state = .confirmedSetup

instance (state : SetupAssessmentState) : Decidable (IsLive state) :=
  inferInstanceAs (Decidable (_ ∨ _))

def qualityCode : RuleId → AssessmentReasonCode
  | .policyCompatible => .policyReplaced
  | .marketIdentity | .perpetualIdentity => .wrongVenueOrMarket
  | .freshness => .requiredSourceStale
  | .noUnresolvedGap => .requiredSourceGapped
  | _ => .marketDisqualifier

def qualityReasonCodes (rules : Rules) : List AssessmentReasonCode :=
  let mapping := qualityRuleIds.foldl (fun mapping ruleId =>
    let result := rules.get ruleId
    if ¬ result.passed ∧ qualityCode ruleId ∉ mapping then
      mapping ++ [if result.reasonCode = some "required_source_fallback" then
        .requiredSourceFallback else qualityCode ruleId]
    else mapping) []
  if mapping = [] then [.marketDisqualifier] else mapping

def AllPassed (rules : Rules) (ruleIds : List RuleId) : Prop :=
  ∀ ruleId ∈ ruleIds, rules.Passed ruleId

instance (rules : Rules) (ruleIds : List RuleId) : Decidable (AllPassed rules ruleIds) :=
  inferInstanceAs (Decidable (∀ _ ∈ _, _))

def resolveState (rules : Rules) (previous : Option SetupAssessmentState) :
    SetupAssessmentState × List AssessmentReasonCode :=
  if ¬ AllPassed rules qualityRuleIds then
    (if ∃ state ∈ previous, IsLive state then .invalidated else .noSetup,
      qualityReasonCodes rules)
  else if ¬ rules.Passed .notInvalidated ∧
      (rules.get .notInvalidated).reasonCode = some "pattern_invalidated" then
    (.invalidated, [.patternInvalidated])
  else if ¬ rules.Passed .notExpired ∧
      (rules.get .notExpired).reasonCode = some "validity_interval_elapsed" then
    (.expired, [.validityIntervalElapsed])
  else if AllPassed rules firstSliceRuleIds then
    (.confirmedSetup, [.allMandatoryEvidenceConfirmed])
  else if rules.Passed .htfResistanceContext then (.partialMatch, [.sequenceStepPassed])
  else (.watch, [.preconditionsPassed])

def explanation (state : SetupAssessmentState) (rules : Rules) : String :=
  let failed := firstSliceRuleIds.filter fun ruleId => ¬ rules.Passed ruleId
  let text :=
    if state = .confirmedSetup then
      firstSlicePatternName ++ ": CONFIRMED_SETUP; all mandatory first-slice predicates passed."
    else if failed ≠ [] then
      firstSlicePatternName ++ ": " ++ state.value ++ "; failed " ++
        ", ".intercalate (failed.map RuleId.value) ++ "."
    else firstSlicePatternName ++ ": " ++ state.value ++ "."
  String.ofList (text.toList.take 500)

def validUntil (evaluated : Instant) (trigger : Option OhlcvBar)
    (params : FirstSliceEvaluationParams) : Instant :=
  max (trigger.elim evaluated (·.intervalEnd) + intervalTimedelta .m15 * params.expiryBars)
    (evaluated + seconds 1)

/-- What the evaluators leave behind. -/
structure Evaluation where
  rules : Rules
  trigger : Option OhlcvBar

/-- The evaluators in their order. -/
def evaluateRules (policy : FusionPolicy) (command : AssessmentCommand)
    (evidence : FirstSliceEvidenceBundle) (evaluated : Instant)
    (params : FirstSliceEvaluationParams) (marketSymbol : String) :
    Except MarketError Evaluation := do
  let rules := recordPolicy policy command .initial
  let rules := evaluateMarketIdentity runtime command rules (identityReason runtime command)
    marketSymbol
  let (series15m, series4h, rules) ← evaluateSeries command evidence evaluated rules
  let (atr15m, rules) ← evaluateAtr series15m .wilderAtr15m rules params.atrPeriod
  let (atr4h, rules) ← evaluateAtr series4h .wilderAtr4h rules params.atrPeriod
  let trigger := series15m.getLast?
  let rules := evaluateTriggerBinding command trigger rules
  let rules ← evaluateFreshnessAndFlow runtime command evidence series15m trigger evaluated rules
    atr15m atr4h params
  let rules ← recordGate rules (requireDerivatives runtime policy command evidence evaluated)
  let rules ← recordGate rules (requireBoundOrderFlow runtime evidence.orderFlow command
    policy.requiredRoles evaluated (trigger.map (·.intervalEnd)))
  let rules :=
    if .orderBook ∈ policy.requiredRoles then
      rules.record (.fail .completeWarmup "missing_required_evidence" none)
    else rules
  return ⟨rules, trigger⟩

def buildAssessment (policy : FusionPolicy) (command : AssessmentCommand)
    (evidence : FirstSliceEvidenceBundle) (evaluated : Instant)
    (previous : Option SetupAssessment) (params : FirstSliceEvaluationParams)
    (evaluation : Evaluation) : SetupAssessment :=
  let rules := evaluation.rules
  let hash := windowHash runtime command
  let (state, reasonCodes) := resolveState rules (previous.map (·.state))
  let subsequentDigest := ",".intercalate
    ((orderedBars evidence.subsequentFinal15m .m15).map (·.contentHash))
  let material := hash ++ "|" ++ state.value ++ "|" ++ runtime.isoformat evaluated ++ "|" ++
    subsequentDigest ++
      previous.elim "" fun previous => "|" ++ runtime.uuidText previous.assessmentId
  { assessmentId := runtime.uuid5 ("assessment|" ++ material)
    organizationId := command.organizationId
    strategyVersionId := command.strategyVersionId
    executableSetup := command.executableSetup
    fusionPolicyVersion := policy.policyVersion
    observationIds := sortedOn id (command.publicObservations.map (·.observationId))
    assessmentWindow := assessmentWindow runtime command
    state
    previousAssessmentId := previous.map (·.assessmentId)
    previousState := previous.map (·.state)
    ruleResults := firstSliceRuleIds.map rules.get
    threshold := policy.confirmationScore
    reasonCodes
    explanation := explanation state rules
    evidenceWindowHash := hash
    assessedAt := evaluated
    validUntil := validUntil evaluated evaluation.trigger params
    correlationId := runtime.uuid5 ("correlation|" ++ hash) }

/-- `resolved_market`. -/
def resolveMarket (marketSymbol : Option String) : String :=
  marketSymbol.elim firstSliceSymbol fun symbol => runtime.upper (runtime.strip symbol)

/-- The first-slice path, which no specification of another family takes. -/
def evaluateSetup (policy : FusionPolicy) (command : AssessmentCommand)
    (evidence : FirstSliceEvidenceBundle) (evaluatedAt : Instant)
    (previousAssessment : Option SetupAssessment)
    (evaluationParams : Option FirstSliceEvaluationParams) (marketSymbol : Option String) :
    Except MarketError SetupAssessment := do
  let params := resolveEvaluationParams evaluationParams
  let evaluation ← evaluateRules runtime policy command evidence evaluatedAt params
    (resolveMarket runtime marketSymbol)
  return buildAssessment runtime policy command evidence evaluatedAt previousAssessment params
    evaluation

end AlphaTrade.Fusion
