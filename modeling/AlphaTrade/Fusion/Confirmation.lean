import Mathlib
import AlphaTrade.Fusion.RuleRuns
import AlphaTrade.Fusion.WindowIdentity
import AlphaTrade.Library.DecimalContext

/-!
# Confirmed setups

An evaluation confirms exactly where no evaluator writes a failure, so a confirmed setup is known
by conditions on what was evaluated.

## Main definitions

* `Reading`: what an evaluation that confirms has read of its evidence.
* `Confirms`: the conditions on the evidence and on what was read of it.

## Main results

* `confirmed_iff`: a setup is confirmed exactly where some reading confirms it.
-/
namespace AlphaTrade.Fusion
open Library Market
open Execution (Instant)
open Rules

/-- The two series, their ranges and the trigger. -/
structure SeriesReading where
  series15m : ClosedOhlcvSeries
  series4h : ClosedOhlcvSeries
  atr15m : ℚ
  atr4h : ℚ
  trigger : OhlcvBar

/-- What is consumed of the snapshot. -/
structure FlowReading extends SeriesReading where
  snapshot : TradeStreamSnapshot
  consumed : ConsumedFlow
  bindings : List Binding

structure Reading extends FlowReading where
  windowStart : Instant
  swing : ConfirmedSwingHigh
  resistance : ManualResistanceEvidence
  cvdT : ℚ
  cvdS : ℚ

/-- The market of the command is the one under evaluation. -/
structure MarketConfirms (runtime : FusionRuntime) (command : AssessmentCommand)
    (marketSymbol : String) : Prop where
  venue : command.evidenceIdentity.venue = .binance ∨ command.evidenceIdentity.venue = .bybit
  market : command.evidenceIdentity.marketType = .perpetual
  timeframe : command.evidenceIdentity.timeframe = some firstSliceTriggerTimeframe
  instrument :
    instrumentMatchesRequestedSymbol runtime command.evidenceIdentity marketSymbol = true
  direct : command.evidenceIdentity.provenance.fallbackUsed = false

/-- The pattern of a reading holds. -/
structure PatternConfirms (command : AssessmentCommand) (evidence : FirstSliceEvidenceBundle)
    (params : FirstSliceEvaluationParams) (read : Reading) : Prop where
  window : firstSliceBaselineOpen read.trigger firstSliceCvdLookbackBars = .ok read.windowStart
  swing : mostRecentConfirmedSwingHigh read.series15m.bars (some read.windowStart)
    (some read.trigger) = some read.swing
  resistance : selectResistance evidence command read.swing.price read.trigger.intervalStart =
    .ok read.resistance
  context : |read.swing.price - read.resistance.price| ≤ params.swingAtrDistance * read.atr4h
  sweep : sweepReason read.trigger read.swing read.atr15m params = none
  volume : volumeRule read.series15m.bars read.trigger params =
    .ok (.pass .volumeSpike (some .volume))
  cvdT : signedQuoteDeltaUntil read.snapshot read.windowStart read.trigger.intervalEnd 0 =
    .ok read.cvdT
  cvdS : signedQuoteDeltaUntil read.snapshot read.windowStart read.swing.bar.intervalEnd 0 =
    .ok read.cvdS
  divergence : read.swing.price < read.trigger.high ∧ read.cvdT < read.cvdS
  imbalance : read.consumed.flow.signedFlowRatio ≤ params.sellImbalance

/-- The snapshot of a reading is consumed, and its pattern holds and still does. -/
structure FlowConfirms (runtime : FusionRuntime) (command : AssessmentCommand)
    (evidence : FirstSliceEvidenceBundle) (evaluated : Instant)
    (params : FirstSliceEvaluationParams) (read : Reading) : Prop where
  snapshot : evidence.snapshot = some read.snapshot
  fresh : ¬ StaleObservation command
  consumed : consumeFlow runtime command read.snapshot read.series15m.bars (some read.trigger)
    evaluated = .ok read.consumed
  bindings : consumedBindings command read.trigger
    (contextBarForTrigger read.trigger evidence.bars4h) read.consumed.cvd.contentHash
    read.consumed.flow.contentHash read.snapshot.coverage.contentHash = .ok read.bindings
  bound : unboundRole read.bindings = none
  pattern : PatternConfirms command evidence params read
  valid : ¬ Invalidated read.trigger evidence.subsequentFinal15m
    (invalidationPrice read.trigger evidence.tickSize read.atr15m params)
  current : ¬ Elapsed read.trigger evidence.subsequentFinal15m params

structure Confirms (runtime : FusionRuntime) (policy : FusionPolicy)
    (command : AssessmentCommand) (evidence : FirstSliceEvidenceBundle) (evaluated : Instant)
    (params : FirstSliceEvaluationParams) (marketSymbol : String) (read : Reading) : Prop where
  agrees : policyReason policy command = none
  /-- A window that is refused is refused for the reason that no evaluator reads. -/
  unread : ∀ reason ∈ identityReason runtime command, reason = "market_disqualifier"
  market : MarketConfirms runtime command marketSymbol
  closed : ∀ bar ∈ orderedBars evidence.bars15m .m15 ++ orderedBars evidence.bars4h .h4,
    bar.Closed
  series : requireBothSeries command (orderedBars evidence.bars15m .m15)
    (orderedBars evidence.bars4h .h4) evaluated = .ok (read.series15m, read.series4h)
  atr15m : computeWilderAtrV1 read.series15m.bars params.atrPeriod = .ok (.ok read.atr15m)
  atr4h : computeWilderAtrV1 read.series4h.bars params.atrPeriod = .ok (.ok read.atr4h)
  last : read.series15m.bars.getLast? = some read.trigger
  named : read.trigger.sourceEventId = command.trigger.naturalEventId ∧
    read.trigger.revision = command.trigger.revision
  flow : FlowConfirms runtime command evidence evaluated params read
  derivatives : requireDerivatives runtime policy command evidence evaluated = .ok ⟨⟩
  orderFlow : requireBoundOrderFlow runtime evidence.orderFlow command policy.requiredRoles
    evaluated (some read.trigger.intervalEnd) = .ok ⟨⟩
  depth : .orderBook ∉ policy.requiredRoles

variable {runtime : FusionRuntime} {policy : FusionPolicy} {command : AssessmentCommand}
  {evidence : FirstSliceEvidenceBundle} {evaluated : Instant} {rules later : Rules}
  {params : FirstSliceEvaluationParams} {marketSymbol : String}

/-! ## Policy and identity -/

theorem policyReason_of_clean (clean : (recordPolicy policy command rules).Clean) :
    policyReason policy command = none := by
  unfold recordPolicy at clean
  split at clean
  · assumption
  · rename_i reason found
    exact absurd (RuleResult.open_fail.mp (clean_record.mp clean).1) (policyReason_ne found)

theorem recordPolicy_of (agrees : policyReason policy command = none) :
    recordPolicy policy command rules = rules.record (.pass .policyCompatible none) := by
  rw [recordPolicy, agrees]

theorem marketConfirms_of_clean {reason : Option String}
    (clean : (evaluateMarketIdentity runtime command rules reason marketSymbol).Clean) :
    MarketConfirms runtime command marketSymbol ∧ reason ≠ some "wrong_venue_or_market" ∧
      reason ≠ some "forming_evidence" ∧ reason ≠ some "missing_required_evidence" := by
  unfold evaluateMarketIdentity at clean
  extract_lets identity venueOk marketOk timeframeOk fallbackUsed afterMarket perpetualOk
    afterPerpetual afterFinal at clean
  obtain ⟨final, missing⟩ : afterFinal.Clean ∧ reason ≠ some "missing_required_evidence" := by
    split at clean
    · simp at clean
    · exact ⟨clean, ‹_›⟩
  obtain ⟨perpetual, forming⟩ : afterPerpetual.Clean ∧ reason ≠ some "forming_evidence" := by
    unfold afterFinal at final
    split at final
    · simp at final
    · exact ⟨final, ‹_›⟩
  obtain ⟨first, direct⟩ : afterMarket.Clean ∧ ¬ fallbackUsed = true := by
    unfold afterPerpetual at perpetual
    split at perpetual
    · simp at perpetual
    · refine ⟨?_, ‹_›⟩
      split at perpetual <;> simp_all
  unfold afterMarket at first
  split at first
  · simp at first
  · rename_i right
    push Not at right
    obtain ⟨reason_ne, venue, market, timeframe⟩ := right
    split at first
    · simp at first
    · rename_i matching
      exact ⟨⟨venue, market, timeframe, not_not.mp matching, Bool.not_eq_true _ ▸ direct⟩,
        reason_ne, forming, missing⟩

theorem evaluateMarketIdentity_of {reason : Option String}
    (confirms : MarketConfirms runtime command marketSymbol)
    (unread : ∀ given ∈ reason, given = "market_disqualifier") :
    evaluateMarketIdentity runtime command rules reason marketSymbol =
      (rules.record (.pass .marketIdentity (some .triggerOhlcv))).record
        (.pass .perpetualIdentity none) := by
  have other : ∀ text : String, text ≠ "market_disqualifier" → reason ≠ some text := by
    rintro text ne rfl
    exact ne (unread text rfl)
  have instrument : command.evidenceIdentity.instrument.marketType = .perpetual :=
    command.evidenceIdentity.sameMarket.trans confirms.market
  unfold evaluateMarketIdentity
  simp [other, confirms.venue, confirms.market, confirms.timeframe, confirms.instrument,
    confirms.direct, instrument]

/-! ## Series, average true range and trigger -/

theorem recordSeriesError_unclean {e : SeriesError} (h : recordSeriesError rules e = .ok later) :
    ¬ later.Clean := by
  unfold recordSeriesError at h
  split at h
  · obtain rfl := Except.ok.inj h
    simp
  · obtain rfl := Except.ok.inj h
    simp
  · obtain rfl := Except.ok.inj h
    simp
  · split_ifs at h <;> (obtain rfl := Except.ok.inj h; simp)

theorem series_of_clean {bars15m bars4h : List OhlcvBar}
    (h : evaluateSeries command evidence evaluated rules = .ok (bars15m, bars4h, later))
    (clean : later.Clean) :
    (∀ bar ∈ orderedBars evidence.bars15m .m15 ++ orderedBars evidence.bars4h .h4, bar.Closed) ∧
      ∃ series15m series4h, requireBothSeries command (orderedBars evidence.bars15m .m15)
        (orderedBars evidence.bars4h .h4) evaluated = .ok (series15m, series4h) ∧
          bars15m = series15m.bars ∧ bars4h = series4h.bars := by
  unfold evaluateSeries at h
  extract_lets ordered15m ordered4h afterFinal at h
  split at h
  · simp only [Except.ok.injEq, Prod.mk.injEq] at h
    obtain ⟨-, -, rfl⟩ := h
    simp at clean
  · rename_i closed
    push Not at closed
    split at h
    · obtain ⟨written, recorded, same⟩ := bind_eq_ok.mp h
      simp only [pure, Except.pure, Except.ok.injEq, Prod.mk.injEq] at same
      obtain ⟨-, -, rfl⟩ := same
      exact absurd clean (recordSeriesError_unclean recorded)
    · rename_i series15m series4h found
      simp only [Except.ok.injEq, Prod.mk.injEq] at h
      exact ⟨closed, series15m, series4h, found, h.1.symm, h.2.1.symm⟩

theorem evaluateSeries_of {series15m series4h : ClosedOhlcvSeries}
    (closed : ∀ bar ∈ orderedBars evidence.bars15m .m15 ++ orderedBars evidence.bars4h .h4,
      bar.Closed)
    (series : requireBothSeries command (orderedBars evidence.bars15m .m15)
      (orderedBars evidence.bars4h .h4) evaluated = .ok (series15m, series4h))
    (final : rules.Pending .finalEvidence) (warmup : rules.Pending .completeWarmup) :
    evaluateSeries command evidence evaluated rules = .ok (series15m.bars, series4h.bars,
      (rules.record (.pass .finalEvidence (some .triggerOhlcv))).record
        (.pass .completeWarmup none)) := by
  unfold evaluateSeries
  rw [if_neg (by push Not; exact closed)]
  extract_lets afterFinal
  have first : afterFinal = rules.record (.pass .finalEvidence (some .triggerOhlcv)) := by
    unfold afterFinal
    rw [if_pos]
    rw [final]
    decide
  have still : afterFinal.Pending .completeWarmup := by
    rwa [first, Pending, get_record_of_ne (by simp)]
  rw [series]
  change Except.ok (series15m.bars, series4h.bars, if afterFinal.Pending .completeWarmup then
    afterFinal.record (.pass .completeWarmup none) else afterFinal) = _
  rw [if_pos still, first]

theorem contiguityReason_ne {bars : List OhlcvBar} {reason : String}
    (found : contiguityReason bars = some reason) : reason ≠ "not_evaluated" := by
  have pair : ∀ bars, ∀ reason, pairReason bars = some reason → reason ≠ "not_evaluated" := by
    intro bars
    fun_induction pairReason bars with
    | case1 => simp
    | case2 => simp
    | case3 => simp
    | case4 _ _ _ _ _ _ ih => exact ih
    | case5 => simp
  unfold contiguityReason at found
  split at found
  · exact pair _ _ found
  · obtain rfl := Option.some.inj found
    decide

/-- A missing value has a reason of its own. -/
theorem missingReason_ne {bars : List OhlcvBar} {period : Int} {reason : String}
    (h : computeWilderAtrV1 bars period = .ok (.error reason)) : reason ≠ "not_evaluated" := by
  unfold computeWilderAtrV1 at h
  obtain ⟨-, -, h⟩ := bind_eq_ok.mp h
  split at h
  · obtain rfl := Except.error.inj (Except.ok.inj h)
    decide
  · split at h
    · rename_i mismatch found
      obtain rfl := Except.error.inj (Except.ok.inj h)
      unfold identityOk at found
      split at found
      · cases found
      · split at found
        · cases found
        · obtain rfl := Option.some.inj found
          decide
    · split at h
      · rename_i broken found
        obtain rfl := Except.error.inj (Except.ok.inj h)
        exact contiguityReason_ne found
      · split at h
        · obtain rfl := Except.error.inj (Except.ok.inj h)
          decide
        · obtain ⟨-, -, h⟩ := bind_eq_ok.mp h
          cases h

theorem atr_of_clean {bars : List OhlcvBar} {ruleId : RuleId} {period : Int} {value : Option ℚ}
    (h : evaluateAtr bars ruleId rules period = .ok (value, later)) (clean : later.Clean) :
    ∃ atr, value = some atr ∧ computeWilderAtrV1 bars period = .ok (.ok atr) := by
  unfold evaluateAtr at h
  split at h
  · simp only [Except.ok.injEq, Prod.mk.injEq] at h
    obtain ⟨-, rfl⟩ := h
    simp at clean
  · obtain ⟨feature, computed, h⟩ := bind_eq_ok.mp h
    cases feature with
    | error reason =>
      simp only [pure, Except.pure, Except.ok.injEq, Prod.mk.injEq] at h
      obtain ⟨-, rfl⟩ := h
      exact absurd (RuleResult.open_fail.mp (clean_record.mp clean).1) (missingReason_ne computed)
    | ok atr =>
      simp only [pure, Except.pure, Except.ok.injEq, Prod.mk.injEq] at h
      exact ⟨atr, h.1.symm, computed⟩

theorem evaluateAtr_of {bars : List OhlcvBar} {ruleId : RuleId} {period : Int} {atr : ℚ}
    (nonempty : bars ≠ []) (final : ∀ bar ∈ bars, bar.finality = .final)
    (computed : computeWilderAtrV1 bars period = .ok (.ok atr)) :
    evaluateAtr bars ruleId rules period = .ok (some atr, rules.record (.pass ruleId none)) := by
  unfold evaluateAtr
  rw [if_neg, computed]
  · rfl
  · rintro (empty | ⟨bar, mem, open_⟩)
    · exact nonempty empty
    · exact open_ (final bar mem)

theorem trigger_of_clean {trigger : Option OhlcvBar}
    (clean : (evaluateTriggerBinding command trigger rules).Clean) :
    ∃ bar, trigger = some bar ∧ bar.sourceEventId = command.trigger.naturalEventId ∧
      bar.revision = command.trigger.revision := by
  unfold evaluateTriggerBinding at clean
  split at clean
  · simp at clean
  · rename_i bar
    split at clean
    · simp at clean
    · rename_i same
      push Not at same
      exact ⟨bar, rfl, same⟩

theorem evaluateTriggerBinding_of {bar : OhlcvBar}
    (named : bar.sourceEventId = command.trigger.naturalEventId ∧
      bar.revision = command.trigger.revision) :
    evaluateTriggerBinding command (some bar) rules = rules := by
  simp [evaluateTriggerBinding, named]

/-! ## Pattern -/

theorem volume_of_open {series15m : List OhlcvBar} {trigger : OhlcvBar} {result : RuleResult}
    (h : volumeRule series15m trigger params = .ok result) (isOpen : result.Open) :
    result = .pass .volumeSpike (some .volume) := by
  unfold volumeRule at h
  extract_lets prior meanVolume at h
  split_ifs at h <;> obtain rfl := Except.ok.inj h
  · simp at isOpen
  · simp at isOpen
  · exact RuleResult.check_of (by simpa using isOpen)

theorem sweepReason_ne {trigger : OhlcvBar} {swing : ConfirmedSwingHigh} {atr15m : ℚ}
    {reason : String} (found : sweepReason trigger swing atr15m params = some reason) :
    reason ≠ "not_evaluated" := by
  unfold sweepReason at found
  split_ifs at found <;> (obtain rfl := Option.some.inj found; decide)

theorem sweep_of_open {trigger : OhlcvBar} {swing : ConfirmedSwingHigh} {atr15m : ℚ}
    (isOpen : (sweepRule trigger swing atr15m params).Open) :
    sweepReason trigger swing atr15m params = none := by
  unfold sweepRule at isOpen
  split at isOpen
  · assumption
  · rename_i reason found
    exact absurd (RuleResult.open_fail.mp isOpen) (sweepReason_ne found)

theorem failRemainingPattern_unclean {result : RuleResult} (failed : ¬ result.Open) :
    ¬ (failRemainingPattern (rules.record result)).Clean := by
  intro clean
  exact failed (clean_record.mp (failRemainingPattern_extends.clean clean)).1

theorem selectResistance_ne {swingPrice : ℚ} {triggerStart : Instant} {reason : String}
    (refused : selectResistance evidence command swingPrice triggerStart = .error reason) :
    reason ≠ "not_evaluated" := by
  unfold selectResistance at refused
  split at refused
  · obtain rfl := Except.error.inj refused
    decide
  · extract_lets eligible at refused
    split at refused
    · obtain rfl := Except.error.inj refused
      decide
    · split at refused
      · obtain rfl := Except.error.inj refused
        decide
      · split at refused
        · obtain rfl := Except.error.inj refused
          decide
        · split at refused
          · obtain rfl := Except.error.inj refused
            decide
          · split at refused
            · obtain rfl := Except.error.inj refused
              decide
            · split at refused
              · obtain rfl := Except.error.inj refused
                decide
              · cases refused

/-- A reading whose swing, resistance and pattern hold. -/
theorem pattern_of_clean {read : FlowReading} {swung : Rules}
    (same : read.consumed.trigger = read.trigger)
    (h : evaluateSwing command evidence read.snapshot read.series15m.bars read.consumed read.atr15m
      read.atr4h rules params = .ok swung) (clean : swung.Clean) :
    ∃ full : Reading, full.toFlowReading = read ∧
      PatternConfirms command evidence params full := by
  unfold evaluateSwing at h
  rw [same] at h
  obtain ⟨windowStart, window, h⟩ := bind_eq_ok.mp h
  split at h
  · obtain rfl := Except.ok.inj h
    exact absurd clean (failRemainingPattern_unclean (by simp))
  · rename_i swing found
    split at h
    · rename_i reason refused
      obtain rfl := Except.ok.inj h
      refine absurd clean (failRemainingPattern_unclean fun isOpen => ?_)
      exact selectResistance_ne refused (RuleResult.open_fail.mp isOpen)
    · rename_i resistance chosen
      unfold evaluatePattern at h
      rw [same] at h
      obtain ⟨volume, volumeEq, h⟩ := bind_eq_ok.mp h
      obtain ⟨cvdT, cvdTEq, h⟩ := bind_eq_ok.mp h
      obtain ⟨cvdS, cvdSEq, h⟩ := bind_eq_ok.mp h
      obtain rfl := Except.ok.inj h
      simp only [clean_record] at clean
      obtain ⟨imbalance, divergence, volumeOpen, sweep, context, -⟩ := clean
      obtain rfl := volume_of_open volumeEq volumeOpen
      exact ⟨⟨read, windowStart, swing, resistance, cvdT, cvdS⟩, rfl, {
        window
        swing := found
        resistance := chosen
        context := by simpa using context
        sweep := sweep_of_open sweep
        volume := volumeEq
        cvdT := cvdTEq
        cvdS := cvdSEq
        divergence := by simpa using divergence
        imbalance := by simpa using imbalance }⟩

def swingPasses (rules : Rules) : Rules :=
  (((((((rules.record (.pass .confirmedSwingHigh (some .swing))).record
    (.pass .manual4hResistance (some .structural))).record
    (.pass .htfResistanceContext (some .structural))).record
    (.pass .ltfLiquiditySweep (some .trigger))).record
    (.pass .volumeSpike (some .volume))).record
    (.pass .bearishCvdDivergence (some .cvdWindow))).record
    (.pass .aggressiveSellImbalance (some .signedFlow)))

theorem evaluateSwing_of {read : Reading} (same : read.consumed.trigger = read.trigger)
    (confirms : PatternConfirms command evidence params read) :
    evaluateSwing command evidence read.snapshot read.series15m.bars read.consumed read.atr15m
      read.atr4h rules params = .ok (swingPasses rules) := by
  unfold evaluateSwing evaluatePattern
  simp only [same, confirms.window, confirms.swing, confirms.resistance, confirms.volume,
    confirms.cvdT, confirms.cvdS, sweepRule, confirms.sweep, ok_bind,
    RuleResult.check_of confirms.context, RuleResult.check_of confirms.divergence,
    RuleResult.check_of confirms.imbalance]
  rfl

/-! ## Freshness and flow -/

theorem failPatternRules_unclean {result : RuleResult} {keepExisting : Bool}
    (failed : ¬ result.Open) :
    ¬ (failPatternRules (rules.record result) keepExisting).Clean := by
  intro clean
  exact failed (clean_record.mp ((failPatternRules_extends keepExisting).clean clean)).1

theorem consumeFlow_trigger {snapshot : TradeStreamSnapshot} {series15m : List OhlcvBar}
    {trigger : OhlcvBar} {consumed : ConsumedFlow}
    (h : consumeFlow runtime command snapshot series15m (some trigger) evaluated = .ok consumed) :
    consumed.trigger = trigger := by
  unfold consumeFlow at h
  obtain ⟨closed, -, h⟩ := bind_eq_ok.mp h
  obtain ⟨cvd, -, h⟩ := bind_eq_ok.mp h
  obtain ⟨flow, -, h⟩ := bind_eq_ok.mp h
  split at h
  · obtain ⟨terminal, -, h⟩ := bind_eq_ok.mp h
    obtain ⟨_, -, h⟩ := bind_eq_ok.mp h
    obtain rfl := Except.ok.inj h
    rfl
  · obtain rfl := Except.ok.inj h
    rfl

theorem flowFailure_unopen {e : SeriesError} {result : RuleResult}
    (h : flowFailure e = .ok result) : ¬ result.Open := by
  obtain ⟨ruleId, -, reason, role, failed, rfl⟩ := flowFailure_cases h
  exact fun isOpen => failed (RuleResult.open_fail.mp isOpen)

theorem expiry_of_clean {trigger : OhlcvBar} {atr15m : ℚ}
    (clean : (evaluateExpiryInvalidation trigger evidence atr15m rules params).Clean) :
    ¬ Invalidated trigger evidence.subsequentFinal15m
        (invalidationPrice trigger evidence.tickSize atr15m params) ∧
      ¬ Elapsed trigger evidence.subsequentFinal15m params ∧ rules.Clean := by
  unfold evaluateExpiryInvalidation at clean
  simp only [clean_record, RuleResult.open_check] at clean
  obtain ⟨current, valid, clean⟩ := clean
  exact ⟨by simpa using valid, by simpa using current, clean⟩

theorem flow_of_clean {read : SeriesReading}
    (pending : ∀ ruleId ∈ patternRuleIds, rules.Pending ruleId)
    (h : evaluateFreshnessAndFlow runtime command evidence read.series15m.bars (some read.trigger)
      evaluated rules (some read.atr15m) (some read.atr4h) params = .ok later)
    (clean : later.Clean) :
    ∃ full : Reading, full.toSeriesReading = read ∧
      FlowConfirms runtime command evidence evaluated params full := by
  unfold evaluateFreshnessAndFlow at h
  split at h
  · rename_i missing
    extract_lets afterFreshness afterGap afterWarmup at h
    obtain rfl := Except.ok.inj h
    have still := (failPatternRules_extends false).clean clean
    have gap : afterGap.Clean := by
      unfold afterWarmup at still
      split at still
      · exact (clean_record.mp still).2
      · exact still
    simp [afterGap, afterFreshness] at gap
  · rename_i snapshot present
    extract_lets afterFreshness at h
    split at h
    · obtain ⟨failure, failed, h⟩ := bind_eq_ok.mp h
      obtain rfl := Except.ok.inj h
      exact absurd clean (failPatternRules_unclean (flowFailure_unopen failed))
    · rename_i consumed found
      have same := consumeFlow_trigger found
      have fresh : ¬ StaleObservation command ∧ afterFreshness = rules := by
        have untouched : ∀ ruleId ∈ patternRuleIds, afterFreshness.Pending ruleId := by
          intro ruleId mem
          unfold afterFreshness
          split
          · rw [Pending, get_record_of_ne (by rintro rfl; simp [patternRuleIds] at mem)]
            exact pending ruleId mem
          · exact pending ruleId mem
        have still := (evaluateConsumed_extends untouched h).clean clean
        unfold afterFreshness at still ⊢
        split at still
        · simp at still
        · rename_i fresh
          exact ⟨fresh, if_neg fresh⟩
      unfold evaluateConsumed at h
      rw [same] at h
      obtain ⟨bindings, bound, h⟩ := bind_eq_ok.mp h
      split at h
      · obtain rfl := Except.ok.inj h
        exact absurd clean (failPatternRules_unclean (by simp))
      · rename_i free
        extract_lets afterPass afterGap at h
        obtain ⟨swung, swing, h⟩ := bind_eq_ok.mp h
        obtain rfl := Except.ok.inj h
        obtain ⟨valid, current, swungClean⟩ := expiry_of_clean clean
        obtain ⟨⟨_, windowStart, pivot, resistance, cvdT, cvdS⟩, rfl, pattern⟩ :=
          @pattern_of_clean _ _ _ _ ⟨read, snapshot, consumed, bindings⟩ _ same swing swungClean
        exact ⟨⟨⟨read, snapshot, consumed, bindings⟩, windowStart, pivot, resistance, cvdT, cvdS⟩,
          rfl, {
          snapshot := present
          fresh := fresh.1
          consumed := found
          bindings := bound
          bound := free
          pattern, valid, current }⟩

def flowPasses (rules : Rules) : Rules :=
  ((swingPasses ((rules.record (.pass .freshness (some .tradeEvent))).record
    (.pass .noUnresolvedGap (some .cvdWindow)))).record (.pass .notInvalidated none)).record
    (.pass .notExpired none)

theorem evaluateFreshnessAndFlow_of {read : Reading} (freshness : rules.Pending .freshness)
    (gap : rules.Pending .noUnresolvedGap)
    (confirms : FlowConfirms runtime command evidence evaluated params read) :
    evaluateFreshnessAndFlow runtime command evidence read.series15m.bars (some read.trigger)
      evaluated rules (some read.atr15m) (some read.atr4h) params = .ok (flowPasses rules) := by
  have same := consumeFlow_trigger confirms.consumed
  have gap' : (rules.record (.pass .freshness (some .tradeEvent))).Pending .noUnresolvedGap := by
    rwa [Pending, get_record_of_ne (by simp)]
  unfold evaluateFreshnessAndFlow
  rw [confirms.snapshot]
  dsimp only
  rw [if_neg confirms.fresh, confirms.consumed]
  dsimp only
  unfold evaluateConsumed
  rw [same, confirms.bindings, ok_bind, confirms.bound]
  dsimp only
  rw [if_pos freshness, if_pos gap', evaluateSwing_of same confirms.pattern, ok_bind]
  unfold evaluateExpiryInvalidation
  dsimp only
  rw [RuleResult.check_of confirms.valid, RuleResult.check_of confirms.current]
  rfl

/-! ## Gates -/

theorem gate_of_clean {gate : Except MarketError Unit} (h : recordGate rules gate = .ok later)
    (clean : later.Clean) : gate = .ok ⟨⟩ ∧ rules.Clean := by
  unfold recordGate at h
  split at h
  · obtain rfl := Except.ok.inj h
    exact ⟨rfl, clean⟩
  · split at h
    · obtain rfl := Except.ok.inj h
      have := RuleResult.open_fail.mp (clean_record.mp clean).1
      split at this <;> simp at this
    · cases h

/-- What the two reads of a series give. -/
theorem requireBothSeries_bars {bars15m bars4h : List OhlcvBar}
    {series15m series4h : ClosedOhlcvSeries}
    (h : requireBothSeries command bars15m bars4h evaluated = .ok (series15m, series4h)) :
    (series15m.bars ≠ [] ∧ ∀ bar ∈ series15m.bars, bar.finality = .final) ∧
      series4h.bars ≠ [] ∧ ∀ bar ∈ series4h.bars, bar.finality = .final := by
  unfold requireBothSeries at h
  obtain ⟨first, firstEq, h⟩ := bind_eq_ok.mp h
  obtain ⟨second, secondEq, h⟩ := bind_eq_ok.mp h
  obtain ⟨rfl, rfl⟩ := Prod.mk.inj (Except.ok.inj h)
  have closed {bars : List OhlcvBar} {identity : EvidenceMarketIdentity} {timeframe : Timeframe}
      {minBars : Nat} {series : ClosedOhlcvSeries} (some_ : 0 < minBars)
      (read : requireClosedSeries bars identity timeframe evaluated minBars = .ok series) :
      series.bars ≠ [] ∧ ∀ bar ∈ series.bars, bar.finality = .final := by
    obtain ⟨same, enough, final⟩ := requireClosedSeries_bars some_ read
    rw [same]
    refine ⟨fun empty => ?_, fun bar mem => final bar (List.mem_of_mem_drop mem)⟩
    have := List.drop_eq_nil_iff.mp empty
    omega
  exact ⟨closed (by decide) firstEq, closed (by decide) secondEq⟩

/-! ## Evaluations -/

/-- The reasons that the evaluators read leave one that none of them does. -/
theorem identityReason_cases {reason : String}
    (given : identityReason runtime command = some reason) :
    reason = "wrong_venue_or_market" ∨ reason = "forming_evidence" ∨
      reason = "missing_required_evidence" ∨ reason = "market_disqualifier" := by
  unfold identityReason at given
  split at given
  · cases given
  · rename_i e refused
    obtain rfl := Option.some.inj given
    cases e <;> simp [classifyContractError]

theorem passed_of_confirmed {previous : Option SignalFusion.SetupAssessmentState}
    (h : (resolveState rules previous).1 = .confirmedSetup) : ∀ ruleId, rules.Passed ruleId := by
  intro ruleId
  unfold resolveState at h
  split at h
  · split at h <;> cases h
  · split at h
    · cases h
    · split at h
      · cases h
      · split at h
        · rename_i passed
          exact passed ruleId (mem_firstSliceRuleIds ruleId)
        · split at h <;> cases h

theorem exists_confirms {evaluation : Evaluation}
    (h : evaluateRules runtime policy command evidence evaluated params marketSymbol =
      .ok evaluation) (passed : ∀ ruleId, evaluation.rules.Passed ruleId) :
    ∃ read, Confirms runtime policy command evidence evaluated params marketSymbol read := by
  obtain ⟨stages⟩ := exists_stages h
  have clean := clean_of_passed stages.monotone passed
  have depth : .orderBook ∉ policy.requiredRoles := by
    rw [stages.rules_eq] at clean
    intro mem
    rw [if_pos mem] at clean
    simp at clean
  obtain ⟨orderFlow, clean⟩ := gate_of_clean stages.orderFlow_eq (stages.rules_extends.clean clean)
  obtain ⟨derivatives, clean⟩ := gate_of_clean stages.derivatives_eq clean
  have boundClean := stages.flow_extends.clean clean
  have clean4h := stages.bound_extends.clean boundClean
  have clean15m := stages.atr4h_extends.clean clean4h
  have seriesClean := stages.atr15m_extends.clean clean15m
  have identifiedClean := stages.series_extends.clean seriesClean
  have agrees := policyReason_of_clean (stages.identified_extends.clean identifiedClean)
  rw [stages.identified_eq] at identifiedClean
  obtain ⟨market, wrong, forming, missing⟩ := marketConfirms_of_clean identifiedClean
  obtain ⟨closed, series15m, series4h, series, same15m, same4h⟩ :=
    series_of_clean stages.series_eq seriesClean
  obtain ⟨atr15m, atr15mEq, computed15m⟩ := atr_of_clean stages.atr15m_eq clean15m
  obtain ⟨atr4h, atr4hEq, computed4h⟩ := atr_of_clean stages.atr4h_eq clean4h
  rw [stages.bound_eq] at boundClean
  obtain ⟨trigger, last, named⟩ := trigger_of_clean boundClean
  have flow := stages.flow_eq
  rw [same15m] at last
  rw [same15m, last, atr15mEq, atr4hEq] at flow
  obtain ⟨⟨⟨_, snapshot, consumed, bindings⟩, windowStart, swing, resistance, cvdT, cvdS⟩, rfl,
      flowConfirms⟩ :=
    @flow_of_clean _ _ _ _ _ _ _ ⟨series15m, series4h, atr15m, atr4h, trigger⟩
      (fun _ => stages.pending_bound) flow clean
  refine ⟨_, {
    agrees, market, closed, series
    unread := fun reason given => ?_
    atr15m := same15m ▸ computed15m
    atr4h := same4h ▸ computed4h
    last := last
    named := named
    flow := flowConfirms
    derivatives := derivatives
    orderFlow := by rwa [same15m, last] at orderFlow
    depth := depth }⟩
  rcases identityReason_cases given with rfl | rfl | rfl | rfl
  · exact absurd given wrong
  · exact absurd given forming
  · exact absurd given missing
  · rfl

/-- Where a reading confirms, every rule is written passed. -/
theorem evaluateRules_of {read : Reading}
    (confirms : Confirms runtime policy command evidence evaluated params marketSymbol read) :
    ∃ evaluation, evaluateRules runtime policy command evidence evaluated params marketSymbol =
      .ok evaluation ∧ ∀ ruleId, evaluation.rules.Passed ruleId := by
  have atrs := requireBothSeries_bars confirms.series
  unfold evaluateRules
  dsimp only
  rw [recordPolicy_of confirms.agrees, evaluateMarketIdentity_of confirms.market confirms.unread,
    evaluateSeries_of confirms.closed confirms.series (by rfl) (by rfl)]
  simp only [ok_bind]
  rw [evaluateAtr_of atrs.1.1 atrs.1.2 confirms.atr15m]
  simp only [ok_bind]
  rw [evaluateAtr_of atrs.2.1 atrs.2.2 confirms.atr4h]
  simp only [ok_bind]
  rw [confirms.last, evaluateTriggerBinding_of confirms.named,
    evaluateFreshnessAndFlow_of (by rfl) (by rfl) confirms.flow]
  simp only [ok_bind, confirms.derivatives, recordGate, Option.map_some, confirms.orderFlow]
  rw [if_neg confirms.depth]
  refine ⟨_, rfl, fun ruleId => ?_⟩
  cases ruleId <;> rfl

theorem confirmed_of_passed {previous : Option SignalFusion.SetupAssessmentState}
    (passed : ∀ ruleId, rules.Passed ruleId) :
    (resolveState rules previous).1 = .confirmedSetup := by
  have all : ∀ ruleIds, AllPassed rules ruleIds := fun _ ruleId _ => passed ruleId
  unfold resolveState
  rw [if_neg (not_not.mpr (all _)), if_neg fun ⟨failed, _⟩ => failed (passed _),
    if_neg fun ⟨failed, _⟩ => failed (passed _), if_pos (all _)]

section Setup

variable {previous : Option SetupAssessment} {given : Option FirstSliceEvaluationParams}
  {symbol : Option String} {assessment : SetupAssessment}

/-- The assessment is built from the table of an evaluation. -/
theorem exists_evaluation
    (h : evaluateSetup runtime policy command evidence evaluated previous given symbol =
      .ok assessment) :
    ∃ evaluation, evaluateRules runtime policy command evidence evaluated
        (resolveEvaluationParams given) (resolveMarket runtime symbol) = .ok evaluation ∧
      assessment = buildAssessment runtime policy command evidence evaluated previous
        (resolveEvaluationParams given) evaluation := by
  obtain ⟨evaluation, evaluated, h⟩ := bind_eq_ok.mp h
  exact ⟨evaluation, evaluated, (Except.ok.inj h).symm⟩

/-- A setup is confirmed exactly where some reading of the evidence confirms it. -/
theorem confirmed_iff
    (h : evaluateSetup runtime policy command evidence evaluated previous given symbol =
      .ok assessment) :
    assessment.state = .confirmedSetup ↔ ∃ read, Confirms runtime policy command evidence evaluated
      (resolveEvaluationParams given) (resolveMarket runtime symbol) read := by
  obtain ⟨evaluation, found, rfl⟩ := exists_evaluation h
  refine ⟨fun confirmed => exists_confirms found (passed_of_confirmed confirmed), ?_⟩
  rintro ⟨read, confirms⟩
  obtain ⟨other, again, passed⟩ := evaluateRules_of confirms
  obtain rfl := Except.ok.inj (found.symm.trans again)
  exact confirmed_of_passed passed

/-- Where a reading confirms, an assessment is returned, and it is confirmed. -/
theorem confirmed_of (previous : Option SetupAssessment) {read : Reading}
    (confirms : Confirms runtime policy command evidence evaluated
      (resolveEvaluationParams given) (resolveMarket runtime symbol) read) :
    ∃ assessment, evaluateSetup runtime policy command evidence evaluated previous given symbol =
        .ok assessment ∧ assessment.state = .confirmedSetup := by
  obtain ⟨evaluation, found, passed⟩ := evaluateRules_of confirms
  refine ⟨buildAssessment runtime policy command evidence evaluated previous
    (resolveEvaluationParams given) evaluation, ?_, confirmed_of_passed passed⟩
  exact bind_eq_ok.mpr ⟨evaluation, found, rfl⟩

end Setup

/-! ## A setup -/

theorem orderedBars_of_sorted {bars : List OhlcvBar} {timeframe : Timeframe}
    (own : ∀ bar ∈ bars, bar.timeframe = timeframe)
    (sorted : bars.Pairwise fun a b => a.intervalStart < b.intervalStart) :
    orderedBars bars timeframe = bars := by
  unfold orderedBars
  rw [List.filter_eq_self.mpr (by simpa using own)]
  refine List.Pairwise.insertionSort_eq (sorted.imp fun {a b} lt => ?_)
  exact (Prod.Lex.lt_iff.mpr (.inl lt)).le

/-- Closed candles are in the order of the evaluation. -/
theorem orderedBars_of_closed {bars : List OhlcvBar} {timeframe : Timeframe}
    {identity : EvidenceMarketIdentity}
    (closed : assertClosedSeriesBars identity timeframe bars = .ok ⟨⟩) :
    orderedBars bars timeframe = bars := by
  obtain ⟨-, -, each, -, contiguous⟩ := assertClosedSeriesBars_eq_ok.mp closed
  have : IsTrans OhlcvBar fun a b => a.intervalStart < b.intervalStart :=
    ⟨fun _ _ _ => lt_trans⟩
  refine orderedBars_of_sorted (fun bar mem => (each bar mem).2.1)
    (List.isChain_iff_pairwise.mp (contiguous.imp fun {a b} meets => ?_))
  rw [meets]
  exact a.intervalStart_lt_intervalEnd

def setupInstrument : InstrumentIdentity :=
  { sampleInstrument with instrumentId := "binance:usdm_futures:perpetual:BTCUSDT" }

def setupIdentity (timeframe : Timeframe) : EvidenceMarketIdentity :=
  { sampleIdentity with
    instrument := setupInstrument
    timeframe := some timeframe
    sameVenue := rfl
    sameMarket := rfl }

/-- A candle four units high. -/
def setupFields (timeframe : Timeframe) (index : Nat) (low body volume : ℚ) : OhlcvFields where
  instrument := setupInstrument
  timeframe := timeframe
  intervalStart := index * intervalTimedelta timeframe
  intervalEnd := index * intervalTimedelta timeframe + intervalTimedelta timeframe
  openPrice := low + body
  high := low + 4
  low := low
  close := low + 1
  baseVolume := volume
  quoteVolume := volume
  tradeCount := none
  sourceEventId := timeframe.value ++ ":" ++ toString index
  providerComplete := true
  finality := .final
  revision := 1
  sourceTime := index * intervalTimedelta timeframe
  adapterVersion := "adapter/v1"
  contentHash := timeframe.value ++ ":" ++ toString index

theorem setupFields_valid (timeframe : Timeframe) (index : Nat) {low body volume : ℚ}
    (low_pos : 0 < low) (body_nonneg : 0 ≤ body) (body_le : body ≤ 4) (volume_nonneg : 0 ≤ volume) :
    (setupFields timeframe index low body volume).Valid where
  low_pos := low_pos
  low_le_open := by simpa [setupFields] using body_nonneg
  low_le_close := by simp [setupFields]
  open_le_high := by simpa [setupFields] using body_le
  close_le_high := by norm_num [setupFields]
  baseVolume_nonneg := volume_nonneg
  quoteVolume_nonneg := volume_nonneg
  interval := rfl
  revision_pos := le_rfl

def quietBar (timeframe : Timeframe) (index : Nat) : OhlcvBar :=
  ⟨setupFields timeframe index 100 1 100,
    setupFields_valid timeframe index (by norm_num) (by norm_num) (by norm_num) (by norm_num)⟩

def setupSwing : OhlcvBar :=
  ⟨setupFields .m15 470 101 1 100,
    setupFields_valid .m15 470 (by norm_num) (by norm_num) (by norm_num) (by norm_num)⟩

def setupTrigger : OhlcvBar :=
  ⟨setupFields .m15 479 103 2 200,
    setupFields_valid .m15 479 (by norm_num) (by norm_num) (by norm_num) (by norm_num)⟩

def setupBars15m : List OhlcvBar :=
  (List.range' 380 90).map (quietBar .m15) ++ setupSwing ::
    (List.range' 471 8).map (quietBar .m15) ++ [setupTrigger]

def setupBars4h (shift : Nat) : List OhlcvBar := (List.range' shift 30).map (quietBar .h4)

def setupFlow : ClosedBarFlow where
  intervalStart := setupTrigger.intervalStart
  intervalEnd := setupTrigger.intervalEnd
  signedQuoteDelta := -50
  totalQuoteVolume := 100
  buyQuoteVolume := 25
  sellQuoteVolume := 75
  buyBaseVolume := none
  sellBaseVolume := none
  eventCount := 4
  eventTimeMax := setupTrigger.intervalEnd - seconds 1
  terminalPrice := 104

def setupTape : ReleasedTradeTape where
  windowStart := barLookbackStart setupTrigger firstSliceCvdLookbackBars
  windowEnd := setupTrigger.intervalEnd
  tradeSetHash := "trades"
  eventSetHash := "events"
  eventCount := 4
  signedQuoteDelta := -50
  totalQuoteVolume := 100
  firstTradeId := "1"
  lastTradeId := "4"
  firstSequence := 1
  lastSequence := 4
  eventTimeMax := setupTrigger.intervalEnd - seconds 1
  receiveTimeMax := setupTrigger.intervalEnd
  terminalPrice := 104
  bars := [setupFlow]

def setupSnapshot : TradeStreamSnapshot where
  cursor := {
    identity := setupIdentity .m15
    connectionIdentity := 1
    lastEventId := some "4"
    lastSequence := some 4
    lastEventAt := some setupTape.eventTimeMax
    reconnectState := .continuous
    gapState := .none
    warmUpStatus := .complete }
  trades := []
  coverage := {
    identity := setupIdentity .m15
    requestedStart := setupTape.windowStart
    requestedEnd := setupTape.windowEnd
    actualCoveredStart := some setupTape.windowStart
    actualCoveredEnd := some setupTape.windowEnd
    gapState := .none
    completeness := .complete
    firstTradeId := some setupTape.firstTradeId
    lastTradeId := some setupTape.lastTradeId
    firstSequence := some setupTape.firstSequence
    lastSequence := some setupTape.lastSequence
    tradeSetHash := setupTape.tradeSetHash
    policyVersion := tradeWindowCoveragePolicyVersion
    lineageId := 1
    contentHash := "trades" }
  usable := true
  releasedTape := some setupTape

def setupRuntime : FusionRuntime where
  nfc text := text
  nfc_ascii _ _ := rfl
  sha256 text := text
  trade content := content.venueTradeId
  coverage content := content.tradeSetHash
  cvd content := "cvd:" ++ content.eventSetHash
  signedFlow content := "flow:" ++ content.coverageContentHash
  derivative content := content.units
  orderFlow content := content.baseUnits
  orderFlowSeries _ _ := "series"
  observation _ := sampleHash
  observationId _ _ revision := revision
  windowSha256 preimage := preimage.fusionPolicyVersion
  failClosedSha256 preimage := preimage.reason
  uuid5 text := text.length
  uuidText identifier := toString identifier
  isoformat _ := "1970-01-06T00:00:05+00:00"
  strip text := text
  upper text := text
  isalnum text := text.toList.all Char.isAlphanum

def setupObservation (timeframe : Timeframe) (observationType : ObservationType)
    (payload : String) (finality : Finality) (observationId : Nat) : PublicMarketObservation where
  identity := setupIdentity timeframe
  observationType := observationType
  sourceEventId := payload
  intervalStart := none
  intervalEnd := none
  eventTime := setupTrigger.intervalEnd
  sourceTime := setupTrigger.intervalEnd
  finality := finality
  revision := 1
  freshnessState := .fresh
  payloadContentHash := payload
  observationId := observationId
  observedAt := setupTrigger.intervalEnd
  receiveTime := setupTrigger.intervalEnd
  contentHash := sampleHash
  recordedAt := setupTrigger.intervalEnd

def setupLevel : ManualResistanceEvidence where
  ref := ⟨1, 1, sampleHash⟩
  price := 105
  timeframe := .h4
  effectiveAt := 0
  valid := true
  venue := .binance
  marketType := .perpetual
  instrumentId := setupInstrument.instrumentId
  price_pos := by norm_num

/-- A command with a finality for the observation of its trigger. -/
def setupCommand (finality : Finality) : AssessmentCommand where
  organizationId := 1
  strategyVersionId := 2
  executableSetup := ⟨3, sampleHash⟩
  fusionPolicyVersion := defaultFusionPolicyVersion
  finalityPolicyVersion := "finality/v1"
  freshnessPolicyVersion := "freshness/v1"
  direction := .short
  evidenceIdentity := setupIdentity .m15
  interval := sampleInterval
  trigger := ⟨setupTrigger.sourceEventId, 1⟩
  mandatoryEvidenceRoles := [.triggerOhlcv]
  publicObservations := [
    setupObservation .m15 .ohlcv setupTrigger.contentHash finality 1,
    setupObservation .h4 .ohlcv (quietBar .h4 29).contentHash .final 2,
    setupObservation .m15 .cvd "cvd:events" .final 3,
    setupObservation .m15 .volume "flow:trades" .final 4,
    setupObservation .m15 .trade "trades" .final 5]
  selectedRoles := [.triggerOhlcv, .contextOhlcv, .cvdWindow, .signedFlow, .tradeEvent]
  tenantAssertions := []
  assertionRoles := []
  requiredAssertionRoles := []
  identityAssertionRoles := []
  roleTimeframes := firstSliceRoleTimeframes
  manualLevelRevision := some setupLevel.ref
  sourceSet := []
  correctionSelectionPolicy := defaultCorrectionSelectionPolicy
  adapterKind := .watcher
  scanId := none
  actionId := none
  correlationId := none
  presentationEvidence := []

theorem firstSliceRoleTimeframes_boundOnce :
    (firstSliceRoleTimeframes.map (·.role)).Nodup := by decide

def setupPolicy (required : EvidenceRole) : FusionPolicy where
  policyVersion := defaultFusionPolicyVersion
  organizationId := 1
  strategyVersionId := 2
  executableSetup := ⟨3, sampleHash⟩
  requiredRoles := [required]
  roleTimeframes := firstSliceRoleTimeframes
  confirmationScore := 1
  freshnessPolicyVersion := "freshness/v1"
  finalityPolicyVersion := "finality/v1"
  correctionSelectionPolicy := defaultCorrectionSelectionPolicy
  required := List.cons_ne_nil _ _
  boundOnce := firstSliceRoleTimeframes_boundOnce

def setupEvidence (shift : Nat) (subsequent : List OhlcvBar) : FirstSliceEvidenceBundle where
  bars15m := setupBars15m
  bars4h := setupBars4h shift
  snapshot := some setupSnapshot
  resistances := [setupLevel]
  subsequentFinal15m := subsequent
  tickSize := 1 / 10
  marketIntelligence := []
  orderFlow := none
  tickSize_pos := by norm_num

def setupTime : Instant := setupTrigger.intervalEnd + seconds 5

theorem setupIds_nodup (timeframe : Timeframe) (start count : Nat) :
    ((List.range' start count).map fun index =>
      timeframe.value ++ ":" ++ toString index).Nodup := by
  refine (List.nodup_range' (s := start) (n := count)).map fun m n same => ?_
  have texts : (toString m).toList = (toString n).toList := by
    have := congrArg String.toList same
    simpa only [String.toList_append, List.append_cancel_left_eq] using this
  rw [Nat.toString_eq_ofList_toDigits, Nat.toString_eq_ofList_toDigits] at texts
  exact toDigits_injective (by simpa using texts)

theorem setupBars15m_closed :
    assertClosedSeriesBars (setupIdentity .m15) .m15 setupBars15m = .ok ⟨⟩ :=
  assertClosedSeriesBars_eq_ok.mpr ⟨by decide, by decide, by decide,
    setupIds_nodup .m15 380 100, by decide_cbv⟩

theorem setupBars15m_ordered : orderedBars setupBars15m .m15 = setupBars15m :=
  orderedBars_of_closed setupBars15m_closed

theorem setupBars4h_closed : ∀ shift ∈ [0, 1],
    assertClosedSeriesBars (setupIdentity .h4) .h4 (setupBars4h shift) = .ok ⟨⟩ := by
  intro shift mem
  refine assertClosedSeriesBars_eq_ok.mpr ⟨by decide, by decide, ?_, ?_, ?_⟩
  · revert shift; decide
  · rw [setupBars4h, List.map_map]
    exact setupIds_nodup .h4 shift 30
  · revert shift; decide

theorem setupBars4h_ordered (shift : Nat) (either : shift ∈ [0, 1]) :
    orderedBars (setupBars4h shift) .h4 = setupBars4h shift :=
  orderedBars_of_closed (setupBars4h_closed shift either)

theorem setup_symbol {bar : OhlcvBar} (same : bar.instrument = setupInstrument) :
    bar.instrument.providerSymbol.length ≤ 30 := by
  rw [same]
  decide

theorem setup_atr15m :
    computeWilderAtrV1 setupBars15m 14 = .ok (.ok (41428571428571429 / 10 ^ 16)) := by
  obtain ⟨-, -, -, -, contiguous⟩ := assertClosedSeriesBars_eq_ok.mp setupBars15m_closed
  have same : ∀ bar ∈ setupBars15m, bar.instrument = setupInstrument := by
    intro bar mem
    simp only [setupBars15m, List.mem_append, List.mem_cons, List.mem_map, List.not_mem_nil,
      or_false] at mem
    obtain (⟨_, -, rfl⟩ | rfl | ⟨_, -, rfl⟩) | rfl := mem <;> rfl
  rw [computeWilderAtrV1_of (fun bar mem => setup_symbol (same bar mem)) (by simp [setupBars15m])
    (by decide) contiguous (by decide) (by decide)]
  decide_cbv

theorem setup_atr4h : ∀ shift ∈ [0, 1],
    computeWilderAtrV1 (setupBars4h shift) 14 = .ok (.ok 4) := by
  intro shift mem
  obtain ⟨-, -, -, -, contiguous⟩ :=
    assertClosedSeriesBars_eq_ok.mp (setupBars4h_closed shift mem)
  have same : ∀ bar ∈ setupBars4h shift, bar.instrument = setupInstrument := by
    intro bar listed
    obtain ⟨_, -, rfl⟩ := List.mem_map.mp listed
    rfl
  rw [computeWilderAtrV1_of (fun bar mem => setup_symbol (same bar mem)) (by simp [setupBars4h])
    (by revert shift; decide) contiguous (by simp [setupBars4h]) (by decide)]
  revert shift
  decide_cbv


def setupConsumed : ConsumedFlow where
  trigger := setupTrigger
  cvd := {
    identity := setupIdentity .m15
    windowStart := setupTape.windowStart
    windowEnd := setupTape.windowEnd
    baseline := 0
    signedQuoteDelta := -50
    totalQuoteVolume := 100
    eventCount := 4
    firstTradeId := "1"
    lastTradeId := "4"
    eventSetHash := "events"
    coverageContentHash := "trades"
    eventTimeMax := setupTape.eventTimeMax
    contentHash := "cvd:events" }
  flow := {
    identity := setupIdentity .m15
    intervalStart := setupTrigger.intervalStart
    intervalEnd := setupTrigger.intervalEnd
    signedQuoteDelta := -50
    totalQuoteVolume := 100
    signedFlowRatio := -1 / 2
    buyQuoteVolume := 25
    sellQuoteVolume := 75
    eventCount := 4
    coverageContentHash := "trades"
    eventTimeMax := setupTape.eventTimeMax
    contentHash := "flow:trades" }

/-- A series of the command whose candles are closed. -/
theorem setupSeries_eq {timeframe : Timeframe} {bars : List OhlcvBar} {evaluated : Instant}
    {minBars : Nat} (positive : 0 < minBars) (exact : bars.length = minBars)
    (closed : assertClosedSeriesBars (setupIdentity timeframe) timeframe bars = .ok ⟨⟩) :
    requireClosedSeries bars (setupIdentity timeframe) timeframe evaluated minBars =
      .ok ⟨setupIdentity timeframe, timeframe, bars, evaluated, closed⟩ := by
  have whole : bars.drop (bars.length - minBars) = bars := by simp [exact]
  obtain ⟨perpetual, own, each, -⟩ := assertClosedSeriesBars_eq_ok.mp closed
  have read := @requireClosedSeries_of bars (setupIdentity timeframe) timeframe evaluated minBars
    positive perpetual own (fun bar mem => (each bar mem).2.2.1) exact.ge (whole.symm ▸ closed)
  rw [read]
  simp only [whole]

theorem setup_consumed {finality : Finality} :
    consumeFlow setupRuntime (setupCommand finality) setupSnapshot setupBars15m (some setupTrigger)
      setupTime = .ok setupConsumed := by
  have cvd : firstSliceCvdWindow setupRuntime.toFlowHashing (setupIdentity .m15)
      ⟨setupIdentity .m15, .m15, setupBars15m, setupTime, setupBars15m_closed⟩ setupSnapshot
      setupTime true = .ok setupConsumed.cvd := rfl
  have flow : barSignedQuoteFlow setupRuntime.toFlowHashing (setupIdentity .m15) setupTrigger
      setupSnapshot setupTime true = .ok setupConsumed.flow := by decide_cbv
  have live : liveConfirmationWindowOpen setupTrigger.intervalEnd setupTime = true := by decide
  have terminal : snapshotTerminalEventTime setupSnapshot = .ok setupTape.eventTimeMax := rfl
  have fresh : ∃ evaluation, evaluateFreshness setupTape.eventTimeMax setupTime
      firstSliceFreshnessPolicy true = .ok evaluation := ⟨_, rfl⟩
  obtain ⟨evaluation, fresh⟩ := fresh
  unfold consumeFlow
  dsimp only
  rw [show (setupCommand finality).evidenceIdentity = setupIdentity .m15 from rfl,
    setupSeries_eq (by decide) (by simp [setupBars15m, firstSliceMinFinal15m]) setupBars15m_closed]
  simp only [ok_bind, live, cvd, flow, raising, Except.mapError, terminal, fresh, if_true]
  rfl

/-- The candle of the context, also where the last candle ends behind the trigger. -/
theorem setup_context : ∀ shift ∈ [0, 1],
    contextBarForTrigger setupTrigger (setupBars4h shift) = some (quietBar .h4 29) := by
  intro shift mem
  unfold contextBarForTrigger
  rw [setupBars4h_ordered shift mem]
  revert shift
  decide_cbv

theorem setup_bindings : ∀ finality ∈ [Finality.final, .forming], ∃ bindings,
    consumedBindings (setupCommand finality) setupTrigger (some (quietBar .h4 29))
      setupConsumed.cvd.contentHash setupConsumed.flow.contentHash
      setupSnapshot.coverage.contentHash = .ok bindings ∧ unboundRole bindings = none := by
  intro finality mem
  refine ⟨_, rfl, ?_⟩
  revert finality
  decide

def setupWindowStart : Instant := barLookbackStart setupTrigger firstSliceCvdLookbackBars

def setupReading (series4h : ClosedOhlcvSeries) (bindings : List Binding) : Reading where
  series15m := ⟨setupIdentity .m15, .m15, setupBars15m, setupTime, setupBars15m_closed⟩
  series4h := series4h
  atr15m := 41428571428571429 / 10 ^ 16
  atr4h := 4
  trigger := setupTrigger
  snapshot := setupSnapshot
  consumed := setupConsumed
  bindings := bindings
  windowStart := setupWindowStart
  swing := ⟨90, 105, setupSwing⟩
  resistance := setupLevel
  cvdT := -50
  cvdS := 0

theorem setup_pattern {finality : Finality} {shift : Nat} {subsequent : List OhlcvBar}
    {series4h : ClosedOhlcvSeries} {bindings : List Binding} :
    PatternConfirms (setupCommand finality) (setupEvidence shift subsequent)
      defaultFirstSliceEvaluationParams (setupReading series4h bindings) where
  window := rfl
  swing := by
    change mostRecentConfirmedSwingHigh setupBars15m (some setupWindowStart) (some setupTrigger) =
      some ⟨90, 105, setupSwing⟩
    decide_cbv
  resistance := rfl
  context := by
    change |(105 : ℚ) - 105| ≤ 50 / 100 * 4
    norm_num
  sweep := by
    change sweepReason setupTrigger ⟨90, 105, setupSwing⟩ (41428571428571429 / 10 ^ 16) _ = none
    decide_cbv
  volume := by
    change volumeRule setupBars15m setupTrigger _ = _
    decide_cbv
  cvdT := by
    change signedQuoteDeltaUntil setupSnapshot setupWindowStart setupTrigger.intervalEnd 0 =
      .ok (-50)
    decide_cbv
  cvdS := by
    change signedQuoteDeltaUntil setupSnapshot setupWindowStart setupSwing.intervalEnd 0 = .ok 0
    decide_cbv
  divergence := by
    change (105 : ℚ) < setupTrigger.high ∧ (-50 : ℚ) < 0
    decide_cbv
  imbalance := by
    change setupConsumed.flow.signedFlowRatio ≤ _
    decide_cbv

def setupInvalidation : ℚ :=
  invalidationPrice setupTrigger (1 / 10) (41428571428571429 / 10 ^ 16)
    defaultFirstSliceEvaluationParams

theorem setup_fresh : ∀ finality ∈ [Finality.final, .forming],
    ¬ StaleObservation (setupCommand finality) := by
  decide

theorem setup_flow {shift : Nat} {subsequent : List OhlcvBar} {finality : Finality}
    (either : shift ∈ [0, 1]) (status : finality ∈ [Finality.final, .forming])
    (valid : ¬ Invalidated setupTrigger subsequent setupInvalidation)
    (current : ¬ Elapsed setupTrigger subsequent defaultFirstSliceEvaluationParams)
    (series4h : ClosedOhlcvSeries) :
    ∃ bindings, FlowConfirms setupRuntime (setupCommand finality) (setupEvidence shift subsequent)
      setupTime defaultFirstSliceEvaluationParams (setupReading series4h bindings) := by
  obtain ⟨bindings, found, bound⟩ := setup_bindings finality status
  refine ⟨bindings, {
    snapshot := rfl
    fresh := setup_fresh finality status
    consumed := setup_consumed
    bindings := ?_
    bound := bound
    pattern := setup_pattern
    valid := valid
    current := current }⟩
  change consumedBindings (setupCommand finality) setupTrigger
    (contextBarForTrigger setupTrigger (setupBars4h shift)) _ _ _ = _
  rw [setup_context shift either]
  exact found

theorem setup_agrees : ∀ required ∈ [EvidenceRole.triggerOhlcv, .structural],
    ∀ finality ∈ [Finality.final, .forming],
      policyReason (setupPolicy required) (setupCommand finality) = none := by
  decide

theorem setup_unread : ∀ finality ∈ [Finality.final, .forming],
    ∀ reason ∈ identityReason setupRuntime (setupCommand finality),
      reason = "market_disqualifier" := by
  decide

theorem setup_market (finality : Finality) :
    MarketConfirms setupRuntime (setupCommand finality) (resolveMarket setupRuntime none) where
  venue := .inl rfl
  market := rfl
  timeframe := rfl
  instrument := by
    change instrumentMatchesRequestedSymbol setupRuntime (setupIdentity .m15) firstSliceSymbol =
      true
    decide
  direct := rfl

/-- A confirmed setup, for a required role that the command does not have to declare, a trigger
observation that may be forming and a context that may end behind the evaluation. -/
theorem setup_confirms {required : EvidenceRole} {shift : Nat} {subsequent : List OhlcvBar}
    {finality : Finality} (role : required ∈ [EvidenceRole.triggerOhlcv, .structural])
    (either : shift ∈ [0, 1]) (status : finality ∈ [Finality.final, .forming])
    (valid : ¬ Invalidated setupTrigger subsequent setupInvalidation)
    (current : ¬ Elapsed setupTrigger subsequent defaultFirstSliceEvaluationParams) :
    ∃ read, Confirms setupRuntime (setupPolicy required) (setupCommand finality)
      (setupEvidence shift subsequent) setupTime (resolveEvaluationParams none)
      (resolveMarket setupRuntime none) read := by
  obtain ⟨bindings, flow⟩ := setup_flow either status valid current
    ⟨setupIdentity .h4, .h4, setupBars4h shift, setupTime, setupBars4h_closed shift either⟩
  have ordered15m : orderedBars (setupEvidence shift subsequent).bars15m .m15 = setupBars15m :=
    setupBars15m_ordered
  have ordered4h : orderedBars (setupEvidence shift subsequent).bars4h .h4 = setupBars4h shift :=
    setupBars4h_ordered shift either
  let read := setupReading
    ⟨setupIdentity .h4, .h4, setupBars4h shift, setupTime, setupBars4h_closed shift either⟩ bindings
  have series : requireBothSeries (setupCommand finality) setupBars15m (setupBars4h shift)
      setupTime = .ok (read.series15m, read.series4h) := by
    unfold requireBothSeries
    rw [show (setupCommand finality).evidenceIdentity = setupIdentity .m15 from rfl,
      setupSeries_eq (by decide) (by simp [setupBars15m, firstSliceMinFinal15m])
        setupBars15m_closed]
    change (do
      let series4h ← requireClosedSeries (setupBars4h shift) (setupIdentity .h4) .h4 setupTime 30
      return (_, series4h)) = _
    rw [setupSeries_eq (by decide) (by simp [setupBars4h]) (setupBars4h_closed shift either)]
    rfl
  have closed : ∀ bar ∈ setupBars15m ++ setupBars4h shift, bar.Closed := by
    intro bar mem
    rcases List.mem_append.mp mem with mem | mem
    · exact ((assertClosedSeriesBars_eq_ok.mp setupBars15m_closed).2.2.1 bar mem).2.2
    · exact ((assertClosedSeriesBars_eq_ok.mp (setupBars4h_closed shift either)).2.2.1 bar mem).2.2
  have last : setupBars15m.getLast? = some setupTrigger := List.getLast?_concat
  have named : setupTrigger.sourceEventId = (setupCommand finality).trigger.naturalEventId ∧
      setupTrigger.revision = (setupCommand finality).trigger.revision := by
    simp only [setupCommand]
    exact ⟨trivial, rfl⟩
  have derivatives : requireDerivatives setupRuntime (setupPolicy required) (setupCommand finality)
      (setupEvidence shift subsequent) setupTime = .ok ⟨⟩ := by
    simp only [List.mem_cons, List.not_mem_nil, or_false] at role
    rcases role with rfl | rfl <;> rfl
  have orderFlow : requireBoundOrderFlow setupRuntime (setupEvidence shift subsequent).orderFlow
      (setupCommand finality) (setupPolicy required).requiredRoles setupTime
      (some setupTrigger.intervalEnd) = .ok ⟨⟩ := by
    simp only [List.mem_cons, List.not_mem_nil, or_false] at role
    rcases role with rfl | rfl <;> rfl
  have depth : .orderBook ∉ (setupPolicy required).requiredRoles := by
    simp only [List.mem_cons, List.not_mem_nil, or_false] at role
    rcases role with rfl | rfl <;> simp [setupPolicy]
  exact ⟨read,
    { agrees := setup_agrees required role finality status
      unread := setup_unread finality status
      market := setup_market finality
      closed := by rwa [ordered15m, ordered4h]
      series := by rw [ordered15m, ordered4h, series]
      atr15m := setup_atr15m
      atr4h := setup_atr4h shift either
      last := last
      named := named
      flow := flow
      derivatives := derivatives
      orderFlow := orderFlow
      depth := depth }⟩

end AlphaTrade.Fusion
