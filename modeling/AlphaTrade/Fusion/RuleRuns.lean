import AlphaTrade.Fusion.Evaluator

/-!
# What the evaluators write

Each evaluator is a run of writes to the rules that it names, and none of them passes a rule that
has failed.

## Main results

* `evaluateRules_monotone`: the table of every evaluation is monotone.
-/
namespace AlphaTrade.Fusion
open Library Market
open Execution (Instant)
open Rules

variable {runtime : FusionRuntime} {command : AssessmentCommand}
  {evidence : FirstSliceEvidenceBundle} {evaluated : Instant} {rules later : Rules}
  {params : FirstSliceEvaluationParams}

/-! ## Policy and identity -/

theorem policyReason_ne {policy : FusionPolicy} {reason : String}
    (found : policyReason policy command = some reason) : reason ≠ "not_evaluated" := by
  rintro rfl
  simp [policyReason, ite_eq_iff] at found

theorem recordPolicy_extends (policy : FusionPolicy) (pending : rules.Pending .policyCompatible) :
    Extends [.policyCompatible] rules (recordPolicy policy command rules) := by
  unfold recordPolicy
  split
  · exact Extends.refl.pass (by simp) pending
  · rename_i reason found
    exact Extends.refl.fail (by simp) (policyReason_ne found)

/-- The rules that the identity of the market decides. -/
abbrev identityRuleIds : List RuleId :=
  [.marketIdentity, .perpetualIdentity, .finalEvidence, .completeWarmup]

theorem evaluateMarketIdentity_extends {reason : Option String} {marketSymbol : String}
    (market : rules.Pending .marketIdentity) (perpetual : rules.Pending .perpetualIdentity) :
    Extends identityRuleIds rules
      (evaluateMarketIdentity runtime command rules reason marketSymbol) := by
  unfold evaluateMarketIdentity
  extract_lets identity venueOk marketOk timeframeOk fallbackUsed afterMarket perpetualOk
    afterPerpetual afterFinal
  have first : Extends [.marketIdentity] rules afterMarket := by
    unfold afterMarket
    split
    · exact Extends.refl.fail (by simp) (by decide)
    · split
      · exact Extends.refl.fail (by simp) (by decide)
      · exact Extends.refl.pass (by simp) market
  have still : afterMarket.Pending .perpetualIdentity := by
    unfold Pending
    rwa [first.get_eq (by decide)]
  have second : Extends [.perpetualIdentity] afterMarket afterPerpetual := by
    unfold afterPerpetual
    split
    · exact Extends.refl.fail (by simp) (by decide)
    · split
      · exact Extends.refl.fail (by simp) (by decide)
      · exact Extends.refl.pass (by simp) still
  have third : Extends [.finalEvidence] afterPerpetual afterFinal := by
    unfold afterFinal
    split
    · exact Extends.refl.fail (by simp) (by decide)
    · exact .refl
  have run : Extends identityRuleIds rules afterFinal :=
    ((first.mono (by simp)).trans (second.mono (by simp))).trans (third.mono (by simp))
  split
  · exact run.fail (by simp) (by decide)
  · exact run

/-! ## Series, average true range and trigger -/

/-- The rules that the series decide. -/
abbrev seriesRuleIds : List RuleId :=
  [.finalEvidence, .completeWarmup, .marketIdentity, .noUnresolvedGap]

theorem recordSeriesError_extends {e : SeriesError} (h : recordSeriesError rules e = .ok later) :
    Extends seriesRuleIds rules later := by
  unfold recordSeriesError at h
  split at h
  · obtain rfl := Except.ok.inj h
    exact (Extends.refl.fail (by simp) (by decide)).fail (by simp) (by decide)
  · obtain rfl := Except.ok.inj h
    exact (Extends.refl.fail (by simp) (by decide)).fail (by simp) (by decide)
  · obtain rfl := Except.ok.inj h
    exact (Extends.refl.fail (by simp) (by decide)).fail (by simp) (by decide)
  · split_ifs at h
    · obtain rfl := Except.ok.inj h
      exact Extends.refl.fail (by simp) (by decide)
    · obtain rfl := Except.ok.inj h
      exact Extends.refl.fail (by simp) (by decide)

theorem evaluateSeries_extends {series15m series4h : List OhlcvBar}
    (final : rules.Pending .finalEvidence ∨
      (rules.get .finalEvidence).reasonCode = some "forming_evidence")
    (h : evaluateSeries command evidence evaluated rules = .ok (series15m, series4h, later)) :
    Extends seriesRuleIds rules later := by
  unfold evaluateSeries at h
  extract_lets bars15m bars4h afterFinal at h
  have first : Extends seriesRuleIds rules afterFinal := by
    unfold afterFinal
    split
    · rename_i unformed
      exact Extends.refl.pass (by simp) (final.resolve_right unformed)
    · exact .refl
  split at h
  · simp only [Except.ok.injEq, Prod.mk.injEq] at h
    obtain ⟨-, -, rfl⟩ := h
    exact Extends.refl.fail (by simp) (by decide)
  · split at h
    · obtain ⟨written, recorded, same⟩ := bind_eq_ok.mp h
      simp only [pure, Except.pure, Except.ok.injEq, Prod.mk.injEq] at same
      obtain ⟨-, -, rfl⟩ := same
      exact first.trans (recordSeriesError_extends recorded)
    · simp only [Except.ok.injEq, Prod.mk.injEq] at h
      obtain ⟨-, -, rfl⟩ := h
      exact first.passIfPending (by simp)

theorem evaluateAtr_extends {bars : List OhlcvBar} {ruleId : RuleId} {period : Int}
    {value : Option ℚ} (pending : rules.Pending ruleId)
    (h : evaluateAtr bars ruleId rules period = .ok (value, later)) :
    Extends [ruleId] rules later := by
  unfold evaluateAtr at h
  split at h
  · cases h
    exact Extends.refl.fail (by simp) (by decide)
  · obtain ⟨feature, -, h⟩ := bind_eq_ok.mp h
    cases feature with
    | error reason =>
      cases h
      exact Extends.refl.record _ (by simp) fun _ => .inr pending
    | ok value =>
      cases h
      exact Extends.refl.pass (by simp) pending

theorem evaluateTriggerBinding_extends {trigger : Option OhlcvBar} :
    Extends [.finalEvidence, .completeWarmup] rules
      (evaluateTriggerBinding command trigger rules) := by
  unfold evaluateTriggerBinding
  split
  · exact Extends.refl.fail (by simp) (by decide)
  · split
    · exact Extends.refl.fail (by simp) (by decide)
    · exact .refl

/-! ## Pattern -/

theorem failPatternRules_extends (keepExisting : Bool) :
    Extends patternRuleIds rules (failPatternRules rules keepExisting) := by
  refine Extends.foldl (fun rules ruleId mem => ?_) _ (fun _ mem => mem) rules
  split
  · exact .refl
  · exact Extends.refl.fail mem (by decide)

/-- The rules that the pattern decides behind its resistance. -/
abbrev sweepRuleIds : List RuleId :=
  [.htfResistanceContext, .ltfLiquiditySweep, .volumeSpike, .bearishCvdDivergence,
    .aggressiveSellImbalance]

theorem failRemainingPattern_extends :
    Extends sweepRuleIds rules (failRemainingPattern rules) := by
  refine Extends.foldl (fun rules ruleId mem => ?_) _ (fun _ mem => mem) rules
  split
  · exact Extends.refl.fail mem (by decide)
  · exact .refl

theorem evaluateExpiryInvalidation_extends {trigger : OhlcvBar} {atr15m : ℚ}
    (invalidated : rules.Pending .notInvalidated) (expired : rules.Pending .notExpired) :
    Extends patternRuleIds rules
      (evaluateExpiryInvalidation trigger evidence atr15m rules params) := by
  unfold evaluateExpiryInvalidation
  refine (Extends.refl.check (by simp [patternRuleIds]) invalidated).check
    (by simp [patternRuleIds]) ?_
  rwa [Pending, get_record_of_ne (by simp)]

theorem volumeRule_ruleId {series15m : List OhlcvBar} {trigger : OhlcvBar} {result : RuleResult}
    (h : volumeRule series15m trigger params = .ok result) : result.ruleId = .volumeSpike := by
  unfold volumeRule at h
  extract_lets prior meanVolume at h
  split_ifs at h <;> (obtain rfl := Except.ok.inj h; simp)

theorem sweepRule_ruleId {trigger : OhlcvBar} {swing : ConfirmedSwingHigh} {atr15m : ℚ} :
    (sweepRule trigger swing atr15m params).ruleId = .ltfLiquiditySweep := by
  unfold sweepRule
  split <;> rfl

theorem evaluatePattern_extends {snapshot : TradeStreamSnapshot} {series15m : List OhlcvBar}
    {consumed : ConsumedFlow} {windowStart : Instant} {swing : ConfirmedSwingHigh}
    {resistance : ManualResistanceEvidence} {atr15m atr4h : ℚ}
    (pending : ∀ ruleId ∈ sweepRuleIds, rules.Pending ruleId)
    (h : evaluatePattern snapshot series15m consumed windowStart swing resistance atr15m atr4h
      rules params = .ok later) :
    Extends sweepRuleIds rules later := by
  unfold evaluatePattern at h
  obtain ⟨volume, volumeEq, h⟩ := bind_eq_ok.mp h
  obtain ⟨cvdT, -, h⟩ := bind_eq_ok.mp h
  obtain ⟨cvdS, -, h⟩ := bind_eq_ok.mp h
  cases h
  have volumeId := volumeRule_ruleId volumeEq
  have sweepId := @sweepRule_ruleId params consumed.trigger swing atr15m
  have context := pending .htfResistanceContext (by simp)
  have sweep := pending .ltfLiquiditySweep (by simp)
  have spike := pending .volumeSpike (by simp)
  have divergence := pending .bearishCvdDivergence (by simp)
  have imbalance := pending .aggressiveSellImbalance (by simp)
  refine ((((Extends.refl.check (by simp) context).record _ (by simp [sweepId]) fun _ => ?_).record
    _ (by simp [volumeId]) fun _ => ?_).check (by simp) ?_).check (by simp) ?_
  · refine .inr ?_
    rwa [sweepId, get_record_of_ne (by simp)]
  · refine .inr ?_
    rwa [volumeId, get_record_of_ne (by simp [sweepId]), get_record_of_ne (by simp)]
  · rwa [Pending, get_record_of_ne (by simp [volumeId]), get_record_of_ne (by simp [sweepId]),
      get_record_of_ne (by simp)]
  · rwa [Pending, get_record_of_ne (by simp), get_record_of_ne (by simp [volumeId]),
      get_record_of_ne (by simp [sweepId]), get_record_of_ne (by simp)]

/-- The rules that the swing and what lies behind it decide. -/
abbrev swingRuleIds : List RuleId := .confirmedSwingHigh :: .manual4hResistance :: sweepRuleIds

theorem evaluateSwing_extends {snapshot : TradeStreamSnapshot} {series15m : List OhlcvBar}
    {consumed : ConsumedFlow} {atr15m atr4h : ℚ}
    (pending : ∀ ruleId ∈ swingRuleIds, rules.Pending ruleId)
    (h : evaluateSwing command evidence snapshot series15m consumed atr15m atr4h rules params =
      .ok later) :
    Extends swingRuleIds rules later := by
  have swing := pending .confirmedSwingHigh (by simp)
  have manual := pending .manual4hResistance (by simp)
  unfold evaluateSwing at h
  obtain ⟨windowStart, -, h⟩ := bind_eq_ok.mp h
  split at h
  · cases h
    exact (Extends.refl.fail (by simp) (by decide)).trans
      (failRemainingPattern_extends.mono (by simp))
  · have first : Extends swingRuleIds rules
        (rules.record (.pass .confirmedSwingHigh (some .swing))) :=
      Extends.refl.pass (by simp) swing
    split at h
    · cases h
      rename_i reason chosen
      refine (first.record _ (by simp) fun _ => .inr ?_).trans
        (failRemainingPattern_extends.mono (by simp))
      rwa [RuleResult.ruleId_fail, get_record_of_ne (by simp)]
    · have second : Extends swingRuleIds rules ((rules.record
          (.pass .confirmedSwingHigh (some .swing))).record
          (.pass .manual4hResistance (some .structural))) :=
        first.pass (by simp) (by rwa [Pending, get_record_of_ne (by simp)])
      refine second.trans ((evaluatePattern_extends (fun ruleId mem => ?_) h).mono (by simp))
      have := pending ruleId (by simp [mem])
      rw [Pending, get_record_of_ne, get_record_of_ne]
      · exact this
      · rintro rfl
        simp at mem
      · rintro rfl
        simp at mem

/-! ## Freshness and flow -/

/-- The rules that freshness and flow decide before the pattern. -/
abbrev flowRuleIds : List RuleId :=
  [.freshness, .noUnresolvedGap, .completeWarmup, .marketIdentity]

/-- What the handlers record is a failure of one of these rules. -/
theorem flowFailure_cases {e : SeriesError} {result : RuleResult}
    (h : flowFailure e = .ok result) : ∃ ruleId ∈ flowRuleIds, ∃ reason role,
      reason ≠ "not_evaluated" ∧ result = .fail ruleId reason role := by
  unfold flowFailure at h
  split at h
  · exact ⟨_, by simp, _, _, by decide, (Except.ok.inj h).symm⟩
  · split_ifs at h
    · exact ⟨_, by simp, _, _, by decide, (Except.ok.inj h).symm⟩
    · exact ⟨_, by simp, _, _, by decide, (Except.ok.inj h).symm⟩
    · split at h
      · exact ⟨_, by simp, _, _, by decide, (Except.ok.inj h).symm⟩
      · exact ⟨_, by simp, _, _, by decide, (Except.ok.inj h).symm⟩
      · exact ⟨_, by simp, _, _, by decide, (Except.ok.inj h).symm⟩
      · split_ifs at h
        exact ⟨_, by simp, _, _, by decide, (Except.ok.inj h).symm⟩

theorem flowFailure_extends {e : SeriesError} {result : RuleResult}
    (h : flowFailure e = .ok result) : Extends flowRuleIds rules (rules.record result) := by
  obtain ⟨ruleId, mem, reason, role, failed, rfl⟩ := flowFailure_cases h
  exact Extends.refl.fail mem failed

theorem notMem_flowRuleIds : ∀ ruleId ∈ patternRuleIds, ruleId ∉ flowRuleIds := by decide

theorem mem_patternRuleIds : ∀ ruleId ∈ swingRuleIds, ruleId ∈ patternRuleIds := by decide

theorem evaluateConsumed_extends {snapshot : TradeStreamSnapshot} {series15m : List OhlcvBar}
    {consumed : ConsumedFlow} {atr15m atr4h : Option ℚ}
    (pending : ∀ ruleId ∈ patternRuleIds, rules.Pending ruleId)
    (h : evaluateConsumed command evidence snapshot series15m consumed rules atr15m atr4h params =
      .ok later) :
    Extends (flowRuleIds ++ patternRuleIds) rules later := by
  unfold evaluateConsumed at h
  obtain ⟨bindings, -, h⟩ := bind_eq_ok.mp h
  split at h
  · obtain rfl := Except.ok.inj h
    exact (Extends.refl.fail (by simp) (by decide)).trans
      ((failPatternRules_extends true).mono fun _ => List.mem_append_right _)
  · extract_lets afterFreshness afterGap at h
    have passed : Extends flowRuleIds rules afterGap :=
      (Extends.refl.passIfPending (by simp)).passIfPending (by simp)
    have still : ∀ ruleId ∈ patternRuleIds, afterGap.Pending ruleId := by
      intro ruleId mem
      rw [Pending, passed.get_eq (notMem_flowRuleIds ruleId mem)]
      exact pending ruleId mem
    have first : Extends (flowRuleIds ++ patternRuleIds) rules afterGap :=
      passed.mono fun _ => List.mem_append_left _
    refine first.trans (@Extends.mono patternRuleIds _ _ _ ?_
      fun _ => List.mem_append_right _)
    split at h
    · obtain ⟨written, swung, h⟩ := bind_eq_ok.mp h
      obtain rfl := Except.ok.inj h
      have run := evaluateSwing_extends
        (fun ruleId mem => still ruleId (mem_patternRuleIds ruleId mem)) swung
      refine (run.mono mem_patternRuleIds).trans (evaluateExpiryInvalidation_extends ?_ ?_)
      · rw [Pending, run.get_eq (by simp)]
        exact still _ (by simp [patternRuleIds])
      · rw [Pending, run.get_eq (by simp)]
        exact still _ (by simp [patternRuleIds])
    · obtain rfl := Except.ok.inj h
      exact failPatternRules_extends true

theorem evaluateFreshnessAndFlow_extends {series15m : List OhlcvBar} {trigger : Option OhlcvBar}
    {atr15m atr4h : Option ℚ} (pending : ∀ ruleId ∈ patternRuleIds, rules.Pending ruleId)
    (h : evaluateFreshnessAndFlow runtime command evidence series15m trigger evaluated rules
      atr15m atr4h params = .ok later) :
    Extends (flowRuleIds ++ patternRuleIds) rules later := by
  unfold evaluateFreshnessAndFlow at h
  split at h
  · extract_lets afterFreshness afterGap afterWarmup at h
    obtain rfl := Except.ok.inj h
    have first : Extends flowRuleIds rules afterGap :=
      (Extends.refl.fail (by simp) (by decide)).fail (by simp) (by decide)
    have second : Extends flowRuleIds rules afterWarmup := by
      unfold afterWarmup
      split
      · exact first.fail (by simp) (by decide)
      · exact first
    exact (second.mono fun _ => List.mem_append_left _).trans
      ((failPatternRules_extends false).mono fun _ => List.mem_append_right _)
  · extract_lets afterFreshness at h
    have first : Extends flowRuleIds rules afterFreshness := by
      unfold afterFreshness
      split
      · exact Extends.refl.fail (by simp) (by decide)
      · exact .refl
    have both : Extends (flowRuleIds ++ patternRuleIds) rules afterFreshness :=
      first.mono fun _ => List.mem_append_left _
    split at h
    · obtain ⟨failure, failed, h⟩ := bind_eq_ok.mp h
      obtain rfl := Except.ok.inj h
      exact (both.trans ((flowFailure_extends failed).mono fun _ => List.mem_append_left _)).trans
        ((failPatternRules_extends true).mono fun _ => List.mem_append_right _)
    · refine both.trans (evaluateConsumed_extends (fun ruleId mem => ?_) h)
      rw [Pending, first.get_eq (notMem_flowRuleIds ruleId mem)]
      exact pending ruleId mem

/-! ## Evaluations -/

theorem recordGate_extends {gate : Except MarketError Unit}
    (h : recordGate rules gate = .ok later) : Extends [.completeWarmup] rules later := by
  unfold recordGate at h
  split at h
  · obtain rfl := Except.ok.inj h
    exact .refl
  · split at h
    · obtain rfl := Except.ok.inj h
      refine Extends.refl.fail (by simp) ?_
      split <;> decide
    · cases h

/-- The identity leaves the FINAL evidence pending, or fails it as forming. -/
theorem evaluateMarketIdentity_final {reason : Option String} {marketSymbol : String}
    (pending : rules.Pending .finalEvidence) :
    (evaluateMarketIdentity runtime command rules reason marketSymbol).Pending .finalEvidence ∨
      ((evaluateMarketIdentity runtime command rules reason marketSymbol).get
        .finalEvidence).reasonCode = some "forming_evidence" := by
  unfold evaluateMarketIdentity
  extract_lets identity venueOk marketOk timeframeOk fallbackUsed afterMarket perpetualOk
    afterPerpetual afterFinal
  have first : afterMarket.Pending .finalEvidence := by
    unfold afterMarket
    split
    · rwa [Pending, get_record_of_ne (by simp)]
    · split <;> rwa [Pending, get_record_of_ne (by simp)]
  have second : afterPerpetual.Pending .finalEvidence := by
    unfold afterPerpetual
    split
    · rwa [Pending, get_record_of_ne (by simp)]
    · split <;> rwa [Pending, get_record_of_ne (by simp)]
  have third : afterFinal.Pending .finalEvidence ∨
      (afterFinal.get .finalEvidence).reasonCode = some "forming_evidence" := by
    unfold afterFinal
    split
    · refine .inr ?_
      rw [get_record_self (by simp)]
      rfl
    · exact .inl second
  split
  · rwa [Pending, get_record_of_ne (by simp)]
  · exact third

/-- The stages of an evaluation. -/
structure Stages (runtime : FusionRuntime) (policy : FusionPolicy) (command : AssessmentCommand)
    (evidence : FirstSliceEvidenceBundle) (evaluated : Instant)
    (params : FirstSliceEvaluationParams) (marketSymbol : String) (evaluation : Evaluation) where
  identified : Rules
  series15m : List OhlcvBar
  series4h : List OhlcvBar
  afterSeries : Rules
  atr15m : Option ℚ
  after15m : Rules
  atr4h : Option ℚ
  after4h : Rules
  bound : Rules
  afterFlow : Rules
  afterDerivatives : Rules
  afterOrderFlow : Rules
  identified_eq : identified = evaluateMarketIdentity runtime command
    (recordPolicy policy command .initial) (identityReason runtime command) marketSymbol
  series_eq : evaluateSeries command evidence evaluated identified =
    .ok (series15m, series4h, afterSeries)
  atr15m_eq : evaluateAtr series15m .wilderAtr15m afterSeries params.atrPeriod =
    .ok (atr15m, after15m)
  atr4h_eq : evaluateAtr series4h .wilderAtr4h after15m params.atrPeriod = .ok (atr4h, after4h)
  trigger_eq : evaluation.trigger = series15m.getLast?
  bound_eq : bound = evaluateTriggerBinding command series15m.getLast? after4h
  flow_eq : evaluateFreshnessAndFlow runtime command evidence series15m series15m.getLast?
    evaluated bound atr15m atr4h params = .ok afterFlow
  derivatives_eq : recordGate afterFlow
    (requireDerivatives runtime policy command evidence evaluated) = .ok afterDerivatives
  orderFlow_eq : recordGate afterDerivatives (requireBoundOrderFlow runtime evidence.orderFlow
    command policy.requiredRoles evaluated (series15m.getLast?.map (·.intervalEnd))) =
    .ok afterOrderFlow
  rules_eq : evaluation.rules = if .orderBook ∈ policy.requiredRoles then
      afterOrderFlow.record (.fail .completeWarmup "missing_required_evidence" none)
    else afterOrderFlow

section Stages

variable {policy : FusionPolicy} {marketSymbol : String} {evaluation : Evaluation}

theorem exists_stages
    (h : evaluateRules runtime policy command evidence evaluated params marketSymbol =
      .ok evaluation) :
    Nonempty (Stages runtime policy command evidence evaluated params marketSymbol evaluation) := by
  unfold evaluateRules at h
  obtain ⟨⟨series15m, series4h, afterSeries⟩, series, h⟩ := bind_eq_ok.mp h
  obtain ⟨⟨atr15m, after15m⟩, first, h⟩ := bind_eq_ok.mp h
  obtain ⟨⟨atr4h, after4h⟩, second, h⟩ := bind_eq_ok.mp h
  obtain ⟨afterFlow, flow, h⟩ := bind_eq_ok.mp h
  obtain ⟨afterDerivatives, derivatives, h⟩ := bind_eq_ok.mp h
  obtain ⟨afterOrderFlow, orderFlow, h⟩ := bind_eq_ok.mp h
  obtain rfl := Except.ok.inj h
  exact ⟨⟨_, series15m, series4h, afterSeries, atr15m, after15m, atr4h, after4h, _, afterFlow,
    afterDerivatives, afterOrderFlow, rfl, series, first, second, rfl, rfl, flow, derivatives,
    orderFlow, rfl⟩⟩

namespace Stages

variable (stages : Stages runtime policy command evidence evaluated params marketSymbol evaluation)

theorem policy_extends :
    Extends [.policyCompatible] .initial (recordPolicy policy command .initial) :=
  recordPolicy_extends policy (by simp [Pending, RuleResult.pending, RuleResult.fail])

/-- A rule that no earlier stage writes is pending. -/
theorem pending_start {ruleId : RuleId} (other : ruleId ≠ .policyCompatible) :
    (recordPolicy policy command .initial).Pending ruleId := by
  rw [Pending, policy_extends.get_eq (by simpa using other), get_initial]
  rfl

theorem identified_extends :
    Extends identityRuleIds (recordPolicy policy command .initial) stages.identified := by
  rw [stages.identified_eq]
  exact evaluateMarketIdentity_extends (pending_start (by decide)) (pending_start (by decide))

theorem series_extends : Extends seriesRuleIds stages.identified stages.afterSeries := by
  refine evaluateSeries_extends ?_ stages.series_eq
  rw [stages.identified_eq]
  exact evaluateMarketIdentity_final (pending_start (by decide))

/-- A rule that only later stages write is still pending behind the series. -/
theorem pending_series {ruleId : RuleId} (policyId : ruleId ≠ .policyCompatible)
    (identityId : ruleId ∉ identityRuleIds) (seriesId : ruleId ∉ seriesRuleIds) :
    stages.afterSeries.Pending ruleId := by
  rw [Pending, stages.series_extends.get_eq seriesId, stages.identified_extends.get_eq identityId]
  exact pending_start policyId

theorem atr15m_extends : Extends [.wilderAtr15m] stages.afterSeries stages.after15m :=
  evaluateAtr_extends (stages.pending_series (by decide) (by decide) (by decide)) stages.atr15m_eq

theorem atr4h_extends : Extends [.wilderAtr4h] stages.after15m stages.after4h := by
  refine evaluateAtr_extends ?_ stages.atr4h_eq
  rw [Pending, stages.atr15m_extends.get_eq (by decide)]
  exact stages.pending_series (by decide) (by decide) (by decide)

theorem bound_extends : Extends [.finalEvidence, .completeWarmup] stages.after4h stages.bound := by
  rw [stages.bound_eq]
  exact evaluateTriggerBinding_extends

theorem pending_bound {ruleId : RuleId} (pattern : ruleId ∈ patternRuleIds) :
    stages.bound.Pending ruleId := by
  have others : ruleId ≠ .policyCompatible ∧ ruleId ∉ identityRuleIds ∧ ruleId ∉ seriesRuleIds ∧
      ruleId ∉ [RuleId.wilderAtr15m] ∧ ruleId ∉ [RuleId.wilderAtr4h] ∧
      ruleId ∉ [RuleId.finalEvidence, .completeWarmup] := by
    revert ruleId
    decide
  obtain ⟨policyId, identityId, seriesId, first, second, boundId⟩ := others
  rw [Pending, stages.bound_extends.get_eq boundId, stages.atr4h_extends.get_eq second,
    stages.atr15m_extends.get_eq first]
  exact stages.pending_series policyId identityId seriesId

theorem flow_extends : Extends (flowRuleIds ++ patternRuleIds) stages.bound stages.afterFlow :=
  evaluateFreshnessAndFlow_extends (fun _ => stages.pending_bound) stages.flow_eq

theorem derivatives_extends :
    Extends [.completeWarmup] stages.afterFlow stages.afterDerivatives :=
  recordGate_extends stages.derivatives_eq

theorem orderFlow_extends :
    Extends [.completeWarmup] stages.afterDerivatives stages.afterOrderFlow :=
  recordGate_extends stages.orderFlow_eq

theorem rules_extends : Extends [.completeWarmup] stages.afterOrderFlow evaluation.rules := by
  rw [stages.rules_eq]
  split
  · exact Extends.refl.fail (by simp) (by decide)
  · exact .refl

include stages in
theorem monotone : evaluation.rules.Monotone := by
  refine stages.rules_extends.monotone (stages.orderFlow_extends.monotone
    (stages.derivatives_extends.monotone (stages.flow_extends.monotone
      (stages.bound_extends.monotone (stages.atr4h_extends.monotone
        (stages.atr15m_extends.monotone (stages.series_extends.monotone
          (stages.identified_extends.monotone (policy_extends.monotone ?_)))))))))
  exact monotone_initial

end Stages

/-- No evaluator passes a rule that has failed before. -/
theorem evaluateRules_monotone
    (h : evaluateRules runtime policy command evidence evaluated params marketSymbol =
      .ok evaluation) : evaluation.rules.Monotone := by
  obtain ⟨stages⟩ := exists_stages h
  exact stages.monotone

end Stages

end AlphaTrade.Fusion
