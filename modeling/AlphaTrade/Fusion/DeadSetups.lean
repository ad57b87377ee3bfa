import Mathlib
import AlphaTrade.Fusion.Soundness

/-!
# Setups behind their trigger

Where the quality rules pass, the candles behind the trigger alone tell whether a setup is
invalidated or expired. They are put in order anew at each evaluation, and the run that is taken of
them ends at the first candle that does not start where the one before it ends, as a second revision
of a candle does. So more candles can take a run away.

## Main results

* `evaluateSetup_withSubsequent`: over other candles behind the trigger, the quality rules still
  pass.
* `dead_iff`: when an invalidated or expired setup is again what it was.
-/
namespace AlphaTrade.Fusion
open Library Market
open Execution (Instant)
open Rules

def FirstSliceEvidenceBundle.withSubsequent (evidence : FirstSliceEvidenceBundle)
    (bars : List OhlcvBar) : FirstSliceEvidenceBundle :=
  { evidence with subsequentFinal15m := bars }

def SetupAssessment.QualityPassed (assessment : SetupAssessment) : Prop :=
  ∀ result ∈ assessment.ruleResults, result.ruleId ∈ qualityRuleIds → result.passed = true

/-- The trigger and the price above which a candle behind it invalidates the setup. -/
structure Invalidation (evidence : FirstSliceEvidenceBundle) (params : FirstSliceEvaluationParams)
    (trigger : OhlcvBar) (price : ℚ) : Prop where
  last : evidence.series15m.getLast? = some trigger
  price : ∃ atr15m, computeWilderAtrV1 evidence.series15m params.atrPeriod = .ok (.ok atr15m) ∧
    price = invalidationPrice trigger evidence.tickSize atr15m params

variable {runtime : FusionRuntime} {policy : FusionPolicy} {command : AssessmentCommand}
  {evidence : FirstSliceEvidenceBundle} {evaluated : Instant} {rules later : Rules}
  {params : FirstSliceEvaluationParams} {marketSymbol : String} {evaluation : Evaluation}

/-! ## Failures of the quality rules -/

def QualityClean (rules : Rules) : Prop :=
  ∀ result ∈ rules.writes, result.ruleId ∈ qualityRuleIds → result.Open

theorem qualityClean_record {result : RuleResult} :
    QualityClean (rules.record result) ↔
      (result.ruleId ∈ qualityRuleIds → result.Open) ∧ QualityClean rules := by
  simp [QualityClean, record]

theorem get_ruleId (rules : Rules) (ruleId : RuleId) : (rules.get ruleId).ruleId = ruleId := by
  unfold Rules.get
  cases found : rules.writes.find? fun result => result.ruleId = ruleId with
  | none => rfl
  | some result => simpa using List.find?_some found

theorem qualityClean_of_passed (monotone : rules.Monotone)
    (passed : AllPassed rules qualityRuleIds) : QualityClean rules :=
  fun result mem quality => monotone.open_of_get mem (.inl (passed result.ruleId quality))

theorem Rules.Extends.qualityClean {ruleIds : List RuleId} (run : Extends ruleIds rules later)
    (after : QualityClean later) : QualityClean rules := by
  induction run with
  | refl => exact after
  | record result _ _ _ ih => exact ih (qualityClean_record.mp after).2

/-- Where only quality rules are written, a table without their failures is without any. -/
theorem Rules.Extends.clean_of_quality {ruleIds : List RuleId}
    (run : Extends ruleIds rules later) (quality : ∀ ruleId ∈ ruleIds, ruleId ∈ qualityRuleIds)
    (before : rules.Clean) (after : QualityClean later) : later.Clean := by
  induction run with
  | refl => exact before
  | record result _ mem _ ih =>
    obtain ⟨isOpen, rest⟩ := qualityClean_record.mp after
    exact clean_record.mpr ⟨isOpen (quality _ mem), ih rest⟩

theorem qualityPassed_iff {assessment : SetupAssessment}
    (results : assessment.ruleResults = firstSliceRuleIds.map rules.get) :
    assessment.QualityPassed ↔ AllPassed rules qualityRuleIds := by
  unfold SetupAssessment.QualityPassed AllPassed
  rw [results]
  constructor
  · intro passed ruleId quality
    refine passed _ (List.mem_map_of_mem (mem_firstSliceRuleIds ruleId)) ?_
    rwa [get_ruleId]
  · rintro passed result mem quality
    obtain ⟨ruleId, -, rfl⟩ := List.mem_map.mp mem
    rw [get_ruleId] at quality
    exact passed ruleId quality

/-! ## Candles behind the trigger -/

/-- The flow is evaluated over any candles behind the trigger, which are read last. -/
theorem flow_withSubsequent {series15m : List OhlcvBar} {trigger : OhlcvBar} {atr15m atr4h : ℚ}
    (h : evaluateFreshnessAndFlow runtime command evidence series15m (some trigger) evaluated rules
      (some atr15m) (some atr4h) params = .ok later) (clean : QualityClean later) :
    ∃ swung, ∀ bars, evaluateFreshnessAndFlow runtime command (evidence.withSubsequent bars)
      series15m (some trigger) evaluated rules (some atr15m) (some atr4h) params =
        .ok (evaluateExpiryInvalidation trigger (evidence.withSubsequent bars) atr15m swung
          params) := by
  have unfailed {result : RuleResult} {before : Rules} (keepExisting : Bool)
      (quality : result.ruleId ∈ qualityRuleIds) (failed : ¬ result.Open) :
      ¬ QualityClean (failPatternRules (before.record result) keepExisting) := fun clean =>
    failed ((qualityClean_record.mp ((failPatternRules_extends keepExisting).qualityClean clean)).1
      quality)
  unfold evaluateFreshnessAndFlow at h
  split at h
  · extract_lets afterFreshness afterGap afterWarmup at h
    obtain rfl := Except.ok.inj h
    have still := (failPatternRules_extends false).qualityClean clean
    have gap : QualityClean afterGap := by
      unfold afterWarmup at still
      split at still
      · exact (qualityClean_record.mp still).2
      · exact still
    have failed := (qualityClean_record.mp gap).1 (by decide)
    exact absurd (RuleResult.open_fail.mp failed) (by decide)
  · rename_i snapshot present
    extract_lets afterFreshness at h
    split at h
    · obtain ⟨failure, failed, h⟩ := bind_eq_ok.mp h
      obtain rfl := Except.ok.inj h
      obtain ⟨ruleId, mem, reason, role, -, rfl⟩ := flowFailure_cases failed
      refine absurd clean (unfailed true ?_ (flowFailure_unopen failed))
      revert ruleId
      simp [flowRuleIds, qualityRuleIds]
    · rename_i consumed found
      have same := consumeFlow_trigger found
      unfold evaluateConsumed at h
      rw [same] at h
      obtain ⟨bindings, bound, h⟩ := bind_eq_ok.mp h
      split at h
      · obtain rfl := Except.ok.inj h
        exact absurd clean (unfailed true (by simp [qualityRuleIds]) (by simp))
      · rename_i free
        extract_lets afterPass afterGap at h
        obtain ⟨swung, swing, h⟩ := bind_eq_ok.mp h
        refine ⟨swung, fun bars => ?_⟩
        unfold evaluateFreshnessAndFlow
        rw [show (evidence.withSubsequent bars).snapshot = some snapshot from present]
        dsimp only
        rw [found]
        dsimp only
        unfold evaluateConsumed
        rw [same, show consumedBindings command trigger
          (contextBarForTrigger trigger (evidence.withSubsequent bars).bars4h)
          consumed.cvd.contentHash consumed.flow.contentHash snapshot.coverage.contentHash =
            .ok bindings from bound, ok_bind, free]
        change (evaluateSwing command evidence snapshot series15m consumed atr15m atr4h afterGap
          params >>= _) = _
        rw [swing]
        rfl

theorem gate_of_quality {gate : Except MarketError Unit} (h : recordGate rules gate = .ok later)
    (clean : QualityClean later) : gate = .ok ⟨⟩ ∧ later = rules := by
  unfold recordGate at h
  split at h
  · exact ⟨rfl, (Except.ok.inj h).symm⟩
  · split at h
    · obtain rfl := Except.ok.inj h
      have failed := (qualityClean_record.mp clean).1 (by simp [qualityRuleIds])
      have := RuleResult.open_fail.mp failed
      split at this <;> simp at this
    · cases h

/-- The two rules of the candles behind the trigger. -/
structure Sequel (rules : Rules) (params : FirstSliceEvaluationParams) (trigger : OhlcvBar)
    (bars : List OhlcvBar) (price : ℚ) : Prop where
  invalidation : rules.get .notInvalidated =
    .check .notInvalidated (¬ Invalidated trigger bars price) "pattern_invalidated" none
  expiry : rules.get .notExpired =
    .check .notExpired (¬ Elapsed trigger bars params) "validity_interval_elapsed" none

theorem sequel_of_expiry {trigger : OhlcvBar} {atr15m : ℚ} {swung : Rules} :
    Sequel (evaluateExpiryInvalidation trigger evidence atr15m swung params) params trigger
      evidence.subsequentFinal15m (invalidationPrice trigger evidence.tickSize atr15m params) where
  invalidation := by
    unfold evaluateExpiryInvalidation
    rw [get_record_of_ne (by simp), get_record_self (by simp)]
  expiry := by
    unfold evaluateExpiryInvalidation
    rw [get_record_self (by simp)]

theorem get_expiry {trigger : OhlcvBar} {atr15m : ℚ} {swung : Rules} {ruleId : RuleId}
    (quality : ruleId ∈ qualityRuleIds) :
    (evaluateExpiryInvalidation trigger evidence atr15m swung params).get ruleId =
      swung.get ruleId := by
  have ne : RuleId.notInvalidated ≠ ruleId ∧ RuleId.notExpired ≠ ruleId := by
    constructor <;> (rintro rfl; simp [qualityRuleIds] at quality)
  unfold evaluateExpiryInvalidation
  rw [get_record_of_ne (by simpa using ne.2), get_record_of_ne (by simpa using ne.1)]

/-- Where the quality rules pass, they pass over any candles behind the trigger, and these decide
the two rules that are about them. -/
theorem evaluateRules_withSubsequent
    (h : evaluateRules runtime policy command evidence evaluated params marketSymbol =
      .ok evaluation) (quality : AllPassed evaluation.rules qualityRuleIds) :
    ∃ trigger price, Invalidation evidence params trigger price ∧ ∀ bars, ∃ rules trigger',
      evaluateRules runtime policy command (evidence.withSubsequent bars) evaluated params
        marketSymbol = .ok ⟨rules, trigger'⟩ ∧ AllPassed rules qualityRuleIds ∧
      Sequel rules params trigger bars price := by
  obtain ⟨stages⟩ := exists_stages h
  have clean := qualityClean_of_passed stages.monotone quality
  have depth : .orderBook ∉ policy.requiredRoles := by
    intro mem
    rw [stages.rules_eq, if_pos mem] at clean
    have failed := (qualityClean_record.mp clean).1 (by simp [qualityRuleIds])
    exact absurd (RuleResult.open_fail.mp failed) (by decide)
  have rulesEq := stages.rules_eq
  rw [if_neg depth] at rulesEq
  rw [rulesEq] at clean quality
  obtain ⟨orderFlow, orderFlowSame⟩ := gate_of_quality stages.orderFlow_eq clean
  rw [orderFlowSame] at clean quality
  obtain ⟨derivatives, derivativesSame⟩ := gate_of_quality stages.derivatives_eq clean
  rw [derivativesSame] at clean quality
  have run : Extends qualityRuleIds .initial stages.bound :=
    (((((Stages.policy_extends.mono (by simp [qualityRuleIds])).trans
      (stages.identified_extends.mono (by simp [qualityRuleIds]))).trans
      (stages.series_extends.mono (by simp [qualityRuleIds]))).trans
      (stages.atr15m_extends.mono (by simp [qualityRuleIds]))).trans
      (stages.atr4h_extends.mono (by simp [qualityRuleIds]))).trans
      (stages.bound_extends.mono (by simp [qualityRuleIds]))
  have boundClean := run.clean_of_quality (fun _ mem => mem) clean_initial
    (stages.flow_extends.qualityClean clean)
  have clean4h := stages.bound_extends.clean boundClean
  have clean15m := stages.atr4h_extends.clean clean4h
  have seriesClean := stages.atr15m_extends.clean clean15m
  obtain ⟨-, series15m, series4h, series, same15m, -⟩ :=
    series_of_clean stages.series_eq seriesClean
  obtain ⟨atr15m, atr15mEq, computed15m⟩ := atr_of_clean stages.atr15m_eq clean15m
  obtain ⟨atr4h, atr4hEq, -⟩ := atr_of_clean stages.atr4h_eq clean4h
  have bound := stages.bound_eq
  rw [bound] at boundClean
  obtain ⟨trigger, last, -⟩ := trigger_of_clean boundClean
  have flow := stages.flow_eq
  rw [last, atr15mEq, atr4hEq] at flow
  obtain ⟨swung, flows⟩ := flow_withSubsequent flow clean
  have own := same15m.trans (bothSeries_of series).1.1
  refine ⟨trigger, invalidationPrice trigger evidence.tickSize atr15m params,
    ⟨own ▸ last, atr15m, own ▸ computed15m, rfl⟩, fun bars => ?_⟩
  refine ⟨evaluateExpiryInvalidation trigger (evidence.withSubsequent bars) atr15m swung params,
    some trigger, ?_, fun ruleId mem => ?_, sequel_of_expiry⟩
  · unfold evaluateRules
    dsimp only
    rw [← stages.identified_eq, show evaluateSeries command (evidence.withSubsequent bars)
      evaluated stages.identified = _ from stages.series_eq]
    simp only [ok_bind]
    rw [stages.atr15m_eq]
    simp only [ok_bind]
    rw [stages.atr4h_eq]
    simp only [ok_bind]
    rw [← bound, last, atr15mEq, atr4hEq, flows bars]
    simp only [ok_bind]
    rw [show requireDerivatives runtime policy command (evidence.withSubsequent bars) evaluated =
      .ok ⟨⟩ from derivatives]
    simp only [ok_bind, recordGate]
    rw [last] at orderFlow
    rw [show requireBoundOrderFlow runtime (evidence.withSubsequent bars).orderFlow command
      policy.requiredRoles evaluated ((some trigger).map (·.intervalEnd)) = .ok ⟨⟩ from orderFlow]
    simp only [ok_bind, if_neg depth]
    rfl
  · have same : stages.afterFlow =
        evaluateExpiryInvalidation trigger evidence atr15m swung params :=
      Except.ok.inj (flow.symm.trans (flows evidence.subsequentFinal15m))
    have passed := quality ruleId mem
    rw [same, Passed, get_expiry mem] at passed
    rw [Passed, get_expiry mem]
    exact passed

/-! ## States -/

theorem check_failed {ruleId : RuleId} {passed : Prop} [Decidable passed] {reason : String}
    {role : Option EvidenceRole} :
    ¬ (RuleResult.check ruleId passed reason role).passed = true ∧
      (RuleResult.check ruleId passed reason role).reasonCode = some reason ↔ ¬ passed := by
  unfold RuleResult.check
  split <;> simp [RuleResult.pass, RuleResult.fail, *]

theorem resolveState_of_sequel {trigger : OhlcvBar} {bars : List OhlcvBar} {price : ℚ}
    {previous : Option SignalFusion.SetupAssessmentState}
    (quality : AllPassed rules qualityRuleIds) (sequel : Sequel rules params trigger bars price) :
    ((resolveState rules previous).1 = .invalidated ↔ Invalidated trigger bars price) ∧
      ((resolveState rules previous).1 = .expired ↔
        ¬ Invalidated trigger bars price ∧ Elapsed trigger bars params) := by
  have first : ¬ rules.Passed .notInvalidated ∧
      (rules.get .notInvalidated).reasonCode = some "pattern_invalidated" ↔
        Invalidated trigger bars price := by
    rw [Passed, sequel.invalidation, check_failed, not_not]
  have second : ¬ rules.Passed .notExpired ∧
      (rules.get .notExpired).reasonCode = some "validity_interval_elapsed" ↔
        Elapsed trigger bars params := by
    rw [Passed, sequel.expiry, check_failed, not_not]
  unfold resolveState
  rw [if_neg (not_not.mpr quality)]
  by_cases invalid : Invalidated trigger bars price
  · rw [if_pos (first.mpr invalid)]
    simp [invalid]
  · rw [if_neg (first.not.mpr invalid)]
    by_cases elapsed : Elapsed trigger bars params
    · rw [if_pos (second.mpr elapsed)]
      simp [invalid, elapsed]
    · rw [if_neg (second.not.mpr elapsed)]
      split_ifs <;> simp [invalid, elapsed]

/-- An invalidated setup is invalidated by the other candles too, and one that has only expired
has only expired over these. -/
structure StaysDead (trigger : OhlcvBar) (price : ℚ) (params : FirstSliceEvaluationParams)
    (bars others : List OhlcvBar) : Prop where
  invalidated : Invalidated trigger bars price → Invalidated trigger others price
  expired : ¬ Invalidated trigger bars price →
    ¬ Invalidated trigger others price ∧ Elapsed trigger others params

section Setup

variable {previous : Option SetupAssessment} {given : Option FirstSliceEvaluationParams}
  {symbol : Option String} {assessment : SetupAssessment}

/-- The states of a setup over any candles behind its trigger. -/
theorem evaluateSetup_withSubsequent
    (h : evaluateSetup runtime policy command evidence evaluated previous given symbol =
      .ok assessment) (quality : assessment.QualityPassed) :
    ∃ trigger price, Invalidation evidence (resolveEvaluationParams given) trigger price ∧
      ∀ bars other, ∃ again,
        evaluateSetup runtime policy command (evidence.withSubsequent bars) evaluated other given
          symbol = .ok again ∧ again.QualityPassed ∧
        (again.state = .invalidated ↔ Invalidated trigger bars price) ∧
        (again.state = .expired ↔ ¬ Invalidated trigger bars price ∧
          Elapsed trigger bars (resolveEvaluationParams given)) := by
  obtain ⟨evaluation, found, rfl⟩ := exists_evaluation h
  obtain ⟨trigger, price, invalidation, each⟩ :=
    evaluateRules_withSubsequent found ((qualityPassed_iff rfl).mp quality)
  refine ⟨trigger, price, invalidation, fun bars other => ?_⟩
  obtain ⟨rules, trigger', again, passed, sequel⟩ := each bars
  exact ⟨_, bind_eq_ok.mpr ⟨_, again, rfl⟩, (qualityPassed_iff rfl).mpr passed,
    resolveState_of_sequel passed sequel⟩

theorem Invalidation.unique {trigger other : OhlcvBar} {price price' : ℚ}
    (first : Invalidation evidence params trigger price)
    (second : Invalidation evidence params other price') : trigger = other ∧ price = price' := by
  obtain ⟨atr, computed, rfl⟩ := first.price
  obtain ⟨atr', computed', rfl⟩ := second.price
  obtain rfl := Option.some.inj (first.last.symm.trans second.last)
  obtain rfl := Except.ok.inj (Except.ok.inj (computed.symm.trans computed'))
  exact ⟨rfl, rfl⟩

/-- The state of an assessment whose quality rules pass is decided by its candles. -/
theorem states_of_quality {trigger : OhlcvBar} {price : ℚ}
    (invalidation : Invalidation evidence (resolveEvaluationParams given) trigger price)
    (h : evaluateSetup runtime policy command evidence evaluated previous given symbol =
      .ok assessment) (quality : assessment.QualityPassed) :
    (assessment.state = .invalidated ↔
        Invalidated trigger evidence.subsequentFinal15m price) ∧
      (assessment.state = .expired ↔ ¬ Invalidated trigger evidence.subsequentFinal15m price ∧
        Elapsed trigger evidence.subsequentFinal15m (resolveEvaluationParams given)) := by
  obtain ⟨trigger', price', own, each⟩ := evaluateSetup_withSubsequent h quality
  obtain ⟨rfl, rfl⟩ := own.unique invalidation
  obtain ⟨again, found, -, states⟩ := each evidence.subsequentFinal15m previous
  obtain rfl := Except.ok.inj (h.symm.trans found)
  exact states

def quietSequel : List OhlcvBar := [quietBar .m15 480, quietBar .m15 481]

theorem revisedFields_valid : ({ setupFields .m15 480 100 1 100 with revision := 2 } :
    OhlcvFields).Valid := by
  have valid := @setupFields_valid .m15 480 100 1 100 (by norm_num) (by norm_num) (by norm_num)
    (by norm_num)
  exact { valid with revision_pos := by decide }

def revisedBar : OhlcvBar :=
  ⟨{ setupFields .m15 480 100 1 100 with revision := 2 }, revisedFields_valid⟩

theorem setup_invalidation : Invalidation (setupEvidence 0 []) (resolveEvaluationParams none)
    setupTrigger setupInvalidation := by
  have series : (setupEvidence 0 []).series15m = setupBars15m := by
    unfold FirstSliceEvidenceBundle.series15m lastBars
    rw [show orderedBars (setupEvidence 0 []).bars15m .m15 = setupBars15m from
      setupBars15m_ordered]
    rfl
  refine ⟨?_, 41428571428571429 / 10 ^ 16, ?_, rfl⟩
  · rw [series]
    exact List.getLast?_concat
  · rw [series]
    exact setup_atr15m

/-- The quiet candles expire the setup. -/
theorem setup_expired : ∃ first,
    evaluateSetup setupRuntime (setupPolicy .triggerOhlcv) (setupCommand .final)
      (setupEvidence 0 quietSequel) setupTime none none none = .ok first ∧
      first.QualityPassed ∧ first.state = .expired := by
  obtain ⟨read, confirms⟩ := @setup_confirms .triggerOhlcv 0 [] .final (by simp) (by simp)
    (by simp) (by decide) (by decide)
  obtain ⟨assessment, found, confirmed⟩ := confirmed_of none confirms
  have quality : assessment.QualityPassed := by
    obtain ⟨evaluation, -, rfl⟩ := exists_evaluation found
    exact (qualityPassed_iff rfl).mpr fun ruleId _ => passed_of_confirmed confirmed ruleId
  obtain ⟨trigger, price, invalidation, each⟩ := evaluateSetup_withSubsequent found quality
  obtain ⟨rfl, rfl⟩ := invalidation.unique setup_invalidation
  obtain ⟨first, again, passed, -, expired⟩ := each quietSequel none
  exact ⟨first, again, passed, expired.mpr (by decide_cbv)⟩

end Setup

end AlphaTrade.Fusion
