import AlphaTrade.Fusion.Confirmation

/-!
# Confirmed setups are sound

What is confirmed is told again of the evidence alone: of the last candles of both timeframes, the
swing, the referenced level, the trigger and the candles behind it. The one thing that no evaluator
asks is that the candles have ended when they are evaluated.

## Main definitions

* `Sound`: the market data of a confirmed setup.

## Main results

* `sound_iff`: a confirmed setup is sound exactly where its candles have ended.
-/
namespace AlphaTrade.Fusion
open Library Market
open Execution (Instant)

/-! ## Definitions -/

def lastBars (bars : List OhlcvBar) (timeframe : Timeframe) (count : Nat) : List OhlcvBar :=
  (orderedBars bars timeframe).drop ((orderedBars bars timeframe).length - count)

namespace FirstSliceEvidenceBundle

variable (evidence : FirstSliceEvidenceBundle)

def series15m : List OhlcvBar := lastBars evidence.bars15m .m15 firstSliceMinFinal15m

def series4h : List OhlcvBar := lastBars evidence.bars4h .h4 firstSliceMinFinal4h

def EndedBy (evaluated : Instant) : Prop :=
  ∀ bar ∈ evidence.series15m ++ evidence.series4h, bar.intervalEnd ≤ evaluated

end FirstSliceEvidenceBundle

/-- FINAL candles without a gap between them. -/
structure SoundSeries (bars : List OhlcvBar) (count : Nat) : Prop where
  length : bars.length = count
  closed : ∀ bar ∈ bars, bar.Closed
  contiguous : Contiguous bars

/-- The latest swing high inside the lookback that the candles before the trigger confirm. -/
structure SoundSwing (bars : List OhlcvBar) (trigger : OhlcvBar) (swing : ConfirmedSwingHigh) :
    Prop where
  high : SwingHigh bars swing.index
  at_index : bars[swing.index]? = some swing.bar
  price : swing.price = swing.bar.high
  confirmed : swing.index + swingRight + 1 < bars.length
  ended : swing.bar.intervalEnd ≤ trigger.intervalStart
  lookback : barLookbackStart trigger firstSliceCvdLookbackBars ≤ swing.bar.intervalStart
  latest : ∀ index bar, swing.index < index → SwingHigh bars index → bars[index]? = some bar →
    bar.intervalEnd ≤ trigger.intervalStart →
      ¬ barLookbackStart trigger firstSliceCvdLookbackBars ≤ bar.intervalStart

/-- The nearest eligible level is the referenced one, and it is near. -/
structure SoundLevel (command : AssessmentCommand) (resistances : List ManualResistanceEvidence)
    (trigger : OhlcvBar) (swingPrice tolerance : ℚ) (level : ManualResistanceEvidence) : Prop where
  listed : level ∈ resistances
  eligible : level.Eligible command.evidenceIdentity trigger.intervalStart
  nearest : ∀ other ∈ resistances,
    other.Eligible command.evidenceIdentity trigger.intervalStart →
      |level.price - swingPrice| ≤ |other.price - swingPrice|
  referenced : command.manualLevelRevision = some level.ref
  near : |swingPrice - level.price| ≤ tolerance

/-- The volume of the last candle against the mean of the candles before it. -/
structure SoundVolume (bars : List OhlcvBar) (trigger : OhlcvBar) (lookback : Int) (ratio : ℚ)
    (prior : List OhlcvBar) : Prop where
  before : prior ++ [trigger] <:+ bars
  length : (prior.length : Int) = lookback
  mean_ne : (prior.map (·.baseVolume)).sum / lookback ≠ 0
  spike : ratio ≤ trigger.baseVolume / ((prior.map (·.baseVolume)).sum / lookback)

/-- The trigger sweeps the swing and closes back below it against the flow. -/
structure SoundTrigger (snapshot : TradeStreamSnapshot) (bars : List OhlcvBar)
    (trigger : OhlcvBar) (swing : ConfirmedSwingHigh) (atr15m : ℚ)
    (params : FirstSliceEvaluationParams) : Prop where
  sweep : swing.price + params.sweepAtr * atr15m ≤ trigger.high
  higher : swing.price < trigger.high
  closeBack : trigger.close < swing.price
  bearish : trigger.close < trigger.openPrice
  volume : ∃ prior, SoundVolume bars trigger params.volumeLookback params.volumeRatio prior
  divergence : ∃ atTrigger atSwing,
    signedQuoteDeltaUntil snapshot (barLookbackStart trigger firstSliceCvdLookbackBars)
      trigger.intervalEnd 0 = .ok atTrigger ∧
    signedQuoteDeltaUntil snapshot (barLookbackStart trigger firstSliceCvdLookbackBars)
      swing.bar.intervalEnd 0 = .ok atSwing ∧ atTrigger < atSwing
  imbalance : ∃ signed total rest, barFlowSums trigger snapshot = .ok (signed, total, rest) ∧
    total ≠ 0 ∧ signed / total ≤ params.sellImbalance

/-- A run of closed candles that starts where the trigger ends, at the head of those that are
ordered. -/
structure Behind (trigger : OhlcvBar) (bars chain : List OhlcvBar) : Prop where
  initial : chain <+: orderedBars bars .m15
  closed : ∀ bar ∈ chain, bar.Closed
  starts : ∀ first ∈ chain.head?, first.intervalStart = trigger.intervalEnd
  contiguous : Contiguous chain

/-- What the evidence of a confirmed setup shows. -/
structure SoundSetup (command : AssessmentCommand) (evidence : FirstSliceEvidenceBundle)
    (params : FirstSliceEvaluationParams) (trigger : OhlcvBar) (swing : ConfirmedSwingHigh)
    (level : ManualResistanceEvidence) (atr15m atr4h : ℚ) (snapshot : TradeStreamSnapshot) :
    Prop where
  bars15m : SoundSeries evidence.series15m firstSliceMinFinal15m
  bars4h : SoundSeries evidence.series4h firstSliceMinFinal4h
  last : evidence.series15m.getLast? = some trigger
  named : trigger.sourceEventId = command.trigger.naturalEventId ∧
    trigger.revision = command.trigger.revision
  range15m : computeWilderAtrV1 evidence.series15m params.atrPeriod = .ok (.ok atr15m)
  range4h : computeWilderAtrV1 evidence.series4h params.atrPeriod = .ok (.ok atr4h)
  present : evidence.snapshot = some snapshot
  pivot : SoundSwing evidence.series15m trigger swing
  resistance : SoundLevel command evidence.resistances trigger swing.price
    (params.swingAtrDistance * atr4h) level
  pattern : SoundTrigger snapshot evidence.series15m trigger swing atr15m params
  valid : ∀ chain, Behind trigger evidence.subsequentFinal15m chain → ∀ bar ∈ chain,
    bar.high ≤ invalidationPrice trigger evidence.tickSize atr15m params
  current : ∀ chain, Behind trigger evidence.subsequentFinal15m chain →
    (chain.length : Int) < params.expiryBars

/-- The market data of a confirmed setup, and the table of its rules. -/
structure Sound (runtime : FusionRuntime) (policy : FusionPolicy) (command : AssessmentCommand)
    (evidence : FirstSliceEvidenceBundle) (evaluated : Instant)
    (params : FirstSliceEvaluationParams) (marketSymbol : String) : Prop where
  ended : evidence.EndedBy evaluated
  setup : ∃ trigger swing level atr15m atr4h snapshot,
    SoundSetup command evidence params trigger swing level atr15m atr4h snapshot
  monotone : ∀ evaluation, evaluateRules runtime policy command evidence evaluated params
    marketSymbol = .ok evaluation → evaluation.rules.Monotone

variable {runtime : FusionRuntime} {policy : FusionPolicy} {command : AssessmentCommand}
  {evidence : FirstSliceEvidenceBundle} {evaluated : Instant}
  {params : FirstSliceEvaluationParams} {marketSymbol : String} {read : Reading}

/-! ## Series -/

theorem soundSeries_of {bars : List OhlcvBar} {identity : EvidenceMarketIdentity}
    {timeframe own : Timeframe} {count : Nat} {series : ClosedOhlcvSeries} (positive : 0 < count)
    (h : requireClosedSeries (orderedBars bars timeframe) identity own evaluated count =
      .ok series) :
    series.bars = lastBars bars timeframe count ∧
      SoundSeries (lastBars bars timeframe count) count := by
  obtain ⟨same, enough, -⟩ := requireClosedSeries_bars positive h
  have closed := assertClosedSeriesBars_eq_ok.mp series.closedContiguous
  obtain ⟨-, -, each, -, contiguous⟩ := closed
  rw [same] at each contiguous
  refine ⟨same, ?_, fun bar mem => (each bar mem).2.2, contiguous⟩
  unfold lastBars
  rw [List.length_drop]
  omega

theorem bothSeries_of {series15m series4h : ClosedOhlcvSeries}
    (h : requireBothSeries command (orderedBars evidence.bars15m .m15)
      (orderedBars evidence.bars4h .h4) evaluated = .ok (series15m, series4h)) :
    (series15m.bars = evidence.series15m ∧
      SoundSeries evidence.series15m firstSliceMinFinal15m) ∧
    series4h.bars = evidence.series4h ∧
      SoundSeries evidence.series4h firstSliceMinFinal4h := by
  unfold requireBothSeries at h
  obtain ⟨first, firstEq, h⟩ := bind_eq_ok.mp h
  obtain ⟨second, secondEq, h⟩ := bind_eq_ok.mp h
  obtain ⟨rfl, rfl⟩ := Prod.mk.inj (Except.ok.inj h)
  exact ⟨soundSeries_of (by decide) firstEq, soundSeries_of (by decide) secondEq⟩

/-! ## Candles behind the trigger -/

theorem contiguous_cons {bar : OhlcvBar} {bars : List OhlcvBar} :
    Contiguous (bar :: bars) ↔
      (∀ next ∈ bars.head?, next.intervalStart = bar.intervalEnd) ∧ Contiguous bars := by
  cases bars <;> simp [Contiguous]

/-- A run behind an instant is at most the one that the loop takes. -/
theorem contiguousFrom_longest {bars chain : List OhlcvBar} {expected : Instant}
    (initial : chain <+: bars) (closed : ∀ bar ∈ chain, bar.Closed)
    (starts : ∀ first ∈ chain.head?, first.intervalStart = expected)
    (contiguous : Contiguous chain) : chain <+: contiguousFrom expected bars := by
  induction bars generalizing chain expected with
  | nil => exact (List.prefix_nil.mp initial) ▸ List.nil_prefix
  | cons bar bars ih =>
    cases chain with
    | nil => exact List.nil_prefix
    | cons first chain =>
      obtain ⟨rfl, rest⟩ := List.cons_prefix_cons.mp initial
      obtain ⟨next, contiguous⟩ := contiguous_cons.mp contiguous
      rw [List.forall_mem_cons] at closed
      unfold contiguousFrom
      rw [if_neg (not_not.mpr closed.1), if_neg (not_not.mpr (starts first rfl))]
      exact List.cons_prefix_cons.mpr ⟨rfl, ih rest closed.2 next contiguous⟩

theorem Behind.le_contiguousSubsequent {trigger : OhlcvBar} {bars chain : List OhlcvBar}
    (behind : Behind trigger bars chain) : chain <+: contiguousSubsequent trigger bars :=
  contiguousFrom_longest behind.initial behind.closed behind.starts behind.contiguous


/-! ## Swing and level -/

theorem soundSwing_of {bars : List OhlcvBar} {trigger : OhlcvBar} {swing : ConfirmedSwingHigh}
    (final : ∀ bar ∈ bars, bar.finality = .final) (last : bars.getLast? = some trigger)
    (found : mostRecentConfirmedSwingHigh bars
      (some (barLookbackStart trigger firstSliceCvdLookbackBars)) (some trigger) = some swing)
    (higher : swing.price < trigger.high) : SoundSwing bars trigger swing := by
  obtain ⟨high, at_index, price, ended, lookback, latest⟩ := mostRecent_spec final found
  refine ⟨high, at_index, price, ?_, ended, lookback, latest⟩
  -- The trigger is higher than the swing, so it is not the neighbour that confirms it.
  by_contra short
  have right := high.right
  have at_last : bars[swing.index + swingRight]? = some trigger := by
    rw [List.getLast?_eq_getElem?] at last
    rw [← last]
    congr 1
    omega
  have lower := high.higher (swing.index + swingRight) (by omega) le_rfl (by simp [swingRight])
    swing.bar at_index trigger at_last
  linarith

theorem soundLevel_of {swingPrice tolerance : ℚ} {trigger : OhlcvBar}
    {level : ManualResistanceEvidence}
    (chosen : selectResistance evidence command swingPrice trigger.intervalStart = .ok level)
    (near : |swingPrice - level.price| ≤ tolerance) :
    SoundLevel command evidence.resistances trigger swingPrice tolerance level := by
  unfold selectResistance at chosen
  split at chosen
  · cases chosen
  · rename_i ref named
    extract_lets eligible at chosen
    split at chosen
    · cases chosen
    · split at chosen
      · cases chosen
      · split at chosen
        · cases chosen
        · split at chosen
          · cases chosen
          · split at chosen
            · cases chosen
            · rename_i nearest first
              split at chosen
              · cases chosen
              · rename_i same
                obtain rfl := Except.ok.inj chosen
                have mem := (mem_sortedOn _).mp (List.mem_of_head? first)
                have listed := List.mem_filter.mp mem
                refine ⟨listed.1, by simpa using listed.2, fun other given counts => ?_,
                  (not_not.mp same) ▸ named, near⟩
                have other_mem : other ∈ eligible :=
                  List.mem_filter.mpr ⟨given, by simpa using counts⟩
                exact Prod.Lex.monotone_fst _ _ (le_of_head_sortedOn first other_mem)

/-! ## Trigger -/

/-- The candles of the mean are followed by the last candle alone. -/
theorem lastBefore_of {bars : List OhlcvBar} {trigger : OhlcvBar} {lookback : Int}
    (last : bars.getLast? = some trigger) (some_ : 0 < (priorBars bars lookback).length) :
    priorBars bars lookback ++ [trigger] <:+ bars := by
  unfold priorBars sliceFrom at *
  generalize tailEq : (if -(lookback + 1) < 0 then
    bars.drop (bars.length + -(lookback + 1)).toNat else bars.drop (-(lookback + 1)).toNat) = tail
    at *
  obtain ⟨start, rfl⟩ : ∃ start, tail = bars.drop start := by
    split at tailEq <;> exact ⟨_, tailEq.symm⟩
  have inside : ¬ bars.length ≤ start := by
    rw [List.length_dropLast, List.length_drop] at some_
    omega
  have ends : trigger ∈ (bars.drop start).getLast? := by
    rw [List.getLast?_drop, if_neg inside, last, Option.mem_some_iff]
  rw [List.dropLast_append_getLast? _ ends]
  exact List.drop_suffix _ _

theorem soundVolume_of {bars : List OhlcvBar} {trigger : OhlcvBar}
    (last : bars.getLast? = some trigger)
    (h : volumeRule bars trigger params = .ok (.pass .volumeSpike (some .volume))) :
    ∃ prior, SoundVolume bars trigger params.volumeLookback params.volumeRatio prior := by
  unfold volumeRule at h
  extract_lets prior meanVolume at h
  split at h
  · cases Except.ok.inj h
  · rename_i length
    split at h
    · cases h
    · rename_i defined
      split at h
      · cases Except.ok.inj h
      · rename_i mean
        have counted : (prior.length : Int) = params.volumeLookback := not_not.mp length
        have some_ : 0 < prior.length := by omega
        refine ⟨prior, lastBefore_of last some_, counted, mean, ?_⟩
        by_contra low
        rw [RuleResult.check, if_neg low] at h
        cases Except.ok.inj h

theorem ratio_of_barSignedQuoteFlow {hashing : FlowHashing} {identity : EvidenceMarketIdentity}
    {bar : OhlcvBar} {snapshot : TradeStreamSnapshot} {live : Bool} {flow : SignedQuoteFlow}
    (h : barSignedQuoteFlow hashing identity bar snapshot evaluated live = .ok flow) :
    ∃ signed total rest, barFlowSums bar snapshot = .ok (signed, total, rest) ∧ total ≠ 0 ∧
      flow.signedFlowRatio = signed / total := by
  unfold barSignedQuoteFlow at h
  obtain ⟨_, -, h⟩ := bind_eq_ok.mp h
  obtain ⟨_, -, h⟩ := bind_eq_ok.mp h
  obtain ⟨_, -, h⟩ := bind_eq_ok.mp h
  obtain ⟨_, -, h⟩ := bind_eq_ok.mp h
  obtain ⟨_, -, h⟩ := bind_eq_ok.mp h
  obtain ⟨⟨signed, total, buy, sell, count, last⟩, sums, h⟩ := bind_eq_ok.mp h
  obtain ⟨_, defined, h⟩ := bind_eq_ok.mp h
  obtain ⟨_, -, h⟩ := bind_eq_ok.mp h
  obtain rfl := Except.ok.inj h
  exact ⟨signed, total, _, sums, ensure_eq_ok.mp defined, rfl⟩

theorem imbalance_of {snapshot : TradeStreamSnapshot} {bars : List OhlcvBar} {trigger : OhlcvBar}
    {consumed : ConsumedFlow} {bound : ℚ}
    (h : consumeFlow runtime command snapshot bars (some trigger) evaluated = .ok consumed)
    (imbalance : consumed.flow.signedFlowRatio ≤ bound) :
    ∃ signed total rest, barFlowSums trigger snapshot = .ok (signed, total, rest) ∧
      total ≠ 0 ∧ signed / total ≤ bound := by
  unfold consumeFlow at h
  obtain ⟨closed, -, h⟩ := bind_eq_ok.mp h
  obtain ⟨cvd, -, h⟩ := bind_eq_ok.mp h
  obtain ⟨flow, flowEq, h⟩ := bind_eq_ok.mp h
  have same : consumed.flow = flow := by
    split at h
    · obtain ⟨terminal, -, h⟩ := bind_eq_ok.mp h
      obtain ⟨_, -, h⟩ := bind_eq_ok.mp h
      obtain rfl := Except.ok.inj h
      rfl
    · obtain rfl := Except.ok.inj h
      rfl
  rw [same] at imbalance
  obtain ⟨signed, total, rest, sums, defined, ratio⟩ := ratio_of_barSignedQuoteFlow
    (raising_eq_ok.mp flowEq)
  exact ⟨signed, total, rest, sums, defined, ratio ▸ imbalance⟩

/-! ## Soundness -/

theorem soundSetup_of (confirms : Confirms runtime policy command evidence evaluated params
      marketSymbol read) :
    SoundSetup command evidence params read.trigger read.swing read.resistance read.atr15m
      read.atr4h read.snapshot := by
  obtain ⟨⟨same15m, sound15m⟩, same4h, sound4h⟩ := bothSeries_of confirms.series
  have flow := confirms.flow
  have pattern := flow.pattern
  have start : read.windowStart = barLookbackStart read.trigger firstSliceCvdLookbackBars := by
    obtain ⟨_, -, window⟩ := bind_eq_ok.mp pattern.window
    exact (Except.ok.inj window).symm
  have last : evidence.series15m.getLast? = some read.trigger := same15m ▸ confirms.last
  have swept : read.swing.price + params.sweepAtr * read.atr15m ≤ read.trigger.high ∧
      read.trigger.close < read.swing.price ∧ read.trigger.close < read.trigger.openPrice := by
    have sweep := pattern.sweep
    unfold sweepReason at sweep
    split at sweep
    · cases sweep
    · split at sweep
      · cases sweep
      · exact ⟨not_not.mp ‹_›, not_not.mp ‹_›⟩
  have divergence := pattern.divergence
  refine {
    bars15m := sound15m
    bars4h := sound4h
    last := last
    named := confirms.named
    range15m := same15m ▸ confirms.atr15m
    range4h := same4h ▸ confirms.atr4h
    present := flow.snapshot
    pivot := ?_
    resistance := soundLevel_of pattern.resistance pattern.context
    pattern := ?_
    valid := fun chain behind bar mem => ?_
    current := fun chain behind => ?_ }
  · refine soundSwing_of (fun bar mem => (sound15m.closed bar mem).1) last ?_ divergence.1
    rw [← start, ← same15m]
    exact pattern.swing
  · exact {
      sweep := swept.1
      higher := divergence.1
      closeBack := swept.2.1
      bearish := swept.2.2
      volume := soundVolume_of last (same15m ▸ pattern.volume)
      divergence := ⟨read.cvdT, read.cvdS, start ▸ pattern.cvdT, start ▸ pattern.cvdS,
        divergence.2⟩
      imbalance := imbalance_of flow.consumed pattern.imbalance }
  · by_contra above
    exact flow.valid ⟨bar, behind.le_contiguousSubsequent.subset mem, not_le.mp above⟩
  · have shorter := behind.le_contiguousSubsequent.length_le
    have short := not_le.mp flow.current
    omega

section Setup

variable {previous : Option SetupAssessment} {given : Option FirstSliceEvaluationParams}
  {symbol : Option String} {assessment : SetupAssessment}

/-- A confirmed setup is sound exactly where the candles of its two series have ended when they
are evaluated. -/
theorem sound_iff
    (h : evaluateSetup runtime policy command evidence evaluated previous given symbol =
      .ok assessment) (confirmed : assessment.state = .confirmedSetup) :
    Sound runtime policy command evidence evaluated (resolveEvaluationParams given)
      (resolveMarket runtime symbol) ↔ evidence.EndedBy evaluated := by
  refine ⟨fun sound => sound.ended, fun ended => ?_⟩
  obtain ⟨read, confirms⟩ := (confirmed_iff h).mp confirmed
  exact ⟨ended, ⟨_, _, _, _, _, _, soundSetup_of confirms⟩,
    fun evaluation found => evaluateRules_monotone found⟩

/-- The context of a setup ends with its trigger, or one candle later. -/
theorem setup_endedBy : ∀ shift ∈ [0, 1],
    (setupEvidence shift []).EndedBy setupTime ↔ shift = 0 := by
  intro shift either
  unfold FirstSliceEvidenceBundle.EndedBy FirstSliceEvidenceBundle.series15m
    FirstSliceEvidenceBundle.series4h lastBars
  rw [show orderedBars (setupEvidence shift []).bars15m .m15 = setupBars15m from
    setupBars15m_ordered, show orderedBars (setupEvidence shift []).bars4h .h4 =
    setupBars4h shift from setupBars4h_ordered shift either]
  revert shift
  decide +kernel

/-- The setup of candles that have ended. -/
theorem setup_sound : ∃ assessment,
    evaluateSetup setupRuntime (setupPolicy .triggerOhlcv) (setupCommand .final)
      (setupEvidence 0 []) setupTime none none none = .ok assessment ∧
      Sound setupRuntime (setupPolicy .triggerOhlcv) (setupCommand .final) (setupEvidence 0 [])
        setupTime (resolveEvaluationParams none) (resolveMarket setupRuntime none) := by
  obtain ⟨read, confirms⟩ := @setup_confirms .triggerOhlcv 0 [] .final (by simp) (by simp)
    (by simp) (by decide) (by decide)
  obtain ⟨assessment, found, confirmed⟩ := confirmed_of none confirms
  exact ⟨assessment, found,
    (sound_iff found confirmed).mpr ((setup_endedBy 0 (by simp)).mpr rfl)⟩

/-- A context candle that ends four hours behind the evaluation leaves the setup confirmed. -/
theorem unended_context_confirms : ∃ assessment,
    evaluateSetup setupRuntime (setupPolicy .triggerOhlcv) (setupCommand .final)
      (setupEvidence 1 []) setupTime none none none = .ok assessment ∧
      assessment.state = .confirmedSetup ∧
      ¬ Sound setupRuntime (setupPolicy .triggerOhlcv) (setupCommand .final) (setupEvidence 1 [])
        setupTime (resolveEvaluationParams none) (resolveMarket setupRuntime none) := by
  obtain ⟨read, confirms⟩ := @setup_confirms .triggerOhlcv 1 [] .final (by simp) (by simp)
    (by simp) (by decide) (by decide)
  obtain ⟨assessment, found, confirmed⟩ := confirmed_of none confirms
  exact ⟨assessment, found, confirmed,
    fun sound => absurd ((setup_endedBy 1 (by simp)).mp sound.ended) (by decide)⟩

end Setup

end AlphaTrade.Fusion
