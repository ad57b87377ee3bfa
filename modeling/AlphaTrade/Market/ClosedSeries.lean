import AlphaTrade.Library.PyValue
import AlphaTrade.Market.Freshness

/-!
# Closed series and the average true range

A closed series is a run of FINAL candles of one market, each starting where the one before it
ends. The average true range is exact but for its named output rounding. The hash of a series is
read by no function here and is left out, and so are the two instants in the text of a gap.
-/
namespace AlphaTrade.Market
open Library
open Execution (Instant)

/-- What a read of a series raises: a forming candle, or another error of the contracts. -/
inductive SeriesError where
  | formingCandle (message : String)
  | market (error : MarketError)
  deriving DecidableEq, Repr

def raising {α : Type} (x : Except MarketError α) : Except SeriesError α := x.mapError .market

theorem raising_eq_ok {α : Type} {x : Except MarketError α} {a : α} :
    raising x = .ok a ↔ x = .ok a := by
  cases x <;> simp [raising, Except.mapError]

/-! ## Series -/

/-- The loop of `assert_closed_series_bars` behind a candle. -/
def assertBarsFrom (identity : EvidenceMarketIdentity) (timeframe : Timeframe) :
    Option Instant → List String → List OhlcvBar → Except SeriesError Unit
  | _, _, [] => .ok ()
  | previousEnd, seenIds, bar :: bars => do
    ensure (bar.instrument.instrumentId = identity.instrument.instrumentId) (.market
      (.wrongInstrument "OHLCV bar instrument does not match series identity."))
    ensure (bar.timeframe = timeframe) (.market
      (.validation "Mixed timeframes are not allowed in a closed series."))
    ensure (bar.finality = .final) (.formingCandle
      ("Closed series rejected candle " ++ bar.sourceEventId ++ "."))
    ensure (bar.providerComplete = true) (.formingCandle
      ("Closed series rejected incomplete candle " ++ bar.sourceEventId ++ "."))
    ensure (bar.sourceEventId ∉ seenIds) (.market
      (.gapDetected ("Duplicate OHLCV source_event_id " ++ bar.sourceEventId ++ ".")))
    ensure (∀ stop ∈ previousEnd, bar.intervalStart = stop) (.market
      (.gapDetected "OHLCV interval gap."))
    assertBarsFrom identity timeframe (some bar.intervalEnd) (bar.sourceEventId :: seenIds) bars

def assertClosedSeriesBars (identity : EvidenceMarketIdentity) (timeframe : Timeframe)
    (bars : List OhlcvBar) : Except SeriesError Unit := do
  raising (requirePerpetual identity)
  ensure (∀ own ∈ identity.timeframe, own = timeframe) (.market
    (.validation "Series timeframe does not match identity timeframe."))
  assertBarsFrom identity timeframe none [] bars

structure ClosedOhlcvSeries where
  identity : EvidenceMarketIdentity
  timeframe : Timeframe
  bars : List OhlcvBar
  evaluatedAt : Instant
  closedContiguous : assertClosedSeriesBars identity timeframe bars = .ok ⟨⟩

/-- Every source family is a contracted one, so the source's test of the family never raises. -/
def requireClosedSeries (bars : List OhlcvBar) (identity : EvidenceMarketIdentity)
    (timeframe : Timeframe) (evaluatedAt : Instant) (minBars : Nat) :
    Except SeriesError ClosedOhlcvSeries := do
  raising (requirePerpetual identity)
  raising (requireInstrument identity identity.instrument)
  ensure (∀ own ∈ identity.timeframe, own = timeframe) (.market
    (.validation "Identity timeframe does not match requested timeframe."))
  let forming := bars.filter fun bar => bar.finality ≠ .final
  ensure (forming = []) (.formingCandle ("Forming candles cannot confirm evidence: "
    ++ (forming.head?.map (·.sourceEventId)).getD "" ++ "."))
  ensure (minBars ≤ bars.length) (.formingCandle ("Need at least " ++ toString minBars
    ++ " final candles; received " ++ toString bars.length ++ "."))
  -- a slice from minus nought is the whole list
  let selected := if minBars = 0 then bars else bars.drop (bars.length - minBars)
  match closed : assertClosedSeriesBars identity timeframe selected with
  | .ok ⟨⟩ => .ok ⟨identity, timeframe, selected, evaluatedAt, closed⟩
  | .error e => .error e

/-- What the loop asks of the candles behind a close and behind other candles' events. -/
theorem assertBarsFrom_eq_ok {identity : EvidenceMarketIdentity} {timeframe : Timeframe}
    {previousEnd : Option Instant} {seenIds : List String} {bars : List OhlcvBar} :
    assertBarsFrom identity timeframe previousEnd seenIds bars = .ok ⟨⟩ ↔
      (∀ bar ∈ bars, bar.instrument.instrumentId = identity.instrument.instrumentId ∧
        bar.timeframe = timeframe ∧ bar.Closed ∧ bar.sourceEventId ∉ seenIds) ∧
      (bars.map (·.sourceEventId)).Nodup ∧
      (∀ stop ∈ previousEnd, ∀ bar ∈ bars.head?, bar.intervalStart = stop) ∧
      Contiguous bars := by
  induction bars generalizing previousEnd seenIds with
  | nil => simp [assertBarsFrom, Contiguous]
  | cons bar bars ih =>
    have chain : Contiguous (bar :: bars) ↔
        (∀ next ∈ bars.head?, next.intervalStart = bar.intervalEnd) ∧ Contiguous bars := by
      cases bars <;> simp [Contiguous]
    simp only [assertBarsFrom, bind_eq_ok, ensure_eq_ok, exists_const, ih, chain,
      List.map_cons, List.nodup_cons, List.forall_mem_cons, List.head?_cons, Option.mem_some_iff,
      forall_eq', OhlcvBar.Closed, List.mem_map, not_exists, not_and]
    constructor
    · rintro ⟨instrument, own, final, complete, fresh, starts, rest, distinct, next, contiguous⟩
      refine ⟨⟨⟨instrument, own, ⟨final, complete⟩, fresh⟩, fun other mem => ?_⟩,
        ⟨fun other mem same => ?_, distinct⟩, starts, next, contiguous⟩
      · obtain ⟨instrument', own', closed', new⟩ := rest other mem
        exact ⟨instrument', own', closed', fun seen => new (List.mem_cons_of_mem _ seen)⟩
      · exact (rest other mem).2.2.2 (same ▸ List.mem_cons_self)
    · rintro ⟨⟨⟨instrument, own, closed, fresh⟩, rest⟩, ⟨new, distinct⟩, starts, next, contiguous⟩
      refine ⟨instrument, own, closed.1, closed.2, fresh, starts, fun other mem => ?_, distinct,
        next, contiguous⟩
      obtain ⟨instrument', own', closed', unseen⟩ := rest other mem
      refine ⟨instrument', own', closed', fun seen => ?_⟩
      rcases List.mem_cons.mp seen with same | seen
      · exact new other mem same
      · exact unseen seen

/-- What a series is once it is closed. -/
theorem assertClosedSeriesBars_eq_ok {identity : EvidenceMarketIdentity} {timeframe : Timeframe}
    {bars : List OhlcvBar} :
    assertClosedSeriesBars identity timeframe bars = .ok ⟨⟩ ↔
      requirePerpetual identity = .ok ⟨⟩ ∧ (∀ own ∈ identity.timeframe, own = timeframe) ∧
      (∀ bar ∈ bars, bar.instrument.instrumentId = identity.instrument.instrumentId ∧
        bar.timeframe = timeframe ∧ bar.Closed) ∧
      (bars.map (·.sourceEventId)).Nodup ∧ Contiguous bars := by
  unfold assertClosedSeriesBars
  simp only [bind_eq_ok, ensure_eq_ok, exists_const, raising_eq_ok, assertBarsFrom_eq_ok,
    List.not_mem_nil, not_false_eq_true, and_true, Option.not_mem_none, false_imp_iff,
    implies_true, true_and]
  constructor
  · rintro ⟨⟨⟩, passed⟩
    exact passed
  · intro passed
    exact ⟨⟨⟩, passed⟩

/-- A series is the last candles of what was read. -/
theorem requireClosedSeries_bars {bars : List OhlcvBar} {identity : EvidenceMarketIdentity}
    {timeframe : Timeframe} {evaluated : Instant} {minBars : Nat}
    {series : ClosedOhlcvSeries} (positive : 0 < minBars)
    (h : requireClosedSeries bars identity timeframe evaluated minBars = .ok series) :
    series.bars = bars.drop (bars.length - minBars) ∧ minBars ≤ bars.length ∧
      ∀ bar ∈ bars, bar.finality = .final := by
  unfold requireClosedSeries at h
  obtain ⟨-, -, h⟩ := bind_eq_ok.mp h
  obtain ⟨-, -, h⟩ := bind_eq_ok.mp h
  obtain ⟨-, -, h⟩ := bind_eq_ok.mp h
  extract_lets forming at h
  obtain ⟨_, final, h⟩ := bind_eq_ok.mp h
  obtain ⟨_, enough, h⟩ := bind_eq_ok.mp h
  rw [ensure_eq_ok] at final enough
  split at h
  · obtain rfl := Except.ok.inj h
    refine ⟨if_neg positive.ne', enough, fun bar mem => ?_⟩
    by_contra other
    exact List.filter_eq_nil_iff.mp final bar mem (by simpa using other)
  · cases h

/-- Every candle of a series was read. -/
theorem mem_of_requireClosedSeries {bars : List OhlcvBar} {identity : EvidenceMarketIdentity}
    {timeframe : Timeframe} {evaluated : Instant} {minBars : Nat} {series : ClosedOhlcvSeries}
    (h : requireClosedSeries bars identity timeframe evaluated minBars = .ok series)
    {bar : OhlcvBar} (mem : bar ∈ series.bars) : bar ∈ bars := by
  unfold requireClosedSeries at h
  obtain ⟨-, -, h⟩ := bind_eq_ok.mp h
  obtain ⟨-, -, h⟩ := bind_eq_ok.mp h
  obtain ⟨-, -, h⟩ := bind_eq_ok.mp h
  extract_lets forming at h
  obtain ⟨-, -, h⟩ := bind_eq_ok.mp h
  obtain ⟨-, -, h⟩ := bind_eq_ok.mp h
  split at h
  · obtain rfl := Except.ok.inj h
    change bar ∈ if minBars = 0 then bars else bars.drop (bars.length - minBars) at mem
    split at mem
    · exact mem
    · exact List.mem_of_mem_drop mem
  · cases h

theorem requireClosedSeries_of {bars : List OhlcvBar} {identity : EvidenceMarketIdentity}
    {timeframe : Timeframe} {evaluated : Instant} {minBars : Nat} (positive : 0 < minBars)
    (perpetual : requirePerpetual identity = .ok ⟨⟩)
    (own : ∀ own ∈ identity.timeframe, own = timeframe)
    (final : ∀ bar ∈ bars, bar.finality = .final) (enough : minBars ≤ bars.length)
    (closed : assertClosedSeriesBars identity timeframe (bars.drop (bars.length - minBars)) =
      .ok ⟨⟩) :
    requireClosedSeries bars identity timeframe evaluated minBars =
      .ok ⟨identity, timeframe, bars.drop (bars.length - minBars), evaluated, closed⟩ := by
  have same : requireInstrument identity identity.instrument = .ok ⟨⟩ :=
    bind_eq_ok.mpr ⟨_, ensure_of rfl, ensure_of rfl⟩
  have forming : bars.filter (fun bar => bar.finality ≠ .final) = [] :=
    List.filter_eq_nil_iff.mpr fun bar mem => by simpa using final bar mem
  unfold requireClosedSeries
  rw [perpetual, same]
  simp only [raising, Except.mapError, ok_bind]
  rw [ensure_of own, ok_bind, ensure_of forming, ok_bind, ensure_of enough, ok_bind]
  split
  · simp only [if_neg positive.ne']
  · rename_i e refused
    rw [if_neg positive.ne', closed] at refused
    cases refused

/-! ## Average true range -/

/-- `_true_ranges`, behind a close or at the first candle. -/
def trueRanges : Option ℚ → List OhlcvBar → List ℚ
  | _, [] => []
  | none, bar :: bars => (bar.high - bar.low) :: trueRanges (some bar.close) bars
  | some previous, bar :: bars =>
    max (max (bar.high - bar.low) |bar.high - previous|) |bar.low - previous| ::
      trueRanges (some bar.close) bars

def identityOk : List OhlcvBar → Option String
  | [] => none
  | first :: bars =>
    if bars.all fun bar => bar.instrument.venue = first.instrument.venue ∧
        bar.instrument.marketType = first.instrument.marketType ∧
        bar.instrument.providerSymbol = first.instrument.providerSymbol ∧
        bar.timeframe = first.timeframe
    then none else some "identity_mismatch"

def pairReason : List OhlcvBar → Option String
  | previous :: current :: bars =>
    if current.intervalStart < previous.intervalStart then some "unordered_interval"
    else if current.intervalStart < previous.intervalEnd then some "overlap"
    else if previous.intervalEnd < current.intervalStart then some "positive_gap"
    else pairReason (current :: bars)
  | _ => none

def contiguityReason (bars : List OhlcvBar) : Option String :=
  if (bars.map fun bar => (bar.intervalStart, bar.intervalEnd)).Nodup then pairReason bars
  else some "duplicate_interval"

/-- `items[:stop]`. -/
def sliceTo {α : Type} (items : List α) (stop : Int) : List α :=
  if stop < 0 then items.take (items.length + stop).toNat else items.take stop.toNat

/-- `items[start:]`. -/
def sliceFrom {α : Type} (items : List α) (start : Int) : List α :=
  if start < 0 then items.drop (items.length + start).toNat else items.drop start.toNat

def wilderAverage (period : Int) (ranges : List ℚ) : ℚ :=
  (sliceFrom ranges period).foldl (fun atr range => (atr * (period - 1 : Int) + range) / period)
    ((sliceTo ranges period).sum / period)

/-- `compute_wilder_atr_v1`: the value, or why it is missing. A candle whose provider symbol is
too long for the feature, and a period of zero, raise what no caller catches. -/
def computeWilderAtrV1 (bars : List OhlcvBar) (period : Int) :
    Except MarketError (Except String ℚ) := do
  ensure (∀ bar ∈ bars, bar.instrument.providerSymbol.length ≤ 30)
    (.validation "String should have at most 30 characters")
  if bars = [] then return .error "no_bars"
  match identityOk bars with
  | some reason => return .error reason
  | none =>
    match contiguityReason bars with
    | some reason => return .error reason
    | none =>
      if (bars.length : Int) < period then return .error "warmup_incomplete"
      else
        ensure (period ≠ 0) (.validation "decimal.DivisionUndefined")
        return .ok (quantizeHalfEven 16 (wilderAverage period (trueRanges none bars)))

theorem contiguityReason_eq_none {bars : List OhlcvBar} (contiguous : Contiguous bars) :
    contiguityReason bars = none := by
  have apart : (bars.map fun bar => (bar.intervalStart, bar.intervalEnd)).Nodup := by
    refine List.pairwise_map.mpr (List.pairwise_iff_getElem.mpr fun i j here there lt same => ?_)
    have behind := contiguous.apart lt (List.getElem?_eq_getElem here)
      (List.getElem?_eq_getElem there)
    have lasts := bars[j].intervalStart_lt_intervalEnd
    rw [← (Prod.mk.inj same).2] at lasts
    exact behind.not_gt lasts
  have pairs : pairReason bars = none := by
    clear apart
    fun_induction pairReason bars with
    | case1 previous current rest before =>
      rw [(List.isChain_cons_cons.mp contiguous).1] at before
      exact absurd before previous.intervalStart_lt_intervalEnd.not_gt
    | case2 previous current rest _ before =>
      rw [(List.isChain_cons_cons.mp contiguous).1] at before
      exact absurd before (lt_irrefl _)
    | case3 previous current rest _ _ before =>
      rw [(List.isChain_cons_cons.mp contiguous).1] at before
      exact absurd before (lt_irrefl _)
    | case4 previous current rest _ _ _ ih => exact ih (List.isChain_cons_cons.mp contiguous).2
    | case5 => rfl
  rw [contiguityReason, if_pos apart, pairs]

/-- The value of candles of one market that meet. -/
theorem computeWilderAtrV1_of {bars : List OhlcvBar} {period : Int}
    (named : ∀ bar ∈ bars, bar.instrument.providerSymbol.length ≤ 30) (some : bars ≠ [])
    (own : identityOk bars = none) (contiguous : Contiguous bars)
    (enough : period ≤ bars.length) (positive : 0 < period) :
    computeWilderAtrV1 bars period =
      .ok (.ok (quantizeHalfEven 16 (wilderAverage period (trueRanges none bars)))) := by
  unfold computeWilderAtrV1
  rw [ensure_of named, ok_bind, if_neg some, own]
  dsimp only
  rw [contiguityReason_eq_none contiguous]
  dsimp only
  rw [if_neg enough.not_gt, ensure_of positive.ne', ok_bind]
  rfl

end AlphaTrade.Market
