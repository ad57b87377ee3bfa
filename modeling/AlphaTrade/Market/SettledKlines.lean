import AlphaTrade.Market.HonestCoverage
import AlphaTrade.Market.Klines

/-!
# Cached klines

A payload is shared by the requests of one bucket of ten seconds. Candles close where buckets begin,
so a candle that has settled for a request had closed as the bucket began, and a load within its
grace would have been refused.

## Main results

* `klines_settled_when_loaded`: in every interleaving of callers, a candle that is returned had been
  closed for the grace at the time that its payload was loaded for, and both reads of the load
  showed it so.
-/
namespace AlphaTrade.Market
open Library
open Execution (Instant)

variable {runtime : KlineRuntime} {instrument : InstrumentIdentity} {timeframe : Timeframe}
  {evaluatedAt : Instant} {row : Option (List PyJson)} {bar : OhlcvBar} {payload : KlinePayload}
  {bars : List OhlcvBar} {request load : KlineRequest}

/-! ## Candles of rows -/

/-- The fields of a candle, but for its hash. -/
theorem parseKline_fields
    (parsed : parseKline runtime instrument timeframe evaluatedAt settlementGrace row = .ok bar) :
    ∃ values, parseRow runtime timeframe row = .ok values ∧
      { bar.toOhlcvFields with contentHash := "" } =
        klineFields runtime instrument timeframe evaluatedAt settlementGrace values := by
  obtain ⟨values, read, built⟩ := bind_eq_ok.mp parsed
  refine ⟨values, read, ?_⟩
  obtain ⟨_, -, built⟩ := bind_eq_ok.mp built
  split at built
  · rw [← Except.ok.inj built]
    rfl
  · cases built

/-- What two candles of one row share, whenever they were judged. -/
structure SameCandle (bar other : OhlcvBar) : Prop where
  start : other.intervalStart = bar.intervalStart
  stop : other.intervalEnd = bar.intervalEnd
  openPrice : other.openPrice = bar.openPrice
  high : other.high = bar.high
  low : other.low = bar.low
  close : other.close = bar.close
  baseVolume : other.baseVolume = bar.baseVolume
  quoteVolume : other.quoteVolume = bar.quoteVolume
  tradeCount : other.tradeCount = bar.tradeCount

theorem sameCandle_of_row {other : OhlcvBar} {instrument' : InstrumentIdentity} {at' : Instant}
    (parsed : parseKline runtime instrument timeframe evaluatedAt settlementGrace row = .ok bar)
    (again : parseKline runtime instrument' timeframe at' settlementGrace row = .ok other) :
    SameCandle bar other := by
  obtain ⟨values, read, fields⟩ := parseKline_fields parsed
  obtain ⟨values', read', fields'⟩ := parseKline_fields again
  obtain rfl := Except.ok.inj (read.symm.trans read')
  have field {α : Type} (f : OhlcvFields → α)
      (same : f (klineFields runtime instrument' timeframe at' settlementGrace values) =
        f (klineFields runtime instrument timeframe evaluatedAt settlementGrace values)) :
      f { other.toOhlcvFields with contentHash := "" } =
        f { bar.toOhlcvFields with contentHash := "" } := by
    rw [fields, fields', same]
  exact ⟨field (·.intervalStart) rfl, field (·.intervalEnd) rfl, field (·.openPrice) rfl,
    field (·.high) rfl, field (·.low) rfl, field (·.close) rfl, field (·.baseVolume) rfl,
    field (·.quoteVolume) rfl, field (·.tradeCount) rfl⟩

/-- A candle is final once it has been closed for the grace. -/
theorem final_iff_of_parse
    (parsed : parseKline runtime instrument timeframe evaluatedAt settlementGrace row = .ok bar) :
    bar.finality = .final ↔ bar.intervalEnd + settlementGrace ≤ evaluatedAt := by
  obtain ⟨values, -, fields⟩ := parseKline_fields parsed
  have stop : bar.intervalEnd = klineEnd timeframe values.openMs :=
    congrArg (·.intervalEnd) fields
  have finality : bar.finality = classifyKlineFinality (klineEnd timeframe values.openMs)
      evaluatedAt settlementGrace (klineEnd timeframe values.openMs ≤ evaluatedAt) :=
    congrArg (·.finality) fields
  have grace : 0 ≤ settlementGrace := by decide
  rw [finality, stop]
  unfold classifyKlineFinality
  split
  · rename_i still
    simp only [decide_eq_false_iff_not] at still
    simp only [reduceCtorEq, false_iff]
    exact fun settled => still ((Int.le_add_of_nonneg_right grace).trans settled)
  · split
    · rename_i early
      simp only [reduceCtorEq, false_iff]
      exact early.not_ge
    · rename_i late
      simp only [true_iff]
      exact not_lt.mp late

/-- A candle of a row that opens on a whole minute closes on a whole minute. -/
theorem end_of_aligned {rows : List (Option (List PyJson))}
    (aligned : KlinePayload.Aligned runtime (.list rows)) (mem : row ∈ rows)
    (parsed : parseKline runtime instrument timeframe evaluatedAt settlementGrace row = .ok bar) :
    ∃ minutes : Int, bar.intervalEnd = minutes * 60000000 := by
  obtain ⟨values, read, fields⟩ := parseKline_fields parsed
  have stop : bar.intervalEnd = klineEnd timeframe values.openMs :=
    congrArg (·.intervalEnd) fields
  have opens : 60000 ∣ values.openMs := by
    unfold parseRow at read
    split at read
    · rename_i openMs _ _ _ _ _ _ _ _ _
      obtain ⟨n, number, read⟩ := bind_eq_ok.mp read
      simp only [bind_eq_ok] at read
      obtain ⟨_, -, _, -, _, -, _, -, _, -, _, -, _, -, _, -, read⟩ := read
      rw [← Except.ok.inj read]
      refine aligned _ mem openMs rfl n ?_
      rw [raising_eq_ok] at number
      cases result : runtime.int openMs with
      | error e =>
        rw [result] at number
        cases number
      | ok m =>
        rw [result] at number
        exact congrArg Except.ok (Except.ok.inj number)
    · cases read
  obtain ⟨n, opens⟩ := opens
  obtain ⟨m, lasts⟩ : (60 : Int) ∣ timeframe.intervalSeconds := by
    cases timeframe <;> decide
  refine ⟨n + m, ?_⟩
  rw [stop, klineEnd, intervalTimedelta, opens, lasts]
  ring

/-- What is settled at a time: the final candles of rows that all can be read, none in its grace. -/
theorem settledBars_eq_ok
    (settled : settledBars runtime instrument timeframe evaluatedAt payload = .ok bars) :
    ∃ rows, payload = .list rows ∧
      (∀ row ∈ rows, ∃ bar, parseKline runtime instrument timeframe evaluatedAt settlementGrace
        row = .ok bar ∧ ¬Settling evaluatedAt bar ∧ (bar.finality = .final → bar ∈ bars)) ∧
      ∀ bar ∈ bars, bar.finality = .final ∧ ∃ row ∈ rows,
        parseKline runtime instrument timeframe evaluatedAt settlementGrace row = .ok bar := by
  cases payload with
  | other => cases settled
  | list rows =>
    obtain ⟨parsed, all, settled⟩ := bind_eq_ok.mp settled
    obtain ⟨_, guarded, settled⟩ := bind_eq_ok.mp settled
    obtain rfl := Except.ok.inj settled
    refine ⟨rows, rfl, fun row mem => ?_, fun bar mem => ?_⟩
    · have result := List.mem_map_of_mem (f := parseKline runtime instrument timeframe evaluatedAt
        settlementGrace) mem
      rw [map_of_mapM all] at result
      obtain ⟨bar, listed, isBar⟩ := List.mem_map.mp result
      refine ⟨bar, isBar.symm, ensure_eq_ok.mp guarded bar listed, fun final => ?_⟩
      exact List.mem_filter.mpr ⟨listed, decide_eq_true final⟩
    · obtain ⟨listed, final⟩ := List.mem_filter.mp mem
      exact ⟨of_decide_eq_true final, (mem_of_mapM all bar).mp listed⟩

/-! ## Buckets -/

theorem ttlMs_klineCache : ttlMs klineCache = 10000 := by
  have whole : klineCache.ttlSeconds * 1000 = ((10000 : Int) : ℚ) := by
    norm_num [klineCache]
  rw [ttlMs, whole, Int.floor_intCast]
  rfl

/-- The bucket of a reading lies between two whole tens of seconds. -/
theorem lt_of_bucket (runtime : KlineRuntime) {bucket time : Int}
    (within : runtime.timestampMs time < (bucket + 1) * 10000) :
    time < (bucket + 1) * 10000000 := by
  by_contra beyond
  have reached : (bucket + 1) * 10 * 1000000 ≤ time := by omega
  have later := runtime.timestampMs_mono _ _ reached
  rw [runtime.timestampMs_seconds] at later
  omega

theorem le_of_bucket (runtime : KlineRuntime) {bucket time : Int} (epoch : 0 ≤ time)
    (horizon : time ≤ 2 ^ 34 * 1000000) (within : bucket * 10000 ≤ runtime.timestampMs time) :
    bucket * 10000000 ≤ time := by
  by_contra before
  have positive : 0 < bucket * 10 := by omega
  have bounded := runtime.timestampMs_mono _ _ horizon
  rw [runtime.timestampMs_seconds] at bounded
  have inside : bucket * 10 ≤ 2 ^ 34 := by omega
  have strict := runtime.timestampMs_before (bucket * 10) positive inside
  have below : time ≤ bucket * 10 * 1000000 - 1 := by omega
  have earlier := runtime.timestampMs_mono _ _ below
  omega

/-- A candle that has settled for one time of a bucket has settled for another one of it, unless
that one is in the candle's grace. -/
theorem settled_of_bucket (runtime : KlineRuntime) {loaded judged stop minutes : Int}
    (epoch : 0 ≤ loaded) (horizon : loaded ≤ 2 ^ 34 * 1000000)
    (same : runtime.timestampMs loaded / 10000 = runtime.timestampMs judged / 10000)
    (whole : stop = minutes * 60000000) (settled : stop + settlementGrace ≤ judged)
    (clear : ¬(0 ≤ loaded - stop ∧ loaded - stop < settlementGrace)) :
    stop + settlementGrace ≤ loaded := by
  have grace : settlementGrace = 5000000 := rfl
  have begins : runtime.timestampMs loaded / 10000 * 10000 ≤ runtime.timestampMs loaded := by omega
  have ends : runtime.timestampMs judged < (runtime.timestampMs judged / 10000 + 1) * 10000 := by
    omega
  have lower := le_of_bucket runtime epoch horizon begins
  have upper := lt_of_bucket runtime ends
  omega

theorem Timeframe.eq_of_value {left right : Timeframe} (same : left.value = right.value) :
    left = right := by
  cases left <;> cases right <;> first | rfl | exact absurd same (by decide)

/-! ## Fetches -/

/-- A candle that is returned had settled at the time its payload was loaded for, and both reads of
the load had it. -/
structure SettledWhenLoaded (runtime : KlineRuntime) (load : KlineRequest) (reads : KlineReads)
    (bar : OhlcvBar) : Prop where
  settled : bar.intervalEnd + settlementGrace ≤ load.evaluatedAt
  readLater : bar.intervalEnd + settlementGrace ≤ reads.firstAt
  confirmed : ∃ first second bars, reads.first = .ok first ∧ reads.second = .ok second ∧
    load.settled runtime first = .ok bars ∧ load.settled runtime second = .ok bars ∧
    ∃ other ∈ bars, SameCandle bar other

/-- A payload that a load has confirmed. -/
theorem confirmedKlines_eq_ok {first second : Except SeriesError KlinePayload}
    (confirmed : confirmedKlines runtime load first second = .ok payload) :
    ∃ before bars, first = .ok before ∧ second = .ok payload ∧
      load.settled runtime before = .ok bars ∧ load.settled runtime payload = .ok bars := by
  obtain ⟨before, read, confirmed⟩ := bind_eq_ok.mp confirmed
  obtain ⟨bars, settled, confirmed⟩ := bind_eq_ok.mp confirmed
  obtain ⟨_, -, confirmed⟩ := bind_eq_ok.mp confirmed
  obtain ⟨after, again, confirmed⟩ := bind_eq_ok.mp confirmed
  obtain ⟨bars', settled', confirmed⟩ := bind_eq_ok.mp confirmed
  obtain ⟨_, same, confirmed⟩ := bind_eq_ok.mp confirmed
  obtain rfl := Except.ok.inj confirmed
  obtain rfl := ensure_eq_ok.mp same
  exact ⟨before, bars, read, again, settled, settled'⟩

/-- A candle that is settled for a request had settled for every load of its key. -/
theorem settledWhenLoaded {reads : KlineReads} (honest : reads.Honest runtime load)
    (confirmed : confirmedKlines runtime load reads.first reads.second = .ok payload)
    (sameKey : load.key runtime = request.key runtime) (epoch : 0 ≤ load.evaluatedAt)
    (horizon : load.evaluatedAt ≤ 2 ^ 34 * 1000000)
    (settled : request.settled runtime payload = .ok bars) (mem : bar ∈ bars) :
    SettledWhenLoaded runtime load reads bar := by
  obtain ⟨before, kept, read, again, first, second⟩ := confirmedKlines_eq_ok confirmed
  obtain ⟨rows, rfl, -, each⟩ := settledBars_eq_ok settled
  obtain ⟨final, row, listed, parsed⟩ := each bar mem
  obtain ⟨_, ⟨⟩, every, -⟩ := settledBars_eq_ok second
  obtain ⟨other, parsed', clear, kept_of_final⟩ := every row listed
  have sameFrame : load.timeframe = request.timeframe :=
    Timeframe.eq_of_value (congrArg KlineKey.interval sameKey)
  rw [sameFrame] at parsed'
  have same := sameCandle_of_row parsed parsed'
  obtain ⟨minutes, whole⟩ := end_of_aligned (honest.aligned _ again) listed parsed
  have bucket := congrArg KlineKey.bucket sameKey
  simp only [KlineRequest.key, ttlMs_klineCache] at bucket
  have closed : bar.intervalEnd + settlementGrace ≤ load.evaluatedAt := by
    unfold Settling at clear
    rw [same.stop] at clear
    exact settled_of_bucket runtime epoch horizon bucket whole
      ((final_iff_of_parse parsed).mp final) clear
  refine ⟨closed, closed.trans honest.late, before, .list rows, kept, read, again, first, second,
    other, kept_of_final ?_, same⟩
  rw [final_iff_of_parse parsed', same.stop]
  exact closed

/-- **Cached klines.** In every interleaving of callers, a caller is answered with a payload that
was loaded for its key, and a candle that it returns had settled when any load that may have brought
the payload was evaluated, from the epoch on. -/
theorem klines_settled_when_loaded (runtime : KlineRuntime)
    {s : PublicRead.CacheState KlineRequest KlineKey KlinePayload SeriesError}
    (reachable : PublicRead.Reachable (klineLoader runtime) klineCache s)
    {request : KlineRequest} {outcome : Except SeriesError KlinePayload}
    (answered : (request, outcome) ∈ s.answered) {series : ClosedOhlcvSeries}
    (fetched : fetchClosedOhlcv runtime request outcome = .ok series) :
    ∃ payload, outcome = .ok payload ∧
      (∃ (load : KlineRequest) (reads : KlineReads), load.key runtime = request.key runtime ∧
        reads.Honest runtime load ∧
        confirmedKlines runtime load reads.first reads.second = .ok payload) ∧
      ∀ (load : KlineRequest) (reads : KlineReads), load.key runtime = request.key runtime →
        reads.Honest runtime load →
        confirmedKlines runtime load reads.first reads.second = .ok payload →
        0 ≤ load.evaluatedAt → load.evaluatedAt ≤ 2 ^ 34 * 1000000 →
        ∀ bar ∈ series.bars, SettledWhenLoaded runtime load reads bar := by
  obtain ⟨_, -, fetched⟩ := bind_eq_ok.mp fetched
  obtain ⟨payload, isPayload, fetched⟩ := bind_eq_ok.mp fetched
  obtain ⟨bars, settled, fetched⟩ := bind_eq_ok.mp fetched
  obtain ⟨_, -, closed⟩ := bind_eq_ok.mp fetched
  rw [isPayload] at answered
  obtain ⟨load, sameKey, reads, honest, confirmed⟩ :=
    PublicRead.answered_loaded reachable answered
  refine ⟨payload, isPayload, ⟨load, reads, sameKey, honest, confirmed.symm⟩, ?_⟩
  intro load reads sameKey honest confirmed epoch horizon bar mem
  exact settledWhenLoaded honest confirmed sameKey epoch horizon settled
    (mem_of_requireClosedSeries closed mem)

theorem milliseconds_before {seconds : Int} (positive : 0 < seconds) :
    (seconds * 1000000 - 1).tdiv 1000 < seconds * 1000 := by
  rw [Int.tdiv_eq_ediv_of_nonneg (by omega)]
  omega

def klineSampleRuntime : KlineRuntime where
  toPyRuntime := sampleRuntime
  timestampMs_before _ positive _ := milliseconds_before positive
  enabledId _ := .ok sampleInstrument.instrumentId
  startText start := toString start
  contentHash fields := toString fields.intervalStart

def klineIdentity : EvidenceMarketIdentity where
  venue := .binance
  marketType := .perpetual
  instrument := sampleInstrument
  timeframe := none
  source := ⟨.binanceUsdmFuturesPublic, binanceName, binanceRestAdapterVersion, "buyer_is_maker"⟩
  provenance := ⟨binanceName, .binanceUsdmFuturesPublic, binanceRestAdapterVersion, true, false,
    false, false, none⟩
  sameVenue := sampleIdentity.sameVenue
  sameMarket := sampleIdentity.sameMarket

def minuteRequest (evaluatedAt : Instant) : KlineRequest where
  identity := klineIdentity
  instrument := sampleInstrument
  timeframe := .m1
  minFinalBars := 1
  evaluatedAt := evaluatedAt

def minutePayload (minutes : List Int) : KlinePayload :=
  .list (minutes.map fun minute => some [.int (minute * 60000), .int 100, .int 100, .int 100,
    .int 100, .int 1, .int (minute * 60000 + 59999), .int 100, .int 1])

def minuteReads (minutes : List Int) (readAt : Instant) : KlineReads :=
  ⟨.ok (minutePayload minutes), .ok (minutePayload minutes), readAt, readAt⟩

variable {minutes : List Int}

theorem minuteReads_honest {readAt : Instant} (late : load.evaluatedAt ≤ readAt) :
    (minuteReads minutes readAt).Honest klineSampleRuntime load where
  late := late
  order := le_rfl
  aligned := by
    rintro _ ⟨⟩ fields mem value head openMs number
    obtain ⟨minute, -, same⟩ := List.mem_map.mp mem
    obtain rfl := Option.some.inj same
    obtain rfl := Option.some.inj head
    obtain rfl := Except.ok.inj number
    exact Dvd.intro_left minute rfl

def fetchedEnds (evaluatedAt : Instant) (minutes : List Int) : Option (List Instant) :=
  (fetchClosedOhlcv klineSampleRuntime (minuteRequest evaluatedAt)
    (.ok (minutePayload minutes))).toOption.map fun series => series.bars.map (·.intervalEnd)

/-- A request joins the load of another one of its bucket. -/
theorem minutes_joined {loadAt : Instant} (readAt joinAt : Instant) (late : loadAt ≤ readAt)
    (sameKey : klineSampleRuntime.timestampMs loadAt / 10000 =
      klineSampleRuntime.timestampMs joinAt / 10000)
    (confirmed : confirmedKlines klineSampleRuntime (minuteRequest loadAt)
      (.ok (minutePayload minutes)) (.ok (minutePayload minutes)) = .ok (minutePayload minutes)) :
    ∃ s, PublicRead.Reachable (klineLoader klineSampleRuntime) klineCache s ∧
      (minuteRequest joinAt, .ok (minutePayload minutes)) ∈ s.answered := by
  have key : (minuteRequest joinAt).key klineSampleRuntime =
      (minuteRequest loadAt).key klineSampleRuntime := by
    simp only [KlineRequest.key, ttlMs_klineCache]
    exact congrArg (KlineKey.mk _ _ _) sameKey.symm
  exact PublicRead.joined_answered klineCache key
    ⟨minuteReads minutes readAt, minuteReads_honest late, confirmed.symm⟩

/-- A request of the same bucket joins the load of another one, and its candle had settled. -/
theorem joined_klines_settled :
    ∃ (s : PublicRead.CacheState KlineRequest KlineKey KlinePayload SeriesError)
      (series : ClosedOhlcvSeries),
    PublicRead.Reachable (klineLoader klineSampleRuntime) klineCache s ∧
    (minuteRequest 69000000, .ok (minutePayload [0])) ∈ s.answered ∧
    fetchClosedOhlcv klineSampleRuntime (minuteRequest 69000000) (.ok (minutePayload [0])) =
      .ok series ∧
    series.bars.map (·.intervalEnd) = [60000000] ∧
    ∀ bar ∈ series.bars, SettledWhenLoaded klineSampleRuntime (minuteRequest 66000000)
      (minuteReads [0] 66000000) bar := by
  have confirmed : confirmedKlines klineSampleRuntime (minuteRequest 66000000)
      (.ok (minutePayload [0])) (.ok (minutePayload [0])) = .ok (minutePayload [0]) :=
    toOption_eq_some.mp (by decide)
  obtain ⟨s, reachable, answered⟩ := minutes_joined 66000000 69000000 le_rfl
    (by decide) confirmed
  have taken : fetchedEnds 69000000 [0] = some [60000000] := by
    decide
  obtain ⟨series, fetched, ends⟩ := Option.map_eq_some_iff.mp taken
  have fetched := toOption_eq_some.mp fetched
  refine ⟨s, series, reachable, answered, fetched, ends, ?_⟩
  obtain ⟨_, ⟨⟩, -, settled⟩ :=
    klines_settled_when_loaded klineSampleRuntime reachable answered fetched
  refine settled (minuteRequest 66000000) (minuteReads [0] 66000000) ?_
    (minuteReads_honest le_rfl) confirmed (by decide) (by decide)
  simp only [KlineRequest.key, ttlMs_klineCache]
  decide

/-- Before the epoch a bucket takes in the last millisecond before it, and a candle that was still
forming for the load is final for a request that joins it. -/
theorem forming_kline_before_epoch :
    ∃ (s : PublicRead.CacheState KlineRequest KlineKey KlinePayload SeriesError)
      (series : ClosedOhlcvSeries),
    PublicRead.Reachable (klineLoader klineSampleRuntime) klineCache s ∧
    (minuteRequest 7000000, .ok (minutePayload [-2, -1])) ∈ s.answered ∧
    (minuteReads [-2, -1] 0).Honest klineSampleRuntime (minuteRequest (-500)) ∧
    confirmedKlines klineSampleRuntime (minuteRequest (-500)) (minuteReads [-2, -1] 0).first
      (minuteReads [-2, -1] 0).second = .ok (minutePayload [-2, -1]) ∧
    fetchClosedOhlcv klineSampleRuntime (minuteRequest 7000000) (.ok (minutePayload [-2, -1])) =
      .ok series ∧
    series.bars ≠ [] ∧
    ∀ bar ∈ series.bars, (minuteRequest (-500)).evaluatedAt < bar.intervalEnd := by
  have confirmed : confirmedKlines klineSampleRuntime (minuteRequest (-500))
      (.ok (minutePayload [-2, -1])) (.ok (minutePayload [-2, -1])) =
        .ok (minutePayload [-2, -1]) :=
    toOption_eq_some.mp (by decide)
  obtain ⟨s, reachable, answered⟩ := minutes_joined 0 7000000 (by decide)
    (by decide) confirmed
  have taken : fetchedEnds 7000000 [-2, -1] = some [0] := by
    decide
  obtain ⟨series, fetched, ends⟩ := Option.map_eq_some_iff.mp taken
  refine ⟨s, series, reachable, answered, minuteReads_honest (by decide), confirmed,
    toOption_eq_some.mp fetched, ?_, fun bar mem => ?_⟩
  · rintro none
    rw [none] at ends
    cases ends
  · have stop : bar.intervalEnd ∈ series.bars.map (·.intervalEnd) := List.mem_map_of_mem mem
    rw [ends, List.mem_singleton] at stop
    rw [stop]
    decide

end AlphaTrade.Market
