import AlphaTrade.Market.ClosedSeries
import AlphaTrade.Market.PublicObservation
import AlphaTrade.Market.PublicReadCache
import AlphaTrade.Market.RecentTrades

/-!
# Klines of Binance

The venue's candles have a scheduled close and no word that they are final. A candle is taken as
final once it has been closed for a grace, and a read with a candle inside the grace is refused as
a whole. What is cached was read twice with the same final candles, and is judged again with the
time of each caller that is served from the cache.
-/
namespace AlphaTrade.Market
open Library
open Execution (Instant)

/-- The runtime of the adapter, its catalog, and the hash of a candle. In binary floating point an
instant before a whole second is read before it, as long as a second has enough places left. -/
structure KlineRuntime extends PyRuntime where
  timestampMs_before : ∀ seconds, 0 < seconds → seconds ≤ 2 ^ 34 →
    timestampMs (seconds * 1000000 - 1) < seconds * 1000
  /-- `_catalog.require`: the id of the instrument that is enabled for a symbol. -/
  enabledId : String → Except MarketError String
  /-- `isoformat()` in UTC, with `Z` for its offset. -/
  startText : Instant → String
  contentHash : OhlcvFields → String

def binanceRestSettlementGrace : Int := 5 * 1000000

/-- `FIRST_SLICE_OHLCV_GRACE_SECONDS`. -/
def firstSliceOhlcvGraceSeconds : Int := 0

def settlementGrace : Int := max binanceRestSettlementGrace (firstSliceOhlcvGraceSeconds * 1000000)

def binanceRestAdapterVersion : String := "binance-usdm-perpetual/v2"

/-- `name`. -/
def binanceName : String := "binance-usdm-perpetual"

/-! ## Rows -/

/-- An answer of the endpoint. A row that is not an array is `none`. -/
inductive KlinePayload where
  | list (rows : List (Option (List PyJson)))
  | other
  deriving DecidableEq

/-- The values of a row. -/
structure KlineRow where
  openMs : Int
  openPrice : ℚ
  high : ℚ
  low : ℚ
  close : ℚ
  baseVolume : ℚ
  quoteVolume : ℚ
  tradeCount : Int
  deriving DecidableEq

structure KlineRequest where
  identity : EvidenceMarketIdentity
  instrument : InstrumentIdentity
  timeframe : Timeframe
  minFinalBars : Nat
  evaluatedAt : Instant

variable (runtime : KlineRuntime)

def readDecimal (value : PyJson) : Except SeriesError ℚ :=
  raising ((runtime.decimal (runtime.str value)).mapError .raised)

def readTradeCount : PyJson → Except SeriesError Int
  | .int n => .ok n
  | _ => .error (.market (.wrongMarket "USD-M kline trade count must be an integer."))

def klineEnd (timeframe : Timeframe) (openMs : Int) : Instant :=
  openMs * 1000 + intervalTimedelta timeframe

/-- The values that `_parse_kline` reads from a row. -/
def parseRow (timeframe : Timeframe) (row : Option (List PyJson)) : Except SeriesError KlineRow :=
  match row with
  | some (openMs :: openPrice :: high :: low :: close :: baseVolume :: closeMs :: quoteVolume ::
      tradeCount :: _) => do
    let openMs ← raising ((runtime.int openMs).mapError .raised)
    let expectedCloseMs := runtime.timestampMs (klineEnd timeframe openMs) - 1
    ensure (closeMs = .int expectedCloseMs) (.market
      (.wrongMarket "USD-M kline close time does not match its interval."))
    let quoteVolume ← readDecimal runtime quoteVolume
    let tradeCount ← readTradeCount tradeCount
    let openPrice ← readDecimal runtime openPrice
    let high ← readDecimal runtime high
    let low ← readDecimal runtime low
    let close ← readDecimal runtime close
    let baseVolume ← readDecimal runtime baseVolume
    pure { openMs, openPrice, high, low, close, baseVolume, quoteVolume, tradeCount }
  | _ => .error (.market (.wrongMarket "USD-M kline row is malformed."))

/-- `classify_kline_finality`. -/
def classifyKlineFinality (intervalEnd evaluatedAt : Instant) (grace : Int)
    (providerComplete : Bool) : Finality :=
  if providerComplete = false then .forming
  else if evaluatedAt < intervalEnd + grace then .forming
  else .final

/-- `kline_source_event_id`. -/
def klineSourceEventId (instrumentId : String) (timeframe : Timeframe) (start : Instant) : String :=
  "kline:" ++ instrumentId ++ ":" ++ timeframe.value ++ ":" ++ runtime.startText start

instance (fields : OhlcvFields) : Decidable fields.Valid :=
  decidable_of_iff (0 < fields.low ∧ fields.low ≤ fields.openPrice ∧ fields.low ≤ fields.close ∧
      fields.openPrice ≤ fields.high ∧ fields.close ≤ fields.high ∧ 0 ≤ fields.baseVolume ∧
      0 ≤ fields.quoteVolume ∧
      fields.intervalEnd = fields.intervalStart + intervalTimedelta fields.timeframe ∧
      1 ≤ fields.revision)
    ⟨fun ⟨a, b, c, d, e, f, g, h, i⟩ => ⟨a, b, c, d, e, f, g, h, i⟩,
      fun ⟨a, b, c, d, e, f, g, h, i⟩ => ⟨a, b, c, d, e, f, g, h, i⟩⟩

/-- The fields of `build_ohlcv_bar`, before the hash. -/
def klineFields (instrument : InstrumentIdentity) (timeframe : Timeframe) (evaluatedAt : Instant)
    (grace : Int) (row : KlineRow) : OhlcvFields :=
  let start := row.openMs * 1000
  let stop := klineEnd timeframe row.openMs
  let complete : Bool := stop ≤ evaluatedAt
  { instrument, timeframe
    intervalStart := start
    intervalEnd := stop
    openPrice := row.openPrice
    high := row.high
    low := row.low
    close := row.close
    baseVolume := row.baseVolume
    quoteVolume := row.quoteVolume
    tradeCount := some row.tradeCount.toNat
    sourceEventId := klineSourceEventId runtime instrument.instrumentId timeframe start
    providerComplete := complete
    finality := classifyKlineFinality stop evaluatedAt grace complete
    revision := 1
    sourceTime := start
    adapterVersion := binanceRestAdapterVersion
    contentHash := "" }

/-- `build_ohlcv_bar`. -/
def buildOhlcvBar (instrument : InstrumentIdentity) (timeframe : Timeframe) (evaluatedAt : Instant)
    (grace : Int) (row : KlineRow) : Except SeriesError OhlcvBar := do
  let fields := klineFields runtime instrument timeframe evaluatedAt grace row
  let hashed := { fields with contentHash := runtime.contentHash fields }
  ensure (0 ≤ row.tradeCount) (.market (.validation "trade_count"))
  if valid : hashed.Valid then .ok ⟨hashed, valid⟩
  else .error (.market (.validation "OhlcvBar"))

/-- `_parse_kline`. -/
def parseKline (instrument : InstrumentIdentity) (timeframe : Timeframe) (evaluatedAt : Instant)
    (grace : Int) (row : Option (List PyJson)) : Except SeriesError OhlcvBar := do
  let values ← parseRow runtime timeframe row
  buildOhlcvBar runtime instrument timeframe evaluatedAt grace values

def Settling (evaluatedAt : Instant) (bar : OhlcvBar) : Prop :=
  0 ≤ evaluatedAt - bar.intervalEnd ∧ evaluatedAt - bar.intervalEnd < settlementGrace

instance (evaluatedAt : Instant) (bar : OhlcvBar) : Decidable (Settling evaluatedAt bar) :=
  inferInstanceAs (Decidable (_ ∧ _))

/-- `_settled_bars`. -/
def settledBars (instrument : InstrumentIdentity) (timeframe : Timeframe) (evaluatedAt : Instant) :
    KlinePayload → Except SeriesError (List OhlcvBar)
  | .other => .error (.market (.wrongMarket "USD-M kline payload is not a list."))
  | .list rows => do
    let bars ← rows.mapM (parseKline runtime instrument timeframe evaluatedAt settlementGrace)
    ensure (∀ bar ∈ bars, ¬Settling evaluatedAt bar) (.formingCandle
      "Binance REST candle is inside the post-close settlement guard.")
    pure (bars.filter (·.finality = .final))

/-! ## Fetches -/

namespace KlineRequest

variable (request : KlineRequest)

def settled (payload : KlinePayload) : Except SeriesError (List OhlcvBar) :=
  settledBars runtime request.instrument request.timeframe request.evaluatedAt payload

def tooFew (received : Nat) : SeriesError :=
  .formingCandle ("Need " ++ toString request.minFinalBars ++ " final " ++
    request.timeframe.value ++
    " candles; received " ++ toString received ++ " confirmed closed candidates.")

end KlineRequest

/-- `_confirmed_klines`, from what the two reads give. -/
def confirmedKlines (request : KlineRequest) (first second : Except SeriesError KlinePayload) :
    Except SeriesError KlinePayload := do
  let payload ← first
  let finalBars ← request.settled runtime payload
  ensure (request.minFinalBars ≤ finalBars.length) (request.tooFew finalBars.length)
  let confirmedPayload ← second
  let confirmed ← request.settled runtime confirmedPayload
  ensure (finalBars = confirmed) (.formingCandle
    "Closed Binance REST candles changed between confirmation reads.")
  pure confirmedPayload

/-- `_assert_request`. -/
def KlineRequest.assertRequest (request : KlineRequest) : Except MarketError Unit := do
  let identity := request.identity
  requirePerpetual identity
  requireInstrument identity request.instrument
  let enabled ← runtime.enabledId request.instrument.providerSymbol
  ensure (request.instrument.instrumentId = enabled) (.wrongInstrument
    "Requested instrument does not match the enabled USD-M catalog identity.")
  ensure (identity.venue = .binance)
    (.wrongMarket "Binance USD-M adapter cannot serve a non-Binance venue.")
  ensure (identity.instrument.productFamily = .usdmFutures)
    (.wrongMarket "Binance USD-M adapter cannot serve a non-USD-M product.")
  ensure (identity.instrument.marketType = .perpetual)
    (.wrongMarket "Binance USD-M adapter cannot serve non-perpetual markets.")
  ensure (identity.source.family = .binanceUsdmFuturesPublic ∧
      identity.source.providerName = binanceName ∧
      identity.provenance.sourceFamily = .binanceUsdmFuturesPublic ∧
      identity.provenance.providerName = binanceName ∧
      identity.provenance.isLive = true ∧ identity.provenance.isMock = false)
    (.wrongSource
      "Live USD-M evidence identity must exactly identify the live Binance provider.")
  ensure (identity.provenance.fallbackUsed = false)
    (.marketContract "Live USD-M evidence cannot record fallback_used=true.")
  ensure (∀ own ∈ identity.timeframe, own = request.timeframe)
    (.wrongMarket "Identity timeframe does not match the requested timeframe.")

theorem ttlSeconds_pos : (0 : ℚ) < 10 := by norm_num

/-- `PUBLIC_READ_TTL_SECONDS` and the entries of the kline cache. -/
def klineCache : PublicRead.Settings where
  ttlSeconds := 10
  maxEntries := 64
  ttl_pos := ttlSeconds_pos
  one_le_entries := by norm_num

/-- `max(int(ttl_seconds * 1000), 1)`. -/
def ttlMs (settings : PublicRead.Settings) : Int := max ⌊settings.ttlSeconds * 1000⌋ 1

structure KlineKey where
  providerSymbol : String
  interval : String
  limit : Nat
  bucket : Int
  deriving DecidableEq

def KlineRequest.key (request : KlineRequest) : KlineKey where
  providerSymbol := request.instrument.providerSymbol
  interval := request.timeframe.value
  limit := min (max (request.minFinalBars + 2) request.minFinalBars) 1500
  bucket := runtime.timestampMs request.evaluatedAt / ttlMs klineCache

/-- The two reads of a load. -/
structure KlineReads where
  first : Except SeriesError KlinePayload
  second : Except SeriesError KlinePayload
  firstAt : Instant
  secondAt : Instant

def KlinePayload.Aligned : KlinePayload → Prop
  | .list rows => ∀ fields, some fields ∈ rows → ∀ value ∈ fields.head?, ∀ openMs,
      runtime.int value = .ok openMs → 60000 ∣ openMs
  | .other => True

/-- The reads of a request are made at its time or later, and their rows are aligned. -/
structure KlineReads.Honest (request : KlineRequest) (reads : KlineReads) : Prop where
  late : request.evaluatedAt ≤ reads.firstAt
  order : reads.firstAt ≤ reads.secondAt
  aligned : ∀ payload, reads.second = .ok payload → payload.Aligned runtime

def klineLoader : PublicRead.Loader KlineRequest KlineKey KlinePayload SeriesError where
  key := KlineRequest.key runtime
  Loads request outcome := ∃ reads : KlineReads, reads.Honest runtime request ∧
    outcome = confirmedKlines runtime request reads.first reads.second

/-- `fetch_closed_ohlcv`, from the payload that is cached, joined or loaded. -/
def fetchClosedOhlcv (request : KlineRequest) (payload : Except SeriesError KlinePayload) :
    Except SeriesError ClosedOhlcvSeries := do
  raising (request.assertRequest runtime)
  let payload ← payload
  let finalBars ← request.settled runtime payload
  ensure (request.minFinalBars ≤ finalBars.length) (request.tooFew finalBars.length)
  requireClosedSeries finalBars request.identity request.timeframe request.evaluatedAt
    request.minFinalBars

end AlphaTrade.Market
