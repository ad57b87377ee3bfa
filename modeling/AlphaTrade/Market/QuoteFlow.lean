import AlphaTrade.Market.ClosedSeries
import AlphaTrade.Market.TradeReduction

/-!
# Quote flow of a proven window

The cumulative delta of a window and the signed flow of its last candle, read from a snapshot
whose coverage is proven, or from the bars of a tape whose trades are gone. The fields of a hashed
record are those that its hash covers and that are not the same in every record.
-/
namespace AlphaTrade.Market
open Library
open Execution (Instant)

/-! ## Coverage -/

section Coverage

variable (hashing : Hashing)

def requireCompleteWindowCoverage (proof : TradeWindowCoverageProof)
    (identity : EvidenceMarketIdentity) (lineageId : ConnectionId) (trades : List TradeEvent)
    (requiredStart requiredEnd : Instant) (released : Option ReleasedTradeTape) :
    Except MarketError Unit := do
  match released with
  | some tape => verifyReleasedTradeTape hashing proof tape identity lineageId
  | none => verifyTradeWindowCoverage hashing proof identity lineageId trades
  ensure (proof.gapState = .none) (.gapDetected "Trade coverage has an unresolved gap.")
  ensure (proof.completeness = .complete)
    (.incompleteTradeWindow "Trade coverage proof is not complete.")
  match proof.actualCoveredStart, proof.actualCoveredEnd with
  | some actualStart, some actualEnd => do
    ensure (proof.requestedStart ≤ requiredStart ∧ actualStart ≤ requiredStart)
      (.incompleteTradeWindow "Trade snapshot starts after the required evidence window.")
    ensure (requiredEnd ≤ proof.requestedEnd ∧ requiredEnd ≤ actualEnd)
      (.incompleteTradeWindow "Trade snapshot ends before the required evidence window.")
  | _, _ => .error (.incompleteTradeWindow "Trade coverage proof has no actual covered bounds.")

end Coverage

def GapState.value : GapState → String
  | .none => "none"
  | .suspected => "suspected"
  | .confirmed => "confirmed"
  | .unrecoverable => "unrecoverable"

def ReconnectState.value : ReconnectState → String
  | .initial => "initial"
  | .continuous => "continuous"
  | .reconnecting => "reconnecting"
  | .recovered => "recovered"

def requireContiguousConnection (trades : List TradeEvent) (connection : ConnectionId) :
    Except MarketError Unit :=
  trades.forM fun trade => ensure (trade.sourceConnectionId = connection)
    (.incompleteWarmUp "Cross-connection CVD windows are not supported in V1.")

def emptySnapshot : MarketError :=
  .incompleteWarmUp "CVD requires a non-empty trade-stream snapshot."

def unmatchedTerminal : MarketError :=
  .cursorRecovery "Cursor last_sequence does not match the snapshot terminal trade."

/-- Whether a snapshot may serve CVD is told from its cursor. -/
def requireCvdStreamProof (snapshot : TradeStreamSnapshot) : Except MarketError Unit := do
  let cursor := snapshot.cursor
  ensure (cursor.gapState = .none) (.gapDetected
    ("CVD refuses a trade snapshot with gap_state=" ++ cursor.gapState.value ++ "."))
  ensure (cursor.warmUpStatus = .complete) (.incompleteWarmUp
    "CVD requires complete warm-up proven by the trade-stream cursor.")
  ensure (cursor.reconnectState = .continuous ∨ cursor.reconnectState = .recovered)
    (.incompleteWarmUp
      ("CVD refuses snapshot reconnect_state=" ++ cursor.reconnectState.value ++ "."))
  match snapshot.releasedTape with
  | some tape => do
    ensure (snapshot.trades = [])
      (.incompleteWarmUp "A released trade tape cannot retain trade objects.")
    ensure (1 ≤ tape.eventCount) emptySnapshot
    ensure (cursor.lastSequence = some tape.lastSequence) unmatchedTerminal
  | none =>
    match snapshot.trades.getLast? with
    | none => .error emptySnapshot
    | some terminal => do
      requireContiguousSequences (snapshot.trades.map fun trade => (trade.sequence : Int))
      ensure (cursor.lastSequence = some terminal.sequence) unmatchedTerminal
      requireContiguousConnection snapshot.trades cursor.connectionIdentity
  ensure (snapshot.usable = true) (.incompleteWarmUp
    "CVD requires an authoritative complete trade-window coverage proof.")

/-! ## Sums -/

def selectTradesInWindow (trades : List TradeEvent) (start stop : Instant) : List TradeEvent :=
  orderTrades (trades.filter fun trade => start ≤ trade.eventTimestamp ∧
    trade.eventTimestamp < stop)

def accumulateSignedQuote (trades : List TradeEvent) : Except MarketError (ℚ × ℚ) :=
  trades.foldlM (fun (signed, total) trade => do
    ensure (trade.aggressorConvention ≠ "")
      (.unknownAggressor "CVD requires a versioned aggressor convention.")
    let delta ← signedQuoteValue trade
    return (signed + delta, total + trade.quoteQuantity)) (0, 0)

def cvdAtClose (trades : List TradeEvent) (windowStart barEnd : Instant) (baseline : ℚ) :
    Except MarketError ℚ := do
  let (signed, _) ← accumulateSignedQuote (selectTradesInWindow trades windowStart barEnd)
  return baseline + signed

def closedBarCovering (tape : ReleasedTradeTape) (intervalStart intervalEnd : Instant) :
    Option ClosedBarFlow :=
  tape.bars.find? fun bar => bar.intervalStart = intervalStart ∧ bar.intervalEnd = intervalEnd

def barsSignedQuote (tape : ReleasedTradeTape) (windowStart barEnd : Instant) : ℚ :=
  ((tape.bars.filter fun bar => windowStart ≤ bar.intervalStart ∧ bar.intervalEnd ≤ barEnd).map
    (·.signedQuoteDelta)).sum

def TradeStreamSnapshot.tape (snapshot : TradeStreamSnapshot) : Option ReleasedTradeTape :=
  if snapshot.trades = [] then snapshot.releasedTape else none

def signedQuoteDeltaUntil (snapshot : TradeStreamSnapshot) (windowStart barEnd : Instant)
    (baseline : ℚ) : Except MarketError ℚ :=
  match snapshot.tape with
  | some tape => .ok (baseline + barsSignedQuote tape windowStart barEnd)
  | none => cvdAtClose snapshot.trades windowStart barEnd baseline

def snapshotTerminalEventTime (snapshot : TradeStreamSnapshot) : Except MarketError Instant :=
  match snapshot.tape with
  | some tape => .ok tape.eventTimeMax
  | none =>
    match snapshot.trades with
    | [] => .error (.incompleteWarmUp "Trade snapshot has no terminal trade.")
    | trade :: trades => .ok ((trades.map (·.eventTimestamp)).foldl max trade.eventTimestamp)

/-! ## Windows -/

def firstSliceCvdLookbackBars : Nat := 32

/-- `_bar_lookback_start`. -/
def barLookbackStart (triggerBar : OhlcvBar) (lookback : Nat) : Instant :=
  triggerBar.intervalStart - intervalTimedelta triggerBar.timeframe * lookback

def firstSliceBaselineOpen (triggerBar : OhlcvBar) (lookback : Nat) :
    Except MarketError Instant := do
  ensure (triggerBar.timeframe = .m15)
    (.validation "First-slice CVD baseline is defined on 15m bars.")
  return barLookbackStart triggerBar lookback

structure CvdContent where
  identity : EvidenceMarketIdentity
  windowStart : Instant
  windowEnd : Instant
  baseline : ℚ
  signedQuoteDelta : ℚ
  totalQuoteVolume : ℚ
  eventCount : Nat
  firstTradeId : String
  lastTradeId : String
  eventSetHash : String
  coverageContentHash : String
  eventTimeMax : Instant
  deriving DecidableEq

structure CvdWindow extends CvdContent where
  contentHash : String
  deriving DecidableEq

structure SignedQuoteFlowContent where
  identity : EvidenceMarketIdentity
  intervalStart : Instant
  intervalEnd : Instant
  signedQuoteDelta : ℚ
  totalQuoteVolume : ℚ
  signedFlowRatio : ℚ
  buyQuoteVolume : ℚ
  sellQuoteVolume : ℚ
  eventCount : Nat
  coverageContentHash : String
  eventTimeMax : Instant
  deriving DecidableEq

structure SignedQuoteFlow extends SignedQuoteFlowContent where
  contentHash : String
  deriving DecidableEq

/-- The digests of the flow records. -/
structure FlowHashing extends Hashing where
  cvd : CvdContent → String
  signedFlow : SignedQuoteFlowContent → String

variable (hashing : FlowHashing)

def eventSetHash (trades : List TradeEvent) : String :=
  canonicalSha256 hashing.toHashing
    (.dict [("venue_trade_ids", .list (trades.map fun trade => .str trade.venueTradeId))])

/-- `_materialize_cvd_window`; the record's own check holds of a window that ends after it
starts, over a perpetual identity. -/
def materializeCvdWindow (content : CvdContent) : CvdWindow :=
  { content with contentHash := hashing.cvd content }

def buildCvdWindow (identity : EvidenceMarketIdentity) (snapshot : TradeStreamSnapshot)
    (windowStart windowEnd : Instant) (baseline : ℚ) : Except MarketError CvdWindow := do
  ensure (identity = snapshot.cursor.identity) (.wrongMarket
    "CVD identity does not exactly match the authoritative trade snapshot identity.")
  requireCvdStreamProof snapshot
  requireCompleteWindowCoverage hashing.toHashing snapshot.coverage identity
    snapshot.cursor.connectionIdentity snapshot.trades windowStart windowEnd snapshot.releasedTape
  match snapshot.tape with
  | some tape => do
    ensure (tape.windowStart = windowStart ∧ tape.windowEnd = windowEnd) (.incompleteWarmUp
      "Released trade tape does not cover the requested CVD window.")
    return materializeCvdWindow hashing {
      identity, windowStart, windowEnd, baseline
      signedQuoteDelta := tape.signedQuoteDelta
      totalQuoteVolume := tape.totalQuoteVolume
      eventCount := tape.eventCount
      firstTradeId := tape.firstTradeId
      lastTradeId := tape.lastTradeId
      eventSetHash := tape.eventSetHash
      coverageContentHash := snapshot.coverage.contentHash
      eventTimeMax := tape.eventTimeMax }
  | none =>
    let selected := selectTradesInWindow snapshot.trades windowStart windowEnd
    match selected.head?, selected.getLast? with
    | some first, some last => do
      requireContiguousSequences (selected.map fun trade => (trade.sequence : Int))
      requireContiguousConnection selected snapshot.cursor.connectionIdentity
      let (signed, total) ← accumulateSignedQuote selected
      return materializeCvdWindow hashing {
        identity, windowStart, windowEnd, baseline
        signedQuoteDelta := signed
        totalQuoteVolume := total
        eventCount := selected.length
        firstTradeId := first.venueTradeId
        lastTradeId := last.venueTradeId
        eventSetHash := eventSetHash hashing selected
        coverageContentHash := snapshot.coverage.contentHash
        eventTimeMax := last.eventTimestamp }
    | _, _ =>
      .error (.incompleteWarmUp "CVD window contains no trades from the proven snapshot.")

def firstSliceCvdWindow (identity : EvidenceMarketIdentity) (series15m : ClosedOhlcvSeries)
    (snapshot : TradeStreamSnapshot) (createdAt : Instant) (requireLiveFreshness : Bool) :
    Except MarketError CvdWindow := do
  ensure (identity = series15m.identity) (.wrongMarket
    "First-slice CVD identity does not exactly match the closed OHLCV identity.")
  ensure (series15m.timeframe = .m15)
    (.validation "First-slice CVD is defined on the 15m closed series.")
  let tooShort : MarketError := .incompleteWarmUp ("Need more than "
    ++ toString firstSliceCvdLookbackBars ++ " final 15m bars to fix the CVD baseline.")
  ensure (firstSliceCvdLookbackBars < series15m.bars.length) tooShort
  match series15m.bars.getLast? with
  | none => .error tooShort
  | some trigger => do
    let window ← buildCvdWindow hashing identity snapshot
      (barLookbackStart trigger firstSliceCvdLookbackBars) trigger.intervalEnd 0
    let _ ← evaluateFreshness window.eventTimeMax createdAt firstSliceFreshnessPolicy
      requireLiveFreshness
    return window

def undefinedFlow : MarketError :=
  .incompleteWarmUp "Signed quote flow is undefined when total quote volume is 0."

/-- The sums of the candle: signed, total, buy and sell volume, the count and the last time. -/
def barFlowSums (bar : OhlcvBar) (snapshot : TradeStreamSnapshot) :
    Except MarketError (ℚ × ℚ × ℚ × ℚ × Nat × Instant) :=
  match snapshot.tape with
  | some tape =>
    match closedBarCovering tape bar.intervalStart bar.intervalEnd with
    | none => .error undefinedFlow
    | some matched => .ok (matched.signedQuoteDelta, matched.totalQuoteVolume,
        matched.buyQuoteVolume, matched.sellQuoteVolume, matched.eventCount, matched.eventTimeMax)
  | none => do
    let selected := selectTradesInWindow snapshot.trades bar.intervalStart bar.intervalEnd
    let (signed, total) ← accumulateSignedQuote selected
    let volume (side : AggressorSide) :=
      ((selected.filter fun trade => trade.aggressorSide = side).map (·.quoteQuantity)).sum
    match selected.getLast? with
    | none => .error undefinedFlow
    | some last =>
      .ok (signed, total, volume .buy, volume .sell, selected.length, last.eventTimestamp)

def barSignedQuoteFlow (identity : EvidenceMarketIdentity) (bar : OhlcvBar)
    (snapshot : TradeStreamSnapshot) (evaluatedAt : Instant) (requireLiveFreshness : Bool) :
    Except MarketError SignedQuoteFlow := do
  ensure (identity = snapshot.cursor.identity) (.wrongMarket
    "Signed-flow identity does not exactly match the authoritative trade snapshot.")
  ensure (bar.instrument = identity.instrument)
    (.wrongInstrument "Signed-flow bar instrument does not match market identity.")
  ensure (∀ own ∈ identity.timeframe, bar.timeframe = own)
    (.wrongMarket "Signed-flow bar timeframe does not match market identity.")
  requireCvdStreamProof snapshot
  requireCompleteWindowCoverage hashing.toHashing snapshot.coverage identity
    snapshot.cursor.connectionIdentity snapshot.trades bar.intervalStart bar.intervalEnd
    snapshot.releasedTape
  let (signed, total, buy, sell, eventCount, eventTimeMax) ← barFlowSums bar snapshot
  ensure (total ≠ 0) undefinedFlow
  let _ ← evaluateFreshness eventTimeMax evaluatedAt firstSliceFreshnessPolicy requireLiveFreshness
  let content : SignedQuoteFlowContent := {
    identity
    intervalStart := bar.intervalStart
    intervalEnd := bar.intervalEnd
    signedQuoteDelta := signed
    totalQuoteVolume := total
    signedFlowRatio := signed / total
    buyQuoteVolume := buy
    sellQuoteVolume := sell
    eventCount, eventTimeMax
    coverageContentHash := snapshot.coverage.contentHash }
  return { content with contentHash := hashing.signedFlow content }

end AlphaTrade.Market
