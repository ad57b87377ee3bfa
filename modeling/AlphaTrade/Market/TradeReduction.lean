import Mathlib.Algebra.BigOperators.Group.List.Basic
import AlphaTrade.Market.Trades

/-!
# The reduction of a window of trades

`build_released_trade_snapshot` folds the trades of a window into sums for each closed bar, an
incremental hash and the proof of the window, and keeps no trade. What its loop keeps of the
first and of the last trade is kept here as that trade.
-/
namespace AlphaTrade.Market
open Library
open Execution (Instant)

/-! ## Bars and tapes -/

/-- `ClosedBarFlow`. -/
structure ClosedBarFlow where
  intervalStart : Instant
  intervalEnd : Instant
  signedQuoteDelta : ℚ
  totalQuoteVolume : ℚ
  buyQuoteVolume : ℚ
  sellQuoteVolume : ℚ
  buyBaseVolume : Option ℚ
  sellBaseVolume : Option ℚ
  eventCount : Nat
  eventTimeMax : Instant
  terminalPrice : ℚ
  deriving DecidableEq

def ClosedBarFlow.check (bar : ClosedBarFlow) : Except MarketError Unit := do
  ensure (bar.intervalStart < bar.intervalEnd)
    (.validation "Closed bar flow must end after it starts.")
  ensure (1 ≤ bar.eventCount) (.validation "Closed bar flow requires at least one trade.")
  ensure (0 < bar.terminalPrice) (.validation "terminal_price")

structure ReleasedTradeTape where
  windowStart : Instant
  windowEnd : Instant
  tradeSetHash : String
  eventSetHash : String
  eventCount : Nat
  signedQuoteDelta : ℚ
  totalQuoteVolume : ℚ
  firstTradeId : String
  lastTradeId : String
  firstSequence : Nat
  lastSequence : Nat
  eventTimeMax : Instant
  receiveTimeMax : Instant
  terminalPrice : ℚ
  bars : List ClosedBarFlow
  deriving DecidableEq

/-- The loop of `_reconciles`: every bar inside the window and behind the one before. -/
def reconcileBars (start stop : Instant) :
    Option Instant → List ClosedBarFlow → Except MarketError Unit
  | _, [] => .ok ()
  | previousEnd, bar :: bars => do
    ensure (∀ before ∈ previousEnd, before ≤ bar.intervalStart)
      (.validation "Released bar flows overlap or are out of order.")
    ensure (start ≤ bar.intervalStart ∧ bar.intervalEnd ≤ stop)
      (.validation "Released bar flow falls outside the trade tape window.")
    reconcileBars start stop (some bar.intervalEnd) bars

/-- `_reconciles`. -/
def ReleasedTradeTape.reconciles (tape : ReleasedTradeTape) : Except MarketError Unit := do
  ensure (tape.windowStart < tape.windowEnd)
    (.validation "Released trade tape window must end after it starts.")
  ensure (tape.firstSequence ≤ tape.lastSequence)
    (.validation "Released trade tape sequence bounds are reversed.")
  reconcileBars tape.windowStart tape.windowEnd none tape.bars
  ensure ((tape.bars.map (·.eventCount)).sum = tape.eventCount)
    (.validation "Released bar flows do not count every trade.")
  ensure ((tape.bars.map (·.signedQuoteDelta)).sum = tape.signedQuoteDelta ∧
      (tape.bars.map (·.totalQuoteVolume)).sum = tape.totalQuoteVolume)
    (.validation "Released bar flows do not reconcile to the trade tape.")

/-! ## Cursors and snapshots -/

inductive ReconnectState where
  | initial | continuous | reconnecting | recovered
  deriving DecidableEq, Repr

inductive WarmUpStatus where
  | empty | backfilling | complete | failed
  deriving DecidableEq, Repr

structure TradeStreamCursor where
  identity : EvidenceMarketIdentity
  connectionIdentity : ConnectionId
  lastEventId : Option String
  lastSequence : Option Nat
  lastEventAt : Option Instant
  reconnectState : ReconnectState
  gapState : GapState
  warmUpStatus : WarmUpStatus
  deriving DecidableEq

def initialCursor (identity : EvidenceMarketIdentity) (connectionIdentity : ConnectionId) :
    Except MarketError TradeStreamCursor := do
  requirePerpetual identity
  return {
    identity
    connectionIdentity
    lastEventId := none
    lastSequence := none
    lastEventAt := none
    reconnectState := .initial
    gapState := .none
    warmUpStatus := .empty }

structure TradeStreamSnapshot where
  cursor : TradeStreamCursor
  trades : List TradeEvent
  coverage : TradeWindowCoverageProof
  usable : Bool
  releasedTape : Option ReleasedTradeTape
  deriving DecidableEq

variable (hashing : Hashing)

def verifyReleasedTradeTape (proof : TradeWindowCoverageProof) (tape : ReleasedTradeTape)
    (identity : EvidenceMarketIdentity) (lineageId : ConnectionId) : Except MarketError Unit := do
  verifyProof hashing proof identity lineageId
  ensure (proof.tradeSetHash = tape.tradeSetHash)
    (.incompleteTradeWindow "Trade coverage proof does not bind the released trade tape.")
  ensure (proof.firstTradeId = some tape.firstTradeId ∧
      proof.lastTradeId = some tape.lastTradeId ∧
      proof.firstSequence = some tape.firstSequence ∧
      proof.lastSequence = some tape.lastSequence)
    (.incompleteTradeWindow
      "Trade coverage terminal identities do not match the released tape.")
  ensure (proof.requestedStart = tape.windowStart ∧ proof.requestedEnd = tape.windowEnd)
    (.incompleteTradeWindow "Released trade tape window does not match the coverage proof.")

def Usable (cursor : TradeStreamCursor) (coverage : TradeWindowCoverageProof) : Prop :=
  cursor.gapState = .none ∧ cursor.warmUpStatus = .complete ∧
    (cursor.reconnectState = .continuous ∨ cursor.reconnectState = .recovered) ∧
    coverage.gapState = .none ∧ coverage.completeness = .complete

instance (cursor : TradeStreamCursor) (coverage : TradeWindowCoverageProof) :
    Decidable (Usable cursor coverage) := inferInstanceAs (Decidable (_ ∧ _))

/-- The coverage of a snapshot is that of its tape, or of its trades. -/
def verifySnapshotCoverage (snapshot : TradeStreamSnapshot) : Except MarketError Unit :=
  match snapshot.releasedTape with
  | some tape => do
    ensure (snapshot.trades = [])
      (.validation "A released trade tape cannot retain trade objects.")
    verifyReleasedTradeTape hashing snapshot.coverage tape snapshot.cursor.identity
      snapshot.cursor.connectionIdentity
  | none =>
    verifyTradeWindowCoverage hashing snapshot.coverage snapshot.cursor.identity
      snapshot.cursor.connectionIdentity snapshot.trades

def TradeStreamSnapshot.checked (snapshot : TradeStreamSnapshot) :
    Except MarketError TradeStreamSnapshot := do
  verifySnapshotCoverage hashing snapshot
  ensure (snapshot.usable = decide (Usable snapshot.cursor snapshot.coverage)) (.validation
    "Trade snapshot usable flag does not match cursor and coverage proof.")
  return snapshot

/-! ## The loop -/

/-- `_BarAccum`. -/
structure BarAccum where
  intervalStart : Instant
  intervalEnd : Instant
  signed : ℚ
  total : ℚ
  buy : ℚ
  sell : ℚ
  buyBase : ℚ
  sellBase : ℚ
  count : Nat
  eventTimeMax : Instant
  terminalPrice : ℚ
  deriving DecidableEq

def BarAccum.closed (bar : BarAccum) : ClosedBarFlow where
  intervalStart := bar.intervalStart
  intervalEnd := bar.intervalEnd
  signedQuoteDelta := bar.signed
  totalQuoteVolume := bar.total
  buyQuoteVolume := bar.buy
  sellQuoteVolume := bar.sell
  buyBaseVolume := some bar.buyBase
  sellBaseVolume := some bar.sellBase
  eventCount := bar.count
  eventTimeMax := bar.eventTimeMax
  terminalPrice := bar.terminalPrice

/-- `_bar_bounds`. The conversion of the moment to whole seconds goes towards zero. -/
def barBounds (moment : Instant) (barSeconds : Int) : Instant × Instant :=
  let epoch := moment.tdiv 1000000
  let startEpoch := epoch - epoch % barSeconds
  (startEpoch * 1000000, (startEpoch + barSeconds) * 1000000)

def TradeEvent.on (trade : TradeEvent) (side : AggressorSide) (amount : ℚ) : ℚ :=
  if trade.aggressorSide = side then amount else 0

/-- `_add_bar`. -/
def addBar (bars : Table Instant BarAccum) (trade : TradeEvent) (barSeconds : Int)
    (delta quote : ℚ) : Table Instant BarAccum :=
  let (intervalStart, intervalEnd) := barBounds trade.eventTimestamp barSeconds
  match bars.find intervalStart with
  | none =>
    bars.put intervalStart
      { intervalStart, intervalEnd
        signed := delta
        total := quote
        buy := trade.on .buy quote
        sell := trade.on .sell quote
        buyBase := trade.on .buy trade.quantity
        sellBase := trade.on .sell trade.quantity
        count := 1
        eventTimeMax := trade.eventTimestamp
        terminalPrice := trade.price }
  | some current =>
    bars.put intervalStart
      { current with
        signed := current.signed + delta
        total := current.total + quote
        buy := current.buy + trade.on .buy quote
        sell := current.sell + trade.on .sell quote
        buyBase := current.buyBase + trade.on .buy trade.quantity
        sellBase := current.sellBase + trade.on .sell trade.quantity
        count := current.count + 1
        eventTimeMax := trade.eventTimestamp
        terminalPrice := trade.price }

/-- The variables of the loop. -/
structure Reduction where
  tradeHasher : SetHasher
  idHasher : SetHasher
  bars : Table Instant BarAccum
  signed : ℚ
  total : ℚ
  count : Nat
  first : Option TradeEvent
  last : Option TradeEvent

def Reduction.empty : Reduction := ⟨TradeSetHasher.new, VenueIdSetHasher.new, .empty, 0, 0, 0,
  none, none⟩

def requireNext (trade : TradeEvent) : Option TradeEvent → Except MarketError Unit
  | none => .ok ()
  | some previous => do
    ensure (trade.sequence ≠ previous.sequence)
      (.duplicateData ("Duplicate sequence " ++ toString trade.sequence ++ "."))
    ensure (trade.sequence = previous.sequence + 1) (.gapDetected ("Confirmed sequence gap " ++
      toString (previous.sequence + 1) ++ "-" ++ toString ((trade.sequence : Int) - 1) ++ "."))
    ensure (previous.eventTimestamp ≤ trade.eventTimestamp)
      (.outOfOrderTrades "Trade event timestamps must be non-decreasing in venue order.")

/-- One turn of the loop. -/
def reduceTrade (identity : EvidenceMarketIdentity) (lineageId : ConnectionId)
    (start stop : Instant) (barSeconds : Int) (state : Reduction) (trade : TradeEvent) :
    Except MarketError Reduction := do
  requireTradeInWindow identity lineageId start stop outsideRequestedWindow trade
  requireNext trade state.last
  let delta ← signedQuoteValue trade
  return {
    tradeHasher := TradeSetHasher.add hashing.toTextHashing state.tradeHasher
      trade.venueTradeId trade.sequence trade.contentHash
    idHasher := VenueIdSetHasher.add hashing.toTextHashing state.idHasher trade.venueTradeId
    bars := addBar state.bars trade barSeconds delta trade.quoteQuantity
    signed := state.signed + delta
    total := state.total + trade.quoteQuantity
    count := state.count + 1
    first := state.first <|> some trade
    last := some trade }

/-! ## The snapshot -/

/-- `_bar_seconds`: a quarter of an hour when the identity has no timeframe. -/
def barSecondsOf (identity : EvidenceMarketIdentity) : Int :=
  (identity.timeframe.getD .m15).intervalSeconds

/-- What the loop leaves, as a tape. -/
def Reduction.tape (state : Reduction) (start stop : Instant) (first last : TradeEvent) :
    ReleasedTradeTape where
  windowStart := start
  windowEnd := stop
  tradeSetHash := state.tradeHasher.hexdigest hashing.toTextHashing
  eventSetHash := state.idHasher.hexdigest hashing.toTextHashing
  eventCount := state.count
  signedQuoteDelta := state.signed
  totalQuoteVolume := state.total
  firstTradeId := first.venueTradeId
  lastTradeId := last.venueTradeId
  firstSequence := first.sequence
  lastSequence := last.sequence
  eventTimeMax := last.eventTimestamp
  receiveTimeMax := last.receiveTimestamp
  terminalPrice := last.price
  bars := state.bars.rows.map fun row => row.2.closed

/-- `_final_cursor`. -/
def finalCursor (identity : EvidenceMarketIdentity) (lineageId : ConnectionId)
    (tape : ReleasedTradeTape) : Except MarketError TradeStreamCursor := do
  let cursor ← initialCursor identity lineageId
  return { cursor with
    lastEventId := some tape.lastTradeId
    lastSequence := some tape.lastSequence
    lastEventAt := some tape.eventTimeMax
    reconnectState := .continuous
    gapState := .none
    warmUpStatus := .complete }

def buildReleasedTradeSnapshot (trades : List TradeEvent) (identity : EvidenceMarketIdentity)
    (lineageId : ConnectionId) (start stop : Instant) :
    Except MarketError TradeStreamSnapshot := do
  ensure (start < stop) (.incompleteTradeWindow "Trade window end must be after start.")
  let state ← trades.foldlM
    (reduceTrade hashing identity lineageId start stop (barSecondsOf identity)) .empty
  match state.first, state.last with
  | some first, some last => do
    let tape := state.tape hashing start stop first last
    tape.bars.forM ClosedBarFlow.check
    tape.reconciles
    let coverage ← buildCompleteTradeWindowCoverageFromHash hashing identity lineageId start stop
      tape.tradeSetHash tape.firstTradeId tape.lastTradeId tape.firstSequence tape.lastSequence
    let cursor ← finalCursor identity lineageId tape
    TradeStreamSnapshot.checked hashing
      { cursor
        trades := []
        coverage
        usable := true
        releasedTape := some tape }
  | _, _ => .error (.emptyTradeWindow "AggTrade window contained no trades.")

end AlphaTrade.Market
