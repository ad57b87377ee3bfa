import Mathlib.Data.Prod.Lex
import Mathlib.Data.String.Basic
import AlphaTrade.Market.AggTrades
import AlphaTrade.Market.StreamingHash

/-!
# Trades and the proof of a covered window

Amounts are exact rationals and instants are microseconds. A content hash is a function of the
fields that are hashed, which are a record of their own; the fields left out of a hash
(`receive_timestamp`, the connection and the hash itself) are the ones that extend it. Random
identifiers that no hash reads are left out.
-/
namespace AlphaTrade.Market
open Library
open Execution (Instant)

/-- A retrieval lineage. -/
abbrev ConnectionId := Nat

/-! ## Identities -/

inductive VenueId where
  | binance | blofin | bybit
  deriving DecidableEq, Repr

inductive MarketType where
  | perpetual | spot | delivery | coinMPerpetual | option
  deriving DecidableEq, Repr

def MarketType.value : MarketType → String
  | .perpetual => "perpetual"
  | .spot => "spot"
  | .delivery => "delivery"
  | .coinMPerpetual => "coin_m_perpetual"
  | .option => "option"

inductive ContractStyle where
  | linear | inverse
  deriving DecidableEq, Repr

inductive ProductFamily where
  | usdmFutures | coinmFutures | spot
  deriving DecidableEq, Repr

inductive SourceFamily where
  | binanceUsdmFuturesPublic | bybitUsdtPerpetualPublic | replayFixture
  deriving DecidableEq, Repr

inductive Timeframe where
  | m1 | m3 | m5 | m15 | m30 | h1 | h2 | h4 | h6 | h12 | d1 | d3 | w1
  deriving DecidableEq, Repr

/-- `INTERVAL_SECONDS`. -/
def Timeframe.intervalSeconds : Timeframe → Int
  | .m1 => 60
  | .m3 => 180
  | .m5 => 300
  | .m15 => 900
  | .m30 => 1800
  | .h1 => 3600
  | .h2 => 7200
  | .h4 => 14400
  | .h6 => 21600
  | .h12 => 43200
  | .d1 => 86400
  | .d3 => 259200
  | .w1 => 604800

theorem Timeframe.intervalSeconds_pos (timeframe : Timeframe) : 0 < timeframe.intervalSeconds := by
  cases timeframe <;> decide

structure InstrumentIdentity where
  venue : VenueId
  marketType : MarketType
  productFamily : ProductFamily
  contractStyle : ContractStyle
  instrumentId : String
  providerSymbol : String
  baseAsset : String
  quoteAsset : String
  settlementAsset : String
  contractMultiplier : ℚ
  priceUnit : String
  baseQuantityUnit : String
  quoteQuantityUnit : String
  deriving DecidableEq

structure SourceIdentity where
  family : SourceFamily
  providerName : String
  adapterVersion : String
  aggressorConvention : String
  deriving DecidableEq

structure ProviderProvenance where
  providerName : String
  sourceFamily : SourceFamily
  adapterVersion : String
  isLive : Bool
  fallbackUsed : Bool
  isMock : Bool
  regionalFailure : Bool
  detail : Option String
  deriving DecidableEq

structure EvidenceMarketIdentity where
  venue : VenueId
  marketType : MarketType
  instrument : InstrumentIdentity
  timeframe : Option Timeframe
  source : SourceIdentity
  provenance : ProviderProvenance
  sameVenue : instrument.venue = venue
  sameMarket : instrument.marketType = marketType
  deriving DecidableEq

def requirePerpetual (identity : EvidenceMarketIdentity) : Except MarketError Unit := do
  ensure (identity.marketType = .perpetual) (.wrongMarket
    ("Perpetual evidence required; received market_type=" ++ identity.marketType.value ++ "."))
  ensure (identity.instrument.marketType = .perpetual)
    (.wrongMarket "Instrument is not a perpetual contract.")
  ensure (identity.instrument.productFamily ≠ .spot)
    (.wrongMarket "Spot product family is incompatible with perpetual evidence.")
  ensure (identity.instrument.productFamily ≠ .coinmFutures)
    (.wrongMarket "Coin-M futures cannot substitute for USD-M perpetual evidence.")

def requireInstrument (identity : EvidenceMarketIdentity) (expected : InstrumentIdentity) :
    Except MarketError Unit := do
  ensure (identity.instrument.instrumentId = expected.instrumentId) (.wrongInstrument
    ("Instrument mismatch: expected " ++ expected.instrumentId ++ ", received " ++
      identity.instrument.instrumentId ++ "."))
  ensure (identity.instrument.providerSymbol = expected.providerSymbol) (.wrongInstrument
    ("Provider symbol mismatch: expected " ++ expected.providerSymbol ++ ", received " ++
      identity.instrument.providerSymbol ++ "."))

/-! ## Trades -/

inductive AggressorSide where
  | buy | sell
  deriving DecidableEq, Repr

/-- The fields of a trade that its hash covers. -/
structure TradeContent where
  venueTradeId : String
  sequence : Nat
  instrument : InstrumentIdentity
  marketType : MarketType
  price : ℚ
  quantity : ℚ
  quoteQuantity : ℚ
  aggressorSide : AggressorSide
  aggressorConvention : String
  eventTimestamp : Instant
  adapterVersion : String
  deriving DecidableEq

/-- What the record's own check asks of a trade. -/
structure TradeContent.Valid (content : TradeContent) : Prop where
  named : 1 ≤ content.venueTradeId.length ∧ content.venueTradeId.length ≤ 40
  price : 0 < content.price
  quantity : 0 < content.quantity
  quote : 0 < content.quoteQuantity
  convention : 3 ≤ content.aggressorConvention.length ∧ content.aggressorConvention.length ≤ 120
  adapter : 3 ≤ content.adapterVersion.length ∧ content.adapterVersion.length ≤ 80
  perpetual : content.marketType = .perpetual
  linear : content.price * content.quantity * content.instrument.contractMultiplier =
    content.quoteQuantity

instance (content : TradeContent) : Decidable content.Valid :=
  decidable_of_iff
    ((1 ≤ content.venueTradeId.length ∧ content.venueTradeId.length ≤ 40) ∧ 0 < content.price ∧
      0 < content.quantity ∧ 0 < content.quoteQuantity ∧
      (3 ≤ content.aggressorConvention.length ∧ content.aggressorConvention.length ≤ 120) ∧
      (3 ≤ content.adapterVersion.length ∧ content.adapterVersion.length ≤ 80) ∧
      content.marketType = .perpetual ∧
      content.price * content.quantity * content.instrument.contractMultiplier =
        content.quoteQuantity)
    ⟨fun ⟨a, b, c, d, e, f, g, h⟩ => ⟨a, b, c, d, e, f, g, h⟩,
      fun ⟨a, b, c, d, e, f, g, h⟩ => ⟨a, b, c, d, e, f, g, h⟩⟩

structure TradeEvent extends TradeContent where
  receiveTimestamp : Instant
  sourceConnectionId : ConnectionId
  contentHash : String
  valid : toTradeContent.Valid
  deriving DecidableEq

/-! ## The proof of a window -/

inductive GapState where
  | none | suspected | confirmed | unrecoverable
  deriving DecidableEq, Repr

inductive DataCompleteness where
  | complete | partially | unknown
  deriving DecidableEq, Repr

/-- The fields of a coverage proof that its hash covers. -/
structure CoverageContent where
  identity : EvidenceMarketIdentity
  requestedStart : Instant
  requestedEnd : Instant
  actualCoveredStart : Option Instant
  actualCoveredEnd : Option Instant
  gapState : GapState
  completeness : DataCompleteness
  firstTradeId : Option String
  lastTradeId : Option String
  firstSequence : Option Nat
  lastSequence : Option Nat
  tradeSetHash : String
  policyVersion : String
  deriving DecidableEq

structure TradeWindowCoverageProof extends CoverageContent where
  lineageId : ConnectionId
  contentHash : String
  deriving DecidableEq

def tradeWindowCoveragePolicyVersion : String := "trade-window-coverage/half-open/v1"

/-- The digests of the hashed records. -/
structure Hashing extends TextHashing where
  trade : TradeContent → String
  coverage : CoverageContent → String

variable (hashing : Hashing)

/-- `with_content_hash` of a trade, whose hash leaves out the connection too. -/
def TradeEvent.withContentHash (trade : TradeEvent) : TradeEvent :=
  { trade with contentHash := hashing.trade trade.toTradeContent }

/-- `model_copy(update={"sequence": sequence})`. -/
def TradeEvent.withSequence (trade : TradeEvent) (sequence : Nat) : TradeEvent :=
  { trade with
    sequence
    valid := ⟨trade.valid.named, trade.valid.price, trade.valid.quantity, trade.valid.quote,
      trade.valid.convention, trade.valid.adapter, trade.valid.perpetual, trade.valid.linear⟩ }

def quoteQuantity (price quantity multiplier : ℚ) : ℚ := price * quantity * multiplier

def aggressorFromBuyerIsMaker (buyerIsMaker : Bool) : AggressorSide :=
  if buyerIsMaker then .sell else .buy

def buildTradeEvent (instrument : InstrumentIdentity) (venueTradeId : String) (sequence : Nat)
    (price quantity : ℚ) (buyerIsMaker : Bool) (eventTimestamp receiveTimestamp : Instant)
    (sourceConnectionId : ConnectionId) (adapterVersion aggressorConvention : String) :
    Except MarketError TradeEvent := do
  ensure (instrument.marketType = .perpetual)
    (.wrongMarket "TradeEvent requires a perpetual instrument.")
  let content : TradeContent :=
    { venueTradeId, sequence, instrument, marketType := .perpetual, price, quantity
      quoteQuantity := quoteQuantity price quantity instrument.contractMultiplier
      aggressorSide := aggressorFromBuyerIsMaker buyerIsMaker
      aggressorConvention, eventTimestamp, adapterVersion }
  if valid : content.Valid then
    let event : TradeEvent :=
      { content with receiveTimestamp, sourceConnectionId, contentHash := "", valid }
    return event.withContentHash hashing
  else .error (.validation "TradeEvent")

def signedQuoteValue (trade : TradeEvent) : Except MarketError ℚ :=
  if trade.aggressorConvention = "" then
    .error (.unknownAggressor "Missing aggressor convention.")
  else match trade.aggressorSide with
    | .buy => .ok trade.quoteQuantity
    | .sell => .ok (-trade.quoteQuantity)

/-- The order of `order_trades`: sequence, then event time, then venue trade id. -/
def tradeKey (trade : TradeEvent) : ℕ ×ₗ Int ×ₗ String :=
  toLex (trade.sequence, toLex (trade.eventTimestamp, trade.venueTradeId))

def orderTrades (trades : List TradeEvent) : List TradeEvent :=
  trades.insertionSort fun left right => tradeKey left ≤ tradeKey right

def requireTradeMatchesIdentity (trade : TradeEvent) (identity : EvidenceMarketIdentity) :
    Except MarketError Unit := do
  ensure (trade.instrument = identity.instrument) (.wrongInstrument
    "Trade instrument identity does not exactly match the evidence market identity.")
  ensure (trade.instrument.venue = identity.venue)
    (.wrongMarket "Trade venue does not match the evidence market identity.")
  ensure (trade.marketType = identity.marketType)
    (.wrongMarket "Trade market type does not match the evidence market identity.")
  ensure (trade.adapterVersion = identity.source.adapterVersion)
    (.wrongSource "Trade adapter version does not match the evidence source identity.")
  ensure (trade.aggressorConvention = identity.source.aggressorConvention)
    (.wrongSource "Trade aggressor convention does not match the evidence source identity.")

/-! ## Covered windows -/

/-- `canonical_sha256`. -/
def canonicalSha256 (value : Json) : String := hashing.sha256 (canonicalJson hashing.nfc value)

/-- `trade_set_content_hash`. -/
def tradeSetContentHash (trades : List TradeEvent) : String :=
  canonicalSha256 hashing (.dict [("events", .list (trades.map fun trade =>
    .dict [("venue_trade_id", .str trade.venueTradeId), ("sequence", .int trade.sequence),
      ("content_hash", .str trade.contentHash)]))])

/-- The loop of `_require_contiguous_trade_sequences` behind a sequence. -/
def contiguousTradesFrom : Nat → List TradeEvent → Except MarketError Unit
  | _, [] => .ok ()
  | previous, trade :: trades =>
    if trade.sequence ≠ previous + 1 then
      .error (.gapDetected ("Confirmed sequence gap " ++ toString (previous + 1) ++ "-" ++
        toString ((trade.sequence : Int) - 1) ++ "."))
    else contiguousTradesFrom trade.sequence trades

def requireContiguousTradeSequences : List TradeEvent → Except MarketError Unit
  | [] => .ok ()
  | trade :: trades => contiguousTradesFrom trade.sequence trades

/-- The check of the record. -/
def CoverageContent.check (content : CoverageContent) : Except MarketError Unit := do
  requirePerpetual content.identity
  ensure (content.requestedStart < content.requestedEnd) (.validation
    "Trade coverage requested_end must be after requested_start.")
  ensure (content.actualCoveredStart.isNone = content.actualCoveredEnd.isNone) (.validation
    "Actual coverage bounds must both be present or both be absent.")
  ensure (∀ first ∈ content.actualCoveredStart, ∀ last ∈ content.actualCoveredEnd, first < last)
    (.validation "Actual trade coverage must be a non-empty half-open interval.")
  ensure (content.firstTradeId.isNone = content.lastTradeId.isNone ∧
      content.firstTradeId.isNone = content.firstSequence.isNone ∧
      content.firstTradeId.isNone = content.lastSequence.isNone)
    (.validation "First/last trade identities and sequences must be all set or absent.")
  ensure (∀ first ∈ content.firstSequence, ∀ last ∈ content.lastSequence, first ≤ last)
    (.validation "Coverage last_sequence cannot precede first_sequence.")
  if content.completeness = .complete then
    ensure (content.gapState = .none)
      (.validation "Complete trade coverage cannot contain an unresolved gap.")
    ensure (content.actualCoveredStart.isSome ∧ content.actualCoveredEnd.isSome)
      (.validation "Complete trade coverage requires actual coverage bounds.")
    ensure (∀ first ∈ content.actualCoveredStart, first ≤ content.requestedStart)
      (.validation "Complete coverage cannot start after the requested window.")
    ensure (∀ last ∈ content.actualCoveredEnd, content.requestedEnd ≤ last)
      (.validation "Complete coverage cannot end before the requested window.")

def CoverageContent.proof (content : CoverageContent) (lineageId : ConnectionId) :
    Except MarketError TradeWindowCoverageProof := do
  content.check
  return { content with lineageId, contentHash := hashing.coverage content }

def requireTradeInWindow (identity : EvidenceMarketIdentity) (lineageId : ConnectionId)
    (start stop : Instant) (outside : String) (trade : TradeEvent) : Except MarketError Unit := do
  requireTradeMatchesIdentity trade identity
  ensure (trade.sourceConnectionId = lineageId)
    (.wrongSource "Trade lineage does not match the coverage proof lineage.")
  ensure (start ≤ trade.eventTimestamp ∧ trade.eventTimestamp < stop)
    (.incompleteTradeWindow outside)

def outsideRequestedWindow : String :=
  "Trade event falls outside the coverage proof requested window."

/-- `build_complete_trade_window_coverage`. -/
def buildCompleteTradeWindowCoverage (identity : EvidenceMarketIdentity)
    (lineageId : ConnectionId) (requestedStart requestedEnd : Instant)
    (trades : List TradeEvent) : Except MarketError TradeWindowCoverageProof := do
  let ordered := orderTrades trades
  ordered.forM (requireTradeInWindow identity lineageId requestedStart requestedEnd
    outsideRequestedWindow)
  requireContiguousTradeSequences ordered
  let content : CoverageContent :=
    { identity, requestedStart, requestedEnd
      actualCoveredStart := some requestedStart
      actualCoveredEnd := some requestedEnd
      gapState := .none
      completeness := .complete
      firstTradeId := ordered.head?.map (·.venueTradeId)
      lastTradeId := ordered.getLast?.map (·.venueTradeId)
      firstSequence := ordered.head?.map (·.sequence)
      lastSequence := ordered.getLast?.map (·.sequence)
      tradeSetHash := tradeSetContentHash hashing ordered
      policyVersion := tradeWindowCoveragePolicyVersion }
  content.proof hashing lineageId

/-- `build_complete_trade_window_coverage_from_hash`. -/
def buildCompleteTradeWindowCoverageFromHash (identity : EvidenceMarketIdentity)
    (lineageId : ConnectionId) (requestedStart requestedEnd : Instant)
    (tradeSetHash firstTradeId lastTradeId : String) (firstSequence lastSequence : Nat) :
    Except MarketError TradeWindowCoverageProof :=
  let content : CoverageContent :=
    { identity, requestedStart, requestedEnd
      actualCoveredStart := some requestedStart
      actualCoveredEnd := some requestedEnd
      gapState := .none
      completeness := .complete
      firstTradeId := some firstTradeId
      lastTradeId := some lastTradeId
      firstSequence := some firstSequence
      lastSequence := some lastSequence
      tradeSetHash
      policyVersion := tradeWindowCoveragePolicyVersion }
  content.proof hashing lineageId

/-- The part of `verify_trade_window_coverage` before the trades are read, which
`verify_released_trade_tape` repeats. -/
def verifyProof (proof : TradeWindowCoverageProof) (identity : EvidenceMarketIdentity)
    (lineageId : ConnectionId) : Except MarketError Unit := do
  ensure (proof.identity = identity)
    (.wrongMarket "Trade coverage identity does not exactly match snapshot identity.")
  ensure (proof.lineageId = lineageId)
    (.wrongSource "Trade coverage lineage does not match snapshot lineage.")
  ensure (proof.contentHash = hashing.coverage proof.toCoverageContent)
    (.incompleteTradeWindow "Trade coverage proof content hash is invalid.")

def verifyTradeWindowCoverage (proof : TradeWindowCoverageProof)
    (identity : EvidenceMarketIdentity) (lineageId : ConnectionId) (trades : List TradeEvent) :
    Except MarketError Unit := do
  verifyProof hashing proof identity lineageId
  let ordered := orderTrades trades
  ordered.forM (requireTradeInWindow identity lineageId proof.requestedStart proof.requestedEnd
    "Snapshot trade falls outside the coverage proof requested window.")
  if proof.completeness = .complete then requireContiguousTradeSequences ordered
  ensure (proof.tradeSetHash = tradeSetContentHash hashing ordered)
    (.incompleteTradeWindow "Trade coverage proof does not bind the snapshot trade set.")
  ensure (proof.firstTradeId = ordered.head?.map (·.venueTradeId) ∧
      proof.lastTradeId = ordered.getLast?.map (·.venueTradeId) ∧
      proof.firstSequence = ordered.head?.map (·.sequence) ∧
      proof.lastSequence = ordered.getLast?.map (·.sequence))
    (.incompleteTradeWindow "Trade coverage terminal identities do not match trades.")

/-! ## Batches -/

structure OrderedTradeBatch where
  identity : EvidenceMarketIdentity
  trades : List TradeEvent
  sourceConnectionId : ConnectionId
  coverage : TradeWindowCoverageProof
  deriving DecidableEq

/-- What the loop of the batch's check has seen. -/
structure BatchSeen where
  ids : List (String × String)
  previous : Option TradeEvent

def requireOrder (trade : TradeEvent) : Option TradeEvent → Except MarketError Unit
  | some previous => do
    ensure (previous.sequence ≤ trade.sequence) (.outOfOrderTrades ("Trade sequence " ++
      toString trade.sequence ++ " is before previous " ++ toString previous.sequence ++ "."))
    ensure (trade.sequence ≠ previous.sequence)
      (.duplicateData ("Duplicate sequence " ++ toString trade.sequence ++ "."))
    ensure (previous.eventTimestamp ≤ trade.eventTimestamp)
      (.outOfOrderTrades "Trade event timestamps must be non-decreasing in venue order.")
  | none => .ok ()

def batchStep (identity : EvidenceMarketIdentity) (connection : ConnectionId) (seen : BatchSeen)
    (trade : TradeEvent) : Except MarketError BatchSeen := do
  requireTradeMatchesIdentity trade identity
  ensure (trade.sourceConnectionId = connection)
    (.validation "Mixed source_connection_id values are not allowed in one batch.")
  match seen.ids.lookup trade.venueTradeId with
  | some priorHash =>
    if priorHash ≠ trade.contentHash then
      .error (.duplicateData ("Conflicting content for venue trade " ++ trade.venueTradeId ++ "."))
    else .error (.duplicateData ("Duplicate venue trade " ++ trade.venueTradeId ++ "."))
  | none => do
    requireOrder trade seen.previous
    return ⟨(trade.venueTradeId, trade.contentHash) :: seen.ids, some trade⟩

def OrderedTradeBatch.checked (batch : OrderedTradeBatch) :
    Except MarketError OrderedTradeBatch := do
  requirePerpetual batch.identity
  requireInstrument batch.identity batch.identity.instrument
  let _ ← batch.trades.foldlM (batchStep batch.identity batch.sourceConnectionId) ⟨[], none⟩
  verifyTradeWindowCoverage hashing batch.coverage batch.identity batch.sourceConnectionId
    batch.trades
  return batch

/-! ## A market -/

def sampleInstrument : InstrumentIdentity where
  venue := .binance
  marketType := .perpetual
  productFamily := .usdmFutures
  contractStyle := .linear
  instrumentId := "BINANCE:BTCUSDT"
  providerSymbol := "BTCUSDT"
  baseAsset := "BTC"
  quoteAsset := "USDT"
  settlementAsset := "USDT"
  contractMultiplier := 1
  priceUnit := "USDT"
  baseQuantityUnit := "BTC"
  quoteQuantityUnit := "USDT"

def sampleIdentity : EvidenceMarketIdentity where
  venue := .binance
  marketType := .perpetual
  instrument := sampleInstrument
  timeframe := none
  source := ⟨.binanceUsdmFuturesPublic, "binance_usdm", "adapter/v1", "buyer_is_maker"⟩
  provenance := ⟨"binance_usdm", .binanceUsdmFuturesPublic, "adapter/v1", true, false, false, false,
    none⟩
  sameVenue := rfl
  sameMarket := rfl

end AlphaTrade.Market
