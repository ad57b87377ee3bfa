import AlphaTrade.Library.PyValue
import AlphaTrade.Library.Sightings
import AlphaTrade.Library.TailProof
import AlphaTrade.Market.TradeReduction

/-!
# Recent trades of Bybit

A recent-trade page is the only history that Bybit offers. A lineage proves a tail of it: the
first page must reach back to the start of the window, and a later page must hold the last
proven print, of which it contributes the prints behind. Prints are ranked at first sight, by
all lineages of the source together, and a tail is proven only when its ranks are in a row.

Checks of a transport answer before its list is read, and the verification of the contract
before an order-flow snapshot, are inputs that only refuse.
-/
namespace AlphaTrade.Market
open Library
open Execution (Instant)

def recentTradeLimit : Nat := 1000

/-- `_PROVEN_TAIL_RETENTION` in milliseconds. -/
def provenTailRetentionMs : Int := 15 * 60 * 1000

def maxLineageProofs : Nat := 3

def maxProvenTrades : Nat := 10 * recentTradeLimit

def bybitAdapterVersion : String := "bybit-usdt-perpetual/v1"

def bybitAggressorConvention : String := "bybit-linear-public-trade/taker-side/v1"

/-- Texts, decimals and clock readings. `timestampMs` is `int(value.timestamp() * 1000)`, in
binary floating point: it rises with the instant, and whole seconds are read exactly. -/
structure PyRuntime extends PyBuiltins where
  upper : String → String
  lower : String → String
  decimal : String → Except PyRaised ℚ
  timestampMs : Instant → Int
  timestampMs_mono : ∀ earlier later, earlier ≤ later → timestampMs earlier ≤ timestampMs later
  timestampMs_seconds : ∀ seconds, timestampMs (seconds * 1000000) = seconds * 1000

variable (runtime : PyRuntime)

/-! ## Prints -/

/-- A print after `_normalize_print`. -/
structure Print where
  execId : String
  timeMs : Int
  symbol : PyJson
  price : PyJson
  size : PyJson
  side : PyJson
  time : PyJson
  deriving DecidableEq, Repr

/-- `row.get(key, "")`. -/
def getText (row : PyDict) (key : String) : PyJson := (row.lookup key).getD (.str "")

/-- `_normalize_print`. -/
def normalizePrint : Option PyDict → Except MarketError Print
  | none => .error (.wrongMarket "Bybit trade row is malformed.")
  | some row => do
    let execId := strip (runtime.str (getText row "execId"))
    ensure (execId ≠ "") (.wrongMarket "Bybit trade is missing execId.")
    match row.item "time" >>= fun time => runtime.int (.str (runtime.str time)) with
    | .ok timeMs =>
      return ⟨execId, timeMs, getText row "symbol", row.get "price", row.get "size",
        row.get "side", row.get "time"⟩
    | .error .overflowError => .error (.raised .overflowError)
    | .error _ => .error (.wrongMarket "Bybit trade is missing a timestamp.")

def sameSignature (left right : Print) : Prop :=
  left.timeMs = right.timeMs ∧ runtime.eq left.price right.price = true ∧
    runtime.eq left.size right.size = true ∧ runtime.eq left.side right.side = true

instance (left right : Print) : Decidable (sameSignature runtime left right) :=
  inferInstanceAs (Decidable (_ ∧ _))

def conflictingExecution (execId : String) : MarketError :=
  .duplicateData ("Conflicting content for Bybit execution " ++ execId ++ ".")

/-- `_reject_conflicting_exec_ids`: the first print of each execution seen so far. -/
def rejectConflictingExecIds (prints : List Print) : Except MarketError (List Print) :=
  prints.foldlM
    (fun seen item =>
      match seen.find? (·.execId = item.execId) with
      | none => .ok (seen ++ [item])
      | some previous =>
        if sameSignature runtime item previous then .ok seen
        else .error (conflictingExecution item.execId))
    []

/-- `_unique_exec_ids`. -/
def uniqueExecIds (prints : List Print) : List Print :=
  prints.foldl
    (fun unique item => if item.execId ∈ unique.map Print.execId then unique else unique ++ [item])
    []

def unprovenWindow : MarketError :=
  .incompleteTradeWindow ("Bybit recent trades do not prove the requested window. " ++
    "Refusing to fabricate the missing prefix.")

/-- `_load_recent_prints`. -/
def loadRecentPrints : PyPayload → Except MarketError (List Print)
  | .other => .error unprovenWindow
  | .list payload => do
    ensure (payload ≠ [] ∧ payload.length ≤ recentTradeLimit) unprovenWindow
    let prints ← payload.mapM (normalizePrint runtime)
    let prints := prints.insertionSort fun left right =>
      stamp Print.timeMs Print.execId left ≤ stamp Print.timeMs Print.execId right
    let _ ← rejectConflictingExecIds runtime prints
    return uniqueExecIds prints

def observedPrints (receiveAt : Instant) (payload : Except MarketError PyPayload) :
    Except MarketError (List Print) := do
  let payload ← payload
  let prints ← loadRecentPrints runtime payload
  let prints := prints.filter (·.timeMs ≤ runtime.timestampMs receiveAt)
  ensure (prints ≠ []) (.incompleteTradeWindow "No public prints at/before observation time.")
  return prints

/-- One page with the observation it was read for. -/
abbrev PrintCache := Option (Instant × List Print)

/-- `_cached_recent_prints`. A source that reuses pages keeps one, for as long as it has not
expired. -/
def cachedRecentPrints (reuse expired : Bool) (cache : PrintCache) (receiveAt : Instant)
    (payload : Except MarketError PyPayload) : Except MarketError (List Print × PrintCache) :=
  let load := observedPrints runtime receiveAt payload
  if reuse then
    match cache with
    | some (readFor, prints) =>
      if readFor = receiveAt ∧ expired = false then .ok (prints, cache)
      else load.map fun prints => (prints, some (receiveAt, prints))
    | none => load.map fun prints => (prints, some (receiveAt, prints))
  else load.map fun prints => (prints, cache)

/-! ## Proofs of a tail -/

/-- `_LineageProof`. -/
structure LineageProof where
  proven : List Print
  provenFromMs : Option Int
  anchorExecId : Option String
  initialOldestMs : Option Int
  deriving DecidableEq, Repr

def LineageProof.new : LineageProof := ⟨[], none, none, none⟩

/-- The loop of `_trim_proven_prefix`: old prints go, the last one stays. -/
def dropOld (cutoffMs : Int) : List Print → List Print
  | first :: next :: rest =>
    if first.timeMs < cutoffMs then dropOld cutoffMs (next :: rest) else first :: next :: rest
  | prints => prints

/-- `_trim_proven_prefix`. A millisecond that the bound splits is not claimed any more. -/
def LineageProof.trimProvenPrefix (proof : LineageProof) (limit : Nat) : LineageProof :=
  match proof.proven.getLast? with
  | none => proof
  | some newest =>
    let kept := dropOld (newest.timeMs - provenTailRetentionMs)
      (proof.proven.drop (proof.proven.length - limit))
    let keepAt := proof.proven.length - kept.length
    match (proof.proven.take keepAt).getLast?, kept.head? with
    | some before, some first =>
      let firstMs := if before.timeMs = first.timeMs then first.timeMs + 1 else first.timeMs
      -- a zero is no bound to Python's `or`
      let fromMs := match proof.provenFromMs with
        | some fromMs => if fromMs = 0 then firstMs else fromMs
        | none => firstMs
      { proof with
        proven := kept
        provenFromMs := some (max fromMs firstMs) }
    | _, _ => proof

/-- `_require_rank_tail`. -/
def requireRankTail (ranks : Ranks String) (prints : List Print) : Except MarketError Unit := do
  let numbers ← prints.mapM fun item =>
    match ranks.rank item.execId with
    | some rank => .ok rank
    | none => .error (.raised .keyError)
  match numbers with
  | [] => .error (.raised .indexError)
  | first :: _ =>
    ensure (numbers = List.range' first numbers.length) (.gapDetected
      "Bybit recent-trade order is not a contiguous proven tail. Refusing a partial CVD.")

/-- `_prove_initial_tail`. -/
def proveInitialTail (ranks : Ranks String) (prints : List Print) (startMs : Int)
    (proof : LineageProof) : Except MarketError LineageProof :=
  match prints.head? with
  | none => .error (.raised .indexError)
  | some oldest => do
    ensure (oldest.timeMs ≤ startMs) unprovenWindow
    let proven := prints.filter (startMs ≤ ·.timeMs)
    match proven.getLast? with
    | none => .error (.incompleteTradeWindow
        "Bybit recent trades have no prints inside the requested window.")
    | some newest => do
      requireRankTail ranks proven
      return { proof with
        proven
        initialOldestMs := some oldest.timeMs
        provenFromMs := some startMs
        anchorExecId := some newest.execId }.trimProvenPrefix maxProvenTrades

/-- `_extend_proven_tail`. -/
def extendProvenTail (ranks : Ranks String) (prints : List Print) (proof : LineageProof) :
    Except MarketError LineageProof :=
  match prints.dropWhile fun item => some item.execId ≠ proof.anchorExecId with
  | [] => .error (.gapDetected ("Bybit recent-trade buffer dropped the last proven print. " ++
      "Refusing to fabricate the missing interval."))
  | _ :: extension =>
    match extension.getLast? with
    | none => .ok (proof.trimProvenPrefix maxProvenTrades)
    | some newest => do
      requireRankTail ranks (proof.proven ++ extension)
      return { proof with
        proven := proof.proven ++ extension
        anchorExecId := some newest.execId }.trimProvenPrefix maxProvenTrades

/-! ## The source -/

structure BybitSource where
  ranks : Ranks String
  signatureByExec : String → Option Print
  recentExecIds : List String
  lineages : List (ConnectionId × LineageProof)
  recentPrintCache : PrintCache

def BybitSource.new : BybitSource := ⟨⟨fun _ => none, 1⟩, fun _ => none, [], [], none⟩

namespace BybitSource

/-- The second loop of `_assign_ranks`. The signature of a print is kept as the print. -/
def rankPrint (source : BybitSource) (item : Print) : BybitSource :=
  if (source.ranks.rank item.execId).isSome then source
  else { source with
    ranks := source.ranks.sight item.execId
    signatureByExec := Function.update source.signatureByExec item.execId (some item) }

/-- `_assign_ranks`. -/
def assignRanks (source : BybitSource) (prints : List Print) : Except MarketError BybitSource := do
  prints.forM fun item =>
    ensure (∀ prior ∈ source.signatureByExec item.execId, sameSignature runtime item prior)
      (conflictingExecution item.execId)
  return prints.foldl rankPrint source

/-- `_prepare_connection`: the lineage comes last, and only the last ones are kept. -/
def prepareConnection (source : BybitSource) (connection : ConnectionId) :
    LineageProof × BybitSource :=
  let proof := (source.lineages.lookup connection).getD .new
  let lineages := source.lineages.filter (·.1 ≠ connection) ++ [(connection, proof)]
  (proof, { source with lineages := Library.newest maxLineageProofs lineages })

def setProof (source : BybitSource) (connection : ConnectionId) (proof : LineageProof) :
    BybitSource :=
  { source with lineages := source.lineages.map fun lineage =>
      if lineage.1 = connection then (connection, proof) else lineage }

/-- `_prune_ranks`. -/
def pruneRanks (source : BybitSource) : BybitSource :=
  let retained := fun execId : String => decide (execId ∈ source.recentExecIds) ||
    source.lineages.any fun lineage => lineage.2.proven.any fun item => item.execId = execId
  { source with
    ranks := source.ranks.retain retained
    signatureByExec := fun execId =>
      if retained execId then source.signatureByExec execId else none }

/-- `release_symbol_history`, of the source's own symbol. -/
def releaseSymbolHistory (source : BybitSource) : BybitSource :=
  pruneRanks { source with lineages := source.lineages.map fun lineage =>
    (lineage.1, lineage.2.trimProvenPrefix recentTradeLimit) }

def advanceProof (source : BybitSource) (prints : List Print) (startMs : Int)
    (proof : LineageProof) : Except MarketError LineageProof :=
  if proof.proven = [] then proveInitialTail source.ranks prints startMs proof
  else extendProvenTail source.ranks prints proof

def numbered (source : BybitSource) (item : Print) : Except MarketError (Print × Nat) :=
  match source.ranks.rank item.execId with
  | some rank => .ok (item, rank)
  | none => .error (.raised .keyError)

def provenWindow (source : BybitSource) (proof : LineageProof) (startMs endMs : Int) :
    Except MarketError (List (Print × Nat)) := do
  ensure (∃ fromMs ∈ proof.provenFromMs, fromMs ≤ startMs) unprovenWindow
  let window := proof.proven.filter fun item => startMs ≤ item.timeMs ∧ item.timeMs < endMs
  window.mapM source.numbered

/-- `_recent_trades_covering` behind the read of the page. The ranks are pruned however it
ends. -/
def recentTradesCovering (source : BybitSource) (startMs endMs : Int)
    (connection : ConnectionId) (prints : List Print) :
    Except MarketError (List (Print × Nat)) × BybitSource :=
  let (proof, source) := source.prepareConnection connection
  match source.assignRanks runtime prints with
  | .error error => (.error error, source.pruneRanks)
  | .ok source =>
    let source := { source with recentExecIds := prints.map Print.execId }
    match source.advanceProof prints startMs proof with
    | .error error => (.error error, source.pruneRanks)
    | .ok proof =>
      let source := source.setProof connection proof
      (source.provenWindow proof startMs endMs, source.pruneRanks)

end BybitSource

/-! ## Requests -/

/-- What a source is built with: its instrument, and whether pages are reused. -/
structure BybitSettings where
  instrument : InstrumentIdentity
  reuseRecentPages : Bool

def bybitSymbol : String := "BTCUSDT"

/-- `name`. -/
def bybitName : String := "bybit-usdt-perpetual"

structure TradeRequest where
  identity : EvidenceMarketIdentity
  instrument : InstrumentIdentity
  start : Instant
  stop : Instant
  sourceConnectionId : ConnectionId
  receiveAt : Instant
  deriving DecidableEq

/-- What the public endpoint answers, and whether a page that is kept has expired. -/
structure PageReading where
  payload : Except MarketError PyPayload
  expired : Bool

variable (settings : BybitSettings)

/-- `_assert_request`. -/
def assertRequest (identity : EvidenceMarketIdentity) (instrument : InstrumentIdentity) :
    Except MarketError Unit := do
  requirePerpetual identity
  requireInstrument identity instrument
  ensure (instrument.instrumentId = settings.instrument.instrumentId)
    (.wrongInstrument (if settings.instrument.providerSymbol = bybitSymbol then
      "Bybit adapter only serves linear BTCUSDT perpetual."
    else "Bybit adapter instance only serves linear " ++ settings.instrument.providerSymbol ++
      " perpetual."))
  ensure (identity.venue = .bybit)
    (.wrongMarket "Bybit adapter cannot serve a non-Bybit venue.")
  ensure (identity.instrument.productFamily = .usdmFutures) (.spotFallbackRejected
    "Bybit spot or inverse books are not USDT perpetual evidence.")
  ensure (identity.instrument.marketType = .perpetual)
    (.wrongMarket "Bybit adapter cannot serve non-perpetual markets.")
  ensure (identity.source.family = .bybitUsdtPerpetualPublic ∧
      identity.source.providerName = bybitName ∧
      identity.provenance.sourceFamily = .bybitUsdtPerpetualPublic ∧
      identity.provenance.providerName = bybitName ∧
      identity.provenance.fallbackUsed = false ∧ identity.provenance.isLive = true ∧
      identity.provenance.isMock = false)
    (.wrongSource
      "Live Bybit evidence identity must exactly identify the Bybit USDT perpetual.")
  ensure (identity.source.aggressorConvention = bybitAggressorConvention)
    (.wrongSource "Bybit aggressor convention does not match the adapter.")

/-! ## Trades of a window -/

variable (hashing : Hashing)

/-- `_parse_trade`, with the rank of the print as the sequence. -/
def parseTrade (instrument : InstrumentIdentity) (sourceConnectionId : ConnectionId)
    (receiveAt : Instant) (row : Print × Nat) : Except MarketError TradeEvent := do
  let (item, rank) := row
  let symbol := runtime.upper (runtime.str item.symbol)
  ensure (symbol = settings.instrument.providerSymbol) (.wrongInstrument ("Bybit trade symbol " ++
    symbol ++ " is not the configured " ++ settings.instrument.providerSymbol ++ " perpetual."))
  let side := runtime.lower (runtime.str item.side)
  ensure (side = "buy" ∨ side = "sell") (.wrongMarket "Bybit trade is missing taker side.")
  ensure (item.execId.length ≤ 40)
    (.wrongMarket "Bybit execution id is longer than the trade identity.")
  let price ← (runtime.decimal (runtime.str item.price)).mapError MarketError.raised
  let quantity ← (runtime.decimal (runtime.str item.size)).mapError MarketError.raised
  buildTradeEvent hashing instrument item.execId rank price quantity (side = "sell")
    (item.timeMs * 1000) receiveAt sourceConnectionId bybitAdapterVersion bybitAggressorConvention

/-- The loop of `_require_contiguous_sequences` behind a sequence. -/
def requireContiguousFrom : Nat → List TradeEvent → Except MarketError Unit
  | _, [] => .ok ()
  | previous, trade :: trades =>
    if trade.sequence ≠ previous + 1 then
      .error (.gapDetected ("Bybit trade sequence gap " ++ toString (previous + 1) ++ "-" ++
        toString ((trade.sequence : Int) - 1) ++ "; refusing a partial CVD."))
    else requireContiguousFrom trade.sequence trades

/-- `_require_contiguous_sequences`. -/
def requireContiguous : List TradeEvent → Except MarketError Unit
  | [] => .ok ()
  | trade :: trades => requireContiguousFrom trade.sequence trades

/-- What `fetch_ordered_trades` does with the rows of the window. -/
def batchOf (request : TradeRequest) (rows : List (Print × Nat)) :
    Except MarketError OrderedTradeBatch := do
  let rawTrades ← rows.mapM (parseTrade runtime settings hashing request.instrument
    request.sourceConnectionId request.receiveAt)
  let ordered := orderTrades rawTrades
  requireContiguous ordered
  let coverage ← buildCompleteTradeWindowCoverage hashing request.identity
    request.sourceConnectionId request.start request.stop ordered
  OrderedTradeBatch.checked hashing
    { identity := request.identity
      trades := ordered
      sourceConnectionId := request.sourceConnectionId
      coverage }

/-- What `fetch_ordered_trades` asks of a request. -/
def requireTradeRequest (request : TradeRequest) : Except MarketError Unit := do
  assertRequest settings request.identity request.instrument
  ensure (request.start < request.stop) (.wrongMarket "Trade window end must be after start.")

def BybitSource.readPage (request : TradeRequest) (reading : PageReading) (source : BybitSource) :
    Except MarketError (List Print × PrintCache) := do
  requireTradeRequest settings request
  cachedRecentPrints runtime settings.reuseRecentPages reading.expired source.recentPrintCache
    request.receiveAt reading.payload

/-- `fetch_ordered_trades`. -/
def fetchOrderedTrades (request : TradeRequest) (reading : PageReading) (source : BybitSource) :
    Except MarketError OrderedTradeBatch × BybitSource :=
  match source.readPage runtime settings request reading with
  | .error error => (.error error, source)
  | .ok (prints, cache) =>
    let source := { source with recentPrintCache := cache }
    let (rows, source) := source.recentTradesCovering runtime
      (runtime.timestampMs request.start) (runtime.timestampMs request.stop)
      request.sourceConnectionId prints
    (rows >>= batchOf runtime settings hashing request, source)

/-! ## Order-flow snapshots -/

def fiveMinutes : Int := 300 * 1000000

/-- `require_order_flow_request`. The observation is taken in whole seconds, towards zero. -/
def requireOrderFlowRequest (request : TradeRequest) : Except MarketError Unit :=
  let epoch := request.receiveAt.tdiv 1000000
  let closedEnd := (epoch - epoch % 300) * 1000000
  ensure (request.identity.timeframe = some .m5 ∧ request.stop ≤ closedEnd ∧
      request.stop - request.start = fiveMinutes * 2 ∧ request.stop % 1000000 = 0 ∧
      request.stop.tdiv 1000000 % 300 = 0)
    (.marketContract "Order flow requires two aligned, closed five-minute windows.")

/-- What `fetch_order_flow_snapshot` does with a batch and the proof of its lineage. -/
def snapshotOf (request : TradeRequest) (proof : LineageProof) (batch : OrderedTradeBatch) :
    Except MarketError TradeStreamSnapshot := do
  ensure (∃ oldest ∈ proof.initialOldestMs, oldest < runtime.timestampMs request.start)
    (.incompleteTradeWindow "Bybit initial page does not prove the entire start bucket.")
  ensure (∃ newest ∈ proof.proven.getLast?, runtime.timestampMs request.stop ≤ newest.timeMs)
    (.incompleteTradeWindow "Bybit tail does not prove the closed window end.")
  let normalized := batch.trades.mapIdx fun index trade =>
    (trade.withSequence index).withContentHash hashing
  buildReleasedTradeSnapshot hashing normalized request.identity request.sourceConnectionId
    request.start request.stop

/-- What `fetch_order_flow_snapshot` asks of a request. `contract` is the outcome of the
contract's verification. -/
def requireOrderFlow (request : TradeRequest) (contract : Except MarketError Unit) :
    Except MarketError Unit := do
  requireOrderFlowRequest request
  assertRequest settings request.identity request.instrument
  contract

/-- `fetch_order_flow_snapshot`. -/
def fetchOrderFlowSnapshot (request : TradeRequest) (contract : Except MarketError Unit)
    (reading : PageReading) (source : BybitSource) :
    Except MarketError TradeStreamSnapshot × BybitSource :=
  match requireOrderFlow settings request contract with
  | .error error => (.error error, source)
  | .ok () =>
    let (batch, source) := fetchOrderedTrades runtime settings hashing request reading source
    let snapshot := do
      let batch ← batch
      match source.lineages.lookup request.sourceConnectionId with
      | none => .error (.raised .keyError)
      | some proof => snapshotOf runtime hashing request proof batch
    (snapshot, source)

end AlphaTrade.Market
