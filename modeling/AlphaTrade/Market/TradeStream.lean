import AlphaTrade.Library.Attempt
import AlphaTrade.Library.Table
import AlphaTrade.Market.TradeReduction

/-!
# The assembler of a trade stream

`TradeStreamAssembler` edits its list of retained trades, its index by venue id, its cursor and
its coverage one after another, and may raise in between. Its methods are `EStateM`
computations, which keep what was edited before they raised. The identity of a new connection
is an argument.
-/
namespace AlphaTrade.Market
open Library Library.Attempt
open Execution (Instant)

/-- The cursor with the fields that only the assembler reads. -/
structure AssemblerCursor extends TradeStreamCursor where
  connectedAt : Instant
  reconnectCount : Nat
  gapStart : Option Nat
  gapEnd : Option Nat
  updatedAt : Instant
  deriving DecidableEq

structure TradeStreamAssembler where
  identity : EvidenceMarketIdentity
  expectedContiguousCount : Option Int
  cursor : AssemblerCursor
  byId : Table String TradeEvent
  ordered : List TradeEvent
  coverage : Option TradeWindowCoverageProof
  watermarkSequence : Option Nat

/-- A method of the assembler. -/
abbrev Method := EStateM MarketError TradeStreamAssembler

/-- `_MIN_COVERAGE_INTERVAL`. -/
def minCoverageInterval : Int := 1

/-! ## Pure parts -/

def detectSequenceGap (previous : Option Nat) (next : Nat) : Option (Nat × Nat) :=
  match previous with
  | none => none
  | some previous =>
    if next = previous + 1 then none
    else if next ≤ previous then none
    else some (previous + 1, next - 1)

variable (hashing : Hashing)

/-- `_retag_connection`. -/
def retagConnection (connection : ConnectionId) (trade : TradeEvent) : TradeEvent :=
  if trade.sourceConnectionId = connection then trade
  else { trade with sourceConnectionId := connection }.withContentHash hashing

/-- The loop of `_dedupe_ordered`: what it has seen, newest first, and what it keeps. -/
def dedupeFrom (identity : EvidenceMarketIdentity) :
    List (String × String) → List TradeEvent → Except MarketError (List TradeEvent)
  | _, [] => .ok []
  | seen, trade :: trades => do
    requireTradeMatchesIdentity trade identity
    match seen.lookup trade.venueTradeId with
    | none => do
      let rest ← dedupeFrom identity ((trade.venueTradeId, trade.contentHash) :: seen) trades
      return trade :: rest
    | some prior =>
      if prior ≠ trade.contentHash then
        .error (.duplicateData ("Conflicting content for venue trade " ++ trade.venueTradeId ++
          "."))
      else dedupeFrom identity seen trades

/-- `_dedupe_ordered`. -/
def dedupeOrdered (identity : EvidenceMarketIdentity) (trades : List TradeEvent) :
    Except MarketError (List TradeEvent) := dedupeFrom identity [] (orderTrades trades)

def maxSequence (trades : List TradeEvent) : Nat := (trades.map (·.sequence)).foldr max 0

def minSequence : List TradeEvent → Nat
  | [] => 0
  | trade :: trades => (trades.map (·.sequence)).foldl min trade.sequence

/-- `_assert_watermark_coverage`. -/
def assertWatermarkCoverage (watermark : Option Nat) (combined : List TradeEvent) :
    Except MarketError Unit :=
  match watermark with
  | none => .ok ()
  | some watermark =>
    let present := combined.map (·.sequence)
    if maxSequence combined < watermark + 1 then
      .error (.gapDetected ("Reconnect backfill never resumed after sequence " ++
        toString watermark ++ "."))
    else
      let missing := (List.range' (watermark + 1) (maxSequence combined - watermark)).filter
        fun sequence => sequence ∉ present
      match missing.head?, missing.getLast? with
      | some first, some last => .error (.gapDetected ("Confirmed sequence gap " ++
          toString first ++ "-" ++ toString last ++ "."))
      | _, _ => .ok ()

/-- `build_partial_assembly_coverage`. -/
def buildPartialAssemblyCoverage (identity : EvidenceMarketIdentity) (lineageId : ConnectionId)
    (requestedStart requestedEnd : Instant) (trades : List TradeEvent) (gapState : GapState) :
    Except MarketError TradeWindowCoverageProof := do
  let ordered := orderTrades trades
  ordered.forM (requireTradeInWindow identity lineageId requestedStart requestedEnd
    outsideRequestedWindow)
  let actualStart := ordered.head?.map (·.eventTimestamp)
  let content : CoverageContent :=
    { identity, requestedStart, requestedEnd
      actualCoveredStart := actualStart
      actualCoveredEnd := do
        let start ← actualStart
        let last ← ordered.getLast?
        return max (last.eventTimestamp + minCoverageInterval) start
      gapState
      completeness := .partially
      firstTradeId := ordered.head?.map (·.venueTradeId)
      lastTradeId := ordered.getLast?.map (·.venueTradeId)
      firstSequence := ordered.head?.map (·.sequence)
      lastSequence := ordered.getLast?.map (·.sequence)
      tradeSetHash := tradeSetContentHash hashing ordered
      policyVersion := tradeWindowCoveragePolicyVersion }
  content.proof hashing lineageId

namespace TradeStreamAssembler

/-- The assembler that is created. -/
def new (identity : EvidenceMarketIdentity) (connectedAt : Instant)
    (connectionIdentity : ConnectionId) (expectedContiguousCount : Option Int) :
    Except MarketError TradeStreamAssembler := do
  let cursor ← initialCursor identity connectionIdentity
  return {
    identity
    expectedContiguousCount
    cursor := { cursor with
      connectedAt, reconnectCount := 0, gapStart := none, gapEnd := none
      updatedAt := connectedAt }
    byId := .empty
    ordered := []
    coverage := none
    watermarkSequence := none }

variable (assembler : TradeStreamAssembler)

/-! ## Edits -/

/-- What `forget_trades_before` keeps: the last trade at least. -/
def keptTrades (ordered : List TradeEvent) (last : TradeEvent) (cutoff : Instant) :
    List TradeEvent :=
  let recent := ordered.filter (cutoff ≤ ·.eventTimestamp)
  if recent = [] then [last] else recent

/-- `forget_trades_before`. -/
def forgetTradesBefore (cutoff : Instant) : TradeStreamAssembler :=
  match assembler.ordered.getLast? with
  | none => assembler
  | some last =>
    let kept := keptTrades assembler.ordered last cutoff
    if kept.length = assembler.ordered.length then assembler
    else
      let keptIds := kept.map (·.venueTradeId)
      { assembler with
        ordered := kept
        byId := assembler.byId.restrict fun tradeId => tradeId ∈ keptIds }

/-- `drop_retained_trades`. -/
def dropRetainedTrades : TradeStreamAssembler := { assembler with ordered := [], byId := .empty }

/-- `begin_reconnect`. -/
def beginReconnect (connectionIdentity : ConnectionId) (observedAt : Instant) :
    TradeStreamAssembler :=
  { assembler with
    watermarkSequence := assembler.cursor.lastSequence
    cursor := { assembler.cursor with
      connectionIdentity
      reconnectCount := assembler.cursor.reconnectCount + 1
      reconnectState := .reconnecting
      gapState := .suspected
      warmUpStatus := .backfilling
      lastEventId := none
      lastSequence := none
      lastEventAt := none
      connectedAt := observedAt
      updatedAt := observedAt }
    coverage := none }

/-- `release_unrecoverable_for_retry`. -/
def releaseUnrecoverableForRetry : TradeStreamAssembler :=
  if assembler.cursor.gapState ≠ .unrecoverable then assembler
  else
    { assembler with cursor := { assembler.cursor with
        gapState := if assembler.cursor.gapStart.isSome then .confirmed else .suspected
        warmUpStatus := .backfilling
        reconnectState := .reconnecting } }

/-- `_note_incomplete_backfill`. A confirmed gap comes with its bounds. -/
def noteIncompleteBackfill (observedAt : Instant) (gap : Option (Nat × Nat)) :
    TradeStreamAssembler :=
  { assembler with cursor := { assembler.cursor with
      gapState := if gap.isSome then .confirmed else .suspected
      warmUpStatus := .backfilling
      reconnectState := .reconnecting
      updatedAt := observedAt
      gapStart := gap.map Prod.fst
      gapEnd := gap.map fun bounds => max bounds.1 bounds.2 } }

/-- The assembler behind a trade that it takes. -/
def append (trade : TradeEvent) (observedAt : Instant) : TradeStreamAssembler :=
  { assembler with
    byId := assembler.byId.put trade.venueTradeId trade
    ordered := assembler.ordered ++ [trade]
    cursor := { assembler.cursor with
      lastEventId := some trade.venueTradeId
      lastSequence := some trade.sequence
      lastEventAt := some trade.eventTimestamp
      reconnectState :=
        if assembler.cursor.reconnectState = .initial ∨
            assembler.cursor.reconnectState = .recovered then .continuous
        else assembler.cursor.reconnectState
      gapState := .none
      gapStart := none
      gapEnd := none
      updatedAt := observedAt } }

/-- `_refresh_warm_up`. -/
def refreshWarmUp (observedAt : Instant) : TradeStreamAssembler :=
  let status : WarmUpStatus :=
    if assembler.cursor.gapState ≠ .none then .failed
    else if assembler.ordered = [] then .empty
    else if ∃ count ∈ assembler.expectedContiguousCount, assembler.ordered.length < count then
      .backfilling
    else .complete
  { assembler with cursor := { assembler.cursor with
      warmUpStatus := status, updatedAt := observedAt } }

/-- The bounds of `_refresh_partial_coverage`. -/
def partialBounds (observedAt : Instant) : Instant × Instant :=
  match assembler.ordered.head?, assembler.ordered.getLast? with
  | some first, some last =>
    let start := min assembler.cursor.connectedAt first.eventTimestamp
    (start, max (max observedAt (last.eventTimestamp + minCoverageInterval))
      (start + minCoverageInterval))
  | _, _ =>
    let start := assembler.cursor.connectedAt
    (start, max observedAt (start + minCoverageInterval))

/-- `_refresh_partial_coverage`, the proof. -/
def partialCoverage (observedAt : Instant) : Except MarketError TradeWindowCoverageProof :=
  let bounds := assembler.partialBounds observedAt
  buildPartialAssemblyCoverage hashing assembler.identity assembler.cursor.connectionIdentity
    bounds.1 bounds.2 assembler.ordered assembler.cursor.gapState

/-- The state behind a backfill: its trades are those of the new connection. -/
def recovered (combined : List TradeEvent) (observedAt : Instant) : TradeStreamAssembler :=
  let epochTrades := combined.map (retagConnection hashing assembler.cursor.connectionIdentity)
  { assembler with
    ordered := epochTrades
    byId := epochTrades.foldl (fun byId trade => byId.put trade.venueTradeId trade)
      assembler.byId
    cursor := { assembler.cursor with
      lastEventId := epochTrades.getLast?.map (·.venueTradeId)
      lastSequence := epochTrades.getLast?.map (·.sequence)
      lastEventAt := epochTrades.getLast?.map (·.eventTimestamp)
      reconnectState := .recovered
      gapState := .none
      gapStart := none
      gapEnd := none
      updatedAt := observedAt } }

def continued (observedAt : Instant) : TradeStreamAssembler :=
  if assembler.cursor.warmUpStatus = .complete then
    { assembler with cursor := { assembler.cursor with
        reconnectState := .continuous, updatedAt := observedAt } }
  else assembler

end TradeStreamAssembler

/-! ## Methods -/

/-- `_refresh_partial_coverage`. -/
def refreshPartialCoverage (observedAt : Instant) : Method Unit := do
  let assembler ← get
  let proof ← check (assembler.partialCoverage hashing observedAt)
  modify ({ · with coverage := some proof })

/-- The coverage that `_snapshot` asks for. -/
def requireCoverage : Method Unit := do
  let assembler ← get
  if assembler.coverage.isNone then refreshPartialCoverage hashing assembler.cursor.updatedAt
  else pure ()

/-- `_snapshot`. -/
def snapshot : Method TradeStreamSnapshot := do
  requireCoverage hashing
  let assembler ← get
  match assembler.coverage with
  | none => throw (.validation "coverage")
  | some coverage =>
    let cursor := assembler.cursor.toTradeStreamCursor
    check (TradeStreamSnapshot.checked hashing
      { cursor, trades := assembler.ordered, coverage
        usable := decide (Usable cursor coverage), releasedTape := none })

/-- The second loop of `_accept_live`. -/
def acceptTrade (observedAt : Instant) (trade : TradeEvent) : Method PUnit := do
  let assembler ← get
  match assembler.byId.find trade.venueTradeId with
  | some existing =>
    require (existing.contentHash = trade.contentHash)
      (.duplicateData ("Conflicting content for venue trade " ++ trade.venueTradeId ++ "."))
  | none => do
    require (∀ last ∈ assembler.cursor.lastSequence, last ≤ trade.sequence)
      (.outOfOrderTrades ("Trade sequence " ++ toString trade.sequence ++ " arrived after " ++
        toString (assembler.cursor.lastSequence.getD 0) ++ " without reconnect."))
    require (∀ last ∈ assembler.cursor.lastSequence, trade.sequence ≠ last)
      (.duplicateData ("Duplicate sequence " ++ toString trade.sequence ++ "."))
    match detectSequenceGap assembler.cursor.lastSequence trade.sequence with
    | some (start, stop) => do
      modify fun assembler => { assembler with cursor := { assembler.cursor with
        gapState := .confirmed, gapStart := some start, gapEnd := some stop
        updatedAt := observedAt } }
      throw (.gapDetected ("Confirmed sequence gap " ++ toString start ++ "-" ++ toString stop ++
        " on " ++ trade.venueTradeId ++ "."))
    | none => modify (·.append trade observedAt)

/-- The first loop of `_accept_live`. -/
def requireEpoch (identity : EvidenceMarketIdentity) (connection : ConnectionId)
    (trade : TradeEvent) : Except MarketError Unit := do
  requireTradeMatchesIdentity trade identity
  ensure (trade.sourceConnectionId = connection)
    (.cursorRecovery "Trade connection epoch does not match the current cursor epoch.")

/-- `_accept_live`. -/
def acceptLive (ordered : List TradeEvent) (observedAt : Instant) : Method Unit := do
  let assembler ← get
  check (ordered.forM (requireEpoch assembler.identity assembler.cursor.connectionIdentity))
  ordered.forM (acceptTrade observedAt)

def ingest (trades : List TradeEvent) (observedAt : Instant) (allowEmpty : Bool) :
    Method TradeStreamSnapshot := do
  let assembler ← get
  require (assembler.cursor.gapState ≠ .unrecoverable)
    (.unrecoverableGap "Stream is closed after an unrecoverable gap.")
  require (assembler.cursor.reconnectState ≠ .reconnecting)
    (.cursorRecovery "Ingest during reconnect requires recover_from_backfill.")
  require (trades ≠ [] ∨ allowEmpty)
    (.gapDetected "Empty trade ingest is not a contiguous stream proof.")
  acceptLive (orderTrades trades) observedAt
  modify (·.refreshWarmUp observedAt)
  refreshPartialCoverage hashing observedAt
  snapshot hashing

def ingestBatch (batch : OrderedTradeBatch) (observedAt : Instant) :
    Method TradeStreamSnapshot := do
  let assembler ← get
  require (assembler.ordered = [])
    (.cursorRecovery "Authoritative retrieval batches require a fresh stream assembler.")
  require (batch.identity = assembler.identity) (.wrongMarket
    "Trade batch identity does not exactly match the stream evidence identity.")
  require (batch.sourceConnectionId = assembler.cursor.connectionIdentity)
    (.wrongSource "Trade batch lineage does not match the stream connection identity.")
  check (verifyTradeWindowCoverage hashing batch.coverage assembler.identity
    assembler.cursor.connectionIdentity batch.trades)
  acceptLive batch.trades observedAt
  modify (·.refreshWarmUp observedAt)
  modify ({ · with coverage := some batch.coverage })
  snapshot hashing

def assertBackfill (watermark : Option Nat) (combined : List TradeEvent) :
    Except MarketError Unit := do
  requireContiguousSequences (combined.map fun trade => (trade.sequence : Int))
  assertWatermarkCoverage watermark combined

def refuseBackfill (observedAt : Instant) (gap : Option (Nat × Nat)) (message : String) :
    Method TradeStreamSnapshot := do
  modify (·.noteIncompleteBackfill observedAt gap)
  throw (.cursorRecovery message)

def recoverFromBackfill (backfill : List TradeEvent) (observedAt : Instant)
    (liveResume : List TradeEvent) : Method TradeStreamSnapshot := do
  let assembler ← get
  require (assembler.cursor.reconnectState = .reconnecting)
    (.cursorRecovery "recover_from_backfill requires RECONNECTING state.")
  match dedupeOrdered assembler.identity (backfill ++ liveResume) with
  | .error (.duplicateData message) => refuseBackfill observedAt none message
  | .error raised => throw raised
  | .ok [] =>
    refuseBackfill observedAt none "Reconnect backfill was empty; gap remains unresolved."
  | .ok combined =>
    match assertBackfill assembler.watermarkSequence combined with
    | .error (.gapDetected message) | .error (.duplicateData message) =>
      refuseBackfill observedAt (some (minSequence combined, maxSequence combined)) message
    | .error raised => throw raised
    | .ok () => do
      modify (·.recovered hashing combined observedAt)
      modify (·.refreshWarmUp observedAt)
      modify (·.continued observedAt)
      refreshPartialCoverage hashing observedAt
      snapshot hashing

/-! ## Runs -/

inductive StreamCall where
  | ingest (trades : List TradeEvent) (observedAt : Instant) (allowEmpty : Bool)
  | ingestBatch (batch : OrderedTradeBatch) (observedAt : Instant)
  | beginReconnect (connection : ConnectionId) (observedAt : Instant)
  | recoverFromBackfill (backfill : List TradeEvent) (observedAt : Instant)
      (liveResume : List TradeEvent)
  | releaseUnrecoverableForRetry
  | forgetTradesBefore (cutoff : Instant)
  | dropRetainedTrades

def StreamCall.trades : StreamCall → List TradeEvent
  | .ingest trades _ _ => trades
  | .ingestBatch batch _ => batch.trades
  | .recoverFromBackfill backfill _ liveResume => backfill ++ liveResume
  | .beginReconnect .. | .releaseUnrecoverableForRetry | .forgetTradesBefore _
  | .dropRetainedTrades => []

/-- A call, with the snapshot that it may return. -/
def StreamCall.method : StreamCall → Method (Option TradeStreamSnapshot)
  | .ingest trades observedAt allowEmpty =>
    some <$> Market.ingest hashing trades observedAt allowEmpty
  | .ingestBatch batch observedAt => some <$> Market.ingestBatch hashing batch observedAt
  | .beginReconnect connection observedAt => do
    modify (·.beginReconnect connection observedAt)
    return none
  | .recoverFromBackfill backfill observedAt liveResume =>
    some <$> Market.recoverFromBackfill hashing backfill observedAt liveResume
  | .releaseUnrecoverableForRetry => do
    modify TradeStreamAssembler.releaseUnrecoverableForRetry
    return none
  | .forgetTradesBefore cutoff => do
    modify (·.forgetTradesBefore cutoff)
    return none
  | .dropRetainedTrades => do
    modify TradeStreamAssembler.dropRetainedTrades
    return none

def TradeStreamAssembler.step (assembler : TradeStreamAssembler) (call : StreamCall) :
    TradeStreamAssembler :=
  match call.method hashing assembler with
  | .ok _ after | .error _ after => after

end AlphaTrade.Market
