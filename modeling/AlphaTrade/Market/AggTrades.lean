import Mathlib.Data.List.Sort
import AlphaTrade.Execution.Rows
import AlphaTrade.Library.Check
import AlphaTrade.Library.PyJson
import AlphaTrade.Library.Table

/-!
# Aggregate trades of Binance

A window of trades is read in slices shorter than an hour. A slice begins with a query by
time, and every full page is continued by id until a row lies behind the slice.
`fetch_complete_agg_trade_rows` collects the rows and proves the window afterwards,
`iter_contiguous_agg_trade_rows` checks each row as it passes. Both walk the pages alike, so
the walk is one definition with the visit of a row as its parameter.
-/
namespace AlphaTrade.Market
open Library
open Execution (Instant)

/-- The errors of the market contracts. `validation` is a record that does not pass its own
check, `raised` an exception that no contract names, and `provider` one of the transport. -/
inductive MarketError where
  | marketContract (message : String)
  | wrongMarket (message : String)
  | wrongInstrument (message : String)
  | wrongSource (message : String)
  | spotFallbackRejected (message : String)
  | duplicateData (message : String)
  | outOfOrderTrades (message : String)
  | gapDetected (message : String)
  | unrecoverableGap (message : String)
  | incompleteTradeWindow (message : String)
  | emptyTradeWindow (message : String)
  | unknownAggressor (message : String)
  | incompleteWarmUp (message : String)
  | cursorRecovery (message : String)
  | staleEvidence (message : String)
  | validation (message : String)
  | raised (exception : PyRaised)
  | provider (message : String)
  deriving DecidableEq, Repr

def aggtradePageLimit : Nat := 1000

def aggtradeMaxInclusiveSpanMs : Int := 3599999

def oneHourMs : Int := 3600000

def aggtradeMaxPagesPerChunk : Nat := 200

/-! ## Windows and slices -/

/-- `int(utc.timestamp()) * 1000 + utc.microsecond // 1000`. The conversion to an integer
goes towards zero, the microseconds of a reading are never negative. -/
def datetimeToMs (value : Instant) : Int :=
  value.tdiv 1000000 * 1000 + value % 1000000 / 1000

def inclusiveMsWindow (start stop : Instant) : Except MarketError (Int × Int) :=
  if datetimeToMs stop ≤ datetimeToMs start then
    .error (.wrongMarket "Trade window end must be after start.")
  else .ok (datetimeToMs start, datetimeToMs stop - 1)

/-- The loop of `iter_aggtrade_time_chunks` from a cursor on. -/
def chunksFrom (lastMs : Int) : Nat → Int → Except MarketError (List (Int × Int))
  | 0, _ => .ok []
  | fuel + 1, cursor =>
    if cursor ≤ lastMs then
      let chunkEnd := min (cursor + aggtradeMaxInclusiveSpanMs) lastMs
      if oneHourMs ≤ chunkEnd - cursor then
        .error (.incompleteTradeWindow "AggTrade time chunk would exceed the 1h bound.")
      else (chunksFrom lastMs fuel (chunkEnd + 1)).map ((cursor, chunkEnd) :: ·)
    else .ok []

def iterAggtradeTimeChunks (start stop : Instant) : Except MarketError (List (Int × Int)) := do
  let (startMs, lastMs) ← inclusiveMsWindow start stop
  chunksFrom lastMs (lastMs + 1 - startMs).toNat startMs

/-! ## Requests -/

/-- Either a time window or a cursor. -/
structure AggTradeQuery where
  symbol : String
  limit : Nat
  startTimeMs : Option Int
  endTimeMs : Option Int
  fromId : Option Int
  deriving DecidableEq, Repr

/-- `__post_init__`. -/
def AggTradeQuery.check (query : AggTradeQuery) : Except MarketError Unit := do
  ensure (1 ≤ query.limit ∧ query.limit ≤ aggtradePageLimit)
    (.incompleteTradeWindow "AggTrade page limit must be between 1 and 1000.")
  ensure (query.fromId = none ∨ query.startTimeMs = none ∧ query.endTimeMs = none)
    (.incompleteTradeWindow "AggTrade fromId cannot be combined with startTime/endTime.")
  match query.fromId, query.startTimeMs, query.endTimeMs with
  | some _, _, _ => .ok ()
  | none, some start, some stop => do
    ensure (start ≤ stop) (.incompleteTradeWindow "AggTrade time window is malformed.")
    ensure (stop - start < oneHourMs)
      (.incompleteTradeWindow "AggTrade startTime/endTime must span less than one hour.")
  | none, _, _ => .error (.incompleteTradeWindow
      "AggTrade request must be either a time window or a fromId cursor.")

def pageQuery (symbol : String) (chunk : Int × Int) : Option Int → AggTradeQuery
  | some fromId =>
    { symbol, limit := aggtradePageLimit, startTimeMs := none, endTimeMs := none
      fromId := some fromId }
  | none =>
    { symbol, limit := aggtradePageLimit, startTimeMs := some chunk.1
      endTimeMs := some chunk.2, fromId := none }

/-- The response as a function of the request. -/
abbrev JsonGetter := AggTradeQuery → Except MarketError PyPayload

/-! ## Rows -/

variable (builtins : PyBuiltins)

/-- `int(row[key])`, with the refusal of a row that has no such number. -/
def rowInt (key message : String) (row : PyDict) : Except MarketError Int :=
  match row.item key >>= builtins.int with
  | .ok n => .ok n
  | .error .overflowError => .error (.raised .overflowError)
  | .error _ => .error (.wrongMarket message)

def rowId : PyDict → Except MarketError Int :=
  rowInt builtins "a" "USD-M aggTrade is missing aggregate trade id."

def rowEventMs : PyDict → Except MarketError Int :=
  rowInt builtins "T" "USD-M aggTrade is missing event time."

def conflictingContent (aggId : Int) : MarketError :=
  .duplicateData ("Conflicting aggTrade content for id " ++ toString aggId ++ ".")

/-- `_dedupe_row`. -/
def dedupeRow (existing incoming : PyDict) (aggId : Int) : Except MarketError Unit := do
  let before ← rowEventMs builtins existing
  let after ← rowEventMs builtins incoming
  ensure (builtins.str (existing.get "p") = builtins.str (incoming.get "p") ∧
      builtins.str (existing.get "q") = builtins.str (incoming.get "q") ∧ before = after ∧
      builtins.eq (existing.get "m") (incoming.get "m") = true ∧
      (existing.get "m").sameType (incoming.get "m") = true)
    (conflictingContent aggId)

/-- Price, quantity, time and maker flag. -/
abbrev RowSignature := String × String × Int × Bool

/-- `_row_signature`. -/
def rowSignature (row : PyDict) : Except MarketError RowSignature :=
  match row.get "m" with
  | .bool maker => do
    let event ← rowEventMs builtins row
    return (builtins.str (row.get "p"), builtins.str (row.get "q"), event, maker)
  | _ => .error (.wrongMarket "USD-M aggTrade requires a boolean buyer-is-maker flag.")

/-! ## The walk over the pages -/

section Walk

variable (getJson : JsonGetter) (symbol : String) (overallLastMs : Int) {σ : Type}
  (visit : σ → Int → PyDict → Except MarketError σ)

/-- A page as it is received: an array of objects within the bound. -/
def readPage (query : AggTradeQuery) : Except MarketError (List PyDict) := do
  query.check
  match ← getJson query with
  | .other => .error (.wrongMarket "USD-M aggTrades payload is not a list.")
  | .list items => do
    ensure (items.length ≤ aggtradePageLimit)
      (.incompleteTradeWindow "AggTrade page exceeds its provider contract bound.")
    items.mapM fun
      | some row => .ok row
      | none => .error (.wrongMarket "USD-M aggTrade row is malformed.")

/-- `page_rows.sort(key=_row_id)`. -/
def sortRows (rows : List PyDict) : Except MarketError (List PyDict) := do
  let keyed ← rows.mapM fun row => (rowId builtins row).map fun aggId => (aggId, row)
  return (keyed.insertionSort fun left right => left.1 ≤ right.1).map (·.2)

/-- The loop over the rows of a page. It also reports whether a row lies behind the slice. -/
def scanRows (chunk : Int × Int) (fromId : Option Int) :
    List PyDict → Bool → σ → Except MarketError (Bool × σ)
  | [], crossed, state => .ok (crossed, state)
  | row :: rows, crossed, state => do
    let eventMs ← rowEventMs builtins row
    if overallLastMs < eventMs then scanRows chunk fromId rows true state
    else if fromId.isSome ∧ chunk.2 < eventMs then scanRows chunk fromId rows true state
    else if eventMs < chunk.1 ∧ fromId.isNone then scanRows chunk fromId rows crossed state
    else
      let state ← visit state eventMs row
      scanRows chunk fromId rows crossed state

/-- The pages of one slice, as many as are left. -/
def drain (chunk : Int × Int) : Nat → Option Int → σ → Except MarketError σ
  | 0, _, _ => .error (.incompleteTradeWindow
      "AggTrade pagination exceeded the per-chunk page bound; window is incomplete.")
  | pages + 1, fromId, state => do
    let rows ← readPage getJson (pageQuery symbol chunk fromId)
    let pageRows ← sortRows builtins rows
    match pageRows.getLast? with
    | none => return state
    | some last => do
      let (crossed, state) ← scanRows builtins overallLastMs visit chunk fromId pageRows false
        state
      if crossed ∨ rows.length < aggtradePageLimit then return state
      let aggId ← rowId builtins last
      drain chunk pages (some (aggId + 1)) state

def walk (chunks : List (Int × Int)) (state : σ) : Except MarketError σ :=
  chunks.foldlM
    (fun state chunk => drain builtins getJson symbol overallLastMs visit chunk
      aggtradeMaxPagesPerChunk none state)
    state

end Walk

/-! ## Collect and prove -/

/-- One row of the proof: kept under its id, unless it is out of the window or repeats a row
that is kept. -/
def indexRow (startMs lastMs : Int) (byId : Table Int PyDict) (row : PyDict) :
    Except MarketError (Table Int PyDict) := do
  let aggId ← rowId builtins row
  let eventMs ← rowEventMs builtins row
  if eventMs < startMs ∨ lastMs < eventMs then return byId
  match byId.find aggId with
  | some prior => do
    dedupeRow builtins prior row aggId
    return byId
  | none => return byId.put aggId row

/-- The loop of `require_contiguous_sequences` behind a sequence. -/
def contiguousFrom : Int → List Int → Except MarketError Unit
  | _, [] => .ok ()
  | previous, current :: rest =>
    if current = previous then
      .error (.duplicateData ("Duplicate sequence " ++ toString current ++ "."))
    else if current ≠ previous + 1 then
      .error (.gapDetected ("Confirmed sequence gap " ++ toString (previous + 1) ++ "-" ++
        toString (current - 1) ++ "."))
    else contiguousFrom current rest

def requireContiguousSequences : List Int → Except MarketError Unit
  | [] => .ok ()
  | first :: rest => contiguousFrom first rest

def asIncomplete : MarketError → MarketError
  | .duplicateData message | .gapDetected message => .incompleteTradeWindow message
  | error => error

def proveAggtradeCoverage (rows : List PyDict) (start stop : Instant) :
    Except MarketError (List PyDict) := do
  let (startMs, lastMs) ← inclusiveMsWindow start stop
  let byId ← rows.foldlM (indexRow builtins startMs lastMs) .empty
  let orderedIds := byId.keys.insertionSort (· ≤ ·)
  (requireContiguousSequences orderedIds).mapError asIncomplete
  return orderedIds.filterMap byId.find

variable (getJson : JsonGetter) (symbol : String)

def fetchCompleteAggTradeRows (start stop : Instant) : Except MarketError (List PyDict) := do
  let chunks ← iterAggtradeTimeChunks start stop
  let (_, overallLastMs) ← inclusiveMsWindow start stop
  let collected ← walk builtins getJson symbol overallLastMs
    (fun collected _ row => .ok (collected ++ [row])) chunks []
  proveAggtradeCoverage builtins collected start stop

/-! ## Check as they pass -/

/-- The last id with its signature, and what was yielded. -/
structure RowStream where
  previous : Option (Int × RowSignature)
  yielded : List PyDict

/-- A row of the window repeats the last one or follows it. -/
def admitRow (startMs lastMs : Int) (stream : RowStream) (eventMs : Int) (row : PyDict) :
    Except MarketError RowStream :=
  if eventMs < startMs ∨ lastMs < eventMs then .ok stream
  else do
    let aggId ← rowId builtins row
    let signature ← rowSignature builtins row
    let next : RowStream := ⟨some (aggId, signature), stream.yielded ++ [row]⟩
    match stream.previous with
    | none => return next
    | some (previousId, previousSignature) =>
      if aggId = previousId then
        if signature ≠ previousSignature then .error (conflictingContent aggId)
        else return stream
      else if aggId ≠ previousId + 1 then
        .error (.incompleteTradeWindow ("Confirmed sequence gap " ++
          toString (previousId + 1) ++ "-" ++ toString (aggId - 1) ++ "."))
      else return next

def iterContiguousAggTradeRows (start stop : Instant) : Except MarketError (List PyDict) := do
  let (startMs, lastMs) ← inclusiveMsWindow start stop
  let chunks ← iterAggtradeTimeChunks start stop
  let stream ← walk builtins getJson symbol lastMs (admitRow builtins startMs lastMs) chunks
    ⟨none, []⟩
  return stream.yielded

end AlphaTrade.Market
