import AlphaTrade.Journal.Projector
import AlphaTrade.Library.PyClock
import AlphaTrade.Market.Ohlcv

/-!
# The paper exit monitor

The monitor polls closed candles for each open paper trade. A series with a hole at its start,
inside it or at its end is refused; in one that is let through, the first candle behind the
entry that touches the stop or the target closes the trade.

Prices are finite decimals, and compared as the numbers they denote. A datetime may be naive;
comparing it with an aware one raises `TypeError`.
-/
namespace AlphaTrade.PaperExit
open Library
open Execution (CommandId)
open Journal (TradeDirection)
open Market (Timeframe intervalTimedelta)

/-! ## Data -/

/-- A finite `Decimal`. -/
structure Price where
  value : PyDecimal
  finite : value.isFinite = true
  deriving DecidableEq

namespace Price

def toRat (price : Price) : ℚ := price.value.toRat

/-- `format(price, "f")`, which writes no exponent. -/
def format (price : Price) : String :=
  match price.value with
  | .finite negative coefficient exponent =>
    let digits := Nat.toDigits 10 coefficient
    let dotPlace : Int := exponent + digits.length
    let mantissa : List Char :=
      if 0 < exponent then
        if coefficient = 0 then digits else digits ++ List.replicate exponent.toNat '0'
      else if exponent = 0 then digits
      else if dotPlace ≤ 0 then '0' :: '.' :: (List.replicate (-dotPlace).toNat '0' ++ digits)
      else digits.take dotPlace.toNat ++ '.' :: digits.drop dotPlace.toNat
    (if negative then "-" else "") ++ String.ofList mantissa
  | _ => ""

end Price

def timeframeValue : Timeframe → String
  | .m1 => "1m"
  | .m3 => "3m"
  | .m5 => "5m"
  | .m15 => "15m"
  | .m30 => "30m"
  | .h1 => "1h"
  | .h2 => "2h"
  | .h4 => "4h"
  | .h6 => "6h"
  | .h12 => "12h"
  | .d1 => "1d"
  | .d3 => "3d"
  | .w1 => "1w"

def directionValue : TradeDirection → String
  | .long => "long"
  | .short => "short"

/-- `str(identifier)`: 32 hexadecimal digits in five groups. -/
def uuidText (identifier : Nat) : String :=
  let digits := Nat.toDigits 16 identifier
  let digits := List.replicate (32 - digits.length) '0' ++ digits
  String.ofList (digits.take 8) ++ "-" ++ String.ofList ((digits.drop 8).take 4) ++ "-" ++
    String.ofList ((digits.drop 12).take 4) ++ "-" ++
    String.ofList ((digits.drop 16).take 4) ++ "-" ++ String.ofList (digits.drop 20)

structure ExitBar where
  intervalStart : PyDateTime
  intervalEnd : PyDateTime
  openPrice : Price
  high : Price
  low : Price
  close : Price
  sourceEventId : String
  contentHash : String
  venue : String
  deriving DecidableEq

structure OpenInternalPaperTrade where
  commandId : CommandId
  symbol : String
  timeframe : Timeframe
  direction : TradeDirection
  entryTime : PyDateTime
  stop : Price
  target : Price
  deriving DecidableEq

inductive ExitReason where
  | stopHit | targetHit
  deriving DecidableEq, Repr

structure ExitDecision where
  trade : OpenInternalPaperTrade
  reason : ExitReason
  exitPrice : Price
  occurredAt : PyDateTime
  evidence : List (String × String)
  idempotencyKey : String
  deriving DecidableEq

inductive ExitError where
  | typeError
  deriving DecidableEq, Repr

/-! ## The closed series -/

def closedBars (bars : List ExitBar) (evaluatedAt : PyDateTime) : List ExitBar :=
  bars.filter fun bar =>
    bar.intervalStart.IsAware ∧ bar.intervalEnd.IsAware ∧
      bar.intervalEnd.instant ≤ evaluatedAt.instant

/-- The key of the series, `(interval_start, interval_end)`. -/
def ExitBar.key (bar : ExitBar) : Int ×ₗ Int :=
  toLex (bar.intervalStart.instant, bar.intervalEnd.instant)

def orderedBars (bars : List ExitBar) : List ExitBar :=
  bars.insertionSort fun left right => left.key ≤ right.key

/-- The loop over the ordered bars: each is one step long and begins where the one before it
ends. -/
def meets (step : Int) : Option ExitBar → List ExitBar → Bool
  | _, [] => true
  | previous, bar :: rest =>
    bar.intervalEnd.instant - bar.intervalStart.instant = step &&
      previous.all (bar.intervalStart.instant = ·.intervalEnd.instant) &&
      meets step (some bar) rest

/-- Why a series is refused; `none` lets it through. -/
def candleSeriesBlock (bars : List ExitBar) (timeframe : Timeframe) (evaluatedAt : PyDateTime)
    (entryTime : Option PyDateTime) : Option String :=
  let step := intervalTimedelta timeframe
  if ¬evaluatedAt.IsAware then some "gap"
  else
    let ordered := orderedBars (closedBars bars evaluatedAt)
    let leading : Bool := entryTime.any fun entry =>
      ¬entry.IsAware || !ordered.head?.any (·.intervalStart.instant ≤ entry.instant)
    if leading then some "leading_gap"
    else match ordered.getLast? with
      | none => some "stale"
      | some last =>
        if !meets step none ordered then some "gap"
        else if step ≤ evaluatedAt.instant - last.intervalEnd.instant then some "stale"
        else none

/-! ## Eligibility -/

/-- `ENTRY_SETTLEMENT_GAP`, ninety seconds. -/
def entrySettlementGap : Int := 90000000

def epoch : Int := 719163 * 86400000000

def boundaryAtOrBefore (moment step : Int) : Int := moment - (moment - epoch) % step

def entryEligibilityTime (entryTime : PyDateTime) (timeframe : Timeframe) : PyDateTime.Moment :=
  match entryTime.moment with
  | .naive wall => .naive wall
  | .aware moment =>
    let boundary := boundaryAtOrBefore moment (intervalTimedelta timeframe)
    if moment - boundary ≤ entrySettlementGap then .aware boundary else .aware moment

/-- The condition of the comprehension, evaluated from left to right. -/
def isEligible (trade : OpenInternalPaperTrade) (evaluatedAt : PyDateTime) (bar : ExitBar) :
    Except ExitError Bool :=
  match (entryEligibilityTime trade.entryTime trade.timeframe).le bar.intervalStart.moment with
  | none => .error .typeError
  | some false => .ok false
  | some true =>
    match bar.intervalEnd.moment.le evaluatedAt.moment with
    | none => .error .typeError
    | some false => .ok false
    | some true => .ok (bar.intervalStart.IsAware ∧ bar.intervalEnd.IsAware)

/-- `[bar for bar in bars if condition(bar)]`, where the condition may raise. -/
def comprehension {α ε : Type} (condition : α → Except ε Bool) : List α → Except ε (List α)
  | [] => .ok []
  | a :: rest => do
    let kept ← condition a
    let others ← comprehension condition rest
    return if kept then a :: others else others

/-! ## The exit of a bar -/

def opensThroughStop (trade : OpenInternalPaperTrade) (bar : ExitBar) : Bool :=
  match trade.direction with
  | .long => bar.openPrice.toRat ≤ trade.stop.toRat
  | .short => trade.stop.toRat ≤ bar.openPrice.toRat

inductive Touch where
  | stop | target | both
  deriving DecidableEq, Repr

def stopTouched (trade : OpenInternalPaperTrade) (bar : ExitBar) : Bool :=
  match trade.direction with
  | .long => bar.low.toRat ≤ trade.stop.toRat
  | .short => trade.stop.toRat ≤ bar.high.toRat

def targetTouched (trade : OpenInternalPaperTrade) (bar : ExitBar) : Bool :=
  match trade.direction with
  | .long => trade.target.toRat ≤ bar.high.toRat
  | .short => bar.low.toRat ≤ trade.target.toRat

/-- `_touch`. -/
def touch (trade : OpenInternalPaperTrade) (bar : ExitBar) : Option Touch :=
  if stopTouched trade bar && targetTouched trade bar then some .both
  else if stopTouched trade bar then some .stop
  else if targetTouched trade bar then some .target
  else none

/-- `HISTORICAL_BACKFILL_AFTER`, a day. -/
def historicalBackfillAfter : Int := 86400000000

def downtimeIsHistoricalBackfill (occurredAt evaluatedAt : PyDateTime) : Bool :=
  match occurredAt.moment, evaluatedAt.moment with
  | .aware occurred, .aware evaluated => historicalBackfillAfter ≤ evaluated - occurred
  | _, _ => true

def classifyExitOrigin (occurredAt evaluatedAt : PyDateTime) : String :=
  if downtimeIsHistoricalBackfill occurredAt evaluatedAt then "backfill" else "live"

def exitIdempotencyKey (commandId : CommandId) : String :=
  "paper-exit-monitor:" ++ uuidText commandId

/-- `_evidence`. -/
def exitEvidence (trade : OpenInternalPaperTrade) (bar : ExitBar)
    (sourceName level assumption : String) : List (String × String) :=
  [("bar_interval_start", bar.intervalStart.isoformat),
    ("bar_interval_end", bar.intervalEnd.isoformat),
    ("bar_open", bar.openPrice.format),
    ("bar_high", bar.high.format),
    ("bar_low", bar.low.format),
    ("bar_close", bar.close.format),
    ("source_event_id", bar.sourceEventId),
    ("content_hash", bar.contentHash),
    ("timeframe", timeframeValue trade.timeframe),
    ("symbol", trade.symbol),
    ("level", level),
    ("same_bar_assumption", assumption),
    ("market_source", sourceName),
    ("direction", directionValue trade.direction)]

/-- The texts that a poll adds to the evidence of an exit. -/
structure Poll where
  sourceName : String
  evaluatedAt : PyDateTime
  candleVenue : String

/-- The body of the loop: what one bar decides. -/
def exitAt (trade : OpenInternalPaperTrade) (poll : Poll) (bar : ExitBar) : Option ExitDecision :=
  let gapped := opensThroughStop trade bar
  let touched := touch trade bar
  if touched = none ∧ gapped = false then none
  else
    let stopExit : Bool := gapped || touched = some .stop || touched = some .both
    let price := if gapped then bar.openPrice else if stopExit then trade.stop else trade.target
    let assumption :=
      if gapped then "gap_through_open" else if touched = some .both then "stop_first" else "none"
    let origin := classifyExitOrigin bar.intervalEnd poll.evaluatedAt
    some {
      trade
      reason := if stopExit then .stopHit else .targetHit
      exitPrice := price
      occurredAt := bar.intervalEnd
      evidence :=
        exitEvidence trade bar poll.sourceName (if stopExit then "stop" else "target") assumption ++
          [("exit_origin", origin),
            ("calibration_sample", if origin = "backfill" then "excluded" else "eligible")] ++
          (if poll.candleVenue = "" then [] else [("candle_venue", poll.candleVenue)])
      idempotencyKey := exitIdempotencyKey trade.commandId }

def decideExit (trade : OpenInternalPaperTrade) (bars : List ExitBar) (poll : Poll) :
    Except ExitError (Option ExitDecision) := do
  let eligible ← comprehension (isEligible trade poll.evaluatedAt) bars
  let ordered := eligible.insertionSort fun left right =>
    left.intervalStart.instant ≤ right.intervalStart.instant
  return ordered.findSome? (exitAt trade poll)

end AlphaTrade.PaperExit
