import Mathlib.Data.List.MinMax
import Mathlib.Data.Prod.Lex
import AlphaTrade.Library.Drawdown
import AlphaTrade.Library.SortedOn
import AlphaTrade.Risk.Accounting

/-!
# The equity calculator

`PortfolioEquityCalculator`: the equity of an account after each of its closed trades, and day by
day in a time zone. One fold over the curve measures its drawdown, and one fold over the trades of a
day measures the day's.
-/
namespace AlphaTrade.Performance
open Library
open Execution (Instant)
open Risk (Day ZoneInfo Zones normalizeTimezone)

structure UnifiedTradeRecord where
  status : String
  realizedPnl : ℚ
  openedAt : Option Instant
  closedAt : Option Instant
  deriving DecidableEq, Repr

structure DollarEquityPoint where
  index : Nat
  timestamp : Option Instant
  equity : ℚ
  cumulativeRealizedPnl : ℚ
  unrealizedPnl : Option ℚ
  event : String
  deriving DecidableEq, Repr

structure DailyPortfolioPoint where
  date : Day
  startingEquity : ℚ
  endingEquity : ℚ
  dailyPnl : ℚ
  dailyDrawdown : ℚ
  dailyDrawdownPct : Option ℚ
  tradesClosed : Nat
  deriving DecidableEq, Repr

structure EquitySeriesResult where
  equityCurve : List DollarEquityPoint
  dailySeries : List DailyPortfolioPoint
  maxDrawdown : ℚ
  maxDrawdownPct : Option ℚ
  cumulativeRealizedPnl : ℚ
  deriving DecidableEq, Repr

/-! ## Closed trades -/

def closedTrades (records : List UnifiedTradeRecord) : List UnifiedTradeRecord :=
  records.filter (·.status = "closed")

/-- `sort_key`, but for the index, as which a stable sort orders what is left. -/
def sortKey (trade : UnifiedTradeRecord) : Nat ×ₗ Instant :=
  let ts := trade.closedAt <|> trade.openedAt
  toLex (if ts.isSome then 0 else 1, ts.getD 0)

/-- `_sorted_closed`. -/
def sortedClosed (records : List UnifiedTradeRecord) : List UnifiedTradeRecord :=
  sortedOn sortKey (closedTrades records)

/-! ## The curve -/

/-- The points of the closes, from a running profit and an index on. -/
def closePoints (startingBalance : ℚ) :
    ℚ → Nat → List UnifiedTradeRecord → List DollarEquityPoint
  | _, _, [] => []
  | running, idx, trade :: rest =>
    { index := idx
      timestamp := trade.closedAt
      equity := startingBalance + (running + trade.realizedPnl)
      cumulativeRealizedPnl := running + trade.realizedPnl
      unrealizedPnl := none
      event := "trade_close" } ::
      closePoints startingBalance (running + trade.realizedPnl) (idx + 1) rest

/-- `_equity_curve`. -/
def equityCurve (startingBalance : ℚ) (closed : List UnifiedTradeRecord)
    (unrealizedPnl : Option ℚ) (asOf : Instant) : List DollarEquityPoint :=
  let start : DollarEquityPoint := {
    index := 0
    timestamp := match closed with
      | [] => some asOf
      | first :: _ => first.openedAt
    equity := startingBalance
    cumulativeRealizedPnl := 0
    unrealizedPnl := none
    event := "start" }
  let points := start :: closePoints startingBalance 0 1 closed
  let running := (closed.map (·.realizedPnl)).sum
  points ++ [{
    index := points.length
    timestamp := some asOf
    equity := startingBalance + running + unrealizedPnl.getD 0
    cumulativeRealizedPnl := running
    unrealizedPnl
    event := "live" }]

structure DrawdownState where
  peak : ℚ
  maxDd : ℚ
  maxDdPct : Option ℚ

/-- One point of `_max_drawdown_on_equity`. -/
def drawdownStep (state : DrawdownState) (equity : ℚ) : DrawdownState :=
  let peak := max state.peak equity
  let drop := peak - equity
  if state.maxDd < drop then
    { peak
      maxDd := drop
      maxDdPct := if 0 < peak then some (drop / peak) else state.maxDdPct }
  else { state with peak }

def maxDrawdownOnEquity (curve : List DollarEquityPoint) : DrawdownState :=
  (curve.map (·.equity)).foldl drawdownStep ⟨0, 0, none⟩

/-! ## Days -/

def closeDay (zone : ZoneInfo) (trade : UnifiedTradeRecord) : Option Day :=
  trade.closedAt.map zone.date

/-- `by_day.get(day, [])`. -/
def byDay (zone : ZoneInfo) (closed : List UnifiedTradeRecord) (day : Day) :
    List UnifiedTradeRecord := closed.filter (closeDay zone · = some day)

structure DayState where
  equity : ℚ
  peak : ℚ
  maxDayDd : ℚ
  dailyPnl : ℚ

def dayStep (state : DayState) (pnl : ℚ) : DayState :=
  let equity := state.equity + pnl
  let peak := max state.peak equity
  let drop := peak - equity
  { equity, peak
    maxDayDd := if state.maxDayDd < drop then drop else state.maxDayDd
    dailyPnl := state.dailyPnl + pnl }

/-- `datetime.min`. -/
def datetimeMin : Instant := -62135596800000000

/-- The point of a day that starts with an equity. -/
def dayPoint (zone : ZoneInfo) (closed : List UnifiedTradeRecord) (current : Day) (equity : ℚ) :
    DailyPortfolioPoint :=
  let dayTrades := sortedOn (fun trade => trade.closedAt.getD datetimeMin)
    (byDay zone closed current)
  let state := (dayTrades.map (·.realizedPnl)).foldl dayStep ⟨equity, equity, 0, 0⟩
  { date := current
    startingEquity := equity
    endingEquity := state.equity
    dailyPnl := state.dailyPnl
    dailyDrawdown := state.maxDayDd
    dailyDrawdownPct :=
      if 0 < state.peak ∧ 0 < state.maxDayDd then some (state.maxDayDd / state.peak) else none
    tradesClosed := dayTrades.length }

def dayLoop (zone : ZoneInfo) (closed : List UnifiedTradeRecord) :
    Nat → Day → ℚ → List DailyPortfolioPoint
  | 0, _, _ => []
  | left + 1, current, equity =>
    let point := dayPoint zone closed current equity
    point :: dayLoop zone closed left (current + 1) point.endingEquity

/-- The first and the last day, if there are both. -/
def dayRange (days : List Day) (seriesStart seriesEnd : Option Day) : Option (Day × Day) :=
  if days = [] ∧ seriesStart = none then none
  else
    let firstDay := if days = [] then seriesStart else days.min?
    let lastDay := if days = [] then seriesEnd else days.max?
    let firstDay := match seriesStart with
      | none => firstDay
      | some start => some (firstDay.elim start (min · start))
    let lastDay := match seriesEnd with
      | none => lastDay
      | some stop => some (lastDay.elim stop (max · stop))
    match firstDay, lastDay with
    | some firstDay, some lastDay => some (firstDay, lastDay)
    | _, _ => none

/-- `ZoneInfo(tz_label)`. The database has UTC. -/
def zoneOf (zones : Zones) (timezone : Option String) : ZoneInfo :=
  (zones (normalizeTimezone zones (timezone.getD ""))).getD .utc

def preWindow (zone : ZoneInfo) (closed : List UnifiedTradeRecord) (firstDay : Day) : ℚ :=
  ((closed.filter fun trade => ∃ day ∈ closeDay zone trade, day < firstDay).map
    (·.realizedPnl)).sum

/-- `_daily_series`. -/
def dailySeries (zones : Zones) (startingBalance : ℚ) (closed : List UnifiedTradeRecord)
    (timezone : Option String) (seriesStart seriesEnd : Option Day) :
    List DailyPortfolioPoint :=
  let zone := zoneOf zones timezone
  if closed = [] ∧ seriesStart = none ∧ seriesEnd = none then []
  else match dayRange (closed.filterMap (closeDay zone)) seriesStart seriesEnd with
    | none => []
    | some (firstDay, lastDay) => dayLoop zone closed (lastDay + 1 - firstDay).toNat firstDay
        (startingBalance + preWindow zone closed firstDay)

/-- `PortfolioEquityCalculator.build`. -/
def build (zones : Zones) (startingBalance : ℚ) (records : List UnifiedTradeRecord)
    (unrealizedPnl : Option ℚ) (asOf : Instant) (timezone : Option String)
    (seriesStart seriesEnd : Option Day) : EquitySeriesResult :=
  let closed := sortedClosed records
  let curve := equityCurve startingBalance closed unrealizedPnl asOf
  let measured := maxDrawdownOnEquity curve
  { equityCurve := curve
    dailySeries := dailySeries zones startingBalance closed timezone seriesStart seriesEnd
    maxDrawdown := measured.maxDd
    maxDrawdownPct := measured.maxDdPct
    cumulativeRealizedPnl := (closed.map (·.realizedPnl)).sum }

end AlphaTrade.Performance
