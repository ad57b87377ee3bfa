import AlphaTrade.Backtest.Fills
import AlphaTrade.Library.Drawdown

/-!
# The backtest

`_simulate_segment` goes bar by bar with at most one trade open. A trade is closed as a bar touches
its stop or a target, or by force as the segment ends. The equity, its peak, the drawdown, the
trades and their sequence are one state that the segments of a run share.

## Main results

* `backtest_accounts`: the equity is the capital and the net of the trades and the sequence numbers
  count them, and the drawdown is the greatest of all prefixes in a run whose forced closes are
  covered by what was recorded before.
-/
namespace AlphaTrade.Backtest
open Journal (TradeDirection)

/-- `ParsedStrategyRules`, as far as the simulation reads them. -/
structure ParsedStrategyRules where
  direction : TradeDirection
  entryMode : Option String
  stopPct : ℚ
  tpRMultiples : List ℚ
  useRunner : Bool

/-- What all segments of a run share. -/
structure SimTerms where
  rules : ParsedStrategyRules
  riskPerTradePct : ℚ
  feeRate : ℚ
  slipRate : ℚ
  trailPct : ℚ
  fundingRate : ℚ
  tfSeconds : ℚ
  maxTrades : Nat

/-- A segment of the candles with its label. -/
structure Segment where
  rows : List HistoricalCandle
  splitLabel : BacktestSplitLabel
  splitIndex : Nat

/-- The answers of `should_cancel`: before a segment, and at a count of processed bars. -/
structure CancelProbe where
  beforeSegment : Nat → Bool
  atBar : Nat → Bool

def CancelProbe.never : CancelProbe := ⟨fun _ => false, fun _ => false⟩

/-- `_SimState` -/
structure SimState where
  equity : ℚ
  peakEquity : ℚ
  maxDd : ℚ
  equityCurve : List EquityCurvePoint := []
  trades : List BacktestTradeRecord := []
  sequence : Nat := 0
  processedBars : Nat := 0
  cancelled : Bool := false

def SimState.initial (capital : ℚ) : SimState where
  equity := capital
  peakEquity := capital
  maxDd := 0

def TradeTerms.ofSegment (terms : SimTerms) (segment : Segment) : TradeTerms where
  feeRate := terms.feeRate
  slipRate := terms.slipRate
  splitLabel := segment.splitLabel
  splitIndex := segment.splitIndex

/-! ## Entries -/

/-- `_ema` -/
def ema (period : Nat) : List ℚ → List ℚ
  | [] => []
  | first :: rest =>
    let k : ℚ := 2 / (period + 1)
    (rest.foldl (fun (out : List ℚ × ℚ) price =>
      let next := price * k + out.2 * (1 - k)
      (out.1 ++ [next], next)) ([first], first)).1

def lookback (rows : List HistoricalCandle) (idx bars : Nat) : List HistoricalCandle :=
  (rows.take idx).drop (idx - bars)

/-- An entry price, a stop and a note. -/
structure Signal where
  entry : ℚ
  stop : ℚ
  notes : String

/-- `_entry_signal` -/
def entrySignal (rules : ParsedStrategyRules) (rows : List HistoricalCandle) (idx : Nat)
    (bar : HistoricalCandle) (ema20 : List ℚ) : Option Signal :=
  let prev := rows.getD (idx - 1) bar
  let average := ema20.getD idx 0
  let close := bar.close
  match rules.entryMode, rules.direction with
  | some "pullback_ema", .long =>
    let dipped := prev.low < average ∧ bar.low ≤ average
    let reclaimed := average < close ∧ prev.close ≤ average
    if dipped ∧ reclaimed then
      some ⟨close, close * (1 - rules.stopPct), "pullback_ema: reclaim above EMA20"⟩
    else none
  | some "pullback_ema", .short =>
    let poked := average < prev.high ∧ average ≤ bar.high
    let rejected := close < average ∧ average ≤ prev.close
    if poked ∧ rejected then
      some ⟨close, close * (1 + rules.stopPct), "pullback_ema: reject below EMA20"⟩
    else none
  | some "breakout", .long =>
    if ((lookback rows idx 20).map (·.high)).max?.any (· < close) then
      some ⟨close, close * (1 - rules.stopPct), "breakout: close above 20-bar high"⟩
    else none
  | some "breakout", .short =>
    if ((lookback rows idx 20).map (·.low)).min?.any (close < ·) then
      some ⟨close, close * (1 + rules.stopPct), "breakout: close below 20-bar low"⟩
    else none
  | some "liquidity_sweep", .long =>
    if ((lookback rows idx 15).map (·.low)).min?.any fun low => bar.low < low ∧ low < close then
      some ⟨close, bar.low * (1 - rules.stopPct / 2), "liquidity_sweep: sweep and reclaim"⟩
    else none
  | some "liquidity_sweep", .short =>
    if ((lookback rows idx 15).map (·.high)).max?.any fun high => high < bar.high ∧
      close < high then
      some ⟨close, bar.high * (1 + rules.stopPct / 2), "liquidity_sweep: sweep high and reject"⟩
    else none
  | _, _ => none

/-- `_tp_prices` -/
def tpPrices (entry stop : ℚ) (multiples : List ℚ) (direction : TradeDirection) : List ℚ :=
  let risk := |entry - stop|
  multiples.map fun mult =>
    match direction with
    | .long => entry + risk * mult
    | .short => entry - risk * mult

/-- The trade that a signal opens, unless it risks nothing. -/
def openTradeOf (terms : SimTerms) (equity : ℚ) (bar : HistoricalCandle) (idx : Nat)
    (signal : Signal) : Option OpenTrade :=
  let rules := terms.rules
  let riskCapital := equity * (terms.riskPerTradePct / 100)
  let riskPerUnit := |signal.entry - signal.stop|
  if riskPerUnit ≤ 0 then none
  else
    let size := riskCapital / riskPerUnit
    let slip := signal.entry * terms.slipRate
    let fill := match rules.direction with
      | .long => signal.entry + slip
      | .short => signal.entry - slip
    let trade : OpenTrade :=
      { direction := rules.direction
        entryTime := bar.closeTime
        entryPrice := fill
        stopLoss := signal.stop
        size
        riskPerUnit
        tpLevels := tpPrices fill signal.stop rules.tpRMultiples rules.direction
        tpHit := 0
        useRunner := rules.useRunner
        ruleNotes := signal.notes
        entryFees := fill * size * terms.feeRate
        entrySlippage := slip * size
        entryIdx := idx
        mfePrice := some fill
        maePrice := some fill }
    some (trade.updateExcursions bar.high bar.low)

/-! ## Exits -/

def OpenTrade.stopHit (trade : OpenTrade) (bar : HistoricalCandle) : Bool :=
  match trade.direction with
  | .long => bar.low ≤ trade.stopLoss
  | .short => trade.stopLoss ≤ bar.high

def OpenTrade.targetHit (trade : OpenTrade) (bar : HistoricalCandle) (target : ℚ) : Bool :=
  match trade.direction with
  | .long => target ≤ bar.high
  | .short => bar.low ≤ target

/-- The loop over the targets from a level on: the trade with the levels it has hit, and its
exit. -/
def hitTargets (bar : HistoricalCandle) : OpenTrade → Nat → List ℚ → OpenTrade × Option TradeExit
  | trade, _, [] => (trade, none)
  | trade, level, target :: targets =>
    if level < trade.tpHit ∨ !trade.targetHit bar target then
      hitTargets bar trade (level + 1) targets
    else
      let trade := { trade with tpHit := level + 1 }
      if targets ≠ [] ∧ !trade.useRunner then hitTargets bar trade (level + 1) targets
      else
        (trade, some ⟨bar.openTime, target, "take_profit_" ++ toString (level + 1),
          "tp" ++ toString (level + 1)⟩)

def runnerExit (trailPct : ℚ) (trade : OpenTrade) (bar : HistoricalCandle) : Option TradeExit :=
  let runnerHit : Bool := match trade.direction with
    | .long => bar.low ≤ bar.close * (1 - trailPct)
    | .short => bar.close * (1 + trailPct) ≤ bar.high
  if trade.useRunner ∧ 1 ≤ trade.tpHit ∧ runnerHit then
    some ⟨bar.closeTime, bar.close, "runner_trail", "tp" ++ toString trade.tpHit ++ "+runner"⟩
  else none

/-- What `_maybe_close_trade` makes of a trade: the trade with the levels it has hit, and its
exit. -/
def maybeClose (trailPct : ℚ) (trade : OpenTrade) (bar : HistoricalCandle) :
    OpenTrade × Option TradeExit :=
  if trade.stopHit bar then (trade, some ⟨bar.openTime, trade.stopLoss, "stop_loss", "none"⟩)
  else
    let (trade, exit) := hitTargets bar trade 0 trade.tpLevels
    (trade, exit <|> runnerExit trailPct trade bar)

/-- The exit of `_force_close`. -/
def forcedExit (trade : OpenTrade) (bar : HistoricalCandle) : TradeExit :=
  ⟨bar.closeTime, bar.close, "end_of_data", if trade.tpHit = 0 then "none" else "partial"⟩

/-! ## Segments -/

/-- The variables of `_simulate_segment`. -/
structure SegmentLoop where
  state : SimState
  openTrade : Option OpenTrade := none
  segTrades : List BacktestTradeRecord := []
  cancelled : Bool := false

def SimState.book (state : SimState) (trade : BacktestTradeRecord) : SimState :=
  { state with
    equity := state.equity + trade.netPnl
    trades := state.trades ++ [trade]
    sequence := state.sequence + 1 }

def SimState.mark (state : SimState) : SimState :=
  let peakEquity := max state.peakEquity state.equity
  let dd := if peakEquity = 0 then 0 else (peakEquity - state.equity) / peakEquity * 100
  { state with peakEquity, maxDd := max state.maxDd dd }

namespace SegmentLoop

/-- The bar of an open trade: it is held, and closed if the bar touches an exit. -/
def hold (terms : SimTerms) (segment : Segment) (loop : SegmentLoop) (bar : HistoricalCandle) :
    SegmentLoop :=
  match loop.openTrade with
  | none => loop
  | some trade =>
    let held := (trade.updateExcursions bar.high bar.low).accrueFunding terms.fundingRate
      terms.tfSeconds
    match maybeClose terms.trailPct held bar with
    | (held, none) => { loop with openTrade := some held }
    | (held, some exit) =>
      let record := buildTradeRecord (.ofSegment terms segment) held exit loop.state.sequence
      { loop with
        state := (loop.state.book record).mark
        openTrade := none
        segTrades := loop.segTrades ++ [record] }

def enter (terms : SimTerms) (segment : Segment) (loop : SegmentLoop) (idx : Nat)
    (bar : HistoricalCandle) : SegmentLoop :=
  if loop.openTrade.isNone ∧ loop.state.trades.length < terms.maxTrades then
    let ema20 := ema 20 (segment.rows.map (·.close))
    { loop with
      openTrade := (entrySignal terms.rules segment.rows idx bar ema20).bind
        (openTradeOf terms loop.state.equity bar idx) }
  else loop

def tick (loop : SegmentLoop) : SegmentLoop :=
  { loop with state := { loop.state with processedBars := loop.state.processedBars + 1 } }

def draw (loop : SegmentLoop) (bar : HistoricalCandle) : SegmentLoop :=
  { loop with state := { loop.state with
      equityCurve := loop.state.equityCurve ++ [⟨bar.openTime, loop.state.equity⟩] } }

/-- The bars from an index on, until the run is cancelled or has its trades. -/
def bars (terms : SimTerms) (cancel : CancelProbe) (segment : Segment) :
    SegmentLoop → List (HistoricalCandle × Nat) → SegmentLoop
  | loop, [] => loop
  | loop, (bar, idx) :: rest =>
    let ticked := loop.tick
    if ticked.state.processedBars % 2000 = 0 ∧ cancel.atBar ticked.state.processedBars then
      { ticked with cancelled := true }
    else
      let drawn := ticked.draw bar
      let held := drawn.hold terms segment bar
      -- the cap is looked at where a trade was closed
      if drawn.openTrade.isSome ∧ held.openTrade.isNone ∧
          terms.maxTrades ≤ held.state.trades.length then held
      else bars terms cancel segment (held.enter terms segment idx bar) rest

def lastRow (segment : Segment) (loop : SegmentLoop) : Option HistoricalCandle :=
  let reached := (loop.state.equityCurve.getLast?).bind fun point =>
    segment.rows.reverse.find? (·.openTime = point.timestamp)
  if loop.cancelled then reached <|> segment.rows.getLast? else segment.rows.getLast?

def forcedRecord (terms : SimTerms) (segment : Segment) (loop : SegmentLoop) :
    Option BacktestTradeRecord := do
  let trade ← loop.openTrade
  let last ← loop.lastRow segment
  let held := trade.updateExcursions last.high last.low
  some (buildTradeRecord (.ofSegment terms segment) held (forcedExit held last)
    loop.state.sequence)

/-- The forced close, which leaves the peak and the drawdown as they are. -/
def finish (terms : SimTerms) (segment : Segment) (loop : SegmentLoop) : SegmentLoop :=
  match loop.forcedRecord terms segment with
  | none => loop
  | some record =>
    { loop with
      state := loop.state.book record
      openTrade := none
      segTrades := loop.segTrades ++ [record] }

end SegmentLoop

def tradedBars (segment : Segment) : List (HistoricalCandle × Nat) := segment.rows.zipIdx.drop 25

/-- The loop of `_simulate_segment`, up to the forced close. -/
def segmentLoop (terms : SimTerms) (cancel : CancelProbe) (segment : Segment) (state : SimState) :
    SegmentLoop :=
  SegmentLoop.bars terms cancel segment { state } (tradedBars segment)

/-- `_simulate_segment` -/
def simulateSegment (terms : SimTerms) (cancel : CancelProbe) (segment : Segment)
    (state : SimState) : SegmentLoop :=
  (segmentLoop terms cancel segment state).finish terms segment

def simulateSegments (terms : SimTerms) (cancel : CancelProbe) :
    List Segment → Nat → SimState → SimState
  | [], _, state => state
  | segment :: rest, n, state =>
    if cancel.beforeSegment n then { state with cancelled := true }
    else
      let loop := simulateSegment terms cancel segment state
      if loop.cancelled then { loop.state with cancelled := true }
      else simulateSegments terms cancel rest (n + 1) loop.state

/-! ## The books -/

open Library

def SimState.results (state : SimState) : List ℚ := state.trades.map (·.netPnl)

/-- The equity and the numbers agree with the trades. -/
structure SimState.Books (capital : ℚ) (state : SimState) : Prop where
  balanced : state.equity = equityAfter capital state.results
  numbered : state.trades.map (·.sequence) = List.range state.trades.length
  counted : state.sequence = state.trades.length

def SimState.Marked (capital : ℚ) (state : SimState) : Prop :=
  Accounted capital state.results state.equity state.peakEquity state.maxDd

variable {capital : ℚ} {state : SimState} {record : BacktestTradeRecord}

theorem books_initial (capital : ℚ) : (SimState.initial capital).Books capital where
  balanced := equityAfter_nil.symm
  numbered := rfl
  counted := rfl

@[simp] theorem results_book (state : SimState) (record : BacktestTradeRecord) :
    (state.book record).results = state.results ++ [record.netPnl] := by
  simp [SimState.results, SimState.book]

/-- Booking a trade under the next number keeps the books. -/
theorem SimState.Books.book (books : state.Books capital)
    (next : record.sequence = state.sequence) : (state.book record).Books capital where
  balanced := by
    rw [results_book, equityAfter_concat, ← books.balanced]
    rfl
  numbered := by
    change (state.trades ++ [record]).map (·.sequence) =
      List.range (state.trades ++ [record]).length
    rw [List.map_append, books.numbered, List.map_singleton, next, books.counted,
      List.length_append, List.length_singleton, List.range_succ]
  counted := by
    change state.sequence + 1 = (state.trades ++ [record]).length
    rw [books.counted, List.length_append, List.length_singleton]

theorem SimState.Books.mark (books : state.Books capital) : state.mark.Books capital :=
  ⟨books.balanced, books.numbered, books.counted⟩

/-- A trade that is booked and marked keeps the peak and the drawdown. -/
theorem SimState.Marked.book_mark (positive : 0 < capital) (marked : state.Marked capital) :
    (state.book record).mark.Marked capital := by
  have booked := marked.book record.netPnl
  have solvent := booked.peak_ne_zero positive
  have results : (state.book record).mark.results = state.results ++ [record.netPnl] :=
    results_book state record
  unfold SimState.Marked
  rw [results]
  unfold SimState.mark
  dsimp only
  rw [if_neg (show max (state.book record).peakEquity (state.book record).equity ≠ 0 from solvent)]
  exact booked

/-- A trade that is booked alone keeps them if it sets neither. -/
theorem SimState.Marked.book (marked : state.Marked capital)
    (below : state.equity + record.netPnl ≤ state.peakEquity)
    (shallow : (state.peakEquity - (state.equity + record.netPnl)) / state.peakEquity * 100 ≤
      state.maxDd) : (state.book record).Marked capital := by
  unfold SimState.Marked
  rw [results_book]
  exact marked.book_covered below shallow

/-! ## Segments keep the books -/

variable {terms : SimTerms} {cancel : CancelProbe} {segment : Segment} {loop : SegmentLoop}

/-- What every bar keeps: the books, and the marks if there are any. -/
structure SimState.Kept (capital : ℚ) (state after : SimState) : Prop where
  books : state.Books capital → after.Books capital
  marked : 0 < capital → state.Marked capital → after.Marked capital

theorem kept_of_same {after : SimState} (equity : after.equity = state.equity)
    (peak : after.peakEquity = state.peakEquity) (dd : after.maxDd = state.maxDd)
    (trades : after.trades = state.trades) (sequence : after.sequence = state.sequence) :
    state.Kept capital after := by
  have results : after.results = state.results := congrArg (List.map _) trades
  constructor
  · rintro ⟨balanced, numbered, counted⟩
    exact ⟨by rw [equity, results, balanced], by rw [trades, numbered],
      by rw [sequence, trades, counted]⟩
  · intro _ marked
    unfold SimState.Marked
    rwa [results, equity, peak, dd]

theorem SimState.Kept.trans {middle after : SimState} (first : state.Kept capital middle)
    (second : middle.Kept capital after) : state.Kept capital after where
  books books := second.books (first.books books)
  marked positive marked := second.marked positive (first.marked positive marked)

theorem kept_hold (bar : HistoricalCandle) :
    loop.state.Kept capital (loop.hold terms segment bar).state := by
  unfold SegmentLoop.hold
  split
  · exact ⟨id, fun _ => id⟩
  · dsimp only
    split
    · exact ⟨id, fun _ => id⟩
    · exact ⟨fun books => (books.book rfl).mark, fun positive marked => marked.book_mark positive⟩

theorem state_enter (idx : Nat) (bar : HistoricalCandle) :
    (loop.enter terms segment idx bar).state = loop.state := by
  unfold SegmentLoop.enter
  split <;> rfl

theorem kept_bars (bars : List (HistoricalCandle × Nat)) :
    loop.state.Kept capital (SegmentLoop.bars terms cancel segment loop bars).state := by
  induction bars generalizing loop with
  | nil => exact ⟨id, fun _ => id⟩
  | cons entry rest ih =>
    obtain ⟨bar, idx⟩ := entry
    unfold SegmentLoop.bars
    dsimp only
    split
    · exact kept_of_same rfl rfl rfl rfl rfl
    · have drawn : loop.state.Kept capital (loop.tick.draw bar).state :=
        kept_of_same rfl rfl rfl rfl rfl
      have held : loop.state.Kept capital ((loop.tick.draw bar).hold terms segment bar).state :=
        drawn.trans (kept_hold bar)
      split
      · exact held
      · have entered := @ih (((loop.tick.draw bar).hold terms segment bar).enter terms segment idx
          bar)
        rw [state_enter] at entered
        exact held.trans entered

/-- A forced close sets no new peak and no new drawdown. -/
def SegmentLoop.Covered (terms : SimTerms) (segment : Segment) (loop : SegmentLoop) : Prop :=
  ∀ record, loop.forcedRecord terms segment = some record →
    loop.state.equity + record.netPnl ≤ loop.state.peakEquity ∧
    (loop.state.peakEquity - (loop.state.equity + record.netPnl)) / loop.state.peakEquity * 100 ≤
      loop.state.maxDd

theorem sequence_forcedRecord (forced : loop.forcedRecord terms segment = some record) :
    record.sequence = loop.state.sequence := by
  simp only [SegmentLoop.forcedRecord, Option.bind_eq_bind, Option.bind_eq_some_iff] at forced
  obtain ⟨_, -, _, -, made⟩ := forced
  rw [← Option.some.inj made, sequence_buildTradeRecord]

theorem books_finish (books : loop.state.Books capital) :
    (loop.finish terms segment).state.Books capital := by
  unfold SegmentLoop.finish
  split
  · exact books
  · rename_i record forced
    exact books.book (sequence_forcedRecord forced)

theorem marked_finish (marked : loop.state.Marked capital)
    (covered : loop.Covered terms segment) : (loop.finish terms segment).state.Marked capital := by
  unfold SegmentLoop.finish
  split
  · exact marked
  · rename_i record forced
    obtain ⟨below, shallow⟩ := covered record forced
    exact marked.book below shallow

def RunCovered (terms : SimTerms) (cancel : CancelProbe) : List Segment → Nat → SimState → Prop
  | [], _, _ => True
  | segment :: rest, n, state =>
    cancel.beforeSegment n = false →
      (segmentLoop terms cancel segment state).Covered terms segment ∧
      ((simulateSegment terms cancel segment state).cancelled = false →
        RunCovered terms cancel rest (n + 1) (simulateSegment terms cancel segment state).state)

theorem books_segment (books : state.Books capital) :
    (simulateSegment terms cancel segment state).state.Books capital :=
  books_finish ((kept_bars _).books books)

theorem marked_segment (positive : 0 < capital) (marked : state.Marked capital)
    (covered : (segmentLoop terms cancel segment state).Covered terms segment) :
    (simulateSegment terms cancel segment state).state.Marked capital :=
  marked_finish ((kept_bars _).marked positive marked) covered

theorem books_segments (segments : List Segment) (n : Nat) (books : state.Books capital) :
    (simulateSegments terms cancel segments n state).Books capital := by
  induction segments generalizing n state with
  | nil => exact books
  | cons segment rest ih =>
    unfold simulateSegments
    split
    · exact ⟨books.balanced, books.numbered, books.counted⟩
    · have next : (simulateSegment terms cancel segment state).state.Books capital :=
        books_segment books
      dsimp only
      split
      · exact ⟨next.balanced, next.numbered, next.counted⟩
      · exact ih (n + 1) next

theorem marked_segments (positive : 0 < capital) (segments : List Segment) (n : Nat)
    (marked : state.Marked capital)
    (covered : RunCovered terms cancel segments n state) :
    (simulateSegments terms cancel segments n state).Marked capital := by
  induction segments generalizing n state with
  | nil => exact marked
  | cons segment rest ih =>
    unfold simulateSegments
    split
    · exact marked
    · rename_i going
      obtain ⟨forced, later⟩ := covered (Bool.eq_false_of_not_eq_true going)
      have next := marked_segment positive marked forced
      dsimp only
      split
      · exact next
      · rename_i whole
        exact ih (n + 1) next (later (Bool.eq_false_of_not_eq_true whole))

/-- **The backtest's accounts.** The equity and the numbers agree with the trades in every run, and
the drawdown in every run whose forced closes are covered. -/
theorem backtest_accounts (terms : SimTerms) (cancel : CancelProbe) (segments : List Segment)
    (capital : ℚ) (positive : 0 < capital) :
    (simulateSegments terms cancel segments 0 (.initial capital)).equity = capital +
      ((simulateSegments terms cancel segments 0 (.initial capital)).trades.map (·.netPnl)).sum ∧
    (simulateSegments terms cancel segments 0 (.initial capital)).trades.map (·.sequence) =
      List.range (simulateSegments terms cancel segments 0 (.initial capital)).trades.length ∧
    (RunCovered terms cancel segments 0 (.initial capital) → IsBest (drawdownAfter capital)
      ((simulateSegments terms cancel segments 0 (.initial capital)).trades.map (·.netPnl))
      (simulateSegments terms cancel segments 0 (.initial capital)).maxDd) := by
  have books : (simulateSegments terms cancel segments 0 (.initial capital)).Books capital :=
    books_segments segments 0 (books_initial capital)
  refine ⟨books.balanced, books.numbered, fun covered => ?_⟩
  have marked : (SimState.initial capital).Marked capital := accounted_nil capital
  exact (marked_segments positive segments 0 marked covered).worst

/-- A segment that ends without an open trade is covered. -/
theorem covered_of_flat (flat : loop.openTrade.isNone) : loop.Covered terms segment := by
  intro record forced
  rw [SegmentLoop.forcedRecord, Option.isNone_iff_eq_none.mp flat] at forced
  cases forced

/-- A long breakout, a tenth below its entry stopped, without costs. -/
def breakoutTerms : SimTerms where
  rules := ⟨.long, some "breakout", 1 / 10, [10], false⟩
  riskPerTradePct := 1
  feeRate := 0
  slipRate := 0
  trailPct := 0
  fundingRate := 0
  tfSeconds := 3600
  maxTrades := 500

def breakoutSegment (low close : ℚ) : Segment where
  rows := (List.range 25).map (fun i => ⟨i, i + 1, 100, 100, 100, 100⟩) ++
    [⟨25, 26, 100, 101, 100, 101⟩, ⟨26, 27, 101, 101, low, close⟩]
  splitLabel := .inSample
  splitIndex := 0

/-- A run that is stopped out agrees in its drawdown too. -/
theorem stoppedRun_agrees : IsBest (drawdownAfter 1000)
    ((simulateSegments breakoutTerms .never [breakoutSegment 50 60] 0
      (.initial 1000)).trades.map (·.netPnl))
    (simulateSegments breakoutTerms .never [breakoutSegment 50 60] 0 (.initial 1000)).maxDd := by
  have accounts := backtest_accounts breakoutTerms .never [breakoutSegment 50 60] 1000 (by norm_num)
  refine accounts.2.2 fun _ => ⟨covered_of_flat ?_, fun _ => trivial⟩
  decide +kernel

/-- A run that ends with an open loss records the loss and no drawdown. -/
theorem openLoss_unmarked :
    (simulateSegments breakoutTerms .never [breakoutSegment 100 100] 0 (.initial 1000)).maxDd = 0 ∧
    ¬IsBest (drawdownAfter 1000)
      ((simulateSegments breakoutTerms .never [breakoutSegment 100 100] 0
        (.initial 1000)).trades.map (·.netPnl))
      (simulateSegments breakoutTerms .never [breakoutSegment 100 100]
        0 (.initial 1000)).maxDd := by
  have none : (simulateSegments breakoutTerms .never [breakoutSegment 100 100] 0
      (.initial 1000)).maxDd = 0 := by
    decide +kernel
  have fallen : 0 < drawdownAfter 1000 ((simulateSegments breakoutTerms .never
      [breakoutSegment 100 100] 0 (.initial 1000)).trades.map (·.netPnl)) := by
    decide +kernel
  refine ⟨none, fun best => ?_⟩
  rw [none] at best
  exact absurd (best.2 ⟨_, List.prefix_rfl, rfl⟩) fallen.not_ge

end AlphaTrade.Backtest
