import AlphaTrade.Backtest.Fills
import AlphaTrade.Library.Check
import AlphaTrade.Market.Ohlcv

/-!
# The replay of a segment

`_segment` of the replay engine takes the events of a strategy adapter and trades them bar by bar.
A confirmed candidate waits for the open of the next bar, where it is entered or blocked; one trade
is open at a time. The cancel probe and the risk engine are the environment; what the risk engine
answers may depend on the bar.
-/
namespace AlphaTrade.Backtest
open Library
open Execution (Instant)
open Journal (TradeDirection)
open Market (OhlcvBar)

inductive RiskAction where
  | allow | warn | block
  deriving DecidableEq

/-- `RiskCheckRequest`, as far as the replay fills it in. Its leverage is one. -/
structure RiskCheckRequest where
  symbol : String
  direction : TradeDirection
  entryPrice : ℚ
  stopLoss : ℚ
  positionSize : ℚ
  accountEquity : ℚ
  riskPercent : ℚ

/-- `RiskEvaluationContext`, as far as the replay fills it in. -/
structure RiskEvaluationContext where
  realizedPnlToday : ℚ
  tradesToday : Nat
  weeklyLossPct : ℚ
  isWeekend : Bool

inductive ReplayError where
  /-- "Adapter events must be chronological closed-candle decisions." -/
  | unchronological
  | invalidRequest
  | riskEngine (message : String)
  deriving DecidableEq

def RiskCheckRequest.validate (request : RiskCheckRequest) : Except ReplayError Unit :=
  ensure (0 < request.entryPrice ∧ 0 < request.positionSize ∧ 0 < request.accountEquity ∧
    0 ≤ request.riskPercent ∧ request.riskPercent ≤ 100) .invalidRequest

structure ReplayCandidate where
  setupId : Nat
  detectedAt : Instant
  splitLabel : BacktestSplitLabel
  direction : TradeDirection
  stop : Option ℚ
  targets : List ℚ
  state : String
  decisionAt : Option Instant := none
  reasons : List String := []
  riskDecision : Option RiskAction := none
  tradeSequence : Option Nat := none
  deriving DecidableEq

namespace ReplayCandidate

def Confirmed (candidate : ReplayCandidate) : Prop := candidate.state = "confirmed"

def Entered (candidate : ReplayCandidate) : Prop := candidate.state = "entered"

instance (candidate : ReplayCandidate) : Decidable candidate.Confirmed :=
  inferInstanceAs (Decidable (_ = _))

instance (candidate : ReplayCandidate) : Decidable candidate.Entered :=
  inferInstanceAs (Decidable (_ = _))

def block (candidate : ReplayCandidate) (reason : String) : ReplayCandidate :=
  { candidate with state := "blocked", reasons := candidate.reasons ++ [reason] }

def enter (candidate : ReplayCandidate) (sequence : Nat) : ReplayCandidate :=
  { candidate with state := "entered", tradeSequence := some sequence }

def decide (candidate : ReplayCandidate) (time : Instant) : ReplayCandidate :=
  { candidate with decisionAt := some time }

def judge (candidate : ReplayCandidate) (time : Instant) (action : RiskAction) : ReplayCandidate :=
  { candidate.decide time with riskDecision := some action }

end ReplayCandidate

/-- The specification and the assumptions of a segment, within the bounds of
`BacktestAssumptions`. -/
structure ReplayTerms where
  symbol : String
  direction : TradeDirection
  splitLabel : BacktestSplitLabel
  initialCapital : ℚ
  feesBps : ℚ
  slippageBps : ℚ
  fundingRateBpsPer8h : ℚ
  riskPerTradePct : ℚ
  maxTrades : Option Nat
  sequenceStart : Nat
  capital_pos : 0 < initialCapital
  fees_nonneg : 0 ≤ feesBps
  slippage_nonneg : 0 ≤ slippageBps
  risk_pos : 0 < riskPerTradePct
  risk_le : riskPerTradePct ≤ 5

namespace ReplayTerms

variable (terms : ReplayTerms)

def fee : ℚ := terms.feesBps / 10000

def slip : ℚ := terms.slippageBps / 10000

def sign : ℚ :=
  match terms.direction with
  | .long => 1
  | .short => -1

/-- `assumptions.max_trades or 500` -/
def tradeCap : Nat :=
  match terms.maxTrades with
  | none | some 0 => 500
  | some cap => cap

def fill (bar : OhlcvBar) : ℚ := bar.openPrice * (1 + terms.sign * terms.slip)

def tradeTerms : TradeTerms where
  feeRate := terms.fee
  slipRate := terms.slip
  splitLabel := terms.splitLabel
  splitIndex := match terms.splitLabel with
    | .inSample => 0
    | .outOfSample => 1
  deductSlippageCost := false

end ReplayTerms

/-- The risk engine, and the cancel probe: at zero before the run, else at a bar. -/
structure ReplayEnvironment where
  evaluate : Nat → RiskCheckRequest → RiskEvaluationContext → Except String RiskAction
  shouldCancel : Nat → Bool

/-! ## Days and weeks -/

/-- `date()`, counted from the epoch. -/
def dayOf (t : Instant) : Int := t / 86400000000

/-- `isocalendar()[:2]`, counted in weeks from the Monday before the epoch, a Thursday. -/
def weekOf (t : Instant) : Int := (dayOf t + 3) / 7

/-- `weekday() >= 5` -/
def isWeekend (t : Instant) : Bool := 5 ≤ (dayOf t + 3) % 7

/-! ## The state -/

/-- The open trade and the index of its candidate. -/
structure Holding where
  trade : OpenTrade
  owner : Nat

/-- The variables of the loop. The waiting candidate is an index too. -/
structure ReplayState where
  equity : ℚ
  peak : ℚ
  maxDd : ℚ := 0
  trades : List BacktestTradeRecord := []
  candidates : List ReplayCandidate := []
  curve : List EquityCurvePoint := []
  pending : Option Nat := none
  opened : Option Holding := none
  dailyPnl : Int → ℚ := fun _ => 0
  weeklyPnl : Int → ℚ := fun _ => 0
  dailyTrades : Int → Nat := fun _ => 0

structure ReplayResult where
  trades : List BacktestTradeRecord
  candidates : List ReplayCandidate
  curve : List EquityCurvePoint
  maxDd : ℚ
  cancelled : Bool
  deriving DecidableEq

namespace ReplayState

variable (env : ReplayEnvironment) (terms : ReplayTerms) (s : ReplayState)

def initial : ReplayState where
  equity := terms.initialCapital
  peak := terms.initialCapital

def waiting : Option (Nat × ReplayCandidate) :=
  s.pending.bind fun k => (s.candidates[k]?).map (k, ·)

/-! ## The decision at an open -/

def checkedStop (candidate : ReplayCandidate) (fill : ℚ) : Except String ℚ := do
  ensure (s.opened.isNone = true) "position_already_open"
  ensure (s.trades.length < terms.tradeCap) "max_trades_reached"
  ensure (0 < s.equity) "account_equity_exhausted"
  let stop ← candidate.stop.elim (.error "stop_invalid_at_next_open") .ok
  ensure (0 < (fill - stop) * terms.sign) "stop_invalid_at_next_open"
  let target ← candidate.targets.head?.elim (.error "target_invalid_at_next_open") .ok
  ensure (0 < (target - fill) * terms.sign) "target_invalid_at_next_open"
  pure stop

def size (fill stop : ℚ) : ℚ := s.equity * terms.riskPerTradePct / 100 / |fill - stop|

def request (fill stop : ℚ) : RiskCheckRequest where
  symbol := terms.symbol
  direction := terms.direction
  entryPrice := fill
  stopLoss := stop
  positionSize := s.size terms fill stop
  accountEquity := s.equity
  riskPercent := terms.riskPerTradePct

def context (bar : OhlcvBar) : RiskEvaluationContext where
  realizedPnlToday := s.dailyPnl (dayOf bar.intervalStart)
  tradesToday := s.dailyTrades (dayOf bar.intervalStart)
  weeklyLossPct := max 0 (-s.weeklyPnl (weekOf bar.intervalStart) / s.equity * 100)
  isWeekend := isWeekend bar.intervalStart

/-- The trade that a candidate opens at a bar. -/
def openTrade (candidate : ReplayCandidate) (stop : ℚ) (i : Nat) (bar : OhlcvBar) : OpenTrade :=
  let fill := terms.fill bar
  let size := s.size terms fill stop
  { direction := candidate.direction
    entryTime := bar.intervalStart
    entryPrice := fill
    stopLoss := stop
    size
    riskPerUnit := |fill - stop|
    tpLevels := candidate.targets
    tpHit := 0
    useRunner := false
    ruleNotes := "replay setup:" ++ toString candidate.setupId
    entryFees := fill * size * terms.fee
    entrySlippage := |fill - bar.openPrice| * size
    entryIdx := i
    mfePrice := some fill
    maePrice := some fill }

def settle (k : Nat) (becomes : ReplayCandidate → ReplayCandidate) : ReplayState :=
  { s with pending := none, candidates := s.candidates.modify k becomes }

def accept (bar : OhlcvBar) (action : RiskAction) (candidate : ReplayCandidate) : ReplayCandidate :=
  (candidate.judge bar.intervalStart action).enter (terms.sequenceStart + s.trades.length)

def enter (k : Nat) (candidate : ReplayCandidate) (stop : ℚ) (action : RiskAction) (i : Nat)
    (bar : OhlcvBar) : ReplayState :=
  let day := dayOf bar.intervalStart
  { s.settle k (s.accept terms bar action) with
    opened := some ⟨s.openTrade terms candidate stop i bar, k⟩
    dailyTrades := Function.update s.dailyTrades day (s.dailyTrades day + 1) }

/-- What becomes of the waiting candidate at the open of a bar. -/
def decide (i : Nat) (bar : OhlcvBar) : Except ReplayError ReplayState :=
  match s.waiting with
  | none => pure s
  | some (k, candidate) =>
    match s.checkedStop terms candidate (terms.fill bar) with
    | .error reason => pure (s.settle k fun c => (c.decide bar.intervalStart).block reason)
    | .ok stop => do
      let request := s.request terms (terms.fill bar) stop
      request.validate
      let action ← (env.evaluate i request (s.context bar)).mapError .riskEngine
      if action = .block then
        pure (s.settle k fun c => (c.judge bar.intervalStart action).block "blocked_by_risk")
      else pure (s.enter terms k candidate stop action i bar)

/-! ## The open trade -/

end ReplayState

namespace ReplayTerms

variable (terms : ReplayTerms)

def GapStop (stop : ℚ) (bar : OhlcvBar) : Prop := (bar.openPrice - stop) * terms.sign ≤ 0

def StopTouch (stop : ℚ) (bar : OhlcvBar) : Prop :=
  match terms.direction with
  | .long => bar.low ≤ stop
  | .short => stop ≤ bar.high

def TargetTouch (target : ℚ) (bar : OhlcvBar) : Prop :=
  match terms.direction with
  | .long => target ≤ bar.high
  | .short => bar.low ≤ target

instance (stop : ℚ) (bar : OhlcvBar) : Decidable (terms.GapStop stop bar) :=
  inferInstanceAs (Decidable (_ ≤ _))

instance (stop : ℚ) (bar : OhlcvBar) : Decidable (terms.StopTouch stop bar) :=
  match h : terms.direction with
  | .long => decidable_of_iff (bar.low ≤ stop) (by simp [StopTouch, h])
  | .short => decidable_of_iff (stop ≤ bar.high) (by simp [StopTouch, h])

instance (target : ℚ) (bar : OhlcvBar) : Decidable (terms.TargetTouch target bar) :=
  match h : terms.direction with
  | .long => decidable_of_iff (target ≤ bar.high) (by simp [TargetTouch, h])
  | .short => decidable_of_iff (bar.low ≤ target) (by simp [TargetTouch, h])

/-- The trade after a bar: a gap exits at the open, before the range and the funding of the bar. -/
def heldTrade (trade : OpenTrade) (bar : OhlcvBar) : OpenTrade :=
  if terms.GapStop trade.stopLoss bar then
    let held := trade.updateExcursions bar.openPrice bar.openPrice
    { held with barsHeld := held.barsHeld - 1 }
  else
    (trade.updateExcursions bar.high bar.low).accrueFunding terms.fundingRateBpsPer8h
      bar.timeframe.intervalSeconds

def exitAt (trade : OpenTrade) (bar : OhlcvBar) (last : Bool) : Option TradeExit :=
  if terms.GapStop trade.stopLoss bar then
    some ⟨bar.intervalStart, bar.openPrice, "stop_gap", "none"⟩
  else if terms.StopTouch trade.stopLoss bar then
    some ⟨bar.intervalEnd, trade.stopLoss, "stop_loss", "none"⟩
  else
    match trade.tpLevels.head?.filter (terms.TargetTouch · bar) with
    | some target => some ⟨bar.intervalEnd, target, "take_profit_1", "tp1"⟩
    | none => if last then some ⟨bar.intervalEnd, bar.close, "replay_window_end", "none"⟩ else none

end ReplayTerms

namespace ReplayState

variable (env : ReplayEnvironment) (terms : ReplayTerms) (s : ReplayState)

def record (held : OpenTrade) (owner : Nat) (exit : TradeExit) : BacktestTradeRecord :=
  let built := buildTradeRecord terms.tradeTerms held exit (terms.sequenceStart + s.trades.length)
  { built with
    setupId := s.candidates[owner]?.map (·.setupId)
    plannedTargets := held.tpLevels
    rResult := some (built.netPnl / (held.riskPerUnit * held.size))
    holdingBars := some held.barsHeld
    holdingSeconds := some ((exit.time - held.entryTime) / 1000000) }

/-- The state after a trade is closed. -/
def book (record : BacktestTradeRecord) : ReplayState :=
  let equity := s.equity + record.netPnl
  let peak := max s.peak equity
  let day := dayOf record.exitTime
  let week := weekOf record.exitTime
  { s with
    trades := s.trades ++ [record]
    equity
    dailyPnl := Function.update s.dailyPnl day (s.dailyPnl day + record.netPnl)
    weeklyPnl := Function.update s.weeklyPnl week (s.weeklyPnl week + record.netPnl)
    peak
    maxDd := max s.maxDd ((peak - equity) / peak * 100)
    opened := none }

def hold (bar : OhlcvBar) (last : Bool) : ReplayState :=
  match s.opened with
  | none => s
  | some holding =>
    let held := terms.heldTrade holding.trade bar
    match terms.exitAt held bar last with
    | none => { s with opened := some { holding with trade := held } }
    | some exit => s.book (s.record terms held holding.owner exit)

/-! ## The bars -/

def schedule (candidate : ReplayCandidate) : ReplayState :=
  if candidate.Confirmed then
    if s.pending.isSome then
      { s with candidates := s.candidates ++ [candidate.block "another_confirmation_pending"] }
    else { s with candidates := s.candidates ++ [candidate], pending := some s.candidates.length }
  else { s with candidates := s.candidates ++ [candidate] }

def draw (bar : OhlcvBar) : ReplayState :=
  { s with curve := s.curve ++ [⟨bar.intervalEnd, s.equity⟩] }

def scheduledAt (events : List (Int × ReplayCandidate)) (i : Nat) : List ReplayCandidate :=
  (events.filter fun event => event.1 = (i : Int)).map (·.2)

def step (events : List (Int × ReplayCandidate)) (count i : Nat) (bar : OhlcvBar) :
    Except ReplayError ReplayState := do
  let decided ← s.decide env terms i bar
  let held := decided.hold terms bar (i + 1 = count)
  pure (((scheduledAt events i).foldl schedule held).draw bar)

def bars (events : List (Int × ReplayCandidate)) (count : Nat) :
    Nat → ReplayState → List OhlcvBar → Except ReplayError (ReplayState × Bool)
  | _, s, [] => pure (s, false)
  | i, s, bar :: rest =>
    if i ≠ 0 ∧ i % 200 = 0 ∧ env.shouldCancel i then pure (s, true)
    else do
      let next ← s.step env terms events count i bar
      bars events count (i + 1) next rest

def release (cancelled : Bool) : List ReplayCandidate :=
  match s.pending with
  | none => s.candidates
  | some k => s.candidates.modify k (·.block
      (if cancelled then "replay_cancelled" else "no_next_closed_candle_in_window"))

def interrupt (candidate : ReplayCandidate) : ReplayCandidate :=
  { candidate with
    state := "interrupted"
    reasons := candidate.reasons ++ ["cancelled_with_open_position_unvalued"] }

def finish (cancelled : Bool) : ReplayResult where
  trades := s.trades
  candidates := match s.opened with
    | some holding =>
      if cancelled then (s.release cancelled).modify holding.owner interrupt
      else s.release cancelled
    | none => s.release cancelled
  curve := s.curve
  maxDd := s.maxDd
  cancelled

end ReplayState

/-- The check of an event, with the index of the one before it. -/
def Chronological (terms : ReplayTerms) (bars : List OhlcvBar) :
    Int → List (Int × ReplayCandidate) → Prop
  | _, [] => True
  | previous, (index, candidate) :: rest =>
    (previous ≤ index ∧ 0 ≤ index ∧ index < bars.length ∧
      bars[index.toNat]?.map (·.intervalEnd) = some candidate.detectedAt ∧
      candidate.direction = terms.direction ∧ candidate.splitLabel = terms.splitLabel) ∧
    Chronological terms bars index rest

def Chronological.decidable (terms : ReplayTerms) (bars : List OhlcvBar) : (previous : Int) →
    (events : List (Int × ReplayCandidate)) → Decidable (Chronological terms bars previous events)
  | _, [] => .isTrue trivial
  | _, (index, _) :: rest =>
    have := Chronological.decidable terms bars index rest
    inferInstanceAs (Decidable (_ ∧ _))

instance (terms : ReplayTerms) (bars : List OhlcvBar) (previous : Int)
    (events : List (Int × ReplayCandidate)) :
    Decidable (Chronological terms bars previous events) :=
  Chronological.decidable terms bars previous events

/-- `_segment` -/
def segment (env : ReplayEnvironment) (terms : ReplayTerms) (bars : List OhlcvBar)
    (events : List (Int × ReplayCandidate)) : Except ReplayError ReplayResult :=
  if env.shouldCancel 0 then pure ⟨[], [], [], 0, true⟩
  else do
    ensure (Chronological terms bars (-1) events) .unchronological
    let (s, cancelled) ← ReplayState.bars env terms events bars.length 0 (.initial terms) bars
    pure (s.finish cancelled)

/-! ## What a step can do -/

namespace ReplayTerms

variable {terms : ReplayTerms} {trade : OpenTrade} {bar : OhlcvBar} {last : Bool} {exit : TradeExit}

/-- A trade is closed within its bar. -/
theorem time_exitAt (leaves : terms.exitAt trade bar last = some exit) :
    bar.intervalStart ≤ exit.time ∧ exit.time ≤ bar.intervalEnd := by
  have lasts := bar.intervalStart_lt_intervalEnd.le
  unfold exitAt at leaves
  split at leaves
  · obtain rfl := Option.some.inj leaves
    exact ⟨le_rfl, lasts⟩
  · split at leaves
    · obtain rfl := Option.some.inj leaves
      exact ⟨lasts, le_rfl⟩
    · split at leaves
      · obtain rfl := Option.some.inj leaves
        exact ⟨lasts, le_rfl⟩
      · split at leaves
        · obtain rfl := Option.some.inj leaves
          exact ⟨lasts, le_rfl⟩
        · cases leaves

/-- What a bar leaves of a trade as it was entered. -/
structure SameEntry (trade held : OpenTrade) : Prop where
  entryTime : held.entryTime = trade.entryTime
  entryPrice : held.entryPrice = trade.entryPrice
  stopLoss : held.stopLoss = trade.stopLoss
  tpLevels : held.tpLevels = trade.tpLevels
  direction : held.direction = trade.direction

theorem sameEntry_updateExcursions (trade : OpenTrade) (high low : ℚ) :
    SameEntry trade (trade.updateExcursions high low) := by
  unfold OpenTrade.updateExcursions
  split <;> exact ⟨rfl, rfl, rfl, rfl, rfl⟩

theorem sameEntry_accrueFunding (trade : OpenTrade) (rate seconds : ℚ) :
    SameEntry trade (trade.accrueFunding rate seconds) := by
  unfold OpenTrade.accrueFunding
  split <;> exact ⟨rfl, rfl, rfl, rfl, rfl⟩

theorem SameEntry.trans {trade held later : OpenTrade} (first : SameEntry trade held)
    (second : SameEntry held later) : SameEntry trade later where
  entryTime := second.entryTime.trans first.entryTime
  entryPrice := second.entryPrice.trans first.entryPrice
  stopLoss := second.stopLoss.trans first.stopLoss
  tpLevels := second.tpLevels.trans first.tpLevels
  direction := second.direction.trans first.direction

theorem sameEntry_heldTrade (terms : ReplayTerms) (trade : OpenTrade) (bar : OhlcvBar) :
    SameEntry trade (terms.heldTrade trade bar) := by
  unfold heldTrade
  split
  · obtain ⟨time, price, stop, levels, direction⟩ :=
      sameEntry_updateExcursions trade bar.openPrice bar.openPrice
    exact ⟨time, price, stop, levels, direction⟩
  · exact (sameEntry_updateExcursions trade bar.high bar.low).trans
      (sameEntry_accrueFunding _ _ _)

end ReplayTerms

namespace ReplayState

variable {env : ReplayEnvironment} {terms : ReplayTerms} {s after : ReplayState}
  {events : List (Int × ReplayCandidate)} {candidate : ReplayCandidate} {fill stop : ℚ}
  {bar : OhlcvBar} {i k count : Nat}

theorem waiting_eq_some : s.waiting = some (k, candidate) ↔
    s.pending = some k ∧ s.candidates[k]? = some candidate := by
  simp only [waiting, Option.bind_eq_some_iff, Option.map_eq_some_iff, Prod.mk.injEq]
  constructor
  · rintro ⟨_, pending, _, found, rfl, rfl⟩
    exact ⟨pending, found⟩
  · rintro ⟨pending, found⟩
    exact ⟨k, pending, candidate, found, rfl, rfl⟩

/-- What the checks of an open have found. -/
structure Checked (terms : ReplayTerms) (s : ReplayState) (candidate : ReplayCandidate)
    (fill stop : ℚ) : Prop where
  flat : s.opened = none
  solvent : 0 < s.equity
  stop_eq : candidate.stop = some stop
  stop_ahead : 0 < (fill - stop) * terms.sign
  target : ∃ target, candidate.targets.head? = some target

theorem checked_of_checkedStop (ok : s.checkedStop terms candidate fill = .ok stop) :
    s.Checked terms candidate fill stop := by
  simp only [checkedStop, bind_eq_ok, ensure_eq_ok] at ok
  obtain ⟨-, flat, -, -, -, solvent, stop', found, -, ahead, target, headed, -, -, same⟩ := ok
  obtain rfl : stop' = stop := Except.ok.inj same
  refine ⟨Option.isNone_iff_eq_none.mp flat, solvent, ?_, ahead, ?_⟩
  · cases stopped : candidate.stop with
    | none =>
      rw [stopped] at found
      cases found
    | some other =>
      rw [stopped] at found
      exact congrArg some (Except.ok.inj found)
  · cases first : candidate.targets.head? with
    | none =>
      rw [first] at headed
      cases headed
    | some other => exact ⟨other, rfl⟩

/-- A change that blocks a candidate with a reason. -/
structure Blocks (becomes : ReplayCandidate → ReplayCandidate) : Prop where
  setup : ∀ c, (becomes c).setupId = c.setupId
  state : ∀ c, (becomes c).state = "blocked"
  reasons : ∀ c, (becomes c).reasons ≠ []

theorem blocks_block (before : ReplayCandidate → ReplayCandidate)
    (setup : ∀ c, (before c).setupId = c.setupId) (reason : String) :
    Blocks fun c => (before c).block reason where
  setup := setup
  state _ := rfl
  reasons _ := List.append_ne_nil_of_right_ne_nil _ (List.cons_ne_nil _ _)

/-- What a bar makes of the waiting candidate. -/
inductive Decided (terms : ReplayTerms) (s : ReplayState) (i : Nat) (bar : OhlcvBar) :
    ReplayState → Prop where
  | idle (free : s.waiting = none) : Decided terms s i bar s
  | blocked {k : Nat} {candidate : ReplayCandidate}
      {becomes : ReplayCandidate → ReplayCandidate} (waits : s.waiting = some (k, candidate))
      (blocks : Blocks becomes) : Decided terms s i bar (s.settle k becomes)
  | entered {k : Nat} {candidate : ReplayCandidate} {stop : ℚ} (action : RiskAction)
      (waits : s.waiting = some (k, candidate))
      (checked : s.Checked terms candidate (terms.fill bar) stop) :
      Decided terms s i bar (s.enter terms k candidate stop action i bar)

theorem decided_of_decide (ok : s.decide env terms i bar = .ok after) :
    Decided terms s i bar after := by
  unfold decide at ok
  split at ok
  · obtain rfl := Except.ok.inj ok
    rename_i free
    exact .idle free
  · rename_i k candidate waits
    split at ok
    · obtain rfl := Except.ok.inj ok
      exact .blocked waits (blocks_block (·.decide bar.intervalStart) (fun _ => rfl) _)
    · rename_i stop checked
      simp only [bind_eq_ok] at ok
      obtain ⟨_, -, action, -, ok⟩ := ok
      split at ok
      · obtain rfl := Except.ok.inj ok
        exact .blocked waits (blocks_block (·.judge bar.intervalStart action) (fun _ => rfl) _)
      · obtain rfl := Except.ok.inj ok
        exact .entered action waits (checked_of_checkedStop checked)

/-- What a bar makes of the open trade. -/
inductive Held (terms : ReplayTerms) (s : ReplayState) (bar : OhlcvBar) (last : Bool) :
    ReplayState → Prop where
  | idle (flat : s.opened = none) : Held terms s bar last s
  | carried {holding : Holding} (opened : s.opened = some holding)
      (stays : terms.exitAt (terms.heldTrade holding.trade bar) bar last = none) :
      Held terms s bar last
        { s with opened := some { holding with trade := terms.heldTrade holding.trade bar } }
  | closed {holding : Holding} {exit : TradeExit} (opened : s.opened = some holding)
      (leaves : terms.exitAt (terms.heldTrade holding.trade bar) bar last = some exit) :
      Held terms s bar last
        (s.book (s.record terms (terms.heldTrade holding.trade bar) holding.owner exit))

theorem held_of_hold (terms : ReplayTerms) (s : ReplayState) (bar : OhlcvBar) (last : Bool) :
    Held terms s bar last (s.hold terms bar last) := by
  unfold hold
  split
  · rename_i flat
    exact .idle flat
  · rename_i holding opened
    dsimp only
    split
    · rename_i stays
      exact .carried opened stays
    · rename_i exit leaves
      exact .closed opened leaves

/-- The last bar closes the open trade. -/
theorem Held.flat (held : Held terms s bar true after) : after.opened = none := by
  rcases held with flat | ⟨_, stays⟩ | _
  · exact flat
  · unfold ReplayTerms.exitAt at stays
    split at stays
    · cases stays
    · split at stays
      · cases stays
      · split at stays <;> cases stays
  · rfl

/-- Settling a candidate leaves the setups as they are. -/
theorem setups_settle (becomes : ReplayCandidate → ReplayCandidate)
    (setup : ∀ c, (becomes c).setupId = c.setupId) (s : ReplayState) (k : Nat) :
    (s.settle k becomes).candidates.map (·.setupId) = s.candidates.map (·.setupId) := by
  refine List.ext_getElem? fun n => ?_
  simp only [settle, List.getElem?_map, List.getElem?_modify]
  cases s.candidates[n]? with
  | none => rfl
  | some c =>
    split
    · exact congrArg some (setup c)
    · rfl

/-- What the candidates of a bar leave as it is. -/
@[simp] theorem opened_schedule : (s.schedule candidate).opened = s.opened := by
  unfold schedule
  split
  · split <;> rfl
  · rfl

@[simp] theorem trades_schedule : (s.schedule candidate).trades = s.trades := by
  unfold schedule
  split
  · split <;> rfl
  · rfl

theorem opened_schedules (s : ReplayState) (candidates : List ReplayCandidate) :
    (candidates.foldl schedule s).opened = s.opened := by
  induction candidates generalizing s with
  | nil => rfl
  | cons candidate candidates ih => exact (ih _).trans opened_schedule

end ReplayState

/-! ## Runs -/

namespace ReplayState

variable {env : ReplayEnvironment} {terms : ReplayTerms} {events : List (Int × ReplayCandidate)}
  {all : List OhlcvBar} {I : Nat → ReplayState → Prop}

def Keeps (terms : ReplayTerms) (events : List (Int × ReplayCandidate)) (all : List OhlcvBar)
    (I : Nat → ReplayState → Prop) : Prop :=
  ∀ {i s bar decided held}, all[i]? = some bar → I i s → Decided terms s i bar decided →
    Held terms decided bar (i + 1 = all.length) held →
    I (i + 1) (((scheduledAt events i).foldl schedule held).draw bar)

/-- What every bar keeps holds where the bars end, or where the run is cancelled. -/
theorem bars_invariant (keeps : Keeps terms events all I) (rest : List OhlcvBar) {i : Nat}
    {s after : ReplayState} {cancelled : Bool} (within : i ≤ all.length) (tail : all.drop i = rest)
    (start : I i s) (ok : bars env terms events all.length i s rest = .ok (after, cancelled)) :
    ∃ n, I n after ∧ (cancelled = false → n = all.length) := by
  induction rest generalizing i s with
  | nil =>
    obtain ⟨rfl, rfl⟩ := Prod.mk.inj (Except.ok.inj ok)
    refine ⟨i, start, fun _ => ?_⟩
    have := List.drop_eq_nil_iff.mp tail
    omega
  | cons bar rest ih =>
    unfold bars at ok
    split at ok
    · obtain ⟨rfl, rfl⟩ := Prod.mk.inj (Except.ok.inj ok)
      exact ⟨i, start, fun whole => by cases whole⟩
    · obtain ⟨next, stepped, ok⟩ := bind_eq_ok.mp ok
      obtain ⟨decided, decides, drawn⟩ := bind_eq_ok.mp stepped
      obtain rfl := Except.ok.inj drawn
      have here : all[i]? = some bar := by
        rw [← List.head?_drop, tail, List.head?_cons]
      have inside : i < all.length := (List.getElem?_eq_some_iff.mp here).1
      have later : all.drop (i + 1) = rest := by
        rw [← List.tail_drop, tail, List.tail_cons]
      exact ih inside later
        (keeps here start (decided_of_decide decides) (held_of_hold terms decided bar _)) ok

end ReplayState

variable {terms : ReplayTerms} {events : List (Int × ReplayCandidate)}

/-- A run that is not cancelled before it starts ends as what every bar keeps. -/
theorem segment_invariant {env : ReplayEnvironment} {bars : List OhlcvBar} {result : ReplayResult}
    {I : Nat → ReplayState → Prop} (start : I 0 (.initial terms))
    (keeps : Chronological terms bars (-1) events → ReplayState.Keeps terms events bars I)
    (ok : segment env terms bars events = .ok result) :
    result = ⟨[], [], [], 0, true⟩ ∨ Chronological terms bars (-1) events ∧
      ∃ n s, I n s ∧ (result.cancelled = false → n = bars.length) ∧
        result = s.finish result.cancelled := by
  unfold segment at ok
  split at ok
  · exact .inl (Except.ok.inj ok).symm
  · obtain ⟨_, checked, ok⟩ := bind_eq_ok.mp ok
    obtain ⟨⟨s, cancelled⟩, ran, ok⟩ := bind_eq_ok.mp ok
    obtain rfl := Except.ok.inj ok
    have chronological := ensure_eq_ok.mp checked
    obtain ⟨n, holds, whole⟩ := ReplayState.bars_invariant (keeps chronological) bars
      (Nat.zero_le _) List.drop_zero start ran
    exact .inr ⟨chronological, n, s, holds, whole, rfl⟩

/-- The events are in the order of their bars, each of which is there. -/
theorem Chronological.sorted {bars : List OhlcvBar} {previous : Int}
    (checked : Chronological terms bars previous events) :
    events.Pairwise (fun a b => a.1 ≤ b.1) ∧
      ∀ event ∈ events, previous ≤ event.1 ∧ 0 ≤ event.1 ∧ event.1 < bars.length ∧
        bars[event.1.toNat]?.map (·.intervalEnd) = some event.2.detectedAt ∧
        event.2.direction = terms.direction := by
  induction events generalizing previous with
  | nil => simp
  | cons event events ih =>
    obtain ⟨⟨after, nonneg, inside, closes, direction, -⟩, rest⟩ := checked
    obtain ⟨sorted, each⟩ := ih rest
    refine ⟨List.pairwise_cons.mpr ⟨fun other mem => (each other mem).1, sorted⟩, ?_⟩
    rw [List.forall_mem_cons]
    refine ⟨⟨after, nonneg, inside, closes, direction⟩, fun other mem => ?_⟩
    obtain ⟨later, facts⟩ := each other mem
    exact ⟨after.trans later, facts⟩

/-! ## A long segment -/

theorem onePercent_pos : (0 : ℚ) < 1 := by norm_num

/-- A long segment of one capital, with a rate of slippage. -/
def replayTerms (slippageBps : ℚ) (nonneg : 0 ≤ slippageBps) : ReplayTerms where
  symbol := "BTCUSDT"
  direction := .long
  splitLabel := .inSample
  initialCapital := 1000
  feesBps := 0
  slippageBps
  fundingRateBpsPer8h := 0
  riskPerTradePct := 1
  maxTrades := none
  sequenceStart := 3
  capital_pos := by norm_num
  fees_nonneg := le_rfl
  slippage_nonneg := nonneg
  risk_pos := onePercent_pos
  risk_le := by norm_num

def openEnvironment : ReplayEnvironment where
  evaluate _ _ _ := .ok .allow
  shouldCancel _ := false

def replayCandidate (setupId i : Nat) (stop target : ℚ) : ReplayCandidate where
  setupId
  detectedAt := i * 900000000 + 900000000
  splitLabel := .inSample
  direction := .long
  stop := some stop
  targets := [target]
  state := "confirmed"

end AlphaTrade.Backtest
