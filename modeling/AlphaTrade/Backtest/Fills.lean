import Mathlib.Algebra.Order.Ring.Abs
import Mathlib.Algebra.Order.Field.Rat
import AlphaTrade.Journal.Projector

/-!
# Simulated fills

The trade that a simulation holds and the record that it leaves. The backtest and the replay share
them. Money is exact.
-/
namespace AlphaTrade.Backtest
open Journal (TradeDirection)

inductive BacktestSplitLabel where
  | inSample
  | outOfSample
  deriving DecidableEq

/-- A bar of the stored history. Times are seconds. -/
structure HistoricalCandle where
  openTime : Int
  closeTime : Int
  openPrice : ℚ
  high : ℚ
  low : ℚ
  close : ℚ
  deriving DecidableEq

/-- `_OpenTrade` -/
structure OpenTrade where
  direction : TradeDirection
  entryTime : Int
  entryPrice : ℚ
  stopLoss : ℚ
  size : ℚ
  riskPerUnit : ℚ
  tpLevels : List ℚ
  tpHit : Nat
  useRunner : Bool
  ruleNotes : String
  entryFees : ℚ
  entrySlippage : ℚ
  entryIdx : Nat
  fundingCost : ℚ := 0
  mfePrice : Option ℚ := none
  maePrice : Option ℚ := none
  barsHeld : Int := 0
  deriving DecidableEq

structure BacktestTradeRecord where
  entryTime : Int
  exitTime : Int
  direction : TradeDirection
  entryPrice : ℚ
  exitPrice : ℚ
  stopLoss : ℚ
  size : ℚ
  fees : ℚ
  slippageCost : ℚ
  grossPnl : ℚ
  netPnl : ℚ
  tpHitStatus : String
  exitReason : String
  ruleNotes : String
  mfePrice : ℚ
  maePrice : ℚ
  mfeAmount : ℚ
  maeAmount : ℚ
  availableProfit : ℚ
  capturePct : Option ℚ
  fundingCost : ℚ
  splitLabel : BacktestSplitLabel
  splitIndex : Nat
  sequence : Nat
  plannedTargets : List ℚ := []
  rResult : Option ℚ := none
  holdingBars : Option Int := none
  holdingSeconds : Option Int := none
  setupId : Option Nat := none
  deriving DecidableEq

structure EquityCurvePoint where
  timestamp : Int
  equity : ℚ
  deriving DecidableEq

namespace OpenTrade

/-- `_update_excursions` -/
def updateExcursions (trade : OpenTrade) (high low : ℚ) : OpenTrade :=
  match trade.direction with
  | .long =>
    { trade with
      mfePrice := some (trade.mfePrice.elim high (max · high))
      maePrice := some (trade.maePrice.elim low (min · low))
      barsHeld := trade.barsHeld + 1 }
  | .short =>
    { trade with
      mfePrice := some (trade.mfePrice.elim low (min · low))
      maePrice := some (trade.maePrice.elim high (max · high))
      barsHeld := trade.barsHeld + 1 }

/-- `_accrue_funding`: at a positive rate longs pay and shorts receive. -/
def accrueFunding (trade : OpenTrade) (fundingRateBpsPer8h tfSeconds : ℚ) : OpenTrade :=
  if fundingRateBpsPer8h = 0 then trade
  else
    let notional := trade.entryPrice * trade.size
    let barCost := notional * (fundingRateBpsPer8h / 10000) * (tfSeconds / 28800)
    { trade with
      fundingCost := trade.fundingCost + match trade.direction with
        | .long => barCost
        | .short => -barCost }

end OpenTrade

/-- The rates and the labels of the trades of a segment. -/
structure TradeTerms where
  feeRate : ℚ
  slipRate : ℚ
  splitLabel : BacktestSplitLabel
  splitIndex : Nat
  deductSlippageCost : Bool := true

/-- When, where and why a trade is closed. -/
structure TradeExit where
  time : Int
  price : ℚ
  reason : String
  tpStatus : String

/-- The record of `_build_trade_record`. The second result of the source is its `netPnl`. -/
def buildTradeRecord (terms : TradeTerms) (trade : OpenTrade) (exit : TradeExit) (sequence : Nat) :
    BacktestTradeRecord :=
  let slip := exit.price * terms.slipRate
  let fill := match trade.direction with
    | .long => exit.price - slip
    | .short => exit.price + slip
  let exitFees := fill * trade.size * terms.feeRate
  let gross := match trade.direction with
    | .long => (fill - trade.entryPrice) * trade.size
    | .short => (trade.entryPrice - fill) * trade.size
  let totalFees := trade.entryFees + exitFees
  let totalSlip := trade.entrySlippage + slip * trade.size
  let net := gross - totalFees - (if terms.deductSlippageCost then totalSlip else 0) -
    trade.fundingCost
  let mfePrice := trade.mfePrice.getD trade.entryPrice
  let maePrice := trade.maePrice.getD trade.entryPrice
  let mfeAmount := match trade.direction with
    | .long => (mfePrice - trade.entryPrice) * trade.size
    | .short => (trade.entryPrice - mfePrice) * trade.size
  let maeAmount := match trade.direction with
    | .long => (maePrice - trade.entryPrice) * trade.size
    | .short => (trade.entryPrice - maePrice) * trade.size
  let available := if 0 < mfeAmount then mfeAmount else 0
  { entryTime := trade.entryTime
    exitTime := exit.time
    direction := trade.direction
    entryPrice := trade.entryPrice
    exitPrice := fill
    stopLoss := trade.stopLoss
    size := trade.size
    fees := totalFees
    slippageCost := totalSlip
    grossPnl := gross
    netPnl := net
    tpHitStatus := exit.tpStatus
    exitReason := exit.reason
    ruleNotes := trade.ruleNotes
    mfePrice, maePrice, mfeAmount, maeAmount
    availableProfit := available
    capturePct := if available = 0 then none else some (net / available * 100)
    fundingCost := trade.fundingCost
    splitLabel := terms.splitLabel
    splitIndex := terms.splitIndex
    sequence }

@[simp] theorem sequence_buildTradeRecord (terms : TradeTerms) (trade : OpenTrade)
    (exit : TradeExit) (sequence : Nat) :
    (buildTradeRecord terms trade exit sequence).sequence = sequence := rfl

end AlphaTrade.Backtest
