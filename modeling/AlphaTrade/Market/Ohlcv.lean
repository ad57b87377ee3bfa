import Mathlib.Tactic.Linarith
import AlphaTrade.Market.Trades

/-!
# Candles

A candle is one normalized kline of the venue. The fields that only a content hash reads are the
last ones of the record; the hash is a field, as the source has it.
-/
namespace AlphaTrade.Market
open Library
open Execution (Instant)

inductive Finality where
  | final | forming | corrected | unknown
  deriving DecidableEq, Repr

inductive FreshnessState where
  | fresh | aging | stale | gap | unknown
  deriving DecidableEq, Repr

/-- `interval_timedelta`, in microseconds. -/
def intervalTimedelta (timeframe : Timeframe) : Instant := timeframe.intervalSeconds * 1000000

theorem intervalTimedelta_pos (timeframe : Timeframe) : 0 < intervalTimedelta timeframe :=
  Int.mul_pos timeframe.intervalSeconds_pos (by decide)

/-- The fields of `OhlcvBar`, before its validators. -/
structure OhlcvFields where
  instrument : InstrumentIdentity
  timeframe : Timeframe
  intervalStart : Instant
  intervalEnd : Instant
  openPrice : ℚ
  high : ℚ
  low : ℚ
  close : ℚ
  baseVolume : ℚ
  quoteVolume : ℚ
  tradeCount : Option Nat
  sourceEventId : String
  providerComplete : Bool
  finality : Finality
  revision : Nat
  sourceTime : Instant
  adapterVersion : String
  contentHash : String
  deriving DecidableEq

/-- The field bounds and `_ohlc_invariants`. -/
structure OhlcvFields.Valid (fields : OhlcvFields) : Prop where
  low_pos : 0 < fields.low
  low_le_open : fields.low ≤ fields.openPrice
  low_le_close : fields.low ≤ fields.close
  open_le_high : fields.openPrice ≤ fields.high
  close_le_high : fields.close ≤ fields.high
  baseVolume_nonneg : 0 ≤ fields.baseVolume
  quoteVolume_nonneg : 0 ≤ fields.quoteVolume
  interval : fields.intervalEnd = fields.intervalStart + intervalTimedelta fields.timeframe
  revision_pos : 1 ≤ fields.revision

/-- One venue kline after normalization. -/
structure OhlcvBar extends OhlcvFields where
  valid : toOhlcvFields.Valid
  deriving DecidableEq

namespace OhlcvBar

variable (bar : OhlcvBar)

theorem intervalStart_lt_intervalEnd : bar.intervalStart < bar.intervalEnd := by
  rw [bar.valid.interval]
  exact Int.lt_add_of_pos_right _ (intervalTimedelta_pos _)

def Closed : Prop := bar.finality = .final ∧ bar.providerComplete = true

instance : Decidable bar.Closed := inferInstanceAs (Decidable (_ ∧ _))

end OhlcvBar

def Contiguous (bars : List OhlcvBar) : Prop :=
  bars.IsChain fun bar next => next.intervalStart = bar.intervalEnd

instance (bars : List OhlcvBar) : Decidable (Contiguous bars) :=
  inferInstanceAs (Decidable (bars.IsChain _))

/-- A later candle starts no earlier than an earlier one ends. -/
theorem Contiguous.apart {bars : List OhlcvBar} (contiguous : Contiguous bars) {i j : Nat}
    {bar later : OhlcvBar} (lt : i < j) (here : bars[i]? = some bar)
    (there : bars[j]? = some later) : bar.intervalEnd ≤ later.intervalStart := by
  induction lt generalizing later with
  | refl =>
    obtain ⟨inside, rfl⟩ := List.getElem?_eq_some_iff.mp there
    obtain ⟨_, rfl⟩ := List.getElem?_eq_some_iff.mp here
    exact (List.isChain_iff_getElem.mp contiguous i inside).ge
  | @step j lt ih =>
    obtain ⟨inside, rfl⟩ := List.getElem?_eq_some_iff.mp there
    have before : bars[j]? = some bars[j] := List.getElem?_eq_getElem _
    calc bar.intervalEnd ≤ bars[j].intervalStart := ih before
      _ ≤ bars[j].intervalEnd := bars[j].intervalStart_lt_intervalEnd.le
      _ = bars[j + 1].intervalStart := (List.isChain_iff_getElem.mp contiguous j inside).symm

/-- What `assert_closed_series_bars` asks of the candles of one series. -/
structure ClosedSeries (instrument : InstrumentIdentity) (timeframe : Timeframe)
    (bars : List OhlcvBar) : Prop where
  instruments : ∀ bar ∈ bars, bar.instrument = instrument
  timeframes : ∀ bar ∈ bars, bar.timeframe = timeframe
  closed : ∀ bar ∈ bars, bar.Closed
  distinct : (bars.map (·.sourceEventId)).Nodup
  contiguous : Contiguous bars

/-! ## Candles of a market -/

/-- The candle of a quarter of an hour whose close is two above a price. -/
def sampleFields (i price : Nat) : OhlcvFields where
  instrument := sampleInstrument
  timeframe := .m15
  intervalStart := i * 900000000
  intervalEnd := i * 900000000 + 900000000
  openPrice := price + 2
  high := price + 3
  low := price + 1
  close := price + 2
  baseVolume := 100
  quoteVolume := 100
  tradeCount := none
  sourceEventId := "kline:" ++ toString i
  providerComplete := true
  finality := .final
  revision := 1
  sourceTime := i * 900000000
  adapterVersion := "adapter/v1"
  contentHash := "kline:" ++ toString i

theorem sampleFields_valid (i price : Nat) : (sampleFields i price).Valid where
  low_pos := by
    have : (0 : ℚ) ≤ price := Nat.cast_nonneg price
    simp only [sampleFields]
    linarith
  low_le_open := by norm_num [sampleFields]
  low_le_close := by norm_num [sampleFields]
  open_le_high := by norm_num [sampleFields]
  close_le_high := by norm_num [sampleFields]
  baseVolume_nonneg := by norm_num [sampleFields]
  quoteVolume_nonneg := by norm_num [sampleFields]
  interval := by
    simp only [sampleFields, intervalTimedelta, Timeframe.intervalSeconds]
    rfl
  revision_pos := le_rfl

def sampleCandle (i price : Nat) : OhlcvBar := ⟨sampleFields i price, sampleFields_valid i price⟩

end AlphaTrade.Market
