import AlphaTrade.Backtest.Replay
import Mathlib.Tactic.Linarith
import Mathlib.Tactic.Ring

/-!
# Trades in time

A trade of the replay is traced back to the bar that confirmed its candidate and to the bar that
ended it. The bars between are quiet: none of them opens at the stop or through it, or touches the
stop or the target.

## Main results

* `segment_traced`: every trade is entered at the open of the bar after the one that confirmed its
  candidate and closed by the first bar that is not quiet, the stop first, or with the window. It is
  closed after it was entered unless its first bar had opened at the stop or through it.
-/
namespace AlphaTrade.Backtest
open Library
open Market (OhlcvBar Contiguous)

def Triggers (terms : ReplayTerms) (stop : ℚ) (targets : List ℚ) (bar : OhlcvBar) : Prop :=
  terms.GapStop stop bar ∨ terms.StopTouch stop bar ∨
    ∃ target, targets.head? = some target ∧ terms.TargetTouch target bar

/-- How a trade ends at a bar: by a gap, the stop, the target, or with the window. -/
inductive EndsAt (terms : ReplayTerms) (stop : ℚ) (targets : List ℚ) (bar : OhlcvBar)
    (last : Prop) : TradeExit → Prop where
  | gap (gaps : terms.GapStop stop bar) :
      EndsAt terms stop targets bar last ⟨bar.intervalStart, bar.openPrice, "stop_gap", "none"⟩
  | stop (behind : ¬terms.GapStop stop bar) (touches : terms.StopTouch stop bar) :
      EndsAt terms stop targets bar last ⟨bar.intervalEnd, stop, "stop_loss", "none"⟩
  | target {target : ℚ} (behind : ¬terms.GapStop stop bar) (clear : ¬terms.StopTouch stop bar)
      (first : targets.head? = some target) (touches : terms.TargetTouch target bar) :
      EndsAt terms stop targets bar last ⟨bar.intervalEnd, target, "take_profit_1", "tp1"⟩
  | window (quiet : ¬Triggers terms stop targets bar) (ends : last) :
      EndsAt terms stop targets bar last ⟨bar.intervalEnd, bar.close, "replay_window_end", "none"⟩

/-- A trade from the bar that confirmed its candidate to the bar that ended it. -/
structure Traced (terms : ReplayTerms) (bars : List OhlcvBar)
    (events : List (Int × ReplayCandidate)) (record : BacktestTradeRecord) (k x : Nat)
    (candidate : ReplayCandidate) (entryBar exitBar : OhlcvBar) (exit : TradeExit) : Prop where
  event : ((k : Int), candidate) ∈ events
  confirmed : candidate.Confirmed
  closes : bars[k]?.map (·.intervalEnd) = some candidate.detectedAt
  setup : record.setupId = some candidate.setupId
  stop : candidate.stop = some record.stopLoss
  entryBar_eq : bars[k + 1]? = some entryBar
  entryTime : record.entryTime = entryBar.intervalStart
  entryPrice : record.entryPrice = terms.fill entryBar
  later : k < x
  exitBar_eq : bars[x]? = some exitBar
  quiet : ∀ j bar, k < j → j < x → bars[j]? = some bar →
    ¬Triggers terms record.stopLoss candidate.targets bar
  ends : EndsAt terms record.stopLoss candidate.targets exitBar (x + 1 = bars.length) exit
  exitTime : record.exitTime = exit.time
  exitPrice : record.exitPrice = exit.price * (1 - terms.sign * terms.slip)
  exitReason : record.exitReason = exit.reason
  holdingBars : record.holdingBars =
    some (if terms.GapStop record.stopLoss exitBar then (x : Int) - k - 1 else x - k)

/-- The open trade, as a candidate entered it at a bar. -/
structure EnteredAt (terms : ReplayTerms) (bars : List OhlcvBar)
    (events : List (Int × ReplayCandidate)) (k : Nat) (candidate : ReplayCandidate)
    (trade : OpenTrade) : Prop where
  event : ((k : Int), candidate) ∈ events
  confirmed : candidate.Confirmed
  stop : candidate.stop = some trade.stopLoss
  targets : trade.tpLevels = candidate.targets
  direction : trade.direction = candidate.direction
  bar : ∃ bar, bars[k + 1]? = some bar ∧ trade.entryTime = bar.intervalStart ∧
    trade.entryPrice = terms.fill bar

/-- The open trade before a bar: it was held through the bars since its entry, all quiet. -/
structure Carried (terms : ReplayTerms) (bars : List OhlcvBar)
    (events : List (Int × ReplayCandidate)) (s : ReplayState) (i k : Nat)
    (candidate : ReplayCandidate) (holding : Holding) : Prop where
  entered : EnteredAt terms bars events k candidate holding.trade
  setup : (s.candidates.map (·.setupId))[holding.owner]? = some candidate.setupId
  since : k < i
  barsHeld : holding.trade.barsHeld = (i : Int) - k - 1
  quiet : ∀ j bar, k < j → j < i → bars[j]? = some bar →
    ¬Triggers terms holding.trade.stopLoss candidate.targets bar

/-- What holds of a state before a bar. -/
structure Tracing (terms : ReplayTerms) (bars : List OhlcvBar)
    (events : List (Int × ReplayCandidate)) (i : Nat) (s : ReplayState) : Prop where
  waiting : ∀ k, s.pending = some k → ∃ candidate, s.candidates[k]? = some candidate ∧
    candidate.Confirmed ∧ ∃ j, i = j + 1 ∧ ((j : Int), candidate) ∈ events
  carried : ∀ holding ∈ s.opened, ∃ k candidate,
    Carried terms bars events s i k candidate holding
  traced : ∀ record ∈ s.trades, ∃ k x candidate entryBar exitBar exit,
    Traced terms bars events record k x candidate entryBar exitBar exit

variable {terms : ReplayTerms} {bars : List OhlcvBar} {events : List (Int × ReplayCandidate)}
  {s after : ReplayState} {i k : Nat} {candidate : ReplayCandidate} {holding : Holding}
  {trade : OpenTrade} {bar : OhlcvBar} {exit : TradeExit} {last : Bool}

/-! ## Exits -/

theorem endsAt_of_exitAt (leaves : terms.exitAt trade bar last = some exit) :
    EndsAt terms trade.stopLoss trade.tpLevels bar (last = true) exit := by
  unfold ReplayTerms.exitAt at leaves
  split at leaves
  · rename_i gaps
    obtain rfl := Option.some.inj leaves
    exact .gap gaps
  · rename_i behind
    split at leaves
    · rename_i touches
      obtain rfl := Option.some.inj leaves
      exact .stop behind touches
    · rename_i clear
      split at leaves
      · rename_i target found
        obtain ⟨first, touches⟩ := Option.filter_eq_some_iff.mp found
        obtain rfl := Option.some.inj leaves
        exact .target behind clear first (of_decide_eq_true touches)
      · rename_i missed
        split at leaves
        · rename_i ends
          obtain rfl := Option.some.inj leaves
          refine .window ?_ ends
          rintro (gaps | touches | ⟨target, first, touches⟩)
          · exact behind gaps
          · exact clear touches
          · rw [first] at missed
            simp [touches] at missed
        · cases leaves

theorem quiet_of_exitAt (stays : terms.exitAt trade bar last = none) :
    ¬Triggers terms trade.stopLoss trade.tpLevels bar := by
  unfold ReplayTerms.exitAt at stays
  split at stays
  · cases stays
  · rename_i behind
    split at stays
    · cases stays
    · rename_i clear
      split at stays
      · cases stays
      · rename_i missed
        rintro (gaps | touches | ⟨target, first, touches⟩)
        · exact behind gaps
        · exact clear touches
        · rw [first] at missed
          simp [touches] at missed

theorem barsHeld_heldTrade (terms : ReplayTerms) (trade : OpenTrade) (bar : OhlcvBar) :
    (terms.heldTrade trade bar).barsHeld =
      if terms.GapStop trade.stopLoss bar then trade.barsHeld else trade.barsHeld + 1 := by
  have excursions : ∀ high low,
      (trade.updateExcursions high low).barsHeld = trade.barsHeld + 1 := by
    intro high low
    unfold OpenTrade.updateExcursions
    split <;> rfl
  unfold ReplayTerms.heldTrade
  split
  · simp [excursions]
  · unfold OpenTrade.accrueFunding
    split <;> simp [excursions]

theorem exitPrice_buildTradeRecord (terms : ReplayTerms) (exit : TradeExit) (sequence : Nat)
    (direction : trade.direction = terms.direction) :
    (buildTradeRecord terms.tradeTerms trade exit sequence).exitPrice =
      exit.price * (1 - terms.sign * terms.slip) := by
  unfold buildTradeRecord ReplayTerms.sign ReplayTerms.tradeTerms
  rw [direction]
  cases terms.direction <;> simp only <;> ring

/-! ## Bars -/

theorem EnteredAt.of_sameEntry {held : OpenTrade}
    (entered : EnteredAt terms bars events k candidate trade)
    (same : ReplayTerms.SameEntry trade held) : EnteredAt terms bars events k candidate held where
  event := entered.event
  confirmed := entered.confirmed
  stop := by rw [same.stopLoss, entered.stop]
  targets := by rw [same.tpLevels, entered.targets]
  direction := by rw [same.direction, entered.direction]
  bar := by
    rw [same.entryTime, same.entryPrice]
    exact entered.bar

theorem Carried.of_setups {t : ReplayState}
    (carried : Carried terms bars events s i k candidate holding)
    (setups : s.candidates.map (·.setupId) <+: t.candidates.map (·.setupId)) :
    Carried terms bars events t i k candidate holding where
  entered := carried.entered
  setup := by
    obtain ⟨more, setups⟩ := setups
    have inside := (List.getElem?_eq_some_iff.mp carried.setup).1
    rw [← setups, List.getElem?_append_left inside, carried.setup]
  since := carried.since
  barsHeld := carried.barsHeld
  quiet := carried.quiet

/-- The waiting candidate is decided at the bar after the one that confirmed it. -/
theorem Tracing.decide (tracing : Tracing terms bars events i s) (here : bars[i]? = some bar)
    (decided : ReplayState.Decided terms s i bar after) :
    Tracing terms bars events i after ∧ after.pending = none := by
  cases decided with
  | idle free =>
    refine ⟨tracing, Option.eq_none_iff_forall_ne_some.mpr fun k pending => ?_⟩
    obtain ⟨candidate, found, -⟩ := tracing.waiting k pending
    have waits := ReplayState.waiting_eq_some.mpr ⟨pending, found⟩
    rw [free] at waits
    cases waits
  | @blocked k candidate becomes waits blocks =>
    refine ⟨⟨by rintro _ ⟨⟩, fun holding opened => ?_, tracing.traced⟩, rfl⟩
    obtain ⟨k', candidate', carried⟩ := tracing.carried holding opened
    refine ⟨k', candidate', carried.of_setups ?_⟩
    rw [ReplayState.setups_settle becomes blocks.setup]
  | @entered n candidate stop action waits checked =>
    refine ⟨⟨by rintro _ ⟨⟩, ?_, tracing.traced⟩, rfl⟩
    obtain ⟨pending, found⟩ := ReplayState.waiting_eq_some.mp waits
    obtain ⟨_, again, confirmed, j, rfl, event⟩ := tracing.waiting n pending
    obtain rfl := Option.some.inj (found.symm.trans again)
    rintro _ ⟨⟩
    refine ⟨j, candidate, ⟨event, confirmed, checked.stop_eq, rfl, rfl, bar, here, rfl, rfl⟩, ?_,
      Nat.lt_succ_self j, ?_, ?_⟩
    · have setups : (s.settle n (s.accept terms bar action)).candidates.map (·.setupId) =
          s.candidates.map (·.setupId) :=
        ReplayState.setups_settle (s.accept terms bar action) (fun _ => rfl) s n
      refine (congrArg (·[n]?) setups).trans ?_
      rw [List.getElem?_map, found, Option.map_some]
    · simp [ReplayState.openTrade]
    · intro m bar above below
      omega

/-- The record of a trade that ends at a bar is traced. -/
theorem Carried.closed (carried : Carried terms bars events s i k candidate holding)
    (checked : Chronological terms bars (-1) events) (here : bars[i]? = some bar)
    (leaves : terms.exitAt (terms.heldTrade holding.trade bar) bar (i + 1 = bars.length)
      = some exit)
    {entryBar : OhlcvBar} (there : bars[k + 1]? = some entryBar)
    (time : holding.trade.entryTime = entryBar.intervalStart)
    (price : holding.trade.entryPrice = terms.fill entryBar) :
    Traced terms bars events
      (s.record terms (terms.heldTrade holding.trade bar) holding.owner exit) k i candidate entryBar
      bar exit := by
  have same := terms.sameEntry_heldTrade holding.trade bar
  have entered := carried.entered.of_sameEntry same
  have ends := endsAt_of_exitAt leaves
  rw [entered.targets, decide_eq_true_iff] at ends
  obtain ⟨-, -, -, closes, direction⟩ := checked.sorted.2 _ entered.event
  constructor
  · exact entered.event
  · exact entered.confirmed
  · exact closes
  · rw [← carried.setup, List.getElem?_map]
    rfl
  · exact entered.stop
  · exact there
  · exact same.entryTime.trans time
  · exact same.entryPrice.trans price
  · exact carried.since
  · exact here
  · intro j other above below found
    have quiet := carried.quiet j other above below found
    rwa [← same.stopLoss] at quiet
  · exact ends
  · rfl
  · exact exitPrice_buildTradeRecord terms exit (terms.sequenceStart + s.trades.length)
      (entered.direction.trans direction)
  · rfl
  · have stop : (s.record terms (terms.heldTrade holding.trade bar) holding.owner exit).stopLoss =
        holding.trade.stopLoss := same.stopLoss
    have held : (s.record terms (terms.heldTrade holding.trade bar) holding.owner
        exit).holdingBars = some (terms.heldTrade holding.trade bar).barsHeld := rfl
    rw [stop, held, barsHeld_heldTrade, carried.barsHeld]
    split
    · rfl
    · exact congrArg some (sub_add_cancel _ _)

/-- The open trade is held through a quiet bar or ends with it. -/
theorem Tracing.hold (tracing : Tracing terms bars events i s) (free : s.pending = none)
    (checked : Chronological terms bars (-1) events) (here : bars[i]? = some bar)
    (held : ReplayState.Held terms s bar (i + 1 = bars.length) after) :
    Tracing terms bars events (i + 1) after ∧ after.pending = none := by
  have none_waits {t : ReplayState} (free : t.pending = none) (k : Nat)
      (pending : t.pending = some k) :
      ∃ candidate, t.candidates[k]? = some candidate ∧ candidate.Confirmed ∧
        ∃ j, i + 1 = j + 1 ∧ ((j : Int), candidate) ∈ events := by
    rw [free] at pending
    cases pending
  cases held with
  | idle flat =>
    refine ⟨⟨none_waits free, ?_, tracing.traced⟩, free⟩
    rw [flat]
    rintro _ ⟨⟩
  | @carried holding opened stays =>
    refine ⟨⟨none_waits free, ?_, tracing.traced⟩, free⟩
    rintro _ ⟨⟩
    obtain ⟨k, candidate, carried⟩ := tracing.carried holding opened
    have same := terms.sameEntry_heldTrade holding.trade bar
    have quiet := quiet_of_exitAt stays
    rw [same.stopLoss, same.tpLevels, carried.entered.targets] at quiet
    refine ⟨k, candidate, carried.entered.of_sameEntry same, carried.setup,
      carried.since.trans (Nat.lt_succ_self i), ?_, fun j other above below there => ?_⟩
    · have ahead : ¬terms.GapStop holding.trade.stopLoss bar := fun gaps => quiet (.inl gaps)
      rw [barsHeld_heldTrade, if_neg ahead, carried.barsHeld]
      push_cast
      ring
    · rw [same.stopLoss]
      rcases Nat.lt_succ_iff_lt_or_eq.mp below with before | rfl
      · exact carried.quiet j other above before there
      · obtain rfl := Option.some.inj (there.symm.trans here)
        exact quiet
  | @closed holding exit opened leaves =>
    refine ⟨⟨none_waits free, by rintro _ ⟨⟩, ?_⟩, free⟩
    obtain ⟨k, candidate, carried⟩ := tracing.carried holding opened
    obtain ⟨entryBar, there, time, price⟩ := carried.entered.bar
    have same := terms.sameEntry_heldTrade holding.trade bar
    have traced := carried.closed checked here leaves there time price
    exact List.forall_mem_append.mpr ⟨tracing.traced, by
      rw [List.forall_mem_singleton]
      exact ⟨k, i, candidate, entryBar, bar, exit, traced⟩⟩

/-- A candidate is listed at the bar that confirmed it. -/
theorem Tracing.schedule (tracing : Tracing terms bars events (i + 1) s)
    (event : ((i : Int), candidate) ∈ events) :
    Tracing terms bars events (i + 1) (s.schedule candidate) := by
  have listed (final : ReplayCandidate) {pending : Option Nat}
      (waiting : ∀ k, pending = some k →
        ∃ candidate, (s.candidates ++ [final])[k]? = some candidate ∧
        candidate.Confirmed ∧ ∃ j, i + 1 = j + 1 ∧ ((j : Int), candidate) ∈ events) :
      Tracing terms bars events (i + 1)
        { s with candidates := s.candidates ++ [final], pending } := by
    refine ⟨waiting, fun holding opened => ?_, tracing.traced⟩
    obtain ⟨k, candidate, carried⟩ := tracing.carried holding opened
    refine ⟨k, candidate, carried.of_setups ?_⟩
    rw [List.map_append]
    exact List.prefix_append _ _
  have still (final : ReplayCandidate) (k : Nat) (pending : s.pending = some k) :
      ∃ candidate, (s.candidates ++ [final])[k]? = some candidate ∧ candidate.Confirmed ∧
        ∃ j, i + 1 = j + 1 ∧ ((j : Int), candidate) ∈ events := by
    obtain ⟨candidate, found, facts⟩ := tracing.waiting k pending
    refine ⟨candidate, ?_, facts⟩
    rw [List.getElem?_append_left (List.getElem?_eq_some_iff.mp found).1, found]
  unfold ReplayState.schedule
  split
  · rename_i confirmed
    split
    · exact listed _ (still _)
    · refine listed _ fun k pending => ?_
      obtain rfl := Option.some.inj pending
      exact ⟨candidate, List.getElem?_concat_length, confirmed, i, rfl, event⟩
  · exact listed _ (still _)

theorem Tracing.schedules (tracing : Tracing terms bars events (i + 1) s)
    (candidates : List ReplayCandidate)
    (each : ∀ candidate ∈ candidates, ((i : Int), candidate) ∈ events) :
    Tracing terms bars events (i + 1) (candidates.foldl ReplayState.schedule s) := by
  induction candidates generalizing s with
  | nil => exact tracing
  | cons candidate candidates ih =>
    rw [List.forall_mem_cons] at each
    exact ih (tracing.schedule each.1) each.2

theorem mem_of_scheduledAt (mem : candidate ∈ ReplayState.scheduledAt events i) :
    ((i : Int), candidate) ∈ events := by
  obtain ⟨⟨index, _⟩, listed, rfl⟩ := List.mem_map.mp mem
  obtain ⟨listed, same⟩ := List.mem_filter.mp listed
  obtain rfl : index = i := of_decide_eq_true same
  exact listed

theorem keeps_tracing (checked : Chronological terms bars (-1) events) :
    ReplayState.Keeps terms events bars (Tracing terms bars events) := by
  intro i s bar decided held here tracing decides holds
  obtain ⟨first, free⟩ := tracing.decide here decides
  obtain ⟨second, -⟩ := first.hold free checked here holds
  obtain ⟨waiting, carried, traced⟩ := second.schedules _ fun _ => mem_of_scheduledAt
  refine ⟨waiting, fun holding opened => ?_, traced⟩
  obtain ⟨k, candidate, carried⟩ := carried holding opened
  exact ⟨k, candidate, carried.of_setups List.prefix_rfl⟩

/-! ## Runs -/

theorem EndsAt.time {stop : ℚ} {targets : List ℚ} {ends : Prop}
    (endsAt : EndsAt terms stop targets bar ends exit) :
    terms.GapStop stop bar ∧ exit.time = bar.intervalStart ∨
      ¬terms.GapStop stop bar ∧ exit.time = bar.intervalEnd := by
  cases endsAt with
  | gap gaps => exact .inl ⟨gaps, rfl⟩
  | stop behind => exact .inr ⟨behind, rfl⟩
  | target behind => exact .inr ⟨behind, rfl⟩
  | window quiet => exact .inr ⟨fun gaps => quiet (.inl gaps), rfl⟩

/-- A trade whose first bar opens clear of its stop lives. -/
theorem Traced.lives {record : BacktestTradeRecord} {x : Nat} {entryBar exitBar : OhlcvBar}
    (contiguous : Contiguous bars)
    (traced : Traced terms bars events record k x candidate entryBar exitBar exit)
    (clear : ¬terms.GapStop record.stopLoss entryBar) :
    record.entryTime < record.exitTime ∧ ∃ n, record.holdingBars = some n ∧ 1 ≤ n := by
  have lasts := entryBar.intervalStart_lt_intervalEnd
  have later := traced.later
  rw [traced.entryTime, traced.exitTime, traced.holdingBars]
  rcases eq_or_lt_of_le (Nat.succ_le_of_lt later) with rfl | much
  · obtain rfl := Option.some.inj (traced.entryBar_eq.symm.trans traced.exitBar_eq)
    rcases traced.ends.time with ⟨gaps, -⟩ | ⟨-, time⟩
    · exact absurd gaps clear
    · rw [time, if_neg clear]
      exact ⟨lasts, _, rfl, by omega⟩
  · have apart := contiguous.apart much traced.entryBar_eq traced.exitBar_eq
    rcases traced.ends.time with ⟨gaps, time⟩ | ⟨ahead, time⟩
    · rw [time, if_pos gaps]
      exact ⟨lasts.trans_le apart, _, rfl, by omega⟩
    · rw [time, if_neg ahead]
      exact ⟨(lasts.trans_le apart).trans exitBar.intervalStart_lt_intervalEnd, _, rfl, by omega⟩

/-- **The trades of a replay in time.** -/
theorem segment_traced {env : ReplayEnvironment} {terms : ReplayTerms} {bars : List OhlcvBar}
    {events : List (Int × ReplayCandidate)} {result : ReplayResult}
    (contiguous : Contiguous bars) (ok : segment env terms bars events = .ok result) :
    ∀ record ∈ result.trades, ∃ k x candidate entryBar exitBar exit,
      Traced terms bars events record k x candidate entryBar exitBar exit ∧
      (¬terms.GapStop record.stopLoss entryBar →
        record.entryTime < record.exitTime ∧ ∃ n, record.holdingBars = some n ∧ 1 ≤ n) := by
  have start : Tracing terms bars events 0 (.initial terms) :=
    ⟨by rintro _ ⟨⟩, by rintro _ ⟨⟩, by rintro _ ⟨⟩⟩
  intro record mem
  rcases segment_invariant start keeps_tracing ok with empty | ⟨-, n, s, tracing, -, finished⟩
  · rw [empty] at mem
    cases mem
  · rw [finished] at mem
    obtain ⟨k, x, candidate, entryBar, exitBar, exit, traced⟩ := tracing.traced record mem
    exact ⟨k, x, candidate, entryBar, exitBar, exit, traced, traced.lives contiguous⟩

def levelBars : List OhlcvBar := (List.range 3).map fun i => Market.sampleCandle i 100

def twoCandidates : List (Int × ReplayCandidate) :=
  [(0, replayCandidate 7 0 102 110), (1, replayCandidate 8 1 90 110)]

theorem slippageBps_nonneg : (0 : ℚ) ≤ 100 := by norm_num

def slippedTerms : ReplayTerms := replayTerms 100 slippageBps_nonneg

def slippedRun : Except ReplayError ReplayResult :=
  segment openEnvironment (slippedTerms) levelBars twoCandidates

/-- Both trades are traced. -/
theorem slippedRun_traced : ∃ result, slippedRun = .ok result ∧ result.trades.length = 2 ∧
    ∀ record ∈ result.trades, ∃ k x candidate entryBar exitBar exit,
      Traced (slippedTerms) levelBars twoCandidates record k x candidate entryBar
        exitBar exit := by
  have ran : slippedRun.toOption.map (·.trades.length) = some 2 := by
    decide +kernel
  obtain ⟨result, ok, two⟩ := Option.map_eq_some_iff.mp ran
  have ok := toOption_eq_some.mp ok
  refine ⟨result, ok, two, fun record mem => ?_⟩
  obtain ⟨k, x, candidate, entryBar, exitBar, exit, traced, -⟩ :=
    segment_traced (by decide) ok record mem
  exact ⟨k, x, candidate, entryBar, exitBar, exit, traced⟩

/-- The first trade ends as it is entered, and the other one with the window, whose bars all leave
its stop and its target alone. -/
theorem slippedRun_ends : slippedRun.toOption.map (fun result => result.trades.map fun record =>
      (record.entryTime, record.exitTime, record.holdingBars, record.exitReason)) =
        some [(900000000, 900000000, some 0, "stop_gap"),
          (1800000000, 2700000000, some 1, "replay_window_end")] ∧
    ∀ bar ∈ levelBars, ¬Triggers (slippedTerms) 90 [110] bar := by
  constructor
  · decide +kernel
  · intro bar mem
    have bounds : 90 < bar.low ∧ 90 < bar.openPrice ∧ bar.high < 110 := by
      revert bar
      decide +kernel
    rintro (gaps | touches | ⟨target, first, touches⟩)
    · have gaps : (bar.openPrice - 90) * 1 ≤ 0 := gaps
      linarith
    · exact bounds.1.not_ge touches
    · obtain rfl := Option.some.inj first
      exact bounds.2.2.not_ge touches

end AlphaTrade.Backtest
