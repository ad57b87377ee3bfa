import Mathlib.Data.List.GetD
import AlphaTrade.Backtest.ReplayTimes
import AlphaTrade.Backtest.Simulation

/-!
# No engine looks ahead

What an engine makes of the bars that it has read is not changed by the bars that follow them: the
backtest's signals read averages and ranges of earlier rows only, and the replay learns of later
bars no more than that there are some.

## Main results

* `backtest_no_lookahead`: the trades and the curve of the bars of a segment begin those of every
  longer segment.
* `replay_no_lookahead`: replays of bars and events that agree up to a bar have the same state
  there, with which their trades and curves begin.
-/
namespace AlphaTrade.Backtest
open Library
open Market (OhlcvBar)

/-! ## The backtest -/

/-- What is recorded stays recorded. -/
structure SimState.Extends (state after : SimState) : Prop where
  trades : state.trades <+: after.trades
  curve : state.equityCurve <+: after.equityCurve

namespace SimState.Extends

variable {state middle after : SimState}

theorem refl (state : SimState) : state.Extends state := ⟨List.prefix_rfl, List.prefix_rfl⟩

theorem trans (first : state.Extends middle) (second : middle.Extends after) :
    state.Extends after :=
  ⟨first.trades.trans second.trades, first.curve.trans second.curve⟩

end SimState.Extends

/-- An accumulation appends one value for each item. -/
theorem accumulated_append {α β : Type} (next : β → α → β) (items : List α) (out : List β × β) :
    ∃ more, more.length = items.length ∧ (items.foldl (fun (out : List β × β) item =>
      let value := next out.2 item
      (out.1 ++ [value], value)) out).1 = out.1 ++ more := by
  induction items generalizing out with
  | nil => exact ⟨[], rfl, (List.append_nil _).symm⟩
  | cons item items ih =>
    obtain ⟨more, count, grown⟩ := ih (out.1 ++ [next out.2 item], next out.2 item)
    refine ⟨next out.2 item :: more, congrArg Nat.succ count, ?_⟩
    rw [List.foldl_cons, grown, List.append_assoc]
    rfl

theorem length_ema (period : Nat) (prices : List ℚ) :
    (ema period prices).length = prices.length := by
  cases prices with
  | nil => rfl
  | cons first rest =>
    obtain ⟨more, count, grown⟩ := accumulated_append
      (fun last price => price * (2 / (period + 1) : ℚ) + last * (1 - 2 / (period + 1))) rest
      ([first], first)
    have whole : ema period (first :: rest) = first :: more := grown
    rw [whole, List.length_cons, count, List.length_cons]

/-- An average of later prices leaves the earlier ones as they are. -/
theorem ema_append (period : Nat) (prices later : List ℚ) :
    ema period prices <+: ema period (prices ++ later) := by
  cases prices with
  | nil => exact List.nil_prefix
  | cons first rest =>
    simp only [ema, List.cons_append, List.foldl_append]
    obtain ⟨more, -, grown⟩ := accumulated_append
      (fun last price => price * (2 / (period + 1) : ℚ) + last * (1 - 2 / (period + 1))) later
      (rest.foldl (fun (out : List ℚ × ℚ) price =>
        let next := price * (2 / (period + 1)) + out.2 * (1 - 2 / (period + 1))
        (out.1 ++ [next], next)) ([first], first))
    exact ⟨more, grown.symm⟩

section backtest

variable {terms : SimTerms} {cancel : CancelProbe} {segment : Segment} {loop : SegmentLoop}
  {past future : List HistoricalCandle} {bar : HistoricalCandle} {idx : Nat}

def Segment.withRows (segment : Segment) (rows : List HistoricalCandle) : Segment :=
  { segment with rows }

theorem lookback_append (within : idx < past.length) (bars : Nat) :
    lookback (past ++ future) idx bars = lookback past idx bars := by
  unfold lookback
  rw [List.take_append_of_le_length within.le]

/-- A signal reads nothing of the rows that follow its bar. -/
theorem enter_append (within : idx < past.length) :
    loop.enter terms (segment.withRows (past ++ future)) idx bar =
      loop.enter terms (segment.withRows past) idx bar := by
  have prev : (past ++ future).getD (idx - 1) bar = past.getD (idx - 1) bar :=
    List.getD_append _ _ _ _ (by omega)
  have inside : idx < (ema 20 (past.map (·.close))).length := by
    rwa [length_ema, List.length_map]
  obtain ⟨more, grown⟩ := ema_append 20 (past.map (·.close)) (future.map (·.close))
  have average : (ema 20 ((past ++ future).map (·.close))).getD idx 0 =
      (ema 20 (past.map (·.close))).getD idx 0 := by
    rw [List.map_append, ← grown, List.getD_append _ _ _ _ inside]
  have signal : entrySignal terms.rules (past ++ future) idx bar
      (ema 20 ((past ++ future).map (·.close))) =
        entrySignal terms.rules past idx bar (ema 20 (past.map (·.close))) := by
    unfold entrySignal
    simp only [prev, average, lookback_append within]
  unfold SegmentLoop.enter Segment.withRows
  dsimp only
  rw [signal]

theorem extends_hold : loop.state.Extends (loop.hold terms segment bar).state := by
  unfold SegmentLoop.hold
  split
  · exact .refl _
  · dsimp only
    split
    · exact .refl _
    · exact ⟨List.prefix_append _ _, List.prefix_rfl⟩

theorem extends_draw : loop.state.Extends (loop.tick.draw bar).state :=
  ⟨List.prefix_rfl, List.prefix_append _ _⟩

theorem extends_bars (bars : List (HistoricalCandle × Nat)) :
    loop.state.Extends (SegmentLoop.bars terms cancel segment loop bars).state := by
  induction bars generalizing loop with
  | nil => exact .refl _
  | cons entry rest ih =>
    obtain ⟨bar, idx⟩ := entry
    have held : loop.state.Extends ((loop.tick.draw bar).hold terms segment bar).state :=
      extends_draw.trans extends_hold
    unfold SegmentLoop.bars
    dsimp only
    split
    · exact ⟨List.prefix_rfl, List.prefix_rfl⟩
    · split
      · exact held
      · have entered := @ih (((loop.tick.draw bar).hold terms segment bar).enter terms segment idx
          bar)
        rw [state_enter] at entered
        exact held.trans entered

/-- The bars of a segment are read alike in a longer one. -/
theorem extends_bars_append (bars later : List (HistoricalCandle × Nat))
    (within : ∀ entry ∈ bars, entry.2 < past.length) :
    (SegmentLoop.bars terms cancel (segment.withRows past) loop bars).state.Extends
      (SegmentLoop.bars terms cancel (segment.withRows (past ++ future)) loop
        (bars ++ later)).state := by
  induction bars generalizing loop with
  | nil => exact extends_bars later
  | cons entry rest ih =>
    obtain ⟨bar, idx⟩ := entry
    obtain ⟨here, rest_within⟩ := List.forall_mem_cons.mp within
    have same : (loop.tick.draw bar).hold terms (segment.withRows (past ++ future)) bar =
      (loop.tick.draw bar).hold terms (segment.withRows past) bar := rfl
    rw [List.cons_append]
    unfold SegmentLoop.bars
    simp only [same, enter_append here]
    split
    · exact .refl _
    · split
      · exact .refl _
      · exact ih rest_within

theorem extends_finish : loop.state.Extends (loop.finish terms segment).state := by
  unfold SegmentLoop.finish
  split
  · exact .refl _
  · exact ⟨List.prefix_append _ _, List.prefix_rfl⟩

/-- **The backtest does not look ahead.** Whatever bars follow, and whatever state a segment starts
from, the trades that its first bars close and the curve that they draw stay as they are. -/
theorem backtest_no_lookahead (terms : SimTerms) (cancel : CancelProbe) (segment : Segment)
    (state : SimState) (past future : List HistoricalCandle) :
    (segmentLoop terms cancel (segment.withRows past) state).state.trades <+:
      (simulateSegment terms cancel (segment.withRows (past ++ future)) state).state.trades ∧
    (segmentLoop terms cancel (segment.withRows past) state).state.equityCurve <+:
      (simulateSegment terms cancel (segment.withRows (past ++ future))
        state).state.equityCurve := by
  have rows : tradedBars (segment.withRows (past ++ future)) = tradedBars (segment.withRows past) ++
      (future.zipIdx past.length).drop (25 - past.length) := by
    simp only [tradedBars, Segment.withRows, List.zipIdx_append, List.drop_append,
      List.length_zipIdx, Nat.zero_add]
  have within : ∀ entry ∈ tradedBars (segment.withRows past), entry.2 < past.length := by
    intro entry mem
    exact List.snd_lt_of_mem_zipIdx (List.mem_of_mem_drop mem)
  have grown : (segmentLoop terms cancel (segment.withRows past) state).state.Extends
      (simulateSegment terms cancel (segment.withRows (past ++ future)) state).state := by
    refine .trans ?_ extends_finish
    unfold segmentLoop
    rw [rows]
    exact extends_bars_append _ _ within
  exact ⟨grown.trades, grown.curve⟩

end backtest

/-! ## The replay -/

section replay

variable {env : ReplayEnvironment} {terms : ReplayTerms} {s after : ReplayState}
  {events others : List (Int × ReplayCandidate)} {bar : OhlcvBar} {count total i : Nat}
  {cancelled : Bool}

/-- What is recorded stays recorded. -/
structure ReplayState.Extends (s after : ReplayState) : Prop where
  trades : s.trades <+: after.trades
  curve : s.curve <+: after.curve

namespace ReplayState

theorem Extends.refl (s : ReplayState) : s.Extends s := ⟨List.prefix_rfl, List.prefix_rfl⟩

theorem Extends.trans {middle : ReplayState} (first : s.Extends middle)
    (second : middle.Extends after) : s.Extends after :=
  ⟨first.trades.trans second.trades, first.curve.trans second.curve⟩

theorem curve_schedules (s : ReplayState) (candidates : List ReplayCandidate) :
    (candidates.foldl schedule s).curve = s.curve ∧
      (candidates.foldl schedule s).trades = s.trades := by
  induction candidates generalizing s with
  | nil => exact ⟨rfl, rfl⟩
  | cons candidate candidates ih =>
    obtain ⟨curve, trades⟩ := ih (s.schedule candidate)
    refine ⟨curve.trans ?_, trades.trans trades_schedule⟩
    unfold schedule
    split
    · split <;> rfl
    · rfl

theorem Held.grown {last : Bool} (held : Held terms s bar last after) :
    s.trades <+: after.trades ∧ after.curve = s.curve := by
  cases held with
  | idle => exact ⟨List.prefix_rfl, rfl⟩
  | carried => exact ⟨List.prefix_rfl, rfl⟩
  | closed => exact ⟨List.prefix_append _ _, rfl⟩

theorem extends_step (ok : s.step env terms events count i bar = .ok after) : s.Extends after := by
  obtain ⟨decided, decides, drawn⟩ := bind_eq_ok.mp ok
  obtain rfl := Except.ok.inj drawn
  have first : decided.trades = s.trades ∧ decided.curve = s.curve := by
    rcases decided_of_decide decides with _ | _ | _ <;> exact ⟨rfl, rfl⟩
  have second := (held_of_hold terms decided bar (i + 1 = count)).grown
  obtain ⟨curve, trades⟩ := curve_schedules (decided.hold terms bar (i + 1 = count))
    (scheduledAt events i)
  constructor
  · change s.trades <+: ((scheduledAt events i).foldl schedule _).trades
    rw [trades, ← first.1]
    exact second.1
  · change s.curve <+: ((scheduledAt events i).foldl schedule _).curve ++ _
    rw [curve, second.2, first.2]
    exact List.prefix_append _ _

theorem extends_bars (rest : List OhlcvBar)
    (ok : bars env terms events count i s rest = .ok (after, cancelled)) : s.Extends after := by
  induction rest generalizing i s with
  | nil =>
    obtain ⟨rfl, -⟩ := Prod.mk.inj (Except.ok.inj ok)
    exact .refl _
  | cons bar rest ih =>
    unfold bars at ok
    split at ok
    · obtain ⟨rfl, -⟩ := Prod.mk.inj (Except.ok.inj ok)
      exact .refl _
    · obtain ⟨next, stepped, ok⟩ := bind_eq_ok.mp ok
      exact (extends_step stepped).trans (ih ok)

/-- Bars that are not the last ones are read alike whatever their number, if the events agree. -/
theorem bars_append {past future : List OhlcvBar} (open_ : i + past.length < count)
    (more : i + past.length < total)
    (agree : ∀ k, k < i + past.length → scheduledAt events k = scheduledAt others k)
    (ok : bars env terms events count i s (past ++ future) = .ok (after, cancelled)) :
    ∃ mid stopped, bars env terms others total i s past = .ok (mid, stopped) ∧
      mid.Extends after := by
  induction past generalizing i s with
  | nil => exact ⟨s, false, rfl, extends_bars _ ok⟩
  | cons bar rest ih =>
    rw [List.length_cons] at open_ more agree
    rw [List.cons_append] at ok
    unfold bars at ok ⊢
    split at ok
    · rename_i stops
      obtain ⟨rfl, -⟩ := Prod.mk.inj (Except.ok.inj ok)
      exact ⟨s, true, if_pos stops, .refl s⟩
    · rename_i goes
      obtain ⟨next, stepped, ok⟩ := bind_eq_ok.mp ok
      have same : s.step env terms others total i bar = .ok next := by
        have mine : (i + 1 = count) = False := eq_false (by omega)
        have other : (i + 1 = total) = False := eq_false (by omega)
        rw [← stepped]
        simp only [step, mine, other, agree i (by omega)]
      obtain ⟨mid, stopped, ran, grown⟩ :=
        ih (by omega) (by omega) (fun k lt => agree k (by omega)) ok
      refine ⟨mid, stopped, ?_, grown⟩
      rw [if_neg goes]
      exact bind_eq_ok.mpr ⟨next, same, ran⟩

end ReplayState

/-- **The replay does not look ahead.** Two replays whose bars begin with the same past, with more
to come, and whose events agree up to there have the same state at its end, and the trades and the
curve of both begin with those of that state. -/
theorem replay_no_lookahead {env : ReplayEnvironment} {terms : ReplayTerms}
    {past future instead : List OhlcvBar} {events others : List (Int × ReplayCandidate)}
    {result other : ReplayResult} (goes : env.shouldCancel 0 = false) (more : future ≠ [])
    (different : instead ≠ [])
    (agree : ∀ k < past.length,
      ReplayState.scheduledAt events k = ReplayState.scheduledAt others k)
    (ok : segment env terms (past ++ future) events = .ok result)
    (otherOk : segment env terms (past ++ instead) others = .ok other) :
    ∃ mid cancelled, ReplayState.bars env terms events (past.length + 1) 0 (.initial terms) past =
        .ok (mid, cancelled) ∧
      (mid.trades <+: result.trades ∧ mid.curve <+: result.curve) ∧
      (mid.trades <+: other.trades ∧ mid.curve <+: other.curve) := by
  have reaches {future : List OhlcvBar} {own : List (Int × ReplayCandidate)}
      {result : ReplayResult} (more : future ≠ [])
      (agree : ∀ k < past.length, ReplayState.scheduledAt own k = ReplayState.scheduledAt events k)
      (ok : segment env terms (past ++ future) own = .ok result) :
      ∃ mid cancelled, ReplayState.bars env terms events (past.length + 1) 0 (.initial terms)
          past = .ok (mid, cancelled) ∧ mid.trades <+: result.trades ∧
        mid.curve <+: result.curve := by
    unfold segment at ok
    rw [goes, if_neg Bool.false_ne_true] at ok
    obtain ⟨_, -, ok⟩ := bind_eq_ok.mp ok
    obtain ⟨⟨s, cancelled⟩, ran, ok⟩ := bind_eq_ok.mp ok
    obtain rfl := Except.ok.inj ok
    have longer : 0 + past.length < (past ++ future).length := by
      rw [List.length_append, Nat.zero_add]
      exact Nat.lt_add_of_pos_right (List.length_pos_of_ne_nil more)
    obtain ⟨mid, stopped, alike, grown⟩ := ReplayState.bars_append longer
      (show 0 + past.length < past.length + 1 by omega)
      (fun k lt => agree k (by omega)) ran
    exact ⟨mid, stopped, alike, grown.trades, grown.curve⟩
  obtain ⟨mid, cancelled, ran, mine⟩ := reaches more (fun _ _ => rfl) ok
  obtain ⟨mid', cancelled', ran', others'⟩ :=
    reaches different (fun k lt => (agree k lt).symm) otherOk
  obtain ⟨rfl, rfl⟩ := Prod.mk.inj (Except.ok.inj (ran.symm.trans ran'))
  exact ⟨mid, cancelled, ran, mine, others'⟩

/-- A later rise changes neither the first trade nor the curve before it. -/
theorem slippedRun_unforeseen : ∃ result other mid cancelled,
    segment openEnvironment slippedTerms (levelBars.take 2 ++ [Market.sampleCandle 2 100])
      twoCandidates = .ok result ∧
    segment openEnvironment slippedTerms (levelBars.take 2 ++ [Market.sampleCandle 2 120])
      twoCandidates = .ok other ∧
    ReplayState.bars openEnvironment slippedTerms twoCandidates 3 0 (.initial slippedTerms)
      (levelBars.take 2) = .ok (mid, cancelled) ∧
    (mid.trades <+: result.trades ∧ mid.curve <+: result.curve) ∧
    (mid.trades <+: other.trades ∧ mid.curve <+: other.curve) := by
  have ran : ∀ price ∈ [100, 120], (segment openEnvironment slippedTerms
      (levelBars.take 2 ++ [Market.sampleCandle 2 price]) twoCandidates).toOption.isSome := by
    decide +kernel
  obtain ⟨result, isResult⟩ := Option.isSome_iff_exists.mp (ran 100 (by decide))
  obtain ⟨other, isOther⟩ := Option.isSome_iff_exists.mp (ran 120 (by decide))
  have ok := toOption_eq_some.mp isResult
  have otherOk := toOption_eq_some.mp isOther
  obtain ⟨mid, cancelled, begins⟩ := replay_no_lookahead rfl (List.cons_ne_nil _ _)
    (List.cons_ne_nil _ _) (fun _ _ => rfl) ok otherOk
  exact ⟨result, other, mid, cancelled, ok, otherOk, begins⟩

end replay

end AlphaTrade.Backtest
