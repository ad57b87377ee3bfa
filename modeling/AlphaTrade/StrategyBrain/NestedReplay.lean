import Mathlib.Algebra.Order.Field.Basic
import AlphaTrade.Library.PrefixCode
import AlphaTrade.StrategyBrain.NestedEpisodes

/-!
# Replays of nested continuation

The events of `detect_nested` against the candles themselves: a replay of fewer candles gives the
events up to there, an episode confirms once and ends once, and a confirmation stands on a pivot,
a retracement and a close that the candles show.
-/
namespace AlphaTrade.StrategyBrain
open Library
open Execution (Instant)
open Market (OhlcvBar OhlcvFields InstrumentIdentity Timeframe Contiguous ClosedSeries)
open Journal (TradeDirection)
open Evidence (Uuid)

variable {uuid5 : Uuid → String → Uuid} {spec : NestedContinuationSpec} {bar : Nat → OhlcvBar}
  {i anchor impulse pullback : Nat} {walk : Walk} {instrument : InstrumentIdentity}
  {timeframe : Timeframe} {bars : List OhlcvBar} {evaluatedAt : Instant}

/-! ## The log -/

theorem observe_logs :
    ∃ added, (observe uuid5 spec bar i anchor impulse walk).results = walk.results ++ added ∧
      ∀ event ∈ added, event.eventIndex = i := by
  unfold observe
  split
  · exact ⟨[], by simp, by simp⟩
  · split
    · obtain ⟨count, confirmed, state, reasons, -, -, logged, -, -⟩ :=
        record_recorded uuid5 spec bar i anchor impulse _ walk _
      exact ⟨_, logged, by simp [detection]⟩
    · exact ⟨[], by simp, by simp⟩

variable (uuid5 spec bar) in
/-- A turn logs its own candle's events. -/
theorem advance_logs : Logs (advance uuid5 spec bar) (·.results) (·.eventIndex) := by
  intro i walk
  unfold advance
  split
  · refine ⟨[], ?_, by simp⟩
    unfold seekAnchor
    grind
  · exact observe_logs
  · dsimp only
    split
    · exact observe_logs
    · unfold awaitImpulse
      dsimp only
      split
      · refine ⟨_, rfl, fun event listed => ?_⟩
        rcases closing_cases bar i
          (decide (lows spec bar i ≤ lows spec bar _)) walk.results with
            quiet | ⟨_, last, -, -, ends⟩
        · rw [quiet] at listed
          cases listed
        · rw [ends] at listed
          obtain rfl := List.mem_singleton.mp listed
          rfl
      · exact ⟨[], by simp, by simp⟩

/-! ## Closed series -/

theorem closedSeries_take (series : ClosedSeries instrument timeframe bars) (n : Nat) :
    ClosedSeries instrument timeframe (bars.take n) where
  instruments bar listed := series.instruments bar (List.mem_of_mem_take listed)
  timeframes bar listed := series.timeframes bar (List.mem_of_mem_take listed)
  closed bar listed := series.closed bar (List.mem_of_mem_take listed)
  distinct := by
    rw [List.map_take]
    exact series.distinct.sublist (List.take_sublist ..)
  contiguous := series.contiguous.take n

variable {first : OhlcvBar} {event : NestedDetection}

/-- A closed series is accepted when it is the one the specification is about. -/
theorem accepts_iff {rest : List OhlcvBar}
    (series : ClosedSeries instrument timeframe (first :: rest))
    (closed : ∀ bar ∈ first :: rest, bar.intervalEnd ≤ evaluatedAt) :
    Accepts spec evaluatedAt first (first :: rest) ↔
      timeframe = spec.triggerTimeframe ∧ instrument.providerSymbol = spec.symbol := by
  have listed : first ∈ first :: rest := List.mem_cons_self ..
  constructor
  · rintro ⟨each, -⟩
    obtain ⟨-, -, same, symbol, -⟩ := each first listed
    rw [series.timeframes first listed] at same
    rw [series.instruments first listed] at symbol
    exact ⟨same, symbol⟩
  · rintro ⟨same, symbol⟩
    refine ⟨fun bar is => ⟨series.closed bar is, closed bar is, ?_, ?_, ?_⟩, series.contiguous⟩
    · rw [series.timeframes bar is, same]
    · rw [series.instruments bar is, symbol]
    · rw [series.instruments bar is, series.instruments first listed]

/-- A replay of the first candles gives the events up to there. -/
theorem detectNested_take (series : ClosedSeries instrument timeframe bars)
    (closed : ∀ bar ∈ bars, bar.intervalEnd ≤ evaluatedAt) (n : Nat) {replayedAt : Instant}
    (known : ∀ bar ∈ bars.take n, bar.intervalEnd ≤ replayedAt) :
    detectNested uuid5 (bars.take n) spec replayedAt =
      (detectNested uuid5 bars spec evaluatedAt).filter (·.eventIndex < n) := by
  cases bars with
  | nil => simp [detectNested]
  | cons first rest =>
    cases n with
    | zero => simp [detectNested]
    | succ n =>
      rw [List.take_succ_cons] at known ⊢
      have early := closedSeries_take series (n + 1)
      rw [List.take_succ_cons] at early
      simp only [detectNested, accepts_iff series closed, accepts_iff early known]
      split
      · have same : walked uuid5 spec (fun i => (first :: rest.take n).getD i first)
            ((rest.take n).length + 1) = walked uuid5 spec
              (fun i => (first :: rest).getD i first) ((rest.take n).length + 1) := by
          refine walked_congr fun j below => ?_
          rw [← List.take_succ_cons, List.getD_eq_getElem?_getD, List.getElem?_take,
            if_pos (by simp at below; omega), ← List.getD_eq_getElem?_getD]
        rw [same]
        have shorter : (rest.take n).length + 1 ≤ rest.length + 1 := by simp
        rw [walked, ← (advance_logs uuid5 spec _).filter_lt rfl shorter]
        have bound := (advance_logs uuid5 spec fun i => (first :: rest).getD i first).stamp_lt
          (rfl : ({} : Walk).results = []) (rest.length + 1)
        refine List.filter_congr fun event listed => ?_
        have := bound event listed
        simp only [List.length_take]
        grind
      · simp

/-! ## What a confirmation stands on -/

def retracement (direction : TradeDirection) (anchor impulse low : OhlcvBar) : ℚ :=
  match direction with
  | .long => (impulse.high - low.low) / (impulse.high - anchor.low)
  | .short => (low.high - impulse.low) / (anchor.high - impulse.low)

def Deeper (direction : TradeDirection) (low other : OhlcvBar) : Prop :=
  match direction with
  | .long => low.low < other.low
  | .short => other.high < low.high

def ClosesBeyond (direction : TradeDirection) (impulse trigger : OhlcvBar) : Prop :=
  match direction with
  | .long => impulse.high < trigger.close
  | .short => trigger.close < impulse.low

def pullbackExtreme (direction : TradeDirection) (low : OhlcvBar) : ℚ :=
  match direction with
  | .long => low.low
  | .short => low.high

/-- A confirmation is sound: its pullback is a strict pivot between the impulse and the candle,
with both wings closed by then, the retracement is within the bounds, the close is beyond the
impulse, and the stop at the pullback loses against the entry at the close. -/
def SoundlyConfirmed (spec : NestedContinuationSpec) (bars : List OhlcvBar)
    (event : NestedDetection) : Prop :=
  let p := spec.parameters
  ∃ pullback anchor impulse low trigger,
    event.pullbackIndex = some pullback ∧ bars[event.anchorIndex]? = some anchor ∧
      bars[event.impulseIndex]? = some impulse ∧ bars[pullback]? = some low ∧
      bars[event.eventIndex]? = some trigger ∧
    event.impulseIndex < pullback ∧ p.pivotSensitivity ≤ pullback ∧
      pullback + p.pivotSensitivity ≤ event.eventIndex ∧
    (∀ j other, bars[j]? = some other → j ≠ pullback → pullback ≤ j + p.pivotSensitivity →
      j ≤ pullback + p.pivotSensitivity → Deeper event.direction low other) ∧
    p.retracementDepth ≤ retracement event.direction anchor impulse low ∧
      retracement event.direction anchor impulse low ≤ p.maximumRetracement ∧
    ClosesBeyond event.direction impulse trigger ∧
    event.entry = some trigger.close ∧
      event.stop = some (pullbackExtreme event.direction low) ∧
      OnLosingSide event.direction (pullbackExtreme event.direction low) trigger.close

theorem mirroredClose_mul_sign (direction : TradeDirection) (bar : OhlcvBar) :
    mirroredClose direction bar * sign direction = bar.close := by
  cases direction <;> simp [mirroredClose, sign]

theorem mirroredLow_mul_sign (direction : TradeDirection) (bar : OhlcvBar) :
    mirroredLow direction bar * sign direction = pullbackExtreme direction bar := by
  cases direction <;> simp [mirroredLow, sign, pullbackExtreme]

theorem mirroredLow_lt (direction : TradeDirection) (low other : OhlcvBar) :
    mirroredLow direction low < mirroredLow direction other ↔ Deeper direction low other := by
  cases direction <;> simp [mirroredLow, Deeper]

theorem mirroredHigh_lt_close (direction : TradeDirection) (impulse trigger : OhlcvBar) :
    mirroredHigh direction impulse < mirroredClose direction trigger ↔
      ClosesBeyond direction impulse trigger := by
  cases direction <;> simp [mirroredHigh, mirroredClose, sign, ClosesBeyond]

theorem mirrored_retracement (direction : TradeDirection) (anchor impulse low : OhlcvBar) :
    (mirroredHigh direction impulse - mirroredLow direction low) /
      (mirroredHigh direction impulse - mirroredLow direction anchor) =
      retracement direction anchor impulse low := by
  cases direction
  · rfl
  · simp only [mirroredHigh, mirroredLow, retracement]
    congr 1 <;> ring

/-- A pullback deep enough lies below the extreme that the close is beyond. -/
theorem Founded.losing (founded : Founded spec bar event pullback) :
    lows spec bar pullback < closes spec bar event.eventIndex := by
  have deep : 0 < depth spec bar event.anchorIndex event.impulseIndex pullback :=
    spec.parameters.valid.retracementDepth.1.trans_le founded.deep
  have below : 0 < highs spec bar event.impulseIndex - lows spec bar pullback := by
    exact (div_pos_iff_of_pos_right founded.rising).mp deep
  have := founded.breaks.2.1
  linarith

theorem Founded.soundlyConfirmed
    (founded : Founded spec (fun i => bars.getD i first) event pullback)
    (past : event.eventIndex < bars.length) : SoundlyConfirmed spec bars event := by
  obtain ⟨wide, known, strict⟩ := founded.breaks.1
  have listed_at : ∀ j < bars.length, bars[j]? = some (bars.getD j first) := by
    intro j below
    simp [List.getD_eq_getElem?_getD, below]
  have anchored := founded.anchor
  have later := founded.later
  unfold SoundlyConfirmed
  rw [founded.direction]
  refine ⟨pullback, _, _, _, _, founded.pullbackIndex, listed_at _ (by omega),
    listed_at _ (by omega), listed_at _ (by omega), listed_at _ past,
    founded.later, wide, known, ?_, ?_, ?_, ?_, ?_, ?_, ?_⟩
  · intro j other listed apart left right
    rw [← mirroredLow_lt]
    have := strict j (mem_wings.mpr (by omega)) apart
    simpa [lows, List.getD_eq_getElem?_getD, listed] using this
  · rw [← mirrored_retracement]
    exact founded.deep
  · rw [← mirrored_retracement]
    exact founded.controlled
  · rw [← mirroredHigh_lt_close]
    exact founded.breaks.2.1
  · rw [founded.entry, closes, mirroredClose_mul_sign]
  · rw [founded.stop, lows, mirroredLow_mul_sign]
  · rw [onLosingSide_iff, ← mirroredLow_mul_sign, mul_assoc, sign_mul_sign, mul_one]
    exact founded.losing

/-! ## The events of a series -/

/-- `uuid5` gives the setups of a series different ids for different impulse candles. -/
def NamesApart (uuid5 : Uuid → String → Uuid) (spec : NestedContinuationSpec)
    (bars : List OhlcvBar) : Prop :=
  ∀ first ∈ bars.head?, ∀ start < bars.length, ∀ start' < bars.length, ∀ impulse ∈ bars,
    ∀ impulse' ∈ bars,
      uuid5 (sequenceId uuid5 spec (fun i => bars.getD i first) start) impulse.sourceEventId =
        uuid5 (sequenceId uuid5 spec (fun i => bars.getD i first) start') impulse'.sourceEventId →
      impulse.sourceEventId = impulse'.sourceEventId

theorem index_of_sourceEventId {j k : Nat} (series : ClosedSeries instrument timeframe bars)
    (below : j < bars.length) (below' : k < bars.length)
    (same : (bars.getD j first).sourceEventId = (bars.getD k first).sourceEventId) : j = k := by
  have apart := List.nodup_iff_injective_get.mp series.distinct
  have listed : j < (bars.map (·.sourceEventId)).length := by simpa using below
  have listed' : k < (bars.map (·.sourceEventId)).length := by simpa using below'
  have here : (bars.map (·.sourceEventId)).get ⟨j, listed⟩ =
      (bars.map (·.sourceEventId)).get ⟨k, listed'⟩ := by
    simpa [List.getD_eq_getElem?_getD, below, below'] using same
  exact congrArg Fin.val (apart here)

theorem getD_mem {j : Nat} (below : j < bars.length) : bars.getD j first ∈ bars := by
  rw [List.getD_eq_getElem?_getD, List.getElem?_eq_getElem below]
  exact List.getElem_mem below

variable (uuid5 spec bars evaluatedAt) in
/-- The events of accepted candles are those of the walk. -/
theorem detectNested_cases : detectNested uuid5 bars spec evaluatedAt = [] ∨
    ∃ first rest, bars = first :: rest ∧ detectNested uuid5 bars spec evaluatedAt =
      (walked uuid5 spec (fun i => bars.getD i first) bars.length).results := by
  rcases bars with - | ⟨first, rest⟩
  · exact .inl rfl
  · by_cases accepted : Accepts spec evaluatedAt first (first :: rest)
    · exact .inr ⟨first, rest, rfl, if_pos accepted⟩
    · exact .inl (if_neg accepted)

variable (evaluatedAt) in
/-- The events of one setup are in order: only the last of them ends it, and one confirms. -/
theorem detectNested_ordered (series : ClosedSeries instrument timeframe bars)
    (names : NamesApart uuid5 spec bars) :
    (detectNested uuid5 bars spec evaluatedAt).Pairwise fun event later =>
      event.setupId = later.setupId →
        ¬ event.state.Terminal ∧ ¬ (event.state = .confirmed ∧ later.state = .confirmed) := by
  rcases detectNested_cases uuid5 spec bars evaluatedAt with empty | ⟨first, rest, split, events⟩
  · rw [empty]
    exact .nil
  · have tracked := tracked_walked uuid5 spec (fun i => bars.getD i first) bars.length
    rw [events]
    refine tracked.ordered.imp_of_mem fun is is' inOrder same => inOrder ?_
    obtain ⟨start, below, named⟩ := tracked.named _ is
    obtain ⟨start', below', named'⟩ := tracked.named _ is'
    have past := (tracked.past _ is).1
    have past' := (tracked.past _ is').1
    rw [named, named'] at same
    exact index_of_sourceEventId series (by omega) (by omega)
      (names first (by simp [split]) start below start' below' _ (getD_mem (by omega)) _
        (getD_mem (by omega)) same)

/-- A confirmation of a closed series is sound. -/
theorem detectNested_sound (listed : event ∈ detectNested uuid5 bars spec evaluatedAt)
    (confirmed : event.state = .confirmed) : SoundlyConfirmed spec bars event := by
  rcases detectNested_cases uuid5 spec bars evaluatedAt with empty | ⟨first, rest, split, events⟩
  · rw [empty] at listed
    cases listed
  · have tracked := tracked_walked uuid5 spec (fun i => bars.getD i first) bars.length
    rw [events] at listed
    obtain ⟨pullback, founded⟩ := tracked.founded event listed confirmed
    exact founded.soundlyConfirmed (tracked.past event listed).2

/-- A relation that keeps the chosen apart leaves at most one of them. -/
theorem length_filter_le_one {α : Type*} {related : α → α → Prop} {chosen : α → Bool}
    {items : List α} (ordered : items.Pairwise related)
    (apart : ∀ a b, chosen a → chosen b → ¬ related a b) : (items.filter chosen).length ≤ 1 := by
  induction items with
  | nil => simp
  | cons a items ih =>
    obtain ⟨behind, ordered⟩ := List.pairwise_cons.mp ordered
    by_cases first : chosen a
    · have none : items.filter chosen = [] := by
        simp only [List.filter_eq_nil_iff]
        exact fun b listed second => apart a b first second (behind b listed)
      simp [first, none]
    · simpa [first] using ih ordered

/-- Nested continuation does not repaint and confirms soundly. -/
theorem nested_does_not_repaint (series : ClosedSeries instrument timeframe bars)
    (closed : ∀ bar ∈ bars, bar.intervalEnd ≤ evaluatedAt) (names : NamesApart uuid5 spec bars) :
    (∀ n replayedAt, (∀ bar ∈ bars.take n, bar.intervalEnd ≤ replayedAt) →
      detectNested uuid5 (bars.take n) spec replayedAt =
        (detectNested uuid5 bars spec evaluatedAt).filter (·.eventIndex < n)) ∧
    (∀ setup, ((detectNested uuid5 bars spec evaluatedAt).filter fun event =>
      event.setupId = setup ∧ event.state = .confirmed).length ≤ 1) ∧
    (∀ before event after, detectNested uuid5 bars spec evaluatedAt = before ++ event :: after →
      event.state.Terminal → ∀ later ∈ after, later.setupId ≠ event.setupId) ∧
    ∀ event ∈ detectNested uuid5 bars spec evaluatedAt, event.state = .confirmed →
      SoundlyConfirmed spec bars event := by
  have ordered := detectNested_ordered evaluatedAt series names
  refine ⟨fun n replayedAt known => detectNested_take series closed n known, fun setup => ?_,
    fun before event after split terminal later is same => ?_,
    fun event listed confirmed => detectNested_sound listed confirmed⟩
  · refine length_filter_le_one ordered fun event later chosen chosen' inOrder => ?_
    rw [decide_eq_true_eq] at chosen chosen'
    exact (inOrder (chosen.1.trans chosen'.1.symm)).2 ⟨chosen.2, chosen'.2⟩
  · rw [split, List.pairwise_append, List.pairwise_cons] at ordered
    exact (ordered.2.1.1 later is same.symm).1 terminal

/-! ## A series -/

def sampleNestedSpec : NestedContinuationSpec :=
  ⟨"BTCUSDT", .m15, .long, ⟨.defaults, NestedFields.defaults_valid⟩⟩

def sampleSeries : List OhlcvBar :=
  [103, 102, 100, 102, 104, 108, 112, 110, 109, 107, 108, 110, 114].mapIdx Market.sampleCandle

theorem sampleSeries_closed : ClosedSeries Market.sampleInstrument .m15 sampleSeries where
  instruments := by decide
  timeframes := by decide
  closed := by decide
  distinct := by decide
  contiguous := by decide

def sampleUuid5 (space : Uuid) (name : String) : Uuid :=
  String.ofList (quoted name.toList ++ space.toList)

theorem sampleUuid5_apart : NamesApart sampleUuid5 spec bars := by
  intro first _ start _ start' _ impulse _ impulse' _ same
  have code := String.ofList_injective same
  exact String.toList_injective (prefixFree_quoted _ _ _ _ code).1

theorem sampleSeries_does_not_repaint :
    (detectNested sampleUuid5 sampleSeries sampleNestedSpec 11700000000).map (·.state) =
        [.forming, .forming, .forming, .forming, .confirmed] ∧
      detectNested sampleUuid5 (sampleSeries.take 12) sampleNestedSpec 11700000000 =
        (detectNested sampleUuid5 sampleSeries sampleNestedSpec 11700000000).filter
          (·.eventIndex < 12) :=
  ⟨by decide +kernel, (nested_does_not_repaint sampleSeries_closed (by decide +kernel)
    sampleUuid5_apart).1 12 _ (by decide)⟩

end AlphaTrade.StrategyBrain
