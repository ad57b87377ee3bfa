import AlphaTrade.Performance.EquityCalculator

/-!
# The days of the equity

Every day of the series starts with what the closes before it have left, so profits are counted on
one day each. The drawdown of a day is of the day's last peak, and the one of the curve is measured
from no lower than zero.

## Main results

* `build_conserves_iff`: the series conserves money and measures its drawdowns exactly when some
  largest fall of each day came from the day's highest equity, and the curve was not as far below
  zero before it first reached it as its largest fall is deep.
-/
namespace AlphaTrade.Performance
open Library
open Execution (Instant)
open Risk (Day ZoneInfo Zones normalizeTimezone)

variable {zone : ZoneInfo} {zones : Zones} {records closed : List UnifiedTradeRecord}
  {startingBalance : ℚ} {current : Day}

/-! ## What is measured -/

def pnlsOn (zone : ZoneInfo) (records : List UnifiedTradeRecord) (day : Day) : List ℚ :=
  ((sortedClosed records).filter (closeDay zone · = some day)).map (·.realizedPnl)

def equityBefore (zone : ZoneInfo) (startingBalance : ℚ) (records : List UnifiedTradeRecord)
    (day : Day) : ℚ := startingBalance + preWindow zone (sortedClosed records) day

def curveResults (records : List UnifiedTradeRecord) (unrealizedPnl : Option ℚ) : List ℚ :=
  (sortedClosed records).map (·.realizedPnl) ++ [unrealizedPnl.getD 0]

/-- A series has every close on one day, and each day starts where the one before it ends. -/
structure Booked (zone : ZoneInfo) (startingBalance : ℚ) (records : List UnifiedTradeRecord)
    (unrealizedPnl : Option ℚ) (result : EquitySeriesResult) : Prop where
  consecutive : result.dailySeries.IsChain fun day next => next.date = day.date + 1
  chained : result.dailySeries.IsChain fun day next => next.startingEquity = day.endingEquity
  starts : ∀ day ∈ result.dailySeries.head?, day.startingEquity = startingBalance
  booked : ∀ day ∈ result.dailySeries, day.dailyPnl = (pnlsOn zone records day.date).sum ∧
    day.endingEquity = day.startingEquity + day.dailyPnl
  cumulative : result.cumulativeRealizedPnl =
    ((closedTrades records).map (·.realizedPnl)).sum
  summed : (result.dailySeries.map (·.dailyPnl)).sum = result.cumulativeRealizedPnl
  counted : ∀ trade ∈ closedTrades records, ∃ day ∈ result.dailySeries,
    closeDay zone trade = some day.date ∧
      ∀ other ∈ result.dailySeries, closeDay zone trade = some other.date → other = day
  numbered : ∀ day ∈ result.dailySeries, day.tradesClosed =
    ((closedTrades records).filter (closeDay zone · = some day.date)).length
  curve : result.equityCurve.map (·.equity) =
    (curveResults records unrealizedPnl).inits.map (equityAfter startingBalance)

/-- A series conserves money and measures its own drawdowns. -/
structure Conserves (zone : ZoneInfo) (startingBalance : ℚ) (records : List UnifiedTradeRecord)
    (unrealizedPnl : Option ℚ) (result : EquitySeriesResult) : Prop
    extends Booked zone startingBalance records unrealizedPnl result where
  measured : ∀ day ∈ result.dailySeries, Drawdown day.startingEquity
    (pnlsOn zone records day.date) day.dailyDrawdown day.dailyDrawdownPct
  overall : Drawdown startingBalance (curveResults records unrealizedPnl) result.maxDrawdown
    result.maxDrawdownPct

def FromTheTop (capital : ℚ) (results : List ℚ) : Prop :=
  ∃ part, part <+: results ∧ IsBest (fallAfter capital) results (fallAfter capital part) ∧
    (peakAfter capital results = peakAfter capital part ∨ peakAfter capital results ≤ 0)

/-- Before the equity has reached zero it is less far below it than its largest fall is deep, or no
farther where such a fall comes from zero. -/
def ShallowBelowZero (capital : ℚ) (results : List ℚ) : Prop :=
  ∃ deepest, IsBest (fallAfter capital) results deepest ∧
    ((∀ part, part <+: results → peakAfter capital part < 0 →
        -equityAfter capital part < deepest) ∨
      (∀ part, part <+: results → peakAfter capital part < 0 →
        -equityAfter capital part ≤ deepest) ∧
      ∃ part, part <+: results ∧ fallAfter capital part = deepest ∧ peakAfter capital part = 0)

/-- With a balance that is not negative there is nothing below zero to look at. -/
theorem shallowBelowZero_of_nonneg {capital : ℚ} {results : List ℚ} (nonneg : 0 ≤ capital) :
    ShallowBelowZero capital results := by
  have best : ∃ deepest, IsBest (fallAfter capital) results deepest := by
    induction results using List.reverseRecOn with
    | nil => exact ⟨_, isBest_nil _⟩
    | append_singleton results result ih => exact ⟨_, ih.choose_spec.push result⟩
  obtain ⟨deepest, best⟩ := best
  refine ⟨deepest, best, .inl fun part _ low => ?_⟩
  exact absurd (nonneg.trans capital_le_peakAfter) low.not_ge

/-! ## The order of the closes -/

def Closes (records : List UnifiedTradeRecord) : Prop :=
  ∀ trade ∈ closedTrades records, trade.closedAt.isSome

instance (records : List UnifiedTradeRecord) : Decidable (Closes records) :=
  inferInstanceAs (Decidable (∀ _ ∈ _, _))

theorem mem_sortedClosed {trade : UnifiedTradeRecord} :
    trade ∈ sortedClosed records ↔ trade ∈ closedTrades records := mem_sortedOn _

/-- The trades of a day come in the order of their closes. -/
theorem sortedOn_byDay (closes : Closes records) (zone : ZoneInfo) (day : Day) :
    sortedOn (fun trade => trade.closedAt.getD datetimeMin)
      (byDay zone (sortedClosed records) day) = byDay zone (sortedClosed records) day := by
  refine List.Pairwise.insertionSort_eq ?_
  have sorted := List.pairwise_map.mp (sortedOn_sorted sortKey (closedTrades records))
  refine (sorted.imp_of_mem ?_).sublist List.filter_sublist
  intro trade other listed listed' le
  obtain ⟨closed, isClosed⟩ := Option.isSome_iff_exists.mp (closes _ (mem_sortedClosed.mp listed))
  obtain ⟨closed', isClosed'⟩ :=
    Option.isSome_iff_exists.mp (closes _ (mem_sortedClosed.mp listed'))
  simp only [sortKey, isClosed, isClosed'] at le ⊢
  rcases Prod.Lex.toLex_le_toLex.mp le with less | ⟨-, le⟩
  · exact absurd less (lt_irrefl _)
  · exact le

theorem length_byDay (zone : ZoneInfo) (records : List UnifiedTradeRecord) (day : Day) :
    (byDay zone (sortedClosed records) day).length =
      ((closedTrades records).filter (closeDay zone · = some day)).length :=
  ((sortedOn_perm sortKey (closedTrades records)).filter _).length_eq

/-! ## One day -/

/-- The fold of a day has its equity, its peak and its largest fall. -/
theorem foldl_dayStep (equity : ℚ) (pnls : List ℚ) :
    ∃ fall, IsBest (fallAfter equity) pnls fall ∧
      pnls.foldl dayStep ⟨equity, equity, 0, 0⟩ =
        ⟨equityAfter equity pnls, peakAfter equity pnls, fall, pnls.sum⟩ := by
  induction pnls using List.reverseRecOn with
  | nil =>
    refine ⟨0, ?_, by simp⟩
    have best := isBest_nil (fallAfter equity)
    rwa [fallAfter_nil] at best
  | append_singleton pnls pnl ih =>
    obtain ⟨fall, best, folded⟩ := ih
    refine ⟨_, best.push pnl, ?_⟩
    rw [List.foldl_append, folded, List.foldl_cons, List.foldl_nil]
    simp only [dayStep, ← equityAfter_concat, ← peakAfter_concat, List.sum_append,
      List.sum_singleton, DayState.mk.injEq, true_and, and_true]
    rw [← fallAfter]
    rcases lt_or_ge fall (fallAfter equity (pnls ++ [pnl])) with deeper | shallow
    · rw [if_pos deeper, max_eq_right deeper.le]
    · rw [if_neg shallow.not_gt, max_eq_left shallow]

/-- A day in the terms of its profits. -/
theorem dayPoint_spec (closes : Closes records) (zone : ZoneInfo) (day : Day) (equity : ℚ) :
    ∃ fall, IsBest (fallAfter equity) (pnlsOn zone records day) fall ∧
      dayPoint zone (sortedClosed records) day equity =
        { date := day
          startingEquity := equity
          endingEquity := equityAfter equity (pnlsOn zone records day)
          dailyPnl := (pnlsOn zone records day).sum
          dailyDrawdown := fall
          dailyDrawdownPct := fractionOf (peakAfter equity (pnlsOn zone records day)) fall
          tradesClosed :=
            ((closedTrades records).filter (closeDay zone · = some day)).length } := by
  obtain ⟨fall, best, folded⟩ := foldl_dayStep equity (pnlsOn zone records day)
  refine ⟨fall, best, ?_⟩
  have pnls : (byDay zone (sortedClosed records) day).map (·.realizedPnl) =
      pnlsOn zone records day := rfl
  unfold dayPoint
  rw [sortedOn_byDay closes]
  dsimp only
  rw [pnls, folded, length_byDay]
  simp only [fractionOf, and_comm]

theorem day_measured_iff (closes : Closes records) (zone : ZoneInfo) (day : Day) (equity : ℚ) :
    Drawdown equity (pnlsOn zone records day)
        (dayPoint zone (sortedClosed records) day equity).dailyDrawdown
        (dayPoint zone (sortedClosed records) day equity).dailyDrawdownPct ↔
      FromTheTop equity (pnlsOn zone records day) := by
  obtain ⟨fall, best, same⟩ := dayPoint_spec closes zone day equity
  rw [same]
  exact drawdown_iff_of_last_peak best

/-! ## The loop over the days -/

/-- The profit of trades of one of two kinds is the profit of the two kinds. -/
theorem sum_filter_split {any early late : UnifiedTradeRecord → Bool}
    (trades : List UnifiedTradeRecord) (either : ∀ trade, any trade = (early trade || late trade))
    (apart : ∀ trade, early trade = true → late trade = false) :
    ((trades.filter any).map (·.realizedPnl)).sum =
      ((trades.filter early).map (·.realizedPnl)).sum +
        ((trades.filter late).map (·.realizedPnl)).sum := by
  induction trades with
  | nil => simp
  | cons trade rest ih =>
    have here := either trade
    have not_both := apart trade
    cases isEarly : early trade <;> cases isLate : late trade
    · simpa [here, isEarly, isLate] using ih
    · simp [here, isEarly, isLate, ih]
      ring
    · simp [here, isEarly, isLate, ih]
      ring
    · simp [isEarly, isLate] at not_both

/-- What the closes before a day leave, with the closes of the day, is left before the next one. -/
theorem equityBefore_succ (zone : ZoneInfo) (startingBalance : ℚ)
    (records : List UnifiedTradeRecord) (day : Day) :
    equityBefore zone startingBalance records (day + 1) =
      equityAfter (equityBefore zone startingBalance records day) (pnlsOn zone records day) := by
  unfold equityBefore equityAfter preWindow pnlsOn
  rw [add_assoc]
  congr 1
  refine sum_filter_split _ (fun trade => ?_) fun trade early => ?_
  · rw [← Bool.decide_or, decide_eq_decide]
    cases own : closeDay zone trade with
    | none => simp
    | some other =>
      have split : other < day + 1 ↔ other < day ∨ other = day := Int.lt_add_one_iff.trans
        le_iff_lt_or_eq
      simpa using split
  · simp only [decide_eq_true_eq, Option.mem_def] at early
    obtain ⟨other, own, before⟩ := early
    simp [own, before.ne]

/-- The days of the loop start with what the closes before them have left. -/
theorem dayLoop_eq (closes : Closes records) (zone : ZoneInfo) (startingBalance : ℚ) (left : Nat)
    (current : Day) : dayLoop zone (sortedClosed records) left current
        (equityBefore zone startingBalance records current) =
      (List.range left).map fun k : Nat => dayPoint zone (sortedClosed records) (current + k)
        (equityBefore zone startingBalance records (current + k)) := by
  induction left generalizing current with
  | zero => rfl
  | succ left ih =>
    obtain ⟨fall, -, same⟩ := dayPoint_spec closes zone current
      (equityBefore zone startingBalance records current)
    have ends : (dayPoint zone (sortedClosed records) current
        (equityBefore zone startingBalance records current)).endingEquity =
          equityBefore zone startingBalance records (current + 1) := by
      rw [same, equityBefore_succ]
    rw [dayLoop, List.range_succ_eq_map, List.map_cons, List.map_map]
    simp only [ends, ih, Nat.cast_zero, add_zero]
    congr 1
    refine List.map_congr_left fun k _ => ?_
    have next : current + 1 + (k : Int) = current + ((k + 1 : Nat) : Int) := by
      push_cast
      ring
    simp only [Function.comp_apply, Nat.succ_eq_add_one, next]

/-! ## The range -/

variable {days : List Day}

theorem dayRange_eq_none {seriesStart seriesEnd : Option Day}
    (none : dayRange days seriesStart seriesEnd = none) : days = [] := by
  by_contra some
  obtain ⟨least, isLeast⟩ := Option.isSome_iff_exists.mp (List.isSome_min?_of_ne_nil some)
  obtain ⟨most, isMost⟩ := Option.isSome_iff_exists.mp (List.isSome_max?_of_ne_nil some)
  simp only [dayRange, some, false_and, if_false, isLeast, isMost] at none
  cases seriesStart <;> cases seriesEnd <;> cases none

/-- The range has every day of a close in it. -/
theorem dayRange_bounds {seriesStart seriesEnd : Option Day} {first last day : Day}
    (range : dayRange days seriesStart seriesEnd = some (first, last)) (mem : day ∈ days) :
    first ≤ day ∧ day ≤ last := by
  have some := List.ne_nil_of_mem mem
  obtain ⟨least, isLeast⟩ := Option.isSome_iff_exists.mp (List.isSome_min?_of_ne_nil some)
  obtain ⟨most, isMost⟩ := Option.isSome_iff_exists.mp (List.isSome_max?_of_ne_nil some)
  have lower : least ≤ day := (List.min?_eq_some_iff.mp isLeast).2 day mem
  have upper : day ≤ most := (List.max?_eq_some_iff.mp isMost).2 day mem
  simp only [dayRange, some, false_and, if_false, isLeast, isMost] at range
  cases seriesStart with
  | none =>
    cases seriesEnd with
    | none =>
      obtain ⟨rfl, rfl⟩ := Prod.mk.inj (Option.some.inj range)
      exact ⟨lower, upper⟩
    | some stop =>
      obtain ⟨rfl, rfl⟩ := Prod.mk.inj (Option.some.inj range)
      exact ⟨lower, upper.trans (le_max_left _ _)⟩
  | some start =>
    cases seriesEnd with
    | none =>
      obtain ⟨rfl, rfl⟩ := Prod.mk.inj (Option.some.inj range)
      exact ⟨(min_le_left _ _).trans lower, upper⟩
    | some stop =>
      obtain ⟨rfl, rfl⟩ := Prod.mk.inj (Option.some.inj range)
      exact ⟨(min_le_left _ _).trans lower, upper.trans (le_max_left _ _)⟩

def dayAt (zone : ZoneInfo) (startingBalance : ℚ) (records : List UnifiedTradeRecord) (day : Day) :
    DailyPortfolioPoint :=
  dayPoint zone (sortedClosed records) day (equityBefore zone startingBalance records day)

theorem lt_add_toNat {first last day : Int} (upper : day ≤ last) :
    day < first + ((last + 1 - first).toNat : Int) := by
  omega

/-- The series has the days from its first one on, and every closed trade closes on one of them. -/
theorem dailySeries_eq (closes : Closes records) (zones : Zones) (startingBalance : ℚ)
    (timezone : Option String) (seriesStart seriesEnd : Option Day) :
    ∃ (n : Nat) (first : Day), dailySeries zones startingBalance (sortedClosed records) timezone
        seriesStart seriesEnd =
          (List.range n).map (fun k : Nat =>
            dayAt (zoneOf zones timezone) startingBalance records (first + k)) ∧
      ∀ trade ∈ closedTrades records, ∃ day, closeDay (zoneOf zones timezone) trade = some day ∧
        first ≤ day ∧ day < first + n := by
  have onDay : ∀ trade ∈ closedTrades records, ∃ day,
      closeDay (zoneOf zones timezone) trade = some day ∧
        day ∈ (sortedClosed records).filterMap (closeDay (zoneOf zones timezone)) := by
    intro trade mem
    obtain ⟨closed, isClosed⟩ := Option.isSome_iff_exists.mp (closes trade mem)
    have own : closeDay (zoneOf zones timezone) trade =
        some ((zoneOf zones timezone).date closed) := by
      rw [closeDay, isClosed]
      rfl
    exact ⟨_, own, List.mem_filterMap.mpr ⟨trade, mem_sortedClosed.mpr mem, own⟩⟩
  unfold dailySeries
  dsimp only
  split
  · rename_i empty
    refine ⟨0, 0, rfl, fun trade mem => ?_⟩
    rw [← mem_sortedClosed, empty.1] at mem
    cases mem
  · split
    · rename_i none
      refine ⟨0, 0, rfl, fun trade mem => ?_⟩
      obtain ⟨day, -, listed⟩ := onDay trade mem
      rw [dayRange_eq_none none] at listed
      cases listed
    · rename_i first last range
      refine ⟨(last + 1 - first).toNat, first, ?_, fun trade mem => ?_⟩
      · exact dayLoop_eq closes _ startingBalance _ first
      · obtain ⟨day, own, listed⟩ := onDay trade mem
        obtain ⟨lower, upper⟩ := dayRange_bounds range listed
        exact ⟨day, own, lower, lt_add_toNat upper⟩

/-! ## The curve -/

theorem map_equity_closePoints (startingBalance running : ℚ) (idx : Nat)
    (trades : List UnifiedTradeRecord) :
    (closePoints startingBalance running idx trades).map (·.equity) =
      (trades.map (·.realizedPnl)).inits.tail.map fun part =>
        startingBalance + (running + part.sum) := by
  induction trades generalizing running idx with
  | nil => rfl
  | cons trade rest ih =>
    rw [closePoints, List.map_cons, ih, List.map_cons, List.inits_cons, List.tail_cons,
      List.map_map]
    have first : (rest.map (·.realizedPnl)).inits =
        [] :: (rest.map (·.realizedPnl)).inits.tail := by
      cases rest with
      | nil => rfl
      | cons other rest => simp
    rw [first, List.map_cons, List.tail_cons]
    simp [Function.comp_def, add_assoc]

theorem map_equity_equityCurve (startingBalance : ℚ) (records : List UnifiedTradeRecord)
    (unrealizedPnl : Option ℚ) (asOf : Instant) :
    (equityCurve startingBalance (sortedClosed records) unrealizedPnl asOf).map (·.equity) =
      (curveResults records unrealizedPnl).inits.map (equityAfter startingBalance) := by
  set pnls := (sortedClosed records).map (·.realizedPnl) with isPnls
  have whole : (curveResults records unrealizedPnl).inits =
      [] :: pnls.inits.tail ++ [curveResults records unrealizedPnl] := by
    have first : pnls.inits = [] :: pnls.inits.tail := by
      cases pnls with
      | nil => rfl
      | cons pnl rest => simp
    rw [curveResults, ← isPnls, List.inits_append, ← first]
    simp
  have closes := map_equity_closePoints startingBalance 0 1 (sortedClosed records)
  rw [whole]
  simp only [equityCurve, List.map_append, List.map_cons, List.map_nil, List.cons_append, closes,
    zero_add, equityAfter_nil, ← isPnls]
  simp [equityAfter, curveResults, ← isPnls, add_assoc]
  rfl

/-- The fold over the curve keeps the account whose peak starts at zero. -/
theorem foldl_drawdownStep (capital : ℚ) (results : List ℚ) :
    Floored capital results
      ((results.inits.map (equityAfter capital)).foldl drawdownStep ⟨0, 0, none⟩).peak
      ((results.inits.map (equityAfter capital)).foldl drawdownStep ⟨0, 0, none⟩).maxDd
      ((results.inits.map (equityAfter capital)).foldl drawdownStep ⟨0, 0, none⟩).maxDdPct := by
  induction results using List.reverseRecOn with
  | nil =>
    have start := floored_nil capital
    change Floored capital [] (drawdownStep ⟨0, 0, none⟩ (equityAfter capital [])).peak
      (drawdownStep ⟨0, 0, none⟩ (equityAfter capital [])).maxDd
      (drawdownStep ⟨0, 0, none⟩ (equityAfter capital [])).maxDdPct
    rw [equityAfter_nil, drawdownStep]
    dsimp only
    split
    · rename_i falls
      rcases le_total 0 capital with nonneg | negative
      · rw [max_eq_right nonneg, sub_self] at falls
        exact absurd falls (lt_irrefl _)
      · rwa [if_neg (max_eq_left negative).not_gt]
    · rename_i flat
      have level : max 0 capital - capital = 0 :=
        le_antisymm (not_lt.mp flat) (sub_nonneg.mpr (le_max_right _ _))
      rwa [level] at start
  | append_singleton results result ih =>
    have concat : (results ++ [result]).inits = results.inits ++ [results ++ [result]] := by
      simp [List.inits_append]
    rw [concat, List.map_append, List.foldl_append, List.map_singleton, List.foldl_cons,
      List.foldl_nil]
    set state := (results.inits.map (equityAfter capital)).foldl drawdownStep ⟨0, 0, none⟩
    have drop : max state.peak (equityAfter capital (results ++ [result])) -
        equityAfter capital (results ++ [result]) = floorFall capital (results ++ [result]) := by
      rw [ih.highest_concat, floorFall]
    unfold drawdownStep
    dsimp only
    rw [drop]
    split
    · rename_i deeper
      exact ih.deepen deeper
    · rename_i shallow
      exact ih.hold (not_lt.mp shallow)

/-! ## The series -/

/-- The profits of the days are what the closes from the first day on have brought. -/
theorem sum_dailyPnl (closes : Closes records) (zone : ZoneInfo) (startingBalance : ℚ)
    (first : Day) (n : Nat) :
    (((List.range n).map fun k : Nat =>
        dayAt zone startingBalance records (first + k)).map (·.dailyPnl)).sum =
      equityBefore zone startingBalance records (first + n) -
        equityBefore zone startingBalance records first := by
  induction n with
  | zero => simp
  | succ n ih =>
    obtain ⟨fall, -, same⟩ := dayPoint_spec closes zone (first + n)
      (equityBefore zone startingBalance records (first + n))
    have next : first + ((n + 1 : Nat) : Int) = first + n + 1 := by
      push_cast
      ring
    rw [List.range_succ, List.map_append, List.map_append, List.sum_append, ih, next,
      equityBefore_succ, List.map_singleton, List.map_singleton, List.sum_singleton, dayAt, same,
      equityAfter]
    ring

/-- No close is before the first day, so it starts with the balance. -/
theorem equityBefore_first {first : Day} (startingBalance : ℚ)
    (inside : ∀ trade ∈ closedTrades records, ∃ day, closeDay zone trade = some day ∧ first ≤ day) :
    equityBefore zone startingBalance records first = startingBalance := by
  have none : (sortedClosed records).filter
      (fun trade => ∃ day ∈ closeDay zone trade, day < first) = [] := by
    refine List.filter_eq_nil_iff.mpr fun trade mem => ?_
    obtain ⟨day, own, lower⟩ := inside trade (mem_sortedClosed.mp mem)
    simpa [own] using lower
  rw [equityBefore, preWindow, none]
  simp

/-- Every close is before the day behind the last one. -/
theorem equityBefore_stop {stop : Day} (startingBalance : ℚ)
    (inside : ∀ trade ∈ closedTrades records, ∃ day, closeDay zone trade = some day ∧ day < stop) :
    equityBefore zone startingBalance records stop =
      startingBalance + ((sortedClosed records).map (·.realizedPnl)).sum := by
  have all : (sortedClosed records).filter
      (fun trade => ∃ day ∈ closeDay zone trade, day < stop) = sortedClosed records := by
    refine List.filter_eq_self.mpr fun trade mem => ?_
    obtain ⟨day, own, upper⟩ := inside trade (mem_sortedClosed.mp mem)
    simpa [own] using upper
  rw [equityBefore, preWindow, all]

/-- A day without a close measures nothing. -/
theorem fromTheTop_nil (capital : ℚ) : FromTheTop capital [] :=
  ⟨[], List.prefix_rfl, isBest_nil _, .inl rfl⟩

/-- A day with one close falls from its start, or rises. -/
theorem fromTheTop_singleton (capital result : ℚ) : FromTheTop capital [result] := by
  refine ⟨[result], List.prefix_rfl, ?_, .inl rfl⟩
  have best := (isBest_nil (fallAfter capital)).push result
  rwa [fallAfter_nil, List.nil_append, max_eq_right fallAfter_nonneg] at best

section days

variable (closes : Closes records) (startingBalance) (first : Day) (n : Nat)
  (inside : ∀ trade ∈ closedTrades records, ∃ day, closeDay zone trade = some day ∧
    first ≤ day ∧ day < first + n)
include closes inside

omit closes inside in
theorem date_dayAt (day : Day) : (dayAt zone startingBalance records day).date = day := rfl

omit closes inside in
theorem startingEquity_dayAt (day : Day) :
    (dayAt zone startingBalance records day).startingEquity =
      equityBefore zone startingBalance records day := rfl

omit inside in
theorem endingEquity_dayAt (day : Day) :
    (dayAt zone startingBalance records day).endingEquity =
      equityBefore zone startingBalance records (day + 1) := by
  obtain ⟨fall, -, same⟩ := dayPoint_spec closes zone day
    (equityBefore zone startingBalance records day)
  rw [dayAt, same, equityBefore_succ]

/-- The days are measured exactly where each of them falls from its top. -/
theorem days_measured_iff :
    (∀ point ∈ (List.range n).map fun k : Nat => dayAt zone startingBalance records (first + k),
        Drawdown point.startingEquity (pnlsOn zone records point.date) point.dailyDrawdown
          point.dailyDrawdownPct) ↔
      ∀ day, FromTheTop (equityBefore zone startingBalance records day)
        (pnlsOn zone records day) := by
  constructor
  · intro measured day
    by_cases within : first ≤ day ∧ day < first + n
    · obtain ⟨k, rfl⟩ := Int.le.dest within.1
      have few : k < n := by
        exact_mod_cast (add_lt_add_iff_left first).mp within.2
      exact (day_measured_iff closes zone _ _).mp
        (measured _ (List.mem_map.mpr ⟨k, List.mem_range.mpr few, rfl⟩))
    · have empty : pnlsOn zone records day = [] := by
        rw [pnlsOn, List.map_eq_nil_iff, List.filter_eq_nil_iff]
        intro trade mem
        obtain ⟨other, own, bounds⟩ := inside trade (mem_sortedClosed.mp mem)
        rw [own, decide_eq_true_eq, Option.some.injEq]
        rintro rfl
        exact within bounds
      rw [empty]
      exact fromTheTop_nil _
  · intro top point mem
    obtain ⟨k, -, rfl⟩ := List.mem_map.mp mem
    exact (day_measured_iff closes zone _ _).mpr (top _)

end days

/-- The series and its curve are booked, whatever the drawdowns are. -/
theorem build_booked (zones : Zones) (startingBalance : ℚ) (records : List UnifiedTradeRecord)
    (closes : Closes records) (unrealizedPnl : Option ℚ) (asOf : Instant)
    (timezone : Option String) (seriesStart seriesEnd : Option Day) :
    Booked (zoneOf zones timezone) startingBalance records unrealizedPnl
      (build zones startingBalance records unrealizedPnl asOf timezone seriesStart seriesEnd) := by
  obtain ⟨n, first, same, inside⟩ := dailySeries_eq closes zones startingBalance timezone
    seriesStart
    seriesEnd
  set zone := zoneOf zones timezone
  set result := build zones startingBalance records unrealizedPnl asOf timezone
    seriesStart seriesEnd
  have days : result.dailySeries =
    (List.range n).map fun k : Nat => dayAt zone startingBalance records (first + k) := same
  have starts : equityBefore zone startingBalance records first = startingBalance :=
    equityBefore_first startingBalance fun trade mem => by
      obtain ⟨day, own, lower, -⟩ := inside trade mem
      exact ⟨day, own, lower⟩
  have next (i : Nat) : first + ((i + 1 : Nat) : Int) = first + i + 1 := by
    push_cast
    ring
  refine ⟨?_, ?_, ?_, ?_, ?_, ?_, ?_, ?_, ?_⟩
  · rw [days]
    refine List.isChain_iff_getElem.mpr fun i _ => ?_
    simp only [List.getElem_map, List.getElem_range, date_dayAt]
    exact next i
  · rw [days]
    refine List.isChain_iff_getElem.mpr fun i _ => ?_
    simp only [List.getElem_map, List.getElem_range]
    rw [startingEquity_dayAt, endingEquity_dayAt startingBalance closes, next]
  · rw [days]
    intro day head
    cases n with
    | zero => cases head
    | succ n =>
      rw [List.range_succ_eq_map, List.map_cons, List.head?_cons] at head
      rw [← Option.some.inj head, startingEquity_dayAt, Nat.cast_zero, add_zero, starts]
  · rw [days]
    intro point mem
    obtain ⟨k, -, rfl⟩ := List.mem_map.mp mem
    obtain ⟨fall, -, spec⟩ := dayPoint_spec closes zone (first + k)
      (equityBefore zone startingBalance records (first + k))
    rw [dayAt, spec]
    exact ⟨rfl, rfl⟩
  · exact ((sortedOn_perm sortKey (closedTrades records)).map _).sum_eq
  · rw [days, sum_dailyPnl closes, starts, equityBefore_stop startingBalance]
    · exact add_sub_cancel_left _ _
    · intro trade mem
      obtain ⟨day, own, -, upper⟩ := inside trade mem
      exact ⟨day, own, upper⟩
  · rw [days]
    intro trade mem
    obtain ⟨day, own, lower, upper⟩ := inside trade mem
    obtain ⟨k, rfl⟩ := Int.le.dest lower
    have few : k < n := by
      exact_mod_cast (add_lt_add_iff_left first).mp upper
    refine ⟨_, List.mem_map.mpr ⟨k, List.mem_range.mpr few, rfl⟩, own, fun other listed same => ?_⟩
    obtain ⟨i, -, rfl⟩ := List.mem_map.mp listed
    rw [date_dayAt] at same
    rw [Option.some.inj (own.symm.trans same)]
  · rw [days]
    intro point mem
    obtain ⟨k, -, rfl⟩ := List.mem_map.mp mem
    obtain ⟨fall, -, spec⟩ := dayPoint_spec closes zone (first + k)
      (equityBefore zone startingBalance records (first + k))
    rw [dayAt, spec]
  · exact map_equity_equityCurve startingBalance records unrealizedPnl asOf

/-- **The equity series.** For any records whose closed trades carry a close time, any balance, time
zone and range, the series conserves money and measures its own drawdowns exactly when on every day
a largest fall came from the day's highest equity, and the curve was not as far below zero before it
first reached it as its largest fall is deep. -/
theorem build_conserves_iff (zones : Zones) (startingBalance : ℚ)
    (records : List UnifiedTradeRecord) (closes : Closes records) (unrealizedPnl : Option ℚ)
    (asOf : Instant) (timezone : Option String) (seriesStart seriesEnd : Option Day) :
    Conserves (zoneOf zones timezone) startingBalance records unrealizedPnl
        (build zones startingBalance records unrealizedPnl asOf timezone seriesStart seriesEnd) ↔
      (∀ day, FromTheTop (equityBefore (zoneOf zones timezone) startingBalance records day)
        (pnlsOn (zoneOf zones timezone) records day)) ∧
      ShallowBelowZero startingBalance (curveResults records unrealizedPnl) := by
  obtain ⟨n, first, same, inside⟩ := dailySeries_eq closes zones startingBalance timezone
    seriesStart
    seriesEnd
  have booked := build_booked zones startingBalance records closes unrealizedPnl asOf timezone
    seriesStart seriesEnd
  have measured := days_measured_iff startingBalance closes first n inside
  rw [← same] at measured
  have floored := foldl_drawdownStep startingBalance (curveResults records unrealizedPnl)
  rw [← map_equity_equityCurve startingBalance records unrealizedPnl asOf] at floored
  constructor
  · intro conserves
    exact ⟨measured.mp conserves.measured, floored.drawdown_iff.mp conserves.overall⟩
  · rintro ⟨top, shallow⟩
    exact ⟨booked, measured.mpr top, floored.drawdown_iff.mpr shallow⟩

def utcZones : Zones := fun label => if label = "UTC" then some .utc else none

def closedAtSecond (second : Int) (pnl : ℚ) : UnifiedTradeRecord where
  status := "closed"
  realizedPnl := pnl
  openedAt := none
  closedAt := some (second * 1000000)

def builtOf (records : List UnifiedTradeRecord) : EquitySeriesResult :=
  build utcZones 100 records none 0 none none none

/-- A day with one loss is measured. -/
theorem lossDay_conserves : Conserves (zoneOf utcZones none) 100 [closedAtSecond 1 (-10)] none
    (builtOf [closedAtSecond 1 (-10)]) := by
  refine (build_conserves_iff utcZones 100 [closedAtSecond 1 (-10)] (by decide) none 0 none none
    none).mpr ⟨fun day => ?_, shallowBelowZero_of_nonneg (by norm_num)⟩
  have few : (pnlsOn (zoneOf utcZones none) [closedAtSecond 1 (-10)] day).length ≤ 1 := by
    rw [pnlsOn, List.length_map]
    exact List.length_filter_le _ _
  rcases pnls : pnlsOn (zoneOf utcZones none) [closedAtSecond 1 (-10)] day with _ | ⟨pnl, rest⟩
  · exact fromTheTop_nil _
  · rw [pnls, List.length_cons] at few
    obtain rfl : rest = [] := List.length_eq_zero_iff.mp (by omega)
    exact fromTheTop_singleton _ pnl

/-- The fall of a day that recovers is divided by the peak after it. -/
theorem recoveredDay_diverges :
    (builtOf [closedAtSecond 1 (-10), closedAtSecond 2 60]).dailySeries.map
        (fun day => (day.date, day.startingEquity, day.dailyDrawdown, day.dailyDrawdownPct)) =
          [(0, 100, 10, some (10 / 150))] ∧
      ¬Conserves (zoneOf utcZones none) 100 [closedAtSecond 1 (-10), closedAtSecond 2 60] none
        (builtOf [closedAtSecond 1 (-10), closedAtSecond 2 60]) := by
  have series : (builtOf [closedAtSecond 1 (-10), closedAtSecond 2 60]).dailySeries.map
      (fun day => (day.date, day.startingEquity, day.dailyDrawdown, day.dailyDrawdownPct)) =
        [(0, 100, 10, some (10 / 150))] := by
    decide +kernel
  refine ⟨series, fun conserves => ?_⟩
  have pnls : pnlsOn (zoneOf utcZones none) [closedAtSecond 1 (-10), closedAtSecond 2 60] 0 =
      [-10, 60] := by
    decide
  have listed := List.mem_map.mp (series ▸ List.mem_singleton_self (0, 100, 10, some (10 / 150)))
  obtain ⟨day, mem, same⟩ := listed
  obtain ⟨date, start, fall, fraction⟩ : day.date = 0 ∧ day.startingEquity = 100 ∧
      day.dailyDrawdown = 10 ∧ day.dailyDrawdownPct = some (10 / 150) := by
    simpa using same
  obtain ⟨-, part, initial, isFall, isFraction⟩ := conserves.measured day mem
  rw [date, pnls] at initial
  rw [start, fall] at isFall isFraction
  rw [fraction] at isFraction
  have parts : part = [] ∨ part = [-10] ∨ part = [-10, 60] := by
    simpa using (List.mem_inits part _).mpr initial
  rcases parts with rfl | rfl | rfl
  · exact absurd isFall (by decide +kernel)
  · exact absurd isFraction (by decide +kernel)
  · exact absurd isFall (by decide +kernel)

end AlphaTrade.Performance
