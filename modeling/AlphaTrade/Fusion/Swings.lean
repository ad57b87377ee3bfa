import AlphaTrade.Market.Ohlcv

/-!
# Swing highs

A swing high is a candle whose two neighbours on either side are strictly lower. The search takes
the last one of a series that lies between the start of a window and the trigger.
-/
namespace AlphaTrade.Fusion
open Library Market
open Execution (Instant)

def swingLeft : Nat := 2

def swingRight : Nat := 2

/-- The index is the place in the series. -/
structure ConfirmedSwingHigh where
  index : Nat
  price : ℚ
  bar : OhlcvBar
  deriving DecidableEq

def neighbors (bars : List OhlcvBar) (index : Nat) : List OhlcvBar :=
  (bars.drop (index - swingLeft)).take swingLeft ++ (bars.drop (index + 1)).take swingRight

/-- The loop body of `confirmed_fractal_swing_highs`. -/
def swingHighAt (bars : List OhlcvBar) (index : Nat) : Option ConfirmedSwingHigh :=
  match bars[index]? with
  | none => none
  | some pivot =>
    if pivot.finality ≠ .final then none
    else if ∃ neighbor ∈ neighbors bars index, neighbor.finality ≠ .final then none
    else if ∃ neighbor ∈ neighbors bars index, pivot.high ≤ neighbor.high then none
    else some ⟨index, pivot.high, pivot⟩

def confirmedFractalSwingHighs (bars : List OhlcvBar) : List ConfirmedSwingHigh :=
  if bars.length < swingLeft + swingRight + 1 then []
  else (List.range' swingLeft (bars.length - swingRight - swingLeft)).filterMap (swingHighAt bars)

def mostRecentConfirmedSwingHigh (bars : List OhlcvBar) (windowStart : Option Instant)
    (beforeBar : Option OhlcvBar) : Option ConfirmedSwingHigh :=
  (confirmedFractalSwingHighs bars).reverse.find? fun item =>
    (∀ bar ∈ beforeBar, item.bar.intervalEnd ≤ bar.intervalStart) ∧
      ∀ start ∈ windowStart, start ≤ item.bar.intervalStart

/-! ## What is found -/

/-- The candle at the index is higher than its two neighbours on either side. -/
structure SwingHigh (bars : List OhlcvBar) (index : Nat) : Prop where
  left : swingLeft ≤ index
  right : index + swingRight < bars.length
  higher : ∀ other, index - swingLeft ≤ other → other ≤ index + swingRight → other ≠ index →
    ∀ pivot ∈ bars[index]?, ∀ neighbor ∈ bars[other]?, neighbor.high < pivot.high

theorem mem_neighbors {bars : List OhlcvBar} {index : Nat} {bar : OhlcvBar}
    (left : swingLeft ≤ index) :
    bar ∈ neighbors bars index ↔
      ∃ other, index - swingLeft ≤ other ∧ other ≤ index + swingRight ∧ other ≠ index ∧
        bars[other]? = some bar := by
  unfold neighbors
  rw [List.mem_append]
  simp only [List.mem_iff_getElem?, List.getElem?_take, List.getElem?_drop, swingLeft,
    swingRight] at *
  constructor
  · rintro (⟨i, found⟩ | ⟨i, found⟩)
    · split at found
      · exact ⟨index - 2 + i, by omega, by omega, by omega, found⟩
      · cases found
    · split at found
      · exact ⟨index + 1 + i, by omega, by omega, by omega, found⟩
      · cases found
  · rintro ⟨other, low, high, ne, found⟩
    rcases Nat.lt_or_gt_of_ne ne with lt | gt
    · refine .inl ⟨other - (index - 2), ?_⟩
      rw [if_pos (by omega)]
      rwa [show index - 2 + (other - (index - 2)) = other by omega]
    · refine .inr ⟨other - (index + 1), ?_⟩
      rw [if_pos (by omega)]
      rwa [show index + 1 + (other - (index + 1)) = other by omega]

section Final

variable {bars : List OhlcvBar}

/-- Among FINAL candles the loop finds a swing high exactly where there is one. -/
theorem swingHighAt_eq_some (final : ∀ bar ∈ bars, bar.finality = .final) {index : Nat}
    {swing : ConfirmedSwingHigh} (left : swingLeft ≤ index)
    (right : index + swingRight < bars.length) :
    swingHighAt bars index = some swing ↔
      SwingHigh bars index ∧ swing.index = index ∧ bars[index]? = some swing.bar ∧
        swing.price = swing.bar.high := by
  have inside : index < bars.length := by
    simp only [swingRight] at right
    omega
  have closed : ∀ neighbor ∈ neighbors bars index, neighbor.finality = .final := by
    intro neighbor mem
    obtain ⟨other, -, -, -, found⟩ := (mem_neighbors left).mp mem
    exact final _ (List.mem_of_getElem? found)
  have pivotFinal : bars[index].finality = .final := final _ (List.getElem_mem inside)
  unfold swingHighAt
  rw [List.getElem?_eq_getElem inside]
  simp only [pivotFinal, ne_eq, not_true_eq_false, if_false]
  rw [if_neg fun ⟨neighbor, mem, unfinished⟩ => unfinished (closed neighbor mem)]
  by_cases blocked : ∃ neighbor ∈ neighbors bars index, bars[index].high ≤ neighbor.high
  · rw [if_pos blocked]
    obtain ⟨neighbor, mem, ge⟩ := blocked
    obtain ⟨other, low, high, ne, found⟩ := (mem_neighbors left).mp mem
    refine ⟨fun none => (nomatch none), fun ⟨swingHigh, _⟩ => ?_⟩
    have := swingHigh.higher other low high ne _ (List.getElem?_eq_getElem inside) neighbor found
    exact absurd ge (not_le.mpr this)
  · rw [if_neg blocked]
    have swingHigh : SwingHigh bars index := by
      refine ⟨left, right, fun other low high ne pivot found neighbor beside => ?_⟩
      obtain rfl := Option.some.inj ((List.getElem?_eq_getElem inside).symm.trans found)
      by_contra ge
      exact blocked ⟨neighbor, (mem_neighbors left).mpr ⟨other, low, high, ne, beside⟩,
        not_lt.mp ge⟩
    constructor
    · intro same
      obtain rfl := Option.some.inj same
      exact ⟨swingHigh, rfl, rfl, rfl⟩
    · rintro ⟨-, at_, same, price⟩
      obtain ⟨index', price', bar⟩ := swing
      dsimp only at at_ same price
      rw [price, at_, Option.some.inj same]

theorem mem_confirmedFractalSwingHighs (final : ∀ bar ∈ bars, bar.finality = .final)
    {swing : ConfirmedSwingHigh} :
    swing ∈ confirmedFractalSwingHighs bars ↔
      SwingHigh bars swing.index ∧ bars[swing.index]? = some swing.bar ∧
        swing.price = swing.bar.high := by
  unfold confirmedFractalSwingHighs
  split
  · rename_i short
    refine ⟨fun mem => (nomatch mem), fun ⟨swingHigh, _⟩ => ?_⟩
    have := swingHigh.left
    have := swingHigh.right
    omega
  · rename_i long
    rw [List.mem_filterMap]
    constructor
    · rintro ⟨index, mem, found⟩
      rw [List.mem_range'_1] at mem
      obtain ⟨swingHigh, rfl, same, price⟩ :=
        (swingHighAt_eq_some final (by omega) (by omega)).mp found
      exact ⟨swingHigh, same, price⟩
    · rintro ⟨swingHigh, same, price⟩
      have left := swingHigh.left
      have right := swingHigh.right
      exact ⟨swing.index, List.mem_range'_1.mpr (by omega),
        (swingHighAt_eq_some final left right).mpr ⟨swingHigh, rfl, same, price⟩⟩

theorem swingHighAt_index {index : Nat} {swing : ConfirmedSwingHigh}
    (found : swingHighAt bars index = some swing) : swing.index = index := by
  unfold swingHighAt at found
  split at found
  · cases found
  · split_ifs at found
    obtain rfl := Option.some.inj found
    rfl

/-- The swing highs are listed in the order of the series. -/
theorem confirmedFractalSwingHighs_sorted :
    (confirmedFractalSwingHighs bars).Pairwise fun a b => a.index < b.index := by
  unfold confirmedFractalSwingHighs
  split
  · exact List.Pairwise.nil
  · refine List.Pairwise.filterMap _ ?_ List.pairwise_lt_range'
    intro i j lt a found b found'
    rwa [swingHighAt_index found, swingHighAt_index found']

/-- The search finds the last of the swing highs that it may take. -/
theorem mostRecent_spec (final : ∀ bar ∈ bars, bar.finality = .final) {windowStart : Instant}
    {beforeBar : OhlcvBar} {swing : ConfirmedSwingHigh}
    (found : mostRecentConfirmedSwingHigh bars (some windowStart) (some beforeBar) = some swing) :
    SwingHigh bars swing.index ∧ bars[swing.index]? = some swing.bar ∧
      swing.price = swing.bar.high ∧ swing.bar.intervalEnd ≤ beforeBar.intervalStart ∧
      windowStart ≤ swing.bar.intervalStart ∧
      ∀ index bar, swing.index < index → SwingHigh bars index → bars[index]? = some bar →
        bar.intervalEnd ≤ beforeBar.intervalStart → ¬ windowStart ≤ bar.intervalStart := by
  obtain ⟨taken, earlier, later, split, refused⟩ := List.find?_eq_some_iff_append.mp found
  simp only [Option.mem_some_iff, forall_eq', decide_eq_true_eq] at taken
  have mem : swing ∈ confirmedFractalSwingHighs bars := by
    rw [← List.mem_reverse, split]
    simp
  obtain ⟨swingHigh, same, price⟩ := (mem_confirmedFractalSwingHighs final).mp mem
  refine ⟨swingHigh, same, price, taken.1, taken.2, fun index bar later' swingHigh' same' ends
    starts => ?_⟩
  have mem' : ⟨index, bar.high, bar⟩ ∈ (confirmedFractalSwingHighs bars).reverse :=
    List.mem_reverse.mpr ((mem_confirmedFractalSwingHighs final).mpr ⟨swingHigh', same', rfl⟩)
  have sorted := List.pairwise_reverse.mpr (@confirmedFractalSwingHighs_sorted bars)
  rw [split] at mem' sorted
  rcases List.mem_append.mp mem' with mem' | mem'
  · simpa [ends, starts] using refused _ mem'
  · rcases List.mem_cons.mp mem' with rfl | mem'
    · exact lt_irrefl _ later'
    · have := (List.pairwise_cons.mp (List.pairwise_append.mp sorted).2.1).1 _ mem'
      exact lt_asymm later' this

end Final

end AlphaTrade.Fusion
