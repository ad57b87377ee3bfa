import Mathlib.Algebra.BigOperators.Group.List.Basic
import Mathlib.Algebra.Order.Field.Rat
import Mathlib.Data.List.Infix
import Mathlib.Order.Bounds.Basic
import Mathlib.Tactic.Linarith
import Mathlib.Tactic.Ring

/-!
# Equity and drawdown

An account starts with a capital and books one result after the other. Its peak is the greatest
equity it has had, and its maximum drawdown the greatest fall below the peak, in percent of it. Both
are taken over the prefixes of the results, and kept up as results come.
-/
namespace AlphaTrade.Library

def IsBest {α : Type} (measure : List α → ℚ) (items : List α) (best : ℚ) : Prop :=
  IsGreatest {x | ∃ part, part <+: items ∧ measure part = x} best

section best

variable {α : Type} {measure : List α → ℚ} {items : List α} {best : ℚ}

theorem isBest_nil (measure : List α → ℚ) : IsBest measure [] (measure []) := by
  refine ⟨⟨[], List.prefix_rfl, rfl⟩, ?_⟩
  rintro _ ⟨part, initial, rfl⟩
  rw [List.prefix_nil.mp initial]

theorem IsBest.push (isBest : IsBest measure items best) (a : α) :
    IsBest measure (items ++ [a]) (max best (measure (items ++ [a]))) := by
  obtain ⟨⟨part, initial, attained⟩, least⟩ := isBest
  constructor
  · rcases max_choice best (measure (items ++ [a])) with old | new
    · rw [old]
      exact ⟨part, initial.trans (List.prefix_append _ _), attained⟩
    · rw [new]
      exact ⟨items ++ [a], List.prefix_rfl, rfl⟩
  · rintro _ ⟨other, within, rfl⟩
    rcases List.prefix_concat_iff.mp within with whole | within
    · rw [whole]
      exact le_max_right _ _
    · exact (least ⟨other, within, rfl⟩).trans (le_max_left _ _)

/-- A result that does no better leaves the best. -/
theorem IsBest.keep (isBest : IsBest measure items best) {a : α}
    (below : measure (items ++ [a]) ≤ best) : IsBest measure (items ++ [a]) best := by
  have pushed := isBest.push a
  rwa [max_eq_left below] at pushed

end best

def equityAfter (capital : ℚ) (results : List ℚ) : ℚ := capital + results.sum

def peakAfter (capital : ℚ) (results : List ℚ) : ℚ :=
  (results.foldl (fun (account : ℚ × ℚ) result =>
    (account.1 + result, max account.2 (account.1 + result))) (capital, capital)).2

def drawdownAfter (capital : ℚ) (results : List ℚ) : ℚ :=
  (peakAfter capital results - equityAfter capital results) / peakAfter capital results * 100

variable {capital : ℚ} {results : List ℚ}

@[simp] theorem equityAfter_nil : equityAfter capital [] = capital := add_zero _

@[simp] theorem equityAfter_concat (result : ℚ) :
    equityAfter capital (results ++ [result]) = equityAfter capital results + result := by
  simp [equityAfter, add_assoc]

@[simp] theorem peakAfter_nil : peakAfter capital [] = capital := rfl

theorem peakAfter_concat (result : ℚ) : peakAfter capital (results ++ [result]) =
    max (peakAfter capital results) (equityAfter capital (results ++ [result])) := by
  have first : ∀ (results : List ℚ) (start : ℚ × ℚ),
      (results.foldl (fun (account : ℚ × ℚ) result =>
        (account.1 + result, max account.2 (account.1 + result))) start).1 =
          start.1 + results.sum := by
    intro results
    induction results with
    | nil => simp
    | cons result results ih =>
      intro start
      rw [List.foldl_cons, ih, List.sum_cons]
      ring
  unfold peakAfter
  rw [List.foldl_append, List.foldl_cons, List.foldl_nil, first, equityAfter_concat]
  simp only [equityAfter]

/-- The peak is the greatest equity of a prefix. -/
theorem peakAfter_isBest (capital : ℚ) (results : List ℚ) :
    IsBest (equityAfter capital) results (peakAfter capital results) := by
  induction results using List.reverseRecOn with
  | nil =>
    have best := isBest_nil (equityAfter capital)
    rwa [equityAfter_nil] at best
  | append_singleton results result ih =>
    rw [peakAfter_concat]
    exact ih.push result

theorem capital_le_peakAfter : capital ≤ peakAfter capital results := by
  have upper := (peakAfter_isBest capital results).2 ⟨[], List.nil_prefix, rfl⟩
  rwa [equityAfter_nil] at upper

@[simp] theorem drawdownAfter_nil : drawdownAfter capital [] = 0 := by
  simp [drawdownAfter]

/-- What is kept of an account agrees with its results. -/
structure Accounted (capital : ℚ) (results : List ℚ) (equity peak dd : ℚ) : Prop where
  balanced : equity = equityAfter capital results
  highest : peak = peakAfter capital results
  worst : IsBest (drawdownAfter capital) results dd

theorem accounted_nil (capital : ℚ) : Accounted capital [] capital capital 0 where
  balanced := equityAfter_nil.symm
  highest := rfl
  worst := by
    have best := isBest_nil (drawdownAfter capital)
    rwa [drawdownAfter_nil] at best

namespace Accounted

variable {equity peak dd : ℚ} (accounted : Accounted capital results equity peak dd)
include accounted

theorem balanced_concat (result : ℚ) :
    equity + result = equityAfter capital (results ++ [result]) := by
  rw [equityAfter_concat, ← accounted.balanced]

/-- A result is booked, and the peak and the drawdown are kept up. -/
theorem book (result : ℚ) : Accounted capital (results ++ [result]) (equity + result)
    (max peak (equity + result))
    (max dd ((max peak (equity + result) - (equity + result)) / max peak (equity + result) * 100))
    where
  balanced := accounted.balanced_concat result
  highest := by
    rw [peakAfter_concat, ← accounted.highest, accounted.balanced_concat]
  worst := by
    have highest : max peak (equity + result) = peakAfter capital (results ++ [result]) := by
      rw [peakAfter_concat, ← accounted.highest, accounted.balanced_concat]
    rw [highest, accounted.balanced_concat]
    exact accounted.worst.push result

/-- A result that sets neither a peak nor a drawdown is booked alone. -/
theorem book_covered {result : ℚ} (below : equity + result ≤ peak)
    (shallow : (peak - (equity + result)) / peak * 100 ≤ dd) :
    Accounted capital (results ++ [result]) (equity + result) peak dd := by
  have highest : peakAfter capital (results ++ [result]) = peak := by
    rw [peakAfter_concat, ← accounted.balanced_concat, ← accounted.highest, max_eq_left below]
  refine ⟨accounted.balanced_concat result, highest.symm, accounted.worst.keep ?_⟩
  rwa [drawdownAfter, highest, ← accounted.balanced_concat]

theorem peak_ne_zero (positive : 0 < capital) : peak ≠ 0 := by
  rw [accounted.highest]
  exact (positive.trans_le capital_le_peakAfter).ne'

end Accounted

/-! ## Falls -/

def fallAfter (capital : ℚ) (results : List ℚ) : ℚ :=
  peakAfter capital results - equityAfter capital results

def fractionOf (peak fall : ℚ) : Option ℚ :=
  if 0 < fall ∧ 0 < peak then some (fall / peak) else none

/-- A drawdown is the largest fall, and its fraction is of the peak that such a fall came from. -/
structure Drawdown (capital : ℚ) (results : List ℚ) (fall : ℚ) (fraction : Option ℚ) : Prop where
  largest : IsBest (fallAfter capital) results fall
  fraction : ∃ part, part <+: results ∧ fallAfter capital part = fall ∧
    fraction = fractionOf (peakAfter capital part) fall

variable {fall : ℚ} {part : List ℚ}

theorem fractionOf_eq_none {peak : ℚ} (nowhere : fall ≤ 0 ∨ peak ≤ 0) :
    fractionOf peak fall = none := by
  refine if_neg fun ⟨falls, rises⟩ => ?_
  rcases nowhere with least | least
  · exact least.not_gt falls
  · exact least.not_gt rises

theorem fractionOf_of_pos {peak : ℚ} (falls : 0 < fall) (rises : 0 < peak) :
    fractionOf peak fall = some (fall / peak) := if_pos ⟨falls, rises⟩

theorem peakAfter_mono (initial : part <+: results) :
    peakAfter capital part ≤ peakAfter capital results := by
  obtain ⟨⟨top, inside, attained⟩, -⟩ := peakAfter_isBest capital part
  rw [← attained]
  exact (peakAfter_isBest capital results).2 ⟨top, inside.trans initial, rfl⟩

theorem equityAfter_le_peakAfter : equityAfter capital results ≤ peakAfter capital results :=
  (peakAfter_isBest capital results).2 ⟨results, List.prefix_rfl, rfl⟩

theorem fallAfter_nonneg : 0 ≤ fallAfter capital results :=
  sub_nonneg.mpr equityAfter_le_peakAfter

@[simp] theorem fallAfter_nil : fallAfter capital [] = 0 := by
  simp [fallAfter]

/-- Once a fall and the fall from the last peak are of one fraction, the fall came from that peak,
or no peak was positive. -/
theorem peakAfter_eq_of_fractionOf (falls : 0 < fall)
    (same : fractionOf (peakAfter capital results) fall =
      fractionOf (peakAfter capital part) fall) :
    peakAfter capital results = peakAfter capital part ∨ peakAfter capital results ≤ 0 := by
  rcases le_or_gt (peakAfter capital results) 0 with low | high
  · exact .inr low
  rw [fractionOf_of_pos falls high] at same
  rcases le_or_gt (peakAfter capital part) 0 with low' | high'
  · rw [fractionOf_eq_none (.inr low')] at same
    cases same
  · rw [fractionOf_of_pos falls high', Option.some.injEq,
      div_eq_div_iff high.ne' high'.ne'] at same
    exact .inl (mul_left_cancel₀ falls.ne' same).symm

/-- A drawdown whose fraction is of the last peak: some largest fall came from the highest equity,
unless no equity was positive. -/
theorem drawdown_iff_of_last_peak (largest : IsBest (fallAfter capital) results fall) :
    Drawdown capital results fall (fractionOf (peakAfter capital results) fall) ↔
      ∃ part, part <+: results ∧ IsBest (fallAfter capital) results (fallAfter capital part) ∧
        (peakAfter capital results = peakAfter capital part ∨ peakAfter capital results ≤ 0) := by
  constructor
  · rintro ⟨-, part, initial, isFall, same⟩
    rcases fallAfter_nonneg.trans_eq isFall |>.eq_or_lt with flat | falls
    · have level : fallAfter capital results = fall :=
        le_antisymm (largest.2 ⟨results, List.prefix_rfl, rfl⟩) (flat ▸ fallAfter_nonneg)
      exact ⟨results, List.prefix_rfl, level ▸ largest, .inl rfl⟩
    · exact ⟨part, initial, isFall ▸ largest, peakAfter_eq_of_fractionOf falls same⟩
  · rintro ⟨part, initial, best, last⟩
    have isFall := best.unique largest
    refine ⟨largest, part, initial, isFall, ?_⟩
    rcases last with same | low
    · rw [same]
    · rw [fractionOf_eq_none (.inr low),
        fractionOf_eq_none (.inr ((peakAfter_mono initial).trans low))]

/-! ## Falls from no lower than zero -/

def floorFall (capital : ℚ) (results : List ℚ) : ℚ :=
  max 0 (peakAfter capital results) - equityAfter capital results

/-- What is kept of an account whose peak starts at zero: the fraction is the one of the first of
the largest falls. -/
structure Floored (capital : ℚ) (results : List ℚ) (peak fall : ℚ) (fraction : Option ℚ) :
    Prop where
  highest : peak = max 0 (peakAfter capital results)
  largest : IsBest (floorFall capital) results fall
  first : ∃ part, part <+: results ∧ floorFall capital part = fall ∧
    fraction = fractionOf (max 0 (peakAfter capital part)) fall ∧
    ∀ other, other <+: part → other ≠ part → floorFall capital other < fall

theorem fallAfter_le_floorFall : fallAfter capital results ≤ floorFall capital results :=
  sub_le_sub_right (le_max_right _ _) _

theorem floorFall_nonneg : 0 ≤ floorFall capital results :=
  fallAfter_nonneg.trans fallAfter_le_floorFall

theorem floorFall_of_nonneg (peak : 0 ≤ peakAfter capital results) :
    floorFall capital results = fallAfter capital results := by
  rw [floorFall, max_eq_right peak, fallAfter]

theorem floorFall_of_neg (peak : peakAfter capital results < 0) :
    floorFall capital results = -equityAfter capital results := by
  rw [floorFall, max_eq_left peak.le, zero_sub]

theorem floored_nil (capital : ℚ) : Floored capital [] (max 0 capital) (max 0 capital - capital)
    none where
  highest := by rw [peakAfter_nil]
  largest := by
    have best := isBest_nil (floorFall capital)
    rwa [floorFall, peakAfter_nil, equityAfter_nil] at best
  first := by
    refine ⟨[], List.prefix_rfl, by simp [floorFall], ?_, fun other within differ => ?_⟩
    · rw [peakAfter_nil, fractionOf_eq_none]
      rcases le_total 0 capital with nonneg | negative
      · exact .inl (by rw [max_eq_right nonneg, sub_self])
      · exact .inr (max_eq_left negative).le
    · exact absurd (List.prefix_nil.mp within) differ

namespace Floored

variable {peak fall : ℚ} {fraction : Option ℚ}
  (floored : Floored capital results peak fall fraction)
include floored

theorem highest_concat (result : ℚ) :
    max peak (equityAfter capital (results ++ [result])) =
      max 0 (peakAfter capital (results ++ [result])) := by
  rw [floored.highest, peakAfter_concat, max_assoc]

theorem fall_nonneg : 0 ≤ fall := by
  obtain ⟨part, -, isFall, -⟩ := floored.first
  exact floorFall_nonneg.trans_eq isFall

variable {result : ℚ}

/-- A deeper fall is the first one of its depth. -/
theorem deepen (deeper : fall < floorFall capital (results ++ [result])) :
    Floored capital (results ++ [result])
      (max peak (equityAfter capital (results ++ [result])))
      (floorFall capital (results ++ [result]))
      (if 0 < max peak (equityAfter capital (results ++ [result])) then
        some (floorFall capital (results ++ [result]) /
          max peak (equityAfter capital (results ++ [result])))
      else fraction) where
  highest := floored.highest_concat result
  largest := by
    have pushed := floored.largest.push result
    rwa [max_eq_right deeper.le] at pushed
  first := by
    refine ⟨_, List.prefix_rfl, rfl, ?_, fun other within differ => ?_⟩
    · rw [floored.highest_concat]
      split
      · rename_i rises
        rw [fractionOf_of_pos (floored.fall_nonneg.trans_lt deeper) rises]
      · rename_i low
        have low := not_lt.mp low
        obtain ⟨part, initial, -, isFraction, -⟩ := floored.first
        have below : max 0 (peakAfter capital part) ≤ 0 :=
          (max_le_max_left 0 (peakAfter_mono (initial.trans (List.prefix_append _ _)))).trans low
        rw [fractionOf_eq_none (.inr low), isFraction, fractionOf_eq_none (.inr below)]
    · have before : other <+: results := (List.prefix_concat_iff.mp within).resolve_left differ
      exact (floored.largest.2 ⟨other, before, rfl⟩).trans_lt deeper

/-- A fall that is no deeper leaves what is kept. -/
theorem hold (shallow : floorFall capital (results ++ [result]) ≤ fall) :
    Floored capital (results ++ [result])
      (max peak (equityAfter capital (results ++ [result]))) fall fraction where
  highest := floored.highest_concat result
  largest := floored.largest.keep shallow
  first := by
    obtain ⟨part, initial, isFall, isFraction, earlier⟩ := floored.first
    exact ⟨part, initial.trans (List.prefix_append _ _), isFall, isFraction, earlier⟩

/-- What is kept is the drawdown if the equity was not as far below zero before it first reached it
as its largest fall is deep, or as far and a largest fall came from zero. -/
theorem drawdown_iff : Drawdown capital results fall fraction ↔
    ∃ deepest, IsBest (fallAfter capital) results deepest ∧
      ((∀ part, part <+: results → peakAfter capital part < 0 →
          -equityAfter capital part < deepest) ∨
        (∀ part, part <+: results → peakAfter capital part < 0 →
          -equityAfter capital part ≤ deepest) ∧
        ∃ part, part <+: results ∧ fallAfter capital part = deepest ∧
          peakAfter capital part = 0) := by
  obtain ⟨part, initial, isFall, isFraction, earlier⟩ := floored.first
  constructor
  · rintro ⟨largest, source, begins, isFall', same⟩
    have within (other : List ℚ) (inside : other <+: results)
        (low : peakAfter capital other < 0) : -equityAfter capital other ≤ fall := by
      rw [← floorFall_of_neg low]
      exact floored.largest.2 ⟨other, inside, rfl⟩
    refine ⟨fall, largest, ?_⟩
    by_cases strict : ∀ other, other <+: results → peakAfter capital other < 0 →
        -equityAfter capital other < fall
    · exact .inl strict
    -- a fall from below zero is as deep, so the first one has no fraction
    push Not at strict
    obtain ⟨other, inside, low, deep⟩ := strict
    have deepest : floorFall capital other = fall := by
      rw [floorFall_of_neg low]
      exact le_antisymm (within other inside low) deep
    have before : part <+: other := by
      rcases List.prefix_or_prefix_of_prefix initial inside with first | later
      · exact first
      · by_contra behind
        have differ : other ≠ part := by
          rintro rfl
          exact behind later
        exact absurd deepest (earlier other later differ).ne
    have lowFirst : peakAfter capital part < 0 := (peakAfter_mono before).trans_lt low
    have falls : 0 < fall := by
      have equity : equityAfter capital other < 0 := equityAfter_le_peakAfter.trans_lt low
      have bounded := within other inside low
      linarith
    refine .inr ⟨within, source, begins, isFall', le_antisymm ?_ ?_⟩
    · rw [isFraction, max_eq_left lowFirst.le, fractionOf_eq_none (.inr le_rfl)] at same
      by_contra high
      rw [fractionOf_of_pos falls (not_le.mp high)] at same
      cases same
    · by_contra low'
      have low' := not_le.mp low'
      have bounded := within source begins low'
      rw [fallAfter] at isFall'
      linarith
  · rintro ⟨deepest, largest, within⟩
    have weak : ∀ other, other <+: results → peakAfter capital other < 0 →
        -equityAfter capital other ≤ deepest := by
      rcases within with strict | ⟨weak, -⟩
      · exact fun other inside low => (strict other inside low).le
      · exact weak
    have same : fall = deepest := by
      refine le_antisymm ?_ ?_
      · rw [← isFall]
        rcases lt_or_ge (peakAfter capital part) 0 with low | high
        · rw [floorFall_of_neg low]
          exact weak part initial low
        · rw [floorFall_of_nonneg high]
          exact largest.2 ⟨part, initial, rfl⟩
      · obtain ⟨⟨source, begins, attained⟩, -⟩ := largest
        rw [← attained]
        exact fallAfter_le_floorFall.trans (floored.largest.2 ⟨source, begins, rfl⟩)
    subst same
    refine ⟨largest, ?_⟩
    rcases lt_or_ge (peakAfter capital part) 0 with low | high
    · rcases within with strict | ⟨-, source, begins, isFall', zero⟩
      · have deep := strict part initial low
        rw [← floorFall_of_neg low, isFall] at deep
        exact absurd deep (lt_irrefl _)
      · refine ⟨source, begins, isFall', ?_⟩
        rw [isFraction, zero, max_eq_left low.le]
    · refine ⟨part, initial, (floorFall_of_nonneg high).symm.trans isFall, ?_⟩
      rw [isFraction, max_eq_right high]

end Floored

end AlphaTrade.Library
