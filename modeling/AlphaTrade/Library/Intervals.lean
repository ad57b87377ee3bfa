import Mathlib.Data.List.Chain
import Mathlib.Data.List.Nodup
import Mathlib.Tactic.Linarith
import Mathlib.Tactic.Ring

/-!
# Intervals that meet

A chain of intervals of one length, each beginning where the one before it ends. The position of
an interval is read off its start, so a chain misses no interval of a longer chain between two
of its own.
-/
namespace AlphaTrade.Library

variable {α : Type*} {start stop : α → Int} {step : Int} {l l' : List α} {a b c : α}

/-- The intervals have one length, and each begins where the one before it ends. -/
structure Abutting (start stop : α → Int) (step : Int) (l : List α) : Prop where
  long : ∀ a ∈ l, stop a = start a + step
  meet : l.IsChain fun a b => start b = stop a

namespace Abutting

/-- An interval begins as many steps after another as it stands behind it. -/
theorem start_getElem (chain : Abutting start stop step l) {i : Nat} (inside : i < l.length) :
    start l[i] = start (l.get ⟨0, by omega⟩) + i * step := by
  induction i with
  | zero => simp
  | succ i ih =>
    have before : i < l.length := by omega
    have meets : start l[i + 1] = stop l[i] := List.isChain_iff_getElem.mp chain.meet i inside
    have long := chain.long l[i] (List.getElem_mem before)
    have counted := ih before
    push_cast
    linarith

theorem rising (chain : Abutting start stop step l) (positive : 0 < step) :
    l.Pairwise fun a b => start a < start b := by
  refine List.pairwise_iff_getElem.mpr fun i j first second less => ?_
  rw [chain.start_getElem first, chain.start_getElem second]
  have further : (i : Int) * step < j * step :=
    mul_lt_mul_of_pos_right (by exact_mod_cast less) positive
  linarith

/-- No two intervals of a chain begin together. -/
theorem eq_of_start (chain : Abutting start stop step l) (positive : 0 < step) (first : a ∈ l)
    (second : b ∈ l) (same : start a = start b) : a = b := by
  have distinct : (l.map start).Nodup :=
    List.pairwise_map.mpr ((chain.rising positive).imp fun less => less.ne)
  exact List.inj_on_of_nodup_map distinct first second same

/-- Between two of its intervals a chain misses no interval of a longer chain. -/
theorem mem_of_between (chain : Abutting start stop step l) (longer : Abutting start stop step l')
    (positive : 0 < step) (part : l ⊆ l') (first : a ∈ l) (last : c ∈ l) (listed : b ∈ l')
    (after : start a - step < start b) (before : start b ≤ start c) : b ∈ l := by
  obtain ⟨i, insideI, rfl⟩ := List.getElem_of_mem first
  obtain ⟨k, insideK, rfl⟩ := List.getElem_of_mem last
  obtain ⟨i', insideI', same⟩ := List.getElem_of_mem (part first)
  obtain ⟨j, insideJ, rfl⟩ := List.getElem_of_mem listed
  -- In the longer chain the interval stands `j - i'` places behind the first one.
  have apart : start l'[j] = start l[i] + (j - i' : Int) * step := by
    rw [← same, longer.start_getElem insideI', longer.start_getElem insideJ]
    ring
  have behind : (i' : Int) ≤ j := by
    by_contra ahead
    have : (j - i' : Int) * step ≤ (-1) * step :=
      mul_le_mul_of_nonneg_right (by omega) positive.le
    linarith
  have reaches : i + (j - i') ≤ k := by
    have spread := chain.start_getElem insideK
    rw [apart, chain.start_getElem insideI, spread] at before
    have : ((i : Int) + (j - i')) * step ≤ k * step := by linarith
    have := le_of_mul_le_mul_right this positive
    omega
  have inside : i + (j - i') < l.length := by omega
  have place : start l[i + (j - i')] = start l'[j] := by
    rw [apart, chain.start_getElem insideI, chain.start_getElem inside]
    push_cast [Int.ofNat_sub (show i' ≤ j by omega)]
    ring
  rw [← longer.eq_of_start positive (part (List.getElem_mem inside)) listed place]
  exact List.getElem_mem inside

end Abutting

end AlphaTrade.Library
