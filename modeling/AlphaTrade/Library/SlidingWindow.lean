import Mathlib.Algebra.Order.BigOperators.Group.List
import Mathlib.Algebra.Order.Group.Defs
import Mathlib.Algebra.Order.Ring.Nat

/-!
# Sliding windows

A log of weighted events whose times do not go back. A limit holds on every window of a length
when it holds on the window that ends at each event, and these are checked as the events are
written. What is too old for every later check may be forgotten.

## Main definitions

* `load`: the weight of the events behind an instant.
* `Bounded`: a limit on every window of a length.
* `Kept`: a list that has what the log has behind a cutoff.
-/
namespace AlphaTrade.Library

section Loads

variable {α T : Type} [LinearOrder T] (time : α → T) (weight : α → Nat)

def loadBetween (log : List α) (start stop : T) : Nat :=
  ((log.filter fun a => start < time a ∧ time a ≤ stop).map weight).sum

def load (log : List α) (start : T) : Nat := ((log.filter fun a => start < time a).map weight).sum

def Kept (log kept : List α) (cutoff : T) : Prop :=
  ∀ start, cutoff ≤ start →
    kept.filter (fun a => start < time a) = log.filter fun a => start < time a

variable {time weight} {log kept fewer : List α} {a : α} {cutoff start stop : T}

/-- The weight of events of one is their number. -/
theorem load_one : load time (fun _ => 1) log start = (log.filter (start < time ·)).length := by
  simp [load]

theorem loadBetween_one : loadBetween time (fun _ => 1) log start stop =
    (log.filter fun a => start < time a ∧ time a ≤ stop).length := by
  simp [loadBetween]

theorem loadBetween_le_load (le : cutoff ≤ start) :
    loadBetween time weight log start stop ≤ load time weight log cutoff := by
  refine ((List.monotone_filter_right log fun a inside => ?_).map weight).sum_le_sum ?_
  · simp only [decide_eq_true_eq] at inside ⊢
    exact le.trans_lt inside.1
  · exact fun _ _ => Nat.zero_le _

theorem loadBetween_sublist (sub : fewer.Sublist log) :
    loadBetween time weight fewer start stop ≤ loadBetween time weight log start stop :=
  ((sub.filter _).map weight).sum_le_sum fun _ _ => Nat.zero_le _

/-! ## What is kept -/

theorem kept_nil : Kept time ([] : List α) [] cutoff := fun _ _ => rfl

theorem Kept.mono (keeps : Kept time log kept cutoff) (le : cutoff ≤ start) :
    Kept time log kept start := fun _ after => keeps _ (le.trans after)

/-- Events up to the cutoff may be forgotten. -/
theorem Kept.prune (keeps : Kept time log kept cutoff) (le : cutoff ≤ start) :
    Kept time log (kept.filter fun a => start < time a) start := by
  intro other after
  rw [← keeps other (le.trans after), List.filter_filter]
  refine List.filter_congr fun a _ => ?_
  rw [← Bool.decide_and]
  exact decide_eq_decide.mpr ⟨fun both => both.1, fun above => ⟨above, after.trans_lt above⟩⟩

/-- Where the times do not go back, what is too old comes first. -/
theorem dropWhile_eq_filter (sorted : kept.Pairwise fun a b => time a ≤ time b) :
    kept.dropWhile (fun a => time a ≤ cutoff) = kept.filter fun a => cutoff < time a := by
  induction kept with
  | nil => rfl
  | cons a rest ih =>
    obtain ⟨first, sorted⟩ := List.pairwise_cons.mp sorted
    by_cases old : time a ≤ cutoff
    · rw [List.dropWhile_cons_of_pos (by simpa using old),
        List.filter_cons_of_neg (by simpa using old), ih sorted]
    · rw [List.dropWhile_cons_of_neg (by simpa using old), eq_comm, List.filter_eq_self]
      intro b mem
      rcases List.mem_cons.mp mem with rfl | mem
      · simpa using old
      · exact decide_eq_true ((not_le.mp old).trans_le (first b mem))

theorem Kept.push (keeps : Kept time log kept cutoff) :
    Kept time (log ++ [a]) (kept ++ [a]) cutoff := by
  intro other after
  rw [List.filter_append, List.filter_append, keeps other after]

/-- What is kept tells the load of the log. -/
theorem Kept.load_eq (keeps : Kept time log kept cutoff) :
    load time weight log cutoff = load time weight kept cutoff := by
  unfold load
  rw [keeps cutoff le_rfl]

end Loads

/-! ## Windows of a length -/

section Bounds

variable {α T : Type} [AddCommGroup T] [LinearOrder T]

def Bounded (time : α → T) (weight : α → Nat) (log : List α) (window : T) (limit : Nat) : Prop :=
  ∀ t, loadBetween time weight log (t - window) t ≤ limit

variable {time : α → T} {weight : α → Nat} {log fewer : List α} {a : α} {window : T} {limit : Nat}

theorem bounded_nil : Bounded time weight [] window limit := fun _ => Nat.zero_le _

/-- Fewer events are within the limits of more. -/
theorem Bounded.sublist (bounded : Bounded time weight log window limit)
    (sub : fewer.Sublist log) : Bounded time weight fewer window limit :=
  fun t => (loadBetween_sublist sub).trans (bounded t)

/-- An event that still fits the window behind it keeps every window within the limit. -/
theorem Bounded.push [IsOrderedAddMonoid T] (bounded : Bounded time weight log window limit)
    (fits : load time weight log (time a - window) + weight a ≤ limit) :
    Bounded time weight (log ++ [a]) window limit := by
  intro t
  have before := bounded t
  unfold loadBetween at before ⊢
  rw [List.filter_append, List.map_append, List.sum_append]
  by_cases late : time a ≤ t
  · have loaded : loadBetween time weight log (t - window) t ≤
        load time weight log (time a - window) :=
      loadBetween_le_load (sub_le_sub_right late window)
    unfold loadBetween at loaded
    have own : (([a].filter fun b => t - window < time b ∧ time b ≤ t).map weight).sum ≤
        weight a := by
      by_cases inside : t - window < time a <;> simp [inside, late]
    omega
  · simpa [late] using before

end Bounds

end AlphaTrade.Library
