import Mathlib

/-!
# Lists in the order of a key

A list whose keys do not fall is cut by a bound into a part before it and a part behind it.
Keys that rise by one at each place are numbers that nothing is missing between.
-/
namespace AlphaTrade.Library

section Ordered

variable {α β : Type*} [LinearOrder β] {key : α → β} {l : List α}

def Ordered (key : α → β) (l : List α) : Prop := l.Pairwise fun a b => key a ≤ key b

theorem Ordered.filter_lt_append (ordered : Ordered key l) (bound : β) :
    l.filter (key · < bound) ++ l.filter (bound ≤ key ·) = l := by
  induction l with
  | nil => rfl
  | cons a l ih =>
    obtain ⟨first, rest⟩ := List.pairwise_cons.mp ordered
    by_cases before : key a < bound
    · have behind : ¬bound ≤ key a := not_le.mpr before
      simpa [before, behind] using ih rest
    · have behind : bound ≤ key a := not_lt.mp before
      have later : ∀ b ∈ l, bound ≤ key b := fun b listed => behind.trans (first b listed)
      have none : l.filter (key · < bound) = [] :=
        List.filter_eq_nil_iff.mpr fun b listed => by simpa using later b listed
      have all : l.filter (bound ≤ key ·) = l :=
        List.filter_eq_self.mpr fun b listed => by simpa using later b listed
      simp [before, behind, none, all]

theorem Ordered.sublist {l' : List α} (ordered : Ordered key l) (sub : l'.Sublist l) :
    Ordered key l' := List.Pairwise.sublist sub ordered

/-- A window is a stretch of the list. -/
theorem Ordered.window_infix (ordered : Ordered key l) (low high : β) :
    l.filter (fun a => low ≤ key a ∧ key a < high) <:+: l := by
  have front := ordered.filter_lt_append low
  have back := (ordered.sublist (List.filter_sublist (p := (low ≤ key ·)))).filter_lt_append high
  have window : (l.filter (low ≤ key ·)).filter (key · < high) =
      l.filter fun a => low ≤ key a ∧ key a < high := by
    rw [List.filter_filter]
    exact List.filter_congr fun a _ => by rw [Bool.and_comm, Bool.decide_and]
  rw [window] at back
  refine ⟨l.filter (key · < low), (l.filter (low ≤ key ·)).filter (high ≤ key ·), ?_⟩
  rw [List.append_assoc, back, front]

/-- Two windows that meet are one. -/
theorem Ordered.filter_join (ordered : Ordered key l) {low mid high : β} (first : low ≤ mid)
    (second : mid ≤ high) :
    l.filter (fun a => low ≤ key a ∧ key a < mid) ++
        l.filter (fun a => mid ≤ key a ∧ key a < high) =
      l.filter (fun a => low ≤ key a ∧ key a < high) := by
  have cut := (ordered.sublist (List.filter_sublist (p := fun a => low ≤ key a ∧ key a < high)))
    |>.filter_lt_append mid
  rw [List.filter_filter, List.filter_filter] at cut
  rw [← cut]
  congr 1
  · refine List.filter_congr fun a _ => ?_
    rw [← Bool.decide_and, decide_eq_decide]
    exact ⟨fun h => ⟨h.2, h.1, h.2.trans_le second⟩, fun h => ⟨h.2.1, h.1⟩⟩
  · refine List.filter_congr fun a _ => ?_
    rw [← Bool.decide_and, decide_eq_decide]
    exact ⟨fun h => ⟨h.1, first.trans h.1, h.2⟩, fun h => ⟨h.1, h.2.2⟩⟩

end Ordered

section Consecutive

variable {α : Type*} {key : α → Int} {l : List α}

def Consecutive (key : α → Int) (l : List α) : Prop :=
  l.IsChain fun a b => key b = key a + 1

theorem Consecutive.rising (consecutive : Consecutive key l) :
    l.Pairwise fun a b => key a < key b := by
  have : IsTrans α fun a b => key a < key b := ⟨fun _ _ _ => lt_trans⟩
  exact List.isChain_iff_pairwise.mp (List.IsChain.imp (fun _ _ next => by omega) consecutive)

theorem Consecutive.ordered (consecutive : Consecutive key l) : Ordered key l :=
  consecutive.rising.imp le_of_lt

/-- No key is above the last. -/
theorem Consecutive.le_last (consecutive : Consecutive key l) {a : α} (last : l.getLast? = some a) :
    ∀ b ∈ l, key b ≤ key a := by
  obtain ⟨before, rfl⟩ := List.getLast?_eq_some_iff.mp last
  intro b listed
  rcases List.mem_append.mp listed with earlier | same
  · exact le_of_lt ((List.pairwise_append.mp consecutive.rising).2.2 b earlier a
      (List.mem_singleton_self a))
  · rw [List.mem_singleton.mp same]

/-- The next key goes on where the last one is. -/
theorem Consecutive.concat (consecutive : Consecutive key l) {a : α}
    (next : ∀ last ∈ l.getLast?, key a = key last + 1) : Consecutive key (l ++ [a]) :=
  List.isChain_append.mpr ⟨consecutive, .singleton a, fun last ends b first => by
    obtain rfl := Option.some.inj first
    exact next last ends⟩

end Consecutive

end AlphaTrade.Library
