import Mathlib.Data.List.Sort
import AlphaTrade.Library.Table

/-!
# Sorting by a key

Python's `sorted(items, key=...)`. A sorted list is known by its set of keys once no key occurs
twice, however the list that was sorted had been put together.
-/
namespace AlphaTrade.Library

variable {α β : Type} [LinearOrder β]

/-- `sorted(items, key=key)`, which keeps items of one key in their order. -/
def sortedOn (key : α → β) (items : List α) : List α :=
  items.insertionSort fun a b => key a ≤ key b

variable {items : List α} {key : α → β}

@[simp] theorem mem_sortedOn (key : α → β) {a : α} :
    a ∈ sortedOn key items ↔ a ∈ items := List.mem_insertionSort _

theorem sortedOn_perm (key : α → β) (items : List α) : (sortedOn key items).Perm items :=
  List.perm_insertionSort _ items

theorem sortedOn_sorted (key : α → β) (items : List α) :
    ((sortedOn key items).map key).Pairwise (· ≤ ·) := by
  have : Std.Total fun a b : α => key a ≤ key b := ⟨fun a b => le_total (key a) (key b)⟩
  have : IsTrans α fun a b => key a ≤ key b := ⟨fun _ _ _ => le_trans⟩
  exact List.pairwise_map.mpr (List.pairwise_insertionSort _ items)

/-- The first of the sorted items has the least key. -/
theorem le_of_head_sortedOn {first other : α} (head : (sortedOn key items).head? = some first)
    (mem : other ∈ items) : key first ≤ key other := by
  obtain ⟨rest, split⟩ := List.head?_eq_some_iff.mp head
  have sorted := sortedOn_sorted key items
  rw [split, List.map_cons, List.pairwise_cons] at sorted
  have listed := (mem_sortedOn key).mpr mem
  rw [split] at listed
  rcases List.mem_cons.mp listed with rfl | later
  · exact le_rfl
  · exact sorted.1 _ (List.mem_map_of_mem later)

theorem sortedLT_sortedOn (distinct : (items.map key).Nodup) :
    ((sortedOn key items).map key).SortedLT := by
  have still : ((sortedOn key items).map key).Nodup :=
    ((sortedOn_perm key items).map key).nodup_iff.mpr distinct
  refine List.Pairwise.sortedLT ?_
  exact (sortedOn_sorted key items).imp₂ (fun _ _ le ne => lt_of_le_of_ne le ne) still

/-- Two lists with the same distinct keys have one list of sorted keys. -/
theorem map_sortedOn_congr {others : List α} (distinct : (items.map key).Nodup)
    (distinct' : (others.map key).Nodup) (same : ∀ k, k ∈ items.map key ↔ k ∈ others.map key) :
    (sortedOn key items).map key = (sortedOn key others).map key := by
  refine (sortedLT_sortedOn distinct).eq_of_mem_iff (sortedLT_sortedOn distinct') fun k => ?_
  simpa using same k

/-- Items that are told apart by their keys are sorted alike in whatever order they come. -/
theorem sortedOn_eq_of_perm {others : List α} (perm : items.Perm others)
    (distinct : (items.map key).Nodup) : sortedOn key items = sortedOn key others := by
  have same := (sortedOn_perm key items).trans (perm.trans (sortedOn_perm key others).symm)
  refine same.eq_of_pairwise ?_ (List.pairwise_map.mp (sortedOn_sorted key items))
    (List.pairwise_map.mp (sortedOn_sorted key others))
  intro a b listed listed' le ge
  have other := perm.mem_iff.mpr ((mem_sortedOn key).mp listed')
  exact List.inj_on_of_nodup_map distinct ((mem_sortedOn key).mp listed) other (le_antisymm le ge)

/-- Where the key tells items apart, two lists with the same members are sorted alike. -/
theorem sortedOn_congr (injective : Function.Injective key) {others : List α}
    (distinct : items.Nodup) (distinct' : others.Nodup) (same : ∀ a, a ∈ items ↔ a ∈ others) :
    sortedOn key items = sortedOn key others := by
  refine List.map_injective_iff.mpr injective ?_
  refine map_sortedOn_congr (distinct.map injective) (distinct'.map injective) fun k => ?_
  simp only [List.mem_map, same]

theorem orderedInsert_append {a : α} {later : List α} (before : ∀ b ∈ later, key a ≤ key b) :
    (items ++ later).orderedInsert (fun a b => key a ≤ key b) a =
      items.orderedInsert (fun a b => key a ≤ key b) a ++ later := by
  induction items with
  | nil =>
    cases later with
    | nil => rfl
    | cons b later => exact List.orderedInsert_cons_of_le _ _ (before b List.mem_cons_self)
  | cons item items ih =>
    simp only [List.cons_append, List.orderedInsert_cons, ih]
    split <;> rfl

/-- Items behind all others are sorted behind them. -/
theorem sortedOn_append {later : List α} (before : ∀ a ∈ items, ∀ b ∈ later, key a ≤ key b) :
    sortedOn key (items ++ later) = sortedOn key items ++ sortedOn key later := by
  induction items with
  | nil => rfl
  | cons item items ih =>
    obtain ⟨first, before⟩ := List.forall_mem_cons.mp before
    have sorted := ih before
    unfold sortedOn at sorted ⊢
    rw [List.cons_append, List.insertionSort_cons, sorted]
    exact orderedInsert_append fun b mem => first b ((List.mem_insertionSort _).mp mem)

namespace Table

variable {κ : Type}

variable {t : Table κ α}

theorem mem_values {a : α} : a ∈ t.rows.map Prod.snd ↔ ∃ k, t.find k = some a := by
  simp [← mem_rows]

/-- Where every row is under its own key, the keys of the values are the keys. -/
theorem map_values {key : α → κ} (keyed : ∀ k a, t.find k = some a → key a = k) :
    (t.rows.map Prod.snd).map key = t.keys := by
  rw [← map_fst_rows, List.map_map]
  exact List.map_congr_left fun row mem => keyed _ _ (mem_rows.mp mem)

variable [DecidableEq κ] {key : α → κ}

/-- Rows put one after another leave the keys there were and their own. -/
theorem mem_keys_foldl_put (rows : List α) (t : Table κ α) (k : κ) :
    k ∈ (rows.foldl (fun t row => t.put (key row) row) t).keys ↔
      k ∈ t.keys ∨ k ∈ rows.map key := by
  induction rows generalizing t with
  | nil => simp
  | cons row rows ih =>
    have first : k ∈ (t.put (key row) row).keys ↔ k ∈ t.keys ∨ k = key row := by
      by_cases eq : k = key row
      · simp [mem_keys, eq]
      · simp [mem_keys, eq]
    rw [List.foldl_cons, ih, first, List.map_cons, List.mem_cons, or_assoc]

theorem keyed_foldl_put {rows : List α} {k : κ} {a : α}
    (found : (rows.foldl (fun t row => t.put (key row) row) (empty : Table κ α)).find k = some a) :
    a ∈ rows ∧ key a = k := by
  obtain before | ⟨row, mem, own, found'⟩ := @find_foldl_put κ α _ key rows empty k
  · exact absurd (before.symm.trans found) (by simp)
  · obtain rfl := Option.some.inj (found'.symm.trans found)
    exact ⟨mem, own⟩

end Table

/-! ## Buckets -/

section buckets

variable {key : α → Int} {items : List α}

theorem filter_lt_append_filter_eq (sorted : items.Pairwise fun a b => key a ≤ key b) (n : Int) :
    (items.filter fun a => key a < n) ++ (items.filter fun a => key a = n) =
      items.filter fun a => key a < n + 1 := by
  induction items with
  | nil => rfl
  | cons a items ih =>
    obtain ⟨first, sorted⟩ := List.pairwise_cons.mp sorted
    have rest := ih sorted
    rcases lt_trichotomy (key a) n with below | same | above
    · have kept : key a < n + 1 := by omega
      simp only [List.filter_cons, below, below.ne, kept, decide_true, decide_false, if_true,
        Bool.false_eq_true, if_false, List.cons_append, rest]
    · have none : (items.filter fun b => key b < n) = [] := by
        rw [List.filter_eq_nil_iff]
        intro b mem
        simpa [← same] using first b mem
      have kept : n < n + 1 := by omega
      rw [none, List.nil_append] at rest
      simp only [List.filter_cons, same, lt_irrefl, kept, none, decide_true, decide_false,
        if_true, Bool.false_eq_true, if_false, List.nil_append, rest]
    · have none : ∀ b ∈ a :: items, n < key b := by
        rw [List.forall_mem_cons]
        exact ⟨above, fun b mem => above.trans_le (first b mem)⟩
      have empty {p : α → Bool} (lower : ∀ b, n < key b → p b = false) :
          (a :: items).filter p = [] :=
        List.filter_eq_nil_iff.mpr fun b mem => by simp [lower b (none b mem)]
      rw [empty fun b above => decide_eq_false above.not_gt,
        empty fun b above => decide_eq_false above.ne',
        empty fun b above => decide_eq_false (by omega), List.nil_append]

/-- A list sorted by a key is the buckets of the keys, one after the other. -/
theorem flatMap_buckets (sorted : items.Pairwise fun a b => key a ≤ key b) {n : Nat}
    (bounded : ∀ a ∈ items, 0 ≤ key a ∧ key a < n) :
    ((List.range n).flatMap fun (i : Nat) => items.filter fun a => key a = i) = items := by
  have upTo : ∀ m : Nat, ((List.range m).flatMap fun (i : Nat) => items.filter fun a => key a = i) =
      items.filter fun a => key a < m := by
    intro m
    induction m with
    | zero =>
      refine (List.filter_eq_nil_iff.mpr fun a mem => ?_).symm
      simpa using (bounded a mem).1
    | succ m ih =>
      rw [List.range_succ, List.flatMap_append, ih, List.flatMap_singleton,
        filter_lt_append_filter_eq sorted]
      rfl
  rw [upTo n, List.filter_eq_self]
  exact fun a mem => decide_eq_true (bounded a mem).2

end buckets

end AlphaTrade.Library
