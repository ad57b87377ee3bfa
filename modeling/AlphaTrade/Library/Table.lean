import Mathlib.Data.List.Induction
import Mathlib.Data.List.Nodup
import Mathlib.Data.List.Perm.Subperm
import Mathlib.Logic.Function.Basic

/-!
# Finite keyed tables

A table is a lookup function together with the list of its keys in insertion
order. The two always agree, so enumeration and lookup can be used side by side:
reads go through `find`, and sums and sweeps go through `keys`.
-/
namespace AlphaTrade.Library

/-- Rows under distinct keys, in the order in which the keys were first written. -/
structure Table (κ α : Type*) where
  keys : List κ
  find : κ → Option α
  nodup : keys.Nodup
  mem_keys : ∀ k, k ∈ keys ↔ (find k).isSome

namespace Table

variable {κ α : Type*}

def empty : Table κ α where
  keys := []
  find _ := none
  nodup := List.nodup_nil
  mem_keys := by simp

@[simp] theorem find_empty (k : κ) : (empty : Table κ α).find k = none := rfl

variable {k : κ} {a : α} {t : Table κ α} {selects : α → Bool}

theorem mem_keys_of_find (t : Table κ α) (h : t.find k = some a) :
    k ∈ t.keys := (t.mem_keys k).mpr (by simp [h])

theorem exists_find_of_mem (t : Table κ α) (h : k ∈ t.keys) :
    ∃ a, t.find k = some a := Option.isSome_iff_exists.mp ((t.mem_keys k).mp h)

def first (t : Table κ α) (selects : α → Bool) : Option α :=
  t.keys.findSome? fun k => (t.find k).filter selects

theorem find_of_first (h : t.first selects = some a) : ∃ k, t.find k = some a ∧ selects a := by
  obtain ⟨k, -, hk⟩ := List.exists_of_findSome?_eq_some h
  exact ⟨k, Option.filter_eq_some_iff.mp hk⟩

theorem not_of_first_eq_none (h : t.first selects = none) (found : t.find k = some a) :
    ¬selects a := by
  have skipped := List.findSome?_eq_none_iff.mp h k (t.mem_keys_of_find found)
  simpa [found] using skipped

def map (t : Table κ α) (f : α → α) : Table κ α where
  keys := t.keys
  find k := (t.find k).map f
  nodup := t.nodup
  mem_keys k := by simp [t.mem_keys]

@[simp] theorem find_map (t : Table κ α) (f : α → α) (k : κ) :
    (t.map f).find k = (t.find k).map f := rfl

def restrict (t : Table κ α) (kept : κ → Bool) : Table κ α where
  keys := t.keys.filter kept
  find k := if kept k then t.find k else none
  nodup := t.nodup.filter _
  mem_keys k := by
    rw [List.mem_filter, t.mem_keys]
    cases kept k <;> simp

theorem find_restrict (t : Table κ α) (kept : κ → Bool) (k : κ) :
    (t.restrict kept).find k = if kept k then t.find k else none := rfl

theorem find_of_restrict {kept : κ → Bool} (found : (t.restrict kept).find k = some a) :
    t.find k = some a := by
  rw [find_restrict] at found
  split_ifs at found
  exact found

def rows (t : Table κ α) : List (κ × α) := t.keys.filterMap fun k => (t.find k).map (k, ·)

theorem mem_rows : (k, a) ∈ t.rows ↔ t.find k = some a := by
  constructor
  · intro h
    obtain ⟨j, -, hj⟩ := List.mem_filterMap.mp h
    obtain ⟨b, found, same⟩ := Option.map_eq_some_iff.mp hj
    obtain ⟨rfl, rfl⟩ := Prod.mk.inj same
    exact found
  · intro h
    exact List.mem_filterMap.mpr ⟨k, t.mem_keys_of_find h, by simp [h]⟩

/-- The keys of the rows are the keys. -/
theorem map_fst_rows (t : Table κ α) : t.rows.map Prod.fst = t.keys := by
  unfold rows
  rw [List.map_filterMap]
  have known : ∀ k ∈ t.keys, ((t.find k).map (k, ·)).map Prod.fst = some k := by
    intro k listed
    obtain ⟨a, found⟩ := t.exists_find_of_mem listed
    rw [found]
    rfl
  rw [List.filterMap_congr known, List.filterMap_some]

theorem nodup_rows (t : Table κ α) : (t.rows.map Prod.fst).Nodup :=
  t.map_fst_rows ▸ t.nodup

variable [DecidableEq κ]

/-- Write a row: replace it when the key exists, else append it. -/
def put (t : Table κ α) (k : κ) (a : α) : Table κ α where
  keys := if (t.find k).isSome then t.keys else t.keys ++ [k]
  find := Function.update t.find k (some a)
  nodup := by
    split
    · exact t.nodup
    · rename_i h
      have hk : k ∉ t.keys := fun hk => h ((t.mem_keys k).mp hk)
      exact t.nodup.append (List.nodup_singleton k) (by simpa using hk)
  mem_keys j := by
    by_cases hj : j = k
    · subst hj
      split <;> rename_i h
      · simpa using (t.mem_keys j).mpr h
      · simp
    · split <;> simp [t.mem_keys, hj]

@[simp] theorem find_put_self (t : Table κ α) (k : κ) (a : α) :
    (t.put k a).find k = some a := by simp [put]

@[simp] theorem find_put_of_ne (t : Table κ α) {j : κ} (h : j ≠ k) (a : α) :
    (t.put k a).find j = t.find j := by simp [put, Function.update_of_ne h]

def erase (t : Table κ α) (k : κ) : Table κ α where
  keys := t.keys.filter fun j => j ≠ k
  find := Function.update t.find k none
  nodup := t.nodup.filter _
  mem_keys j := by
    by_cases hj : j = k
    · subst hj
      simp
    · simp [t.mem_keys, hj]

theorem find_of_erase {j : κ} (found : (t.erase k).find j = some a) : t.find j = some a := by
  rcases eq_or_ne j k with rfl | differ
  · cases (Function.update_self ..).symm.trans found
  · exact (Function.update_of_ne differ ..).symm.trans found

/-- A row of the written table is the one just written, or was there before. -/
theorem find_put_cases {j : κ} {b : α} (h : (t.put k a).find j = some b) :
    j = k ∧ b = a ∨ j ≠ k ∧ t.find j = some b := by
  by_cases same : j = k
  · subst same
    exact .inl ⟨rfl, by simpa [eq_comm] using h⟩
  · exact .inr ⟨same, by simpa [same] using h⟩

/-- Writing under a new key keeps every row. -/
theorem find_put_kept {j : κ} {b : α} (absent : t.find k = none) (h : t.find j = some b) (a : α) :
    (t.put k a).find j = some b := by
  have other : j ≠ k := by
    rintro rfl
    simp [absent] at h
  rw [find_put_of_ne t other, h]

/-- Rows put one after another: a key keeps its row, or has one of the new. -/
theorem find_foldl_put {key : α → κ} (rows : List α) (t : Table κ α) (k : κ) :
    (rows.foldl (fun t row => t.put (key row) row) t).find k = t.find k ∨
      ∃ row ∈ rows, key row = k ∧
        (rows.foldl (fun t row => t.put (key row) row) t).find k = some row := by
  induction rows generalizing t with
  | nil => exact .inl rfl
  | cons row rows ih =>
    obtain kept | ⟨later, member, own, found⟩ := ih (t.put (key row) row)
    · by_cases own : k = key row
      · subst own
        exact .inr ⟨row, List.mem_cons_self .., rfl, kept.trans (find_put_self ..)⟩
      · exact .inl (kept.trans (find_put_of_ne t own row))
    · exact .inr ⟨later, List.mem_cons_of_mem row member, own, found⟩

/-- A row under a new key comes last. -/
theorem rows_put_new (absent : t.find k = none) (a : α) :
    (t.put k a).rows = t.rows ++ [(k, a)] := by
  have unlisted : ∀ j ∈ t.keys, j ≠ k := by
    rintro j listed rfl
    simpa [absent] using (t.mem_keys j).mp listed
  have before : ∀ j ∈ t.keys, ((t.put k a).find j).map (j, ·) = (t.find j).map (j, ·) := by
    intro j listed
    rw [find_put_of_ne t (unlisted j listed)]
  have keys : (t.put k a).keys = t.keys ++ [k] := by simp [put, absent]
  unfold rows
  rw [keys, List.filterMap_append, List.filterMap_congr before]
  simp

/-- Writing back what was read changes nothing. -/
theorem put_self (h : t.find k = some a) : t.put k a = t := by
  obtain ⟨keys, find, nodup, mem_keys⟩ := t
  have same : Function.update find k (some a) = find := by
    rw [← h]
    exact Function.update_eq_self k find
  simp_all [put]

/-- Only the last of two writes under one key counts. -/
@[simp] theorem put_put (t : Table κ α) (k : κ) (a b : α) : (t.put k a).put k b = t.put k b := by
  simp [put]

theorem keys_put_of_find (t : Table κ α) {b : α} (h : t.find k = some a) :
    (t.put k b).keys = t.keys := by simp [put, h]

/-- Moving a row to the end makes the table no longer. -/
theorem length_moved_le {b : α} (found : t.find k = some a) :
    ((t.erase k).put k b).keys.length ≤ t.keys.length := by
  have absent : ((t.erase k).find k).isSome = false := by
    simp [erase]
  have listed := t.mem_keys_of_find found
  simp only [put, absent, Bool.false_eq_true, if_false]
  simp only [erase, List.length_append, List.length_singleton]
  exact List.length_filter_lt_length_iff_exists.mpr ⟨k, listed, by simp⟩

/-- The latest so many rows are so many at most. -/
theorem length_latest_le (t : Table κ α) (n : Nat) :
    (t.restrict fun k => k ∈ t.keys.drop (t.keys.length - n)).keys.length ≤ n := by
  set latest := t.keys.drop (t.keys.length - n) with isLatest
  have among : (t.restrict fun k => k ∈ latest).keys ⊆ latest := by
    intro k listed
    exact of_decide_eq_true (List.mem_filter.mp listed).2
  have short : latest.length ≤ n := by
    rw [isLatest, List.length_drop]
    omega
  exact Nat.le_trans ((t.restrict fun k => k ∈ latest).nodup.subperm among).length_le short

/-! ## Grouping -/

section Group

variable {β : Type*} (key : β → κ) (start : β → α) (next : α → β → α)

/-- The table that keeps, under each key, what the items of the key fold to: the first one
starts a row, and the others are added to it. -/
def group (items : List β) : Table κ α :=
  items.foldl (fun t b => t.put (key b) (((t.find (key b)).map (next · b)).getD (start b))) empty

def folded : List β → Option α
  | [] => none
  | b :: rest => some (rest.foldl next (start b))

theorem folded_append (items : List β) (b : β) : folded start next (items ++ [b]) =
    some (((folded start next items).map (next · b)).getD (start b)) := by
  cases items with
  | nil => rfl
  | cons first rest => simp [folded, List.foldl_append]

theorem group_append (items : List β) (b : β) : group key start next (items ++ [b]) =
    (group key start next items).put (key b)
      ((((group key start next items).find (key b)).map (next · b)).getD (start b)) := by
  rw [group, List.foldl_append]
  rfl

theorem find_group (items : List β) (k : κ) :
    (group key start next items).find k = folded start next (items.filter (key · = k)) := by
  induction items using List.reverseRecOn with
  | nil => rfl
  | append_singleton items b ih =>
    rw [group_append, List.filter_append]
    by_cases own : key b = k
    · subst own
      rw [find_put_self, ih]
      simp [folded_append]
    · rw [find_put_of_ne _ (Ne.symm own), ih]
      simp [own]

end Group

end Table

end AlphaTrade.Library
