import Mathlib.Data.List.Nodup
import Mathlib.Data.List.Sort

/-!
# Numbered logs

A log numbers its entries `1, 2, …` as they are appended. Such a log is the only one of
its entries in the order of the numbers, so sorting any rearrangement of it gives it back.
-/
namespace AlphaTrade.Library

variable {α : Type*} (number : α → ℕ)

def Numbered (l : List α) : Prop := l.map number = List.range' 1 l.length

variable {number} {l l' : List α} {a : α}

theorem numbered_singleton (h : number a = 1) : Numbered number [a] := by
  simp [Numbered, h]

/-- Appending the next number keeps a log numbered. -/
theorem Numbered.concat (h : Numbered number l) (next : number a = l.length + 1) :
    Numbered number (l ++ [a]) := by
  have split : List.range' 1 (l.length + 1) = List.range' 1 l.length ++ [1 + l.length] := by
    simp [List.range'_concat]
  simp only [Numbered, List.map_append, List.map_cons, List.map_nil, List.length_append,
    List.length_cons, List.length_nil, Nat.zero_add]
  rw [h, split, next, Nat.add_comm 1]

theorem Numbered.pairwise_lt (h : Numbered number l) :
    l.Pairwise fun a b => number a < number b := by
  have sorted : (l.map number).Pairwise (· < ·) := by
    rw [h]
    exact List.pairwise_lt_range'
  exact List.pairwise_map.mp sorted

/-- Entries of a numbered log with one number are one entry. -/
theorem Numbered.injOn (h : Numbered number l) {b : α} (ha : a ∈ l) (hb : b ∈ l)
    (eq : number a = number b) : a = b := by
  have nodup : (l.map number).Nodup := by
    rw [h]
    exact List.nodup_range'
  exact List.inj_on_of_nodup_map nodup ha hb eq

/-- Sorting any rearrangement of a numbered log gives the log. -/
theorem Numbered.insertionSort_eq (h : Numbered number l) (perm : l'.Perm l) :
    l'.insertionSort (fun a b => number a ≤ number b) = l := by
  have total : Std.Total fun a b : α => number a ≤ number b := ⟨fun a b => Nat.le_total _ _⟩
  have trans : IsTrans α fun a b => number a ≤ number b := ⟨fun _ _ _ => Nat.le_trans⟩
  have sorted := List.pairwise_insertionSort (fun a b : α => number a ≤ number b) l'
  have perm' := (List.perm_insertionSort (fun a b : α => number a ≤ number b) l').trans perm
  refine List.Perm.eq_of_pairwise ?_ sorted (h.pairwise_lt.imp Nat.le_of_lt) perm'
  intro a b ha hb le ge
  exact h.injOn (perm'.subset ha) hb (Nat.le_antisymm le ge)

theorem Numbered.le_length (h : Numbered number l) (mem : a ∈ l) : number a ≤ l.length := by
  have listed : number a ∈ List.range' 1 l.length := h ▸ List.mem_map_of_mem mem
  have bounds := List.mem_range'_1.mp listed
  omega

/-- The last entry carries the length. -/
theorem Numbered.number_getLast (h : Numbered number l) (last : l.getLast? = some a) :
    number a = l.length := by
  have found : (l.map number).getLast? = some (number a) := by simp [List.getLast?_map, last]
  have nonempty : l ≠ [] := by
    rintro rfl
    simp at last
  have pos : 0 < l.length := List.length_pos_iff.mpr nonempty
  rw [h, List.getLast?_range', if_neg (by omega)] at found
  have value := Option.some.inj found
  omega

end AlphaTrade.Library
