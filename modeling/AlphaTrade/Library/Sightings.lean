import Mathlib.Data.List.Nodup
import Mathlib.Logic.Function.Basic

/-!
# Numbers given out at first sight

What is sighted for the first time gets the next number. A number may be forgotten, and is then
never given out again, so every number that is known is a place in the order of the sightings.
Entries with numbers in a row were sighted one right after the other.
-/
namespace AlphaTrade.Library

variable {α κ : Type*}

/-- The numbers that are known, and the next one. -/
structure Ranks (κ : Type*) where
  rank : κ → Option ℕ
  next : ℕ

namespace Ranks

section Sight

variable [DecidableEq κ]

def sight (ranks : Ranks κ) (k : κ) : Ranks κ :=
  if (ranks.rank k).isSome then ranks
  else ⟨Function.update ranks.rank k (some ranks.next), ranks.next + 1⟩

def sightAll (ranks : Ranks κ) (ks : List κ) : Ranks κ := ks.foldl sight ranks

theorem sight_known {ranks : Ranks κ} {k : κ} (known : (ranks.rank k).isSome) :
    ranks.sight k = ranks := if_pos known

theorem sight_new {ranks : Ranks κ} {k : κ} (new : ranks.rank k = none) :
    ranks.sight k = ⟨Function.update ranks.rank k (some ranks.next), ranks.next + 1⟩ :=
  if_neg (by simp [new])

/-- A number that is known stays. -/
theorem rank_sight {ranks : Ranks κ} {j k : κ} {r : ℕ} (known : ranks.rank j = some r) :
    (ranks.sight k).rank j = some r := by
  by_cases old : (ranks.rank k).isSome
  · rw [sight_known old, known]
  · have other : j ≠ k := by grind
    rw [sight_new (by simpa using old)]
    simpa [Function.update_of_ne other] using known

theorem rank_sightAll {ranks : Ranks κ} {j : κ} {r : ℕ} (known : ranks.rank j = some r)
    (ks : List κ) : (ranks.sightAll ks).rank j = some r := by
  induction ks generalizing ranks with
  | nil => exact known
  | cons k ks ih => exact ih (rank_sight known)

end Sight

def retain (ranks : Ranks κ) (retained : κ → Bool) : Ranks κ :=
  ⟨fun k => if retained k then ranks.rank k else none, ranks.next⟩

theorem rank_retain {ranks : Ranks κ} {retained : κ → Bool} {k : κ} {r : ℕ} :
    (ranks.retain retained).rank k = some r ↔ retained k ∧ ranks.rank k = some r := by
  simp [retain]

end Ranks

/-! ## The order of the sightings -/

/-- The numbers from `base` on are places in a history. -/
structure Sighted (ident : α → κ) (base : ℕ) (history : List α) (ranks : Ranks κ) : Prop where
  placed : ∀ k r, ranks.rank k = some r →
    ∃ i a, r = base + i ∧ history[i]? = some a ∧ ident a = k
  next : ranks.next = base + history.length

variable {ident : α → κ} {base : ℕ} {history l : List α} {ranks : Ranks κ}

theorem Sighted.retain (sighted : Sighted ident base history ranks) (retained : κ → Bool) :
    Sighted ident base history (ranks.retain retained) :=
  ⟨fun k r known => sighted.placed k r (Ranks.rank_retain.mp known).2, sighted.next⟩

theorem Sighted.sight [DecidableEq κ] (sighted : Sighted ident base history ranks) (a : α) :
    Sighted ident base
      (history ++ if (ranks.rank (ident a)).isSome then [] else [a]) (ranks.sight (ident a)) := by
  by_cases known : (ranks.rank (ident a)).isSome
  · rw [if_pos known, List.append_nil, Ranks.sight_known known]
    exact sighted
  · rw [if_neg known, Ranks.sight_new (by simpa using known)]
    refine ⟨fun k r given => ?_, by simp [sighted.next, Nat.add_assoc]⟩
    by_cases same : k = ident a
    · subst same
      have number : ranks.next = r := by simpa using given
      exact ⟨history.length, a, number.symm.trans sighted.next, by simp, rfl⟩
    · obtain ⟨i, b, rfl, at', own⟩ :=
        sighted.placed k r (by simpa [Function.update_of_ne same] using given)
      exact ⟨i, b, rfl, by grind, own⟩

/-- A list that is sighted adds its new entries to the history, in its order. -/
theorem Sighted.sightAll [DecidableEq κ] (sighted : Sighted ident base history ranks)
    (distinct : (l.map ident).Nodup) :
    Sighted ident base (history ++ l.filter fun a => (ranks.rank (ident a)).isNone)
      (ranks.sightAll (l.map ident)) := by
  induction l generalizing history ranks with
  | nil =>
    rw [List.filter_nil, List.append_nil]
    exact sighted
  | cons a l ih =>
    rw [List.map_cons, List.nodup_cons] at distinct
    have rest := ih (sighted.sight a) distinct.2
    have same : l.filter (fun b => ((ranks.sight (ident a)).rank (ident b)).isNone) =
        l.filter fun b => (ranks.rank (ident b)).isNone := by
      refine List.filter_congr fun b listed => ?_
      have other : ident b ≠ ident a := fun same =>
        distinct.1 (same ▸ List.mem_map_of_mem listed)
      by_cases known : (ranks.rank (ident a)).isSome
      · rw [Ranks.sight_known known]
      · rw [Ranks.sight_new (by simpa using known)]
        simp [Function.update_of_ne other]
    rw [same, List.append_assoc] at rest
    by_cases known : (ranks.rank (ident a)).isSome
    · rw [if_pos known, List.nil_append] at rest
      rw [List.filter_cons_of_neg (by simpa [Option.isSome_iff_ne_none] using known)]
      exact rest
    · rw [if_neg known] at rest
      rw [List.filter_cons_of_pos (by simpa using known)]
      exact rest

/-! ## Numbers in a row -/

/-- The numbers of the entries are the ones from `first` on. -/
def InRow (ident : α → κ) (ranks : Ranks κ) (l : List α) (first : ℕ) : Prop :=
  l.map (fun a => ranks.rank (ident a)) = (List.range' first l.length).map some

variable {first : ℕ}

theorem InRow.rank_getElem {i : ℕ} {a : α} (row : InRow ident ranks l first) (at' : l[i]? =
    some a) :
    ranks.rank (ident a) = some (first + i) := by
  have inside := (List.getElem?_eq_some_iff.mp at').1
  have both := congrArg (·[i]?) row
  simp only [List.getElem?_map, at', Option.map_some] at both
  simpa [List.getElem?_range', inside] using both

theorem InRow.drop (row : InRow ident ranks l first) (k : ℕ) :
    InRow ident ranks (l.drop k) (first + k) := by
  unfold InRow at *
  rw [List.map_drop, row, ← List.map_drop, List.drop_range', List.length_drop, Nat.mul_one]

/-- Entries with numbers in a row are a stretch of the history. -/
theorem Sighted.stretch {before after : List α} {a : α} (sighted : Sighted ident base history ranks)
    (row : InRow ident ranks (before ++ a :: after) first)
    (own : ∀ b ∈ history, ∀ c ∈ a :: after, ident b = ident c → b = c) :
    ∃ place, ranks.rank (ident a) = some (base + place) ∧
      (history.drop place).take (after.length + 1) = a :: after := by
  have ranked : ∀ j b, (a :: after)[j]? = some b →
      ranks.rank (ident b) = some (first + before.length + j) := by
    intro j b at'
    have behind := row.drop before.length
    rw [List.drop_left] at behind
    exact behind.rank_getElem at'
  have start := ranked 0 a rfl
  obtain ⟨place, -, number, -, -⟩ := sighted.placed _ _ start
  refine ⟨place, by rw [start, ← number, Nat.add_zero], ?_⟩
  apply List.ext_getElem?
  intro j
  rw [List.getElem?_take, List.getElem?_drop]
  cases at' : (a :: after)[j]? with
  | none =>
    have := List.getElem?_eq_none_iff.mp at'
    rw [if_neg (by simpa using this)]
  | some b =>
    have inside := (List.getElem?_eq_some_iff.mp at').1
    obtain ⟨i, c, same, found, ident_eq⟩ := sighted.placed _ _ (ranked j b at')
    obtain rfl : i = place + j := by omega
    rw [if_pos (by simpa using inside), found,
      own c (List.mem_of_getElem? found) b (List.mem_of_getElem? at') ident_eq]

end AlphaTrade.Library
