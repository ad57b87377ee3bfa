import AlphaTrade.Library.Check
import AlphaTrade.Library.Table

/-!
# Entering rows that must agree

A loop writes an item's row under the item's key, and refuses an item whose tag differs from the
tag of the row already there. Whether the loop refuses, and which keys and tags it leaves, depends
on the items as a set: neither their order nor how often one occurs matters.

## Main definitions

* `Table.enter` — one step of the loop; an item without an entry is skipped.
* `Agree` — no two items are entered under one key with different tags.
-/
namespace AlphaTrade.Library

variable {α κ β γ ε : Type}
variable (entry : α → Option (κ × β)) (tag : β → γ) (refusal : α → ε)

/-- Write the row of an item, unless a row with another tag is under its key. -/
def Table.enter [DecidableEq κ] [DecidableEq γ] (t : Table κ β) (a : α) : Except ε (Table κ β) :=
  match entry a with
  | none => .ok t
  | some (k, b) =>
    match t.find k with
    | none => .ok (t.put k b)
    | some held => if tag held = tag b then .ok (t.put k b) else .error (refusal a)

def Agree (items : List α) : Prop :=
  ∀ a ∈ items, ∀ b ∈ items, ∀ k v w, entry a = some (k, v) → entry b = some (k, w) → tag v = tag w

theorem Agree.congr {items others : List α} (same : ∀ a, a ∈ items ↔ a ∈ others) :
    Agree entry tag items ↔ Agree entry tag others := by
  simp only [Agree, same]

namespace Table

variable [DecidableEq κ] [DecidableEq γ] {entry tag refusal}

variable {t : Table κ β} {items : List α}

/-- A step skips an item without an entry, or writes the entry over a row with its tag. -/
theorem enter_cases {t' : Table κ β} {a : α} (h : t.enter entry tag refusal a = .ok t') :
    entry a = none ∧ t' = t ∨
      ∃ k b, entry a = some (k, b) ∧ (∀ held, t.find k = some held → tag held = tag b) ∧
        t' = t.put k b := by
  unfold enter at h
  split at h
  · rename_i absent
    exact .inl ⟨absent, (Except.ok.inj h).symm⟩
  · rename_i k b entered
    refine .inr ⟨k, b, entered, ?_⟩
    split at h
    · rename_i free
      exact ⟨by simp [free], (Except.ok.inj h).symm⟩
    · rename_i held found
      split at h
      · rename_i same
        exact ⟨by simp [found, same], (Except.ok.inj h).symm⟩
      · cases h

def Fits (entry : α → Option (κ × β)) (tag : β → γ) (t : Table κ β) (a : α) : Prop :=
  ∀ k v, entry a = some (k, v) → ∀ held, t.find k = some held → tag held = tag v

theorem enter_of_fits (refusal : α → ε) {a : α} (fits : t.Fits entry tag a) :
    ∃ t', t.enter entry tag refusal a = .ok t' := by
  unfold enter
  split
  · exact ⟨t, rfl⟩
  · rename_i k b entered
    split
    · exact ⟨_, rfl⟩
    · rename_i held found
      exact ⟨_, if_pos (fits k b entered held found)⟩

/-- After the loop, a row was there before it or is the entry of an item. -/
theorem find_of_enterAll {t' : Table κ β}
    (h : items.foldlM (Table.enter entry tag refusal) t = .ok t') {k : κ} {b : β}
    (found : t'.find k = some b) : t.find k = some b ∨ ∃ a ∈ items, entry a = some (k, b) := by
  induction items generalizing t with
  | nil =>
    obtain rfl := Except.ok.inj h
    exact .inl found
  | cons a items ih =>
    rw [List.foldlM_cons] at h
    obtain ⟨mid, first, rest⟩ := bind_eq_ok.mp h
    rcases ih rest with before | ⟨c, mem, entered⟩
    · obtain ⟨-, rfl⟩ | ⟨j, v, entered, -, rfl⟩ := enter_cases first
      · exact .inl before
      · by_cases eq : k = j
        · subst eq
          rw [find_put_self] at before
          exact .inr ⟨a, by simp, by rw [entered, Option.some.inj before]⟩
        · exact .inl (by simpa [eq] using before)
    · exact .inr ⟨c, by simp [mem], entered⟩

/-- The loop keeps the tags of the rows and leaves every item's tag under its key. -/
theorem tag_of_enterAll {t' : Table κ β}
    (h : items.foldlM (Table.enter entry tag refusal) t = .ok t') :
    (∀ k b, t.find k = some b → (t'.find k).map tag = some (tag b)) ∧
      ∀ a ∈ items, ∀ k b, entry a = some (k, b) → (t'.find k).map tag = some (tag b) := by
  induction items generalizing t with
  | nil =>
    obtain rfl := Except.ok.inj h
    simp +contextual
  | cons a items ih =>
    rw [List.foldlM_cons] at h
    obtain ⟨mid, first, rest⟩ := bind_eq_ok.mp h
    obtain ⟨kept, others⟩ := ih rest
    obtain ⟨absent, rfl⟩ | ⟨j, v, entered, same, rfl⟩ := enter_cases first
    · exact ⟨kept, List.forall_mem_cons.mpr ⟨by simp [absent], others⟩⟩
    · have own : (t'.find j).map tag = some (tag v) := kept j v (by simp)
      refine ⟨fun k b found => ?_, List.forall_mem_cons.mpr ⟨?_, others⟩⟩
      · by_cases eq : k = j
        · subst eq
          rw [own, same b found]
        · exact kept k b (by simpa [eq] using found)
      · intro k b ha
        obtain ⟨rfl, rfl⟩ : j = k ∧ v = b := by simpa [entered] using ha
        exact own

/-- Agreeing items that fit the table are all entered. -/
theorem enterAll_of_agree (agree : Agree entry tag items) (fits : ∀ a ∈ items, t.Fits entry tag a) :
    ∃ t', items.foldlM (Table.enter entry tag refusal) t = .ok t' := by
  induction items generalizing t with
  | nil => exact ⟨t, rfl⟩
  | cons a items ih =>
    obtain ⟨mid, first⟩ := enter_of_fits (refusal) (fits a (by simp))
    have later : ∀ b ∈ items, mid.Fits entry tag b := by
      intro b mem k w hw held found
      obtain ⟨-, rfl⟩ | ⟨j, v, entered, -, rfl⟩ := enter_cases first
      · exact fits b (by simp [mem]) k w hw held found
      · by_cases eq : k = j
        · subst eq
          obtain rfl : v = held := by simpa using found
          exact agree a (by simp) b (by simp [mem]) k v w entered hw
        · exact fits b (by simp [mem]) k w hw held (by simpa [eq] using found)
    obtain ⟨t', rest⟩ :=
      ih (fun b hb c hc => agree b (by simp [hb]) c (by simp [hc])) later
    refine ⟨t', ?_⟩
    rw [List.foldlM_cons]
    exact bind_eq_ok.mpr ⟨mid, first, rest⟩

/-- From an empty table the loop succeeds exactly on agreeing items. -/
theorem enterAll_iff :
    (∃ t, items.foldlM (Table.enter entry tag refusal) .empty = .ok t) ↔ Agree entry tag items := by
  constructor
  · rintro ⟨t, h⟩ a ha b hb k v w hv hw
    have tags := (tag_of_enterAll h).2
    have first := tags a ha k v hv
    rw [tags b hb k w hw] at first
    exact (Option.some.inj first).symm
  · intro agree
    exact enterAll_of_agree agree fun a _ k v _ held found => by simp at found

end Table

/-- A loop over two states that do not read one another is two loops. -/
theorem foldlM_prod {σ τ : Type} (f : σ → α → σ) (g : τ → α → Except ε τ) (items : List α)
    (s : σ) (t : τ) :
    items.foldlM (fun (s, t) a => (g t a).map fun t' => (f s a, t')) (s, t) =
      (items.foldlM g t).map fun t' => (items.foldl f s, t') := by
  induction items generalizing s t with
  | nil => rfl
  | cons a items ih =>
    rw [List.foldlM_cons, List.foldlM_cons, List.foldl_cons]
    dsimp only
    cases h : g t a with
    | error e => rfl
    | ok t' => exact ih (f s a) t'

end AlphaTrade.Library
