/-!
# Repeated items

Pages that overlap give items again which have already come. A fold that has settled an item once
and stays settled does not see it again.
-/
namespace AlphaTrade.Library

variable {α β κ σ : Type}

/-- `again` is `items`, in which items that have come before may come any number of times more. -/
inductive Repeats : (before items again : List α) → Prop where
  | nil (before : List α) : Repeats before [] []
  | next {before items again : List α} (a : α) (rest : Repeats (a :: before) items again) :
    Repeats before (a :: items) (a :: again)
  | repeated {before items again : List α} {a : α} (mem : a ∈ before)
    (rest : Repeats before items again) : Repeats before items (a :: again)

/-- Copies of items that have come may follow at the end. -/
theorem Repeats.of_append {before items more : List α}
    (known : ∀ a ∈ more, a ∈ before ∨ a ∈ items) : Repeats before items (items ++ more) := by
  induction items generalizing before with
  | nil =>
    induction more with
    | nil => exact .nil before
    | cons a more ih =>
      have mem : a ∈ before := (known a List.mem_cons_self).resolve_right List.not_mem_nil
      exact .repeated mem (ih fun b listed => known b (List.mem_cons_of_mem a listed))
  | cons a items ih =>
    refine .next a (ih fun b listed => ?_)
    rcases known b listed with old | new
    · exact .inl (List.mem_cons_of_mem a old)
    · rcases List.mem_cons.mp new with rfl | new
      · exact .inl List.mem_cons_self
      · exact .inr new

/-- A fold that has an item settled after it, and leaves settled what is, ends alike. -/
theorem Repeats.foldl_eq {f : σ → α → σ} (settles : ∀ s a, f (f s a) a = f s a)
    (stays : ∀ s a b, f s a = s → f (f s b) a = f s b) {before items again : List α}
    (repeats : Repeats before items again) {s : σ} (settled : ∀ a ∈ before, f s a = s) :
    again.foldl f s = items.foldl f s := by
  induction repeats generalizing s with
  | nil => rfl
  | next a rest ih =>
    refine ih fun b mem => ?_
    rcases List.mem_cons.mp mem with rfl | old
    · exact settles s b
    · exact stays s b a (settled b old)
  | repeated mem rest ih =>
    rw [List.foldl_cons, settled _ mem]
    exact ih settled

/-! ## First finds -/

variable [DecidableEq κ] {key : β → κ} {read : α → Option β}

def addNew (key : β → κ) (read : α → Option β) (found : List β) (a : α) : List β :=
  match read a with
  | none => found
  | some b => if found.any (key · = key b) then found else found ++ [b]

variable {found : List β}

theorem addNew_eq_self {a : α} : addNew key read found a = found ↔
    ∀ b, read a = some b → ∃ old ∈ found, key old = key b := by
  unfold addNew
  cases read a with
  | none => simp
  | some b => by_cases known : found.any (key · = key b) <;> simp_all

theorem subset_addNew {a : α} {b : β} (mem : b ∈ found) : b ∈ addNew key read found a := by
  unfold addNew
  split
  · exact mem
  · split
    · exact mem
    · exact List.mem_append_left _ mem

theorem addNew_settles (found : List β) (a : α) :
    addNew key read (addNew key read found a) a = addNew key read found a := by
  refine addNew_eq_self.mpr fun b new => ?_
  unfold addNew
  simp only [new]
  split
  · rename_i known
    simpa using known
  · exact ⟨b, by simp, rfl⟩

theorem addNew_stays (found : List β) (a b : α) (settled : addNew key read found a = found) :
    addNew key read (addNew key read found b) a = addNew key read found b := by
  refine addNew_eq_self.mpr fun c new => ?_
  obtain ⟨old, mem, same⟩ := addNew_eq_self.mp settled c new
  exact ⟨old, subset_addNew mem, same⟩

/-- Repeated items find nothing new. -/
theorem Repeats.foldl_addNew {items again : List α} (repeats : Repeats [] items again)
    (found : List β) : again.foldl (addNew key read) found = items.foldl (addNew key read) found :=
  repeats.foldl_eq addNew_settles addNew_stays (by simp)

end AlphaTrade.Library
