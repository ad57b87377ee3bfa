import Mathlib.Data.List.Forall2
import Mathlib.Tactic.TypeStar

/-!
# Fallible steps

Operations that may refuse are written in `Except`. A successful run of a sequence
is taken apart by `bind_eq_ok`, a refused one by `bind_eq_error`, and `ensure` is a guard with the
error it raises.
-/
namespace AlphaTrade.Library

/-- Raise `refusal` unless `p` holds. -/
def ensure {ε : Type*} (p : Prop) [Decidable p] (refusal : ε) : Except ε Unit :=
  if p then .ok () else .error refusal

variable {p : Prop}

@[simp] theorem ensure_eq_ok {ε : Type*} [Decidable p] {refusal : ε} {u : Unit} :
    ensure p refusal = .ok u ↔ p := by
  by_cases h : p <;> simp [ensure, h]

@[simp] theorem ensure_eq_error {ε : Type*} [Decidable p] {refusal e : ε} :
    ensure p refusal = .error e ↔ ¬p ∧ refusal = e := by
  by_cases h : p <;> simp [ensure, h]

theorem ensure_of {ε : Type*} [Decidable p] {refusal : ε} (h : p) :
    ensure p refusal = .ok () := if_pos h

theorem ensure_of_not {ε : Type*} [Decidable p] {refusal : ε} (h : ¬p) :
    ensure p refusal = .error refusal := if_neg h

theorem ok_bind {ε α β : Type} (a : α) (rest : α → Except ε β) :
    (Except.ok a >>= rest) = rest a := rfl

theorem error_bind {ε α β : Type} (e : ε) (rest : α → Except ε β) :
    (Except.error e >>= rest) = .error e := rfl

/-- A sequence succeeds when its first part does and the rest does from there. -/
@[simp] theorem bind_eq_ok {ε α β : Type} {first : Except ε α} {rest : α → Except ε β} {b : β} :
    (first >>= rest) = .ok b ↔ ∃ a, first = .ok a ∧ rest a = .ok b := by
  match first with
  | .ok a => simp [bind, Except.bind]
  | .error _ => simp [bind, Except.bind]

/-- A sequence is refused by its first part, or by the rest from there. -/
theorem bind_eq_error {ε α β : Type} {first : Except ε α} {rest : α → Except ε β} {e : ε} :
    (first >>= rest) = .error e ↔ first = .error e ∨ ∃ a, first = .ok a ∧ rest a = .error e := by
  match first with
  | .ok a => simp [bind, Except.bind]
  | .error _ => simp [bind, Except.bind]

theorem toOption_eq_some {α ε : Type} {x : Except ε α} {a : α} :
    x.toOption = some a ↔ x = .ok a := by
  cases x <;> simp [Except.toOption]

theorem map_eq_ok {α β ε : Type} {f : α → β} {x : Except ε α} {b : β} :
    x.map f = .ok b ↔ ∃ a, x = .ok a ∧ f a = b := by
  cases x <;> simp [Except.map]

theorem map_eq_error {α β ε : Type} {f : α → β} {x : Except ε α} {e : ε} :
    x.map f = .error e ↔ x = .error e := by
  cases x <;> simp [Except.map]

/-- A loop of checks passes when each of them does. -/
theorem forM_eq_ok {α ε : Type} {f : α → Except ε Unit} {as : List α} :
    as.forM f = .ok ⟨⟩ ↔ ∀ a ∈ as, f a = .ok ⟨⟩ := by
  induction as with
  | nil => simp [List.forM, pure, Except.pure]
  | cons a as ih =>
    change (f a >>= fun _ => as.forM f) = .ok ⟨⟩ ↔ _
    refine bind_eq_ok.trans ?_
    rw [List.forall_mem_cons, ← ih]
    exact ⟨fun ⟨_, first, rest⟩ => ⟨first, rest⟩, fun ⟨first, rest⟩ => ⟨⟨⟩, first, rest⟩⟩

/-- Where every result of a step has a property, so has every result of a pass. -/
theorem mapM_forall {α β ε : Type} {f : α → Except ε β} {P : β → Prop}
    (step : ∀ a b, f a = .ok b → P b) {as : List α} {bs : List β} (h : as.mapM f = .ok bs) :
    ∀ b ∈ bs, P b := by
  induction as generalizing bs with
  | nil =>
    obtain rfl := Except.ok.inj h
    simp
  | cons a as ih =>
    rw [List.mapM_cons] at h
    obtain ⟨b, first, h⟩ := bind_eq_ok.mp h
    obtain ⟨rest, others, h⟩ := bind_eq_ok.mp h
    obtain rfl := Except.ok.inj h
    exact List.forall_mem_cons.mpr ⟨step a b first, ih others⟩

/-- Nothing fails when no part does. -/
theorem mapM_eq_ok {α β ε : Type} {f : α → Except ε β} {g : α → β} {xs : List α}
    (h : ∀ x ∈ xs, f x = .ok (g x)) : xs.mapM f = .ok (xs.map g) := by
  induction xs with
  | nil => rfl
  | cons x xs ih =>
    rw [List.mapM_cons, h x (by simp), ih fun y mem => h y (by simp [mem])]
    rfl

/-- A pass that succeeds has the results of its steps. -/
theorem map_of_mapM {α β ε : Type} {f : α → Except ε β} {as : List α} {bs : List β}
    (h : as.mapM f = .ok bs) : as.map f = bs.map .ok := by
  induction as generalizing bs with
  | nil =>
    obtain rfl := Except.ok.inj h
    rfl
  | cons a as ih =>
    rw [List.mapM_cons] at h
    obtain ⟨b, first, h⟩ := bind_eq_ok.mp h
    obtain ⟨rest, others, h⟩ := bind_eq_ok.mp h
    obtain rfl := Except.ok.inj h
    simp [first, ih others]

/-- What is told alike of a step and of its result is told alike of the two lists of a pass. -/
theorem map_eq_map_of_mapM {α β γ ε : Type} {f : α → Except ε β} {g : β → γ} {k : α → γ}
    (step : ∀ a b, f a = .ok b → g b = k a) {as : List α} {bs : List β} (h : as.mapM f = .ok bs) :
    bs.map g = as.map k := by
  induction as generalizing bs with
  | nil =>
    obtain rfl := Except.ok.inj h
    rfl
  | cons a as ih =>
    rw [List.mapM_cons] at h
    obtain ⟨b, first, h⟩ := bind_eq_ok.mp h
    obtain ⟨rest, others, h⟩ := bind_eq_ok.mp h
    obtain rfl := Except.ok.inj h
    simp [step a b first, ih others]

/-- Where a step's result tells what it was of, the results of a pass tell it too. -/
theorem map_eq_of_mapM {α β ε : Type} {f : α → Except ε β} {g : β → α}
    (step : ∀ a b, f a = .ok b → g b = a) {as : List α} {bs : List β} (h : as.mapM f = .ok bs) :
    bs.map g = as := (map_eq_map_of_mapM step h).trans (List.map_id as)

/-- The results of a pass are those of its parts. -/
theorem mem_of_mapM {α β ε : Type} {f : α → Except ε β} {as : List α} {bs : List β}
    (h : as.mapM f = .ok bs) (b : β) : b ∈ bs ↔ ∃ a ∈ as, f a = .ok b := by
  have results := congrArg (Except.ok b ∈ ·) (map_of_mapM h)
  simp only [List.mem_map, Except.ok.injEq, exists_eq_right, eq_iff_iff] at results
  exact results.symm

/-- What holds of each part and its result holds of the two lists of a pass. -/
theorem forall₂_of_mapM {α β ε : Type} {f : α → Except ε β} {R : α → β → Prop}
    (step : ∀ a b, f a = .ok b → R a b) {as : List α} {bs : List β} (h : as.mapM f = .ok bs) :
    List.Forall₂ R as bs := by
  induction as generalizing bs with
  | nil =>
    obtain rfl := Except.ok.inj h
    exact .nil
  | cons a as ih =>
    rw [List.mapM_cons] at h
    obtain ⟨b, first, h⟩ := bind_eq_ok.mp h
    obtain ⟨rest, others, h⟩ := bind_eq_ok.mp h
    obtain rfl := Except.ok.inj h
    exact .cons (step a b first) (ih others)

/-- A fold that succeeds is followed by every fold that each of its steps is followed by. -/
theorem foldlM_simulates {α σ τ ε : Type} {f : σ → α → Except ε σ} {g : τ → α → Except ε τ}
    {R : σ → τ → Prop} {as : List α}
    (step : ∀ a ∈ as, ∀ s t t', R s t → g t a = .ok t' → ∃ s', f s a = .ok s' ∧ R s' t')
    {s : σ} {t t' : τ} (related : R s t) (h : as.foldlM g t = .ok t') :
    ∃ s', as.foldlM f s = .ok s' ∧ R s' t' := by
  induction as generalizing s t with
  | nil =>
    obtain rfl := Except.ok.inj h
    exact ⟨s, rfl, related⟩
  | cons a as ih =>
    rw [List.foldlM_cons] at h
    obtain ⟨next, first, rest⟩ := bind_eq_ok.mp h
    obtain ⟨s', followed, related'⟩ := step a (List.mem_cons_self ..) s t next related first
    obtain ⟨last, reached, ends⟩ :=
      ih (fun b listed => step b (List.mem_cons_of_mem a listed)) related' rest
    exact ⟨last, by rw [List.foldlM_cons, followed]; exact reached, ends⟩

end AlphaTrade.Library
