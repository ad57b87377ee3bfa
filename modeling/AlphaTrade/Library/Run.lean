import Mathlib.Data.List.Basic

/-!
# Runs of a deterministic labelled system

A system is a step function from a state and a label to a state. Whatever can
fail is inside the step: a refused operation is a step that changes nothing.
Interleavings are label lists, so a claim about every order of operations is a
claim about every list.

`Along` attaches a side condition to each step of a run, evaluated at the state
the step is taken from. `run_invariant` is the only induction over runs; safety
results supply a one-step lemma and use it by name.
-/
namespace AlphaTrade.Library

variable {State Label : Type*} (step : State → Label → State)

def run (s : State) (ls : List Label) : State := ls.foldl step s

@[simp] theorem run_nil (s : State) : run step s [] = s := rfl

@[simp] theorem run_cons (s : State) (l : Label) (ls : List Label) :
    run step s (l :: ls) = run step (step s l) ls := rfl

theorem run_append (s : State) (ls ms : List Label) :
    run step s (ls ++ ms) = run step (run step s ls) ms := by
  simp [run, List.foldl_append]

/-- Every step of the run satisfies `P` at the state it is taken from. -/
def Along (P : State → Label → Prop) : State → List Label → Prop
  | _, [] => True
  | s, l :: ls => P s l ∧ Along P (step s l) ls

instance decidableAlong {P : State → Label → Prop} [∀ s l, Decidable (P s l)] :
    ∀ s ls, Decidable (Along step P s ls)
  | _, [] => .isTrue trivial
  | s, l :: ls => @instDecidableAnd _ _ _ (decidableAlong (step s l) ls)

variable {P : State → Label → Prop} {ls : List Label} {s : State} {I : State → Prop}

theorem along_of_forall (h : ∀ s l, P s l) (s : State) (ls : List Label) : Along step P s ls := by
  induction ls generalizing s with
  | nil => trivial
  | cons l ls ih => exact ⟨h s l, ih (step s l)⟩

/-- A side condition on the labels alone. -/
theorem along_of_mem {Q : Label → Prop} (s : State) (h : ∀ l ∈ ls, Q l) :
    Along step (fun _ l => Q l) s ls := by
  induction ls generalizing s with
  | nil => trivial
  | cons l ls ih =>
    exact ⟨h l (List.mem_cons_self ..), ih (step s l) fun m hm => h m (List.mem_cons_of_mem l hm)⟩

theorem Along.and {Q : State → Label → Prop} (hp : Along step P s ls) (hq : Along step Q s ls) :
    Along step (fun s l => P s l ∧ Q s l) s ls := by
  induction ls generalizing s with
  | nil => trivial
  | cons l ls ih => exact ⟨⟨hp.1, hq.1⟩, ih hp.2 hq.2⟩

theorem Along.mono {Q : State → Label → Prop} (h : ∀ s l, P s l → Q s l) (hs : Along step P s ls) :
    Along step Q s ls := by
  induction ls generalizing s with
  | nil => trivial
  | cons l ls ih => exact ⟨h s l hs.1, ih hs.2⟩

/-- A run meets a side condition when its first part does, and the rest does from there. -/
theorem along_append {ms : List Label} :
    Along step P s (ls ++ ms) ↔ Along step P s ls ∧ Along step P (run step s ls) ms := by
  induction ls generalizing s with
  | nil => simp [Along]
  | cons l ls ih => simp [Along, ih, and_assoc]

/-- An invariant kept by every step that meets the side condition holds at the
end of every run whose steps all meet it. -/
theorem run_invariant (keep : ∀ s l, I s → P s l → I (step s l)) (hs : I s)
    (side : Along step P s ls) : I (run step s ls) := by
  induction ls generalizing s with
  | nil => exact hs
  | cons l ls ih => exact ih (keep s l hs side.1) side.2

/-- The unconditional form. -/
theorem run_invariant_of_step (keep : ∀ s l, I s → I (step s l)) (ls : List Label) (hs : I s) :
    I (run step s ls) :=
  run_invariant step (fun s l h _ => keep s l h) hs
    (along_of_forall step (fun _ _ => trivial) s ls)

/-- What an invariant implies of a step holds of every step of a run that keeps the invariant. -/
theorem Along.of_invariant {Q : State → Label → Prop} (keep : ∀ s l, I s → P s l → I (step s l))
    (implies : ∀ s l, I s → P s l → Q s l) (hs : I s) (side : Along step P s ls) :
    Along step Q s ls := by
  induction ls generalizing s with
  | nil => trivial
  | cons l ls ih => exact ⟨implies s l hs side.1, ih (keep s l hs side.1) side.2⟩

/-- What holds at the end of a run and not at its start came to hold at one of its steps. -/
theorem exists_turn {P : State → Prop} (starts : ¬P s) (ends : P (run step s ls)) :
    ∃ before l after, ls = before ++ l :: after ∧ ¬P (run step s before) ∧
      P (step (run step s before) l) := by
  induction ls generalizing s with
  | nil => exact absurd ends starts
  | cons l ls ih =>
    by_cases next : P (step s l)
    · exact ⟨[], l, ls, rfl, starts, next⟩
    · obtain ⟨before, turn, after, rfl, fails, holds⟩ := ih next ends
      exact ⟨l :: before, turn, after, rfl, fails, holds⟩

/-! ## Systems that answer -/

section Answers

variable {State' Output : Type*} (serve : State → Label → Output × State)
  (serve' : State' → Label → Output × State')

def answers : State → List Label → List Output
  | _, [] => []
  | s, l :: ls => (serve s l).1 :: answers (serve s l).2 ls

variable {serve serve'}

/-- Two systems that answer alike from related states, and stay related, answer alike along
every run whose steps meet the side condition. -/
theorem answers_eq {R : State → State' → Prop} {P : State → Label → Prop}
    (alike : ∀ s t l, R s t → P s l →
      (serve' t l).1 = (serve s l).1 ∧ R (serve s l).2 (serve' t l).2)
    {s : State} {t : State'} {ls : List Label} (related : R s t)
    (side : Along (fun s l => (serve s l).2) P s ls) :
    answers serve' t ls = answers serve s ls ∧
      R (run (fun s l => (serve s l).2) s ls) (run (fun t l => (serve' t l).2) t ls) := by
  induction ls generalizing s t with
  | nil => exact ⟨rfl, related⟩
  | cons l ls ih =>
    obtain ⟨answer, next⟩ := alike s t l related side.1
    obtain ⟨rest, last⟩ := ih next side.2
    exact ⟨by simp only [answers, answer, rest], last⟩

end Answers

end AlphaTrade.Library
