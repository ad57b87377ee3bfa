import AlphaTrade.Library.Check

/-!
# Updates in place that may raise

Code that updates an object in place and raises in between leaves the object as far as it
got. Such code is an `EStateM` computation, and a triple says what holds of the state after it,
returned or raised.
-/
namespace AlphaTrade.Library

variable {ε σ α β : Type}

namespace Attempt

/-- `raise` unless the condition holds. -/
def require (p : Prop) [Decidable p] (refusal : ε) : EStateM ε σ Unit :=
  if p then pure () else throw refusal

def check (x : Except ε α) : EStateM ε σ α :=
  match x with
  | .ok a => pure a
  | .error e => throw e

end Attempt

open Attempt

/-- From a state with `pre`, what returns leaves a state with `post`, and what raises leaves a
state with `raised`. -/
def Triple (pre : σ → Prop) (x : EStateM ε σ α) (post : α → σ → Prop) (raised : σ → Prop) :
    Prop :=
  ∀ s, pre s → match x s with
    | .ok a t => post a t
    | .error _ t => raised t

namespace Triple

variable {pre : σ → Prop} {x : EStateM ε σ α} {f : α → EStateM ε σ β} {post : α → σ → Prop}
  {after : β → σ → Prop} {raised : σ → Prop}

theorem of_ok {s t : σ} {a : α} (triple : Triple pre x post raised) (start : pre s)
    (returns : x s = .ok a t) : post a t := by
  have := triple s start
  rwa [returns] at this

theorem of_error {s t : σ} {e : ε} (triple : Triple pre x post raised) (start : pre s)
    (raises : x s = .error e t) : raised t := by
  have := triple s start
  rwa [raises] at this

theorem returns {a : α} (holds : ∀ s, pre s → post a s) :
    Triple pre (pure a : EStateM ε σ α) post raised := fun s start => holds s start

theorem raises {e : ε} (keeps : ∀ s, pre s → raised s) :
    Triple pre (throw e : EStateM ε σ α) post raised := fun s start => keeps s start

theorem reads {g : σ → EStateM ε σ α}
    (rest : ∀ s, pre s → Triple (fun t => t = s) (g s) post raised) :
    Triple pre (get >>= g) post raised := fun s start => rest s start s rfl

variable {g : σ → σ} {refusal : ε}

theorem updates {post : PUnit → σ → Prop} (holds : ∀ s, pre s → post ⟨⟩ (g s)) :
    Triple pre (modify g : EStateM ε σ PUnit) post raised := fun s start => holds s start

theorem bind {mid : α → σ → Prop} (first : Triple pre x mid raised)
    (rest : ∀ a, Triple (mid a) (f a) after raised) : Triple pre (x >>= f) after raised := by
  intro s start
  have began := first s start
  change match EStateM.bind x f s with | .ok a t => after a t | .error _ t => raised t
  unfold EStateM.bind
  cases done : x s with
  | ok a t =>
    rw [done] at began
    exact rest a t began
  | error e t =>
    rw [done] at began
    exact began

/-- An edit that leads from one assertion to the next. -/
theorem edits {mid : σ → Prop} {rest : PUnit → EStateM ε σ β} (stays : ∀ s, pre s → mid (g s))
    (later : Triple mid (rest ⟨⟩) after raised) : Triple pre (modify g >>= rest) after raised :=
  .bind (.updates stays) fun _ => later

/-- What stands behind a requirement may use it. -/
theorem requires {p : Prop} [Decidable p] {rest : Unit → EStateM ε σ β}
    (refused : ∀ s, pre s → raised s) (holds : p → Triple pre (rest ()) after raised) :
    Triple pre (require p refusal >>= rest) after raised := by
  by_cases h : p
  · have passes : require p refusal = (pure () : EStateM ε σ Unit) := if_pos h
    rw [passes]
    exact holds h
  · have fails : require p refusal = (throw refusal : EStateM ε σ Unit) := if_neg h
    rw [fails]
    exact fun s start => refused s start

theorem requires_last {p : Prop} [Decidable p] {post : Unit → σ → Prop}
    (refused : ∀ s, pre s → raised s) (holds : ∀ s, pre s → p → post () s) :
    Triple pre (require p refusal) post raised := by
  have triple : Triple pre (require p refusal >>= pure) post raised :=
    .requires refused fun h => .returns fun s start => holds s start h
  rwa [bind_pure] at triple

/-- What stands behind a check may use that it passed. -/
theorem checks {x : Except ε α} (refused : ∀ s, pre s → raised s)
    (holds : ∀ a, x = .ok a → Triple pre (f a) after raised) :
    Triple pre (check x >>= f) after raised := by
  cases x with
  | ok a => exact holds a rfl
  | error e => exact fun s start => refused s start

theorem checks_last {x : Except ε α} (refused : ∀ s, pre s → raised s)
    (holds : ∀ s a, pre s → x = .ok a → post a s) : Triple pre (check x) post raised := by
  have triple : Triple pre (check x >>= pure) post raised :=
    .checks refused fun a passed => .returns fun s start => holds s a start passed
  rwa [bind_pure] at triple

theorem weaken {pre' : σ → Prop} (triple : Triple pre x post raised)
    (start : ∀ s, pre' s → pre s) : Triple pre' x post raised :=
  fun s holds => triple s (start s holds)

theorem strengthen {post' : α → σ → Prop} {raised' : σ → Prop} (triple : Triple pre x post raised)
    (ends : ∀ a s, post a s → post' a s) (fails : ∀ s, raised s → raised' s) :
    Triple pre x post' raised' := by
  intro s start
  have done := triple s start
  cases result : x s with
  | ok a t =>
    rw [result] at done
    exact ends a t done
  | error e t =>
    rw [result] at done
    exact fails t done

theorem maps {g : α → β} (triple : Triple pre x (fun a => after (g a)) raised) :
    Triple pre (g <$> x) after raised := by
  rw [← bind_pure_comp]
  exact triple.bind fun a => .returns fun _ => id

/-- A loop keeps what its body keeps. -/
theorem loops {γ : Type} {inv : σ → Prop} {body : γ → EStateM ε σ PUnit} {items : List γ}
    (keeps : ∀ item ∈ items, Triple inv (body item) (fun _ => inv) raised) :
    Triple inv (items.forM body) (fun _ => inv) raised := by
  induction items with
  | nil => exact returns fun _ => id
  | cons item items ih =>
    exact (keeps item (List.mem_cons_self ..)).bind fun _ =>
      ih fun other listed => keeps other (List.mem_cons_of_mem item listed)

end Triple

end AlphaTrade.Library
