import Mathlib.Tactic.TypeStar

/-!
# Transactions that may raise

A transaction reads and writes a state, and returns or raises. What it has written before it
raises is kept, unless the transaction is rolled back. `Ends` says what holds at its end, and
there is one rule for each way to build a transaction.
-/
namespace AlphaTrade.Library

def Tx (σ ε α : Type) : Type := σ → Except ε α × σ

namespace Tx

variable {σ ε α β : Type}

instance : Monad (Tx σ ε) where
  pure value state := (.ok value, state)
  bind first rest state :=
    match first state with
    | (.ok value, next) => rest value next
    | (.error refusal, next) => (.error refusal, next)

theorem bind_eq (first : Tx σ ε α) (rest : α → Tx σ ε β) (state : σ) :
    (first >>= rest) state = match first state with
      | (.ok value, next) => rest value next
      | (.error refusal, next) => (.error refusal, next) := rfl

def raise (refusal : ε) : Tx σ ε α := fun state => (.error refusal, state)

def read (view : σ → α) : Tx σ ε α := fun state => (.ok (view state), state)

def write (change : σ → σ) : Tx σ ε Unit := fun state => (.ok (), change state)

/-- Go on where `p` holds, and run the refusal where it does not. -/
def require (p : Prop) [Decidable p] (refuse : Tx σ ε Unit) : Tx σ ε Unit :=
  if p then pure () else refuse

def restoring (restore : σ → σ → σ) (body : Tx σ ε α) : Tx σ ε α := fun state =>
  match body state with
  | (.ok value, last) => (.ok value, last)
  | (.error refusal, last) => (.error refusal, restore state last)

/-! ## What holds at the end -/

def Ends (body : Tx σ ε α) (state : σ) (post : Except ε α → σ → Prop) : Prop :=
  post (body state).1 (body state).2

variable {state : σ} {post : Except ε α → σ → Prop}

variable {rest : β → Tx σ ε α} {first : Tx σ ε β} {body : Tx σ ε α}

theorem ends_read {view : σ → β} (goesOn : Ends (rest (view state)) state post) :
    Ends (read view >>= rest) state post := goesOn

/-- A sequence, from what holds at the end of its first part. -/
theorem ends_bind {middle : Except ε β → σ → Prop} (ends : Ends first state middle)
    (raises : ∀ refusal next, middle (.error refusal) next → post (.error refusal) next)
    (goesOn : ∀ value next, middle (.ok value) next → Ends (rest value) next post) :
    Ends (first >>= rest) state post := by
  unfold Ends at ends ⊢
  rw [bind_eq]
  generalize first state = outcome at ends ⊢
  match outcome, ends with
  | (.error refusal, next), ends => exact raises refusal next ends
  | (.ok value, next), ends => exact goesOn value next ends

/-- A sequence whose first part is known. -/
theorem ends_bind_of_eq {value : β} {next : σ} (known : first state = (.ok value, next))
    (goesOn : Ends (rest value) next post) : Ends (first >>= rest) state post := by
  unfold Ends at goesOn ⊢
  rw [bind_eq, known]
  exact goesOn

theorem ends_require {p : Prop} [Decidable p] {refuse : Tx σ ε Unit} {rest : Unit → Tx σ ε α}
    (refuses : ¬p → Ends (refuse >>= rest) state post)
    (goesOn : p → Ends (rest ()) state post) :
    Ends (require p refuse >>= rest) state post := by
  unfold require
  split
  · rename_i holds
    exact goesOn holds
  · rename_i fails
    exact refuses fails

theorem ends_ite {p : Prop} [Decidable p] {first second : Tx σ ε α}
    (holds : p → Ends first state post) (fails : ¬p → Ends second state post) :
    Ends (if p then first else second) state post := by
  split
  · rename_i h
    exact holds h
  · rename_i h
    exact fails h

/-- What holds of the state before a refusal is restored has to hold of the restored state. -/
theorem ends_restoring {restore : σ → σ → σ}
    (ends : Ends body state fun answer last => match answer with
      | .ok value => post (.ok value) last
      | .error refusal => post (.error refusal) (restore state last)) :
    Ends (restoring restore body) state post := by
  unfold Ends at ends
  unfold Ends restoring
  generalize body state = outcome at ends ⊢
  match outcome, ends with
  | (.error _, _), ends => exact ends
  | (.ok _, _), ends => exact ends

theorem Ends.weaken {promise : Except ε α → σ → Prop} (ends : Ends body state promise)
    (implies : ∀ answer last, promise answer last → post answer last) : Ends body state post :=
  implies _ _ ends

end Tx

end AlphaTrade.Library
