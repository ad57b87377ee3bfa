import AlphaTrade.Library.Program

/-!
# Programs one after another

A program that has the store to itself: before each of its requests the store may pause, and
it is cut off where the list of pauses ends. `Rules.Keeps.episode` carries the program's
obligation to the episode, whether it is cut off or not.
-/
namespace AlphaTrade.Library
namespace Program

variable {Call : Type} {Answer : Call → Type} {ε α Store Pause : Type}

def episode (serve : (request : Call) → Store → Answer request × Store)
    (pause : Store → Pause → Store) :
    Program Answer ε α → Store → List Pause → Option (Except ε α) × Store
  | .done value, store, _ => (some (.ok value), store)
  | .fail error, store, _ => (some (.error error), store)
  | .call _ _, store, [] => (none, store)
  | .call request next, store, first :: rest =>
    episode serve pause (next (serve request (pause store first)).1)
      (serve request (pause store first)).2 rest

end Program

namespace Rules
open Program

variable {Call : Type} {Answer : Call → Type} {ε α Store Pause : Type} {inv : Store → Prop}
  {rules : Rules inv} {serve : (request : Call) → Store → Answer request × Store}
  {pause : Store → Pause → Store} {advances : Store → Store → Prop}

/-- What holds of pauses and of the program's own steps holds of the whole episode, and a
program that was not cut off has kept its promise. -/
theorem Keeps.episode (pauses : ∀ s p, inv s → inv (pause s p) ∧ rules.rely s (pause s p))
    (keeps_inv : ∀ s t, inv s → rules.guarantee s t → inv t) (refl : ∀ s, advances s s)
    (trans : ∀ {s t u}, advances s t → advances t u → advances s u)
    (paused : ∀ s t, rules.rely s t → advances s t)
    (moved : ∀ s t, inv s → rules.guarantee s t → advances s t)
    {post : Except ε α → Store → Prop} {program : Program Answer ε α} {store : Store}
    (keeps : rules.Keeps serve post program store) (holds : inv store) (rest : List Pause) :
    let (result, now) := program.episode serve pause store rest
    inv now ∧ advances store now ∧ ∀ value, result = some value → post value now := by
  induction program generalizing store rest with
  | done value =>
    refine ⟨holds, refl store, fun result same => ?_⟩
    cases same
    exact keeps store (rules.refl store) holds
  | fail error =>
    refine ⟨holds, refl store, fun result same => ?_⟩
    cases same
    exact keeps store (rules.refl store) holds
  | call request next ih =>
    cases rest with
    | nil => exact ⟨holds, refl store, fun result same => nomatch same⟩
    | cons first rest =>
      obtain ⟨holds', rely⟩ := pauses store first holds
      obtain ⟨within, after⟩ := keeps (pause store first) rely holds'
      obtain ⟨last, advanced, promised⟩ := ih _ after (keeps_inv _ _ holds' within) rest
      exact ⟨last, trans (paused _ _ rely) (trans (moved _ _ holds' within) advanced), promised⟩

end Rules

end AlphaTrade.Library
