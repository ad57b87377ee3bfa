import AlphaTrade.Library.Program

/-!
# What a program asks for

`Asks` is an obligation of the program text alone: every request it can make, whatever it
was answered before, is proper, and every result it can end with is as promised. Where
proper requests keep an invariant of the store, every run of such programs side by side
keeps it, and their results are as promised.
-/
namespace AlphaTrade.Library
namespace Program

variable {Call : Type} {Answer : Call → Type} {ε α β : Type} {proper : Call → Prop}

def Asks (proper : Call → Prop) (post : Except ε α → Prop) : Program Answer ε α → Prop
  | .done value => post (.ok value)
  | .fail error => post (.error error)
  | .call request next => proper request ∧ ∀ answer, Asks proper post (next answer)

def Returns (post : α → Prop) : Except ε α → Prop
  | .ok value => post value
  | .error _ => True

variable {post : β → Prop} {first : Program Answer ε α} {rest : α → Program Answer ε β}

theorem Asks.bind {middle : α → Prop} (asks : Asks proper (Returns middle) first)
    (goesOn : ∀ value, middle value → Asks proper (Returns post) (rest value)) :
    Asks proper (Returns post) (first >>= rest) := by
  induction first with
  | done value => exact goesOn value asks
  | fail error => trivial
  | call request next ih => exact ⟨asks.1, fun answer => ih answer (asks.2 answer)⟩

/-- A first part whose result does not matter. -/
theorem Asks.andThen (asks : Asks proper (Returns fun _ => True) first)
    (goesOn : ∀ value, Asks proper (Returns post) (rest value)) :
    Asks proper (Returns post) (first >>= rest) := asks.bind fun value _ => goesOn value

theorem asks_require {p : Prop} [Decidable p] {error : ε} {rest : Unit → Program Answer ε β}
    (goesOn : p → Asks proper (Returns post) (rest ())) :
    Asks proper (Returns post) (require p error >>= rest) := by
  by_cases h : p
  · have first : (require p error : Program Answer ε Unit) = .done () := if_pos h
    rw [first]
    exact goesOn h
  · have first : (require p error : Program Answer ε Unit) = .fail error := if_neg h
    rw [first]
    trivial

theorem asks_demand {γ : Type} {value : Option γ} {error : ε} {rest : γ → Program Answer ε β}
    (goesOn : ∀ found, value = some found → Asks proper (Returns post) (rest found)) :
    Asks proper (Returns post) (demand value error >>= rest) := by
  cases value with
  | none => trivial
  | some found => exact goesOn found rfl

theorem asks_ite {p : Prop} [Decidable p] {post : Except ε α → Prop} {second : Program Answer ε α}
    (holds : p → Asks proper post first) (fails : ¬p → Asks proper post second) :
    Asks proper post (if p then first else second) := by
  by_cases h : p
  · rw [if_pos h]
    exact holds h
  · rw [if_neg h]
    exact fails h

end Program

/-! ## Programs side by side -/

namespace Rules
open Program

variable {Call : Type} {Answer : Call → Type} {ε α Store : Type}

def ofProper (inv : Store → Prop) (serve : (request : Call) → Store → Answer request × Store)
    (proper : Call → Prop) : Rules inv where
  rely _ _ := True
  guarantee store now := ∃ request, proper request ∧ now = (serve request store).2
  refl _ := trivial
  trans _ _ := trivial

theorem keeps_of_asks {inv : Store → Prop}
    {serve : (request : Call) → Store → Answer request × Store} {proper : Call → Prop}
    {post : Except ε α → Prop} {program : Program Answer ε α} (asks : Asks proper post program)
    (store : Store) :
    (ofProper inv serve proper).Keeps serve (fun result _ => post result) program store := by
  induction program generalizing store with
  | done value => exact fun _ _ _ => asks
  | fail error => exact fun _ _ _ => asks
  | call request next ih =>
    exact fun now _ _ => ⟨⟨request, asks.1, rfl⟩, ih _ (asks.2 _) _⟩

end Rules

namespace Machine
open Program

variable {Call : Type} {Answer : Call → Type} {Job Store ε α : Type}
  {machine : Machine Answer Job Store ε α}

/-- Programs that make proper requests, which keep an invariant. -/
def Discipline.ofAsks (inv : Store → Prop) (proper : Call → Prop)
    (result : Job → Except ε α → Prop)
    (symm : ∀ job other, machine.together job other = machine.together other job)
    (asks : ∀ job, Asks proper (result job) (machine.program job))
    (keeps : ∀ request store, inv store → proper request → inv (machine.serve request store).2) :
    machine.Discipline where
  inv := inv
  rules _ := .ofProper inv machine.serve proper
  result := result
  symm := symm
  keeps job store _ := Rules.keeps_of_asks (asks job) store
  keeps_inv := by
    rintro job store _ holds ⟨request, isProper, rfl⟩
    exact keeps request store holds isProper
  respects _ _ _ _ _ _ _ := trivial

end Machine

end AlphaTrade.Library
