import Mathlib.Data.List.Pairwise
import AlphaTrade.Library.Run

/-!
# Programs over a shared store

A program asks a store one request at a time and computes in between; it ends with a
value or an error. `serve` answers a request and changes the store in one atomic step,
so between two requests of a program anything that others do may happen.

`Keeps` is the proof obligation of one program among others: every request it makes
changes the store within its guarantee, as long as the others stay within what it
relies on, and its result meets the postcondition. The rules take a program apart
along its syntax. A `Machine` runs any number of programs side by side and may drop one
at any point; `Machine.run_sound` carries the obligations of the programs to every run.
-/
namespace AlphaTrade.Library

/-- A computation that ends, fails, or asks the store and goes on with the answer. -/
inductive Program {Call : Type} (Answer : Call → Type) (ε α : Type) where
  | done (value : α)
  | fail (error : ε)
  | call (request : Call) (next : Answer request → Program Answer ε α)

namespace Program

variable {Call : Type} {Answer : Call → Type} {ε α β : Type}

def bind : Program Answer ε α → (α → Program Answer ε β) → Program Answer ε β
  | .done value, rest => rest value
  | .fail error, _ => .fail error
  | .call request next, rest => .call request fun answer => (next answer).bind rest

instance : Monad (Program Answer ε) where
  pure := .done
  bind := bind

def ask (request : Call) : Program Answer ε (Answer request) := .call request .done

def require (p : Prop) [Decidable p] (error : ε) : Program Answer ε Unit :=
  if p then .done () else .fail error

def demand {γ : Type} (value : Option γ) (error : ε) : Program Answer ε γ :=
  match value with
  | some found => .done found
  | none => .fail error

variable {Store : Type} (serve : (request : Call) → Store → Answer request × Store)

def execute : Program Answer ε α → Store → Except ε α × Store
  | .done value, store => (.ok value, store)
  | .fail error, store => (.error error, store)
  | .call request next, store =>
    (next (serve request store).1).execute (serve request store).2

end Program

/-! ## One program among others -/

/-- What one program may count on and what it promises, in stores that meet `inv`. -/
structure Rules {Store : Type} (inv : Store → Prop) where
  rely : Store → Store → Prop
  guarantee : Store → Store → Prop
  refl : ∀ s, rely s s
  trans : ∀ {s t u}, rely s t → rely t u → rely s u

namespace Rules
open Program

variable {Call : Type} {Answer : Call → Type} {ε α β Store : Type} {inv : Store → Prop}
  (rules : Rules inv) (serve : (request : Call) → Store → Answer request × Store)

/-- The program makes only steps of its guarantee and ends in its postcondition, where
the others keep the invariant and make only steps of its rely. -/
def Keeps (post : Except ε α → Store → Prop) : Program Answer ε α → Store → Prop
  | .done value, store => ∀ now, rules.rely store now → inv now → post (.ok value) now
  | .fail error, store => ∀ now, rules.rely store now → inv now → post (.error error) now
  | .call request next, store => ∀ now, rules.rely store now → inv now →
    rules.guarantee now (serve request now).2 ∧
      Keeps post (next (serve request now).1) (serve request now).2

variable {rules serve}

variable {post : Except ε α → Store → Prop} {program first : Program Answer ε α} {store : Store}
  {rest : α → Program Answer ε β} {p : Prop} {error : ε}

/-- What others do does not disturb the obligation. -/
theorem Keeps.stable {now : Store} (keeps : rules.Keeps serve post program store)
    (step : rules.rely store now) : rules.Keeps serve post program now := by
  cases program with
  | done value => exact fun later steps => keeps later (rules.trans step steps)
  | fail error => exact fun later steps => keeps later (rules.trans step steps)
  | call request next => exact fun later steps => keeps later (rules.trans step steps)

/-- The obligation may be shown in the store that the next request will meet. -/
theorem Keeps.of_later
    (keeps : ∀ now, rules.rely store now → inv now → rules.Keeps serve post program now) :
    rules.Keeps serve post program store := by
  cases program with
  | done value => exact fun now step holds => keeps now step holds now (rules.refl now) holds
  | fail error => exact fun now step holds => keeps now step holds now (rules.refl now) holds
  | call request next =>
    exact fun now step holds => keeps now step holds now (rules.refl now) holds

/-- Sequencing: the rest starts where the first part ends. -/
theorem Keeps.bind {middle : Except ε α → Store → Prop} {post : Except ε β → Store → Prop}
    (keeps : rules.Keeps serve middle first store)
    (goesOn : ∀ value now, inv now → middle (.ok value) now → rules.Keeps serve post (rest value)
      now)
    (stops : ∀ error now, inv now → middle (.error error) now → post (.error error) now) :
    rules.Keeps serve post (first >>= rest) store := by
  induction first generalizing store with
  | done value =>
    exact Keeps.of_later fun now step holds => goesOn value now holds (keeps now step holds)
  | fail error => exact fun now step holds => stops error now holds (keeps now step holds)
  | call request next ih =>
    intro now step holds
    obtain ⟨within, after⟩ := keeps now step holds
    exact ⟨within, ih _ after⟩

theorem Keeps.weaken {weaker : Except ε α → Store → Prop}
    (weaken : ∀ result now, inv now → post result now → weaker result now)
    (keeps : rules.Keeps serve post program store) : rules.Keeps serve weaker program store := by
  induction program generalizing store with
  | done value => exact fun now step holds => weaken _ now holds (keeps now step holds)
  | fail error => exact fun now step holds => weaken _ now holds (keeps now step holds)
  | call request next ih =>
    intro now step holds
    obtain ⟨within, after⟩ := keeps now step holds
    exact ⟨within, ih _ after⟩

theorem keeps_require [Decidable p] {rest : Unit → Program Answer ε β}
    {post : Except ε β → Store → Prop} (goesOn : p → rules.Keeps serve post (rest ()) store)
    (stops : ∀ now, rules.rely store now → inv now → post (.error error) now) :
    rules.Keeps serve post (require p error >>= rest) store := by
  by_cases h : p
  · have first : (require p error : Program Answer ε Unit) = .done () := if_pos h
    rw [first]
    exact goesOn h
  · have first : (require p error : Program Answer ε Unit) = .fail error := if_neg h
    rw [first]
    exact stops

theorem keeps_demand {γ : Type} {value : Option γ} {rest : γ → Program Answer ε β}
    {post : Except ε β → Store → Prop}
    (goesOn : ∀ found, value = some found → rules.Keeps serve post (rest found) store)
    (stops : ∀ now, rules.rely store now → inv now → post (.error error) now) :
    rules.Keeps serve post (demand value error >>= rest) store := by
  cases value with
  | none => exact stops
  | some found => exact goesOn found rfl

theorem keeps_ite [Decidable p] {second : Program Answer ε α}
    (holds : p → rules.Keeps serve post first store)
    (fails : ¬p → rules.Keeps serve post second store) :
    rules.Keeps serve post (if p then first else second) store := by
  by_cases h : p
  · rw [if_pos h]
    exact holds h
  · rw [if_neg h]
    exact fails h

def OnOk (post : α → Store → Prop) : Except ε α → Store → Prop
  | .ok value, store => post value store
  | .error _, _ => True

theorem Keeps.bind_ok {middle : α → Store → Prop} {post : β → Store → Prop}
    (keeps : rules.Keeps serve (OnOk middle) first store)
    (goesOn : ∀ value now, inv now → middle value now → rules.Keeps serve (OnOk post) (rest value)
      now) :
    rules.Keeps serve (OnOk post) (first >>= rest) store :=
  keeps.bind goesOn fun _ _ _ _ => trivial

theorem keeps_fail {post : α → Store → Prop} :
    rules.Keeps serve (OnOk post) (.fail error : Program Answer ε α) store :=
  fun _ _ _ => trivial

theorem keeps_require_ok [Decidable p] {rest : Unit → Program Answer ε β} {post : β → Store → Prop}
    (goesOn : p → rules.Keeps serve (OnOk post) (rest ()) store) :
    rules.Keeps serve (OnOk post) (require p error >>= rest) store :=
  keeps_require goesOn fun _ _ _ => trivial

theorem keeps_demand_ok {γ : Type} {value : Option γ} {rest : γ → Program Answer ε β}
    {post : β → Store → Prop}
    (goesOn : ∀ found, value = some found → rules.Keeps serve (OnOk post) (rest found) store) :
    rules.Keeps serve (OnOk post) (demand value error >>= rest) store :=
  keeps_demand goesOn fun _ _ _ => trivial

theorem keeps_require_end [Decidable p] {post : Unit → Store → Prop}
    (ends : p → ∀ now, rules.rely store now → inv now → post () now) :
    rules.Keeps serve (OnOk post) (require p error : Program Answer ε Unit) store := by
  by_cases h : p
  · have first : (require p error : Program Answer ε Unit) = .done () := if_pos h
    rw [first]
    exact ends h
  · have first : (require p error : Program Answer ε Unit) = .fail error := if_neg h
    rw [first]
    exact keeps_fail

/-- A program that ends with what is there. -/
theorem keeps_demand_end {value : Option α} {post : α → Store → Prop}
    (ends : ∀ found, value = some found → ∀ now, rules.rely store now → inv now → post found now) :
    rules.Keeps serve (OnOk post) (demand value error : Program Answer ε α) store := by
  cases value with
  | none => exact keeps_fail
  | some found => exact ends found rfl

end Rules

/-! ## Programs side by side -/

/-- Jobs, the programs that do them, and which jobs may be under way together. -/
structure Machine {Call : Type} (Answer : Call → Type) (Job Store ε α : Type) where
  serve : (request : Call) → Store → Answer request × Store
  program : Job → Program Answer ε α
  together : Job → Job → Bool

/-- A job is started, makes its next request or returns, or is dropped. -/
inductive Move (Job : Type) where
  | start (job : Job)
  | advance (place : Nat)
  | drop (place : Nat)
  deriving DecidableEq, Repr

/-- The store, the jobs under way with what is left of their programs, and the results
of those that returned, oldest first. -/
structure Pool {Call : Type} (Answer : Call → Type) (Job Store ε α : Type) where
  store : Store
  running : List (Job × Program Answer ε α)
  finished : List (Job × Except ε α)

namespace Machine

variable {Call : Type} {Answer : Call → Type} {Job Store ε α : Type}
  (machine : Machine Answer Job Store ε α)

/-- One move. A move that is not possible changes nothing. -/
def step (pool : Pool Answer Job Store ε α) : Move Job → Pool Answer Job Store ε α
  | .start job =>
    if pool.running.all fun entry => machine.together job entry.1 then
      { pool with running := (job, machine.program job) :: pool.running }
    else pool
  | .drop place => { pool with running := pool.running.eraseIdx place }
  | .advance place =>
    match pool.running[place]? with
    | none => pool
    | some (job, .call request next) =>
      { pool with
        store := (machine.serve request pool.store).2
        running := pool.running.set place (job, next (machine.serve request pool.store).1) }
    | some (job, .done value) =>
      { pool with
        running := pool.running.eraseIdx place
        finished := pool.finished ++ [(job, .ok value)] }
    | some (job, .fail error) =>
      { pool with
        running := pool.running.eraseIdx place
        finished := pool.finished ++ [(job, .error error)] }

def idle (store : Store) : Pool Answer Job Store ε α := ⟨store, [], []⟩

/-- The obligations of every job, and that no job's guarantee breaks what another that
may be under way with it relies on. -/
structure Discipline where
  inv : Store → Prop
  rules : Job → Rules inv
  result : Job → Except ε α → Prop
  symm : ∀ job other, machine.together job other = machine.together other job
  keeps : ∀ job store, inv store → (rules job).Keeps machine.serve
    (fun result' _ => result job result') (machine.program job) store
  keeps_inv : ∀ job {store now}, inv store → (rules job).guarantee store now → inv now
  respects : ∀ job other {store now}, machine.together job other → inv store →
    (rules job).guarantee store now → (rules other).rely store now

variable {machine} (discipline : machine.Discipline)

/-- What holds between the moves of a run. -/
structure Sound (pool : Pool Answer Job Store ε α) : Prop where
  inv : discipline.inv pool.store
  keeps : ∀ entry ∈ pool.running, (discipline.rules entry.1).Keeps machine.serve
    (fun result' _ => discipline.result entry.1 result') entry.2 pool.store
  apart : (pool.running.map Prod.fst).Pairwise fun job other => machine.together job other
  results : ∀ entry ∈ pool.finished, discipline.result entry.1 entry.2

variable {discipline}

variable {store : Store} {pool : Pool Answer Job Store ε α}

theorem sound_idle (holds : discipline.inv store) : Sound discipline (idle store) :=
  ⟨holds, by simp [idle], by simp [idle], by simp [idle]⟩

theorem Sound.together (sound : Sound discipline pool) {i j : Nat}
    {entry other : Job × Program Answer ε α} (differ : i ≠ j) (hi : pool.running[i]? = some entry)
    (hj : pool.running[j]? = some other) : machine.together entry.1 other.1 := by
  obtain ⟨hi', rfl⟩ := List.getElem?_eq_some_iff.mp hi
  obtain ⟨hj', rfl⟩ := List.getElem?_eq_some_iff.mp hj
  have apart := List.pairwise_iff_getElem.mp (List.pairwise_map.mp sound.apart)
  rcases Nat.lt_or_gt_of_ne differ with less | more
  · exact apart i j hi' hj' less
  · rw [discipline.symm]
    exact apart j i hj' hi' more

/-- Dropping an entry, and recording a result that is allowed. -/
theorem Sound.erase (sound : Sound discipline pool) (place : Nat)
    {finished : List (Job × Except ε α)}
    (results : ∀ entry ∈ finished, discipline.result entry.1 entry.2) :
    Sound discipline ⟨pool.store, pool.running.eraseIdx place, finished⟩ where
  inv := sound.inv
  keeps entry mem := sound.keeps entry (List.mem_of_mem_eraseIdx mem)
  apart := sound.apart.sublist ((List.eraseIdx_sublist ..).map _)
  results := results

theorem Sound.finish (sound : Sound discipline pool) (place : Nat) {job : Job} {result : Except ε α}
    (allowed : discipline.result job result) :
    Sound discipline
      ⟨pool.store, pool.running.eraseIdx place, pool.finished ++ [(job, result)]⟩ := by
  apply sound.erase place
  intro entry mem
  rcases List.mem_append.mp mem with before | last
  · exact sound.results entry before
  · rw [List.mem_singleton.mp last]
    exact allowed

/-- One request of one job: the job goes on, and the others are not disturbed. -/
theorem Sound.serve (sound : Sound discipline pool) {place : Nat} {job : Job} {request : Call}
    {next : Answer request → Program Answer ε α}
    (here : pool.running[place]? = some (job, .call request next)) :
    (discipline.rules job).guarantee pool.store (machine.serve request pool.store).2 ∧
      Sound discipline
        ⟨(machine.serve request pool.store).2,
          pool.running.set place (job, next (machine.serve request pool.store).1),
          pool.finished⟩ := by
  have keeps := sound.keeps _ (List.mem_of_getElem? here)
  obtain ⟨within, after⟩ :=
    keeps pool.store ((discipline.rules job).refl pool.store) sound.inv
  refine ⟨within, discipline.keeps_inv job sound.inv within, ?_, ?_, sound.results⟩
  · intro entry mem
    obtain ⟨i, hi⟩ := List.mem_iff_getElem?.mp mem
    rw [List.getElem?_set] at hi
    split_ifs at hi with same inside
    · obtain rfl := Option.some.inj hi
      exact after
    · have rely := discipline.respects job entry.1
        (sound.together same here hi) sound.inv within
      exact (sound.keeps entry (List.mem_of_getElem? hi)).stable rely
  · have jobs : (pool.running.set place
        (job, next (machine.serve request pool.store).1)).map Prod.fst =
        pool.running.map Prod.fst := by
      rw [List.map_set]
      apply List.ext_getElem?
      intro i
      rw [List.getElem?_set]
      split_ifs with same inside
      · subst same
        simp [here]
      · subst same
        simp [List.getElem?_eq_none_iff.mpr (Nat.not_lt.mp inside)]
      · rfl
    rw [jobs]
    exact sound.apart

theorem step_sound (sound : Sound discipline pool) (move : Move Job) :
    Sound discipline (machine.step pool move) := by
  cases move with
  | start job =>
    simp only [step]
    split_ifs with admitted
    · refine ⟨sound.inv, ?_, ?_, sound.results⟩
      · intro entry mem
        rcases List.mem_cons.mp mem with rfl | before
        · exact discipline.keeps job pool.store sound.inv
        · exact sound.keeps entry before
      · refine List.pairwise_cons.mpr ⟨?_, sound.apart⟩
        intro other mem
        obtain ⟨entry, under, rfl⟩ := List.mem_map.mp mem
        exact List.all_eq_true.mp admitted entry under
    · exact sound
  | drop place => exact sound.erase place sound.results
  | advance place =>
    simp only [step]
    split
    · exact sound
    · rename_i here
      exact (sound.serve here).2
    · rename_i here
      have keeps := sound.keeps _ (List.mem_of_getElem? here)
      exact sound.finish place (keeps pool.store (Rules.refl _ _) sound.inv)
    · rename_i here
      have keeps := sound.keeps _ (List.mem_of_getElem? here)
      exact sound.finish place (keeps pool.store (Rules.refl _ _) sound.inv)

/-- Every run from a store that meets the invariant keeps all obligations. -/
theorem run_sound (holds : discipline.inv store) (moves : List (Move Job)) :
    Sound discipline (run machine.step (idle store) moves) :=
  run_invariant_of_step (I := Sound discipline) machine.step
    (fun _ move sound => step_sound sound move) moves (sound_idle holds)

/-- A preorder that every guarantee implies holds between any two stores of a run. -/
theorem run_advances {advances : Store → Store → Prop} (refl : ∀ s, advances s s)
    (trans : ∀ {s t u}, advances s t → advances t u → advances s u)
    (implied : ∀ job {s t}, discipline.inv s → (discipline.rules job).guarantee s t → advances s t)
    (sound : Sound discipline pool) (moves : List (Move Job)) :
    advances pool.store (run machine.step pool moves).store := by
  induction moves generalizing pool with
  | nil => exact refl _
  | cons move moves ih =>
    refine trans ?_ (ih (step_sound sound move))
    cases move with
    | start job =>
      simp only [step]
      split_ifs <;> exact refl _
    | drop place => exact refl _
    | advance place =>
      simp only [step]
      split
      · exact refl _
      · rename_i here
        exact implied _ sound.inv (sound.serve here).1
      · exact refl _
      · exact refl _

end Machine

end AlphaTrade.Library
