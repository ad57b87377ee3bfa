import Mathlib.Algebra.Order.Field.Rat
import Mathlib.Logic.Relation
import AlphaTrade.Library.Table

/-!
# Shared reads

`ShortTtlSingleflight` keeps what was loaded of a key for a short time, and callers of one key that
miss together share one load: the first of them leads the flight and the others wait for it. A
method that runs under the guard is one step; a load is not, and callers of other keys, of the same
key and of a flight that has landed come in between.

What a load may give is a parameter, so a caller's answer is what a load gave to some request of
the caller's key.
-/
namespace AlphaTrade.Market.PublicRead
open Library

/-- What the cache is built with. -/
structure Settings where
  ttlSeconds : ℚ
  maxEntries : Nat
  ttl_pos : 0 < ttlSeconds
  one_le_entries : 1 ≤ maxEntries

/-- The requests, their keys, and what a load of a request may give. -/
structure Loader (ρ κ ν ε : Type) where
  key : ρ → κ
  Loads : ρ → Except ε ν → Prop

/-- Where a caller is. The flights of a key are numbered. -/
inductive Phase (ρ ν : Type) where
  | idle
  | leading (request : ρ) (flight : Nat)
  | stored (request : ρ) (flight : Nat) (value : ν)
  | landed (request : ρ) (flight : Nat)
  | waiting (request : ρ) (flight : Nat)

structure CacheState (ρ κ ν ε : Type) where
  entries : Table κ (ℚ × ν)
  flights : κ → Option Nat
  /-- What a flight has brought. -/
  outcomes : κ → Nat → Option (Except ε ν)
  created : κ → Nat
  now : ℚ
  callers : Nat → Phase ρ ν
  /-- What was answered, latest first. No step reads it. -/
  answered : List (ρ × Except ε ν)

variable {ρ κ ν ε : Type} [DecidableEq κ]

namespace CacheState

variable (settings : Settings) (s : CacheState ρ κ ν ε)

def start (now : ℚ) : CacheState ρ κ ν ε where
  entries := .empty
  flights _ := none
  outcomes _ _ := none
  created _ := 0
  now := now
  callers _ := .idle
  answered := []

def withPhase (caller : Nat) (phase : Phase ρ ν) : CacheState ρ κ ν ε :=
  { s with callers := Function.update s.callers caller phase }

def answer (request : ρ) (outcome : Except ε ν) : CacheState ρ κ ν ε :=
  { s with answered := (request, outcome) :: s.answered }

/-- `_get_unlocked`. -/
def getUnlocked (key : κ) : Option ν × CacheState ρ κ ν ε :=
  match s.entries.find key with
  | none => (none, s)
  | some (storedAt, value) =>
    if settings.ttlSeconds < s.now - storedAt then
      (none, { s with entries := s.entries.erase key })
    else (some value, { s with entries := (s.entries.erase key).put key (storedAt, value) })

/-- `popitem(last=False)` until the length is right. -/
def trim (entries : Table κ (ℚ × ν)) : Table κ (ℚ × ν) :=
  entries.restrict fun key => key ∈ entries.keys.drop (entries.keys.length - settings.maxEntries)

/-- `_put_unlocked`. -/
def putUnlocked (key : κ) (value : ν) : CacheState ρ κ ν ε :=
  { s with entries := trim settings ((s.entries.erase key).put key (s.now, value)) }

def board (caller : Nat) (request : ρ) (key : κ) : CacheState ρ κ ν ε :=
  match s.flights key with
  | some flight => s.withPhase caller (.waiting request flight)
  | none =>
    { s with
      flights := Function.update s.flights key (some (s.created key))
      created := Function.update s.created key (s.created key + 1) }.withPhase caller
        (.leading request (s.created key))

/-- The part of `get_or_load` under the guard. -/
def call (caller : Nat) (request : ρ) (key : κ) : CacheState ρ κ ν ε :=
  match s.getUnlocked settings key with
  | (some value, looked) => looked.answer request (.ok value)
  | (none, looked) => looked.board caller request key

/-- The flight has its outcome, and its event is set. -/
def land (caller : Nat) (request : ρ) (key : κ) (flight : Nat) (outcome : Except ε ν) :
    CacheState ρ κ ν ε :=
  let brought := Function.update (s.outcomes key) flight (some outcome)
  { s with outcomes := Function.update s.outcomes key brought }.withPhase caller
    (.landed request flight)

def clear (key : κ) (flight : Nat) : CacheState ρ κ ν ε :=
  if s.flights key = some flight then { s with flights := Function.update s.flights key none }
  else s

end CacheState

/-- What the callers, the clock and the loads do. -/
inductive Step (loader : Loader ρ κ ν ε) (settings : Settings) (s : CacheState ρ κ ν ε) :
    CacheState ρ κ ν ε → Prop where
  | call (caller : Nat) (request : ρ) (idle : s.callers caller = .idle) :
      Step loader settings s (s.call settings caller request (loader.key request))
  | fail {caller : Nat} {request : ρ} {flight : Nat} {e : ε}
      (leads : s.callers caller = .leading request flight)
      (fails : loader.Loads request (.error e)) :
      Step loader settings s ((s.land caller request (loader.key request) flight (.error e)).answer
        request (.error e))
  | store {caller : Nat} {request : ρ} {flight : Nat} {value : ν}
      (leads : s.callers caller = .leading request flight)
      (loads : loader.Loads request (.ok value)) :
      Step loader settings s ((s.putUnlocked settings (loader.key request) value).withPhase caller
        (.stored request flight value))
  | land {caller : Nat} {request : ρ} {flight : Nat} {value : ν}
      (stored : s.callers caller = .stored request flight value) :
      Step loader settings s ((s.land caller request (loader.key request) flight (.ok value)).answer
        request (.ok value))
  | clear {caller : Nat} {request : ρ} {flight : Nat}
      (landed : s.callers caller = .landed request flight) :
      Step loader settings s ((s.clear (loader.key request) flight).withPhase caller .idle)
  | wake {caller : Nat} {request : ρ} {flight : Nat} {outcome : Except ε ν}
      (waits : s.callers caller = .waiting request flight)
      (set : s.outcomes (loader.key request) flight = some outcome) :
      Step loader settings s ((s.withPhase caller .idle).answer request outcome)
  /-- A caller that does not use the cache. -/
  | direct {request : ρ} {outcome : Except ε ν} (loads : loader.Loads request outcome) :
      Step loader settings s (s.answer request outcome)
  | get (key : κ) : Step loader settings s (s.getUnlocked settings key).2
  | invalidate (key : κ) : Step loader settings s { s with entries := s.entries.erase key }
  | pass {seconds : ℚ} (forward : 0 ≤ seconds) :
      Step loader settings s { s with now := s.now + seconds }

def Reachable (loader : Loader ρ κ ν ε) (settings : Settings) (s : CacheState ρ κ ν ε) : Prop :=
  ∃ now, Relation.ReflTransGen (Step loader settings) (.start now) s

/-! ## What is answered -/

section sound

variable {loader : Loader ρ κ ν ε} {settings : Settings} {s next : CacheState ρ κ ν ε} {key : κ}
  {value : ν} {caller flight : Nat} {request : ρ} {outcome : Except ε ν}

def Loaded (loader : Loader ρ κ ν ε) (key : κ) (value : ν) : Prop :=
  ∃ request, loader.key request = key ∧ loader.Loads request (.ok value)

/-- Whatever is kept, brought or answered under a key was loaded for it. -/
structure Sound (loader : Loader ρ κ ν ε) (s : CacheState ρ κ ν ε) : Prop where
  entries : ∀ key storedAt value, s.entries.find key = some (storedAt, value) →
    Loaded loader key value
  outcomes : ∀ key flight value, s.outcomes key flight = some (.ok value) →
    Loaded loader key value
  stored : ∀ caller request flight value, s.callers caller = .stored request flight value →
    loader.Loads request (.ok value)
  answered : ∀ request value, (request, .ok value) ∈ s.answered →
    Loaded loader (loader.key request) value

omit [DecidableEq κ] in
theorem sound_start (now : ℚ) : Sound loader (.start now) :=
  ⟨nofun, nofun, nofun, nofun⟩

omit [DecidableEq κ] in
theorem Sound.withPhase (sound : Sound loader s) {phase : Phase ρ ν}
    (stored : ∀ request flight value, phase = .stored request flight value →
      loader.Loads request (.ok value)) : Sound loader (s.withPhase caller phase) := by
  refine ⟨sound.entries, sound.outcomes, fun other request flight value at_stored => ?_,
    sound.answered⟩
  simp only [CacheState.withPhase] at at_stored
  rcases eq_or_ne other caller with rfl | differ
  · rw [Function.update_self] at at_stored
    exact stored request flight value at_stored
  · rw [Function.update_of_ne differ] at at_stored
    exact sound.stored other request flight value at_stored

omit [DecidableEq κ] in
theorem Sound.answer (sound : Sound loader s)
    (loaded : ∀ value, outcome = .ok value → Loaded loader (loader.key request) value) :
    Sound loader (s.answer request outcome) := by
  refine ⟨sound.entries, sound.outcomes, sound.stored, fun other value mem => ?_⟩
  rcases List.mem_cons.mp mem with same | mem
  · obtain ⟨rfl, isOk⟩ := Prod.mk.inj same
    exact loaded value isOk.symm
  · exact sound.answered other value mem

omit [DecidableEq κ] in
theorem Sound.of_entries (sound : Sound loader s) {entries : Table κ (ℚ × ν)}
    (kept : ∀ key storedAt value, entries.find key = some (storedAt, value) →
      Loaded loader key value) : Sound loader { s with entries } :=
  ⟨kept, sound.outcomes, sound.stored, sound.answered⟩

theorem Sound.getUnlocked (sound : Sound loader s) :
    Sound loader (s.getUnlocked settings key).2 ∧
      ∀ value, (s.getUnlocked settings key).1 = some value → Loaded loader key value := by
  unfold CacheState.getUnlocked
  split
  · exact ⟨sound, nofun⟩
  · rename_i storedAt value found
    split
    · exact ⟨sound.of_entries fun _ _ _ kept =>
        sound.entries _ _ _ (Table.find_of_erase kept), nofun⟩
    · refine ⟨sound.of_entries fun other _ _ kept => ?_, ?_⟩
      · rcases Table.find_put_cases kept with ⟨rfl, same⟩ | ⟨-, kept⟩
        · obtain ⟨rfl, rfl⟩ := Prod.mk.inj same
          exact sound.entries _ _ _ found
        · exact sound.entries _ _ _ (Table.find_of_erase kept)
      · rintro _ ⟨⟩
        exact sound.entries _ _ _ found

theorem Sound.board (sound : Sound loader s) : Sound loader (s.board caller request key) := by
  unfold CacheState.board
  split
  · exact sound.withPhase nofun
  · refine Sound.withPhase ?_ nofun
    exact ⟨sound.entries, sound.outcomes, sound.stored, sound.answered⟩

theorem Sound.call (sound : Sound loader s) :
    Sound loader (s.call settings caller request (loader.key request)) := by
  obtain ⟨looked, hit⟩ : Sound loader (s.getUnlocked settings (loader.key request)).2 ∧ _ :=
    sound.getUnlocked
  unfold CacheState.call
  split
  · rename_i value after found
    rw [found] at looked hit
    exact looked.answer fun _ same => hit _ (congrArg some (Except.ok.inj same))
  · rename_i after found
    rw [found] at looked
    exact looked.board

theorem Sound.put (sound : Sound loader s) (loaded : Loaded loader key value) :
    Sound loader (s.putUnlocked settings key value) := by
  refine sound.of_entries fun other _ _ kept => ?_
  rcases Table.find_put_cases (Table.find_of_restrict kept) with ⟨rfl, same⟩ | ⟨-, kept⟩
  · obtain ⟨-, rfl⟩ := Prod.mk.inj same
    exact loaded
  · exact sound.entries _ _ _ (Table.find_of_erase kept)

theorem Sound.land (sound : Sound loader s)
    (loaded : ∀ value, outcome = .ok value → Loaded loader key value) :
    Sound loader (s.land caller request key flight outcome) := by
  unfold CacheState.land
  refine Sound.withPhase ?_ (by rintro _ _ _ ⟨⟩)
  refine ⟨sound.entries, fun other n value brought => ?_, sound.stored, sound.answered⟩
  dsimp only at brought
  rcases eq_or_ne other key with rfl | differ
  · rw [Function.update_self] at brought
    rcases eq_or_ne n flight with rfl | differ
    · rw [Function.update_self] at brought
      exact loaded value (Option.some.inj brought)
    · rw [Function.update_of_ne differ] at brought
      exact sound.outcomes _ _ _ brought
  · rw [Function.update_of_ne differ] at brought
    exact sound.outcomes _ _ _ brought

theorem Sound.clear (sound : Sound loader s) : Sound loader (s.clear key flight) := by
  unfold CacheState.clear
  split
  · exact ⟨sound.entries, sound.outcomes, sound.stored, sound.answered⟩
  · exact sound

theorem Sound.step (sound : Sound loader s) (step : Step loader settings s next) :
    Sound loader next := by
  cases step with
  | call caller request idle => exact sound.call
  | fail leads fails => exact (sound.land (by rintro _ ⟨⟩)).answer (by rintro _ ⟨⟩)
  | store leads loads =>
    refine (sound.put ⟨_, rfl, loads⟩).withPhase ?_
    rintro _ _ _ ⟨⟩
    exact loads
  | @land caller request flight value stored =>
    have loaded : ∀ other, Except.ok (ε := ε) value = .ok other →
        Loaded loader (loader.key request) other := by
      rintro _ ⟨⟩
      exact ⟨request, rfl, sound.stored _ _ _ _ stored⟩
    exact (sound.land loaded).answer loaded
  | clear landed => exact sound.clear.withPhase (by rintro _ _ _ ⟨⟩)
  | wake waits set =>
    exact (sound.withPhase (by rintro _ _ _ ⟨⟩)).answer fun value same =>
      sound.outcomes _ _ _ (set.trans (congrArg some same))
  | direct loads => exact sound.answer fun value same => ⟨_, rfl, same ▸ loads⟩
  | get key => exact sound.getUnlocked.1
  | invalidate key =>
    exact sound.of_entries fun _ _ _ kept => sound.entries _ _ _ (Table.find_of_erase kept)
  | pass => exact ⟨sound.entries, sound.outcomes, sound.stored, sound.answered⟩

theorem sound_of_reachable (reachable : Reachable loader settings s) : Sound loader s := by
  obtain ⟨now, reaches⟩ := reachable
  induction reaches with
  | refl => exact sound_start now
  | tail _ step ih => exact Sound.step ih step

/-- In every interleaving a caller is answered with what was loaded for a request of its key. -/
theorem answered_loaded (reachable : Reachable loader settings s)
    (mem : (request, .ok value) ∈ s.answered) : Loaded loader (loader.key request) value :=
  (sound_of_reachable reachable).answered request value mem

/-- A caller of the same key joins the load of another one. -/
theorem joined_answered (settings : Settings) {joins : ρ} {value : ν}
    (sameKey : loader.key joins = loader.key request) (loads : loader.Loads request (.ok value)) :
    ∃ s, Reachable loader settings s ∧ (joins, .ok value) ∈ s.answered := by
  set key := loader.key request with isKey
  set led : CacheState ρ κ ν ε := (CacheState.start 0).call settings 0 request key
  have lead : Step loader settings (.start 0) led := .call 0 request rfl
  set joined := led.withPhase 1 (.waiting joins 0)
  have join : Step loader settings led joined := by
    have flight : led.flights key = some 0 := Function.update_self ..
    have missed : led.call settings 1 joins key = joined := by
      have empty : led.getUnlocked settings key = (none, led) := rfl
      simp only [CacheState.call, empty, CacheState.board, flight]
      rfl
    rw [← missed, ← sameKey]
    exact .call 1 joins rfl
  set kept := (joined.putUnlocked settings key value).withPhase 0 (.stored request 0 value)
  have store : Step loader settings joined kept := .store rfl loads
  set landed := (kept.land 0 request key 0 (.ok value)).answer request (.ok value)
  have land : Step loader settings kept landed := .land rfl
  have wake : Step loader settings landed
      ((landed.withPhase 1 .idle).answer joins (.ok value)) := by
    have waits : landed.callers 1 = .waiting joins 0 := rfl
    refine .wake waits ?_
    rw [sameKey]
    exact (congrFun (Function.update_self ..) 0).trans (Function.update_self ..)
  exact ⟨_, ⟨0, .tail (.tail (.tail (.tail (.single lead) join) store) land) wake⟩,
    List.mem_cons_self⟩

end sound

end AlphaTrade.Market.PublicRead
