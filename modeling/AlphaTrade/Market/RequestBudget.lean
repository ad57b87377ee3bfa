import Mathlib.Algebra.Order.Floor.Semiring
import Mathlib.Data.Rat.Floor
import Mathlib.Logic.Relation
import AlphaTrade.Library.SlidingWindow

/-!
# The request budget

`SlidingWeightBudget`: callers that read one venue share a weight per window. A round of `acquire`
under the lock grants the weight or says how long to wait; the wait is slept in slices, outside the
lock, while other callers come in between. The clock does not go back, and a sleep need not move it.

## Main results

* `budget_held`: in every interleaving no window holds more weight than the limit, no acquire asks
  for more sleep than it may, and each one comes to its end.
-/
namespace AlphaTrade.Market.RequestBudget
open Library

/-- The fields of the budget. The ones of the program are built with no negative limit or wait. -/
structure Settings where
  limit : Int
  windowSeconds : ℚ
  maxWaitSeconds : ℚ
  limit_nonneg : 0 ≤ limit
  maxWait_nonneg : 0 ≤ maxWaitSeconds

inductive BudgetError where
  | valueError (message : String)
  | rateLimited (message : String) (retryAfterSeconds : ℚ)
  deriving DecidableEq, Repr

/-- `_PROGRESS_CHUNK_SECONDS`. -/
def progressChunkSeconds : ℚ := 5

def leastWait : ℚ := 1 / 20

structure Grant where
  time : ℚ
  weight : Nat
  deriving DecidableEq, Repr

/-! ## Rounds -/

section rounds

variable (settings : Settings) (now : ℚ) (events : List Grant)

/-- `_evict`. -/
def evict : List Grant := events.dropWhile fun event => event.time ≤ now - settings.windowSeconds

/-- `_used_unlocked`, which evicts as it reads. -/
def usedUnlocked : Nat := ((evict settings now events).map (·.weight)).sum

/-- `_wait_step`. -/
def waitStep : ℚ :=
  match events with
  | [] => progressChunkSeconds
  | oldest :: _ =>
    let remaining := settings.windowSeconds - (now - oldest.time)
    if remaining ≤ 0 then leastWait else min (max remaining leastWait) progressChunkSeconds

end rounds

/-- What a round under the lock comes to. -/
inductive Round where
  | granted (events : List Grant)
  | wait (events : List Grant) (delay : ℚ)

/-- The guarded part of `acquire`. -/
def guardedRound (settings : Settings) (now : ℚ) (events : List Grant) (weight : Int) : Round :=
  let events := evict settings now events
  if usedUnlocked settings now events + weight ≤ settings.limit then
    .granted (evict settings now events ++ [⟨now, weight.toNat⟩])
  else .wait (evict settings now events) (waitStep settings now (evict settings now events))

/-- The checks of `acquire` ahead of its loop. -/
def checkWeight (settings : Settings) (weight : Int) : Except BudgetError Unit :=
  if weight < 1 then .error (.valueError "request weight must be >= 1")
  else if settings.limit < weight then .error (.rateLimited
    "A single read exceeds the Binance request-weight budget." settings.windowSeconds)
  else .ok ()

/-- The steps that `sleep_with_progress` asks its sleeper for. -/
def sleepWithProgress (remaining : ℚ) : List ℚ :=
  if 0 < remaining then
    min progressChunkSeconds remaining ::
      sleepWithProgress (remaining - min progressChunkSeconds remaining)
  else []
  termination_by ⌈remaining⌉.toNat
  decreasing_by
    rename_i positive
    rcases le_total progressChunkSeconds remaining with long | short
    · rw [min_eq_left long]
      have less : ⌈remaining - progressChunkSeconds⌉ = ⌈remaining⌉ - 5 := by
        rw [progressChunkSeconds]
        exact_mod_cast Int.ceil_sub_intCast remaining 5
      have some : 0 < ⌈remaining⌉ := Int.ceil_pos.mpr positive
      omega
    · rw [min_eq_right short, sub_self, Int.ceil_zero]
      have some : 0 < ⌈remaining⌉ := Int.ceil_pos.mpr positive
      omega

/-! ## Callers -/

/-- What an acquire has gone through: its waits, and the sleeps it has asked for. -/
structure Asked where
  rounds : Nat
  waited : ℚ
  requested : List ℚ

/-- Where a caller is. A sleeping one still has some steps to ask for. -/
inductive Caller where
  | idle
  | trying (weight : Int) (asked : Asked)
  | sleeping (weight : Int) (asked : Asked) (delay : ℚ) (left : List ℚ)

def Caller.asked : Caller → Option Asked
  | .idle => none
  | .trying _ asked => some asked
  | .sleeping _ asked _ _ => some asked

/-- Every grant there was is `granted`, and `finished` has the acquires that have ended. No step
reads them. -/
structure BudgetState where
  events : List Grant
  now : ℚ
  callers : Nat → Caller
  granted : List Grant
  finished : List (Asked × Except BudgetError Unit)

namespace BudgetState

variable (settings : Settings) (s : BudgetState)

def start (now : ℚ) : BudgetState := ⟨[], now, fun _ => .idle, [], []⟩

def withCaller (caller : Nat) (phase : Caller) : BudgetState :=
  { s with callers := Function.update s.callers caller phase }

def withEvents (events : List Grant) : BudgetState := { s with events }

def grant (events : List Grant) (weight : Nat) : BudgetState :=
  { s with events, granted := s.granted ++ [⟨s.now, weight⟩] }

def finish (caller : Nat) (asked : Asked) (outcome : Except BudgetError Unit) : BudgetState :=
  { s with
    callers := Function.update s.callers caller .idle
    finished := (asked, outcome) :: s.finished }

def call (caller : Nat) (weight : Int) : BudgetState :=
  match checkWeight settings weight with
  | .error e => s.finish caller ⟨0, 0, []⟩ (.error e)
  | .ok () => s.withCaller caller (.trying weight ⟨0, 0, []⟩)

/-- A round of the loop, up to its sleep. -/
def round (caller : Nat) (weight : Int) (asked : Asked) : BudgetState :=
  match guardedRound settings s.now s.events weight with
  | .granted events =>
    (s.grant events weight.toNat).finish caller asked (.ok ())
  | .wait events delay =>
    if settings.maxWaitSeconds < asked.waited + delay then
      (s.withEvents events).finish caller asked (.error (.rateLimited
        "Binance request-weight budget is exhausted." (max delay 0)))
    else (s.withEvents events).withCaller caller
      (.sleeping weight asked delay (sleepWithProgress delay))

end BudgetState

/-- What a caller does on its own. -/
inductive Move (settings : Settings) (caller : Nat) (s : BudgetState) : BudgetState → Prop where
  | round {weight : Int} {asked : Asked} (tries : s.callers caller = .trying weight asked) :
      Move settings caller s (s.round settings caller weight asked)
  | sleep {weight : Int} {asked : Asked} {delay step : ℚ} {left : List ℚ}
      (sleeps : s.callers caller = .sleeping weight asked delay (step :: left)) :
      Move settings caller s (s.withCaller caller
        (.sleeping weight { asked with requested := asked.requested ++ [step] } delay left))
  /-- The progress hook or the sleeper raises. -/
  | interrupt {weight : Int} {asked : Asked} {delay : ℚ} {left : List ℚ} (e : BudgetError)
      (sleeps : s.callers caller = .sleeping weight asked delay left) :
      Move settings caller s (s.finish caller asked (.error e))
  | wake {weight : Int} {asked : Asked} {delay : ℚ}
      (sleeps : s.callers caller = .sleeping weight asked delay []) :
      Move settings caller s (s.withCaller caller (.trying weight
        { asked with rounds := asked.rounds + 1, waited := asked.waited + delay }))

/-- What the callers and the clock do. -/
inductive Step (settings : Settings) (s : BudgetState) : BudgetState → Prop where
  | call (caller : Nat) (weight : Int) (idle : s.callers caller = .idle) :
      Step settings s (s.call settings caller weight)
  | move {caller : Nat} {next : BudgetState} (moves : Move settings caller s next) :
      Step settings s next
  | pass {seconds : ℚ} (forward : 0 ≤ seconds) :
      Step settings s { s with now := s.now + seconds }

def Reachable (settings : Settings) (s : BudgetState) : Prop :=
  ∃ now, Relation.ReflTransGen (Step settings) (.start now) s

/-! ## Sleeps -/

variable {remaining : ℚ}

theorem sleepWithProgress_of_pos (positive : 0 < remaining) :
    sleepWithProgress remaining = min progressChunkSeconds remaining ::
      sleepWithProgress (remaining - min progressChunkSeconds remaining) := by
  rw [sleepWithProgress, if_pos positive]

theorem sleepWithProgress_of_nonpos (none : remaining ≤ 0) : sleepWithProgress remaining = [] := by
  rw [sleepWithProgress, if_neg none.not_gt]

/-- The steps of a sleep are as long as it is. -/
theorem sum_sleepWithProgress (nonneg : 0 ≤ remaining) :
    (sleepWithProgress remaining).sum = remaining := by
  fun_induction sleepWithProgress remaining with
  | case1 remaining positive ih =>
    have rest : 0 ≤ remaining - min progressChunkSeconds remaining :=
      sub_nonneg.mpr (min_le_right _ _)
    rw [List.sum_cons, ih rest]
    ring
  | case2 remaining none => exact le_antisymm nonneg (not_lt.mp none)

/-- A wait of one chunk is one sleep. -/
theorem sleepWithProgress_chunk (positive : 0 < remaining)
    (short : remaining ≤ progressChunkSeconds) : sleepWithProgress remaining = [remaining] := by
  rw [sleepWithProgress_of_pos positive, min_eq_right short, sub_self,
    sleepWithProgress_of_nonpos le_rfl]

/-- Every wait is of some length, whatever the clock reads. -/
theorem waitStep_bounds (settings : Settings) (now : ℚ) (events : List Grant) :
    leastWait ≤ waitStep settings now events ∧
      waitStep settings now events ≤ progressChunkSeconds := by
  unfold waitStep
  split
  · exact ⟨by norm_num [leastWait, progressChunkSeconds], le_rfl⟩
  · dsimp only
    split
    · exact ⟨le_rfl, by norm_num [leastWait, progressChunkSeconds]⟩
    · refine ⟨le_min (le_max_right _ _) ?_, min_le_right _ _⟩
      norm_num [leastWait, progressChunkSeconds]

theorem leastWait_pos : 0 < leastWait := by norm_num [leastWait]

/-! ## The window -/

section window

variable {settings : Settings} {s : BudgetState} {now later : ℚ} {events granted : List Grant}

/-- The budget has every grant that still counts, and grants are within the limit. -/
structure Within (settings : Settings) (now : ℚ) (events granted : List Grant) : Prop where
  kept : Kept Grant.time granted events (now - settings.windowSeconds)
  sorted : events.Pairwise fun a b => a.time ≤ b.time
  past : ∀ event ∈ events, event.time ≤ now
  bounded : Bounded Grant.time Grant.weight granted settings.windowSeconds settings.limit.toNat

theorem within_start (settings : Settings) (now : ℚ) : Within settings now [] [] :=
  ⟨kept_nil, .nil, by simp, bounded_nil⟩

theorem Within.mono (within : Within settings now events granted) (le : now ≤ later) :
    Within settings later events granted where
  kept := within.kept.mono (sub_le_sub_right le _)
  sorted := within.sorted
  past event mem := (within.past event mem).trans le
  bounded := within.bounded

theorem Within.evict_eq (within : Within settings now events granted) :
    evict settings now events =
      events.filter fun event => now - settings.windowSeconds < event.time :=
  dropWhile_eq_filter within.sorted

theorem Within.evict (within : Within settings now events granted) :
    Within settings now (evict settings now events) granted where
  kept := by
    rw [within.evict_eq]
    exact within.kept.prune le_rfl
  sorted := within.sorted.sublist (List.dropWhile_sublist _)
  past event mem := within.past event ((List.dropWhile_sublist _).subset mem)
  bounded := within.bounded

/-- What is used is the load of the window. -/
theorem Within.used_eq (within : Within settings now events granted) :
    usedUnlocked settings now events =
      load Grant.time Grant.weight granted (now - settings.windowSeconds) := by
  rw [within.kept.load_eq, usedUnlocked, within.evict_eq]
  rfl

/-- A grant that fits keeps the budget within its limit. -/
theorem Within.grant (within : Within settings now events granted) {weight : Int}
    (fits : usedUnlocked settings now events + weight ≤ settings.limit) (positive : 1 ≤ weight) :
    Within settings now (events ++ [⟨now, weight.toNat⟩]) (granted ++ [⟨now, weight.toNat⟩]) where
  kept := within.kept.push
  sorted := by
    refine List.pairwise_append.mpr ⟨within.sorted, List.pairwise_singleton _ _, ?_⟩
    intro event mem other isNew
    rw [List.mem_singleton.mp isNew]
    exact within.past event mem
  past event mem := by
    rcases List.mem_append.mp mem with old | isNew
    · exact within.past event old
    · rw [List.mem_singleton.mp isNew]
  bounded := by
    refine within.bounded.push ?_
    rw [within.used_eq] at fits
    change load Grant.time Grant.weight granted (now - settings.windowSeconds) + weight.toNat ≤ _
    omega

end window

/-! ## Callers on their way -/

def mostRounds (settings : Settings) : Nat := ⌊settings.maxWaitSeconds / leastWait⌋₊

/-- The waits so far are no longer than allowed, none of them is too short to count, and they were
slept. -/
structure Asked.Sound (settings : Settings) (asked : Asked) (slept : ℚ) : Prop where
  allowed : asked.waited ≤ settings.maxWaitSeconds
  counted : asked.rounds * leastWait ≤ asked.waited
  slept : asked.requested.sum = slept

def Caller.Sound (settings : Settings) : Caller → Prop
  | .idle => True
  | .trying weight asked => 1 ≤ weight ∧ asked.Sound settings asked.waited
  | .sleeping weight asked delay left => 1 ≤ weight ∧ leastWait ≤ delay ∧
      asked.waited + delay ≤ settings.maxWaitSeconds ∧ left.length ≤ 1 ∧ 0 ≤ left.sum ∧
      asked.Sound settings (asked.waited + delay - left.sum)

/-- An acquire that has ended. -/
structure Asked.Ended (settings : Settings) (asked : Asked) : Prop where
  rounds : asked.rounds ≤ mostRounds settings
  requested : asked.requested.sum ≤ settings.maxWaitSeconds

def Caller.rank (settings : Settings) : Caller → Nat
  | .idle => 0
  | .trying _ asked => 3 * (mostRounds settings + 1 - asked.rounds)
  | .sleeping _ asked _ left => 3 * (mostRounds settings - asked.rounds) + 1 + left.length

section callers

variable {settings : Settings} {s next : BudgetState} {asked : Asked} {caller : Nat} {slept : ℚ}
  {phase : Caller} {outcome : Except BudgetError Unit}

theorem Asked.Sound.rounds_le (sound : asked.Sound settings slept) :
    asked.rounds ≤ mostRounds settings := by
  refine Nat.le_floor ?_
  rw [le_div_iff₀ leastWait_pos]
  exact sound.counted.trans sound.allowed

theorem Asked.Sound.ended (sound : asked.Sound settings slept)
    (le : slept ≤ settings.maxWaitSeconds) : asked.Ended settings :=
  ⟨sound.rounds_le, sound.slept.trans_le le⟩

theorem asked_sound_start (settings : Settings) : Asked.Sound settings ⟨0, 0, []⟩ 0 where
  allowed := settings.maxWait_nonneg
  counted := by simp
  slept := rfl

/-- A wait that is allowed leaves room for its round. -/
theorem Asked.Sound.waits (sound : asked.Sound settings slept) {delay : ℚ}
    (least : leastWait ≤ delay) (allowed : asked.waited + delay ≤ settings.maxWaitSeconds)
    (all : slept = asked.waited + delay) :
    Asked.Sound settings
      { asked with rounds := asked.rounds + 1, waited := asked.waited + delay }
      (asked.waited + delay) where
  allowed := allowed
  counted := by
    have counted := sound.counted
    push_cast
    linarith
  slept := sound.slept.trans all

theorem Asked.Sound.asks (sound : asked.Sound settings slept) (step : ℚ) :
    Asked.Sound settings { asked with requested := asked.requested ++ [step] } (slept + step) where
  allowed := sound.allowed
  counted := sound.counted
  slept := by
    rw [List.sum_append, List.sum_singleton, sound.slept]

/-- Grants are within the limit, and acquires within their time. -/
structure Sound (settings : Settings) (s : BudgetState) : Prop where
  within : Within settings s.now s.events s.granted
  callers : ∀ caller, (s.callers caller).Sound settings
  finished : ∀ asked outcome, (asked, outcome) ∈ s.finished → asked.Ended settings

theorem sound_start (settings : Settings) (now : ℚ) : Sound settings (.start now) :=
  ⟨within_start settings now, fun _ => trivial, by simp [BudgetState.start]⟩

variable {events : List Grant}

theorem Sound.withEvents (sound : Sound settings s)
    (within : Within settings s.now events s.granted) : Sound settings (s.withEvents events) :=
  ⟨within, sound.callers, sound.finished⟩

theorem Sound.grant (sound : Sound settings s) {weight : Nat}
    (within : Within settings s.now events (s.granted ++ [⟨s.now, weight⟩])) :
    Sound settings (s.grant events weight) :=
  ⟨within, sound.callers, sound.finished⟩

theorem Sound.withCaller (sound : Sound settings s) (known : phase.Sound settings) :
    Sound settings (s.withCaller caller phase) := by
  refine ⟨sound.within, fun other => ?_, sound.finished⟩
  rcases eq_or_ne other caller with rfl | differ
  · exact (congrArg (Caller.Sound settings) (Function.update_self ..)).mpr known
  · exact (congrArg (Caller.Sound settings) (Function.update_of_ne differ ..)).mpr
      (sound.callers other)

theorem Sound.finish (sound : Sound settings s) (ended : asked.Ended settings) :
    Sound settings (s.finish caller asked outcome) := by
  obtain ⟨within, callers, -⟩ : Sound settings (s.withCaller caller .idle) :=
    sound.withCaller trivial
  refine ⟨within, callers, fun other result mem => ?_⟩
  rcases List.mem_cons.mp mem with same | mem
  · rw [(Prod.mk.inj same).1]
    exact ended
  · exact sound.finished other result mem

theorem Sound.call (sound : Sound settings s) (caller : Nat) (weight : Int) :
    Sound settings (s.call settings caller weight) := by
  have start := asked_sound_start settings
  unfold BudgetState.call checkWeight
  split_ifs with small
  · exact sound.finish (start.ended settings.maxWait_nonneg)
  · exact sound.finish (start.ended settings.maxWait_nonneg)
  · exact sound.withCaller ⟨not_lt.mp small, start⟩

/-- A round grants what fits, or waits no longer than is allowed. -/
theorem Sound.round (sound : Sound settings s) {weight : Int}
    (tries : s.callers caller = .trying weight asked) :
    Sound settings (s.round settings caller weight asked) := by
  obtain ⟨positive, known⟩ : (Caller.trying weight asked).Sound settings :=
    tries ▸ sound.callers caller
  have evicted := sound.within.evict
  unfold BudgetState.round guardedRound
  dsimp only
  by_cases fits : (usedUnlocked settings s.now (evict settings s.now s.events) : Int) + weight ≤
      settings.limit
  · rw [if_pos fits]
    have again := evicted.evict
    have still : usedUnlocked settings s.now
        (evict settings s.now (evict settings s.now s.events)) =
          usedUnlocked settings s.now (evict settings s.now s.events) := by
      rw [again.used_eq, evicted.used_eq]
    refine (sound.grant (again.grant ?_ positive)).finish (known.ended known.allowed)
    rwa [still]
  · rw [if_neg fits]
    have waiting := sound.withEvents evicted.evict
    obtain ⟨least, most⟩ := waitStep_bounds settings s.now
      (evict settings s.now (evict settings s.now s.events))
    set delay := waitStep settings s.now (evict settings s.now (evict settings s.now s.events))
    dsimp only
    split_ifs with late
    · exact waiting.finish (known.ended known.allowed)
    · have positive' : 0 < delay := leastWait_pos.trans_le least
      refine waiting.withCaller ⟨positive, least, not_lt.mp late, ?_, ?_, ?_⟩
      · rw [sleepWithProgress_chunk positive' most]
        exact le_rfl
      · rw [sum_sleepWithProgress positive'.le]
        exact positive'.le
      · rwa [sum_sleepWithProgress positive'.le, add_sub_cancel_right]

/-- What a caller does on its own keeps the budget, and brings it closer to its end. -/
theorem Sound.move (sound : Sound settings s) (moves : Move settings caller s next) :
    Sound settings next := by
  cases moves with
  | round tries => exact sound.round tries
  | @sleep weight asked delay step left sleeps =>
    obtain ⟨positive, least, allowed, single, nonneg, known⟩ :
        (Caller.sleeping weight asked delay (step :: left)).Sound settings :=
      sleeps ▸ sound.callers caller
    obtain rfl : left = [] := List.length_eq_zero_iff.mp (by simpa using single)
    refine sound.withCaller ⟨positive, least, allowed, Nat.zero_le _, le_rfl, ?_⟩
    have asks := known.asks step
    simp only [List.sum_cons, List.sum_nil, add_zero, sub_add_cancel, sub_zero] at asks ⊢
    exact asks
  | @interrupt weight asked delay left e sleeps =>
    obtain ⟨-, -, allowed, -, nonneg, known⟩ :
        (Caller.sleeping weight asked delay left).Sound settings := sleeps ▸ sound.callers caller
    exact sound.finish (known.ended ((sub_le_self _ nonneg).trans allowed))
  | @wake weight asked delay sleeps =>
    obtain ⟨positive, least, allowed, -, -, known⟩ :
        (Caller.sleeping weight asked delay []).Sound settings := sleeps ▸ sound.callers caller
    exact sound.withCaller ⟨positive, known.waits least allowed (by simp)⟩

theorem Sound.step (sound : Sound settings s) (step : Step settings s next) :
    Sound settings next := by
  cases step with
  | call caller weight => exact sound.call caller weight
  | move moves => exact sound.move moves
  | pass forward =>
    exact ⟨sound.within.mono (le_add_of_nonneg_right forward), sound.callers, sound.finished⟩

theorem sound_of_reachable (reachable : Reachable settings s) : Sound settings s := by
  obtain ⟨now, reaches⟩ := reachable
  induction reaches with
  | refl => exact sound_start settings now
  | tail _ step ih => exact Sound.step ih step

/-! ## Ends -/

@[simp] theorem withCaller_self : (s.withCaller caller phase).callers caller = phase :=
  Function.update_self ..

@[simp] theorem finish_self : (s.finish caller asked outcome).callers caller = .idle :=
  Function.update_self ..

/-- After a round a caller is done, or asleep for a wait. -/
theorem round_callers (settings : Settings) (s : BudgetState) (caller : Nat) (weight : Int)
    (asked : Asked) : (s.round settings caller weight asked).callers caller = .idle ∨
      ∃ delay left, (s.round settings caller weight asked).callers caller =
        .sleeping weight asked delay left := by
  unfold BudgetState.round
  split
  · exact .inl finish_self
  · split
    · exact .inl finish_self
    · exact .inr ⟨_, _, withCaller_self⟩

/-- A move brings its caller closer to the end. -/
theorem Sound.rank_lt (sound : Sound settings s) (moves : Move settings caller s next) :
    (next.callers caller).rank settings < (s.callers caller).rank settings := by
  cases moves with
  | @round weight asked tries =>
    have known : (Caller.trying weight asked).Sound settings := tries ▸ sound.callers caller
    have few := known.2.rounds_le
    have after := (sound.round tries).callers caller
    rw [tries]
    rcases round_callers settings s caller weight asked with idle | ⟨delay, left, sleeps⟩
    · rw [idle]
      simp only [Caller.rank]
      omega
    · rw [sleeps] at after ⊢
      obtain ⟨-, -, -, single, -⟩ := after
      simp only [Caller.rank]
      omega
  | sleep sleeps =>
    rw [sleeps, withCaller_self]
    simp [Caller.rank]
  | @interrupt weight asked delay left e sleeps =>
    rw [sleeps, finish_self]
    simp only [Caller.rank]
    omega
  | @wake weight asked delay sleeps =>
    obtain ⟨-, least, allowed, -, -, known⟩ :
        (Caller.sleeping weight asked delay []).Sound settings := sleeps ▸ sound.callers caller
    have few := (known.waits least allowed (by simp)).rounds_le
    rw [sleeps, withCaller_self]
    simp only [Caller.rank, List.length_nil] at few ⊢
    omega

theorem round_others (settings : Settings) (s : BudgetState) {caller other : Nat} (weight : Int)
    (asked : Asked) (differ : other ≠ caller) :
    (s.round settings caller weight asked).callers other = s.callers other := by
  unfold BudgetState.round
  split
  · exact Function.update_of_ne differ ..
  · split
    · exact Function.update_of_ne differ ..
    · exact Function.update_of_ne differ ..

/-- A move leaves the other callers where they are. -/
theorem Move.others (moves : Move settings caller s next) {other : Nat} (differ : other ≠ caller) :
    next.callers other = s.callers other := by
  cases moves with
  | round => exact round_others settings s _ _ differ
  | sleep => exact Function.update_of_ne differ ..
  | interrupt => exact Function.update_of_ne differ ..
  | wake => exact Function.update_of_ne differ ..

/-- A caller that is not done has a move. -/
theorem exists_move (settings : Settings) (busy : s.callers caller ≠ .idle) :
    ∃ next, Move settings caller s next := by
  cases phase : s.callers caller with
  | idle => exact absurd phase busy
  | trying weight asked => exact ⟨_, .round phase⟩
  | sleeping weight asked delay left =>
    cases left with
    | nil => exact ⟨_, .wake phase⟩
    | cons step left => exact ⟨_, .sleep phase⟩

theorem Sound.ended (sound : Sound settings s) (going : (s.callers caller).asked = some asked) :
    asked.Ended settings := by
  have known := sound.callers caller
  cases phase : s.callers caller with
  | idle => simp [phase, Caller.asked] at going
  | trying weight other =>
    rw [phase] at going known
    obtain rfl := Option.some.inj going
    exact known.2.ended known.2.allowed
  | sleeping weight other delay left =>
    rw [phase] at going known
    obtain rfl := Option.some.inj going
    obtain ⟨-, -, allowed, -, nonneg, known⟩ := known
    exact known.ended ((sub_le_self _ nonneg).trans allowed)

end callers

def sampleSettings : Settings where
  limit := 20
  windowSeconds := 60
  maxWaitSeconds := 60
  limit_nonneg := by decide
  maxWait_nonneg := by norm_num

def contended : BudgetState :=
  (((BudgetState.start 0).call sampleSettings 0 20).round sampleSettings 0 20 ⟨0, 0, []⟩).call
    sampleSettings 1 20 |>.round sampleSettings 1 20 ⟨0, 0, []⟩

theorem contended_reachable : Reachable sampleSettings contended :=
  ⟨0, .tail (.tail (.tail (.single (.call 0 20 rfl)) (.move (.round rfl))) (.call 1 20 rfl))
    (.move (.round rfl))⟩

end AlphaTrade.Market.RequestBudget
