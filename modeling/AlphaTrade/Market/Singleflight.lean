import Mathlib
import AlphaTrade.Market.Klines

/-!
# One load at a time, and no caller left behind

A flight belongs to the caller that leads it until it is cleared, so a key has one leader. What a
flight brings is set once, by its leader, and a caller that waits has a leader to wait for or an
outcome to wake up to.

## Main results

* `loads_are_shared`: the protocol of the flights in every interleaving.
* `cache_is_bounded`: the bound on the entries and on their times.
-/
namespace AlphaTrade.Market.PublicRead
open Library

variable {ρ κ ν ε : Type}

namespace Phase

variable (loader : Loader ρ κ ν ε)

def led : Phase ρ ν → Option (κ × Nat)
  | .leading request flight | .stored request flight _ | .landed request flight =>
    some (loader.key request, flight)
  | .idle | .waiting _ _ => none

def flown : Phase ρ ν → Option (κ × Nat)
  | .leading request flight | .stored request flight _ => some (loader.key request, flight)
  | .idle | .landed _ _ | .waiting _ _ => none

def awaited : Phase ρ ν → Option (κ × Nat)
  | .waiting request flight => some (loader.key request, flight)
  | _ => none

theorem led_of_flown {phase : Phase ρ ν} {key : κ} {flight : Nat}
    (flies : phase.flown loader = some (key, flight)) : phase.led loader = some (key, flight) := by
  cases phase <;> first | exact flies | cases flies

end Phase

/-- What the flights, their leaders and those who wait for them have of each other. -/
structure Flown (loader : Loader ρ κ ν ε) (s : CacheState ρ κ ν ε) : Prop where
  owned : ∀ caller key flight, (s.callers caller).led loader = some (key, flight) →
    s.flights key = some flight
  single : ∀ caller other key flight, (s.callers caller).led loader = some (key, flight) →
    (s.callers other).led loader = some (key, flight) → caller = other
  led : ∀ key flight, s.flights key = some flight →
    ∃ caller, (s.callers caller).led loader = some (key, flight)
  numbered : ∀ key flight, s.flights key = some flight → flight < s.created key
  fresh : ∀ key flight, s.created key ≤ flight → s.outcomes key flight = none
  open_ : ∀ caller key flight, (s.callers caller).flown loader = some (key, flight) →
    s.outcomes key flight = none
  landed : ∀ caller request flight, s.callers caller = .landed request flight →
    s.outcomes (loader.key request) flight ≠ none
  awaited : ∀ caller key flight, (s.callers caller).awaited loader = some (key, flight) →
    s.flights key = some flight ∨ s.outcomes key flight ≠ none

variable [DecidableEq κ] {loader : Loader ρ κ ν ε} {settings : Settings}
  {s next : CacheState ρ κ ν ε} {caller flight : Nat} {request : ρ} {outcome : Except ε ν} {key : κ}

omit [DecidableEq κ] in
theorem flown_start (now : ℚ) : Flown loader (.start now) :=
  ⟨nofun, nofun, nofun, nofun, fun _ _ _ => rfl, nofun, nofun, nofun⟩

omit [DecidableEq κ] in
/-- Flights do not read the entries, the clock or the answers. -/
theorem Flown.of_same (flown : Flown loader s) (callers : next.callers = s.callers)
    (flights : next.flights = s.flights) (outcomes : next.outcomes = s.outcomes)
    (created : next.created = s.created) : Flown loader next := by
  cases s
  cases next
  dsimp only at callers flights outcomes created
  subst callers flights outcomes created
  exact ⟨flown.owned, flown.single, flown.led, flown.numbered, flown.fresh, flown.open_,
    flown.landed, flown.awaited⟩

@[grind =] theorem callers_land (other : Nat) :
    (s.land caller request key flight outcome).callers other =
      if other = caller then .landed request flight else s.callers other :=
  Function.update_apply ..

@[grind =] theorem outcomes_land (k : κ) (n : Nat) :
    (s.land caller request key flight outcome).outcomes k n =
      if k = key ∧ n = flight then some outcome else s.outcomes k n := by
  simp only [CacheState.land, CacheState.withPhase, Function.update_apply]
  split
  · rename_i same
    simp [Function.update_apply, same]
  · simp [*]

omit [DecidableEq κ] in
/-- A caller that moves on without a change to what it leads and flies. -/
theorem Flown.withPhase (flown : Flown loader s) {phase : Phase ρ ν}
    (led : phase.led loader = (s.callers caller).led loader)
    (flies : phase.flown loader = (s.callers caller).flown loader)
    (landed : ∀ request flight, phase ≠ .landed request flight)
    (waits : ∀ key flight, phase.awaited loader = some (key, flight) →
      s.flights key = some flight) : Flown loader (s.withPhase caller phase) := by
  obtain ⟨owned, single, hasLeader, numbered, fresh, open_, brought, awaited⟩ := flown
  constructor <;> simp only [CacheState.withPhase, Function.update_apply] <;> grind

/-- A caller that finds no flight of its key leads the next one. -/
theorem Flown.lead (flown : Flown loader s) (idle : s.callers caller = .idle)
    (free : s.flights (loader.key request) = none) :
    Flown loader ({ s with
      flights := Function.update s.flights (loader.key request)
        (some (s.created (loader.key request)))
      created := Function.update s.created (loader.key request)
        (s.created (loader.key request) + 1) }.withPhase caller
          (.leading request (s.created (loader.key request)))) := by
  obtain ⟨owned, single, led, numbered, fresh, open_, landed, awaited⟩ := flown
  constructor <;> simp only [CacheState.withPhase, Function.update_apply] <;>
    grind [Phase.led, Phase.flown, Phase.awaited]

/-- The leader of a flight lands it, and nobody had done so before. -/
theorem Flown.land (flown : Flown loader s)
    (flies : (s.callers caller).flown loader = some (loader.key request, flight)) :
    Flown loader (s.land caller request (loader.key request) flight outcome) := by
  have leads := Phase.led_of_flown loader flies
  have alone : ∀ other, (s.callers other).flown loader = some (loader.key request, flight) →
      other = caller := fun other flies' =>
    flown.single _ _ _ _ (Phase.led_of_flown loader flies') leads
  have same (other : Nat) : ((s.land caller request (loader.key request) flight
      outcome).callers other).led loader = (s.callers other).led loader := by
    grind [Phase.led]
  obtain ⟨owned, single, led, numbered, fresh, open_, landed, awaited⟩ := flown
  constructor
  · exact fun other => same other ▸ owned other
  · exact fun a b => same a ▸ same b ▸ single a b
  · intro k n holds
    obtain ⟨other, leads⟩ := led k n holds
    exact ⟨other, (same other).trans leads⟩
  · exact numbered
  · intro k n new
    have : s.created k ≤ n := new
    grind
  · grind [Phase.flown]
  · grind
  · intro other k n waits
    have : s.flights k = some n ∨ (s.land caller request (loader.key request) flight
      outcome).outcomes k n ≠ none := by grind [Phase.awaited]
    exact this

/-- The leader of a landed flight clears it, and those who wait for it have its outcome. -/
theorem Flown.clear (flown : Flown loader s) (landed : s.callers caller = .landed request flight) :
    Flown loader ((s.clear (loader.key request) flight).withPhase caller .idle) := by
  have leads : (s.callers caller).led loader = some (loader.key request, flight) := by
    rw [landed]
    rfl
  rw [CacheState.clear, if_pos (flown.owned caller _ flight leads)]
  obtain ⟨owned, single, led, numbered, fresh, open_, landed, awaited⟩ := flown
  constructor <;> simp only [CacheState.withPhase, Function.update_apply] <;>
    grind [Phase.led, Phase.flown, Phase.awaited]

theorem Flown.getUnlocked (flown : Flown loader s) (key : κ) :
    Flown loader (s.getUnlocked settings key).2 ∧
      (s.getUnlocked settings key).2.callers = s.callers := by
  unfold CacheState.getUnlocked
  split
  · exact ⟨flown, rfl⟩
  · split <;> exact ⟨flown.of_same rfl rfl rfl rfl, rfl⟩

theorem Flown.call (flown : Flown loader s) (idle : s.callers caller = .idle) :
    Flown loader (s.call settings caller request (loader.key request)) := by
  obtain ⟨looked, callers⟩ : Flown loader (s.getUnlocked settings (loader.key request)).2 ∧ _ :=
    flown.getUnlocked _
  unfold CacheState.call
  split
  · rename_i found
    rw [found] at looked
    exact looked.of_same rfl rfl rfl rfl
  · rename_i after found
    rw [found] at looked callers
    have idle : after.callers caller = .idle := (congrFun callers caller).trans idle
    unfold CacheState.board
    split
    · rename_i flight holds
      refine looked.withPhase (by rw [idle]; rfl) (by rw [idle]; rfl) nofun fun k n waits => ?_
      obtain ⟨rfl, rfl⟩ := Prod.mk.inj (Option.some.inj waits)
      exact holds
    · rename_i free
      exact looked.lead idle free

theorem Flown.step (flown : Flown loader s) (step : Step loader settings s next) :
    Flown loader next := by
  cases step with
  | call caller request idle => exact flown.call idle
  | fail leads =>
    exact (flown.land (by rw [leads]; rfl)).of_same rfl rfl rfl rfl
  | @store caller request flight value leads loads =>
    have kept : Flown loader (s.putUnlocked settings (loader.key request) value) :=
      flown.of_same rfl rfl rfl rfl
    have at_ : (s.putUnlocked settings (loader.key request) value).callers caller =
      .leading request flight := leads
    exact kept.withPhase (by rw [at_]; rfl) (by rw [at_]; rfl) nofun nofun
  | land stored => exact (flown.land (by rw [stored]; rfl)).of_same rfl rfl rfl rfl
  | clear landed => exact flown.clear landed
  | wake waits =>
    have follows : Flown loader (s.withPhase _ .idle) :=
      flown.withPhase (by rw [waits]; rfl) (by rw [waits]; rfl) nofun nofun
    exact follows.of_same rfl rfl rfl rfl
  | direct => exact flown.of_same rfl rfl rfl rfl
  | get key => exact (flown.getUnlocked key).1
  | invalidate => exact flown.of_same rfl rfl rfl rfl
  | pass => exact flown.of_same rfl rfl rfl rfl

theorem flown_of_reachable (reachable : Reachable loader settings s) : Flown loader s := by
  obtain ⟨now, reaches⟩ := reachable
  induction reaches with
  | refl => exact flown_start now
  | tail _ step ih => exact Flown.step ih step

/-- What a flight has brought is not changed. -/
theorem Flown.outcomes_step (flown : Flown loader s) (step : Step loader settings s next)
    (set : s.outcomes key flight = some outcome) : next.outcomes key flight = some outcome := by
  have landing {caller : Nat} {request : ρ} {n : Nat} {other : Except ε ν}
      (flies : (s.callers caller).flown loader = some (loader.key request, n)) :
      (s.land caller request (loader.key request) n other).outcomes key flight = some outcome := by
    rw [outcomes_land, if_neg, set]
    rintro ⟨rfl, rfl⟩
    cases set.symm.trans (flown.open_ caller _ _ flies)
  have looking (k : κ) : (s.getUnlocked settings k).2.outcomes = s.outcomes := by
    unfold CacheState.getUnlocked
    split
    · rfl
    · split <;> rfl
  cases step with
  | call caller request =>
    have looked := looking (loader.key request)
    unfold CacheState.call
    split
    · rename_i found
      rw [found] at looked
      exact (congrFun (congrFun looked key) flight).trans set
    · rename_i found
      rw [found] at looked
      unfold CacheState.board
      split <;> exact (congrFun (congrFun looked key) flight).trans set
  | fail leads => exact landing (by rw [leads]; rfl)
  | land stored => exact landing (by rw [stored]; rfl)
  | @clear caller request n landed =>
    unfold CacheState.clear
    split <;> exact set
  | get k => exact (congrFun (congrFun (looking k) key) flight).trans set
  | store | wake | direct | invalidate | pass => exact set

/-- **Loads are shared.** In every interleaving a key has one leader at most, a caller that waits
has an outcome to take or a leader who has yet to bring it, and an outcome is the same for all who
take it, however late they wake. -/
theorem loads_are_shared (reachable : Reachable loader settings s) :
    (∀ caller other key flight flight', (s.callers caller).led loader = some (key, flight) →
      (s.callers other).led loader = some (key, flight') → caller = other) ∧
    (∀ caller request flight, s.callers caller = .waiting request flight →
      (∃ outcome, s.outcomes (loader.key request) flight = some outcome) ∨
      ∃ leader, (s.callers leader).flown loader = some (loader.key request, flight)) ∧
    ∀ later, Relation.ReflTransGen (Step loader settings) s later → ∀ key flight outcome,
      s.outcomes key flight = some outcome → later.outcomes key flight = some outcome := by
  have flown := flown_of_reachable reachable
  refine ⟨fun caller other key flight flight' leads also => ?_,
    fun caller request flight waits => ?_, fun later reaches key flight outcome set => ?_⟩
  · obtain rfl := Option.some.inj ((flown.owned caller key flight leads).symm.trans
      (flown.owned other key flight' also))
    exact flown.single caller other key flight leads also
  · rcases flown.awaited caller (loader.key request) flight (by rw [waits]; rfl) with holds | set
    · obtain ⟨leader, leads⟩ := flown.led _ _ holds
      cases at_ : s.callers leader with
      | landed r n =>
        rw [at_] at leads
        obtain ⟨same, rfl⟩ := Prod.mk.inj (Option.some.inj leads)
        have brought := flown.landed leader r n at_
        rw [same] at brought
        exact .inl (Option.ne_none_iff_exists'.mp brought)
      | idle | waiting =>
        rw [at_] at leads
        cases leads
      | leading | stored =>
        rw [at_] at leads
        exact .inr ⟨leader, by rw [at_]; exact leads⟩
    · exact .inl (Option.ne_none_iff_exists'.mp set)
  · induction reaches with
    | refl => exact set
    | tail reached step ih =>
      obtain ⟨now, reaches⟩ := reachable
      exact (flown_of_reachable ⟨now, reaches.trans reached⟩).outcomes_step step ih

/-! ## The bound -/

/-- The entries are within the bound, and were stored before now. -/
structure Small (settings : Settings) (s : CacheState ρ κ ν ε) : Prop where
  short : s.entries.keys.length ≤ settings.maxEntries
  past : ∀ key storedAt value, s.entries.find key = some (storedAt, value) → storedAt ≤ s.now

omit [DecidableEq κ] in
theorem Small.of_same (small : Small settings s) (entries : next.entries = s.entries)
    (now : s.now ≤ next.now) : Small settings next := by
  refine ⟨entries ▸ small.short, fun key storedAt value found => ?_⟩
  rw [entries] at found
  exact (small.past key storedAt value found).trans now

theorem Small.erase (small : Small settings s) (key : κ) :
    Small settings { s with entries := s.entries.erase key } :=
  ⟨(List.length_filter_le ..).trans small.short,
    fun _ _ _ found => small.past _ _ _ (Table.find_of_erase found)⟩

theorem Small.getUnlocked (small : Small settings s) (key : κ) :
    Small settings (s.getUnlocked settings key).2 := by
  unfold CacheState.getUnlocked
  split
  · exact small
  · rename_i storedAt value found
    split
    · exact small.erase key
    · refine ⟨(Table.length_moved_le found).trans small.short, fun other at_ value' moved => ?_⟩
      rcases Table.find_put_cases moved with ⟨rfl, same⟩ | ⟨-, kept⟩
      · obtain ⟨rfl, rfl⟩ := Prod.mk.inj same
        exact small.past _ _ _ found
      · exact small.past _ _ _ (Table.find_of_erase kept)

theorem Small.put (small : Small settings s) (key : κ) (value : ν) :
    Small settings (s.putUnlocked settings key value) := by
  refine ⟨Table.length_latest_le _ _, fun other at_ value' kept => ?_⟩
  rcases Table.find_put_cases (Table.find_of_restrict kept) with ⟨rfl, same⟩ | ⟨-, kept⟩
  · obtain ⟨rfl, -⟩ := Prod.mk.inj same
    exact le_rfl
  · exact small.past _ _ _ (Table.find_of_erase kept)

theorem Small.step (small : Small settings s) (step : Step loader settings s next) :
    Small settings next := by
  cases step with
  | call caller request =>
    have looked := small.getUnlocked (loader.key request)
    unfold CacheState.call
    split
    · rename_i found
      rw [found] at looked
      exact looked.of_same rfl le_rfl
    · rename_i found
      rw [found] at looked
      unfold CacheState.board
      split <;> exact looked.of_same rfl le_rfl
  | store => exact (small.put _ _).of_same rfl le_rfl
  | clear =>
    unfold CacheState.clear
    split <;> exact small.of_same rfl le_rfl
  | get key => exact small.getUnlocked key
  | invalidate key => exact small.erase key
  | pass forward => exact small.of_same rfl (le_add_of_nonneg_right forward)
  | fail | land | wake | direct => exact small.of_same rfl le_rfl

/-- **The cache is bounded.** In every interleaving it keeps as many entries as it may at most, one
for a key, and none that is stored later than now. -/
theorem cache_is_bounded (reachable : Reachable loader settings s) :
    s.entries.keys.length ≤ settings.maxEntries ∧
      ∀ key storedAt value, s.entries.find key = some (storedAt, value) → storedAt ≤ s.now := by
  obtain ⟨now, reaches⟩ := reachable
  suffices Small settings s from ⟨this.short, this.past⟩
  induction reaches with
  | refl => exact ⟨Nat.zero_le _, nofun⟩
  | tail _ step ih => exact Small.step ih step

def sevens : Loader Unit Unit Nat Unit where
  key := id
  Loads _ outcome := outcome = .ok 7

def asked : CacheState Unit Unit Nat Unit := (CacheState.start 0).call klineCache 0 () ()

theorem asked_reachable : Reachable sevens klineCache asked := ⟨0, .single (.call 0 () rfl)⟩

/-- The second of two callers waits for the load of the first one. -/
theorem joined_has_leader :
    (asked.call klineCache 1 () ()).callers 1 = .waiting () 0 ∧
      ∃ leader, ((asked.call klineCache 1 () ()).callers leader).flown sevens = some ((), 0) := by
  have waits : (asked.call klineCache 1 () ()).callers 1 = .waiting () 0 := rfl
  obtain ⟨now, reaches⟩ := asked_reachable
  have joined : Reachable sevens klineCache (asked.call klineCache 1 () ()) :=
    ⟨now, reaches.tail (.call 1 () rfl)⟩
  refine ⟨waits, ((loads_are_shared joined).2.1 1 () 0 waits).resolve_left ?_⟩
  rintro ⟨outcome, set⟩
  cases set

theorem stored_is_bounded :
    ((asked.putUnlocked klineCache () 7).withPhase 0 (.stored () 0 7)).entries.keys = [()] ∧
      ((asked.putUnlocked klineCache () 7).withPhase 0 (.stored () 0 7)).entries.keys.length ≤
        64 := by
  obtain ⟨now, reaches⟩ := asked_reachable
  have leads : asked.callers 0 = .leading () 0 := rfl
  have stored : Reachable sevens klineCache
      ((asked.putUnlocked klineCache () 7).withPhase 0 (.stored () 0 7)) :=
    ⟨now, reaches.tail (.store leads rfl)⟩
  exact ⟨rfl, (cache_is_bounded stored).1⟩

end AlphaTrade.Market.PublicRead
