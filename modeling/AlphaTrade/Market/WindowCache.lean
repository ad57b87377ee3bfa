import Mathlib.Algebra.Order.Field.Rat
import AlphaTrade.Library.Run
import AlphaTrade.Library.Table

/-!
# One reader of a closed window

Fetches of one window are serialized by a lock that the cache hands out under its guard and that
the caller takes afterwards. In between the lock is not locked, and whatever prunes idle locks may
drop it, so that the next caller is handed another one. Where no lock is dropped that a thread has
been handed and not taken yet, a window has one reader at a time.

A method that runs under the guard is one step. The clock of `put` is read before.
-/
namespace AlphaTrade.Market.WindowCache
open Library

/-! ## The cache -/

structure CacheKey where
  policy : String
  symbol : String
  start : String
  finish : String
  deriving DecidableEq, Repr

structure CacheEntry (α : Type) where
  rows : List α
  fingerprint : String
  storedAt : ℚ

/-- What the cache is built with, and `agg_trade_fingerprint`. -/
structure Settings (α : Type) where
  maxEntries : Nat
  ttlSeconds : ℚ
  maxRows : Nat
  fingerprint : List α → String
  one_le_entries : 1 ≤ maxEntries
  ttl_pos : 0 < ttlSeconds
  one_le_rows : 1 ≤ maxRows

/-- Where a thread is with the window that it fetches. -/
inductive Phase (α : Type) where
  | idle
  | handed (key : CacheKey) (lock : Nat)
  | holding (key : CacheKey) (lock : Nat)
  | storing (key : CacheKey) (lock : Nat) (rows : List α) (storedAt : ℚ)
  | released (key : CacheKey)

structure CacheState (α : Type) where
  entries : Table CacheKey (CacheEntry α)
  locks : Table CacheKey Nat
  locked : Nat → Bool
  created : Nat
  corrections : Nat
  now : ℚ
  threads : Nat → Phase α
  /-- What was stored, latest first. No step reads it. -/
  stored : List (CacheKey × CacheEntry α)

namespace CacheState

variable {α : Type} (settings : Settings α) (s : CacheState α)

def start (now : ℚ) : CacheState α where
  entries := .empty
  locks := .empty
  locked _ := false
  created := 0
  corrections := 0
  now := now
  threads _ := .idle
  stored := []

def withPhase (thread : Nat) (phase : Phase α) : CacheState α :=
  { s with threads := Function.update s.threads thread phase }

/-- `_fresh_entry`. -/
def freshEntry (key : CacheKey) : Option (CacheEntry α) :=
  (s.entries.find key).filter fun entry => s.now - entry.storedAt ≤ settings.ttlSeconds

/-- `get`. -/
def get (key : CacheKey) : Option (List α) × CacheState α :=
  match s.freshEntry settings key with
  | none => (none, s)
  | some entry => (some entry.rows, { s with entries := (s.entries.erase key).put key entry })

/-- `lock_for`. -/
def lockFor (key : CacheKey) : Nat × CacheState α :=
  match s.locks.find key with
  | some lock => (lock, s)
  | none => (s.created, { s with
      locks := s.locks.put key s.created
      created := s.created + 1 })

def idleLock (key : CacheKey) : Bool := (s.locks.find key).any fun lock => !s.locked lock

/-- `_prune_locks`. -/
def pruneLocks : CacheState α :=
  { s with locks := s.locks.restrict fun key => key ∈ s.entries.keys || !s.idleLock key }

/-- `popitem(last=False)` until the length is right. -/
def trim (entries : Table CacheKey (CacheEntry α)) : Table CacheKey (CacheEntry α) :=
  entries.restrict fun key => key ∈ entries.keys.drop (entries.keys.length - settings.maxEntries)

/-- The part of `put` under the guard. -/
def put (key : CacheKey) (entry : CacheEntry α) : CacheState α :=
  let corrected := (s.entries.find key).any fun prior => prior.fingerprint ≠ entry.fingerprint
  pruneLocks { s with
    corrections := if corrected then s.corrections + 1 else s.corrections
    entries := trim settings ((s.entries.erase key).put key entry)
    stored := (key, entry) :: s.stored }

/-- `release_idle`. -/
def releaseIdle (key : CacheKey) : CacheState α :=
  if s.idleLock key ∧ key ∉ s.entries.keys then { s with locks := s.locks.erase key } else s

/-- `drop_symbol`, of a symbol in capitals. -/
def dropSymbol (token : String) : CacheState α :=
  { s with
    entries := s.entries.restrict fun key => key.symbol ≠ token
    locks := s.locks.restrict fun key => !(key.symbol = token && s.idleLock key) }

end CacheState

/-! ## The threads -/

inductive Action (α : Type) where
  | lockFor (thread : Nat) (key : CacheKey)
  | acquire (thread : Nat)
  | get (thread : Nat)
  | stamp (thread : Nat) (rows : List α)
  | store (thread : Nat)
  | release (thread : Nat)
  | releaseIdle (thread : Nat)
  | leave (thread : Nat)
  | dropSymbol (token : String)
  | pass (seconds : ℚ)

variable {α : Type} (settings : Settings α)

/-- One step of one thread. A step that the thread is not at changes nothing, as does waiting for
a lock that is locked. -/
def step (s : CacheState α) : Action α → CacheState α
  | .lockFor thread key =>
    match s.threads thread with
    | .idle => (s.lockFor key).2.withPhase thread (.handed key (s.lockFor key).1)
    | _ => s
  | .acquire thread =>
    match s.threads thread with
    | .handed key lock =>
      if s.locked lock then s
      else { s with locked := Function.update s.locked lock true }.withPhase thread
        (.holding key lock)
    | _ => s
  | .get thread =>
    match s.threads thread with
    | .holding key _ => (s.get settings key).2
    | _ => s
  | .stamp thread rows =>
    match s.threads thread with
    | .holding key lock =>
      -- a window with more rows is not stored
      if settings.maxRows < rows.length then s
      else s.withPhase thread (.storing key lock rows s.now)
    | _ => s
  | .store thread =>
    match s.threads thread with
    | .storing key lock rows storedAt =>
      (s.put settings key ⟨rows, settings.fingerprint rows, storedAt⟩).withPhase thread
        (.holding key lock)
    | _ => s
  | .release thread =>
    match s.threads thread with
    | .holding key lock =>
      { s with locked := Function.update s.locked lock false }.withPhase thread (.released key)
    | _ => s
  | .releaseIdle thread =>
    match s.threads thread with
    | .released key => (s.releaseIdle key).withPhase thread .idle
    | _ => s
  | .leave thread =>
    match s.threads thread with
    | .released _ => s.withPhase thread .idle
    | _ => s
  | .dropSymbol token => s.dropSymbol token
  | .pass seconds => if 0 ≤ seconds then { s with now := s.now + seconds } else s

def Phase.held : Phase α → Option (CacheKey × Nat)
  | .holding key lock | .storing key lock _ _ => some (key, lock)
  | _ => none

def Phase.known : Phase α → Option (CacheKey × Nat)
  | .handed key lock | .holding key lock | .storing key lock _ _ => some (key, lock)
  | _ => none

def OneReader (s : CacheState α) : Prop :=
  ∀ (t u : Nat) (key : CacheKey) (l m : Nat), (s.threads t).held = some (key, l) →
    (s.threads u).held = some (key, m) → t = u

def Drops (s : CacheState α) (action : Action α) (key : CacheKey) : Prop :=
  (s.locks.find key).isSome ∧ (step settings s action).locks.find key = none

def Spares (s : CacheState α) (action : Action α) : Prop :=
  ∀ thread key lock, s.threads thread = .handed key lock → ¬ Drops settings s action key

/-! ## Who holds which lock -/

variable {settings : Settings α} {s : CacheState α}

variable {phase : Phase α} {key : CacheKey} {lock : Nat} {next : CacheState α} {action : Action α}

theorem Phase.known_of_held (holds : phase.held = some (key, lock)) :
    phase.known = some (key, lock) := by
  cases phase <;> first | exact holds | cases holds

theorem Phase.known_cases (knows : phase.known = some (key, lock)) :
    phase = .handed key lock ∨ phase.held = some (key, lock) := by
  cases phase with
  | handed key lock =>
    obtain ⟨rfl, rfl⟩ := Prod.mk.inj (Option.some.inj knows)
    exact .inl rfl
  | holding key lock => exact .inr knows
  | storing key lock rows storedAt => exact .inr knows
  | idle => cases knows
  | released key => cases knows

/-- Every lock that a thread has been handed is the one in the table, and a lock that is held is
locked and held once. -/
structure Exclusive (s : CacheState α) : Prop where
  tabled : ∀ t key lock, (s.threads t).known = some (key, lock) → s.locks.find key = some lock
  taken : ∀ t key lock, (s.threads t).held = some (key, lock) → s.locked lock = true
  single : ∀ t u key key' lock, (s.threads t).held = some (key, lock) →
    (s.threads u).held = some (key', lock) → t = u

theorem Exclusive.oneReader (exclusive : Exclusive s) : OneReader s := by
  intro t u key l m left right
  have first := exclusive.tabled t key l (Phase.known_of_held left)
  have second := exclusive.tabled u key m (Phase.known_of_held right)
  rw [first] at second
  obtain rfl := Option.some.inj second
  exact exclusive.single t u key key l left right

theorem exclusive_start (now : ℚ) : Exclusive (CacheState.start now : CacheState α) :=
  ⟨nofun, nofun, nofun⟩

/-- A step of one thread, from what it does to its own phase and to the locks of the others. -/
theorem Exclusive.move (exclusive : Exclusive s) (t : Nat) (phase : Phase α)
    (threads : next.threads = Function.update s.threads t phase)
    (tabled : ∀ u key lock, u ≠ t → (s.threads u).known = some (key, lock) → next.locks.find key =
      some lock)
    (own : ∀ key lock, phase.known = some (key, lock) → next.locks.find key = some lock)
    (taken : ∀ u key lock, u ≠ t → (s.threads u).held = some (key, lock) → next.locked lock = true)
    (took : ∀ key lock, phase.held = some (key, lock) → next.locked lock = true ∧ ∀ u key', u ≠ t →
      (s.threads u).held ≠ some (key', lock)) :
    Exclusive next := by
  have at_t : next.threads t = phase := by rw [threads, Function.update_self]
  have others : ∀ u, u ≠ t → next.threads u = s.threads u := fun u other => by
    rw [threads, Function.update_of_ne other]
  refine ⟨?_, ?_, ?_⟩
  · intro u key lock knows
    rcases eq_or_ne u t with rfl | other
    · exact own key lock (at_t ▸ knows)
    · exact tabled u key lock other (others u other ▸ knows)
  · intro u key lock holds
    rcases eq_or_ne u t with rfl | other
    · exact (took key lock (at_t ▸ holds)).1
    · exact taken u key lock other (others u other ▸ holds)
  · intro u v key key' lock left right
    rcases eq_or_ne u t with isU | otherU <;> rcases eq_or_ne v t with isV | otherV
    · exact isU.trans isV.symm
    · rw [isU, at_t] at left
      exact absurd (others v otherV ▸ right) ((took key lock left).2 v key' otherV)
    · rw [isV, at_t] at right
      exact absurd (others u otherU ▸ left) ((took key' lock right).2 u key otherU)
    · exact exclusive.single u v key key' lock (others u otherU ▸ left) (others v otherV ▸ right)

/-- A step that only touches locks that nobody needs. -/
theorem Exclusive.rest (exclusive : Exclusive s) (threads : next.threads = s.threads)
    (locked : next.locked = s.locked)
    (tabled : ∀ u key lock, (s.threads u).known = some (key, lock) → next.locks.find key =
      some lock) :
    Exclusive next := by
  refine ⟨?_, ?_, ?_⟩
  · rw [threads]
    exact tabled
  · rw [threads, locked]
    exact exclusive.taken
  · rw [threads]
    exact exclusive.single

/-! ## What is pruned -/

def Prunes (s next : CacheState α) : Prop :=
  ∀ key, next.locks.find key = s.locks.find key ∨
    next.locks.find key = none ∧ s.idleLock key = true

theorem prunes_restrict {locks : Table CacheKey Nat} {kept : CacheKey → Bool}
    (idle : ∀ key, kept key = false → s.idleLock key = true)
    (same : locks = s.locks.restrict kept) (key : CacheKey) :
    locks.find key = s.locks.find key ∨ locks.find key = none ∧ s.idleLock key = true := by
  rw [same, Table.find_restrict]
  cases keeps : kept key
  · exact .inr ⟨rfl, idle key keeps⟩
  · exact .inl rfl

theorem prunes_put (key : CacheKey) (entry : CacheEntry α) :
    Prunes s (s.put settings key entry) := by
  refine prunes_restrict ?_ rfl
  intro key dropped
  simp only [Bool.or_eq_false_iff, Bool.not_eq_false'] at dropped
  exact dropped.2

theorem prunes_dropSymbol (token : String) : Prunes s (s.dropSymbol token) := by
  refine prunes_restrict ?_ rfl
  intro key dropped
  simp only [Bool.not_eq_false', Bool.and_eq_true] at dropped
  exact dropped.2

theorem prunes_releaseIdle (key : CacheKey) : Prunes s (s.releaseIdle key) := by
  intro other
  unfold CacheState.releaseIdle
  split_ifs with drops
  · rcases eq_or_ne other key with rfl | differ
    · exact .inr ⟨Function.update_self .., drops.1⟩
    · exact .inl (Function.update_of_ne differ ..)
  · exact .inl rfl

/-- What is pruned by a step that spares the locks that were handed out is no lock that a thread
knows. -/
theorem Exclusive.known_of_prunes (exclusive : Exclusive s) (spares : Spares settings s action)
    (next : CacheState α) (isNext : next.locks = (step settings s action).locks)
    (prunes : Prunes s next) (u : Nat) (key : CacheKey) (lock : Nat)
    (knows : (s.threads u).known = some (key, lock)) : next.locks.find key = some lock := by
  have found := exclusive.tabled u key lock knows
  rcases prunes key with same | ⟨dropped, idle⟩
  · exact same.trans found
  rcases Phase.known_cases knows with handed | held
  · rw [isNext] at dropped
    exact absurd ⟨by rw [found]; rfl, dropped⟩ (spares u key lock handed)
  · have := exclusive.taken u key lock held
    simp [CacheState.idleLock, found, this] at idle

theorem Exclusive.step (exclusive : Exclusive s) (spares : Spares settings s action) :
    Exclusive (step settings s action) := by
  have known := exclusive.known_of_prunes spares
  cases action with
  | lockFor t key =>
    simp only [WindowCache.step]
    cases at_t : s.threads t with
    | idle =>
      -- the lock is the one in the table, or a new one for a window that nobody has a lock of
      have found : (s.lockFor key).2.locks.find key = some (s.lockFor key).1 := by
        unfold CacheState.lockFor
        cases isFound : s.locks.find key with
        | some lock => exact isFound
        | none => exact Table.find_put_self ..
      have kept : ∀ other lock, s.locks.find other = some lock →
          (s.lockFor key).2.locks.find other = some lock := by
        intro other lock isFound
        unfold CacheState.lockFor
        cases missing : s.locks.find key with
        | some _ => exact isFound
        | none => exact Table.find_put_kept missing isFound _
      have untouched : (s.lockFor key).2.threads = s.threads ∧
          (s.lockFor key).2.locked = s.locked := by
        unfold CacheState.lockFor
        cases s.locks.find key <;> exact ⟨rfl, rfl⟩
      refine exclusive.move t (.handed key (s.lockFor key).1) ?_ ?_ ?_ ?_ nofun
      · exact congrArg (Function.update · t _) untouched.1
      · exact fun u other lock _ knows => kept other lock (exclusive.tabled u other lock knows)
      · intro other lock own
        obtain ⟨rfl, rfl⟩ := Prod.mk.inj (Option.some.inj own)
        exact found
      · intro u other lock _ holds
        exact (congrFun untouched.2 lock).trans (exclusive.taken u other lock holds)
    | _ => exact exclusive
  | acquire t =>
    simp only [WindowCache.step]
    cases at_t : s.threads t with
    | handed key lock =>
      dsimp only
      split_ifs with locked
      · exact exclusive
      have knows : (s.threads t).known = some (key, lock) := by rw [at_t]; rfl
      refine exclusive.move t (.holding key lock) rfl ?_ ?_ ?_ ?_
      · exact fun u other m _ => exclusive.tabled u other m
      · intro other m own
        obtain ⟨rfl, rfl⟩ := Prod.mk.inj (Option.some.inj own)
        exact exclusive.tabled t key lock knows
      · intro u other m _ holds
        have := exclusive.taken u other m holds
        by_cases same : m = lock
        · exact same ▸ Function.update_self ..
        · exact (Function.update_of_ne same ..).trans this
      · intro other m own
        obtain ⟨rfl, rfl⟩ := Prod.mk.inj (Option.some.inj own)
        refine ⟨Function.update_self .., ?_⟩
        intro u other _ holds
        exact locked (exclusive.taken u other lock holds)
    | _ => exact exclusive
  | get t =>
    simp only [WindowCache.step]
    cases s.threads t with
    | holding key lock =>
      dsimp only
      unfold CacheState.get
      cases s.freshEntry settings key with
      | none => exact exclusive
      | some entry => exact exclusive.rest rfl rfl exclusive.tabled
    | _ => exact exclusive
  | stamp t rows =>
    simp only [WindowCache.step]
    cases at_t : s.threads t with
    | holding key lock =>
      dsimp only
      split_ifs
      · exact exclusive
      have holds : (s.threads t).held = some (key, lock) := by rw [at_t]; rfl
      refine exclusive.move t (.storing key lock rows s.now) rfl ?_ ?_ ?_ ?_
      · exact fun u other m _ => exclusive.tabled u other m
      · exact fun other m own => exclusive.tabled t other m (Phase.known_of_held (holds.trans own))
      · exact fun u other m _ => exclusive.taken u other m
      · intro other m own
        refine ⟨exclusive.taken t other m (holds.trans own), fun u key' differ => ?_⟩
        exact fun also => differ (exclusive.single u t key' other m also (holds.trans own))
    | _ => exact exclusive
  | store t =>
    simp only [WindowCache.step] at known ⊢
    cases at_t : s.threads t with
    | storing key lock rows storedAt =>
      rw [at_t] at known
      have holds : (s.threads t).held = some (key, lock) := by rw [at_t]; rfl
      set entry : CacheEntry α := ⟨rows, settings.fingerprint rows, storedAt⟩
      have kept := known (s.put settings key entry) rfl (prunes_put key entry)
      refine exclusive.move t (.holding key lock) rfl ?_ ?_ ?_ ?_
      · exact fun u other m _ => kept u other m
      · exact fun other m own => kept t other m (Phase.known_of_held (holds.trans own))
      · exact fun u other m _ => exclusive.taken u other m
      · intro other m own
        refine ⟨exclusive.taken t other m (holds.trans own), fun u key' differ => ?_⟩
        exact fun also => differ (exclusive.single u t key' other m also (holds.trans own))
    | _ => exact exclusive
  | release t =>
    simp only [WindowCache.step]
    cases at_t : s.threads t with
    | holding key lock =>
      have holds : (s.threads t).held = some (key, lock) := by rw [at_t]; rfl
      refine exclusive.move t (.released key) rfl ?_ nofun ?_ nofun
      · exact fun u other m _ => exclusive.tabled u other m
      · intro u other m differ also
        have another : m ≠ lock := by
          rintro rfl
          exact differ (exclusive.single u t other key m also holds)
        exact (Function.update_of_ne another ..).trans (exclusive.taken u other m also)
    | _ => exact exclusive
  | releaseIdle t =>
    simp only [WindowCache.step] at known ⊢
    cases at_t : s.threads t with
    | released key =>
      rw [at_t] at known
      have kept := known (s.releaseIdle key) rfl (prunes_releaseIdle key)
      have untouched : (s.releaseIdle key).threads = s.threads ∧
          (s.releaseIdle key).locked = s.locked := by
        unfold CacheState.releaseIdle
        split_ifs <;> exact ⟨rfl, rfl⟩
      refine exclusive.move t (.idle) ?_ ?_ nofun ?_ nofun
      · exact congrArg (Function.update · t _) untouched.1
      · exact fun u other m _ => kept u other m
      · intro u other m _ holds
        exact (congrFun untouched.2 m).trans (exclusive.taken u other m holds)
    | _ => exact exclusive
  | leave t =>
    simp only [WindowCache.step]
    cases at_t : s.threads t with
    | released key =>
      exact exclusive.move t (.idle) rfl
        (fun u other m _ => exclusive.tabled u other m) nofun
        (fun u other m _ => exclusive.taken u other m) nofun
    | _ => exact exclusive
  | dropSymbol token =>
    exact exclusive.rest rfl rfl (known (s.dropSymbol token) rfl (prunes_dropSymbol token))
  | pass seconds =>
    simp only [WindowCache.step]
    split_ifs
    · exact exclusive.rest rfl rfl exclusive.tabled
    · exact exclusive

/-! ## What is cached -/

def CacheState.lastStored (s : CacheState α) (key : CacheKey) : Option (CacheEntry α) :=
  (s.stored.find? fun put => put.1 = key).map (·.2)

/-- The cache is within its bound, and an entry is what was last stored of its window. -/
structure Sound (settings : Settings α) (s : CacheState α) : Prop where
  small : s.entries.keys.length ≤ settings.maxEntries
  latest : ∀ key entry, s.entries.find key = some entry → s.lastStored key = some entry

theorem length_restrict_le (t : Table CacheKey (CacheEntry α)) (kept : CacheKey → Bool) :
    (t.restrict kept).keys.length ≤ t.keys.length := List.length_filter_le ..

theorem find_moved {t : Table CacheKey (CacheEntry α)} {other : CacheKey}
    {entry before : CacheEntry α} (found : ((t.erase key).put key entry).find other = some before) :
    other = key ∧ before = entry ∨ other ≠ key ∧ t.find other = some before := by
  rcases Table.find_put_cases found with same | ⟨differ, found⟩
  · exact .inl same
  · exact .inr ⟨differ, Table.find_of_erase found⟩

theorem Sound.of_entries (sound : Sound settings s) (entries : next.entries = s.entries)
    (stored : next.stored = s.stored) : Sound settings next := by
  refine ⟨entries ▸ sound.small, ?_⟩
  unfold CacheState.lastStored
  rw [entries, stored]
  exact sound.latest

theorem sound_start (now : ℚ) : Sound settings (CacheState.start now : CacheState α) :=
  ⟨Nat.zero_le _, nofun⟩

theorem Sound.get (sound : Sound settings s) (key : CacheKey) :
    Sound settings (s.get settings key).2 := by
  unfold CacheState.get
  cases fresh : s.freshEntry settings key with
  | none => exact sound
  | some entry =>
    have found : s.entries.find key = some entry := (Option.filter_eq_some_iff.mp fresh).1
    refine ⟨(Table.length_moved_le found).trans sound.small, ?_⟩
    intro other before isBefore
    rcases find_moved isBefore with ⟨rfl, rfl⟩ | ⟨-, kept⟩
    · exact sound.latest other before found
    · exact sound.latest other before kept

theorem Sound.put (sound : Sound settings s) (key : CacheKey) (entry : CacheEntry α) :
    Sound settings (s.put settings key entry) := by
  refine ⟨Table.length_latest_le _ _, ?_⟩
  intro other before isBefore
  have last : (s.put settings key entry).lastStored other =
      if key = other then some entry else s.lastStored other := by
    simp only [CacheState.put, CacheState.pruneLocks, CacheState.lastStored, List.find?_cons]
    by_cases same : key = other <;> simp [same]
  rw [last]
  rcases find_moved (Table.find_of_restrict isBefore) with ⟨rfl, rfl⟩ | ⟨differ, kept⟩
  · rw [if_pos rfl]
  · rw [if_neg differ.symm]
    exact sound.latest other before kept

theorem Sound.dropSymbol (sound : Sound settings s) (token : String) :
    Sound settings (s.dropSymbol token) :=
  ⟨(length_restrict_le _ _).trans sound.small,
    fun key entry found => sound.latest key entry (Table.find_of_restrict found)⟩

theorem Sound.step (sound : Sound settings s) (action : Action α) :
    Sound settings (step settings s action) := by
  cases action with
  | lockFor t key =>
    simp only [WindowCache.step]
    cases s.threads t <;> try exact sound
    unfold CacheState.lockFor
    cases s.locks.find key <;> exact sound.of_entries rfl rfl
  | get t =>
    simp only [WindowCache.step]
    cases s.threads t <;> try exact sound
    exact sound.get _
  | store t =>
    simp only [WindowCache.step]
    cases s.threads t <;> try exact sound
    exact (sound.put _ _).of_entries rfl rfl
  | releaseIdle t =>
    simp only [WindowCache.step]
    cases s.threads t <;> try exact sound
    dsimp only
    unfold CacheState.releaseIdle
    split_ifs <;> exact sound.of_entries rfl rfl
  | dropSymbol token => exact sound.dropSymbol token
  | pass seconds =>
    simp only [WindowCache.step]
    split_ifs <;> exact sound.of_entries rfl rfl
  | acquire t | stamp t _ | release t | leave t =>
    simp only [WindowCache.step]
    cases s.threads t <;> try exact sound
    all_goals dsimp only
    all_goals try split_ifs
    all_goals exact sound.of_entries rfl rfl

/-! ## Every interleaving -/

/-- What `get` returns of a window is what was last stored of it, and not too old. -/
def ServesLatest (settings : Settings α) (s : CacheState α) : Prop :=
  ∀ key rows, (s.get settings key).1 = some rows → ∃ entry, s.lastStored key = some entry ∧
    entry.rows = rows ∧ s.now - entry.storedAt ≤ settings.ttlSeconds

theorem Sound.servesLatest (sound : Sound settings s) : ServesLatest settings s := by
  intro key rows served
  unfold CacheState.get at served
  cases fresh : s.freshEntry settings key with
  | none =>
    rw [fresh] at served
    cases served
  | some entry =>
    rw [fresh] at served
    obtain ⟨found, young⟩ := Option.filter_eq_some_iff.mp fresh
    exact ⟨entry, sound.latest key entry found, Option.some.inj served, of_decide_eq_true young⟩

/-- In every interleaving the cache keeps its bound and serves what was last stored. Where no lock
is dropped that was handed out and not taken yet, a window has one reader at a time. -/
theorem one_reader_of_spares (settings : Settings α) (now : ℚ) (actions : List (Action α)) :
    let ended := run (step settings) (.start now) actions
    ended.entries.keys.length ≤ settings.maxEntries ∧ ServesLatest settings ended ∧
      (Along (step settings) (Spares settings) (.start now) actions → OneReader ended) := by
  have sound := run_invariant_of_step (step settings) (I := Sound settings)
    (fun s action sound => sound.step action) actions (sound_start now)
  refine ⟨sound.small, sound.servesLatest, fun spares => ?_⟩
  exact (run_invariant (step settings) (fun s action exclusive => exclusive.step)
    (exclusive_start now) spares).oneReader

def sampleSettings : Settings Unit where
  maxEntries := 1
  ttlSeconds := 1
  maxRows := 1
  fingerprint _ := ""
  one_le_entries := le_rfl
  ttl_pos := one_pos
  one_le_rows := le_rfl

def sampleKey : CacheKey := ⟨"v1", "BTCUSDT", "00:00", "00:05"⟩

def overtaken : List (Action Unit) :=
  [.lockFor 0 sampleKey, .acquire 0, .lockFor 1 sampleKey, .release 0, .releaseIdle 0,
    .lockFor 2 sampleKey, .acquire 1, .acquire 2]

theorem two_readers_of_one_window :
    ¬ OneReader (run (step sampleSettings) (.start 0) overtaken) := by
  intro one
  have first : ((run (step sampleSettings) (.start 0) overtaken).threads 1).held =
      some (sampleKey, 0) := by decide
  have second : ((run (step sampleSettings) (.start 0) overtaken).threads 2).held =
      some (sampleKey, 1) := by decide
  exact absurd (one 1 2 sampleKey 0 1 first second) (by decide)

theorem spares_of_locks {s : CacheState α} (kept : (step settings s action).locks = s.locks) :
    Spares settings s action := by
  rintro thread key lock - ⟨some, none⟩
  rw [kept] at none
  rw [none] at some
  cases some

theorem spares_of_none {s : CacheState α}
    (none : ∀ thread key lock, s.threads thread ≠ .handed key lock) : Spares settings s action :=
  fun thread key lock handed => absurd handed (none thread key lock)

theorem failed_fetch_spares_alone :
    OneReader (run (step sampleSettings) (.start 0)
      [.lockFor 0 sampleKey, .acquire 0, .release 0, .releaseIdle 0]) := by
  refine (one_reader_of_spares sampleSettings 0 _).2.2 ⟨spares_of_none nofun, ?_, ?_, ?_, trivial⟩
  · exact spares_of_locks rfl
  · exact spares_of_locks rfl
  · refine spares_of_none fun thread key lock handed => ?_
    rcases eq_or_ne thread 0 with rfl | other
    · cases handed
    · simp [step, CacheState.withPhase, CacheState.lockFor, CacheState.start, Function.update,
        other] at handed

end AlphaTrade.Market.WindowCache
