import Mathlib.Algebra.Order.Field.Rat
import Mathlib.Tactic.Linarith
import AlphaTrade.Library.Run

/-!
# Silence during an upstream ban

Clients share a pause, which the 418 and 429 answers of the upstream extend, and a budget of
request weight. A call asks the pause once, then waits for its weight, then starts its exchange and
its retries. A ban is respected where nothing takes the pause back while it is open, and where
whatever is past its check when a ban is noted has no exchange to start before the ban is over.

One step is one check, one attempt at the budget, the start of an exchange, or the handling of its
answer.
-/
namespace AlphaTrade.Market.UpstreamPause
open Library

/-! ## The pause and the budget -/

inductive PauseKind where
  | ban | rateLimit
  deriving DecidableEq, Repr

/-- `_until` and `_kind`, which are set together. -/
abbrev Pause := Option (ℚ × PauseKind)

/-- `remaining`: what is left of the pause, and the pause, which is dropped when it is over. -/
def Pause.remaining (pause : Pause) (now : ℚ) : Option (PauseKind × ℚ) × Pause :=
  match pause with
  | none => (none, none)
  | some (ends, kind) =>
    if ends - now ≤ 0 then (none, none) else (some (kind, ends - now), some (ends, kind))

/-- `note`. -/
def Pause.note (pause : Pause) (kind : PauseKind) (seconds now : ℚ) : Pause :=
  if seconds < 0 then pause
  else
    match pause with
    | none => some (now + seconds, kind)
    | some (ends, old) =>
      if ends ≤ now + seconds then some (now + seconds, kind) else some (ends, old)

/-- `SlidingWeightBudget`: its settings, and the weights that were reserved, oldest first. -/
structure Budget where
  limit : Nat
  windowSeconds : ℚ
  maxWaitSeconds : ℚ
  events : List (ℚ × Nat)

namespace Budget

/-- `_evict`. -/
def evict (budget : Budget) (now : ℚ) : Budget :=
  { budget with
    events := budget.events.dropWhile fun event => event.1 ≤ now - budget.windowSeconds }

def used (budget : Budget) : Nat := (budget.events.map (·.2)).sum

/-- `_wait_step`. -/
def waitStep (budget : Budget) (now : ℚ) : ℚ :=
  match budget.events with
  | [] => 5
  | (oldest, _) :: _ =>
    let remaining := budget.windowSeconds - (now - oldest)
    if remaining ≤ 0 then 1 / 20 else min (max remaining (1 / 20)) 5

/-- One turn of `acquire` under the lock: the weight is reserved, or there is a delay. -/
def attempt (budget : Budget) (weight : Nat) (now : ℚ) : Option ℚ × Budget :=
  let budget := budget.evict now
  if budget.used + weight ≤ budget.limit then
    (none, { budget with events := budget.events ++ [(now, weight)] })
  else (some (budget.waitStep now), budget)

end Budget

/-! ## Calls -/

/-- What a call is made with: its weight, and the settings of its client. -/
structure Call where
  weight : Nat
  maxRetries : Nat
  maxBackoffSeconds : ℚ

/-- What an exchange ends in. A header is the number that it spells. -/
inductive Response where
  | transportError
  | rateLimited (retryAfter : Option ℚ)
  | banned (retryAfter : Option ℚ)
  | failed
  | success

/-- `_retry_after_seconds`. -/
def retryAfterSeconds (header : Option ℚ) : Option ℚ := header.filter (0 ≤ ·)

/-- `bounded_backoff_seconds`. -/
def boundedBackoffSeconds (attempt : Nat) (retryAfter : Option ℚ) (maxBackoff : ℚ) : ℚ :=
  let cap := max maxBackoff 0
  match retryAfter.filter (0 ≤ ·) with
  | some seconds => min seconds cap
  | none => min ((min (2 ^ attempt) 8 : Nat) : ℚ) cap

/-- `_pause_seconds`. -/
def pauseSeconds (retryAfter : Option ℚ) (slept : ℚ) : ℚ :=
  match retryAfter.filter (0 ≤ ·) with
  | some seconds => seconds
  | none => max slept 0

/-- Where a thread is in `request_json`. -/
inductive Phase where
  | idle
  | waiting (call : Call) (attempt : Nat) (waited : ℚ)
  | waitingAsleep (call : Call) (attempt : Nat) (waited wake : ℚ)
  | reserved (call : Call) (attempt : Nat)
  | inFlight (call : Call) (attempt : Nat)
  | retryAsleep (call : Call) (attempt : Nat) (wake : ℚ)

def retryDelay (call : Call) (attempt : Nat) : Response → ℚ
  | .rateLimited header | .banned header =>
    boundedBackoffSeconds attempt (retryAfterSeconds header) call.maxBackoffSeconds
  | _ => boundedBackoffSeconds attempt none call.maxBackoffSeconds

def retries (call : Call) (attempt : Nat) : Response → Bool
  | .transportError | .rateLimited _ => attempt + 1 < call.maxRetries + 1
  | .banned header => attempt + 1 < call.maxRetries + 1 &&
      (retryAfterSeconds header).all (· ≤ call.maxBackoffSeconds)
  | .failed | .success => false

def afterResponse (call : Call) (attempt : Nat) (response : Response) (now : ℚ) : Phase :=
  if retries call attempt response then
    .retryAsleep call (attempt + 1) (now + retryDelay call attempt response)
  else .idle

/-- What an answer does to the pause. -/
def pauseAfter (pause : Pause) (call : Call) (attempt : Nat) (response : Response) (now : ℚ) :
    Pause :=
  let delay := retryDelay call attempt response
  match response with
  | .rateLimited header =>
    -- the last 429 belongs to the caller
    if retries call attempt response then
      pause.note .rateLimit (pauseSeconds (retryAfterSeconds header) delay) now
    else pause
  | .banned header => pause.note .ban (pauseSeconds (retryAfterSeconds header) delay) now
  | .success => none
  | .transportError | .failed => pause

/-! ## The threads -/

structure System where
  pause : Pause
  budget : Budget
  now : ℚ
  threads : Nat → Phase
  /-- The 418 answers with a `Retry-After` that were handled: when, and for how long. No step
  reads them. -/
  bans : List (ℚ × ℚ)

def start (budget : Budget) (now : ℚ) : System := ⟨none, budget, now, fun _ => .idle, []⟩

inductive Action where
  | request (thread : Nat) (call : Call)
  | acquire (thread : Nat)
  | wake (thread : Nat)
  | send (thread : Nat)
  | receive (thread : Nat) (response : Response)
  | pass (seconds : ℚ)

def System.withPhase (s : System) (thread : Nat) (phase : Phase) : System :=
  { s with threads := Function.update s.threads thread phase }

def Response.ban (response : Response) (now : ℚ) : List (ℚ × ℚ) :=
  match response with
  | .banned header => (retryAfterSeconds header).toList.map fun seconds => (now, seconds)
  | _ => []

def step (s : System) : Action → System
  | .request thread call =>
    match s.threads thread with
    | .idle =>
      let (left, pause) := s.pause.remaining s.now
      let s := { s with pause }
      if left.isNone then s.withPhase thread (.waiting call 0 0) else s
    | _ => s
  | .acquire thread =>
    match s.threads thread with
    | .waiting call attempt waited =>
      if call.weight < 1 ∨ s.budget.limit < call.weight then s.withPhase thread .idle
      else
        let (delay, budget) := s.budget.attempt call.weight s.now
        let s := { s with budget }
        match delay with
        | none => s.withPhase thread (.reserved call attempt)
        | some delay =>
          if s.budget.maxWaitSeconds < waited + delay then s.withPhase thread .idle
          else s.withPhase thread (.waitingAsleep call attempt (waited + delay) (s.now + delay))
    | _ => s
  | .wake thread =>
    match s.threads thread with
    | .waitingAsleep call attempt waited wake =>
      if wake ≤ s.now then s.withPhase thread (.waiting call attempt waited) else s
    | .retryAsleep call attempt wake =>
      if wake ≤ s.now then s.withPhase thread (.waiting call attempt 0) else s
    | _ => s
  | .send thread =>
    match s.threads thread with
    | .reserved call attempt => s.withPhase thread (.inFlight call attempt)
    | _ => s
  | .receive thread response =>
    match s.threads thread with
    | .inFlight call attempt =>
      { s with
        pause := pauseAfter s.pause call attempt response s.now
        bans := response.ban s.now ++ s.bans }.withPhase thread
          (afterResponse call attempt response s.now)
    | _ => s
  | .pass seconds => if 0 ≤ seconds then { s with now := s.now + seconds } else s

/-! ## Silence -/

def Sends (s : System) : Action → Bool
  | .send thread => match s.threads thread with
    | .reserved _ _ => true
    | _ => false
  | _ => false

def Open (now : ℚ) (ban : ℚ × ℚ) : Prop := ban.1 ≤ now ∧ now < ban.1 + ban.2

def Quiet (s : System) (action : Action) : Prop :=
  Sends s action = true → ∀ ban ∈ s.bans, ¬ Open s.now ban

instance (s : System) (action : Action) : Decidable (Quiet s action) :=
  inferInstanceAs (Decidable (_ → ∀ ban ∈ s.bans, ¬ (ban.1 ≤ s.now ∧ s.now < ban.1 + ban.2)))

def Phase.StaysUntil (ends : ℚ) : Phase → Prop
  | .waiting .. | .reserved .. => False
  | .waitingAsleep _ _ _ wake | .retryAsleep _ _ wake => ends ≤ wake
  | .idle | .inFlight .. => True

/-- An answer is handled where it neither takes an open ban back nor is retried inside it, and a
ban is noted where no other call is past its check with an exchange to start inside it. -/
def Careful (s : System) : Action → Prop
  | .receive thread response =>
    ∀ call attempt, s.threads thread = .inFlight call attempt →
      (∀ ban ∈ s.bans, Open s.now ban → response ≠ .success ∧
        (retries call attempt response = true →
          ban.1 + ban.2 ≤ s.now + retryDelay call attempt response)) ∧
      ∀ ban ∈ response.ban s.now, ∀ other, other ≠ thread →
        (s.threads other).StaysUntil (ban.1 + ban.2)
  | _ => True

/-! ## The pause outlasts the bans -/

def Pause.Lasts (pause : Pause) (ends : ℚ) : Prop :=
  ∃ stop kind, pause = some (stop, kind) ∧ ends ≤ stop

variable {ends : ℚ}

/-- A shorter pause does not shorten an open one. -/
theorem Pause.Lasts.note {pause : Pause} (lasts : pause.Lasts ends) (kind : PauseKind)
    (seconds now : ℚ) : (pause.note kind seconds now).Lasts ends := by
  obtain ⟨stop, old, rfl, le⟩ := lasts
  unfold Pause.note
  by_cases negative : seconds < 0
  · rw [if_pos negative]
    exact ⟨stop, old, rfl, le⟩
  · rw [if_neg negative]
    dsimp only
    split_ifs with later
    · exact ⟨now + seconds, kind, rfl, le.trans later⟩
    · exact ⟨stop, old, rfl, le⟩

theorem Pause.note_lasts (pause : Pause) (kind : PauseKind) {seconds : ℚ} (nonneg : 0 ≤ seconds)
    (now : ℚ) : (pause.note kind seconds now).Lasts (now + seconds) := by
  unfold Pause.note
  rw [if_neg nonneg.not_gt]
  match pause with
  | none => exact ⟨now + seconds, kind, rfl, le_rfl⟩
  | some (stop, old) =>
    dsimp only
    split_ifs with later
    · exact ⟨now + seconds, kind, rfl, le_rfl⟩
    · exact ⟨stop, old, rfl, (not_le.mp later).le⟩

variable {pause : Pause} {call : Call} {attempt : Nat} {response : Response} {now : ℚ}

/-- Only a success takes the pause back. -/
theorem Pause.Lasts.after (lasts : pause.Lasts ends) (failed : response ≠ .success) :
    (pauseAfter pause call attempt response now).Lasts ends := by
  cases response with
  | success => exact absurd rfl failed
  | rateLimited header =>
    unfold pauseAfter
    dsimp only
    split_ifs
    · exact lasts.note ..
    · exact lasts
  | banned header => exact lasts.note ..
  | transportError => exact lasts
  | failed => exact lasts

/-- The ban of an answer: its header spells a number of seconds. -/
theorem mem_ban {ban : ℚ × ℚ} (told : ban ∈ response.ban now) :
    ∃ header seconds, response = .banned header ∧ retryAfterSeconds header = some seconds ∧
      0 ≤ seconds ∧ ban = (now, seconds) := by
  cases response with
  | banned header =>
    obtain ⟨seconds, listed, rfl⟩ := List.mem_map.mp told
    have isSeconds := Option.mem_toList.mp listed
    exact ⟨header, seconds, rfl, isSeconds,
      of_decide_eq_true (Option.filter_eq_some_iff.mp isSeconds).2, rfl⟩
  | _ => cases told

/-- The whole `Retry-After` is held. -/
theorem pauseAfter_lasts {ban : ℚ × ℚ} (told : ban ∈ response.ban now) :
    (pauseAfter pause call attempt response now).Lasts (ban.1 + ban.2) := by
  obtain ⟨header, seconds, rfl, isSeconds, nonneg, rfl⟩ := mem_ban told
  have held : pauseSeconds (retryAfterSeconds header)
      (retryDelay call attempt (.banned header)) = seconds := by
    simp [pauseSeconds, isSeconds, Option.filter_some, nonneg]
  simp only [pauseAfter, held]
  exact pause.note_lasts .ban nonneg now

theorem afterResponse_staysUntil
    (late : retries call attempt response = true → ends ≤ now + retryDelay call attempt response) :
    (afterResponse call attempt response now).StaysUntil ends := by
  unfold afterResponse
  split_ifs with retried
  · exact late retried
  · trivial

/-- A retry of a ban waits for its end. -/
theorem afterResponse_staysUntil_ban {ban : ℚ × ℚ} (told : ban ∈ response.ban now) :
    (afterResponse call attempt response now).StaysUntil (ban.1 + ban.2) := by
  refine afterResponse_staysUntil fun retried => ?_
  obtain ⟨header, seconds, rfl, isSeconds, nonneg, rfl⟩ := mem_ban told
  simp only [retries, isSeconds, Option.all_some, Bool.and_eq_true, decide_eq_true_eq] at retried
  have delay : retryDelay call attempt (.banned header) = seconds := by
    simp [retryDelay, boundedBackoffSeconds, isSeconds, Option.filter_some, nonneg, retried.2]
  rw [delay]

/-! ## Every interleaving -/

/-- While a ban is open the pause is, and no thread past its check starts an exchange before the
ban is over. -/
structure Guarded (s : System) : Prop where
  past : ∀ ban ∈ s.bans, ban.1 ≤ s.now
  covered : ∀ ban ∈ s.bans, s.now < ban.1 + ban.2 → s.pause.Lasts (ban.1 + ban.2)
  stays : ∀ ban ∈ s.bans, s.now < ban.1 + ban.2 → ∀ thread,
    (s.threads thread).StaysUntil (ban.1 + ban.2)

theorem guarded_start (budget : Budget) (now : ℚ) : Guarded (start budget now) :=
  ⟨nofun, nofun, nofun⟩

variable {s : System}

variable {thread : Nat}

/-- A move of one thread that starts nothing inside a ban. -/
theorem Guarded.move {next : System} (guarded : Guarded s) (bans : next.bans = s.bans)
    (clock : next.now = s.now)
    (pause : ∀ ban ∈ s.bans, s.now < ban.1 + ban.2 → next.pause = s.pause) {phase : Phase}
    (threads : next.threads = Function.update s.threads thread phase)
    (stays : ∀ ban ∈ s.bans, s.now < ban.1 + ban.2 → phase.StaysUntil (ban.1 + ban.2)) :
    Guarded next := by
  refine ⟨?_, ?_, ?_⟩
  · rw [bans, clock]
    exact guarded.past
  · rw [bans, clock]
    intro ban listed isOpen
    rw [pause ban listed isOpen]
    exact guarded.covered ban listed isOpen
  · rw [bans, clock, threads]
    intro ban listed isOpen other
    rcases eq_or_ne other thread with rfl | differ
    · rw [Function.update_self]
      exact stays ban listed isOpen
    · rw [Function.update_of_ne differ]
      exact guarded.stays ban listed isOpen other

/-- A thread that is let through has no ban before it. -/
theorem Guarded.none_open (guarded : Guarded s)
    (through : ∀ ends, ¬ (s.threads thread).StaysUntil ends) :
    ∀ ban ∈ s.bans, ¬ s.now < ban.1 + ban.2 :=
  fun ban listed isOpen => through _ (guarded.stays ban listed isOpen thread)

/-- A check that passes has no ban before it. -/
theorem Guarded.over_of_remaining (guarded : Guarded s)
    (passes : (s.pause.remaining s.now).1 = none) : ∀ ban ∈ s.bans, ¬ s.now < ban.1 + ban.2 := by
  intro ban listed isOpen
  obtain ⟨stop, kind, isPause, le⟩ := guarded.covered ban listed isOpen
  have left : ¬ stop - s.now ≤ 0 := by linarith
  simp [Pause.remaining, isPause, left] at passes

/-- The check of a call: a pause is dropped where no ban is open. -/
theorem Guarded.check (guarded : Guarded s) :
    ∀ ban ∈ s.bans, s.now < ban.1 + ban.2 → (s.pause.remaining s.now).2 = s.pause := by
  intro ban listed isOpen
  obtain ⟨stop, kind, isPause, le⟩ := guarded.covered ban listed isOpen
  have left : ¬ stop - s.now ≤ 0 := by linarith
  simp [Pause.remaining, isPause, left]

theorem Guarded.request (guarded : Guarded s) (thread : Nat) (call : Call) :
    Guarded (step s (.request thread call)) := by
  simp only [step]
  cases s.threads thread with
  | idle =>
    by_cases passes : (s.pause.remaining s.now).1 = none
    · have none_open := guarded.over_of_remaining passes
      rw [if_pos (Option.isNone_iff_eq_none.mpr passes)]
      exact guarded.move rfl rfl guarded.check rfl
        (fun ban listed isOpen => absurd isOpen (none_open ban listed))
    · rw [if_neg fun isNone => passes (Option.isNone_iff_eq_none.mp isNone)]
      refine ⟨guarded.past, fun ban listed isOpen => ?_, guarded.stays⟩
      dsimp only
      rw [guarded.check ban listed isOpen]
      exact guarded.covered ban listed isOpen
  | _ => exact guarded

theorem Guarded.acquire (guarded : Guarded s) (thread : Nat) :
    Guarded (step s (.acquire thread)) := by
  simp only [step]
  cases at_thread : s.threads thread with
  | waiting call attempt waited =>
    -- a thread that waits for its weight is past its check: no ban is open
    have none_open := guarded.none_open fun ends (stays : Phase.StaysUntil ends _) => by
      rw [at_thread] at stays
      exact stays
    have moved {next : System} {phase : Phase} (bans : next.bans = s.bans)
        (clock : next.now = s.now) (pause : next.pause = s.pause)
        (threads : next.threads = Function.update s.threads thread phase) : Guarded next :=
      guarded.move bans clock (fun _ _ _ => pause) threads
        (fun ban listed isOpen => absurd isOpen (none_open ban listed))
    dsimp only
    split_ifs
    · exact moved rfl rfl rfl rfl
    · cases (s.budget.attempt call.weight s.now).1 with
      | none => exact moved rfl rfl rfl rfl
      | some delay =>
        dsimp only
        split_ifs
        · exact moved rfl rfl rfl rfl
        · exact moved rfl rfl rfl rfl
  | _ => exact guarded

theorem Guarded.wake (guarded : Guarded s) (thread : Nat) : Guarded (step s (.wake thread)) := by
  have woken {call : Call} {attempt : Nat} {waited wake : ℚ}
      (asleep : ∀ ends, (s.threads thread).StaysUntil ends → ends ≤ wake) (due : wake ≤ s.now) :
      Guarded (s.withPhase thread (.waiting call attempt waited)) := by
    refine guarded.move rfl rfl (fun _ _ _ => rfl) rfl fun ban listed isOpen => ?_
    have := asleep _ (guarded.stays ban listed isOpen thread)
    exact absurd isOpen (this.trans due).not_gt
  simp only [step]
  cases at_thread : s.threads thread with
  | waitingAsleep call attempt waited wake =>
    dsimp only
    split_ifs with due
    · exact woken (fun ends stays => by rwa [at_thread] at stays) due
    · exact guarded
  | retryAsleep call attempt wake =>
    dsimp only
    split_ifs with due
    · exact woken (fun ends stays => by rwa [at_thread] at stays) due
    · exact guarded
  | _ => exact guarded

/-- The answer's own ban is held by the pause it notes; the bans before it, by the care taken. -/
theorem Guarded.receive (guarded : Guarded s) (thread : Nat) (response : Response)
    (careful : Careful s (.receive thread response)) :
    Guarded (step s (.receive thread response)) := by
  simp only [step]
  cases at_thread : s.threads thread with
  | inFlight call attempt =>
    have ⟨kept, apart⟩ := careful call attempt at_thread
    have isOpen_of {ban : ℚ × ℚ} (listed : ban ∈ s.bans) (left : s.now < ban.1 + ban.2) :
        Open s.now ban := ⟨guarded.past ban listed, left⟩
    refine ⟨fun ban listed => ?_, fun ban listed left => ?_, fun ban listed left other => ?_⟩
    · rcases List.mem_append.mp listed with told | before
      · obtain ⟨_, _, _, _, _, rfl⟩ := mem_ban told
        exact le_rfl
      · exact guarded.past ban before
    · rcases List.mem_append.mp listed with told | before
      · exact pauseAfter_lasts told
      · exact (guarded.covered ban before left).after (kept ban before (isOpen_of before left)).1
    · rcases eq_or_ne other thread with rfl | differ
      · simp only [System.withPhase, Function.update_self]
        rcases List.mem_append.mp listed with told | before
        · exact afterResponse_staysUntil_ban told
        · exact afterResponse_staysUntil (kept ban before (isOpen_of before left)).2
      · simp only [System.withPhase, Function.update_of_ne differ]
        rcases List.mem_append.mp listed with told | before
        · exact apart ban told other differ
        · exact guarded.stays ban before left other
  | _ => exact guarded

theorem Guarded.step (guarded : Guarded s) {action : Action} (careful : Careful s action) :
    Guarded (step s action) := by
  cases action with
  | request thread call => exact guarded.request thread call
  | acquire thread => exact guarded.acquire thread
  | wake thread => exact guarded.wake thread
  | send thread =>
    simp only [UpstreamPause.step]
    cases s.threads thread with
    | reserved call attempt =>
      exact guarded.move rfl rfl (fun _ _ _ => rfl) rfl (fun _ _ _ => trivial)
    | _ => exact guarded
  | receive thread response => exact guarded.receive thread response careful
  | pass seconds =>
    simp only [UpstreamPause.step]
    split_ifs with forward
    · refine ⟨fun ban listed => ?_, fun ban listed isOpen => ?_, fun ban listed isOpen => ?_⟩
      · have := guarded.past ban listed
        dsimp only
        linarith
      · exact guarded.covered ban listed (by dsimp only at isOpen; linarith)
      · exact guarded.stays ban listed (by dsimp only at isOpen; linarith)
    · exact guarded

/-- A thread that has its weight has no ban before it. -/
theorem Guarded.quiet (guarded : Guarded s) (action : Action) : Quiet s action := by
  intro sends ban listed isOpen
  cases action with
  | send thread =>
    have stays := guarded.stays ban listed isOpen.2 thread
    cases at_thread : s.threads thread with
    | reserved call attempt =>
      rw [at_thread] at stays
      exact stays
    | _ => simp [Sends, at_thread] at sends
  | _ => cases sends

/-- In every interleaving of careful steps no exchange is started while a ban is open. -/
theorem bans_are_respected (budget : Budget) (now : ℚ) (actions : List Action)
    (careful : Along step Careful (start budget now) actions) :
    Along step Quiet (start budget now) actions :=
  Along.of_invariant step (I := Guarded) (fun _ _ guarded => guarded.step)
    (fun _ action guarded _ => guarded.quiet action) (guarded_start budget now) careful

/-- A ban of a minute is waited out by the call after it. -/
theorem ban_is_waited_out :
    Along step Quiet (start ⟨1800, 60, 60, []⟩ 0)
      [.request 0 ⟨5, 0, 30⟩, .acquire 0, .send 0, .receive 0 (.banned (some 60)),
        .request 1 ⟨5, 0, 30⟩, .pass 60, .request 1 ⟨5, 0, 30⟩, .acquire 1, .send 1] := by
  refine bans_are_respected _ _ _ ⟨trivial, trivial, trivial, ?_, trivial, trivial, trivial,
    trivial, trivial, trivial⟩
  refine fun call attempt at_thread => ⟨nofun, fun ban told other differ => ?_⟩
  simp [step, start, System.withPhase, Pause.remaining, Budget.attempt, Budget.evict, Budget.used,
    Function.update_of_ne differ, Phase.StaysUntil]

/-- A call that is past its check when another is told of a ban of a minute starts its exchange
inside the ban. -/
theorem checked_call_breaks_the_ban :
    ¬ Along step Quiet (start ⟨1800, 60, 60, []⟩ 0)
      [.request 0 ⟨5, 0, 30⟩, .acquire 0, .send 0, .request 1 ⟨5, 0, 30⟩,
        .receive 0 (.banned (some 60)), .acquire 1, .send 1] := by
  decide +kernel

end AlphaTrade.Market.UpstreamPause
