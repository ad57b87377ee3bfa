import AlphaTrade.Risk.Latches

/-!
# The breaker history

`breaker_covered` reads the interval log, not the live latch: a window that has
closed still covers the time it was open. `history` is the log of one account and
kind as a set of marks, so what the log covers is the order-theoretic `Mark.Covers`
and every write is an insertion.

`Tracked` ties the log of an account to its row at a clock: while the latch is set
or the consecutive pause is to come, a window is open; the daily pause has the
window that ends at its expiry. One operation keeps it when it does not start a
breaker at the instant at which the log closes the last window of the same kind.
-/
namespace AlphaTrade.Risk
open Library
open Execution (OrganizationId AccountKey Instant)

/-! ## The log as a set of marks -/

def history (intervals : List BreakerInterval) (account : AccountKey) (kind : WindowKind) :
    Set (Mark Instant) :=
  {mark | ⟨account, kind, mark⟩ ∈ intervals}

variable {intervals : List BreakerInterval} {account : AccountKey} {kind : WindowKind}

theorem setOf_mem_marksOf : {mark | mark ∈ marksOf intervals account kind} =
    history intervals account kind := by
  ext mark
  simp only [marksOf, List.mem_map, List.mem_filter, decide_eq_true_eq, Set.mem_ofPred_eq, history]
  constructor
  · rintro ⟨⟨_, _, _⟩, ⟨listed, rfl, rfl⟩, rfl⟩
    exact listed
  · exact fun listed => ⟨_, ⟨listed, rfl, rfl⟩, rfl⟩

theorem openStartedAt_isSome_iff : (openStartedAt intervals account kind).isSome ↔
    Mark.Unclosed (history intervals account kind) := by
  rw [openStartedAt, Mark.openSince_isSome_iff, setOf_mem_marksOf]

variable {moment occurredAt now clock : Instant} {phase : Phase} {other : AccountKey}
  {sort : WindowKind} {pausedUntil pause : Option Instant} {row : BreakerState} {active : Bool}
  {marks : Set (Mark Instant)} {record : BreakerRecord} {store : Store} {a : Action}
  {actions : List Action}

theorem hasCloseAt_iff : hasCloseAt intervals account kind moment = true ↔
    ⟨.close, moment⟩ ∈ history intervals account kind := by
  rw [← setOf_mem_marksOf]
  simp [hasCloseAt]

/-- The organization is covered when some account and kind of it is. -/
theorem breakerCovered_iff {organization : OrganizationId} :
    breakerCovered intervals organization moment = true ↔
      ∃ account kind, account.1 = organization ∧
        Mark.Covers (history intervals account kind) moment := by
  simp only [breakerCovered, List.any_eq_true, Bool.and_eq_true, decide_eq_true_eq,
    Mark.covered_iff, setOf_mem_marksOf]
  constructor
  · rintro ⟨row, -, own, covers⟩
    exact ⟨row.account, row.kind, own, covers⟩
  · rintro ⟨account, kind, own, covers⟩
    have ⟨start, opens, _⟩ := covers
    exact ⟨⟨account, kind, ⟨.open, start⟩⟩, opens, own, covers⟩

/-! ## Writes to the log -/

theorem mem_appendInterval {row : BreakerInterval} :
    row ∈ appendInterval intervals account kind phase occurredAt ↔
      row ∈ intervals ∨ row = ⟨account, kind, ⟨phase, occurredAt⟩⟩ := by
  simp only [appendInterval]
  split_ifs with known
  · exact ⟨.inl, fun h => h.elim id fun h => h ▸ known⟩
  · simp

theorem history_appendInterval :
    history (appendInterval intervals account kind phase occurredAt) account kind =
      insert ⟨phase, occurredAt⟩ (history intervals account kind) := by
  ext mark
  simp [history, mem_appendInterval, or_comm]

theorem history_appendInterval_of_ne (apart : other ≠ account ∨ sort ≠ kind) :
    history (appendInterval intervals account kind phase occurredAt) other sort =
      history intervals other sort := by
  ext mark
  simp only [history, mem_appendInterval, Set.mem_ofPred_eq, BreakerInterval.mk.injEq,
    or_iff_left_iff_imp]
  rintro ⟨rfl, rfl, -⟩
  simp at apart

/-- Opening inserts an open, unless a window is open. -/
theorem history_openBreaker (intervals : List BreakerInterval) (account : AccountKey)
    (kind : WindowKind) (startedAt : Instant) :
    history (openBreaker intervals account kind startedAt) account kind =
        history intervals account kind ∧ Mark.Unclosed (history intervals account kind) ∨
    history (openBreaker intervals account kind startedAt) account kind =
        insert ⟨.open, startedAt⟩ (history intervals account kind) ∧
      ¬Mark.Unclosed (history intervals account kind) := by
  unfold openBreaker
  split_ifs with h
  · exact .inl ⟨rfl, openStartedAt_isSome_iff.mp h⟩
  · exact .inr ⟨history_appendInterval, fun unclosed => h (openStartedAt_isSome_iff.mpr unclosed)⟩

/-- Closing inserts a close, if a window is open. -/
theorem history_closeBreaker (intervals : List BreakerInterval) (account : AccountKey)
    (kind : WindowKind) (endedAt : Instant) :
    history (closeBreaker intervals account kind endedAt) account kind =
        insert ⟨.close, endedAt⟩ (history intervals account kind) ∨
    history (closeBreaker intervals account kind endedAt) account kind =
        history intervals account kind := by
  unfold closeBreaker
  split_ifs
  · exact .inl history_appendInterval
  · exact .inr rfl

theorem history_openBreaker_of_ne {startedAt : Instant} (apart : other ≠ account ∨ sort ≠ kind) :
    history (openBreaker intervals account kind startedAt) other sort =
      history intervals other sort := by
  unfold openBreaker
  split_ifs
  · rfl
  · exact history_appendInterval_of_ne apart

theorem history_closeBreaker_of_ne {endedAt : Instant} (apart : other ≠ account ∨ sort ≠ kind) :
    history (closeBreaker intervals account kind endedAt) other sort =
      history intervals other sort := by
  unfold closeBreaker
  split_ifs
  · exact history_appendInterval_of_ne apart
  · rfl

theorem history_notePause_of_ne (apart : other ≠ account ∨ sort ≠ kind) :
    history (notePause intervals account kind now pausedUntil) other sort =
      history intervals other sort := by
  cases pausedUntil with
  | none => rfl
  | some expiry =>
    simp only [notePause]
    split_ifs
    · rfl
    · rfl
    · rfl
    · rw [history_appendInterval_of_ne apart, history_appendInterval_of_ne apart]

theorem history_noteConsecutivePause_of_ne (apart : other ≠ account ∨ sort ≠ .consecutive) :
    history (noteConsecutivePause intervals account now pausedUntil) other sort =
      history intervals other sort := by
  unfold noteConsecutivePause
  split_ifs
  · exact history_openBreaker_of_ne apart
  · exact history_closeBreaker_of_ne apart

theorem history_noteDrawdown_of_ne {latched : Bool} (apart : other ≠ account ∨ sort ≠ .drawdown) :
    history (noteDrawdown intervals account now latched) other sort =
      history intervals other sort := by
  unfold noteDrawdown
  split_ifs
  · exact history_openBreaker_of_ne apart
  · exact history_closeBreaker_of_ne apart

theorem history_noteRow_of_ne (apart : other ≠ account) (sort : WindowKind) :
    history (noteRow intervals account row now) other sort = history intervals other sort := by
  simp only [noteRow]
  rw [history_noteDrawdown_of_ne (.inl apart), history_noteConsecutivePause_of_ne (.inl apart),
    history_notePause_of_ne (.inl apart)]

/-! ## A log that follows its breaker -/

/-- No mark is later than the clock, and while the breaker is active a window is open. -/
structure Follows (active : Bool) (marks : Set (Mark Instant)) (clock : Instant) : Prop where
  past : ∀ mark ∈ marks, mark.time ≤ clock
  held : active = true → Mark.Unclosed marks

/-- Every window has its close; a close still to come is the expiry of the pause; and
a pause to come has the window that ends at its expiry. -/
structure Pledged (pause : Option Instant) (marks : Set (Mark Instant)) (clock : Instant) :
    Prop where
  opens : ∀ start, ⟨.open, start⟩ ∈ marks → start ≤ clock
  closed : ¬Mark.Unclosed marks
  closes : ∀ stop, ⟨.close, stop⟩ ∈ marks → stop ≤ clock ∨ pause = some stop
  window : ∀ expiry, pause = some expiry → clock < expiry → ⟨.close, expiry⟩ ∈ marks ∧
    ∃ start, ⟨.open, start⟩ ∈ marks ∧
      ∀ stop, ⟨.close, stop⟩ ∈ marks → stop < start ∨ expiry ≤ stop

theorem Follows.covers (h : Follows active marks clock) (on : active = true) :
    Mark.Covers marks clock :=
  (h.held on).covers h.past

theorem Pledged.covers (h : Pledged pause marks clock) (on : pauseActive pause clock = true) :
    Mark.Covers marks clock := by
  obtain ⟨expiry, rfl, unexpired⟩ : ∃ expiry, pause = some expiry ∧ clock < expiry := by
    simpa [pauseActive, Option.any_eq_true] using on
  obtain ⟨-, start, opens, clear⟩ := h.window expiry rfl unexpired
  exact ⟨start, opens, h.opens start opens, fun stop closes =>
    (clear stop closes).imp id unexpired.trans_le⟩

theorem Follows.later {now' : Bool} (h : Follows active marks clock) (le : clock ≤ now)
    (still : now' = true → active = true) : Follows now' marks now :=
  ⟨fun mark listed => (h.past mark listed).trans le, fun on => h.held (still on)⟩

theorem Pledged.later (h : Pledged pause marks clock) (le : clock ≤ now) :
    Pledged pause marks now where
  opens start listed := (h.opens start listed).trans le
  closed := h.closed
  closes stop listed := (h.closes stop listed).imp (le_trans · le) id
  window expiry stored unexpired := h.window expiry stored (le.trans_lt unexpired)

/-- Opening at an instant without a close. -/
theorem Follows.openBreaker (h : Follows active (history intervals account kind) clock)
    (le : clock ≤ now) (fresh : active = true ∨ ⟨.close, now⟩ ∉ history intervals account kind) :
    Follows true (history (openBreaker intervals account kind now) account kind) now := by
  rcases history_openBreaker intervals account kind now with ⟨eq, unclosed⟩ | ⟨eq, closed⟩
  · rw [eq]
    exact ⟨fun mark listed => (h.past mark listed).trans le, fun _ => unclosed⟩
  · rw [eq]
    refine ⟨?_, fun _ => Mark.unclosed_insert_open_of_lt fun stop listed => ?_⟩
    · rintro mark (rfl | listed)
      · exact le_rfl
      · exact (h.past mark listed).trans le
    · have free := fresh.resolve_left fun on => closed (h.held on)
      refine lt_of_le_of_ne ((h.past _ listed).trans le) ?_
      rintro rfl
      exact free listed

/-- Closing leaves nothing to follow. -/
theorem Follows.closeBreaker (h : Follows active (history intervals account kind) clock)
    (le : clock ≤ now) :
    Follows false (history (closeBreaker intervals account kind now) account kind) now := by
  refine ⟨?_, by simp⟩
  rcases history_closeBreaker intervals account kind now with eq | eq
  · rw [eq]
    rintro mark (rfl | listed)
    · exact le_rfl
    · exact (h.past mark listed).trans le
  · rw [eq]
    exact fun mark listed => (h.past mark listed).trans le

/-- Opening when the breaker is on, closing when it is off. -/
theorem Follows.note {on : Bool} (h : Follows active (history intervals account kind) clock)
    (le : clock ≤ now)
    (fresh : on = true → active = true ∨ ⟨.close, now⟩ ∉ history intervals account kind) :
    Follows on (history (if on then Risk.openBreaker intervals account kind now
      else Risk.closeBreaker intervals account kind now) account kind) now := by
  cases on with
  | true => exact h.openBreaker le (fresh rfl)
  | false => exact h.closeBreaker le

theorem pauseActive_iff :
    pauseActive pause now = true ↔ ∃ expiry, pause = some expiry ∧ now < expiry := by
  simp [pauseActive, Option.any_eq_true]

/-- A window from now to an expiry, after every close. -/
theorem Pledged.window_from {expiry : Instant}
    (opens : ∀ start, ⟨.open, start⟩ ∈ marks → start ≤ now)
    (closes : ∀ stop, ⟨.close, stop⟩ ∈ marks → stop < now) (unexpired : now < expiry) :
    Pledged (some expiry) (insert ⟨.close, expiry⟩ (insert ⟨.open, now⟩ marks)) now := by
  have opens' : ∀ start, (⟨.open, start⟩ : Mark Instant) ∈
      insert ⟨.close, expiry⟩ (insert ⟨.open, now⟩ marks) → start ≤ now := by
    intro start listed
    rcases (by simpa using listed : start = now ∨ ⟨.open, start⟩ ∈ marks) with rfl | listed
    · exact le_rfl
    · exact opens start listed
  have closes' : ∀ stop, (⟨.close, stop⟩ : Mark Instant) ∈
      insert ⟨.close, expiry⟩ (insert ⟨.open, now⟩ marks) → stop = expiry ∨ stop < now := by
    intro stop listed
    rcases (by simpa using listed : stop = expiry ∨ ⟨.close, stop⟩ ∈ marks) with rfl | listed
    · exact .inl rfl
    · exact .inr (closes stop listed)
  refine ⟨opens', ?_, fun stop listed => ?_, ?_⟩
  · rintro ⟨start, listed, clear⟩
    exact lt_asymm unexpired ((clear expiry (by simp)).trans_le (opens' start listed))
  · rcases closes' stop listed with rfl | past
    · exact .inr rfl
    · exact .inl past.le
  · rintro _ ⟨⟩ _
    refine ⟨by simp, now, by simp, fun stop listed => ?_⟩
    rcases closes' stop listed with rfl | past
    · exact .inr le_rfl
    · exact .inl past

/-- Noting the kept pause: an unexpired one has its window already; a new one gets a
window that starts now, after every close. -/
theorem Pledged.notePause {stored proposed : Option Instant}
    (h : Pledged stored (history intervals account kind) clock) (le : clock ≤ now)
    (fresh : pauseActive proposed now = true → pauseActive stored now = false → ⟨.close,
      now⟩ ∉ history intervals account kind) :
    Pledged (keptPause stored proposed now)
      (history (notePause intervals account kind now (keptPause stored proposed now)) account kind)
      now := by
  have idle : ¬(openStartedAt intervals account kind).isSome :=
    fun started => h.closed (openStartedAt_isSome_iff.mp started)
  cases active : pauseActive stored now with
  | true =>
    obtain ⟨expiry, rfl, unexpired⟩ := pauseActive_iff.mp active
    have known := hasCloseAt_iff.mpr (h.window expiry rfl (le.trans_lt unexpired)).1
    rw [keptPause_of_active unexpired]
    simp only [Risk.notePause, not_le.mpr unexpired, idle, known, if_true, if_false]
    exact h.later le
  | false =>
    have ended : ∀ stop, ⟨.close, stop⟩ ∈ history intervals account kind → stop ≤ now := by
      intro stop listed
      rcases h.closes stop listed with past | rfl
      · exact past.trans le
      · exact not_lt.mp fun unexpired => by simp [pauseActive_some unexpired] at active
    rw [keptPause, if_neg (by simp [active])]
    cases asked : pauseActive proposed now with
    | false =>
      have same : Risk.notePause intervals account kind now proposed = intervals := by
        cases proposed with
        | none => rfl
        | some expiry =>
          have expired : expiry ≤ now := by simpa [pauseActive] using asked
          simp only [Risk.notePause, expired, if_true]
      rw [same]
      refine ⟨fun start listed => (h.opens start listed).trans le, h.closed,
        fun stop listed => .inl (ended stop listed), fun expiry eq unexpired => ?_⟩
      rw [eq, pauseActive_some unexpired] at asked
      cases asked
    | true =>
      obtain ⟨expiry, rfl, unexpired⟩ := pauseActive_iff.mp asked
      have free := fresh asked active
      have unknown : ¬hasCloseAt intervals account kind expiry = true := fun known =>
        not_lt.mpr (ended expiry (hasCloseAt_iff.mp known)) unexpired
      have opened : Risk.notePause intervals account kind now (some expiry) =
          appendInterval (appendInterval intervals account kind .open now) account kind .close
            expiry := by
        simp only [Risk.notePause, not_le.mpr unexpired, idle, unknown, Bool.false_eq_true,
          if_false]
      rw [opened, history_appendInterval, history_appendInterval]
      refine .window_from (fun start listed => (h.opens start listed).trans le)
        (fun stop listed => lt_of_le_of_ne (ended stop listed) ?_) unexpired
      rintro rfl
      exact free listed

/-! ## One account -/

/-- The log of an account agrees with its row. -/
structure Tracked (row : BreakerState) (marks : WindowKind → Set (Mark Instant))
    (clock : Instant) : Prop where
  daily : Pledged row.dailyPausedUntil (marks .daily) clock
  consecutive : Follows (pauseActive row.consecutivePausedUntil clock) (marks .consecutive) clock
  drawdown : Follows row.drawdownLatched (marks .drawdown) clock

theorem Tracked.later {marks : WindowKind → Set (Mark Instant)} (h : Tracked row marks clock)
    (le : clock ≤ now) :
    Tracked row marks now where
  daily := h.daily.later le
  consecutive := h.consecutive.later le fun on => by
    obtain ⟨expiry, eq, unexpired⟩ := pauseActive_iff.mp on
    exact pauseActive_iff.mpr ⟨expiry, eq, le.trans_lt unexpired⟩
  drawdown := h.drawdown.later le id

def BreakerState.holds (row : BreakerState) (kind : WindowKind) (now : Instant) : Bool :=
  match kind with
  | .daily => pauseActive row.dailyPausedUntil now
  | .consecutive => pauseActive row.consecutivePausedUntil now
  | .drawdown => row.drawdownLatched

def BreakerRecord.asks (record : BreakerRecord) (kind : WindowKind) (now : Instant) : Bool :=
  match kind with
  | .daily => pauseActive record.dailyPausedUntil now
  | .consecutive => pauseActive record.consecutivePausedUntil now
  | .drawdown => record.drawdownLatched

theorem Tracked.covers {marks : WindowKind → Set (Mark Instant)} (h : Tracked row marks clock)
    (active : row.active clock = true) : ∃ kind, Mark.Covers (marks kind) clock := by
  simp only [BreakerState.active, Bool.or_eq_true] at active
  rcases active with (latched | daily) | consecutive
  · exact ⟨.drawdown, h.drawdown.covers latched⟩
  · exact ⟨.daily, h.daily.covers daily⟩
  · exact ⟨.consecutive, h.consecutive.covers consecutive⟩

/-- A kept pause that is active was in force, or is asked for. -/
theorem keptPause_active {stored proposed : Option Instant}
    (on : pauseActive (keptPause stored proposed now) now = true) :
    pauseActive stored now = true ∨ pauseActive stored now = false ∧
      pauseActive proposed now = true := by
  unfold keptPause at on
  cases active : pauseActive stored now with
  | true => exact .inl rfl
  | false => exact .inr ⟨rfl, by simpa [active] using on⟩

/-- Recording keeps the log in step when no breaker starts where its kind has just closed. -/
theorem Tracked.note (h : Tracked row (history intervals account) clock) (le : clock ≤ now)
    (fresh : ∀ kind, record.asks kind now = true → row.holds kind now = false → ⟨.close,
      now⟩ ∉ history intervals account kind) :
    Tracked (row.merge record now)
      (history (noteRow intervals account (row.merge record now) now) account) now := by
  have h := h.later le
  simp only [noteRow]
  -- each of the three notes sees the log of its own kind as it was
  refine ⟨?_, ?_, ?_⟩
  · rw [history_noteDrawdown_of_ne (.inr (by decide)),
      history_noteConsecutivePause_of_ne (.inr (by decide))]
    exact h.daily.notePause le_rfl (fresh .daily)
  · rw [history_noteDrawdown_of_ne (.inr (by decide))]
    refine Follows.note (by rw [history_notePause_of_ne (.inr (by decide))]; exact h.consecutive)
      le_rfl fun on => ?_
    rw [history_notePause_of_ne (.inr (by decide))]
    exact (keptPause_active on).imp id fun started => fresh .consecutive started.2 started.1
  · have same : ∀ {pause pause'}, history (noteConsecutivePause (notePause intervals account .daily
        now pause) account now pause') account .drawdown = history intervals account .drawdown := by
      intro pause pause'
      rw [history_noteConsecutivePause_of_ne (.inr (by decide)),
        history_notePause_of_ne (.inr (by decide))]
    refine Follows.note (by rw [same]; exact h.drawdown) le_rfl fun on => ?_
    rw [same]
    cases latched : row.drawdownLatched with
    | true => exact .inl rfl
    | false =>
      have asked : record.drawdownLatched = true := by
        simpa [BreakerState.merge, latched] using on
      exact .inr (fresh .drawdown asked latched)

/-! ## Every account -/

def InStep (tables : BreakerTables) (clock : Instant) : Prop :=
  ∀ account equityPeak, Tracked (tables.breakerRow account equityPeak)
    (history tables.intervals account) clock

def asksFor (store : Store) (a : Action) : Option (AccountKey × (WindowKind → Bool)) :=
  match a with
  | .latchDrawdown account _ _ => some (account, fun kind => kind = .drawdown)
  | a => (recordOf store a).map
      fun (account, record) => (account, fun kind => record.asks kind a.now)

def WindowKind.all : List WindowKind := [.daily, .consecutive, .drawdown]

/-- The operation starts no breaker at an instant at which the log closes a window of
the same account and kind. -/
def Fresh (store : Store) (a : Action) : Prop :=
  ∀ asked ∈ asksFor store a, ∀ kind ∈ WindowKind.all, asked.2 kind = true →
    (store.row asked.1).any (·.holds kind a.now) = false →
    hasCloseAt store.breakers.intervals asked.1 kind a.now = false

instance (store : Store) (a : Action) : Decidable (Fresh store a) :=
  inferInstanceAs (Decidable (∀ asked ∈ asksFor store a, ∀ kind ∈ WindowKind.all,
    asked.2 kind = true → (store.row asked.1).any (·.holds kind a.now) = false →
    hasCloseAt store.breakers.intervals asked.1 kind a.now = false))

theorem WindowKind.mem_all (kind : WindowKind) : kind ∈ WindowKind.all := by
  cases kind <;> decide

/-- A missing row and the row that is created have nothing in force. -/
theorem breakerRow_holds (tables : BreakerTables) (account : AccountKey) (kind : WindowKind)
    (now : Instant) (equityPeak : DecimalValue) :
    (tables.breakerRow account equityPeak).holds kind now =
      (tables.states.find account).any (·.holds kind now) := by
  unfold BreakerTables.breakerRow
  cases tables.states.find account with
  | none => cases kind <;> rfl
  | some row => rfl

theorem asksFor_of_recordOf {account : AccountKey}
    (made : recordOf store a = some (account, record)) :
    asksFor store a = some (account, fun kind => record.asks kind a.now) := by
  cases a with
  | latchDrawdown => cases made
  | _ => simp only [asksFor, made, Option.map_some]

theorem Fresh.noClose (h : Fresh store a) {account : AccountKey} {asks : WindowKind → Bool}
    (asked : asksFor store a = some (account, asks)) {kind : WindowKind} (on : asks kind = true)
    {equityPeak : DecimalValue}
    (idle : (store.breakers.breakerRow account equityPeak).holds kind a.now = false) :
    ⟨.close, a.now⟩ ∉ history store.breakers.intervals account kind := by
  rw [breakerRow_holds] at idle
  have none := h (account, asks) asked kind kind.mem_all on idle
  rw [← hasCloseAt_iff, none]
  exact Bool.false_ne_true

/-- A write to one account leaves the others in step. -/
theorem InStep.put {tables next : BreakerTables} {account : AccountKey} (h : InStep tables clock)
    (le : clock ≤ now) (states : next.states = tables.states.put account row)
    (others : ∀ other kind, other ≠ account → history next.intervals other kind =
      history tables.intervals other kind)
    (own : Tracked row (history next.intervals account) now) : InStep next now := by
  intro other equityPeak
  by_cases same : other = account
  · subst same
    rw [BreakerTables.breakerRow, states, Table.find_put_self]
    exact own
  · rw [BreakerTables.breakerRow, states, Table.find_put_of_ne _ same,
      funext fun kind => others other kind same]
    exact (h other equityPeak).later le

theorem step_inStep (env : Env) (h : InStep store.breakers clock) (le : clock ≤ a.now)
    (fresh : Fresh store a) : InStep (step env store a).breakers a.now := by
  have wrote := step_wrote env store a
  generalize (step env store a).breakers = tables at wrote
  cases wrote with
  | nothing => exact fun account equityPeak => (h account equityPeak).later le
  | recorded _ account record made =>
    refine h.put le rfl (fun other kind apart => history_noteRow_of_ne apart kind) ?_
    refine (h account record.equityPeak).note le fun kind asks idle => ?_
    exact fresh.noClose (asksFor_of_recordOf made) asks idle
  | latched account equityPeak now =>
    have own := (h account equityPeak).later le
    refine h.put le rfl (fun other kind apart => history_openBreaker_of_ne (.inl apart)) ?_
    change Tracked _ (history (openBreaker store.breakers.intervals account .drawdown now) account)
      now
    refine ⟨?_, ?_, ?_⟩
    · rw [history_openBreaker_of_ne (.inr (by decide))]
      exact own.daily
    · rw [history_openBreaker_of_ne (.inr (by decide))]
      exact own.consecutive
    · refine own.drawdown.openBreaker le_rfl ?_
      cases latched : (store.breakers.breakerRow account equityPeak).drawdownLatched with
      | true => exact .inl rfl
      | false =>
        exact .inr (fresh.noClose rfl (decide_eq_true rfl) latched)
  | consecutiveReset account human now row next checked accepted =>
    simp only [Store.resetConsecutiveLosses, checked, bind, Except.bind, pure, Except.pure,
      Except.ok.injEq] at accepted
    subst accepted
    have own := (h account .nan).later le
    rw [BreakerTables.breakerRow, show store.breakers.states.find account = some row from
      checkConsecutiveReset_row checked] at own
    refine h.put le rfl (fun other kind apart => history_closeBreaker_of_ne (.inl apart)) ?_
    change Tracked _ (history (closeBreaker store.breakers.intervals account .consecutive now)
      account) now
    refine ⟨?_, own.consecutive.closeBreaker le_rfl, ?_⟩
    · rw [history_closeBreaker_of_ne (.inr (by decide))]
      exact own.daily
    · rw [history_closeBreaker_of_ne (.inr (by decide))]
      exact own.drawdown
  | drawdownReset account human equity now row checked accepted =>
    have own := (h account .nan).later le
    rw [BreakerTables.breakerRow, show store.breakers.states.find account = some row from
      checkDrawdownReset_row checked] at own
    refine h.put le rfl (fun other kind apart => history_closeBreaker_of_ne (.inl apart)) ?_
    change Tracked _ (history (closeBreaker store.breakers.intervals account .drawdown now)
      account) now
    refine ⟨?_, ?_, own.drawdown.closeBreaker le_rfl⟩
    · rw [history_closeBreaker_of_ne (.inr (by decide))]
      exact own.daily
    · rw [history_closeBreaker_of_ne (.inr (by decide))]
      exact own.consecutive

/-! ## The past does not change -/

/-- Nothing is removed from the log, and what is new is not before now. -/
structure Grown (intervals next : List BreakerInterval) (now : Instant) : Prop where
  kept : intervals ⊆ next
  new : ∀ row ∈ next, row ∈ intervals ∨ now ≤ row.mark.time

theorem Grown.refl (intervals : List BreakerInterval) (now : Instant) :
    Grown intervals intervals now := ⟨fun _ => id, fun _ => .inl⟩

theorem Grown.trans {first second third : List BreakerInterval} (h : Grown first second now)
    (h' : Grown second third now) : Grown first third now where
  kept _ listed := h'.kept (h.kept listed)
  new row listed := (h'.new row listed).elim (h.new row) .inr

theorem grown_appendInterval (le : now ≤ occurredAt) :
    Grown intervals (appendInterval intervals account kind phase occurredAt) now where
  kept _ listed := mem_appendInterval.mpr (.inl listed)
  new row listed := by
    rcases mem_appendInterval.mp listed with listed | rfl
    · exact .inl listed
    · exact .inr le

theorem grown_openBreaker (intervals : List BreakerInterval) (account : AccountKey)
    (kind : WindowKind) (now : Instant) :
    Grown intervals (openBreaker intervals account kind now) now := by
  unfold openBreaker
  split_ifs
  · exact .refl intervals now
  · exact grown_appendInterval le_rfl

theorem grown_closeBreaker (intervals : List BreakerInterval) (account : AccountKey)
    (kind : WindowKind) (now : Instant) :
    Grown intervals (closeBreaker intervals account kind now) now := by
  unfold closeBreaker
  split_ifs
  · exact grown_appendInterval le_rfl
  · exact .refl intervals now

theorem grown_notePause (intervals : List BreakerInterval) (account : AccountKey)
    (kind : WindowKind) (now : Instant) (pausedUntil : Option Instant) :
    Grown intervals (notePause intervals account kind now pausedUntil) now := by
  cases pausedUntil with
  | none => exact .refl intervals now
  | some expiry =>
    simp only [notePause]
    split_ifs with expired
    · exact .refl intervals now
    · exact .refl intervals now
    · exact .refl intervals now
    · exact (grown_appendInterval le_rfl).trans (grown_appendInterval (not_le.mp expired).le)

theorem grown_noteConsecutivePause (intervals : List BreakerInterval) (account : AccountKey)
    (now : Instant) (pausedUntil : Option Instant) :
    Grown intervals (noteConsecutivePause intervals account now pausedUntil) now := by
  unfold noteConsecutivePause
  split_ifs
  · exact grown_openBreaker intervals account .consecutive now
  · exact grown_closeBreaker intervals account .consecutive now

theorem grown_noteDrawdown (intervals : List BreakerInterval) (account : AccountKey)
    (now : Instant) (latched : Bool) :
    Grown intervals (noteDrawdown intervals account now latched) now := by
  unfold noteDrawdown
  split_ifs
  · exact grown_openBreaker intervals account .drawdown now
  · exact grown_closeBreaker intervals account .drawdown now

theorem grown_noteRow (intervals : List BreakerInterval) (account : AccountKey)
    (row : BreakerState) (now : Instant) :
    Grown intervals (noteRow intervals account row now) now :=
  ((grown_notePause intervals account .daily now row.dailyPausedUntil).trans
    (grown_noteConsecutivePause _ account now row.consecutivePausedUntil)).trans
      (grown_noteDrawdown _ account now row.drawdownLatched)

theorem step_grown (env : Env) (store : Store) (a : Action) :
    Grown store.breakers.intervals (step env store a).breakers.intervals a.now := by
  have wrote := step_wrote env store a
  generalize (step env store a).breakers = tables at wrote
  cases wrote with
  | nothing => exact .refl _ _
  | recorded _ account record => exact grown_noteRow _ account _ a.now
  | latched account equityPeak now => exact grown_openBreaker _ account .drawdown now
  | consecutiveReset account human now row next checked accepted =>
    simp only [Store.resetConsecutiveLosses, checked, bind, Except.bind, pure, Except.pure,
      Except.ok.injEq] at accepted
    subst accepted
    exact grown_closeBreaker _ account .consecutive now
  | drawdownReset account human equity now row => exact grown_closeBreaker _ account .drawdown now

theorem Grown.breakerCovered_iff {next : List BreakerInterval} (h : Grown intervals next now)
    (past : moment < now) (organization : OrganizationId) :
    breakerCovered next organization moment = true ↔
      breakerCovered intervals organization moment = true := by
  have same : ∀ account kind, Mark.Covers (history next account kind) moment ↔
      Mark.Covers (history intervals account kind) moment := fun account kind =>
    Mark.covers_iff_of_later (fun mark listed => h.kept listed) fun mark listed =>
      (h.new _ listed).imp id past.trans_le
  simp only [Risk.breakerCovered_iff, same]

/-- Operations after a moment do not change whether it is covered. -/
theorem run_breakerCovered_iff (env : Env) {later : List Action}
    (future : ∀ a ∈ later, moment < a.now) (organization : OrganizationId) :
    breakerCovered (run (step env) store later).breakers.intervals organization moment = true ↔
      breakerCovered store.breakers.intervals organization moment = true := by
  refine run_invariant (step env) (I := fun s =>
      breakerCovered s.breakers.intervals organization moment = true ↔
        breakerCovered store.breakers.intervals organization moment = true)
    (fun s a h past => ?_) Iff.rfl (along_of_mem (step env) store future)
  exact ((step_grown env s a).breakerCovered_iff past organization).trans h

/-! ## Whole runs -/

theorem inStep_empty (clock : Instant) : InStep Store.empty.breakers clock := by
  intro account equityPeak
  have none : ∀ kind, history Store.empty.breakers.intervals account kind = ∅ := by
    intro kind
    ext mark
    simp [history, Store.empty]
  have closed : ¬Mark.Unclosed (∅ : Set (Mark Instant)) := by simp [Mark.Unclosed]
  refine ⟨?_, ?_, ?_⟩
  · rw [none]
    exact ⟨by simp, closed, by simp, fun expiry stored => by cases stored⟩
  · rw [none]
    exact ⟨by simp, fun on => by cases on⟩
  · rw [none]
    exact ⟨by simp, fun on => by cases on⟩

/-- Along a run whose clock does not go back, the log stays in step up to any moment
that is not before its operations. -/
theorem run_inStep {env : Env} (h : InStep store.breakers clock) (le : clock ≤ moment)
    (begins : ∀ a ∈ actions, clock ≤ a.now) (ordered : actions.Pairwise fun a b => a.now ≤ b.now)
    (fresh : Along (step env) Fresh store actions) (past : ∀ a ∈ actions, a.now ≤ moment) :
    InStep (run (step env) store actions).breakers moment := by
  induction actions generalizing store clock with
  | nil => exact fun account equityPeak => (h account equityPeak).later le
  | cons a rest ih =>
    obtain ⟨first, ordered⟩ := List.pairwise_cons.mp ordered
    have now := step_inStep env h (begins a (by simp)) fresh.1
    exact ih now (past a (by simp)) first ordered fresh.2 fun b listed => past b (by simp [listed])

theorem reached_inStep {env : Env} (ordered : actions.Pairwise fun a b => a.now ≤ b.now)
    (fresh : Along (step env) Fresh Store.empty actions) (past : ∀ a ∈ actions, a.now ≤ moment) :
    InStep (reached env actions).breakers moment := by
  cases actions with
  | nil => exact inStep_empty moment
  | cons a rest =>
    refine run_inStep (inStep_empty a.now) (past a (by simp)) ?_ ordered fresh past
    intro b listed
    rcases List.mem_cons.mp listed with rfl | listed
    · exact le_rfl
    · exact (List.pairwise_cons.mp ordered).1 b listed

/-- The breaker history covers the past. Cut a run whose clock does not go back at a
moment, so that the operations so far are not after it and the rest are after it. If
an account's row had the latch set or a pause to come at the moment, the moment is
covered at every later point of the run, provided that no operation up to the moment
started a breaker at an instant at which the log closes its kind. -/
theorem breaker_history_covers_past (env : Env) (earlier later : List Action)
    (account : AccountKey) (row : BreakerState) (moment : Instant)
    (ordered : (earlier ++ later).Pairwise fun a b => a.now ≤ b.now)
    (fresh : Along (step env) Fresh Store.empty (earlier ++ later))
    (past : ∀ a ∈ earlier, a.now ≤ moment) (future : ∀ a ∈ later, moment < a.now)
    (stored : (reached env earlier).row account = some row) (active : row.active moment = true) :
    breakerCovered (reached env (earlier ++ later)).breakers.intervals account.1 moment = true := by
  rw [show reached env (earlier ++ later) = run (step env) (reached env earlier) later from
    run_append (step env) Store.empty earlier later, run_breakerCovered_iff env future]
  have inStep := reached_inStep (List.pairwise_append.mp ordered).1
    ((along_append (step env)).mp fresh).1 past account row.equityPeak
  rw [BreakerTables.breakerRow, show (reached env earlier).breakers.states.find account = some row
    from stored] at inStep
  obtain ⟨kind, covers⟩ := inStep.covers active
  exact breakerCovered_iff.mpr ⟨account, kind, rfl, covers⟩

/-- All three breakers trip; the daily pause expires before the scan at 150. -/
theorem breaker_history_covers_past_calm :
    breakerCovered (reached Sample.plain
      ([Sample.trip, Sample.calm 50] ++ [Sample.calm 150, Sample.calm 250])).breakers.intervals
        1 60 = true := by
  have stored : (reached Sample.plain [Sample.trip, Sample.calm 50]).row (1, 1) =
      some { Sample.tripped with realizedPnl := some (.finite 5) } := by decide
  exact breaker_history_covers_past Sample.plain [Sample.trip, Sample.calm 50]
    [Sample.calm 150, Sample.calm 250] (1, 1) _ 60 (by decide) (by decide)
    (by decide) (by decide) stored (by decide)

namespace Sample

def dailyLoss (now : Instant) : Action :=
  .recordBreaker (1, 1)
    ⟨.finite 100, 1, .finite (-5), .finite 0, some (nextUtcDay now), none, false⟩ now

def midnightRun : List Action :=
  [dailyLoss (12 * microsecondsPerHour), dailyLoss (24 * microsecondsPerHour)]

end Sample

/-- The pause that starts at midnight is in force at six in the morning, and the log
does not cover it: at midnight its open sorts before the close of the first pause. -/
theorem midnight_pause_uncovered :
    (Sample.midnightRun.Pairwise fun a b => a.now ≤ b.now) ∧
    (∀ a ∈ Sample.midnightRun, a.now ≤ 30 * microsecondsPerHour) ∧
    ((reached Sample.plain Sample.midnightRun).row (1, 1)).any
      (·.active (30 * microsecondsPerHour)) = true ∧
    breakerCovered (reached Sample.plain Sample.midnightRun).breakers.intervals 1
      (30 * microsecondsPerHour) = false := by
  decide

end AlphaTrade.Risk
