import AlphaTrade.Telegram.Outbox

/-!
# Messages are kept and tried a limited number of times

Workers may overtake each other, and then a row goes back (`slow_worker_takes_back`). Even so no
message is lost or changed, and no row counts more attempts than the limit: a worker saves a row as
it was claimed, which had an attempt left.
-/
namespace AlphaTrade.Telegram
open Library
open Execution (Instant)

/-- What a row was enqueued with. -/
def OutboxRecord.message (row : OutboxRecord) : OutboxRecord :=
  { row with
    state := .pending
    attempt := 0
    leaseOwner := none
    leaseUntil := none
    transportMessageId := none
    sentAt := none
    lastError := none
    updatedAt := row.createdAt }

/-- A row is tried once whatever the setting is. -/
def DeliveryEnvironment.attemptLimit (env : DeliveryEnvironment) : Int :=
  max 1 env.outboxMaxAttempts

/-- A row may be claimed now or later. -/
def OutboxState.Open (state : OutboxState) : Prop :=
  state = .pending ∨ state = .claimed ∨ state = .retryable

/-- Attempts stay within the limit, and a row that may be claimed has one left. -/
structure OutboxRecord.Limited (env : DeliveryEnvironment) (row : OutboxRecord) : Prop where
  within : row.attempt ≤ env.attemptLimit
  left : row.state.Open → row.attempt < env.attemptLimit

variable {env : DeliveryEnvironment} {row : OutboxRecord} {now : Instant}
  {result : TransportSendResult}

theorem OutboxRecord.Limited.of_left (left : row.attempt < env.attemptLimit) : row.Limited env :=
  ⟨left.le, fun _ => left⟩

theorem OutboxRecord.Claimable.isOpen {backoff : DeliveryBackoff}
    (claimable : row.Claimable backoff now) : row.state.Open := by
  unfold OutboxRecord.Claimable at claimable
  cases state : row.state <;> simp [state, OutboxState.Open] at claimable ⊢

theorem message_attempted : (row.attempted env now result).outbox.message = row.message := by
  unfold OutboxRecord.attempted
  split
  · rfl
  · split <;> rfl

/-- The last attempt is followed by a dead letter, if it fails. -/
theorem limited_attempted (left : row.attempt < env.attemptLimit) :
    (row.attempted env now result).outbox.Limited env := by
  have within : ((row.attempt + 1 : Nat) : Int) ≤ env.attemptLimit := left
  unfold OutboxRecord.attempted
  split
  · exact ⟨within, nofun⟩
  split
  · exact .of_left left
  refine ⟨within, fun again => ?_⟩
  by_cases dead : env.outboxMaxAttempts ≤ (row.attempt + 1 : Nat)
  · simp only [dead, decide_true, if_pos, OutboxState.Open] at again
    simp at again
  · exact lt_max_of_lt_right (not_le.mp dead)

section steps

variable {backend : Backend} {state : Deliveries} {last : World} {step : DeliveryStep}

/-- The rows are within the limit, and those that workers hold have an attempt left and say what
the stored ones do. -/
structure Deliveries.Limited (env : DeliveryEnvironment) (state : Deliveries) : Prop where
  stored : ∀ id row, state.world.store.outbox.find id = some row → row.Limited env
  left : ∀ worker, ∀ row ∈ (state.workers worker).rows, row.attempt < env.attemptLimit
  held : ∀ worker, ∀ row ∈ (state.workers worker).rows, ∃ before,
    state.world.store.outbox.find row.outboxId = some before ∧ before.message = row.message

/-- A worker holds a row with the message that is stored. -/
theorem Deliveries.Limited.message_held (limited : state.Limited env) {worker : WorkerId}
    {before : OutboxRecord} (member : row ∈ (state.workers worker).rows)
    (found : state.world.store.outbox.find row.outboxId = some before) :
    row.message = before.message := by
  obtain ⟨stored, same, alike⟩ := limited.held worker row member
  cases same.symm.trans found
  exact alike.symm

theorem Wrote.limited (wrote : Wrote env state last step) (sound : state.Sound)
    (limited : state.Limited env) :
    (∀ id row, last.store.outbox.find id = some row → row.Limited env) ∧
      ∀ id row, state.world.store.outbox.find id = some row →
        ∃ later, last.store.outbox.find id = some later ∧ later.message = row.message := by
  -- one row is written, with the message that is stored under its identifier
  have put {own : OutboxId} {saved : OutboxRecord}
      (outbox : last.store.outbox = state.world.store.outbox.put own saved)
      (within : saved.Limited env)
      (same : ∀ before, state.world.store.outbox.find own = some before →
        saved.message = before.message) :
      (∀ id row, last.store.outbox.find id = some row → row.Limited env) ∧
        ∀ id row, state.world.store.outbox.find id = some row →
          ∃ later, last.store.outbox.find id = some later ∧ later.message = row.message := by
    rw [outbox]
    refine ⟨fun id row found => ?_, fun id row found => ?_⟩
    · obtain ⟨rfl, rfl⟩ | ⟨-, kept⟩ := Table.find_put_cases found
      · exact within
      · exact limited.stored id row kept
    · by_cases own : id = own
      · subst own
        exact ⟨saved, Table.find_put_self .., same row found⟩
      · exact ⟨row, (Table.find_put_of_ne _ own _).trans found, rfl⟩
  cases wrote with
  | kept outbox =>
    rw [outbox]
    exact ⟨limited.stored, fun id row found => ⟨row, found, rfl⟩⟩
  | enqueued new outbox =>
    refine put outbox (.of_left ?_) fun before found => ?_
    · rw [new.attempt]
      exact lt_max_of_lt_left Int.zero_lt_one
    · exact absurd new.outboxId (sound.keyed _ before found).2.ne
  | claimed rows =>
    refine ⟨fun id row found => ?_, fun id row found => ?_⟩
    · obtain same | ⟨before, stored, claimable, same⟩ := rows id
      · exact limited.stored id row (same ▸ found)
      · cases same.symm.trans found
        exact .of_left ((limited.stored id before stored).left claimable.isOpen)
    · obtain same | ⟨before, stored, -, same⟩ := rows id
      · exact ⟨row, same.trans found, rfl⟩
      · cases stored.symm.trans found
        exact ⟨_, same, rfl⟩
  | @suppressed worker _ row _ _ _ stands _ outbox =>
    have member : row ∈ (state.workers worker).rows := by
      rw [stands]
      exact List.mem_cons_self
    refine put outbox ⟨(limited.left worker row member).le, nofun⟩ fun before found => ?_
    change row.message = before.message
    exact limited.message_held member found
  | @saved worker _ row _ _ _ stands outbox =>
    have member : row ∈ (state.workers worker).rows := by
      rw [stands]
      exact List.mem_cons_self
    exact put outbox (limited_attempted (limited.left worker row member)) fun before found =>
      message_attempted.trans (limited.message_held member found)
  | @acknowledged _ _ row found _ outbox =>
    refine put outbox ⟨(limited.stored _ row found).within, nofun⟩ fun before found' => ?_
    rw [(sound.keyed _ row found).1] at found'
    cases found.symm.trans found'
    rfl

theorem limited_step (sound : state.Sound) (limited : state.Limited env) (step : DeliveryStep) :
    (deliver backend env state step).Limited env := by
  have wrote : Wrote env state (deliver backend env state step).world step :=
    deliver_wrote sound.keyed step
  obtain ⟨stored, kept⟩ := wrote.limited sound limited
  refine ⟨stored, fun worker row holds => ?_, fun worker row holds => ?_⟩
  · obtain held | ⟨before, found, claimable, rfl⟩ := deliver_rows sound.keyed holds
    · exact limited.left worker row held
    · exact (limited.stored _ before found).left claimable.isOpen
  · obtain held | ⟨before, found, -, rfl⟩ := deliver_rows sound.keyed holds
    · obtain ⟨before, found, same⟩ := limited.held worker row held
      obtain ⟨later, found, still⟩ := kept _ before found
      exact ⟨later, found, still.trans same⟩
    · exact kept _ before found

theorem limited_initial (clock : Instant) : (Deliveries.initial clock).Limited env where
  stored _ _ found := nomatch found
  left _ _ member := nomatch member
  held _ _ member := nomatch member

/-- **Messages are kept, and their attempts are limited.** Whatever workers, clocks and leases do, a
row of the outbox has counted no more attempts than the limit, and stays there with its message. -/
theorem outbox_kept_within_limit (backend : Backend) (env : DeliveryEnvironment) (clock : Instant)
    (before after : List DeliveryStep) (id : OutboxId) (row : OutboxRecord)
    (found : (run (deliver backend env) (.initial clock) before).world.store.outbox.find id =
      some row) :
    row.Limited env ∧ ∃ later, (run (deliver backend env) (.initial clock)
      (before ++ after)).world.store.outbox.find id = some later ∧ later.message = row.message := by
  have keep (state : Deliveries) (step : DeliveryStep)
      (holds : state.Sound ∧ state.Limited env) : (deliver backend env state step).Sound ∧
        (deliver backend env state step).Limited env :=
    ⟨sound_step holds.1 step, limited_step holds.1 holds.2 step⟩
  have reached := run_invariant_of_step (deliver backend env) keep before
    ⟨sound_initial clock, limited_initial clock⟩
  refine ⟨reached.2.stored id row found, ?_⟩
  rw [run_append]
  refine (run_invariant_of_step (deliver backend env) (I := fun state =>
    (state.Sound ∧ state.Limited env) ∧ ∃ later, state.world.store.outbox.find id = some later ∧
      later.message = row.message) ?_ after ⟨reached, row, found, rfl⟩).2
  rintro state step ⟨holds, later, stored, same⟩
  obtain ⟨last, kept, still⟩ :=
    ((deliver_wrote holds.1.keyed step).limited holds.1 holds.2).2 id later stored
  exact ⟨keep state step holds, last, kept, still.trans same⟩

end steps

/-- The slow worker makes the row RETRYABLE again, which has the same message. -/
theorem taken_over_kept : sentRow.Limited plainDelivery ∧ ∃ later,
    (run (deliver .memory plainDelivery) (.initial 0) (takenOver ++
      [.answer 0 { ok := false }, .save 0])).world.store.outbox.find 0 = some later ∧
        later.message = sentRow.message :=
  outbox_kept_within_limit .memory plainDelivery 0 takenOver
    [.answer 0 { ok := false }, .save 0] 0 sentRow (by decide)

end AlphaTrade.Telegram
