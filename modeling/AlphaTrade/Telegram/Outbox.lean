import AlphaTrade.Telegram.Delivery
import AlphaTrade.Telegram.Nonces

/-!
# What is delivered stays delivered

`Wrote` sums up what a step does to the outbox. A row goes back only by a save, or a suppression,
that is made from a row as it was claimed and finds that another worker has meanwhile gone on with
it.
-/
namespace AlphaTrade.Telegram
open Library
open Execution (OrganizationId UserId Instant)

/-! ## What a step writes -/

def World.OutboxKeyed (world : World) : Prop :=
  ∀ id row, world.store.outbox.find id = some row → row.outboxId = id ∧ id < world.drawn

/-- A row as it is enqueued. -/
structure OutboxRecord.New (row : OutboxRecord) (id : OutboxId) : Prop where
  outboxId : row.outboxId = id
  attempt : row.attempt = 0
  sentAt : row.sentAt = none

inductive Wrote (env : DeliveryEnvironment) (state : Deliveries) (last : World) :
    DeliveryStep → Prop
  | kept {step} (outbox : last.store.outbox = state.world.store.outbox)
      (drawn : state.world.drawn ≤ last.drawn) : Wrote env state last step
  | enqueued {step row} (new : row.New state.world.drawn)
      (outbox : last.store.outbox = state.world.store.outbox.put row.outboxId row)
      (drawn : state.world.drawn < last.drawn) : Wrote env state last step
  | claimed {worker limit locked}
      (rows : ∀ id, last.store.outbox.find id = state.world.store.outbox.find id ∨
        ∃ row, state.world.store.outbox.find id = some row ∧
          row.Claimable env.retryBackoff state.clock ∧ last.store.outbox.find id =
            some (row.claim (env.leaseOwner worker) state.clock (state.clock + env.outboxLease)))
      (drawn : last.drawn = state.world.drawn) :
    Wrote env state last (.claim worker limit locked)
  | suppressed {worker now row rest attempts reason}
      (stands : state.workers worker = .delivering now (row :: rest) attempts)
      (held : heldBack env row now state.world.store = some reason)
      (outbox : last.store.outbox =
        state.world.store.outbox.put row.outboxId (row.suppress reason now).outbox)
      (drawn : last.drawn = state.world.drawn) : Wrote env state last (.checkPolicy worker)
  | saved {worker now row result rest attempts}
      (stands : state.workers worker = .saving now row result rest attempts)
      (outbox : last.store.outbox =
        state.world.store.outbox.put row.outboxId (row.attempted env now result).outbox)
      (drawn : last.drawn = state.world.drawn) : Wrote env state last (.save worker)
  | acknowledged {outboxId transportMessageId row}
      (found : state.world.store.outbox.find outboxId = some row) (sent : row.state = .sent)
      (outbox : last.store.outbox =
        state.world.store.outbox.put row.outboxId (row.acknowledge state.clock))
      (drawn : last.drawn = state.world.drawn) :
    Wrote env state last (.acknowledge outboxId transportMessageId)

@[simp] theorem outboxId_attempted (env : DeliveryEnvironment) (row : OutboxRecord)
    (now : Instant) (result : TransportSendResult) :
    (row.attempted env now result).outbox.outboxId = row.outboxId := by
  unfold OutboxRecord.attempted
  split
  · rfl
  · split <;> rfl

variable {backend : Backend} {env : Environment} {world : World} {now : Instant}
  {row : OutboxRecord}

theorem enqueueOutbound_ends (organizationId : OrganizationId) (userId : UserId)
    (bindingId : Option BindingId) (botId : BotId) (chatId : ChatId) (text idempotencyKey : String)
    (notificationEvent : Option TelegramNotificationEvent) :
    Tx.Ends (enqueueOutbound backend env now organizationId userId bindingId botId chatId text
      idempotencyKey notificationEvent) world fun _ last => world.drawn ≤ last.drawn ∧
        (last.store.outbox = world.store.outbox ∨
          ∃ row : OutboxRecord, row.New world.drawn ∧ world.drawn < last.drawn ∧
            last.store.outbox = world.store.outbox.put row.outboxId row) := by
  refine Tx.ends_require (fun _ => ends_refuse ⟨le_rfl, .inl rfl⟩) fun _ => ?_
  refine Tx.ends_restoring (ends_look ?_)
  split
  · refine Tx.ends_require (fun _ => ends_refuse ?_) fun _ => ⟨le_rfl, .inl rfl⟩
    cases backend <;> exact ⟨le_rfl, .inl rfl⟩
  · refine ends_uuid4 (ends_look (ends_save ?_))
    refine ⟨Nat.le_succ _, .inr ⟨_, ?_, Nat.lt_succ_self _, rfl⟩⟩
    split <;> exact ⟨rfl, rfl, rfl⟩

theorem acknowledgeDelivery_ends (outboxId : OutboxId) (transportMessageId : String) :
    Tx.Ends (acknowledgeDelivery backend env now outboxId transportMessageId) world
      fun _ last => last.drawn = world.drawn ∧ (last.store.outbox = world.store.outbox ∨
        ∃ row, world.store.outbox.find outboxId = some row ∧ row.state = .sent ∧
          last.store.outbox = world.store.outbox.put row.outboxId (row.acknowledge now)) := by
  refine Tx.ends_require (fun _ => ends_refuse ⟨rfl, .inl rfl⟩) fun _ => ?_
  refine Tx.ends_restoring (ends_look ?_)
  have refused : (World.restore backend world world).drawn =
      world.drawn ∧ ((World.restore backend world world).store.outbox = world.store.outbox ∨
        ∃ row, world.store.outbox.find outboxId = some row ∧ row.state = .sent ∧
          (World.restore backend world world).store.outbox =
            world.store.outbox.put row.outboxId (row.acknowledge now)) := by
    cases backend <;> exact ⟨rfl, .inl rfl⟩
  split
  · exact refused
  · rename_i row found
    refine Tx.ends_ite (fun _ => ?_) fun _ => ?_
    · exact Tx.ends_require (fun _ => refused) fun _ => ⟨rfl, .inl rfl⟩
    · refine Tx.ends_require (fun _ => refused) fun sent => ?_
      refine Tx.ends_require (fun _ => refused) fun _ => ends_save ?_
      exact ⟨rfl, .inr ⟨row, found, sent, rfl⟩⟩

section steps
variable {backend : Backend} {env : DeliveryEnvironment} {state : Deliveries}

theorem before_of_claimed (keyed : state.world.OutboxKeyed) {worker : WorkerId} {limit : Nat}
    {locked : List OutboxId} {row : OutboxRecord}
    (claimed : row ∈ state.world.store.claimed backend env worker limit locked state.clock) :
    ∃ before, state.world.store.outbox.find row.outboxId = some before ∧
      before.Claimable env.retryBackoff state.clock ∧
      row = before.claim (env.leaseOwner worker) state.clock (state.clock + env.outboxLease) := by
  obtain ⟨before, taken, rfl⟩ := List.mem_map.mp claimed
  obtain ⟨aged, claimable⟩ := List.mem_filter.mp (List.mem_of_mem_take taken)
  have stored : before ∈ state.world.store.outbox.rows.map Prod.snd := by
    unfold Store.outboxByAge at aged
    cases backend with
    | memory => exact (List.mem_insertionSort _).mp aged
    | postgres => exact (List.mem_filter.mp ((List.mem_insertionSort _).mp aged)).1
  obtain ⟨⟨key, _⟩, listed, rfl⟩ := List.mem_map.mp stored
  have found := Table.mem_rows.mp listed
  refine ⟨_, ?_, of_decide_eq_true claimable, rfl⟩
  rw [← (keyed _ _ found).1] at found
  exact found

theorem claimOutboxBatch_find (keyed : state.world.OutboxKeyed) (worker : WorkerId) (limit : Nat)
    (locked : List OutboxId) (id : OutboxId) :
    let next := state.world.store.claimOutboxBatch backend env worker limit locked state.clock
    next.outbox.find id = state.world.store.outbox.find id ∨
      ∃ row, state.world.store.outbox.find id = some row ∧
        row.Claimable env.retryBackoff state.clock ∧ next.outbox.find id =
          some (row.claim (env.leaseOwner worker) state.clock (state.clock + env.outboxLease)) := by
  intro next
  let rows := state.world.store.claimed backend env worker limit locked state.clock
  have put : next.outbox.find id = state.world.store.outbox.find id ∨
      ∃ row ∈ rows, row.outboxId = id ∧ next.outbox.find id = some row :=
    Table.find_foldl_put rows state.world.store.outbox id
  obtain kept | ⟨later, member, own, found⟩ := put
  · exact .inl kept
  · obtain ⟨before, stored, claimable, rfl⟩ := before_of_claimed keyed member
    subst own
    exact .inr ⟨before, stored, claimable, found⟩

theorem deliver_wrote (keyed : state.world.OutboxKeyed) (step : DeliveryStep) :
    Wrote env state (deliver backend env state step).world step := by
  cases step with
  | clock => exact .kept rfl le_rfl
  | stop => exact .kept rfl le_rfl
  | answer worker result =>
    simp only [deliver, answerStep]
    split <;> exact .kept rfl le_rfl
  | enqueue organizationId userId bindingId botId chatId text idempotencyKey notificationEvent =>
    have ends : Tx.Ends (enqueueOutbound backend env.toEnvironment state.clock organizationId
        userId bindingId botId chatId text idempotencyKey notificationEvent) state.world _ :=
      enqueueOutbound_ends ..
    obtain ⟨drawn, same | ⟨row, new, fresh, same⟩⟩ := ends
    · exact .kept same drawn
    · exact .enqueued new same fresh
  | claim worker limit locked =>
    simp only [deliver, claimStep]
    split
    · split
      · exact .claimed (claimOutboxBatch_find keyed worker limit locked) rfl
      · exact .kept rfl le_rfl
    · exact .kept rfl le_rfl
  | checkPolicy worker =>
    simp only [deliver, checkStep]
    split
    · rename_i now row rest attempts stands
      split
      · rename_i reason held
        exact .suppressed stands held rfl rfl
      · exact .kept rfl le_rfl
    · exact .kept rfl le_rfl
  | save worker =>
    simp only [deliver, saveStep]
    split
    · rename_i now row result rest attempts stands
      refine .saved stands ?_ rfl
      rw [← outboxId_attempted env row now result]
      rfl
    · exact .kept rfl le_rfl
  | acknowledge outboxId transportMessageId =>
    have ends : Tx.Ends (acknowledgeDelivery backend env.toEnvironment state.clock outboxId
        transportMessageId) state.world _ := acknowledgeDelivery_ends ..
    obtain ⟨drawn, same | ⟨row, found, sent, same⟩⟩ := ends
    · exact .kept same drawn.ge
    · exact .acknowledged found sent same drawn

end steps

/-! ## What workers hold -/

def Progress.rows : Progress → List OutboxRecord
  | .idle => []
  | .delivering _ rows _ => rows
  | .sending _ row rest _ | .saving _ row _ rest _ => row :: rest

theorem rows_turn {state : Deliveries} {worker other : WorkerId} {progress : Progress}
    (holds : row ∈ ((state.turn worker progress).workers other).rows) :
    other = worker ∧ row ∈ progress.rows ∨ row ∈ (state.workers other).rows := by
  unfold Deliveries.turn at holds
  dsimp only at holds
  split at holds
  · rename_i same
    exact .inl ⟨same, holds⟩
  · exact .inr holds

section steps
variable {backend : Backend} {env : DeliveryEnvironment} {state : Deliveries}

variable {row : OutboxRecord} {last : World}

/-- A row that a worker holds after a step it has held before, or has claimed by it. -/
theorem deliver_rows (keyed : state.world.OutboxKeyed) {step : DeliveryStep} {worker : WorkerId}
    (holds : row ∈ ((deliver backend env state step).workers worker).rows) :
    row ∈ (state.workers worker).rows ∨
      ∃ before, state.world.store.outbox.find row.outboxId = some before ∧
        before.Claimable env.retryBackoff state.clock ∧
        row = before.claim (env.leaseOwner worker) state.clock (state.clock + env.outboxLease) := by
  -- a step of another worker, or one that only lets a row go
  have lets {by_ : WorkerId} {progress : Progress} {next : Deliveries}
      (same : next.workers = state.workers)
      (fewer : ∀ row ∈ progress.rows, row ∈ (state.workers by_).rows)
      (holds : row ∈ ((next.turn by_ progress).workers worker).rows) :
      row ∈ (state.workers worker).rows := by
    obtain ⟨rfl, held⟩ | held := rows_turn holds
    · exact fewer row held
    · exact same ▸ held
  cases step with
  | clock => exact .inl holds
  | enqueue => exact .inl holds
  | acknowledge => exact .inl holds
  | stop => exact .inl (lets rfl (fun _ member => absurd member List.not_mem_nil) holds)
  | answer by_ result =>
    simp only [deliver, answerStep] at holds
    split at holds
    · rename_i stands
      refine .inl (lets rfl ?_ holds)
      rw [stands]
      exact fun _ => id
    · exact .inl holds
  | save by_ =>
    simp only [deliver, saveStep] at holds
    split at holds
    · rename_i stands
      refine .inl (lets rfl ?_ holds)
      rw [stands]
      exact fun _ member => List.mem_cons_of_mem _ member
    · exact .inl holds
  | checkPolicy by_ =>
    simp only [deliver, checkStep] at holds
    split at holds
    · rename_i stands
      split at holds
      · refine .inl (lets rfl ?_ holds)
        rw [stands]
        exact fun _ member => List.mem_cons_of_mem _ member
      · refine .inl (lets rfl ?_ holds)
        rw [stands]
        exact fun _ => id
    · exact .inl holds
  | claim by_ limit locked =>
    simp only [deliver, claimStep] at holds
    split at holds
    · split at holds
      · obtain ⟨rfl, claimed⟩ | held := rows_turn holds
        · exact .inr (before_of_claimed keyed claimed)
        · exact .inl held
      · exact .inl holds
    · exact .inl holds

/-- The outbox is keyed, and the rows that workers hold have been drawn. -/
structure Deliveries.Sound (state : Deliveries) : Prop where
  keyed : state.world.OutboxKeyed
  held : ∀ worker, ∀ row ∈ (state.workers worker).rows, row.outboxId < state.world.drawn

theorem World.OutboxKeyed.put {world : World} {id : OutboxId} (keyed : world.OutboxKeyed)
    (outbox : last.store.outbox = world.store.outbox.put id row) (own : row.outboxId = id)
    (below : id < last.drawn) (drawn : world.drawn ≤ last.drawn) : last.OutboxKeyed := by
  intro id later found
  rw [outbox] at found
  obtain ⟨rfl, rfl⟩ | ⟨-, kept⟩ := Table.find_put_cases found
  · exact ⟨own, below⟩
  · exact ⟨(keyed _ _ kept).1, (keyed _ _ kept).2.trans_le drawn⟩

theorem Wrote.drawn_le {step : DeliveryStep} (wrote : Wrote env state last step) :
    state.world.drawn ≤ last.drawn := by
  cases wrote with
  | kept outbox drawn => exact drawn
  | enqueued new outbox drawn => exact drawn.le
  | claimed rows drawn => exact drawn.ge
  | suppressed stands held outbox drawn => exact drawn.ge
  | saved stands outbox drawn => exact drawn.ge
  | acknowledged found sent outbox drawn => exact drawn.ge

theorem Wrote.keyed {step : DeliveryStep} (wrote : Wrote env state last step) (sound :
    state.Sound) :
    last.OutboxKeyed := by
  have held {worker : WorkerId} {progress : Progress} {row : OutboxRecord}
      (stands : state.workers worker = progress) (member : row ∈ progress.rows)
      (drawn : last.drawn = state.world.drawn) : row.outboxId < last.drawn :=
    drawn ▸ sound.held worker row (stands ▸ member)
  cases wrote with
  | kept outbox drawn =>
    intro id row found
    rw [outbox] at found
    exact ⟨(sound.keyed _ _ found).1, (sound.keyed _ _ found).2.trans_le drawn⟩
  | enqueued new outbox drawn => exact sound.keyed.put outbox rfl (new.outboxId ▸ drawn) drawn.le
  | claimed rows drawn =>
    intro id later found
    obtain same | ⟨row, stored, -, same⟩ := rows id
    · rw [same] at found
      exact drawn ▸ sound.keyed _ _ found
    · cases same.symm.trans found
      have own := sound.keyed _ _ stored
      exact ⟨own.1, drawn ▸ own.2⟩
  | suppressed stands _ outbox drawn =>
    exact sound.keyed.put outbox rfl (held stands (List.mem_cons_self ..) drawn) drawn.ge
  | saved stands outbox drawn =>
    exact sound.keyed.put outbox (outboxId_attempted ..)
      (held stands (List.mem_cons_self ..) drawn) drawn.ge
  | acknowledged found _ outbox drawn =>
    have below := sound.keyed _ _ found
    exact sound.keyed.put outbox rfl (drawn ▸ below.1 ▸ below.2) drawn.ge

theorem sound_step (sound : state.Sound) (step : DeliveryStep) :
    (deliver backend env state step).Sound := by
  have wrote : Wrote env state (deliver backend env state step).world step :=
    deliver_wrote sound.keyed step
  refine ⟨wrote.keyed sound, fun worker row holds => ?_⟩
  obtain held | ⟨before, found, -⟩ := deliver_rows sound.keyed holds
  · exact (sound.held worker row held).trans_le wrote.drawn_le
  · exact (sound.keyed _ _ found).2.trans_le wrote.drawn_le

theorem sound_initial (clock : Instant) : (Deliveries.initial clock).Sound where
  keyed _ _ found := nomatch found
  held _ _ member := nomatch member

theorem sound_run (clock : Instant) (steps : List DeliveryStep) :
    (run (deliver backend env) (.initial clock) steps).Sound :=
  run_invariant_of_step (I := Deliveries.Sound) _ (fun _ step sound => sound_step sound step)
    steps (sound_initial clock)

end steps

/-! ## A row that is delivered -/

/-- What is delivered stays so, and no attempt is taken back. -/
structure OutboxRecord.GoesOn (before after : OutboxRecord) : Prop where
  sent : before.state = .sent → after.state = .sent ∨ after.state = .acknowledged
  acknowledged : before.state = .acknowledged →
    after.state = .acknowledged ∧ after.transportMessageId = before.transportMessageId
  attempt : before.attempt ≤ after.attempt

def Store.StillClaimed (store : Store) (row : OutboxRecord) : Prop :=
  ∃ stored ∈ store.outbox.find row.outboxId,
    stored.state = .claimed ∧ stored.attempt = row.attempt

instance (store : Store) (row : OutboxRecord) : Decidable (store.StillClaimed row) :=
  inferInstanceAs (Decidable (∃ stored ∈ store.outbox.find row.outboxId, _))

/-- A step that saves a row finds it still claimed. -/
def Undisturbed (env : DeliveryEnvironment) (state : Deliveries) (step : DeliveryStep) : Prop :=
  match step with
  | .checkPolicy worker =>
    match state.workers worker with
    | .delivering now (row :: _) _ =>
      (heldBack env row now state.world.store).isSome → state.world.store.StillClaimed row
    | _ => True
  | .save worker =>
    match state.workers worker with
    | .saving _ row _ _ _ => state.world.store.StillClaimed row
    | _ => True
  | _ => True

instance (env : DeliveryEnvironment) (state : Deliveries) (step : DeliveryStep) :
    Decidable (Undisturbed env state step) := by
  unfold Undisturbed
  repeat' split
  all_goals infer_instance

namespace OutboxRecord.GoesOn

theorem refl (row : OutboxRecord) : row.GoesOn row := ⟨.inl, fun same => ⟨same, rfl⟩, le_rfl⟩

theorem trans {first second third : OutboxRecord} (before : first.GoesOn second)
    (after : second.GoesOn third) : first.GoesOn third where
  sent sent := by
    obtain still | acknowledged := before.sent sent
    · exact after.sent still
    · exact .inr (after.acknowledged acknowledged).1
  acknowledged acknowledged := by
    obtain ⟨state, message⟩ := before.acknowledged acknowledged
    obtain ⟨later, same⟩ := after.acknowledged state
    exact ⟨later, same.trans message⟩
  attempt := before.attempt.trans after.attempt

/-- A row that has not been sent may go anywhere. -/
theorem of_open {before after : OutboxRecord} (unsent : before.state ≠ .sent)
    (unacknowledged : before.state ≠ .acknowledged) (attempt : before.attempt ≤ after.attempt) :
    before.GoesOn after :=
  ⟨fun sent => absurd sent unsent, fun same => absurd same unacknowledged, attempt⟩

theorem of_claimed {before after : OutboxRecord} (claimed : before.state = .claimed)
    (attempt : before.attempt ≤ after.attempt) : before.GoesOn after :=
  of_open (by simp [claimed]) (by simp [claimed]) attempt

end OutboxRecord.GoesOn

theorem OutboxRecord.Claimable.open {backoff : DeliveryBackoff}
    (claimable : row.Claimable backoff now) : row.state ≠ .sent ∧ row.state ≠ .acknowledged := by
  unfold OutboxRecord.Claimable at claimable
  cases state : row.state <;> simp [state] at claimable ⊢

theorem attempt_le_attempted (env : DeliveryEnvironment) (row : OutboxRecord) (now : Instant)
    (result : TransportSendResult) :
    row.attempt ≤ (row.attempted env now result).outbox.attempt := by
  unfold OutboxRecord.attempted
  split
  · exact Nat.le_succ _
  · split
    · exact le_rfl
    · exact Nat.le_succ _

section steps
variable {backend : Backend} {env : DeliveryEnvironment} {state : Deliveries}

theorem Wrote.goesOn {last : World} {step : DeliveryStep} (wrote : Wrote env state last step)
    (sound : state.Sound) (undisturbed : Undisturbed env state step) {id : OutboxId}
    {row : OutboxRecord} (found : state.world.store.outbox.find id = some row) :
    ∃ later, last.store.outbox.find id = some later ∧ row.GoesOn later := by
  -- a row that is saved, and every other
  have put {own : OutboxId} {saved : OutboxRecord}
      (outbox : last.store.outbox = state.world.store.outbox.put own saved)
      (goesOn : id = own → row.GoesOn saved) :
      ∃ later, last.store.outbox.find id = some later ∧ row.GoesOn later := by
    rw [outbox]
    by_cases same : id = own
    · subst same
      exact ⟨saved, Table.find_put_self .., goesOn rfl⟩
    · exact ⟨row, (Table.find_put_of_ne _ same _).trans found, .refl row⟩
  have claimed {copy : OutboxRecord} (still : state.world.store.StillClaimed copy)
      (same : id = copy.outboxId) : row.state = .claimed ∧ row.attempt = copy.attempt := by
    obtain ⟨stored, kept, stands⟩ := still
    subst same
    cases found.symm.trans kept
    exact stands
  cases wrote with
  | kept outbox => exact ⟨row, outbox ▸ found, .refl row⟩
  | enqueued new outbox =>
    refine put outbox fun same => ?_
    exact absurd (same.trans new.outboxId) (sound.keyed id row found).2.ne
  | claimed rows =>
    obtain same | ⟨before, stored, claimable, same⟩ := rows id
    · exact ⟨row, same.trans found, .refl row⟩
    · cases found.symm.trans stored
      exact ⟨_, same, .of_open claimable.open.1 claimable.open.2 le_rfl⟩
  | suppressed stands held outbox =>
    refine put outbox fun same => ?_
    simp only [Undisturbed, stands, held, Option.isSome_some, forall_const] at undisturbed
    obtain ⟨state, attempt⟩ := claimed undisturbed same
    exact .of_claimed state attempt.le
  | saved stands outbox =>
    refine put outbox fun same => ?_
    simp only [Undisturbed, stands] at undisturbed
    obtain ⟨state, attempt⟩ := claimed undisturbed same
    exact .of_claimed state (attempt.le.trans (attempt_le_attempted ..))
  | acknowledged stored sent outbox =>
    refine put outbox fun same => ?_
    rw [same, (sound.keyed _ _ stored).1] at found
    cases found.symm.trans stored
    exact ⟨fun _ => .inr rfl, fun other => (nomatch sent.symm.trans other), le_rfl⟩

/-- Where every save finds its row still claimed, a row that is sent stays sent or is acknowledged,
a row that is acknowledged stays so with its message, and attempts only grow: for any number of
workers and in every order of their steps. -/
theorem delivered_stays_delivered (backend : Backend) (env : DeliveryEnvironment)
    (clock : Instant) (before after : List DeliveryStep)
    (undisturbed : Along (deliver backend env) (Undisturbed env)
      (run (deliver backend env) (.initial clock) before) after)
    (id : OutboxId) (row : OutboxRecord)
    (found : (run (deliver backend env) (.initial clock) before).world.store.outbox.find id =
      some row) :
    ∃ later, (run (deliver backend env) (.initial clock) (before ++ after)).world.store.outbox.find
      id = some later ∧ row.GoesOn later := by
  rw [run_append]
  refine (run_invariant (deliver backend env) (I := fun state => state.Sound ∧
    ∃ later, state.world.store.outbox.find id = some later ∧ row.GoesOn later) ?_
    ⟨sound_run clock before, row, found, .refl row⟩ undisturbed).2
  rintro state step ⟨sound, later, stored, goesOn⟩ undisturbed
  have wrote : Wrote env state (deliver backend env state step).world step :=
    deliver_wrote sound.keyed step
  obtain ⟨last, kept, next⟩ := wrote.goesOn sound undisturbed stored
  exact ⟨sound_step sound step, last, kept, goesOn.trans next⟩

end steps

def plainDelivery : DeliveryEnvironment := { plainEnvironment with }

/-- One worker is in the transport when its lease expires; another sends the row and it is
acknowledged. -/
def takenOver : List DeliveryStep := [
  .enqueue 1 2 none "bot" "chat" "hello" "key" none,
  .claim 0 10 [], .checkPolicy 0,
  .clock 30000000,
  .claim 1 10 [], .checkPolicy 1, .answer 1 { ok := true, transportMessageId := some "m" },
  .save 1]

/-- The slow worker's failure makes the row RETRYABLE again, sent or acknowledged. -/
theorem slow_worker_takes_back :
    let stateAfter (backend : Backend) (steps : List DeliveryStep) :=
      ((run (deliver backend plainDelivery) (.initial 0) steps).world.store.outbox.find 0).map
        fun row => (row.state, row.transportMessageId)
    let fails : List DeliveryStep := [.answer 0 { ok := false }, .save 0]
    ∀ backend,
      stateAfter backend takenOver = some (.sent, some "m") ∧
      stateAfter backend (takenOver ++ fails) = some (.retryable, none) ∧
      stateAfter backend (takenOver ++ [.acknowledge 0 "m"]) = some (.acknowledged, some "m") ∧
      stateAfter backend (takenOver ++ .acknowledge 0 "m" :: fails) = some (.retryable, none) := by
  intro stateAfter fails backend
  cases backend <;> decide

def sentRow : OutboxRecord where
  outboxId := 0
  organizationId := 1
  userId := 2
  bindingId := none
  botId := "bot"
  chatId := "chat"
  idempotencyKey := "key"
  text := "hello"
  state := .sent
  attempt := 1
  transportMessageId := some "m"
  sentAt := some 30000000
  createdAt := 0
  updatedAt := 30000000

/-- Where the slow worker does not save, the row stays sent. -/
theorem taken_over_stays_sent :
    ∃ later, (run (deliver .memory plainDelivery) (.initial 0) (takenOver ++
      [.answer 0 { ok := false }, .acknowledge 0 "m", .claim 1 10 []])).world.store.outbox.find 0 =
        some later ∧ sentRow.GoesOn later :=
  delivered_stays_delivered .memory plainDelivery 0 takenOver
    [.answer 0 { ok := false }, .acknowledge 0 "m", .claim 1 10 []] (by decide) 0 sentRow
    (by decide)

end AlphaTrade.Telegram
