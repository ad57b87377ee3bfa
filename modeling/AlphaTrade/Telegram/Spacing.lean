import AlphaTrade.Telegram.Outbox

/-!
# Notifications keep their distance

One worker judges every row again just before it is sent, against all that was sent to the same
recipient. What it has passed stays true until its save, since nobody else sends. So whatever is
sent is apart from everything that was sent before it.
-/
namespace AlphaTrade.Telegram
open Library
open Execution (OrganizationId UserId Instant)

def FarApart (seconds : Nat) (first second : Instant) : Prop :=
  (seconds : Int) * 1000000 ≤ |first - second|

/-- Two notifications that count as duplicates, or share a cooldown, are as far apart as the policy
asks. -/
structure Spaced (policy : TelegramNotificationPolicyV2) (event : TelegramNotificationEvent)
    (sentAt : Instant) (earlier : TelegramNotificationEvent) (earlierAt : Instant) : Prop where
  duplicate : event.duplicateKey = earlier.duplicateKey →
    FarApart policy.duplicateSuppressionSeconds sentAt earlierAt
  cooldown : cooldownScope event = cooldownScope earlier →
    FarApart policy.cooldownSeconds sentAt earlierAt

def OutboxRecord.recipient (row : OutboxRecord) :
    OrganizationId × UserId × BotId × ChatId × Option BindingId :=
  (row.organizationId, row.userId, row.botId, row.chatId, row.bindingId)

/-- The row, sent at `now`, keeps its distance to the other. -/
def OutboxRecord.Apart (env : Environment) (row : OutboxRecord) (now : Instant)
    (other : OutboxRecord) : Prop :=
  ∀ event earlier sentAt, row.notificationEvent = some event →
    other.notificationEvent = some earlier → other.sentAt = some sentAt →
    event.mandatoryRisk = false → earlier.mandatoryRisk = false →
    row.recipient = other.recipient →
    Spaced (env.notificationPolicy row.organizationId row.userId) event now earlier sentAt

/-! ## What the policy lets pass -/

variable {now : Instant}

theorem clear_of_policy {localMinute : LocalMinute} {policy : TelegramNotificationPolicyV2}
    {event : TelegramNotificationEvent} {history : List PolicyHistory}
    (optional : event.mandatoryRisk = false)
    (passes : evaluateTelegramPolicy localMinute policy event now history = none) :
    (¬∃ prior ∈ history, prior.Within now policy.duplicateSuppressionSeconds ∧
      prior.event.duplicateKey = event.duplicateKey) ∧
    ¬∃ prior ∈ history, prior.Within now policy.cooldownSeconds ∧
      cooldownScope prior.event = cooldownScope event := by
  unfold evaluateTelegramPolicy at passes
  rw [optional, if_neg Bool.false_ne_true] at passes
  iterate 13 replace passes := (passes_check passes).2
  obtain ⟨duplicate, passes⟩ := passes_check passes
  exact ⟨duplicate, (passes_check passes).1⟩

/-- What is not far apart lies within. -/
theorem within_of_near {prior : PolicyHistory} {seconds : Nat} (past : prior.acceptedAt ≤ now)
    (near : ¬FarApart seconds now prior.acceptedAt) : prior.Within now seconds := by
  have ahead : 0 ≤ now - prior.acceptedAt := Int.sub_nonneg_of_le past
  unfold FarApart at near
  rw [abs_of_nonneg ahead] at near
  exact ⟨ahead, not_le.mp near⟩

theorem since_le {now sentAt : Int} {seconds window : Nat}
    (near : now - sentAt < seconds * 1000000) (le : seconds ≤ window) :
    now - (window : Int) * 1000000 ≤ sentAt := by omega

variable {env : DeliveryEnvironment}

/-- A row that is not held back is apart from what was sent before it. -/
theorem apart_of_not_heldBack {row prior : OutboxRecord} {store : Store} {id : OutboxId}
    (passes : heldBack env row now store = none) (found : store.outbox.find id = some prior)
    (other : prior.outboxId ≠ row.outboxId)
    (delivered : prior.sentAt.isSome → prior.state = .sent ∨ prior.state = .acknowledged)
    (past : ∀ sentAt, prior.sentAt = some sentAt → sentAt ≤ now) :
    row.Apart env.toEnvironment now prior := by
  intro event earlier sentAt named earlierNamed sent optional _ same
  have past := past sentAt sent
  simp only [OutboxRecord.recipient, Prod.mk.injEq] at same
  obtain ⟨organizationId, userId, botId, chatId, bindingId⟩ := same
  let policy := env.notificationPolicy row.organizationId row.userId
  simp only [heldBack, notificationPolicyReason, named, Option.isSome_some, true_or,
    if_true] at passes
  obtain ⟨duplicate, cooldown⟩ := clear_of_policy optional passes
  have counts : countsAgainst row prior false := by
    refine ⟨other, bindingId.symm, ?_⟩
    obtain state | state := delivered (by simp [sent]) <;> simp [state]
  -- what lies within a window of the policy is in the history
  have listed {seconds : Nat} (window : seconds ≤
      max policy.cooldownSeconds policy.duplicateSuppressionSeconds)
      (near : ¬FarApart seconds now sentAt) :
      ∃ entry : PolicyHistory, entry.event = earlier ∧ entry.Within now seconds ∧ entry ∈
        ((if max policy.cooldownSeconds policy.duplicateSuppressionSeconds = 0 then []
          else store.notificationHistory row.organizationId row.userId row.botId row.chatId
            (now - (max policy.cooldownSeconds policy.duplicateSuppressionSeconds : Nat) *
              1000000)).filter fun prior =>
                countsAgainst row prior false).filterMap fun prior =>
          prior.notificationEvent.map fun event =>
            (⟨event, prior.sentAt.getD prior.createdAt⟩ : PolicyHistory) := by
    have within : PolicyHistory.Within ⟨earlier, sentAt⟩ now seconds := within_of_near past near
    have ahead : 0 ≤ now - sentAt := within.1
    have close : now - sentAt < (seconds : Int) * 1000000 := within.2
    refine ⟨⟨earlier, sentAt⟩, rfl, within, ?_⟩
    have positive : max policy.cooldownSeconds policy.duplicateSuppressionSeconds ≠ 0 := by
      rintro zero
      rw [zero, Nat.le_zero] at window
      subst window
      exact absurd close (by simpa using ahead)
    rw [if_neg positive]
    refine List.mem_filterMap.mpr ⟨prior, ?_, by simp [earlierNamed, sent]⟩
    refine List.mem_filter.mpr ⟨?_, decide_eq_true counts⟩
    refine List.mem_filter.mpr ⟨List.mem_map.mpr ⟨_, Table.mem_rows.mpr found, rfl⟩, ?_⟩
    refine decide_eq_true ⟨organizationId.symm, userId.symm, botId.symm, chatId.symm,
      by simp [earlierNamed], .inr ⟨sentAt, sent, ?_⟩⟩
    exact since_le close window
  constructor
  · intro key
    by_contra near
    obtain ⟨entry, rfl, within, member⟩ := listed (le_max_right ..) near
    exact duplicate ⟨entry, member, within, key.symm⟩
  · intro scope
    by_contra near
    obtain ⟨entry, rfl, within, member⟩ := listed (le_max_left ..) near
    exact cooldown ⟨entry, member, within, scope.symm⟩

/-! ## What has been sent -/

section distance
variable {env : Environment} {row other later : OutboxRecord} {now : Instant}

theorem Spaced.symm {policy : TelegramNotificationPolicyV2}
    {event earlier : TelegramNotificationEvent} {sentAt earlierAt : Instant}
    (spaced : Spaced policy event sentAt earlier earlierAt) :
    Spaced policy earlier earlierAt event sentAt where
  duplicate key := by
    unfold FarApart
    rw [abs_sub_comm]
    exact spaced.duplicate key.symm
  cooldown scope := by
    unfold FarApart
    rw [abs_sub_comm]
    exact spaced.cooldown scope.symm

/-- A row says the same of its notification. -/
structure OutboxRecord.SameNotice (later before : OutboxRecord) : Prop where
  event : later.notificationEvent = before.notificationEvent
  recipient : later.recipient = before.recipient
  sentAt : later.sentAt = before.sentAt

namespace OutboxRecord.Apart

theorem of_unsent (unsent : other.sentAt = none) : row.Apart env now other :=
  fun _ _ _ _ _ sent => nomatch unsent.symm.trans sent

theorem of_same (apart : row.Apart env now other) (same : later.SameNotice other) :
    row.Apart env now later := fun event earlier sentAt named earlierNamed sent optional risky
      own => apart event earlier sentAt named (same.event.symm.trans earlierNamed)
        (same.sentAt.symm.trans sent) optional risky (own.trans same.recipient)

theorem notice_eq (apart : row.Apart env now other)
    (event : later.notificationEvent = row.notificationEvent)
    (recipient : later.recipient = row.recipient) : later.Apart env now other := by
  intro own earlier sentAt named earlierNamed sent optional risky same
  have spaced := apart own earlier sentAt (event.symm.trans named) earlierNamed sent optional risky
    (recipient.symm.trans same)
  simp only [OutboxRecord.recipient, Prod.mk.injEq] at recipient
  rw [recipient.1, recipient.2.1]
  exact spaced

theorem symm (apart : row.Apart env now other) {sentAt : Instant}
    (sent : other.sentAt = some sentAt) (rowSent : row.sentAt = some now) :
    other.Apart env sentAt row := by
  intro event earlier at_ named earlierNamed own optional risky same
  cases own.symm.trans rowSent
  have spaced := apart earlier event sentAt earlierNamed named sent risky optional same.symm
  simp only [OutboxRecord.recipient, Prod.mk.injEq] at same
  rw [same.1, same.2.1]
  exact spaced.symm

end OutboxRecord.Apart

end distance

/-- Everything that has been sent is in the past, and apart. -/
structure Sent (env : Environment) (outbox : Table OutboxId OutboxRecord) (bound : Instant) :
    Prop where
  delivered : ∀ id row, outbox.find id = some row → row.sentAt.isSome →
    row.state = .sent ∨ row.state = .acknowledged
  past : ∀ id row sentAt, outbox.find id = some row → row.sentAt = some sentAt → sentAt ≤ bound
  apart : ∀ i j a b sentAt, outbox.find i = some a → outbox.find j = some b → i ≠ j →
    a.sentAt = some sentAt → a.Apart env sentAt b

def Quiet (before after : Table OutboxId OutboxRecord) : Prop :=
  ∀ id later, after.find id = some later → later.sentAt = none ∨
    ∃ earlier, before.find id = some earlier ∧ later.SameNotice earlier ∧
      (later.state = .sent ∨ later.state = .acknowledged)

def Progress.started : Progress → Option Instant
  | .idle => none
  | .delivering now _ _ | .sending now _ _ _ | .saving now _ _ _ _ => some now

def Progress.judged : Progress → Option (Instant × OutboxRecord)
  | .sending now row _ _ | .saving now row _ _ _ => some (now, row)
  | .idle | .delivering _ _ _ => none

/-- How far a worker has come with its rows: it has started after all that was sent, none of its
rows has been sent, and the one it has judged is apart from what was sent. -/
structure Fits (env : Environment) (outbox : Table OutboxId OutboxRecord) (clock : Instant)
    (progress : Progress) : Prop where
  started : ∀ now ∈ progress.started, now ≤ clock ∧
    ∀ id row sentAt, outbox.find id = some row → row.sentAt = some sentAt → sentAt ≤ now
  unsent : ∀ row ∈ progress.rows, row.sentAt = none
  judged : ∀ now row, (now, row) ∈ progress.judged →
    ∀ id other, outbox.find id = some other → id ≠ row.outboxId → row.Apart env now other

section sending
variable {env : Environment} {before after : Table OutboxId OutboxRecord} {bound clock : Instant}
  {progress : Progress}

theorem Sent.mono (sent : Sent env before bound) {later : Instant} (forward : bound ≤ later) :
    Sent env before later :=
  { sent with
    past := fun id row sentAt found at_ => (sent.past id row sentAt found at_).trans forward }

theorem Quiet.refl (sent : Sent env before bound) : Quiet before before := by
  intro id later found
  cases at_ : later.sentAt with
  | none => exact .inl rfl
  | some sentAt =>
    exact .inr ⟨later, found, ⟨rfl, rfl, rfl⟩, sent.delivered id later found (by simp [at_])⟩

variable {row : OutboxRecord}

/-- A row that is not sent may be put anywhere. -/
theorem Quiet.put (sent : Sent env before bound) {id : OutboxId} (unsent : row.sentAt = none) :
    Quiet before (before.put id row) := by
  intro key later found
  obtain ⟨-, rfl⟩ | ⟨-, kept⟩ := Table.find_put_cases found
  · exact .inl unsent
  · exact Quiet.refl sent key later kept

theorem Sent.quiet (sent : Sent env before bound) (quiet : Quiet before after) :
    Sent env after bound where
  delivered id row found at_ := by
    obtain unsent | ⟨-, -, -, state⟩ := quiet id row found
    · simp [unsent] at at_
    · exact state
  past id row sentAt found at_ := by
    obtain unsent | ⟨earlier, kept, same, -⟩ := quiet id row found
    · exact nomatch unsent.symm.trans at_
    · exact sent.past id earlier sentAt kept (same.sentAt.symm.trans at_)
  apart i j a b sentAt first second differ at_ := by
    obtain unsent | ⟨earlier, kept, same, -⟩ := quiet i a first
    · exact nomatch unsent.symm.trans at_
    obtain unsent | ⟨other, stored, alike, -⟩ := quiet j b second
    · exact .of_unsent unsent
    · have apart := sent.apart i j earlier other sentAt kept stored differ
        (same.sentAt.symm.trans at_)
      exact (apart.of_same alike).notice_eq same.event same.recipient

theorem Fits.quiet (fits : Fits env before clock progress) (quiet : Quiet before after) :
    Fits env after clock progress where
  started now member := by
    obtain ⟨past, sent⟩ := fits.started now member
    refine ⟨past, fun id row sentAt found at_ => ?_⟩
    obtain unsent | ⟨earlier, kept, same, -⟩ := quiet id row found
    · exact nomatch unsent.symm.trans at_
    · exact sent id earlier sentAt kept (same.sentAt.symm.trans at_)
  unsent := fits.unsent
  judged now row member id other found differ := by
    obtain unsent | ⟨earlier, kept, same, -⟩ := quiet id other found
    · exact .of_unsent unsent
    · exact (fits.judged now row member id earlier kept differ).of_same same

/-- A row is sent that is apart from all the others. -/
theorem Sent.send (sent : Sent env before bound) {id : OutboxId} {now : Instant}
    (state : row.state = .sent) (at_ : row.sentAt = some now) (past : now ≤ bound)
    (apart : ∀ key other, before.find key = some other → key ≠ id → row.Apart env now other) :
    Sent env (before.put id row) bound where
  delivered key other found known := by
    obtain ⟨-, rfl⟩ | ⟨-, kept⟩ := Table.find_put_cases found
    · exact .inl state
    · exact sent.delivered key other kept known
  past key other sentAt found known := by
    obtain ⟨-, rfl⟩ | ⟨-, kept⟩ := Table.find_put_cases found
    · cases at_.symm.trans known
      exact past
    · exact sent.past key other sentAt kept known
  apart i j a b sentAt first second differ known := by
    obtain ⟨rfl, rfl⟩ | ⟨own, kept⟩ := Table.find_put_cases first
    · cases at_.symm.trans known
      obtain ⟨rfl, -⟩ | ⟨other, stored⟩ := Table.find_put_cases second
      · exact absurd rfl differ
      · exact apart j b stored other
    · obtain ⟨rfl, rfl⟩ | ⟨-, stored⟩ := Table.find_put_cases second
      · exact (apart i a kept own).symm known at_
      · exact sent.apart i j a b sentAt kept stored differ known

end sending

/-! ## One worker -/

/-- Only the worker delivers, and what it has sent is apart. -/
structure Deliveries.Orderly (env : DeliveryEnvironment) (worker : WorkerId)
    (state : Deliveries) : Prop where
  sound : state.Sound
  idle : ∀ other, other ≠ worker → state.workers other = .idle
  sent : Sent env.toEnvironment state.world.store.outbox state.clock
  fits : Fits env.toEnvironment state.world.store.outbox state.clock (state.workers worker)

def Alone (worker : WorkerId) (state : Deliveries) (step : DeliveryStep) : Prop :=
  match step with
  | .claim other _ _ => other = worker
  | .clock now => state.clock ≤ now
  | _ => True

instance (worker : WorkerId) (state : Deliveries) (step : DeliveryStep) :
    Decidable (Alone worker state step) := by
  unfold Alone
  split <;> infer_instance

theorem workers_turn_self (state : Deliveries) (worker : WorkerId) (progress : Progress) :
    (state.turn worker progress).workers worker = progress := if_pos rfl

theorem workers_turn_of_ne (state : Deliveries) {worker other : WorkerId} (differ : other ≠ worker)
    (progress : Progress) : (state.turn worker progress).workers other = state.workers other :=
  if_neg differ

theorem fits_idle (env : Environment) (outbox : Table OutboxId OutboxRecord) (clock : Instant) :
    Fits env outbox clock .idle where
  started := nofun
  unsent _ member := absurd member List.not_mem_nil
  judged _ _ member := nomatch member

theorem fits_delivering {env : Environment} {outbox : Table OutboxId OutboxRecord} {clock : Instant}
    {rows : List OutboxRecord} {attempts : List DeliveryAttempt} (past : now ≤ clock)
    (started : ∀ id row sentAt, outbox.find id = some row → row.sentAt = some sentAt → sentAt ≤ now)
    (unsent : ∀ row ∈ rows, row.sentAt = none) :
    Fits env outbox clock (.delivering now rows attempts) where
  started _ same := by
    cases same
    exact ⟨past, started⟩
  unsent := unsent
  judged _ _ member := nomatch member

theorem sentAt_attempted {row : OutboxRecord} {result : TransportSendResult}
    (fails : ¬result.ok = true) : (row.attempted env now result).outbox.sentAt = row.sentAt := by
  unfold OutboxRecord.attempted
  rw [if_neg fails]
  split <;> rfl

section steps
variable {backend : Backend} {env : DeliveryEnvironment} {state : Deliveries}
  {worker : WorkerId}

variable {next : Deliveries} {by_ : WorkerId} {row : OutboxRecord}

/-- The state after the turn of the worker, from what has been written. -/
theorem Deliveries.Orderly.turn (orderly : state.Orderly env worker) {progress : Progress}
    (sound : (next.turn worker progress).Sound) (workers : next.workers = state.workers)
    (sent : Sent env.toEnvironment next.world.store.outbox next.clock)
    (fits : Fits env.toEnvironment next.world.store.outbox next.clock progress) :
    (next.turn worker progress).Orderly env worker where
  sound := sound
  idle other differ := by
    rw [workers_turn_of_ne next differ, workers]
    exact orderly.idle other differ
  sent := sent
  fits := by
    rw [workers_turn_self]
    exact fits

/-- Nothing more is sent and the workers stay. -/
theorem Deliveries.Orderly.quiet (orderly : state.Orderly env worker) (sound : next.Sound)
    (workers : next.workers = state.workers) (clock : next.clock = state.clock)
    (quiet : Quiet state.world.store.outbox next.world.store.outbox) :
    next.Orderly env worker where
  sound := sound
  idle other differ := workers ▸ orderly.idle other differ
  sent := clock ▸ orderly.sent.quiet quiet
  fits := by
    rw [clock, workers]
    exact orderly.fits.quiet quiet

theorem claimed_quiet (orderly : state.Orderly env worker) (by_ : WorkerId) (limit : Nat)
    (locked : List OutboxId) : Quiet state.world.store.outbox
      (state.world.store.claimOutboxBatch backend env by_ limit locked state.clock).outbox := by
  intro id later found
  obtain same | ⟨row, stored, claimable, same⟩ :=
    claimOutboxBatch_find orderly.sound.keyed by_ limit locked id
  · exact Quiet.refl orderly.sent id later (same.symm.trans found)
  · cases same.symm.trans found
    cases at_ : row.sentAt with
    | none => exact .inl at_
    | some sentAt =>
      obtain sent | acknowledged := orderly.sent.delivered id row stored (by simp [at_])
      · exact absurd sent claimable.open.1
      · exact absurd acknowledged claimable.open.2

/-- The rows of a new claim have not been sent. -/
theorem unsent_claimed (orderly : state.Orderly env worker) {limit : Nat} {locked : List OutboxId}
    (claimed : row ∈ state.world.store.claimed backend env by_ limit locked state.clock) :
    row.sentAt = none := by
  obtain ⟨before, stored, claimable, rfl⟩ := before_of_claimed orderly.sound.keyed claimed
  cases at_ : before.sentAt with
  | none => exact at_
  | some sentAt =>
    obtain sent | acknowledged := orderly.sent.delivered _ before stored (by simp [at_])
    · exact absurd sent claimable.open.1
    · exact absurd acknowledged claimable.open.2

/-- The row that the policy has let pass is apart from all the others. -/
theorem Deliveries.Orderly.judges (orderly : state.Orderly env worker) {now : Instant}
    {rest : List OutboxRecord} {attempts : List DeliveryAttempt}
    (stands : state.workers worker = .delivering now (row :: rest) attempts)
    (passes : heldBack env row now state.world.store = none) :
    Fits env.toEnvironment state.world.store.outbox state.clock
      (.sending now row rest attempts) := by
  have fits := orderly.fits
  rw [stands] at fits
  refine ⟨fits.started, fits.unsent, ?_⟩
  rintro _ _ ⟨⟩ id other found differ
  refine apart_of_not_heldBack passes found ?_ (orderly.sent.delivered id other found)
    fun sentAt at_ => (fits.started now rfl).2 id other sentAt found at_
  rw [(orderly.sound.keyed id other found).1]
  exact differ

theorem checkStep_orderly (orderly : state.Orderly env worker)
    (sound : (checkStep env state worker).Sound) :
    (checkStep env state worker).Orderly env worker := by
  unfold checkStep at sound ⊢
  split at sound
  · rename_i now row rest attempts stands
    have fits := orderly.fits
    rw [stands] at fits
    split at sound
    · rename_i reason held
      have unsent : (row.suppress reason now).outbox.sentAt = none :=
        fits.unsent row (List.mem_cons_self ..)
      have quiet : Quiet _ (state.world.store.outbox.put row.outboxId _) :=
        .put orderly.sent unsent
      have goesOn : Fits env.toEnvironment state.world.store.outbox state.clock
          (.delivering now rest (attempts ++ [row.suppress reason now])) :=
        fits_delivering (fits.started now rfl).1 (fits.started now rfl).2
          fun row member => fits.unsent row (List.mem_cons_of_mem _ member)
      exact orderly.turn sound rfl (orderly.sent.quiet quiet) (goesOn.quiet quiet)
    · rename_i passes
      exact orderly.turn sound rfl orderly.sent (orderly.judges stands passes)
  · exact orderly

theorem saveStep_orderly (orderly : state.Orderly env worker)
    (sound : (saveStep env state worker).Sound) :
    (saveStep env state worker).Orderly env worker := by
  unfold saveStep at sound ⊢
  split at sound
  · rename_i now row result rest attempts stands
    have fits := orderly.fits
    rw [stands] at fits
    have own := outboxId_attempted env row now result
    have goesOn {outbox : Table OutboxId OutboxRecord}
        (started : ∀ id row sentAt, outbox.find id = some row → row.sentAt = some sentAt →
          sentAt ≤ now) : Fits env.toEnvironment outbox state.clock
            (.delivering now rest (attempts ++ [row.attempted env now result])) :=
      fits_delivering (fits.started now rfl).1 started
        fun row member => fits.unsent row (List.mem_cons_of_mem _ member)
    by_cases ok : result.ok = true
    · have state_ : (row.attempted env now result).outbox.state = .sent := by
        simp [OutboxRecord.attempted, ok]
      have at_ : (row.attempted env now result).outbox.sentAt = some now := by
        simp [OutboxRecord.attempted, ok]
      have apart (key : OutboxId) (other : OutboxRecord)
          (found : state.world.store.outbox.find key = some other) (differ : key ≠ row.outboxId) :
          (row.attempted env now result).outbox.Apart env.toEnvironment now other := by
        refine (fits.judged now row rfl key other found differ).notice_eq ?_ ?_
        · simp [OutboxRecord.attempted, ok]
        · simp [OutboxRecord.attempted, OutboxRecord.recipient, ok]
      rw [← own] at apart
      have sent := orderly.sent.send state_ at_ (fits.started now rfl).1 apart
      refine orderly.turn sound rfl sent (goesOn fun id other sentAt found known => ?_)
      obtain ⟨-, rfl⟩ | ⟨-, kept⟩ := Table.find_put_cases found
      · cases at_.symm.trans known
        exact le_rfl
      · exact (fits.started now rfl).2 id other sentAt kept known
    · have unsent : (row.attempted env now result).outbox.sentAt = none :=
        (sentAt_attempted ok).trans (fits.unsent row (List.mem_cons_self ..))
      have quiet : Quiet _ (state.world.store.outbox.put
          (row.attempted env now result).outbox.outboxId _) := .put orderly.sent unsent
      exact orderly.turn sound rfl (orderly.sent.quiet quiet)
        ((goesOn (fits.started now rfl).2).quiet quiet)
  · exact orderly

/-- A step that no worker takes part in, and by which nothing is sent. -/
theorem quiet_of_acknowledged (orderly : state.Orderly env worker) {outboxId : OutboxId}
    (found : state.world.store.outbox.find outboxId = some row) {last : World}
    (outbox : last.store.outbox = state.world.store.outbox.put row.outboxId (row.acknowledge
      state.clock)) :
    Quiet state.world.store.outbox last.store.outbox := by
  intro id later stored
  rw [outbox, (orderly.sound.keyed _ _ found).1] at stored
  obtain ⟨rfl, rfl⟩ | ⟨-, kept⟩ := Table.find_put_cases stored
  · exact .inr ⟨row, found, ⟨rfl, rfl, rfl⟩, .inr rfl⟩
  · exact Quiet.refl orderly.sent id later kept

/-- A worker that does not deliver takes no step. -/
theorem idle_step (orderly : state.Orderly env worker) (differ : by_ ≠ worker) :
    checkStep env state by_ = state ∧ saveStep env state by_ = state ∧
      ∀ result, answerStep state by_ result = state := by
  have idle := orderly.idle by_ differ
  simp [checkStep, saveStep, answerStep, idle]

theorem orderly_step (orderly : state.Orderly env worker) {step : DeliveryStep}
    (alone : Alone worker state step) :
    (deliver backend env state step).Orderly env worker := by
  have sound : (deliver backend env state step).Sound := sound_step orderly.sound step
  have kept {outbox : Table OutboxId OutboxRecord} (same : outbox = state.world.store.outbox) :
      Quiet state.world.store.outbox outbox := by
    rw [same]
    exact Quiet.refl orderly.sent
  cases step with
  | clock now =>
    have fits := orderly.fits
    exact {
      sound := sound
      idle := orderly.idle
      sent := orderly.sent.mono alone
      fits := { fits with
        started := fun start member =>
          ⟨(fits.started start member).1.trans alone, (fits.started start member).2⟩ } }
  | enqueue organizationId userId bindingId botId chatId text idempotencyKey notificationEvent =>
    refine orderly.quiet sound rfl rfl ?_
    have ends : Tx.Ends (enqueueOutbound backend env.toEnvironment state.clock organizationId
        userId bindingId botId chatId text idempotencyKey notificationEvent) state.world _ :=
      enqueueOutbound_ends ..
    obtain ⟨-, same | ⟨row, new, -, same⟩⟩ := ends
    · exact kept same
    · have put : Quiet _ (state.world.store.outbox.put row.outboxId row) :=
        .put orderly.sent new.sentAt
      rw [← same] at put
      exact put
  | acknowledge outboxId transportMessageId =>
    refine orderly.quiet sound rfl rfl ?_
    have ends : Tx.Ends (acknowledgeDelivery backend env.toEnvironment state.clock outboxId
        transportMessageId) state.world _ := acknowledgeDelivery_ends ..
    obtain ⟨-, same | ⟨row, found, -, same⟩⟩ := ends
    · exact kept same
    · exact quiet_of_acknowledged orderly found same
  | claim by_ limit locked =>
    obtain rfl : by_ = worker := alone
    simp only [deliver, claimStep] at sound ⊢
    split
    · rename_i idle
      simp only [idle] at sound
      split
      · rename_i enabled
        rw [if_pos enabled] at sound
        have quiet : Quiet _ (state.world.store.claimOutboxBatch backend env by_ limit locked
            state.clock).outbox := claimed_quiet orderly by_ limit locked
        have sent := orderly.sent.quiet quiet
        refine orderly.turn sound rfl sent (fits_delivering le_rfl sent.past fun row member => ?_)
        exact unsent_claimed orderly member
      · exact orderly
    · exact orderly
  | stop by_ =>
    by_cases own : by_ = worker
    · subst own
      exact orderly.turn sound rfl orderly.sent (fits_idle ..)
    · refine orderly.quiet sound ?_ rfl (Quiet.refl orderly.sent)
      funext other
      by_cases same : other = by_
      · subst same
        exact (workers_turn_self ..).trans (orderly.idle other own).symm
      · exact workers_turn_of_ne state same .idle
  | answer by_ result =>
    by_cases own : by_ = worker
    · subst own
      simp only [deliver, answerStep] at sound ⊢
      split
      · rename_i now row rest attempts stands
        have fits := orderly.fits
        rw [stands] at fits
        simp only [stands] at sound
        exact orderly.turn sound rfl orderly.sent ⟨fits.started, fits.unsent, fits.judged⟩
      · exact orderly
    · rw [show deliver backend env state (.answer by_ result) = state from
        (idle_step orderly own).2.2 result]
      exact orderly
  | checkPolicy by_ =>
    by_cases own : by_ = worker
    · subst own
      exact checkStep_orderly orderly sound
    · rw [show deliver backend env state (.checkPolicy by_) = state from
        (idle_step orderly own).1]
      exact orderly
  | save by_ =>
    by_cases own : by_ = worker
    · subst own
      exact saveStep_orderly orderly sound
    · rw [show deliver backend env state (.save by_) = state from
        (idle_step orderly own).2.1]
      exact orderly

theorem orderly_initial (env : DeliveryEnvironment) (worker : WorkerId) (clock : Instant) :
    (Deliveries.initial clock).Orderly env worker where
  sound := sound_initial clock
  idle _ _ := rfl
  sent := ⟨fun _ _ found => (nomatch found), fun _ _ _ found => (nomatch found),
    fun _ _ _ _ _ found => (nomatch found)⟩
  fits := fits_idle ..

end steps

/-- While one worker delivers and the clock does not go back, no two optional notifications to one
recipient with the same duplicate key, or the same cooldown scope, are sent within the window of
the policy, whatever is enqueued, retried, claimed again or acknowledged in between. -/
theorem notifications_keep_their_distance (backend : Backend) (env : DeliveryEnvironment)
    (worker : WorkerId) (clock : Instant) (steps : List DeliveryStep)
    (alone : Along (deliver backend env) (Alone worker) (.initial clock) steps)
    (i j : OutboxId) (a b : OutboxRecord) (event other : TelegramNotificationEvent)
    (sentAt otherAt : Instant) :
    let outbox := (run (deliver backend env) (.initial clock) steps).world.store.outbox
    outbox.find i = some a → outbox.find j = some b → i ≠ j →
    a.notificationEvent = some event → b.notificationEvent = some other →
    event.mandatoryRisk = false → other.mandatoryRisk = false →
    a.sentAt = some sentAt → b.sentAt = some otherAt → a.recipient = b.recipient →
    Spaced (env.notificationPolicy a.organizationId a.userId) event sentAt other otherAt := by
  intro outbox first second differ named otherNamed optional otherOptional sent otherSent same
  have orderly : (run (deliver backend env) (.initial clock) steps).Orderly env worker :=
    run_invariant (deliver backend env) (I := Deliveries.Orderly env worker)
      (fun _ _ orderly alone => orderly_step orderly alone) (orderly_initial env worker clock)
      alone
  exact orderly.sent.apart i j a b sentAt first second differ sent event other otherAt named
    otherNamed otherSent optional otherOptional same

def setupEvent : TelegramNotificationEvent where
  eventType := .setup
  severity := .action
  strategyId := none
  symbol := some "BTCUSDT"
  setupStage := none
  phase := some .confirmed
  quality := none
  duplicateKey := "setup"
  occurredAt := 0
  mandatoryRisk := false
  mandatory_only_risk := nofun

def setupRow (outboxId : OutboxId) (idempotencyKey : String) (now : Instant) : OutboxRecord where
  outboxId := outboxId
  organizationId := 1
  userId := 2
  bindingId := none
  botId := "bot"
  chatId := "chat"
  idempotencyKey := idempotencyKey
  text := "setup"
  notificationEvent := some setupEvent
  state := .sent
  attempt := 1
  transportMessageId := some "m"
  sentAt := some now
  createdAt := now
  updatedAt := now

def deliverSetup (now : Instant) (idempotencyKey : String) : List DeliveryStep := [
  .clock now,
  .enqueue 1 2 none "bot" "chat" "setup" idempotencyKey (some setupEvent),
  .claim 0 10 [], .checkPolicy 0,
  .answer 0 { ok := true, transportMessageId := some "m" }, .save 0, .stop 0]

/-- The same setup is sent again after a day, which is the window of the policy. -/
theorem setup_sent_again_after_a_day :
    let outbox := (run (deliver .memory plainDelivery) (.initial 0)
      (deliverSetup 0 "first" ++ deliverSetup 86400000000 "second")).world.store.outbox
    outbox.find 0 = some (setupRow 0 "first" 0) ∧
      outbox.find 1 = some (setupRow 1 "second" 86400000000) ∧
      Spaced (plainDelivery.notificationPolicy 1 2) setupEvent 0 setupEvent 86400000000 := by
  intro outbox
  have first : outbox.find 0 = some (setupRow 0 "first" 0) := by decide
  have second : outbox.find 1 = some (setupRow 1 "second" 86400000000) := by decide
  exact ⟨first, second, notifications_keep_their_distance .memory plainDelivery 0 0
    (deliverSetup 0 "first" ++ deliverSetup 86400000000 "second") (by decide) 0 1
    (setupRow 0 "first" 0) (setupRow 1 "second" 86400000000) setupEvent setupEvent 0 86400000000
    first second (by decide) rfl rfl rfl rfl rfl rfl rfl⟩

end AlphaTrade.Telegram
