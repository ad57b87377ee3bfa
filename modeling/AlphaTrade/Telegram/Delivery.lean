import Mathlib
import AlphaTrade.Telegram.Protocol

/-!
# Delivering the outbox

A worker claims due rows under a lease, and then takes them one by one: the notification policy
is asked again, the transport is called, and what came of it is saved from the row as it was
claimed. Any number of workers do so at the same time. Each step that is one transaction, or the
call of the transport, is one step of the system.
-/
namespace AlphaTrade.Telegram
open Library
open Execution (OrganizationId UserId Instant)

/-! ## Backoff -/

def rateLimitedError : String := "RATE_LIMITED"

/-- `DeliveryBackoff`: how long a row waits before it may be claimed again, in microseconds. -/
structure DeliveryBackoff where
  delays : List Int := []
  defer : Int := 0
  delays_nonneg : ∀ delay ∈ delays, 0 ≤ delay := by decide
  defer_nonneg : 0 ≤ defer := by decide

namespace DeliveryBackoff

def delayFor (backoff : DeliveryBackoff) (attempt : Nat) : Int :=
  if attempt = 0 then 0 else backoff.delays.getD (min attempt backoff.delays.length - 1) 0

def rateLimitDelay (backoff : DeliveryBackoff) : Int :=
  if 0 < backoff.defer then backoff.defer else 1000000

def retryDelay (backoff : DeliveryBackoff) (attempt : Nat) (lastError : Option String) : Int :=
  if lastError = some rateLimitedError then backoff.rateLimitDelay else backoff.delayFor attempt

end DeliveryBackoff

abbrev WorkerId := Nat

/-- What delivery is configured with. `identifierLe` is the order in which the database sorts
identifiers. -/
structure DeliveryEnvironment extends Environment where
  outboxMaxAttempts : Int := 3
  outboxLease : Int := 30000000
  leaseOwner : WorkerId → String := fun _ => "telegram-security-protocol"
  retryBackoff : DeliveryBackoff := {}
  identifierLe : OutboxId → OutboxId → Bool := fun i j => i ≤ j

/-! ## Claiming -/

/-- `_is_claimable`. -/
def OutboxRecord.Claimable (row : OutboxRecord) (backoff : DeliveryBackoff) (now : Instant) :
    Prop :=
  match row.state with
  | .pending => True
  | .retryable => row.updatedAt + backoff.retryDelay row.attempt row.lastError ≤ now
  | .claimed => ∀ leaseUntil ∈ row.leaseUntil, leaseUntil ≤ now
  | .sent | .acknowledged | .deadLetter | .suppressed => False

instance (row : OutboxRecord) (backoff : DeliveryBackoff) (now : Instant) :
    Decidable (row.Claimable backoff now) :=
  match row with
  | { state := .pending, .. } => .isTrue trivial
  | { state := .retryable, updatedAt, attempt, lastError, .. } =>
    inferInstanceAs (Decidable (updatedAt + backoff.retryDelay attempt lastError ≤ now))
  | { state := .claimed, leaseUntil, .. } =>
    inferInstanceAs (Decidable (∀ end' ∈ leaseUntil, end' ≤ now))
  | { state := .sent, .. } | { state := .acknowledged, .. } | { state := .deadLetter, .. }
  | { state := .suppressed, .. } => .isFalse id

def OutboxRecord.claim (row : OutboxRecord) (owner : String) (now leaseUntil : Instant) :
    OutboxRecord :=
  { row with
    state := .claimed
    leaseOwner := some owner
    leaseUntil := some leaseUntil
    updatedAt := now }

section claiming
variable (backend : Backend) (env : DeliveryEnvironment)

/-- The outbox as the claim goes through it: by age, and on the database by identifier where the
age is the same, without the rows that another transaction holds. -/
def Store.outboxByAge (locked : List OutboxId) (store : Store) : List OutboxRecord :=
  let rows := store.outbox.rows.map Prod.snd
  match backend with
  | .memory => rows.insertionSort fun a b => a.createdAt ≤ b.createdAt
  | .postgres => (rows.filter fun row => row.outboxId ∉ locked).insertionSort fun a b =>
      a.createdAt < b.createdAt ∨
        a.createdAt = b.createdAt ∧ env.identifierLe a.outboxId b.outboxId

/-- The rows of `claim_outbox_batch`, as it returns and stores them. -/
def Store.claimed (worker : WorkerId) (limit : Nat) (locked : List OutboxId) (now : Instant)
    (store : Store) : List OutboxRecord :=
  (((store.outboxByAge backend env locked).filter fun row =>
    row.Claimable env.retryBackoff now).take limit).map fun row =>
      row.claim (env.leaseOwner worker) now (now + env.outboxLease)

def Store.claimOutboxBatch (worker : WorkerId) (limit : Nat) (locked : List OutboxId)
    (now : Instant) (store : Store) : Store :=
  { store with
    outbox := (store.claimed backend env worker limit locked now).foldl
      (fun outbox row => outbox.put row.outboxId row) store.outbox }

end claiming

/-! ## What comes of a row -/

structure TransportSendResult where
  ok : Bool
  transportMessageId : Option String := none
  errorCode : Option String := none
  deriving DecidableEq, Repr

/-- What `deliver_pending` says of a row. The row is the one it saves. -/
structure DeliveryAttempt where
  outbox : OutboxRecord
  accepted : Bool
  retryable : Bool
  transportMessageId : Option String := none
  errorCode : Option String := none
  deriving DecidableEq, Repr

def OutboxRecord.suppress (row : OutboxRecord) (reason : String) (now : Instant) :
    DeliveryAttempt where
  outbox := { row with
    state := .suppressed
    lastError := some reason
    leaseOwner := none
    leaseUntil := none
    updatedAt := now }
  accepted := false
  retryable := false
  errorCode := some reason

/-- A rate limit costs no attempt. -/
def OutboxRecord.attempted (env : DeliveryEnvironment) (row : OutboxRecord) (now : Instant)
    (result : TransportSendResult) : DeliveryAttempt :=
  if result.ok then {
    outbox := { row with
      state := .sent
      sentAt := some now
      attempt := row.attempt + 1
      transportMessageId := result.transportMessageId
      leaseOwner := none
      leaseUntil := none
      lastError := none
      updatedAt := now }
    accepted := true
    retryable := false
    transportMessageId := result.transportMessageId }
  else if result.errorCode = some rateLimitedError then {
    outbox := { row with
      state := .retryable
      leaseOwner := none
      leaseUntil := none
      lastError := some rateLimitedError
      updatedAt := now }
    accepted := false
    retryable := true
    errorCode := some rateLimitedError }
  else
    let dead : Bool := env.outboxMaxAttempts ≤ (row.attempt + 1 : Nat)
    let errorCode := (result.errorCode.filter (· ≠ "")).getD "TRANSPORT_FAILURE"
    { outbox := { row with
        state := if dead then .deadLetter else .retryable
        attempt := row.attempt + 1
        leaseOwner := none
        leaseUntil := none
        lastError := some errorCode
        updatedAt := now }
      accepted := false
      retryable := !dead
      errorCode := some errorCode }

/-- Why the row is held back at delivery. A row without an event is asked about only where
policies are loaded. -/
def heldBack (env : DeliveryEnvironment) (row : OutboxRecord) (now : Instant) (store : Store) :
    Option String :=
  if row.notificationEvent.isSome ∨ env.notificationPolicyLoader.isSome then
    notificationPolicyReason env.toEnvironment row now false store
  else none

/-! ## Enqueueing and acknowledging -/

def enqueueOutbound (backend : Backend) (env : Environment) (now : Instant)
    (organizationId : OrganizationId) (userId : UserId) (bindingId : Option BindingId)
    (botId : BotId) (chatId : ChatId) (text idempotencyKey : String)
    (notificationEvent : Option TelegramNotificationEvent) : Act OutboxRecord := do
  requireEnabled env
  transaction backend
    (enqueueUnlocked env organizationId userId bindingId botId chatId text idempotencyKey now
      notificationEvent)

def OutboxState.value : OutboxState → String
  | .pending => "PENDING"
  | .claimed => "CLAIMED"
  | .sent => "SENT"
  | .acknowledged => "ACKNOWLEDGED"
  | .retryable => "RETRYABLE"
  | .deadLetter => "DEAD_LETTER"
  | .suppressed => "SUPPRESSED"

def Store.getOutbox (store : Store) (outboxId : OutboxId) : Option OutboxRecord :=
  store.outbox.find outboxId

def OutboxRecord.acknowledge (row : OutboxRecord) (now : Instant) : OutboxRecord :=
  { row with state := .acknowledged, updatedAt := now }

/-- A row that is acknowledged already is returned as it is. -/
def acknowledgeRow (now : Instant) (row : OutboxRecord) (transportMessageId : String) :
    Act OutboxRecord :=
  if row.state = .acknowledged then do
    Tx.require (row.transportMessageId = some transportMessageId)
      (refuse .outboxConflict "Delivery acknowledgement payload conflict.")
    return row
  else do
    Tx.require (row.state = .sent) (Tx.raise
      ⟨"Delivery acknowledgement requires a SENT outbox record.", .ackStateInvalid,
        [("state", row.state.value)]⟩)
    Tx.require (row.transportMessageId = some transportMessageId)
      (refuse .outboxConflict "Delivery acknowledgement message id mismatch.")
    save (Store.saveOutbox · (row.acknowledge now))
    return row.acknowledge now

def acknowledgeDelivery (backend : Backend) (env : Environment) (now : Instant)
    (outboxId : OutboxId) (transportMessageId : String) : Act OutboxRecord := do
  requireEnabled env
  transaction backend do
    let found ← look (Store.getOutbox · outboxId)
    match found with
    | none => refuse .outboxNotFound "Outbox record was not found."
    | some row => acknowledgeRow now row transportMessageId

/-! ## Workers -/

/-- Where a call of `deliver_pending` stands, with the time it read at its start: before the next
of its rows, in the transport with one of them, or before the save of what came of it. -/
inductive Progress where
  | idle
  | delivering (now : Instant) (rows : List OutboxRecord) (attempts : List DeliveryAttempt)
  | sending (now : Instant) (row : OutboxRecord) (rest : List OutboxRecord)
      (attempts : List DeliveryAttempt)
  | saving (now : Instant) (row : OutboxRecord) (result : TransportSendResult)
      (rest : List OutboxRecord) (attempts : List DeliveryAttempt)

/-- The outbox with its workers, and the clock. -/
structure Deliveries where
  world : World
  clock : Instant
  workers : WorkerId → Progress

namespace Deliveries

def initial (clock : Instant) : Deliveries := ⟨.initial, clock, fun _ => .idle⟩

def turn (state : Deliveries) (worker : WorkerId) (progress : Progress) : Deliveries :=
  { state with workers := fun other => if other = worker then progress else state.workers other }

def write (state : Deliveries) (change : Store → Store) : Deliveries :=
  { state with world := { state.world with store := change state.world.store } }

end Deliveries

inductive DeliveryStep where
  | clock (now : Instant)
  | enqueue (organizationId : OrganizationId) (userId : UserId) (bindingId : Option BindingId)
      (botId : BotId) (chatId : ChatId) (text idempotencyKey : String)
      (notificationEvent : Option TelegramNotificationEvent)
  | claim (worker : WorkerId) (limit : Nat) (locked : List OutboxId)
  | checkPolicy (worker : WorkerId)
  | answer (worker : WorkerId) (result : TransportSendResult)
  | save (worker : WorkerId)
  | stop (worker : WorkerId)
  | acknowledge (outboxId : OutboxId) (transportMessageId : String)

section steps
variable (backend : Backend) (env : DeliveryEnvironment)

/-- A worker starts a call: it reads the clock and claims its rows. -/
def claimStep (state : Deliveries) (worker : WorkerId) (limit : Nat) (locked : List OutboxId) :
    Deliveries :=
  match state.workers worker with
  | .idle =>
    if env.enabled then
      let rows := state.world.store.claimed backend env worker limit locked state.clock
      (state.write
        (Store.claimOutboxBatch backend env worker limit locked state.clock)).turn worker
          (.delivering state.clock rows [])
    else state
  | _ => state

/-- The policy of the next row, which is suppressed or goes to the transport. -/
def checkStep (state : Deliveries) (worker : WorkerId) : Deliveries :=
  match state.workers worker with
  | .delivering now (row :: rest) attempts =>
    match heldBack env row now state.world.store with
    | some reason =>
      let suppressed := row.suppress reason now
      (state.write (Store.saveOutbox · suppressed.outbox)).turn worker
        (.delivering now rest (attempts ++ [suppressed]))
    | none => state.turn worker (.sending now row rest attempts)
  | _ => state

def answerStep (state : Deliveries) (worker : WorkerId) (result : TransportSendResult) :
    Deliveries :=
  match state.workers worker with
  | .sending now row rest attempts =>
    state.turn worker (.saving now row result rest attempts)
  | _ => state

def saveStep (state : Deliveries) (worker : WorkerId) : Deliveries :=
  match state.workers worker with
  | .saving now row result rest attempts =>
    let attempted := row.attempted env now result
    (state.write (Store.saveOutbox · attempted.outbox)).turn worker
      (.delivering now rest (attempts ++ [attempted]))
  | _ => state

/-- `stop` is a call that returns, that raises in the transport, or whose process dies. -/
def deliver (state : Deliveries) : DeliveryStep → Deliveries
  | .clock now => { state with clock := now }
  | .enqueue organizationId userId bindingId botId chatId text idempotencyKey
      notificationEvent =>
    let enqueued := enqueueOutbound backend env.toEnvironment state.clock organizationId userId
      bindingId botId chatId text idempotencyKey notificationEvent state.world
    { state with world := enqueued.2 }
  | .claim worker limit locked => claimStep backend env state worker limit locked
  | .checkPolicy worker => checkStep env state worker
  | .answer worker result => answerStep state worker result
  | .save worker => saveStep env state worker
  | .stop worker => state.turn worker .idle
  | .acknowledge outboxId transportMessageId =>
    let acknowledged := acknowledgeDelivery backend env.toEnvironment state.clock outboxId
      transportMessageId state.world
    { state with world := acknowledged.2 }

end steps

end AlphaTrade.Telegram
