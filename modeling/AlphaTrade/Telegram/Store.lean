import Mathlib.Data.List.MinMax
import AlphaTrade.Library.PyValue
import AlphaTrade.Library.Table
import AlphaTrade.Library.Transaction
import AlphaTrade.Telegram.Contracts

/-!
# The store of the Telegram protocol, and its rate limiter

Dictionaries under their identifiers, in insertion order, with indexes by digest, by callback
and by update. Beside the store stand the windows of the rate limiter and how many
identifiers and tokens have been drawn.
-/
namespace AlphaTrade.Telegram
open Library
open Execution (OrganizationId UserId Instant)

structure Store where
  challenges : Table ChallengeId EnrollmentChallenge
  challengesByHash : Table Digest ChallengeId
  bindings : Table BindingId TelegramBinding
  nonces : Table Digest ActionNonce
  receipts : Table ReceiptId ActionReceipt
  receiptsByCallback : Table (BotId × String) ReceiptId
  receiptsByUpdate : Table (BotId × Nat) ReceiptId
  intents : Table IntentId AuthorizationIntent
  outbox : Table OutboxId OutboxRecord
  outboxByKey : Table (OrganizationId × String) OutboxId

namespace Store

def empty : Store where
  challenges := .empty
  challengesByHash := .empty
  bindings := .empty
  nonces := .empty
  receipts := .empty
  receiptsByCallback := .empty
  receiptsByUpdate := .empty
  intents := .empty
  outbox := .empty
  outboxByKey := .empty

variable (store : Store)

/-! ## Challenges -/

def saveChallenge (row : EnrollmentChallenge) : Store :=
  { store with
    challenges := store.challenges.put row.challengeId row
    challengesByHash := store.challengesByHash.put row.tokenHash row.challengeId }

def getChallengeByHash (tokenHash : Digest) : Option EnrollmentChallenge := do
  let challengeId ← store.challengesByHash.find tokenHash
  store.challenges.find challengeId

def getChallengeForBinding (bindingId : BindingId) : Option EnrollmentChallenge :=
  store.challenges.first fun row => row.bindingId = some bindingId

def listPendingChallenges (organizationId : OrganizationId) (userId : UserId) (botId : BotId) :
    List EnrollmentChallenge :=
  (store.challenges.rows.map Prod.snd).filter fun row =>
    row.organizationId = organizationId ∧ row.userId = userId ∧ row.botId = botId ∧
      row.state = .pending

def casChallenge (challengeId : ChallengeId) (expected updated : EnrollmentChallenge) :
    Bool × Store :=
  if store.challenges.find challengeId ≠ some expected then (false, store)
  else (true, { store with
    challenges := store.challenges.put challengeId updated
    challengesByHash := store.challengesByHash.put updated.tokenHash challengeId })

/-! ## Bindings -/

def saveBinding (row : TelegramBinding) : Store :=
  { store with bindings := store.bindings.put row.bindingId row }

def getBinding (bindingId : BindingId) : Option TelegramBinding := store.bindings.find bindingId

def getActiveBindingForUser (organizationId : OrganizationId) (userId : UserId) :
    Option TelegramBinding :=
  store.bindings.first fun row =>
    row.organizationId = organizationId ∧ row.userId = userId ∧ row.revokedAt = none

def getActiveBindingForTelegramUser (botId : BotId) (telegramUserId : TelegramUserId) :
    Option TelegramBinding :=
  store.bindings.first fun row =>
    row.botId = botId ∧ row.telegramUserId = telegramUserId ∧ row.revokedAt = none

def getActiveBindingForChat (botId : BotId) (chatId : ChatId) : Option TelegramBinding :=
  store.bindings.first fun row =>
    row.botId = botId ∧ row.chatId = chatId ∧ row.revokedAt = none

/-! ## Nonces -/

def saveNonce (row : ActionNonce) : Store :=
  { store with nonces := store.nonces.put row.nonceHash row }

def getNonceByHash (nonceHash : Digest) : Option ActionNonce := store.nonces.find nonceHash

/-- Instants are compared as whole numbers are. -/
local instance : Preorder Instant := Int.instLinearOrder.toPreorder

def getIssuedNonceForPayload (bindingId : BindingId) (payloadHash : Digest) :
    Option ActionNonce :=
  ((store.nonces.rows.map Prod.snd).filter fun row =>
    row.bindingId = bindingId ∧ row.payloadHash = payloadHash ∧ row.state = .issued).argmax
      ActionNonce.createdAt

def casNonce (nonceHash : Digest) (expected updated : ActionNonce) : Bool × Store :=
  if store.nonces.find nonceHash ≠ some expected then (false, store)
  else
    let nonces :=
      if updated.nonceHash ≠ nonceHash then store.nonces.erase nonceHash else store.nonces
    (true, { store with nonces := nonces.put updated.nonceHash updated })

/-! ## Receipts -/

def getCallbackReceipt (botId : BotId) (callbackQueryId : String) : Option ActionReceipt := do
  let receiptId ← store.receiptsByCallback.find (botId, callbackQueryId)
  store.receipts.find receiptId

def getUpdateReceipt (botId : BotId) (updateId : Nat) : Option ActionReceipt := do
  let receiptId ← store.receiptsByUpdate.find (botId, updateId)
  store.receipts.find receiptId

def saveReceipt (row : ActionReceipt) : Store :=
  { store with
    receipts := store.receipts.put row.receiptId row
    receiptsByUpdate := store.receiptsByUpdate.put (row.botId, row.updateId) row.receiptId
    receiptsByCallback :=
      match row.callbackQueryId with
      | none => store.receiptsByCallback
      | some callbackQueryId =>
        store.receiptsByCallback.put (row.botId, callbackQueryId) row.receiptId }

/-! ## Intents and the outbox -/

def saveAuthorizationIntent (row : AuthorizationIntent) : Store :=
  { store with intents := store.intents.put row.intentId row }

def getAuthorizationIntent (intentId : IntentId) : Option AuthorizationIntent :=
  store.intents.find intentId

def getOutboxByIdempotency (organizationId : OrganizationId) (idempotencyKey : String) :
    Option OutboxRecord := do
  let outboxId ← store.outboxByKey.find (organizationId, idempotencyKey)
  store.outbox.find outboxId

def saveOutbox (row : OutboxRecord) : Store :=
  { store with
    outbox := store.outbox.put row.outboxId row
    outboxByKey := store.outboxByKey.put (row.organizationId, row.idempotencyKey) row.outboxId }

def notificationHistory (organizationId : OrganizationId) (userId : UserId) (botId : BotId)
    (chatId : ChatId) (since : Instant) : List OutboxRecord :=
  (store.outbox.rows.map Prod.snd).filter fun row =>
    row.organizationId = organizationId ∧ row.userId = userId ∧ row.botId = botId ∧
      row.chatId = chatId ∧ row.notificationEvent.isSome ∧
      (since ≤ row.createdAt ∨ ∃ sentAt ∈ row.sentAt, since ≤ sentAt)

end Store

/-! ## The world -/

structure World where
  store : Store
  events : Table String (List Instant)
  drawn : Nat
  tokens : Nat

def World.initial : World := ⟨.empty, .empty, 0, 0⟩

/-- The two stores differ in what a transaction that raises leaves behind: the dictionaries keep
what it has written, and the database rolls it back. -/
inductive Backend where
  | memory | postgres
  deriving DecidableEq, Repr

abbrev Act := Tx World TelegramSecurityError

namespace World

def restore (backend : Backend) (world last : World) : World :=
  match backend with
  | .memory => last
  | .postgres => { last with store := world.store }

end World

def transaction {α : Type} (backend : Backend) (body : Act α) : Act α :=
  body.restoring (World.restore backend)

def look {α : Type} (view : Store → α) : Act α := Tx.read fun world => view world.store

def save (change : Store → Store) : Act Unit :=
  Tx.write fun world => { world with store := change world.store }

def cas (set : Store → Bool × Store) : Act Bool := fun world =>
  (.ok (set world.store).1, { world with store := (set world.store).2 })

def uuid4 : Act Nat := fun world => (.ok world.drawn, { world with drawn := world.drawn + 1 })

def drawToken (env : Environment) : Act String := fun world =>
  (.ok (env.tokenFactory world.tokens), { world with tokens := world.tokens + 1 })

/-! ## The rate limiter -/

/-- What the clock reads during a call: at its start, and at its rate checks. -/
structure Readings where
  now : Instant
  firstCheck : Instant
  secondCheck : Instant

/-- `ProtocolRateLimiter._check`. -/
def check (key : String) (limit window : Int) (scope : String) (now : Instant) : Act Unit := do
  let stamps ← Tx.read fun world => (world.events.find key).getD []
  let retained := stamps.filter fun stamp => now - window < stamp
  Tx.require (retained.length < limit) (Tx.raise
    ⟨"Telegram protocol rate limit exceeded.", .rateLimited, [("scope", scope)]⟩)
  Tx.write fun world => { world with events := world.events.put key (retained ++ [now]) }

def checkEnrollment (policy : RateLimitPolicy) (readings : Readings)
    (organizationId : OrganizationId) (userId : UserId) : Act Unit :=
  check ("enroll:" ++ toString organizationId ++ ":" ++ toString userId)
    policy.enrollmentPerUser policy.enrollmentWindow "enrollment" readings.firstCheck

def checkCallback (policy : RateLimitPolicy) (readings : Readings)
    (actor : TelegramActorIdentity) : Act Unit := do
  check ("callback-user:" ++ actor.botId ++ ":" ++ actor.telegramUserId)
    policy.callbackPerUser policy.callbackWindow "callback_user" readings.firstCheck
  check ("callback-chat:" ++ actor.botId ++ ":" ++ actor.chatId)
    policy.callbackPerChat policy.callbackChatWindow "callback_chat" readings.secondCheck

end AlphaTrade.Telegram
