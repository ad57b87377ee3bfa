import AlphaTrade.Telegram.Protocol

/-!
# What a call does

`Moved` sums up the protocol: a call is turned away, repeats the outcome of an update that is
known, or makes the writes of one of five cases. The invariants are case analyses over it.
-/
namespace AlphaTrade.Telegram
open Library
open Execution (OrganizationId UserId Instant)

/-! ## Requests that deliver an update -/

/-- The update may enter the protocol at this entry. -/
structure Admitted (env : Environment) (inbound : TelegramInboundUpdate) (expected : String) :
    Prop where
  enabled : env.enabled = true
  allowed : inbound.updateType ∈ allowedTelegramUpdateTypes
  bounded : inbound.bodySize ≤ maxInboundUpdateBytes
  awaited : inbound.updateType = expected

def Request.Admitted (env : Environment) : Request → Prop
  | .completeEnrollment _ _ inbound => Telegram.Admitted env inbound "message"
  | .receiveCallback _ _ _ inbound => Telegram.Admitted env inbound "callback_query"
  | .receivePrivateMessage _ inbound _ _ => Telegram.Admitted env inbound "message"
  | .startEnrollment .. | .issueActionNonce .. => env.enabled = true

def Request.known (store : Store) : Request → Option ActionReceipt
  | .completeEnrollment _ identity _ | .receivePrivateMessage identity _ _ _ =>
    store.getUpdateReceipt identity.botId identity.updateId
  | .receiveCallback identity _ _ _ =>
    (store.getCallbackReceipt identity.botId identity.callbackQueryId).or
      (store.getUpdateReceipt identity.botId identity.updateId)
  | .startEnrollment .. | .issueActionNonce .. => none

/-- What the update is known again by. -/
def Request.fingerprint (env : Environment) (store : Store) :
    Request → Option InboundReplayFingerprint
  | .completeEnrollment token identity _ =>
    some (enrollmentReplayFingerprint env identity (strip token) store)
  | .receiveCallback identity nonceToken presented _ =>
    some (callbackReplayFingerprint env identity nonceToken presented)
  | .receivePrivateMessage identity _ text presented =>
    some (messageReplayFingerprint env identity (strip text) presented)
  | .startEnrollment .. | .issueActionNonce .. => none

def Request.digest (env : Environment) (store : Store) (request : Request) : Option Digest :=
  (request.fingerprint env store).map env.inboundFingerprintDigest

def repeatedOutcome (store : Store) (receipt : ActionReceipt) : ActionOutcome where
  receipt := receipt
  replayed := true
  stateChanged := false
  reasonCode := receipt.reasonCode
  authorizationIntent := receipt.authorizationIntentId.bind store.getAuthorizationIntent
  effectKind := receipt.effectKind

/-- The enrollment that is repeated from a receipt, or its refusal. -/
def repeatedEnrollment (store : Store) (receipt : ActionReceipt) :
    Except TelegramSecurityError EnrollmentCompleteResult :=
  match receipt.state, receipt.bindingId with
  | .applied, some bindingId =>
    match store.getBinding bindingId with
    | none => .error ⟨"Telegram binding was not found.", .bindingNotFound, []⟩
    | some binding =>
      match store.getChallengeForBinding binding.bindingId with
      | none => .error ⟨"Enrollment challenge was not found.", .enrollmentNotFound, []⟩
      | some challenge => .ok ⟨challenge, binding⟩
  | _, _ => .error ⟨"Enrollment delivery replayed a prior rejection.",
      receipt.reasonCode.getD .enrollmentNotFound, []⟩

def Request.repeated (store : Store) (receipt : ActionReceipt) :
    Request → Except TelegramSecurityError Reply
  | .completeEnrollment .. => (repeatedEnrollment store receipt).map .completed
  | _ => .ok (.outcome (repeatedOutcome store receipt))

def TelegramSecurityReason.RefusesEnrollment (reason : TelegramSecurityReason) : Prop :=
  reason ∈ [.chatNotPrivate, .enrollmentChatIdOnly, .enrollmentNotFound, .enrollmentWrongBot,
    .enrollmentUsed, .enrollmentExpired, .telegramUserAlreadyBound]

instance (reason : TelegramSecurityReason) : Decidable reason.RefusesEnrollment :=
  inferInstanceAs (Decidable (reason ∈ _))

/-! ## What is written -/

/-- An update as its receipt is filed under it. -/
structure Update where
  actor : TelegramActorIdentity
  updateId : Nat
  callbackQueryId : Option String
  deriving DecidableEq, Repr

def Request.update : Request → Option Update
  | .completeEnrollment _ identity _ | .receivePrivateMessage identity _ _ _ =>
    some ⟨identity.toTelegramActorIdentity, identity.updateId, none⟩
  | .receiveCallback identity _ _ _ =>
    some ⟨identity.toTelegramActorIdentity, identity.updateId, some identity.callbackQueryId⟩
  | .startEnrollment .. | .issueActionNonce .. => none

/-- The receipt is filed under the update. -/
structure ActionReceipt.Files (receipt : ActionReceipt) (update : Update) (digest : Digest) :
    Prop where
  botId : receipt.botId = update.actor.botId
  updateId : receipt.updateId = update.updateId
  callbackQueryId : receipt.callbackQueryId = update.callbackQueryId
  replayFingerprint : receipt.replayFingerprint = digest

def Revised (before after : Option EnrollmentChallenge) : Prop :=
  after = before ∨
    ∃ row, before = some row ∧ row.state = .pending ∧ after = some { row with state := .revoked }

structure Revoking (store next : Store) : Prop where
  challenges : ∀ challengeId,
    Revised (store.challenges.find challengeId) (next.challenges.find challengeId)
  rest : next = { store with
    challenges := next.challenges, challengesByHash := next.challengesByHash }

def Store.unbind (store : Store) (organizationId : OrganizationId) (userId : UserId)
    (now : Instant) : Store :=
  match store.getActiveBindingForUser organizationId userId with
  | none => store
  | some previous => store.saveBinding (previous.revoke now)

/-- What an enrollment that is accepted has passed. -/
structure Enrolls (env : Environment) (store : Store) (now : Instant) (presented : String)
    (identity : MessageIdentity) (challenge : EnrollmentChallenge) : Prop where
  found : store.getChallengeByHash (env.hashSecret presented) = some challenge
  botId : challenge.botId = identity.botId
  pending : challenge.state = .pending
  inTime : now < challenge.expiresAt
  telegramUser : OwnBinding challenge
    (store.getActiveBindingForTelegramUser identity.botId identity.telegramUserId)
  chat : OwnBinding challenge (store.getActiveBindingForChat identity.botId identity.chatId)

def Store.enrolled (store : Store) (now : Instant) (identity : MessageIdentity)
    (challenge : EnrollmentChallenge) (bindingId : BindingId) : Store :=
  ((store.unbind challenge.organizationId challenge.userId now).saveChallenge
    (challenge.complete bindingId now)).saveBinding (newBinding identity challenge bindingId now)

def Presents (env : Environment) (store : Store) :
    Request → ActionNonce → ActionPayload → Prop
  | .receiveCallback identity nonceToken presented _, nonce, payload =>
    identity.chatType = .privateChat ∧ presented = payload ∧
      store.getNonceByHash (env.hashSecret (strip nonceToken)) = some nonce
  | .receivePrivateMessage _ _ _ presented, nonce, payload =>
    presented = some payload ∧ nonce.state = .issued ∧
      store.nonces.find nonce.nonceHash = some nonce
  | _, _, _ => False

/-- What a presentation that is accepted has passed. -/
structure Authorized (env : Environment) (store : Store) (actor : TelegramActorIdentity)
    (nonce : ActionNonce) (presented : ActionPayload) (now : Instant) : Prop where
  inTime : now < nonce.expiresAt
  issued : nonce.state = .issued
  botId : actor.botId = nonce.botId
  telegramUserId : actor.telegramUserId = nonce.telegramUserId
  chatId : actor.chatId = nonce.chatId
  organizationId : presented.organizationId = nonce.organizationId
  userId : presented.userId = nonce.userId
  accountId : presented.accountId = nonce.accountId
  action : presented.action = nonce.action
  payloadHash : env.payloadBindingHash presented = nonce.payloadHash
  binding : ∃ binding, store.bindings.find nonce.bindingId = some binding ∧
    binding.revokedAt = none

/-- What comes of the nonce that a request presents, and the receipt that says so. -/
inductive Used (env : Environment) (store : Store) (now : Instant) (request : Request)
    (actor : TelegramActorIdentity) (receiptId : ReceiptId) : Store → ActionReceipt → Prop
  | untouched {receipt} (unnamed : receipt.state = .applied → receipt.nonceHash = none) :
    Used env store now request actor receiptId store receipt
  | expired {receipt nonce payload} (presents : Presents env store request nonce payload)
      (late : nonce.expiresAt ≤ now) (rejected : receipt.state = .rejected) :
    Used env store now request actor receiptId (store.saveNonce nonce.expire) receipt
  | consumed {receipt nonce payload} (presents : Presents env store request nonce payload)
      (authorized : Authorized env store actor nonce payload now)
      (names : receipt.state = .applied → receipt.nonceHash = some nonce.nonceHash) :
    Used env store now request actor receiptId
      (store.saveNonce (nonce.consume now receiptId)) receipt
  | intended {receipt nonce payload revisionId intentId outbox outboxByKey}
      (presents : Presents env store request nonce payload)
      (authorized : Authorized env store actor nonce payload now)
      (approves : payload.action = .approve) (revision : payload.revisionId = some revisionId)
      (names : receipt.state = .applied → receipt.nonceHash = some nonce.nonceHash)
      (new : intentId = receiptId + 1) :
    Used env store now request actor receiptId
      { (store.saveNonce (nonce.consume now receiptId)).saveAuthorizationIntent
          (newIntent nonce payload revisionId receiptId intentId now) with outbox, outboxByKey }
      receipt

/-- The outcome that the receipt repeats, said for the first time, with the intent that the receipt
names; or the outbox is in conflict. -/
def Answers (store : Store) (receipt : ActionReceipt) :
    Except TelegramSecurityError Reply → Prop
  | .error error => error.reason = .outboxConflict
  | .ok reply => reply = .outcome { repeatedOutcome store receipt with
      replayed := false, stateChanged := true } ∧
      ∀ intentId, receipt.authorizationIntentId = some intentId →
        ∃ intent, store.intents.find intentId = some intent

/-- What a call answers, and what it leaves. -/
inductive Moved (backend : Backend) (env : Environment) (call : Call) (world : World) :
    Except TelegramSecurityError Reply → World → Prop
  | turnedAway {error last} (kept : last.store = world.store)
      (drawn : world.drawn ≤ last.drawn) (tokens : world.tokens ≤ last.tokens)
      (unrecorded : error.reason.RefusesEnrollment → backend = .postgres) :
    Moved backend env call world (.error error) last
  | repeated {receipt} (admitted : call.request.Admitted env)
      (known : call.request.known world.store = some receipt)
      (same : call.request.digest env world.store = some receipt.replayFingerprint) :
    Moved backend env call world (call.request.repeated world.store receipt) world
  | started {organizationId userId botId next last token challenge}
      (asked : call.request = .startEnrollment organizationId userId botId)
      (revoking : Revoking world.store next) (challengeId : challenge.challengeId = world.drawn)
      (pending : challenge.state = .pending) (unbound : challenge.bindingId = none)
      (stored : last.store = next.saveChallenge challenge)
      (drawn : last.drawn = world.drawn + 1) (tokens : last.tokens = world.tokens + 1) :
    Moved backend env call world (.ok (.started ⟨challenge, token⟩)) last
  | refusedEnrollment {token identity inbound error receipt next digest last}
      (asked : call.request = .completeEnrollment token identity inbound)
      (admitted : call.request.Admitted env)
      (known : call.request.known world.store = none)
      (expiring : next = world.store ∨ ∃ challenge, challenge.state = .pending ∧
        world.store.challenges.find challenge.challengeId = some challenge ∧
        next = world.store.saveChallenge { challenge with state := .expired })
      (recognised : call.request.digest env world.store = some digest)
      (files : receipt.Files ⟨identity.toTelegramActorIdentity, identity.updateId, none⟩ digest)
      (receiptId : receipt.receiptId = world.drawn) (rejected : receipt.state = .rejected)
      (reason : receipt.reasonCode = some error.reason) (refuses : error.reason.RefusesEnrollment)
      (stored : last.store = next.saveReceipt receipt)
      (drawn : last.drawn = world.drawn + 1) (tokens : last.tokens = world.tokens) :
    Moved backend env call world (.error error) last
  | enrolled {token identity inbound challenge receipt digest last}
      (asked : call.request = .completeEnrollment token identity inbound)
      (admitted : call.request.Admitted env)
      (known : call.request.known world.store = none)
      (enrolls : Enrolls env world.store call.readings.now (strip token) identity challenge)
      (recognised : call.request.digest env world.store = some digest)
      (files : receipt.Files ⟨identity.toTelegramActorIdentity, identity.updateId, none⟩ digest)
      (receiptId : receipt.receiptId = world.drawn + 1) (applied : receipt.state = .applied)
      (unnamed : receipt.nonceHash = none) (bindingId : receipt.bindingId = some world.drawn)
      (stored : last.store = (world.store.enrolled call.readings.now identity challenge
        world.drawn).saveReceipt receipt)
      (drawn : last.drawn = world.drawn + 2) (tokens : last.tokens = world.tokens) :
    Moved backend env call world (.ok (.completed
      ⟨challenge.complete world.drawn call.readings.now,
        newBinding identity challenge world.drawn call.readings.now⟩)) last
  | issued {bindingId payload binding last}
      (asked : call.request = .issueActionNonce bindingId payload)
      (bound : world.store.bindings.find bindingId = some binding)
      (active : binding.revokedAt = none)
      (organizationId : payload.organizationId = binding.organizationId)
      (userId : payload.userId = binding.userId)
      (stored : last.store = world.store.saveNonce (newNonce env binding payload
        (env.tokenFactory world.tokens) world.drawn call.readings.now))
      (drawn : last.drawn = world.drawn + 1) (tokens : last.tokens = world.tokens + 1) :
    Moved backend env call world (.ok (.issued
      ⟨newNonce env binding payload (env.tokenFactory world.tokens) world.drawn
        call.readings.now, env.tokenFactory world.tokens⟩)) last
  | received {update receipt next digest answer last}
      (asked : call.request.update = some update)
      (admitted : call.request.Admitted env)
      (known : call.request.known world.store = none)
      (checked : (checkCallback env.rateLimitPolicy call.readings update.actor world).1 = .ok ())
      (used : Used env world.store call.readings.now call.request update.actor world.drawn next
        receipt)
      (recognised : call.request.digest env world.store = some digest)
      (files : receipt.Files update digest) (receiptId : receipt.receiptId = world.drawn)
      (answers : Answers last.store receipt answer)
      (stored : last.store = next.saveReceipt receipt)
      (drawn : world.drawn < last.drawn) (tokens : last.tokens = world.tokens)
      (intents : next.intents = world.store.intents ∨ world.drawn + 1 < last.drawn) :
    Moved backend env call world answer last

/-- Every row stands under its own identifier, below the bound, and every receipt is found under
its update and its callback. -/
structure Store.Keyed (store : Store) (bound : Nat) : Prop where
  challenge : ∀ {id row}, store.challenges.find id = some row → row.challengeId = id ∧ id < bound
  binding : ∀ {id row}, store.bindings.find id = some row → row.bindingId = id ∧ id < bound
  nonce : ∀ {hash row}, store.nonces.find hash = some row → row.nonceHash = hash
  receipt : ∀ {id row}, store.receipts.find id = some row → row.receiptId = id ∧ id < bound
  intent : ∀ {id row}, store.intents.find id = some row → row.intentId = id ∧ id < bound
  filed : ∀ {id row}, store.receipts.find id = some row →
    store.receiptsByUpdate.find (row.botId, row.updateId) = some id
  filedCallback : ∀ {id row callbackQueryId}, store.receipts.find id = some row →
    row.callbackQueryId = some callbackQueryId →
    store.receiptsByCallback.find (row.botId, callbackQueryId) = some id
  update : ∀ {key id}, store.receiptsByUpdate.find key = some id →
    ∃ row, store.receipts.find id = some row
  callback : ∀ {key id}, store.receiptsByCallback.find key = some id →
    ∃ row, store.receipts.find id = some row

def World.Keyed (world : World) : Prop := world.store.Keyed world.drawn

end AlphaTrade.Telegram
