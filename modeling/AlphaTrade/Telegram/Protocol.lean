import AlphaTrade.Telegram.Store

/-!
# The Telegram security protocol

Each entry point is one transaction on the store. A redelivered update is known by its receipt
and repeats it. A callback names its nonce by the token, a private message by the payload; from
there on both go the same way. The audit log, which nothing reads, is left out.
-/
namespace AlphaTrade.Telegram
open Library
open Execution (OrganizationId UserId RevisionId Instant)

def refuse {α : Type} (reason : TelegramSecurityReason) (message : String) : Act α :=
  Tx.raise ⟨message, reason, []⟩

section protocol
variable (env : Environment)

/-! ## Guards -/

def requireEnabled : Act Unit :=
  Tx.require env.enabled (refuse .featureDisabled "Telegram interaction protocol is disabled.")

def assertInboundUpdateAllowed (inbound : TelegramInboundUpdate) : Act Unit := do
  requireEnabled env
  Tx.require (inbound.updateType ∈ allowedTelegramUpdateTypes) (Tx.raise
    ⟨"Telegram update type is not allowed.", .updateTypeRejected,
      [("update_type", inbound.updateType)]⟩)
  Tx.require (inbound.bodySize ≤ maxInboundUpdateBytes) (Tx.raise
    ⟨"Telegram update exceeds bounded request size.", .updateTooLarge,
      [("body_size", toString inbound.bodySize)]⟩)

def requireInboundType (inbound : TelegramInboundUpdate) (expected : String) : Act Unit :=
  Tx.require (inbound.updateType = expected) (Tx.raise
    ⟨"Telegram inbound update type does not match this protocol entry.", .updateTypeRejected,
      [("update_type", inbound.updateType), ("expected", expected)]⟩)

/-- `_require_identical_replay`. -/
def requireIdenticalReplay (receipt : ActionReceipt) (incomingDigest : Digest) : Act Unit :=
  Tx.require (receipt.replayFingerprint = incomingDigest) (Tx.raise
    ⟨"Inbound Telegram replay conflicts with the original fingerprint.", .replayConflict,
      [("bot_id", receipt.botId), ("update_id", toString receipt.updateId)]⟩)

/-! ## Receipts -/

/-- `_new_receipt`, without the fields that only some callers set. -/
def newReceipt (actor : TelegramActorIdentity) (updateId : Nat) (now : Instant)
    (replayFingerprint : Digest) (state : ActionReceiptState)
    (reasonCode : Option TelegramSecurityReason) : Act ActionReceipt := do
  let receiptId ← uuid4
  return {
    receiptId
    botId := actor.botId
    updateId
    telegramUserId := actor.telegramUserId
    chatId := actor.chatId
    replayFingerprint
    state
    reasonCode
    transitions := [⟨1, none, state, now, reasonCode⟩]
    createdAt := now
    updatedAt := now }

/-- `_transition`. -/
def transition (receipt : ActionReceipt) (toState : ActionReceiptState) (now : Instant)
    (reasonCode : Option TelegramSecurityReason) : ActionReceipt :=
  { receipt with
    state := toState
    updatedAt := now
    reasonCode := reasonCode.or receipt.reasonCode
    transitions := receipt.transitions ++
      [⟨receipt.transitions.length + 1, some receipt.state, toState, now, reasonCode⟩] }

/-- `_finalize_rejection`. -/
def finalizeRejection (receipt : ActionReceipt) (reason : TelegramSecurityReason)
    (now : Instant) : Act ActionOutcome := do
  let rejected :=
    transition { receipt with reasonCode := some reason } .rejected now (some reason)
  save (Store.saveReceipt · rejected)
  return { receipt := rejected, replayed := false, stateChanged := true, reasonCode := some reason }

/-- `_replay_action`. -/
def replayAction (receipt : ActionReceipt) : Act ActionOutcome := do
  let intent ← look fun store => receipt.authorizationIntentId.bind store.getAuthorizationIntent
  return {
    receipt
    replayed := true
    stateChanged := false
    reasonCode := receipt.reasonCode
    authorizationIntent := intent
    effectKind := receipt.effectKind }

/-! ## Enrollment -/

def revokePending : List EnrollmentChallenge → Act Unit
  | [] => pure ()
  | pending :: rest => do
    let _ ← cas
      (Store.casChallenge · pending.challengeId pending { pending with state := .revoked })
    revokePending rest

def startEnrollment (backend : Backend) (readings : Readings) (organizationId : OrganizationId)
    (userId : UserId) (botId : BotId) : Act EnrollmentStartResult := do
  requireEnabled env
  checkEnrollment env.rateLimitPolicy readings organizationId userId
  transaction backend do
    let pending ← look (Store.listPendingChallenges · organizationId userId botId)
    revokePending pending
    let token ← drawToken env
    let challengeId ← uuid4
    let challenge : EnrollmentChallenge := {
      challengeId
      organizationId
      userId
      botId := strip botId
      tokenHash := env.hashSecret token
      state := .pending
      expiresAt := readings.now + env.enrollmentTtl
      createdAt := readings.now }
    save (Store.saveChallenge · challenge)
    return ⟨challenge, token⟩

/-- `_enrollment_replay_fingerprint`. -/
def enrollmentReplayFingerprint (identity : MessageIdentity) (presented : String)
    (store : Store) : InboundReplayFingerprint :=
  let challenge := store.getChallengeByHash (env.hashSecret presented)
  { updateId := identity.updateId
    messageId := some identity.messageId
    callbackQueryId := none
    telegramUserId := identity.telegramUserId
    chatId := identity.chatId
    chatType := identity.chatType
    botId := identity.botId
    secretHash := env.hashSecret presented
    organizationId := challenge.map EnrollmentChallenge.organizationId
    userId := challenge.map EnrollmentChallenge.userId }

/-- `_replay_enrollment`. -/
def replayEnrollment (receipt : ActionReceipt) : Act EnrollmentCompleteResult :=
  match receipt.state, receipt.bindingId with
  | .applied, some bindingId => do
    let binding ← look (Store.getBinding · bindingId)
    match binding with
    | none => refuse .bindingNotFound "Telegram binding was not found."
    | some binding =>
      let challenge ← look (Store.getChallengeForBinding · binding.bindingId)
      match challenge with
      | none => refuse .enrollmentNotFound "Enrollment challenge was not found."
      | some challenge => return ⟨challenge, binding⟩
  | _, _ => refuse (receipt.reasonCode.getD .enrollmentNotFound)
      "Enrollment delivery replayed a prior rejection."

/-- `_record_enrollment_rejection`, and the error. -/
def rejectEnrollment {α : Type} (identity : MessageIdentity) (now : Instant)
    (replayFingerprint : Digest) (challenge : Option EnrollmentChallenge)
    (reason : TelegramSecurityReason) (message : String) : Act α := do
  let receipt ← newReceipt identity.toTelegramActorIdentity identity.updateId now
    replayFingerprint .rejected (some reason)
  save (Store.saveReceipt · { receipt with
    messageId := some identity.messageId
    organizationId := challenge.map EnrollmentChallenge.organizationId
    userId := challenge.map EnrollmentChallenge.userId })
  refuse reason message

def OwnBinding (challenge : EnrollmentChallenge) (binding : Option TelegramBinding) : Prop :=
  ∀ found ∈ binding,
    found.userId = challenge.userId ∧ found.organizationId = challenge.organizationId

instance (challenge : EnrollmentChallenge) (binding : Option TelegramBinding) :
    Decidable (OwnBinding challenge binding) :=
  inferInstanceAs (Decidable (∀ found ∈ binding, _))

def newBinding (identity : MessageIdentity) (challenge : EnrollmentChallenge)
    (bindingId : BindingId) (now : Instant) : TelegramBinding where
  bindingId := bindingId
  organizationId := challenge.organizationId
  userId := challenge.userId
  telegramUserId := identity.telegramUserId
  chatId := identity.chatId
  chatType := .privateChat
  botId := identity.botId
  state := .verified
  verifiedAt := now
  allowedActions := availableTelegramActions

def EnrollmentChallenge.complete (challenge : EnrollmentChallenge) (bindingId : BindingId)
    (now : Instant) : EnrollmentChallenge :=
  { challenge with state := .completed, completedAt := some now, bindingId := some bindingId }

def TelegramBinding.revoke (binding : TelegramBinding) (now : Instant) : TelegramBinding :=
  { binding with state := .revoked, revokedAt := some now }

def revokePrevious (now : Instant) : Option TelegramBinding → Act Unit
  | none => pure ()
  | some previous => save (Store.saveBinding · (previous.revoke now))

/-- `complete_enrollment` from the challenge's checks on: the old binding of the user is revoked
and a new one is made. -/
def bindChallenge (now : Instant) (identity : MessageIdentity) (replayFingerprint : Digest)
    (challenge : EnrollmentChallenge) : Act EnrollmentCompleteResult := do
  let previous ← look (Store.getActiveBindingForUser · challenge.organizationId challenge.userId)
  revokePrevious now previous
  let bindingId ← uuid4
  let binding := newBinding identity challenge bindingId now
  let completed := challenge.complete bindingId now
  let done ← cas (Store.casChallenge · challenge.challengeId challenge completed)
  Tx.require done (refuse .enrollmentUsed "Enrollment challenge has already been used.")
  save (Store.saveBinding · binding)
  let receipt ← newReceipt identity.toTelegramActorIdentity identity.updateId now
    replayFingerprint .applied none
  save (Store.saveReceipt · { receipt with
    messageId := some identity.messageId
    organizationId := some binding.organizationId
    userId := some binding.userId
    bindingId := some binding.bindingId })
  return ⟨completed, binding⟩

/-- `complete_enrollment` for an update that is not known. -/
def enroll (readings : Readings) (identity : MessageIdentity) (presented : String)
    (replayFingerprint : Digest) : Act EnrollmentCompleteResult := do
  let now := readings.now
  let actor := identity.toTelegramActorIdentity
  checkCallback env.rateLimitPolicy readings actor
  Tx.require (identity.chatType = .privateChat) (rejectEnrollment identity now replayFingerprint
    none .chatNotPrivate "Telegram enrollment requires a private chat.")
  Tx.require (presented ≠ "" ∧ presented ≠ identity.chatId) (rejectEnrollment identity now
    replayFingerprint none .enrollmentChatIdOnly "A Telegram chat id is not enrollment.")
  let found ← look (Store.getChallengeByHash · (env.hashSecret presented))
  match found with
  | none =>
    rejectEnrollment identity now replayFingerprint none .enrollmentNotFound
      "Enrollment challenge was not found."
  | some challenge =>
    let reject := rejectEnrollment (α := Unit) identity now replayFingerprint (some challenge)
    Tx.require (challenge.botId = identity.botId)
      (reject .enrollmentWrongBot "Enrollment challenge belongs to a different bot.")
    Tx.require (challenge.state ≠ .completed)
      (reject .enrollmentUsed "Enrollment challenge has already been used.")
    Tx.require (challenge.state = .pending)
      (reject .enrollmentUsed "Enrollment challenge is not pending.")
    Tx.require (now < challenge.expiresAt) do
      let _ ← cas (Store.casChallenge · challenge.challengeId challenge
        { challenge with state := .expired })
      reject .enrollmentExpired "Enrollment challenge has expired."
    let existingTg ← look
      (Store.getActiveBindingForTelegramUser · identity.botId identity.telegramUserId)
    Tx.require (OwnBinding challenge existingTg) (reject .telegramUserAlreadyBound
      "Telegram user is already bound to another AlphaTrade user.")
    let existingChat ← look (Store.getActiveBindingForChat · identity.botId identity.chatId)
    Tx.require (OwnBinding challenge existingChat) (reject .telegramUserAlreadyBound
      "Telegram chat is already bound to another AlphaTrade user.")
    bindChallenge now identity replayFingerprint challenge

def completeEnrollment (backend : Backend) (readings : Readings) (token : String)
    (identity : MessageIdentity) (inbound : TelegramInboundUpdate) :
    Act EnrollmentCompleteResult := do
  requireEnabled env
  assertInboundUpdateAllowed env inbound
  requireInboundType inbound "message"
  let presented := strip token
  transaction backend do
    let fingerprint ← look (enrollmentReplayFingerprint env identity presented)
    let replayFingerprint := env.inboundFingerprintDigest fingerprint
    let existing ← look (Store.getUpdateReceipt · identity.botId identity.updateId)
    match existing with
    | some existing =>
      requireIdenticalReplay existing replayFingerprint
      replayEnrollment existing
    | none => enroll env readings identity presented replayFingerprint

/-! ## Issuing a nonce -/

/-- `_require_active_binding`. -/
def requireActiveBinding (bindingId : BindingId) : Act TelegramBinding := do
  let found ← look (Store.getBinding · bindingId)
  match found with
  | none => refuse .bindingNotFound "Telegram binding was not found."
  | some binding =>
    Tx.require (binding.revokedAt = none ∧ binding.state ≠ .revoked)
      (refuse .bindingRevoked "Telegram binding has been revoked.")
    return binding

/-- `_assert_payload_matches_binding`. -/
def assertPayloadMatchesBinding (binding : TelegramBinding) (payload : ActionPayload) :
    Act Unit := do
  Tx.require (payload.organizationId = binding.organizationId)
    (refuse .crossOrganization "Action payload organization does not match the binding.")
  Tx.require (payload.userId = binding.userId)
    (refuse .crossUser "Action payload user does not match the binding.")

def newNonce (binding : TelegramBinding) (payload : ActionPayload) (token : String)
    (nonceId : NonceId) (now : Instant) : ActionNonce where
  nonceId := nonceId
  nonceHash := env.hashSecret token
  organizationId := payload.organizationId
  userId := payload.userId
  accountId := payload.accountId
  telegramUserId := binding.telegramUserId
  chatId := binding.chatId
  botId := binding.botId
  bindingId := binding.bindingId
  action := payload.action
  resourceType := payload.resourceType
  resourceId := payload.resourceId
  revisionId := payload.revisionId
  contentHash := payload.contentHash
  payloadHash := env.payloadBindingHash payload
  state := .issued
  expiresAt := now + env.nonceTtl
  createdAt := now

def issueActionNonce (backend : Backend) (readings : Readings) (bindingId : BindingId)
    (payload : ActionPayload) : Act IssueNonceResult := do
  requireEnabled env
  transaction backend do
    let binding ← requireActiveBinding bindingId
    assertPayloadMatchesBinding binding payload
    Tx.require (payload.action ≠ .close)
      (refuse .closeUnavailable "Telegram CLOSE is unavailable.")
    Tx.require (isTelegramActionAvailable payload.action) (Tx.raise
      ⟨"Telegram action is not allowed.", .actionNotAllowed,
        [("action", payload.action.value)]⟩)
    Tx.require (payload.action ∈ binding.allowedActions) (Tx.raise
      ⟨"Action is not allowed for this binding.", .actionNotAllowed,
        [("action", payload.action.value)]⟩)
    Tx.require (¬(payload.action = .approve ∧ payload.revisionId = none))
      (refuse .actionNotAllowed "APPROVE requires an exact revision id.")
    let token ← drawToken env
    let nonceId ← uuid4
    let nonce := newNonce env binding payload token nonceId readings.now
    save (Store.saveNonce · nonce)
    return ⟨nonce, token⟩

/-! ## Using a nonce -/

/-- `_authorize_nonce_actor`. -/
def authorizeNonceActor (actor : TelegramActorIdentity) (nonce : ActionNonce)
    (presented : ActionPayload) (now : Instant) (store : Store) : Option TelegramSecurityReason :=
  if nonce.expiresAt ≤ now then some .nonceExpired
  else if nonce.state = .consumed then some .nonceUsed
  else if nonce.state ≠ .issued then some .nonceUsed
  else if actor.botId ≠ nonce.botId then some .crossBot
  else if actor.telegramUserId ≠ nonce.telegramUserId then some .crossUser
  else if actor.chatId ≠ nonce.chatId then some .crossChat
  else if presented.organizationId ≠ nonce.organizationId then some .crossOrganization
  else if presented.userId ≠ nonce.userId then some .crossUser
  else if presented.accountId ≠ nonce.accountId then some .crossAccount
  else if presented.action = .close then some .closeUnavailable
  else if presented.action ≠ nonce.action then some .payloadMismatch
  else if env.payloadBindingHash presented ≠ nonce.payloadHash then some .payloadMismatch
  else
    match store.getBinding nonce.bindingId with
    | none => some .bindingNotFound
    | some binding =>
      if binding.revokedAt ≠ none ∨ binding.state = .revoked then some .bindingRevoked
      else if presented.action ∉ binding.allowedActions then some .actionNotAllowed
      else none

def authIntentText : String :=
  "Authorization intent recorded. APPROVE does not execute. " ++
    "EXECUTE_PAPER_PLAN remains the only execution entry path."

def Environment.notificationPolicy (organizationId : OrganizationId) (userId : UserId) :
    TelegramNotificationPolicyV2 :=
  match env.notificationPolicyLoader with
  | none => {}
  | some loader => loader organizationId userId

/-- The earlier notification counts against the row: it was sent, or at admission it may still
be. -/
def countsAgainst (row prior : OutboxRecord) (admission : Bool) : Prop :=
  prior.outboxId ≠ row.outboxId ∧ prior.bindingId = row.bindingId ∧
    match prior.state with
    | .sent | .acknowledged => True
    | .pending | .claimed | .retryable => admission
    | .deadLetter | .suppressed => False

instance (row prior : OutboxRecord) (admission : Bool) :
    Decidable (countsAgainst row prior admission) := by
  unfold countsAgainst
  cases prior.state <;> infer_instance

/-- `_notification_policy_reason`: why the row is held back. -/
def notificationPolicyReason (row : OutboxRecord) (now : Instant) (admission : Bool)
    (store : Store) : Option String :=
  let policy := env.notificationPolicy row.organizationId row.userId
  match row.notificationEvent with
  | none =>
    if ("candidate-alert:".isPrefixOf row.idempotencyKey ∨
        "paper-notify:".isPrefixOf row.idempotencyKey ∨
        "paper-thread:".isPrefixOf row.idempotencyKey) ∧ policy ≠ {} then
      some "POLICY_FACTS_MISSING"
    else none
  | some event =>
    let window := max policy.cooldownSeconds policy.duplicateSuppressionSeconds
    let history :=
      if window = 0 then []
      else store.notificationHistory row.organizationId row.userId row.botId row.chatId
        (now - window * 1000000)
    evaluateTelegramPolicy env.localMinute policy event now
      ((history.filter fun prior => countsAgainst row prior admission).filterMap fun prior =>
        prior.notificationEvent.map fun event => ⟨event, prior.sentAt.getD prior.createdAt⟩)

/-- `_enqueue_unlocked`. -/
def enqueueUnlocked (organizationId : OrganizationId) (userId : UserId)
    (bindingId : Option BindingId) (botId : BotId) (chatId : ChatId) (text : String)
    (idempotencyKey : String) (now : Instant)
    (notificationEvent : Option TelegramNotificationEvent) : Act OutboxRecord := do
  let existing ← look (Store.getOutboxByIdempotency · organizationId idempotencyKey)
  match existing with
  | some existing =>
    Tx.require (existing.text = text ∧ existing.chatId = chatId ∧ existing.botId = botId ∧
        existing.userId = userId ∧ existing.bindingId = bindingId ∧
        existing.notificationEvent = notificationEvent)
      (refuse .outboxConflict "Outbox idempotency key is bound to a different payload.")
    return existing
  | none =>
    let outboxId ← uuid4
    let row : OutboxRecord := {
      outboxId
      organizationId
      userId
      bindingId
      botId
      chatId
      idempotencyKey
      text
      notificationEvent
      state := .pending
      attempt := 0
      createdAt := now
      updatedAt := now }
    let reason ← look fun store =>
      if notificationEvent.isSome then notificationPolicyReason env row now true store else none
    let row := match reason with
      | none => row
      | some reason => { row with state := .suppressed, lastError := some reason }
    save (Store.saveOutbox · row)
    return row

def newIntent (nonce : ActionNonce) (presented : ActionPayload) (revisionId : RevisionId)
    (receiptId : ReceiptId) (intentId : IntentId) (now : Instant) : AuthorizationIntent where
  intentId := intentId
  organizationId := presented.organizationId
  userId := presented.userId
  accountId := presented.accountId
  resourceId := presented.resourceId
  revisionId := revisionId
  contentHash := presented.contentHash
  payloadHash := nonce.payloadHash
  receiptId := receiptId
  createdAt := now

def recordIntent (now : Instant) (nonce : ActionNonce) (presented : ActionPayload)
    (revisionId : RevisionId) (receiptId : ReceiptId) : Act AuthorizationIntent := do
  let intentId ← uuid4
  let intent := newIntent nonce presented revisionId receiptId intentId now
  save (Store.saveAuthorizationIntent · intent)
  let _ ← enqueueUnlocked env nonce.organizationId nonce.userId (some nonce.bindingId) nonce.botId
    nonce.chatId authIntentText ("auth-intent:" ++ toString intentId) now none
  return intent

/-- The APPLIED receipt. `own` is what only one of the two ways sets. -/
def applyReceipt (now : Instant) (nonce : ActionNonce) (presented : ActionPayload)
    (claimed : ActionReceipt) (own : ActionReceipt → ActionReceipt)
    (intent : Option AuthorizationIntent) : Act ActionOutcome := do
  let effect := effectKindFor presented.action
  let applied := transition (own { claimed with
    authorizationIntentId := intent.map AuthorizationIntent.intentId
    bindingId := some nonce.bindingId
    nonceHash := some nonce.nonceHash
    effectKind := effect }) .applied now none
  save (Store.saveReceipt · applied)
  return {
    receipt := applied
    replayed := false
    stateChanged := true
    authorizationIntent := intent
    effectKind := effect }

def ActionNonce.expire (nonce : ActionNonce) : ActionNonce := { nonce with state := .expired }

def ActionNonce.consume (nonce : ActionNonce) (now : Instant) (receiptId : ReceiptId) :
    ActionNonce :=
  { nonce with
    state := .consumed
    consumedAt := some now
    consumedByReceiptId := some receiptId }

/-- `receive_callback` and `receive_private_message` once the nonce is found: it is consumed and
the action applied, or the receipt says why not. -/
def presentNonce (now : Instant) (actor : TelegramActorIdentity) (nonce : ActionNonce)
    (presented : ActionPayload) (claimed : ActionReceipt)
    (own : ActionReceipt → ActionReceipt) : Act ActionOutcome := do
  let claimed := { claimed with nonceHash := some nonce.nonceHash }
  let reason ← look (authorizeNonceActor env actor nonce presented now)
  match reason with
  | some reason =>
    if reason = .nonceExpired then
      let _ ← cas (Store.casNonce · nonce.nonceHash nonce nonce.expire)
      finalizeRejection claimed reason now
    else finalizeRejection claimed reason now
  | none =>
    let done ← cas
      (Store.casNonce · nonce.nonceHash nonce (nonce.consume now claimed.receiptId))
    if ¬done then finalizeRejection claimed .nonceUsed now
    else if ¬approveCreatesAuthorizationIntentOnly presented.action then
      applyReceipt now nonce presented claimed own none
    else
      match presented.revisionId with
      | none => finalizeRejection claimed .actionNotAllowed now
      | some revisionId =>
        let intent ← recordIntent env now nonce presented revisionId claimed.receiptId
        applyReceipt now nonce presented claimed own (some intent)

/-! ## Callbacks -/

/-- `_callback_replay_fingerprint`. -/
def callbackReplayFingerprint (identity : CallbackIdentity) (nonceToken : String)
    (presented : ActionPayload) : InboundReplayFingerprint where
  updateId := identity.updateId
  messageId := none
  callbackQueryId := some identity.callbackQueryId
  telegramUserId := identity.telegramUserId
  chatId := identity.chatId
  chatType := identity.chatType
  botId := identity.botId
  secretHash := env.hashSecret (strip nonceToken)
  action := some presented.action
  organizationId := some presented.organizationId
  userId := some presented.userId
  accountId := some presented.accountId
  resourceType := some presented.resourceType
  resourceId := some presented.resourceId
  revisionId := presented.revisionId
  contentHash := some presented.contentHash
  payloadHash := some (env.payloadBindingHash presented)

/-- `receive_callback` from the claimed receipt on. -/
def processClaimedCallback (now : Instant) (identity : CallbackIdentity) (nonceToken : String)
    (presented : ActionPayload) (claimed : ActionReceipt) : Act ActionOutcome := do
  if identity.chatType ≠ .privateChat then finalizeRejection claimed .chatNotPrivate now
  else
    let nonce ← look (Store.getNonceByHash · (env.hashSecret (strip nonceToken)))
    match nonce with
    | none => finalizeRejection claimed .nonceNotFound now
    | some nonce =>
      presentNonce env now identity.toTelegramActorIdentity nonce presented claimed id

/-- `receive_callback` for an update that is not known. -/
def processCallback (readings : Readings) (identity : CallbackIdentity) (nonceToken : String)
    (presented : ActionPayload) (replayFingerprint : Digest) : Act ActionOutcome := do
  let now := readings.now
  let actor := identity.toTelegramActorIdentity
  checkCallback env.rateLimitPolicy readings actor
  let receipt ← newReceipt actor identity.updateId now replayFingerprint .received none
  let claimed := transition { receipt with
    callbackQueryId := some identity.callbackQueryId
    organizationId := some presented.organizationId
    userId := some presented.userId
    accountId := some presented.accountId
    action := some presented.action
    payloadHash := some (env.payloadBindingHash presented) } .claimed now none
  save (Store.saveReceipt · claimed)
  processClaimedCallback env now identity nonceToken presented claimed

def receiveCallback (backend : Backend) (readings : Readings) (identity : CallbackIdentity)
    (nonceToken : String) (presented : ActionPayload) (inbound : TelegramInboundUpdate) :
    Act ActionOutcome := do
  requireEnabled env
  assertInboundUpdateAllowed env inbound
  requireInboundType inbound "callback_query"
  transaction backend do
    let replayFingerprint := env.inboundFingerprintDigest
      (callbackReplayFingerprint env identity nonceToken presented)
    let byCallback ← look (Store.getCallbackReceipt · identity.botId identity.callbackQueryId)
    let byUpdate ← look (Store.getUpdateReceipt · identity.botId identity.updateId)
    match byCallback.or byUpdate with
    | some existing =>
      requireIdenticalReplay existing replayFingerprint
      replayAction existing
    | none => processCallback env readings identity nonceToken presented replayFingerprint

/-! ## Private messages -/

/-- `_message_replay_fingerprint`. -/
def messageReplayFingerprint (identity : MessageIdentity) (presentedText : String)
    (presented : Option ActionPayload) : InboundReplayFingerprint where
  updateId := identity.updateId
  messageId := some identity.messageId
  callbackQueryId := none
  telegramUserId := identity.telegramUserId
  chatId := identity.chatId
  chatType := identity.chatType
  botId := identity.botId
  secretHash := env.hashSecret presentedText
  action := presented.map ActionPayload.action
  organizationId := presented.map ActionPayload.organizationId
  userId := presented.map ActionPayload.userId
  accountId := presented.map ActionPayload.accountId
  resourceType := presented.map ActionPayload.resourceType
  resourceId := presented.map ActionPayload.resourceId
  revisionId := presented.bind ActionPayload.revisionId
  contentHash := presented.map ActionPayload.contentHash
  payloadHash := presented.map env.payloadBindingHash

/-- A message of the discussion, which changes nothing. -/
def applyDiscussion (now : Instant) (binding : TelegramBinding) (claimed : ActionReceipt) :
    Act ActionOutcome := do
  let applied := transition { claimed with
    organizationId := some binding.organizationId
    userId := some binding.userId
    bindingId := some binding.bindingId
    effectKind := .readOnlyResponse } .applied now none
  save (Store.saveReceipt · applied)
  return {
    receipt := applied
    replayed := false
    stateChanged := true
    effectKind := .readOnlyResponse }

def ofNonceOwner (nonce : ActionNonce) (receipt : ActionReceipt) : ActionReceipt :=
  { receipt with
    organizationId := some nonce.organizationId
    userId := some nonce.userId
    accountId := some nonce.accountId }

/-- `receive_private_message` from the claimed receipt on. -/
def processClaimedMessage (now : Instant) (identity : MessageIdentity)
    (presented : Option ActionPayload) (claimed : ActionReceipt) : Act ActionOutcome := do
  let actor := identity.toTelegramActorIdentity
  if identity.chatType ≠ .privateChat then finalizeRejection claimed .chatNotPrivate now
  else
    let found ← look
      (Store.getActiveBindingForTelegramUser · identity.botId identity.telegramUserId)
    match found with
    | none => finalizeRejection claimed .bindingNotFound now
    | some binding =>
      if binding.revokedAt ≠ none ∨ binding.state = .revoked then
        finalizeRejection claimed .bindingRevoked now
      else if binding.chatId ≠ identity.chatId then finalizeRejection claimed .crossChat now
      else if binding.botId ≠ identity.botId then finalizeRejection claimed .crossBot now
      else
        match presented with
        | none => applyDiscussion now binding claimed
        | some presented =>
          if presented.organizationId ≠ binding.organizationId then
            finalizeRejection claimed .crossOrganization now
          else if presented.userId ≠ binding.userId then
            finalizeRejection claimed .crossUser now
          else
            let nonce ← look (Store.getIssuedNonceForPayload · binding.bindingId
              (env.payloadBindingHash presented))
            match nonce with
            | none => finalizeRejection claimed .nonceNotFound now
            | some nonce =>
              presentNonce env now actor nonce presented claimed (ofNonceOwner nonce)

/-- `receive_private_message` for an update that is not known. -/
def processMessage (readings : Readings) (identity : MessageIdentity)
    (presented : Option ActionPayload) (replayFingerprint : Digest) : Act ActionOutcome := do
  let now := readings.now
  let actor := identity.toTelegramActorIdentity
  checkCallback env.rateLimitPolicy readings actor
  let receipt ← newReceipt actor identity.updateId now replayFingerprint .received none
  let claimed := transition { receipt with
    messageId := some identity.messageId
    organizationId := presented.map ActionPayload.organizationId
    userId := presented.map ActionPayload.userId
    accountId := presented.map ActionPayload.accountId
    action := presented.map ActionPayload.action
    payloadHash := presented.map env.payloadBindingHash } .claimed now none
  save (Store.saveReceipt · claimed)
  processClaimedMessage env now identity presented claimed

def receivePrivateMessage (backend : Backend) (readings : Readings) (identity : MessageIdentity)
    (inbound : TelegramInboundUpdate) (text : String) (presented : Option ActionPayload) :
    Act ActionOutcome := do
  requireEnabled env
  assertInboundUpdateAllowed env inbound
  requireInboundType inbound "message"
  let presentedText := strip text
  transaction backend do
    let replayFingerprint := env.inboundFingerprintDigest
      (messageReplayFingerprint env identity presentedText presented)
    let existing ← look (Store.getUpdateReceipt · identity.botId identity.updateId)
    match existing with
    | some existing =>
      requireIdenticalReplay existing replayFingerprint
      replayAction existing
    | none => processMessage env readings identity presented replayFingerprint

end protocol

/-! ## Calls -/

inductive Request where
  | startEnrollment (organizationId : OrganizationId) (userId : UserId) (botId : BotId)
  | completeEnrollment (token : String) (identity : MessageIdentity)
      (inbound : TelegramInboundUpdate)
  | issueActionNonce (bindingId : BindingId) (payload : ActionPayload)
  | receiveCallback (identity : CallbackIdentity) (nonceToken : String)
      (presented : ActionPayload) (inbound : TelegramInboundUpdate)
  | receivePrivateMessage (identity : MessageIdentity) (inbound : TelegramInboundUpdate)
      (text : String) (presented : Option ActionPayload)

/-- A request, with what the clock reads during it. -/
structure Call where
  readings : Readings
  request : Request

inductive Reply where
  | started (result : EnrollmentStartResult)
  | completed (result : EnrollmentCompleteResult)
  | issued (result : IssueNonceResult)
  | outcome (outcome : ActionOutcome)
  deriving DecidableEq, Repr

/-- One call: what it returns or raises, and the world it leaves. -/
def serve (backend : Backend) (env : Environment) (call : Call) : Act Reply :=
  match call.request with
  | .startEnrollment organizationId userId botId => do
    let result ← startEnrollment env backend call.readings organizationId userId botId
    return .started result
  | .completeEnrollment token identity inbound => do
    let result ← completeEnrollment env backend call.readings token identity inbound
    return .completed result
  | .issueActionNonce bindingId payload => do
    let result ← issueActionNonce env backend call.readings bindingId payload
    return .issued result
  | .receiveCallback identity nonceToken presented inbound => do
    let outcome ← receiveCallback env backend call.readings identity nonceToken presented inbound
    return .outcome outcome
  | .receivePrivateMessage identity inbound text presented => do
    let outcome ← receivePrivateMessage env backend call.readings identity inbound text presented
    return .outcome outcome

def step (backend : Backend) (env : Environment) (world : World) (call : Call) : World :=
  (serve backend env call world).2

end AlphaTrade.Telegram
