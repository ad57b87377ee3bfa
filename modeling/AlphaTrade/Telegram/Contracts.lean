import AlphaTrade.Telegram.Policy

/-!
# Contracts of the Telegram protocol

A challenge enrolls a Telegram user and makes a binding. A nonce is issued to a binding for one
exact payload. A callback or a private message presents it, and the receipt of the update says
what came of it. APPROVE leaves an authorization intent, which executes nothing.
-/
namespace AlphaTrade.Telegram
open Execution (OrganizationId UserId AccountId RevisionId Instant)

abbrev ChallengeId := Nat
abbrev BindingId := Nat
abbrev NonceId := Nat
abbrev ReceiptId := Nat
abbrev IntentId := Nat
abbrev OutboxId := Nat
abbrev ResourceId := Nat
abbrev BotId := String
abbrev TelegramUserId := String
abbrev ChatId := String

/-- A SHA-256 in hexadecimal. -/
abbrev Digest := String

/-! ## Actions -/

inductive TelegramRemoteAction where
  | status | explain | showChart | reject | skip | approve | reduceRisk | close
  deriving DecidableEq, Repr

def TelegramRemoteAction.value : TelegramRemoteAction → String
  | .status => "STATUS"
  | .explain => "EXPLAIN"
  | .showChart => "SHOW_CHART"
  | .reject => "REJECT"
  | .skip => "SKIP"
  | .approve => "APPROVE"
  | .reduceRisk => "REDUCE_RISK"
  | .close => "CLOSE"

inductive ActionEffectKind where
  | readOnlyResponse | rejectResource | skipResource | authorizationIntent | riskPreview | none
  deriving DecidableEq, Repr

/-- `AVAILABLE_TELEGRAM_ACTIONS`, in the order of their values. -/
def availableTelegramActions : List TelegramRemoteAction :=
  [.approve, .explain, .reduceRisk, .reject, .showChart, .skip, .status]

def isTelegramActionAvailable (action : TelegramRemoteAction) : Prop :=
  action ∈ availableTelegramActions ∧ action ≠ .close

instance (action : TelegramRemoteAction) : Decidable (isTelegramActionAvailable action) :=
  instDecidableAnd

def effectKindFor : TelegramRemoteAction → ActionEffectKind
  | .status | .explain | .showChart => .readOnlyResponse
  | .reject => .rejectResource
  | .skip => .skipResource
  | .approve => .authorizationIntent
  | .reduceRisk => .riskPreview
  | .close => .none

/-- `approve_creates_authorization_intent_only`. -/
def approveCreatesAuthorizationIntentOnly (action : TelegramRemoteAction) : Prop :=
  action = .approve

instance (action : TelegramRemoteAction) :
    Decidable (approveCreatesAuthorizationIntentOnly action) :=
  inferInstanceAs (Decidable (action = .approve))

def allowedTelegramUpdateTypes : List String := ["message", "callback_query"]

def maxInboundUpdateBytes : Nat := 64000

/-! ## Errors -/

inductive TelegramSecurityReason where
  | featureDisabled | updateTypeRejected | updateTooLarge | chatNotPrivate
  | enrollmentNotFound | enrollmentExpired | enrollmentUsed | enrollmentWrongBot
  | enrollmentChatIdOnly | bindingNotFound | bindingRevoked | telegramUserAlreadyBound
  | nonceNotFound | nonceExpired | nonceUsed | payloadMismatch
  | crossUser | crossOrganization | crossAccount | crossChat | crossBot
  | closeUnavailable | actionNotAllowed | rateLimited | outboxConflict | outboxNotFound
  | ackStateInvalid | replayConflict
  deriving DecidableEq, Repr

structure TelegramSecurityError where
  message : String
  reason : TelegramSecurityReason
  details : List (String × String) := []
  deriving DecidableEq, Repr

/-! ## What is presented -/

inductive ChatType where
  | privateChat | group | supergroup | channel
  deriving DecidableEq, Repr

structure TelegramActorIdentity where
  botId : BotId
  telegramUserId : TelegramUserId
  chatId : ChatId
  chatType : ChatType
  deriving DecidableEq, Repr

structure MessageIdentity extends TelegramActorIdentity where
  updateId : Nat
  messageId : String
  deriving DecidableEq, Repr

structure CallbackIdentity extends TelegramActorIdentity where
  updateId : Nat
  callbackQueryId : String
  deriving DecidableEq, Repr

structure TelegramInboundUpdate where
  updateType : String
  bodySize : Nat
  deriving DecidableEq, Repr

structure ActionPayload where
  action : TelegramRemoteAction
  organizationId : OrganizationId
  userId : UserId
  accountId : AccountId
  resourceType : String
  resourceId : ResourceId
  revisionId : Option RevisionId
  contentHash : String
  deriving DecidableEq, Repr

/-- What an update is known again by. -/
structure InboundReplayFingerprint where
  updateId : Nat
  messageId : Option String
  callbackQueryId : Option String
  telegramUserId : TelegramUserId
  chatId : ChatId
  chatType : ChatType
  botId : BotId
  secretHash : Digest
  action : Option TelegramRemoteAction := none
  organizationId : Option OrganizationId := none
  userId : Option UserId := none
  accountId : Option AccountId := none
  resourceType : Option String := none
  resourceId : Option ResourceId := none
  revisionId : Option RevisionId := none
  contentHash : Option String := none
  payloadHash : Option Digest := none
  deriving DecidableEq, Repr

/-! ## Records -/

inductive EnrollmentChallengeState where
  | pending | completed | expired | revoked
  deriving DecidableEq, Repr

inductive BindingState where
  | verified | revoked
  deriving DecidableEq, Repr

inductive NonceState where
  | issued | consumed | expired | revoked
  deriving DecidableEq, Repr

inductive ActionReceiptState where
  | received | claimed | applied | rejected | retryable | deadLetter
  deriving DecidableEq, Repr

inductive OutboxState where
  | pending | claimed | sent | acknowledged | retryable | deadLetter | suppressed
  deriving DecidableEq, Repr

structure EnrollmentChallenge where
  challengeId : ChallengeId
  organizationId : OrganizationId
  userId : UserId
  botId : BotId
  tokenHash : Digest
  state : EnrollmentChallengeState
  expiresAt : Instant
  createdAt : Instant
  completedAt : Option Instant := none
  bindingId : Option BindingId := none
  deriving DecidableEq, Repr

structure TelegramBinding where
  bindingId : BindingId
  organizationId : OrganizationId
  userId : UserId
  telegramUserId : TelegramUserId
  chatId : ChatId
  chatType : ChatType
  botId : BotId
  state : BindingState
  verifiedAt : Instant
  revokedAt : Option Instant := none
  allowedActions : List TelegramRemoteAction
  deriving DecidableEq, Repr

structure ActionNonce where
  nonceId : NonceId
  nonceHash : Digest
  organizationId : OrganizationId
  userId : UserId
  accountId : AccountId
  telegramUserId : TelegramUserId
  chatId : ChatId
  botId : BotId
  bindingId : BindingId
  action : TelegramRemoteAction
  resourceType : String
  resourceId : ResourceId
  revisionId : Option RevisionId
  contentHash : String
  payloadHash : Digest
  state : NonceState
  expiresAt : Instant
  createdAt : Instant
  consumedAt : Option Instant := none
  consumedByReceiptId : Option ReceiptId := none
  deriving DecidableEq, Repr

structure ReceiptTransition where
  sequence : Nat
  fromState : Option ActionReceiptState
  toState : ActionReceiptState
  «at» : Instant
  reasonCode : Option TelegramSecurityReason
  deriving DecidableEq, Repr

structure ActionReceipt where
  receiptId : ReceiptId
  botId : BotId
  updateId : Nat
  callbackQueryId : Option String := none
  messageId : Option String := none
  telegramUserId : TelegramUserId
  chatId : ChatId
  organizationId : Option OrganizationId := none
  userId : Option UserId := none
  accountId : Option AccountId := none
  nonceHash : Option Digest := none
  action : Option TelegramRemoteAction := none
  payloadHash : Option Digest := none
  replayFingerprint : Digest
  state : ActionReceiptState
  reasonCode : Option TelegramSecurityReason := none
  authorizationIntentId : Option IntentId := none
  bindingId : Option BindingId := none
  effectKind : ActionEffectKind := .none
  transitions : List ReceiptTransition
  createdAt : Instant
  updatedAt : Instant
  deriving DecidableEq, Repr

structure AuthorizationIntent where
  intentId : IntentId
  organizationId : OrganizationId
  userId : UserId
  accountId : AccountId
  resourceId : ResourceId
  revisionId : RevisionId
  contentHash : String
  payloadHash : Digest
  receiptId : ReceiptId
  createdAt : Instant
  deriving DecidableEq, Repr

structure OutboxRecord where
  outboxId : OutboxId
  organizationId : OrganizationId
  userId : UserId
  bindingId : Option BindingId
  botId : BotId
  chatId : ChatId
  idempotencyKey : String
  text : String
  notificationEvent : Option TelegramNotificationEvent := none
  state : OutboxState
  attempt : Nat
  leaseOwner : Option String := none
  leaseUntil : Option Instant := none
  transportMessageId : Option String := none
  sentAt : Option Instant := none
  lastError : Option String := none
  createdAt : Instant
  updatedAt : Instant
  deriving DecidableEq, Repr

/-! ## Results -/

structure EnrollmentStartResult where
  challenge : EnrollmentChallenge
  token : String
  deriving DecidableEq, Repr

structure EnrollmentCompleteResult where
  challenge : EnrollmentChallenge
  binding : TelegramBinding
  deriving DecidableEq, Repr

structure IssueNonceResult where
  nonce : ActionNonce
  token : String
  deriving DecidableEq, Repr

structure ActionOutcome where
  receipt : ActionReceipt
  replayed : Bool
  stateChanged : Bool
  reasonCode : Option TelegramSecurityReason := none
  authorizationIntent : Option AuthorizationIntent := none
  effectKind : ActionEffectKind := .none
  deriving DecidableEq, Repr

/-! ## Configuration -/

/-- Limits for sliding windows, in microseconds. -/
structure RateLimitPolicy where
  enrollmentPerUser : Int := 10
  enrollmentWindow : Int := 60000000
  callbackPerUser : Int := 30
  callbackWindow : Int := 60000000
  callbackPerChat : Int := 60
  callbackChatWindow : Int := 60000000

/-- What the protocol is built with: its configuration, the opaque token of each draw, the three
digests, the clock of each timezone and the policies of the users. -/
structure Environment where
  enabled : Bool
  tokenFactory : Nat → String
  hashSecret : String → Digest
  payloadBindingHash : ActionPayload → Digest
  inboundFingerprintDigest : InboundReplayFingerprint → Digest
  rateLimitPolicy : RateLimitPolicy
  localMinute : LocalMinute
  notificationPolicyLoader :
    Option (OrganizationId → UserId → TelegramNotificationPolicyV2) := none
  enrollmentTtl : Int := 900000000
  nonceTtl : Int := 600000000

end AlphaTrade.Telegram
