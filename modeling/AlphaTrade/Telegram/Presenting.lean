import AlphaTrade.Telegram.Moves

/-!
# Presenting a nonce

A callback and a private message that are not known file a claimed receipt and go on from there.
Each part of the way has one lemma, about the store before the receipt.
-/
namespace AlphaTrade.Telegram
open Library
open Execution (OrganizationId UserId RevisionId Instant)

/-! ## Rules for the steps of a call -/

section rules
variable {α β : Type} {world : World} {post : Except TelegramSecurityError α → World → Prop}

variable {rest : β → Act α}

theorem ends_look {view : Store → β} (goesOn : Tx.Ends (rest (view world.store)) world post) :
    Tx.Ends (look view >>= rest) world post := goesOn

theorem ends_save {change : Store → Store} {rest : Unit → Act α}
    (goesOn : Tx.Ends (rest ()) { world with store := change world.store } post) :
    Tx.Ends (save change >>= rest) world post := goesOn

theorem ends_anyCas {set : Store → Bool × Store} {rest : Bool → Act α}
    (goesOn : Tx.Ends (rest (set world.store).1) { world with store := (set world.store).2 } post) :
    Tx.Ends (cas set >>= rest) world post := goesOn

theorem ends_cas {set : Store → Bool × Store} {rest : Bool → Act α} {next : Store}
    (succeeds : set world.store = (true, next))
    (goesOn : Tx.Ends (rest true) { world with store := next } post) :
    Tx.Ends (cas set >>= rest) world post := by
  unfold Tx.Ends at goesOn ⊢
  simp only [Tx.bind_eq, cas, succeeds]
  exact goesOn

theorem ends_uuid4 {rest : Nat → Act α}
    (goesOn : Tx.Ends (rest world.drawn) { world with drawn := world.drawn + 1 } post) :
    Tx.Ends (uuid4 >>= rest) world post := goesOn

theorem ends_drawToken {env : Environment} {rest : String → Act α}
    (goesOn : Tx.Ends (rest (env.tokenFactory world.tokens))
      { world with tokens := world.tokens + 1 } post) :
    Tx.Ends (drawToken env >>= rest) world post := goesOn

theorem ends_refuse {reason : TelegramSecurityReason} {message : String}
    (holds : post (.error ⟨message, reason, []⟩) world) :
    Tx.Ends (refuse reason message >>= rest) world post := holds

/-- The result of a call is the reply to it. -/
theorem ends_reply {body : Act α} {reply : α → β}
    {post : Except TelegramSecurityError β → World → Prop}
    (ends : Tx.Ends body world fun answer last => post (answer.map reply) last) :
    Tx.Ends (do let result ← body; return reply result) world post :=
  Tx.ends_bind ends (fun _ _ holds => holds) fun _ _ holds => holds

/-- A receipt as it is first written. -/
def firstReceipt (actor : TelegramActorIdentity) (updateId : Nat) (now : Instant)
    (replayFingerprint : Digest) (state : ActionReceiptState)
    (reasonCode : Option TelegramSecurityReason) (receiptId : ReceiptId) : ActionReceipt where
  receiptId := receiptId
  botId := actor.botId
  updateId := updateId
  telegramUserId := actor.telegramUserId
  chatId := actor.chatId
  replayFingerprint := replayFingerprint
  state := state
  reasonCode := reasonCode
  transitions := [⟨1, none, state, now, reasonCode⟩]
  createdAt := now
  updatedAt := now

variable {actor : TelegramActorIdentity}

theorem ends_newReceipt {updateId : Nat} {now : Instant} {replayFingerprint : Digest}
    {state : ActionReceiptState} {reasonCode : Option TelegramSecurityReason}
    {rest : ActionReceipt → Act α}
    (goesOn : Tx.Ends (rest (firstReceipt actor updateId now replayFingerprint state reasonCode
      world.drawn)) { world with drawn := world.drawn + 1 } post) :
    Tx.Ends (newReceipt actor updateId now replayFingerprint state reasonCode >>= rest) world
      post := goesOn

def Checked (world : World) (answer : Except TelegramSecurityError Unit) (last : World) : Prop :=
  (∃ events, last = { world with events := events }) ∧
    ∀ error, answer = .error error → error.reason = .rateLimited

theorem check_ends (key : String) (limit window : Int) (scope : String) (now : Instant) :
    Tx.Ends (check key limit window scope now) world (Checked world) := by
  refine Tx.ends_read (Tx.ends_require ?_ ?_)
  · intro _
    exact ⟨⟨_, rfl⟩, fun error same => (Except.error.inj same) ▸ rfl⟩
  · intro _
    exact ⟨⟨_, rfl⟩, fun error same => nomatch same⟩

theorem checkCallback_ends (policy : RateLimitPolicy) (readings : Readings)
    (actor : TelegramActorIdentity) :
    Tx.Ends (checkCallback policy readings actor) world (Checked world) := by
  refine Tx.ends_bind (check_ends ..) ?_ ?_
  · rintro refusal next ⟨kept, limited⟩
    exact ⟨kept, fun error same => limited error (Except.error.inj same ▸ rfl)⟩
  · rintro _ next ⟨⟨events, rfl⟩, -⟩
    refine (check_ends ..).weaken ?_
    rintro answer last ⟨⟨later, rfl⟩, limited⟩
    exact ⟨⟨later, rfl⟩, limited⟩

theorem ends_checkCallback {policy : RateLimitPolicy} {readings : Readings} {rest : Unit → Act α}
    (limits : ∀ error : TelegramSecurityError, error.reason = .rateLimited → ∀ events,
      post (.error error) { world with events := events })
    (goesOn : (checkCallback policy readings actor world).1 = .ok () → ∀ events,
      Tx.Ends (rest ()) { world with events := events } post) :
    Tx.Ends (checkCallback policy readings actor >>= rest) world post := by
  have ends : Tx.Ends (checkCallback policy readings actor) world fun answer last =>
      (checkCallback policy readings actor world).1 = answer ∧ Checked world answer last :=
    ⟨rfl, checkCallback_ends policy readings actor⟩
  refine Tx.ends_bind ends ?_ ?_
  · rintro error _ ⟨-, ⟨events, rfl⟩, limited⟩
    exact limits error (limited error rfl) events
  · rintro _ _ ⟨passed, ⟨events, rfl⟩, -⟩
    exact goesOn passed events

end rules

/-! ## Admission and repetition -/

def admitUpdate {α : Type} (env : Environment) (inbound : TelegramInboundUpdate) (expected : String)
    (rest : Act α) : Act α := do
  requireEnabled env
  assertInboundUpdateAllowed env inbound
  requireInboundType inbound expected
  rest

section admission
variable {α : Type} {env : Environment} {inbound : TelegramInboundUpdate} {expected : String}

theorem Admitted.admitUpdate (admitted : Admitted env inbound expected) (rest : Act α) :
    admitUpdate env inbound expected rest = rest := by
  obtain ⟨enabled, allowed, bounded, awaited⟩ := admitted
  subst awaited
  simp only [Telegram.admitUpdate, requireEnabled, assertInboundUpdateAllowed, requireInboundType,
    Tx.require, enabled, allowed, bounded, if_true]
  rfl

variable {rest : Act α} {world : World} {post : Except TelegramSecurityError α → World → Prop}

theorem Admitted.ends (admitted : Admitted env inbound expected) (ends : Tx.Ends rest world post) :
    Tx.Ends (Telegram.admitUpdate env inbound expected rest) world post := by
  rw [admitted.admitUpdate]
  exact ends

theorem turned_away
    (turns : ∀ error : TelegramSecurityError, ¬error.reason.RefusesEnrollment →
      post (.error error) world)
    {reason : TelegramSecurityReason} (unlisted : ¬reason.RefusesEnrollment) {message : String}
    {details : List (String × String)} : post (.error ⟨message, reason, details⟩) world :=
  turns _ unlisted

theorem assertInboundUpdateAllowed_ends (enabled : env.enabled = true) :
    Tx.Ends (assertInboundUpdateAllowed env inbound) world fun answer last =>
      last = world ∧ match answer with
        | .error error => ¬error.reason.RefusesEnrollment
        | .ok _ => inbound.updateType ∈ allowedTelegramUpdateTypes ∧
            inbound.bodySize ≤ maxInboundUpdateBytes := by
  have typeUnlisted : ¬TelegramSecurityReason.updateTypeRejected.RefusesEnrollment := by decide
  have sizeUnlisted : ¬TelegramSecurityReason.updateTooLarge.RefusesEnrollment := by decide
  refine Tx.ends_require (fun absent => absurd enabled absent) fun _ => ?_
  refine Tx.ends_require (fun _ => ⟨rfl, typeUnlisted⟩) fun allowed => ?_
  exact Tx.ends_ite (fun bounded => ⟨rfl, allowed, bounded⟩) fun _ => ⟨rfl, sizeUnlisted⟩

theorem ends_admit
    (turns : ∀ error : TelegramSecurityError, ¬error.reason.RefusesEnrollment →
      post (.error error) world)
    (goesOn : Admitted env inbound expected → Tx.Ends rest world post) :
    Tx.Ends (admitUpdate env inbound expected rest) world post := by
  refine Tx.ends_require (fun _ => ends_refuse (turned_away turns (by decide))) fun enabled => ?_
  refine Tx.ends_bind (assertInboundUpdateAllowed_ends enabled) ?_ ?_
  · rintro error _ ⟨rfl, unlisted⟩
    exact turns error unlisted
  · rintro value _ ⟨rfl, allowed, bounded⟩
    refine Tx.ends_require (fun _ => turned_away turns (by decide)) fun awaited => ?_
    exact goesOn ⟨enabled, allowed, bounded, awaited⟩

end admission

theorem replayEnrollment_eq (receipt : ActionReceipt) (world : World) :
    replayEnrollment receipt world = (repeatedEnrollment world.store receipt, world) := by
  unfold replayEnrollment repeatedEnrollment
  generalize receipt.state = state, receipt.bindingId = bindingId
  match state, bindingId with
  | .applied, some bindingId =>
    simp only [Tx.bind_eq, look, Tx.read]
    cases world.store.getBinding bindingId with
    | none => rfl
    | some binding =>
      simp only [Tx.bind_eq, Tx.read]
      cases world.store.getChallengeForBinding binding.bindingId <;> rfl
  | .applied, none => rfl
  | .received, _ | .claimed, _ | .rejected, _ | .retryable, _ | .deadLetter, _ => rfl

theorem replayAction_eq (receipt : ActionReceipt) (world : World) :
    replayAction receipt world = (.ok (repeatedOutcome world.store receipt), world) := rfl

variable {receipt : ActionReceipt} {backend : Backend} {world : World}

theorem requireIdenticalReplay_of_eq {digest : Digest} (same : receipt.replayFingerprint = digest) :
    requireIdenticalReplay receipt digest = pure () := by
  simp only [requireIdenticalReplay, Tx.require, same, if_true]

theorem transaction_of_kept {α : Type} {body : Act α} {answer : Except TelegramSecurityError α}
    (kept : body world = (answer, world)) : transaction backend body world = (answer, world) := by
  unfold transaction Tx.restoring
  rw [kept]
  cases answer <;> cases backend <;> rfl

/-- An update that is known repeats its outcome and changes nothing. -/
theorem serve_known {env : Environment} {call : Call} (admitted : call.request.Admitted env)
    (known : call.request.known world.store = some receipt)
    (same : call.request.digest env world.store = some receipt.replayFingerprint) :
    serve backend env call world = (call.request.repeated world.store receipt, world) := by
  obtain ⟨readings, request⟩ := call
  cases request with
  | startEnrollment => exact nomatch known
  | issueActionNonce => exact nomatch known
  | completeEnrollment token identity inbound =>
    have kept : completeEnrollment env backend readings token identity inbound world
        = (repeatedEnrollment world.store receipt, world) := by
      refine (congrFun (Admitted.admitUpdate admitted _) world).trans (transaction_of_kept ?_)
      simp only [Tx.bind_eq, look, Tx.read]
      rw [show world.store.getUpdateReceipt _ _ = some receipt from known]
      simp only [requireIdenticalReplay_of_eq (Option.some.inj same).symm]
      exact replayEnrollment_eq receipt world
    simp only [serve, Tx.bind_eq, kept, Request.repeated]
    cases repeatedEnrollment world.store receipt <;> rfl
  | receiveCallback identity nonceToken presented inbound =>
    have kept : receiveCallback env backend readings identity nonceToken presented inbound world
        = (.ok (repeatedOutcome world.store receipt), world) := by
      refine (congrFun (Admitted.admitUpdate admitted _) world).trans (transaction_of_kept ?_)
      simp only [Tx.bind_eq, look, Tx.read]
      rw [show (world.store.getCallbackReceipt _ _).or _ = some receipt from known]
      simp only [requireIdenticalReplay_of_eq (Option.some.inj same).symm]
      rfl
    simp only [serve, Tx.bind_eq, kept]
    rfl
  | receivePrivateMessage identity inbound text presented =>
    have kept : receivePrivateMessage env backend readings identity inbound text presented world
        = (.ok (repeatedOutcome world.store receipt), world) := by
      refine (congrFun (Admitted.admitUpdate admitted _) world).trans (transaction_of_kept ?_)
      simp only [Tx.bind_eq, look, Tx.read]
      rw [show world.store.getUpdateReceipt _ _ = some receipt from known]
      simp only [requireIdenticalReplay_of_eq (Option.some.inj same).symm]
      rfl
    simp only [serve, Tx.bind_eq, kept]
    rfl

/-! ## A nonce is presented -/

/-- A check that does not refuse is passed, and the checks after it go on. -/
theorem passes_check {α : Type} {reason : α} {p : Prop} [Decidable p] {rest : Option α}
    (passes : (if p then some reason else rest) = none) : ¬p ∧ rest = none := by
  split at passes
  · exact nomatch passes
  · rename_i holds
    exact ⟨holds, passes⟩

/-- A check with another reason is not the one that refuses. -/
theorem other_check {reason other : TelegramSecurityReason} {p : Prop} [Decidable p]
    {rest : Option TelegramSecurityReason} (differs : reason ≠ other)
    (refused : (if p then some reason else rest) = some other) : rest = some other := by
  split at refused
  · exact absurd (Option.some.inj refused) differs
  · exact refused

section authorizing
variable {env : Environment} {store : Store} {actor : TelegramActorIdentity} {nonce : ActionNonce}
  {presented : ActionPayload} {now : Instant}

theorem expired_of_reason
    (refused : authorizeNonceActor env actor nonce presented now store = some .nonceExpired) :
    nonce.expiresAt ≤ now := by
  by_contra early
  unfold authorizeNonceActor at refused
  rw [if_neg early] at refused
  iterate 11 replace refused := other_check (by decide) refused
  split at refused
  · exact nomatch refused
  iterate 2 replace refused := other_check (by decide) refused
  exact nomatch refused

theorem authorized_of_none
    (passes : authorizeNonceActor env actor nonce presented now store = none) :
    Authorized env store actor nonce presented now := by
  unfold authorizeNonceActor at passes
  obtain ⟨inTime, passes⟩ := passes_check passes
  obtain ⟨-, passes⟩ := passes_check passes
  obtain ⟨issued, passes⟩ := passes_check passes
  obtain ⟨botId, passes⟩ := passes_check passes
  obtain ⟨telegramUserId, passes⟩ := passes_check passes
  obtain ⟨chatId, passes⟩ := passes_check passes
  obtain ⟨organizationId, passes⟩ := passes_check passes
  obtain ⟨userId, passes⟩ := passes_check passes
  obtain ⟨accountId, passes⟩ := passes_check passes
  obtain ⟨-, passes⟩ := passes_check passes
  obtain ⟨action, passes⟩ := passes_check passes
  obtain ⟨payloadHash, passes⟩ := passes_check passes
  split at passes
  · exact nomatch passes
  rename_i binding found
  obtain ⟨active, -⟩ := passes_check passes
  exact {
    inTime := not_le.mp inTime
    issued := not_not.mp issued
    botId := not_not.mp botId
    telegramUserId := not_not.mp telegramUserId
    chatId := not_not.mp chatId
    organizationId := not_not.mp organizationId
    userId := not_not.mp userId
    accountId := not_not.mp accountId
    action := not_not.mp action
    payloadHash := not_not.mp payloadHash
    binding := ⟨binding, found, not_not.mp (not_or.mp active).1⟩ }

end authorizing

variable {store : Store}

theorem saveReceipt_saveReceipt {first last : ActionReceipt}
    (receiptId : last.receiptId = first.receiptId) (botId : last.botId = first.botId)
    (updateId : last.updateId = first.updateId)
    (callbackQueryId : last.callbackQueryId = first.callbackQueryId) :
    (store.saveReceipt first).saveReceipt last = store.saveReceipt last := by
  unfold Store.saveReceipt
  rw [receiptId, botId, updateId, callbackQueryId]
  cases first.callbackQueryId <;> simp

theorem casNonce_eq {nonce updated : ActionNonce}
    (found : store.nonces.find nonce.nonceHash = some nonce)
    (same : updated.nonceHash = nonce.nonceHash) :
    store.casNonce nonce.nonceHash nonce updated = (true, store.saveNonce updated) := by
  simp [Store.casNonce, Store.saveNonce, found, same]

/-- The receipt goes on from another of the same update. -/
structure ActionReceipt.Continues (receipt claimed : ActionReceipt) : Prop where
  receiptId : receipt.receiptId = claimed.receiptId
  botId : receipt.botId = claimed.botId
  updateId : receipt.updateId = claimed.updateId
  callbackQueryId : receipt.callbackQueryId = claimed.callbackQueryId
  replayFingerprint : receipt.replayFingerprint = claimed.replayFingerprint

theorem ActionReceipt.Continues.refl (receipt : ActionReceipt) : receipt.Continues receipt :=
  ⟨rfl, rfl, rfl, rfl, rfl⟩

/-- The end of a call that has filed a claimed receipt on the store `base`. -/
def Recorded (env : Environment) (base : Store) (now : Instant) (request : Request)
    (actor : TelegramActorIdentity) (claimed : ActionReceipt) (world : World)
    (answer : Except TelegramSecurityError ActionOutcome) (last : World) : Prop :=
  ∃ next receipt, Used env base now request actor claimed.receiptId next receipt ∧
    receipt.Continues claimed ∧ Answers last.store receipt (answer.map .outcome) ∧
    last.store = next.saveReceipt receipt ∧ world.drawn ≤ last.drawn ∧ last.tokens = world.tokens ∧
    (next.intents = base.intents ∨ world.drawn < last.drawn)

section presenting
variable {env : Environment} {base : Store} {now : Instant} {request : Request}
  {actor : TelegramActorIdentity} {world : World}

def ActionReceipt.reject (receipt : ActionReceipt) (reason : TelegramSecurityReason)
    (now : Instant) : ActionReceipt :=
  transition { receipt with reasonCode := some reason } .rejected now (some reason)

theorem finalizeRejection_eq (receipt : ActionReceipt) (reason : TelegramSecurityReason) :
    finalizeRejection receipt reason now world =
      (.ok {
        receipt := receipt.reject reason now
        replayed := false
        stateChanged := true
        reasonCode := some reason },
      { world with store := world.store.saveReceipt (receipt.reject reason now) }) := rfl

variable {claimed : ActionReceipt} {nonce : ActionNonce} {presented : ActionPayload}
  {own : ActionReceipt → ActionReceipt}

/-- A rejection of the claimed receipt, with what it says of the nonce. -/
theorem finalizeRejection_recorded {filed : ActionReceipt} {reason : TelegramSecurityReason}
    (next : Store)
    (used : Used env base now request actor filed.receiptId next (claimed.reject reason now))
    (stored : world.store = next.saveReceipt filed) (continues : claimed.Continues filed)
    (unintended : claimed.authorizationIntentId = none) (effectless : claimed.effectKind = .none)
    (intents : next.intents = base.intents) :
    Tx.Ends (finalizeRejection claimed reason now) world
      (Recorded env base now request actor filed world) := by
  unfold Tx.Ends
  rw [finalizeRejection_eq]
  obtain ⟨receiptId, botId, updateId, callbackQueryId, replayFingerprint⟩ := continues
  refine ⟨next, claimed.reject reason now, used,
    ⟨receiptId, botId, updateId, callbackQueryId, replayFingerprint⟩, ?_, ?_, le_rfl, rfl,
    .inl intents⟩
  · refine ⟨?_, fun intentId named => nomatch unintended.symm.trans named⟩
    simp [repeatedOutcome, ActionReceipt.reject, transition, unintended, effectless]
  · rw [stored]
    exact saveReceipt_saveReceipt receiptId botId updateId callbackQueryId

/-- Only the outbox is written, and the only refusal is its conflict. -/
structure Enqueued {α : Type} (world : World) (answer : Except TelegramSecurityError α)
    (last : World) : Prop where
  kept : ∃ outbox outboxByKey, last.store = { world.store with outbox, outboxByKey }
  drawn : world.drawn ≤ last.drawn
  tokens : last.tokens = world.tokens
  conflict : ∀ error, answer = .error error → error.reason = .outboxConflict

theorem enqueueUnlocked_ends (organizationId : OrganizationId) (userId : UserId)
    (bindingId : Option BindingId) (botId : BotId) (chatId : ChatId) (text : String)
    (idempotencyKey : String) (notificationEvent : Option TelegramNotificationEvent) :
    Tx.Ends (enqueueUnlocked env organizationId userId bindingId botId chatId text idempotencyKey
      now notificationEvent) world (Enqueued world) := by
  refine ends_look ?_
  split
  · refine Tx.ends_require (fun _ => ends_refuse ⟨⟨_, _, rfl⟩, le_rfl, rfl, ?_⟩) fun _ => ?_
    · intro error same
      cases same
      rfl
    · exact ⟨⟨_, _, rfl⟩, le_rfl, rfl, fun _ same => nomatch same⟩
  · refine ends_uuid4 (ends_look (ends_save ?_))
    exact ⟨⟨_, _, rfl⟩, Nat.le_succ _, rfl, fun _ same => nomatch same⟩

theorem recordIntent_ends (nonce : ActionNonce) (presented : ActionPayload)
    (revisionId : RevisionId) (receiptId : ReceiptId) :
    let intent := newIntent nonce presented revisionId receiptId world.drawn now
    Tx.Ends (recordIntent env now nonce presented revisionId receiptId) world fun answer last =>
      (∃ outbox outboxByKey,
        last.store = { world.store.saveAuthorizationIntent intent with outbox, outboxByKey }) ∧
      world.drawn < last.drawn ∧ last.tokens = world.tokens ∧
      match answer with
      | .error error => error.reason = .outboxConflict
      | .ok recorded => recorded = intent := by
  refine ends_uuid4 (ends_save (Tx.ends_bind (enqueueUnlocked_ends ..) ?_ ?_))
  · rintro error next ⟨kept, drawn, tokens, conflict⟩
    exact ⟨kept, drawn, tokens, conflict error rfl⟩
  · rintro row next ⟨kept, drawn, tokens, -⟩
    exact ⟨kept, drawn, tokens, rfl⟩

/-- What the claimed receipt says before the nonce has been looked at. -/
structure ActionReceipt.Claims (receipt : ActionReceipt) : Prop where
  state : receipt.state = .claimed
  nonceHash : receipt.nonceHash = none
  reasonCode : receipt.reasonCode = none
  authorizationIntentId : receipt.authorizationIntentId = none
  effectKind : receipt.effectKind = .none

/-- What only one of the two ways sets leaves what a receipt is known by. -/
structure Files (own : ActionReceipt → ActionReceipt) : Prop where
  continues : ∀ receipt, (own receipt).Continues receipt
  nonceHash : ∀ receipt, (own receipt).nonceHash = receipt.nonceHash
  reasonCode : ∀ receipt, (own receipt).reasonCode = receipt.reasonCode
  authorizationIntentId :
    ∀ receipt, (own receipt).authorizationIntentId = receipt.authorizationIntentId
  effectKind : ∀ receipt, (own receipt).effectKind = receipt.effectKind

def ActionReceipt.apply (claimed : ActionReceipt) (own : ActionReceipt → ActionReceipt)
    (nonce : ActionNonce) (presented : ActionPayload) (intentId : Option IntentId)
    (now : Instant) : ActionReceipt :=
  transition (own { claimed with
    authorizationIntentId := intentId
    bindingId := some nonce.bindingId
    nonceHash := some nonce.nonceHash
    effectKind := effectKindFor presented.action }) .applied now none

theorem applyReceipt_recorded {start : World} {filed : ActionReceipt}
    {intent : Option AuthorizationIntent} (next : Store) (files : Files own)
    (used : Used env base now request actor filed.receiptId next (claimed.apply own nonce presented
      (intent.map AuthorizationIntent.intentId) now))
    (stored : world.store = next.saveReceipt filed) (continues : claimed.Continues filed)
    (reasonCode : claimed.reasonCode = none)
    (kept : (intent.map AuthorizationIntent.intentId).bind next.getAuthorizationIntent = intent)
    (drawn : start.drawn ≤ world.drawn) (tokens : world.tokens = start.tokens)
    (intents : next.intents = base.intents ∨ start.drawn < world.drawn) :
    Tx.Ends (applyReceipt now nonce presented claimed own intent) world
      (Recorded env base now request actor filed start) := by
  let marked : ActionReceipt := { claimed with
    authorizationIntentId := intent.map AuthorizationIntent.intentId
    bindingId := some nonce.bindingId
    nonceHash := some nonce.nonceHash
    effectKind := effectKindFor presented.action }
  let applied := transition (own marked) .applied now none
  have same := files.continues marked
  have goesOn : applied.Continues filed := ⟨same.receiptId.trans continues.receiptId,
    same.botId.trans continues.botId, same.updateId.trans continues.updateId,
    same.callbackQueryId.trans continues.callbackQueryId,
    same.replayFingerprint.trans continues.replayFingerprint⟩
  have saved : world.store.saveReceipt applied = next.saveReceipt applied := by
    rw [stored]
    exact saveReceipt_saveReceipt goesOn.receiptId goesOn.botId goesOn.updateId
      goesOn.callbackQueryId
  have unreasoned : applied.reasonCode = none := (files.reasonCode marked).trans reasonCode
  have recorded : applied.authorizationIntentId = intent.map AuthorizationIntent.intentId :=
    files.authorizationIntentId marked
  have effect : applied.effectKind = effectKindFor presented.action := files.effectKind marked
  refine ⟨next, applied, used, goesOn, ?_, saved, drawn, tokens, intents⟩
  have repeats : (applied.authorizationIntentId.bind
      (world.store.saveReceipt applied).getAuthorizationIntent) = intent := by
    rw [saved, recorded]
    exact kept
  refine ⟨?_, fun intentId named => ?_⟩
  · show Reply.outcome _ = Reply.outcome _
    simp only [repeatedOutcome, unreasoned, effect]
    congr
    exact repeats.symm
  · rw [named, Option.bind_some] at repeats
    cases intent with
    | none => exact nomatch named.symm.trans recorded
    | some intent => exact ⟨intent, repeats⟩

theorem presentNonce_recorded {payload : ActionPayload}
    (presents : Presents env base request nonce payload)
    (found : base.nonces.find nonce.nonceHash = some nonce)
    (stored : world.store = base.saveReceipt claimed) (claims : claimed.Claims) (files : Files own)
    (drawn : world.drawn = claimed.receiptId + 1) :
    Tx.Ends (presentNonce env now actor nonce payload claimed own) world
      (Recorded env base now request actor claimed world) := by
  obtain ⟨state, -, reasonCode, unintended, effectless⟩ := claims
  have continues : ({ claimed with nonceHash := some nonce.nonceHash } : ActionReceipt).Continues
      claimed := ⟨rfl, rfl, rfl, rfl, rfl⟩
  have kept : world.store.nonces.find nonce.nonceHash = some nonce := by
    rw [stored]
    exact found
  have reads : authorizeNonceActor env actor nonce payload now world.store =
      authorizeNonceActor env actor nonce payload now base := by
    rw [stored]
    rfl
  refine ends_look ?_
  rw [reads]
  split
  · rename_i reason refused
    refine Tx.ends_ite (fun expires => ?_) fun _ => ?_
    · subst expires
      refine ends_cas (casNonce_eq kept rfl) ?_
      refine finalizeRejection_recorded (base.saveNonce nonce.expire)
        (.expired presents (expired_of_reason refused) rfl) ?_ continues unintended effectless rfl
      simp only [stored]
      rfl
    · exact finalizeRejection_recorded base (.untouched nofun) stored continues unintended
        effectless rfl
  · rename_i passes
    have authorized := authorized_of_none passes
    let consumed := base.saveNonce (nonce.consume now claimed.receiptId)
    have saved : world.store.saveNonce (nonce.consume now claimed.receiptId) =
        consumed.saveReceipt claimed := by
      rw [stored]
      rfl
    refine ends_cas (casNonce_eq kept rfl) ?_
    rw [saved, if_neg (by simp)]
    let marked : ActionReceipt := { claimed with nonceHash := some nonce.nonceHash }
    have names (intentId : Option IntentId) :
        (marked.apply own nonce payload intentId now).nonceHash = some nonce.nonceHash :=
      files.nonceHash _
    split
    · exact applyReceipt_recorded consumed files
        (.consumed presents authorized fun _ => names none) rfl continues reasonCode rfl le_rfl
        rfl (.inl rfl)
    · rename_i approves
      split
      · exact finalizeRejection_recorded consumed (.consumed presents authorized nofun) rfl
          continues unintended effectless rfl
      · rename_i revisionId revision
        let intent := newIntent nonce payload revisionId claimed.receiptId world.drawn now
        refine Tx.ends_bind (recordIntent_ends ..) ?_ ?_
        · rintro error next ⟨⟨outbox, outboxByKey, left⟩, more, tokens, conflict⟩
          refine ⟨{ consumed.saveAuthorizationIntent intent with outbox, outboxByKey }, claimed,
            ?_, .refl claimed, conflict, left, more.le, tokens, .inr more⟩
          exact .intended presents authorized (not_not.mp approves) revision
            (fun applied => nomatch state.symm.trans applied) drawn
        · rintro _ next ⟨⟨outbox, outboxByKey, left⟩, more, tokens, rfl⟩
          refine applyReceipt_recorded
            { consumed.saveAuthorizationIntent intent with outbox, outboxByKey } files ?_ left
            continues reasonCode ?_ more.le tokens (.inr more)
          · exact .intended presents authorized (not_not.mp approves) revision
              (fun _ => names (some intent.intentId)) drawn
          · simp [Store.getAuthorizationIntent, Store.saveAuthorizationIntent, intent, newIntent]

/-- A message of the discussion is applied and names no nonce. -/
theorem applyDiscussion_recorded {binding : TelegramBinding}
    (stored : world.store = base.saveReceipt claimed) (claims : claimed.Claims) :
    Tx.Ends (applyDiscussion now binding claimed) world
      (Recorded env base now request actor claimed world) := by
  obtain ⟨-, unnamed, reasonCode, unintended, -⟩ := claims
  let applied := transition { claimed with
    organizationId := some binding.organizationId
    userId := some binding.userId
    bindingId := some binding.bindingId
    effectKind := .readOnlyResponse } .applied now none
  refine ⟨base, applied, .untouched fun _ => unnamed, ⟨rfl, rfl, rfl, rfl, rfl⟩, ?_, ?_, le_rfl,
    rfl, .inl rfl⟩
  · refine ⟨?_, fun intentId named => nomatch unintended.symm.trans named⟩
    show Reply.outcome _ = Reply.outcome _
    simp [repeatedOutcome, applied, transition, reasonCode, unintended]
  · show world.store.saveReceipt applied = _
    rw [stored]
    exact saveReceipt_saveReceipt rfl rfl rfl rfl

theorem files_ofNonceOwner (nonce : ActionNonce) : Files (ofNonceOwner nonce) :=
  ⟨fun _ => ⟨rfl, rfl, rfl, rfl, rfl⟩, fun _ => rfl, fun _ => rfl, fun _ => rfl, fun _ => rfl⟩

theorem files_id : Files id :=
  ⟨.refl, fun _ => rfl, fun _ => rfl, fun _ => rfl, fun _ => rfl⟩

theorem issued_of_getIssued {bindingId : BindingId} {payloadHash : Digest}
    (keyed : ∀ {hash row}, base.nonces.find hash = some row → row.nonceHash = hash)
    (found : base.getIssuedNonceForPayload bindingId payloadHash = some nonce) :
    nonce.state = .issued ∧ base.nonces.find nonce.nonceHash = some nonce := by
  have listed := List.mem_filter.mp (List.argmax_mem found)
  obtain ⟨⟨hash, row⟩, member, same⟩ := List.mem_map.mp listed.1
  subst same
  have stored := Table.mem_rows.mp member
  rw [keyed stored]
  exact ⟨(of_decide_eq_true listed.2).2.2, stored⟩

theorem processClaimedMessage_recorded {identity : MessageIdentity}
    (inbound : TelegramInboundUpdate) (text : String) {presented : Option ActionPayload}
    (keyed : ∀ {hash row}, base.nonces.find hash = some row → row.nonceHash = hash)
    (stored : world.store = base.saveReceipt claimed) (claims : claimed.Claims)
    (drawn : world.drawn = claimed.receiptId + 1) :
    Tx.Ends (processClaimedMessage env now identity presented claimed) world
      (Recorded env base now (.receivePrivateMessage identity inbound text presented)
        identity.toTelegramActorIdentity claimed world) := by
  have rejects (reason : TelegramSecurityReason) :
      Tx.Ends (finalizeRejection claimed reason now) world
        (Recorded env base now (.receivePrivateMessage identity inbound text presented)
          identity.toTelegramActorIdentity claimed world) :=
    finalizeRejection_recorded base (.untouched nofun) stored (.refl claimed)
      claims.authorizationIntentId claims.effectKind rfl
  refine Tx.ends_ite (fun _ => rejects _) fun _ => ends_look ?_
  split
  · exact rejects _
  rename_i binding _
  refine Tx.ends_ite (fun _ => rejects _) fun _ => ?_
  refine Tx.ends_ite (fun _ => rejects _) fun _ => ?_
  refine Tx.ends_ite (fun _ => rejects _) fun _ => ?_
  split
  · exact applyDiscussion_recorded stored claims
  rename_i payload
  refine Tx.ends_ite (fun _ => rejects _) fun _ => ?_
  refine Tx.ends_ite (fun _ => rejects _) fun _ => ends_look ?_
  split
  · exact rejects _
  rename_i nonce found
  rw [stored] at found
  obtain ⟨issued, kept⟩ := issued_of_getIssued keyed found
  exact presentNonce_recorded ⟨rfl, issued, kept⟩ kept stored claims (files_ofNonceOwner nonce)
    drawn

theorem processClaimedCallback_recorded {identity : CallbackIdentity} {nonceToken : String}
    (inbound : TelegramInboundUpdate)
    (keyed : ∀ {hash row}, base.nonces.find hash = some row → row.nonceHash = hash)
    (stored : world.store = base.saveReceipt claimed) (claims : claimed.Claims)
    (drawn : world.drawn = claimed.receiptId + 1) :
    Tx.Ends (processClaimedCallback env now identity nonceToken presented claimed) world
      (Recorded env base now (.receiveCallback identity nonceToken presented inbound)
        identity.toTelegramActorIdentity claimed world) := by
  have rejects (reason : TelegramSecurityReason) :
      Tx.Ends (finalizeRejection claimed reason now) world
        (Recorded env base now (.receiveCallback identity nonceToken presented inbound)
          identity.toTelegramActorIdentity claimed world) :=
    finalizeRejection_recorded base (.untouched nofun) stored (.refl claimed)
      claims.authorizationIntentId claims.effectKind rfl
  refine Tx.ends_ite (fun _ => rejects _) fun direct => ends_look ?_
  split
  · exact rejects _
  rename_i nonce found
  rw [stored] at found
  have same := keyed found
  have kept : base.nonces.find nonce.nonceHash = some nonce := same ▸ found
  exact presentNonce_recorded ⟨not_not.mp direct, rfl, found⟩ kept stored claims files_id drawn

end presenting

/-- The end of a call with an update that is not known: it is over the limit, or it files a
receipt. -/
def Filed (env : Environment) (call : Call) (update : Update) (digest : Digest) (world : World)
    (answer : Except TelegramSecurityError ActionOutcome) (last : World) : Prop :=
  (∃ error, answer = .error error ∧ error.reason = .rateLimited ∧
    ∃ events, last = { world with events := events }) ∨
  (checkCallback env.rateLimitPolicy call.readings update.actor world).1 = .ok () ∧
    ∃ next receipt, Used env world.store call.readings.now call.request update.actor world.drawn
        next receipt ∧
      receipt.Files update digest ∧ receipt.receiptId = world.drawn ∧
      Answers last.store receipt (answer.map .outcome) ∧ last.store = next.saveReceipt receipt ∧
      world.drawn < last.drawn ∧ last.tokens = world.tokens ∧
      (next.intents = world.store.intents ∨ world.drawn + 1 < last.drawn)

section filing
variable {env : Environment} {readings : Readings} {world : World} {digest : Digest}

/-- A call that has filed its claimed receipt under the next identifier. -/
theorem Recorded.filed {request : Request} (update : Update) {claimed : ActionReceipt}
    {start : World} {answer : Except TelegramSecurityError ActionOutcome} {last : World}
    (recorded : Recorded env world.store readings.now request update.actor claimed start answer
      last)
    (files : claimed.Files update digest) (receiptId : claimed.receiptId = world.drawn)
    (passed : (checkCallback env.rateLimitPolicy readings update.actor world).1 = .ok ())
    (drawn : start.drawn = world.drawn + 1) (tokens : start.tokens = world.tokens) :
    Filed env ⟨readings, request⟩ update digest world answer last := by
  obtain ⟨next, receipt, used, continues, answers, stored, more, same, intents⟩ := recorded
  refine .inr ⟨passed, next, receipt, receiptId ▸ used, ?_, continues.receiptId.trans receiptId,
    answers, stored, by omega, same.trans tokens, intents.imp_right (by omega)⟩
  exact {
    botId := continues.botId.trans files.botId
    updateId := continues.updateId.trans files.updateId
    callbackQueryId := continues.callbackQueryId.trans files.callbackQueryId
    replayFingerprint := continues.replayFingerprint.trans files.replayFingerprint }

theorem processMessage_filed {identity : MessageIdentity} (inbound : TelegramInboundUpdate)
    (text : String) {presented : Option ActionPayload}
    (keyed : ∀ {hash row}, world.store.nonces.find hash = some row → row.nonceHash = hash) :
    Tx.Ends (processMessage env readings identity presented digest) world
      (Filed env ⟨readings, .receivePrivateMessage identity inbound text presented⟩
        ⟨identity.toTelegramActorIdentity, identity.updateId, none⟩ digest world) := by
  refine ends_checkCallback (fun error limited events => ?_) fun passed events => ?_
  · exact .inl ⟨error, rfl, limited, events, rfl⟩
  refine ends_newReceipt (ends_save ?_)
  refine Tx.Ends.weaken (processClaimedMessage_recorded inbound text keyed rfl
    ⟨rfl, rfl, rfl, rfl, rfl⟩ rfl) fun answer last recorded => ?_
  exact recorded.filed ⟨identity.toTelegramActorIdentity, identity.updateId, none⟩
    ⟨rfl, rfl, rfl, rfl⟩ rfl passed rfl rfl

theorem processCallback_filed {identity : CallbackIdentity} {nonceToken : String}
    {presented : ActionPayload} (inbound : TelegramInboundUpdate)
    (keyed : ∀ {hash row}, world.store.nonces.find hash = some row → row.nonceHash = hash) :
    Tx.Ends (processCallback env readings identity nonceToken presented digest) world
      (Filed env ⟨readings, .receiveCallback identity nonceToken presented inbound⟩
        ⟨identity.toTelegramActorIdentity, identity.updateId, some identity.callbackQueryId⟩
        digest world) := by
  refine ends_checkCallback (fun error limited events => ?_) fun passed events => ?_
  · exact .inl ⟨error, rfl, limited, events, rfl⟩
  refine ends_newReceipt (ends_save ?_)
  refine Tx.Ends.weaken (processClaimedCallback_recorded inbound keyed rfl
    ⟨rfl, rfl, rfl, rfl, rfl⟩ rfl) fun answer last recorded => ?_
  exact recorded.filed ⟨identity.toTelegramActorIdentity, identity.updateId,
    some identity.callbackQueryId⟩ ⟨rfl, rfl, rfl, rfl⟩ rfl passed rfl rfl

end filing

end AlphaTrade.Telegram
