import AlphaTrade.Library.PrefixCode
import AlphaTrade.Telegram.Bindings

/-!
# What becomes of a nonce

A nonce is issued once and never deleted. A presentation expires it or consumes it and leaves
the rest of it. What it was issued with therefore comes from the call that issued it, however
long ago.
-/
namespace AlphaTrade.Telegram
open Library
open Execution (OrganizationId UserId Instant)

def ActionNonce.terms (nonce : ActionNonce) : ActionNonce :=
  { nonce with state := .issued, consumedAt := none, consumedByReceiptId := none }

section moves
variable {backend : Backend} {env : Environment} {call : Call} {world last : World}
  {answer : Except TelegramSecurityError Reply}

variable {nonce : ActionNonce}

theorem Presents.stored {store : Store} {bound : Nat} (keyed : store.Keyed bound)
    {request : Request} {payload : ActionPayload}
    (presents : Presents env store request nonce payload) :
    store.nonces.find nonce.nonceHash = some nonce := by
  cases request with
  | receiveCallback =>
    have found := presents.2.2
    have same := keyed.nonce found
    exact same ▸ found
  | receivePrivateMessage => exact presents.2.2
  | _ => exact presents.elim

/-- What a call does to the nonces. -/
inductive NonceMove (env : Environment) (call : Call) (world : World)
    (answer : Except TelegramSecurityError Reply) : Table Digest ActionNonce → Prop
  | kept : NonceMove env call world answer world.store.nonces
  | issued {bindingId payload binding nonce nonceId}
      (asked : call.request = .issueActionNonce bindingId payload)
      (active : world.store.Active bindingId binding)
      (organizationId : payload.organizationId = binding.organizationId)
      (userId : payload.userId = binding.userId)
      (new : nonce = newNonce env binding payload (env.tokenFactory world.tokens) nonceId
        call.readings.now)
      (answers : answer = .ok (.issued ⟨nonce, env.tokenFactory world.tokens⟩)) :
    NonceMove env call world answer (world.store.nonces.put nonce.nonceHash nonce)
  | expired {update nonce payload} (asked : call.request.update = some update)
      (admitted : call.request.Admitted env) (known : call.request.known world.store = none)
      (checked : (checkCallback env.rateLimitPolicy call.readings update.actor world).1 = .ok ())
      (presents : Presents env world.store call.request nonce payload)
      (stored : world.store.nonces.find nonce.nonceHash = some nonce)
      (late : nonce.expiresAt ≤ call.readings.now) :
    NonceMove env call world answer (world.store.nonces.put nonce.nonceHash nonce.expire)
  | consumed {update nonce payload} (asked : call.request.update = some update)
      (presents : Presents env world.store call.request nonce payload)
      (stored : world.store.nonces.find nonce.nonceHash = some nonce)
      (authorized : Authorized env world.store update.actor nonce payload call.readings.now) :
    NonceMove env call world answer (world.store.nonces.put nonce.nonceHash
      (nonce.consume call.readings.now world.drawn))

theorem nonces_enrolled (store : Store) (now : Instant) (identity : MessageIdentity)
    (challenge : EnrollmentChallenge) (bindingId : BindingId) :
    (store.enrolled now identity challenge bindingId).nonces = store.nonces := by
  unfold Store.enrolled Store.unbind
  split <;> rfl

theorem Moved.nonces (moved : Moved backend env call world answer last) (keyed : world.Keyed) :
    NonceMove env call world answer last.store.nonces := by
  cases moved with
  | turnedAway kept => exact kept ▸ .kept
  | repeated => exact .kept
  | started asked revoking challengeId pending unbound stored =>
    rw [stored, revoking.rest]
    exact .kept
  | refusedEnrollment asked admitted known expiring recognised files receiptId rejected reason
      refuses stored =>
    rw [stored]
    obtain rfl | ⟨challenge, pending, before, rfl⟩ := expiring <;> exact .kept
  | @enrolled _ identity _ challenge _ _ _ asked admitted known enrolls recognised files receiptId
      applied unnamed bindingId stored =>
    have same : last.store.nonces = world.store.nonces := by
      rw [stored]
      exact nonces_enrolled world.store call.readings.now identity challenge world.drawn
    exact same ▸ .kept
  | issued asked bound active organizationId userId stored =>
    rw [stored]
    exact .issued asked ⟨bound, active⟩ organizationId userId rfl rfl
  | received asked admitted known checked used recognised files receiptId answers stored =>
    rw [stored]
    cases used with
    | untouched => exact .kept
    | expired presents late =>
      have move : NonceMove env call world answer _ :=
        .expired asked admitted known checked presents (presents.stored keyed) late
      exact move
    | consumed presents authorized =>
      have move : NonceMove env call world answer _ :=
        .consumed asked presents (presents.stored keyed) authorized
      exact move
    | intended presents authorized =>
      have move : NonceMove env call world answer _ :=
        .consumed asked presents (presents.stored keyed) authorized
      exact move

/-! ## A used nonce -/

instance (inbound : TelegramInboundUpdate) (expected : String) :
    Decidable (Admitted env inbound expected) :=
  decidable_of_iff (env.enabled = true ∧ inbound.updateType ∈ allowedTelegramUpdateTypes ∧
      inbound.bodySize ≤ maxInboundUpdateBytes ∧ inbound.updateType = expected)
    ⟨fun ⟨enabled, allowed, bounded, awaited⟩ => ⟨enabled, allowed, bounded, awaited⟩,
      fun ⟨enabled, allowed, bounded, awaited⟩ => ⟨enabled, allowed, bounded, awaited⟩⟩

/-- A new callback from a private chat presents the token of a used nonce after its expiry. -/
def LateReuse (env : Environment) (world : World) (call : Call) : Prop :=
  match call.request with
  | .receiveCallback identity nonceToken presented inbound =>
    Admitted env inbound "callback_query" ∧
    (Request.receiveCallback identity nonceToken presented inbound).known world.store = none ∧
    (checkCallback env.rateLimitPolicy call.readings identity.toTelegramActorIdentity
      world).1.isOk ∧
    identity.chatType = .privateChat ∧
    ∃ nonce ∈ world.store.getNonceByHash (env.hashSecret (strip nonceToken)),
      nonce.state = .consumed ∧ nonce.expiresAt ≤ call.readings.now
  | _ => False

instance (world : World) (call : Call) : Decidable (LateReuse env world call) := by
  unfold LateReuse
  split <;> infer_instance

def Reissue (env : Environment) (world : World) (call : Call) : Prop :=
  match call.request with
  | .issueActionNonce .. =>
    ∃ nonce ∈ world.store.getNonceByHash (env.hashSecret (env.tokenFactory world.tokens)),
      nonce.state = .consumed
  | _ => False

instance (world : World) (call : Call) : Decidable (Reissue env world call) := by
  unfold Reissue
  split <;> infer_instance

/-- A call that is neither leaves a used nonce as it is. -/
theorem NonceMove.keeps_consumed {nonces : Table Digest ActionNonce}
    (move : NonceMove env call world answer nonces) (reuse : ¬LateReuse env world call)
    (reissue : ¬Reissue env world call) {hash : Digest}
    (found : world.store.nonces.find hash = some nonce) (consumed : nonce.state = .consumed) :
    nonces.find hash = some nonce := by
  cases move with
  | kept => exact found
  | @issued bindingId payload binding own nonceId asked active organizationId userId new answers =>
    refine (Table.find_put_of_ne _ ?_ _).trans found
    rintro rfl
    refine reissue ?_
    unfold Reissue
    rw [asked]
    subst new
    exact ⟨nonce, found, consumed⟩
  | @expired update own payload asked admitted known checked presents stored late =>
    refine (Table.find_put_of_ne _ ?_ _).trans found
    rintro rfl
    cases stored.symm.trans found
    refine reuse ?_
    unfold LateReuse
    match request : call.request, presents with
    | .receiveCallback identity nonceToken presented inbound, ⟨direct, _, named⟩ =>
      rw [request] at asked admitted known
      cases asked
      exact ⟨admitted, known, by rw [checked]; rfl, direct, _, named, consumed, late⟩
    | .receivePrivateMessage _ _ _ _, ⟨_, unused, _⟩ => exact nomatch unused.symm.trans consumed
  | consumed asked presents stored authorized =>
    refine (Table.find_put_of_ne _ ?_ _).trans found
    rintro rfl
    cases stored.symm.trans found
    exact nomatch authorized.issued.symm.trans consumed

end moves

/-- A used nonce is final: along a run in which no new callback presents a used nonce after its
expiry, and no nonce is issued under the digest of a used one, a nonce that is CONSUMED stays as
it is, state and receipt included. -/
theorem consumed_nonce_is_final (backend : Backend) (env : Environment)
    (earlier later : List Call) (hash : Digest) (nonce : ActionNonce)
    (found : (run (step backend env) .initial earlier).store.nonces.find hash = some nonce)
    (consumed : nonce.state = .consumed)
    (clean : Along (step backend env)
      (fun world call => ¬LateReuse env world call ∧ ¬Reissue env world call)
      (run (step backend env) .initial earlier) later) :
    (run (step backend env) .initial (earlier ++ later)).store.nonces.find hash = some nonce := by
  rw [run_append]
  refine (run_invariant (step backend env)
    (I := fun world => world.Keyed ∧ world.store.nonces.find hash = some nonce) ?_
    ⟨keyed_run earlier, found⟩ clean).2
  rintro world call ⟨keyed, kept⟩ ⟨reuse, reissue⟩
  exact ⟨keyed_step keyed call,
    ((serve_moved keyed).nonces keyed).keeps_consumed reuse reissue kept consumed⟩

/-! ## A run -/

def writtenPayload (payload : ActionPayload) : String := String.ofList
  (quoted payload.action.value.toList ++ (unary payload.organizationId ++
    (unary payload.userId ++ (unary payload.accountId ++ (quoted payload.resourceType.toList ++
      (unary payload.resourceId ++ (optional unary payload.revisionId ++
        quoted payload.contentHash.toList)))))))

def plainEnvironment : Environment where
  enabled := true
  tokenFactory k := String.ofList (List.replicate (k + 1) 't')
  hashSecret := id
  payloadBindingHash := writtenPayload
  inboundFingerprintDigest fingerprint := fingerprint.secretHash
  rateLimitPolicy := {}
  localMinute _ _ := 0

def Readings.all (now : Instant) : Readings := ⟨now, now, now⟩

def ownerIdentity : TelegramActorIdentity := ⟨"bot", "telegram", "chat", .privateChat⟩

def approval : ActionPayload where
  action := .approve
  organizationId := 1
  userId := 2
  accountId := 3
  resourceType := "plan"
  resourceId := 4
  revisionId := some 5
  contentHash := "c"

def callback (now : Instant) (updateId : Nat) (callbackQueryId : String) : Call :=
  ⟨.all now, .receiveCallback ⟨ownerIdentity, updateId, callbackQueryId⟩ "tt" approval
    ⟨"callback_query", 10⟩⟩

/-- A user enrolls and is issued a nonce under the token `tt`. -/
def enrolledAndIssued : List Call := [
  ⟨.all 0, .startEnrollment 1 2 "bot"⟩,
  ⟨.all 1, .completeEnrollment "t" ⟨ownerIdentity, 1, "m"⟩ ⟨"message", 10⟩⟩,
  ⟨.all 2, .issueActionNonce 1 approval⟩]

/-- A used nonce is rewritten: its token, presented again after ten minutes, makes it EXPIRED. -/
theorem used_nonce_becomes_expired :
    let stateAfter (backend : Backend) (calls : List Call) :=
      ((run (step backend plainEnvironment) .initial calls).store.nonces.find "tt").map fun nonce =>
        (nonce.state, nonce.consumedByReceiptId)
    let used := enrolledAndIssued ++ [callback 3 2 "first"]
    let late := callback 600000002 3 "second"
    (stateAfter .memory used = some (.consumed, some 4) ∧
      stateAfter .memory (used ++ [late]) = some (.expired, some 4)) ∧
    stateAfter .postgres used = some (.consumed, some 4) ∧
      stateAfter .postgres (used ++ [late]) = some (.expired, some 4) := by
  decide

def ownerBinding : TelegramBinding where
  bindingId := 1
  organizationId := 1
  userId := 2
  telegramUserId := "telegram"
  chatId := "chat"
  chatType := .privateChat
  botId := "bot"
  state := .verified
  verifiedAt := 1
  allowedActions := availableTelegramActions

theorem used_nonce_stays_within_ten_minutes :
    (run (step .memory plainEnvironment) .initial (enrolledAndIssued ++ [callback 3 2 "first"] ++
      [callback 4 3 "second"])).store.nonces.find "tt" =
        some ((newNonce plainEnvironment ownerBinding approval "tt" 3 2).consume 3 4) :=
  consumed_nonce_is_final .memory plainEnvironment (enrolledAndIssued ++ [callback 3 2 "first"])
    [callback 4 3 "second"] "tt" _ (by decide) (by decide) (by decide)

end AlphaTrade.Telegram
