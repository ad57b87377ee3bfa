import AlphaTrade.Telegram.Presenting

/-!
# Every call moves

Each entry point is taken through its checks and its transaction, and `serve_moved` puts them
together.
-/
namespace AlphaTrade.Telegram
open Library
open Execution (OrganizationId UserId Instant)

/-! ## Every call -/

/-- A body leaves what `Moved` says, once its transaction has ended. -/
def Moves {α : Type} (backend : Backend) (env : Environment) (call : Call) (world : World)
    (reply : α → Reply) (answer : Except TelegramSecurityError α) (last : World) : Prop :=
  Moved backend env call world (answer.map reply) <| match answer with
    | .ok _ => last
    | .error _ => World.restore backend world last

section serving
variable {backend : Backend} {env : Environment} {call : Call} {world : World}

theorem ends_transaction {α : Type} {body : Act α} {reply : α → Reply}
    (ends : Tx.Ends body world (Moves backend env call world reply)) :
    Tx.Ends (transaction backend body) world fun answer last =>
      Moved backend env call world (answer.map reply) last := by
  refine Tx.ends_restoring (ends.weaken fun answer last moves => ?_)
  cases answer with
  | ok value => exact moves
  | error error => exact moves

variable {error : TelegramSecurityError} {last : World} {digest : Digest} {readings : Readings}
  {challenge : EnrollmentChallenge}

theorem moved_of_kept (unlisted : ¬error.reason.RefusesEnrollment) :
    Moved backend env call world (.error error)
      world :=
  .turnedAway rfl le_rfl le_rfl fun listed => absurd listed unlisted

/-- An error that leaves the store as it was, or undoes what it wrote. -/
theorem moves_error {α : Type} {reply : α → Reply}
    (kept : backend = .memory → last.store = world.store) (drawn : world.drawn ≤ last.drawn)
    (tokens : world.tokens ≤ last.tokens)
    (unlisted : error.reason.RefusesEnrollment → backend = .postgres) :
    Moves backend env call world reply (.error error) last := by
  cases backend with
  | memory => exact .turnedAway (kept rfl) drawn tokens unlisted
  | postgres => exact .turnedAway rfl drawn tokens unlisted

/-- An update that is known is repeated or is in conflict. -/
theorem ends_known {α : Type} {reply : α → Reply} {receipt : ActionReceipt} {replay : Act α}
    {answer : Except TelegramSecurityError α} (admitted : call.request.Admitted env)
    (known : call.request.known world.store = some receipt)
    (recognised : call.request.digest env world.store = some digest)
    (repeats : replay world = (answer, world))
    (answers : answer.map reply = call.request.repeated world.store receipt) :
    Tx.Ends (do requireIdenticalReplay receipt digest; replay) world
      (Moves backend env call world reply) := by
  have unlisted : ¬TelegramSecurityReason.replayConflict.RefusesEnrollment := by decide
  refine Tx.ends_require (fun _ => ?_) fun same => ?_
  · exact moves_error (fun _ => rfl) le_rfl le_rfl fun listed => absurd listed unlisted
  · have repeated : Moved backend env call world (answer.map reply) world := by
      rw [answers]
      exact .repeated admitted known (same ▸ recognised)
    unfold Tx.Ends Moves
    rw [repeats]
    cases answer with
    | ok value => exact repeated
    | error error => cases backend <;> exact repeated

theorem Filed.moves {update : Update} {answer : Except TelegramSecurityError ActionOutcome}
    (filed : Filed env call update digest world answer last)
    (asked : call.request.update = some update) (admitted : call.request.Admitted env)
    (known : call.request.known world.store = none)
    (recognised : call.request.digest env world.store = some digest) :
    Moves backend env call world .outcome answer last := by
  obtain ⟨error, rfl, limited, events, rfl⟩ |
    ⟨checked, next, receipt, used, files, receiptId, answers, stored, drawn, tokens, intents⟩ :=
    filed
  · refine moves_error (fun _ => rfl) le_rfl le_rfl ?_
    rw [limited]
    exact fun listed => absurd listed (by decide)
  · have moved : Moved backend env call world (answer.map .outcome) last :=
      .received asked admitted known checked used recognised files receiptId answers stored drawn
        tokens intents
    cases answer with
    | ok outcome => exact moved
    | error error =>
      cases backend with
      | memory => exact moved
      | postgres =>
        exact moves_error nofun drawn.le tokens.ge fun _ => rfl

variable {identity : MessageIdentity} {inbound : TelegramInboundUpdate}

theorem receivePrivateMessage_moved {text : String} {presented : Option ActionPayload}
    (keyed : ∀ {hash row}, world.store.nonces.find hash = some row → row.nonceHash = hash) :
    Tx.Ends (receivePrivateMessage env backend readings identity inbound text presented) world
      fun answer last => Moved backend env
        ⟨readings, .receivePrivateMessage identity inbound text presented⟩ world
        (answer.map .outcome) last := by
  refine ends_admit (fun error unlisted => moved_of_kept unlisted) fun admitted => ?_
  refine ends_transaction (ends_look ?_)
  split
  · rename_i existing known
    exact ends_known admitted known rfl (replayAction_eq existing world) rfl
  · rename_i known
    exact (processMessage_filed inbound text keyed).weaken fun answer last filed =>
      filed.moves rfl admitted known rfl

theorem receiveCallback_moved {identity : CallbackIdentity} {nonceToken : String}
    {presented : ActionPayload}
    (keyed : ∀ {hash row}, world.store.nonces.find hash = some row → row.nonceHash = hash) :
    Tx.Ends (receiveCallback env backend readings identity nonceToken presented inbound) world
      fun answer last => Moved backend env
        ⟨readings, .receiveCallback identity nonceToken presented inbound⟩ world
        (answer.map .outcome) last := by
  refine ends_admit (fun error unlisted => moved_of_kept unlisted) fun admitted => ?_
  refine ends_transaction (ends_look (ends_look ?_))
  split
  · rename_i existing known
    exact ends_known admitted known rfl (replayAction_eq existing world) rfl
  · rename_i known
    exact (processCallback_filed inbound keyed).weaken fun answer last filed =>
      filed.moves rfl admitted known rfl

/-! ### Enrollment -/

theorem Revised.trans {first second third : Option EnrollmentChallenge}
    (before : Revised first second) (after : Revised second third) : Revised first third := by
  obtain rfl | ⟨row, rfl, pending, rfl⟩ := before
  · exact after
  · obtain rfl | ⟨revoked, same, still, rfl⟩ := after
    · exact .inr ⟨row, rfl, pending, rfl⟩
    · cases same
      exact nomatch still

theorem Revoking.refl (store : Store) : Revoking store store := ⟨fun _ => .inl rfl, rfl⟩

theorem Revoking.trans {first second third : Store} (before : Revoking first second)
    (after : Revoking second third) : Revoking first third := by
  refine ⟨fun id => (before.challenges id).trans (after.challenges id), ?_⟩
  rw [after.rest, before.rest]

theorem revoking_cas (store : Store) {row : EnrollmentChallenge} (pending : row.state = .pending) :
    Revoking store (store.casChallenge row.challengeId row { row with state := .revoked }).2 := by
  unfold Store.casChallenge
  split
  · exact .refl store
  · rename_i found
    refine ⟨fun id => ?_, rfl⟩
    by_cases same : id = row.challengeId
    · subst same
      exact .inr ⟨row, not_not.mp found, pending, Table.find_put_self ..⟩
    · exact .inl (Table.find_put_of_ne _ same _)

theorem revokePending_ends (rows : List EnrollmentChallenge)
    (pending : ∀ row ∈ rows, row.state = .pending) :
    Tx.Ends (revokePending rows) world fun answer last => answer = .ok () ∧
      ∃ next, Revoking world.store next ∧ last = { world with store := next } := by
  induction rows generalizing world with
  | nil => exact ⟨rfl, world.store, .refl _, rfl⟩
  | cons row rows ih =>
    have others : ∀ other ∈ rows, other.state = .pending := fun other member =>
      pending other (List.mem_cons_of_mem row member)
    refine ends_anyCas ((ih others).weaken ?_)
    rintro answer last ⟨rfl, next, revoking, rfl⟩
    exact ⟨rfl, next, (revoking_cas world.store (pending row (List.mem_cons_self ..))).trans
      revoking, rfl⟩

theorem startEnrollment_moved {organizationId : OrganizationId} {userId : UserId} {botId : BotId} :
    Tx.Ends (startEnrollment env backend readings organizationId userId botId) world
      fun answer last => Moved backend env
        ⟨readings, .startEnrollment organizationId userId botId⟩ world
        (answer.map .started) last := by
  have disabled : ¬TelegramSecurityReason.featureDisabled.RefusesEnrollment := by decide
  refine Tx.ends_require (fun _ => moved_of_kept disabled) fun _ => ?_
  refine Tx.ends_bind (check_ends ..) ?_ ?_
  · rintro error _ ⟨⟨events, rfl⟩, limited⟩
    refine .turnedAway rfl le_rfl le_rfl ?_
    rw [limited error rfl]
    exact fun listed => absurd listed (by decide)
  · rintro _ _ ⟨⟨events, rfl⟩, -⟩
    refine Tx.ends_restoring (ends_look ?_)
    refine Tx.ends_bind (revokePending_ends _ fun row member =>
      (of_decide_eq_true (List.mem_filter.mp member).2).2.2.2) ?_ ?_
    · rintro error _ ⟨failed, -⟩
      exact nomatch failed
    · rintro _ _ ⟨-, next, revoking, rfl⟩
      refine ends_drawToken (ends_uuid4 (ends_save ?_))
      exact .started rfl revoking rfl rfl rfl rfl rfl rfl

/-- A nonce is refused before anything is written. -/
theorem ends_declined {α : Type} {reply : α → Reply} {p : Prop} [Decidable p] {rest : Unit → Act α}
    (unlisted : ¬error.reason.RefusesEnrollment)
    (goesOn : p → Tx.Ends (rest ()) world (Moves backend env call world reply)) :
    Tx.Ends (Tx.require p (Tx.raise error) >>= rest) world
      (Moves backend env call world reply) :=
  Tx.ends_require
    (fun _ => moves_error (fun _ => rfl) le_rfl le_rfl fun listed => absurd listed unlisted) goesOn

theorem requireActiveBinding_ends (bindingId : BindingId) :
    Tx.Ends (requireActiveBinding bindingId) world fun answer last => last = world ∧
      match answer with
      | .error error => ¬error.reason.RefusesEnrollment
      | .ok binding => world.store.bindings.find bindingId = some binding ∧
          binding.revokedAt = none := by
  have notFound : ¬TelegramSecurityReason.bindingNotFound.RefusesEnrollment := by decide
  have revoked : ¬TelegramSecurityReason.bindingRevoked.RefusesEnrollment := by decide
  refine ends_look ?_
  split
  · exact ⟨rfl, notFound⟩
  · rename_i binding found
    exact Tx.ends_require (fun _ => ⟨rfl, revoked⟩) fun active => ⟨rfl, found, active.1⟩

theorem assertPayloadMatchesBinding_ends (binding : TelegramBinding) (payload : ActionPayload) :
    Tx.Ends (assertPayloadMatchesBinding binding payload) world fun answer last =>
      last = world ∧ match answer with
        | .error error => ¬error.reason.RefusesEnrollment
        | .ok _ => payload.organizationId = binding.organizationId ∧
            payload.userId = binding.userId := by
  have organization : ¬TelegramSecurityReason.crossOrganization.RefusesEnrollment := by decide
  have user : ¬TelegramSecurityReason.crossUser.RefusesEnrollment := by decide
  refine Tx.ends_require (fun _ => ⟨rfl, organization⟩) fun organizationId => ?_
  exact Tx.ends_ite (fun userId => ⟨rfl, organizationId, userId⟩) fun _ => ⟨rfl, user⟩

theorem issueActionNonce_moved {bindingId : BindingId} {payload : ActionPayload} :
    Tx.Ends (issueActionNonce env backend readings bindingId payload) world
      fun answer last => Moved backend env ⟨readings, .issueActionNonce bindingId payload⟩ world
        (answer.map .issued) last := by
  have disabled : ¬TelegramSecurityReason.featureDisabled.RefusesEnrollment := by decide
  have unavailable : ¬TelegramSecurityReason.closeUnavailable.RefusesEnrollment := by decide
  have disallowed : ¬TelegramSecurityReason.actionNotAllowed.RefusesEnrollment := by decide
  refine Tx.ends_require (fun _ => moved_of_kept disabled) fun _ => ends_transaction ?_
  refine Tx.ends_bind (requireActiveBinding_ends bindingId) ?_ ?_
  · rintro error _ ⟨rfl, unlisted⟩
    exact moves_error (fun _ => rfl) le_rfl le_rfl fun listed => absurd listed unlisted
  rintro binding _ ⟨rfl, found, active⟩
  refine Tx.ends_bind (assertPayloadMatchesBinding_ends binding payload) ?_ ?_
  · rintro error _ ⟨rfl, unlisted⟩
    exact moves_error (fun _ => rfl) le_rfl le_rfl fun listed => absurd listed unlisted
  rintro _ _ ⟨rfl, organizationId, userId⟩
  refine ends_declined unavailable fun _ => ends_declined disallowed fun _ => ?_
  refine ends_declined disallowed fun _ => ends_declined disallowed fun _ => ?_
  refine ends_drawToken (ends_uuid4 (ends_save ?_))
  exact .issued rfl found active organizationId userId rfl rfl rfl

@[simp] theorem challenges_unbind (store : Store) (organizationId : OrganizationId)
    (userId : UserId) (now : Instant) :
    (store.unbind organizationId userId now).challenges = store.challenges := by
  unfold Store.unbind
  split <;> rfl

theorem casChallenge_eq {store : Store} {updated : EnrollmentChallenge}
    (found : store.challenges.find challenge.challengeId = some challenge)
    (same : updated.challengeId = challenge.challengeId) :
    store.casChallenge challenge.challengeId challenge updated =
      (true, store.saveChallenge updated) := by
  simp [Store.casChallenge, Store.saveChallenge, found, same]

theorem revokePrevious_eq (organizationId : OrganizationId) (userId : UserId) (now : Instant) :
    revokePrevious now (world.store.getActiveBindingForUser organizationId userId) world =
      (.ok (), { world with store := world.store.unbind organizationId userId now }) := by
  unfold Store.unbind
  cases world.store.getActiveBindingForUser organizationId userId <;> rfl

theorem bindChallenge_ends {now : Instant}
    (found : world.store.challenges.find challenge.challengeId = some challenge) :
    Tx.Ends (bindChallenge now identity digest challenge) world fun answer last =>
      answer = .ok ⟨challenge.complete world.drawn now,
        newBinding identity challenge world.drawn now⟩ ∧
      ∃ receipt : ActionReceipt,
        receipt.Files ⟨identity.toTelegramActorIdentity, identity.updateId, none⟩ digest ∧
        receipt.receiptId = world.drawn + 1 ∧ receipt.state = .applied ∧
        receipt.nonceHash = none ∧ receipt.bindingId = some world.drawn ∧
        last = { world with
          store := (world.store.enrolled now identity challenge world.drawn).saveReceipt receipt
          drawn := world.drawn + 2 } := by
  refine ends_look (Tx.ends_bind_of_eq (revokePrevious_eq ..) ?_)
  have kept : (world.store.unbind challenge.organizationId challenge.userId now).challenges.find
      challenge.challengeId = some challenge := by
    rw [challenges_unbind]
    exact found
  refine ends_uuid4 (ends_cas (casChallenge_eq kept rfl) ?_)
  refine Tx.ends_require (fun failed => absurd rfl failed) fun _ => ends_save ?_
  refine ends_newReceipt (ends_save ?_)
  exact ⟨rfl, _, ⟨rfl, rfl, rfl, rfl⟩, rfl, rfl, rfl, rfl, rfl⟩

def refusedReceipt (identity : MessageIdentity) (now : Instant) (digest : Digest)
    (challenge : Option EnrollmentChallenge) (reason : TelegramSecurityReason)
    (receiptId : ReceiptId) : ActionReceipt :=
  { firstReceipt identity.toTelegramActorIdentity identity.updateId now digest .rejected
      (some reason) receiptId with
    messageId := some identity.messageId
    organizationId := challenge.map EnrollmentChallenge.organizationId
    userId := challenge.map EnrollmentChallenge.userId }

section completing
variable {token : String} {identity : MessageIdentity} {inbound : TelegramInboundUpdate}
  {digest : Digest} {start : World}

theorem ends_refusedEnrollment (here : World) {body : Act EnrollmentCompleteResult}
    (challenge : Option EnrollmentChallenge) (reason : TelegramSecurityReason) (message : String)
    (ended : body start = (.error ⟨message, reason, []⟩, { here with
      store := here.store.saveReceipt
        (refusedReceipt identity call.readings.now digest challenge reason here.drawn)
      drawn := here.drawn + 1 }))
    (asked : call.request = .completeEnrollment token identity inbound)
    (admitted : call.request.Admitted env) (known : call.request.known world.store = none)
    (recognised : call.request.digest env world.store = some digest)
    (expiring : here.store = world.store ∨ ∃ challenge : EnrollmentChallenge,
      challenge.state = .pending ∧
      world.store.challenges.find challenge.challengeId = some challenge ∧
      here.store = world.store.saveChallenge { challenge with state := .expired })
    (drawn : here.drawn = world.drawn) (tokens : here.tokens = world.tokens)
    (refuses : reason.RefusesEnrollment) :
    Tx.Ends body start (Moves backend env call world .completed) := by
  unfold Tx.Ends
  rw [ended]
  cases backend with
  | postgres =>
    refine moves_error nofun ?_ tokens.ge fun _ => rfl
    simp [drawn]
  | memory =>
    refine .refusedEnrollment asked admitted known expiring recognised ⟨rfl, rfl, rfl, rfl⟩ drawn
      rfl rfl refuses rfl ?_ tokens
    simp [World.restore, drawn]

variable {readings : Readings}

theorem enroll_moves (inbound : TelegramInboundUpdate)
    (keyed : ∀ {id row}, world.store.challenges.find id = some row → row.challengeId = id)
    (admitted : Admitted env inbound "message")
    (known : world.store.getUpdateReceipt identity.botId identity.updateId = none)
    (recognised : env.inboundFingerprintDigest (enrollmentReplayFingerprint env identity (strip
      token) world.store) = digest) :
    Tx.Ends (enroll env readings identity (strip token) digest) world
      (Moves backend env ⟨readings, .completeEnrollment token identity inbound⟩ world
        .completed) := by
  let call : Call := ⟨readings, .completeEnrollment token identity inbound⟩
  have asked : call.request = .completeEnrollment token identity inbound := rfl
  have recognised : call.request.digest env world.store = some digest :=
    congrArg some recognised
  refine ends_checkCallback (fun error limited events => ?_) fun _ events => ?_
  · refine moves_error (fun _ => rfl) le_rfl le_rfl ?_
    rw [limited]
    exact fun listed => absurd listed (by decide)
  have refuses {body : Act EnrollmentCompleteResult} {challenge : Option EnrollmentChallenge}
      {reason : TelegramSecurityReason} {message : String}
      (listed : reason.RefusesEnrollment)
      (ended : body { world with events := events } = (.error ⟨message, reason, []⟩, { world with
        store := world.store.saveReceipt
          (refusedReceipt identity readings.now digest challenge reason world.drawn)
        events := events
        drawn := world.drawn + 1 })) :
      Tx.Ends body { world with events := events } (Moves backend env call world .completed) :=
    ends_refusedEnrollment { world with events := events } challenge reason message ended asked
      admitted known recognised (.inl rfl) rfl rfl listed
  refine Tx.ends_require (fun _ => refuses (by decide) rfl) fun _ => ?_
  refine Tx.ends_require (fun _ => refuses (by decide) rfl) fun _ => ends_look ?_
  split
  · exact refuses (by decide) rfl
  rename_i challenge found
  have stored : world.store.challenges.find challenge.challengeId = some challenge := by
    obtain ⟨challengeId, -, row⟩ := Option.bind_eq_some_iff.mp found
    rw [keyed row]
    exact row
  refine Tx.ends_require (fun _ => refuses (by decide) rfl) fun botId => ?_
  refine Tx.ends_require (fun _ => refuses (by decide) rfl) fun _ => ?_
  refine Tx.ends_require (fun _ => refuses (by decide) rfl) fun pending => ?_
  refine Tx.ends_require (fun late => ?_) fun inTime => ends_look ?_
  · let expired : EnrollmentChallenge := { challenge with state := .expired }
    let here : World := { world with
      store := (world.store.casChallenge challenge.challengeId challenge expired).2
      events := events }
    have same : expired.challengeId = challenge.challengeId := rfl
    have stores : here.store = world.store.saveChallenge expired :=
      congrArg Prod.snd (casChallenge_eq stored same)
    exact ends_refusedEnrollment here (some challenge) .enrollmentExpired
      "Enrollment challenge has expired." rfl asked admitted known recognised
      (.inr ⟨challenge, pending, stored, stores⟩) rfl rfl (by decide)
  refine Tx.ends_require (fun _ => refuses (by decide) rfl) fun telegramUser => ends_look ?_
  refine Tx.ends_require (fun _ => refuses (by decide) rfl) fun chat => ?_
  refine Tx.Ends.weaken (bindChallenge_ends ?_) ?_
  · exact stored
  rintro _ _ ⟨rfl, receipt, files, receiptId, applied, unnamed, bindingId, rfl⟩
  exact .enrolled asked admitted known ⟨found, botId, pending, inTime, telegramUser, chat⟩
    recognised files receiptId applied unnamed bindingId rfl rfl rfl

theorem completeEnrollment_moved
    (keyed : ∀ {id row}, world.store.challenges.find id = some row → row.challengeId = id) :
    Tx.Ends (completeEnrollment env backend readings token identity inbound) world
      fun answer last => Moved backend env ⟨readings, .completeEnrollment token identity inbound⟩
        world (answer.map .completed) last := by
  refine ends_admit (fun error unlisted => moved_of_kept unlisted) fun admitted => ?_
  refine ends_transaction (ends_look (ends_look ?_))
  split
  · rename_i existing known
    exact ends_known admitted known rfl (replayEnrollment_eq existing world) rfl
  · rename_i known
    exact enroll_moves inbound keyed admitted known rfl

end completing

theorem serve_moved (keyed : world.Keyed) :
    Moved backend env call world (serve backend env call world).1
      (step backend env world call) := by
  obtain ⟨readings, request⟩ := call
  show Tx.Ends (serve backend env ⟨readings, request⟩) world _
  cases request with
  | startEnrollment => exact ends_reply startEnrollment_moved
  | completeEnrollment =>
    exact ends_reply (completeEnrollment_moved fun found => (keyed.challenge found).1)
  | issueActionNonce => exact ends_reply issueActionNonce_moved
  | receiveCallback => exact ends_reply (receiveCallback_moved keyed.nonce)
  | receivePrivateMessage => exact ends_reply (receivePrivateMessage_moved keyed.nonce)

end serving

end AlphaTrade.Telegram
