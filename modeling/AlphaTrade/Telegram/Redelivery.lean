import AlphaTrade.Telegram.Intents

/-!
# A redelivered update

The receipt of an update stays, and what its outcome is repeated from stays with it: a challenge
that is completed, an intent, and a binding but for its revocation. So an update that is known
repeats its outcome. What is not known again is an enrollment whose receipt the database has rolled
back with the refusal, and one whose token has come to belong to another user.
-/
namespace AlphaTrade.Telegram
open Library
open Execution (Instant)

/-! ## What stays -/

section moving
variable {backend : Backend} {env : Environment} {call : Call} {world last : World}
  {answer : Except TelegramSecurityError Reply}

theorem Moved.receipt_stays (moved : Moved backend env call world answer last)
    (keyed : world.Keyed) {id : ReceiptId} {receipt : ActionReceipt}
    (found : world.store.receipts.find id = some receipt) :
    last.store.receipts.find id = some receipt := by
  have below : id < world.drawn := (keyed.receipt found).2
  have other {receiptId : ReceiptId} (new : world.drawn ≤ receiptId) : id ≠ receiptId :=
    (below.trans_le new).ne
  cases moved with
  | turnedAway same => exact same ▸ found
  | repeated => exact found
  | started asked revoking challengeId pending unbound stored =>
    rw [stored, revoking.rest]
    exact found
  | refusedEnrollment asked admitted known expiring recognised files receiptId rejected reason
      refuses stored =>
    rw [stored]
    refine (Table.find_put_of_ne _ (other receiptId.ge) _).trans ?_
    obtain rfl | ⟨challenge, pending, before, rfl⟩ := expiring <;> exact found
  | enrolled asked admitted known enrolls recognised files receiptId applied unnamed bindingId
      stored =>
    rw [stored]
    refine (Table.find_put_of_ne _ (other (receiptId ▸ Nat.le_succ _)) _).trans ?_
    rw [(receipts_enrolled enrolls world.drawn).1]
    exact found
  | issued asked bound active organizationId userId stored =>
    rw [stored]
    exact found
  | received asked admitted known checked used recognised files receiptId answers stored =>
    rw [stored]
    refine (Table.find_put_of_ne _ (other receiptId.ge) _).trans ?_
    rw [used.receipts.1]
    exact found

theorem Moved.intent_stays (moved : Moved backend env call world answer last)
    (keyed : world.Keyed) {id : IntentId} {intent : AuthorizationIntent}
    (found : world.store.intents.find id = some intent) :
    last.store.intents.find id = some intent := by
  have below : id < world.drawn := (keyed.intent found).2
  cases moved with
  | turnedAway same => exact same ▸ found
  | repeated => exact found
  | started asked revoking challengeId pending unbound stored =>
    rw [stored, revoking.rest]
    exact found
  | refusedEnrollment asked admitted known expiring recognised files receiptId rejected reason
      refuses stored =>
    rw [stored]
    obtain rfl | ⟨challenge, pending, before, rfl⟩ := expiring <;> exact found
  | enrolled asked admitted known enrolls recognised files receiptId applied unnamed bindingId
      stored =>
    rw [stored]
    unfold Store.enrolled Store.unbind
    split <;> exact found
  | issued asked bound active organizationId userId stored =>
    rw [stored]
    exact found
  | received asked admitted known checked used recognised files receiptId answers stored =>
    rw [stored]
    cases used with
    | untouched => exact found
    | expired => exact found
    | consumed => exact found
    | intended presents authorized approves revision names new =>
      have other : id ≠ world.drawn + 1 := (Nat.lt_succ_of_lt below).ne
      exact (Table.find_put_of_ne _ (new ▸ other) _).trans found

theorem Moved.completed_stays (moved : Moved backend env call world answer last)
    (keyed : world.Keyed) {id : ChallengeId} {row : EnrollmentChallenge}
    (found : world.store.challenges.find id = some row) (completed : row.state = .completed) :
    last.store.challenges.find id = some row := by
  have below : id < world.drawn := (keyed.challenge found).2
  -- a challenge that is pending is not this one
  have other {challenge : EnrollmentChallenge} (pending : challenge.state = .pending)
      (stored : world.store.challenges.find challenge.challengeId = some challenge) :
      id ≠ challenge.challengeId := by
    rintro rfl
    cases found.symm.trans stored
    exact nomatch completed.symm.trans pending
  cases moved with
  | turnedAway same => exact same ▸ found
  | repeated => exact found
  | started asked revoking challengeId pending unbound stored =>
    rw [stored]
    refine (Table.find_put_of_ne _ (challengeId ▸ below.ne) _).trans ?_
    obtain same | ⟨before, kept, open_, -⟩ := revoking.challenges id
    · exact same.trans found
    · cases found.symm.trans kept
      exact nomatch completed.symm.trans open_
  | refusedEnrollment asked admitted known expiring recognised files receiptId rejected reason
      refuses stored =>
    rw [stored]
    obtain rfl | ⟨challenge, pending, before, rfl⟩ := expiring
    · exact found
    · exact (Table.find_put_of_ne _ (other pending before) _).trans found
  | @enrolled _ identity _ challenge _ _ _ asked admitted known enrolls recognised files receiptId
      applied unnamed bindingId stored =>
    obtain ⟨challengeId, -, before⟩ := Option.bind_eq_some_iff.mp enrolls.found
    obtain ⟨rfl, -⟩ := keyed.challenge before
    rw [stored]
    refine (Table.find_put_of_ne _ (other enrolls.pending before) _).trans ?_
    rw [challenges_unbind]
    exact found
  | issued asked bound active organizationId userId stored =>
    rw [stored]
    exact found
  | received asked admitted known checked used recognised files receiptId answers stored =>
    rw [stored]
    exact used.enrollment.2.1 ▸ found

end moving

/-! ## An outcome and its receipt -/

/-- The second answer gives the outcome of the first: the same refusal, the same challenge and
binding, which may since have been revoked, or the same receipt and what goes with it. -/
def SameOutcome :
    Except TelegramSecurityError Reply → Except TelegramSecurityError Reply → Prop
  | .error first, .error second => second.reason = first.reason
  | .ok (.completed first), .ok (.completed second) =>
    second.challenge = first.challenge ∧
      (second.binding = first.binding ∨ ∃ now, second.binding = first.binding.revoke now)
  | .ok (.outcome first), .ok (.outcome second) =>
    second.receipt = first.receipt ∧ second.reasonCode = first.reasonCode ∧
      second.authorizationIntent = first.authorizationIntent ∧
      second.effectKind = first.effectKind
  | _, _ => False

/-- The store holds what an enrollment has made. -/
structure Store.HoldsEnrollment (store : Store) (result : EnrollmentCompleteResult) : Prop where
  challenge : store.challenges.find result.challenge.challengeId = some result.challenge
  completed : result.challenge.state = .completed
  named : result.challenge.bindingId = some result.binding.bindingId
  binding : ∃ row, store.bindings.find result.binding.bindingId = some row ∧
    (row = result.binding ∨ ∃ now, row = result.binding.revoke now)

def Store.HoldsCompletion (store : Store) (receipt : ActionReceipt) :
    Except TelegramSecurityError Reply → Prop
  | .error error => receipt.state = .rejected ∧ receipt.reasonCode = some error.reason
  | .ok (.completed result) => receipt.state = .applied ∧
      receipt.bindingId = some result.binding.bindingId ∧ store.HoldsEnrollment result
  | .ok _ => False

/-- The receipt and the store hold the outcome of an action. -/
structure Store.HoldsOutcome (store : Store) (receipt : ActionReceipt)
    (answer : Except TelegramSecurityError Reply) : Prop where
  answers : answer = .ok (.outcome { repeatedOutcome store receipt with
    replayed := false, stateChanged := true })
  intended : ∀ intentId, receipt.authorizationIntentId = some intentId →
    ∃ intent, store.intents.find intentId = some intent

def Store.Holds (store : Store) (receipt : ActionReceipt) (request : Request)
    (answer : Except TelegramSecurityError Reply) : Prop :=
  match request with
  | .completeEnrollment .. => store.HoldsCompletion receipt answer
  | .receiveCallback .. | .receivePrivateMessage .. => store.HoldsOutcome receipt answer
  | .startEnrollment .. | .issueActionNonce .. => False

section holding
variable {backend : Backend} {env : Environment} {call : Call} {world last : World}
  {answer outcome : Except TelegramSecurityError Reply} {receipt : ActionReceipt}
  {request : Request}

theorem Moved.holdsEnrollment (moved : Moved backend env call world answer last)
    (keyed : world.Keyed) {result : EnrollmentCompleteResult}
    (holds : world.store.HoldsEnrollment result) : last.store.HoldsEnrollment result where
  challenge := moved.completed_stays keyed holds.challenge holds.completed
  completed := holds.completed
  named := holds.named
  binding := by
    obtain ⟨row, found, same⟩ := holds.binding
    obtain ⟨later, kept, rfl | rfl⟩ := moved.binding_stays keyed found
    · exact ⟨_, kept, same⟩
    · refine ⟨_, kept, .inr ⟨call.readings.now, ?_⟩⟩
      obtain rfl | ⟨now, rfl⟩ := same <;> rfl

/-- The intent that a receipt names is repeated from every later store. -/
theorem Moved.repeatedOutcome_eq (moved : Moved backend env call world answer last)
    (keyed : world.Keyed)
    (intended : ∀ intentId, receipt.authorizationIntentId = some intentId →
      ∃ intent, world.store.intents.find intentId = some intent) :
    repeatedOutcome last.store receipt = repeatedOutcome world.store receipt := by
  have same : receipt.authorizationIntentId.bind last.store.getAuthorizationIntent =
      receipt.authorizationIntentId.bind world.store.getAuthorizationIntent := by
    cases named : receipt.authorizationIntentId with
    | none => rfl
    | some intentId =>
      obtain ⟨intent, found⟩ := intended intentId named
      exact (moved.intent_stays keyed found).trans found.symm
  unfold repeatedOutcome
  rw [same]

theorem Moved.holdsOutcome (moved : Moved backend env call world answer last)
    (keyed : world.Keyed) (holds : world.store.HoldsOutcome receipt outcome) :
    last.store.HoldsOutcome receipt outcome where
  answers := by
    rw [moved.repeatedOutcome_eq keyed holds.intended]
    exact holds.answers
  intended intentId named := by
    obtain ⟨intent, found⟩ := holds.intended intentId named
    exact ⟨intent, moved.intent_stays keyed found⟩

theorem Moved.holds (moved : Moved backend env call world answer last) (keyed : world.Keyed)
    (holds : world.store.Holds receipt request outcome) :
    last.store.Holds receipt request outcome := by
  cases request with
  | startEnrollment => exact holds
  | issueActionNonce => exact holds
  | receiveCallback => exact moved.holdsOutcome keyed holds
  | receivePrivateMessage => exact moved.holdsOutcome keyed holds
  | completeEnrollment =>
    cases outcome with
    | error => exact holds
    | ok reply =>
      cases reply with
      | completed =>
        obtain ⟨applied, bindingId, made⟩ := holds
        exact ⟨applied, bindingId, moved.holdsEnrollment keyed made⟩
      | started => exact holds
      | issued => exact holds
      | outcome => exact holds

section repeating
variable {store : Store} {bound : Nat}

theorem Store.HoldsEnrollment.challengeForBinding {result : EnrollmentCompleteResult}
    (made : store.HoldsEnrollment result) (one : store.OneToOne) :
    store.getChallengeForBinding result.binding.bindingId = some result.challenge := by
  unfold getChallengeForBinding
  cases first : store.challenges.first fun other =>
      other.bindingId = some result.binding.bindingId with
  | none =>
    have unselected := Table.not_of_first_eq_none first made.challenge
    exact absurd (decide_eq_true made.named) unselected
  | some other =>
    obtain ⟨id, stored, named⟩ := Table.find_of_first first
    obtain rfl := one.unshared stored made.challenge (of_decide_eq_true named) made.named
    exact stored.symm.trans made.challenge

theorem Store.HoldsCompletion.repeated (holds : store.HoldsCompletion receipt outcome)
    (keyed : store.Keyed bound) (one : store.OneToOne) :
    SameOutcome outcome ((repeatedEnrollment store receipt).map .completed) := by
  cases outcome with
  | error error =>
    obtain ⟨rejected, reason⟩ := holds
    simp [repeatedEnrollment, rejected, reason, SameOutcome, Except.map]
  | ok reply =>
    cases reply with
    | started => exact holds.elim
    | issued => exact holds.elim
    | outcome => exact holds.elim
    | completed result =>
      obtain ⟨applied, bindingId, made⟩ := holds
      obtain ⟨row, found, same⟩ := made.binding
      have own : row.bindingId = result.binding.bindingId := (keyed.binding found).1
      have binding : store.getBinding result.binding.bindingId = some row := found
      have challenge := made.challengeForBinding one
      rw [← own] at challenge
      simp only [repeatedEnrollment, applied, bindingId, binding, challenge, SameOutcome,
        Except.map]
      exact ⟨trivial, same⟩

/-- What is held is what is repeated. -/
theorem Store.Holds.repeated (holds : store.Holds receipt request outcome)
    (keyed : store.Keyed bound) (one : store.OneToOne) :
    SameOutcome outcome (request.repeated store receipt) := by
  cases request with
  | startEnrollment => exact holds.elim
  | issueActionNonce => exact holds.elim
  | completeEnrollment => exact HoldsCompletion.repeated holds keyed one
  | receiveCallback =>
    obtain ⟨rfl, -⟩ := holds
    exact ⟨rfl, rfl, rfl, rfl⟩
  | receivePrivateMessage =>
    obtain ⟨rfl, -⟩ := holds
    exact ⟨rfl, rfl, rfl, rfl⟩

end repeating

/-- A stored receipt is the one by which its update is known. -/
theorem Store.Keyed.known_of_files {store : Store} {bound : Nat} (keyed : store.Keyed bound)
    {update : Update} {digest : Digest} {id : ReceiptId}
    (stored : store.receipts.find id = some receipt)
    (files : receipt.Files update digest) (asked : request.update = some update) :
    request.known store = some receipt := by
  have byUpdate : store.getUpdateReceipt update.actor.botId update.updateId = some receipt := by
    unfold getUpdateReceipt
    rw [← files.botId, ← files.updateId, keyed.filed stored]
    exact stored
  cases request with
  | startEnrollment => exact nomatch asked
  | issueActionNonce => exact nomatch asked
  | completeEnrollment =>
    cases asked
    exact byUpdate
  | receivePrivateMessage =>
    cases asked
    exact byUpdate
  | receiveCallback identity =>
    cases asked
    have byCallback : store.getCallbackReceipt identity.botId identity.callbackQueryId =
        some receipt := by
      unfold getCallbackReceipt
      have indexed := keyed.filedCallback stored files.callbackQueryId
      rw [files.botId] at indexed
      rw [indexed]
      exact stored
    simp only [Request.known, byCallback, Option.some_or]

end holding

/-! ## Processing an update -/

/-- The update was not known and came to an outcome: the call answers, or refuses the enrollment for
a reason that goes into a receipt. -/
structure Processed (backend : Backend) (env : Environment) (world : World) (call : Call) :
    Prop where
  unknown : call.request.known world.store = none
  update : call.request.update.isSome
  outcome : ∀ error, (serve backend env call world).1 = .error error →
    error.reason.RefusesEnrollment

/-- The enrollment passes every check that refuses with a receipt. -/
structure Passes (env : Environment) (store : Store) (now : Instant) (presented : String)
    (identity : MessageIdentity) : Prop where
  direct : identity.chatType = .privateChat
  token : presented ≠ "" ∧ presented ≠ identity.chatId
  challenge : ∃ challenge, Enrolls env store now presented identity challenge

/-- The receipt of the call is not rolled back: it is not an enrollment that the database
refuses. -/
def LeavesReceipt (backend : Backend) (env : Environment) (world : World) (call : Call) : Prop :=
  match backend, call.request with
  | .postgres, .completeEnrollment token identity _ =>
    Passes env world.store call.readings.now (strip token) identity
  | _, _ => True

section processing
variable {backend : Backend} {env : Environment} {world : World}

variable {readings : Readings} {identity : MessageIdentity} {digest : Digest} {token : String}
  {inbound : TelegramInboundUpdate} {call : Call} {last : World} {error : TelegramSecurityError}
  {receipt : ActionReceipt}

/-- An enrollment that passes is bound. -/
theorem enroll_passes {presented : String}
    (keyed : ∀ {id row}, world.store.challenges.find id = some row → row.challengeId = id)
    (passes : Passes env world.store readings.now presented identity) :
    Tx.Ends (enroll env readings identity presented digest) world fun answer _ =>
      ∀ error, answer = .error error → ¬error.reason.RefusesEnrollment := by
  obtain ⟨direct, token, challenge, enrolls⟩ := passes
  refine ends_checkCallback (fun error limited events other same => ?_) fun _ events => ?_
  · cases same
    rw [limited]
    decide
  refine Tx.ends_require (fun group => absurd direct group) fun _ => ?_
  refine Tx.ends_require (fun bare => absurd token bare) fun _ => ends_look ?_
  rw [enrolls.found]
  have stored : world.store.challenges.find challenge.challengeId = some challenge := by
    obtain ⟨challengeId, -, row⟩ := Option.bind_eq_some_iff.mp enrolls.found
    rw [keyed row]
    exact row
  refine Tx.ends_require (fun other => absurd enrolls.botId other) fun _ => ?_
  refine Tx.ends_require (fun used => absurd (by simp [enrolls.pending]) used) fun _ => ?_
  refine Tx.ends_require (fun closed => absurd enrolls.pending closed) fun _ => ?_
  refine Tx.ends_require (fun late => absurd enrolls.inTime late) fun _ => ends_look ?_
  refine Tx.ends_require (fun taken => absurd enrolls.telegramUser taken) fun _ => ends_look ?_
  refine Tx.ends_require (fun taken => absurd enrolls.chat taken) fun _ => ?_
  refine Tx.Ends.weaken (bindChallenge_ends stored) ?_
  rintro _ _ ⟨rfl, -⟩ error same
  exact nomatch same

theorem completeEnrollment_passes (keyed : world.Keyed)
    (unknown : world.store.getUpdateReceipt identity.botId identity.updateId = none)
    (passes : Passes env world.store readings.now (strip token) identity) :
    Tx.Ends (completeEnrollment env backend readings token identity inbound) world
      fun answer _ => ∀ error, answer = .error error → ¬error.reason.RefusesEnrollment := by
  refine ends_admit (fun error unlisted other same => ?_) fun _ => ?_
  · cases same
    exact unlisted
  · refine Tx.ends_restoring (ends_look (ends_look ?_))
    rw [unknown]
    refine (enroll_passes (fun found => (keyed.challenge found).1) passes).weaken
      fun answer last unlisted => ?_
    cases answer with
    | ok => exact unlisted
    | error => exact unlisted

/-- An action is turned away, but not for what an enrollment is refused for. -/
theorem Filed.unlisted {update : Update}
    (filed : Filed env call update digest world (.error error) last) :
    ¬error.reason.RefusesEnrollment := by
  obtain ⟨_, ⟨⟩, limited, -⟩ | ⟨-, _, _, -, -, -, conflict, -⟩ := filed
  · rw [limited]
    decide
  · have conflict : error.reason = .outboxConflict := conflict
    rw [conflict]
    decide

theorem ends_unlisted_known :
    Tx.Ends (do requireIdenticalReplay receipt digest; replayAction receipt) world
      fun answer _ => ∀ error, answer = .error error → ¬error.reason.RefusesEnrollment := by
  have unlisted : ¬TelegramSecurityReason.replayConflict.RefusesEnrollment := by decide
  refine Tx.ends_require (fun _ error same => ?_) fun _ => nofun
  cases same
  exact unlisted

theorem receivePrivateMessage_unlisted {text : String} {presented : Option ActionPayload}
    (keyed : world.Keyed) :
    Tx.Ends (receivePrivateMessage env backend readings identity inbound text presented) world
      fun answer _ => ∀ error, answer = .error error → ¬error.reason.RefusesEnrollment := by
  refine ends_admit (fun error unlisted other same => ?_) fun _ => ?_
  · cases same
    exact unlisted
  refine Tx.ends_restoring (ends_look ?_)
  split
  · refine ends_unlisted_known.weaken fun answer last unlisted => ?_
    cases answer <;> exact unlisted
  · refine (processMessage_filed inbound text keyed.nonce).weaken fun answer last filed => ?_
    cases answer with
    | ok => exact nofun
    | error error =>
      rintro _ ⟨⟩
      exact filed.unlisted

theorem receiveCallback_unlisted {identity : CallbackIdentity} {nonceToken : String}
    {presented : ActionPayload} (keyed : world.Keyed) :
    Tx.Ends (receiveCallback env backend readings identity nonceToken presented inbound) world
      fun answer _ => ∀ error, answer = .error error → ¬error.reason.RefusesEnrollment := by
  refine ends_admit (fun error unlisted other same => ?_) fun _ => ?_
  · cases same
    exact unlisted
  refine Tx.ends_restoring (ends_look (ends_look ?_))
  split
  · refine ends_unlisted_known.weaken fun answer last unlisted => ?_
    cases answer <;> exact unlisted
  · refine (processCallback_filed inbound keyed.nonce).weaken fun answer last filed => ?_
    cases answer with
    | ok => exact nofun
    | error error =>
      rintro _ ⟨⟩
      exact filed.unlisted

/-- What the database refuses for a reason of an enrollment is an enrollment that does not pass. -/
theorem not_leaves_of_refused (keyed : world.Keyed) (processed : Processed .postgres env world call)
    (refused : (serve .postgres env call world).1 = .error error) :
    ¬LeavesReceipt .postgres env world call := by
  have listed := processed.outcome error refused
  -- no entry refuses for such a reason but an enrollment that does not pass
  have unlisted (ends : Tx.Ends (serve .postgres env call) world fun answer _ =>
      ∀ error, answer = .error error → ¬error.reason.RefusesEnrollment) : False :=
    ends error refused listed
  obtain ⟨readings, request⟩ := call
  have mapped {α : Type} {body : Act α} {reply : α → Reply}
      (ends : Tx.Ends body world fun answer _ =>
        ∀ error, answer = .error error → ¬error.reason.RefusesEnrollment) :
      Tx.Ends (do let result ← body; return reply result) world fun answer _ =>
        ∀ error, answer = .error error → ¬error.reason.RefusesEnrollment := by
    refine ends_reply (ends.weaken fun answer last holds => ?_)
    cases answer with
    | ok => exact nofun
    | error error =>
      rintro _ ⟨⟩
      exact holds error rfl
  cases request with
  | startEnrollment => exact nomatch processed.update
  | issueActionNonce => exact nomatch processed.update
  | receiveCallback => exact (unlisted (mapped (receiveCallback_unlisted keyed))).elim
  | receivePrivateMessage =>
    exact (unlisted (mapped (receivePrivateMessage_unlisted keyed))).elim
  | completeEnrollment =>
    intro leaves
    exact unlisted (mapped (completeEnrollment_passes keyed processed.unknown leaves))

/-- An enrollment answers with what it completes. -/
theorem completed_of_serve {reply : Reply}
    (answers : (serve backend env ⟨readings, .completeEnrollment token identity inbound⟩ world).1 =
      .ok reply) :
    ∃ result, reply = .completed result := by
  have ends : Tx.Ends (serve backend env ⟨readings, .completeEnrollment token identity inbound⟩)
      world fun answer _ => answer = .ok reply → ∃ result, reply = .completed result := by
    refine ends_reply ?_
    unfold Tx.Ends
    generalize (completeEnrollment env backend readings token identity inbound world).1 = answer
    cases answer with
    | error error =>
      intro same
      have same : (Except.error error : Except TelegramSecurityError Reply) = .ok reply := same
      exact nomatch same
    | ok result =>
      intro same
      exact ⟨result, (Except.ok.inj same).symm⟩
  exact ends answers

/-- A known enrollment whose token has come to belong to another user is in conflict. -/
theorem serve_conflict (admitted : Admitted env inbound "message")
    (known : world.store.getUpdateReceipt identity.botId identity.updateId = some receipt)
    (differs : env.inboundFingerprintDigest (enrollmentReplayFingerprint env identity (strip token)
      world.store) ≠ receipt.replayFingerprint) :
    ∃ error, (serve backend env ⟨readings, .completeEnrollment token identity inbound⟩ world).1 =
      .error error ∧ error.reason = .replayConflict := by
  have ends : Tx.Ends (completeEnrollment env backend readings token identity inbound) world
      fun answer _ => ∃ error, answer = .error error ∧ error.reason = .replayConflict := by
    refine admitted.ends (Tx.ends_restoring (ends_look (ends_look ?_)))
    rw [known]
    exact Tx.ends_require (fun _ => ⟨_, rfl, rfl⟩) fun same => absurd same.symm differs
  have replies : Tx.Ends
      (serve backend env ⟨readings, .completeEnrollment token identity inbound⟩) world
      fun answer _ => ∃ error, answer = .error error ∧ error.reason = .replayConflict := by
    refine ends_reply (ends.weaken ?_)
    rintro _ _ ⟨error, rfl, conflict⟩
    exact ⟨error, rfl, conflict⟩
  exact replies

/-- A processed update leaves a receipt that holds its outcome. -/
theorem Moved.settles {answer : Except TelegramSecurityError Reply}
    (moved : Moved backend env call world answer last)
    (unknown : call.request.known world.store = none) (updates : call.request.update.isSome)
    (listed : ∀ error, answer = .error error → error.reason.RefusesEnrollment)
    (kept : backend = .postgres → ∀ error, answer ≠ .error error)
    (completes : ∀ token identity inbound reply, call.request =
      .completeEnrollment token identity inbound → answer = .ok reply → ∃ result, reply =
      .completed result) :
    call.request.Admitted env ∧ ∃ receipt update digest,
      call.request.update = some update ∧ call.request.digest env world.store = some digest ∧
      receipt.Files update digest ∧ last.store.receipts.find receipt.receiptId = some receipt ∧
      last.store.Holds receipt call.request answer := by
  cases moved with
  | turnedAway same drawn tokens unrecorded =>
    exact absurd rfl (kept (unrecorded (listed _ rfl)) _)
  | repeated admitted known => exact nomatch unknown.symm.trans known
  | started asked => exact nomatch asked ▸ updates
  | issued asked => exact nomatch asked ▸ updates
  | refusedEnrollment asked admitted known expiring recognised files receiptId rejected reason
      refuses stored =>
    refine ⟨admitted, _, _, _, congrArg Request.update asked, recognised, files, ?_, ?_⟩
    · rw [stored]
      exact Table.find_put_self ..
    · rw [asked]
      exact ⟨rejected, reason⟩
  | @enrolled _ identity _ challenge _ _ _ asked admitted known enrolls recognised files receiptId
      applied unnamed bindingId stored =>
    refine ⟨admitted, _, _, _, congrArg Request.update asked, recognised, files, ?_, ?_⟩
    · rw [stored]
      exact Table.find_put_self ..
    · rw [asked, stored]
      refine ⟨applied, bindingId, ?_, rfl, rfl, ?_⟩
      · exact Table.find_put_self ..
      · exact ⟨_, Table.find_put_self .., .inl rfl⟩
  | @received update receipt _ _ _ _ asked admitted known checked used recognised files receiptId
      answers stored =>
    have found : last.store.receipts.find receipt.receiptId = some receipt := by
      rw [stored]
      exact Table.find_put_self ..
    refine ⟨admitted, receipt, _, _, asked, recognised, files, found, ?_⟩
    cases answer with
    | error error =>
      have conflict : error.reason = .outboxConflict := answers
      exact absurd (conflict ▸ listed error rfl) (by decide)
    | ok reply =>
      obtain ⟨rfl, intended⟩ := answers
      cases request : call.request with
      | startEnrollment => exact nomatch request ▸ updates
      | issueActionNonce => exact nomatch request ▸ updates
      | completeEnrollment =>
        obtain ⟨result, same⟩ := completes _ _ _ _ request rfl
        exact Reply.noConfusion same
      | receiveCallback => exact ⟨rfl, intended⟩
      | receivePrivateMessage => exact ⟨rfl, intended⟩

theorem Processed.settles (processed : Processed backend env world call) (keyed : world.Keyed)
    (leaves : LeavesReceipt backend env world call) :
    call.request.Admitted env ∧ ∃ receipt update digest,
      call.request.update = some update ∧ call.request.digest env world.store = some digest ∧
      receipt.Files update digest ∧
      (step backend env world call).store.receipts.find receipt.receiptId = some receipt ∧
      (step backend env world call).store.Holds receipt call.request
        (serve backend env call world).1 := by
  refine (serve_moved keyed).settles processed.unknown processed.update processed.outcome ?_ ?_
  · rintro rfl error refused
    exact not_leaves_of_refused keyed processed refused leaves
  · intro token identity inbound reply asked answers
    obtain ⟨readings, request⟩ := call
    subst asked
    exact completed_of_serve answers

end processing

variable {backend : Backend} {env : Environment} {error : TelegramSecurityError}

/-- A conflict is not the outcome of a processed update. -/
theorem Processed.not_conflict {world : World} {call : Call}
    (processed : Processed backend env world call)
    (same : SameOutcome (serve backend env call world).1 (.error error))
    (conflict : error.reason = .replayConflict) : False := by
  have listed := processed.outcome
  generalize (serve backend env call world).1 = outcome at same listed
  cases outcome with
  | ok reply => cases reply <;> exact same
  | error first =>
    have same : error.reason = first.reason := same
    have refuses := listed first rfl
    rw [← same, conflict] at refuses
    exact absurd refuses (by decide)

/-- The receipt, and what it holds, at the end of a run. -/
theorem holds_run {receipt : ActionReceipt} {request : Request}
    {outcome : Except TelegramSecurityError Reply} (earlier later : List Call)
    (stored : (run (step backend env) .initial earlier).store.receipts.find receipt.receiptId =
      some receipt)
    (holds : (run (step backend env) .initial earlier).store.Holds receipt request outcome) :
    let world := run (step backend env) .initial (earlier ++ later)
    world.store.receipts.find receipt.receiptId = some receipt ∧
      world.store.Holds receipt request outcome := by
  rw [run_append]
  refine (run_invariant_of_step (step backend env) (I := fun world => world.Keyed ∧
    world.store.receipts.find receipt.receiptId = some receipt ∧
      world.store.Holds receipt request outcome) ?_ later ⟨keyed_run earlier, stored, holds⟩).2
  rintro world call ⟨keyed, stored, holds⟩
  have moved : Moved backend env call world _ _ := serve_moved keyed
  exact ⟨keyed_step keyed call, moved.receipt_stays keyed stored, moved.holds keyed holds⟩

/-- The update, delivered again, comes to the outcome that it first came to and changes nothing. -/
def Repeats (backend : Backend) (env : Environment) (first : Except TelegramSecurityError Reply)
    (later : World) (again : Call) : Prop :=
  SameOutcome first (serve backend env again later).1 ∧
    (step backend env later again).store = later.store

theorem not_repeats {first : Except TelegramSecurityError Reply} {later : World} {again : Call}
    (refused : first = .error error) (accepted : (serve backend env again later).1.toBool = true) :
    ¬Repeats backend env first later again := by
  subst refused
  rintro ⟨same, -⟩
  generalize (serve backend env again later).1 = second at same accepted
  cases second with
  | error => exact nomatch accepted
  | ok => exact same

/-- An update whose receipt is not rolled back is known by it in every later state, and repeats
its outcome, unless its token has come to belong to another user. -/
theorem redelivery_repeats (backend : Backend) (env : Environment) (before between : List Call)
    (call : Call) (readings : Readings)
    (processed : Processed backend env (run (step backend env) .initial before) call)
    (leaves : LeavesReceipt backend env (run (step backend env) .initial before) call) :
    let first := run (step backend env) .initial before
    let later := run (step backend env) .initial (before ++ call :: between)
    (∃ receipt, call.request.known (step backend env first call).store = some receipt ∧
      call.request.known later.store = some receipt) ∧
    (Repeats backend env (serve backend env call first).1 later ⟨readings, call.request⟩ ↔
      call.request.digest env later.store = call.request.digest env first.store) := by
  intro first later
  have one : later.store.OneToOne := run_moved (I := fun world => world.store.OneToOne)
    Store.oneToOne_empty (fun keyed moved one => moved.oneToOne keyed one) _
  have keyed : later.Keyed := keyed_run _
  obtain ⟨admitted, receipt, update, digest, asked, recognised, files, stored, holds⟩ :=
    processed.settles (keyed_run before) leaves
  have turn : step backend env first call = run (step backend env) .initial (before ++ [call]) := by
    rw [run_append]
    rfl
  have whole : later = run (step backend env) .initial ((before ++ [call]) ++ between) := by
    rw [← List.append_cons]
  have known : call.request.known (step backend env first call).store = some receipt :=
    (keyed_step (keyed_run before) call).known_of_files stored files asked
  rw [turn] at stored holds
  have held := holds_run (before ++ [call]) between stored holds
  rw [← whole] at held
  obtain ⟨stored, holds⟩ := held
  have knownLater : call.request.known later.store = some receipt :=
    keyed.known_of_files stored files asked
  refine ⟨⟨receipt, known, knownLater⟩, fun ⟨same, _⟩ => ?_, fun same => ?_⟩
  · -- only the digest of an enrollment depends on the store
    obtain ⟨own, request⟩ := call
    cases request with
    | startEnrollment => rfl
    | issueActionNonce => rfl
    | receiveCallback => rfl
    | receivePrivateMessage => rfl
    | completeEnrollment token identity inbound =>
      by_contra differs
      rw [recognised, ← files.replayFingerprint] at differs
      have conflicts : ∃ error, (serve backend env ⟨readings, .completeEnrollment token identity
          inbound⟩ later).1 = .error error ∧ error.reason = .replayConflict :=
        serve_conflict admitted knownLater fun same => differs (congrArg some same)
      obtain ⟨error, conflict, reason⟩ := conflicts
      rw [conflict] at same
      exact processed.not_conflict same reason
  · have again : serve backend env ⟨readings, call.request⟩ later =
        (call.request.repeated later.store receipt, later) :=
      serve_known admitted knownLater
        (same.trans (recognised.trans (congrArg some files.replayFingerprint.symm)))
    unfold Repeats step
    rw [again]
    exact ⟨holds.repeated keyed one, rfl⟩

/-! A Telegram user that is bound to one user presents the challenge of another, and is freed
between the two deliveries. -/

def enrollment (now : Instant) (token : String) (actor : TelegramActorIdentity)
    (updateId : Nat) : Call :=
  ⟨.all now, .completeEnrollment token ⟨actor, updateId, "m"⟩ ⟨"message", 10⟩⟩

def boundToAnother : List Call := [
  ⟨.all 0, .startEnrollment 1 2 "bot"⟩,
  enrollment 1 "t" ownerIdentity 1,
  ⟨.all 2, .startEnrollment 1 9 "bot"⟩]

def freed : List Call := [
  ⟨.all 4, .startEnrollment 1 2 "bot"⟩,
  enrollment 5 "ttt" ⟨"bot", "another", "elsewhere", .privateChat⟩ 3]

/-- On the database the refused message, delivered again, is accepted. -/
theorem refused_enrollment_is_bound_later :
    let call := enrollment 3 "tt" ownerIdentity 2
    let first := run (step .postgres plainEnvironment) .initial boundToAnother
    let later := run (step .postgres plainEnvironment) .initial (boundToAnother ++ call :: freed)
    Processed .postgres plainEnvironment first call ∧
      ¬Repeats .postgres plainEnvironment (serve .postgres plainEnvironment call first).1 later
        ⟨.all 6, call.request⟩ := by
  intro call first later
  have refused : (serve .postgres plainEnvironment call first).1 =
      .error ⟨"Telegram user is already bound to another AlphaTrade user.",
        .telegramUserAlreadyBound, []⟩ := by decide
  have accepted : (serve .postgres plainEnvironment ⟨.all 6, call.request⟩ later).1.toBool =
      true := by decide
  refine ⟨⟨by decide, rfl, fun error same => ?_⟩, not_repeats refused accepted⟩
  cases refused.symm.trans same
  decide

theorem refused_enrollment_is_repeated :
    let call := enrollment 3 "tt" ownerIdentity 2
    let first := run (step .memory plainEnvironment) .initial boundToAnother
    let later := run (step .memory plainEnvironment) .initial (boundToAnother ++ call :: freed)
    Repeats .memory plainEnvironment (serve .memory plainEnvironment call first).1 later
      ⟨.all 6, call.request⟩ := by
  intro call first later
  have refused : (serve .memory plainEnvironment call first).1 =
      .error ⟨"Telegram user is already bound to another AlphaTrade user.",
        .telegramUserAlreadyBound, []⟩ := by decide
  have processed : Processed .memory plainEnvironment first call := by
    refine ⟨by decide, rfl, fun error same => ?_⟩
    cases refused.symm.trans same
    decide
  have digest : call.request.digest plainEnvironment later.store =
      call.request.digest plainEnvironment first.store := by decide
  exact (redelivery_repeats .memory plainEnvironment boundToAnother freed call (.all 6) processed
    trivial).2.mpr digest

end AlphaTrade.Telegram
