import AlphaTrade.Telegram.Nonces

/-!
# A nonce authorizes once, for what it was issued

An APPLIED receipt names a nonce that says so: it is consumed by that receipt. A nonce is consumed
once, so it is named by one receipt and gives one intent. What the intent says is what the
nonce was issued with, since digests do not collide, and the nonce itself is traced back to the
call that issued it.
-/
namespace AlphaTrade.Telegram
open Library
open Execution (OrganizationId UserId Instant)

/-- Tokens are not drawn twice, and digests do not collide. -/
structure CollisionFree (env : Environment) : Prop where
  tokens : Function.Injective env.tokenFactory
  secrets : Function.Injective env.hashSecret
  payloads : Function.Injective env.payloadBindingHash

def Matches (nonce : ActionNonce) (binding : TelegramBinding) : Prop :=
  binding.botId = nonce.botId ∧ binding.telegramUserId = nonce.telegramUserId ∧
    binding.chatId = nonce.chatId

/-- What the nonces, the receipts and the intents say of each other. -/
structure Ledger (env : Environment) (world : World) : Prop where
  token : ∀ {hash nonce}, world.store.nonces.find hash = some nonce →
    ∃ k < world.tokens, hash = env.hashSecret (env.tokenFactory k)
  unspent : ∀ {hash nonce}, world.store.nonces.find hash = some nonce →
    nonce.state = .issued → nonce.consumedByReceiptId = none
  binding : ∀ {hash nonce}, world.store.nonces.find hash = some nonce →
    ∃ binding, world.store.bindings.find nonce.bindingId = some binding ∧ Matches nonce binding
  applied : ∀ {id receipt hash}, world.store.receipts.find id = some receipt →
    receipt.state = .applied → receipt.nonceHash = some hash →
    ∃ nonce, world.store.nonces.find hash = some nonce ∧ nonce.consumedByReceiptId = some id
  intent : ∀ {id intent}, world.store.intents.find id = some intent →
    intent.receiptId < world.drawn ∧
      ∃ hash nonce, world.store.nonces.find hash = some nonce ∧
        nonce.consumedByReceiptId = some intent.receiptId
  distinct : ∀ {i j a b}, world.store.intents.find i = some a →
    world.store.intents.find j = some b → a.receiptId = b.receiptId → i = j

theorem identity_of_terms {a b : ActionNonce} (same : a.terms = b.terms) :
    a.bindingId = b.bindingId ∧ a.botId = b.botId ∧ a.telegramUserId = b.telegramUserId ∧
      a.chatId = b.chatId :=
  ⟨(congrArg ActionNonce.bindingId same :), (congrArg ActionNonce.botId same :),
    (congrArg ActionNonce.telegramUserId same :), (congrArg ActionNonce.chatId same :)⟩

section steps
variable {backend : Backend} {env : Environment} {call : Call} {world last : World}
  {answer : Except TelegramSecurityError Reply} {nonces : Table Digest ActionNonce}
  {hash : Digest}

/-- A nonce that is there after a call is issued by it, or was there with the same terms. -/
theorem NonceMove.origin (move : NonceMove env call world answer nonces) {nonce : ActionNonce}
    (found : nonces.find hash = some nonce) :
    (∃ before, world.store.nonces.find hash = some before ∧ nonce.terms = before.terms ∧
      (nonce.state = .issued → nonce = before)) ∨
    ∃ bindingId payload binding nonceId, call.request = .issueActionNonce bindingId payload ∧
      world.store.Active bindingId binding ∧ payload.organizationId = binding.organizationId ∧
      payload.userId = binding.userId ∧
      nonce = newNonce env binding payload (env.tokenFactory world.tokens) nonceId
        call.readings.now ∧
      answer = .ok (.issued ⟨nonce, env.tokenFactory world.tokens⟩) ∧ hash = nonce.nonceHash := by
  cases move with
  | kept => exact .inl ⟨nonce, found, rfl, fun _ => rfl⟩
  | issued asked active organizationId userId new answers =>
    obtain ⟨rfl, rfl⟩ | ⟨-, kept⟩ := Table.find_put_cases found
    · exact .inr ⟨_, _, _, _, asked, active, organizationId, userId, new, answers, rfl⟩
    · exact .inl ⟨nonce, kept, rfl, fun _ => rfl⟩
  | expired asked admitted known checked presents stored =>
    obtain ⟨rfl, rfl⟩ | ⟨-, kept⟩ := Table.find_put_cases found
    · exact .inl ⟨_, stored, rfl, nofun⟩
    · exact .inl ⟨nonce, kept, rfl, fun _ => rfl⟩
  | consumed asked presents stored =>
    obtain ⟨rfl, rfl⟩ | ⟨-, kept⟩ := Table.find_put_cases found
    · exact .inl ⟨_, stored, rfl, nofun⟩
    · exact .inl ⟨nonce, kept, rfl, fun _ => rfl⟩

/-- A nonce stays, and stays with the receipt that consumed it. -/
theorem NonceMove.persists (move : NonceMove env call world answer nonces)
    (free : CollisionFree env) (ledger : Ledger env world) {before : ActionNonce}
    (found : world.store.nonces.find hash = some before) :
    ∃ later, nonces.find hash = some later ∧
      ∀ receiptId, before.consumedByReceiptId = some receiptId →
        later.consumedByReceiptId = some receiptId := by
  cases move with
  | kept => exact ⟨before, found, fun _ => id⟩
  | issued asked active organizationId userId new answers =>
    refine ⟨before, (Table.find_put_of_ne _ ?_ _).trans found, fun _ => id⟩
    rintro rfl
    obtain ⟨k, drawn, same⟩ := ledger.token found
    rw [new] at same
    exact drawn.ne' (free.tokens (free.secrets same))
  | @expired _ nonce _ asked admitted known checked presents stored =>
    by_cases same : hash = nonce.nonceHash
    · subst same
      cases stored.symm.trans found
      exact ⟨_, Table.find_put_self .., fun _ => id⟩
    · exact ⟨before, (Table.find_put_of_ne _ same _).trans found, fun _ => id⟩
  | @consumed _ nonce _ asked presents stored authorized =>
    by_cases same : hash = nonce.nonceHash
    · subst same
      cases stored.symm.trans found
      refine ⟨_, Table.find_put_self .., fun receiptId spent => ?_⟩
      exact nomatch (ledger.unspent stored authorized.issued).symm.trans spent
    · exact ⟨before, (Table.find_put_of_ne _ same _).trans found, fun _ => id⟩

/-- A stored binding stays as it is, or is revoked. -/
theorem Moved.binding_stays (moved : Moved backend env call world answer last)
    (keyed : world.Keyed) {id : BindingId} {row : TelegramBinding}
    (found : world.store.bindings.find id = some row) :
    ∃ later, last.store.bindings.find id = some later ∧
      (later = row ∨ later = row.revoke call.readings.now) := by
  have kept (same : last.store.bindings = world.store.bindings) :
      ∃ later, last.store.bindings.find id = some later ∧
        (later = row ∨ later = row.revoke call.readings.now) :=
    ⟨row, same ▸ found, .inl rfl⟩
  cases moved with
  | turnedAway same => exact kept (congrArg Store.bindings same)
  | repeated => exact kept rfl
  | started asked revoking challengeId pending unbound stored =>
    exact kept (by rw [stored, revoking.rest]; rfl)
  | refusedEnrollment asked admitted known expiring recognised files receiptId rejected reason
      refuses stored =>
    obtain rfl | ⟨challenge, pending, before, rfl⟩ := expiring <;> exact kept (by rw [stored]; rfl)
  | enrolled asked admitted known enrolls recognised files receiptId applied unnamed bindingId
      stored =>
    have fresh : world.store.bindings.find world.drawn = none := by
      by_contra present
      obtain ⟨other, stored⟩ := Option.ne_none_iff_exists'.mp present
      exact lt_irrefl _ (keyed.binding stored).2
    rw [stored]
    exact Store.binding_enrolled keyed found fresh
  | issued asked bound active organizationId userId stored => exact kept (by rw [stored]; rfl)
  | received asked admitted known checked used recognised files receiptId answers stored =>
    refine kept ?_
    rw [stored]
    exact used.enrollment.1

/-- An APPLIED receipt that names a nonce was there, or has just consumed it. -/
theorem Moved.receipt_origin (moved : Moved backend env call world answer last)
    {id : ReceiptId} {receipt : ActionReceipt}
    (found : last.store.receipts.find id = some receipt) (applied : receipt.state = .applied)
    (names : receipt.nonceHash = some hash) :
    world.store.receipts.find id = some receipt ∨
      ∃ nonce, last.store.nonces.find hash = some nonce ∧ nonce.consumedByReceiptId = some id := by
  cases moved with
  | turnedAway same => exact .inl (same ▸ found)
  | repeated => exact .inl found
  | started asked revoking challengeId pending unbound stored =>
    rw [stored, revoking.rest] at found
    exact .inl found
  | refusedEnrollment asked admitted known expiring recognised files receiptId rejected reason
      refuses stored =>
    rw [stored] at found
    obtain ⟨-, rfl⟩ | ⟨-, kept⟩ := Table.find_put_cases found
    · exact nomatch rejected.symm.trans applied
    · obtain rfl | ⟨challenge, pending, before, rfl⟩ := expiring <;> exact .inl kept
  | enrolled asked admitted known enrolls recognised files receiptId _ unnamed bindingId stored =>
    rw [stored] at found
    obtain ⟨-, rfl⟩ | ⟨-, kept⟩ := Table.find_put_cases found
    · exact nomatch unnamed.symm.trans names
    · exact .inl ((receipts_enrolled enrolls world.drawn).1 ▸ kept)
  | issued asked bound active organizationId userId stored =>
    rw [stored] at found
    exact .inl found
  | received asked admitted known checked used recognised files receiptId answers stored =>
    rw [stored] at found ⊢
    obtain ⟨rfl, rfl⟩ | ⟨-, kept⟩ := Table.find_put_cases found
    · rw [receiptId]
      cases used with
      | untouched unnamed => exact nomatch (unnamed applied).symm.trans names
      | expired presents late rejected => exact nomatch rejected.symm.trans applied
      | consumed presents authorized named =>
        cases (named applied).symm.trans names
        exact .inr ⟨_, Table.find_put_self .., rfl⟩
      | intended presents authorized approves revision named =>
        cases (named applied).symm.trans names
        exact .inr ⟨_, Table.find_put_self .., rfl⟩
    · exact .inl (used.receipts.1 ▸ kept)

/-- What the call that creates an intent has done. -/
structure Intended (env : Environment) (call : Call) (world last : World) (id : IntentId)
    (intent : AuthorizationIntent) (update : Update) (nonce : ActionNonce)
    (payload : ActionPayload) : Prop where
  asked : call.request.update = some update
  presents : Presents env world.store call.request nonce payload
  stored : world.store.nonces.find nonce.nonceHash = some nonce
  authorized : Authorized env world.store update.actor nonce payload call.readings.now
  approves : payload.action = .approve
  intent : ∃ revisionId, payload.revisionId = some revisionId ∧
    intent = newIntent nonce payload revisionId world.drawn id call.readings.now
  consumed : last.store.nonces.find nonce.nonceHash =
    some (nonce.consume call.readings.now world.drawn)
  new : id = world.drawn + 1
  drawn : world.drawn < last.drawn

theorem Moved.intent_origin (moved : Moved backend env call world answer last)
    (keyed : world.Keyed) {id : IntentId} {intent : AuthorizationIntent}
    (found : last.store.intents.find id = some intent) :
    world.store.intents.find id = some intent ∨
      ∃ update nonce payload, Intended env call world last id intent update nonce payload := by
  cases moved with
  | turnedAway same => exact .inl (same ▸ found)
  | repeated => exact .inl found
  | started asked revoking challengeId pending unbound stored =>
    rw [stored, revoking.rest] at found
    exact .inl found
  | refusedEnrollment asked admitted known expiring recognised files receiptId rejected reason
      refuses stored =>
    rw [stored] at found
    obtain rfl | ⟨challenge, pending, before, rfl⟩ := expiring <;> exact .inl found
  | @enrolled _ identity _ challenge _ _ _ asked admitted known enrolls recognised files receiptId
      applied unnamed bindingId stored =>
    have same : last.store.intents = world.store.intents := by
      rw [stored]
      unfold Store.enrolled Store.unbind
      split <;> rfl
    exact .inl (same ▸ found)
  | issued asked bound active organizationId userId stored =>
    rw [stored] at found
    exact .inl found
  | received asked admitted known checked used recognised files receiptId answers stored drawn =>
    rw [stored] at found
    cases used with
    | untouched => exact .inl found
    | expired => exact .inl found
    | consumed => exact .inl found
    | @intended _ nonce payload revisionId intentId _ _ presents authorized approves revision
        names new =>
      obtain ⟨rfl, rfl⟩ | ⟨-, kept⟩ := Table.find_put_cases found
      · refine .inr ⟨_, nonce, payload, asked, presents, presents.stored keyed, authorized,
          approves, ⟨revisionId, revision, rfl⟩, ?_, new, drawn⟩
        rw [stored]
        exact Table.find_put_self ..
      · exact .inl kept

theorem Moved.drawn_le (moved : Moved backend env call world answer last) :
    world.drawn ≤ last.drawn := by
  cases moved with
  | turnedAway kept drawn => exact drawn
  | repeated => exact le_rfl
  | started asked revoking challengeId pending unbound stored drawn => exact drawn ▸ Nat.le_succ _
  | refusedEnrollment asked admitted known expiring recognised files receiptId rejected reason
      refuses stored drawn => exact drawn ▸ Nat.le_succ _
  | enrolled asked admitted known enrolls recognised files receiptId applied unnamed bindingId
      stored drawn => exact drawn ▸ Nat.le_add_right _ 2
  | issued asked bound active organizationId userId stored drawn => exact drawn ▸ Nat.le_succ _
  | received asked admitted known checked used recognised files receiptId answers stored drawn =>
    exact drawn.le

theorem Moved.tokens_le (moved : Moved backend env call world answer last) :
    world.tokens ≤ last.tokens := by
  cases moved with
  | turnedAway kept drawn tokens => exact tokens
  | repeated => exact le_rfl
  | started asked revoking challengeId pending unbound stored drawn tokens =>
    exact tokens ▸ Nat.le_succ _
  | refusedEnrollment asked admitted known expiring recognised files receiptId rejected reason
      refuses stored drawn tokens => exact tokens.ge
  | enrolled asked admitted known enrolls recognised files receiptId applied unnamed bindingId
      stored drawn tokens => exact tokens.ge
  | issued asked bound active organizationId userId stored drawn tokens =>
    exact tokens ▸ Nat.le_succ _
  | received asked admitted known checked used recognised files receiptId answers stored drawn
      tokens => exact tokens.ge

/-- The token of an issued nonce has been counted. -/
theorem Moved.tokens_lt (moved : Moved backend env call world answer last)
    {bindingId : BindingId} {payload : ActionPayload}
    (asked : call.request = .issueActionNonce bindingId payload) {reply : Reply}
    (answers : answer = .ok reply) : world.tokens < last.tokens := by
  cases moved with
  | turnedAway => exact nomatch answers
  | repeated _ known =>
    rw [asked] at known
    exact nomatch known
  | started other => exact nomatch asked.symm.trans other
  | refusedEnrollment => exact nomatch answers
  | enrolled other => exact nomatch asked.symm.trans other
  | issued _ bound active organizationId userId stored drawn tokens =>
    exact tokens ▸ Nat.lt_succ_self _
  | received other =>
    rw [asked] at other
    exact nomatch other

theorem Moved.ledger (moved : Moved backend env call world answer last)
    (free : CollisionFree env) (keyed : world.Keyed) (ledger : Ledger env world) :
    Ledger env last := by
  have move := moved.nonces keyed
  have persists {hash : Digest} {receiptId : ReceiptId}
      (spent : ∃ nonce, world.store.nonces.find hash = some nonce ∧
        nonce.consumedByReceiptId = some receiptId) :
      ∃ nonce, last.store.nonces.find hash = some nonce ∧
        nonce.consumedByReceiptId = some receiptId := by
    obtain ⟨nonce, found, consumed⟩ := spent
    obtain ⟨later, kept, stays⟩ := move.persists free ledger found
    exact ⟨later, kept, stays receiptId consumed⟩
  exact {
    token := by
      intro hash nonce found
      obtain ⟨before, kept, -⟩ | ⟨_, _, _, _, asked, -, -, -, rfl, answers, rfl⟩ :=
        move.origin found
      · obtain ⟨k, drawn, same⟩ := ledger.token kept
        exact ⟨k, drawn.trans_le moved.tokens_le, same⟩
      · exact ⟨world.tokens, moved.tokens_lt asked answers, rfl⟩
    unspent := by
      intro hash nonce found issued
      obtain ⟨before, kept, -, same⟩ | ⟨_, _, _, _, -, -, -, -, rfl, -⟩ := move.origin found
      · cases same issued
        exact ledger.unspent kept issued
      · rfl
    binding := by
      intro hash nonce found
      have bound : ∃ binding, world.store.bindings.find nonce.bindingId = some binding ∧
          Matches nonce binding := by
        obtain ⟨before, kept, terms, -⟩ | ⟨bindingId, _, binding, _, -, active, -, -, rfl, -⟩ :=
          move.origin found
        · obtain ⟨binding, stored, botId, telegramUserId, chatId⟩ := ledger.binding kept
          obtain ⟨sameBinding, sameBot, sameUser, sameChat⟩ := identity_of_terms terms
          exact ⟨binding, sameBinding ▸ stored, botId.trans sameBot.symm,
            telegramUserId.trans sameUser.symm, chatId.trans sameChat.symm⟩
        · obtain rfl := (keyed.binding active.stored).1
          exact ⟨binding, active.stored, rfl, rfl, rfl⟩
      obtain ⟨binding, stored, same⟩ := bound
      obtain ⟨later, kept, rfl | rfl⟩ := moved.binding_stays keyed stored
      · exact ⟨_, kept, same⟩
      · exact ⟨_, kept, same⟩
    applied := by
      intro id receipt hash found applied names
      obtain kept | new := moved.receipt_origin found applied names
      · exact persists (ledger.applied kept applied names)
      · exact new
    intent := by
      intro id intent found
      obtain kept | ⟨_, nonce, _, intended⟩ := moved.intent_origin keyed found
      · obtain ⟨below, hash, spent⟩ := ledger.intent kept
        exact ⟨below.trans_le moved.drawn_le, hash, persists spent⟩
      · obtain ⟨revisionId, -, rfl⟩ := intended.intent
        exact ⟨intended.drawn, _, _, intended.consumed, rfl⟩
    distinct := by
      intro i j a b first second same
      obtain before | ⟨_, _, _, intended⟩ := moved.intent_origin keyed first
      · obtain after | ⟨_, _, _, intended⟩ := moved.intent_origin keyed second
        · exact ledger.distinct before after same
        · obtain ⟨revisionId, -, rfl⟩ := intended.intent
          exact absurd same (ledger.intent before).1.ne
      · obtain after | ⟨_, _, _, other⟩ := moved.intent_origin keyed second
        · obtain ⟨revisionId, -, rfl⟩ := intended.intent
          exact absurd same.symm (ledger.intent after).1.ne
        · exact intended.new.trans other.new.symm }

end steps

/-! ## Whole runs -/

section runs
variable {backend : Backend} {env : Environment}

theorem ledger_initial (env : Environment) : Ledger env .initial where
  token := nofun
  unspent := nofun
  binding := nofun
  applied := nofun
  intent := nofun
  distinct := nofun

theorem ledger_run (free : CollisionFree env) (calls : List Call) :
    Ledger env (run (step backend env) .initial calls) :=
  run_moved (I := Ledger env) (ledger_initial env)
    (fun keyed moved ledger => moved.ledger free keyed ledger) calls

variable {hash : Digest}

/-- A spent nonce is spent by the same receipt at the end of a run. -/
theorem spent_stays (free : CollisionFree env) (earlier later : List Call) {receiptId : ReceiptId}
    (spent : ∃ nonce, (run (step backend env) .initial earlier).store.nonces.find hash =
      some nonce ∧ nonce.consumedByReceiptId = some receiptId) :
    ∃ nonce, (run (step backend env) .initial (earlier ++ later)).store.nonces.find hash =
      some nonce ∧ nonce.consumedByReceiptId = some receiptId := by
  rw [run_append]
  refine (run_invariant_of_step (step backend env) (I := fun world => world.Keyed ∧
    Ledger env world ∧ ∃ nonce, world.store.nonces.find hash = some nonce ∧
      nonce.consumedByReceiptId = some receiptId) ?_ later
    ⟨keyed_run earlier, ledger_run free earlier, spent⟩).2.2
  rintro world call ⟨keyed, ledger, nonce, found, consumed⟩
  have moved : Moved backend env call world _ _ := serve_moved keyed
  obtain ⟨kept, stored, stays⟩ := (moved.nonces keyed).persists free ledger found
  exact ⟨keyed_step keyed call, moved.ledger free keyed ledger, kept, stored,
    stays receiptId consumed⟩

def Issues (backend : Backend) (env : Environment) (world : World) (call : Call)
    (payload : ActionPayload) (nonce : ActionNonce) : Prop :=
  ∃ bindingId token, call.request = .issueActionNonce bindingId payload ∧
    (serve backend env call world).1 = .ok (.issued ⟨nonce, token⟩)

/-- Every nonce was issued, with its terms and for the payload of its digest. -/
theorem issued_by (calls : List Call) {nonce : ActionNonce}
    (found : (run (step backend env) .initial calls).store.nonces.find hash = some nonce) :
    ∃ before issue between payload, calls = before ++ issue :: between ∧
      Issues backend env (run (step backend env) .initial before) issue payload nonce.terms ∧
      nonce.payloadHash = env.payloadBindingHash payload := by
  obtain ⟨before, issue, between, rfl, fails, row, stored, terms⟩ := exists_turn
    (step backend env) (P := fun world =>
      ∃ row, world.store.nonces.find hash = some row ∧ row.terms = nonce.terms)
    (s := .initial) (fun ⟨_, stored, _⟩ => nomatch stored) ⟨nonce, found, rfl⟩
  have keyed : (run (step backend env) .initial before).Keyed := keyed_run before
  obtain ⟨earlier, kept, same, -⟩ |
      ⟨bindingId, payload, binding, nonceId, asked, -, -, -, rfl, answers, -⟩ :=
    ((serve_moved keyed).nonces keyed).origin stored
  · exact absurd ⟨earlier, kept, same.symm.trans terms⟩ fails
  · have issues : Issues backend env (run (step backend env) .initial before) issue payload
        nonce.terms := by
      rw [← terms]
      exact ⟨bindingId, _, asked, answers⟩
    refine ⟨before, issue, between, payload, rfl, issues, ?_⟩
    exact (congrArg ActionNonce.payloadHash terms :).symm

/-- What makes an intent: an earlier call issued the nonce for exactly what the intent says, and
a later call, by the Telegram user, bot and chat of the nonce's binding, created the intent before
the nonce expired and while the binding was not revoked. The nonce is spent by the receipt of
that call. -/
def Authorizes (backend : Backend) (env : Environment) (calls : List Call) (nonce : ActionNonce)
    (id : IntentId) (intent : AuthorizationIntent) : Prop :=
  ∃ before issue between receive after,
    calls = (before ++ issue :: between) ++ receive :: after ∧
    (∃ payload, Issues backend env (run (step backend env) .initial before) issue payload nonce ∧
      payload.action = .approve ∧ payload.organizationId = intent.organizationId ∧
      payload.userId = intent.userId ∧ payload.accountId = intent.accountId ∧
      payload.resourceId = intent.resourceId ∧ payload.revisionId = some intent.revisionId ∧
      payload.contentHash = intent.contentHash) ∧
    (∃ update binding,
      let here := run (step backend env) .initial (before ++ issue :: between)
      here.store.intents.find id ≠ some intent ∧
      (step backend env here receive).store.intents.find id = some intent ∧
      receive.request.update = some update ∧ here.store.Active nonce.bindingId binding ∧
      update.actor.telegramUserId = binding.telegramUserId ∧
      update.actor.chatId = binding.chatId ∧ update.actor.botId = binding.botId ∧
      receive.readings.now < nonce.expiresAt) ∧
    ∃ spent, (run (step backend env) .initial calls).store.nonces.find nonce.nonceHash =
      some spent ∧ spent.consumedByReceiptId = some intent.receiptId

theorem authorized_by (free : CollisionFree env) (calls : List Call) {id : IntentId}
    {intent : AuthorizationIntent}
    (found : (run (step backend env) .initial calls).store.intents.find id = some intent) :
    ∃ nonce, Authorizes backend env calls nonce id intent := by
  obtain ⟨earlier, receive, after, rfl, absent, created⟩ := exists_turn (step backend env)
    (P := fun world => world.store.intents.find id = some intent) (s := .initial)
    nofun found
  have keyed : (run (step backend env) .initial earlier).Keyed := keyed_run earlier
  obtain kept | ⟨update, used, presented, intended⟩ :=
    (serve_moved keyed).intent_origin keyed created
  · exact absurd kept absent
  obtain ⟨before, issue, between, payload, rfl, issues, digest⟩ := issued_by earlier
    intended.stored
  have same : presented = payload :=
    free.payloads (intended.authorized.payloadHash.trans digest)
  obtain ⟨revisionId, revision, rfl⟩ := intended.intent
  obtain ⟨binding, bound, active⟩ := intended.authorized.binding
  obtain ⟨owner, stored, botId, telegramUserId, chatId⟩ :=
    (ledger_run free (before ++ issue :: between)).binding intended.stored
  cases bound.symm.trans stored
  refine ⟨used.terms, before, issue, between, receive, after, rfl, ⟨payload, issues, ?_⟩,
    ⟨update, binding, absent, created, intended.asked, ⟨bound, active⟩,
      intended.authorized.telegramUserId.trans telegramUserId.symm,
      intended.authorized.chatId.trans chatId.symm, intended.authorized.botId.trans botId.symm,
      intended.authorized.inTime⟩, ?_⟩
  · subst same
    exact ⟨intended.approves, rfl, rfl, rfl, rfl, revision, rfl⟩
  · let here := run (step backend env) .initial (before ++ issue :: between)
    have turn : (run (step backend env) .initial
        (before ++ issue :: between ++ [receive])).store.nonces.find used.nonceHash =
          some (used.consume receive.readings.now here.drawn) := by
      rw [run_append]
      exact intended.consumed
    rw [List.append_cons (before ++ issue :: between) receive after]
    exact spent_stays free _ after ⟨_, turn, rfl⟩

/-- A nonce authorizes once, for exactly what it was issued: no two APPLIED receipts name one
nonce, no two intents come of one nonce, and every intent comes of a nonce that was issued for what
the intent says and presented by the user, chat and bot of its binding, in time and while the
binding stood. -/
theorem nonce_authorizes_once (backend : Backend) (env : Environment) (free : CollisionFree env)
    (calls : List Call) :
    let store := (run (step backend env) .initial calls).store
    (∀ hash i j a b, store.receipts.find i = some a → store.receipts.find j = some b →
      a.state = .applied → b.state = .applied → a.nonceHash = some hash →
      b.nonceHash = some hash → i = j) ∧
    (∀ hash nonce i j a b, store.nonces.find hash = some nonce →
      store.intents.find i = some a → store.intents.find j = some b →
      nonce.consumedByReceiptId = some a.receiptId →
      nonce.consumedByReceiptId = some b.receiptId → i = j) ∧
    ∀ id intent, store.intents.find id = some intent →
      ∃ nonce, Authorizes backend env calls nonce id intent := by
  intro store
  have ledger : Ledger env (run (step backend env) .initial calls) := ledger_run free calls
  refine ⟨?_, ?_, fun id intent found => authorized_by free calls found⟩
  · intro hash i j a b first second firstApplied secondApplied firstNames secondNames
    obtain ⟨nonce, found, byFirst⟩ := ledger.applied first firstApplied firstNames
    obtain ⟨other, same, bySecond⟩ := ledger.applied second secondApplied secondNames
    cases found.symm.trans same
    exact Option.some.inj (byFirst.symm.trans bySecond)
  · intro hash nonce i j a b found first second byFirst bySecond
    exact ledger.distinct first second (Option.some.inj (byFirst.symm.trans bySecond))

end runs

theorem writtenPayload_injective : Function.Injective writtenPayload := by
  have texts : PrefixFree (quoted ∘ String.toList) :=
    prefixFree_quoted.comp fun _ _ => String.toList_inj.mp
  have actions : Function.Injective TelegramRemoteAction.value := by
    intro a b same
    cases a <;> cases b <;> first | rfl | exact absurd same (by decide)
  intro a b same
  have same := String.ofList_inj.mp same
  obtain ⟨value, same⟩ := texts _ _ _ _ same
  obtain ⟨organizationId, same⟩ := prefixFree_unary _ _ _ _ same
  obtain ⟨userId, same⟩ := prefixFree_unary _ _ _ _ same
  obtain ⟨accountId, same⟩ := prefixFree_unary _ _ _ _ same
  obtain ⟨resourceType, same⟩ := texts _ _ _ _ same
  obtain ⟨resourceId, same⟩ := prefixFree_unary _ _ _ _ same
  obtain ⟨revisionId, same⟩ := prefixFree_unary.optional _ _ _ _ same
  obtain ⟨contentHash, -⟩ := texts _ _ [] [] (by simpa using same)
  cases a
  cases b
  simp only [ActionPayload.mk.injEq]
  exact ⟨actions value, organizationId, userId, accountId, resourceType, resourceId, revisionId,
    contentHash⟩

theorem collisionFree_plain : CollisionFree plainEnvironment where
  tokens := fun a b same => by
    have lengths := congrArg List.length (String.ofList_inj.mp same)
    simpa using lengths
  secrets := Function.injective_id
  payloads := writtenPayload_injective

theorem approval_authorizes_once :
    let calls := enrolledAndIssued ++ [callback 3 2 "first"]
    let nonce := newNonce plainEnvironment ownerBinding approval "tt" 3 2
    ∃ issued, Authorizes .memory plainEnvironment calls issued 5
      (newIntent nonce approval 5 4 5 3) :=
  (nonce_authorizes_once .memory plainEnvironment collisionFree_plain
    (enrolledAndIssued ++ [callback 3 2 "first"])).2.2 5 _ (by decide)

end AlphaTrade.Telegram
