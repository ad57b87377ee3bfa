import AlphaTrade.Library.Run
import AlphaTrade.Telegram.Serving

/-!
# Rows under their keys

Identifiers are drawn once, so a new row stands under a new key and every row keeps its own. One
lemma for each write of the store, and with them the invariant of every run.
-/
namespace AlphaTrade.Telegram
open Library
open Execution (OrganizationId UserId Instant)

namespace Store
variable {store : Store} {bound : Nat}

theorem keyed_empty : Store.empty.Keyed 0 where
  challenge := nofun
  binding := nofun
  nonce := nofun
  receipt := nofun
  intent := nofun
  filed := nofun
  filedCallback := nofun
  update := nofun
  callback := nofun

namespace Keyed

theorem mono (keyed : store.Keyed bound) {later : Nat} (le : bound ≤ later) :
    store.Keyed later :=
  { keyed with
    challenge := fun found => ⟨(keyed.challenge found).1, (keyed.challenge found).2.trans_le le⟩
    binding := fun found => ⟨(keyed.binding found).1, (keyed.binding found).2.trans_le le⟩
    receipt := fun found => ⟨(keyed.receipt found).1, (keyed.receipt found).2.trans_le le⟩
    intent := fun found => ⟨(keyed.intent found).1, (keyed.intent found).2.trans_le le⟩ }

theorem saveChallenge (keyed : store.Keyed bound) (row : EnrollmentChallenge)
    (below : row.challengeId < bound) : (store.saveChallenge row).Keyed bound :=
  { keyed with
    challenge := by
      intro id other found
      obtain ⟨rfl, rfl⟩ | ⟨-, kept⟩ := Table.find_put_cases found
      · exact ⟨rfl, below⟩
      · exact keyed.challenge kept }

theorem saveBinding (keyed : store.Keyed bound) (row : TelegramBinding)
    (below : row.bindingId < bound) : (store.saveBinding row).Keyed bound :=
  { keyed with
    binding := by
      intro id other found
      obtain ⟨rfl, rfl⟩ | ⟨-, kept⟩ := Table.find_put_cases found
      · exact ⟨rfl, below⟩
      · exact keyed.binding kept }

theorem saveNonce (keyed : store.Keyed bound) (row : ActionNonce) :
    (store.saveNonce row).Keyed bound :=
  { keyed with
    nonce := by
      intro hash other found
      obtain ⟨rfl, rfl⟩ | ⟨-, kept⟩ := Table.find_put_cases found
      · rfl
      · exact keyed.nonce kept }

theorem saveAuthorizationIntent (keyed : store.Keyed bound) (row : AuthorizationIntent)
    (below : row.intentId < bound) : (store.saveAuthorizationIntent row).Keyed bound :=
  { keyed with
    intent := by
      intro id other found
      obtain ⟨rfl, rfl⟩ | ⟨-, kept⟩ := Table.find_put_cases found
      · exact ⟨rfl, below⟩
      · exact keyed.intent kept }

theorem saveOutbox (keyed : store.Keyed bound) (outbox : Table OutboxId OutboxRecord)
    (outboxByKey : Table (OrganizationId × String) OutboxId) :
    { store with outbox, outboxByKey }.Keyed bound := { keyed with }

theorem revoking (keyed : store.Keyed bound) {next : Store} (revoking : Revoking store next) :
    next.Keyed bound := by
  rw [revoking.rest]
  exact { keyed with
    challenge := by
      intro id row found
      obtain same | ⟨before, pending, -, revoked⟩ := revoking.challenges id
      · exact keyed.challenge (same.symm.trans found)
      · cases revoked.symm.trans found
        have own := keyed.challenge pending
        exact own }

theorem unbind (keyed : store.Keyed bound) (organizationId : OrganizationId) (userId : UserId)
    (now : Instant) : (store.unbind organizationId userId now).Keyed bound := by
  unfold Store.unbind
  split
  · exact keyed
  · rename_i previous active
    obtain ⟨id, found, -⟩ := Table.find_of_first active
    obtain ⟨rfl, below⟩ := keyed.binding found
    exact keyed.saveBinding _ below

variable {botId : BotId}

/-- An update that is not known is not in the index. -/
theorem absent_update (keyed : store.Keyed bound) {updateId : Nat}
    (unknown : store.getUpdateReceipt botId updateId = none) :
    store.receiptsByUpdate.find (botId, updateId) = none := by
  by_contra present
  obtain ⟨id, indexed⟩ := Option.ne_none_iff_exists'.mp present
  obtain ⟨row, found⟩ := keyed.update indexed
  simp [getUpdateReceipt, indexed, found] at unknown

theorem absent_callback (keyed : store.Keyed bound) {callbackQueryId : String}
    (unknown : store.getCallbackReceipt botId callbackQueryId = none) :
    store.receiptsByCallback.find (botId, callbackQueryId) = none := by
  by_contra present
  obtain ⟨id, indexed⟩ := Option.ne_none_iff_exists'.mp present
  obtain ⟨row, found⟩ := keyed.callback indexed
  simp [getCallbackReceipt, indexed, found] at unknown

theorem find_callback_saveReceipt (row : ActionReceipt) (botId : BotId)
    (callbackQueryId : String) :
    (store.saveReceipt row).receiptsByCallback.find (botId, callbackQueryId) =
      if row.botId = botId ∧ row.callbackQueryId = some callbackQueryId then some row.receiptId
      else store.receiptsByCallback.find (botId, callbackQueryId) := by
  unfold Store.saveReceipt
  cases named : row.callbackQueryId with
  | none => simp
  | some own =>
    by_cases same : row.botId = botId ∧ own = callbackQueryId
    · obtain ⟨rfl, rfl⟩ := same
      simp
    · have other : (botId, callbackQueryId) ≠ (row.botId, own) := by
        rintro ⟨⟩
        exact same ⟨rfl, rfl⟩
      simp [Table.find_put_of_ne _ other, same]

theorem saveReceipt (keyed : store.Keyed bound) {row : ActionReceipt}
    (fresh : store.receipts.find row.receiptId = none) (below : row.receiptId < bound)
    (update : store.getUpdateReceipt row.botId row.updateId = none)
    (callback : ∀ callbackQueryId, row.callbackQueryId = some callbackQueryId →
      store.getCallbackReceipt row.botId callbackQueryId = none) :
    (store.saveReceipt row).Keyed bound := by
  have absent := keyed.absent_update update
  exact { keyed with
    receipt := by
      intro id other found
      obtain ⟨rfl, rfl⟩ | ⟨-, kept⟩ := Table.find_put_cases found
      · exact ⟨rfl, below⟩
      · exact keyed.receipt kept
    filed := by
      intro id other found
      obtain ⟨rfl, rfl⟩ | ⟨-, kept⟩ := Table.find_put_cases found
      · exact Table.find_put_self ..
      · exact Table.find_put_kept absent (keyed.filed kept) _
    filedCallback := by
      intro id other callbackQueryId found named
      obtain ⟨rfl, rfl⟩ | ⟨-, kept⟩ := Table.find_put_cases found
      · rw [find_callback_saveReceipt, if_pos ⟨rfl, named⟩]
      · have indexed := keyed.filedCallback kept named
        rw [find_callback_saveReceipt, if_neg]
        · exact indexed
        · rintro ⟨botId, own⟩
          rw [← botId, keyed.absent_callback (callback _ own)] at indexed
          exact nomatch indexed
    update := by
      intro key id found
      obtain ⟨-, rfl⟩ | ⟨-, kept⟩ := Table.find_put_cases found
      · exact ⟨row, Table.find_put_self ..⟩
      · obtain ⟨other, stored⟩ := keyed.update kept
        exact ⟨other, Table.find_put_kept fresh stored _⟩
    callback := by
      rintro ⟨botId, callbackQueryId⟩ id found
      rw [find_callback_saveReceipt] at found
      split at found
      · cases found
        exact ⟨row, Table.find_put_self ..⟩
      · obtain ⟨other, stored⟩ := keyed.callback found
        exact ⟨other, Table.find_put_kept fresh stored _⟩ }

end Keyed

end Store

/-! ## Every call keeps them -/

variable {request : Request} {update : Update}

/-- An update that is not known has neither of its keys in the store. -/
theorem unknown_of {store : Store} (asked : request.update = some update)
    (known : request.known store = none) :
    store.getUpdateReceipt update.actor.botId update.updateId = none ∧
      ∀ callbackQueryId, update.callbackQueryId = some callbackQueryId →
        store.getCallbackReceipt update.actor.botId callbackQueryId = none := by
  cases request with
  | startEnrollment => exact nomatch asked
  | issueActionNonce => exact nomatch asked
  | completeEnrollment =>
    cases asked
    exact ⟨known, nofun⟩
  | receivePrivateMessage =>
    cases asked
    exact ⟨known, nofun⟩
  | receiveCallback =>
    cases asked
    obtain ⟨callback, byUpdate⟩ := Option.or_eq_none_iff.mp known
    exact ⟨byUpdate, fun _ same => Option.some.inj same ▸ callback⟩

/-- A receipt that is filed under an update that is not known. -/
theorem Store.Keyed.saveNewReceipt {store : Store} {bound : Nat} (keyed : store.Keyed bound)
    {receipt : ActionReceipt} {digest : Digest} {base : Store} (files : receipt.Files update digest)
    (asked : request.update = some update) (known : request.known base = none)
    (same : store.receipts = base.receipts ∧ store.receiptsByUpdate = base.receiptsByUpdate ∧
      store.receiptsByCallback = base.receiptsByCallback)
    (fresh : store.receipts.find receipt.receiptId = none) (below : receipt.receiptId < bound) :
    (store.saveReceipt receipt).Keyed bound := by
  obtain ⟨receipts, byUpdate, byCallback⟩ := same
  obtain ⟨update, callback⟩ := unknown_of asked known
  refine keyed.saveReceipt fresh below ?_ fun callbackQueryId named => ?_
  · rw [files.botId, files.updateId]
    unfold getUpdateReceipt at update ⊢
    rw [receipts, byUpdate]
    exact update
  · rw [files.botId]
    unfold getCallbackReceipt at callback ⊢
    rw [receipts, byCallback]
    exact callback callbackQueryId (files.callbackQueryId.symm.trans named)

section moving
variable {backend : Backend} {env : Environment} {call : Call} {world last : World}
  {answer : Except TelegramSecurityError Reply}

variable {store : Store} {bound : Nat} {now : Instant} {presented : String}
  {identity : MessageIdentity} {challenge : EnrollmentChallenge} {request : Request}
  {actor : TelegramActorIdentity} {receipt : ActionReceipt} {receiptId : ReceiptId}

theorem Store.Keyed.enrolled (keyed : store.Keyed bound) {bindingId : BindingId}
    (enrolls : Enrolls env store now presented identity challenge) (below : bindingId < bound) :
    (store.enrolled now identity challenge bindingId).Keyed bound := by
  obtain ⟨challengeId, -, stored⟩ := Option.bind_eq_some_iff.mp enrolls.found
  obtain ⟨rfl, drawn⟩ := keyed.challenge stored
  exact ((keyed.unbind challenge.organizationId challenge.userId now).saveChallenge
    (challenge.complete bindingId now) drawn).saveBinding
      (newBinding identity challenge bindingId now) below

theorem receipts_enrolled (_ : Enrolls env store now presented identity challenge)
    (bindingId : BindingId) :
    let next := store.enrolled now identity challenge bindingId
    next.receipts = store.receipts ∧ next.receiptsByUpdate = store.receiptsByUpdate ∧
      next.receiptsByCallback = store.receiptsByCallback := by
  unfold Store.enrolled Store.unbind
  split <;> exact ⟨rfl, rfl, rfl⟩

/-- What comes of a nonce leaves every row under its key. -/
theorem Used.keyed {next : Store} (used : Used env store now request actor receiptId next receipt)
    (keyed : store.Keyed bound) (intents : next.intents = store.intents ∨ receiptId + 1 < bound) :
    next.Keyed bound := by
  cases used with
  | untouched => exact keyed
  | expired => exact keyed.saveNonce _
  | consumed => exact keyed.saveNonce _
  | @intended _ nonce payload revisionId intentId outbox outboxByKey presents authorized approves
      revision names new =>
    subst new
    have below : receiptId + 1 < bound := by
      obtain same | below := intents
      · let intent := newIntent nonce payload revisionId receiptId (receiptId + 1) now
        have stored := Table.find_put_self store.intents intent.intentId intent
        rw [show store.intents.put intent.intentId intent = store.intents from same] at stored
        exact (keyed.intent stored).2
      · exact below
    exact ((keyed.saveNonce _).saveAuthorizationIntent _ below).saveOutbox outbox outboxByKey

/-- What comes of a nonce leaves the receipts. -/
theorem Used.receipts {next : Store}
    (used : Used env store now request actor receiptId next receipt) :
    next.receipts = store.receipts ∧ next.receiptsByUpdate = store.receiptsByUpdate ∧
      next.receiptsByCallback = store.receiptsByCallback := by
  cases used <;> exact ⟨rfl, rfl, rfl⟩

theorem Moved.keyed (moved : Moved backend env call world answer last) (keyed : world.Keyed) :
    last.Keyed := by
  unfold World.Keyed at keyed ⊢
  have absent {receiptId : ReceiptId} (fresh : world.drawn ≤ receiptId) :
      world.store.receipts.find receiptId = none := by
    by_contra present
    obtain ⟨row, found⟩ := Option.ne_none_iff_exists'.mp present
    exact absurd (keyed.receipt found).2 fresh.not_gt
  cases moved with
  | turnedAway kept drawn =>
    rw [kept]
    exact keyed.mono drawn
  | repeated => exact keyed
  | started asked revoking challengeId pending unbound stored drawn =>
    rw [stored, drawn]
    have below := Nat.lt_succ_of_le challengeId.le
    exact ((keyed.revoking revoking).mono (Nat.le_succ _)).saveChallenge _ below
  | refusedEnrollment asked admitted known expiring recognised files receiptId rejected reason
      refuses stored drawn =>
    rw [stored, drawn]
    have update := congrArg Request.update asked
    obtain rfl | ⟨challenge, pending, found, rfl⟩ := expiring
    · exact (keyed.mono (Nat.le_succ _)).saveNewReceipt files update known ⟨rfl, rfl, rfl⟩
        (absent receiptId.ge) (Nat.lt_succ_of_le receiptId.le)
    · have below := (keyed.challenge found).2
      have kept := (keyed.mono (Nat.le_succ _)).saveChallenge
        { challenge with state := .expired } (Nat.lt_succ_of_lt below)
      exact kept.saveNewReceipt files update known ⟨rfl, rfl, rfl⟩ (absent receiptId.ge)
        (Nat.lt_succ_of_le receiptId.le)
  | enrolled asked admitted known enrolls recognised files receiptId applied unnamed bindingId
      stored drawn =>
    rw [stored, drawn]
    have update := congrArg Request.update asked
    have kept := (keyed.mono (Nat.le_add_right _ 2)).enrolled enrolls
      (Nat.lt_add_of_pos_right two_pos)
    have same := receipts_enrolled enrolls world.drawn
    refine kept.saveNewReceipt files update known same ?_ (Nat.lt_succ_of_le receiptId.le)
    rw [same.1]
    exact absent (receiptId ▸ Nat.le_succ world.drawn)
  | issued asked bound active organizationId userId stored drawn =>
    rw [stored, drawn]
    exact (keyed.mono (Nat.le_succ _)).saveNonce _
  | received asked admitted known checked used recognised files receiptId answers stored drawn
      tokens intents =>
    rw [stored]
    have kept := used.keyed (keyed.mono drawn.le) (intents.imp_right id)
    have same := used.receipts
    refine kept.saveNewReceipt files asked known same ?_ (receiptId ▸ drawn)
    rw [same.1]
    exact absent receiptId.ge

end moving

section runs
variable {backend : Backend} {env : Environment}

theorem keyed_initial : World.initial.Keyed := Store.keyed_empty

theorem keyed_step {world : World} (keyed : world.Keyed) (call : Call) :
    (step backend env world call).Keyed := (serve_moved keyed).keyed keyed

theorem keyed_run (calls : List Call) : (run (step backend env) .initial calls).Keyed :=
  run_invariant_of_step (I := World.Keyed) _ (fun _ call keyed => keyed_step keyed call) calls
    keyed_initial

/-- What holds at the start and is kept by every move holds in every state reached. -/
theorem run_moved {I : World → Prop} (starts : I .initial)
    (keeps : ∀ {call world answer last}, world.Keyed → Moved backend env call world answer last →
      I world → I last) (calls : List Call) : I (run (step backend env) .initial calls) :=
  (run_invariant_of_step (step backend env) (I := fun world => world.Keyed ∧ I world)
    (fun _ call holds => ⟨keyed_step holds.1 call, keeps holds.1 (serve_moved holds.1) holds.2⟩)
    calls ⟨keyed_initial, starts⟩).2

end runs

end AlphaTrade.Telegram
