import AlphaTrade.Telegram.Keys

/-!
# Bindings are one to one

A binding that is not revoked is the only one of its user, of its Telegram user and of its chat.
An enrollment finds the old binding of the user by one of the three keys only. That the other two
stay unique is what its checks are for: whoever holds the Telegram user or the chat is the user
whose binding is revoked.
-/
namespace AlphaTrade.Telegram
open Library
open Execution (OrganizationId UserId Instant)

namespace TelegramBinding

def ofUser (binding : TelegramBinding) : OrganizationId × UserId :=
  (binding.organizationId, binding.userId)

def ofTelegramUser (binding : TelegramBinding) : BotId × TelegramUserId :=
  (binding.botId, binding.telegramUserId)

def ofChat (binding : TelegramBinding) : BotId × ChatId := (binding.botId, binding.chatId)

end TelegramBinding

namespace Store

/-- The binding is stored and not revoked. -/
structure Active (store : Store) (bindingId : BindingId) (binding : TelegramBinding) : Prop where
  stored : store.bindings.find bindingId = some binding
  unrevoked : binding.revokedAt = none

def UniqueBy {κ : Type} (store : Store) (key : TelegramBinding → κ) : Prop :=
  ∀ i a j b, store.Active i a → store.Active j b → key a = key b → i = j

def Names (store : Store) (challenge : EnrollmentChallenge) (bindingId : BindingId) : Prop :=
  challenge.bindingId = some bindingId ∧
    ∃ binding, store.bindings.find bindingId = some binding ∧
      binding.organizationId = challenge.organizationId ∧ binding.userId = challenge.userId ∧
      binding.botId = challenge.botId

structure OneToOne (store : Store) : Prop where
  user : store.UniqueBy TelegramBinding.ofUser
  telegramUser : store.UniqueBy TelegramBinding.ofTelegramUser
  chat : store.UniqueBy TelegramBinding.ofChat
  named : ∀ {id challenge bindingId}, store.challenges.find id = some challenge →
    challenge.bindingId = some bindingId → store.Names challenge bindingId
  completed : ∀ {id challenge}, store.challenges.find id = some challenge →
    challenge.state = .completed → ∃ bindingId, store.Names challenge bindingId
  unshared : ∀ {i j a b bindingId}, store.challenges.find i = some a →
    store.challenges.find j = some b → a.bindingId = some bindingId →
    b.bindingId = some bindingId → i = j

variable {store next : Store}

theorem oneToOne_empty : Store.empty.OneToOne where
  user := fun _ _ _ _ active => nomatch active.stored
  telegramUser := fun _ _ _ _ active => nomatch active.stored
  chat := fun _ _ _ _ active => nomatch active.stored
  named := nofun
  completed := nofun
  unshared := nofun

/-- The first active binding a query finds is the one that has the key. -/
theorem UniqueBy.first_eq {κ : Type} {key : TelegramBinding → κ} (unique : store.UniqueBy key)
    {selects : TelegramBinding → Bool} {id : BindingId} {binding : TelegramBinding}
    (active : store.Active id binding)
    (selected : selects binding) (reads : ∀ row, selects row → row.revokedAt = none ∧
      key row = key binding) : store.bindings.first selects = some binding := by
  cases found : store.bindings.first selects with
  | none => exact absurd selected (Table.not_of_first_eq_none found active.stored)
  | some other =>
    obtain ⟨otherId, stored, taken⟩ := Table.find_of_first found
    obtain ⟨unrevoked, same⟩ := reads other taken
    have here := unique _ _ _ _ ⟨stored, unrevoked⟩ active same
    rw [here, active.stored] at stored
    exact stored.symm

/-! ## What an enrollment leaves -/

section enrolling
variable {env : Environment} {now : Instant} {presented : String} {identity : MessageIdentity}
  {challenge : EnrollmentChallenge} {bindingId id : BindingId} {row : TelegramBinding}
  {bound : Nat}

/-- An active binding is the new one, or was there and belongs to another user. -/
theorem active_enrolled (keyed : store.Keyed bound) (unique : store.UniqueBy TelegramBinding.ofUser)
    (active : (store.enrolled now identity challenge bindingId).Active id row) :
    id = bindingId ∧ row = newBinding identity challenge bindingId now ∨
      store.Active id row ∧ row.ofUser ≠ (challenge.organizationId, challenge.userId) := by
  obtain ⟨stored, unrevoked⟩ := active
  obtain ⟨rfl, rfl⟩ | ⟨-, kept⟩ := Table.find_put_cases stored
  · exact .inl ⟨rfl, rfl⟩
  have found (active : store.Active id row)
      (own : row.ofUser = (challenge.organizationId, challenge.userId)) :
      store.getActiveBindingForUser challenge.organizationId challenge.userId = some row := by
    obtain ⟨organizationId, userId⟩ := Prod.mk.inj own
    refine unique.first_eq active ?_ fun other reads => ?_
    · simp [organizationId, userId, unrevoked]
    · have reads := of_decide_eq_true reads
      exact ⟨reads.2.2, own ▸ Prod.ext reads.1 reads.2.1⟩
  change (store.unbind challenge.organizationId challenge.userId now).bindings.find id = _ at kept
  unfold unbind at kept
  split at kept
  · rename_i unbound
    have active : store.Active id row := ⟨kept, unrevoked⟩
    exact .inr ⟨active, fun own => nomatch unbound.symm.trans (found active own)⟩
  · rename_i previous bound
    obtain ⟨-, rfl⟩ | ⟨other, kept⟩ := Table.find_put_cases kept
    · exact nomatch unrevoked
    · have active : store.Active id row := ⟨kept, unrevoked⟩
      refine .inr ⟨active, fun own => other ?_⟩
      cases bound.symm.trans (found active own)
      exact (keyed.binding active.stored).1.symm

/-- The uniqueness of a key survives when nobody else has the key of the new binding. -/
theorem UniqueBy.enrolled {κ : Type} {key : TelegramBinding → κ} (unique : store.UniqueBy key)
    (keyed : store.Keyed bound) (users : store.UniqueBy TelegramBinding.ofUser)
    (free : ∀ {id row}, store.Active id row →
      row.ofUser ≠ (challenge.organizationId, challenge.userId) →
      key row ≠ key (newBinding identity challenge bindingId now)) :
    (store.enrolled now identity challenge bindingId).UniqueBy key := by
  intro i a j b first second same
  obtain ⟨rfl, rfl⟩ | ⟨before, others⟩ := active_enrolled keyed users first
  · obtain ⟨rfl, rfl⟩ | ⟨before, others⟩ := active_enrolled keyed users second
    · rfl
    · exact absurd same.symm (free before others)
  · obtain ⟨rfl, rfl⟩ | ⟨after, -⟩ := active_enrolled keyed users second
    · exact absurd same (free before others)
    · exact unique _ _ _ _ before after same

/-- Whoever holds what the enrollment checks is the user of the challenge. -/
theorem ofUser_of_own {found : Option TelegramBinding} (own : OwnBinding challenge found)
    (holds : found = some row) : row.ofUser = (challenge.organizationId, challenge.userId) :=
  Prod.ext (own row holds).2 (own row holds).1

theorem free_telegramUser (unique : store.UniqueBy TelegramBinding.ofTelegramUser)
    (enrolls : Enrolls env store now presented identity challenge) (active : store.Active id row)
    (others : row.ofUser ≠ (challenge.organizationId, challenge.userId)) :
    row.ofTelegramUser ≠
      (newBinding identity challenge bindingId now).ofTelegramUser := by
  intro same
  obtain ⟨botId, telegramUserId⟩ := Prod.mk.inj same
  refine others (ofUser_of_own enrolls.telegramUser ?_)
  refine unique.first_eq active ?_ fun other reads => ?_
  · simpa [newBinding, active.unrevoked] using And.intro botId telegramUserId
  · have reads := of_decide_eq_true reads
    exact ⟨reads.2.2, same ▸ Prod.ext reads.1 reads.2.1⟩

theorem free_chat (unique : store.UniqueBy TelegramBinding.ofChat)
    (enrolls : Enrolls env store now presented identity challenge) (active : store.Active id row)
    (others : row.ofUser ≠ (challenge.organizationId, challenge.userId)) :
    row.ofChat ≠ (newBinding identity challenge bindingId now).ofChat := by
  intro same
  obtain ⟨botId, chatId⟩ := Prod.mk.inj same
  refine others (ofUser_of_own enrolls.chat ?_)
  refine unique.first_eq active ?_ fun other reads => ?_
  · simpa [newBinding, active.unrevoked] using And.intro botId chatId
  · have reads := of_decide_eq_true reads
    exact ⟨reads.2.2, same ▸ Prod.ext reads.1 reads.2.1⟩

/-- A stored binding stays as it is, or is revoked. -/
theorem binding_enrolled (keyed : store.Keyed bound) (stored : store.bindings.find id = some row)
    (fresh : store.bindings.find bindingId = none) :
    ∃ later, (store.enrolled now identity challenge bindingId).bindings.find id = some later ∧
      (later = row ∨ later = row.revoke now) := by
  have other : id ≠ bindingId := by
    rintro rfl
    exact nomatch stored.symm.trans fresh
  have unbound : ∃ later, (store.unbind challenge.organizationId challenge.userId
      now).bindings.find id = some later ∧ (later = row ∨ later = row.revoke now) := by
    unfold unbind
    split
    · exact ⟨row, stored, .inl rfl⟩
    · rename_i previous active
      by_cases own : id = previous.bindingId
      · obtain ⟨key, found, -⟩ := Table.find_of_first active
        obtain rfl := own.trans (keyed.binding found).1
        cases stored.symm.trans found
        exact ⟨row.revoke now, own ▸ Table.find_put_self .., .inr rfl⟩
      · exact ⟨row, (Table.find_put_of_ne _ own _).trans stored, .inl rfl⟩
  obtain ⟨later, found, same⟩ := unbound
  exact ⟨later, (Table.find_put_of_ne _ other _).trans found, same⟩

theorem Names.enrolled {named : EnrollmentChallenge} (names : store.Names named id)
    (keyed : store.Keyed bound) (fresh : store.bindings.find bindingId = none) :
    (store.enrolled now identity challenge bindingId).Names named id := by
  obtain ⟨same, binding, stored, own⟩ := names
  obtain ⟨later, found, rfl | rfl⟩ := binding_enrolled keyed stored fresh
  · exact ⟨same, _, found, own⟩
  · exact ⟨same, _, found, own⟩

theorem names_complete (enrolls : Enrolls env store now presented identity challenge) :
    (store.enrolled now identity challenge bindingId).Names (challenge.complete bindingId now)
      bindingId :=
  ⟨rfl, newBinding identity challenge bindingId now, Table.find_put_self .., rfl, rfl,
    enrolls.botId.symm⟩

/-- A challenge of the store an enrollment leaves is the completed one, or was there. -/
theorem challenge_enrolled {other : EnrollmentChallenge} {challengeId : ChallengeId}
    (found : (store.enrolled now identity challenge bindingId).challenges.find challengeId =
      some other) :
    challengeId = challenge.challengeId ∧ other = challenge.complete bindingId now ∨
      challengeId ≠ challenge.challengeId ∧ store.challenges.find challengeId = some other := by
  have kept : (store.enrolled now identity challenge bindingId).challenges =
      store.challenges.put challenge.challengeId (challenge.complete bindingId now) := by
    show (store.unbind ..).challenges.put _ _ = _
    rw [challenges_unbind]
    rfl
  rw [kept] at found
  exact Table.find_put_cases found

theorem OneToOne.enrolled (one : store.OneToOne) (keyed : store.Keyed bound)
    (enrolls : Enrolls env store now presented identity challenge)
    (fresh : store.bindings.find bindingId = none) :
    (store.enrolled now identity challenge bindingId).OneToOne where
  user := one.user.enrolled keyed one.user fun _ others => others
  telegramUser := one.telegramUser.enrolled keyed one.user fun active others =>
    free_telegramUser one.telegramUser enrolls active others
  chat := one.chat.enrolled keyed one.user fun active others =>
    free_chat one.chat enrolls active others
  named := by
    intro id other named found same
    obtain ⟨-, rfl⟩ | ⟨-, kept⟩ := challenge_enrolled found
    · cases same
      exact names_complete enrolls
    · exact (one.named kept same).enrolled keyed fresh
  completed := by
    intro id other found completed
    obtain ⟨-, rfl⟩ | ⟨-, kept⟩ := challenge_enrolled found
    · exact ⟨bindingId, names_complete enrolls⟩
    · obtain ⟨named, names⟩ := one.completed kept completed
      exact ⟨named, names.enrolled keyed fresh⟩
  unshared := by
    have unnamed {other : EnrollmentChallenge} {id : ChallengeId}
        (found : store.challenges.find id = some other)
        (same : other.bindingId = some bindingId) : False := by
      obtain ⟨-, binding, stored, -⟩ := one.named found same
      exact nomatch stored.symm.trans fresh
    intro i j a b named first second firstNames secondNames
    obtain ⟨rfl, rfl⟩ | ⟨-, before⟩ := challenge_enrolled first
    · obtain ⟨rfl, -⟩ | ⟨-, after⟩ := challenge_enrolled second
      · rfl
      · cases firstNames
        exact (unnamed after secondNames).elim
    · obtain ⟨-, rfl⟩ | ⟨-, after⟩ := challenge_enrolled second
      · cases secondNames
        exact (unnamed before firstNames).elim
      · exact one.unshared before after firstNames secondNames

end enrolling

/-! ## What leaves every binding -/

/-- The challenge names what it named, and is completed only if it was. -/
structure SameBinding (before after : EnrollmentChallenge) : Prop where
  bindingId : after.bindingId = before.bindingId
  organizationId : after.organizationId = before.organizationId
  userId : after.userId = before.userId
  botId : after.botId = before.botId
  completed : after.state = .completed → before.state = .completed

/-- Only challenges are written, and what they name stays. -/
theorem OneToOne.of_challenges (one : store.OneToOne) (bindings : next.bindings = store.bindings)
    (challenges : ∀ {id row}, next.challenges.find id = some row →
      row.bindingId = none ∧ row.state ≠ .completed ∨
        ∃ before, store.challenges.find id = some before ∧ SameBinding before row) :
    next.OneToOne := by
  have uniqueBy {κ : Type} {key : TelegramBinding → κ} (unique : store.UniqueBy key) :
      next.UniqueBy key := fun _ _ _ _ first second same =>
    unique _ _ _ _ ⟨bindings ▸ first.stored, first.unrevoked⟩
      ⟨bindings ▸ second.stored, second.unrevoked⟩ same
  have names {before row : EnrollmentChallenge} {bindingId : BindingId}
      (same : SameBinding before row) (named : store.Names before bindingId) :
      next.Names row bindingId := by
    obtain ⟨own, binding, stored, organizationId, userId, botId⟩ := named
    exact ⟨same.bindingId.trans own, binding, bindings ▸ stored,
      organizationId.trans same.organizationId.symm, userId.trans same.userId.symm,
      botId.trans same.botId.symm⟩
  have before {id : ChallengeId} {row : EnrollmentChallenge} {bindingId : BindingId}
      (found : next.challenges.find id = some row) (named : row.bindingId = some bindingId) :
      ∃ before, store.challenges.find id = some before ∧ SameBinding before row := by
    obtain ⟨unnamed, -⟩ | kept := challenges found
    · exact nomatch named.symm.trans unnamed
    · exact kept
  exact {
    user := uniqueBy one.user
    telegramUser := uniqueBy one.telegramUser
    chat := uniqueBy one.chat
    named := by
      intro id row bindingId found named
      obtain ⟨earlier, kept, same⟩ := before found named
      exact names same (one.named kept (same.bindingId.symm.trans named))
    completed := by
      intro id row found completed
      obtain ⟨-, open_⟩ | ⟨earlier, kept, same⟩ := challenges found
      · exact absurd completed open_
      · obtain ⟨bindingId, named⟩ := one.completed kept (same.completed completed)
        exact ⟨bindingId, names same named⟩
    unshared := by
      intro i j a b bindingId first second firstNames secondNames
      obtain ⟨_, kept, same⟩ := before first firstNames
      obtain ⟨_, keptToo, sameToo⟩ := before second secondNames
      exact one.unshared kept keptToo (same.bindingId.symm.trans firstNames)
        (sameToo.bindingId.symm.trans secondNames) }

theorem SameBinding.refl (row : EnrollmentChallenge) : SameBinding row row :=
  ⟨rfl, rfl, rfl, rfl, id⟩

theorem OneToOne.congr (one : store.OneToOne) (bindings : next.bindings = store.bindings)
    (challenges : next.challenges = store.challenges) : next.OneToOne :=
  one.of_challenges bindings fun found => .inr ⟨_, challenges ▸ found, .refl _⟩

theorem OneToOne.revoking (one : store.OneToOne) (revoking : Revoking store next) :
    next.OneToOne := by
  refine one.of_challenges (by rw [revoking.rest]) fun {id row} found => .inr ?_
  obtain same | ⟨before, stored, -, revoked⟩ := revoking.challenges id
  · exact ⟨row, same.symm.trans found, .refl row⟩
  · cases revoked.symm.trans found
    exact ⟨before, stored, rfl, rfl, rfl, rfl, nofun⟩

end Store

section moving
variable {backend : Backend} {env : Environment} {call : Call} {world last : World}
  {answer : Except TelegramSecurityError Reply}

/-- What comes of a nonce leaves challenges and bindings. -/
theorem Used.enrollment {store next : Store} {now : Instant} {request : Request}
    {actor : TelegramActorIdentity} {receipt : ActionReceipt} {receiptId : ReceiptId}
    (used : Used env store now request actor receiptId next receipt) :
    next.bindings = store.bindings ∧ next.challenges = store.challenges ∧
      next.challengesByHash = store.challengesByHash := by
  cases used <;> exact ⟨rfl, rfl, rfl⟩

theorem Moved.oneToOne (moved : Moved backend env call world answer last) (keyed : world.Keyed)
    (one : world.store.OneToOne) : last.store.OneToOne := by
  cases moved with
  | turnedAway kept => exact kept ▸ one
  | repeated => exact one
  | @started _ _ _ next _ _ challenge asked revoking challengeId pending unbound stored =>
    rw [stored]
    refine (one.revoking revoking).of_challenges rfl fun found => ?_
    obtain ⟨-, rfl⟩ | ⟨-, kept⟩ := Table.find_put_cases found
    · exact .inl ⟨unbound, by simp [pending]⟩
    · exact .inr ⟨_, kept, .refl _⟩
  | refusedEnrollment asked admitted known expiring recognised files receiptId rejected reason
      refuses stored =>
    rw [stored]
    obtain rfl | ⟨challenge, pending, before, rfl⟩ := expiring
    · exact one.congr rfl rfl
    · refine one.of_challenges rfl fun found => .inr ?_
      obtain ⟨rfl, rfl⟩ | ⟨-, kept⟩ := Table.find_put_cases found
      · exact ⟨challenge, before, rfl, rfl, rfl, rfl, nofun⟩
      · exact ⟨_, kept, .refl _⟩
  | enrolled asked admitted known enrolls recognised files receiptId applied unnamed bindingId
      stored =>
    rw [stored]
    have fresh : world.store.bindings.find world.drawn = none := by
      by_contra present
      obtain ⟨row, found⟩ := Option.ne_none_iff_exists'.mp present
      exact lt_irrefl _ (keyed.binding found).2
    exact (one.enrolled keyed enrolls fresh).congr rfl rfl
  | issued asked bound active organizationId userId stored =>
    rw [stored]
    exact one.congr rfl rfl
  | received asked admitted known checked used recognised files receiptId answers stored =>
    obtain ⟨bindings, challenges, -⟩ := used.enrollment
    rw [stored]
    exact one.congr bindings challenges

/-- A refused call leaves every binding. -/
theorem Moved.bindings_of_error {error : TelegramSecurityError}
    (moved : Moved backend env call world (.error error) last) :
    last.store.bindings = world.store.bindings := by
  generalize refused : (Except.error error : Except TelegramSecurityError Reply) = answer at moved
  cases moved with
  | turnedAway kept => rw [kept]
  | repeated => rfl
  | started => exact nomatch refused
  | refusedEnrollment asked admitted known expiring recognised files receiptId rejected reason
      refuses stored =>
    rw [stored]
    obtain rfl | ⟨challenge, pending, before, rfl⟩ := expiring <;> rfl
  | enrolled => exact nomatch refused
  | issued => exact nomatch refused
  | received asked admitted known checked used recognised files receiptId answers stored =>
    rw [stored]
    exact used.enrollment.1

end moving

/-- In every state a run reaches, at most one unrevoked binding exists for a user, for a Telegram
user and for a chat; every COMPLETED challenge names one binding of its own organization, user
and bot, which no other challenge names; and a refused enrollment changes no binding. -/
theorem bindings_stay_one_to_one (backend : Backend) (env : Environment) (calls : List Call) :
    let world := run (step backend env) .initial calls
    (∀ i a j b, world.store.Active i a → world.store.Active j b →
      (a.organizationId = b.organizationId ∧ a.userId = b.userId) ∨
      (a.botId = b.botId ∧ a.telegramUserId = b.telegramUserId) ∨
      (a.botId = b.botId ∧ a.chatId = b.chatId) → i = j) ∧
    (∀ id challenge, world.store.challenges.find id = some challenge →
      challenge.state = .completed → ∃! bindingId, world.store.Names challenge bindingId) ∧
    (∀ i j a b bindingId, world.store.challenges.find i = some a →
      world.store.challenges.find j = some b → a.bindingId = some bindingId →
      b.bindingId = some bindingId → i = j) ∧
    ∀ readings token identity inbound error,
      let call : Call := ⟨readings, .completeEnrollment token identity inbound⟩
      (serve backend env call world).1 = .error error →
      (step backend env world call).store.bindings = world.store.bindings := by
  intro world
  have keyed : world.Keyed := keyed_run calls
  have one : world.store.OneToOne := run_moved (I := fun world => world.store.OneToOne)
    Store.oneToOne_empty (fun keyed moved one => moved.oneToOne keyed one) calls
  refine ⟨?_, ?_, fun i j a b bindingId => one.unshared, ?_⟩
  · rintro i a j b first second (⟨organizationId, userId⟩ | ⟨botId, telegramUserId⟩ |
      ⟨botId, chatId⟩)
    · exact one.user i a j b first second (Prod.ext organizationId userId)
    · exact one.telegramUser i a j b first second (Prod.ext botId telegramUserId)
    · exact one.chat i a j b first second (Prod.ext botId chatId)
  · intro id challenge found completed
    obtain ⟨bindingId, names⟩ := one.completed found completed
    exact ⟨bindingId, names, fun other same =>
      Option.some.inj (same.1.symm.trans names.1)⟩
  · intro readings token identity inbound error call refused
    have moved : Moved backend env call world _ _ := serve_moved keyed
    rw [refused] at moved
    exact moved.bindings_of_error

end AlphaTrade.Telegram
