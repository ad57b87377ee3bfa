import Mathlib.Data.Nat.Pairing
import AlphaTrade.Execution.Fencing
import AlphaTrade.Library.Run
import AlphaTrade.SignalFusion.Eligibility
import AlphaTrade.SignalFusion.History

/-!
# Eligibility and the kill switch

The store binds a safety epoch to the facts that it was first seen with. An activation opens
a new epoch, a deactivation changes the facts of the epoch it finds. So the two agree on
what an epoch stands for as long as no epoch is bound before the deactivation that ends it.
-/
namespace AlphaTrade.SignalFusion
open Library
open Execution (OrganizationId AccountId AccountKey Instant Ctx Db KillRequest SafetyEpoch)

/-! ## What a snapshot reads -/

def currentEpoch (db : Db) (key : AccountKey) : Nat := (db.epochs key).elim 1 (·.epoch)

def currentBlocking (ctx : Ctx) (db : Db) (key : AccountKey) : Bool :=
  match db.epochs key with
  | some row => row.blocking
  | none => db.organizationKillActive ctx key.1

/-- The facts of an account at this moment. A snapshot has one flag for the organization's
switch and the blocking flag. -/
def safetySnapshot (ctx : Ctx) (db : Db) (key : AccountKey) : SafetyStateSnapshot where
  organizationId := key.1
  accountId := key.2
  safetyEpoch := currentEpoch db key
  killSwitchActive := (db.kill key.1).active || currentBlocking ctx db key
  globalKillSwitchActive := ctx.globalKillSwitchActive
  killSwitchUnavailable := false

variable (ctx : Ctx) (db : Db)

variable {db' : Db} {accounts : List AccountId} {organization : OrganizationId}
  {request : KillRequest}

theorem safetySnapshot_of_eq {db : Db} {key : AccountKey} (kill : db'.kill key.1 = db.kill key.1)
    (epochs : db'.epochs key = db.epochs key) :
    safetySnapshot ctx db' key = safetySnapshot ctx db key := by
  unfold safetySnapshot currentEpoch currentBlocking Db.organizationKillActive
  rw [kill, epochs]

/-- Locking an epoch changes no facts: a new row has those that its absence stood for. -/
theorem safetySnapshot_lockEpoch (locked key : AccountKey) :
    safetySnapshot ctx (db.lockEpoch ctx locked).1 key = safetySnapshot ctx db key := by
  unfold Db.lockEpoch
  split
  · rfl
  · rename_i absent
    by_cases same : key = locked
    · subst same
      simp [safetySnapshot, currentEpoch, currentBlocking, absent]
    · exact safetySnapshot_of_eq ctx rfl (Function.update_of_ne same ..)

theorem safetySnapshot_ensureEpochs (organization : OrganizationId) (accounts : List AccountId)
    (key : AccountKey) :
    safetySnapshot ctx (db.ensureEpochsForAccounts ctx organization accounts) key =
      safetySnapshot ctx db key := by
  unfold Db.ensureEpochsForAccounts
  induction accounts generalizing db with
  | nil => rfl
  | cons account accounts ih => exact (ih _).trans (safetySnapshot_lockEpoch ctx db _ key)

theorem ensureEpochs_of_mem (organization : OrganizationId) {account : AccountId}
    (listed : account ∈ accounts) :
    ∃ row, (db.ensureEpochsForAccounts ctx organization accounts).epochs
      (organization, account) = some row := by
  induction accounts generalizing db with
  | nil => cases listed
  | cons first accounts ih =>
    rcases List.mem_cons.mp listed with rfl | later
    · have opened := db.lockEpoch_epochs_self ctx (organization, account)
      exact ⟨_, (Execution.World.ensureEpochsForAccounts_epochsKept ctx organization accounts
        (db.lockEpoch ctx (organization, account)).1).epochs _ _ opened⟩
    · exact ih _ later

/-! ## The switch -/

variable {ctx db}

/-- An activation leaves everything, or opens a new epoch for each listed account of its
organization. Other organizations keep their facts. -/
theorem activateKill_snapshots (h : db.activateKill ctx organization request accounts = .ok db') :
    db' = db ∨
      (∀ account ∈ accounts, currentEpoch db' (organization, account) =
        currentEpoch db (organization, account) + 1) ∧
      ∀ key : AccountKey, key.1 ≠ organization →
        safetySnapshot ctx db' key = safetySnapshot ctx db key := by
  unfold Db.activateKill at h
  dsimp only at h
  split at h
  · cases h
  split at h
  · exact .inl (Except.ok.inj h).symm
  obtain rfl := Except.ok.inj h
  let switched := db.setKill organization ⟨true, (db.kill organization).version + 1⟩
  have ensured := safetySnapshot_ensureEpochs ctx switched organization accounts
  refine .inr ⟨fun account listed => ?_, fun key other => ?_⟩
  · obtain ⟨row, found⟩ := ensureEpochs_of_mem ctx switched organization listed
    have same : currentEpoch (switched.ensureEpochsForAccounts ctx organization accounts)
        (organization, account) = currentEpoch db (organization, account) :=
      congrArg SafetyStateSnapshot.safetyEpoch (ensured (organization, account))
    have before : row.epoch = currentEpoch db (organization, account) := by
      rw [← same, currentEpoch, found, Option.elim_some]
    simp only [Db.advanceForKillActivation, Db.mapEpochs, currentEpoch, if_true]
    rw [show Db.epochs _ _ = some row from found]
    exact congrArg (· + 1) before
  · have kept : safetySnapshot ctx switched key = safetySnapshot ctx db key :=
      safetySnapshot_of_eq ctx (Function.update_of_ne other ..) rfl
    rw [← kept, ← ensured key]
    exact safetySnapshot_of_eq ctx rfl (if_neg other)

variable (ctx) in
/-- A deactivation moves no epoch, and no facts of other organizations. Where the switch is
off already it changes nothing. -/
theorem deactivateKill_snapshots (h : db.deactivateKill organization request = .ok db')
    (key : AccountKey) :
    currentEpoch db' key = currentEpoch db key ∧
      (key.1 = organization ∧ (db.kill organization).active = true ∨
        safetySnapshot ctx db' key = safetySnapshot ctx db key) := by
  unfold Db.deactivateKill at h
  dsimp only at h
  split at h
  · cases h
  split at h
  · rename_i active
    obtain rfl := Except.ok.inj h
    by_cases same : key.1 = organization
    · refine ⟨?_, .inl ⟨same, active⟩⟩
      simp only [currentEpoch, Db.clearBlockingForKillDeactivation, Db.mapEpochs, same, if_true,
        Db.setKill]
      cases db.epochs key <;> rfl
    · have kept : safetySnapshot ctx ((db.setKill organization
          ⟨false, (db.kill organization).version + 1⟩).clearBlockingForKillDeactivation
            organization) key = safetySnapshot ctx db key :=
        safetySnapshot_of_eq ctx (Function.update_of_ne same ..) (if_neg same)
      exact ⟨congrArg SafetyStateSnapshot.safetyEpoch kept, .inr kept⟩
  · obtain rfl := Except.ok.inj h
    exact ⟨rfl, .inr rfl⟩

/-! ## What an evaluation stores -/

def safetyEpochConflict : EligibilityFailure :=
  .conflicting "Safety epoch is already bound to different kill-switch facts."

namespace ActionEligibilityStore

variable {digests : EligibilityDigests} {limits : RiskLimits} {store : ActionEligibilityStore}
  {command : ActionEligibilityCommand} {now : Instant}

/-- An evaluation answers what is stored, stores nothing, or stores and binds what it has
produced. -/
theorem evaluate_cases {answer : Except EligibilityFailure ActionEligibilityEvaluation}
    {store' : ActionEligibilityStore}
    (h : store.evaluate digests limits command now = (answer, store')) :
    (∃ existing, store.byUniqueness.find (digests.uniquenessHash command) = some existing ∧
        answer = .ok existing ∧ store' = store) ∨
      (∃ failure, answer = .error failure ∧ store'.byUniqueness = store.byUniqueness ∧
        store'.bindings = store.bindings) ∨
      ∃ produced, answer = .ok produced ∧
        produced.uniquenessHash = digests.uniquenessHash command ∧
        store'.byUniqueness =
          store.byUniqueness.put (digests.uniquenessHash command) produced ∧
        store'.bindings = (store.bind (digests.identityBindings command)).bindings := by
  unfold evaluate getOrInsert at h
  dsimp only at h
  split at h
  · obtain ⟨rfl, rfl⟩ := Prod.mk.inj h
    exact .inr (.inl ⟨_, rfl, rfl, rfl⟩)
  split at h
  · rename_i existing found
    obtain ⟨rfl, rfl⟩ := Prod.mk.inj h
    exact .inl ⟨existing, found, rfl, rfl⟩
  split at h
  · obtain ⟨rfl, rfl⟩ := Prod.mk.inj h
    exact .inr (.inl ⟨_, rfl, rfl, rfl⟩)
  split at h
  · obtain ⟨rfl, rfl⟩ := Prod.mk.inj h
    exact .inr (.inl ⟨_, rfl, rfl, rfl⟩)
  split at h
  · obtain ⟨rfl, rfl⟩ := Prod.mk.inj h
    exact .inr (.inl ⟨_, rfl, rfl, rfl⟩)
  · rename_i produced _ drifted
    obtain ⟨rfl, rfl⟩ := Prod.mk.inj h
    exact .inr (.inr ⟨produced, rfl, not_not.mp drifted, rfl, rfl⟩)

/-- A bound safety epoch is the one of the command, or was bound before. -/
theorem bind_safetyEpoch {organization : OrganizationId} {account : AccountId} {epoch : Nat}
    {fingerprint : Sha256Hex}
    (h : (store.bind (digests.identityBindings command)).bindings.find
      (.safetyEpoch organization account epoch) = some fingerprint) :
    (organization = command.safety.organizationId ∧ account = command.safety.accountId ∧
        epoch = command.safety.safetyEpoch ∧
        fingerprint = digests.safetyFingerprint command.safety) ∨
      store.bindings.find (.safetyEpoch organization account epoch) = some fingerprint := by
  simp only [bind, EligibilityDigests.identityBindings, List.foldl_cons, List.foldl_nil, ne_eq,
    reduceCtorEq, not_false_eq_true, Table.find_put_of_ne] at h
  obtain ⟨same, rfl⟩ | ⟨-, h⟩ := Table.find_put_cases h
  · obtain ⟨rfl, rfl, rfl⟩ := IdentityKey.safetyEpoch.inj same
    exact .inl ⟨rfl, rfl, rfl, rfl⟩
  · exact .inr (by simpa using h)

variable {failure : EligibilityFailure}

/-- The check of the lineage raises only its own errors. -/
theorem lineage_of_validateLineage (h : digests.validateLineage command = .error failure) :
    ∃ message, failure = .lineage message := by
  simp only [EligibilityDigests.validateLineage, bind_eq_error, ensure_eq_error] at h
  iterate 20
    obtain ⟨-, rfl⟩ | ⟨-, -, h⟩ := h
    · exact ⟨_, rfl⟩
  obtain ⟨-, rfl⟩ := h
  exact ⟨_, rfl⟩

/-- The decision raises only over the basis. -/
theorem buildEvaluation_error {digest : Sha256Hex} {revision : Nat}
    (h : digests.buildEvaluation limits command now digest revision = .error failure) :
    failure = .conflicting "basis_bps conflicts with evidence and execution prices." := by
  obtain h | ⟨_, -, h⟩ := bind_eq_error.mp h
  · unfold dominantReason at h
    iterate 7
      split at h
      · cases h
    obtain h | ⟨reason, -, h⟩ := bind_eq_error.mp h
    · have raised := map_eq_error.mp h
      unfold resolvedBasisBps at raised
      grind
    · cases reason <;> cases h
  · cases h

/-- The conflict over a safety epoch is raised only where the epoch of the command is bound
to other facts. -/
theorem bound_of_safetyEpochConflict
    (h : (store.evaluate digests limits command now).1 = .error safetyEpochConflict) :
    ∃ bound, store.bindings.find (.safetyEpoch command.safety.organizationId
        command.safety.accountId command.safety.safetyEpoch) = some bound ∧
      bound ≠ digests.safetyFingerprint command.safety := by
  unfold evaluate getOrInsert at h
  dsimp only at h
  split at h
  · rename_i refused
    obtain ⟨message, rfl⟩ := lineage_of_validateLineage refused
    cases h
  split at h
  · cases h
  split at h
  · rename_i refused
    obtain rfl := Except.error.inj h
    unfold rejectEligibilityIdentityConflicts at refused
    split at refused
    · rename_i binding first
      have conflicts : store.Conflicts binding := by simpa using List.find?_some first
      have listed := List.mem_of_find?_eq_some first
      have message := EligibilityFailure.conflicting.inj (Except.error.inj refused)
      simp only [EligibilityDigests.identityBindings, List.mem_cons, List.not_mem_nil,
        or_false] at listed
      obtain rfl | rfl | rfl | rfl | rfl | rfl := listed
      case inr.inr.inl => exact conflicts
      all_goals simp [IdentityKey.conflictMessage] at message
    · cases refused
  split at h
  · rename_i refused
    obtain rfl := Except.error.inj h
    exact absurd (buildEvaluation_error refused) (by decide)
  split at h <;> cases h

end ActionEligibilityStore

/-! ## Runs -/

/-- The execution database with its accounts, and the eligibility store. -/
structure Desk where
  db : Db
  accounts : List AccountKey
  store : ActionEligibilityStore

inductive DeskAction where
  | activateKill (organization : OrganizationId) (request : KillRequest)
  | deactivateKill (organization : OrganizationId) (request : KillRequest)
  | lockEpoch (key : AccountKey)
  | evaluate (command : ActionEligibilityCommand) (now : Instant)

namespace Desk

/-- `_ensure_epochs_for_accounts` lists the accounts of the organization. -/
def accountsOf (desk : Desk) (organization : OrganizationId) : List AccountId :=
  (desk.accounts.filter (·.1 = organization)).map (·.2)

def commit (desk : Desk) : Except Execution.Error Db → Desk
  | .ok db => { desk with db }
  | .error _ => desk

variable (digests : EligibilityDigests) (limits : RiskLimits) (ctx : Ctx)

def step (desk : Desk) : DeskAction → Desk
  | .activateKill organization request =>
    desk.commit (desk.db.activateKill ctx organization request (desk.accountsOf organization))
  | .deactivateKill organization request =>
    desk.commit (desk.db.deactivateKill organization request)
  | .lockEpoch key => { desk with db := (desk.db.lockEpoch ctx key).1 }
  | .evaluate command now =>
    { desk with store := (desk.store.evaluate digests limits command now).2 }

def Reads (desk : Desk) (command : ActionEligibilityCommand) : Prop :=
  (command.safety.organizationId, command.safety.accountId) ∈ desk.accounts ∧
    command.safety = safetySnapshot ctx desk.db
      (command.safety.organizationId, command.safety.accountId)

def Current (desk : Desk) : DeskAction → Prop
  | .evaluate command _ => desk.Reads ctx command
  | _ => True

def Unbound (desk : Desk) (key : AccountKey) : Prop :=
  desk.store.bindings.find (.safetyEpoch key.1 key.2 (currentEpoch desk.db key)) = none

/-- No account of the organization has been evaluated in its epoch when the active switch is
turned off. -/
def Unseen (desk : Desk) : DeskAction → Prop
  | .deactivateKill organization request =>
    (desk.db.kill organization).active = true →
      request.check (desk.db.kill organization) = .ok () →
        ∀ key ∈ desk.accounts, key.1 = organization → desk.Unbound key
  | _ => True

instance (desk : Desk) (command : ActionEligibilityCommand) : Decidable (desk.Reads ctx command) :=
  inferInstanceAs (Decidable (_ ∧ _))

instance (desk : Desk) (action : DeskAction) : Decidable (desk.Current ctx action) := by
  cases action <;> unfold Current <;> infer_instance

instance (desk : Desk) (action : DeskAction) : Decidable (desk.Unseen action) := by
  cases action <;> unfold Unseen Unbound <;> infer_instance

/-- Answers are stored under their digest. A bound epoch is one that the account has reached,
and the epoch that it is in is bound to the facts of this moment. -/
structure Sound (desk : Desk) : Prop where
  keyed : ∀ digest evaluation, desk.store.byUniqueness.find digest = some evaluation →
    evaluation.uniquenessHash = digest
  reached : ∀ organization account epoch fingerprint,
    desk.store.bindings.find (.safetyEpoch organization account epoch) = some fingerprint →
      (organization, account) ∈ desk.accounts ∧
        epoch ≤ currentEpoch desk.db (organization, account)
  facts : ∀ key fingerprint, desk.store.bindings.find
      (.safetyEpoch key.1 key.2 (currentEpoch desk.db key)) = some fingerprint →
    fingerprint = digests.safetyFingerprint (safetySnapshot ctx desk.db key)

variable {digests limits ctx} {desk : Desk}

/-- A change of the database that keeps the facts of every bound epoch an account is in. -/
theorem Sound.of_db (sound : desk.Sound digests ctx) {db : Db}
    (rises : ∀ key ∈ desk.accounts, currentEpoch desk.db key ≤ currentEpoch db key)
    (stays : ∀ key ∈ desk.accounts, currentEpoch db key = currentEpoch desk.db key →
      desk.Unbound key ∨ safetySnapshot ctx db key = safetySnapshot ctx desk.db key) :
    ({ desk with db } : Desk).Sound digests ctx where
  keyed := sound.keyed
  reached organization account epoch fingerprint found := by
    obtain ⟨listed, before⟩ := sound.reached organization account epoch fingerprint found
    exact ⟨listed, before.trans (rises _ listed)⟩
  facts key fingerprint found := by
    obtain ⟨listed, before⟩ := sound.reached _ _ _ _ found
    have same : currentEpoch db key = currentEpoch desk.db key :=
      Nat.le_antisymm before (rises key listed)
    rw [same] at found
    obtain unbound | facts := stays key listed same
    · exact absurd (found.symm.trans unbound) (by simp)
    · exact facts ▸ sound.facts key fingerprint found

theorem Sound.commit_activate (sound : desk.Sound digests ctx) (organization : OrganizationId)
    (request : KillRequest) : (desk.step digests limits ctx
      (.activateKill organization request)).Sound digests ctx := by
  dsimp only [Desk.step]
  cases committed : desk.db.activateKill ctx organization request (desk.accountsOf organization)
  with
  | error _ => exact sound
  | ok db =>
    obtain rfl | ⟨advanced, others⟩ := activateKill_snapshots committed
    · exact sound
    have own : ∀ account, (organization, account) ∈ desk.accounts →
        currentEpoch db (organization, account) =
          currentEpoch desk.db (organization, account) + 1 := fun account listed =>
      advanced account (List.mem_map.mpr ⟨(organization, account),
        List.mem_filter.mpr ⟨listed, decide_eq_true rfl⟩, rfl⟩)
    have elsewhere : ∀ key : AccountKey, key.1 ≠ organization →
        currentEpoch db key = currentEpoch desk.db key := fun key other =>
      congrArg SafetyStateSnapshot.safetyEpoch (others key other)
    refine sound.of_db (fun key listed => ?_) (fun key listed same => ?_)
    · by_cases mine : key.1 = organization
      · obtain ⟨owner, account⟩ := key
        obtain rfl : owner = organization := mine
        exact (own account listed).symm ▸ Nat.le_succ _
      · exact (elsewhere key mine).ge
    · by_cases mine : key.1 = organization
      · obtain ⟨owner, account⟩ := key
        obtain rfl : owner = organization := mine
        have := own account listed
        omega
      · exact .inr (others key mine)

theorem Sound.commit_deactivate (sound : desk.Sound digests ctx)
    {organization : OrganizationId} {request : KillRequest}
    (unseen : desk.Unseen (.deactivateKill organization request)) : (desk.step digests limits ctx
      (.deactivateKill organization request)).Sound digests ctx := by
  dsimp only [Desk.step]
  cases committed : desk.db.deactivateKill organization request with
  | error _ => exact sound
  | ok db =>
    have snapshots := deactivateKill_snapshots ctx committed
    refine sound.of_db (fun key _ => (snapshots key).1.ge) (fun key listed _ => ?_)
    obtain ⟨rfl, active⟩ | same := (snapshots key).2
    · have accepted : request.check (desk.db.kill key.1) = .ok () := by
        unfold Db.deactivateKill at committed
        dsimp only at committed
        split at committed
        · cases committed
        · assumption
      exact .inl (unseen active accepted key listed rfl)
    · exact .inr same

variable {command : ActionEligibilityCommand} {now : Instant}

theorem Sound.evaluated (sound : desk.Sound digests ctx) (reads : desk.Reads ctx command) :
    (desk.step digests limits ctx (.evaluate command now)).Sound digests ctx := by
  dsimp only [Desk.step]
  cases evaluated : desk.store.evaluate digests limits command now with
  | mk answer store =>
  obtain ⟨_, -, -, rfl⟩ | ⟨_, -, answers, bindings⟩ | ⟨produced, -, own, answers, bindings⟩ :=
    ActionEligibilityStore.evaluate_cases evaluated
  · exact sound
  · constructor
    · exact answers ▸ sound.keyed
    · exact bindings ▸ sound.reached
    · exact bindings ▸ sound.facts
  · obtain ⟨listed, current⟩ := reads
    constructor
    · intro digest evaluation found
      simp only [answers] at found
      obtain ⟨rfl, rfl⟩ | ⟨-, before⟩ := Table.find_put_cases found
      · exact own
      · exact sound.keyed digest evaluation before
    · intro organization account epoch fingerprint found
      simp only [bindings] at found
      obtain ⟨rfl, rfl, rfl, -⟩ | before := ActionEligibilityStore.bind_safetyEpoch found
      · exact ⟨listed, (congrArg SafetyStateSnapshot.safetyEpoch current).le⟩
      · exact sound.reached organization account epoch fingerprint before
    · intro key fingerprint found
      simp only [bindings] at found
      obtain ⟨first, second, -, rfl⟩ | before := ActionEligibilityStore.bind_safetyEpoch found
      · obtain rfl : key = (_, _) := Prod.ext first second
        exact congrArg digests.safetyFingerprint current
      · exact sound.facts key fingerprint before

theorem Sound.step (sound : desk.Sound digests ctx) {action : DeskAction}
    (current : desk.Current ctx action) (unseen : desk.Unseen action) :
    (desk.step digests limits ctx action).Sound digests ctx := by
  cases action with
  | activateKill organization request => exact sound.commit_activate organization request
  | deactivateKill organization request => exact sound.commit_deactivate unseen
  | lockEpoch locked =>
    have same := safetySnapshot_lockEpoch ctx desk.db locked
    exact sound.of_db
      (fun key _ => (congrArg SafetyStateSnapshot.safetyEpoch (same key)).ge)
      (fun key _ _ => .inr (same key))
  | evaluate command now => exact sound.evaluated current

theorem sound_of_fresh (fresh : desk.store = .empty) : desk.Sound digests ctx := by
  constructor <;> simp [fresh, ActionEligibilityStore.empty]

/-- An answer carries the digest of the command it is given for. -/
theorem Sound.answer_digest (sound : desk.Sound digests ctx)
    {evaluation : ActionEligibilityEvaluation}
    (answered : (desk.store.evaluate digests limits command now).1 = .ok evaluation) :
    evaluation.uniquenessHash = digests.uniquenessHash command := by
  cases evaluated : desk.store.evaluate digests limits command now with
  | mk answer store =>
  rw [evaluated] at answered
  obtain ⟨existing, found, rfl, -⟩ | ⟨failure, rfl, -⟩ | ⟨produced, rfl, own, -⟩ :=
    ActionEligibilityStore.evaluate_cases evaluated
  · obtain rfl := Except.ok.inj answered
    exact sound.keyed _ _ found
  · cases answered
  · obtain rfl := Except.ok.inj answered
    exact own

/-- Current facts never conflict with what their epoch is bound to. -/
theorem Sound.no_conflict (sound : desk.Sound digests ctx) (reads : desk.Reads ctx command)
    (now : Instant) :
    (desk.store.evaluate digests limits command now).1 ≠ .error safetyEpochConflict := by
  intro conflict
  obtain ⟨bound, found, other⟩ := ActionEligibilityStore.bound_of_safetyEpochConflict conflict
  have epoch : command.safety.safetyEpoch = currentEpoch desk.db
      (command.safety.organizationId, command.safety.accountId) :=
    congrArg SafetyStateSnapshot.safetyEpoch reads.2
  rw [epoch] at found
  exact other ((sound.facts _ bound found).trans
    (congrArg digests.safetyFingerprint reads.2.symm))

/-- As long as no switch is turned off in an epoch that has been evaluated, no evaluation of
current facts is refused over its epoch, and an answer that was given before was given for
the same kill-switch facts. The digest of an input fixes the safety facts in it. -/
theorem eligibility_outlives_kill_switch
    (fixed : ∀ p q, digests.uniquenessSha p = digests.uniquenessSha q → p.safety = q.safety)
    (fresh : desk.store = .empty) {actions : List DeskAction}
    (current : Along (step digests limits ctx) (Current ctx) desk actions)
    (unseen : Along (step digests limits ctx) Unseen desk actions)
    {command : ActionEligibilityCommand}
    (reads : (run (step digests limits ctx) desk actions).Reads ctx command) (now : Instant) :
    ((run (step digests limits ctx) desk actions).store.evaluate digests limits command
        now).1 ≠ .error safetyEpochConflict ∧
      ∀ before earlier since after evaluation,
        actions = before ++ .evaluate earlier since :: after →
        ((run (step digests limits ctx) desk before).store.evaluate digests limits earlier
          since).1 = .ok evaluation →
        ((run (step digests limits ctx) desk actions).store.evaluate digests limits command
          now).1 = .ok evaluation →
        earlier.safety = command.safety := by
  have keep : ∀ (desk : Desk) action, desk.Sound digests ctx →
      desk.Current ctx action ∧ desk.Unseen action →
        (desk.step digests limits ctx action).Sound digests ctx :=
    fun _ _ sound side => sound.step side.1 side.2
  have side := current.and (step digests limits ctx) unseen
  have sound := run_invariant (step digests limits ctx) keep (sound_of_fresh fresh) side
  refine ⟨sound.no_conflict reads now, ?_⟩
  rintro before earlier since after evaluation rfl first again
  have sooner := run_invariant (step digests limits ctx) keep (sound_of_fresh fresh)
    ((along_append (step digests limits ctx)).mp side).1
  exact fixed _ _ ((sooner.answer_digest first).symm.trans (sound.answer_digest again))

end Desk

/-! ## Samples -/

def SafetyStateSnapshot.number (safety : SafetyStateSnapshot) : Nat :=
  Nat.pair safety.organizationId (Nat.pair safety.accountId (Nat.pair safety.safetyEpoch
    (4 * safety.killSwitchActive.toNat + 2 * safety.globalKillSwitchActive.toNat +
      safety.killSwitchUnavailable.toNat)))

theorem SafetyStateSnapshot.number_injective : Function.Injective number := by
  rintro ⟨_, _, _, active, halted, unread⟩ ⟨_, _, _, active', halted', unread'⟩ same
  obtain ⟨rfl, same⟩ := Nat.pair_eq_pair.mp same
  obtain ⟨rfl, same⟩ := Nat.pair_eq_pair.mp same
  obtain ⟨rfl, same⟩ := Nat.pair_eq_pair.mp same
  cases active <;> cases active' <;> cases halted <;> cases halted' <;> cases unread <;>
    cases unread' <;> simp_all

/-- Digests of the safety facts. -/
def sampleDigests : EligibilityDigests where
  windowHash _ := 1
  assessmentHash _ := 1
  candidateHash _ := 0
  riskFingerprint _ := 0
  venueFingerprint _ := 0
  safetyFingerprint := SafetyStateSnapshot.number
  organizationFingerprint := id
  uniquenessSha preimage := preimage.safety.number
  deterministicEligibilityId := id

def sampleCommand (safety : SafetyStateSnapshot) : ActionEligibilityCommand where
  candidate := { samplePayload with valid := by decide }
  assessment :=
    { assessmentId := 1, organizationId := 1, strategyVersionId := 1
      executableSetup := { setupDefinitionId := 1, contentHash := 1 }
      fusionPolicyVersion := "fusion/v1", state := .confirmedSetup, evidenceWindowHash := 1
      validUntil := 1, attributes := "", contentHash := 1 }
  evidenceWindow :=
    { organizationId := 1, strategyVersionId := 1, compiledSetupDefinitionId := 1
      compiledSetupContentHash := 1, fusionPolicyVersion := "fusion/v1", direction := .long
      evidenceVenue := .binance, evidenceMarket := .perpetual
      evidenceInstrument := "BTC-USDT-PERP", timeframe := .m5, attributes := ""
      contentHash := 1 }
  account := { organizationId := 1, userId := 1, accountId := 1, accountActive := true }
  portfolio :=
    { organizationId := 1, accountId := 1, accountEquity := 100, openExposureNotional := 0 }
  risk :=
    { riskSnapshotId := 1, organizationId := 1, userId := 1, accountId := 1
      dailyLocked := false, dailyLossLimit := none, realizedPnlToday := 0
      weeklyLossPct := none, cooldownActive := false, portfolioConflict := false
      tradesToday := 0 }
  safety := safety
  marketAction :=
    { venueStateId := 1, evidenceVenue := .binance, executionVenue := .binance
      evidencePrice := 100, executionPrice := none, basisBps := none
      requiredActionEvidenceFresh := true, actionEvidenceValidUntil := 1, basisFresh := true
      symbol := "BTCUSDT" }
  configuration :=
    { executionMode := .paper, enableRealTrading := false, exchangeMode := .paperInternal
      configurationVersion := "paper-execution/v1" }
  correlationId := 1

def sampleDesk : Desk := ⟨.empty, [(1, 1)], .empty⟩

def sampleSafety (epoch : Nat) (active : Bool) : SafetyStateSnapshot :=
  ⟨1, 1, epoch, active, false, false⟩

def sampleHalt : DeskAction := .activateKill 1 ⟨true, "halt", none⟩

def sampleResume : DeskAction := .deactivateKill 1 ⟨true, "resume", none⟩

def sampleEvaluation (epoch : Nat) (active : Bool) : DeskAction :=
  .evaluate (sampleCommand (sampleSafety epoch active)) 0

instance (answer : Except EligibilityFailure ActionEligibilityEvaluation)
    (failure : EligibilityFailure) : Decidable (answer = .error failure) :=
  match answer with
  | .ok _ => isFalse nofun
  | .error raised => decidable_of_iff (raised = failure) (by simp)

/-- An account that is evaluated under the active switch is refused in the same epoch after
the switch is off. -/
theorem evaluation_refused_after_halt :
    ∃ actions command,
      Along (Desk.step sampleDigests .default (Execution.Sample.ctx 0))
        (Desk.Current (Execution.Sample.ctx 0)) sampleDesk actions ∧
      (run (Desk.step sampleDigests .default (Execution.Sample.ctx 0)) sampleDesk actions).Reads
        (Execution.Sample.ctx 0) command ∧
      ((run (Desk.step sampleDigests .default (Execution.Sample.ctx 0)) sampleDesk
        actions).store.evaluate sampleDigests .default command 0).1 =
          .error safetyEpochConflict :=
  ⟨[sampleHalt, sampleEvaluation 2 true, sampleResume], sampleCommand (sampleSafety 2 false),
    by decide, by decide, by decide⟩

/-- A halt that nobody is evaluated in. -/
theorem evaluation_allowed_after_quiet_halt :
    ((run (Desk.step sampleDigests .default (Execution.Sample.ctx 0)) sampleDesk
      [sampleEvaluation 1 false, sampleHalt, sampleResume]).store.evaluate sampleDigests
        .default (sampleCommand (sampleSafety 2 false)) 0).1 ≠ .error safetyEpochConflict :=
  (Desk.eligibility_outlives_kill_switch
    (fun _ _ same => SafetyStateSnapshot.number_injective same) rfl (by decide)
    (by decide) (by decide) 0).1

end AlphaTrade.SignalFusion
