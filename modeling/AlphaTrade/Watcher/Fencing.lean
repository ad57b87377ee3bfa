import AlphaTrade.Library.Run
import AlphaTrade.SignalFusion.History
import AlphaTrade.SignalFusion.Postgres
import AlphaTrade.Watcher.Methods

/-!
# Fencing on the PostgreSQL store

Workers call the watcher store and the candidate repository in any order, with any arguments
and at any times. The epoch of a scope goes up by one at each new claim and is otherwise kept,
and the worker of an epoch never changes. A write is made under the authority that the store
takes from its row, from the attempt it names or from the fence that is bound; once the epoch
of the scope is past it, the write leaves the tables alone. A worker may still record about
its own attempt that it was rejected.
-/
namespace AlphaTrade.Watcher
open Library
open Execution (OrganizationId Instant)

/-! ## Both repositories -/

/-- The lease that must still be current when a candidate is persisted. -/
structure WorkerCandidateWriteFence where
  organizationId : OrganizationId
  scanScope : ScanScope
  ownerId : Option WorkerId
  leaseEpoch : Option Nat
  fencingToken : Option Nat
  deriving DecidableEq

namespace WorkerCandidateWriteFence

def scope (fence : WorkerCandidateWriteFence) : ScopeKey := (fence.organizationId, fence.scanScope)

def authority (fence : WorkerCandidateWriteFence) : Authority where
  workerId := fence.ownerId
  leaseEpoch := fence.leaseEpoch
  fencingToken := fence.fencingToken

end WorkerCandidateWriteFence

/-- The tables of both repositories, which are in one database. -/
structure Database where
  watcher : Store
  candidates : SignalFusion.Tables

def Database.empty : Database := ⟨.empty, .empty⟩

/-- One call by anybody. A candidate call carries the fence that is bound, if any, and the
time of the repository's clock. -/
inductive Access where
  | watcher (operation : Operation)
  | candidate (fence : Option WorkerCandidateWriteFence) (now : Instant) (call : SignalFusion.Call)

def writtenOrganization : SignalFusion.Call → Option OrganizationId
  | .getOrInsertCreated candidate => some candidate.organizationId
  | .applyTransition request => some request.organizationId
  | .getById .. | .listTransitions .. => none

namespace Store

/-- `_enforce_bound_fence`. -/
def enforceBoundFence (store : Store) (fence : Option WorkerCandidateWriteFence)
    (organizationId : OrganizationId) (now : Instant) : Except Refusal Unit :=
  match fence with
  | none => .ok ()
  | some fence => do
    let message := "Stale fence holder cannot persist Candidate authority."
    ensure (fence.organizationId = organizationId)
      (.staleFence message fence.scanScope .organizationMismatch)
    match fence.leaseEpoch, fence.fencingToken with
    | some leaseEpoch, some fencingToken =>
      ensure (fence.ownerId ≠ none) (.staleFence message fence.scanScope .incompleteAuthority)
      requireCurrentLeaseAuthority (store.leases.find fence.scope) fence.ownerId leaseEpoch
        fencingToken now fence.scanScope message
    | _, _ => .error (.staleFence message fence.scanScope .incompleteAuthority)

def epoch (store : Store) (scope : ScopeKey) : Nat :=
  ((store.leases.find scope).map WorkerLease.leaseEpoch).getD 0

def ClaimsAnew (store : Store) (scope : ScopeKey) : Operation → Prop
  | .claimLease key ownerId ttlSeconds now fencingToken => key = scope ∧
    (store.claimLease key ownerId ttlSeconds now fencingToken).1.reason = .claimed
  | _ => False

end Store

namespace Database

variable (contracts : SignalFusion.Contracts)

def step (database : Database) : Access → Database
  | .watcher operation =>
    { database with watcher := (database.watcher.serve .postgres operation).2 }
  | .candidate fence now call =>
    match (writtenOrganization call).map fun organizationId =>
        database.watcher.enforceBoundFence fence organizationId now with
    | some (.error _) => database
    | _ => { database with candidates := database.candidates.step contracts call }

/-- The scope and the authority that a write is made under, as the store finds them: in the
row, in its parent, in the attempt that is published or in the fence that is bound. Reads,
claims and renewals have none, nor have writes that never claim an authority. -/
def author (database : Database) : Access → Option (ScopeKey × Authority)
  | .watcher (.insertAttempt row) | .watcher (.updateAttempt row) =>
    (database.watcher.lineages.find row.lineageId).map fun lineage =>
      (lineage.scope, row.authority)
  | .watcher (.insertSourceFetch row) | .watcher (.insertSubscriptionEval row) =>
    (database.watcher.scopeForAttempt row).toOption.map fun scope =>
      (scope, database.watcher.authorityForUnitWrite row)
  | .watcher (.casLineageTerminal lineageId attemptId _ _) => do
    let lineage ← database.watcher.lineages.find lineageId
    let attempt ← database.watcher.attempts.find attemptId
    return (lineage.scope, attempt.authority)
  | .watcher (.recordHeartbeat scope beat) =>
    some (scope, ⟨some beat.ownerId, some beat.leaseEpoch, some beat.fencingToken⟩)
  | .watcher (.rememberHealth scope snapshot) =>
    if snapshot.Claimed then
      some (scope, ⟨snapshot.leaseOwner, some snapshot.leaseEpoch, some snapshot.fencingToken⟩)
    else none
  | .candidate fence _ call =>
    match writtenOrganization call, fence with
    | some _, some fence => some (fence.scope, fence.authority)
    | _, _ => none
  | _ => none

def ClaimsAnew (database : Database) (scope : ScopeKey) : Access → Prop
  | .watcher operation => database.watcher.ClaimsAnew scope operation
  | .candidate .. => False

end Database

/-! ## Epochs -/

/-- What one call can do to the lease of a scope: nothing, move its times, or put the lease
of the next epoch in its place. -/
inductive LeaseMove (anew : Prop) (before after : Option WorkerLease) : Prop
  | kept (old : ¬anew) (same : after = before)
  | renewed (old : ¬anew) (lease : WorkerLease) (now : Instant) (ttlSeconds : Int)
      (found : before = some lease) (active : lease.IsActive now)
      (moved : after = some (lease.renewed now ttlSeconds))
  | claimed (new : anew) (ownerId : WorkerId) (now : Instant) (ttlSeconds : Int)
      (expired : ∀ lease ∈ before, ¬lease.IsActive now)
      (moved : after = some (newLease ownerId
        ((before.map WorkerLease.leaseEpoch).getD 0 + 1) now ttlSeconds))

namespace Store

variable {backend : Backend} {store : Store}

variable {lease : WorkerLease} {operation : Operation}

theorem epoch_of_find {scope : ScopeKey} (found : store.leases.find scope = some lease) :
    store.epoch scope = lease.leaseEpoch := by
  simp [epoch, found]

theorem exists_lease_of_lt {scope : ScopeKey} {n : Nat} (h : n < store.epoch scope) :
    ∃ lease, store.leases.find scope = some lease ∧ n < lease.leaseEpoch := by
  cases found : store.leases.find scope with
  | none => simp [epoch, found] at h
  | some lease => exact ⟨lease, rfl, by rwa [epoch_of_find found] at h⟩

theorem putLease_find (store : Store) (scope other : ScopeKey) (lease : WorkerLease) :
    (store.putLease scope lease).leases.find other =
      if other = scope then some lease else store.leases.find other := by
  unfold putLease
  by_cases same : other = scope
  · subst same
    simp
  · simp [same]

/-- Writing the lease of one scope moves no other. -/
theorem leaseMove_putLease (anew : ScopeKey → Prop) {scope : ScopeKey}
    (here : ∀ other, anew other → other = scope)
    (move : LeaseMove (anew scope) (store.leases.find scope) (some lease)) (other : ScopeKey) :
    LeaseMove (anew other) (store.leases.find other)
      ((store.putLease scope lease).leases.find other) := by
  rw [putLease_find]
  split_ifs with same
  · rw [same]
    exact move
  · exact .kept (fun anew => same (here other anew)) rfl

theorem claimLease_move (scope : ScopeKey) (ownerId : WorkerId) (ttlSeconds : Int)
    (now : Instant) (fencingToken : Option Nat) (other : ScopeKey) :
    LeaseMove (store.ClaimsAnew other (.claimLease scope ownerId ttlSeconds now fencingToken))
      (store.leases.find other)
      ((store.claimLease scope ownerId ttlSeconds now fencingToken).2.leases.find other) := by
  have here : ∀ other, store.ClaimsAnew other
      (.claimLease scope ownerId ttlSeconds now fencingToken) → other = scope :=
    fun other anew => anew.1.symm
  unfold ClaimsAnew at here ⊢
  dsimp only at here ⊢
  obtain ⟨lease, found, active, -, -, result⟩ | ⟨lease, -, -, result⟩ |
      ⟨expired, lease, rfl, result⟩ :=
    store.claimLease_cases scope ownerId ttlSeconds now fencingToken
  · rw [result] at here ⊢
    exact leaseMove_putLease _ here (.renewed (by simp) lease now ttlSeconds found active rfl) other
  · rw [result]
    exact .kept (by simp) rfl
  · rw [result] at here ⊢
    exact leaseMove_putLease _ here (.claimed (by simp) ownerId now ttlSeconds expired rfl) other

theorem renewLease_move (scope : ScopeKey) (ownerId : WorkerId) (fencingToken : Nat)
    (ttlSeconds : Int) (now : Instant) (other : ScopeKey) :
    LeaseMove False (store.leases.find other)
      ((store.renewLease scope ownerId fencingToken ttlSeconds now).2.leases.find other) := by
  obtain result | ⟨lease, found, isMatch, result⟩ :=
    store.renewLease_cases scope ownerId fencingToken ttlSeconds now
  · rw [result]
    exact .kept not_false rfl
  · rw [result]
    exact leaseMove_putLease (fun _ => False) (fun _ => False.elim)
      (.renewed not_false lease now ttlSeconds found isMatch.2.2.2 rfl) other

theorem not_claimsAnew {scope : ScopeKey} (other : ¬operation.IsClaim) :
    ¬store.ClaimsAnew scope operation := by
  cases operation with
  | claimLease => exact absurd trivial other
  | _ => exact not_false

/-- Only a claim and a renewal touch leases. -/
theorem Written.leaseMove {after : Store} (written : Written backend store operation after)
    (scope : ScopeKey) :
    LeaseMove (store.ClaimsAnew scope operation) (store.leases.find scope)
      (after.leases.find scope) := by
  cases written with
  | nothing other => exact .kept (not_claimsAnew other) rfl
  | schedule | lineage | publication | sourceFetch | subscriptionEval | heartbeat |
    health => exact .kept not_false rfl
  | attemptInserted inserted =>
    exact .kept not_false (by rw [(insertAttempt_ok inserted).2.leases])
  | attemptUpdated updated =>
    exact .kept not_false (by rw [(updateAttempt_ok updated).2.leases])
  | claimed key ownerId ttlSeconds now fencingToken => exact claimLease_move ..
  | renewed key ownerId fencingToken ttlSeconds now => exact renewLease_move ..

end Store

namespace LeaseMove

variable {anew : Prop} {before after : Option WorkerLease}

def epochOf (lease : Option WorkerLease) : Nat := (lease.map WorkerLease.leaseEpoch).getD 0

theorem epoch_new (move : LeaseMove anew before after) (new : anew) :
    epochOf after = epochOf before + 1 := by
  cases move with
  | kept old => exact absurd new old
  | renewed old => exact absurd new old
  | claimed _ ownerId now ttlSeconds expired moved =>
    rw [moved]
    rfl

theorem epoch_old (move : LeaseMove anew before after) (old : ¬anew) :
    epochOf after = epochOf before := by
  cases move with
  | kept _ same => rw [same]
  | renewed _ lease now ttlSeconds found active moved =>
    rw [moved, found]
    rfl
  | claimed new => exact absurd new old

/-- The epoch never falls, and a lease of the same epoch is the same worker's. -/
theorem follows (move : LeaseMove anew before after) {lease : WorkerLease}
    (found : before = some lease) : ∃ next, after = some next ∧ lease.leaseEpoch ≤ next.leaseEpoch ∧
      (next.leaseEpoch = lease.leaseEpoch → next.ownerId = lease.ownerId) := by
  cases move with
  | kept _ same => exact ⟨lease, same.trans found, le_rfl, fun _ => rfl⟩
  | renewed _ lease' now ttlSeconds found' active moved =>
    obtain rfl := Option.some.inj (found.symm.trans found')
    exact ⟨_, moved, le_rfl, fun _ => rfl⟩
  | claimed _ ownerId now ttlSeconds expired moved =>
    subst found
    refine ⟨_, moved, Nat.le_succ _, fun same => ?_⟩
    simp [newLease] at same

end LeaseMove

namespace Database

variable {contracts : SignalFusion.Contracts} {database : Database}

/-- A candidate call leaves the watcher's tables alone. -/
theorem step_candidate_watcher (fence : Option WorkerCandidateWriteFence) (now : Instant)
    (call : SignalFusion.Call) :
    (database.step contracts (.candidate fence now call)).watcher = database.watcher := by
  rw [step]
  split <;> rfl

theorem step_leaseMove (contracts : SignalFusion.Contracts) (access : Access) (scope : ScopeKey) :
    LeaseMove (database.ClaimsAnew scope access) (database.watcher.leases.find scope)
      ((database.step contracts access).watcher.leases.find scope) := by
  cases access with
  | watcher operation =>
    exact (Store.serve_written .postgres database.watcher operation).leaseMove scope
  | candidate fence now call =>
    rw [step_candidate_watcher]
    exact .kept not_false rfl

/-- The epoch of a scope goes up by one at a new claim and is kept by every other call. -/
theorem epoch_step (contracts : SignalFusion.Contracts) (database : Database)
    (access : Access) (scope : ScopeKey) :
    (database.ClaimsAnew scope access → (database.step contracts access).watcher.epoch scope =
        database.watcher.epoch scope + 1) ∧
      (¬database.ClaimsAnew scope access → (database.step contracts access).watcher.epoch scope =
        database.watcher.epoch scope) :=
  ⟨(step_leaseMove contracts access scope).epoch_new,
    (step_leaseMove contracts access scope).epoch_old⟩

/-- Over a run the epoch never falls, and a lease of the same epoch is the same worker's. -/
theorem run_follows (contracts : SignalFusion.Contracts) {scope : ScopeKey} {lease : WorkerLease}
    (accesses : List Access) (found : database.watcher.leases.find scope = some lease) :
    ∃ next, (run (step contracts) database accesses).watcher.leases.find scope = some next ∧
      lease.leaseEpoch ≤ next.leaseEpoch ∧
      (next.leaseEpoch = lease.leaseEpoch → next.ownerId = lease.ownerId) := by
  induction accesses generalizing database lease with
  | nil => exact ⟨lease, found, le_rfl, fun _ => rfl⟩
  | cons access accesses ih =>
    obtain ⟨next, found', le, owner⟩ :=
      (step_leaseMove contracts access scope).follows found
    obtain ⟨last, found'', le', owner'⟩ := ih found'
    refine ⟨last, found'', le.trans le', fun same => ?_⟩
    have middle : next.leaseEpoch = lease.leaseEpoch := by omega
    rw [owner' (by omega), owner middle]

theorem epoch_le_run (accesses : List Access) (scope : ScopeKey) :
    database.watcher.epoch scope ≤
      (run (step contracts) database accesses).watcher.epoch scope := by
  cases found : database.watcher.leases.find scope with
  | none => simp [Store.epoch, found]
  | some lease =>
    obtain ⟨next, found', le, -⟩ := run_follows contracts accesses found
    rw [Store.epoch_of_find found, Store.epoch_of_find found']
    exact le

def Held (contracts : SignalFusion.Contracts) (accesses : List Access) (scope : ScopeKey)
    (epoch : Nat) (ownerId : WorkerId) : Prop :=
  ∃ before after, accesses = before ++ after ∧
    ∃ lease, (run (step contracts) empty before).watcher.leases.find scope = some lease ∧
      lease.leaseEpoch = epoch ∧ lease.ownerId = ownerId

variable {accesses : List Access}

theorem Held.unique {scope : ScopeKey} {epoch : Nat} {ownerId ownerId' : WorkerId}
    (held : Held contracts accesses scope epoch ownerId)
    (held' : Held contracts accesses scope epoch ownerId') : ownerId = ownerId' := by
  obtain ⟨before, after, split, lease, found, rfl, rfl⟩ := held
  obtain ⟨before', after', split', lease', found', epoch', rfl⟩ := held'
  -- One of the two points comes first, and the lease of the other follows from there.
  obtain ⟨middle, rfl, -⟩ | ⟨middle, rfl, -⟩ :=
    List.append_eq_append_iff.mp (split.symm.trans split')
  · rw [run_append] at found'
    obtain ⟨next, reached, -, owner⟩ := run_follows _ middle found
    obtain rfl := Option.some.inj (reached.symm.trans found')
    exact (owner epoch').symm
  · rw [run_append] at found
    obtain ⟨next, reached, -, owner⟩ := run_follows _ middle found'
    obtain rfl := Option.some.inj (reached.symm.trans found)
    exact owner epoch'.symm

theorem held_of_le {scope : ScopeKey} {epoch : Nat} (pos : 0 < epoch)
    (le : epoch ≤ (run (step contracts) empty accesses).watcher.epoch scope) :
    ∃ ownerId, Held contracts accesses scope epoch ownerId := by
  induction accesses using List.reverseRecOn with
  | nil => exact absurd le (Nat.not_le.mpr pos)
  | append_singleton accesses access ih =>
    by_cases earlier : epoch ≤ (run (step contracts) empty accesses).watcher.epoch scope
    · obtain ⟨ownerId, before, after, rfl, lease⟩ := ih earlier
      exact ⟨ownerId, before, after ++ [access], by simp, lease⟩
    · -- The last call is the claim of this epoch.
      have last :
          epoch = (run (step contracts) empty (accesses ++ [access])).watcher.epoch scope := by
        have counts := epoch_step contracts (run (step contracts) empty accesses) access scope
        rw [run_append] at le ⊢
        change epoch ≤ ((run (step contracts) empty accesses).step contracts access).watcher.epoch
          scope at le
        change epoch = ((run (step contracts) empty accesses).step contracts access).watcher.epoch
          scope
        by_cases anew : (run (step contracts) empty accesses).ClaimsAnew scope access
        · have := counts.1 anew
          omega
        · have := counts.2 anew
          omega
      obtain ⟨lease, found, -⟩ := Store.exists_lease_of_lt (last ▸ pos)
      exact ⟨lease.ownerId, accesses ++ [access], [], by simp, lease, found,
        (Store.epoch_of_find found ▸ last).symm, rfl⟩

end Database

/-! ## Writes under an old epoch -/

theorem requireCurrentLeaseAuthority_ok {lease : Option WorkerLease} {ownerId : Option WorkerId}
    {leaseEpoch fencingToken : Nat} {now : Instant} {scanScope : ScanScope} {message : String}
    (h : requireCurrentLeaseAuthority lease ownerId leaseEpoch fencingToken now scanScope message =
      .ok ()) :
    ∃ current owner, lease = some current ∧ ownerId = some owner ∧
      current.AuthorityMatches owner leaseEpoch fencingToken now := by
  unfold requireCurrentLeaseAuthority at h
  split at h
  · cases h
  · cases h
  · exact ⟨_, _, rfl, rfl, ensure_eq_ok.mp h⟩

namespace Store

variable {store after : Store}

variable {now : Instant} {message : String}

/-- Authority that is claimed and passes the check is that of the current lease. -/
theorem requireWorkerWriteAuthority_ok {scope : ScopeKey} {authority : Authority}
    (h : store.requireWorkerWriteAuthority scope authority now message = .ok ())
    (claimed : authority.Claimed) :
    ∃ lease, store.leases.find scope = some lease ∧
      authority = ⟨some lease.ownerId, some lease.leaseEpoch, some lease.fencingToken⟩ ∧
      lease.IsActive now := by
  unfold requireWorkerWriteAuthority at h
  split at h
  · rename_i unclaimed
    exact absurd claimed unclaimed
  · split at h
    · obtain ⟨lease, owner, found, same, rfl, rfl, rfl, active⟩ :=
        requireCurrentLeaseAuthority_ok h
      cases same
      exact ⟨lease, found, rfl, active⟩
    · cases h

theorem epoch_of_authorized {scope : ScopeKey} {authority : Authority} {epoch : Nat}
    (h : store.requireWorkerWriteAuthority scope authority now message = .ok ())
    (under : authority.leaseEpoch = some epoch) : store.epoch scope = epoch := by
  obtain ⟨lease, found, rfl, -⟩ :=
    requireWorkerWriteAuthority_ok h (.inr (.inl (by simp [under])))
  rw [epoch_of_find found]
  exact Option.some.inj under

theorem epoch_of_current {scope : ScopeKey} {ownerId : Option WorkerId} {leaseEpoch token : Nat}
    {scanScope : ScanScope}
    (h : requireCurrentLeaseAuthority (store.leases.find scope) ownerId leaseEpoch token now
      scanScope message = .ok ()) :
    store.epoch scope = leaseEpoch := by
  obtain ⟨lease, owner, found, -, isMatch⟩ := requireCurrentLeaseAuthority_ok h
  rw [epoch_of_find found]
  exact isMatch.2.1

theorem epoch_of_admitUnit {row : UnitRow} {stored : List UnitRow} {scope : ScopeKey} {epoch : Nat}
    (h : store.admitUnit .postgres row stored message = .ok ())
    (here : store.scopeForAttempt row = .ok scope)
    (under : (store.authorityForUnitWrite row).leaseEpoch = some epoch) :
    store.epoch scope = epoch := by
  obtain ⟨scope', here', rest⟩ := bind_eq_ok.mp h
  obtain rfl := Except.ok.inj (here.symm.trans here')
  obtain ⟨_, authorized, -⟩ := bind_eq_ok.mp rest
  exact epoch_of_authorized authorized under

theorem epoch_of_enforced {fence : WorkerCandidateWriteFence} {organizationId : OrganizationId}
    {epoch : Nat} (h : store.enforceBoundFence (some fence) organizationId now = .ok ())
    (under : fence.leaseEpoch = some epoch) : store.epoch fence.scope = epoch := by
  obtain ⟨_, -, rest⟩ := bind_eq_ok.mp h
  split at rest
  · rename_i leaseEpoch token same _
    obtain ⟨_, -, current⟩ := bind_eq_ok.mp rest
    obtain rfl := Option.some.inj (under.symm.trans same)
    exact epoch_of_current current
  · cases rest

end Store

namespace Database

variable {contracts : SignalFusion.Contracts} {database : Database}

/-- A worker's mark on its own attempt that it was rejected: the attempt was started or had
that mark already, and the call replaces this one row. -/
def Confesses (database : Database) (access : Access) (after : Database) : Prop :=
  ∃ row current scope, access = .watcher (.updateAttempt row) ∧
    database.watcher.attempts.find row.attemptId = some current ∧
    current.authority = row.authority ∧
    (current.status = .started ∨ current.status = .rejectedStaleFence) ∧
    row.status = .rejectedStaleFence ∧
    after = { database with watcher := database.watcher.putAttempt row scope }

theorem written_stale {operation : Operation} {after : Store}
    (written : database.watcher.Written .postgres operation after) {scope : ScopeKey}
    {authority : Authority} {epoch : Nat}
    (author : database.author (.watcher operation) = some (scope, authority))
    (under : authority.leaseEpoch = some epoch) (stale : epoch < database.watcher.epoch scope) :
    after = database.watcher ∨
      database.Confesses (.watcher operation) { database with watcher := after } := by
  cases written with
  | nothing => exact .inl rfl
  | schedule | lineage | claimed | renewed => cases author
  | publication attemptId status organizationId found unfinished authorized =>
    obtain ⟨attempt, found', authorized⟩ := bind_eq_ok.mp authorized
    simp only [Database.author, found, Store.demandAttempt_eq_ok.mp found'] at author
    cases author
    exact absurd (Store.epoch_of_authorized authorized under) stale.ne'
  | attemptInserted inserted =>
    obtain ⟨lineage, found, ⟨_, authorized⟩, -⟩ := Store.insertAttempt_postgres inserted
    simp only [Database.author, found] at author
    cases author
    exact absurd (Store.epoch_of_authorized authorized under) stale.ne'
  | @attemptUpdated row after updated =>
    obtain ⟨lineage, found, confession | ⟨_, authorized⟩, -, -, rfl⟩ :=
      Store.updateAttempt_postgres updated
    · right
      cases found' : database.watcher.attempts.find row.attemptId with
      | none => simp [IsOwnStaleFenceConfession, found'] at confession
      | some current =>
        rw [found'] at confession
        obtain ⟨status, open', same, -⟩ := confession
        exact ⟨row, current, lineage.scope, rfl, found', same, open', status, rfl⟩
    · simp only [Database.author, found] at author
      cases author
      exact absurd (Store.epoch_of_authorized authorized under) stale.ne'
  | sourceFetch row admitted =>
    cases here : database.watcher.scopeForAttempt row with
    | error refusal => simp [Database.author, here, Except.toOption] at author
    | ok scope' =>
      simp only [Database.author, here] at author
      cases author
      exact absurd (Store.epoch_of_admitUnit admitted here under) stale.ne'
  | subscriptionEval row admitted =>
    cases here : database.watcher.scopeForAttempt row with
    | error refusal => simp [Database.author, here, Except.toOption] at author
    | ok scope' =>
      simp only [Database.author, here] at author
      cases author
      exact absurd (Store.epoch_of_admitUnit admitted here under) stale.ne'
  | heartbeat scope' beat authorized =>
    obtain ⟨_, current⟩ := authorized rfl
    cases author
    cases under
    exact absurd (Store.epoch_of_current current) stale.ne'
  | health scope' snapshot admitted =>
    have admitted := admitted rfl
    simp only [Database.author] at author
    split at author
    · rename_i claimed
      cases author
      cases under
      rw [Store.admitHealth, if_pos claimed] at admitted
      exact absurd (Store.epoch_of_current admitted) stale.ne'
    · cases author

variable {access : Access}

/-- A write under an epoch that is over leaves the tables alone, but for a confession. -/
theorem step_stale (contracts : SignalFusion.Contracts) {scope : ScopeKey} {authority : Authority}
    {epoch : Nat} (author : database.author access = some (scope, authority))
    (under : authority.leaseEpoch = some epoch) (stale : epoch < database.watcher.epoch scope) :
    database.step contracts access = database ∨
      database.Confesses access (database.step contracts access) := by
  cases access with
  | watcher operation =>
    have written := Store.serve_written .postgres database.watcher operation
    obtain same | confession := written_stale written author under stale
    · left
      rw [step, same]
    · exact .inr confession
  | candidate fence now call =>
    left
    unfold Database.author at author
    dsimp only at author
    split at author
    · rename_i organizationId fence' writes
      cases author
      cases enforced : database.watcher.enforceBoundFence (some fence') organizationId now with
      | error refusal => simp [step, writes, enforced]
      | ok _ => exact absurd (Store.epoch_of_enforced enforced under) stale.ne'
    · cases author

/-- The row of an attempt changes only where a call updates that attempt. -/
theorem updates_of_changed {attemptId : AttemptId} {current : ScanAttempt}
    (found : database.watcher.attempts.find attemptId = some current)
    (changed : (database.step contracts access).watcher.attempts.find attemptId ≠ some current) :
    ∃ row, access = .watcher (.updateAttempt row) ∧ row.attemptId = attemptId := by
  cases access with
  | candidate fence now call =>
    rw [step_candidate_watcher] at changed
    exact absurd found changed
  | watcher operation =>
    change (database.watcher.serve .postgres operation).2.attempts.find attemptId ≠ _ at changed
    have written := Store.serve_written .postgres database.watcher operation
    generalize (database.watcher.serve .postgres operation).2 = after at changed written
    cases written with
    | nothing | schedule | lineage | publication | sourceFetch | subscriptionEval | heartbeat |
      health => exact absurd found changed
    | claimed =>
      rw [Store.claimLease_frame] at changed
      exact absurd found changed
    | renewed =>
      rw [Store.renewLease_frame] at changed
      exact absurd found changed
    | @attemptInserted row after inserted =>
      obtain ⟨lineage, -, -, absent, -, -, rfl⟩ := Store.insertAttempt_postgres inserted
      exact absurd (Table.find_put_kept absent found row) changed
    | @attemptUpdated row after updated =>
      obtain ⟨lineage, -, -, -, -, rfl⟩ := Store.updateAttempt_postgres updated
      refine ⟨row, rfl, ?_⟩
      by_contra other
      exact changed ((Table.find_put_of_ne _ (Ne.symm other) row).trans found)

/-- The rows of child attempts are never changed. -/
theorem units_kept (access : Access) :
    database.watcher.sourceFetches <+:
        (database.step contracts access).watcher.sourceFetches ∧
      database.watcher.subscriptionEvals <+:
        (database.step contracts access).watcher.subscriptionEvals := by
  cases access with
  | candidate fence now call =>
    rw [step_candidate_watcher]
    exact ⟨List.prefix_rfl, List.prefix_rfl⟩
  | watcher operation =>
    change _ <+: (database.watcher.serve .postgres operation).2.sourceFetches ∧
      _ <+: (database.watcher.serve .postgres operation).2.subscriptionEvals
    have written := Store.serve_written .postgres database.watcher operation
    generalize (database.watcher.serve .postgres operation).2 = after at written
    cases written with
    | nothing | schedule | lineage | publication | heartbeat | health =>
      exact ⟨List.prefix_rfl, List.prefix_rfl⟩
    | claimed =>
      rw [Store.claimLease_frame]
      exact ⟨List.prefix_rfl, List.prefix_rfl⟩
    | renewed =>
      rw [Store.renewLease_frame]
      exact ⟨List.prefix_rfl, List.prefix_rfl⟩
    | attemptInserted inserted =>
      obtain ⟨-, written⟩ := Store.insertAttempt_ok inserted
      rw [written.sourceFetches, written.subscriptionEvals]
      exact ⟨List.prefix_rfl, List.prefix_rfl⟩
    | attemptUpdated updated =>
      obtain ⟨-, written⟩ := Store.updateAttempt_ok updated
      rw [written.sourceFetches, written.subscriptionEvals]
      exact ⟨List.prefix_rfl, List.prefix_rfl⟩
    | sourceFetch => exact ⟨List.prefix_append .., List.prefix_rfl⟩
    | subscriptionEval => exact ⟨List.prefix_rfl, List.prefix_append ..⟩

end Database

/-- For every run of calls with any arguments at any times, and every call that comes `later`:
the epoch of a scope goes up by one at each new claim and at nothing else; each epoch up to
the current one was held by exactly one worker; a write under an epoch that was over leaves
all tables as they are, unless it is the worker's mark on its own attempt; and the row of an
attempt that was written under such an epoch changes only by that mark or by an update that
is made under another authority, while the rows of child attempts never change. -/
theorem stale_workers_are_fenced (contracts : SignalFusion.Contracts)
    (accesses later : List Access) (access : Access) (scope : ScopeKey) :
    let earlier := run (Database.step contracts) .empty accesses
    let database := run (Database.step contracts) earlier later
    let after := database.step contracts access
    (database.ClaimsAnew scope access →
        after.watcher.epoch scope = database.watcher.epoch scope + 1) ∧
      (¬database.ClaimsAnew scope access →
        after.watcher.epoch scope = database.watcher.epoch scope) ∧
      (∀ epoch, 0 < epoch → epoch ≤ earlier.watcher.epoch scope →
        ∃! ownerId, Database.Held contracts accesses scope epoch ownerId) ∧
      (∀ authority epoch, database.author access = some (scope, authority) →
        authority.leaseEpoch = some epoch → epoch < earlier.watcher.epoch scope →
          after = database ∨ database.Confesses access after) ∧
      (∀ attemptId current epoch, database.watcher.attempts.find attemptId = some current →
        database.watcher.attemptScopes.find attemptId = some scope →
        current.leaseEpoch = some epoch → epoch < earlier.watcher.epoch scope →
          after.watcher.attempts.find attemptId = some current ∨
            (∃ row, access = .watcher (.updateAttempt row) ∧ row.attemptId = attemptId) ∧
              (database.Confesses access after ∨
                database.author access ≠ some (scope, current.authority))) ∧
      database.watcher.sourceFetches <+: after.watcher.sourceFetches ∧
      database.watcher.subscriptionEvals <+: after.watcher.subscriptionEvals := by
  intro earlier database after
  have reached : earlier.watcher.epoch scope ≤ database.watcher.epoch scope :=
    Database.epoch_le_run later scope
  obtain ⟨new, old⟩ := Database.epoch_step contracts database access scope
  refine ⟨new, old, ?_, ?_, ?_, Database.units_kept access⟩
  · intro epoch pos le
    obtain ⟨ownerId, held⟩ := Database.held_of_le pos le
    exact ⟨ownerId, held, fun other held' => held'.unique held⟩
  · intro authority epoch author under stale
    exact Database.step_stale contracts author under (stale.trans_le reached)
  · intro attemptId current epoch found recorded under stale
    by_cases changed : after.watcher.attempts.find attemptId = some current
    · exact .inl changed
    · refine .inr ⟨Database.updates_of_changed found changed, ?_⟩
      by_cases author : database.author access = some (scope, current.authority)
      · obtain same | confesses := Database.step_stale contracts author under
          (stale.trans_le reached)
        · have kept : after = database := same
          rw [kept] at changed
          exact absurd found changed
        · exact .inl confesses
      · exact .inr author

/-! ## A mark that is made twice -/

/-- A worker's attempt in a scope. -/
def sampleAttempt (lineageId : LineageId) (workerId : WorkerId) (epoch : Nat)
    (status : ScanAttemptStatus) (heartbeatAt : Instant) : ScanAttempt where
  attemptId := 1
  lineageId := lineageId
  attemptNumber := 1
  workerId := some workerId
  leaseEpoch := some epoch
  fencingToken := some epoch
  trigger := .worker
  mode := .persistEvidence
  status := status
  startedAt := 0
  heartbeatAt := heartbeatAt

def sampleLineage : ScanLineage where
  lineageId := 0
  organizationId := 1
  principalId := none
  scanScope := ⟨"scan", by decide⟩
  requestHash := "request"
  policyId := 1
  policyVersion := 1
  policyContentHash := "policy"
  triggerCreatedBy := .worker
  createdAt := 0

def markedRun : List Access :=
  [.watcher (.insertLineage sampleLineage),
    .watcher (.claimLease sampleLineage.scope "first" 30 0 none),
    .watcher (.insertAttempt (sampleAttempt 0 "first" 1 .started 0)),
    .watcher (.claimLease sampleLineage.scope "second" 30 (seconds 60) none),
    .watcher (.updateAttempt (sampleAttempt 0 "first" 1 .rejectedStaleFence (seconds 61)))]

/-- The second claim has been made and the attempt of the first epoch is no longer STARTED,
and yet its worker changes its row once more, and so does an update that claims no authority. -/
theorem rejected_attempt_marked_again :
    let database := run (Database.step SignalFusion.sampleContracts) .empty markedRun
    let marked := sampleAttempt 0 "first" 1 .rejectedStaleFence (seconds 61)
    let again := { marked with heartbeatAt := seconds 62 }
    let unfenced := { marked with
      workerId := none, leaseEpoch := none, fencingToken := none, status := .failed }
    let row := fun update => (database.step SignalFusion.sampleContracts
      (.watcher (.updateAttempt update))).watcher.attempts.find 1
    database.watcher.epoch sampleLineage.scope = 2 ∧
      database.watcher.attempts.find 1 = some marked ∧
      row again = some again ∧ again ≠ marked ∧
      row unfenced = some unfenced ∧ unfenced ≠ marked := by
  decide

end AlphaTrade.Watcher
