import AlphaTrade.Execution.Rows
import AlphaTrade.Library.Check
import AlphaTrade.Library.Table
import Mathlib.Data.List.Sort

/-!
# The watcher store

Schedules, scan lineages with their attempts, the leases of the scan scopes, heartbeats and
health. There are two implementations of one contract: the dictionaries of the unit tests and
the PostgreSQL tables. They differ in what they check. PostgreSQL proves at every write that
claims the authority of a worker that the lease is that worker's, of that epoch and not
expired; the dictionaries check nothing.

Every method is one transaction and leaves the store as it was when it raises. A lease is
only ever written by a claim, which sets every column, so no column of it is optional. A
column that is too narrow for a text makes a write raise, which a caller sees as a crash
before the write.
-/
namespace AlphaTrade.Watcher
open Library
open Execution (OrganizationId Instant)

abbrev PrincipalId := Nat
abbrev PolicyId := Nat
abbrev LineageId := Nat
abbrev AttemptId := Nat
abbrev UnitId := Nat
abbrev ScheduleId := Nat
abbrev WorkerId := String

/-- A scan scope is validated to be non-empty, so `tenant_scope_key` does not raise. -/
abbrev ScanScope := {name : String // name ≠ ""}

/-- `tenant_scope_key`: the key of leases, heartbeats and health. -/
abbrev ScopeKey := OrganizationId × ScanScope

def seconds (count : Int) : Instant := count * 1000000

/-! ## Records -/

inductive EvaluationMode where
  | preview | persistEvidence | persistAndNotify
  deriving DecidableEq, Repr

inductive ScanTrigger where
  | manual | worker
  deriving DecidableEq, Repr

inductive ScanAttemptStatus where
  | started | succeeded | failed | degraded | blocked | rejectedStaleFence | convergedReplay
  deriving DecidableEq, Repr

inductive UnitAttemptStatus where
  | succeeded | failed | degraded | skipped
  deriving DecidableEq, Repr

inductive RecoveryDisposition where
  | none | retry | replay | abandonStaleFence
  deriving DecidableEq, Repr

structure ScheduledScan where
  scheduledScanId : ScheduleId
  organizationId : OrganizationId
  principalId : Option PrincipalId
  idempotencyKey : String
  requestHash : String
  scanScope : ScanScope
  lineageId : LineageId
  createdAt : Instant
  deriving DecidableEq

structure ScanLineage where
  lineageId : LineageId
  organizationId : OrganizationId
  principalId : Option PrincipalId
  scanScope : ScanScope
  requestHash : String
  policyId : PolicyId
  policyVersion : Nat
  policyContentHash : String
  triggerCreatedBy : ScanTrigger
  createdAt : Instant
  terminalAttemptId : Option AttemptId := none
  terminalStatus : Option ScanAttemptStatus := none
  deriving DecidableEq

def ScanLineage.scope (lineage : ScanLineage) : ScopeKey :=
  (lineage.organizationId, lineage.scanScope)

def ScanLineage.HasSucceeded (lineage : ScanLineage) : Prop :=
  lineage.terminalStatus = some .succeeded ∧ lineage.terminalAttemptId ≠ none

instance (lineage : ScanLineage) : Decidable lineage.HasSucceeded := instDecidableAnd

structure ScanAttempt where
  attemptId : AttemptId
  lineageId : LineageId
  attemptNumber : Nat
  workerId : Option WorkerId
  leaseEpoch : Option Nat
  fencingToken : Option Nat
  trigger : ScanTrigger
  mode : EvaluationMode
  status : ScanAttemptStatus
  startedAt : Instant
  heartbeatAt : Instant
  finishedAt : Option Instant := none
  sanitizedError : Option String := none
  recoveryDisposition : RecoveryDisposition := .none
  recoveredFromAttemptId : Option AttemptId := none
  outcomeReasonCode : Option String := none
  evaluationInputHash : Option String := none
  deriving DecidableEq

/-- A child attempt of a scan, for a source or for a subscription. -/
structure UnitRow where
  unitAttemptId : UnitId
  scanAttemptId : AttemptId
  lineageId : LineageId
  leaseEpoch : Option Nat
  fencingToken : Option Nat
  subjectId : Nat
  status : UnitAttemptStatus
  reasonCode : Option String := none
  token : Option String := none
  createdAt : Instant
  finishedAt : Option Instant := none
  sanitizedError : Option String := none
  deriving DecidableEq

/-- The token is the source's freshness. -/
abbrev SourceFetchAttempt := UnitRow

/-- The token is the evidence's validity. -/
abbrev SubscriptionEvaluationAttempt := UnitRow

structure WorkerLease where
  ownerId : WorkerId
  leaseEpoch : Nat
  fencingToken : Nat
  acquiredAt : Instant
  renewedAt : Instant
  expiresAt : Instant
  deriving DecidableEq

structure WatcherHeartbeat where
  ownerId : WorkerId
  leaseEpoch : Nat
  fencingToken : Nat
  lastBeatAt : Instant
  detail : Option String
  deriving DecidableEq

/-- The columns of a health snapshot that say who wrote it. -/
structure WatcherHealthSnapshot where
  leaseOwner : Option WorkerId
  leaseEpoch : Nat
  fencingToken : Nat
  generatedAt : Instant
  deriving DecidableEq

/-! ## Refusals -/

inductive FenceCause where
  | missingLease | missingOwner | expiredLease | mismatchedAuthority | incompleteAuthority
  | organizationMismatch | observerVsActive
  deriving DecidableEq, Repr

inductive Constraint where
  | schedulesPk | schedulesLineage | attemptsPk | attemptsNumber | unitsPk | unitsAttempt
  deriving DecidableEq, Repr

inductive Refusal where
  | staleFence (message : String) (scanScope : ScanScope) (cause : FenceCause)
  | tenantMismatch (record : String)
  | idempotencyConflict (existingRequestHash incomingRequestHash : String)
  | keyError (id : Nat)
  | integrityError (constraint : Constraint)
  | assertionError
  | raised (text : String)
  deriving DecidableEq

/-! ## The store -/

inductive Backend where
  | memory | postgres
  deriving DecidableEq, Repr

/-- `attemptScopes` are two columns of the attempts table of PostgreSQL, `attemptsByLineage`
is an index of the dictionaries. -/
structure Store where
  schedules : Table (OrganizationId × Option PrincipalId × String) ScheduledScan
  lineages : Table LineageId ScanLineage
  attempts : Table AttemptId ScanAttempt
  attemptScopes : Table AttemptId ScopeKey
  attemptsByLineage : Table LineageId (List AttemptId)
  sourceFetches : List SourceFetchAttempt
  subscriptionEvals : List SubscriptionEvaluationAttempt
  leases : Table ScopeKey WorkerLease
  heartbeats : Table ScopeKey WatcherHeartbeat
  health : Table ScopeKey WatcherHealthSnapshot

def Store.empty : Store where
  schedules := .empty
  lineages := .empty
  attempts := .empty
  attemptScopes := .empty
  attemptsByLineage := .empty
  sourceFetches := []
  subscriptionEvals := []
  leases := .empty
  heartbeats := .empty
  health := .empty

/-! ## Authority -/

/-- The columns by which a write claims to be a worker's. -/
structure Authority where
  workerId : Option WorkerId
  leaseEpoch : Option Nat
  fencingToken : Option Nat
  deriving DecidableEq

def ScanAttempt.authority (attempt : ScanAttempt) : Authority where
  workerId := attempt.workerId
  leaseEpoch := attempt.leaseEpoch
  fencingToken := attempt.fencingToken

/-- `_claims_worker_write_authority`. -/
def Authority.Claimed (authority : Authority) : Prop :=
  authority.workerId ≠ none ∨ authority.leaseEpoch ≠ none ∨ authority.fencingToken ≠ none

instance (authority : Authority) : Decidable authority.Claimed := instDecidableOr

def WorkerLease.IsActive (lease : WorkerLease) (now : Instant) : Prop := now < lease.expiresAt

instance (lease : WorkerLease) (now : Instant) : Decidable (lease.IsActive now) :=
  inferInstanceAs (Decidable (_ < _))

/-- `_lease_authority_matches`. -/
def WorkerLease.AuthorityMatches (lease : WorkerLease) (ownerId : WorkerId)
    (leaseEpoch fencingToken : Nat) (now : Instant) : Prop :=
  lease.ownerId = ownerId ∧ lease.leaseEpoch = leaseEpoch ∧ lease.fencingToken = fencingToken ∧
    lease.IsActive now

instance (lease : WorkerLease) (ownerId : WorkerId) (leaseEpoch fencingToken : Nat)
    (now : Instant) : Decidable (lease.AuthorityMatches ownerId leaseEpoch fencingToken now) :=
  instDecidableAnd

/-- `_fence_matches`. -/
def WorkerLease.FenceMatches (lease : WorkerLease) (ownerId : WorkerId) (fencingToken : Nat)
    (now : Instant) : Prop :=
  lease.AuthorityMatches ownerId fencingToken fencingToken now

instance (lease : WorkerLease) (ownerId : WorkerId) (fencingToken : Nat) (now : Instant) :
    Decidable (lease.FenceMatches ownerId fencingToken now) :=
  inferInstanceAs (Decidable (lease.AuthorityMatches ..))

/-- `_require_current_lease_authority`. -/
def requireCurrentLeaseAuthority (lease : Option WorkerLease) (ownerId : Option WorkerId)
    (leaseEpoch fencingToken : Nat) (now : Instant) (scanScope : ScanScope) (message : String) :
    Except Refusal Unit :=
  match lease, ownerId with
  | none, _ => .error (.staleFence message scanScope .missingLease)
  | some _, none => .error (.staleFence message scanScope .missingOwner)
  | some lease, some ownerId =>
    ensure (lease.AuthorityMatches ownerId leaseEpoch fencingToken now)
      (.staleFence message scanScope
        (if lease.IsActive now then .mismatchedAuthority else .expiredLease))

/-- `_is_own_stale_fence_confession`: a stale worker marks its own attempt as rejected. -/
def IsOwnStaleFenceConfession (current : Option ScanAttempt) (row : ScanAttempt) : Prop :=
  match current with
  | none => False
  | some current =>
    row.status = .rejectedStaleFence ∧
      (current.status = .started ∨ current.status = .rejectedStaleFence) ∧
      current.authority = row.authority ∧ row.authority.Claimed

instance (current : Option ScanAttempt) (row : ScanAttempt) :
    Decidable (IsOwnStaleFenceConfession current row) :=
  match current with
  | none => inferInstanceAs (Decidable False)
  | some _ => instDecidableAnd

inductive ClaimReason where
  | claimed | renewed | leaseHeld
  deriving DecidableEq, Repr

/-- What `claim_lease` answers; the reason says whether the lease was acquired. -/
structure Claim where
  lease : WorkerLease
  reason : ClaimReason
  deriving DecidableEq

def Claim.Acquired (claim : Claim) : Prop := claim.reason ≠ .leaseHeld

instance (claim : Claim) : Decidable claim.Acquired := instDecidableNot

def newLease (ownerId : WorkerId) (epoch : Nat) (now : Instant) (ttlSeconds : Int) :
    WorkerLease where
  ownerId := ownerId
  leaseEpoch := epoch
  fencingToken := epoch
  acquiredAt := now
  renewedAt := now
  expiresAt := now + seconds ttlSeconds

def WorkerLease.renewed (lease : WorkerLease) (now : Instant) (ttlSeconds : Int) : WorkerLease :=
  { lease with renewedAt := now, expiresAt := now + seconds ttlSeconds }

/-- `_snapshot_claims_worker_authority`. -/
def WatcherHealthSnapshot.Claimed (snapshot : WatcherHealthSnapshot) : Prop :=
  snapshot.leaseOwner ≠ none ∨ snapshot.leaseEpoch ≠ 0 ∨ snapshot.fencingToken ≠ 0

instance (snapshot : WatcherHealthSnapshot) : Decidable snapshot.Claimed := instDecidableOr

def rejectMismatch (storedOrganizationId organizationId : OrganizationId) (record : String) :
    Except Refusal Unit :=
  ensure (storedOrganizationId = organizationId) (.tenantMismatch record)

namespace Store

/-- `_require_worker_write_authority`. -/
def requireWorkerWriteAuthority (store : Store) (scope : ScopeKey) (authority : Authority)
    (now : Instant) (message : String) : Except Refusal Unit :=
  if ¬authority.Claimed then .ok ()
  else
    match authority with
    | ⟨some workerId, some leaseEpoch, some fencingToken⟩ =>
      requireCurrentLeaseAuthority (store.leases.find scope) (some workerId) leaseEpoch
        fencingToken now scope.2 message
    | _ => .error (.staleFence message scope.2 .incompleteAuthority)

def demandLineage (store : Store) (lineageId : LineageId) : Except Refusal ScanLineage :=
  match store.lineages.find lineageId with
  | none => .error (.keyError lineageId)
  | some lineage => .ok lineage

def demandAttempt (store : Store) (attemptId : AttemptId) : Except Refusal ScanAttempt :=
  match store.attempts.find attemptId with
  | none => .error (.keyError attemptId)
  | some attempt => .ok attempt

/-! ## Schedules and lineages -/

def getSchedule (store : Store) (organizationId : OrganizationId)
    (principalId : Option PrincipalId) (idempotencyKey : String) : Option ScheduledScan :=
  store.schedules.find (organizationId, principalId, idempotencyKey)

def admitSchedule (backend : Backend) (store : Store) (row : ScheduledScan) :
    Except Refusal Unit :=
  match backend with
  | .memory => .ok ()
  | .postgres => do
    ensure (store.schedules.first fun other =>
      other.scheduledScanId = row.scheduledScanId).isNone (.integrityError .schedulesPk)
    ensure (store.lineages.find row.lineageId ≠ none) (.integrityError .schedulesLineage)

def insertSchedule (backend : Backend) (store : Store) (row : ScheduledScan) :
    Except Refusal (ScheduledScan × Store) :=
  match store.getSchedule row.organizationId row.principalId row.idempotencyKey with
  | some existing => do
    ensure (existing.requestHash = row.requestHash)
      (.idempotencyConflict existing.requestHash row.requestHash)
    return (existing, store)
  | none => do
    store.admitSchedule backend row
    return (row, { store with
      schedules := store.schedules.put
        (row.organizationId, row.principalId, row.idempotencyKey) row })

def getLineage (store : Store) (lineageId : LineageId) (organizationId : OrganizationId) :
    Except Refusal (Option ScanLineage) :=
  match store.lineages.find lineageId with
  | none => .ok none
  | some current => do
    rejectMismatch current.organizationId organizationId "lineage"
    return some current

def insertLineage (store : Store) (row : ScanLineage) : Except Refusal (ScanLineage × Store) :=
  match store.lineages.find row.lineageId with
  | some existing => do
    rejectMismatch existing.organizationId row.organizationId "lineage"
    return (existing, store)
  | none => .ok (row, { store with lineages := store.lineages.put row.lineageId row })

/-- The attempt whose terminal state is to be published must still have its authority. The
time that counts is the attempt's, not that of the call. -/
def requirePublishAuthority (backend : Backend) (store : Store) (lineage : ScanLineage)
    (attemptId : AttemptId) : Except Refusal Unit :=
  match backend with
  | .memory => .ok ()
  | .postgres => do
    let attempt ← store.demandAttempt attemptId
    store.requireWorkerWriteAuthority lineage.scope attempt.authority
      (attempt.finishedAt.getD attempt.heartbeatAt)
      "Stale fence holder cannot publish terminal lineage state."

def casLineageTerminal (backend : Backend) (store : Store) (lineageId : LineageId)
    (attemptId : AttemptId) (status : ScanAttemptStatus) (organizationId : OrganizationId) :
    Except Refusal (ScanLineage × Store) := do
  let current ← store.demandLineage lineageId
  rejectMismatch current.organizationId organizationId "lineage"
  if current.HasSucceeded then return (current, store)
  else
    store.requirePublishAuthority backend current attemptId
    let updated := { current with
      terminalAttemptId := some attemptId
      terminalStatus := some status }
    return (updated, { store with lineages := store.lineages.put lineageId updated })

/-! ## Attempts -/

def listAttempts (backend : Backend) (store : Store) (lineageId : LineageId) :
    List ScanAttempt :=
  match backend with
  | .memory =>
    ((store.attemptsByLineage.find lineageId).getD []).filterMap store.attempts.find
  | .postgres =>
    ((store.attempts.rows.map Prod.snd).filter fun row => row.lineageId = lineageId).insertionSort
      fun row row' => row.attemptNumber ≤ row'.attemptNumber

def numberIsFree (store : Store) (row : ScanAttempt) (organizationId : OrganizationId) : Prop :=
  ∀ entry ∈ store.attempts.rows, entry.1 ≠ row.attemptId → entry.2.lineageId = row.lineageId →
    entry.2.attemptNumber = row.attemptNumber →
    (store.attemptScopes.find entry.1).map Prod.fst ≠ some organizationId

instance (store : Store) (row : ScanAttempt) (organizationId : OrganizationId) :
    Decidable (store.numberIsFree row organizationId) :=
  inferInstanceAs (Decidable (∀ entry ∈ store.attempts.rows, _))

def putAttempt (store : Store) (row : ScanAttempt) (scope : ScopeKey) : Store :=
  { store with
    attempts := store.attempts.put row.attemptId row
    attemptScopes := store.attemptScopes.put row.attemptId scope }

def insertAttempt (backend : Backend) (store : Store) (row : ScanAttempt) :
    Except Refusal (ScanAttempt × Store) :=
  match backend with
  | .memory =>
    .ok (row, { store with
      attempts := store.attempts.put row.attemptId row
      attemptsByLineage := store.attemptsByLineage.put row.lineageId
        ((store.attemptsByLineage.find row.lineageId).getD [] ++ [row.attemptId]) })
  | .postgres => do
    let lineage ← store.demandLineage row.lineageId
    store.requireWorkerWriteAuthority lineage.scope row.authority row.heartbeatAt
      "Stale fence holder cannot insert a watcher scan attempt."
    ensure (store.attempts.find row.attemptId = none) (.integrityError .attemptsPk)
    ensure (store.numberIsFree row lineage.organizationId) (.integrityError .attemptsNumber)
    return (row, store.putAttempt row lineage.scope)

def updateAttempt (backend : Backend) (store : Store) (row : ScanAttempt) :
    Except Refusal (ScanAttempt × Store) :=
  match backend with
  | .memory => .ok (row, { store with attempts := store.attempts.put row.attemptId row })
  | .postgres => do
    let lineage ← store.demandLineage row.lineageId
    if ¬IsOwnStaleFenceConfession (store.attempts.find row.attemptId) row then
      store.requireWorkerWriteAuthority lineage.scope row.authority
        (row.finishedAt.getD row.heartbeatAt)
        "Stale fence holder cannot update a watcher scan attempt."
    ensure (store.numberIsFree row lineage.organizationId) (.integrityError .attemptsNumber)
    return (row, store.putAttempt row lineage.scope)

/-! ## Child attempts -/

/-- `_scope_for_attempt`. -/
def scopeForAttempt (store : Store) (row : UnitRow) : Except Refusal ScopeKey :=
  match store.attemptScopes.find row.scanAttemptId with
  | some scope => .ok scope
  | none => do return (← store.demandLineage row.lineageId).scope

/-- `_authority_for_unit_write`: what the row leaves open is the parent's. -/
def authorityForUnitWrite (store : Store) (row : UnitRow) : Authority :=
  match store.attempts.find row.scanAttemptId with
  | none => ⟨none, row.leaseEpoch, row.fencingToken⟩
  | some parent => ⟨parent.workerId, row.leaseEpoch.or parent.leaseEpoch,
      row.fencingToken.or parent.fencingToken⟩

/-- The checks of `insert_source_fetch` and `insert_subscription_eval`. -/
def admitUnit (backend : Backend) (store : Store) (row : UnitRow) (stored : List UnitRow)
    (message : String) : Except Refusal Unit :=
  match backend with
  | .memory => .ok ()
  | .postgres => do
    let scope ← store.scopeForAttempt row
    store.requireWorkerWriteAuthority scope (store.authorityForUnitWrite row)
      (row.finishedAt.getD row.createdAt) message
    ensure (∀ other ∈ stored, other.unitAttemptId ≠ row.unitAttemptId) (.integrityError .unitsPk)
    ensure (store.attempts.find row.scanAttemptId ≠ none) (.integrityError .unitsAttempt)

def insertSourceFetch (backend : Backend) (store : Store) (row : SourceFetchAttempt) :
    Except Refusal (SourceFetchAttempt × Store) := do
  store.admitUnit backend row store.sourceFetches
    "Stale fence holder cannot insert a watcher source fetch."
  return (row, { store with sourceFetches := store.sourceFetches ++ [row] })

def insertSubscriptionEval (backend : Backend) (store : Store)
    (row : SubscriptionEvaluationAttempt) :
    Except Refusal (SubscriptionEvaluationAttempt × Store) := do
  store.admitUnit backend row store.subscriptionEvals
    "Stale fence holder cannot insert a watcher subscription evaluation."
  return (row, { store with subscriptionEvals := store.subscriptionEvals ++ [row] })

/-! ## Leases -/

def putLease (store : Store) (scope : ScopeKey) (lease : WorkerLease) : Store :=
  { store with leases := store.leases.put scope lease }

def claimLease (store : Store) (scope : ScopeKey) (ownerId : WorkerId) (ttlSeconds : Int)
    (now : Instant) (fencingToken : Option Nat) : Claim × Store :=
  match store.leases.find scope with
  | none =>
    let lease := newLease ownerId 1 now ttlSeconds
    (⟨lease, .claimed⟩, store.putLease scope lease)
  | some current =>
    if current.IsActive now then
      if current.ownerId = ownerId ∧ fencingToken = some current.fencingToken then
        let lease := current.renewed now ttlSeconds
        (⟨lease, .renewed⟩, store.putLease scope lease)
      else (⟨current, .leaseHeld⟩, store)
    else
      let lease := newLease ownerId (current.leaseEpoch + 1) now ttlSeconds
      (⟨lease, .claimed⟩, store.putLease scope lease)

def fenceIsActive (store : Store) (scope : ScopeKey) (ownerId : WorkerId) (fencingToken : Nat)
    (now : Instant) : Bool :=
  match store.leases.find scope with
  | none => false
  | some current => current.FenceMatches ownerId fencingToken now

def renewLease (store : Store) (scope : ScopeKey) (ownerId : WorkerId) (fencingToken : Nat)
    (ttlSeconds : Int) (now : Instant) : Bool × Store :=
  match store.leases.find scope with
  | none => (false, store)
  | some current =>
    if current.FenceMatches ownerId fencingToken now then
      (true, store.putLease scope (current.renewed now ttlSeconds))
    else (false, store)

def getLease (store : Store) (scope : ScopeKey) : Option WorkerLease := store.leases.find scope

/-! ## Heartbeats and health -/

def recordHeartbeat (backend : Backend) (store : Store) (scope : ScopeKey)
    (beat : WatcherHeartbeat) : Except Refusal (WatcherHeartbeat × Store) := do
  if backend = .postgres then
    requireCurrentLeaseAuthority (store.leases.find scope) (some beat.ownerId) beat.leaseEpoch
      beat.fencingToken beat.lastBeatAt scope.2
      "Stale fence holder cannot record a watcher heartbeat."
  return (beat, { store with heartbeats := store.heartbeats.put scope beat })

def admitHealth (store : Store) (scope : ScopeKey) (snapshot : WatcherHealthSnapshot) :
    Except Refusal Unit :=
  if snapshot.Claimed then
    requireCurrentLeaseAuthority (store.leases.find scope) snapshot.leaseOwner
      snapshot.leaseEpoch snapshot.fencingToken snapshot.generatedAt scope.2
      "Stale fence holder cannot publish watcher health."
  else
    ensure (∀ lease ∈ store.leases.find scope, ¬lease.IsActive snapshot.generatedAt)
      (.staleFence "Observer health cannot overwrite an active worker lease." scope.2
        .observerVsActive)

def rememberHealth (backend : Backend) (store : Store) (scope : ScopeKey)
    (snapshot : WatcherHealthSnapshot) : Except Refusal (Unit × Store) := do
  if backend = .postgres then store.admitHealth scope snapshot
  return ((), { store with health := store.health.put scope snapshot })

end Store

/-! ## Methods -/

inductive Operation where
  | getSchedule (organizationId : OrganizationId) (principalId : Option PrincipalId)
      (idempotencyKey : String)
  | insertSchedule (row : ScheduledScan)
  | getLineage (lineageId : LineageId) (organizationId : OrganizationId)
  | insertLineage (row : ScanLineage)
  | casLineageTerminal (lineageId : LineageId) (attemptId : AttemptId)
      (status : ScanAttemptStatus) (organizationId : OrganizationId)
  | listAttempts (lineageId : LineageId)
  | getAttempt (attemptId : AttemptId)
  | insertAttempt (row : ScanAttempt)
  | updateAttempt (row : ScanAttempt)
  | insertSourceFetch (row : SourceFetchAttempt)
  | insertSubscriptionEval (row : SubscriptionEvaluationAttempt)
  | claimLease (scope : ScopeKey) (ownerId : WorkerId) (ttlSeconds : Int) (now : Instant)
      (fencingToken : Option Nat)
  | renewLease (scope : ScopeKey) (ownerId : WorkerId) (fencingToken : Nat) (ttlSeconds : Int)
      (now : Instant)
  | getLease (scope : ScopeKey)
  | fenceIsActive (scope : ScopeKey) (ownerId : WorkerId) (fencingToken : Nat) (now : Instant)
  | recordHeartbeat (scope : ScopeKey) (beat : WatcherHeartbeat)
  | rememberHealth (scope : ScopeKey) (snapshot : WatcherHealthSnapshot)

abbrev Reply : Operation → Type
  | .getSchedule .. => Option ScheduledScan
  | .insertSchedule _ => ScheduledScan
  | .getLineage .. => Option ScanLineage
  | .insertLineage _ | .casLineageTerminal .. => ScanLineage
  | .listAttempts _ => List ScanAttempt
  | .getAttempt _ => Option ScanAttempt
  | .insertAttempt _ | .updateAttempt _ => ScanAttempt
  | .insertSourceFetch _ | .insertSubscriptionEval _ => UnitRow
  | .claimLease .. => Claim
  | .renewLease .. | .fenceIsActive .. => Bool
  | .getLease _ => Option WorkerLease
  | .recordHeartbeat .. => WatcherHeartbeat
  | .rememberHealth .. => Unit

namespace Store

/-- A call that raises is rolled back. -/
def commit {α : Type} (store : Store) (outcome : Except Refusal (α × Store)) :
    Except Refusal α × Store :=
  match outcome with
  | .error refusal => (.error refusal, store)
  | .ok (value, store) => (.ok value, store)

/-- One call: what it returns or raises, and the store it leaves. -/
def serve (backend : Backend) (store : Store) :
    (operation : Operation) → Except Refusal (Reply operation) × Store
  | .getSchedule organizationId principalId idempotencyKey =>
    (.ok (store.getSchedule organizationId principalId idempotencyKey), store)
  | .insertSchedule row => store.commit (store.insertSchedule backend row)
  | .getLineage lineageId organizationId => (store.getLineage lineageId organizationId, store)
  | .insertLineage row => store.commit (store.insertLineage row)
  | .casLineageTerminal lineageId attemptId status organizationId =>
    store.commit (store.casLineageTerminal backend lineageId attemptId status organizationId)
  | .listAttempts lineageId => (.ok (store.listAttempts backend lineageId), store)
  | .getAttempt attemptId => (.ok (store.attempts.find attemptId), store)
  | .insertAttempt row => store.commit (store.insertAttempt backend row)
  | .updateAttempt row => store.commit (store.updateAttempt backend row)
  | .insertSourceFetch row => store.commit (store.insertSourceFetch backend row)
  | .insertSubscriptionEval row => store.commit (store.insertSubscriptionEval backend row)
  | .claimLease scope ownerId ttlSeconds now fencingToken =>
    (store.claimLease scope ownerId ttlSeconds now fencingToken).map .ok id
  | .renewLease scope ownerId fencingToken ttlSeconds now =>
    (store.renewLease scope ownerId fencingToken ttlSeconds now).map .ok id
  | .getLease scope => (.ok (store.getLease scope), store)
  | .fenceIsActive scope ownerId fencingToken now =>
    (.ok (store.fenceIsActive scope ownerId fencingToken now), store)
  | .recordHeartbeat scope beat => store.commit (store.recordHeartbeat backend scope beat)
  | .rememberHealth scope snapshot => store.commit (store.rememberHealth backend scope snapshot)

end Store

end AlphaTrade.Watcher
