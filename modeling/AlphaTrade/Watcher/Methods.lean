import AlphaTrade.Watcher.Store

/-!
# What the methods of the watcher store do

One lemma for each method that writes: the cases in which it succeeds, and the store it then
leaves. A method that raises leaves the store alone.
-/
namespace AlphaTrade.Watcher
open Library
open Execution (OrganizationId Instant)

def Operation.IsClaim : Operation → Prop
  | .claimLease .. => True
  | _ => False

namespace Store

variable {backend : Backend} {store after : Store}

variable {lineageId : LineageId}

theorem demandLineage_eq_ok {lineage : ScanLineage} :
    store.demandLineage lineageId = .ok lineage ↔ store.lineages.find lineageId = some lineage := by
  unfold demandLineage
  cases store.lineages.find lineageId <;> simp

theorem demandAttempt_eq_ok {attemptId : AttemptId} {attempt : ScanAttempt} :
    store.demandAttempt attemptId = .ok attempt ↔ store.attempts.find attemptId = some attempt := by
  unfold demandAttempt
  cases store.attempts.find attemptId <;> simp

theorem getLineage_ok {organizationId : OrganizationId} {found : Option ScanLineage}
    (h : store.getLineage lineageId organizationId = .ok found) :
    store.lineages.find lineageId = found := by
  unfold getLineage at h
  split at h
  · rename_i absent
    cases h
    exact absent
  · rename_i current present
    obtain ⟨-, -, result⟩ := bind_eq_ok.mp h
    cases result
    exact present

theorem insertSchedule_ok {row stored : ScheduledScan}
    (h : store.insertSchedule backend row = .ok (stored, after)) :
    store.getSchedule row.organizationId row.principalId row.idempotencyKey = some stored ∧
        stored.requestHash = row.requestHash ∧ after = store ∨
      store.getSchedule row.organizationId row.principalId row.idempotencyKey = none ∧
        stored = row ∧ after = { store with
          schedules := store.schedules.put
            (row.organizationId, row.principalId, row.idempotencyKey) row } := by
  unfold insertSchedule at h
  split at h
  · rename_i existing found
    obtain ⟨_, same, result⟩ := bind_eq_ok.mp h
    cases result
    exact .inl ⟨found, ensure_eq_ok.mp same, rfl⟩
  · rename_i absent
    obtain ⟨-, -, result⟩ := bind_eq_ok.mp h
    cases result
    exact .inr ⟨absent, rfl, rfl⟩

theorem insertLineage_ok {row stored : ScanLineage}
    (h : store.insertLineage row = .ok (stored, after)) :
    store.lineages.find row.lineageId = some stored ∧ after = store ∨
      store.lineages.find row.lineageId = none ∧ stored = row ∧
        after = { store with lineages := store.lineages.put row.lineageId row } := by
  unfold insertLineage at h
  split at h
  · rename_i existing found
    obtain ⟨-, -, result⟩ := bind_eq_ok.mp h
    cases result
    exact .inl ⟨found, rfl⟩
  · rename_i absent
    cases h
    exact .inr ⟨absent, rfl, rfl⟩

end Store

def ScanLineage.published (lineage : ScanLineage) (attemptId : AttemptId)
    (status : ScanAttemptStatus) : ScanLineage :=
  { lineage with terminalAttemptId := some attemptId, terminalStatus := some status }

namespace Store

variable {backend : Backend} {store after : Store}

/-- The first success stays; anything else is overwritten by an attempt with authority. -/
theorem casLineageTerminal_ok {lineageId : LineageId} {attemptId : AttemptId}
    {status : ScanAttemptStatus} {organizationId : OrganizationId} {stored : ScanLineage}
    (h : store.casLineageTerminal backend lineageId attemptId status organizationId =
      .ok (stored, after)) :
    ∃ current, store.lineages.find lineageId = some current ∧
      (current.HasSucceeded ∧ stored = current ∧ after = store ∨
        ¬current.HasSucceeded ∧ store.requirePublishAuthority backend current attemptId = .ok () ∧
          stored = current.published attemptId status ∧
          after = { store with lineages := store.lineages.put lineageId stored }) := by
  obtain ⟨current, found, rest⟩ := bind_eq_ok.mp h
  obtain ⟨_, -, rest⟩ := bind_eq_ok.mp rest
  refine ⟨current, demandLineage_eq_ok.mp found, ?_⟩
  split at rest
  · rename_i succeeded
    cases rest
    exact .inl ⟨succeeded, rfl, rfl⟩
  · rename_i open'
    obtain ⟨_, authorized, result⟩ := bind_eq_ok.mp rest
    cases result
    exact .inr ⟨open', authorized, rfl, rfl⟩

/-- The store after a row was added or replaced. -/
structure AttemptWritten (store : Store) (row : ScanAttempt) (after : Store) : Prop where
  attempts : after.attempts = store.attempts.put row.attemptId row
  schedules : after.schedules = store.schedules
  lineages : after.lineages = store.lineages
  leases : after.leases = store.leases
  sourceFetches : after.sourceFetches = store.sourceFetches
  subscriptionEvals : after.subscriptionEvals = store.subscriptionEvals

theorem attemptWritten_putAttempt (row : ScanAttempt) (scope : ScopeKey) :
    store.AttemptWritten row (store.putAttempt row scope) := ⟨rfl, rfl, rfl, rfl, rfl, rfl⟩

theorem insertAttempt_postgres {row stored : ScanAttempt}
    (h : store.insertAttempt .postgres row = .ok (stored, after)) :
    ∃ lineage, store.lineages.find row.lineageId = some lineage ∧
      (∃ message, store.requireWorkerWriteAuthority lineage.scope row.authority row.heartbeatAt
        message = .ok ()) ∧
      store.attempts.find row.attemptId = none ∧ store.numberIsFree row lineage.organizationId ∧
      stored = row ∧ after = store.putAttempt row lineage.scope := by
  obtain ⟨lineage, found, rest⟩ := bind_eq_ok.mp h
  obtain ⟨_, authorized, rest⟩ := bind_eq_ok.mp rest
  obtain ⟨_, absent, rest⟩ := bind_eq_ok.mp rest
  obtain ⟨_, free, result⟩ := bind_eq_ok.mp rest
  cases result
  exact ⟨lineage, demandLineage_eq_ok.mp found, ⟨_, authorized⟩, ensure_eq_ok.mp absent,
    ensure_eq_ok.mp free, rfl, rfl⟩

theorem insertAttempt_ok {row stored : ScanAttempt}
    (h : store.insertAttempt backend row = .ok (stored, after)) :
    stored = row ∧ store.AttemptWritten row after := by
  cases backend with
  | memory =>
    cases h
    exact ⟨rfl, rfl, rfl, rfl, rfl, rfl, rfl⟩
  | postgres =>
    obtain ⟨lineage, -, -, -, -, rfl, rfl⟩ := insertAttempt_postgres h
    exact ⟨rfl, attemptWritten_putAttempt ..⟩

theorem updateAttempt_postgres {row stored : ScanAttempt}
    (h : store.updateAttempt .postgres row = .ok (stored, after)) :
    ∃ lineage, store.lineages.find row.lineageId = some lineage ∧
      (IsOwnStaleFenceConfession (store.attempts.find row.attemptId) row ∨
        ∃ message, store.requireWorkerWriteAuthority lineage.scope row.authority
          (row.finishedAt.getD row.heartbeatAt) message = .ok ()) ∧
      store.numberIsFree row lineage.organizationId ∧
      stored = row ∧ after = store.putAttempt row lineage.scope := by
  obtain ⟨lineage, found, rest⟩ := bind_eq_ok.mp h
  refine ⟨lineage, demandLineage_eq_ok.mp found, ?_⟩
  dsimp only at rest
  split at rest
  · rename_i fenced
    obtain ⟨_, authorized, rest⟩ := bind_eq_ok.mp rest
    obtain ⟨_, free, result⟩ := bind_eq_ok.mp rest
    cases result
    exact ⟨.inr ⟨_, authorized⟩, ensure_eq_ok.mp free, rfl, rfl⟩
  · rename_i confession
    obtain ⟨_, free, result⟩ := bind_eq_ok.mp rest
    cases result
    exact ⟨.inl (not_not.mp confession), ensure_eq_ok.mp free, rfl, rfl⟩

theorem updateAttempt_ok {row stored : ScanAttempt}
    (h : store.updateAttempt backend row = .ok (stored, after)) :
    stored = row ∧ store.AttemptWritten row after := by
  cases backend with
  | memory =>
    cases h
    exact ⟨rfl, rfl, rfl, rfl, rfl, rfl, rfl⟩
  | postgres =>
    obtain ⟨lineage, -, -, -, rfl, rfl⟩ := updateAttempt_postgres h
    exact ⟨rfl, attemptWritten_putAttempt ..⟩

theorem insertSourceFetch_ok {row stored : SourceFetchAttempt}
    (h : store.insertSourceFetch backend row = .ok (stored, after)) :
    (∃ message, store.admitUnit backend row store.sourceFetches message = .ok ()) ∧
      after = { store with sourceFetches := store.sourceFetches ++ [row] } := by
  obtain ⟨_, admitted, result⟩ := bind_eq_ok.mp h
  cases result
  exact ⟨⟨_, admitted⟩, rfl⟩

theorem insertSubscriptionEval_ok {row stored : SubscriptionEvaluationAttempt}
    (h : store.insertSubscriptionEval backend row = .ok (stored, after)) :
    (∃ message, store.admitUnit backend row store.subscriptionEvals message = .ok ()) ∧
      after = { store with subscriptionEvals := store.subscriptionEvals ++ [row] } := by
  obtain ⟨_, admitted, result⟩ := bind_eq_ok.mp h
  cases result
  exact ⟨⟨_, admitted⟩, rfl⟩

variable {scope : ScopeKey}

theorem recordHeartbeat_ok {beat stored : WatcherHeartbeat}
    (h : store.recordHeartbeat backend scope beat = .ok (stored, after)) :
    (backend = .postgres → ∃ message, requireCurrentLeaseAuthority (store.leases.find scope)
      (some beat.ownerId) beat.leaseEpoch beat.fencingToken beat.lastBeatAt scope.2 message =
        .ok ()) ∧
      after = { store with heartbeats := store.heartbeats.put scope beat } := by
  unfold recordHeartbeat at h
  dsimp only at h
  split at h
  · obtain ⟨_, authorized, result⟩ := bind_eq_ok.mp h
    cases result
    exact ⟨fun _ => ⟨_, authorized⟩, rfl⟩
  · rename_i other
    cases h
    exact ⟨fun postgres => absurd postgres other, rfl⟩

theorem rememberHealth_ok {snapshot : WatcherHealthSnapshot}
    (h : store.rememberHealth backend scope snapshot = .ok ((), after)) :
    (backend = .postgres → store.admitHealth scope snapshot = .ok ()) ∧
      after = { store with health := store.health.put scope snapshot } := by
  unfold rememberHealth at h
  dsimp only at h
  split at h
  · obtain ⟨_, authorized, result⟩ := bind_eq_ok.mp h
    cases result
    exact ⟨fun _ => authorized, rfl⟩
  · rename_i other
    cases h
    exact ⟨fun postgres => absurd postgres other, rfl⟩

/-! ## Leases -/

/-- A claim renews, is turned down, or takes the next epoch. -/
theorem claimLease_cases (store : Store) (scope : ScopeKey) (ownerId : WorkerId)
    (ttlSeconds : Int) (now : Instant) (fencingToken : Option Nat) :
    (∃ lease, store.leases.find scope = some lease ∧ lease.IsActive now ∧
      lease.ownerId = ownerId ∧ fencingToken = some lease.fencingToken ∧
      store.claimLease scope ownerId ttlSeconds now fencingToken =
        (⟨lease.renewed now ttlSeconds, .renewed⟩,
          store.putLease scope (lease.renewed now ttlSeconds))) ∨
    (∃ lease, store.leases.find scope = some lease ∧ lease.IsActive now ∧
      store.claimLease scope ownerId ttlSeconds now fencingToken =
        (⟨lease, .leaseHeld⟩, store)) ∨
    (∀ lease ∈ store.leases.find scope, ¬lease.IsActive now) ∧
      ∃ lease, lease = newLease ownerId
        (((store.leases.find scope).map WorkerLease.leaseEpoch).getD 0 + 1) now ttlSeconds ∧
      store.claimLease scope ownerId ttlSeconds now fencingToken =
        (⟨lease, .claimed⟩, store.putLease scope lease) := by
  unfold claimLease
  cases found : store.leases.find scope with
  | none => exact .inr (.inr ⟨by simp, _, rfl, rfl⟩)
  | some lease =>
    dsimp only
    split_ifs with active own
    · exact .inl ⟨lease, rfl, active, own.1, own.2, rfl⟩
    · exact .inr (.inl ⟨lease, rfl, active, rfl⟩)
    · exact .inr (.inr ⟨by simpa using active, _, rfl, rfl⟩)

/-- A renewal touches the two times of a lease that matches and is not expired. -/
theorem renewLease_cases (store : Store) (scope : ScopeKey) (ownerId : WorkerId)
    (fencingToken : Nat) (ttlSeconds : Int) (now : Instant) :
    store.renewLease scope ownerId fencingToken ttlSeconds now = (false, store) ∨
      ∃ lease, store.leases.find scope = some lease ∧
        lease.FenceMatches ownerId fencingToken now ∧
        store.renewLease scope ownerId fencingToken ttlSeconds now =
          (true, store.putLease scope (lease.renewed now ttlSeconds)) := by
  unfold renewLease
  cases found : store.leases.find scope with
  | none => exact .inl rfl
  | some lease =>
    dsimp only
    split_ifs with isMatch
    · exact .inr ⟨lease, rfl, isMatch, rfl⟩
    · exact .inl rfl

/-- A claim writes leases only. -/
theorem claimLease_frame (store : Store) (scope : ScopeKey) (ownerId : WorkerId)
    (ttlSeconds : Int) (now : Instant) (fencingToken : Option Nat) :
    (store.claimLease scope ownerId ttlSeconds now fencingToken).2 = { store with
      leases := (store.claimLease scope ownerId ttlSeconds now fencingToken).2.leases } := by
  obtain ⟨_, -, -, -, -, result⟩ | ⟨_, -, -, result⟩ | ⟨-, _, -, result⟩ :=
    store.claimLease_cases scope ownerId ttlSeconds now fencingToken
  · rw [result]
    rfl
  · rw [result]
  · rw [result]
    rfl

/-- A renewal writes leases only. -/
theorem renewLease_frame (store : Store) (scope : ScopeKey) (ownerId : WorkerId)
    (fencingToken : Nat) (ttlSeconds : Int) (now : Instant) :
    (store.renewLease scope ownerId fencingToken ttlSeconds now).2 = { store with
      leases := (store.renewLease scope ownerId fencingToken ttlSeconds now).2.leases } := by
  obtain result | ⟨_, -, -, result⟩ :=
    store.renewLease_cases scope ownerId fencingToken ttlSeconds now
  · rw [result]
  · rw [result]
    rfl

/-! ## Every method -/

/-- What a call can have done to the store. -/
inductive Written (backend : Backend) (store : Store) : Operation → Store → Prop
  | nothing {operation : Operation} (other : ¬operation.IsClaim) :
      Written backend store operation store
  | schedule (row : ScheduledScan)
      (absent : store.getSchedule row.organizationId row.principalId row.idempotencyKey = none) :
      Written backend store (.insertSchedule row) { store with
        schedules := store.schedules.put
          (row.organizationId, row.principalId, row.idempotencyKey) row }
  | lineage (row : ScanLineage) (absent : store.lineages.find row.lineageId = none) :
      Written backend store (.insertLineage row)
        { store with lineages := store.lineages.put row.lineageId row }
  | publication {lineageId : LineageId} {current : ScanLineage} (attemptId : AttemptId)
      (status : ScanAttemptStatus) (organizationId : OrganizationId)
      (found : store.lineages.find lineageId = some current) (unfinished : ¬current.HasSucceeded)
      (authorized : store.requirePublishAuthority backend current attemptId = .ok ()) :
      Written backend store (.casLineageTerminal lineageId attemptId status organizationId)
        { store with
          lineages := store.lineages.put lineageId (current.published attemptId status) }
  | attemptInserted {row : ScanAttempt} {after : Store}
      (inserted : store.insertAttempt backend row = .ok (row, after)) :
      Written backend store (.insertAttempt row) after
  | attemptUpdated {row : ScanAttempt} {after : Store}
      (updated : store.updateAttempt backend row = .ok (row, after)) :
      Written backend store (.updateAttempt row) after
  | sourceFetch (row : SourceFetchAttempt) {message : String}
      (admitted : store.admitUnit backend row store.sourceFetches message = .ok ()) :
      Written backend store (.insertSourceFetch row)
        { store with sourceFetches := store.sourceFetches ++ [row] }
  | subscriptionEval (row : SubscriptionEvaluationAttempt) {message : String}
      (admitted : store.admitUnit backend row store.subscriptionEvals message = .ok ()) :
      Written backend store (.insertSubscriptionEval row)
        { store with subscriptionEvals := store.subscriptionEvals ++ [row] }
  | claimed (scope : ScopeKey) (ownerId : WorkerId) (ttlSeconds : Int) (now : Instant)
      (fencingToken : Option Nat) :
      Written backend store (.claimLease scope ownerId ttlSeconds now fencingToken)
        (store.claimLease scope ownerId ttlSeconds now fencingToken).2
  | renewed (scope : ScopeKey) (ownerId : WorkerId) (fencingToken : Nat) (ttlSeconds : Int)
      (now : Instant) :
      Written backend store (.renewLease scope ownerId fencingToken ttlSeconds now)
        (store.renewLease scope ownerId fencingToken ttlSeconds now).2
  | heartbeat (scope : ScopeKey) (beat : WatcherHeartbeat)
      (authorized : backend = .postgres → ∃ message,
        requireCurrentLeaseAuthority (store.leases.find scope) (some beat.ownerId)
          beat.leaseEpoch beat.fencingToken beat.lastBeatAt scope.2 message = .ok ()) :
      Written backend store (.recordHeartbeat scope beat)
        { store with heartbeats := store.heartbeats.put scope beat }
  | health (scope : ScopeKey) (snapshot : WatcherHealthSnapshot)
      (admitted : backend = .postgres → store.admitHealth scope snapshot = .ok ()) :
      Written backend store (.rememberHealth scope snapshot)
        { store with health := store.health.put scope snapshot }

theorem commit_cases {α : Type} (store : Store) (outcome : Except Refusal (α × Store)) :
    (store.commit outcome).2 = store ∨
      ∃ value after, outcome = .ok (value, after) ∧ store.commit outcome = (.ok value, after) := by
  cases outcome with
  | error refusal => exact .inl rfl
  | ok result => exact .inr ⟨result.1, result.2, rfl, rfl⟩

/-- A call that raises has done nothing; one that returns has done what its method does. -/
theorem written_commit {α : Type} {operation : Operation} {outcome : Except Refusal (α × Store)}
    (other : ¬operation.IsClaim)
    (returned : ∀ value after, outcome = .ok (value, after) →
      Written backend store operation after) :
    Written backend store operation (store.commit outcome).2 := by
  obtain raised | ⟨value, after, ok, result⟩ := store.commit_cases outcome
  · rw [raised]
    exact .nothing other
  · rw [result]
    exact returned value after ok

theorem serve_written (backend : Backend) (store : Store) (operation : Operation) :
    Written backend store operation (store.serve backend operation).2 := by
  cases operation with
  | getSchedule | getLineage | listAttempts | getAttempt | getLease | fenceIsActive =>
    exact .nothing not_false
  | claimLease scope ownerId ttlSeconds now fencingToken => exact .claimed ..
  | renewLease scope ownerId fencingToken ttlSeconds now => exact .renewed ..
  | insertSchedule row =>
    refine written_commit not_false fun _ _ ok => ?_
    obtain ⟨-, -, rfl⟩ | ⟨absent, -, rfl⟩ := insertSchedule_ok ok
    · exact .nothing not_false
    · exact .schedule row absent
  | insertLineage row =>
    refine written_commit not_false fun _ _ ok => ?_
    obtain ⟨-, rfl⟩ | ⟨absent, -, rfl⟩ := insertLineage_ok ok
    · exact .nothing not_false
    · exact .lineage row absent
  | casLineageTerminal lineageId attemptId status organizationId =>
    refine written_commit not_false fun _ _ ok => ?_
    obtain ⟨current, found, ⟨-, -, rfl⟩ | ⟨unfinished, authorized, rfl, rfl⟩⟩ :=
      casLineageTerminal_ok ok
    · exact .nothing not_false
    · exact .publication attemptId status organizationId found unfinished authorized
  | insertAttempt row =>
    refine written_commit not_false fun (value : ScanAttempt) _ ok => ?_
    obtain ⟨rfl, -⟩ := insertAttempt_ok ok
    exact .attemptInserted ok
  | updateAttempt row =>
    refine written_commit not_false fun (value : ScanAttempt) _ ok => ?_
    obtain ⟨rfl, -⟩ := updateAttempt_ok ok
    exact .attemptUpdated ok
  | insertSourceFetch row =>
    refine written_commit not_false fun _ _ ok => ?_
    obtain ⟨⟨_, admitted⟩, rfl⟩ := insertSourceFetch_ok ok
    exact .sourceFetch row admitted
  | insertSubscriptionEval row =>
    refine written_commit not_false fun _ _ ok => ?_
    obtain ⟨⟨_, admitted⟩, rfl⟩ := insertSubscriptionEval_ok ok
    exact .subscriptionEval row admitted
  | recordHeartbeat scope beat =>
    refine written_commit not_false fun _ _ ok => ?_
    obtain ⟨authorized, rfl⟩ := recordHeartbeat_ok ok
    exact .heartbeat scope beat authorized
  | rememberHealth scope snapshot =>
    refine written_commit not_false fun _ _ ok => ?_
    obtain ⟨admitted, rfl⟩ := rememberHealth_ok ok
    exact .health scope snapshot admitted

end Store

end AlphaTrade.Watcher
