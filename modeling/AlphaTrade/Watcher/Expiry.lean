import Mathlib
import AlphaTrade.Watcher.Fencing
import AlphaTrade.Watcher.Publishing

/-!
# Publications and the expiry of the lease

A publication on the PostgreSQL store judges the lease by the time of the attempt's last
heartbeat, which is not later than the evaluation and may be much earlier than the call. The
lease is then the attempt's worker's, but it may have expired. It has not where fewer seconds
have passed since its last renewal than a lease lasts.
-/
namespace AlphaTrade.Watcher
open Library Program
open Execution (OrganizationId Instant)

abbrev Workers := Pool Answer Job World Refusal JobResult

def Publishing (pool : Workers) (move : Move Job) (lineage : ScanLineage)
    (attempt : ScanAttempt) : Prop :=
  ∃ place job lineageId attemptId status organizationId outcome next,
    move = .advance place ∧
      pool.running[place]? = some (job,
        .call (.publish lineageId attemptId status organizationId outcome) next) ∧
      pool.store.Publishes .postgres lineageId attemptId status organizationId ∧
      pool.store.store.lineages.find lineageId = some lineage ∧
      pool.store.store.attempts.find attemptId = some attempt

/-- A worker's attempt publishes only under the lease of the scope: it is held by that worker
under that epoch and token and has not expired at the clock. -/
def UnderLiveLease (pool : Workers) (move : Move Job) : Prop :=
  ∀ lineage attempt workerId, Publishing pool move lineage attempt →
    attempt.workerId = some workerId →
    ∃ lease, pool.store.store.leases.find lineage.scope = some lease ∧
      lease.ownerId = workerId ∧ attempt.leaseEpoch = some lease.leaseEpoch ∧
      attempt.fencingToken = some lease.fencingToken ∧ lease.IsActive pool.store.clock

/-- Where a worker's attempt publishes, fewer seconds have passed since the last renewal of
the lease than a lease lasts. -/
def SoonAfterRenewal (env : Environment) (pool : Workers) (move : Move Job) : Prop :=
  ∀ lineage attempt workerId, Publishing pool move lineage attempt →
    attempt.workerId = some workerId →
    ∀ lease, pool.store.store.leases.find lineage.scope = some lease →
      pool.store.clock < lease.renewedAt + seconds env.config.leaseTtlSeconds

/-! ## Leases last as configured -/

variable {backend : Backend} {env : Environment}

def LeasesLast (env : Environment) (world : World) : Prop :=
  ∀ {scope lease}, world.store.leases.find scope = some lease →
    lease.expiresAt = lease.renewedAt + seconds env.config.leaseTtlSeconds

theorem leasesLast_putLease {store : Store}
    (last : ∀ {scope lease}, store.leases.find scope = some lease →
      lease.expiresAt = lease.renewedAt + seconds env.config.leaseTtlSeconds)
    {scope other : ScopeKey} {lease lease' : WorkerLease}
    (written : lease.expiresAt = lease.renewedAt + seconds env.config.leaseTtlSeconds)
    (found : (store.putLease scope lease).leases.find other = some lease') :
    lease'.expiresAt = lease'.renewedAt + seconds env.config.leaseTtlSeconds := by
  obtain ⟨-, rfl⟩ | ⟨-, before⟩ := Table.find_put_cases found
  · exact written
  · exact last before

theorem LeasesLast.serve {world : World} (last : LeasesLast env world) {request : Call}
    (proper : Proper env.config request) :
    LeasesLast env (World.serve backend request world).2 := by
  intro scope lease found
  cases request with
  | now | freshId | pass | evaluate => exact last found
  | publish lineageId attemptId status organizationId outcome =>
    obtain ⟨-, same⟩ | ⟨current, -, -, -, served⟩ :=
      world.publish_cases backend lineageId attemptId status organizationId outcome
    · rw [same] at found
      exact last found
    · rw [served] at found
      exact last found
  | store operation =>
    change (world.store.serve backend operation).2.leases.find scope = some lease at found
    have written := Store.serve_written backend world.store operation
    generalize (world.store.serve backend operation).2 = after at found written
    cases written with
    | nothing | schedule | lineage | publication | sourceFetch | subscriptionEval | heartbeat |
      health => exact last found
    | attemptInserted inserted =>
      rw [(Store.insertAttempt_ok inserted).2.leases] at found
      exact last found
    | attemptUpdated updated =>
      rw [(Store.updateAttempt_ok updated).2.leases] at found
      exact last found
    | claimed key ownerId ttlSeconds now fencingToken =>
      obtain rfl : ttlSeconds = env.config.leaseTtlSeconds := proper
      obtain ⟨current, -, -, -, -, result⟩ | ⟨current, -, -, result⟩ | ⟨-, new, rfl, result⟩ :=
        world.store.claimLease_cases key ownerId env.config.leaseTtlSeconds now fencingToken
      · rw [result] at found
        exact leasesLast_putLease last rfl found
      · rw [result] at found
        exact last found
      · rw [result] at found
        exact leasesLast_putLease last rfl found
    | renewed key ownerId fencingToken ttlSeconds now =>
      obtain rfl : ttlSeconds = env.config.leaseTtlSeconds := proper
      obtain result | ⟨current, -, -, result⟩ :=
        world.store.renewLease_cases key ownerId fencingToken env.config.leaseTtlSeconds now
      · rw [result] at found
        exact last found
      · rw [result] at found
        exact leasesLast_putLease last rfl found

def lasting (backend : Backend) (env : Environment) : (machine backend env).Discipline :=
  .ofAsks (LeasesLast env) (Proper env.config) (fun _ => Returns HonestResult)
    (together_comm backend env) (asks_program env) fun _ _ last proper => last.serve proper

/-! ## Publications -/

variable {pool : Workers}

/-- The check of a publication: the lease is the worker's, at the attempt's own time. -/
theorem Publishing.authority {move : Move Job} {lineage : ScanLineage} {attempt : ScanAttempt}
    (publishing : Publishing pool move lineage attempt) {workerId : WorkerId}
    (worker : attempt.workerId = some workerId) :
    ∃ lease, pool.store.store.leases.find lineage.scope = some lease ∧
      lease.ownerId = workerId ∧ attempt.leaseEpoch = some lease.leaseEpoch ∧
      attempt.fencingToken = some lease.fencingToken ∧
      lease.IsActive (attempt.finishedAt.getD attempt.heartbeatAt) := by
  obtain ⟨-, -, lineageId, attemptId, status, organizationId, outcome, -, -, -, publishes, found,
    found'⟩ := publishing
  obtain ⟨silent, -⟩ | ⟨current, there, -, authorized, -⟩ :=
    pool.store.publish_cases .postgres lineageId attemptId status organizationId outcome
  · exact absurd publishes silent
  · obtain rfl := Option.some.inj (found.symm.trans there)
    obtain ⟨stored, demanded, checked⟩ := bind_eq_ok.mp authorized
    obtain rfl := Option.some.inj (found'.symm.trans (Store.demandAttempt_eq_ok.mp demanded))
    obtain ⟨lease, held, same, active⟩ :=
      Store.requireWorkerWriteAuthority_ok checked (.inl (by simp [ScanAttempt.authority, worker]))
    obtain ⟨owner, epoch, token⟩ := Authority.mk.inj same
    exact ⟨lease, held, Option.some.inj (owner.symm.trans worker), epoch, token, active⟩

/-- A publication meets the promise exactly where it comes soon after a renewal. -/
theorem underLiveLease_iff (last : LeasesLast env pool.store) (move : Move Job) :
    UnderLiveLease pool move ↔ SoonAfterRenewal env pool move := by
  constructor
  · intro live lineage attempt workerId publishing worker lease found
    obtain ⟨lease', found', -, -, -, active⟩ := live lineage attempt workerId publishing worker
    obtain rfl := Option.some.inj (found.symm.trans found')
    rw [← last found]
    exact active
  · intro soon lineage attempt workerId publishing worker
    obtain ⟨lease, found, owner, epoch, token, -⟩ := publishing.authority worker
    refine ⟨lease, found, owner, epoch, token, ?_⟩
    have early := soon lineage attempt workerId publishing worker lease found
    rw [← last found] at early
    exact early

theorem along_underLiveLease_iff (sound : Machine.Sound (lasting .postgres env) pool)
    (moves : List (Move Job)) :
    Along (machine .postgres env).step UnderLiveLease pool moves ↔
      Along (machine .postgres env).step (SoonAfterRenewal env) pool moves := by
  induction moves generalizing pool with
  | nil => exact Iff.rfl
  | cons move moves ih =>
    exact and_congr (underLiveLease_iff sound.inv move) (ih (Machine.step_sound sound move))

theorem scan_ne_empty : "scan" ≠ "" := by decide

def sampleRequest : ScanRequest where
  organizationId := 1
  principalId := none
  scanScope := ⟨"scan", scan_ne_empty⟩
  policyId := 1
  policyVersion := 1
  policyContentHash := "policy"
  watchlistItemIds := []
  timeframe := none
  sourceContextId := none
  idempotencyKey := "key"

def sampleEnvironment : Environment where
  config := ⟨true, 30, by decide⟩
  scanRequestHash _ := "request"
  evaluationInputHash _ := "input"
  sanitize text := text

/-- An evaluator that succeeds at once, without a candidate. -/
def sampleBoundary : Boundary where
  evaluate command := .ok {
    commandId := command.commandId
    requestHash := command.requestHash
    evaluationInputHash := command.evaluationInputHash
    status := .succeeded
    reasonCode := "no_setup" }
  beats := 0
  persistConfirmedSetup := none
  persistBeats := 0

def slowRun : List (Move Job) :=
  .start (.worker sampleBoundary sampleRequest "first" none) ::
    List.replicate 33 (.advance 0) ++ [.start (.pass 40000000), .advance 0, .advance 0]

end AlphaTrade.Watcher
