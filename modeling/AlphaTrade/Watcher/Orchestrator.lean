import Mathlib
import AlphaTrade.Library.Program
import AlphaTrade.Watcher.Store

/-!
# The watcher orchestrator

A worker cycle claims the lease of its scope, opens or resumes an attempt, has it evaluated
and publishes the outcome: first the terminal state of the lineage, then the status of the
attempt. A manual evaluation shares the evaluator and the publication and holds no lease.

Each call of the store and each reading of the clock is one request of a program. The
evaluator is untrusted: what it returns or raises is an argument, and so is how often it
reports progress, which renews the lease. Health is reduced to the check that its write has
to pass, and the observability events are left out. The evaluations and the publications are
logged beside the store; no program reads the log.
-/
namespace AlphaTrade.Watcher
open Library
open Execution (OrganizationId Instant)

/-! ## Contracts -/

inductive EvaluationStatus where
  | succeeded | failed | degraded | blocked
  deriving DecidableEq, Repr

inductive UnitAttemptKind where
  | sourceFetch | subscriptionEvaluation
  deriving DecidableEq, Repr

structure ScanRequest where
  organizationId : OrganizationId
  principalId : Option PrincipalId
  scanScope : ScanScope
  policyId : PolicyId
  policyVersion : Nat
  policyContentHash : String
  watchlistItemIds : List Nat
  timeframe : Option String
  sourceContextId : Option Nat
  idempotencyKey : String
  deriving DecidableEq

def ScanRequest.scope (request : ScanRequest) : ScopeKey :=
  (request.organizationId, request.scanScope)

structure EvaluationCommand where
  commandId : Nat
  request : ScanRequest
  requestHash : String
  evaluationInputHash : String
  mode : EvaluationMode
  trigger : ScanTrigger
  lineageId : Option LineageId := none
  attemptId : Option AttemptId := none
  leaseEpoch : Option Nat := none
  fencingToken : Option Nat := none
  workerId : Option WorkerId := none
  correlationId : Nat
  deriving DecidableEq

structure UnitAttempt where
  kind : UnitAttemptKind
  subjectId : Nat
  status : UnitAttemptStatus
  reasonCode : Option String := none
  sourceFreshnessToken : Option String := none
  evidenceValidityToken : Option String := none
  error : Option String := none
  deriving DecidableEq

structure EvaluationOutcome where
  commandId : Nat
  requestHash : String
  evaluationInputHash : String
  status : EvaluationStatus
  reasonCode : String
  failedUnits : Nat := 0
  unitAttempts : List UnitAttempt := []
  evidenceValidityToken : Option String := none
  error : Option String := none
  candidateIds : List Nat := []
  deriving DecidableEq

inductive ScheduleStatus where
  | accepted | replayed | blocked
  deriving DecidableEq, Repr

structure ScheduleResult where
  status : ScheduleStatus
  replayed : Bool
  scheduledScanId : Option ScheduleId
  lineageId : Option LineageId
  requestHash : String
  reasonCode : String
  deriving DecidableEq

inductive WorkerCycleStatus where
  | succeeded | failed | degraded | blocked | skipped | rejectedStaleFence
  deriving DecidableEq, Repr

structure WorkerCycleResult where
  status : WorkerCycleStatus
  replayed : Bool
  lineageId : Option LineageId
  attemptId : Option AttemptId
  requestHash : String
  fencingToken : Option Nat
  leaseEpoch : Option Nat
  outcome : Option EvaluationOutcome
  reasonCode : String
  published : Bool
  deriving DecidableEq

structure EvaluationResult where
  outcome : EvaluationOutcome
  persisted : Bool
  replayed : Bool
  lineageId : Option LineageId
  attemptId : Option AttemptId
  evaluationInputHash : String
  reasonCode : String
  deriving DecidableEq

structure WatcherRuntimeConfig where
  enabled : Bool
  leaseTtlSeconds : Nat
  ttl_bounds : 1 ≤ leaseTtlSeconds ∧ leaseTtlSeconds ≤ 3600

/-- What the orchestrator is built with: its configuration, the two hashes of a request and
the redaction of an error text. -/
structure Environment where
  config : WatcherRuntimeConfig
  scanRequestHash : ScanRequest → String
  evaluationInputHash : ScanRequest → String
  sanitize : String → String

/-! ## Outcomes -/

def truthy : Option String → Bool
  | none => false
  | some text => text ≠ ""

/-- Python's `value or default` for an optional text. -/
def orText (value : Option String) (default : String) : String :=
  match value with
  | none => default
  | some text => if text = "" then default else text

/-- `_SHA256_HEX`. -/
def IsSha256Hex (token : String) : Prop :=
  token.toList.length = 64 ∧
    ∀ c ∈ token.toList, ('0' ≤ c ∧ c ≤ '9') ∨ ('a' ≤ c ∧ c ≤ 'f')

instance (token : String) : Decidable (IsSha256Hex token) := instDecidableAnd

def unitFailures (outcome : EvaluationOutcome) : Nat :=
  outcome.unitAttempts.countP fun attempt => attempt.status = .failed

/-- `_canonical_candidate_publication_allowed`. -/
def CanonicalCandidatePublicationAllowed (outcome : EvaluationOutcome) (failedUnits : Nat) :
    Prop :=
  outcome.status = .succeeded ∧ failedUnits = 0 ∧ truthy outcome.error = false ∧
    outcome.candidateIds.length = 1 ∧ outcome.reasonCode = "confirmed_setup" ∧
    ∃ token ∈ outcome.evidenceValidityToken, IsSha256Hex token

instance (outcome : EvaluationOutcome) (failedUnits : Nat) :
    Decidable (CanonicalCandidatePublicationAllowed outcome failedUnits) := by
  unfold CanonicalCandidatePublicationAllowed
  infer_instance

/-- `_honest_outcome`. -/
def honestOutcome (outcome : EvaluationOutcome) : EvaluationOutcome :=
  let failedUnits := max outcome.failedUnits (unitFailures outcome)
  if outcome.status = .succeeded ∧ (0 < failedUnits ∨ truthy outcome.error) then
    { outcome with
      status := .failed
      reasonCode := "failure_not_propagated"
      failedUnits := failedUnits
      error := some (orText outcome.error "unit failure cannot be a successful scan")
      candidateIds := [] }
  else if outcome.candidateIds ≠ [] then
    if ¬CanonicalCandidatePublicationAllowed outcome failedUnits then
      { outcome with
        status := .failed
        reasonCode := "candidate_creation_forbidden"
        error := some "watcher forbids non-canonical candidate publication"
        candidateIds := []
        failedUnits := max failedUnits 1 }
    else { outcome with failedUnits := failedUnits }
  else { outcome with failedUnits := failedUnits, candidateIds := [] }

/-- `_attempt_status_for`. -/
def attemptStatusFor : EvaluationStatus → ScanAttemptStatus
  | .succeeded => .succeeded
  | .failed => .failed
  | .degraded => .degraded
  | .blocked => .blocked

/-- `_cycle_status`. -/
def cycleStatus (status : EvaluationStatus) (published : Bool) : WorkerCycleStatus :=
  if ¬published ∧ status = .failed then .rejectedStaleFence
  else
    match status with
    | .succeeded => .succeeded
    | .failed => .failed
    | .degraded => .degraded
    | .blocked => .blocked

/-- The value of an `EvaluationStatus`. -/
def EvaluationStatus.value : EvaluationStatus → String
  | .succeeded => "succeeded"
  | .failed => "failed"
  | .degraded => "degraded"
  | .blocked => "blocked"

def EvaluationCommand.blockedOutcome (command : EvaluationCommand) (reasonCode : String) :
    EvaluationOutcome where
  commandId := command.commandId
  requestHash := command.requestHash
  evaluationInputHash := command.evaluationInputHash
  status := .blocked
  reasonCode := reasonCode

def Environment.failedOutcome (env : Environment) (command : EvaluationCommand)
    (reasonCode exception : String) : EvaluationOutcome where
  commandId := command.commandId
  requestHash := command.requestHash
  evaluationInputHash := command.evaluationInputHash
  status := .failed
  reasonCode := reasonCode
  error := some (env.sanitize exception)

def Environment.orFailed (env : Environment) (command : EvaluationCommand) (reasonCode : String) :
    Except String EvaluationOutcome → EvaluationOutcome
  | .ok outcome => outcome
  | .error exception => env.failedOutcome command reasonCode exception

/-! ## The world -/

/-- A publication that has set the terminal state of a lineage, with its outcome. -/
structure Publication where
  lineageId : LineageId
  attemptId : AttemptId
  status : ScanAttemptStatus
  outcome : EvaluationOutcome
  deriving DecidableEq

/-- The clock, the identifiers drawn so far, the store, and the log. -/
structure World where
  clock : Instant
  nextId : Nat
  store : Store
  evaluations : List EvaluationCommand
  publications : List Publication

def World.initial (clock : Instant) : World where
  clock := clock
  nextId := 0
  store := .empty
  evaluations := []
  publications := []

/-- A request of a program. `publish` is `cas_lineage_terminal`, with the outcome that is
being published for the log. -/
inductive Call where
  | now
  | freshId
  | pass (time : Nat)
  | evaluate (command : EvaluationCommand)
  | publish (lineageId : LineageId) (attemptId : AttemptId) (status : ScanAttemptStatus)
      (organizationId : OrganizationId) (outcome : EvaluationOutcome)
  | store (operation : Operation)

abbrev Answer : Call → Type
  | .now => Instant
  | .freshId => Nat
  | .pass _ | .evaluate _ => Unit
  | .publish .. => Except Refusal ScanLineage
  | .store operation => Except Refusal (Reply operation)

namespace World

def Publishes (backend : Backend) (world : World) (lineageId : LineageId)
    (attemptId : AttemptId) (status : ScanAttemptStatus) (organizationId : OrganizationId) : Prop :=
  (∀ lineage ∈ world.store.lineages.find lineageId, ¬lineage.HasSucceeded) ∧
    (world.store.casLineageTerminal backend lineageId attemptId status organizationId).isOk

instance (backend : Backend) (world : World) (lineageId : LineageId) (attemptId : AttemptId)
    (status : ScanAttemptStatus) (organizationId : OrganizationId) :
    Decidable (world.Publishes backend lineageId attemptId status organizationId) :=
  instDecidableAnd

def serve (backend : Backend) : (request : Call) → World → Answer request × World
  | .now, world => (world.clock, world)
  | .freshId, world => (world.nextId, { world with nextId := world.nextId + 1 })
  | .pass time, world => ((), { world with clock := world.clock + time })
  | .evaluate command, world =>
    ((), { world with evaluations := world.evaluations ++ [command] })
  | .publish lineageId attemptId status organizationId outcome, world =>
    let (answer, store) := world.store.serve backend
      (.casLineageTerminal lineageId attemptId status organizationId)
    (answer, { world with
      store
      publications :=
        if world.Publishes backend lineageId attemptId status organizationId then
          world.publications ++ [⟨lineageId, attemptId, status, outcome⟩]
        else world.publications })
  | .store operation, world =>
    let (answer, store) := world.store.serve backend operation
    (answer, { world with store })

end World

abbrev Act := Program Answer Refusal
open Program

/-! ### Requests -/

def returned {α : Type} : Except Refusal α → Act α
  | .ok value => .done value
  | .error refusal => .fail refusal

abbrev clockNow : Act Instant := ask Call.now
abbrev idFactory : Act Nat := ask Call.freshId

def request (operation : Operation) : Act (Reply operation) := do
  let answer ← ask (Call.store operation)
  returned answer

abbrev getSchedule (organizationId : OrganizationId) (principalId : Option PrincipalId)
    (idempotencyKey : String) : Act (Option ScheduledScan) :=
  request (.getSchedule organizationId principalId idempotencyKey)
abbrev insertSchedule (row : ScheduledScan) : Act ScheduledScan := request (.insertSchedule row)
abbrev getLineage (lineageId : LineageId) (organizationId : OrganizationId) :
    Act (Option ScanLineage) := request (.getLineage lineageId organizationId)
abbrev insertLineage (row : ScanLineage) : Act ScanLineage := request (.insertLineage row)
abbrev listAttempts (lineageId : LineageId) : Act (List ScanAttempt) :=
  request (.listAttempts lineageId)
abbrev getAttempt (attemptId : AttemptId) : Act (Option ScanAttempt) :=
  request (.getAttempt attemptId)
abbrev insertAttempt (row : ScanAttempt) : Act ScanAttempt := request (.insertAttempt row)
abbrev updateAttempt (row : ScanAttempt) : Act ScanAttempt := request (.updateAttempt row)
abbrev insertSourceFetch (row : SourceFetchAttempt) : Act UnitRow :=
  request (.insertSourceFetch row)
abbrev insertSubscriptionEval (row : SubscriptionEvaluationAttempt) : Act UnitRow :=
  request (.insertSubscriptionEval row)
abbrev claimLease (scope : ScopeKey) (ownerId : WorkerId) (ttlSeconds : Int) (now : Instant)
    (fencingToken : Option Nat) : Act Claim :=
  request (.claimLease scope ownerId ttlSeconds now fencingToken)
abbrev renewLease (scope : ScopeKey) (ownerId : WorkerId) (fencingToken : Nat)
    (ttlSeconds : Int) (now : Instant) : Act Bool :=
  request (.renewLease scope ownerId fencingToken ttlSeconds now)
abbrev getLease (scope : ScopeKey) : Act (Option WorkerLease) := request (.getLease scope)
abbrev fenceIsActive (scope : ScopeKey) (ownerId : WorkerId) (fencingToken : Nat)
    (now : Instant) : Act Bool := request (.fenceIsActive scope ownerId fencingToken now)
abbrev recordHeartbeat (scope : ScopeKey) (beat : WatcherHeartbeat) : Act WatcherHeartbeat :=
  request (.recordHeartbeat scope beat)
abbrev rememberHealth (scope : ScopeKey) (snapshot : WatcherHealthSnapshot) : Act Unit :=
  request (.rememberHealth scope snapshot)

def casLineageTerminal (lineageId : LineageId) (attemptId : AttemptId)
    (status : ScanAttemptStatus) (organizationId : OrganizationId)
    (outcome : EvaluationOutcome) : Act ScanLineage := do
  let answer ← ask (Call.publish lineageId attemptId status organizationId outcome)
  returned answer

/-! ## Health and schedules -/

/-- `_fenced_lease` in `_snapshot`: an observer claims no authority without an active lease. -/
def projectHealth (lease : Option WorkerLease) (now : Instant) : WatcherHealthSnapshot :=
  match lease.filter fun lease => lease.IsActive now with
  | none => ⟨none, 0, 0, now⟩
  | some lease => ⟨some lease.ownerId, lease.leaseEpoch, lease.fencingToken, now⟩

def health (scope : ScopeKey) : Act Unit := do
  let now ← clockNow
  let lease ← getLease scope
  rememberHealth scope (projectHealth lease now)

section orchestrator
variable (env : Environment)

/-- The lineage of a request that was not scheduled before. -/
def newLineage (request : ScanRequest) (lineageId : LineageId) (now : Instant) : ScanLineage where
  lineageId := lineageId
  organizationId := request.organizationId
  principalId := request.principalId
  scanScope := request.scanScope
  requestHash := env.scanRequestHash request
  policyId := request.policyId
  policyVersion := request.policyVersion
  policyContentHash := request.policyContentHash
  triggerCreatedBy := if request.principalId = none then .worker else .manual
  createdAt := now

def newSchedule (request : ScanRequest) (scheduledScanId : ScheduleId) (lineageId : LineageId)
    (now : Instant) : ScheduledScan where
  scheduledScanId := scheduledScanId
  organizationId := request.organizationId
  principalId := request.principalId
  idempotencyKey := request.idempotencyKey
  requestHash := env.scanRequestHash request
  scanScope := request.scanScope
  lineageId := lineageId
  createdAt := now

def schedule (request : ScanRequest) : Act ScheduleResult := do
  if ¬env.config.enabled then
    return ⟨.blocked, false, none, none, env.scanRequestHash request, "watcher_disabled"⟩
  else
    let existing ← getSchedule request.organizationId request.principalId request.idempotencyKey
    match existing with
    | some existing =>
      require (existing.requestHash = env.scanRequestHash request)
        (.idempotencyConflict existing.requestHash (env.scanRequestHash request))
      return ⟨.replayed, true, some existing.scheduledScanId, some existing.lineageId,
        existing.requestHash, "duplicate_scheduled_scan"⟩
    | none =>
      let now ← clockNow
      let lineageId ← idFactory
      let _ ← insertLineage (newLineage env request lineageId now)
      let scheduledScanId ← idFactory
      let stored ← insertSchedule (newSchedule env request scheduledScanId lineageId now)
      return ⟨.accepted, stored.scheduledScanId ≠ scheduledScanId, some stored.scheduledScanId,
        some stored.lineageId, stored.requestHash, "accepted"⟩

/-! ## Attempts -/

/-- `_replay_if_succeeded`: both writes of a publication are there. -/
def replayIfSucceeded (lineage : ScanLineage) : Act (Option (ScanAttempt × EvaluationOutcome)) :=
  match lineage.terminalStatus, lineage.terminalAttemptId with
  | some .succeeded, some attemptId => do
    let found ← getAttempt attemptId
    match found.filter fun attempt => attempt.status = .succeeded with
    | none => return none
    | some attempt =>
      return some (attempt, {
        commandId := attempt.attemptId
        requestHash := lineage.requestHash
        evaluationInputHash := orText attempt.evaluationInputHash lineage.requestHash
        status := .succeeded
        reasonCode := orText attempt.outcomeReasonCode "replay" })
  | _, _ => .done none

/-- `_open_attempt`. -/
def openAttempt (lineage : ScanLineage) (trigger : ScanTrigger) (mode : EvaluationMode)
    (authority : Authority) (evaluationInputHash : String)
    (recoveredFromAttemptId : Option AttemptId) (recoveryDisposition : RecoveryDisposition) :
    Act ScanAttempt := do
  let now ← clockNow
  let attempts ← listAttempts lineage.lineageId
  let attemptId ← idFactory
  insertAttempt {
    attemptId
    lineageId := lineage.lineageId
    attemptNumber := attempts.length + 1
    workerId := authority.workerId
    leaseEpoch := authority.leaseEpoch
    fencingToken := authority.fencingToken
    trigger
    mode
    status := .started
    startedAt := now
    heartbeatAt := now
    evaluationInputHash := some evaluationInputHash
    recoveredFromAttemptId
    recoveryDisposition }

/-- `_resume_or_open_worker_attempt`. -/
def resumeOrOpenWorkerAttempt (lineage : ScanLineage) (workerId : WorkerId)
    (leaseEpoch fencingToken : Nat) (evaluationInputHash : String) : Act ScanAttempt := do
  let attempts ← listAttempts lineage.lineageId
  let open' (latest : Option ScanAttempt) : Act ScanAttempt :=
    openAttempt lineage .worker .persistEvidence
      ⟨some workerId, some leaseEpoch, some fencingToken⟩ evaluationInputHash
      (latest.map ScanAttempt.attemptId) (if latest.isSome then .retry else .none)
  match attempts.getLast? with
  | none => open' none
  | some latest =>
    if latest.status = .started ∧ latest.fencingToken = some fencingToken ∧
        latest.workerId = some workerId then
      let now ← clockNow
      updateAttempt { latest with heartbeatAt := now }
    else open' (some latest)

/-- `_mark_attempt`. -/
def markAttempt (attempt : ScanAttempt) (status : ScanAttemptStatus) (reasonCode : String)
    (error : Option String) (recovery : Option RecoveryDisposition) : Act ScanAttempt := do
  let finishedAt ← clockNow
  let heartbeatAt ← clockNow
  updateAttempt { attempt with
    status
    finishedAt := some finishedAt
    heartbeatAt
    outcomeReasonCode := some reasonCode
    sanitizedError := if truthy error then error.map env.sanitize else none
    recoveryDisposition := recovery.getD attempt.recoveryDisposition }

/-- The row of a child attempt. -/
def newUnit (attempt : ScanAttempt) (lineage : ScanLineage) (reported : UnitAttempt)
    (token : Option String) (id : UnitId) (now : Instant) : UnitRow where
  unitAttemptId := id
  scanAttemptId := attempt.attemptId
  lineageId := lineage.lineageId
  leaseEpoch := attempt.leaseEpoch
  fencingToken := attempt.fencingToken
  subjectId := reported.subjectId
  status := reported.status
  reasonCode := reported.reasonCode
  token := token
  createdAt := now
  finishedAt := some now
  sanitizedError := if truthy reported.error then reported.error.map env.sanitize else none

def persistUnits (attempt : ScanAttempt) (lineage : ScanLineage) (now : Instant) :
    List UnitAttempt → Act Unit
  | [] => .done ()
  | reported :: rest => do
    let id ← idFactory
    match reported.kind with
    | .sourceFetch =>
      let _ ← insertSourceFetch
        (newUnit env attempt lineage reported reported.sourceFreshnessToken id now)
      persistUnits attempt lineage now rest
    | .subscriptionEvaluation =>
      let _ ← insertSubscriptionEval
        (newUnit env attempt lineage reported reported.evidenceValidityToken id now)
      persistUnits attempt lineage now rest

/-- `_persist_unit_attempts`. -/
def persistUnitAttempts (attempt : ScanAttempt) (lineage : ScanLineage)
    (outcome : EvaluationOutcome) : Act Unit := do
  let now ← clockNow
  persistUnits env attempt lineage now outcome.unitAttempts

/-! ## Publication -/

def convergedOutcome (attempt : ScanAttempt) (lineage : ScanLineage)
    (outcome : EvaluationOutcome) (status : EvaluationStatus) : EvaluationOutcome where
  commandId := attempt.attemptId
  requestHash := lineage.requestHash
  evaluationInputHash := outcome.evaluationInputHash
  status := status
  reasonCode := "converged_replay"

/-- `_publish` behind the fence: the terminal state of the lineage, then the status of the
attempt, or CONVERGED_REPLAY where another attempt was first. -/
def publishTerminal (attempt : ScanAttempt) (lineage : ScanLineage)
    (outcome : EvaluationOutcome) : Act (Bool × EvaluationOutcome) := do
  let attemptStatus := attemptStatusFor outcome.status
  let found ← getLineage lineage.lineageId lineage.organizationId
  let current ← demand found .assertionError
  if current.HasSucceeded then
    let converged ← markAttempt env attempt .convergedReplay "converged_replay" none (some .replay)
    return (false, convergedOutcome converged lineage outcome .succeeded)
  else
    let cas ← casLineageTerminal lineage.lineageId attempt.attemptId attemptStatus
      lineage.organizationId outcome
    if cas.terminalAttemptId ≠ some attempt.attemptId then
      let converged ← markAttempt env attempt .convergedReplay "converged_replay" none
        (some .replay)
      return (false, convergedOutcome converged lineage outcome
        (if cas.terminalStatus = some .succeeded then .succeeded else outcome.status))
    else
      let _ ← markAttempt env attempt attemptStatus outcome.reasonCode outcome.error none
      return (true, outcome)

def staleFenceError : String := "stale fence holder cannot publish"

/-- `_publish` with `require_fence`. -/
def publishFenced (attempt : ScanAttempt) (lineage : ScanLineage) (outcome : EvaluationOutcome)
    (ownerId : WorkerId) (scanScope : ScanScope) (fencingToken : Nat) :
    Act (Bool × EvaluationOutcome) := do
  let now ← clockNow
  let active ← fenceIsActive (lineage.organizationId, scanScope) ownerId fencingToken now
  if ¬active then
    let _ ← markAttempt env attempt .rejectedStaleFence "stale_fence" (some staleFenceError)
      (some .abandonStaleFence)
    return (false, { outcome with
      status := .failed
      reasonCode := "stale_fence"
      error := some staleFenceError })
  else publishTerminal env attempt lineage outcome

/-! ## Manual evaluation -/

/-- What the evaluation boundary does for one call: what it returns or raises, how often it
reports progress, and the same for its hook that persists a confirmed setup, if it has one. -/
structure Boundary where
  evaluate : EvaluationCommand → Except String EvaluationOutcome
  beats : Nat
  persistConfirmedSetup : Option (EvaluationCommand → EvaluationOutcome →
    Except String EvaluationOutcome)
  persistBeats : Nat

/-- `evaluate`. -/
def evaluate (boundary : Boundary) (command : EvaluationCommand) :
    Act (Except String EvaluationOutcome) := do
  if command.mode = .persistAndNotify then
    return .ok (command.blockedOutcome "notify_disabled")
  else
    ask (Call.evaluate command)
    return (boundary.evaluate command).map honestOutcome

/-- `_persist_canonical_candidate`. -/
def persistCanonicalCandidate (boundary : Boundary) (command : EvaluationCommand)
    (outcome : EvaluationOutcome) : Except String EvaluationOutcome :=
  match boundary.persistConfirmedSetup with
  | none => .ok outcome
  | some persist => (persist command outcome).map honestOutcome

def raising {α : Type} : Except String α → Act α
  | .ok value => .done value
  | .error text => .fail (.raised text)

def manualCommand (request : ScanRequest) (mode : EvaluationMode) (commandId correlationId : Nat) :
    EvaluationCommand where
  commandId := commandId
  request := request
  requestHash := env.scanRequestHash request
  evaluationInputHash := env.evaluationInputHash request
  mode := mode
  trigger := .manual
  correlationId := correlationId

def unstoredResult (request : ScanRequest) (outcome : EvaluationOutcome) (reasonCode : String) :
    EvaluationResult where
  outcome := outcome
  persisted := false
  replayed := false
  lineageId := none
  attemptId := none
  evaluationInputHash := env.evaluationInputHash request
  reasonCode := reasonCode

/-- `evaluate_manual` from the schedule on. -/
def persistManual (boundary : Boundary) (request : ScanRequest) (command : EvaluationCommand)
    (outcome : EvaluationOutcome) : Act EvaluationResult := do
  let inputHash := env.evaluationInputHash request
  let scheduled ← schedule env request
  match scheduled.lineageId with
  | none => return unstoredResult env request outcome scheduled.reasonCode
  | some lineageId =>
    let found ← getLineage lineageId request.organizationId
    let lineage ← demand found .assertionError
    let replay ← replayIfSucceeded lineage
    match replay with
    | some (attempt, outcome) =>
      return ⟨outcome, true, true, some lineage.lineageId, some attempt.attemptId, inputHash,
        "replay"⟩
    | none =>
      let attempt ← openAttempt lineage .manual command.mode ⟨none, none, none⟩ inputHash none
        .none
      let outcome ← raising (persistCanonicalCandidate boundary command outcome)
      let (published, final) ← publishTerminal env attempt lineage outcome
      return ⟨if published then final else outcome, published, false, some lineage.lineageId,
        some attempt.attemptId, inputHash, outcome.reasonCode⟩

def evaluateManual (boundary : Boundary) (request : ScanRequest) (mode : EvaluationMode) :
    Act EvaluationResult := do
  let commandId ← idFactory
  let correlationId ← idFactory
  let command := manualCommand env request mode commandId correlationId
  if ¬env.config.enabled then
    return unstoredResult env request (command.blockedOutcome "watcher_disabled")
      "watcher_disabled"
  else if mode = .persistAndNotify then
    return unstoredResult env request (command.blockedOutcome "notify_disabled") "notify_disabled"
  else
    let evaluated ← evaluate boundary command
    let outcome ← raising evaluated
    if mode = .preview then return unstoredResult env request outcome outcome.reasonCode
    else persistManual env boundary request command outcome

/-! ## Worker cycles -/

/-- The holder of a lease, as its cycle knows it. -/
structure Holder where
  scope : ScopeKey
  workerId : WorkerId
  leaseEpoch : Nat
  fencingToken : Nat

def Holder.heartbeat (holder : Holder) (now : Instant) (detail : String) : WatcherHeartbeat where
  ownerId := holder.workerId
  leaseEpoch := holder.leaseEpoch
  fencingToken := holder.fencingToken
  lastBeatAt := now
  detail := some detail

/-- `_beat` up to its heartbeat: whether the lease is lost. -/
def renewOrLose (holder : Holder) (lost : Bool) : Act Bool :=
  if lost then .done true
  else do
    let now ← clockNow
    let renewed ← renewLease holder.scope holder.workerId holder.fencingToken
      env.config.leaseTtlSeconds now
    return !renewed

/-- `_beat`. -/
def beat (holder : Holder) (lost : Bool) : Act Bool := do
  let lostNow ← renewOrLose env holder lost
  if lostNow then return true
  else
    let now ← clockNow
    let _ ← recordHeartbeat holder.scope (holder.heartbeat now "lease_heartbeat")
    return false

/-- The beats while the boundary is at work. What a heartbeat raises there goes to the
boundary, which may raise it or not. -/
def progress (holder : Holder) : Nat → Bool → Act Bool
  | 0, lost => .done lost
  | count + 1, lost => do
    let lostNow ← renewOrLose env holder lost
    if lostNow then progress holder count true
    else
      let now ← clockNow
      let _ ← ask (Call.store (.recordHeartbeat holder.scope
        (holder.heartbeat now "lease_heartbeat")))
      progress holder count false

/-- `_reject_stale`. -/
def rejectStale (request : ScanRequest) (holder : Holder) (attempt : ScanAttempt)
    (lineage : ScanLineage) (reasonCode : String) : Act WorkerCycleResult := do
  let rejected ← markAttempt env attempt .rejectedStaleFence reasonCode (some staleFenceError)
    (some .abandonStaleFence)
  health request.scope
  return {
    status := .rejectedStaleFence
    replayed := false
    lineageId := some lineage.lineageId
    attemptId := some rejected.attemptId
    requestHash := lineage.requestHash
    fencingToken := some holder.fencingToken
    leaseEpoch := attempt.leaseEpoch
    outcome := some {
      commandId := rejected.attemptId
      requestHash := lineage.requestHash
      evaluationInputHash := orText attempt.evaluationInputHash lineage.requestHash
      status := .failed
      reasonCode
      error := some staleFenceError }
    reasonCode
    published := false }

def whileFenced (request : ScanRequest) (holder : Holder) (attempt : ScanAttempt)
    (lineage : ScanLineage) (rest : Act WorkerCycleResult) : Act WorkerCycleResult := do
  let now ← clockNow
  let active ← fenceIsActive holder.scope holder.workerId holder.fencingToken now
  if ¬active then rejectStale env request holder attempt lineage "stale_fence"
  else rest

/-- `run_worker` from the publication on. -/
def publishCycle (request : ScanRequest) (holder : Holder) (attempt : ScanAttempt)
    (lineage : ScanLineage) (outcome : EvaluationOutcome) : Act WorkerCycleResult := do
  let (published, final) ← publishFenced env attempt lineage outcome holder.workerId
    request.scanScope holder.fencingToken
  let now ← clockNow
  let _ ← recordHeartbeat holder.scope (holder.heartbeat now final.status.value)
  health request.scope
  return {
    status := cycleStatus final.status published
    replayed := false
    lineageId := some lineage.lineageId
    attemptId := some attempt.attemptId
    requestHash := lineage.requestHash
    fencingToken := some holder.fencingToken
    leaseEpoch := some holder.leaseEpoch
    outcome := some final
    reasonCode := final.reasonCode
    published }

/-- `run_worker` from the candidate's persistence on. -/
def persistAndPublish (boundary : Boundary) (request : ScanRequest) (holder : Holder)
    (attempt : ScanAttempt) (lineage : ScanLineage) (command : EvaluationCommand)
    (outcome : EvaluationOutcome) : Act WorkerCycleResult := do
  let lost ← progress env holder boundary.persistBeats false
  let outcome := env.orFailed command "candidate_creation_failed"
    (persistCanonicalCandidate boundary command outcome)
  if lost then rejectStale env request holder attempt lineage "lease_renewal_lost"
  else
    whileFenced env request holder attempt lineage
      (publishCycle env request holder attempt lineage outcome)

def workerCommand (request : ScanRequest) (holder : Holder) (attempt : ScanAttempt)
    (lineage : ScanLineage) (commandId correlationId : Nat) : EvaluationCommand where
  commandId := commandId
  request := request
  requestHash := lineage.requestHash
  evaluationInputHash := env.evaluationInputHash request
  mode := .persistEvidence
  trigger := .worker
  lineageId := some lineage.lineageId
  attemptId := some attempt.attemptId
  leaseEpoch := some holder.leaseEpoch
  fencingToken := some holder.fencingToken
  workerId := some holder.workerId
  correlationId := correlationId

/-- `run_worker` from the evaluation on. -/
def evaluateAttempt (boundary : Boundary) (request : ScanRequest) (holder : Holder)
    (lineage : ScanLineage) (attempt : ScanAttempt) : Act WorkerCycleResult := do
  let commandId ← idFactory
  let correlationId ← idFactory
  let command := workerCommand env request holder attempt lineage commandId correlationId
  let evaluated ← evaluate boundary command
  let lost ← progress env holder boundary.beats false
  let outcome := env.orFailed command "evaluation_exception" evaluated
  let lost ← beat env holder lost
  if lost then rejectStale env request holder attempt lineage "lease_renewal_lost"
  else
    whileFenced env request holder attempt lineage do
      persistUnitAttempts env attempt lineage outcome
      whileFenced env request holder attempt lineage
        (persistAndPublish env boundary request holder attempt lineage command outcome)

/-- A worker result of a cycle that opened no attempt. -/
def idleResult (status : WorkerCycleStatus) (lineageId : Option LineageId) (requestHash : String)
    (reasonCode : String) : WorkerCycleResult where
  status := status
  replayed := false
  lineageId := lineageId
  attemptId := none
  requestHash := requestHash
  fencingToken := none
  leaseEpoch := none
  outcome := none
  reasonCode := reasonCode
  published := false

/-- `run_worker` under its lease. -/
def runHolder (boundary : Boundary) (request : ScanRequest) (holder : Holder)
    (scheduledLineageId : Option LineageId) : Act WorkerCycleResult := do
  let now ← clockNow
  let _ ← recordHeartbeat holder.scope (holder.heartbeat now "lease_claimed")
  let lineageId ← demand scheduledLineageId .assertionError
  let found ← getLineage lineageId request.organizationId
  let lineage ← demand found .assertionError
  let replay ← replayIfSucceeded lineage
  match replay with
  | some (attempt, outcome) =>
    health request.scope
    return {
      status := .succeeded
      replayed := true
      lineageId := some lineage.lineageId
      attemptId := some attempt.attemptId
      requestHash := lineage.requestHash
      fencingToken := some holder.fencingToken
      leaseEpoch := some holder.leaseEpoch
      outcome := some outcome
      reasonCode := "replay"
      published := false }
  | none =>
    let attempt ← resumeOrOpenWorkerAttempt lineage holder.workerId holder.leaseEpoch
      holder.fencingToken (env.evaluationInputHash request)
    evaluateAttempt env boundary request holder lineage attempt

/-- `run_worker`. The token it presents is the argument, or the one that this orchestrator
remembers for the worker. -/
def runWorker (boundary : Boundary) (request : ScanRequest) (workerId : WorkerId)
    (heldFencingToken : Option Nat) : Act WorkerCycleResult := do
  if ¬env.config.enabled then
    health request.scope
    return idleResult .blocked none (env.scanRequestHash request) "watcher_disabled"
  else
    let scheduled ← schedule env request
    let now ← clockNow
    let claim ← claimLease request.scope workerId env.config.leaseTtlSeconds now heldFencingToken
    if ¬claim.Acquired then
      health request.scope
      return idleResult .skipped scheduled.lineageId scheduled.requestHash "lease_held"
    else
      runHolder env boundary request
        ⟨request.scope, workerId, claim.lease.leaseEpoch, claim.lease.fencingToken⟩
        scheduled.lineageId

end orchestrator

/-! ## Jobs -/

/-- What may be started: a call of the orchestrator by any worker or user, or a step of the
clock. -/
inductive Job where
  | pass (time : Nat)
  | health (scope : ScopeKey)
  | schedule (request : ScanRequest)
  | manual (boundary : Boundary) (request : ScanRequest) (mode : EvaluationMode)
  | worker (boundary : Boundary) (request : ScanRequest) (workerId : WorkerId)
      (heldFencingToken : Option Nat)

inductive JobResult where
  | silent
  | schedule (result : ScheduleResult)
  | manual (result : EvaluationResult)
  | worker (result : WorkerCycleResult)
  deriving DecidableEq

def program (env : Environment) : Job → Act JobResult
  | .pass time => do
    ask (Call.pass time)
    return .silent
  | .health scope => do
    Watcher.health scope
    return .silent
  | .schedule request => do
    let result ← Watcher.schedule env request
    return .schedule result
  | .manual boundary request mode => do
    let result ← evaluateManual env boundary request mode
    return .manual result
  | .worker boundary request workerId heldFencingToken => do
    let result ← runWorker env boundary request workerId heldFencingToken
    return .worker result

def machine (backend : Backend) (env : Environment) :
    Machine Answer Job World Refusal JobResult where
  serve := World.serve backend
  program := program env
  together _ _ := true

theorem together_comm (backend : Backend) (env : Environment) (job other : Job) :
    (machine backend env).together job other = (machine backend env).together other job := rfl

end AlphaTrade.Watcher
