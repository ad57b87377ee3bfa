import AlphaTrade.Library.Asks
import AlphaTrade.Watcher.Orchestrator

/-!
# What the orchestrator asks its store for

An outcome that `_honest_outcome` has been over is honest: a success has neither an error nor
a failed unit, and a candidate comes alone, with a success of a confirmed setup. Whatever the
evaluator returns, a program publishes honest outcomes only, under the status that belongs to
the outcome. It inserts lineages without a terminal state, and it asks for leases of the
configured length.
-/
namespace AlphaTrade.Watcher
open Library Program
open Execution (OrganizationId Instant)

/-! ## Honest outcomes -/

structure Honest (outcome : EvaluationOutcome) : Prop where
  error : outcome.status = .succeeded → truthy outcome.error = false
  failedUnits : outcome.status = .succeeded → outcome.failedUnits = 0
  units : outcome.status = .succeeded → ∀ attempt ∈ outcome.unitAttempts, attempt.status ≠ .failed
  candidates : outcome.candidateIds ≠ [] →
    outcome.candidateIds.length = 1 ∧ outcome.status = .succeeded ∧
      outcome.reasonCode = "confirmed_setup" ∧
      ∃ token, outcome.evidenceValidityToken = some token ∧ IsSha256Hex token

variable {outcome : EvaluationOutcome}

/-- A failure without candidates is honest. -/
theorem honest_of_not_succeeded (status : outcome.status ≠ .succeeded)
    (candidates : outcome.candidateIds = []) : Honest outcome where
  error succeeded := absurd succeeded status
  failedUnits succeeded := absurd succeeded status
  units succeeded := absurd succeeded status
  candidates some := absurd candidates some

theorem unitFailures_eq_zero :
    unitFailures outcome = 0 ↔ ∀ attempt ∈ outcome.unitAttempts, attempt.status ≠ .failed := by
  simp [unitFailures, List.countP_eq_zero]

/-- The normalisation makes every outcome honest. -/
theorem honest_honestOutcome (outcome : EvaluationOutcome) : Honest (honestOutcome outcome) := by
  unfold honestOutcome
  dsimp only
  split_ifs with failing some allowed
  · exact honest_of_not_succeeded (by simp) rfl
  · obtain ⟨status, none, error, length, reason, token, present, hex⟩ := allowed
    have failures : unitFailures outcome = 0 := by omega
    exact {
      error := fun _ => error
      failedUnits := fun _ => none
      units := fun _ => unitFailures_eq_zero.mp failures
      candidates := fun _ => ⟨length, status, reason, token, present, hex⟩ }
  · exact honest_of_not_succeeded (by simp) rfl
  · have clean : outcome.status = .succeeded →
        max outcome.failedUnits (unitFailures outcome) = 0 ∧ truthy outcome.error = false := by
      intro succeeded
      have neither := fun failures => failing ⟨succeeded, failures⟩
      exact ⟨by by_contra; exact neither (.inl (by omega)),
        by by_contra error; exact neither (.inr (by simpa using error))⟩
    exact {
      error := fun succeeded => (clean succeeded).2
      failedUnits := fun succeeded => (clean succeeded).1
      units := fun succeeded => unitFailures_eq_zero.mp (show unitFailures outcome = 0 by
        have := (clean succeeded).1
        omega)
      candidates := fun some => absurd rfl some }

theorem honest_failedOutcome (env : Environment) (command : EvaluationCommand)
    (reasonCode exception : String) : Honest (env.failedOutcome command reasonCode exception) :=
  honest_of_not_succeeded (by simp [Environment.failedOutcome]) rfl

theorem honest_blockedOutcome (command : EvaluationCommand) (reasonCode : String) :
    Honest (command.blockedOutcome reasonCode) :=
  honest_of_not_succeeded (by simp [EvaluationCommand.blockedOutcome]) rfl

/-! ## Proper requests -/

def ProperOperation (config : WatcherRuntimeConfig) : Operation → Prop
  | .casLineageTerminal .. => False
  | .insertLineage row => row.terminalStatus = none
  | .claimLease _ _ ttlSeconds _ _ | .renewLease _ _ _ ttlSeconds _ =>
    ttlSeconds = config.leaseTtlSeconds
  | _ => True

def Proper (config : WatcherRuntimeConfig) : Call → Prop
  | .publish _ _ status _ outcome => Honest outcome ∧ status = attemptStatusFor outcome.status
  | .store operation => ProperOperation config operation
  | _ => True

def HonestResult : JobResult → Prop
  | .worker result => result.published → ∃ outcome, result.outcome = some outcome ∧ Honest outcome
  | .manual result => result.persisted → Honest result.outcome
  | _ => True

section programs
variable {env : Environment} {config : WatcherRuntimeConfig} {α : Type} {post : α → Prop}

/-- The clock, a new identifier or an evaluation. -/
theorem asks_call {call : Call} {rest : Answer call → Act α} (isProper : Proper config call)
    (goesOn : ∀ answer, Asks (Proper config) (Returns post) (rest answer)) :
    Asks (Proper config) (Returns post) (ask call >>= rest) := ⟨isProper, goesOn⟩

theorem asks_returned {γ : Type} (answer : Except Refusal γ) :
    Asks (Proper config) (Returns fun _ => True) (returned answer) := by
  cases answer with
  | ok value => trivial
  | error refusal => trivial

variable {operation : Operation} {outcome : EvaluationOutcome}
  {answer : Except String EvaluationOutcome}

theorem asks_request (isProper : ProperOperation config operation) :
    Asks (Proper config) (Returns fun _ => True) (request operation) :=
  asks_call isProper fun answer => asks_returned answer

theorem asks_request_bind {rest : Reply operation → Act α}
    (isProper : ProperOperation config operation)
    (goesOn : ∀ reply, Asks (Proper config) (Returns post) (rest reply)) :
    Asks (Proper config) (Returns post) (request operation >>= rest) :=
  (asks_request isProper).bind fun reply _ => goesOn reply

theorem asks_health (scope : ScopeKey) :
    Asks (Proper config) (Returns fun _ => True) (health scope) :=
  asks_call trivial fun _ => asks_request_bind trivial fun _ => asks_request trivial

variable (env)

theorem asks_schedule (request : ScanRequest) :
    Asks (Proper config) (Returns fun _ => True) (schedule env request) := by
  unfold schedule
  apply asks_ite
  · exact fun _ => trivial
  · intro _
    refine asks_request_bind trivial fun existing => ?_
    cases existing with
    | some existing => exact asks_require fun _ => trivial
    | none =>
      refine asks_call trivial fun now => asks_call trivial fun lineageId => ?_
      refine asks_request_bind rfl fun _ => asks_call trivial fun scheduledScanId => ?_
      exact asks_request_bind trivial fun _ => trivial

/-- A replay carries neither an error nor a candidate. -/
theorem asks_replayIfSucceeded (lineage : ScanLineage) :
    Asks (Proper config) (Returns fun replay => ∀ attempt outcome,
      replay = some (attempt, outcome) → Honest outcome) (replayIfSucceeded lineage) := by
  unfold replayIfSucceeded
  split
  · refine asks_request_bind trivial fun found => ?_
    split
    · exact fun _ _ h => by cases h
    · intro attempt outcome h
      cases h
      exact ⟨fun _ => rfl, fun _ => rfl, fun _ _ mem => absurd mem List.not_mem_nil,
        fun some => absurd rfl some⟩
  · exact fun _ _ h => by cases h

theorem asks_openAttempt (lineage : ScanLineage) (trigger : ScanTrigger) (mode : EvaluationMode)
    (authority : Authority) (inputHash : String) (recovered : Option AttemptId)
    (disposition : RecoveryDisposition) :
    Asks (Proper config) (Returns fun _ => True)
      (openAttempt lineage trigger mode authority inputHash recovered disposition) :=
  asks_call trivial fun _ => asks_request_bind trivial fun _ =>
    asks_call trivial fun _ => asks_request trivial

theorem asks_resumeOrOpenWorkerAttempt (lineage : ScanLineage) (workerId : WorkerId)
    (leaseEpoch fencingToken : Nat) (inputHash : String) :
    Asks (Proper config) (Returns fun _ => True)
      (resumeOrOpenWorkerAttempt lineage workerId leaseEpoch fencingToken inputHash) := by
  refine asks_request_bind trivial fun attempts => ?_
  dsimp only
  split
  · exact asks_openAttempt ..
  · apply asks_ite
    · exact fun _ => asks_call trivial fun _ => asks_request trivial
    · exact fun _ => asks_openAttempt ..

theorem asks_markAttempt (attempt : ScanAttempt) (status : ScanAttemptStatus)
    (reasonCode : String) (error : Option String) (recovery : Option RecoveryDisposition) :
    Asks (Proper config) (Returns fun _ => True)
      (markAttempt env attempt status reasonCode error recovery) :=
  asks_call trivial fun _ => asks_call trivial fun _ => asks_request trivial

theorem asks_persistUnits (attempt : ScanAttempt) (lineage : ScanLineage) (now : Instant)
    (reported : List UnitAttempt) :
    Asks (Proper config) (Returns fun _ => True)
      (persistUnits env attempt lineage now reported) := by
  induction reported with
  | nil => trivial
  | cons first rest ih =>
    refine asks_call trivial fun id => ?_
    cases first.kind with
    | sourceFetch => exact asks_request_bind trivial fun _ => ih
    | subscriptionEvaluation => exact asks_request_bind trivial fun _ => ih

theorem asks_persistUnitAttempts (attempt : ScanAttempt) (lineage : ScanLineage)
    (outcome : EvaluationOutcome) :
    Asks (Proper config) (Returns fun _ => True)
      (persistUnitAttempts env attempt lineage outcome) :=
  asks_call trivial fun now => asks_persistUnits env attempt lineage now _

/-! ### Publication -/

theorem asks_casLineageTerminal (lineageId : LineageId) (attemptId : AttemptId)
    (organizationId : OrganizationId) (honest : Honest outcome) :
    Asks (Proper config) (Returns fun _ => True)
      (casLineageTerminal lineageId attemptId (attemptStatusFor outcome.status) organizationId
        outcome) :=
  asks_call ⟨honest, rfl⟩ fun answer => asks_returned answer

def PublishedHonestly (answer : Bool × EvaluationOutcome) : Prop := answer.1 → Honest answer.2

theorem asks_publishTerminal (attempt : ScanAttempt) (lineage : ScanLineage)
    (honest : Honest outcome) :
    Asks (Proper config) (Returns PublishedHonestly)
      (publishTerminal env attempt lineage outcome) := by
  refine asks_request_bind trivial fun found => ?_
  refine asks_demand fun current _ => ?_
  apply asks_ite
  · exact fun _ => (asks_markAttempt ..).andThen fun _ => (nomatch ·)
  · intro _
    refine (asks_casLineageTerminal _ _ _ honest).andThen fun cas => ?_
    apply asks_ite
    · exact fun _ => (asks_markAttempt ..).andThen fun _ => (nomatch ·)
    · exact fun _ => (asks_markAttempt ..).andThen fun _ _ => honest

theorem asks_publishFenced (attempt : ScanAttempt) (lineage : ScanLineage) (honest : Honest outcome)
    (ownerId : WorkerId) (scanScope : ScanScope) (fencingToken : Nat) :
    Asks (Proper config) (Returns PublishedHonestly)
      (publishFenced env attempt lineage outcome ownerId scanScope fencingToken) := by
  refine asks_call trivial fun now => asks_request_bind trivial fun active => ?_
  apply asks_ite
  · exact fun _ => (asks_markAttempt ..).andThen fun _ => (nomatch ·)
  · exact fun _ => asks_publishTerminal env attempt lineage honest

/-! ### The boundary -/

def HonestAnswer (answer : Except String EvaluationOutcome) : Prop :=
  ∀ outcome, answer = .ok outcome → Honest outcome

theorem honestAnswer_map (answer : Except String EvaluationOutcome) :
    HonestAnswer (answer.map honestOutcome) := by
  intro outcome h
  obtain ⟨raw, -, rfl⟩ := map_eq_ok.mp h
  exact honest_honestOutcome raw

theorem asks_evaluate (boundary : Boundary) (command : EvaluationCommand) :
    Asks (Proper config) (Returns HonestAnswer) (evaluate boundary command) := by
  unfold evaluate
  apply asks_ite
  · rintro _ outcome h
    cases h
    exact honest_blockedOutcome ..
  · exact fun _ => asks_call trivial fun _ => honestAnswer_map _

theorem honestAnswer_persist (boundary : Boundary) (command : EvaluationCommand)
    (honest : Honest outcome) :
    HonestAnswer (persistCanonicalCandidate boundary command outcome) := by
  unfold persistCanonicalCandidate
  cases boundary.persistConfirmedSetup with
  | none =>
    intro outcome' h
    cases h
    exact honest
  | some persist => exact honestAnswer_map _

/-- What is published where the boundary may have raised. -/
theorem honest_orFailed (honest : HonestAnswer answer) (command : EvaluationCommand)
    (reasonCode : String) : Honest (env.orFailed command reasonCode answer) := by
  cases answer with
  | ok outcome => exact honest outcome rfl
  | error exception => exact honest_failedOutcome ..

theorem asks_raising (honest : HonestAnswer answer) :
    Asks (Proper config) (Returns Honest) (raising answer) := by
  cases answer with
  | ok outcome => exact honest outcome rfl
  | error exception => trivial

/-! ### Manual evaluation -/

theorem asks_persistManual (boundary : Boundary) (request : ScanRequest)
    (command : EvaluationCommand) (honest : Honest outcome) :
    Asks (Proper config) (Returns fun result => result.persisted → Honest result.outcome)
      (persistManual env boundary request command outcome) := by
  refine (asks_schedule env request).andThen fun scheduled => ?_
  split
  · exact (nomatch ·)
  · refine asks_request_bind trivial fun found => asks_demand fun lineage _ => ?_
    refine (asks_replayIfSucceeded lineage).bind fun replay replays => ?_
    split
    · exact fun _ => replays _ _ rfl
    · refine (asks_openAttempt ..).andThen fun attempt => ?_
      refine (asks_raising (honestAnswer_persist boundary command honest)).bind
        fun outcome honest => ?_
      refine (asks_publishTerminal env attempt lineage honest).bind fun answer published => ?_
      obtain ⟨isPublished, final⟩ := answer
      intro persisted
      change isPublished = true at persisted
      change Honest (if isPublished = true then final else outcome)
      rw [if_pos persisted]
      exact published persisted

theorem asks_evaluateManual (boundary : Boundary) (request : ScanRequest)
    (mode : EvaluationMode) :
    Asks (Proper config) (Returns fun result => result.persisted → Honest result.outcome)
      (evaluateManual env boundary request mode) := by
  refine asks_call trivial fun commandId => asks_call trivial fun correlationId => ?_
  apply asks_ite
  · exact fun _ => (nomatch ·)
  intro _
  apply asks_ite
  · exact fun _ => (nomatch ·)
  intro _
  refine (asks_evaluate boundary _).bind fun answer honest => ?_
  refine (asks_raising honest).bind fun outcome honest => ?_
  apply asks_ite
  · exact fun _ => (nomatch ·)
  · exact fun _ => asks_persistManual env boundary request _ honest

/-! ### Worker cycles -/

theorem asks_renewOrLose (holder : Holder) (lost : Bool) :
    Asks (Proper env.config) (Returns fun _ => True) (renewOrLose env holder lost) := by
  unfold renewOrLose
  apply asks_ite
  · exact fun _ => trivial
  · exact fun _ => asks_call trivial fun _ => asks_request_bind rfl fun _ => trivial

theorem asks_beat (holder : Holder) (lost : Bool) :
    Asks (Proper env.config) (Returns fun _ => True) (beat env holder lost) := by
  refine (asks_renewOrLose env holder lost).andThen fun lostNow => ?_
  apply asks_ite
  · exact fun _ => trivial
  · exact fun _ => asks_call trivial fun _ => asks_request_bind trivial fun _ => trivial

theorem asks_progress (holder : Holder) (count : Nat) (lost : Bool) :
    Asks (Proper env.config) (Returns fun _ => True) (progress env holder count lost) := by
  induction count generalizing lost with
  | zero => trivial
  | succ count ih =>
    refine (asks_renewOrLose env holder lost).andThen fun lostNow => ?_
    apply asks_ite
    · exact fun _ => ih true
    · exact fun _ => asks_call trivial fun _ => asks_call trivial fun _ => ih false

def HonestCycle (result : WorkerCycleResult) : Prop :=
  result.published → ∃ outcome, result.outcome = some outcome ∧ Honest outcome

theorem asks_rejectStale (request : ScanRequest) (holder : Holder) (attempt : ScanAttempt)
    (lineage : ScanLineage) (reasonCode : String) :
    Asks (Proper config) (Returns HonestCycle)
      (rejectStale env request holder attempt lineage reasonCode) :=
  (asks_markAttempt ..).andThen fun _ => (asks_health _).andThen fun _ => (nomatch ·)

theorem asks_whileFenced (request : ScanRequest) (holder : Holder) (attempt : ScanAttempt)
    (lineage : ScanLineage) {rest : Act WorkerCycleResult}
    (goesOn : Asks (Proper config) (Returns HonestCycle) rest) :
    Asks (Proper config) (Returns HonestCycle)
      (whileFenced env request holder attempt lineage rest) := by
  refine asks_call trivial fun now => asks_request_bind trivial fun active => ?_
  apply asks_ite
  · exact fun _ => asks_rejectStale ..
  · exact fun _ => goesOn

theorem asks_publishCycle (request : ScanRequest) (holder : Holder) (attempt : ScanAttempt)
    (lineage : ScanLineage) (honest : Honest outcome) :
    Asks (Proper config) (Returns HonestCycle)
      (publishCycle env request holder attempt lineage outcome) := by
  refine (asks_publishFenced env attempt lineage honest _ _ _).bind fun answer published => ?_
  obtain ⟨isPublished, final⟩ := answer
  refine asks_call trivial fun now => asks_request_bind trivial fun _ => ?_
  exact (asks_health _).andThen fun _ reported => ⟨final, rfl, published reported⟩

theorem asks_persistAndPublish (boundary : Boundary) (request : ScanRequest) (holder : Holder)
    (attempt : ScanAttempt) (lineage : ScanLineage) (command : EvaluationCommand)
    (honest : Honest outcome) :
    Asks (Proper env.config) (Returns HonestCycle)
      (persistAndPublish env boundary request holder attempt lineage command outcome) := by
  refine (asks_progress env holder _ false).andThen fun lost => ?_
  apply asks_ite
  · exact fun _ => asks_rejectStale ..
  · intro _
    apply asks_whileFenced
    apply asks_publishCycle
    exact honest_orFailed env (honestAnswer_persist boundary command honest) command _

theorem asks_evaluateAttempt (boundary : Boundary) (request : ScanRequest) (holder : Holder)
    (lineage : ScanLineage) (attempt : ScanAttempt) :
    Asks (Proper env.config) (Returns HonestCycle)
      (evaluateAttempt env boundary request holder lineage attempt) := by
  refine asks_call trivial fun commandId => asks_call trivial fun correlationId => ?_
  refine (asks_evaluate boundary _).bind fun evaluated honest => ?_
  refine (asks_progress env holder _ false).andThen fun lost => ?_
  refine (asks_beat env holder lost).andThen fun lost => ?_
  apply asks_ite
  · exact fun _ => asks_rejectStale ..
  · intro _
    apply asks_whileFenced
    refine (asks_persistUnitAttempts ..).andThen fun _ => ?_
    apply asks_whileFenced
    apply asks_persistAndPublish
    exact honest_orFailed env honest _ _

theorem asks_runHolder (boundary : Boundary) (request : ScanRequest) (holder : Holder)
    (scheduledLineageId : Option LineageId) :
    Asks (Proper env.config) (Returns HonestCycle)
      (runHolder env boundary request holder scheduledLineageId) := by
  refine asks_call trivial fun now => asks_request_bind trivial fun _ => ?_
  refine asks_demand fun lineageId _ => asks_request_bind trivial fun found => ?_
  refine asks_demand fun lineage _ => (asks_replayIfSucceeded lineage).bind fun replay _ => ?_
  split
  · exact (asks_health _).andThen fun _ => (nomatch ·)
  · exact (asks_resumeOrOpenWorkerAttempt ..).andThen fun attempt => asks_evaluateAttempt ..

theorem asks_runWorker (boundary : Boundary) (request : ScanRequest) (workerId : WorkerId)
    (heldFencingToken : Option Nat) :
    Asks (Proper env.config) (Returns HonestCycle)
      (runWorker env boundary request workerId heldFencingToken) := by
  unfold runWorker
  apply asks_ite
  · exact fun _ => (asks_health _).andThen fun _ => (nomatch ·)
  · intro _
    refine (asks_schedule env request).andThen fun scheduled => asks_call trivial fun now => ?_
    refine asks_request_bind rfl fun claim => ?_
    apply asks_ite
    · exact fun _ => (asks_health _).andThen fun _ => (nomatch ·)
    · exact fun _ => asks_runHolder ..

end programs

/-- Whatever the evaluator does, a job makes proper requests and returns honestly. -/
theorem asks_program (env : Environment) (job : Job) :
    Asks (Proper env.config) (Returns HonestResult) (program env job) := by
  cases job with
  | pass time => exact asks_call trivial fun _ => trivial
  | health scope => exact (asks_health scope).andThen fun _ => trivial
  | schedule request => exact (asks_schedule env request).andThen fun _ => trivial
  | manual boundary request mode =>
    exact (asks_evaluateManual env boundary request mode).bind fun _ honest => honest
  | worker boundary request workerId heldFencingToken =>
    exact (asks_runWorker env boundary request workerId heldFencingToken).bind
      fun _ honest => honest

end AlphaTrade.Watcher
