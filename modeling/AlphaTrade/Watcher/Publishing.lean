import AlphaTrade.Watcher.Methods
import AlphaTrade.Watcher.Requests

/-!
# The first success stays, and it is honest

In every run of workers and users side by side, on either store. The log of publications
has the outcome that was published with each terminal state. A success is in the log with an
honest outcome, and no publication sets the terminal state of a lineage after a success.
-/
namespace AlphaTrade.Watcher
open Library Program
open Execution (OrganizationId Instant)

variable {backend : Backend} {env : Environment} {world : World}

/-! ## Writes of lineages -/

namespace Store

variable {operation : Operation} {lineageId : LineageId} {lineage : ScanLineage}

/-- A lineage that has succeeded is written by nobody. -/
theorem Written.succeeded_kept {store after : Store}
    (written : Written backend store operation after)
    (found : store.lineages.find lineageId = some lineage) (succeeded : lineage.HasSucceeded) :
    after.lineages.find lineageId = some lineage := by
  cases written with
  | nothing | schedule | sourceFetch | subscriptionEval | heartbeat | health => exact found
  | lineage row absent => exact Table.find_put_kept absent found row
  | publication attemptId status organizationId found' unfinished authorized =>
    refine (Table.find_put_of_ne _ ?_ _).trans found
    rintro rfl
    obtain rfl := Option.some.inj (found.symm.trans found')
    exact unfinished succeeded
  | attemptInserted inserted =>
    rw [(insertAttempt_ok inserted).2.lineages]
    exact found
  | attemptUpdated updated =>
    rw [(updateAttempt_ok updated).2.lineages]
    exact found
  | claimed =>
    rw [claimLease_frame]
    exact found
  | renewed =>
    rw [renewLease_frame]
    exact found

/-- But for publications, a written lineage is one that was inserted. -/
theorem Written.lineage_cases {store after : Store}
    (written : Written backend store operation after)
    (proper : ProperOperation env.config operation)
    (found : after.lineages.find lineageId = some lineage) :
    store.lineages.find lineageId = some lineage ∨ lineage.terminalStatus = none := by
  cases written with
  | nothing | schedule | sourceFetch | subscriptionEval | heartbeat | health => exact .inl found
  | lineage row absent =>
    obtain ⟨-, rfl⟩ | ⟨-, before⟩ := Table.find_put_cases found
    · exact .inr proper
    · exact .inl before
  | publication => exact proper.elim
  | attemptInserted inserted =>
    rw [(insertAttempt_ok inserted).2.lineages] at found
    exact .inl found
  | attemptUpdated updated =>
    rw [(updateAttempt_ok updated).2.lineages] at found
    exact .inl found
  | claimed =>
    rw [claimLease_frame] at found
    exact .inl found
  | renewed =>
    rw [renewLease_frame] at found
    exact .inl found

end Store

namespace World

/-- A publication sets the terminal state and is logged, or it does neither. -/
theorem publish_cases (backend : Backend) (world : World) (lineageId : LineageId)
    (attemptId : AttemptId) (status : ScanAttemptStatus) (organizationId : OrganizationId)
    (outcome : EvaluationOutcome) :
    (¬world.Publishes backend lineageId attemptId status organizationId ∧
      (World.serve backend (.publish lineageId attemptId status organizationId outcome)
        world).2 = world) ∨
    ∃ current, world.store.lineages.find lineageId = some current ∧ ¬current.HasSucceeded ∧
      world.store.requirePublishAuthority backend current attemptId = .ok () ∧
      World.serve backend (.publish lineageId attemptId status organizationId outcome) world =
        (.ok (current.published attemptId status), { world with
          store := { world.store with
            lineages := world.store.lineages.put lineageId (current.published attemptId status) }
          publications :=
            world.publications ++ [⟨lineageId, attemptId, status, outcome⟩] }) := by
  unfold World.serve Store.serve Store.commit
  dsimp only
  cases called : world.store.casLineageTerminal backend lineageId attemptId status
      organizationId with
  | error refusal =>
    have silent : ¬world.Publishes backend lineageId attemptId status organizationId := by
      intro publishes
      simpa [called, Except.isOk, Except.toBool] using publishes.2
    rw [if_neg silent]
    exact .inl ⟨silent, rfl⟩
  | ok result =>
    obtain ⟨stored, after⟩ := result
    obtain ⟨current, found, ⟨succeeded, rfl, rfl⟩ | ⟨unfinished, authorized, rfl, rfl⟩⟩ :=
      Store.casLineageTerminal_ok called
    · have silent : ¬world.Publishes backend lineageId attemptId status organizationId :=
        fun publishes => publishes.1 _ (by simp [found]) succeeded
      rw [if_neg silent]
      exact .inl ⟨silent, rfl⟩
    · have publishes : world.Publishes backend lineageId attemptId status organizationId := by
        refine ⟨fun lineage there => ?_, by simp [called, Except.isOk, Except.toBool]⟩
        obtain rfl := Option.some.inj (found.symm.trans there)
        exact unfinished
      rw [if_pos publishes]
      exact .inr ⟨current, found, unfinished, authorized, rfl⟩

/-! ## The log -/

/-- Every success is logged, and every logged outcome is honest and was published under the
status that belongs to it. -/
structure Logged (world : World) : Prop where
  succeeded : ∀ {lineageId lineage}, world.store.lineages.find lineageId = some lineage →
    lineage.terminalStatus = some .succeeded →
      ∃ publication ∈ world.publications, publication.lineageId = lineageId ∧
        lineage.terminalAttemptId = some publication.attemptId ∧
        publication.status = .succeeded
  honest : ∀ publication ∈ world.publications, Honest publication.outcome ∧
    publication.status = attemptStatusFor publication.outcome.status

theorem logged_initial (clock : Instant) : (World.initial clock).Logged where
  succeeded found := by simp [World.initial, Store.empty, Table.empty] at found
  honest _ mem := absurd mem List.not_mem_nil

variable {lineageId : LineageId}

theorem Logged.hasSucceeded (logged : world.Logged) {lineage : ScanLineage}
    (found : world.store.lineages.find lineageId = some lineage)
    (status : lineage.terminalStatus = some .succeeded) : lineage.HasSucceeded := by
  obtain ⟨publication, -, -, attempt, -⟩ := logged.succeeded found status
  exact ⟨status, by simp [attempt]⟩

theorem Logged.publish (logged : world.Logged) {attemptId : AttemptId}
    {organizationId : OrganizationId} {outcome : EvaluationOutcome} (honest : Honest outcome) :
    (World.serve backend (.publish lineageId attemptId (attemptStatusFor outcome.status)
      organizationId outcome) world).2.Logged := by
  obtain ⟨-, same⟩ | ⟨current, -, -, -, served⟩ :=
    world.publish_cases backend lineageId attemptId _ organizationId outcome
  · rw [same]
    exact logged
  · rw [served]
    constructor
    · intro id lineage found status
      obtain ⟨rfl, rfl⟩ | ⟨-, before⟩ := Table.find_put_cases found
      · exact ⟨_, List.mem_append_right _ (List.mem_singleton_self _), rfl, rfl,
          Option.some.inj status⟩
      · obtain ⟨publication, mem, rest⟩ := logged.succeeded before status
        exact ⟨publication, List.mem_append_left _ mem, rest⟩
    · intro publication mem
      rcases List.mem_append.mp mem with before | last
      · exact logged.honest publication before
      · rw [List.mem_singleton.mp last]
        exact ⟨honest, rfl⟩

theorem Logged.serve (logged : world.Logged) {request : Call} (proper : Proper env.config request) :
    (World.serve backend request world).2.Logged := by
  cases request with
  | now | freshId | pass | evaluate => exact ⟨logged.succeeded, logged.honest⟩
  | publish lineageId attemptId status organizationId outcome =>
    obtain ⟨honest, rfl⟩ := proper
    exact logged.publish honest
  | store operation =>
    refine ⟨fun found status => ?_, logged.honest⟩
    have written := Store.serve_written backend world.store operation
    obtain before | none := written.lineage_cases proper found
    · exact logged.succeeded before status
    · rw [none] at status
      cases status

def SucceededKept (world now : World) : Prop :=
  ∀ {lineageId lineage}, world.store.lineages.find lineageId = some lineage →
    lineage.HasSucceeded → now.store.lineages.find lineageId = some lineage

theorem succeededKept_serve (backend : Backend) (world : World) (request : Call) :
    world.SucceededKept (World.serve backend request world).2 := by
  intro lineageId lineage found succeeded
  cases request with
  | now | freshId | pass | evaluate => exact found
  | publish id attemptId status organizationId outcome =>
    exact (Store.serve_written backend world.store
      (.casLineageTerminal id attemptId status organizationId)).succeeded_kept found succeeded
  | store operation =>
    exact (Store.serve_written backend world.store operation).succeeded_kept found succeeded

end World

/-! ## Runs -/

theorem attemptStatusFor_eq_succeeded {status : EvaluationStatus} :
    attemptStatusFor status = .succeeded ↔ status = .succeeded := by
  cases status <;> simp [attemptStatusFor]

def logging (backend : Backend) (env : Environment) : (machine backend env).Discipline :=
  .ofAsks World.Logged (Proper env.config) (fun _ => Returns HonestResult)
    (together_comm backend env) (asks_program env) fun _ _ logged proper => logged.serve proper

def CandidateHonest (outcome : EvaluationOutcome) : Prop :=
  outcome.candidateIds.length ≤ 1 ∧ (outcome.candidateIds ≠ [] →
    outcome.status = .succeeded ∧ outcome.reasonCode = "confirmed_setup" ∧
      ∃ token, outcome.evidenceValidityToken = some token ∧ IsSha256Hex token)

theorem Honest.candidateHonest {outcome : EvaluationOutcome} (honest : Honest outcome) :
    CandidateHonest outcome := by
  by_cases none : outcome.candidateIds = []
  · exact ⟨by simp [none], fun some => absurd none some⟩
  · obtain ⟨length, rest⟩ := honest.candidates none
    exact ⟨length.le, fun _ => rest⟩

/-- For both stores and every interleaving of any jobs, from the empty store on. A lineage
that is SUCCEEDED stays as it is. It became so by a publication whose outcome has no error
and no failed unit. Every published outcome, in the log and in what a job returns, carries
at most one candidate, and that only with the success of a confirmed setup and a hex token. -/
theorem first_success_stays_and_is_honest (backend : Backend) (env : Environment)
    (clock : Instant) (earlier later : List (Move Job)) :
    let pool := run (machine backend env).step (Machine.idle (World.initial clock)) earlier
    let after := run (machine backend env).step pool later
    (∀ lineageId lineage, pool.store.store.lineages.find lineageId = some lineage →
      lineage.terminalStatus = some .succeeded →
        after.store.store.lineages.find lineageId = some lineage) ∧
    (∀ lineageId lineage, pool.store.store.lineages.find lineageId = some lineage →
      lineage.terminalStatus = some .succeeded →
        ∃ publication ∈ pool.store.publications, publication.lineageId = lineageId ∧
          lineage.terminalAttemptId = some publication.attemptId ∧
          publication.outcome.status = .succeeded ∧
          truthy publication.outcome.error = false ∧ publication.outcome.failedUnits = 0 ∧
          ∀ attempt ∈ publication.outcome.unitAttempts, attempt.status ≠ .failed) ∧
    (∀ publication ∈ pool.store.publications, CandidateHonest publication.outcome ∧
      (publication.outcome.candidateIds ≠ [] → publication.status = .succeeded)) ∧
    ∀ entry ∈ pool.finished,
      (∀ result, entry.2 = .ok (.worker result) → result.published →
        ∃ outcome, result.outcome = some outcome ∧ CandidateHonest outcome) ∧
      ∀ result, entry.2 = .ok (.manual result) → result.persisted →
        CandidateHonest result.outcome := by
  intro pool after
  have sound : Machine.Sound (logging backend env) pool :=
    Machine.run_sound (World.logged_initial clock) earlier
  have logged : pool.store.Logged := sound.inv
  refine ⟨?_, ?_, ?_, ?_⟩
  · intro lineageId lineage found status
    have still : ∀ s : World, s.SucceededKept s := fun _ _ _ found _ => found
    have kept : pool.store.SucceededKept after.store :=
      Machine.run_advances still
        (fun first second _ _ found succeeded => second (first found succeeded) succeeded)
        (fun _ s _ _ => by
          rintro ⟨request, -, rfl⟩
          exact World.succeededKept_serve backend s request)
        sound later
    exact kept found (logged.hasSucceeded found status)
  · intro lineageId lineage found status
    obtain ⟨publication, mem, of, attempt, succeeded⟩ := logged.succeeded found status
    obtain ⟨honest, same⟩ := logged.honest publication mem
    have outcome := attemptStatusFor_eq_succeeded.mp (same.symm.trans succeeded)
    exact ⟨publication, mem, of, attempt, outcome, honest.error outcome,
      honest.failedUnits outcome, honest.units outcome⟩
  · intro publication mem
    obtain ⟨honest, same⟩ := logged.honest publication mem
    refine ⟨honest.candidateHonest, fun some => ?_⟩
    rw [same, (honest.candidates some).2.1]
    rfl
  · intro entry mem
    have returned := sound.results entry mem
    constructor
    · intro result ok published
      rw [ok] at returned
      obtain ⟨outcome, there, honest⟩ := returned published
      exact ⟨outcome, there, honest.candidateHonest⟩
    · intro result ok persisted
      rw [ok] at returned
      exact Honest.candidateHonest (returned persisted)

end AlphaTrade.Watcher
