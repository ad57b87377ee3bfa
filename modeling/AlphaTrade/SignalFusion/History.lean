import AlphaTrade.SignalFusion.Memory

/-!
# Histories of the in-memory repository

What one call can write is said once, in `Created` and `Applied`. From it
follow the invariant of the dictionaries (`Good`) and what no later call undoes (`Later`),
and from these the results about every sequence of calls.
-/
namespace AlphaTrade.SignalFusion
open Library
open Execution (OrganizationId)

/-! ## Chains of transitions -/

/-- The transitions lead from one state and version to another: each is allowed where it
starts, starts where the one before ended, and takes the next version. -/
def Linked : CandidateState → Nat → List CandidateTransition → CandidateState → Nat → Prop
  | state, version, [], last, lastVersion => state = last ∧ version = lastVersion
  | state, version, transition :: rest, last, lastVersion =>
    transition.previousState = state ∧
      transition.newState ∈ allowedCandidateTransitions state ∧
      transition.transitionVersion = version + 1 ∧
      Linked transition.newState (version + 1) rest last lastVersion

namespace Linked

variable {state last : CandidateState} {version lastVersion : Nat}
  {history : List CandidateTransition} {transition : CandidateTransition}

/-- A chain is continued by a transition that starts where it ends. -/
theorem concat (chain : Linked state version history last lastVersion)
    (starts : transition.previousState = last)
    (next : transition.transitionVersion = lastVersion + 1) :
    Linked state version (history ++ [transition]) transition.newState (lastVersion + 1) := by
  induction history generalizing state version with
  | nil =>
    obtain ⟨rfl, rfl⟩ := chain
    exact ⟨starts, starts ▸ transition.allowed, next, rfl, rfl⟩
  | cons head rest ih =>
    obtain ⟨starts', allowed, next', chain⟩ := chain
    exact ⟨starts', allowed, next', ih chain⟩

/-- Every transition of a chain takes one version. -/
theorem version_eq (chain : Linked state version history last lastVersion) :
    lastVersion = version + history.length := by
  induction history generalizing state version with
  | nil => exact chain.2.symm
  | cons head rest ih =>
    have counted := ih chain.2.2.2
    simp only [List.length_cons]
    omega

/-- The versions of a chain are consecutive. -/
theorem versions_eq (chain : Linked state version history last lastVersion) :
    history.map (·.transitionVersion) = List.range' (version + 1) history.length := by
  induction history generalizing state version with
  | nil => rfl
  | cons head rest ih =>
    obtain ⟨-, -, next, chain⟩ := chain
    simp only [List.map_cons, List.length_cons, List.range'_succ]
    rw [next, ih chain]

end Linked

/-! ## What a call can do -/

variable {contracts : Contracts} {store : Memory}

/-- A creation is refused, replays its key, converges on the candidate of its tuple, or
inserts the candidate. -/
inductive Created (contracts : Contracts) (store : Memory) (candidate : Candidate) :
    Except Failure Candidate × Memory → Prop where
  | refused (failure : Failure) : Created contracts store candidate (.error failure, store)
  | replayed
      (bound : store.creationByKey.find candidate.creationKey =
        some (contracts.uniqueness candidate)) :
      Created contracts store candidate
        (store.itemByUniqueness (contracts.uniqueness candidate), store)
  | converged {existingId : CandidateId}
      (free : store.creationByKey.find candidate.creationKey = none)
      (existing : store.byUniqueness.find (contracts.uniqueness candidate) = some existingId) :
      Created contracts store candidate
        (store.item existingId, store.bindCreation contracts candidate)
  | inserted
      (free : store.creationByKey.find candidate.creationKey = none)
      (fresh : store.byUniqueness.find (contracts.uniqueness candidate) = none)
      (unoccupied : store.byId.find candidate.candidateId = none) :
      Created contracts store candidate
        (.ok candidate, store.insertCandidate contracts candidate)

theorem created_getOrInsertCreated (contracts : Contracts) (store : Memory)
    (candidate : Candidate) :
    Created contracts store candidate (store.getOrInsertCreated contracts candidate) := by
  unfold Memory.getOrInsertCreated
  simp only
  split
  · rename_i bound found
    split
    · exact .refused _
    · rename_i same
      obtain rfl := not_not.mp same
      exact .replayed found
  · rename_i free
    split
    · rename_i existingId existing
      exact .converged free existing
    · rename_i fresh
      split
      · exact .refused _
      · rename_i unoccupied
        exact .inserted free fresh unoccupied

def Memory.Holds (store : Memory) (request : TransitionRequest) (current : Candidate) : Prop :=
  store.byId.find request.candidateId = some current ∧
    current.organizationId = request.organizationId

/-- A transition request is refused, or replays its key, converges on the transition that
established the state, or appends a transition. -/
inductive Applied (contracts : Contracts) (store : Memory) (request : TransitionRequest) :
    Except Failure Candidate × Memory → Prop where
  | refused (failure : Failure) : Applied contracts store request (.error failure, store)
  | replayed {current : Candidate} {stored : CandidateTransition}
      (held : store.Holds request current)
      (found : store.transitionByKey.find request.key = some stored)
      (matched : transitionIntentMatches stored request) :
      Applied contracts store request (.ok current, store)
  | converged {current : Candidate} {established : CandidateTransition}
      (held : store.Holds request current)
      (free : store.transitionByKey.find request.key = none)
      (same : current.state = request.newState)
      (last : store.establishingTransition request.candidateId = some established)
      (matched : transitionIntentMatches established request) :
      Applied contracts store request
        (.ok current, store.bindTransition request established)
  | appended {current : Candidate} {transition : CandidateTransition} {projection : Candidate}
      {history : List CandidateTransition}
      (held : store.Holds request current)
      (free : store.transitionByKey.find request.key = none)
      (other : current.state ≠ request.newState)
      (planned : contracts.planTransition current request = .ok (transition, projection))
      (found : store.history.find request.candidateId = some history) :
      Applied contracts store request
        (.ok projection, store.appendTransition request history transition projection)

variable {request : TransitionRequest} {failure : Failure}

theorem holds_of_getById {current : Candidate}
    (h : store.getById request.organizationId request.candidateId = some current) :
    store.Holds request current := by
  obtain ⟨found, owner⟩ := Option.filter_eq_some_iff.mp h
  exact ⟨found, by simpa using owner⟩

theorem applied_applyTransition (contracts : Contracts) (store : Memory)
    (request : TransitionRequest) :
    Applied contracts store request (store.applyTransition contracts request) := by
  unfold Memory.applyTransition
  split
  · exact .refused _
  · rename_i current visible
    have held := holds_of_getById visible
    split
    · rename_i stored found
      split
      · rename_i matched
        exact .replayed held found matched
      · exact .refused _
    · rename_i free
      split
      · rename_i same
        split
        · exact .refused _
        · rename_i established last
          split
          · rename_i matched
            exact .converged held free same last matched
          · exact .refused _
      · rename_i other
        split
        · exact .refused _
        · rename_i transition projection planned
          split
          · exact .refused _
          · rename_i history found
            exact .appended held free other planned found

/-! ## The invariant of the dictionaries -/

/-- The dictionaries agree with each other, and every candidate is where its history leads
from a creation that the repository was given. -/
structure Good (contracts : Contracts) (given : Candidate → Prop) (store : Memory) : Prop where
  indexed : ∀ id candidate, store.byId.find id = some candidate →
    candidate.candidateId = id ∧ store.byUniqueness.find (contracts.uniqueness candidate) = some id
  held : ∀ uniqueness id, store.byUniqueness.find uniqueness = some id →
    ∃ candidate, store.byId.find id = some candidate ∧ contracts.uniqueness candidate = uniqueness
  bound : ∀ key uniqueness, store.creationByKey.find key = some uniqueness →
    ∃ id, store.byUniqueness.find uniqueness = some id
  recorded : ∀ id candidate, store.byId.find id = some candidate →
    ∃ creation history, given creation ∧ creation.candidateId = id ∧
      store.history.find id = some history ∧
      Linked creation.state creation.transitionVersion history
        candidate.state candidate.transitionVersion

variable {given : Candidate → Prop}

theorem good_empty : Good contracts given .empty where
  indexed := by simp [Memory.empty]
  held := by simp [Memory.empty]
  bound := by simp [Memory.empty]
  recorded := by simp [Memory.empty]

/-- The index names the candidate, so the lookups of the source find it. -/
theorem Good.itemByUniqueness_eq (good : Good contracts given store) {uniqueness : Sha256Hex}
    {id : CandidateId} (named : store.byUniqueness.find uniqueness = some id) :
    ∃ candidate, store.byId.find id = some candidate ∧ candidate.candidateId = id ∧
      store.item id = .ok candidate ∧ store.itemByUniqueness uniqueness = .ok candidate := by
  obtain ⟨candidate, found, -⟩ := good.held uniqueness id named
  have item : store.item id = .ok candidate := by simp [Memory.item, found]
  exact ⟨candidate, found, (good.indexed id candidate found).1, item,
    by simp [Memory.itemByUniqueness, named, item]⟩

variable {candidate record : Candidate} {outcome : Except Failure Candidate × Memory}

theorem Good.bindCreation (good : Good contracts given store) {id : CandidateId}
    (named : store.byUniqueness.find (contracts.uniqueness candidate) = some id) :
    Good contracts given (store.bindCreation contracts candidate) where
  indexed := good.indexed
  held := good.held
  bound key uniqueness found := by
    obtain ⟨-, rfl⟩ | ⟨-, before⟩ := Table.find_put_cases found
    · exact ⟨id, named⟩
    · exact good.bound key uniqueness before
  recorded := good.recorded

theorem Good.insertCandidate (good : Good contracts given store) (isGiven : given candidate)
    (fresh : store.byUniqueness.find (contracts.uniqueness candidate) = none)
    (unoccupied : store.byId.find candidate.candidateId = none) :
    Good contracts given (store.insertCandidate contracts candidate) where
  indexed id other found := by
    obtain ⟨rfl, rfl⟩ | ⟨-, before⟩ := Table.find_put_cases found
    · exact ⟨rfl, Table.find_put_self ..⟩
    · obtain ⟨same, named⟩ := good.indexed id other before
      exact ⟨same, Table.find_put_kept fresh named _⟩
  held uniqueness id named := by
    obtain ⟨rfl, rfl⟩ | ⟨-, before⟩ := Table.find_put_cases named
    · exact ⟨candidate, Table.find_put_self .., rfl⟩
    · obtain ⟨other, found, same⟩ := good.held uniqueness id before
      exact ⟨other, Table.find_put_kept unoccupied found _, same⟩
  bound key uniqueness found := by
    obtain ⟨-, rfl⟩ | ⟨-, before⟩ := Table.find_put_cases found
    · exact ⟨candidate.candidateId, Table.find_put_self ..⟩
    · obtain ⟨id, named⟩ := good.bound key uniqueness before
      exact ⟨id, Table.find_put_kept fresh named _⟩
  recorded id other found := by
    obtain ⟨rfl, rfl⟩ | ⟨differs, before⟩ := Table.find_put_cases found
    · exact ⟨other, [], isGiven, rfl, Table.find_put_self .., rfl, rfl⟩
    · obtain ⟨creation, history, wasGiven, same, recorded, chain⟩ := good.recorded id other before
      exact ⟨creation, history, wasGiven, same,
        (Table.find_put_of_ne _ differs _).trans recorded, chain⟩

theorem Good.appendTransition (good : Good contracts given store) {current projection : Candidate}
    {transition : CandidateTransition} {history : List CandidateTransition}
    (held : store.Holds request current)
    (planned : contracts.planTransition current request = .ok (transition, projection))
    (found : store.history.find request.candidateId = some history) :
    Good contracts given (store.appendTransition request history transition projection) := by
  have plan := planned_of_planTransition planned
  obtain ⟨sameId, -, sameTuple, state, version⟩ := plan.projection_fields
  obtain ⟨ownId, named⟩ := good.indexed _ current held.1
  refine ⟨?_, ?_, good.bound, ?_⟩
  · intro id other lookup
    obtain ⟨rfl, rfl⟩ | ⟨-, before⟩ := Table.find_put_cases lookup
    · refine ⟨sameId.trans ownId, ?_⟩
      unfold Contracts.uniqueness at named ⊢
      rwa [sameTuple]
    · exact good.indexed id other before
  · intro uniqueness id lookup
    obtain ⟨other, before, fingerprint⟩ := good.held uniqueness id lookup
    by_cases same : id = request.candidateId
    · subst same
      obtain rfl := Option.some.inj (held.1.symm.trans before)
      refine ⟨projection, Table.find_put_self .., ?_⟩
      rw [← fingerprint, Contracts.uniqueness, sameTuple]
      rfl
    · exact ⟨other, (Table.find_put_of_ne _ same _).trans before, fingerprint⟩
  · intro id other lookup
    obtain ⟨rfl, rfl⟩ | ⟨differs, before⟩ := Table.find_put_cases lookup
    · obtain ⟨creation, history', wasGiven, same, recorded, chain⟩ :=
        good.recorded _ current held.1
      obtain rfl := Option.some.inj (recorded.symm.trans found)
      have continued := chain.concat plan.previousState plan.version
      rw [plan.matched.1, ← state, ← version] at continued
      exact ⟨creation, _, wasGiven, same, Table.find_put_self .., continued⟩
    · obtain ⟨creation, history', wasGiven, same, recorded, chain⟩ := good.recorded id other before
      exact ⟨creation, history', wasGiven, same,
        (Table.find_put_of_ne _ differs _).trans recorded, chain⟩

theorem Good.created (good : Good contracts given store) (isGiven : given candidate)
    (h : Created contracts store candidate outcome) : Good contracts given outcome.2 := by
  cases h with
  | refused => exact good
  | replayed => exact good
  | converged _ existing => exact good.bindCreation existing
  | inserted _ fresh unoccupied => exact good.insertCandidate isGiven fresh unoccupied

theorem Good.applied (good : Good contracts given store)
    (h : Applied contracts store request outcome) : Good contracts given outcome.2 := by
  cases h with
  | refused => exact good
  | replayed => exact good
  | converged => exact ⟨good.indexed, good.held, good.bound, good.recorded⟩
  | appended held _ _ planned found => exact good.appendTransition held planned found

/-- One call keeps the invariant. -/
theorem Good.step (good : Good contracts given store) {call : Call}
    (isGiven : ∀ candidate, call = .getOrInsertCreated candidate → given candidate) :
    Good contracts given (store.step contracts call) := by
  cases call with
  | getOrInsertCreated candidate =>
    exact good.created (isGiven candidate rfl) (created_getOrInsertCreated ..)
  | applyTransition request => exact good.applied (applied_applyTransition ..)
  | getById => exact good
  | listTransitions => exact good

/-- And so does a sequence of calls. -/
theorem good_after (contracts : Contracts) (calls : List Call) :
    Good contracts (fun candidate => .getOrInsertCreated candidate ∈ calls)
      (Memory.after contracts calls) := by
  apply run_invariant (P := fun _ call => call ∈ calls)
  · intro store call good listed
    refine good.step fun candidate same => ?_
    exact same ▸ listed
  · exact good_empty
  · exact along_of_mem _ _ fun _ listed => listed

/-! ## What no later call undoes -/

/-- Candidates stay where they are indexed, terminal ones as they are, and keys stay bound
to what they were bound to. -/
structure Later (store store' : Memory) : Prop where
  kept : ∀ id candidate, store.byId.find id = some candidate →
    ∃ candidate', store'.byId.find id = some candidate' ∧
      candidate'.organizationId = candidate.organizationId ∧
      (candidate.state ∈ terminalCandidateStates → candidate' = candidate)
  named : ∀ uniqueness id, store.byUniqueness.find uniqueness = some id →
    store'.byUniqueness.find uniqueness = some id
  creationKey : ∀ key uniqueness, store.creationByKey.find key = some uniqueness →
    store'.creationByKey.find key = some uniqueness
  transitionKey : ∀ key transition, store.transitionByKey.find key = some transition →
    store'.transitionByKey.find key = some transition

namespace Later

variable {store' store'' : Memory}

theorem refl (store : Memory) : Later store store :=
  ⟨fun _ candidate found => ⟨candidate, found, rfl, fun _ => rfl⟩, fun _ _ h => h,
    fun _ _ h => h, fun _ _ h => h⟩

theorem trans (first : Later store store') (second : Later store' store'') :
    Later store store'' where
  kept id candidate found := by
    obtain ⟨middle, found', owner, frozen⟩ := first.kept id candidate found
    obtain ⟨final, found'', owner', frozen'⟩ := second.kept id middle found'
    refine ⟨final, found'', owner'.trans owner, fun terminal => ?_⟩
    obtain rfl := frozen terminal
    exact frozen' terminal
  named uniqueness id h := second.named uniqueness id (first.named uniqueness id h)
  creationKey key uniqueness h :=
    second.creationKey key uniqueness (first.creationKey key uniqueness h)
  transitionKey key transition h :=
    second.transitionKey key transition (first.transitionKey key transition h)

variable {outcome : Except Failure Candidate × Memory}

theorem created {candidate : Candidate} (h : Created contracts store candidate outcome) :
    Later store outcome.2 := by
  have unchanged := refl store
  cases h with
  | refused => exact unchanged
  | replayed => exact unchanged
  | converged free _ =>
    exact { unchanged with
      creationKey := fun _ _ found => Table.find_put_kept free found _ }
  | inserted free fresh unoccupied =>
    refine ⟨fun id other found => ⟨other, ?_, rfl, fun _ => rfl⟩, ?_, ?_, unchanged.transitionKey⟩
    · exact Table.find_put_kept unoccupied found _
    · exact fun _ _ found => Table.find_put_kept fresh found _
    · exact fun _ _ found => Table.find_put_kept free found _

theorem applied {request : TransitionRequest} (h : Applied contracts store request outcome) :
    Later store outcome.2 := by
  have unchanged := refl store
  cases h with
  | refused => exact unchanged
  | replayed => exact unchanged
  | converged _ free =>
    exact { unchanged with
      transitionKey := fun _ _ found => Table.find_put_kept free found _ }
  | @appended current transition projection history held free other planned found =>
    refine ⟨?_, unchanged.named, unchanged.creationKey,
      fun _ _ found => Table.find_put_kept free found _⟩
    intro id candidate lookup
    by_cases same : id = request.candidateId
    · subst same
      obtain rfl := Option.some.inj (held.1.symm.trans lookup)
      have owner := (planned_of_planTransition planned).projection_fields.2.1
      exact ⟨projection, Table.find_put_self .., owner,
        fun terminal => (planTransition_terminal terminal planned).elim⟩
    · exact ⟨candidate, (Table.find_put_of_ne _ same _).trans lookup, rfl, fun _ => rfl⟩

theorem step (store : Memory) (call : Call) : Later store (store.step contracts call) := by
  cases call with
  | getOrInsertCreated candidate => exact created (created_getOrInsertCreated ..)
  | applyTransition request => exact applied (applied_applyTransition ..)
  | getById => exact refl store
  | listTransitions => exact refl store

theorem run (store : Memory) (calls : List Call) :
    Later store (Library.run (Memory.step contracts) store calls) :=
  run_invariant_of_step _ (fun _ call before => before.trans (step _ call)) calls (refl store)

end Later

/-! ## Settled calls -/

def SameKey : Call → Call → Prop
  | .getOrInsertCreated candidate, .getOrInsertCreated candidate' =>
    candidate.creationKey = candidate'.creationKey
  | .applyTransition request, .applyTransition request' => request.key = request'.key
  | _, _ => False

/-- Two calls with one intent. A time that one of them leaves open does not tell them apart. -/
def SameIntent (contracts : Contracts) : Call → Call → Prop
  | .getOrInsertCreated candidate, .getOrInsertCreated candidate' =>
    contracts.uniqueness candidate = contracts.uniqueness candidate'
  | .applyTransition request, .applyTransition request' =>
    request.newState = request'.newState ∧ request.reasonCodes = request'.reasonCodes ∧
      request.correlationId = request'.correlationId ∧
      ∀ moment moment', request.occurredAt = some moment → request'.occurredAt = some moment' →
        moment = moment'
  | _, _ => False

/-- The second call repeats the first: the same key and intent, at any later time. -/
def Repeats (contracts : Contracts) : Call → Call → Prop
  | .getOrInsertCreated candidate, .getOrInsertCreated candidate' =>
    candidate'.creationKey = candidate.creationKey ∧
      contracts.uniqueness candidate' = contracts.uniqueness candidate
  | .applyTransition request, .applyTransition request' =>
    request'.key = request.key ∧ request'.newState = request.newState ∧
      request'.reasonCodes = request.reasonCodes ∧
      request'.correlationId = request.correlationId ∧
      (request'.occurredAt = none ∨ request'.occurredAt = request.occurredAt)
  | _, _ => False

def Settled (contracts : Contracts) (store : Memory) (id : CandidateId) : Call → Prop
  | .getOrInsertCreated candidate =>
    store.creationByKey.find candidate.creationKey = some (contracts.uniqueness candidate) ∧
      store.byUniqueness.find (contracts.uniqueness candidate) = some id
  | .applyTransition request =>
    request.candidateId = id ∧ (∃ current, store.Holds request current) ∧
      ∃ transition, store.transitionByKey.find request.key = some transition ∧
        transitionIntentMatches transition request
  | _ => False

variable {call call' : Call} {id : CandidateId} {store' : Memory}

/-- A settled call stays settled. -/
theorem Settled.later (settled : Settled contracts store id call) (later : Later store store') :
    Settled contracts store' id call := by
  cases call with
  | getOrInsertCreated candidate =>
    exact ⟨later.creationKey _ _ settled.1, later.named _ _ settled.2⟩
  | applyTransition request =>
    obtain ⟨same, ⟨current, found, owner⟩, transition, bound, matched⟩ := settled
    obtain ⟨current', found', owner', -⟩ := later.kept _ _ found
    exact ⟨same, ⟨current', found', owner'.trans owner⟩, transition,
      later.transitionKey _ _ bound, matched⟩
  | getById => exact settled.elim
  | listTransitions => exact settled.elim

theorem Settled.repeats (settled : Settled contracts store id call)
    (again : Repeats contracts call call') : Settled contracts store id call' := by
  cases call with
  | getOrInsertCreated candidate =>
    cases call' with
    | getOrInsertCreated candidate' =>
      obtain ⟨sameKey, sameTuple⟩ := again
      simpa only [Settled, sameKey, sameTuple] using settled
    | _ => exact again.elim
  | applyTransition request =>
    cases call' with
    | applyTransition request' =>
      obtain ⟨sameKey, state, reasons, correlation, occurred⟩ := again
      obtain ⟨same, ⟨current, found, owner⟩, transition, bound, matched⟩ := settled
      obtain ⟨sameOwner, sameId, -⟩ : request'.organizationId = request.organizationId ∧
          request'.candidateId = request.candidateId ∧
          request'.idempotencyKey = request.idempotencyKey := by
        simpa [TransitionRequest.key] using sameKey
      refine ⟨sameId.trans same, ⟨current, sameId ▸ found, owner.trans sameOwner.symm⟩,
        transition, sameKey ▸ bound, ?_⟩
      obtain ⟨state', reasons', correlation', occurred'⟩ := matched
      refine ⟨state'.trans state.symm, reasons'.trans reasons.symm,
        correlation'.trans correlation.symm, ?_⟩
      rcases occurred with never | sameTime
      · exact .inl never
      · exact sameTime ▸ occurred'
    | _ => exact again.elim
  | getById => exact settled.elim
  | listTransitions => exact settled.elim

theorem Created.settled (good : Good contracts given store)
    (h : Created contracts store candidate outcome) (ok : outcome.1 = .ok record) :
    Settled contracts outcome.2 record.candidateId (.getOrInsertCreated candidate) := by
  cases h with
  | refused failure => cases ok
  | replayed bound =>
    obtain ⟨id, named⟩ := good.bound _ _ bound
    obtain ⟨found, -, sameId, -, item⟩ := good.itemByUniqueness_eq named
    obtain rfl := Except.ok.inj (item.symm.trans ok)
    exact ⟨bound, sameId ▸ named⟩
  | converged free existing =>
    obtain ⟨found, -, sameId, item, -⟩ := good.itemByUniqueness_eq existing
    obtain rfl := Except.ok.inj (item.symm.trans ok)
    exact ⟨Table.find_put_self .., sameId ▸ existing⟩
  | inserted =>
    obtain rfl := Except.ok.inj ok
    exact ⟨Table.find_put_self .., Table.find_put_self ..⟩

theorem Applied.settled (good : Good contracts given store)
    (h : Applied contracts store request outcome) (ok : outcome.1 = .ok record) :
    Settled contracts outcome.2 record.candidateId (.applyTransition request) := by
  cases h with
  | refused failure => cases ok
  | @replayed current stored held found matched =>
    obtain rfl := Except.ok.inj ok
    exact ⟨(good.indexed _ _ held.1).1.symm, ⟨current, held⟩, stored, found, matched⟩
  | @converged current established held _ _ _ matched =>
    obtain rfl := Except.ok.inj ok
    exact ⟨(good.indexed _ _ held.1).1.symm, ⟨current, held⟩, established,
      Table.find_put_self .., matched⟩
  | @appended current transition projection history held _ _ planned _ =>
    obtain rfl := Except.ok.inj ok
    have plan := planned_of_planTransition planned
    obtain ⟨sameId, owner, -⟩ := plan.projection_fields
    exact ⟨((sameId.trans (good.indexed _ _ held.1).1)).symm,
      ⟨projection, Table.find_put_self .., owner.trans held.2⟩, transition,
      Table.find_put_self .., plan.matched⟩

/-- A call that returns a candidate is settled on it. -/
theorem settled_of_ok (good : Good contracts given store)
    (h : (store.serve contracts call).1 = .ok (.candidate record)) :
    Settled contracts (store.step contracts call) record.candidateId call := by
  cases call with
  | getOrInsertCreated candidate =>
    obtain ⟨returned, ok, same⟩ := map_eq_ok.mp h
    obtain rfl := Answer.candidate.inj same
    exact (created_getOrInsertCreated contracts store candidate).settled good ok
  | applyTransition request =>
    obtain ⟨returned, ok, same⟩ := map_eq_ok.mp h
    obtain rfl := Answer.candidate.inj same
    exact (applied_applyTransition contracts store request).settled good ok
  | getById => simp [Memory.serve] at h
  | listTransitions => simp [Memory.serve] at h

/-- A settled call returns the current record and changes nothing. -/
theorem Settled.serve_eq (settled : Settled contracts store id call)
    (good : Good contracts given store) :
    ∃ current, store.byId.find id = some current ∧
      store.serve contracts call = (.ok (.candidate current), store) := by
  cases call with
  | getOrInsertCreated candidate =>
    obtain ⟨bound, named⟩ := settled
    obtain ⟨current, found, -, -, item⟩ := good.itemByUniqueness_eq named
    refine ⟨current, found, ?_⟩
    simp [Memory.serve, Memory.getOrInsertCreated, bound, item, Except.map]
  | applyTransition request =>
    obtain ⟨rfl, ⟨current, found, owner⟩, transition, bound, matched⟩ := settled
    have visible : store.getById request.organizationId request.candidateId = some current := by
      simp [Memory.getById, found, owner]
    refine ⟨current, found, ?_⟩
    simp [Memory.serve, Memory.applyTransition, visible, bound, matched, Except.map]
  | getById => exact settled.elim
  | listTransitions => exact settled.elim

/-- Two calls that the store settles under one key have one intent. -/
theorem Settled.sameIntent {id' : CandidateId} (settled : Settled contracts store id call)
    (settled' : Settled contracts store id' call') (same : SameKey call call') :
    SameIntent contracts call call' := by
  cases call with
  | getOrInsertCreated candidate =>
    cases call' with
    | getOrInsertCreated candidate' =>
      have bound := settled.1
      rw [show candidate.creationKey = candidate'.creationKey from same, settled'.1] at bound
      exact (Option.some.inj bound).symm
    | _ => exact same.elim
  | applyTransition request =>
    cases call' with
    | applyTransition request' =>
      obtain ⟨-, -, transition, bound, state, reasons, correlation, occurred⟩ := settled
      obtain ⟨-, -, transition', bound', state', reasons', correlation', occurred'⟩ := settled'
      rw [show request.key = request'.key from same, bound'] at bound
      obtain rfl := Option.some.inj bound
      refine ⟨state.symm.trans state', reasons.symm.trans reasons',
        correlation.symm.trans correlation', ?_⟩
      intro moment moment' given given'
      simp only [given, reduceCtorEq, Option.some.injEq, false_or] at occurred
      simp only [given', reduceCtorEq, Option.some.injEq, false_or] at occurred'
      exact occurred.trans occurred'.symm
    | _ => exact same.elim
  | getById => exact settled.elim
  | listTransitions => exact settled.elim

theorem Created.unchanged (good : Good contracts given store)
    (h : Created contracts store candidate outcome) (raised : outcome.1 = .error failure) :
    outcome.2 = store := by
  cases h with
  | refused => rfl
  | replayed => rfl
  | converged _ existing =>
    -- the key is already bound here, but the indexed candidate is always there to return
    obtain ⟨_, -, -, item, -⟩ := good.itemByUniqueness_eq existing
    cases item.symm.trans raised
  | inserted => cases raised

theorem Applied.unchanged (h : Applied contracts store request outcome)
    (raised : outcome.1 = .error failure) : outcome.2 = store := by
  cases h with
  | refused => rfl
  | replayed => rfl
  | converged => cases raised
  | appended => cases raised

/-- A call that raises leaves every dictionary as it was. -/
theorem unchanged_of_error (good : Good contracts given store)
    (h : (store.serve contracts call).1 = .error failure) : store.step contracts call = store := by
  cases call with
  | getOrInsertCreated candidate =>
    exact (created_getOrInsertCreated contracts store candidate).unchanged good (map_eq_error.mp h)
  | applyTransition request =>
    exact (applied_applyTransition contracts store request).unchanged (map_eq_error.mp h)
  | getById => rfl
  | listTransitions => rfl

/-! ## Every sequence of calls -/

/-- After any sequence of calls: one candidate per uniqueness tuple; every candidate is where
a chain of allowed transitions leads from its creation, and its version is the version it
was created at plus the length of the chain; and a call that raises changes nothing. From
any earlier point on: a terminal candidate is as it was; and once a call has returned a
candidate, its key succeeds with no other intent, and repeating it returns that candidate's
current record and changes nothing. -/
theorem candidate_store_keeps_histories (contracts : Contracts) (calls : List Call) :
    let store := Memory.after contracts calls
    (∀ id id' candidate candidate', store.byId.find id = some candidate →
      store.byId.find id' = some candidate' →
      candidate.uniquenessTuple = candidate'.uniquenessTuple → id = id') ∧
    (∀ id candidate, store.byId.find id = some candidate → ∃ creation history,
      .getOrInsertCreated creation ∈ calls ∧ creation.candidateId = id ∧
      store.history.find id = some history ∧
      Linked creation.state creation.transitionVersion history
        candidate.state candidate.transitionVersion ∧
      candidate.transitionVersion = creation.transitionVersion + history.length) ∧
    (∀ call failure, (store.serve contracts call).1 = .error failure →
      store.step contracts call = store) ∧
    ∀ before call rest, calls = before ++ call :: rest →
      let earlier := Memory.after contracts before
      (∀ id candidate, earlier.byId.find id = some candidate →
        candidate.state ∈ terminalCandidateStates → store.byId.find id = some candidate) ∧
      ∀ record, (earlier.serve contracts call).1 = .ok (.candidate record) →
        (∀ call' record', (store.serve contracts call').1 = .ok (.candidate record') →
          SameKey call call' → SameIntent contracts call call') ∧
        ∀ call', Repeats contracts call call' →
          ∃ current, store.byId.find record.candidateId = some current ∧
            store.serve contracts call' = (.ok (.candidate current), store) := by
  intro store
  have good := good_after contracts calls
  refine ⟨?_, ?_, fun call failure => unchanged_of_error good, ?_⟩
  · intro id id' candidate candidate' found found' same
    have named := (good.indexed id candidate found).2
    have named' := (good.indexed id' candidate' found').2
    unfold Contracts.uniqueness at named named'
    rw [same, named'] at named
    exact (Option.some.inj named).symm
  · intro id candidate found
    obtain ⟨creation, history, listed, same, recorded, chain⟩ := good.recorded id candidate found
    exact ⟨creation, history, listed, same, recorded, chain, chain.version_eq⟩
  · intro before call rest split earlier
    have goodEarlier := good_after contracts before
    have reached : store = run (Memory.step contracts) (earlier.step contracts call) rest := by
      change Memory.after contracts calls = _
      rw [split, Memory.after, run_append, run_cons]
      rfl
    have later : Later (earlier.step contracts call) store := reached ▸ Later.run _ rest
    refine ⟨?_, ?_⟩
    · intro id candidate found terminal
      obtain ⟨candidate', found', -, frozen⟩ :=
        ((Later.step earlier call).trans later).kept id candidate found
      exact frozen terminal ▸ found'
    · intro record returned
      have settled := (settled_of_ok goodEarlier returned).later later
      refine ⟨?_, fun call' again => (settled.repeats again).serve_eq good⟩
      intro call' record' returned' same
      have settled' := settled_of_ok good returned'
      exact (settled.later (Later.step store call')).sameIntent settled' same

def samplePayload : CandidatePayload where
  schemaVersion := candidateSchema
  candidateId := 1
  organizationId := 1
  strategyVersionId := 1
  executableSetup := { setupDefinitionId := 1, contentHash := 1 }
  fusionPolicyVersion := "fusion/v1"
  direction := .long
  assessmentId := 1
  evidenceWindowHash := 1
  evidenceIdentity :=
    { venue := .binance, marketType := .perpetual, instrumentId := "BTC-USDT-PERP",
      timeframe := some .m5, attributes := "" }
  evidenceVenue := .binance
  evidenceMarket := .perpetual
  evidenceInstrument := "BTC-USDT-PERP"
  timeframe := .m5
  state := .active
  createdAt := 0
  validUntil := 1
  transitionVersion := 1
  idempotencyKey := "creation"
  correlationId := 1
  contentHash := 0

def sampleContracts : Contracts where
  canonicalHash tuple := tuple.organizationId
  candidateHash _ := 0
  transitionHash _ := 0
  revalidate := some

/-- A candidate that is created at version five has version five and no transition. -/
theorem candidate_version_not_counted :
    ∃ calls id candidate history,
      (Memory.after sampleContracts calls).byId.find id = some candidate ∧
      (Memory.after sampleContracts calls).history.find id = some history ∧
      candidate.transitionVersion ≠ 1 + history.length := by
  let candidate : Candidate := { samplePayload with
    transitionVersion := 5, valid := by decide }
  exact ⟨[.getOrInsertCreated candidate], 1, candidate, [], rfl, rfl, by decide⟩

end AlphaTrade.SignalFusion
