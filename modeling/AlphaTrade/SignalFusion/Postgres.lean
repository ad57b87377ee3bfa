import AlphaTrade.SignalFusion.Memory
import Mathlib.Data.List.Sort

/-!
# The PostgreSQL candidate repository

Four tables. Every call is one transaction, so a call that raises leaves the tables as they
were. Inserts go through a savepoint: a unique violation is caught, the savepoint is rolled
back and the call answers from what it then finds.

The driver refuses a text with a NUL, also as the argument of a query. A text column has a
width, past which only spaces are cut off silently, and a version column has 32 bits. Random
row ids are drawn from a counter. Check constraints repeat the validation of the records and
are left out; the fence that a worker may bind is in the watcher's modules.
-/
namespace AlphaTrade.SignalFusion
open Library
open Execution (OrganizationId)

abbrev TransitionId := Nat

/-! ## Columns -/

def text (value : String) : Except Failure String :=
  if Char.ofNat 0 ∈ value.toList then .error .dataError else .ok value

/-- A `String(width)` column. -/
def varchar (width : Nat) (value : String) : Except Failure String := do
  let value ← text value
  if value.length ≤ width then return value
  else if (value.toList.drop width).all (· = ' ') then
    return String.ofList (value.toList.take width)
  else .error .dataError

/-- An `Integer` column. -/
def integer (value : Nat) : Except Failure Nat :=
  if value < 2 ^ 31 then .ok value else .error .dataError

/-! ## Rows -/

structure CandidateRow where
  columns : CandidatePayload
  uniquenessHash : Sha256Hex
  deriving DecidableEq

structure CreationKeyRow where
  uniquenessHash : Sha256Hex
  candidateId : CandidateId
  deriving DecidableEq

structure TransitionRow where
  organizationId : OrganizationId
  candidateId : CandidateId
  columns : TransitionPayload
  deriving DecidableEq

structure Tables where
  candidates : Table CandidateId CandidateRow
  creationKeys : Table (OrganizationId × String) CreationKeyRow
  transitions : Table TransitionId TransitionRow
  transitionKeys : Table (OrganizationId × CandidateId × String) TransitionId
  nextTransitionId : TransitionId

def Tables.empty : Tables where
  candidates := .empty
  creationKeys := .empty
  transitions := .empty
  transitionKeys := .empty
  nextTransitionId := 0

def candidateToRow (candidate : Candidate) (uniquenessHash : Sha256Hex) : CandidateRow where
  columns := candidate.toCandidatePayload
  uniquenessHash := uniquenessHash

def transitionToRow (organizationId : OrganizationId) (candidateId : CandidateId)
    (transition : CandidateTransition) : TransitionRow where
  organizationId := organizationId
  candidateId := candidateId
  columns := transition.toTransitionPayload

def Contracts.candidateFromRow (contracts : Contracts) (row : CandidateRow) :
    Except Failure Candidate := do
  let rebuilt ← contracts.buildCandidate row.columns
  ensure (rebuilt.contentHash = row.columns.contentHash) (.conflictingTransition
    "Stored candidate projection content hash does not match canonical rebuild.")
  ensure (rebuilt.schemaVersion = row.columns.schemaVersion) (.conflictingTransition
    "Stored candidate schema version does not match canonical rebuild.")
  return rebuilt

def Contracts.transitionFromRow (contracts : Contracts) (row : TransitionRow) :
    Except Failure CandidateTransition := do
  let rebuilt ← contracts.buildCandidateTransition row.columns.previousState
    row.columns.newState row.columns.transitionVersion row.columns.reasonCodes
    (.aware row.columns.occurredAt) row.columns.correlationId row.columns.idempotencyKey
  ensure (rebuilt.contentHash = row.columns.contentHash) (.conflictingTransition
    "Stored candidate transition content hash does not match canonical rebuild.")
  return rebuilt

/-! ## Unique violations -/

/-- `_CREATE_UNIQUES`. -/
def createUniques : List Constraint :=
  [.candidatesUniquenessHash, .candidatesSemanticKey, .candidatesPk, .creationKeysPk]

/-- `_TRANSITION_KEY_UNIQUES`. -/
def transitionKeyUniques : List Constraint := [.transitionKeysPk]

/-- `_TRANSITION_UNIQUES`. -/
def transitionUniques : List Constraint :=
  [.transitionsVersion, .transitionsPk] ++ transitionKeyUniques

/-- Run the inserts of a savepoint. A violation of one of the constraints is handled from
the tables before it; anything else is raised. -/
def savepoint {α : Type} (constraints : List Constraint) (inserts : Except Failure α)
    (recover : Except Failure α) : Except Failure α :=
  match inserts with
  | .ok result => .ok result
  | .error (.integrityError constraint) =>
    if constraint ∈ constraints then recover else .error (.integrityError constraint)
  | .error failure => .error failure

namespace Tables

/-! ## Queries -/

/-- `_load_candidate`, and `_lock_candidate` with the row locked. -/
def loadCandidate (tables : Tables) (organizationId : OrganizationId)
    (candidateId : CandidateId) : Option CandidateRow :=
  (tables.candidates.find candidateId).filter fun row =>
    row.columns.organizationId = organizationId

def loadByUniqueness (tables : Tables) (organizationId : OrganizationId)
    (uniquenessHash : Sha256Hex) : Option CandidateRow :=
  tables.candidates.first fun row =>
    row.uniquenessHash = uniquenessHash ∧ row.columns.organizationId = organizationId

def loadCreationKey (tables : Tables) (organizationId : OrganizationId)
    (idempotencyKey : String) : Except Failure (Option CreationKeyRow) := do
  let key ← text idempotencyKey
  return tables.creationKeys.find (organizationId, key)

def loadTransitionKey (tables : Tables) (organizationId : OrganizationId)
    (candidateId : CandidateId) (idempotencyKey : String) :
    Except Failure (Option TransitionId) := do
  let key ← text idempotencyKey
  return tables.transitionKeys.find (organizationId, candidateId, key)

def transitionsByVersion (tables : Tables) (selects : TransitionRow → Bool) :
    List (TransitionId × TransitionRow) :=
  (tables.transitions.rows.filter fun entry => selects entry.2).insertionSort fun entry entry' =>
    entry.2.columns.transitionVersion ≤ entry'.2.columns.transitionVersion

/-- `_establishing_transition_row`: the versions of one candidate are distinct, so the first
row in descending order is the last in ascending order. -/
def establishingTransitionRow (tables : Tables) (candidateId : CandidateId) :
    Option (TransitionId × TransitionRow) :=
  (tables.transitionsByVersion fun row => row.candidateId = candidateId).getLast?

variable (contracts : Contracts)

def loadTransitionForKey (tables : Tables) (organizationId : OrganizationId)
    (candidateId : CandidateId) (idempotencyKey : String) :
    Except Failure (Option CandidateTransition) := do
  match ← tables.loadTransitionKey organizationId candidateId idempotencyKey with
  | none => return none
  | some transitionId =>
    match tables.transitions.find transitionId with
    | none => return none
    | some row =>
      if row.organizationId ≠ organizationId ∨ row.candidateId ≠ candidateId then return none
      else return some (← contracts.transitionFromRow row)

def getById (tables : Tables) (organizationId : OrganizationId) (candidateId : CandidateId) :
    Except Failure (Option Candidate) :=
  match tables.loadCandidate organizationId candidateId with
  | none => .ok none
  | some row => (contracts.candidateFromRow row).map some

def listTransitions (tables : Tables) (organizationId : OrganizationId)
    (candidateId : CandidateId) : Except Failure (List CandidateTransition) :=
  match tables.loadCandidate organizationId candidateId with
  | none => .ok []
  | some _ =>
    (tables.transitionsByVersion fun row =>
      row.organizationId = organizationId ∧ row.candidateId = candidateId).mapM fun entry =>
        contracts.transitionFromRow entry.2

/-! ## Inserts -/

def addCandidate (tables : Tables) (row : CandidateRow) : Except Failure Tables := do
  let schemaVersion ← varchar 64 row.columns.schemaVersion
  let fusionPolicyVersion ← varchar 120 row.columns.fusionPolicyVersion
  let evidenceInstrument ← varchar 80 row.columns.evidenceInstrument
  let idempotencyKey ← varchar 120 row.columns.idempotencyKey
  let transitionVersion ← integer row.columns.transitionVersion
  let stored := { row with
    columns := { row.columns with
      schemaVersion, fusionPolicyVersion, evidenceInstrument, idempotencyKey,
      transitionVersion } }
  ensure (tables.candidates.find stored.columns.candidateId = none) (.integrityError .candidatesPk)
  ensure (tables.candidates.first fun other => other.uniquenessHash = stored.uniquenessHash).isNone
    (.integrityError .candidatesUniquenessHash)
  ensure (tables.candidates.first fun other =>
    other.columns.uniquenessTuple = stored.columns.uniquenessTuple).isNone
    (.integrityError .candidatesSemanticKey)
  return { tables with
    candidates := tables.candidates.put stored.columns.candidateId stored }

def addCreationKey (tables : Tables) (organizationId : OrganizationId)
    (idempotencyKey : String) (row : CreationKeyRow) : Except Failure Tables := do
  let key ← varchar 120 idempotencyKey
  ensure (tables.creationKeys.find (organizationId, key) = none) (.integrityError .creationKeysPk)
  ensure (tables.candidates.find row.candidateId ≠ none)
    (.integrityError .creationKeysCandidate)
  return { tables with creationKeys := tables.creationKeys.put (organizationId, key) row }

def addTransition (tables : Tables) (row : TransitionRow) :
    Except Failure (TransitionId × Tables) := do
  let idempotencyKey ← varchar 120 row.columns.idempotencyKey
  let transitionVersion ← integer row.columns.transitionVersion
  let stored := { row with
    columns := { row.columns with idempotencyKey, transitionVersion } }
  let transitionId := tables.nextTransitionId
  ensure (tables.transitions.find transitionId = none) (.integrityError .transitionsPk)
  ensure (tables.transitions.first fun other =>
    other.candidateId = stored.candidateId ∧
      other.columns.transitionVersion = stored.columns.transitionVersion).isNone
    (.integrityError .transitionsVersion)
  ensure (tables.candidates.find stored.candidateId ≠ none)
    (.integrityError .transitionsCandidate)
  return (transitionId,
    { tables with
      transitions := tables.transitions.put transitionId stored
      nextTransitionId := transitionId + 1 })

def addTransitionKey (tables : Tables) (organizationId : OrganizationId)
    (candidateId : CandidateId) (idempotencyKey : String) (transitionId : TransitionId) :
    Except Failure Tables := do
  let key ← varchar 120 idempotencyKey
  ensure (tables.transitionKeys.find (organizationId, candidateId, key) = none)
    (.integrityError .transitionKeysPk)
  ensure (tables.candidates.find candidateId ≠ none) (.integrityError .transitionKeysCandidate)
  ensure (tables.transitions.find transitionId ≠ none)
    (.integrityError .transitionKeysTransition)
  return { tables with
    transitionKeys := tables.transitionKeys.put (organizationId, candidateId, key) transitionId }

/-- `_apply_projection`. -/
def applyProjection (tables : Tables) (row : CandidateRow) (projection : Candidate) :
    Except Failure Tables := do
  let transitionVersion ← integer projection.transitionVersion
  let stored := { row with
    columns := { row.columns with
      state := projection.state, transitionVersion, contentHash := projection.contentHash } }
  return { tables with candidates := tables.candidates.put row.columns.candidateId stored }

def insertCreationKey (tables : Tables) (organizationId : OrganizationId)
    (idempotencyKey : String) (row : CreationKeyRow) : Except Failure Tables := do
  match ← tables.loadCreationKey organizationId idempotencyKey with
  | some existing =>
    ensure (existing.uniquenessHash = row.uniquenessHash) creationKeyConflict
    return tables
  | none =>
    let inserts := tables.addCreationKey organizationId idempotencyKey row
    savepoint createUniques inserts do
      match ← tables.loadCreationKey organizationId idempotencyKey with
      | none => inserts
      | some current =>
        ensure (current.uniquenessHash = row.uniquenessHash) creationKeyConflict
        return tables

def insertTransitionKey (tables : Tables) (organizationId : OrganizationId)
    (candidateId : CandidateId) (idempotencyKey : String) (transitionId : TransitionId) :
    Except Failure Tables := do
  match ← tables.loadTransitionKey organizationId candidateId idempotencyKey with
  | some existing =>
    ensure (existing = transitionId) transitionKeyConflict
    return tables
  | none =>
    let inserts := tables.addTransitionKey organizationId candidateId idempotencyKey transitionId
    savepoint transitionKeyUniques inserts do
      match ← tables.loadTransitionKey organizationId candidateId idempotencyKey with
      | none => inserts
      | some current =>
        ensure (current = transitionId) transitionKeyConflict
        return tables

/-! ## Creation -/

def replayCreation (tables : Tables) (candidate : Candidate) (bound : CreationKeyRow) :
    Except Failure (Candidate × Tables) := do
  ensure (bound.uniquenessHash = contracts.uniqueness candidate) creationKeyConflict
  match tables.loadCandidate candidate.organizationId bound.candidateId with
  | none => .error unknownCandidate
  | some current => return (← contracts.candidateFromRow current, tables)

def convergeCreation (tables : Tables) (candidate : Candidate) (row : CandidateRow) :
    Except Failure (Candidate × Tables) := do
  let tables ← tables.insertCreationKey candidate.organizationId candidate.idempotencyKey
    { uniquenessHash := contracts.uniqueness candidate, candidateId := row.columns.candidateId }
  return (← contracts.candidateFromRow row, tables)

/-- `_recover_created`. -/
def recoverCreated (tables : Tables) (candidate : Candidate) :
    Except Failure (Candidate × Tables) := do
  match ← tables.loadCreationKey candidate.organizationId candidate.idempotencyKey with
  | some bound => tables.replayCreation contracts candidate bound
  | none =>
    match tables.loadByUniqueness candidate.organizationId (contracts.uniqueness candidate) with
    | some existing => tables.convergeCreation contracts candidate existing
    | none =>
      match tables.candidates.find candidate.candidateId with
      | none => .error occupiedId
      | some occupied =>
        ensure (occupied.uniquenessHash = contracts.uniqueness candidate ∧
          occupied.columns.organizationId = candidate.organizationId) occupiedId
        tables.convergeCreation contracts candidate occupied

def getOrInsertCreated (tables : Tables) (candidate : Candidate) :
    Except Failure (Candidate × Tables) := do
  let uniqueness := contracts.uniqueness candidate
  match ← tables.loadCreationKey candidate.organizationId candidate.idempotencyKey with
  | some bound => tables.replayCreation contracts candidate bound
  | none =>
    match tables.loadByUniqueness candidate.organizationId uniqueness with
    | some existing => tables.convergeCreation contracts candidate existing
    | none =>
      match tables.candidates.find candidate.candidateId with
      | some occupied =>
        ensure (occupied.uniquenessHash = uniqueness) occupiedId
        ensure (occupied.columns.organizationId = candidate.organizationId) occupiedId
        tables.convergeCreation contracts candidate occupied
      | none =>
        savepoint createUniques
          (do
            let tables ← tables.addCandidate (candidateToRow candidate uniqueness)
            let tables ← tables.addCreationKey candidate.organizationId candidate.idempotencyKey
              { uniquenessHash := uniqueness, candidateId := candidate.candidateId }
            return (candidate, tables))
          (tables.recoverCreated contracts candidate)

/-! ## Transitions -/

/-- Converge on the transition that established the state the request asks for. -/
def convergeTransition (tables : Tables) (request : TransitionRequest) (current : Candidate) :
    Except Failure (Candidate × Tables) := do
  match tables.establishingTransitionRow request.candidateId with
  | none => .error conflictingPayload
  | some (transitionId, row) =>
    let established ← contracts.transitionFromRow row
    ensure (transitionIntentMatches established request) conflictingPayload
    let tables ← tables.insertTransitionKey request.organizationId request.candidateId
      request.idempotencyKey transitionId
    return (current, tables)

/-- `_recover_transition`. -/
def recoverTransition (tables : Tables) (request : TransitionRequest) :
    Except Failure (Candidate × Tables) := do
  match tables.loadCandidate request.organizationId request.candidateId with
  | none => .error unknownCandidate
  | some row =>
    let current ← contracts.candidateFromRow row
    match ← tables.loadTransitionForKey contracts request.organizationId request.candidateId
        request.idempotencyKey with
    | some stored =>
      ensure (transitionIntentMatches stored request) transitionKeyConflict
      return (current, tables)
    | none =>
      if current.state = request.newState then
        tables.convergeTransition contracts request current
      else .error conflictingPayload

/-- The transition, its key and the projection, in the savepoint of `apply_transition`. -/
def addApplied (tables : Tables) (request : TransitionRequest) (row : CandidateRow)
    (transition : CandidateTransition) (projection : Candidate) :
    Except Failure (Candidate × Tables) := do
  let (transitionId, tables) ← tables.addTransition
    (transitionToRow request.organizationId request.candidateId transition)
  let tables ← tables.addTransitionKey request.organizationId request.candidateId
    request.idempotencyKey transitionId
  let tables ← tables.applyProjection row projection
  return (projection, tables)

/-- The new transition of `apply_transition`, when neither the key nor the state is taken. -/
def appendTransition (tables : Tables) (request : TransitionRequest) (row : CandidateRow)
    (current : Candidate) : Except Failure (Candidate × Tables) := do
  let (transition, projection) ← contracts.planTransition current request
  savepoint transitionUniques
    (tables.addApplied request row transition projection)
    (tables.recoverTransition contracts request)

def applyTransition (tables : Tables) (request : TransitionRequest) :
    Except Failure (Candidate × Tables) := do
  match tables.loadCandidate request.organizationId request.candidateId with
  | none => .error unknownCandidate
  | some row =>
    let current ← contracts.candidateFromRow row
    match ← tables.loadTransitionForKey contracts request.organizationId request.candidateId
        request.idempotencyKey with
    | some stored =>
      ensure (transitionIntentMatches stored request) transitionKeyConflict
      return (current, tables)
    | none =>
      if current.state = request.newState then
        tables.convergeTransition contracts request current
      else tables.appendTransition contracts request row current

/-! ## Calls -/

/-- A transaction is rolled back when the call raises. -/
def commit (tables : Tables) (outcome : Except Failure (Candidate × Tables)) :
    Except Failure Answer × Tables :=
  match outcome with
  | .error failure => (.error failure, tables)
  | .ok (candidate, tables) => (.ok (.candidate candidate), tables)

def serve (tables : Tables) : Call → Except Failure Answer × Tables
  | .getOrInsertCreated candidate =>
    tables.commit (tables.getOrInsertCreated contracts candidate)
  | .applyTransition request => tables.commit (tables.applyTransition contracts request)
  | .getById organizationId candidateId =>
    ((tables.getById contracts organizationId candidateId).map .found, tables)
  | .listTransitions organizationId candidateId =>
    ((tables.listTransitions contracts organizationId candidateId).map .transitions, tables)

def step (tables : Tables) (call : Call) : Tables := (tables.serve contracts call).2

end Tables

end AlphaTrade.SignalFusion
