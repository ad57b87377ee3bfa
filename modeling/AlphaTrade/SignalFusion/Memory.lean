import AlphaTrade.Library.Run
import AlphaTrade.Library.Table
import AlphaTrade.SignalFusion.Candidate

/-!
# The in-memory candidate repository

Five dictionaries under one lock, so a call is one step. A method is a function from the
dictionaries to its outcome and the dictionaries it leaves: what was written before a
failure stays written.
-/
namespace AlphaTrade.SignalFusion
open Library
open Execution (OrganizationId)

/-- `InMemoryCandidateRepository`. -/
structure Memory where
  byId : Table CandidateId Candidate
  byUniqueness : Table Sha256Hex CandidateId
  history : Table CandidateId (List CandidateTransition)
  creationByKey : Table (OrganizationId × String) Sha256Hex
  transitionByKey : Table (OrganizationId × CandidateId × String) CandidateTransition

def Memory.empty : Memory where
  byId := .empty
  byUniqueness := .empty
  history := .empty
  creationByKey := .empty
  transitionByKey := .empty

def creationKeyConflict : Failure := .conflictingIdempotency
  "Creation idempotency key is already bound to a different canonical uniqueness fingerprint."

def transitionKeyConflict : Failure := .conflictingIdempotency
  "Transition idempotency key is already bound to a different semantic transition fingerprint."

def occupiedId : Failure := .conflictingTransition
  "Candidate ID is already bound to a different uniqueness identity."

def unknownCandidate : Failure := .candidateNotFound "Candidate is unknown in this organization."

def conflictingPayload : Failure := .conflictingTransition
  ("A different idempotency key requested an already-applied candidate state with a " ++
    "conflicting semantic payload.")

def Candidate.creationKey (candidate : Candidate) : OrganizationId × String :=
  (candidate.organizationId, candidate.idempotencyKey)

def TransitionRequest.key (request : TransitionRequest) : OrganizationId × CandidateId × String :=
  (request.organizationId, request.candidateId, request.idempotencyKey)

namespace Memory

/-- `_by_id[candidate_id]`. -/
def item (store : Memory) (candidateId : CandidateId) : Except Failure Candidate :=
  match store.byId.find candidateId with
  | none => .error .keyError
  | some candidate => .ok candidate

/-- `_by_id[_by_uniqueness[uniqueness]]`. -/
def itemByUniqueness (store : Memory) (uniqueness : Sha256Hex) : Except Failure Candidate :=
  match store.byUniqueness.find uniqueness with
  | none => .error .keyError
  | some candidateId => store.item candidateId

/-- `_scoped_get`, which is `get_by_id`. -/
def getById (store : Memory) (organizationId : OrganizationId) (candidateId : CandidateId) :
    Option Candidate :=
  (store.byId.find candidateId).filter fun candidate => candidate.organizationId = organizationId

def listTransitions (store : Memory) (organizationId : OrganizationId)
    (candidateId : CandidateId) : List CandidateTransition :=
  match store.getById organizationId candidateId with
  | none => []
  | some _ => (store.history.find candidateId).getD []

/-- `_establishing_transition`. -/
def establishingTransition (store : Memory) (candidateId : CandidateId) :
    Option CandidateTransition :=
  ((store.history.find candidateId).getD []).getLast?

variable (contracts : Contracts)

def bindCreation (store : Memory) (candidate : Candidate) : Memory :=
  { store with
    creationByKey :=
      store.creationByKey.put candidate.creationKey (contracts.uniqueness candidate) }

def insertCandidate (store : Memory) (candidate : Candidate) : Memory where
  byId := store.byId.put candidate.candidateId candidate
  byUniqueness := store.byUniqueness.put (contracts.uniqueness candidate) candidate.candidateId
  history := store.history.put candidate.candidateId []
  creationByKey := store.creationByKey.put candidate.creationKey (contracts.uniqueness candidate)
  transitionByKey := store.transitionByKey

def getOrInsertCreated (store : Memory) (candidate : Candidate) :
    Except Failure Candidate × Memory :=
  let uniqueness := contracts.uniqueness candidate
  match store.creationByKey.find candidate.creationKey with
  | some bound =>
    if bound ≠ uniqueness then (.error creationKeyConflict, store)
    else (store.itemByUniqueness bound, store)
  | none =>
    match store.byUniqueness.find uniqueness with
    | some existingId =>
      -- the key is bound before the candidate is read
      let bound := store.bindCreation contracts candidate
      (bound.item existingId, bound)
    | none =>
      match store.byId.find candidate.candidateId with
      | some _ => (.error occupiedId, store)
      | none => (.ok candidate, store.insertCandidate contracts candidate)

def bindTransition (store : Memory) (request : TransitionRequest)
    (transition : CandidateTransition) : Memory :=
  { store with transitionByKey := store.transitionByKey.put request.key transition }

def appendTransition (store : Memory) (request : TransitionRequest)
    (history : List CandidateTransition) (transition : CandidateTransition)
    (projection : Candidate) : Memory :=
  { store with
    history := store.history.put request.candidateId (history ++ [transition])
    byId := store.byId.put request.candidateId projection
    transitionByKey := store.transitionByKey.put request.key transition }

def applyTransition (store : Memory) (request : TransitionRequest) :
    Except Failure Candidate × Memory :=
  match store.getById request.organizationId request.candidateId with
  | none => (.error unknownCandidate, store)
  | some current =>
    match store.transitionByKey.find request.key with
    | some stored =>
      if transitionIntentMatches stored request then (.ok current, store)
      else (.error transitionKeyConflict, store)
    | none =>
      if current.state = request.newState then
        match store.establishingTransition request.candidateId with
        | none => (.error conflictingPayload, store)
        | some established =>
          if transitionIntentMatches established request then
            (.ok current, store.bindTransition request established)
          else (.error conflictingPayload, store)
      else
        match contracts.planTransition current request with
        | .error failure => (.error failure, store)
        | .ok (transition, projection) =>
          match store.history.find request.candidateId with
          | none => (.error .keyError, store)
          | some history =>
            (.ok projection, store.appendTransition request history transition projection)

end Memory

/-! ## Calls -/

inductive Call where
  | getOrInsertCreated (candidate : Candidate)
  | applyTransition (request : TransitionRequest)
  | getById (organizationId : OrganizationId) (candidateId : CandidateId)
  | listTransitions (organizationId : OrganizationId) (candidateId : CandidateId)

inductive Answer where
  | candidate (candidate : Candidate)
  | found (candidate : Option Candidate)
  | transitions (transitions : List CandidateTransition)
  deriving DecidableEq

namespace Memory

variable (contracts : Contracts)

def serve (store : Memory) : Call → Except Failure Answer × Memory
  | .getOrInsertCreated candidate =>
    (store.getOrInsertCreated contracts candidate).map (·.map .candidate) id
  | .applyTransition request =>
    (store.applyTransition contracts request).map (·.map .candidate) id
  | .getById organizationId candidateId =>
    (.ok (.found (store.getById organizationId candidateId)), store)
  | .listTransitions organizationId candidateId =>
    (.ok (.transitions (store.listTransitions organizationId candidateId)), store)

def step (store : Memory) (call : Call) : Memory := (store.serve contracts call).2

def after (calls : List Call) : Memory := run (step contracts) .empty calls

end Memory

end AlphaTrade.SignalFusion
