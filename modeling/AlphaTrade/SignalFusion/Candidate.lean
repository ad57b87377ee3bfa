import AlphaTrade.Execution.Rows
import AlphaTrade.Journal.Projector
import AlphaTrade.Library.Check

/-!
# Candidates

A candidate is an organization's confirmed setup. It moves through its lifecycle by
append-only transitions, and both repositories write it under the rules of this file.

What pydantic has validated is a field of the record, so a candidate or a transition that
its model would refuse cannot be built. The digests are parameters, and so is the second
validation of an evidence identity, which a projection runs on the identity's own dump.
-/
namespace AlphaTrade.SignalFusion
open Library
open Execution (OrganizationId Instant)
open Journal (TradeDirection)

abbrev CandidateId := Nat

/-- The number that the 64 hexadecimal digits denote. -/
abbrev Sha256Hex := Nat

/-! ## Failures -/

inductive Constraint where
  | candidatesPk | candidatesUniquenessHash | candidatesSemanticKey
  | creationKeysPk | creationKeysCandidate
  | transitionsPk | transitionsVersion | transitionsCandidate
  | transitionKeysPk | transitionKeysCandidate | transitionKeysTransition
  deriving DecidableEq, Repr

/-- What a repository call raises. The first four are errors of the contract; the last two
come from the database driver. -/
inductive Failure where
  | candidateNotFound (message : String)
  | conflictingIdempotency (message : String)
  | conflictingTransition (message : String)
  | illegalTransition (message : String)
  | validation
  | keyError
  | dataError
  | integrityError (constraint : Constraint)
  deriving DecidableEq, Repr

/-! ## Lifecycle table -/

inductive CandidateState where
  | active | planCreated | rejected | skipped | expired | invalidated
  deriving DecidableEq, Repr

def CandidateState.value : CandidateState → String
  | .active => "active"
  | .planCreated => "plan_created"
  | .rejected => "rejected"
  | .skipped => "skipped"
  | .expired => "expired"
  | .invalidated => "invalidated"

inductive CandidateReasonCode where
  | confirmedSetup | planCreated | rejected | skipped | expired | invalidated
  deriving DecidableEq, Repr

def terminalCandidateStates : List CandidateState := [.rejected, .skipped, .expired, .invalidated]

def descendantCandidateStates : List CandidateState := .planCreated :: terminalCandidateStates

/-- `ALLOWED_CANDIDATE_TRANSITIONS`, empty for the states it does not list. -/
def allowedCandidateTransitions : CandidateState → List CandidateState
  | .active => descendantCandidateStates
  | .planCreated => terminalCandidateStates
  | _ => []

/-! ## Records -/

inductive VenueId where
  | binance | blofin | bybit
  deriving DecidableEq, Repr

inductive MarketType where
  | perpetual | spot | delivery | coinMPerpetual | option
  deriving DecidableEq, Repr

inductive Timeframe where
  | m1 | m3 | m5 | m15 | m30 | h1 | h2 | h4 | h6 | h12 | d1 | d3 | w1
  deriving DecidableEq, Repr

/-- The kind has one legal value and is left out. -/
structure ExecutableSetupRef where
  setupDefinitionId : Nat
  contentHash : Sha256Hex
  deriving DecidableEq, Repr

/-- `attributes` is the instrument's other attributes, the source and the provenance. -/
structure EvidenceMarketIdentity where
  venue : VenueId
  marketType : MarketType
  instrumentId : String
  timeframe : Option Timeframe
  attributes : String
  deriving DecidableEq, Repr

/-- A datetime with a zone denotes an instant; a naive one equals none of them. -/
inductive DateTime where
  | aware (instant : Instant)
  | naive (wall : Int)
  deriving DecidableEq, Repr

structure CandidateUniquenessTuple where
  organizationId : OrganizationId
  strategyVersionId : Nat
  setupDefinitionId : Nat
  fusionPolicyVersion : String
  direction : TradeDirection
  evidenceVenue : VenueId
  evidenceMarket : MarketType
  evidenceInstrument : String
  timeframe : Timeframe
  evidenceWindowHash : Sha256Hex
  deriving DecidableEq, Repr

/-- The fields of a candidate before validation. -/
structure CandidatePayload where
  schemaVersion : String
  candidateId : CandidateId
  organizationId : OrganizationId
  strategyVersionId : Nat
  executableSetup : ExecutableSetupRef
  fusionPolicyVersion : String
  direction : TradeDirection
  assessmentId : Nat
  evidenceWindowHash : Sha256Hex
  evidenceIdentity : EvidenceMarketIdentity
  evidenceVenue : VenueId
  evidenceMarket : MarketType
  evidenceInstrument : String
  timeframe : Timeframe
  state : CandidateState
  createdAt : Instant
  validUntil : Instant
  transitionVersion : Nat
  idempotencyKey : String
  correlationId : Nat
  contentHash : Sha256Hex
  deriving DecidableEq, Repr

def CandidatePayload.uniquenessTuple (candidate : CandidatePayload) : CandidateUniquenessTuple where
  organizationId := candidate.organizationId
  strategyVersionId := candidate.strategyVersionId
  setupDefinitionId := candidate.executableSetup.setupDefinitionId
  fusionPolicyVersion := candidate.fusionPolicyVersion
  direction := candidate.direction
  evidenceVenue := candidate.evidenceVenue
  evidenceMarket := candidate.evidenceMarket
  evidenceInstrument := candidate.evidenceInstrument
  timeframe := candidate.timeframe
  evidenceWindowHash := candidate.evidenceWindowHash

def LengthWithin (least most : Nat) (text : String) : Prop :=
  least ≤ text.length ∧ text.length ≤ most

instance (least most : Nat) (text : String) : Decidable (LengthWithin least most text) :=
  inferInstanceAs (Decidable (_ ∧ _))

/-- The field bounds of `Candidate` and `_identity_matches_tuple`. -/
@[mk_iff]
structure CandidatePayload.Valid (payload : CandidatePayload) : Prop where
  policyVersion : LengthWithin 3 120 payload.fusionPolicyVersion
  instrument : LengthWithin 8 80 payload.evidenceInstrument
  version : 1 ≤ payload.transitionVersion
  key : LengthWithin 8 120 payload.idempotencyKey
  venueMatches : payload.evidenceIdentity.venue = payload.evidenceVenue
  marketMatches : payload.evidenceIdentity.marketType = payload.evidenceMarket
  instrumentMatches : payload.evidenceIdentity.instrumentId = payload.evidenceInstrument
  timeframeMatches : ∀ timeframe ∈ payload.evidenceIdentity.timeframe, timeframe = payload.timeframe
  validAfter : payload.createdAt < payload.validUntil

instance (payload : CandidatePayload) : Decidable payload.Valid :=
  decidable_of_iff _ (CandidatePayload.valid_iff payload).symm

/-- An organization-owned confirmed-setup candidate. -/
structure Candidate extends CandidatePayload where
  valid : toCandidatePayload.Valid
  deriving DecidableEq

/-- The fields of a transition before validation. -/
structure TransitionPayload where
  previousState : CandidateState
  newState : CandidateState
  transitionVersion : Nat
  reasonCodes : List CandidateReasonCode
  occurredAt : Instant
  correlationId : Nat
  idempotencyKey : String
  contentHash : Sha256Hex
  deriving DecidableEq, Repr

/-- An append-only transition. A terminal state is the previous state of none. -/
structure CandidateTransition extends TransitionPayload where
  version : 1 ≤ transitionVersion
  key : LengthWithin 8 120 idempotencyKey
  allowed : newState ∈ allowedCandidateTransitions previousState
  deriving DecidableEq

/-! ## Builders -/

/-- The digests that the records are fingerprinted with, and the validation of an evidence
identity from its own dump. -/
structure Contracts where
  canonicalHash : CandidateUniquenessTuple → Sha256Hex
  candidateHash : CandidatePayload → Sha256Hex
  transitionHash : TransitionPayload → Sha256Hex
  revalidate : EvidenceMarketIdentity → Option EvidenceMarketIdentity

def candidateSchema : String := "Candidate/v1"

variable (contracts : Contracts)

def Contracts.uniqueness (candidate : Candidate) : Sha256Hex :=
  contracts.canonicalHash candidate.uniquenessTuple

/-- `build_candidate`: the draft carries the schema version and a zero hash, which the
content hash replaces. -/
def Contracts.buildCandidate (payload : CandidatePayload) : Except Failure Candidate :=
  match contracts.revalidate payload.evidenceIdentity with
  | none => .error .validation
  | some identity =>
    let draft := { payload with
      schemaVersion := candidateSchema, contentHash := 0, evidenceIdentity := identity }
    if valid : draft.Valid then
      .ok { draft with
        contentHash := contracts.candidateHash draft
        valid := ⟨valid.1, valid.2, valid.3, valid.4, valid.5, valid.6, valid.7, valid.8, valid.9⟩ }
    else .error .validation

/-- `build_candidate_transition`. The validator's own refusals are ValueErrors, which
pydantic reports as a validation error like the rest. -/
def Contracts.buildCandidateTransition (previousState newState : CandidateState)
    (transitionVersion : Nat) (reasonCodes : List CandidateReasonCode) (occurredAt : DateTime)
    (correlationId : Nat) (idempotencyKey : String) : Except Failure CandidateTransition :=
  match occurredAt with
  | .naive _ => .error .validation
  | .aware instant =>
    let draft : TransitionPayload :=
      { previousState, newState, transitionVersion, reasonCodes, occurredAt := instant,
        correlationId, idempotencyKey, contentHash := 0 }
    if valid : 1 ≤ transitionVersion ∧ LengthWithin 8 120 idempotencyKey ∧
        newState ∈ allowedCandidateTransitions previousState then
      .ok { draft with
        contentHash := contracts.transitionHash draft
        version := valid.1, key := valid.2.1, allowed := valid.2.2 }
    else .error .validation

/-! ## Repository rules -/

/-- What a transition call asks for. -/
structure TransitionRequest where
  organizationId : OrganizationId
  candidateId : CandidateId
  newState : CandidateState
  reasonCodes : List CandidateReasonCode
  idempotencyKey : String
  correlationId : Nat
  occurredAt : Option DateTime
  now : DateTime
  deriving DecidableEq, Repr

/-- `project_candidate`. -/
def Contracts.projectCandidate (candidate : Candidate) (state : CandidateState)
    (transitionVersion : Nat) : Except Failure Candidate :=
  contracts.buildCandidate { candidate.toCandidatePayload with state, transitionVersion }

/-- `transition_intent_matches`. -/
def transitionIntentMatches (stored : CandidateTransition) (request : TransitionRequest) : Prop :=
  stored.newState = request.newState ∧ stored.reasonCodes = request.reasonCodes ∧
    stored.correlationId = request.correlationId ∧
    (request.occurredAt = none ∨ request.occurredAt = some (.aware stored.occurredAt))

instance (stored : CandidateTransition) (request : TransitionRequest) :
    Decidable (transitionIntentMatches stored request) :=
  inferInstanceAs (Decidable (_ ∧ _))

/-- `reject_illegal_candidate_transition`. -/
def rejectIllegalCandidateTransition (current : Candidate) (newState : CandidateState) :
    Except Failure Unit :=
  if current.state ∈ terminalCandidateStates then
    if newState ∈ terminalCandidateStates then
      .error (.conflictingTransition
        ("Conflicting terminal transition " ++ current.state.value ++ " -> " ++
          newState.value ++ "."))
    else
      .error (.illegalTransition
        ("Terminal candidate state " ++ current.state.value ++ " cannot be resurrected to " ++
          newState.value ++ "."))
  else if newState = .active then
    .error (.illegalTransition
      "Candidate ACTIVE is the initial confirmed state and cannot be resurrected.")
  else if newState ∉ allowedCandidateTransitions current.state then
    .error (.illegalTransition
      ("Illegal candidate transition " ++ current.state.value ++ " -> " ++ newState.value ++ "."))
  else .ok ()

/-- The transition and the projection that an accepted request writes. Both repositories
decide and build them in this order before they write anything. -/
def Contracts.planTransition (current : Candidate) (request : TransitionRequest) :
    Except Failure (CandidateTransition × Candidate) := do
  rejectIllegalCandidateTransition current request.newState
  let stamped := request.occurredAt.getD request.now
  let nextVersion := current.transitionVersion + 1
  let transition ← contracts.buildCandidateTransition current.state request.newState nextVersion
    request.reasonCodes stamped request.correlationId request.idempotencyKey
  let projection ← contracts.projectCandidate current request.newState nextVersion
  return (transition, projection)

/-! ## What a builder returns -/

variable {contracts}

theorem buildCandidate_fields {payload : CandidatePayload} {built : Candidate}
    (h : contracts.buildCandidate payload = .ok built) :
    ∃ identity, contracts.revalidate payload.evidenceIdentity = some identity ∧
      built.toCandidatePayload = { payload with
        schemaVersion := candidateSchema
        evidenceIdentity := identity
        contentHash := contracts.candidateHash { payload with
          schemaVersion := candidateSchema, contentHash := 0, evidenceIdentity := identity } } := by
  unfold Contracts.buildCandidate at h
  split at h
  · cases h
  · rename_i identity revalidated
    simp only at h
    split at h
    · obtain rfl := Except.ok.inj h
      exact ⟨identity, revalidated, rfl⟩
    · cases h

theorem buildCandidateTransition_fields {previousState newState : CandidateState} {version : Nat}
    {reasons : List CandidateReasonCode} {occurredAt : DateTime} {correlationId : Nat}
    {key : String} {built : CandidateTransition}
    (h : contracts.buildCandidateTransition previousState newState version reasons occurredAt
      correlationId key = .ok built) :
    built.previousState = previousState ∧ built.newState = newState ∧
      built.transitionVersion = version ∧ built.reasonCodes = reasons ∧
      occurredAt = .aware built.occurredAt ∧ built.correlationId = correlationId ∧
      built.idempotencyKey = key := by
  unfold Contracts.buildCandidateTransition at h
  split at h
  · cases h
  · simp only at h
    split at h
    · obtain rfl := Except.ok.inj h
      exact ⟨rfl, rfl, rfl, rfl, rfl, rfl, rfl⟩
    · cases h

/-- An accepted request: the transition continues the candidate and matches the request,
and the projection is the candidate at the new state and version. -/
structure Planned (contracts : Contracts) (current : Candidate) (request : TransitionRequest)
    (transition : CandidateTransition) (projection : Candidate) : Prop where
  previousState : transition.previousState = current.state
  version : transition.transitionVersion = current.transitionVersion + 1
  key : transition.idempotencyKey = request.idempotencyKey
  matched : transitionIntentMatches transition request
  built : contracts.buildCandidateTransition current.state request.newState
    (current.transitionVersion + 1) request.reasonCodes (request.occurredAt.getD request.now)
    request.correlationId request.idempotencyKey = .ok transition
  projected : contracts.projectCandidate current request.newState
    (current.transitionVersion + 1) = .ok projection

variable {request : TransitionRequest}

theorem planned_of_planTransition {current : Candidate} {transition : CandidateTransition}
    {projection : Candidate}
    (h : contracts.planTransition current request = .ok (transition, projection)) :
    Planned contracts current request transition projection := by
  unfold Contracts.planTransition at h
  obtain ⟨-, -, h⟩ := bind_eq_ok.mp h
  obtain ⟨built, builtEq, h⟩ := bind_eq_ok.mp h
  obtain ⟨projected, projectedEq, h⟩ := bind_eq_ok.mp h
  obtain ⟨rfl, rfl⟩ := Prod.mk.inj (Except.ok.inj h)
  obtain ⟨previous, newState, version, reasons, stamped, correlation, key⟩ :=
    buildCandidateTransition_fields builtEq
  refine ⟨previous, version, key, ⟨newState, reasons, correlation, ?_⟩, builtEq, projectedEq⟩
  cases occurred : request.occurredAt with
  | none => exact .inl rfl
  | some moment =>
    rw [occurred, Option.getD_some] at stamped
    exact .inr (by rw [stamped])

/-- A terminal candidate is refused. -/
theorem planTransition_terminal {current : Candidate}
    (terminal : current.state ∈ terminalCandidateStates) {plan : CandidateTransition × Candidate} :
    contracts.planTransition current request ≠ .ok plan := by
  intro h
  obtain ⟨_, accepted, -⟩ := bind_eq_ok.mp h
  unfold rejectIllegalCandidateTransition at accepted
  rw [if_pos terminal] at accepted
  split at accepted <;> cases accepted

namespace Planned

variable {current : Candidate} {request : TransitionRequest} {transition : CandidateTransition}
  {projection : Candidate}

/-- A projection changes no field that another record is found by. -/
theorem projection_fields (h : Planned contracts current request transition projection) :
    projection.candidateId = current.candidateId ∧
      projection.organizationId = current.organizationId ∧
      projection.uniquenessTuple = current.uniquenessTuple ∧
      projection.state = request.newState ∧
      projection.transitionVersion = current.transitionVersion + 1 := by
  obtain ⟨identity, -, fields⟩ := buildCandidate_fields h.projected
  unfold CandidatePayload.uniquenessTuple
  rw [fields]
  exact ⟨rfl, rfl, rfl, rfl, rfl⟩

end Planned

end AlphaTrade.SignalFusion
