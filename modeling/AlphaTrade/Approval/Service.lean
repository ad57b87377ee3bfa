import AlphaTrade.Execution.Rows
import AlphaTrade.Library.Program

/-!
# Approvals and authorizations

An approval is decided once. An APPROVE decision issues an authorization that is bound
to the exact plan revision, and one execution command may consume it. Two issuers share
the table: the human channels and the autonomous path. An AVAILABLE row is reused only
by the issuance it was made for; one of the other kind is revoked and replaced.

Every statement of the repositories is one request to the store. The service methods are
programs of such requests, so a revocation, an expiry or a claim may land between any two
of them. Statements are taken as committed one by one: a transaction that is rolled back
leaves the rows that a run without it would have left.

The operation and the execution mode have one value each and are left out, and so are
the columns that no method here reads.
-/
namespace AlphaTrade.Approval
open Library
open Execution (OrganizationId UserId AccountId RevisionId AuthorizationId CommandId Instant Error)

abbrev ApprovalId := Nat
abbrev PlanId := Nat

/-! ## Rows -/

inductive ApprovalStatus where
  | pending | approved | rejected | modified | paused | cancelled | closed | needsMoreAnalysis
  deriving DecidableEq, Repr

inductive ApprovalAction where
  | approve | reject | modify | pause | cancel | close | needsMoreAnalysis
  deriving DecidableEq, Repr

inductive AuthorizationState where
  | available | consumed | revoked | expired
  deriving DecidableEq, Repr

inductive AuthorizationChannel where
  | web | api | telegram | autonomous
  deriving DecidableEq, Repr

/-- `_action_to_status`. -/
def actionToStatus : ApprovalAction → ApprovalStatus
  | .approve => .approved
  | .reject => .rejected
  | .modify => .modified
  | .pause => .paused
  | .cancel => .cancelled
  | .close => .closed
  | .needsMoreAnalysis => .needsMoreAnalysis

structure ApprovalRow where
  organizationId : OrganizationId
  userId : UserId
  planRevisionId : Option RevisionId
  authorizationExpiresAt : Option Instant
  status : ApprovalStatus
  proposedAction : Option ApprovalAction
  decidedAt : Option Instant
  deriving DecidableEq, Repr

/-- An immutable plan revision. `semanticHash` is the hash of its payload. -/
structure Revision where
  planId : PlanId
  organizationId : OrganizationId
  userId : UserId
  accountId : AccountId
  exchangeAccountId : Option Nat
  contentHash : String
  semanticHash : String
  planAuthority : String
  correlationId : Nat
  validUntil : Instant
  executionVenue : String
  executionInstrument : String
  permissionAttestationId : Nat
  permissionAttestationVersion : String
  deriving DecidableEq, Repr

structure Proposal where
  organizationId : OrganizationId
  userId : UserId
  latestPlanRevisionId : Option RevisionId
  deriving DecidableEq, Repr

/-- The immutable part of an authorization, which its content hash is taken from. -/
structure Issuance where
  authorizationId : AuthorizationId
  approvalRequestId : ApprovalId
  organizationId : OrganizationId
  userId : UserId
  accountId : AccountId
  exchangeAccountId : Option Nat
  planId : PlanId
  revisionId : RevisionId
  planContentHash : String
  executionVenue : String
  executionInstrument : String
  permissionAttestationId : Nat
  permissionAttestationVersion : String
  expiresAt : Instant
  channel : AuthorizationChannel
  actorType : String
  actorId : UserId
  correlationId : Nat
  createdAt : Instant
  deriving DecidableEq, Repr

structure Authorization extends Issuance where
  state : AuthorizationState
  consumedAt : Option Instant
  consumedByExecutionCommandId : Option CommandId
  authorizationContentHash : String
  updatedAt : Instant
  deriving DecidableEq, Repr

/-- `_REUSABLE_AUTHORIZATION_STATES`. -/
def AuthorizationState.isReusable : AuthorizationState → Bool
  | .available | .consumed => true
  | .revoked | .expired => false

/-- The columns of `uq_available_approval_authorization`. -/
structure Binding where
  organizationId : OrganizationId
  accountId : AccountId
  exchangeAccountId : Option Nat
  revisionId : RevisionId
  planContentHash : String
  deriving DecidableEq, Repr

def Issuance.binding (issuance : Issuance) : Binding where
  organizationId := issuance.organizationId
  accountId := issuance.accountId
  exchangeAccountId := issuance.exchangeAccountId
  revisionId := issuance.revisionId
  planContentHash := issuance.planContentHash

/-! ## The store -/

structure Store where
  clock : Instant
  approvals : Table ApprovalId ApprovalRow
  revisions : RevisionId → Option Revision
  proposals : PlanId → Option Proposal
  authorizations : Table AuthorizationId Authorization

def Store.initial (clock : Instant) (approvals : Table ApprovalId ApprovalRow)
    (revisions : RevisionId → Option Revision) (proposals : PlanId → Option Proposal) : Store where
  clock := clock
  approvals := approvals
  revisions := revisions
  proposals := proposals
  authorizations := .empty

/-- The statements of the repositories, and the clock. -/
inductive Call where
  | now
  | setNow (time : Instant)
  | approval (id : ApprovalId)
  | revision (id : RevisionId)
  | proposal (id : PlanId)
  | authorization (id : AuthorizationId)
  | reusableForApproval (id : ApprovalId)
  | reusableByBinding (binding : Binding)
  | expireDue (id : AuthorizationId) (time : Instant)
  | revokeAvailable (id : AuthorizationId) (time : Instant)
  | revokeForSupersededPlan (organizationId : OrganizationId) (planId : PlanId)
      (currentRevisionId : RevisionId) (time : Instant)
  | compareAndSetAvailableToConsumed (id : AuthorizationId) (organizationId : OrganizationId)
      (userId : UserId) (accountId : AccountId) (commandId : CommandId) (time : Instant)
  | updateApproval (id : ApprovalId) (action : ApprovalAction) (time : Instant)
  | add (row : Authorization)

abbrev Answer : Call → Type
  | .now => Instant
  | .approval _ => Option ApprovalRow
  | .revision _ => Option Revision
  | .proposal _ => Option Proposal
  | .authorization _ | .reusableForApproval _ | .reusableByBinding _ => Option Authorization
  | .expireDue .. | .revokeAvailable .. | .compareAndSetAvailableToConsumed .. | .add _ => Bool
  | .setNow _ | .revokeForSupersededPlan .. | .updateApproval .. => Unit

/-- An UPDATE of one row under a condition, and whether it touched the row. -/
def Store.compareAndSet (store : Store) (id : AuthorizationId) (matching : Authorization → Bool)
    (values : Authorization → Authorization) : Bool × Store :=
  match (store.authorizations.find id).filter matching with
  | none => (false, store)
  | some row =>
    (true, { store with authorizations := store.authorizations.put id (values row) })

def Store.admits (store : Store) (row : Authorization) : Bool :=
  (store.authorizations.find row.authorizationId).isNone &&
    ((store.authorizations.first fun other =>
      other.state = .available && other.binding = row.binding).isNone || row.state ≠ .available) &&
    ((store.authorizations.first fun other => other.state.isReusable &&
      other.approvalRequestId = row.approvalRequestId).isNone || !row.state.isReusable)

def serve : (request : Call) → Store → Answer request × Store
  | .now, store => (store.clock, store)
  | .setNow time, store => ((), { store with clock := time })
  | .approval id, store => (store.approvals.find id, store)
  | .revision id, store => (store.revisions id, store)
  | .proposal id, store => (store.proposals id, store)
  | .authorization id, store => (store.authorizations.find id, store)
  | .reusableForApproval id, store =>
    (store.authorizations.first fun row =>
      row.state.isReusable && row.approvalRequestId = id, store)
  | .reusableByBinding binding, store =>
    (store.authorizations.first fun row =>
      row.state.isReusable && row.binding = binding, store)
  | .expireDue id time, store =>
    store.compareAndSet id (fun row => row.state = .available && row.expiresAt ≤ time)
      fun row => { row with state := .expired, updatedAt := time }
  | .revokeAvailable id time, store =>
    store.compareAndSet id (fun row => row.state = .available)
      fun row => { row with state := .revoked, updatedAt := time }
  | .revokeForSupersededPlan organizationId planId currentRevisionId time, store =>
    ((), { store with
      authorizations := store.authorizations.map fun row =>
        if row.organizationId = organizationId ∧ row.planId = planId ∧
            row.revisionId ≠ currentRevisionId ∧ row.state = .available then
          { row with state := .revoked, updatedAt := time }
        else row })
  | .compareAndSetAvailableToConsumed id organizationId userId accountId commandId time, store =>
    store.compareAndSet id
      (fun row => row.organizationId = organizationId && row.userId = userId &&
        row.accountId = accountId && row.state = .available)
      fun row => { row with
        state := .consumed
        consumedAt := some time
        consumedByExecutionCommandId := some commandId
        updatedAt := time }
  | .updateApproval id action time, store =>
    match store.approvals.find id with
    | none => ((), store)
    | some row =>
      ((), { store with
        approvals := store.approvals.put id { row with
          status := actionToStatus action
          proposedAction := some action
          decidedAt := some time } })
  | .add row, store =>
    if store.admits row then
      (true, { store with authorizations := store.authorizations.put row.authorizationId row })
    else (false, store)

/-! ## Issuance -/

/-- `AUTONOMOUS_ACTOR_TYPE`. -/
def autonomousActorType : String := "SYSTEM"

def IsAutonomous (channel : AuthorizationChannel) (actorType : String) : Prop :=
  channel = .autonomous ∧ actorType = autonomousActorType

instance (channel : AuthorizationChannel) (actorType : String) :
    Decidable (IsAutonomous channel actorType) := instDecidableAnd

def storedIssuanceMatches (row : Authorization) (channel : AuthorizationChannel)
    (actorType : String) : Bool :=
  if row.actorType = "" then false
  else if IsAutonomous channel actorType then
    row.channel = .autonomous && row.actorType = autonomousActorType
  else if row.channel = .autonomous ∨ row.actorType = autonomousActorType then false
  else row.channel = channel && row.actorType = actorType

/-- Redundant assertions of the caller. -/
structure Assertion where
  organizationId : OrganizationId
  userId : UserId
  accountId : AccountId
  exchangeAccountId : Option Nat
  planId : PlanId
  revisionId : RevisionId
  planContentHash : String
  deriving DecidableEq, Repr

/-- The arguments of `issue_authorization`. `gate` is what the operating mode, the
reward-risk check or the canonical plan service raises, if anything, and `newId` the
identifiers drawn for the attempts to insert. -/
structure IssueRequest where
  approvalId : ApprovalId
  organizationId : OrganizationId
  userId : UserId
  channel : AuthorizationChannel
  actorType : String
  assertion : Option Assertion
  manualDemoConfirmationHash : Option String
  gate : Option Error
  newId : Nat → AuthorizationId

abbrev Act := Program Answer Error
open Program

/-! ### Repository methods -/

abbrev clockNow : Act Instant := ask Call.now
abbrev setNow (time : Instant) : Act Unit := ask (Call.setNow time)
abbrev getApproval (id : ApprovalId) : Act (Option ApprovalRow) := ask (Call.approval id)
abbrev getRevision (id : RevisionId) : Act (Option Revision) := ask (Call.revision id)
abbrev getProposal (id : PlanId) : Act (Option Proposal) := ask (Call.proposal id)
abbrev getRow (id : AuthorizationId) : Act (Option Authorization) := ask (Call.authorization id)
abbrev getReusableForApproval (id : ApprovalId) : Act (Option Authorization) :=
  ask (Call.reusableForApproval id)
abbrev getReusableByBinding (binding : Binding) : Act (Option Authorization) :=
  ask (Call.reusableByBinding binding)
abbrev expireDue (id : AuthorizationId) (time : Instant) : Act Bool :=
  ask (Call.expireDue id time)
abbrev revokeAvailable (id : AuthorizationId) (time : Instant) : Act Bool :=
  ask (Call.revokeAvailable id time)
abbrev revokeForSupersededPlan (organizationId : OrganizationId) (planId : PlanId)
    (currentRevisionId : RevisionId) (time : Instant) : Act Unit :=
  ask (Call.revokeForSupersededPlan organizationId planId currentRevisionId time)
abbrev compareAndSetAvailableToConsumed (id : AuthorizationId) (organizationId : OrganizationId)
    (userId : UserId) (accountId : AccountId) (commandId : CommandId) (time : Instant) : Act Bool :=
  ask (Call.compareAndSetAvailableToConsumed id organizationId userId accountId commandId time)
abbrev updateApproval (id : ApprovalId) (action : ApprovalAction) (time : Instant) : Act Unit :=
  ask (Call.updateApproval id action time)
abbrev addRow (row : Authorization) : Act Bool := ask (Call.add row)

section issuance
variable (sha : Issuance → String)

def validateAssertion (assertion : Option Assertion) (revisionId : RevisionId)
    (revision : Revision) (organizationId : OrganizationId) (userId : UserId) : Bool :=
  match assertion with
  | none => true
  | some assertion =>
    assertion = ⟨organizationId, userId, revision.accountId, revision.exchangeAccountId,
      revision.planId, revisionId, revision.contentHash⟩

def existingIsConsistent (row : Authorization) (revisionId : RevisionId) (revision : Revision) :
    Bool :=
  row.organizationId = revision.organizationId && row.userId = revision.userId &&
    row.accountId = revision.accountId && row.exchangeAccountId = revision.exchangeAccountId &&
    row.planId = revision.planId && row.revisionId = revisionId &&
    row.planContentHash = revision.contentHash && row.correlationId = revision.correlationId &&
    row.authorizationContentHash = sha row.toIssuance

def validateExistingAuthorization (row : Authorization) (revisionId : RevisionId)
    (revision : Revision) : Act Unit :=
  require (existingIsConsistent sha row revisionId revision = true)
    (.validation "Existing authorization binding is inconsistent.")

/-- `_mark_plan_approval_approved`, on the row as it was read. -/
def markPlanApprovalApproved (approvalId : ApprovalId) (approval : ApprovalRow) : Act Unit :=
  if approval.status = .approved then .done ()
  else do
    let time ← clockNow
    updateApproval approvalId .approve time

/-- `revoke_authorization` without its audit. -/
def revokeAuthorization (id : AuthorizationId) (organizationId : OrganizationId)
    (userId : UserId) : Act (Option Authorization) := do
  let found ← getRow id
  let row ← demand found (.notFound "Approval authorization not found")
  require (row.organizationId = organizationId ∧ row.userId = userId)
    (.notFound "Approval authorization not found")
  let time ← clockNow
  let _ ← revokeAvailable id time
  getRow id

/-- Return a reusable row, or revoke an AVAILABLE row that does not match. `none` means
that the caller should insert. -/
def acceptOrReplaceReusable (request : IssueRequest) (approval : ApprovalRow)
    (revisionId : RevisionId) (revision : Revision) :
    Option Authorization → Act (Option Authorization)
  | none => .done none
  | some existing => do
    validateExistingAuthorization sha existing revisionId revision
    let isMatch := storedIssuanceMatches existing request.channel request.actorType
    if existing.state = .consumed then
      markPlanApprovalApproved request.approvalId approval
      return some existing
    let time ← clockNow
    if existing.state = .available ∧ isMatch ∧ existing.expiresAt ≤ time then
      let _ ← expireDue existing.authorizationId time
      return none
    if isMatch then
      markPlanApprovalApproved request.approvalId approval
      return some existing
    if existing.state = .available then
      let _ ← revokeAuthorization existing.authorizationId existing.organizationId existing.userId
      return none
    return none

/-- The row that `_insert_authorization` adds. -/
def newAuthorization (request : IssueRequest) (revisionId : RevisionId) (revision : Revision)
    (id : AuthorizationId) (expiresAt time : Instant) : Authorization :=
  let issuance : Issuance := {
    authorizationId := id
    approvalRequestId := request.approvalId
    organizationId := request.organizationId
    userId := request.userId
    accountId := revision.accountId
    exchangeAccountId := revision.exchangeAccountId
    planId := revision.planId
    revisionId := revisionId
    planContentHash := revision.contentHash
    executionVenue := revision.executionVenue
    executionInstrument := revision.executionInstrument
    permissionAttestationId := revision.permissionAttestationId
    permissionAttestationVersion := revision.permissionAttestationVersion
    expiresAt := expiresAt
    channel := request.channel
    actorType := request.actorType
    actorId := request.userId
    correlationId := revision.correlationId
    createdAt := time }
  { issuance with
    state := .available
    consumedAt := none
    consumedByExecutionCommandId := none
    authorizationContentHash := sha issuance
    updatedAt := time }

def revisionBinding (organizationId : OrganizationId) (revisionId : RevisionId)
    (revision : Revision) : Binding :=
  ⟨organizationId, revision.accountId, revision.exchangeAccountId, revisionId,
    revision.contentHash⟩

/-- One insert. A unique violation that a concurrent issuer has caused is resolved; a row
of the other kind goes to `replace`. -/
def insertOnce (request : IssueRequest) (revisionId : RevisionId) (revision : Revision)
    (id : AuthorizationId) (expiresAt time : Instant)
    (replace : Authorization → Act (Option Authorization)) : Act (Option Authorization) := do
  let row := newAuthorization sha request revisionId revision id expiresAt time
  let added ← addRow row
  if added then return some row
  let found ← getReusableByBinding (revisionBinding request.organizationId revisionId revision)
  let concurrent ← demand found (.integrity "approval_authorizations")
  validateExistingAuthorization sha concurrent revisionId revision
  let isMatch := storedIssuanceMatches concurrent request.channel request.actorType
  if concurrent.state = .consumed ∨ isMatch ∧ time < concurrent.expiresAt then
    return some concurrent
  if isMatch then
    let _ ← expireDue concurrent.authorizationId time
    .fail (.validation "Approval authorization has expired.")
  else replace concurrent

def insertAuthorization (request : IssueRequest) (revisionId : RevisionId) (revision : Revision)
    (expiresAt time : Instant) : (attemptsRemaining : Nat) → Act (Option Authorization)
  | 0 => insertOnce sha request revisionId revision (request.newId 0) expiresAt time fun _ =>
    .fail (.validation "Authorization channel conflict.")
  | attempts + 1 =>
    insertOnce sha request revisionId revision (request.newId (attempts + 1)) expiresAt time
      fun concurrent => do
        let _ ← revokeAuthorization concurrent.authorizationId concurrent.organizationId
          concurrent.userId
        insertAuthorization request revisionId revision expiresAt time attempts

/-- `get_scoped` of the approval. -/
def scopedApproval (request : IssueRequest) : Act ApprovalRow := do
  let found ← getApproval request.approvalId
  demand (found.filter fun row =>
      row.organizationId = request.organizationId && row.userId = request.userId)
    (.notFound "Approval not found")

/-- The revision that is authorized, with every check on it that only refuses. -/
def scopedRevision (request : IssueRequest) (revisionId : RevisionId) : Act Revision := do
  let found ← getRevision revisionId
  let revision ← demand (found.filter fun row =>
      row.organizationId = request.organizationId && row.userId = request.userId)
    (.notFound "Trade plan revision not found")
  let proposal ← getProposal revision.planId
  let proposal ← demand (proposal.filter fun row =>
      row.organizationId = request.organizationId && row.userId = request.userId)
    (.validation "Plan revision has been superseded.")
  require (proposal.latestPlanRevisionId = some revisionId)
    (.validation "Plan revision has been superseded.")
  require (revision.planAuthority = "manual_demo_test" →
      request.manualDemoConfirmationHash = some revision.contentHash)
    (.tradingPolicy "Manual demo requires explicit exact-plan confirmation." none)
  require (revision.semanticHash = revision.contentHash)
    (.validation "Plan content hash verification failed.")
  match request.gate with
  | some refusal => .fail refusal
  | none => do
    require (validateAssertion request.assertion revisionId revision request.organizationId
        request.userId = true)
      (.validation "Approval authorization assertion does not match the immutable plan.")
    return revision

/-- What is left once no row can be reused. -/
def issueFresh (request : IssueRequest) (approval : ApprovalRow) (revisionId : RevisionId)
    (revision : Revision) (expiresAt : Instant) : Act (Option Authorization) := do
  let time ← clockNow
  require (time < expiresAt ∧ time < revision.validUntil)
    (.validation "Approval authorization has expired.")
  markPlanApprovalApproved request.approvalId approval
  insertAuthorization sha request revisionId revision expiresAt time 1

def issueAuthorization (request : IssueRequest) : Act (Option Authorization) := do
  let approval ← scopedApproval request
  match approval.planRevisionId, approval.authorizationExpiresAt with
  | some revisionId, some expiresAt => do
    require (approval.status = .pending ∨ approval.status = .approved)
      (.validation "Approval state cannot issue an authorization.")
    let revision ← scopedRevision request revisionId
    let existing ← getReusableForApproval request.approvalId
    match ← acceptOrReplaceReusable sha request approval revisionId revision existing with
    | some accepted => return some accepted
    | none => do
      let existing ← getReusableByBinding
        (revisionBinding request.organizationId revisionId revision)
      match ← acceptOrReplaceReusable sha request approval revisionId revision existing with
      | some accepted => return some accepted
      | none => issueFresh sha request approval revisionId revision expiresAt
  | _, _ => .fail (.validation "Legacy analysis approvals cannot authorize execution.")

/-! ## Decisions -/

/-- The arguments of `decide`. -/
structure DecisionRequest where
  approvalId : ApprovalId
  action : ApprovalAction
  principalOrganizationId : Option OrganizationId
  principalUserId : Option UserId
  channel : AuthorizationChannel
  actorType : String
  assertion : Option Assertion
  modifiesFields : Bool
  gate : Option Error
  newId : Nat → AuthorizationId

/-- The issuance that an APPROVE decision asks for. -/
def DecisionRequest.issue (request : DecisionRequest) (row : ApprovalRow) : IssueRequest where
  approvalId := request.approvalId
  organizationId := row.organizationId
  userId := row.userId
  channel := request.channel
  actorType := request.actorType
  assertion := request.assertion
  manualDemoConfirmationHash := none
  gate := request.gate
  newId := request.newId

/-- `_require_exact_principal`, for an approval that is bound to a plan. -/
def requireExactPrincipal (request : DecisionRequest) (row : ApprovalRow) : Act Unit := do
  require (row.planRevisionId = none ∨
      request.principalOrganizationId.isSome ∧ request.principalUserId.isSome)
    (.validation "Plan-bound approvals require an authenticated principal.")
  require (row.planRevisionId = none ∨ request.principalOrganizationId = some row.organizationId)
    (.validation "Approval organization does not match the principal.")
  require (row.planRevisionId = none ∨ request.principalUserId = some row.userId)
    (.validation "Approval user does not match the principal.")

/-- Decide an approval. The result is the authorization that the approval shows. -/
def decide (request : DecisionRequest) : Act (Option Authorization) := do
  let found ← getApproval request.approvalId
  let row ← demand found (.notFound "Approval not found")
  requireExactPrincipal request row
  if row.status = .approved ∧ request.action = .approve then
    if row.planRevisionId.isSome then
      let _ ← issueAuthorization sha (request.issue row)
    getReusableForApproval request.approvalId
  else
    require (row.status = .pending) (.validation "Approval is not pending")
    if request.action = .approve ∧ row.planRevisionId.isSome then
      require (request.modifiesFields = false)
        (.validation "APPROVE cannot modify immutable plan fields.")
      let _ ← issueAuthorization sha (request.issue row)
    let time ← clockNow
    updateApproval request.approvalId request.action time
    getReusableForApproval request.approvalId

end issuance

/-! ## The service -/

/-- What callers do, and what the clock does. -/
inductive Job where
  | decide (request : DecisionRequest)
  | issue (request : IssueRequest)
  | revoke (id : AuthorizationId) (organizationId : OrganizationId) (userId : UserId)
  | get (id : AuthorizationId) (organizationId : OrganizationId) (userId : UserId)
  | supersede (organizationId : OrganizationId) (planId : PlanId) (currentRevisionId : RevisionId)
  | claim (id : AuthorizationId) (organizationId : OrganizationId) (userId : UserId)
      (accountId : AccountId) (commandId : CommandId)
  | tick (time : Instant)

/-- `get_authorization`, which expires what is due. -/
def getAuthorization (id : AuthorizationId) (organizationId : OrganizationId) (userId : UserId) :
    Act (Option Authorization) := do
  let found ← getRow id
  let row ← demand found (.notFound "Approval authorization not found")
  require (row.organizationId = organizationId ∧ row.userId = userId)
    (.notFound "Approval authorization not found")
  let time ← clockNow
  let _ ← expireDue id time
  getRow id

def consume (id : AuthorizationId) (organizationId : OrganizationId) (userId : UserId)
    (accountId : AccountId) (commandId : CommandId) : Act (Option Authorization) := do
  let time ← clockNow
  let consumed ←
    compareAndSetAvailableToConsumed id organizationId userId accountId commandId time
  require (consumed = true)
    (.conflict "Authorization was not AVAILABLE for consumption."
      (some "authorization_consume_conflict"))
  return none

def supersede (organizationId : OrganizationId) (planId : PlanId)
    (currentRevisionId : RevisionId) : Act (Option Authorization) := do
  let time ← clockNow
  revokeForSupersededPlan organizationId planId currentRevisionId time
  return none

def tick (time : Instant) : Act (Option Authorization) := do
  setNow time
  return none

def Job.program (sha : Issuance → String) : Job → Act (Option Authorization)
  | .decide request => Approval.decide sha request
  | .issue request => issueAuthorization sha request
  | .revoke id organizationId userId => revokeAuthorization id organizationId userId
  | .get id organizationId userId => getAuthorization id organizationId userId
  | .supersede organizationId planId currentRevisionId =>
    Approval.supersede organizationId planId currentRevisionId
  | .claim id organizationId userId accountId commandId =>
    consume id organizationId userId accountId commandId
  | .tick time => Approval.tick time

def Job.approval? : Job → Option ApprovalId
  | .decide request => some request.approvalId
  | .issue request => some request.approvalId
  | _ => none

/-- Any number of callers. The row lock of an approval serialises the decisions and the
issuances on it; everything else lands anywhere between their statements. -/
def service (sha : Issuance → String) : Machine Answer Job Store Error (Option Authorization) where
  serve := serve
  program := Job.program sha
  together job other := job.approval?.isNone || job.approval? ≠ other.approval?

end AlphaTrade.Approval
