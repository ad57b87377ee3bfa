import AlphaTrade.Execution.SafetyEpoch

/-!
# The claim transaction

A claim has two halves. `beginClaim` is what it reads before it takes any lock:
the plan, the account, a first look at the authorization, and the payload hash.
`finishClaim` is the rest, which the locks on the idempotency row, the plan, the
authorization and the epoch serialise. Anything may be committed in between, so
`finishClaim` may decide on an authorization row that has since moved: the
locking read does not refresh a row the session already holds.
-/
namespace AlphaTrade.Execution
open Library

/-- `ExecutePaperPlanRequest`. -/
structure ClaimRequest where
  organizationId : OrganizationId
  userId : UserId
  accountId : AccountId
  authorizationId : AuthorizationId
  revisionId : RevisionId
  idempotencyKey : String
  deriving DecidableEq

/-- What stands before the first read: the composition root and the operation guard, and
whether the execution account exists and is enabled. -/
structure ClaimGate where
  entryBoundary : Except Error Unit
  accountAvailable : Bool

/-- What the second half reads outside the protocol tables, and the identifiers it draws. -/
structure ClaimEnv where
  /-- The hook of `_revalidate_without_consuming`. -/
  revalidate : Option String
  /-- Commands with an audited demo lifecycle resolution. -/
  lifecycleResolved : CommandId → Bool
  experimentReservationRefusal : Option String
  profileClaimCaps : Except String (Option LedgerCaps)
  /-- `manual_demo_capacity`: absent, or a hook with its answer. -/
  manualDemoCapacity : Option (Option String)
  commandId : CommandId
  receiptId : ReceiptId
  reservationId : Nat
  fallbackCommandId : CommandId
  fallbackReceiptId : ReceiptId
  createdAt : Instant

/-- A claim between its two halves. -/
structure PendingClaim where
  request : ClaimRequest
  plan : Plan
  authorization : Authorization
  payloadHash : String
  now : Instant

/-- `ExecutePaperPlanResult`; the command carries its receipt, projection, reservation
and effect. -/
structure ClaimResult where
  replayed : Bool
  commandId : CommandId
  command : Command

/-- `SUBMIT_ENTRY_NAMESPACE`. -/
def submitEntryNamespace : String := "alphatrade/submit-entry/v1"

def exchangeAccountScopeKey : Option Nat → String
  | some id => toString id
  | none => "NONE"

def ClaimRequest.accountKey (q : ClaimRequest) : AccountKey := (q.organizationId, q.accountId)

def ClaimRequest.bindingKey (q : ClaimRequest) : OrganizationId × String :=
  (q.organizationId, q.idempotencyKey)

/-- `TradePlanRevisionRepository.get_scoped`. -/
def Catalog.scopedPlan (cat : Catalog) (q : ClaimRequest) : Option Plan :=
  (cat.plans q.revisionId).filter fun plan =>
    plan.revisionId = q.revisionId ∧ plan.organizationId = q.organizationId ∧
      plan.userId = q.userId

namespace Db

def beginClaim (cat : Catalog) (ctx : Ctx) (db : Db) (gate : ClaimGate) (q : ClaimRequest) :
    Except Error PendingClaim := do
  gate.entryBoundary
  ensure (q.idempotencyKey ≠ "") (.validation
    "EXECUTE_PAPER_PLAN requires authorization, revision and idempotency key.")
  match cat.scopedPlan q with
  | none => .error (.notFound "Trade plan revision not found")
  | some plan => do
    ensure gate.accountAvailable (.tradingPolicy "Execution account is missing or disabled."
      (some "execution_account_unavailable"))
    match db.authorizations q.authorizationId with
    | none => .error (.notFound "Approval authorization not found")
    | some authorization => do
      let payloadHash ← cat.payloadHash plan q.authorizationId authorization.issuance
      .ok ⟨q, plan, authorization, payloadHash, ctx.now⟩

end Db

namespace PendingClaim

def newBinding (p : PendingClaim) : Binding where
  userId := p.request.userId
  accountId := p.request.accountId
  operationNamespace := submitEntryNamespace
  canonicalPayloadHash := p.payloadHash
  revisionId := p.plan.revisionId
  authorizationId := p.request.authorizationId
  commandId := none
  receiptId := none
  outcome := none

/-- `_assert_binding_matches`. -/
def assertBindingMatches (p : PendingClaim) (b : Binding) : Except Error Unit := do
  ensure (b.userId = p.request.userId)
    (.conflict "Idempotency key is bound to a different principal."
      (some "idempotency_principal_conflict"))
  ensure (b.accountId = p.request.accountId)
    (.conflict "Idempotency key is bound to a different account."
      (some "idempotency_account_conflict"))
  ensure (b.operationNamespace = submitEntryNamespace)
    (.conflict "Idempotency key is bound to a different operation."
      (some "idempotency_operation_conflict"))
  ensure (b.canonicalPayloadHash = p.payloadHash)
    (.conflict "Idempotency key is bound to a different canonical payload."
      (some "idempotency_payload_conflict"))
  ensure (b.revisionId = p.plan.revisionId)
    (.conflict "Idempotency key is bound to a different plan revision."
      (some "idempotency_plan_conflict"))

/-- `_revalidate_without_consuming`. -/
def revalidateWithoutConsuming (cat : Catalog) (p : PendingClaim) (authorization : Authorization)
    (env : ClaimEnv) : Option String :=
  if authorization.state ≠ .available then some "authorization_unavailable"
  else if authorization.issuance.expiresAt ≤ p.now then some "authorization_expired"
  else if p.plan.validFrom > p.now ∨ p.plan.validUntil ≤ p.now then some "plan_validity_window"
  else if p.plan.accountId ≠ authorization.issuance.accountId then some "account_mismatch"
  else if p.plan.accountId ≠ p.request.accountId then some "account_mismatch"
  else if p.plan.contentHash ≠ authorization.issuance.planContentHash then
    some "plan_hash_mismatch"
  else match cat.rewardRiskRefusal p.plan with
    | some (_, reason) => some reason
    | none => env.revalidate

def planClaimKey (p : PendingClaim) : PlanClaimKey where
  organizationId := p.request.organizationId
  accountId := p.request.accountId
  exchangeAccountScopeKey := exchangeAccountScopeKey p.plan.exchangeAccountId
  revisionId := p.plan.revisionId

def projection (state : ReceiptState) (intent : ReservationIntent) : Projection where
  version := 1
  state := state
  filledQuantity := 0
  remainingQuantity := intent.remainingQuantity
  quantityUnit := intent.quantityUnit
  weightedPrice := none
  reconciliationStatus := .notRequired
  eventWatermark := 1

/-- A blocked command is filed under the plan's account. -/
def blockedCommand (p : PendingClaim) (receipt : ReceiptId) (reason : String)
    (intent : ReservationIntent) : Command where
  organizationId := p.request.organizationId
  userId := p.request.userId
  accountId := p.plan.accountId
  revisionId := p.plan.revisionId
  authorizationId := p.request.authorizationId
  planContentHash := p.plan.contentHash
  canonicalPayloadHash := p.payloadHash
  opaqueIdempotencyKey := p.request.idempotencyKey
  outcome := .blocked
  blockedReasonCode := some reason
  receiptId := receipt
  projection := projection .blocked intent
  transitions := [appendTransition [] none
    { newState := .blocked
      sourceFact := .claimPredicateBlock
      sourceIdentity := reason
      recordedAt := p.now }]
  reservation := none
  effect := none
  fills := []

def newReservation (intent : ReservationIntent) (epoch : Nat) (env : ClaimEnv) : Reservation where
  id := env.reservationId
  instrument := intent.instrument
  pendingOrderExposure := intent.pendingNotional
  dailyTradeAllocation := intent.tradeSlots
  dailyLossAllocation := intent.dailyLoss
  remainingReservedNotional := intent.pendingNotional
  convertedTradeSlots := 0
  contractMultiplier := intent.contractMultiplier
  contractType := intent.contractType
  quantityUnit := intent.quantityUnit
  exposureUnit := intent.exposureUnit
  safetyEpoch := epoch
  releaseState := .charged
  releaseReason := none
  createdAt := env.createdAt

def newEffect (clientOrderId : String) (epoch : Nat) : Effect where
  clientOrderId := clientOrderId
  state := .created
  leaseOwner := none
  leaseExpiresAt := none
  fencingToken := 0
  attempt := 0
  dispatchAuthorizedAt := none
  dispatchSafetyEpoch := none
  dispatchFencingToken := none
  dispatchAttempt := none
  safetyEpoch := epoch
  uncertainty := false
  reconciliationDisposition := .notSent

def clientOrderId (cat : Catalog) (p : PendingClaim) : String :=
  cat.entryClientOrderId p.request.accountId p.plan.revisionId p.payloadHash

def allowedCommand (cat : Catalog) (p : PendingClaim) (env : ClaimEnv) (epoch : Nat)
    (intent : ReservationIntent) : Command where
  organizationId := p.request.organizationId
  userId := p.request.userId
  accountId := p.request.accountId
  revisionId := p.plan.revisionId
  authorizationId := p.request.authorizationId
  planContentHash := p.plan.contentHash
  canonicalPayloadHash := p.payloadHash
  opaqueIdempotencyKey := p.request.idempotencyKey
  outcome := .allow
  blockedReasonCode := none
  receiptId := env.receiptId
  projection := projection .submitting intent
  transitions := [appendTransition [] none
    { newState := .submitting
      sourceFact := .claimAllow
      sourceIdentity := toString env.commandId
      recordedAt := p.now
      quantity := some intent.remainingQuantity
      quantityUnit := some intent.quantityUnit }]
  reservation := some (newReservation intent epoch env)
  effect := some (newEffect (p.clientOrderId cat) epoch)
  fills := []

end PendingClaim

namespace Db

/-- `has_demo_entry_history`: an allowed demo command of the account that is neither
resolved nor provably over without a fill. -/
def hasDemoEntryHistory (cat : Catalog) (db : Db) (key : AccountKey)
    (lifecycleResolved : CommandId → Bool) : Bool :=
  db.commands.keys.any fun c =>
    match db.commands.find c with
    | none => false
    | some k =>
      let ended := match k.reservation, k.effect with
        | some r, some e =>
          r.releaseState = .released && r.remainingReservedNotional = 0 &&
            r.convertedTradeSlots = 0 && k.projection.filledQuantity = 0 &&
            (k.projection.state = .cancelled || k.projection.state = .rejected ||
              k.projection.state = .blockedBeforeDispatch) &&
            !e.uncertainty && (e.state = .sendAttempted || e.state = .provenUnsent)
        | _, _ => false
      k.accountKey = key && k.outcome = .allow && cat.venue k = some blofinDemoVenue &&
        !lifecycleResolved c && !ended

/-- The rows the given command's row would collide with. -/
def requireFresh (db : Db) (c : CommandId) (receipt : ReceiptId) : Except Error Unit := do
  ensure (db.commands.find c = none) (.integrity "execution_commands_pkey")
  ensure (db.commands.keys.all fun j =>
      ((db.commands.find j).map (·.receiptId)) ≠ some receipt)
    (.integrity "execution_receipts_pkey")

def bind (db : Db) (p : PendingClaim) (b : Binding) (c : CommandId) (k : Command) : Db :=
  { db with
    bindings := Function.update db.bindings p.request.bindingKey (some
      { b with commandId := some c, receiptId := some k.receiptId, outcome := some k.outcome }) }

/-- The row of `uq_plan_entry_execution_claim`. -/
def fileClaim (db : Db) (p : PendingClaim) (c : CommandId) : Db :=
  { db with planClaims := Function.update db.planClaims p.planClaimKey (some c) }

def loadResult (db : Db) (b : Binding) (replayed : Bool) : Except Error ClaimResult :=
  match b.commandId, b.receiptId, b.outcome with
  | some c, some receipt, some _ =>
    match db.commands.find c with
    | some k =>
      if k.receiptId = receipt then .ok ⟨replayed, c, k⟩
      else .error (.conflict "Stable execution identities are missing."
        (some "execution_identity_missing"))
    | none => .error (.conflict "Stable execution identities are missing."
        (some "execution_identity_missing"))
  | _, _, _ => .error (.conflict "Idempotency binding is incomplete."
      (some "idempotency_incomplete"))

def persistBlocked (db : Db) (p : PendingClaim) (b : Binding) (c : CommandId)
    (receipt : ReceiptId) (reason : String) (intent : ReservationIntent) :
    Except Error (Db × ClaimResult) := do
  db.requireFresh c receipt
  let k := p.blockedCommand receipt reason intent
  .ok ((db.putCommand c k).bind p b c k, ⟨false, c, k⟩)

/-- `compare_and_set_available_to_consumed`. -/
def consumeAuthorization (db : Db) (q : ClaimRequest) (c : CommandId) : Except Error Db :=
  match db.authorizations q.authorizationId with
  | some a =>
    if a.issuance.organizationId = q.organizationId ∧ a.issuance.userId = q.userId ∧
        a.issuance.accountId = q.accountId ∧ a.state = .available then
      .ok { db with
        authorizations := Function.update db.authorizations q.authorizationId
          (some { a with state := .consumed, consumedByExecutionCommandId := some c }) }
    else .error (.conflict "Authorization was not AVAILABLE for consumption."
      (some "authorization_consume_conflict"))
  | none => .error (.conflict "Authorization was not AVAILABLE for consumption."
      (some "authorization_consume_conflict"))

/-- The first writer of the plan entry keeps the claim; a loser is persisted blocked. -/
def persistAllow (cat : Catalog) (db : Db) (p : PendingClaim) (b : Binding) (env : ClaimEnv)
    (epoch : Nat) (row : Accounting) (intent : ReservationIntent) :
    Except Error (Db × ClaimResult) := do
  db.requireFresh env.commandId env.receiptId
  match db.planClaims p.planClaimKey with
  | some _ =>
    db.persistBlocked p b env.fallbackCommandId env.fallbackReceiptId
      "plan_entry_already_claimed" intent
  | none => do
    let k := p.allowedCommand cat env epoch intent
    let db ← db.consumeAuthorization p.request env.commandId
    ensure (db.commands.keys.all fun j => db.reservationId j ≠ env.reservationId ∨
        ((db.commands.find j).bind (·.reservation)).isNone)
      (.integrity "risk_reservations_pkey")
    ensure (db.commands.keys.all fun j =>
        ((db.commands.find j).bind (·.effect)).map (·.clientOrderId) ≠ some (p.clientOrderId cat))
      (.integrity "uq_venue_submit_effect_client_order_id")
    let db := db.settle env.commandId k .charge intent.instrument (chargeDelta intent) row
      (chargeReservation row intent)
    .ok ((db.fileClaim p env.commandId).bind p b env.commandId k, ⟨false, env.commandId, k⟩)

/-- The capacity gates of a claim that nothing has blocked yet. -/
def capacityRefusal (db : Db) (ctx : Ctx) (p : PendingClaim) (env : ClaimEnv)
    (epoch : SafetyEpoch) (row : Accounting) (intent : ReservationIntent) : Option String :=
  let killActive := db.organizationKillActive ctx p.request.organizationId
  if p.plan.schemaVersion = .manualDemoTradePlanV1 then
    if epoch.blocking || killActive then some "safety_epoch_blocking"
    else match env.manualDemoCapacity with
      | none => some "manual_demo_account_evidence_required"
      | some answer => answer
  else match env.profileClaimCaps with
    | .error reason => some reason
    | .ok caps => evaluateClaimPredicate epoch.blocking killActive (accountingView row caps) intent

/-- A claim under a key that has no command yet. -/
def decideClaim (cat : Catalog) (ctx : Ctx) (db : Db) (p : PendingClaim) (b : Binding)
    (refreshed : Bool) (env : ClaimEnv) : Except Error (Db × ClaimResult) := do
  match db.authorizations p.request.authorizationId with
  | none => .error (.notFound "Plan or authorization disappeared during claim.")
  | some current => do
    let authorization := if refreshed then current else p.authorization
    let lockedHash ← cat.payloadHash p.plan p.request.authorizationId authorization.issuance
    ensure (lockedHash = p.payloadHash)
      (.conflict "Canonical payload changed after idempotency bind."
        (some "canonical_payload_changed"))
    let blocked := p.revalidateWithoutConsuming cat authorization env
    let (db, epoch) := db.lockEpoch ctx p.request.accountKey
    let demo : Bool := p.plan.executionVenue = blofinDemoVenue
    let blocked := blocked.or
      (if demo && db.hasDemoEntryHistory cat p.request.accountKey env.lifecycleResolved then
        some "demo_account_already_claimed" else none)
    let intent ← conservativeReservation p.plan
    let (db, row) ← db.lockRiskAccounting cat { ctx with now := p.now } p.request.accountKey
      p.request.userId intent.exposureUnit (paperDailyTradeRoll (some p.plan.executionVenue))
    let blocked := blocked.or (if demo then env.experimentReservationRefusal else none)
    match blocked.or (db.capacityRefusal ctx p env epoch row intent) with
    | some reason => db.persistBlocked p b env.commandId env.receiptId reason intent
    | none => db.persistAllow cat p b env epoch.epoch row intent

/-- The locked half of `claim`. -/
def finishClaim (cat : Catalog) (ctx : Ctx) (db : Db) (p : PendingClaim) (refreshed : Bool)
    (env : ClaimEnv) : Except Error (Db × ClaimResult) := do
  let b := (db.bindings p.request.bindingKey).getD p.newBinding
  p.assertBindingMatches b
  if b.commandId.isSome ∧ b.receiptId.isSome then do
    let result ← db.loadResult b true
    .ok (db, result)
  else db.decideClaim cat ctx p b refreshed env

end Db

end AlphaTrade.Execution
