import Mathlib.Algebra.Order.Group.Abs
import AlphaTrade.Execution.SafetyEpoch

/-!
# The venue submit dispatcher

Every operation that moves an existing command: leasing and authorizing its
effect, the marks left by a send, cancellation, the local recovery paths and
fills. Each returns the database it would commit, or the error that rolls it back.

What an operation writes on the command alone is a function on `Command` or
`Effect`; the operations on `Db` add the locks, the gates and the ledger.
-/
namespace AlphaTrade.Execution
open Library

/-! ## The effect -/

/-- The lease half of `lease_effect`, once safety lets it through. -/
def Effect.lease (e : Effect) (now : Instant) (owner : String) (leaseSeconds : Int) :
    Except Error Effect :=
  let unexpired := e.leaseExpiresAt.any (· > now)
  if e.state = .dispatchAuthorized then .ok e
  else if e.state = .provenUnsent then .ok e
  else if e.state = .leased ∧ e.leaseOwner = some owner ∧ unexpired then .ok e
  else if e.state = .leased ∧ e.leaseOwner.any (· ≠ owner) ∧ unexpired then
    .error (.conflict "Venue submit effect lease is held by another worker." (some "lease_held"))
  else if e.state ≠ .created ∧ e.state ≠ .leased then
    .error (.conflict "Effect is not eligible for lease." (some "effect_not_leaseable"))
  else .ok
    { e with
      state := .leased
      leaseOwner := some owner
      leaseExpiresAt := some (now + leaseSeconds * 1000000)
      fencingToken := e.fencingToken + 1 }

/-- The dispatch half of `authorize_dispatch`, once safety lets it through. -/
def Effect.authorize (e : Effect) (now : Instant) (epoch : Nat) (owner : String)
    (fencingToken : Int) : Except Error Effect :=
  if e.state ≠ .leased ∨ e.leaseOwner ≠ some owner ∨ e.fencingToken ≠ fencingToken then
    .error (.conflict "Lease fence does not match; stale worker cannot dispatch."
      (some "lease_fence_mismatch"))
  else if e.leaseExpiresAt.any (· ≤ now) then
    .error (.conflict "Venue submit effect lease has expired." (some "lease_expired"))
  else .ok
    { e with
      state := .dispatchAuthorized
      dispatchAuthorizedAt := some now
      dispatchSafetyEpoch := some epoch
      dispatchFencingToken := some fencingToken
      attempt := e.attempt + 1
      dispatchAttempt := some (e.attempt + 1) }

/-- `int(dispatch_fencing_token or -1)`: a stored zero reads as minus one. -/
def Effect.storedFence (e : Effect) : Int :=
  match e.dispatchFencingToken with
  | some token => if token = 0 then -1 else token
  | none => -1

@[simps]
def Effect.mark (e : Effect) (state : EffectState) (uncertainty : Bool)
    (disposition : SendDisposition) : Effect :=
  { e with
    state := state
    uncertainty := uncertainty
    reconciliationDisposition := disposition }

/-- The test of `fence_proven_unsent`: nothing can have been sent. -/
def Effect.neverDispatched (e : Effect) : Bool :=
  (e.state = .created || e.state = .leased || e.state = .provenUnsent) &&
    e.dispatchAuthorizedAt.isNone && !e.uncertainty

/-! ## Marks on the command -/

namespace Command

/-- `_block_before_dispatch` on the receipt and the effect. -/
def block (k : Command) (e : Effect) (now : Instant) : Command :=
  (k.record
      { newState := .blockedBeforeDispatch
        sourceFact := .safetyEpochBlockBeforeDispatch
        sourceIdentity := "epoch:" ++ toString e.safetyEpoch
        recordedAt := now }
      { reconciliationStatus := some .resolved }).setEffect
    { e.mark .provenUnsent false .provenUnsent with leaseOwner := none, leaseExpiresAt := none }

/-- `_mark_ambiguous`, under the current epoch. -/
def markAmbiguous (k : Command) (e : Effect) (epoch : Nat) (now : Instant) : Command :=
  (k.record
      { newState := .reconciliationRequired
        sourceFact := .ambiguousSend
        sourceIdentity := "epoch:" ++ toString epoch
        recordedAt := now }
      { reconciliationStatus := some .required }).setEffect
    (e.mark .sendAmbiguous true .ambiguous)

/-- `_mark_acknowledged`. -/
def markAcknowledged (k : Command) (e : Effect) (source : VenueSource) (now : Instant) : Command :=
  (k.record
      { newState := .acknowledged
        sourceFact := .accepted source
        sourceIdentity := e.clientOrderId
        recordedAt := now }
      { reconciliationStatus := some .resolved }).setEffect
    (e.mark .sendAttempted false .accepted)

/-- `_mark_rejected` on the receipt and the effect. -/
def markRejected (k : Command) (e : Effect) (source : VenueSource) (now : Instant) : Command :=
  (k.record
      { newState := .rejected
        sourceFact := .rejected source
        sourceIdentity := e.clientOrderId
        recordedAt := now }
      { remainingQuantity := some 0 }).setEffect
    (e.mark .sendAttempted false .rejected)

/-- `record_demo_terminal` on the receipt. -/
def cancel (k : Command) (e : Effect) (now : Instant) : Command :=
  k.record
    { newState :=
        if k.projection.filledQuantity ≠ 0 then .partiallyFilledCancelled else .cancelled
      sourceFact := .blofinDemoCancelled
      sourceIdentity := e.clientOrderId
      recordedAt := now }
    { remainingQuantity := some 0, reconciliationStatus := some .resolved }

/-- The transition and the projection of one new fill. -/
def recordFill (k : Command) (fact : FillFact) (weighted : ℚ) (now : Instant) : Command :=
  let newRemaining := clampZero (k.projection.remainingQuantity - fact.quantity)
  k.record
    { newState := if newRemaining = 0 then .acknowledged else .partiallyFilled
      sourceFact := .uniqueFill
      sourceIdentity := fact.sourceFillIdentity
      recordedAt := now
      quantity := some fact.quantity
      quantityUnit := some k.projection.quantityUnit
      unitPrice := some fact.price }
    { filledQuantity := some (k.projection.filledQuantity + fact.quantity)
      remainingQuantity := some newRemaining
      weightedPrice := some weighted }

end Command

/-! ## Releasing what is left of a reservation -/

/-- `Decimal.quantize(1e-8, ROUND_FLOOR)`. -/
def floorToLedgerScale (x : ℚ) : ℚ := ((x * 100000000).floor : ℚ) / 100000000

/-- What a release takes off the row. A manual demo plan recomputes it from verified
fills and refuses when the two disagree. -/
def unusedRemainder (cat : Catalog) (ctx : Ctx) (c : CommandId) (k : Command)
    (r : Reservation) : Except Error ℚ :=
  match cat.plans k.revisionId with
  | some plan =>
    if plan.schemaVersion = .manualDemoTradePlanV1 then do
      let actual ← ctx.verifiedEntryNotional c
      let intent ← conservativeReservation plan
      let exactUnused := max 0 (intent.pendingNotional - actual)
      ensure (|exactUnused - r.remainingReservedNotional| ≤ 1 / 100000000)
        (.tradingPolicy "Manual reservation remainder conflicts with plan/fills." none)
      .ok (min r.remainingReservedNotional (floorToLedgerScale exactUnused))
    else .ok r.remainingReservedNotional
  | none => .ok r.remainingReservedNotional

namespace Db

/-- The writes of `_release_unused_reservation` under the ledger lock. -/
def settleRelease (db : Db) (c : CommandId) (reason : ReleaseReason) (unused : ℚ)
    (row : Accounting) : Db :=
  match db.commands.find c with
  | some k =>
    match k.reservation with
    | some r =>
      db.settle c (k.setReservation (r.release reason)) (.release k.fills.isEmpty)
        r.instrument (releaseDelta r unused) row (releaseUnused r row unused)
    | none => db
  | none => db

/-- The remainder is read first. The lock may roll the day and release the same
reservation; what is then taken off the row is the remainder read before. -/
def releaseUnusedReservation (cat : Catalog) (ctx : Ctx) (db : Db) (c : CommandId)
    (reason : ReleaseReason) : Except Error Db := do
  let k ← db.requireCommand c
  let (db, _) := db.lockEpoch ctx k.accountKey
  match k.reservation with
  | none => .ok db
  | some r =>
    if r.remainingReservedNotional ≤ 0 then .ok db
    else do
      let unused ← unusedRemainder cat ctx c k r
      let (db, row) ← db.lockRiskAccounting cat ctx k.accountKey k.userId r.exposureUnit
        (paperDailyTradeRoll (cat.venue k))
      .ok (db.settleRelease c reason unused row)

/-! ## Barriers -/

def safetyBlocksDispatch (db : Db) (ctx : Ctx) (k : Command) (epoch : SafetyEpoch)
    (claimedEpoch : Nat) : Bool :=
  db.organizationKillActive ctx k.organizationId || epoch.blocking || epoch.epoch ≠ claimedEpoch

/-- `e` is the effect as the caller has it, which `fence_proven_unsent` already moved. -/
def blockBeforeDispatch (cat : Catalog) (ctx : Ctx) (db : Db) (c : CommandId) (k : Command)
    (e : Effect) (releaseReservation : Bool) : Except Error Db :=
  if e.state = .dispatchAuthorized then
    .error (.conflict "Cannot pretend a dispatch-authorized send disappeared."
      (some "already_dispatch_authorized"))
  else if k.projection.state = .blockedBeforeDispatch then
    .ok (db.putCommand c (k.setEffect e))
  else
    let db := db.putCommand c (k.block e ctx.now)
    if releaseReservation then
      db.releaseUnusedReservation cat ctx c .unusedRemainderAfterProvenUnsent
    else .ok db

def leaseEffect (cat : Catalog) (ctx : Ctx) (db : Db) (c : CommandId) (owner : String)
    (leaseSeconds : Int) : Except Error Db := do
  let k ← db.requireCommand c
  ctx.experimentDispatch c
  let (db, epoch) := db.lockEpoch ctx k.accountKey
  let e ← k.requireEffect
  if db.safetyBlocksDispatch ctx k epoch e.safetyEpoch then
    db.blockBeforeDispatch cat ctx c k e true
  else do
    let e ← e.lease ctx.now owner leaseSeconds
    .ok (db.putCommand c (k.setEffect e))

def authorizeDispatch (cat : Catalog) (ctx : Ctx) (db : Db) (c : CommandId) (owner : String)
    (fencingToken : Int) : Except Error Db := do
  let k ← db.requireCommand c
  ctx.experimentDispatch c
  let (db, epoch) := db.lockEpoch ctx k.accountKey
  let e ← k.requireEffect
  if e.state = .dispatchAuthorized then do
    ensure (e.storedFence = fencingToken)
      (.conflict "Dispatch already authorized with a different fence."
        (some "dispatch_fence_mismatch"))
    .ok db
  else if db.safetyBlocksDispatch ctx k epoch e.safetyEpoch then
    db.blockBeforeDispatch cat ctx c k e true
  else do
    let e ← e.authorize ctx.now epoch.epoch owner fencingToken
    .ok (db.putCommand c (k.setEffect e))

/-! ## Sends -/

def markAmbiguous (ctx : Ctx) (db : Db) (c : CommandId) : Except Error Db := do
  let k ← db.requireCommand c
  let e ← k.requireEffect
  let (db, epoch) := db.lockEpoch ctx k.accountKey
  .ok (db.putCommand c (k.markAmbiguous e epoch.epoch ctx.now))

def markAcknowledged (ctx : Ctx) (db : Db) (c : CommandId) (source : VenueSource) :
    Except Error Db := do
  let k ← db.requireCommand c
  let e ← k.requireEffect
  .ok (db.putCommand c (k.markAcknowledged e source ctx.now))

def markRejected (cat : Catalog) (ctx : Ctx) (db : Db) (c : CommandId) (source : VenueSource) :
    Except Error Db := do
  let k ← db.requireCommand c
  let e ← k.requireEffect
  let db := db.putCommand c (k.markRejected e source ctx.now)
  db.releaseUnusedReservation cat ctx c .unusedRemainderAfterRejection

/-- `require_committed_dispatch_authorization` on the committed effect: the client
order id it will be sent under. -/
def requireCommittedDispatchAuthorization (db : Db) (c : CommandId) (owner : String)
    (fencingToken : Int) : Except Error String :=
  match (db.commands.find c).bind (·.effect) with
  | none =>
    .error (.conflict "Send is forbidden until DISPATCH_AUTHORIZED commits."
      (some "send_before_dispatch_authorization"))
  | some e =>
    if e.state ≠ .dispatchAuthorized then
      .error (.conflict "Send is forbidden until DISPATCH_AUTHORIZED commits."
        (some "send_before_dispatch_authorization"))
    else if e.leaseOwner ≠ some owner ∨ e.dispatchFencingToken ≠ some fencingToken then
      .error (.conflict "Stale worker cannot send after losing the lease fence."
        (some "send_fence_mismatch"))
    else .ok e.clientOrderId

end Db

/-- The settings a demo send is armed by. -/
structure DemoSettings where
  blofinExecutionAuthorized : Bool
  manualDemoAccessRequested : Bool
  governedDemoWorkerAccessRequested : Bool
  organizationId : Option OrganizationId
  userId : Option UserId
  accountId : Option AccountId

/-- The arming and policy checks of `attempt_governed_demo_send`, before any read. -/
def checkDemoSend (cat : Catalog) (settings : DemoSettings) (plan : Plan) :
    Except Error Unit := do
  let manual := plan.schemaVersion = .manualDemoTradePlanV1
  ensure (settings.blofinExecutionAuthorized ∧
      if manual then settings.manualDemoAccessRequested
      else settings.governedDemoWorkerAccessRequested)
    (.tradingPolicy "Governed demo dispatch is disarmed." none)
  ensure (plan.executionVenue = blofinDemoVenue ∧
      plan.executionPolicyVersion =
        if manual then "manual-blofin-demo/v1" else "governed-blofin-demo/v1")
    (.tradingPolicy "Canonical governed demo plan required." none)
  match cat.rewardRiskRefusal plan with
  | some (message, reason) => .error (.tradingPolicy message (some reason))
  | none => .ok ()

/-- What the locked transaction of a demo send decides. Every answer has committed the
ambiguous marker. -/
inductive DemoConsumption where
  | withheld
  | send
  deriving DecidableEq, Repr

namespace Db

/-- The locked transaction of `attempt_governed_demo_send`: dispatch authority is spent
before any request leaves. -/
def consumeDemoSend (ctx : Ctx) (db : Db) (c : CommandId) (settings : DemoSettings)
    (plan : Plan) : Except Error (Db × DemoConsumption) := do
  let k ← db.requireCommand c
  let (db, epoch) := db.lockEpoch ctx k.accountKey
  let e ← k.requireEffect
  ensure (e.state = .dispatchAuthorized)
    (.conflict "Demo send already consumed; reconciliation required." none)
  ensure (settings.organizationId = some k.organizationId ∧ settings.userId = some k.userId ∧
      settings.accountId = some k.accountId ∧ k.revisionId = plan.revisionId ∧
      k.planContentHash = plan.contentHash)
    (.tradingPolicy "Demo dispatch principal/plan binding mismatch." none)
  let withheld := db.safetyBlocksDispatch ctx k epoch e.safetyEpoch || plan.validUntil ≤ ctx.now
  let db ← db.markAmbiguous ctx c
  .ok (db, if withheld then .withheld else .send)

/-- `_verify_demo_send_gate`, called between the provider's preflight and its request. -/
def verifyDemoSendGate (ctx : Ctx) (db : Db) (c : CommandId) (owner : String)
    (fencingToken : Int) (plan : Plan) : Except Error Db := do
  let k ← db.requireCommand c
  ctx.experimentDispatch c
  let (db, epoch) := db.lockEpoch ctx k.accountKey
  let e ← k.requireEffect
  ensure (e.state = .sendAmbiguous ∧ e.leaseOwner = some owner ∧
      e.dispatchFencingToken = some fencingToken ∧
      db.safetyBlocksDispatch ctx k epoch e.safetyEpoch = false ∧ ctx.now < plan.validUntil)
    (.tradingPolicy "Demo final dispatch fence, safety, or plan TTL refused." none)
  .ok db

/-! ## Read-only reconciliation and local recovery -/

def recordDemoOrder (cat : Catalog) (ctx : Ctx) (db : Db) (c : CommandId) (rejected : Bool) :
    Except Error Db :=
  match (db.commands.find c).bind (·.effect) with
  | none => .error (.notFound "Venue submit effect not found")
  | some e =>
    if rejected then
      if e.reconciliationDisposition = .rejected ∧ !e.uncertainty then .ok db
      else db.markRejected cat ctx c .blofinDemo
    else if e.state = .sendAttempted ∧ !e.uncertainty then .ok db
    else db.markAcknowledged ctx c .blofinDemo

def recordDemoTerminal (cat : Catalog) (ctx : Ctx) (db : Db) (c : CommandId) :
    Except Error Db := do
  let k ← db.requireCommand c
  let (db, _) := db.lockEpoch ctx k.accountKey
  let e ← k.requireEffect
  if k.projection.state = .cancelled ∨ k.projection.state = .partiallyFilledCancelled then .ok db
  else
    let db := db.putCommand c (k.cancel e ctx.now)
    db.releaseUnusedReservation cat ctx c .unusedRemainderAfterCancellation

def fenceProvenUnsent (cat : Catalog) (ctx : Ctx) (db : Db) (c : CommandId) :
    Except Error Db := do
  let k ← db.requireCommand c
  let (db, _) := db.lockEpoch ctx k.accountKey
  let e ← k.requireEffect
  ensure e.neverDispatched
    (.tradingPolicy "Dispatch may have occurred; local unsent recovery refused." none)
  if e.state = .provenUnsent then .ok db
  else db.blockBeforeDispatch cat ctx c k { e with fencingToken := e.fencingToken + 1 } false

/-- `_LEASE_SECONDS`. -/
def defaultLeaseSeconds : Int := 30

def recoverAfterCrash (cat : Catalog) (ctx : Ctx) (db : Db) (c : CommandId) (owner : String) :
    Except Error Db :=
  match (db.commands.find c).bind (·.effect) with
  | none => .error (.notFound "Venue submit effect not found")
  | some e =>
    match e.state with
    | .created => db.leaseEffect cat ctx c owner defaultLeaseSeconds
    | .leased => db.authorizeDispatch cat ctx c owner e.fencingToken
    | .dispatchAuthorized => db.markAmbiguous ctx c
    | _ => .ok db

end Db

/-! ## Fills -/

structure FillRequest where
  fillQuantity : PyDecimal
  fillPrice : PyDecimal
  sourceIdentity : Option String
  occurredAt : Option PyDateTime
  venueSource : String

structure UniqueFillResult where
  replayed : Bool
  sourceFillIdentity : String
  contentHash : String
  filledQuantity : ℚ
  remainingQuantity : ℚ
  weightedPrice : Option ℚ
  deriving DecidableEq

/-- The checks on the request itself: its identity and its time when it passes. -/
def FillRequest.check (request : FillRequest) : Except Error (String × PyDateTime) :=
  match request.sourceIdentity with
  | none =>
    .error (.conflict "Authoritative fill identity is required."
      (some "missing_source_fill_identity"))
  | some identity =>
    if isBlank identity then
      .error (.conflict "Authoritative fill identity is required."
        (some "missing_source_fill_identity"))
    else match request.occurredAt with
      | none =>
        .error (.conflict "Authoritative fill occurrence time is required."
          (some "missing_authoritative_occurred_at"))
      | some occurredAt =>
        if request.fillQuantity.isFinite ∧ request.fillPrice.isFinite ∧
            0 < request.fillQuantity.toRat ∧ 0 < request.fillPrice.toRat then
          .ok (identity, occurredAt.aware)
        else
          .error (.conflict "Fill quantity and price must be positive."
            (some "invalid_fill_amounts"))

/-- `fill_content_hash` over the amounts as they are written. -/
def fillContentHash (cat : Catalog) (c : CommandId) (k : Command) (request : FillRequest)
    (identity : String) (fillTime : PyDateTime) : String :=
  cat.canonicalSha256
    { receiptId := k.receiptId
      commandId := c
      venueSource := request.venueSource
      sourceFillIdentity := identity
      quantity := request.fillQuantity.str
      price := request.fillPrice.str
      unit := k.projection.quantityUnit
      occurredAt := fillTime.isoformat }

def fillFact (cat : Catalog) (c : CommandId) (k : Command) (request : FillRequest)
    (identity : String) (fillTime : PyDateTime) : FillFact where
  venueSource := request.venueSource
  sourceFillIdentity := identity
  quantity := request.fillQuantity.toRat
  price := request.fillPrice.toRat
  unit := k.projection.quantityUnit
  occurredAt := fillTime
  contentHash := fillContentHash cat c k request identity fillTime

namespace Db

/-- The conversion and the projection write of a fill, under the ledger lock. The fact
is already stored. -/
def settleFill (ctx : Ctx) (db : Db) (c : CommandId) (fact : FillFact) (row : Accounting) :
    Except Error (Db × UniqueFillResult) := do
  let k ← db.requireCommand c
  match k.reservation with
  | none => .error (.notFound "Fill target identities were not found.")
  | some r => do
    let (fillNotional, r', row') ← convertReservationForFill r row fact.quantity fact.price
    let weighted ← cumulativeWeightedPrice k.projection.filledQuantity
      k.projection.weightedPrice fact.quantity fact.price
    let k' := (k.recordFill fact weighted ctx.now).setReservation r'
    .ok (db.settle c k' .fill r.instrument (convertDelta r fillNotional) row row',
      { replayed := false
        sourceFillIdentity := fact.sourceFillIdentity
        contentHash := fact.contentHash
        filledQuantity := k'.projection.filledQuantity
        remainingQuantity := k'.projection.remainingQuantity
        weightedPrice := some weighted })

def applyUniqueFill (cat : Catalog) (ctx : Ctx) (db : Db) (c : CommandId)
    (request : FillRequest) : Except Error (Db × UniqueFillResult) := do
  let (identity, fillTime) ← request.check
  let k ← db.requireCommand c
  let (db, _) := db.lockEpoch ctx k.accountKey
  match k.reservation with
  | none => .error (.notFound "Fill target identities were not found.")
  | some r =>
    match k.fills.find? (·.sourceFillIdentity = identity) with
    | some existing => do
      -- The insert violates the unique constraint, whatever the quantity.
      ensure (existing.contentHash = fillContentHash cat c k request identity fillTime)
        (.conflict "Source fill identity already exists with conflicting content."
          (some "conflicting_fill_identity"))
      .ok (db,
        { replayed := true
          sourceFillIdentity := identity
          contentHash := existing.contentHash
          filledQuantity := k.projection.filledQuantity
          remainingQuantity := k.projection.remainingQuantity
          weightedPrice := k.projection.weightedPrice })
    | none => do
      ensure (request.fillQuantity.toRat ≤ k.projection.remainingQuantity)
        (.conflict "Fill exceeds the immutable authorized quantity." none)
      let fact := fillFact cat c k request identity fillTime
      let db := db.putCommand c (k.addFill fact)
      let (db, row) ← db.lockRiskAccounting cat ctx k.accountKey k.userId r.exposureUnit
        (paperDailyTradeRoll (cat.venue k))
      db.settleFill ctx c fact row

end Db

end AlphaTrade.Execution
