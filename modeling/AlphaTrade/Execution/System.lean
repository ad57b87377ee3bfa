import Mathlib.Tactic.NormNum
import AlphaTrade.Execution.Claim
import AlphaTrade.Execution.Dispatcher
import AlphaTrade.Library.Run

/-!
# The system

Workers share one committed database. An operation that takes its locks and commits
in one transaction is one step. A claim and a send are several: the reads before the
first lock, the locked transaction, the provider call and the transaction that
records its answer are separate steps of the worker, and any step of any other worker
may stand between them. A crash drops what a worker holds in memory and nothing else.

Every step carries the clock and the settings it reads, so leases expire, days change
and flags flip between any two steps. A refused operation leaves the database as it was.
-/
namespace AlphaTrade.Execution
open Library

abbrev WorkerId := Nat

/-- The arguments of one `attempt_governed_demo_send`. -/
structure DemoSend where
  command : CommandId
  owner : String
  fencingToken : Int
  settings : DemoSettings
  plan : Plan

/-- How far a demo send has come: its authorization was read, the ambiguous marker is
committed, the provider is entered, the final gate has passed. -/
inductive SendPhase where
  | checked | marked | entered | verified
  deriving DecidableEq, Repr

/-- A call in progress, as the worker remembers it. -/
inductive Job where
  | claim (pending : PendingClaim)
  | fakeSend (command : CommandId)
  | demoSend (send : DemoSend) (phase : SendPhase)

/-- How the fake provider answers. -/
inductive FakeOutcome where
  | raised | lost | accepted | rejected
  deriving DecidableEq, Repr

/-- How the governed provider's submit ends: an HTTP 400, 401, 403 or 422, any other
failure, or a normal return. -/
inductive DemoOutcome where
  | refused | incomplete | accepted
  deriving DecidableEq, Repr

/-- `submits` is ghost state: the commands the governed provider was entered for. -/
structure World where
  db : Db
  workers : WorkerId → Option Job
  submits : List CommandId

inductive Label where
  | activateKill (ctx : Ctx) (organization : OrganizationId) (request : KillRequest)
      (accounts : List AccountId)
  | deactivateKill (organization : OrganizationId) (request : KillRequest)
  | issueAuthorization (id : AuthorizationId) (issuance : AuthorizationIssuance)
  | revokeAuthorization (id : AuthorizationId)
  | expireAuthorization (ctx : Ctx) (id : AuthorizationId)
  | beginClaim (ctx : Ctx) (worker : WorkerId) (gate : ClaimGate) (request : ClaimRequest)
  | finishClaim (ctx : Ctx) (worker : WorkerId) (refreshed : Bool) (env : ClaimEnv)
  | leaseEffect (ctx : Ctx) (command : CommandId) (owner : String) (leaseSeconds : Int)
  | authorizeDispatch (ctx : Ctx) (command : CommandId) (owner : String) (fencingToken : Int)
  | beginFakeSend (worker : WorkerId) (command : CommandId) (owner : String) (fencingToken : Int)
  | finishFakeSend (ctx : Ctx) (worker : WorkerId) (outcome : FakeOutcome)
  | beginDemoSend (worker : WorkerId) (send : DemoSend)
  | consumeDemoSend (ctx : Ctx) (worker : WorkerId)
  | enterDemoSubmit (worker : WorkerId)
  | verifyDemoSendGate (ctx : Ctx) (worker : WorkerId)
  | finishDemoSend (ctx : Ctx) (worker : WorkerId) (outcome : DemoOutcome)
  | crash (worker : WorkerId)
  | recoverAfterCrash (ctx : Ctx) (command : CommandId) (owner : String)
  | fenceProvenUnsent (ctx : Ctx) (command : CommandId)
  | recordDemoOrder (ctx : Ctx) (command : CommandId) (rejected : Bool)
  | recordDemoTerminal (ctx : Ctx) (command : CommandId)
  | applyUniqueFill (ctx : Ctx) (command : CommandId) (request : FillRequest)

namespace Db

def issueAuthorization (db : Db) (id : AuthorizationId) (issuance : AuthorizationIssuance) : Db :=
  match db.authorizations id with
  | some _ => db
  | none => { db with
      authorizations := Function.update db.authorizations id (some ⟨issuance, .available, none⟩) }

/-- `revoke_available` and `expire_due` touch an available authorization only. -/
def withdrawAuthorization (db : Db) (id : AuthorizationId) (state : AuthorizationState) : Db :=
  match db.authorizations id with
  | some a =>
    if a.state = .available then
      { db with authorizations := Function.update db.authorizations id (some { a with state }) }
    else db
  | none => db

def expireAuthorization (db : Db) (ctx : Ctx) (id : AuthorizationId) : Db :=
  match db.authorizations id with
  | some a =>
    if a.issuance.expiresAt ≤ ctx.now then db.withdrawAuthorization id .expired else db
  | none => db

def recordFakeOutcome (cat : Catalog) (ctx : Ctx) (db : Db) (c : CommandId) :
    FakeOutcome → Except Error Db
  | .raised | .lost => db.markAmbiguous ctx c
  | .accepted => db.markAcknowledged ctx c .fakeVenue
  | .rejected => db.markRejected cat ctx c .fakeVenue

def recordDemoOutcome (cat : Catalog) (ctx : Ctx) (db : Db) (c : CommandId) :
    DemoOutcome → Except Error Db
  | .refused => db.markRejected cat ctx c .blofinDemo
  | .incomplete => .ok db
  | .accepted => db.markAcknowledged ctx c .blofinDemo

end Db

namespace World

def init : World := ⟨.empty, fun _ => none, []⟩

def commit (w : World) : Except Error Db → World
  | .ok db => { w with db := db }
  | .error _ => w

def assign (w : World) (i : WorkerId) (job : Option Job) : World :=
  { w with workers := Function.update w.workers i job }

def start (w : World) (i : WorkerId) (job : Except Error Job) : World :=
  match w.workers i, job with
  | none, .ok job => w.assign i (some job)
  | _, _ => w

def beginFakeSend (w : World) (c : CommandId) (owner : String) (fencingToken : Int) :
    Except Error Job := do
  let _ ← w.db.requireCommittedDispatchAuthorization c owner fencingToken
  .ok (.fakeSend c)

def beginDemoSend (cat : Catalog) (w : World) (send : DemoSend) : Except Error Job := do
  checkDemoSend cat send.settings send.plan
  let _ ← w.db.requireCommittedDispatchAuthorization send.command send.owner send.fencingToken
  .ok (.demoSend send .checked)

def consumeDemoSend (w : World) (ctx : Ctx) (i : WorkerId) (send : DemoSend) : World :=
  match w.db.consumeDemoSend ctx send.command send.settings send.plan with
  | .ok (db, .send) => { w with db := db }.assign i (some (.demoSend send .marked))
  | .ok (db, .withheld) => { w with db := db }.assign i none
  | .error _ => w.assign i none

def verifyDemoSendGate (w : World) (ctx : Ctx) (i : WorkerId) (send : DemoSend) : World :=
  match w.db.verifyDemoSendGate ctx send.command send.owner send.fencingToken send.plan with
  | .ok db => { w with db := db }.assign i (some (.demoSend send .verified))
  | .error _ => w.assign i none

def step (cat : Catalog) (w : World) : Label → World
  | .activateKill ctx organization request accounts =>
    w.commit (w.db.activateKill ctx organization request accounts)
  | .deactivateKill organization request => w.commit (w.db.deactivateKill organization request)
  | .issueAuthorization id issuance => { w with db := w.db.issueAuthorization id issuance }
  | .revokeAuthorization id => { w with db := w.db.withdrawAuthorization id .revoked }
  | .expireAuthorization ctx id => { w with db := w.db.expireAuthorization ctx id }
  | .beginClaim ctx i gate request =>
    w.start i ((w.db.beginClaim cat ctx gate request).map .claim)
  | .finishClaim ctx i refreshed env =>
    match w.workers i with
    | some (.claim p) =>
      (w.commit ((w.db.finishClaim cat ctx p refreshed env).map Prod.fst)).assign i none
    | _ => w
  | .leaseEffect ctx c owner seconds => w.commit (w.db.leaseEffect cat ctx c owner seconds)
  | .authorizeDispatch ctx c owner token => w.commit (w.db.authorizeDispatch cat ctx c owner token)
  | .beginFakeSend i c owner token => w.start i (w.beginFakeSend c owner token)
  | .finishFakeSend ctx i outcome =>
    match w.workers i with
    | some (.fakeSend c) => (w.commit (w.db.recordFakeOutcome cat ctx c outcome)).assign i none
    | _ => w
  | .beginDemoSend i send => w.start i (w.beginDemoSend cat send)
  | .consumeDemoSend ctx i =>
    match w.workers i with
    | some (.demoSend send .checked) => w.consumeDemoSend ctx i send
    | _ => w
  | .enterDemoSubmit i =>
    match w.workers i with
    | some (.demoSend send .marked) =>
      { w with submits := w.submits ++ [send.command] }.assign i (some (.demoSend send .entered))
    | _ => w
  | .verifyDemoSendGate ctx i =>
    match w.workers i with
    | some (.demoSend send .entered) => w.verifyDemoSendGate ctx i send
    | _ => w
  | .finishDemoSend ctx i outcome =>
    match w.workers i with
    | some (.demoSend send .verified) =>
      (w.commit (w.db.recordDemoOutcome cat ctx send.command outcome)).assign i none
    | some (.demoSend send .entered) =>
      -- The preflight may fail before the gate; it cannot return normally.
      if outcome = .accepted then w
      else (w.commit (w.db.recordDemoOutcome cat ctx send.command outcome)).assign i none
    | _ => w
  | .crash i => w.assign i none
  | .recoverAfterCrash ctx c owner => w.commit (w.db.recoverAfterCrash cat ctx c owner)
  | .fenceProvenUnsent ctx c => w.commit (w.db.fenceProvenUnsent cat ctx c)
  | .recordDemoOrder ctx c rejected => w.commit (w.db.recordDemoOrder cat ctx c rejected)
  | .recordDemoTerminal ctx c => w.commit (w.db.recordDemoTerminal cat ctx c)
  | .applyUniqueFill ctx c request =>
    w.commit ((w.db.applyUniqueFill cat ctx c request).map Prod.fst)

end World

def reached (cat : Catalog) (ls : List Label) : World := run (World.step cat) World.init ls

/-! ## A sample desk

One user with one account, and plans for two contracts at one hundred each. Closed
runs in later modules are runs of this desk. -/

namespace Sample

def plan (venue : String) (revision : RevisionId) : Plan where
  planId := 1
  revisionId := revision
  organizationId := 1
  userId := 1
  accountId := 1
  exchangeAccountId := none
  schemaVersion := .canonicalTradePlanContentV1
  executionVenue := venue
  executionPolicyVersion := "governed-blofin-demo/v1"
  executionInstrument := "BTC-USDT"
  contentHash := "content"
  side := .buy
  quantity := ⟨2, "CONTRACTS", by norm_num⟩
  quantityUnit := .contracts
  limitPrice := some ⟨100, "USDT", by norm_num⟩
  basisExecutionPrice := ⟨100, "USDT", by norm_num⟩
  entryZone := ⟨90, 110, by norm_num, by norm_num⟩
  contractMultiplier := 1
  contractType := .linear
  feeAllowance := ⟨0, "USDT", by norm_num⟩
  slippageAllowance := ⟨0, "USDT", by norm_num⟩
  maximumLoss := ⟨10, "USDT", by norm_num⟩
  validFrom := 0
  validUntil := 1000000000000
  multiplier_pos := by norm_num
  manual_venue := nofun

def catalog (venue : String) : Catalog where
  plans revision := some (plan venue revision)
  payloadHash p authorization _ := .ok (toString p.revisionId ++ "/" ++ toString authorization)
  entryClientOrderId _ revision _ := "AT" ++ toString revision
  canonicalSha256 f := f.sourceFillIdentity ++ "/" ++ f.quantity ++ "/" ++ f.price
  rewardRiskRefusal _ := none

/-- Days of twenty-four hours, ten trades each, and a balance of one million. -/
def ctx (now : Instant) : Ctx where
  now := now
  globalKillSwitchActive := false
  riskSettings _ _ :=
    { tradingDay := fun t => t / 86400000000
      maxTradesPerDay := 10
      defaultAccountBalance := 1000000
      dailyLossLimit := none }
  experimentDispatch _ := .ok ()
  verifiedEntryNotional _ := .ok 0

def claimEnv (now : Instant) (c : CommandId) : ClaimEnv where
  revalidate := none
  lifecycleResolved _ := false
  experimentReservationRefusal := none
  profileClaimCaps := .ok none
  manualDemoCapacity := none
  commandId := c
  receiptId := c
  reservationId := c
  fallbackCommandId := c + 1000
  fallbackReceiptId := c + 1000
  createdAt := now

def claimRequest (revision : RevisionId) (key : String) : ClaimRequest where
  organizationId := 1
  userId := 1
  accountId := 1
  authorizationId := revision
  revisionId := revision
  idempotencyKey := key

def claim (now : Instant) (c : CommandId) : List Label :=
  [.issueAuthorization c ⟨1, 1, 1, c, "content", 1000000000000⟩,
    .beginClaim (ctx now) 0 ⟨.ok (), true⟩ (claimRequest c ("key" ++ toString c)),
    .finishClaim (ctx now) 0 true (claimEnv now c)]

def dispatch (now : Instant) (c : CommandId) : List Label :=
  [.leaseEffect (ctx now) c "worker" 30, .authorizeDispatch (ctx now) c "worker" 1]

def fillRequest (identity : String) (quantity price : Nat) : FillRequest where
  fillQuantity := .finite false quantity 0
  fillPrice := .finite false price 0
  sourceIdentity := some identity
  occurredAt := some ⟨2026, 1, 2, 3, 4, 5, 0, some 0⟩
  venueSource := "phase1-fake-venue"

def fill (now : Instant) (c : CommandId) (identity : String) (quantity price : Nat) : Label :=
  .applyUniqueFill (ctx now) c (fillRequest identity quantity price)

def kill (now : Instant) : Label := .activateKill (ctx now) 1 ⟨true, "halt", none⟩ [1]

end Sample

end AlphaTrade.Execution
