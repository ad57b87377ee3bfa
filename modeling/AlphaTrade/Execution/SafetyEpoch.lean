import AlphaTrade.Execution.Database

/-!
# Safety epochs, the kill switch and the ledger lock

`lockEpoch` creates an epoch row on first use. Kill activation advances every epoch
of the organization and blocks it; deactivation only clears the blocking flag, so an
advanced epoch never comes back.

`lockRiskAccounting` hands out the ledger row. On the internal paper venue it first
rolls the trade-slot day: reservations whose command has ended, or that are too old
and unfilled, are released before the day is stamped.
-/
namespace AlphaTrade.Execution
open Library

namespace Db

def lockEpoch (db : Db) (ctx : Ctx) (key : AccountKey) : Db × SafetyEpoch :=
  match db.epochs key with
  | some row => (db, row)
  | none =>
    let row : SafetyEpoch :=
      { epoch := 1
        blocking := db.organizationKillActive ctx key.1
        lastReasonCode := "initialized" }
    ({ db with epochs := Function.update db.epochs key (some row) }, row)

/-! ## The kill switch -/

def ensureEpochsForAccounts (db : Db) (ctx : Ctx) (organization : OrganizationId)
    (accounts : List AccountId) : Db :=
  accounts.foldl (fun db account => (db.lockEpoch ctx (organization, account)).1) db

def mapEpochs (db : Db) (organization : OrganizationId) (f : SafetyEpoch → SafetyEpoch) : Db :=
  { db with
    epochs := fun key => if key.1 = organization then (db.epochs key).map f else db.epochs key }

def advanceForKillActivation (db : Db) (ctx : Ctx) (organization : OrganizationId)
    (accounts : List AccountId) : Db :=
  (db.ensureEpochsForAccounts ctx organization accounts).mapEpochs organization fun row =>
    { epoch := row.epoch + 1, blocking := true, lastReasonCode := "kill_switch_activated" }

def clearBlockingForKillDeactivation (db : Db) (organization : OrganizationId) : Db :=
  db.mapEpochs organization fun row =>
    { row with blocking := false, lastReasonCode := "kill_switch_deactivated" }

end Db

/-- `KillSwitchMutationRequest`. -/
structure KillRequest where
  confirm : Bool
  reason : String
  expectedVersion : Option Nat

def KillRequest.check (request : KillRequest) (row : KillSwitch) : Except Error Unit :=
  if !request.confirm then
    .error (.validation "Kill switch changes require confirm=true.")
  else if isBlank request.reason then
    .error (.validation "A reason is required for kill switch changes.")
  else if request.expectedVersion.any (· ≠ row.version) then
    .error (.conflict "Kill switch was modified concurrently; refresh and retry."
      (some "version_conflict"))
  else .ok ()

namespace Db

def setKill (db : Db) (organization : OrganizationId) (row : KillSwitch) : Db :=
  { db with kill := Function.update db.kill organization row }

/-- `KillSwitchService.activate`: the row and the epochs move in one transaction. An
active switch is left as it is. -/
def activateKill (db : Db) (ctx : Ctx) (organization : OrganizationId) (request : KillRequest)
    (accounts : List AccountId) : Except Error Db :=
  let row := db.kill organization
  match request.check row with
  | .error e => .error e
  | .ok () =>
    if row.active then .ok db
    else .ok ((db.setKill organization ⟨true, row.version + 1⟩).advanceForKillActivation ctx
      organization accounts)

def deactivateKill (db : Db) (organization : OrganizationId) (request : KillRequest) :
    Except Error Db :=
  let row := db.kill organization
  match request.check row with
  | .error e => .error e
  | .ok () =>
    if row.active then
      .ok ((db.setKill organization ⟨false, row.version + 1⟩).clearBlockingForKillDeactivation
        organization)
    else .ok db

end Db

/-! ## The paper day roll -/

/-- `PAPER_UNFILLED_RESERVATION_MAX_AGE`, six hours. -/
def paperUnfilledReservationMaxAge : Instant := 6 * 60 * 60 * 1000000

/-- `_TERMINAL_RECEIPT_STATES`. -/
def ReceiptState.terminal : ReceiptState → Bool
  | .blocked | .blockedBeforeDispatch | .rejected | .expired | .cancelled
  | .partiallyFilledCancelled | .absenceProven => true
  | _ => false

inductive OrphanCause where
  | blockedCommand
  | terminalReceipt (state : ReceiptState)
  | provenUnsent
  | venueRejected
  | agedUnfilled
  deriving DecidableEq, Repr

/-- `_release_reason_for`. -/
def OrphanCause.releaseReason : OrphanCause → ReleaseReason
  | .terminalReceipt .cancelled | .terminalReceipt .partiallyFilledCancelled =>
    .unusedRemainderAfterCancellation
  | .agedUnfilled | .terminalReceipt .expired => .unusedRemainderAfterExpiry
  | .terminalReceipt .absenceProven | .terminalReceipt .absencePending =>
    .unusedRemainderAfterAbsence
  | .provenUnsent => .unusedRemainderAfterProvenUnsent
  | _ => .unusedRemainderAfterRejection

def Command.terminalCause (k : Command) : Option OrphanCause :=
  if k.outcome = .blocked then some .blockedCommand
  else if k.projection.state.terminal then some (.terminalReceipt k.projection.state)
  else match k.effect with
    | none => none
    | some e =>
      if e.state = .provenUnsent then some .provenUnsent
      else if e.reconciliationDisposition = .rejected then some .venueRejected
      else none

def Command.hasFill (k : Command) (r : Reservation) : Bool :=
  r.convertedTradeSlots > 0 || !k.fills.isEmpty

/-- `paper_daily_trade_roll`: trade-slot days roll on the internal paper venue only. -/
def paperDailyTradeRoll (executionVenue : Option String) : Bool :=
  executionVenue = some internalPaperVenue

def Catalog.venue (cat : Catalog) (k : Command) : Option String :=
  (cat.plans k.revisionId).map (·.executionVenue)

def orphanCause (cat : Catalog) (now : Instant) (k : Command) (r : Reservation) :
    Option OrphanCause :=
  if cat.venue k ≠ some internalPaperVenue then none
  else match k.terminalCause with
    | some cause => some cause
    | none =>
      if k.hasFill r then none
      else if now - r.createdAt > paperUnfilledReservationMaxAge then some .agedUnfilled
      else none

namespace Db

/-- Release one reservation of the rolled account, if it is an orphan. -/
def releaseOrphan (cat : Catalog) (now : Instant) (key : AccountKey) (db : Db) (c : CommandId) :
    Db :=
  match db.commands.find c, db.accounting key with
  | some k, some row =>
    match k.reservation with
    | some r =>
      if k.accountKey = key ∧ r.releaseState ≠ .released then
        match orphanCause cat now k r with
        | some cause =>
          db.settle c (k.setReservation (r.release cause.releaseReason))
            (.release k.fills.isEmpty) r.instrument (releaseDelta r r.remainingReservedNotional) row
            (releaseReservationRemainder r row)
        | none => db
      else db
    | none => db
  | _, _ => db

def rollOrder (db : Db) : List CommandId :=
  db.commands.keys.insertionSort fun a b => db.reservationId a ≤ db.reservationId b

def releaseOrphanedPaperReservations (cat : Catalog) (now : Instant) (key : AccountKey)
    (db : Db) : Db :=
  db.rollOrder.foldl (releaseOrphan cat now key) db

def stampDay (db : Db) (key : AccountKey) (settings : RiskSettings) (today : Day) : Db :=
  { db with
    accounting := Function.update db.accounting key ((db.accounting key).map fun row =>
      { row with
        actualTradeCount := 0
        maxTradeSlots := settings.maxTradesPerDay
        tradeSlotBusinessDate := some today
        version := row.version + 1 }) }

def rollDailyTradeSlots (cat : Catalog) (ctx : Ctx) (key : AccountKey) (user : UserId)
    (row : Accounting) (db : Db) : Db :=
  let settings := ctx.riskSettings key.1 user
  let today := settings.tradingDay ctx.now
  if row.tradeSlotBusinessDate = some today then db
  else (db.releaseOrphanedPaperReservations cat ctx.now key).stampDay key settings today

/-- A fresh row with the user's default limits. -/
def initialAccounting (settings : RiskSettings) (exposureUnit : String)
    (businessDay : Option Day) : Accounting where
  reservedNotional := 0
  reservedDailyLoss := 0
  reservedTradeSlots := 0
  actualNotional := 0
  actualDailyLoss := 0
  actualTradeCount := 0
  symbolReserved _ := 0
  symbolActual _ := 0
  maxNotional := settings.defaultAccountBalance
  maxDailyLoss := match settings.dailyLossLimit with
    | some limit => if limit = 0 then settings.defaultAccountBalance else limit
    | none => settings.defaultAccountBalance
  maxTradeSlots := settings.maxTradesPerDay
  maxSymbolNotional := settings.defaultAccountBalance
  tradeSlotBusinessDate := businessDay
  dailyLocked := false
  exposureUnit := exposureUnit
  version := 1

def ensureAccounting (cat : Catalog) (ctx : Ctx) (key : AccountKey) (user : UserId)
    (exposureUnit : String) (roll : Bool) (db : Db) : Db :=
  match db.accounting key with
  | some row => if roll then db.rollDailyTradeSlots cat ctx key user row else db
  | none =>
    let settings := ctx.riskSettings key.1 user
    let businessDay := if roll then some (settings.tradingDay ctx.now) else none
    -- The roll of a row stamped with today is a no-op.
    db.putRow key (initialAccounting settings exposureUnit businessDay)

def lockRiskAccounting (cat : Catalog) (ctx : Ctx) (key : AccountKey) (user : UserId)
    (exposureUnit : String) (roll : Bool) (db : Db) : Except Error (Db × Accounting) :=
  let db := db.ensureAccounting cat ctx key user exposureUnit roll
  match db.accounting key with
  | some row => .ok (db, row)
  | none => .error (.runtime "Risk accounting row missing after insert-or-lock.")

end Db

end AlphaTrade.Execution
