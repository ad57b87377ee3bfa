import AlphaTrade.Execution.Rows
import AlphaTrade.Library.Saturate

/-!
# Ledger arithmetic

Quote exposure, the conservative reservation of a plan, and the four writers of
the accounting row: the charge at a claim, the conversion at a fill, the release
of an unused remainder, and the release of an orphan by the paper day roll.

`Delta` is what a writer means to add to the row for one reservation. It is not a
column of the source; the journal in `Database.lean` compares it with what the
row really did.
-/
namespace AlphaTrade.Execution
open Library

/-! ## Quote exposure -/

structure QuoteExposureError where
  message : String
  reason : String
  deriving DecidableEq, Repr

/-- Linear contracts scale by the multiplier, base quantities do not; inverse
contracts and quote quantities are refused. -/
def linearQuoteExposure (quantity price : ℚ) (unit : QuantityUnit) (multiplier : ℚ)
    (contractType : ContractType) : Except QuoteExposureError ℚ :=
  if quantity ≤ 0 ∨ price ≤ 0 then
    .error ⟨"Quantity and price must be positive Decimals.", "non_positive_exposure_input"⟩
  else if multiplier ≤ 0 then
    .error ⟨"contract_multiplier must be a positive Decimal.", "non_positive_contract_multiplier"⟩
  else match contractType, unit with
    | .inverse, _ =>
      .error ⟨"Inverse contract exposure conversion is not defined for Phase 1.",
        "inverse_contract_undefined"⟩
    | .linear, .contracts => .ok (quantity * multiplier * price)
    | .linear, .base => .ok (quantity * price)
    | .linear, .quote =>
      .error ⟨"Phase 1 exposure conversion requires CONTRACTS or BASE quantity units.",
        "unsupported_quantity_unit"⟩

theorem linearQuoteExposure_pos {quantity price multiplier x : ℚ} {unit : QuantityUnit}
    {contractType : ContractType}
    (h : linearQuoteExposure quantity price unit multiplier contractType = .ok x) : 0 < x := by
  unfold linearQuoteExposure at h
  split at h
  · cases h
  rename_i hqp
  push Not at hqp
  split at h
  · cases h
  rename_i hm
  push Not at hm
  split at h <;> cases h
  · exact mul_pos (mul_pos hqp.1 hm) hqp.2
  · exact mul_pos hqp.1 hqp.2

def fillQuoteExposure (r : Reservation) (quantity price : ℚ) : Except Error ℚ :=
  match linearQuoteExposure quantity price r.quantityUnit r.contractMultiplier r.contractType with
  | .ok x => .ok x
  | .error e =>
    .error (.conflict e.message (some
      (if e.reason = "inverse_contract_undefined" then "inverse_contract_fill_undefined"
        else e.reason)))

theorem fillQuoteExposure_pos {r : Reservation} {quantity price x : ℚ}
    (h : fillQuoteExposure r quantity price = .ok x) : 0 < x := by
  unfold fillQuoteExposure at h
  split at h
  · rename_i h'
    cases h
    exact linearQuoteExposure_pos h'
  · cases h

/-! ## The claim side -/

structure ReservationIntent where
  pendingNotional : ℚ
  dailyLoss : ℚ
  tradeSlots : Int
  instrument : String
  exposureUnit : String
  remainingQuantity : ℚ
  quantityUnit : QuantityUnit
  contractMultiplier : ℚ
  contractType : ContractType
  deriving DecidableEq

def Plan.reservationPrice (plan : Plan) : ℚ × String :=
  match plan.limitPrice with
  | some limit => (limit.value, limit.unit)
  | none => (max plan.basisExecutionPrice.value plan.entryZone.upper,
      plan.basisExecutionPrice.unit)

def conservativeReservation (plan : Plan) : Except Error ReservationIntent :=
  let price := plan.reservationPrice
  match linearQuoteExposure plan.quantity.value price.1 plan.quantityUnit
      plan.contractMultiplier plan.contractType with
  | .error e =>
    .error (.tradingPolicy e.message (some
      (if e.reason = "inverse_contract_undefined" then "inverse_contract_exposure_undefined"
        else e.reason)))
  | .ok quoteExposure => .ok
    { pendingNotional := quoteExposure + plan.feeAllowance.value + plan.slippageAllowance.value
      dailyLoss := plan.maximumLoss.value
      tradeSlots := 1
      instrument := plan.executionInstrument
      exposureUnit := price.2
      remainingQuantity := plan.quantity.value
      quantityUnit := plan.quantityUnit
      contractMultiplier := plan.contractMultiplier
      contractType := plan.contractType }

/-- Absolute caps a profile puts in place of the stored ceilings, for one claim. -/
structure LedgerCaps where
  maxSymbolNotional : ℚ
  maxNotional : ℚ
  maxDailyLoss : ℚ
  deriving DecidableEq

def accountingView (row : Accounting) : Option LedgerCaps → Accounting
  | none => row
  | some caps =>
    { row with
      maxNotional := caps.maxNotional
      maxSymbolNotional := caps.maxSymbolNotional
      maxDailyLoss := caps.maxDailyLoss }

def evaluateClaimPredicate (blockingEpoch killActive : Bool) (accounting : Accounting)
    (intent : ReservationIntent) : Option String :=
  if blockingEpoch || killActive then some "safety_epoch_blocking"
  else if accounting.dailyLocked then some "daily_loss_locked"
  else if intent.pendingNotional >
      accounting.maxNotional - accounting.reservedNotional - accounting.actualNotional then
    some "insufficient_total_exposure"
  else if intent.dailyLoss >
      accounting.maxDailyLoss - accounting.reservedDailyLoss - accounting.actualDailyLoss then
    some "insufficient_daily_loss_allocation"
  else if accounting.maxTradeSlots - accounting.reservedTradeSlots - accounting.actualTradeCount
      < intent.tradeSlots then
    some "insufficient_daily_trade_allocation"
  else if intent.pendingNotional > accounting.maxSymbolNotional -
      accounting.symbolReserved intent.instrument - accounting.symbolActual intent.instrument then
    some "insufficient_symbol_exposure"
  else none

theorem evaluateClaimPredicate_safe {blockingEpoch killActive : Bool} {accounting : Accounting}
    {intent : ReservationIntent}
    (h : evaluateClaimPredicate blockingEpoch killActive accounting intent = none) :
    blockingEpoch = false ∧ killActive = false := by
  unfold evaluateClaimPredicate at h
  split at h
  · cases h
  · rename_i hs
    simpa using hs

def chargeReservation (row : Accounting) (intent : ReservationIntent) : Accounting :=
  { row with
    reservedNotional := row.reservedNotional + intent.pendingNotional
    reservedDailyLoss := row.reservedDailyLoss + intent.dailyLoss
    reservedTradeSlots := row.reservedTradeSlots + intent.tradeSlots
    symbolReserved := Function.update row.symbolReserved intent.instrument
      (row.symbolReserved intent.instrument + intent.pendingNotional)
    version := row.version + 1 }

/-! ## The fill and release side -/

/-- One entry of a symbol map moved by `delta` and clamped at zero. -/
def adjustSymbolMap (mapping : String → ℚ) (instrument : String) (delta : ℚ) : String → ℚ :=
  Function.update mapping instrument (clampZero (mapping instrument + delta))

/-- Reserved notional becomes actual exposure: the reservation's side of one fill. A
reservation the day roll already released keeps that release, and the trade slots
convert once. -/
def Reservation.convert (r : Reservation) (fillNotional : ℚ) : Reservation :=
  { r with
    remainingReservedNotional :=
      r.remainingReservedNotional - min fillNotional r.remainingReservedNotional
    releaseReason :=
      if r.releaseState = .released then r.releaseReason else some .fillConversion
    releaseState := if r.releaseState = .released then .released else .partiallyReleased
    convertedTradeSlots :=
      if r.dailyTradeAllocation - r.convertedTradeSlots > 0 then r.dailyTradeAllocation
      else r.convertedTradeSlots }

/-- The row's side of one fill. Slots the roll already returned are counted as a
completed trade and not returned again. -/
def Accounting.convertFor (row : Accounting) (r : Reservation) (fillNotional : ℚ) : Accounting :=
  let convert := min fillNotional r.remainingReservedNotional
  let unconverted := r.dailyTradeAllocation - r.convertedTradeSlots
  { row with
    reservedNotional := clampZero (row.reservedNotional - convert)
    actualNotional := row.actualNotional + fillNotional
    symbolReserved := adjustSymbolMap row.symbolReserved r.instrument (-convert)
    symbolActual := adjustSymbolMap row.symbolActual r.instrument fillNotional
    reservedTradeSlots :=
      if unconverted > 0 ∧ r.releaseState ≠ .released then
        clampZero (row.reservedTradeSlots - unconverted)
      else row.reservedTradeSlots
    actualTradeCount :=
      if unconverted > 0 then row.actualTradeCount + unconverted else row.actualTradeCount
    version := row.version + 1 }

def convertReservationForFill (r : Reservation) (row : Accounting) (quantity price : ℚ) :
    Except Error (ℚ × Reservation × Accounting) :=
  match fillQuoteExposure r quantity price with
  | .error e => .error e
  | .ok fillNotional => .ok (fillNotional, r.convert fillNotional, row.convertFor r fillNotional)

@[simp] theorem convertReservationForFill_eq_ok {r r' : Reservation} {row row' : Accounting}
    {quantity price fillNotional : ℚ} :
    convertReservationForFill r row quantity price = .ok (fillNotional, r', row') ↔
      fillQuoteExposure r quantity price = .ok fillNotional ∧ r' = r.convert fillNotional ∧
        row' = row.convertFor r fillNotional := by
  unfold convertReservationForFill
  cases fillQuoteExposure r quantity price with
  | error e => simp
  | ok x =>
    simp only [Except.ok.injEq, Prod.mk.injEq]
    constructor
    · rintro ⟨rfl, rfl, rfl⟩
      exact ⟨rfl, rfl, rfl⟩
    · rintro ⟨rfl, rfl, rfl⟩
      exact ⟨rfl, rfl, rfl⟩

def Reservation.unconvertedSlots (r : Reservation) : Int :=
  max 0 (r.dailyTradeAllocation - r.convertedTradeSlots)

/-- The four columns both releases lower: the unused notional, the loss budget of a
reservation without a fill, its unconverted slots, and its symbol entry. -/
def Accounting.lowerFor (row : Accounting) (r : Reservation) (unused : ℚ) : Accounting :=
  { row with
    reservedNotional := clampZero (row.reservedNotional - unused)
    reservedDailyLoss :=
      if r.convertedTradeSlots = 0 then
        clampZero (row.reservedDailyLoss - r.dailyLossAllocation)
      else row.reservedDailyLoss
    reservedTradeSlots := clampZero (row.reservedTradeSlots - r.unconvertedSlots)
    symbolReserved := adjustSymbolMap row.symbolReserved r.instrument (-unused) }

def Reservation.release (r : Reservation) (reason : ReleaseReason) : Reservation :=
  { r with
    remainingReservedNotional := 0
    releaseState := .released
    releaseReason := some reason }

/-- What `_release_unused_reservation` writes on the row, `unused` being the remainder
it read before it locked the row. -/
def releaseUnused (r : Reservation) (row : Accounting) (unused : ℚ) : Accounting :=
  { row.lowerFor r unused with version := row.version + 1 }

/-- What `_release_reservation_remainder` writes on the row. -/
def releaseReservationRemainder (r : Reservation) (row : Accounting) : Accounting :=
  let unused := r.remainingReservedNotional
  { row.lowerFor r unused with
    version := if unused > 0 ∨ r.unconvertedSlots > 0 then row.version + 1 else row.version }

/-! ## Intended changes -/

/-- A change of the row on account of one reservation. -/
structure Delta where
  reservedNotional : ℚ
  symbolReserved : ℚ
  reservedDailyLoss : ℚ
  reservedTradeSlots : Int
  actualNotional : ℚ
  symbolActual : ℚ
  deriving DecidableEq

def Delta.between (instrument : String) (old new : Accounting) : Delta where
  reservedNotional := new.reservedNotional - old.reservedNotional
  symbolReserved := new.symbolReserved instrument - old.symbolReserved instrument
  reservedDailyLoss := new.reservedDailyLoss - old.reservedDailyLoss
  reservedTradeSlots := new.reservedTradeSlots - old.reservedTradeSlots
  actualNotional := new.actualNotional - old.actualNotional
  symbolActual := new.symbolActual instrument - old.symbolActual instrument

def chargeDelta (intent : ReservationIntent) : Delta where
  reservedNotional := intent.pendingNotional
  symbolReserved := intent.pendingNotional
  reservedDailyLoss := intent.dailyLoss
  reservedTradeSlots := intent.tradeSlots
  actualNotional := 0
  symbolActual := 0

def convertDelta (r : Reservation) (fillNotional : ℚ) : Delta where
  reservedNotional := -min fillNotional r.remainingReservedNotional
  symbolReserved := -min fillNotional r.remainingReservedNotional
  reservedDailyLoss := 0
  reservedTradeSlots :=
    if r.dailyTradeAllocation - r.convertedTradeSlots > 0 ∧ r.releaseState ≠ .released then
      -(r.dailyTradeAllocation - r.convertedTradeSlots)
    else 0
  actualNotional := fillNotional
  symbolActual := fillNotional

def releaseDelta (r : Reservation) (unused : ℚ) : Delta where
  reservedNotional := -unused
  symbolReserved := -unused
  reservedDailyLoss := if r.convertedTradeSlots = 0 then -r.dailyLossAllocation else 0
  reservedTradeSlots := -r.unconvertedSlots
  actualNotional := 0
  symbolActual := 0

end AlphaTrade.Execution
