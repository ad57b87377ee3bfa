import Mathlib.Algebra.Order.Field.Rat
import Mathlib.Tactic.Simps.Basic
import AlphaTrade.Library.PyValue
import AlphaTrade.Library.Table

/-!
# Rows of the execution protocol

The tables behind the claim transaction, the dispatcher and the risk ledger.
Identifiers are opaque numbers, instants are microseconds since the epoch, and
amounts are exact rationals. A command is kept together with its receipt, its
projection, its transition log, its reservation, its effect and its fill facts:
the schema gives each of these one row per command, created with the command and
never deleted. A blocked command has neither a reservation nor an effect.

`updated_at` columns, content hashes of transitions, audit rows and the columns
of a reservation that only repeat its pending exposure are left out: no operation
of the protocol reads them.
-/
namespace AlphaTrade.Execution
open Library

abbrev OrganizationId := Nat
abbrev UserId := Nat
abbrev AccountId := Nat
abbrev RevisionId := Nat
abbrev AuthorizationId := Nat
abbrev CommandId := Nat
abbrev ReceiptId := Nat

/-- Microseconds since the epoch. -/
abbrev Instant := Int

/-- A calendar day, numbered. -/
abbrev Day := Int

/-- The tenant-scoped account that owns a safety epoch and a ledger row. -/
abbrev AccountKey := OrganizationId × AccountId

/-- `AppError` and what the drivers raise, with the text and the reason code. -/
inductive Error where
  | conflict (message : String) (reason : Option String)
  | notFound (message : String)
  | tradingPolicy (message : String) (reason : Option String)
  | validation (message : String)
  | integrity (constraint : String)
  | runtime (message : String)
  | value (message : String)
  deriving DecidableEq, Repr

/-! ## Enumerations -/

inductive CommandOutcome where
  | allow | blocked
  deriving DecidableEq, Repr

inductive ReceiptState where
  | blocked | submitting | blockedBeforeDispatch | acknowledged | partiallyFilled | rejected
  | expired | cancelled | partiallyFilledCancelled | reconciliationRequired | absencePending
  | absenceProven | resubmitAuthorized | operatorHold
  deriving DecidableEq, Repr

inductive EffectState where
  | created | leased | dispatchAuthorized | provenUnsent | sendAttempted | sendAmbiguous
  | reconciling
  deriving DecidableEq, Repr

inductive ReleaseState where
  | charged | partiallyReleased | released
  deriving DecidableEq, Repr

inductive ReleaseReason where
  | unusedRemainderAfterRejection | unusedRemainderAfterCancellation
  | unusedRemainderAfterExpiry | unusedRemainderAfterAbsence
  | unusedRemainderAfterProvenUnsent | fillConversion | verifiedDemoExit
  deriving DecidableEq, Repr

inductive ReconciliationStatus where
  | notRequired | required | inProgress | resolved | operatorHold
  deriving DecidableEq, Repr

inductive SendDisposition where
  | notSent | provenUnsent | accepted | rejected | ambiguous
  deriving DecidableEq, Repr

inductive AuthorizationState where
  | available | consumed | revoked | expired
  deriving DecidableEq, Repr

inductive QuantityUnit where
  | contracts | base | quote
  deriving DecidableEq, Repr

inductive EntrySide where
  | buy | sell
  deriving DecidableEq, Repr

inductive ContractType where
  | linear | inverse
  deriving DecidableEq, Repr

inductive SchemaVersion where
  | canonicalTradePlanContentV1 | manualDemoTradePlanV1
  deriving DecidableEq, Repr

/-- Who answered for the venue. -/
inductive VenueSource where
  | fakeVenue | blofinDemo
  deriving DecidableEq, Repr

/-- `source_fact` of a transition; the accepted and rejected facts carry the source. -/
inductive SourceFact where
  | claimAllow | claimPredicateBlock | uniqueFill | safetyEpochBlockBeforeDispatch
  | ambiguousSend | accepted (source : VenueSource) | rejected (source : VenueSource)
  | blofinDemoCancelled
  deriving DecidableEq, Repr

/-! ## Plans -/

structure SemanticAmount where
  value : ℚ
  unit : String
  pos : 0 < value
  deriving DecidableEq

structure NonNegativeSemanticAmount where
  value : ℚ
  unit : String
  nonneg : 0 ≤ value
  deriving DecidableEq

structure EntryZone where
  lower : ℚ
  upper : ℚ
  lower_pos : 0 < lower
  ordered : lower ≤ upper
  deriving DecidableEq

def blofinDemoVenue : String := "BLOFIN_DEMO"

/-- `INTERNAL_PAPER_VENUE`. -/
def internalPaperVenue : String := "PAPER_INTERNAL"

/-- The terms of an immutable plan revision that execution reads. The proof fields
are the constraints its schema validates on every load. -/
structure Plan where
  planId : Nat
  revisionId : RevisionId
  organizationId : OrganizationId
  userId : UserId
  accountId : AccountId
  exchangeAccountId : Option Nat
  schemaVersion : SchemaVersion
  executionVenue : String
  executionPolicyVersion : String
  executionInstrument : String
  contentHash : String
  side : EntrySide
  quantity : SemanticAmount
  quantityUnit : QuantityUnit
  limitPrice : Option SemanticAmount
  basisExecutionPrice : SemanticAmount
  entryZone : EntryZone
  contractMultiplier : ℚ
  contractType : ContractType
  feeAllowance : NonNegativeSemanticAmount
  slippageAllowance : NonNegativeSemanticAmount
  maximumLoss : SemanticAmount
  validFrom : Instant
  validUntil : Instant
  multiplier_pos : 0 < contractMultiplier
  manual_venue : schemaVersion = .manualDemoTradePlanV1 → executionVenue = blofinDemoVenue

/-! ## Protocol rows -/

/-- `AccountSafetyEpoch`. -/
structure SafetyEpoch where
  epoch : Nat
  blocking : Bool
  lastReasonCode : String
  deriving DecidableEq, Repr

/-- `KillSwitchState`; an organization without a row is an inactive first version. -/
structure KillSwitch where
  active : Bool
  version : Nat
  deriving DecidableEq, Repr

/-- `AccountRiskAccountingState`. A symbol map reads as zero where it has no entry. -/
structure Accounting where
  reservedNotional : ℚ
  reservedDailyLoss : ℚ
  reservedTradeSlots : Int
  actualNotional : ℚ
  actualDailyLoss : ℚ
  actualTradeCount : Int
  symbolReserved : String → ℚ
  symbolActual : String → ℚ
  maxNotional : ℚ
  maxDailyLoss : ℚ
  maxTradeSlots : Int
  maxSymbolNotional : ℚ
  tradeSlotBusinessDate : Option Day
  dailyLocked : Bool
  exposureUnit : String
  version : Nat

/-- `ExecutionTransition`. -/
structure Transition where
  sequence : Nat
  priorState : Option ReceiptState
  newState : ReceiptState
  sourceFact : SourceFact
  sourceIdentity : String
  quantity : Option ℚ
  quantityUnit : Option QuantityUnit
  unitPrice : Option ℚ
  recordedAt : Instant
  deriving DecidableEq

/-- `ExecutionProjection`. -/
structure Projection where
  version : Nat
  state : ReceiptState
  filledQuantity : ℚ
  remainingQuantity : ℚ
  quantityUnit : QuantityUnit
  weightedPrice : Option ℚ
  reconciliationStatus : ReconciliationStatus
  eventWatermark : Nat
  deriving DecidableEq

/-- `RiskReservation`. -/
structure Reservation where
  id : Nat
  instrument : String
  pendingOrderExposure : ℚ
  dailyTradeAllocation : Int
  dailyLossAllocation : ℚ
  remainingReservedNotional : ℚ
  convertedTradeSlots : Int
  contractMultiplier : ℚ
  contractType : ContractType
  quantityUnit : QuantityUnit
  exposureUnit : String
  safetyEpoch : Nat
  releaseState : ReleaseState
  releaseReason : Option ReleaseReason
  createdAt : Instant
  deriving DecidableEq

/-- `VenueSubmitEffect`. -/
structure Effect where
  clientOrderId : String
  state : EffectState
  leaseOwner : Option String
  leaseExpiresAt : Option Instant
  fencingToken : Int
  attempt : Nat
  dispatchAuthorizedAt : Option Instant
  dispatchSafetyEpoch : Option Nat
  dispatchFencingToken : Option Int
  dispatchAttempt : Option Nat
  safetyEpoch : Nat
  uncertainty : Bool
  reconciliationDisposition : SendDisposition
  deriving DecidableEq

/-- `ExecutionFillFact`. -/
structure FillFact where
  venueSource : String
  sourceFillIdentity : String
  quantity : ℚ
  price : ℚ
  unit : QuantityUnit
  occurredAt : PyDateTime
  contentHash : String
  deriving DecidableEq

/-- `ExecutionCommand` with the rows that hang off it. -/
structure Command where
  organizationId : OrganizationId
  userId : UserId
  accountId : AccountId
  revisionId : RevisionId
  authorizationId : AuthorizationId
  planContentHash : String
  canonicalPayloadHash : String
  opaqueIdempotencyKey : String
  outcome : CommandOutcome
  blockedReasonCode : Option String
  receiptId : ReceiptId
  projection : Projection
  transitions : List Transition
  reservation : Option Reservation
  effect : Option Effect
  fills : List FillFact

namespace Command

def accountKey (k : Command) : AccountKey := (k.organizationId, k.accountId)

@[simps]
def setEffect (k : Command) (e : Effect) : Command := { k with effect := some e }

@[simps]
def setReservation (k : Command) (r : Reservation) : Command := { k with reservation := some r }

@[simps]
def addFill (k : Command) (fact : FillFact) : Command := { k with fills := k.fills ++ [fact] }

@[simp] theorem accountKey_setEffect (k : Command) (e : Effect) :
    (k.setEffect e).accountKey = k.accountKey := rfl

@[simp] theorem accountKey_setReservation (k : Command) (r : Reservation) :
    (k.setReservation r).accountKey = k.accountKey := rfl

@[simp] theorem accountKey_addFill (k : Command) (fact : FillFact) :
    (k.addFill fact).accountKey = k.accountKey := rfl

/-- Writing back what was read changes nothing. -/
theorem setEffect_self {k : Command} {e : Effect} (h : k.effect = some e) :
    k.setEffect e = k := by
  cases k
  simp_all [setEffect]

end Command

/-- The issuance of an `ApprovalAuthorization`; it never changes. -/
structure AuthorizationIssuance where
  organizationId : OrganizationId
  userId : UserId
  accountId : AccountId
  revisionId : RevisionId
  planContentHash : String
  expiresAt : Instant
  deriving DecidableEq

/-- `ApprovalAuthorization`: its issuance and its lifecycle columns. -/
structure Authorization where
  issuance : AuthorizationIssuance
  state : AuthorizationState
  consumedByExecutionCommandId : Option CommandId
  deriving DecidableEq

/-- `ExecutionIdempotencyBinding`, under its organization and opaque key. -/
structure Binding where
  userId : UserId
  accountId : AccountId
  operationNamespace : String
  canonicalPayloadHash : String
  revisionId : RevisionId
  authorizationId : AuthorizationId
  commandId : Option CommandId
  receiptId : Option ReceiptId
  outcome : Option CommandOutcome
  deriving DecidableEq

/-- The columns of `uq_plan_entry_execution_claim`. -/
structure PlanClaimKey where
  organizationId : OrganizationId
  accountId : AccountId
  exchangeAccountScopeKey : String
  revisionId : RevisionId
  deriving DecidableEq

end AlphaTrade.Execution
