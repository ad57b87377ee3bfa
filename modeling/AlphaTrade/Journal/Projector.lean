import AlphaTrade.Library.Check
import AlphaTrade.Library.Watermark
import AlphaTrade.Execution.Rows

/-!
# The journal lifecycle projector

`JournalLifecycleProjector` keeps one `JournalTrade` per execution lifecycle. Approved-plan,
fill, close and reconcile events are folded into it as they arrive; the row remembers the
highest rank it has seen, and an event below it only fills in what is missing.

A payload is read by key, each value as the type its key is coerced to. `Given.malformed` is
a value that the coercion refuses. Receipts and lifecycle events are written together under
one identity and are one list here. Not modelled: locks, audit rows, the setup record that a
close is linked to, and the rounding of money columns to eight places, which is the same for
every event.
-/
namespace AlphaTrade.Journal
open Library
open Execution (OrganizationId UserId AccountId CommandId Instant)

/-! ## Rows and events -/

/-- `JournalLifecycleEventType`. -/
inductive EventType where
  | candidateConfirmed | reject | skip | approvedPlan | fill | close | reconcile
  deriving DecidableEq, Repr

namespace EventType

def nonCreating : EventType → Bool
  | .candidateConfirmed | .reject | .skip => true
  | _ => false

/-- `_EVENT_RANK`. -/
def rank : EventType → Nat
  | .approvedPlan => 10
  | .fill => 20
  | .close => 30
  | .reconcile => 40
  | _ => 0

end EventType

inductive TradeStatus where
  | planned | open | closed | cancelled
  deriving DecidableEq, Repr

/-- `_STATUS_RANK`, with zero for a missing status. -/
def TradeStatus.rank : Option TradeStatus → Nat
  | some .planned => 10
  | some .open => 20
  | some .closed | some .cancelled => 30
  | none => 0

inductive TradeResult where
  | win | loss | breakeven | open
  deriving DecidableEq, Repr

inductive TradeDirection where
  | long | short
  deriving DecidableEq, Repr

structure PlannedTarget where
  price : ℚ
  sizeFraction : ℚ
  label : Option String
  deriving DecidableEq

/-- The attributes of a row that payloads set, `status` apart. -/
inductive Key where
  | symbol | timeframe | direction | exchange | thesis | trigger | entryPlan | invalidation
  | plannedEntryPrice | plannedStopPrice | plannedTargets | runnerEnabled | runnerPlan
  | plannedRiskAmount | strategyLabel | setupId | userStrategyId | strategyVersionId
  | linkedProposalId | linkedPositionId | linkedPaperTradeId | linkedOrderId | notes | tags
  | entryPrice | entryTime | exitPrice | exitTime | exitReason | size | leverage | fees | funding
  | slippage | grossPnl | netPnl | result
  deriving DecidableEq, Repr

/-- What `_coerce_field` makes of a value. -/
abbrev Key.Value : Key → Type
  | .plannedEntryPrice | .plannedStopPrice | .plannedRiskAmount | .entryPrice | .exitPrice | .size
  | .leverage | .fees | .funding | .slippage | .grossPnl | .netPnl => ℚ
  | .setupId | .userStrategyId | .strategyVersionId | .linkedProposalId | .linkedPositionId
  | .linkedPaperTradeId | .linkedOrderId => Nat
  | .entryTime | .exitTime => Instant
  | .direction => TradeDirection
  | .plannedTargets => List PlannedTarget
  | .runnerEnabled => Bool
  | .tags => List String
  | .result => TradeResult
  | .symbol | .timeframe | .exchange | .thesis | .trigger | .entryPlan | .invalidation
  | .runnerPlan | .strategyLabel | .notes | .exitReason => String

/-- `_CREATE_FIELDS`. -/
def createFields : List Key :=
  [.symbol, .timeframe, .direction, .exchange, .thesis, .trigger, .entryPlan, .invalidation,
    .plannedEntryPrice, .plannedStopPrice, .plannedTargets, .runnerEnabled, .runnerPlan,
    .plannedRiskAmount, .strategyLabel, .setupId, .userStrategyId, .strategyVersionId,
    .linkedProposalId, .linkedPositionId, .linkedPaperTradeId, .linkedOrderId, .notes, .tags]

/-- `_VENUE_APPLY_FIELDS`, `status` apart. -/
def venueFields : List Key :=
  [.entryPrice, .entryTime, .exitPrice, .exitTime, .exitReason, .size, .leverage, .fees, .funding,
    .slippage, .grossPnl, .netPnl, .result, .linkedOrderId, .linkedPositionId, .linkedPaperTradeId]

/-- `LINEAGE_STICKY_KEYS`. -/
inductive LineageKey where
  | organizationId | accountId | executionLifecycleId | candidateId | candidateContentHash
  | assessmentId | assessmentContentHash | evidenceWindowHash | tradePlanRevisionId
  | tradePlanContentHash | setupDefinitionId | strategyVersionId | fusionPolicyVersion
  | uniquenessTupleHash
  deriving DecidableEq, Repr

def LineageKey.all : List LineageKey :=
  [.organizationId, .accountId, .executionLifecycleId, .candidateId, .candidateContentHash,
    .assessmentId, .assessmentContentHash, .evidenceWindowHash, .tradePlanRevisionId,
    .tradePlanContentHash, .setupDefinitionId, .strategyVersionId, .fusionPolicyVersion,
    .uniquenessTupleHash]

abbrev Lineage := LineageKey → Option String

/-- A value of a payload. -/
inductive Given (α : Type) where
  | absent | null | value (a : α) | malformed

namespace Given

variable {α : Type}

def refused : Given α → Bool
  | .malformed => true
  | _ => false

def present : Given α → Bool
  | .value _ => true
  | _ => false

def entry : Given α → Entry α
  | .null => .null
  | .value a => .value a
  | _ => .absent

end Given

structure Payload where
  get : (k : Key) → Given k.Value
  /-- `payload["status"]` as text. -/
  status : Entry String
  /-- `payload.get("reconciliation_position")` as text. -/
  reconciliationPosition : Option String
  reconciliationStatus : Option String
  lineage : Given Lineage

/-- `JournalLifecycleEventInput`; the correlation id is only audited. -/
structure Event where
  eventType : EventType
  executionLifecycleId : Option CommandId
  sourceSystem : String
  sourceAggregate : String
  sourceEventId : String
  sourceEventVersion : Nat
  supersession : Nat
  accountId : AccountId
  payload : Payload

def Event.rank (event : Event) : Nat := event.eventType.rank

/-- A row while it is being written. A column that may not be null is checked by `flush`. -/
structure JournalTrade where
  userId : UserId
  accountId : Option AccountId
  status : Option TradeStatus
  attr : (k : Key) → Option k.Value
  /-- The lineage columns: candidate, assessment, plan revision, evidence window. -/
  column : Lineage
  projectorWatermarkRank : Nat
  projectorLockVersion : Nat

inductive Error where
  | validation (message reason : String)
  | conflict (message : String) (reason : Option String)
  /-- What `Decimal`, `UUID`, `fromisoformat` and the enumerations raise. -/
  | coercion
  | integrity (constraint : String)
  deriving DecidableEq, Repr

/-! ## Payloads into rows -/

/-- `_authoritative_reconcile_status`, on the text of the value. -/
def statusOfToken (raw : String) : Option TradeStatus :=
  let normalized := strip raw
  if normalized ∈ ["POSITION_OPEN", "open", "OPEN"] then some .open
  else if normalized ∈ ["CLOSED", "closed"] then some .closed
  else none

def authoritativeReconcileStatus (payload : Payload) : Option TradeStatus :=
  match payload.reconciliationPosition, payload.status with
  | some raw, _ => statusOfToken raw
  | none, .value raw => statusOfToken raw
  | none, _ => none

/-- `JournalTradeStatus(value)`. -/
def TradeStatus.ofText : String → Except Error TradeStatus
  | "planned" => .ok .planned
  | "open" => .ok .open
  | "closed" => .ok .closed
  | "cancelled" => .ok .cancelled
  | _ => .error .coercion

/-- `_coerce_field("status", value)`. -/
def coerceStatus : Entry String → Except Error (Entry TradeStatus)
  | .absent => .ok .absent
  | .null => .ok .null
  | .value raw =>
    match statusOfToken raw with
    | some mapped => .ok (.value mapped)
    | none => (TradeStatus.ofText raw).map .value

namespace JournalTrade

/-- The loop over the fields comes to coercing the value of `k`. -/
def reads (row : JournalTrade) (fields : List Key) (fillNullsOnly : Bool) (k : Key) : Bool :=
  decide (k ∈ fields) && !(fillNullsOnly && (row.attr k).isSome)

def setFields (row : JournalTrade) (fields : List Key) (fillNullsOnly : Bool) (payload : Payload) :
    Except Error JournalTrade := do
  ensure (∀ k ∈ fields, row.reads fields fillNullsOnly k = true → (payload.get k).refused = false)
    Error.coercion
  return { row with
    attr := fun k =>
      if row.reads fields fillNullsOnly k then (payload.get k).entry.overwrite (row.attr k)
      else row.attr k }

def applyCreateFields (row : JournalTrade) (payload : Payload) : Except Error JournalTrade :=
  row.setFields createFields false payload

def applyVenueFields (row : JournalTrade) (payload : Payload) (fillNullsOnly : Bool) :
    Except Error JournalTrade := do
  let row ← row.setFields venueFields fillNullsOnly payload
  if fillNullsOnly ∧ row.status.isSome then return row
  let status ← coerceStatus payload.status
  return { row with status := status.overwrite row.status }

def promoteStatus (row : JournalTrade) (desired : TradeStatus) (stale : Bool) : JournalTrade :=
  if stale then row
  else if TradeStatus.rank row.status ≤ TradeStatus.rank (some desired) then
    { row with status := some desired }
  else row

def applyReconcileStatus (row : JournalTrade) (payload : Payload) (stale : Bool) : JournalTrade :=
  if stale then row
  else match authoritativeReconcileStatus payload with
    | none => row
    | some desired => { row with status := some desired }

end JournalTrade

/-! ## Lineage -/

/-- `extract_lineage_map`. -/
def extractLineageMap (payload : Payload) : Except Error Lineage :=
  match payload.lineage with
  | .value lineage => .ok lineage
  | .malformed => .error (.validation "Journal lineage payload must be an object."
      "invalid_lineage_payload")
  | _ => .ok fun _ => none

/-- `assert_lineage_matches_event_scope`. -/
def assertLineageMatchesEventScope (event : Event) (organizationId : OrganizationId)
    (incoming : Lineage) : Except Error Unit := do
  ensure (∀ org ∈ incoming .organizationId, org = toString organizationId)
    (Error.conflict "Journal lineage belongs to a different organization."
      (some "cross_tenant_lineage"))
  ensure (∀ account ∈ incoming .accountId, account = toString event.accountId)
    (Error.conflict "Journal lineage belongs to a different account."
      (some "lineage_account_mismatch"))
  ensure (∀ lifecycle ∈ incoming .executionLifecycleId, ∀ own ∈ event.executionLifecycleId,
      lifecycle = toString own)
    (Error.conflict "Journal lineage execution lifecycle does not match the event."
      (some "lineage_lifecycle_mismatch"))

def Lineage.Agrees (stored incoming : Lineage) : Prop :=
  ∀ k ∈ LineageKey.all, ∀ a ∈ stored k, ∀ b ∈ incoming k, a = b

instance (stored incoming : Lineage) : Decidable (stored.Agrees incoming) :=
  inferInstanceAs (Decidable (∀ k ∈ LineageKey.all, ∀ a ∈ stored k, ∀ b ∈ incoming k, a = b))

def lineageConflict : Error :=
  .conflict "Journal lifecycle lineage conflict." (some "conflicting_lineage_identity")

/-- `merge_lineage_maps`. -/
def mergeLineageMaps (merged item : Lineage) : Except Error Lineage := do
  ensure (merged.Agrees item) lineageConflict
  return fun k => (item k).or (merged k)

namespace JournalTrade

def stampColumn (lineage : Lineage) (row : JournalTrade) (k : LineageKey) :
    Except Error JournalTrade :=
  match lineage k with
  | none => .ok row
  | some incoming =>
    match row.column k with
    | none => .ok { row with column := Function.update row.column k (some incoming) }
    | some current => do
      ensure (current = incoming)
        (Error.conflict "Journal trade lineage column conflict."
          (some "conflicting_lineage_identity"))
      return row

/-- `_stamp_lineage_columns`: first-seen values win. -/
def stampLineageColumns (row : JournalTrade) (payload : Payload) : Except Error JournalTrade := do
  let lineage ← extractLineageMap payload
  let row ← row.stampColumn lineage .candidateId
  let row ← row.stampColumn lineage .assessmentId
  let row ← row.stampColumn lineage .tradePlanRevisionId
  ensure (∀ window ∈ lineage .evidenceWindowHash, window.length = 64)
    (Error.validation "Journal lineage evidence window hash is not 64 hex characters."
      "invalid_evidence_window_hash")
  row.stampColumn lineage .evidenceWindowHash

/-! ## One event into one row -/

/-- The branches of `_apply_event`. -/
def applyByType (row : JournalTrade) (event : Event) (stale : Bool) : Except Error JournalTrade :=
  match event.eventType with
  | .approvedPlan => row.applyCreateFields event.payload
  | .fill => (row.applyVenueFields event.payload stale).map (·.promoteStatus .open stale)
  | .close => (row.applyVenueFields event.payload stale).map (·.promoteStatus .closed stale)
  | .reconcile =>
    (row.applyVenueFields event.payload stale).map (·.applyReconcileStatus event.payload stale)
  | _ => .ok row

/-- `_apply_event`. -/
def applyEvent (row : JournalTrade) (event : Event) : Except Error JournalTrade := do
  let row ← row.applyByType event (decide (event.rank < row.projectorWatermarkRank))
  let row := { row with
    projectorWatermarkRank := max row.projectorWatermarkRank event.rank
    projectorLockVersion := row.projectorLockVersion + 1 }
  row.stampLineageColumns event.payload

def flush (row : JournalTrade) : Except Error JournalTrade := do
  ensure row.status.isSome (Error.integrity "status")
  ensure (row.attr .result).isSome (Error.integrity "result")
  ensure (row.attr .runnerEnabled).isSome (Error.integrity "runner_enabled")
  ensure (row.attr .symbol).isSome (Error.integrity "symbol")
  ensure (row.attr .timeframe).isSome (Error.integrity "timeframe")
  ensure (row.attr .direction).isSome (Error.integrity "direction")
  return row

def insert (row : JournalTrade) : Except Error JournalTrade :=
  flush { row with
    attr := fun k => match k with
      | .result => some ((row.attr .result).getD TradeResult.open)
      | .runnerEnabled => some ((row.attr .runnerEnabled).getD false)
      | k => row.attr k }

/-- A row with the two lists empty and nothing else in it. -/
def blank (user : UserId) (account : AccountId) : JournalTrade where
  userId := user
  accountId := some account
  status := some .planned
  attr := fun k => match k with
    | .plannedTargets => some ([] : List PlannedTarget)
    | .tags => some ([] : List String)
    | _ => none
  column := fun _ => none
  projectorWatermarkRank := 0
  projectorLockVersion := 0

end JournalTrade

/-- `_assert_account_scope`. -/
def assertAccountScope (trade : JournalTrade) (event : Event) : Except Error Unit :=
  ensure (∀ account ∈ trade.accountId, account = event.accountId)
    (.conflict "Journal lifecycle belongs to a different account." none)

def missingIdentity : Error :=
  .validation "Approved-plan/fill projection requires symbol, timeframe, and direction."
    "missing_instrument_identity"

/-- The new row of `_resolve_lifecycle_trade`. Symbol, timeframe and direction are create
fields, so setting these sets the identity. -/
def createTrade (user : UserId) (event : Event) : Except Error JournalTrade := do
  ensure ((event.payload.get .symbol).present ∧ (event.payload.get .timeframe).present ∧
    ((event.payload.get .direction).present ∨ (event.payload.get .direction).refused))
    missingIdentity
  let row ← (JournalTrade.blank user event.accountId).applyCreateFields event.payload
  let row ← row.stampLineageColumns event.payload
  row.insert

/-! ## The journal -/

/-- A receipt and its lifecycle event. -/
structure Record where
  organizationId : OrganizationId
  event : Event
  contentHash : String
  hasTrade : Bool
  skippedReason : Option String

structure Store where
  trades : OrganizationId → CommandId → Option JournalTrade
  records : List Record

structure ProjectionResult where
  hasTrade : Bool
  createdJournalTrade : Bool
  replayed : Bool
  skippedReason : Option String
  deriving DecidableEq, Repr

def Event.SameIdentity (event other : Event) : Prop :=
  event.accountId = other.accountId ∧ event.sourceSystem = other.sourceSystem ∧
    event.sourceAggregate = other.sourceAggregate ∧ event.eventType = other.eventType ∧
    event.sourceEventId = other.sourceEventId ∧
    event.sourceEventVersion = other.sourceEventVersion ∧ event.supersession = other.supersession

instance (event other : Event) : Decidable (event.SameIdentity other) :=
  inferInstanceAs (Decidable (_ ∧ _))

/-- `_close_blocked`: a close or a reconciliation that is not resolved. -/
def Event.closeBlocked (event : Event) : Bool :=
  (event.eventType == .close || event.eventType == .reconcile) &&
    event.payload.reconciliationStatus.any (· ∈ ["RECONCILIATION_REQUIRED", "OPERATOR_HOLD"])

namespace Store

def empty : Store := ⟨fun _ _ => none, []⟩

/-- `_find_receipt` and `_find_lifecycle_event`. -/
def findRecord (j : Store) (organizationId : OrganizationId) (event : Event) : Option Record :=
  j.records.find? fun r => r.organizationId = organizationId ∧ r.event.SameIdentity event

/-- `_stored_lineage`. -/
def storedLineage (j : Store) (organizationId : OrganizationId) :
    Option CommandId → Except Error Lineage
  | none => .ok fun _ => none
  | some c =>
    (j.records.filter fun r =>
      r.organizationId = organizationId ∧ r.event.executionLifecycleId = some c).foldlM
      (fun merged r => do mergeLineageMaps merged (← extractLineageMap r.event.payload))
      fun _ => none

/-- `_assert_lineage`. -/
def assertLineage (j : Store) (organizationId : OrganizationId) (event : Event) :
    Except Error Unit := do
  let incoming ← extractLineageMap event.payload
  assertLineageMatchesEventScope event organizationId incoming
  if ∀ k ∈ LineageKey.all, incoming k = none then return
  let stored ← j.storedLineage organizationId event.executionLifecycleId
  ensure (stored.Agrees incoming) lineageConflict

/-- `_resolve_lifecycle_trade`: the row of the lifecycle, and whether it is new. -/
def resolveLifecycleTrade (j : Store) (organizationId : OrganizationId) (user : UserId)
    (c : CommandId) (event : Event) : Except Error (JournalTrade × Bool) :=
  match j.trades organizationId c with
  | some existing => do
    assertAccountScope existing event
    return (existing, false)
  | none => do return (← createTrade user event, true)

def putTrade (j : Store) (organizationId : OrganizationId) (c : CommandId)
    (trade : JournalTrade) : Store :=
  { j with
    trades := Function.update j.trades organizationId
      (Function.update (j.trades organizationId) c (some trade)) }

def record (j : Store) (organizationId : OrganizationId) (event : Event) (contentHash : String)
    (hasTrade created : Bool) (skippedReason : Option String) : Store × ProjectionResult :=
  ({ j with
      records := j.records ++ [⟨organizationId, event, contentHash, hasTrade, skippedReason⟩] },
    ⟨hasTrade, created, false, skippedReason⟩)

def missingProvenance : Error :=
  .validation "Journal projection requires source_system, source_aggregate, and source_event_id."
    "missing_provenance"

def applyToTrade (j : Store) (organizationId : OrganizationId) (user : UserId) (c : CommandId)
    (event : Event) : Except Error (Store × Bool) := do
  let (trade, created) ← j.resolveLifecycleTrade organizationId user c event
  assertAccountScope trade event
  let trade ← trade.applyEvent event
  let trade ← trade.flush
  return (j.putTrade organizationId c trade, created)

/-- `project`. The hash is that of the canonical serialization of the whole event. -/
def project (hash : OrganizationId → Event → String) (organizationId : OrganizationId)
    (user : UserId) (j : Store) (event : Event) : Except Error (Store × ProjectionResult) := do
  ensure (event.sourceSystem ≠ "" ∧ event.sourceAggregate ≠ "" ∧ event.sourceEventId ≠ "")
    missingProvenance
  let contentHash := hash organizationId event
  match j.findRecord organizationId event with
  | some stored => do
    ensure (stored.contentHash = contentHash)
      (Error.conflict "Journal source identity replayed with conflicting semantic content." none)
    return (j, ⟨stored.hasTrade, false, true, stored.skippedReason⟩)
  | none => do
    j.assertLineage organizationId event
    if event.eventType.nonCreating then
      return j.record organizationId event contentHash false false
        (some "non_creating_lifecycle_event")
    match event.executionLifecycleId with
    | none =>
      return j.record organizationId event contentHash false false
        (some "missing_execution_lifecycle")
    | some c =>
      if event.closeBlocked then
        return j.record organizationId event contentHash false false
          (some "unresolved_reconciliation")
      let (j, created) ← j.applyToTrade organizationId user c event
      return j.record organizationId event contentHash true created none

def projectAll (hash : OrganizationId → Event → String) (organizationId : OrganizationId)
    (user : UserId) (j : Store) (events : List Event) : Except Error Store :=
  events.foldlM (fun j event => (j.project hash organizationId user event).map Prod.fst) j

end Store

end AlphaTrade.Journal
