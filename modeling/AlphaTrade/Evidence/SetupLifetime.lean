import AlphaTrade.Library.PyClock
import AlphaTrade.Library.PyJson
import AlphaTrade.Library.Run
import AlphaTrade.Library.Table
import AlphaTrade.Market.Trades

/-!
# Setup-lifetime pins

The pin of a setup remembers the bar that triggered it. There are two stores: one in memory,
and one over the table `setup_lifetime_pins`, which also records the pins that it retires. A
pin is stored with its trigger end in UTC, which is an instant here.

A call on the table that raises is rolled back.
-/
namespace AlphaTrade.Evidence
open Library
open Execution (Instant)
open Market (TextHashing Timeframe)

/-- A UUID, by its text. -/
abbrev Uuid := String

/-- `timeframe.value`. -/
def timeframeValue : Timeframe → String
  | .m1 => "1m"
  | .m3 => "3m"
  | .m5 => "5m"
  | .m15 => "15m"
  | .m30 => "30m"
  | .h1 => "1h"
  | .h2 => "2h"
  | .h4 => "4h"
  | .h6 => "6h"
  | .h12 => "12h"
  | .d1 => "1d"
  | .d3 => "3d"
  | .w1 => "1w"

structure SetupLifetimeKey where
  organizationId : Uuid
  symbol : String
  timeframe : Timeframe
  strategyVersionId : Uuid
  compiledSetupDefinitionId : Uuid
  compiledContentHash : String
  deriving DecidableEq, Repr

/-- A trigger end is a reading as a caller gives it, or an instant once it is stored. -/
structure SetupTriggerPin (Time : Type) where
  triggerEnd : Time
  triggerBarHash : String
  expired : Bool
  requiredLineageHash : String
  deriving DecidableEq, Repr

/-- `str.upper` and the digests. -/
structure LineageRuntime extends TextHashing where
  upper : String → String
  sha256_length : ∀ text, (sha256 text).length = 64

/-- `utc_trigger_end`. A naive reading is taken as UTC. -/
def utcTriggerEnd (value : PyDateTime) : Except PyRaised Instant :=
  match value.utcOffset with
  | some _ => (value.astimezoneUtc).elim (.error .overflowError) .ok
  | none => .ok value.aware.instant

/-- `_Index`. -/
structure Index where
  organizationId : Uuid
  symbol : String
  timeframe : String
  strategyVersionId : Uuid
  compiledSetupDefinitionId : Uuid
  compiledContentHash : String
  deriving DecidableEq, Repr

section Binding

variable (runtime : LineageRuntime)

/-- `_index`. -/
def index (key : SetupLifetimeKey) : Index :=
  ⟨key.organizationId, runtime.upper key.symbol, timeframeValue key.timeframe,
    key.strategyVersionId, key.compiledSetupDefinitionId, key.compiledContentHash⟩

/-- `setup_lifetime_lineage_hash`. -/
def setupLifetimeLineageHash (key : SetupLifetimeKey) (triggerEnd : Instant)
    (triggerBarHash : String) : String :=
  runtime.sha256 (canonicalJson runtime.nfc (.dict
    [("organization_id", .str key.organizationId),
     ("symbol", .str (runtime.upper key.symbol)),
     ("timeframe", .str (timeframeValue key.timeframe)),
     ("strategy_version_id", .str key.strategyVersionId),
     ("compiled_setup_definition_id", .str key.compiledSetupDefinitionId),
     ("compiled_content_hash", .str key.compiledContentHash),
     ("trigger_end", .str (PyDateTime.ofInstant triggerEnd).isoformat),
     ("trigger_bar_hash", .str triggerBarHash)]))

/-- `bind_setup_trigger_pin`. -/
def bindSetupTriggerPin (key : SetupLifetimeKey) (pin : SetupTriggerPin PyDateTime) :
    Except PyRaised (SetupTriggerPin Instant) := do
  let triggerEnd ← utcTriggerEnd pin.triggerEnd
  let lineage :=
    if pin.requiredLineageHash ≠ "" then pin.requiredLineageHash
    else setupLifetimeLineageHash runtime key triggerEnd pin.triggerBarHash
  return ⟨triggerEnd, pin.triggerBarHash, pin.expired, lineage⟩

end Binding

/-- `converge_setup_trigger_pin`. -/
def convergeSetupTriggerPin (current : Option (SetupTriggerPin Instant))
    (incoming : SetupTriggerPin Instant) : SetupTriggerPin Instant :=
  match current with
  | none => incoming
  | some current =>
    let sameTrigger := current.triggerEnd = incoming.triggerEnd ∧
      current.triggerBarHash = incoming.triggerBarHash
    if current.expired ∧ sameTrigger then current
    else if current.expired ∧ incoming.triggerEnd ≤ current.triggerEnd then current
    else if !current.expired ∧ ¬sameTrigger ∧ incoming.triggerEnd ≠ current.triggerEnd then current
    else if current.expired ∧ incoming.triggerEnd > current.triggerEnd then incoming
    else
      { triggerEnd := incoming.triggerEnd
        triggerBarHash := incoming.triggerBarHash
        expired := current.expired || incoming.expired
        requiredLineageHash :=
          if incoming.requiredLineageHash ≠ "" then incoming.requiredLineageHash
          else current.requiredLineageHash }

/-- `active_trigger_end`, from the pin that `get` returns. -/
def activeTriggerEnd (pin : Option (SetupTriggerPin Instant)) : Option Instant :=
  match pin with
  | none => none
  | some pin => if pin.expired then none else some pin.triggerEnd

/-! ## The store in memory -/

/-- `SetupLifetimeStore`. -/
structure SetupLifetimeStore where
  pins : Table Index (SetupTriggerPin Instant)

namespace SetupLifetimeStore

def new : SetupLifetimeStore := ⟨.empty⟩

variable (runtime : LineageRuntime) (store : SetupLifetimeStore)

def get (key : SetupLifetimeKey) : Option (SetupTriggerPin Instant) :=
  store.pins.find (index runtime key)

def remember (key : SetupLifetimeKey) (pin : SetupTriggerPin PyDateTime) :
    Except PyRaised SetupLifetimeStore := do
  let stored ← bindSetupTriggerPin runtime key pin
  let current := store.pins.find (index runtime key)
  return ⟨store.pins.put (index runtime key) (convergeSetupTriggerPin current stored)⟩

def expire (key : SetupLifetimeKey) : SetupLifetimeStore :=
  match store.pins.find (index runtime key) with
  | none => store
  | some current => ⟨store.pins.put (index runtime key) { current with expired := true }⟩

end SetupLifetimeStore

/-! ## The store over the table -/

/-- A row of `setup_lifetime_pins`, under the columns of its unique constraint. -/
structure SetupLifetimePin where
  id : Nat
  triggerEnd : Instant
  triggerBarHash : String
  expired : Bool
  requiredLineageHash : String
  deriving DecidableEq, Repr

/-- `redacted_metadata` of the record of a retired pin. -/
structure RetiredPin where
  symbol : String
  timeframe : String
  strategyVersionId : Uuid
  compiledSetupDefinitionId : Uuid
  compiledContentHash : String
  triggerEnd : String
  triggerBarHash : String
  requiredLineageHash : String
  deriving DecidableEq, Repr

/-- An `AuditLog` row with the resource type of a setup-lifetime pin. -/
structure AuditLog where
  organizationId : Uuid
  resourceId : Nat
  payloadHash : String
  redactedMetadata : RetiredPin
  deriving DecidableEq, Repr

/-- `SqlAlchemySetupLifetimeStore` with the rows it works on. -/
structure SqlSetupLifetimeStore where
  organizations : List Uuid
  pins : Table Index SetupLifetimePin
  audits : List AuditLog
  nextId : Nat

inductive StoreRaised where
  | python (raised : PyRaised)
  | integrity
  deriving DecidableEq, Repr

def SetupLifetimePin.pin (row : SetupLifetimePin) : SetupTriggerPin Instant :=
  ⟨row.triggerEnd, row.triggerBarHash, row.expired, row.requiredLineageHash⟩

def Constraints (organizations : List Uuid) (key : Index) (pin : SetupTriggerPin Instant) : Prop :=
  key.organizationId ∈ organizations ∧ key.symbol.length ≤ 32 ∧
    key.compiledContentHash.length = 64 ∧ pin.triggerBarHash.length = 64 ∧
    pin.requiredLineageHash.length = 64

instance (organizations : List Uuid) (key : Index) (pin : SetupTriggerPin Instant) :
    Decidable (Constraints organizations key pin) :=
  inferInstanceAs (Decidable (_ ∧ _))

namespace SqlSetupLifetimeStore

def new (organizations : List Uuid) : SqlSetupLifetimeStore := ⟨organizations, .empty, [], 0⟩

variable (runtime : LineageRuntime) (store : SqlSetupLifetimeStore)

/-- `_record_expiry`. -/
def recordExpiry (key : Index) (row : SetupLifetimePin) : SqlSetupLifetimeStore :=
  if store.audits.any fun audit =>
      audit.resourceId = row.id ∧ audit.payloadHash = row.requiredLineageHash then store
  else
    { store with audits := store.audits ++
      [{ organizationId := key.organizationId
         resourceId := row.id
         payloadHash := row.requiredLineageHash
         redactedMetadata :=
           { symbol := key.symbol
             timeframe := key.timeframe
             strategyVersionId := key.strategyVersionId
             compiledSetupDefinitionId := key.compiledSetupDefinitionId
             compiledContentHash := key.compiledContentHash
             triggerEnd := (PyDateTime.ofInstant row.triggerEnd).isoformat
             triggerBarHash := row.triggerBarHash
             requiredLineageHash := row.requiredLineageHash } }] }

def get (key : SetupLifetimeKey) : Option (SetupTriggerPin Instant) :=
  (store.pins.find (index runtime key)).map SetupLifetimePin.pin

def flush (key : Index) (id : Nat) (pin : SetupTriggerPin Instant) :
    Except StoreRaised SqlSetupLifetimeStore :=
  let row : SetupLifetimePin :=
    ⟨id, pin.triggerEnd, pin.triggerBarHash, pin.expired, pin.requiredLineageHash⟩
  if Constraints store.organizations key pin then
    .ok { store with pins := store.pins.put key row }
  else .error .integrity

/-- `_apply_merge`. -/
def applyMerge (key : Index) (row : SetupLifetimePin) (incoming : SetupTriggerPin Instant) :
    Except StoreRaised SqlSetupLifetimeStore :=
  let merged := convergeSetupTriggerPin (some row.pin) incoming
  if merged = row.pin then .ok store
  else
    let recorded :=
      if row.expired ∧ merged.triggerEnd > row.triggerEnd then store.recordExpiry key row
      else store
    recorded.flush key row.id merged

/-- Where the insert fails there is still no row, and the error is raised again. -/
def remember (key : SetupLifetimeKey) (pin : SetupTriggerPin PyDateTime) :
    Except StoreRaised SqlSetupLifetimeStore :=
  match bindSetupTriggerPin runtime key pin with
  | .error raised => .error (.python raised)
  | .ok incoming =>
    match store.pins.find (index runtime key) with
    | some row => store.applyMerge (index runtime key) row incoming
    | none =>
      { store with nextId := store.nextId + 1 }.flush (index runtime key) store.nextId incoming

def expire (key : SetupLifetimeKey) : Except StoreRaised SqlSetupLifetimeStore :=
  match store.pins.find (index runtime key) with
  | none => .ok store
  | some row =>
    if row.expired then .ok store
    else
      (store.recordExpiry (index runtime key) row).flush (index runtime key) row.id
        { row.pin with expired := true }

end SqlSetupLifetimeStore

/-! ## Runs -/

inductive LifetimeCall where
  | remember (key : SetupLifetimeKey) (pin : SetupTriggerPin PyDateTime)
  | expire (key : SetupLifetimeKey)
  deriving DecidableEq, Repr

section Runs

variable (runtime : LineageRuntime)

def SetupLifetimeStore.call (store : SetupLifetimeStore) : LifetimeCall → SetupLifetimeStore
  | .remember key pin =>
    match store.remember runtime key pin with
    | .ok after => after
    | .error _ => store
  | .expire key => store.expire runtime key

def SqlSetupLifetimeStore.call (store : SqlSetupLifetimeStore) (call : LifetimeCall) :
    SqlSetupLifetimeStore :=
  let done := match call with
    | .remember key pin => store.remember runtime key pin
    | .expire key => store.expire runtime key
  match done with
  | .ok after => after
  | .error _ => store

def SetupLifetimeStore.after (calls : List LifetimeCall) : SetupLifetimeStore :=
  run (SetupLifetimeStore.call runtime) .new calls

def SqlSetupLifetimeStore.after (organizations : List Uuid) (calls : List LifetimeCall) :
    SqlSetupLifetimeStore :=
  run (SqlSetupLifetimeStore.call runtime) (.new organizations) calls

end Runs

end AlphaTrade.Evidence
