import AlphaTrade.Journal.Projector
import AlphaTrade.Library.Entering
import AlphaTrade.Library.SortedOn
import AlphaTrade.Market.PublicObservation

/-!
# The canonical evidence window

The builder puts the selected evidence of an assessment into a normal form, and the hash of the
window is the hash of its preimage. What pydantic has validated in an argument is a field of the
argument's record; what it validates in the window is checked here, and a check that fails is a
`validation` error with the message of the validator.

An identifier is the number that its 32 hexadecimal digits denote, so the order of the texts is
the order of the numbers. The hash of a preimage is a parameter.
-/
namespace AlphaTrade.Fusion
open Library Market
open Execution (OrganizationId Instant)
open Journal (TradeDirection)

abbrev StrategyVersionId := Nat
abbrev SetupDefinitionId := Nat
abbrev AssertionId := Nat
abbrev LevelId := Nat
abbrev CorrelationId := Nat

/-! ## Roles -/

inductive EvidenceRole where
  | triggerOhlcv | contextOhlcv | trigger | swing | cvd5m | orderFlow5m | cvdWindow | signedFlow
  | volume | structural | tradeEvent | orderBook | openInterest | funding | publicExternalSignal
  deriving DecidableEq, Repr

def EvidenceRole.value : EvidenceRole → String
  | .triggerOhlcv => "trigger_ohlcv"
  | .contextOhlcv => "context_ohlcv"
  | .trigger => "trigger"
  | .swing => "swing"
  | .cvd5m => "cvd_5m"
  | .orderFlow5m => "order_flow_5m"
  | .cvdWindow => "cvd_window"
  | .signedFlow => "signed_flow"
  | .volume => "volume"
  | .structural => "structure"
  | .tradeEvent => "trade_event"
  | .orderBook => "order_book"
  | .openInterest => "open_interest"
  | .funding => "funding"
  | .publicExternalSignal => "public_external_signal"

inductive TenantAssertionRole where
  | tradingviewAlert | manualLevel | userAssertion | proprietaryAlert | presentation
  deriving DecidableEq, Repr

def TenantAssertionRole.value : TenantAssertionRole → String
  | .tradingviewAlert => "tradingview_alert"
  | .manualLevel => "manual_level"
  | .userAssertion => "user_assertion"
  | .proprietaryAlert => "proprietary_alert"
  | .presentation => "presentation"

/-! ## Errors -/

/-- The errors of the window. `conflictingSemanticInput` is a subclass of
`evidenceWindowContract`; `validation` is pydantic's own error, a `ValueError` that is none of the
contract's. -/
inductive FusionError where
  | evidenceIdentityMismatch (message : String)
  | formingObservationNotExecutable (message : String)
  | evidenceWindowContract (message : String)
  | conflictingSemanticInput (message : String)
  | tenantAssertionSelection (message : String)
  | validation (message : String)
  | value (message : String)
  deriving DecidableEq, Repr

def FusionError.message : FusionError → String
  | .evidenceIdentityMismatch m | .formingObservationNotExecutable m | .evidenceWindowContract m
  | .conflictingSemanticInput m | .tenantAssertionSelection m | .validation m | .value m => m

/-! ## Evidence -/

@[ext] structure HalfOpenInterval where
  start : Instant
  stop : Instant
  ordered : start < stop
  deriving Repr

instance : DecidableEq HalfOpenInterval := fun _ _ =>
  decidable_of_iff _ HalfOpenInterval.ext_iff.symm

structure TriggerIdentity where
  naturalEventId : String
  revision : Nat
  deriving DecidableEq, Repr

structure ManualLevelRevisionRef where
  levelId : LevelId
  revisionNumber : Nat
  contentHash : Sha256Hex
  deriving DecidableEq, Repr

@[ext] structure TenantAssertionRef where
  assertionId : AssertionId
  contentHash : Sha256Hex
  deriving DecidableEq, Repr

structure SelectedTenantAssertion where
  role : TenantAssertionRole
  assertionId : AssertionId
  contentHash : Sha256Hex
  deriving DecidableEq, Repr

structure RoleTimeframeBinding where
  role : EvidenceRole
  timeframe : Timeframe
  deriving DecidableEq, Repr

/-- Only FINAL evidence can be selected. -/
structure SelectedPublicObservation where
  role : EvidenceRole
  contentHash : Sha256Hex
  finality : Finality
  venue : VenueId
  marketType : MarketType
  instrumentId : String
  timeframe : Option Timeframe
  observationId : Option PublicObservationId
  executableFinality : finality = .final
  deriving DecidableEq, Repr

structure SemanticSourceIdentity where
  venue : VenueId
  marketType : MarketType
  sourceFamily : SourceFamily
  deriving DecidableEq, Repr

structure PresentationEvidenceRef where
  label : String
  contentHash : Sha256Hex
  note : Option String
  deriving DecidableEq, Repr

/-- `timeframe_bindings_by_role`. -/
def timeframeBindingsByRole (bindings : List RoleTimeframeBinding) :
    Except FusionError (Table EvidenceRole Timeframe) :=
  bindings.foldlM
    (Table.enter (fun binding => some (binding.role, binding.timeframe)) id fun binding =>
      .evidenceIdentityMismatch
        ("Conflicting timeframe binding for role " ++ binding.role.value ++ "."))
    .empty

/-- What `require_observation_matches_evidence` reads of either kind of observation. -/
structure ObservedMarket where
  venue : VenueId
  marketType : MarketType
  instrumentId : String
  timeframe : Option Timeframe

def requireObservationMatchesEvidence (observation : ObservedMarket)
    (evidenceIdentity : EvidenceMarketIdentity) (role : EvidenceRole)
    (roleTimeframes : List RoleTimeframeBinding) : Except FusionError Unit := do
  ensure (observation.venue = evidenceIdentity.venue) (.evidenceIdentityMismatch
    ("wrong venue: selected " ++ observation.venue.value ++ ", evidence "
      ++ evidenceIdentity.venue.value ++ "."))
  ensure (observation.marketType = evidenceIdentity.marketType) (.evidenceIdentityMismatch
    ("wrong market: selected " ++ observation.marketType.value ++ ", evidence "
      ++ evidenceIdentity.marketType.value ++ "."))
  ensure (observation.instrumentId = evidenceIdentity.instrument.instrumentId)
    (.evidenceIdentityMismatch ("wrong instrument: selected " ++ observation.instrumentId
      ++ ", evidence " ++ evidenceIdentity.instrument.instrumentId ++ "."))
  let bindings ← timeframeBindingsByRole roleTimeframes
  match bindings.find role with
  | none => .ok ⟨⟩
  | some expected =>
    ensure (observation.timeframe = some expected) (.evidenceIdentityMismatch
      ("wrong timeframe for role " ++ role.value ++ ": selected "
        ++ observation.timeframe.elim "none" Timeframe.value ++ ", policy " ++ expected.value
        ++ "."))

def SelectedPublicObservation.market (item : SelectedPublicObservation) : ObservedMarket :=
  ⟨item.venue, item.marketType, item.instrumentId, item.timeframe⟩

/-! ## Normal forms -/

def uniqueSortedRoles (roles : List EvidenceRole) : List EvidenceRole :=
  sortedOn EvidenceRole.value roles.dedup

abbrev SelectedPublicObservation.key (item : SelectedPublicObservation) :
    EvidenceRole × Sha256Hex := (item.role, item.contentHash)

def sortedObservations (items : List SelectedPublicObservation) : List SelectedPublicObservation :=
  sortedOn (fun item => toLex (item.role.value, item.contentHash)) items

/-- The two dicts of `_canonical_observations`, and what one item does to them. -/
def collectObservation
    (seen : Table (EvidenceRole × Sha256Hex) SelectedPublicObservation ×
      Table (EvidenceRole × PublicObservationId) Sha256Hex)
    (item : SelectedPublicObservation) :
    Except FusionError (Table (EvidenceRole × Sha256Hex) SelectedPublicObservation ×
      Table (EvidenceRole × PublicObservationId) Sha256Hex) :=
  (seen.2.enter
    (fun item => item.observationId.map fun id => ((item.role, id), item.contentHash)) id
    (fun item => .conflictingSemanticInput
      ("Conflicting selected observation content for the same role " ++ item.role.value
        ++ " and observation_id."))
    item).map fun byObservationId => (seen.1.put item.key item, byObservationId)

def canonicalObservations (items : List SelectedPublicObservation) :
    Except FusionError (List SelectedPublicObservation) := do
  let (unique, _) ← items.foldlM collectObservation (.empty, .empty)
  return sortedObservations (unique.rows.map Prod.snd)

def sortedAssertions (items : List TenantAssertionRef) : List TenantAssertionRef :=
  sortedOn (fun item => toLex (item.assertionId, item.contentHash)) items

def canonicalAssertionRefs (items : List TenantAssertionRef) :
    Except FusionError (List TenantAssertionRef) := do
  let unique ← items.foldlM
    (Table.enter (fun item => some (item.assertionId, item)) TenantAssertionRef.contentHash
      fun _ => .conflictingSemanticInput
        "Conflicting tenant assertion content for the same assertion_id.")
    .empty
  return sortedAssertions (unique.rows.map Prod.snd)

abbrev SemanticSourceIdentity.key (item : SemanticSourceIdentity) : String ×ₗ String ×ₗ String :=
  toLex (item.venue.value, toLex (item.marketType.value, item.sourceFamily.value))

abbrev SemanticSourceIdentity.dictKey (item : SemanticSourceIdentity) :
    VenueId × MarketType × String := (item.venue, item.marketType, item.sourceFamily.value)

/-- The dict of `_canonical_sources`. -/
def uniqueSources (items : List SemanticSourceIdentity) :
    Table (VenueId × MarketType × String) SemanticSourceIdentity :=
  items.foldl (fun unique item => unique.put item.dictKey item) .empty

def canonicalSources (items : List SemanticSourceIdentity) : List SemanticSourceIdentity :=
  sortedOn SemanticSourceIdentity.key ((uniqueSources items).rows.map Prod.snd)

/-- Python's `dict.fromkeys`: the first occurrences, in order. -/
def fromkeys {α : Type} [DecidableEq α] : List α → List α
  | [] => []
  | a :: as => a :: (fromkeys as).filter (· ≠ a)

def selectIdentityFormingTenantAssertions (items : List SelectedTenantAssertion)
    (requiredRoles identityRoles : List TenantAssertionRole) :
    Except FusionError (List TenantAssertionRef) := do
  ensure (.presentation ∉ requiredRoles) (.tenantAssertionSelection
    "PRESENTATION assertions cannot be required for identity.")
  ensure (.presentation ∉ identityRoles) (.tenantAssertionSelection
    "PRESENTATION assertions cannot be identity-forming.")
  let allowed := fromkeys (if identityRoles = [] then requiredRoles else identityRoles)
  let kept := items.filter fun item => item.role ≠ .presentation ∧ item.role ∈ allowed
  let missing := (fromkeys requiredRoles).filter fun role => role ∉ kept.map (·.role)
  ensure (missing = []) (.tenantAssertionSelection
    ("Required tenant assertion roles missing: "
      ++ ", ".intercalate (missing.map TenantAssertionRole.value) ++ "."))
  canonicalAssertionRefs (kept.map fun item => ⟨item.assertionId, item.contentHash⟩)

/-! ## Windows -/

/-- The semantic fields of `CanonicalEvidenceWindowV1`. -/
structure WindowFields where
  schemaVersion : String
  hashAlgorithmVersion : String
  organizationId : OrganizationId
  strategyVersionId : StrategyVersionId
  compiledSetupDefinitionId : SetupDefinitionId
  compiledSetupContentHash : String
  fusionPolicyVersion : String
  finalityPolicyVersion : String
  freshnessPolicyVersion : String
  direction : TradeDirection
  evidenceVenue : VenueId
  evidenceMarket : MarketType
  evidenceInstrument : String
  timeframe : Timeframe
  interval : HalfOpenInterval
  trigger : TriggerIdentity
  mandatoryEvidenceRoles : List EvidenceRole
  selectedPublicObservations : List SelectedPublicObservation
  tenantAssertions : List TenantAssertionRef
  manualLevelRevision : Option ManualLevelRevisionRef
  sourceSet : List SemanticSourceIdentity
  correctionSelectionPolicy : String

def IsPolicyVersion (text : String) : Prop := 3 ≤ text.length ∧ text.length ≤ 120

instance (text : String) : Decidable (IsPolicyVersion text) :=
  inferInstanceAs (Decidable (_ ∧ _))

/-- The bounds of the text fields. -/
structure WindowFields.Bounded (fields : WindowFields) : Prop where
  compiledSetup : IsSha256Hex fields.compiledSetupContentHash
  fusionPolicy : IsPolicyVersion fields.fusionPolicyVersion
  finalityPolicy : IsPolicyVersion fields.finalityPolicyVersion
  freshnessPolicy : IsPolicyVersion fields.freshnessPolicyVersion
  instrument : 8 ≤ fields.evidenceInstrument.length ∧ fields.evidenceInstrument.length ≤ 80
  correctionPolicy : IsPolicyVersion fields.correctionSelectionPolicy

instance (fields : WindowFields) : Decidable fields.Bounded :=
  decidable_of_iff
    (IsSha256Hex fields.compiledSetupContentHash ∧ IsPolicyVersion fields.fusionPolicyVersion ∧
      IsPolicyVersion fields.finalityPolicyVersion ∧
      IsPolicyVersion fields.freshnessPolicyVersion ∧
      (8 ≤ fields.evidenceInstrument.length ∧ fields.evidenceInstrument.length ≤ 80) ∧
      IsPolicyVersion fields.correctionSelectionPolicy)
    ⟨fun ⟨a, b, c, d, e, f⟩ => ⟨a, b, c, d, e, f⟩, fun ⟨a, b, c, d, e, f⟩ => ⟨a, b, c, d, e, f⟩⟩

namespace WindowFields

variable (fields : WindowFields)

def requireEvidenceMarket (item : SelectedPublicObservation) : Except FusionError Unit := do
  ensure (item.venue = fields.evidenceVenue) (.evidenceIdentityMismatch
    ("wrong venue: selected " ++ item.venue.value ++ ", evidence "
      ++ fields.evidenceVenue.value ++ "."))
  ensure (item.marketType = fields.evidenceMarket) (.evidenceIdentityMismatch
    ("wrong market: selected " ++ item.marketType.value ++ ", evidence "
      ++ fields.evidenceMarket.value ++ "."))
  ensure (item.instrumentId = fields.evidenceInstrument) (.evidenceIdentityMismatch
    ("wrong instrument: selected " ++ item.instrumentId ++ ", evidence "
      ++ fields.evidenceInstrument ++ "."))

def missingRoles : List EvidenceRole :=
  fields.mandatoryEvidenceRoles.filter fun role =>
    role ∉ fields.selectedPublicObservations.map (·.role)

/-- `_roles_covered`. -/
def rolesCovered : Except FusionError Unit := do
  ensure fields.mandatoryEvidenceRoles.Nodup
    (.conflictingSemanticInput "Duplicate mandatory evidence roles.")
  ensure fields.sourceSet.Nodup (.conflictingSemanticInput "Duplicate source set members.")
  ensure (fields.tenantAssertions.map (·.assertionId)).Nodup
    (.conflictingSemanticInput "Duplicate tenant assertions.")
  ensure (fields.selectedPublicObservations.map (·.key)).Nodup
    (.conflictingSemanticInput "Duplicate selected public observations.")
  fields.selectedPublicObservations.forM fields.requireEvidenceMarket
  ensure (fields.missingRoles = []) (.evidenceWindowContract
    ("Mandatory evidence roles missing from selected observations: "
      ++ ", ".intercalate (fields.missingRoles.map EvidenceRole.value) ++ "."))

end WindowFields

/-- A window whose mandatory roles are occupied by evidence of its own market. -/
structure CanonicalEvidenceWindowV1 extends WindowFields where
  bounded : toWindowFields.Bounded
  covered : toWindowFields.rolesCovered = .ok ⟨⟩
  contentHash : String

def CanonicalEvidenceWindowV1.validate (fields : WindowFields) (contentHash : String) :
    Except FusionError CanonicalEvidenceWindowV1 :=
  if bounded : fields.Bounded then
    match covered : fields.rolesCovered with
    | .ok ⟨⟩ => .ok ⟨fields, bounded, covered, contentHash⟩
    | .error e => .error (.validation e.message)
  else .error (.validation "Field constraint violated.")

/-! ## Preimages -/

/-- The dict of `evidence_window_preimage`, a key a field. -/
structure EvidenceWindowPreimage where
  compiledSetupContentHash : String
  compiledSetupDefinitionId : SetupDefinitionId
  correctionSelectionPolicy : String
  direction : TradeDirection
  evidenceInstrument : String
  evidenceMarket : MarketType
  evidenceVenue : VenueId
  finalityPolicyVersion : String
  freshnessPolicyVersion : String
  fusionPolicyVersion : String
  hashAlgorithmVersion : String
  intervalEnd : Instant
  intervalStart : Instant
  manualLevelRevision : Option (String × LevelId × Nat)
  mandatoryEvidenceRoles : List String
  organizationId : OrganizationId
  schemaVersion : String
  selectedPublicObservationContentHashes : List (String × String)
  sourceSet : List (String × String × String)
  strategyVersionId : StrategyVersionId
  tenantAssertions : List (AssertionId × String)
  timeframe : Timeframe
  triggerNaturalEventId : String
  triggerRevision : Nat
  deriving DecidableEq, Repr

def evidenceWindowPreimage (window : WindowFields) : EvidenceWindowPreimage where
  compiledSetupContentHash := window.compiledSetupContentHash
  compiledSetupDefinitionId := window.compiledSetupDefinitionId
  correctionSelectionPolicy := window.correctionSelectionPolicy
  direction := window.direction
  evidenceInstrument := window.evidenceInstrument
  evidenceMarket := window.evidenceMarket
  evidenceVenue := window.evidenceVenue
  finalityPolicyVersion := window.finalityPolicyVersion
  freshnessPolicyVersion := window.freshnessPolicyVersion
  fusionPolicyVersion := window.fusionPolicyVersion
  hashAlgorithmVersion := window.hashAlgorithmVersion
  intervalEnd := window.interval.stop
  intervalStart := window.interval.start
  manualLevelRevision := window.manualLevelRevision.map fun manual =>
    (manual.contentHash.val, manual.levelId, manual.revisionNumber)
  mandatoryEvidenceRoles := window.mandatoryEvidenceRoles.map EvidenceRole.value
  organizationId := window.organizationId
  schemaVersion := window.schemaVersion
  selectedPublicObservationContentHashes := window.selectedPublicObservations.map fun item =>
    (item.contentHash.val, item.role.value)
  sourceSet := window.sourceSet.map fun item =>
    (item.marketType.value, item.sourceFamily.value, item.venue.value)
  strategyVersionId := window.strategyVersionId
  tenantAssertions := window.tenantAssertions.map fun item =>
    (item.assertionId, item.contentHash.val)
  timeframe := window.timeframe
  triggerNaturalEventId := window.trigger.naturalEventId
  triggerRevision := window.trigger.revision

/-! ## Builder -/

/-- The arguments that the builder deletes. -/
structure TransportInputs where
  receiveTime : Option Instant
  recordedAt : Option Instant
  scanId : Option CorrelationId
  actionId : Option CorrelationId
  correlationId : Option CorrelationId
  presentationEvidence : List PresentationEvidenceRef
  adapterKind : Option String
  deriving DecidableEq, Repr

/-- The keyword arguments of `build_canonical_evidence_window_v1`. -/
structure WindowInputs where
  organizationId : OrganizationId
  strategyVersionId : StrategyVersionId
  compiledSetupDefinitionId : SetupDefinitionId
  compiledSetupContentHash : String
  fusionPolicyVersion : String
  finalityPolicyVersion : String
  freshnessPolicyVersion : String
  direction : TradeDirection
  evidenceIdentity : EvidenceMarketIdentity
  interval : HalfOpenInterval
  trigger : TriggerIdentity
  mandatoryEvidenceRoles : List EvidenceRole
  selectedPublicObservations : List SelectedPublicObservation
  sourceSet : List SemanticSourceIdentity
  tenantAssertions : List SelectedTenantAssertion
  requiredAssertionRoles : List TenantAssertionRole
  identityAssertionRoles : List TenantAssertionRole
  roleTimeframes : List RoleTimeframeBinding
  manualLevelRevision : Option ManualLevelRevisionRef
  correctionSelectionPolicy : String
  transport : TransportInputs

def evidenceWindowSchemaVersion : String := "CanonicalEvidenceWindowV1"

def hashAlgorithmVersion : String := "canonical-json-sha256/v1"

/-- The fields of the draft, of which the collections are given in normal form. -/
def WindowInputs.draft (inputs : WindowInputs) (timeframe : Timeframe)
    (observations : List SelectedPublicObservation) (assertions : List TenantAssertionRef) :
    WindowFields where
  schemaVersion := evidenceWindowSchemaVersion
  hashAlgorithmVersion := hashAlgorithmVersion
  organizationId := inputs.organizationId
  strategyVersionId := inputs.strategyVersionId
  compiledSetupDefinitionId := inputs.compiledSetupDefinitionId
  compiledSetupContentHash := inputs.compiledSetupContentHash
  fusionPolicyVersion := inputs.fusionPolicyVersion
  finalityPolicyVersion := inputs.finalityPolicyVersion
  freshnessPolicyVersion := inputs.freshnessPolicyVersion
  direction := inputs.direction
  evidenceVenue := inputs.evidenceIdentity.venue
  evidenceMarket := inputs.evidenceIdentity.marketType
  evidenceInstrument := inputs.evidenceIdentity.instrument.instrumentId
  timeframe := timeframe
  interval := inputs.interval
  trigger := inputs.trigger
  mandatoryEvidenceRoles := uniqueSortedRoles inputs.mandatoryEvidenceRoles
  selectedPublicObservations := observations
  tenantAssertions := assertions
  manualLevelRevision := inputs.manualLevelRevision
  sourceSet := canonicalSources inputs.sourceSet
  correctionSelectionPolicy := inputs.correctionSelectionPolicy

section Builder

variable (canonicalSha256 : EvidenceWindowPreimage → String)

def hashCanonicalEvidenceWindow (window : WindowFields) : String :=
  canonicalSha256 (evidenceWindowPreimage window)

def buildCanonicalEvidenceWindowV1 (inputs : WindowInputs) :
    Except FusionError CanonicalEvidenceWindowV1 :=
  match inputs.evidenceIdentity.timeframe with
  | none => .error (.evidenceWindowContract "Evidence identity must carry a timeframe.")
  | some timeframe => do
    inputs.selectedPublicObservations.forM fun item =>
      requireObservationMatchesEvidence item.market inputs.evidenceIdentity item.role
        inputs.roleTimeframes
    let observations ← canonicalObservations inputs.selectedPublicObservations
    let assertions ← selectIdentityFormingTenantAssertions inputs.tenantAssertions
      inputs.requiredAssertionRoles inputs.identityAssertionRoles
    let draft ← CanonicalEvidenceWindowV1.validate
      (inputs.draft timeframe observations assertions) ("".pushn '0' 64)
    let digest := hashCanonicalEvidenceWindow canonicalSha256 draft.toWindowFields
    return { draft with contentHash := digest }

end Builder

end AlphaTrade.Fusion
