import AlphaTrade.Fusion.EvidenceWindow

/-!
# Assessment commands

A command is what every evidence adapter produces, and its window is built from it. A refusal of
pydantic's, also of a check of this code that runs inside a validator, is a `validation` error.
-/
namespace AlphaTrade.Fusion
open Library Market
open Execution (OrganizationId)
open Journal (TradeDirection)

/-- Only a compiled definition can be referred to. -/
structure ExecutableSetupRef where
  setupDefinitionId : SetupDefinitionId
  contentHash : Sha256Hex
  deriving DecidableEq

/-- The fields of an assertion that a command's window reads. -/
structure TenantExternalAssertion where
  assertionId : AssertionId
  contentHash : Sha256Hex
  deriving DecidableEq

inductive EvidenceAdapterKind where
  | watcher | detector | tradingview
  deriving DecidableEq, Repr

def EvidenceAdapterKind.value : EvidenceAdapterKind → String
  | .watcher => "watcher"
  | .detector => "detector"
  | .tradingview => "tradingview"

structure AssessmentCommand where
  organizationId : OrganizationId
  strategyVersionId : StrategyVersionId
  executableSetup : ExecutableSetupRef
  fusionPolicyVersion : String
  finalityPolicyVersion : String
  freshnessPolicyVersion : String
  direction : TradeDirection
  evidenceIdentity : EvidenceMarketIdentity
  interval : HalfOpenInterval
  trigger : TriggerIdentity
  mandatoryEvidenceRoles : List EvidenceRole
  publicObservations : List PublicMarketObservation
  selectedRoles : List EvidenceRole
  tenantAssertions : List TenantExternalAssertion
  assertionRoles : List TenantAssertionRole
  requiredAssertionRoles : List TenantAssertionRole
  identityAssertionRoles : List TenantAssertionRole
  roleTimeframes : List RoleTimeframeBinding
  manualLevelRevision : Option ManualLevelRevisionRef
  sourceSet : List SemanticSourceIdentity
  correctionSelectionPolicy : String
  adapterKind : EvidenceAdapterKind
  scanId : Option CorrelationId
  actionId : Option CorrelationId
  correlationId : Option CorrelationId
  presentationEvidence : List PresentationEvidenceRef

def observedMarket (observation : PublicMarketObservation) : ObservedMarket :=
  ⟨observation.identity.venue, observation.identity.marketType,
    observation.identity.instrument.instrumentId, observation.identity.timeframe⟩

/-- The refusal of another finality is raised inside the validator of the record. -/
def selectedObservationFromPublic (observation : PublicMarketObservation) (role : EvidenceRole) :
    Except FusionError SelectedPublicObservation :=
  if executable : observation.finality = .final then
    .ok {
      role := role
      contentHash := observation.contentHash
      finality := observation.finality
      venue := observation.identity.venue
      marketType := observation.identity.marketType
      instrumentId := observation.identity.instrument.instrumentId
      timeframe := observation.identity.timeframe
      observationId := some observation.observationId
      executableFinality := executable }
  else .error (.validation ("Role " ++ role.value ++ " cannot select a "
    ++ observation.finality.value ++ " observation."))

namespace AssessmentCommand

variable (command : AssessmentCommand)

def occupants : List (PublicMarketObservation × EvidenceRole) :=
  command.publicObservations.zip command.selectedRoles

def selectObservation (occupant : PublicMarketObservation × EvidenceRole) :
    Except FusionError SelectedPublicObservation := do
  requireObservationMatchesEvidence (observedMarket occupant.1) command.evidenceIdentity occupant.2
    command.roleTimeframes
  selectedObservationFromPublic occupant.1 occupant.2

def selectedObservations : Except FusionError (List SelectedPublicObservation) := do
  ensure (command.publicObservations.length = command.selectedRoles.length)
    (.value "Each public observation must be paired with exactly one selected role.")
  command.occupants.mapM command.selectObservation

def selectedTenantAssertions : Except FusionError (List SelectedTenantAssertion) := do
  if command.assertionRoles = [] then return []
  ensure (command.tenantAssertions.length = command.assertionRoles.length)
    (.tenantAssertionSelection
      "Each tenant assertion must be paired with exactly one assertion role.")
  return (command.tenantAssertions.zip command.assertionRoles).map fun (item, role) =>
    ⟨role, item.assertionId, item.contentHash⟩

def windowInputs (observations : List SelectedPublicObservation)
    (assertions : List SelectedTenantAssertion) : WindowInputs where
  organizationId := command.organizationId
  strategyVersionId := command.strategyVersionId
  compiledSetupDefinitionId := command.executableSetup.setupDefinitionId
  compiledSetupContentHash := command.executableSetup.contentHash
  fusionPolicyVersion := command.fusionPolicyVersion
  finalityPolicyVersion := command.finalityPolicyVersion
  freshnessPolicyVersion := command.freshnessPolicyVersion
  direction := command.direction
  evidenceIdentity := command.evidenceIdentity
  interval := command.interval
  trigger := command.trigger
  mandatoryEvidenceRoles := command.mandatoryEvidenceRoles
  selectedPublicObservations := observations
  sourceSet := command.sourceSet
  tenantAssertions := assertions
  requiredAssertionRoles := command.requiredAssertionRoles
  identityAssertionRoles := command.identityAssertionRoles
  roleTimeframes := command.roleTimeframes
  manualLevelRevision := command.manualLevelRevision
  correctionSelectionPolicy := command.correctionSelectionPolicy
  transport := {
    receiveTime := none
    recordedAt := none
    scanId := command.scanId
    actionId := command.actionId
    correlationId := command.correlationId
    presentationEvidence := command.presentationEvidence
    adapterKind := some command.adapterKind.value }

end AssessmentCommand

def evidenceWindowFromAssessmentCommand (canonicalSha256 : EvidenceWindowPreimage → String)
    (command : AssessmentCommand) : Except FusionError CanonicalEvidenceWindowV1 := do
  let observations ← command.selectedObservations
  let assertions ← command.selectedTenantAssertions
  buildCanonicalEvidenceWindowV1 canonicalSha256 (command.windowInputs observations assertions)

end AlphaTrade.Fusion
