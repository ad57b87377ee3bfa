import Mathlib.Data.Rat.Defs
import AlphaTrade.Library.Table
import AlphaTrade.SignalFusion.Candidate

/-!
# Action eligibility

May this account act on this candidate now? `evaluate` checks the lineage of its inputs,
digests them and asks the store. An input that was evaluated before gets the stored
answer. A new one is refused when one of the identities it names was bound to other facts,
and is otherwise decided, stored and bound.

Decimals are exact rationals, and the digests are parameters. `attributes` stands for the
fields of a record that only its digest reads.
-/
namespace AlphaTrade.SignalFusion
open Library
open Execution (OrganizationId AccountId UserId Instant)
open Journal (TradeDirection)

/-! ## Contracts -/

inductive SetupAssessmentState where
  | noSetup | watch | partialMatch | confirmedSetup | invalidated | expired
  deriving DecidableEq, Repr

inductive ActionEligibilityState where
  | eligible | blocked | expired
  deriving DecidableEq, Repr

inductive EligibilityReasonCode where
  | eligible | blockedKillSwitch | blockedDailyLoss | blockedWeeklyLoss | blockedCooldown
  | blockedExposure | blockedPortfolioConflict | blockedAccountState | blockedVenueState
  | blockedDataQuality | blockedBasis | blockedCandidateTtl | blockedCandidateState
  | blockedConfiguration | blockedSetupNotConfirmed | expired
  deriving DecidableEq, Repr

inductive ExecutionMode where
  | paper | readOnly | trade
  deriving DecidableEq, Repr

inductive ExchangeMode where
  | paperInternal | paperExchangeDemo | tradeLive
  deriving DecidableEq, Repr

structure SetupAssessment where
  assessmentId : Nat
  organizationId : OrganizationId
  strategyVersionId : Nat
  executableSetup : ExecutableSetupRef
  fusionPolicyVersion : String
  state : SetupAssessmentState
  evidenceWindowHash : Sha256Hex
  validUntil : Instant
  attributes : String
  contentHash : Sha256Hex
  deriving DecidableEq, Repr

structure CanonicalEvidenceWindow where
  organizationId : OrganizationId
  strategyVersionId : Nat
  compiledSetupDefinitionId : Nat
  compiledSetupContentHash : Sha256Hex
  fusionPolicyVersion : String
  direction : TradeDirection
  evidenceVenue : VenueId
  evidenceMarket : MarketType
  evidenceInstrument : String
  timeframe : Timeframe
  attributes : String
  contentHash : Sha256Hex
  deriving DecidableEq, Repr

structure AccountIdentity where
  organizationId : OrganizationId
  userId : UserId
  accountId : AccountId
  accountActive : Bool
  deriving DecidableEq, Repr

structure PortfolioState where
  organizationId : OrganizationId
  accountId : AccountId
  accountEquity : ℚ
  openExposureNotional : ℚ
  deriving DecidableEq, Repr

structure RiskStateSnapshot where
  riskSnapshotId : Nat
  organizationId : OrganizationId
  userId : UserId
  accountId : AccountId
  dailyLocked : Bool
  dailyLossLimit : Option ℚ
  realizedPnlToday : ℚ
  weeklyLossPct : Option ℚ
  cooldownActive : Bool
  portfolioConflict : Bool
  tradesToday : Nat
  deriving DecidableEq, Repr

/-- Kill-switch and safety-epoch facts. -/
structure SafetyStateSnapshot where
  organizationId : OrganizationId
  accountId : AccountId
  safetyEpoch : Nat
  killSwitchActive : Bool
  globalKillSwitchActive : Bool
  killSwitchUnavailable : Bool
  deriving DecidableEq, Repr

structure MarketActionEvidence where
  venueStateId : Nat
  evidenceVenue : VenueId
  executionVenue : VenueId
  evidencePrice : ℚ
  executionPrice : Option ℚ
  basisBps : Option ℚ
  requiredActionEvidenceFresh : Bool
  actionEvidenceValidUntil : Instant
  basisFresh : Bool
  symbol : String
  deriving DecidableEq, Repr

structure PaperExecutionConfiguration where
  executionMode : ExecutionMode
  enableRealTrading : Bool
  exchangeMode : ExchangeMode
  configurationVersion : String
  deriving DecidableEq, Repr

def PaperExecutionConfiguration.isPaperOnly (configuration : PaperExecutionConfiguration) : Bool :=
  configuration.executionMode = .paper && !configuration.enableRealTrading &&
    configuration.exchangeMode ∈ [ExchangeMode.paperInternal, .paperExchangeDemo]

structure ActionEligibilityCommand where
  candidate : Candidate
  assessment : SetupAssessment
  evidenceWindow : CanonicalEvidenceWindow
  account : AccountIdentity
  portfolio : PortfolioState
  risk : RiskStateSnapshot
  safety : SafetyStateSnapshot
  marketAction : MarketActionEvidence
  configuration : PaperExecutionConfiguration
  correlationId : Nat
  deriving DecidableEq

/-- The document of `uniqueness_preimage`. -/
structure UniquenessPreimage where
  account : AccountIdentity
  assessmentContentHash : Sha256Hex
  assessmentId : Nat
  candidateContentHash : Sha256Hex
  candidateId : CandidateId
  candidateRevision : Nat
  configuration : PaperExecutionConfiguration
  evidenceWindowHash : Sha256Hex
  marketAction : MarketActionEvidence
  portfolio : PortfolioState
  risk : RiskStateSnapshot
  safety : SafetyStateSnapshot
  deriving DecidableEq, Repr

/-- Semantic identity of an evaluation. Clocks and correlation are not part of it. -/
def uniquenessPreimage (command : ActionEligibilityCommand) : UniquenessPreimage where
  account := command.account
  assessmentContentHash := command.assessment.contentHash
  assessmentId := command.assessment.assessmentId
  candidateContentHash := command.candidate.contentHash
  candidateId := command.candidate.candidateId
  candidateRevision := command.candidate.transitionVersion
  configuration := command.configuration
  evidenceWindowHash := command.evidenceWindow.contentHash
  marketAction := command.marketAction
  portfolio := command.portfolio
  risk := command.risk
  safety := command.safety

/-- The account permission. It never ends before it starts. -/
structure ActionEligibility where
  eligibilityId : Nat
  organizationId : OrganizationId
  userId : UserId
  accountId : AccountId
  candidateId : CandidateId
  candidateRevision : Nat
  assessmentId : Nat
  riskSnapshotId : Nat
  venueStateId : Nat
  state : ActionEligibilityState
  reasonCodes : List EligibilityReasonCode
  checkedAt : Instant
  validUntil : Instant
  correlationId : Nat
  validityOrder : checkedAt < validUntil
  deriving DecidableEq

/-- The stored envelope. Only an eligible one is actionable. -/
structure ActionEligibilityEvaluation where
  eligibility : ActionEligibility
  evaluationRevision : Nat
  evidenceWindowHash : Sha256Hex
  candidateContentHash : Sha256Hex
  setupAssessmentContentHash : Sha256Hex
  safetyEpoch : Nat
  configurationVersion : String
  uniquenessHash : Sha256Hex
  paperActionable : Bool
  paperOnlyAction : paperActionable = true → eligibility.state = .eligible
  deriving DecidableEq

/-- What an evaluation raises. -/
inductive EligibilityFailure where
  | lineage (message : String)
  | conflicting (message : String)
  deriving DecidableEq, Repr

/-- The digests of the contracts, and the identifier that is derived from a digest. A content
hash is taken of the record with a zero hash. -/
structure EligibilityDigests where
  windowHash : CanonicalEvidenceWindow → Sha256Hex
  assessmentHash : SetupAssessment → Sha256Hex
  candidateHash : CandidatePayload → Sha256Hex
  riskFingerprint : RiskStateSnapshot → Sha256Hex
  venueFingerprint : MarketActionEvidence → Sha256Hex
  safetyFingerprint : SafetyStateSnapshot → Sha256Hex
  organizationFingerprint : OrganizationId → Sha256Hex
  uniquenessSha : UniquenessPreimage → Sha256Hex
  deterministicEligibilityId : Sha256Hex → Nat

def EligibilityDigests.uniquenessHash (digests : EligibilityDigests)
    (command : ActionEligibilityCommand) : Sha256Hex :=
  digests.uniquenessSha (uniquenessPreimage command)

/-! ## Lineage -/

def EligibilityDigests.validateLineage (digests : EligibilityDigests)
    (command : ActionEligibilityCommand) : Except EligibilityFailure Unit := do
  let window := command.evidenceWindow
  let assessment := command.assessment
  let candidate := command.candidate
  ensure (digests.windowHash { window with contentHash := 0 } = window.contentHash)
    (.lineage "CanonicalEvidenceWindowV1 content hash is not the §26 preimage digest.")
  ensure (assessment.contentHash = digests.assessmentHash { assessment with contentHash := 0 })
    (.lineage "SetupAssessment content hash is not the canonical semantic digest.")
  ensure (candidate.contentHash =
      digests.candidateHash { candidate.toCandidatePayload with contentHash := 0 })
    (.lineage "Candidate content hash is not the canonical semantic digest.")
  ensure (candidate.assessmentId = assessment.assessmentId)
    (.lineage "Candidate assessment_id must match the supplied SetupAssessment.")
  ensure (candidate.evidenceWindowHash = window.contentHash)
    (.lineage "Candidate evidence_window_hash must match CanonicalEvidenceWindowV1.")
  ensure (assessment.evidenceWindowHash = window.contentHash)
    (.lineage "SetupAssessment evidence_window_hash must match CanonicalEvidenceWindowV1.")
  ensure (candidate.organizationId = assessment.organizationId)
    (.lineage "Candidate organization_id must match SetupAssessment.")
  ensure (candidate.organizationId = window.organizationId)
    (.lineage "Candidate organization_id must match CanonicalEvidenceWindowV1.")
  ensure (candidate.strategyVersionId = assessment.strategyVersionId)
    (.lineage "Candidate strategy_version_id must match SetupAssessment.")
  ensure (candidate.strategyVersionId = window.strategyVersionId)
    (.lineage "Candidate strategy_version_id must match CanonicalEvidenceWindowV1.")
  ensure (candidate.executableSetup = assessment.executableSetup)
    (.lineage "Candidate executable setup must match SetupAssessment exactly.")
  ensure (candidate.executableSetup.setupDefinitionId = window.compiledSetupDefinitionId)
    (.lineage "Candidate setup_definition_id must match CanonicalEvidenceWindowV1.")
  ensure (candidate.executableSetup.contentHash = window.compiledSetupContentHash)
    (.lineage "CompiledSetupDefinition hash must match CanonicalEvidenceWindowV1.")
  ensure (candidate.fusionPolicyVersion = assessment.fusionPolicyVersion)
    (.lineage "Candidate fusion_policy_version must match SetupAssessment.")
  ensure (candidate.fusionPolicyVersion = window.fusionPolicyVersion)
    (.lineage "Candidate fusion_policy_version must match CanonicalEvidenceWindowV1.")
  ensure (assessment.fusionPolicyVersion = window.fusionPolicyVersion)
    (.lineage "SetupAssessment fusion_policy_version must match CanonicalEvidenceWindowV1.")
  ensure (candidate.direction = window.direction)
    (.lineage "Candidate direction must match CanonicalEvidenceWindowV1.")
  ensure (candidate.evidenceVenue = window.evidenceVenue)
    (.lineage "Candidate evidence_venue must match CanonicalEvidenceWindowV1.")
  ensure (candidate.evidenceMarket = window.evidenceMarket)
    (.lineage "Candidate evidence_market must match CanonicalEvidenceWindowV1.")
  ensure (candidate.evidenceInstrument = window.evidenceInstrument)
    (.lineage "Candidate evidence_instrument must match CanonicalEvidenceWindowV1.")
  ensure (candidate.timeframe = window.timeframe)
    (.lineage "Candidate timeframe must match CanonicalEvidenceWindowV1.")

/-! ## The decision -/

/-- The thresholds of `RiskLimits` that an evaluation reads. -/
structure RiskLimits where
  maxPositionPctOfEquity : ℚ
  maxDailyLossPct : ℚ
  maxWeeklyLossPct : ℚ

def RiskLimits.default : RiskLimits := ⟨5, 3, 8⟩

/-- `FIRST_SLICE_CROSS_VENUE_BASIS_THRESHOLD_BPS`. -/
def firstSliceCrossVenueBasisThresholdBps : ℚ := 20

/-- `_ELIGIBILITY_FALLBACK_TTL`, one second. -/
def eligibilityFallbackTtl : Instant := 1000000

/-- `_kill_switch_blocks`. The risk rule reads the two flags once more. -/
def killSwitchBlocks (command : ActionEligibilityCommand) : Bool :=
  let safety := command.safety
  safety.killSwitchUnavailable || safety.killSwitchActive || safety.globalKillSwitchActive

def actingScopeMismatch (command : ActionEligibilityCommand) : Bool :=
  let account := command.account
  account.organizationId ≠ command.candidate.organizationId ||
    command.risk.userId ≠ account.userId ||
    [command.portfolio.accountId, command.risk.accountId, command.safety.accountId].any
      (· ≠ account.accountId) ||
    [command.portfolio.organizationId, command.risk.organizationId,
      command.safety.organizationId].any (· ≠ account.organizationId)

def actionEvidenceStale (command : ActionEligibilityCommand) (now : Instant) : Bool :=
  let market := command.marketAction
  !market.requiredActionEvidenceFresh || market.actionEvidenceValidUntil ≤ now ||
    !market.basisFresh

/-- `_resolved_basis_bps`. -/
def resolvedBasisBps (market : MarketActionEvidence) : Except EligibilityFailure (Option ℚ) :=
  let computed := market.executionPrice.map fun price =>
    |price - market.evidencePrice| / market.evidencePrice * 10000
  let stated := market.basisBps.map fun bps => |bps|
  match stated, computed with
  | some stated, some computed =>
    if stated ≠ computed then
      .error (.conflicting "basis_bps conflicts with evidence and execution prices.")
    else .ok (some stated)
  | some stated, none => .ok (some stated)
  | none, some computed => .ok (some computed)
  | none, none => .ok (if market.evidenceVenue ≠ market.executionVenue then none else some 0)

def basisReason (command : ActionEligibilityCommand) :
    Except EligibilityFailure (Option EligibilityReasonCode) :=
  (resolvedBasisBps command.marketAction).map fun
    | none => some .blockedVenueState
    | some bps =>
      if firstSliceCrossVenueBasisThresholdBps < bps then some .blockedBasis else none

/-- `check_daily_loss_lock`. -/
def checkDailyLossLock (limits : RiskLimits) (command : ActionEligibilityCommand) : Bool :=
  let risk := command.risk
  let equity := command.portfolio.accountEquity
  risk.dailyLocked || risk.dailyLossLimit.any (risk.realizedPnlToday ≤ -·) ||
    (risk.realizedPnlToday < 0 && 0 < equity &&
      limits.maxDailyLossPct ≤ |risk.realizedPnlToday| / equity * 100)

def riskReason (limits : RiskLimits) (command : ActionEligibilityCommand) :
    Option EligibilityReasonCode :=
  if checkDailyLossLock limits command then some .blockedDailyLoss
  else if command.risk.weeklyLossPct.any (limits.maxWeeklyLossPct ≤ ·) then
    some .blockedWeeklyLoss
  else if command.risk.cooldownActive then some .blockedCooldown
  else if command.risk.portfolioConflict then some .blockedPortfolioConflict
  else if command.portfolio.accountEquity * (limits.maxPositionPctOfEquity / 100) ≤
      command.portfolio.openExposureNotional then some .blockedExposure
  else none

/-- `_NON_CONFIRMED_SETUP`. -/
def nonConfirmedSetup : List SetupAssessmentState :=
  [.noSetup, .watch, .partialMatch, .invalidated, .expired]

/-- The first reason in the order of dominance; the kill switch comes before all others. -/
def dominantReason (limits : RiskLimits) (command : ActionEligibilityCommand) (now : Instant) :
    Except EligibilityFailure (Option EligibilityReasonCode) :=
  if killSwitchBlocks command then .ok (some .blockedKillSwitch)
  else if actingScopeMismatch command || !command.account.accountActive then
    .ok (some .blockedAccountState)
  else if actionEvidenceStale command now then .ok (some .blockedDataQuality)
  else if !command.configuration.isPaperOnly then .ok (some .blockedConfiguration)
  else if command.assessment.state ∈ nonConfirmedSetup then .ok (some .blockedSetupNotConfirmed)
  else if command.candidate.state ≠ .active then .ok (some .blockedCandidateState)
  else if command.candidate.validUntil ≤ now || command.assessment.validUntil ≤ now then
    .ok (some .expired)
  else do
    match ← basisReason command with
    | some reason => return some reason
    | none => return riskReason limits command

def actionValidUntil (command : ActionEligibilityCommand) (now : Instant) : Instant :=
  (([command.candidate.validUntil, command.assessment.validUntil,
    command.marketAction.actionEvidenceValidUntil].filter (now < ·)).min?).getD
      (now + eligibilityFallbackTtl)

theorem lt_actionValidUntil (command : ActionEligibilityCommand) (now : Instant) :
    now < actionValidUntil command now := by
  unfold actionValidUntil
  generalize [command.candidate.validUntil, command.assessment.validUntil,
    command.marketAction.actionEvidenceValidUntil] = bounds
  cases least : (bounds.filter (now < ·)).min? with
  | none =>
    have later : ∀ t : Int, t < t + 1000000 := by omega
    exact later now
  | some bound =>
    have ahead := List.min?_mem least
    exact of_decide_eq_true (List.mem_filter.mp ahead).2

def decided : Option EligibilityReasonCode → ActionEligibilityState × List EligibilityReasonCode
  | none => (.eligible, [.eligible])
  | some .expired => (.expired, [.expired])
  | some reason => (.blocked, [reason])

def EligibilityDigests.buildEvaluation (digests : EligibilityDigests) (limits : RiskLimits)
    (command : ActionEligibilityCommand) (now : Instant) (digest : Sha256Hex) (revision : Nat) :
    Except EligibilityFailure ActionEligibilityEvaluation := do
  let reason ← dominantReason limits command now
  return {
    eligibility := {
      eligibilityId := digests.deterministicEligibilityId digest
      organizationId := command.account.organizationId
      userId := command.account.userId
      accountId := command.account.accountId
      candidateId := command.candidate.candidateId
      candidateRevision := command.candidate.transitionVersion
      assessmentId := command.assessment.assessmentId
      riskSnapshotId := command.risk.riskSnapshotId
      venueStateId := command.marketAction.venueStateId
      state := (decided reason).1
      reasonCodes := (decided reason).2
      checkedAt := now
      validUntil := actionValidUntil command now
      correlationId := command.correlationId
      validityOrder := lt_actionValidUntil command now }
    evaluationRevision := revision
    evidenceWindowHash := command.evidenceWindow.contentHash
    candidateContentHash := command.candidate.contentHash
    setupAssessmentContentHash := command.assessment.contentHash
    safetyEpoch := command.safety.safetyEpoch
    configurationVersion := command.configuration.configurationVersion
    uniquenessHash := digest
    paperActionable := (decided reason).1 = .eligible && command.configuration.isPaperOnly
    paperOnlyAction := fun actionable =>
      of_decide_eq_true (Bool.and_eq_true_iff.mp actionable).1 }

/-! ## Identity bindings -/

/-- A binding kind with its key. The source writes the key as text. -/
inductive IdentityKey where
  | riskSnapshot (riskSnapshotId : Nat)
  | venueState (venueStateId : Nat)
  | safetyEpoch (organizationId : OrganizationId) (accountId : AccountId) (epoch : Nat)
  | assessment (assessmentId : Nat)
  | candidateRevision (candidateId : CandidateId) (transitionVersion : Nat)
  | candidateOrganization (candidateId : CandidateId)
  deriving DecidableEq, Repr

/-- `_BINDING_CONFLICT_MESSAGES`. -/
def IdentityKey.conflictMessage : IdentityKey → String
  | .riskSnapshot _ => "Risk snapshot id is already bound to different risk facts."
  | .venueState _ => "Venue state id is already bound to different market-action evidence."
  | .safetyEpoch .. => "Safety epoch is already bound to different kill-switch facts."
  | .assessment _ => "Assessment id is already bound to a different SetupAssessment digest."
  | .candidateRevision .. =>
    "Candidate revision is already bound to a different Candidate digest."
  | .candidateOrganization _ => "Candidate id is already bound to a different organization."

def EligibilityDigests.identityBindings (digests : EligibilityDigests)
    (command : ActionEligibilityCommand) : List (IdentityKey × Sha256Hex) :=
  let safety := command.safety
  [(.riskSnapshot command.risk.riskSnapshotId, digests.riskFingerprint command.risk),
    (.venueState command.marketAction.venueStateId,
      digests.venueFingerprint command.marketAction),
    (.safetyEpoch safety.organizationId safety.accountId safety.safetyEpoch,
      digests.safetyFingerprint safety),
    (.assessment command.assessment.assessmentId, command.assessment.contentHash),
    (.candidateRevision command.candidate.candidateId command.candidate.transitionVersion,
      command.candidate.contentHash),
    (.candidateOrganization command.candidate.candidateId,
      digests.organizationFingerprint command.candidate.organizationId)]

/-! ## The store -/

abbrev EvaluationLineage := OrganizationId × AccountId × CandidateId

/-- `InMemoryActionEligibilityStore`. -/
structure ActionEligibilityStore where
  byUniqueness : Table Sha256Hex ActionEligibilityEvaluation
  history : Table EvaluationLineage (List ActionEligibilityEvaluation)
  bindings : Table IdentityKey Sha256Hex

def ActionEligibilityStore.empty : ActionEligibilityStore := ⟨.empty, .empty, .empty⟩

def ActionEligibilityCommand.lineage (command : ActionEligibilityCommand) : EvaluationLineage :=
  (command.account.organizationId, command.account.accountId, command.candidate.candidateId)

namespace ActionEligibilityStore

variable (digests : EligibilityDigests)

def Conflicts (store : ActionEligibilityStore) (binding : IdentityKey × Sha256Hex) : Prop :=
  ∃ bound ∈ store.bindings.find binding.1, bound ≠ binding.2

instance (store : ActionEligibilityStore) (binding : IdentityKey × Sha256Hex) :
    Decidable (store.Conflicts binding) := by
  unfold Conflicts
  cases store.bindings.find binding.1 with
  | none => exact isFalse (by simp)
  | some bound => exact decidable_of_iff (bound ≠ binding.2) (by simp)

def rejectEligibilityIdentityConflicts (store : ActionEligibilityStore)
    (command : ActionEligibilityCommand) : Except EligibilityFailure Unit :=
  match (digests.identityBindings command).find? (store.Conflicts ·) with
  | some binding => .error (.conflicting binding.1.conflictMessage)
  | none => .ok ()

def bind (store : ActionEligibilityStore) (bindings : List (IdentityKey × Sha256Hex)) :
    ActionEligibilityStore :=
  { store with
    bindings := bindings.foldl (fun table binding => table.put binding.1 binding.2)
      store.bindings }

/-- `history.setdefault(lineage, [])`, which a failure behind it leaves. -/
def opened (store : ActionEligibilityStore) (lineage : EvaluationLineage) :
    ActionEligibilityStore :=
  { store with
    history := store.history.put lineage ((store.history.find lineage).getD []) }

def insert (store : ActionEligibilityStore) (command : ActionEligibilityCommand)
    (digest : Sha256Hex) (produced : ActionEligibilityEvaluation) : ActionEligibilityStore :=
  { store.bind (digests.identityBindings command) with
    byUniqueness := store.byUniqueness.put digest produced
    history := store.history.put command.lineage
      ((store.history.find command.lineage).getD [] ++ [produced]) }

def getOrInsert (store : ActionEligibilityStore) (command : ActionEligibilityCommand)
    (digest : Sha256Hex)
    (factory : Nat → Except EligibilityFailure ActionEligibilityEvaluation) :
    Except EligibilityFailure ActionEligibilityEvaluation × ActionEligibilityStore :=
  match store.byUniqueness.find digest with
  | some existing => (.ok existing, store)
  | none =>
    match store.rejectEligibilityIdentityConflicts digests command with
    | .error failure => (.error failure, store)
    | .ok () =>
      let store := store.opened command.lineage
      match factory (((store.history.find command.lineage).getD []).length + 1) with
      | .error failure => (.error failure, store)
      | .ok produced =>
        if produced.uniquenessHash ≠ digest then
          (.error (.lineage "Eligibility uniqueness hash drifted during insert."), store)
        else (.ok produced, store.insert digests command digest produced)

/-- `ActionEligibilityService.evaluate`. -/
def evaluate (limits : RiskLimits) (store : ActionEligibilityStore)
    (command : ActionEligibilityCommand) (now : Instant) :
    Except EligibilityFailure ActionEligibilityEvaluation × ActionEligibilityStore :=
  match digests.validateLineage command with
  | .error failure => (.error failure, store)
  | .ok () =>
    let digest := digests.uniquenessHash command
    store.getOrInsert digests command digest
      (digests.buildEvaluation limits command now digest)

end ActionEligibilityStore

end AlphaTrade.SignalFusion
