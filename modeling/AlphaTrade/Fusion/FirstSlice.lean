import AlphaTrade.Fusion.Command
import AlphaTrade.Fusion.Rules
import AlphaTrade.SignalFusion.Eligibility

/-!
# The first slice: policy, evidence and assessment

What the first-slice evaluation reads and what it returns. Amounts are exact rationals. The fields
of a policy that the evaluation does not read are left out, and so are the constant fields of an
assessment and the hash of its other fields.
-/
namespace AlphaTrade.SignalFusion

def SetupAssessmentState.value : SetupAssessmentState → String
  | .noSetup => "no_setup"
  | .watch => "watch"
  | .partialMatch => "partial_match"
  | .confirmedSetup => "confirmed_setup"
  | .invalidated => "invalidated"
  | .expired => "expired"

end AlphaTrade.SignalFusion

namespace AlphaTrade.Fusion
open Library Market
open Execution (OrganizationId Instant)
open SignalFusion (SetupAssessmentState)

abbrev AssessmentId := Nat

/-! ## Policy -/

def defaultFusionPolicyVersion : String := "first-slice-fusion/v1"

def defaultCorrectionSelectionPolicy : String := "selected-final-revision/v1"

def firstSliceRoleTimeframes : List RoleTimeframeBinding :=
  [⟨.triggerOhlcv, .m15⟩, ⟨.contextOhlcv, .h4⟩, ⟨.cvdWindow, .m15⟩, ⟨.signedFlow, .m15⟩,
    ⟨.tradeEvent, .m15⟩]

structure FusionPolicy where
  policyVersion : String
  organizationId : OrganizationId
  strategyVersionId : StrategyVersionId
  executableSetup : ExecutableSetupRef
  requiredRoles : List EvidenceRole
  roleTimeframes : List RoleTimeframeBinding
  confirmationScore : ℚ
  freshnessPolicyVersion : String
  finalityPolicyVersion : String
  correctionSelectionPolicy : String
  required : requiredRoles ≠ []
  boundOnce : (roleTimeframes.map (·.role)).Nodup

/-! ## Parameters -/

structure FirstSliceEvaluationParams where
  swingAtrDistance : ℚ
  sweepAtr : ℚ
  volumeLookback : Int
  volumeRatio : ℚ
  sellImbalance : ℚ
  invalidationAtr : ℚ
  invalidationTicks : ℚ
  expiryBars : Int
  atrPeriod : Int
  deriving DecidableEq

def defaultFirstSliceEvaluationParams : FirstSliceEvaluationParams where
  swingAtrDistance := 50 / 100
  sweepAtr := 25 / 100
  volumeLookback := 20
  volumeRatio := 150 / 100
  sellImbalance := -10 / 100
  invalidationAtr := 10 / 100
  invalidationTicks := 2
  expiryBars := 2
  atrPeriod := 14

def resolveEvaluationParams (evaluationParams : Option FirstSliceEvaluationParams) :
    FirstSliceEvaluationParams :=
  evaluationParams.getD defaultFirstSliceEvaluationParams

def firstSliceSymbol : String := "BTCUSDT"

def firstSliceTriggerTimeframe : Timeframe := .m15

def firstSliceContextTimeframe : Timeframe := .h4

def firstSliceMinFinal15m : Nat := 100

def firstSliceMinFinal4h : Nat := 30

def firstSlicePatternName : String :=
  "Bearish Liquidity Sweep with CVD Divergence and Aggressive Sell Imbalance at 4h Resistance"

/-! ## Evidence -/

structure ManualResistanceEvidence where
  ref : ManualLevelRevisionRef
  price : ℚ
  timeframe : Timeframe
  effectiveAt : Instant
  valid : Bool
  venue : VenueId
  marketType : MarketType
  instrumentId : String
  price_pos : 0 < price

structure FirstSliceEvidenceBundle where
  bars15m : List OhlcvBar
  bars4h : List OhlcvBar
  snapshot : Option TradeStreamSnapshot
  resistances : List ManualResistanceEvidence
  subsequentFinal15m : List OhlcvBar
  tickSize : ℚ
  marketIntelligence : List DerivativeObservation
  orderFlow : Option OrderFlowObservation
  tickSize_pos : 0 < tickSize

/-! ## Assessments -/

inductive AssessmentReasonCode where
  | preconditionsPassed | sequenceStepPassed | allMandatoryEvidenceConfirmed | patternInvalidated
  | marketDisqualifier | requiredSourceStale | requiredSourceGapped | requiredSourceFallback
  | wrongVenueOrMarket | policyReplaced | validityIntervalElapsed
  deriving DecidableEq, Repr

structure SetupAssessment where
  assessmentId : AssessmentId
  organizationId : OrganizationId
  strategyVersionId : StrategyVersionId
  executableSetup : ExecutableSetupRef
  fusionPolicyVersion : String
  observationIds : List PublicObservationId
  assessmentWindow : HalfOpenInterval
  state : SetupAssessmentState
  previousAssessmentId : Option AssessmentId
  previousState : Option SetupAssessmentState
  ruleResults : List RuleResult
  threshold : ℚ
  reasonCodes : List AssessmentReasonCode
  explanation : String
  evidenceWindowHash : String
  assessedAt : Instant
  validUntil : Instant
  correlationId : CorrelationId
  deriving DecidableEq

/-! ## Runtime -/

/-- The dict that `_fail_closed_hash` digests; its constant member is left out. -/
structure FailClosedPreimage where
  direction : Journal.TradeDirection
  fusionPolicyVersion : String
  organizationId : OrganizationId
  reason : String
  setupDefinitionId : SetupDefinitionId
  strategyVersionId : StrategyVersionId
  deriving DecidableEq

/-- The digests, the identifiers and the texts of the language that an evaluation reads. -/
structure FusionRuntime extends EnvelopeHashing where
  windowSha256 : EvidenceWindowPreimage → String
  failClosedSha256 : FailClosedPreimage → String
  uuid5 : String → Nat
  uuidText : Nat → String
  isoformat : Instant → String
  strip : String → String
  upper : String → String
  isalnum : String → Bool

end AlphaTrade.Fusion
