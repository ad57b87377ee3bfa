import AlphaTrade.Market.QuoteFlow

/-!
# Public observations

The public envelope of venue facts, and the provider facts and the order flow that a policy may
require. A record carries what pydantic has validated in it, so its second validation at a
consumer boundary passes. The content of a hashed record is the part that its hash covers; the
measures of an order-flow record, which only its hash and its own validation read, are left out.
-/
namespace AlphaTrade.Market
open Library
open Execution (Instant)

abbrev PublicObservationId := Nat

/-! ## Values -/

def VenueId.value : VenueId → String
  | .binance => "binance"
  | .blofin => "blofin"
  | .bybit => "bybit"

def SourceFamily.value : SourceFamily → String
  | .binanceUsdmFuturesPublic => "binance_usdm_futures_public"
  | .bybitUsdtPerpetualPublic => "bybit_usdt_perpetual_public"
  | .replayFixture => "replay_fixture"

def Timeframe.value : Timeframe → String
  | .m1 => "1m"
  | .m3 => "3m"
  | .m5 => "5m"
  | .m15 => "15m"
  | .m30 => "30m"
  | .h1 => "1h"
  | .h2 => "2h"
  | .h4 => "4h"
  | .h6 => "6h"
  | .h12 => "12h"
  | .d1 => "1d"
  | .d3 => "3d"
  | .w1 => "1w"

def Finality.value : Finality → String
  | .final => "final"
  | .forming => "forming"
  | .corrected => "corrected"
  | .unknown => "unknown"

/-! ## Envelopes -/

inductive ObservationType where
  | ohlcv | trade | cvd | orderBook | volume | structural | openInterest | funding
  deriving DecidableEq, Repr

/-- `^[0-9a-f]{64}$`. -/
def IsSha256Hex (text : String) : Prop :=
  text.length = 64 ∧ text.toList.all fun c => c.isDigit || ('a' ≤ c && c ≤ 'f')

instance (text : String) : Decidable (IsSha256Hex text) := inferInstanceAs (Decidable (_ ∧ _))

abbrev Sha256Hex := { text : String // IsSha256Hex text }

structure PublicObservationContent where
  identity : EvidenceMarketIdentity
  observationType : ObservationType
  sourceEventId : String
  intervalStart : Option Instant
  intervalEnd : Option Instant
  eventTime : Instant
  sourceTime : Instant
  finality : Finality
  revision : Nat
  freshnessState : FreshnessState
  payloadContentHash : String
  deriving DecidableEq

structure PublicMarketObservation extends PublicObservationContent where
  observationId : PublicObservationId
  observedAt : Instant
  receiveTime : Instant
  contentHash : Sha256Hex
  recordedAt : Instant
  deriving DecidableEq

inductive EvidenceAvailability where
  | available | missing | stale | unsupported | incomplete
  deriving DecidableEq, Repr

def EvidenceAvailability.value : EvidenceAvailability → String
  | .available => "AVAILABLE"
  | .missing => "MISSING"
  | .stale => "STALE"
  | .unsupported => "UNSUPPORTED"
  | .incomplete => "INCOMPLETE"

/-! ## Provider facts -/

inductive DerivativeMetric where
  | openInterest | funding
  deriving DecidableEq, Repr

def DerivativeMetric.value : DerivativeMetric → String
  | .openInterest => "open_interest"
  | .funding => "funding"

def DerivativeMetric.observationType : DerivativeMetric → ObservationType
  | .openInterest => .openInterest
  | .funding => .funding

structure DerivativeContent where
  metric : DerivativeMetric
  identity : EvidenceMarketIdentity
  eventTime : Option Instant
  freshnessPolicyVersion : String
  units : String
  calculationMethod : String
  availability : EvidenceAvailability
  amount : Option ℚ
  reason : Option String
  deriving DecidableEq

structure DerivativeObservation extends DerivativeContent where
  observedAt : Instant
  collectedAt : Option Instant
  freshness : Option FreshnessEvaluation
  contentHash : String
  causal : ∀ collected ∈ collectedAt, collected ≤ observedAt
  usable : availability = .available ∨ availability = .stale →
    amount.isSome ∧ freshness.isSome ∧
      ∃ event ∈ eventTime, ∃ collected ∈ collectedAt, event ≤ collected
  unusable : availability ≠ .available → availability ≠ .stale → amount = none
  nonneg : metric = .openInterest → ∀ reported ∈ amount, 0 ≤ reported

def derivativeMaxAge (metric : DerivativeMetric) (venue : VenueId) : Nat :=
  match metric with
  | .funding => 24 * 3600
  | .openInterest => if venue = .bybit then 600 else 60

def derivativeFreshnessPolicy (metric : DerivativeMetric) (venue : VenueId) : FreshnessPolicy where
  policyVersion := "oi-funding/" ++ venue.value ++ "/" ++ metric.value ++ "/no-future/v2"
  tradeMaxAgeSeconds := derivativeMaxAge metric venue
  agingAgeSeconds := derivativeMaxAge metric venue
  maxClockSkewSeconds := 0
  agingBeforeStale := le_rfl

def derivativeIdentity (identity : EvidenceMarketIdentity) (metric : DerivativeMetric) :
    EvidenceMarketIdentity :=
  { identity with
    timeframe := if metric = .openInterest ∧ identity.venue = .bybit then some .m5 else none }

/-- The units and the method of `derivative_observation`. -/
def derivativeUnits (identity : EvidenceMarketIdentity) : DerivativeMetric → String × String
  | .funding => ("ratio_per_settlement", "provider_reported_settled_rate")
  | .openInterest => (identity.instrument.baseQuantityUnit,
      if identity.venue = .bybit then "provider_reported_sum_both_sides_base_quantity"
      else "provider_reported_base_quantity")

/-! ## Order flow -/

structure OrderFlowContent where
  identity : EvidenceMarketIdentity
  windowStart : Instant
  windowEnd : Instant
  eventTime : Option Instant
  availability : EvidenceAvailability
  freshnessPolicyVersion : String
  baseUnits : String
  quoteUnits : String
  cvdUnits : String
  calculationMethod : String
  resetSemantics : String
  seriesIdentity : String
  stateMethod : String
  deriving DecidableEq

structure OrderFlowObservation extends OrderFlowContent where
  observedAt : Instant
  freshness : Option FreshnessEvaluation
  contentHash : String
  usable : availability = .available ∨ availability = .stale →
    freshness.isSome ∧ eventTime.isSome ∧ windowEnd ≤ observedAt

def orderFlowMethod : String := "real-aggressor-prints/base-and-unrounded-quote/5m/v1"

def cvdReset : String :=
  "zero-at-10m-window-start;rebuild-on-window-roll-or-venue-switch/v1"

def orderFlowStateMethod : String :=
  "last-vs-prior-5m;directional-delta-and-quote-imbalance;print-close/v1"

def orderFlowIdentity (identity : EvidenceMarketIdentity) : EvidenceMarketIdentity :=
  { identity with timeframe := some .m5 }

def orderFlowFreshnessPolicy : FreshnessPolicy where
  policyVersion := "5m-real-print/event-age-600s/v1"
  tradeMaxAgeSeconds := 600
  agingAgeSeconds := 600
  maxClockSkewSeconds := 0
  agingBeforeStale := le_rfl

/-! ## Gates -/

/-- The digests and the identifiers of the envelopes. -/
structure EnvelopeHashing extends FlowHashing where
  derivative : DerivativeContent → String
  orderFlow : OrderFlowContent → String
  orderFlowSeries : EvidenceMarketIdentity → Instant → String
  observation : PublicObservationContent → Sha256Hex
  observationId : String → Finality → Nat → PublicObservationId

variable (hashing : EnvelopeHashing)

/-- One metric of `require_derivative_observations`. -/
def requireDerivativeObservation (observations : List DerivativeObservation)
    (identity : EvidenceMarketIdentity) (evaluatedAt : Instant) (metric : DerivativeMetric) :
    Except MarketError Unit := do
  let refused (detail : String) := "required_" ++ metric.value ++ ":" ++ detail
  match observations.filter fun item => item.metric = metric with
  | [item] => do
    ensure (item.identity = derivativeIdentity identity metric)
      (.wrongSource (refused "wrong_source"))
    ensure (hashing.derivative item.toDerivativeContent = item.contentHash)
      (.wrongSource (refused "invalid_content_hash"))
    ensure (item.freshnessPolicyVersion =
        (derivativeFreshnessPolicy metric identity.venue).policyVersion)
      (.wrongSource (refused "wrong_freshness_policy"))
    ensure (item.availability = .available)
      (.marketContract (refused item.availability.value))
    match item.eventTime, item.amount with
    | some eventTime, some _ => do
      ensure ((item.units, item.calculationMethod) = derivativeUnits identity metric)
        (.wrongSource (refused "wrong_units_or_method"))
      ensure (item.observedAt ≤ evaluatedAt) (.staleEvidence (refused "future_observation"))
      let _ ← evaluateFreshness eventTime evaluatedAt
        (derivativeFreshnessPolicy metric identity.venue) true
      return
    | _, _ => .error (.marketContract (refused "INCOMPLETE"))
  | _ => .error (.marketContract (refused "MISSING"))

def requireDerivativeObservations (observations : List DerivativeObservation)
    (requiredMetrics : List DerivativeMetric) (identity : EvidenceMarketIdentity)
    (evaluatedAt : Instant) : Except MarketError Unit :=
  requiredMetrics.forM (requireDerivativeObservation hashing observations identity evaluatedAt)

/-- `with_content_hash` of an envelope. -/
def envelope (content : PublicObservationContent) (observedAt receiveTime : Instant) :
    PublicMarketObservation :=
  { content with
    observationId := hashing.observationId content.sourceEventId content.finality content.revision
    observedAt, receiveTime
    contentHash := hashing.observation content
    recordedAt := observedAt }

def observationFromDerivative (item : DerivativeObservation) :
    Except MarketError PublicMarketObservation :=
  match item.availability, item.eventTime, item.freshness, item.collectedAt with
  | .available, some eventTime, some freshness, some collectedAt =>
    .ok (envelope hashing {
      identity := item.identity
      observationType := item.metric.observationType
      sourceEventId := item.metric.value ++ ":" ++ item.contentHash
      intervalStart := none
      intervalEnd := none
      eventTime
      sourceTime := eventTime
      finality := .final
      revision := 1
      freshnessState := freshness.state
      payloadContentHash := item.contentHash } item.observedAt collectedAt)
  | _, _, _, _ =>
    .error (.validation "Unavailable OI/funding cannot satisfy public evidence roles.")

def requireOrderFlowEvidence (item : Option OrderFlowObservation)
    (identity : EvidenceMarketIdentity)
    (evaluatedAt : Instant) : Except MarketError OrderFlowObservation :=
  match item with
  | none => .error (.marketContract "required_order_flow:MISSING")
  | some item => do
    ensure (item.identity = orderFlowIdentity identity)
      (.wrongSource "required_order_flow:wrong_source")
    ensure (hashing.orderFlow item.toOrderFlowContent = item.contentHash ∧
        item.calculationMethod = orderFlowMethod ∧
        item.resetSemantics = cvdReset ∧
        item.freshnessPolicyVersion = orderFlowFreshnessPolicy.policyVersion ∧
        item.baseUnits = identity.instrument.baseQuantityUnit ∧
        item.cvdUnits = identity.instrument.baseQuantityUnit ∧
        item.quoteUnits = identity.instrument.quoteAsset ∧
        item.stateMethod = orderFlowStateMethod ∧
        item.seriesIdentity =
          hashing.orderFlowSeries (orderFlowIdentity identity) item.windowStart)
      (.wrongSource "required_order_flow:wrong_hash_or_policy")
    ensure (item.availability = .available)
      (.marketContract ("required_order_flow:" ++ item.availability.value))
    ensure (item.observedAt ≤ evaluatedAt ∧ item.windowEnd ≤ evaluatedAt)
      (.staleEvidence "required_order_flow:future_observation_or_window")
    match item.eventTime with
    | none => .error (.validation "AssertionError")
    | some eventTime => do
      let _ ← evaluateFreshness eventTime evaluatedAt orderFlowFreshnessPolicy true
      return item

def observationFromOrderFlow (item : OrderFlowObservation) (cvd : Bool) :
    Except MarketError PublicMarketObservation :=
  match item.availability, item.eventTime, item.freshness with
  | .available, some eventTime, some freshness =>
    .ok (envelope hashing {
      identity := item.identity
      observationType := if cvd then .cvd else .volume
      sourceEventId := "5m-" ++ (if cvd then "cvd" else "flow") ++ ":" ++ item.contentHash
      intervalStart := some item.windowStart
      intervalEnd := some item.windowEnd
      eventTime
      sourceTime := eventTime
      finality := .final
      revision := 1
      freshnessState := freshness.state
      payloadContentHash := item.contentHash } item.observedAt item.observedAt)
  | _, _, _ => .error (.validation "Unavailable order flow cannot satisfy public evidence roles.")

variable {observation : PublicMarketObservation}

theorem finality_of_observationFromDerivative {item : DerivativeObservation}
    (h : observationFromDerivative hashing item = .ok observation) :
    observation.finality = .final := by
  unfold observationFromDerivative at h
  split at h
  · obtain rfl := Except.ok.inj h
    rfl
  · cases h

theorem finality_of_observationFromOrderFlow {item : OrderFlowObservation} {cvd : Bool}
    (h : observationFromOrderFlow hashing item cvd = .ok observation) :
    observation.finality = .final := by
  unfold observationFromOrderFlow at h
  split at h
  · obtain rfl := Except.ok.inj h
    rfl
  · cases h

end AlphaTrade.Market
