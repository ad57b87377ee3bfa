import AlphaTrade.Market.Ohlcv

/-!
# Freshness

The age of evidence at a consumer boundary, in microseconds. A source time after the evaluation is
skew, and too much of it is no fresher than too much age.
-/
namespace AlphaTrade.Market
open Library
open Execution (Instant)

def FreshnessState.value : FreshnessState → String
  | .fresh => "fresh"
  | .aging => "aging"
  | .stale => "stale"
  | .gap => "gap"
  | .unknown => "unknown"

/-- The grace behind a close is read by no function here and is left out. -/
structure FreshnessPolicy where
  policyVersion : String
  tradeMaxAgeSeconds : Nat
  agingAgeSeconds : Nat
  maxClockSkewSeconds : Nat
  agingBeforeStale : agingAgeSeconds ≤ tradeMaxAgeSeconds
  deriving DecidableEq

structure FreshnessEvaluation where
  policyVersion : String
  evaluatedAt : Instant
  sourceTime : Instant
  age : Int
  validUntil : Instant
  state : FreshnessState
  clockSkew : Int
  deriving DecidableEq

def firstSliceFreshnessPolicy : FreshnessPolicy where
  policyVersion := "first-slice-btc-usdt-usdm-freshness/v1"
  tradeMaxAgeSeconds := 10
  agingAgeSeconds := 5
  maxClockSkewSeconds := 2
  agingBeforeStale := Nat.le_add_right 5 5

def seconds (n : Nat) : Instant := n * 1000000

def liveConfirmationWindowOpen (closedIntervalEnd evaluatedAt : Instant) : Bool :=
  evaluatedAt < closedIntervalEnd ||
    evaluatedAt - closedIntervalEnd ≤ seconds firstSliceFreshnessPolicy.tradeMaxAgeSeconds

def freshnessState (age : Int) (policy : FreshnessPolicy) : FreshnessState :=
  if age < 0 then
    if seconds policy.maxClockSkewSeconds < -age then .unknown else .fresh
  else if age ≤ seconds policy.agingAgeSeconds then .fresh
  else if age ≤ seconds policy.tradeMaxAgeSeconds then .aging
  else .stale

/-- An evaluation past `valid_until` is stale by its age already, so the source's second check of
`valid_until` is never the one that raises. -/
def evaluateFreshness (sourceTime evaluatedAt : Instant) (policy : FreshnessPolicy)
    (requireFresh : Bool) : Except MarketError FreshnessEvaluation := do
  let age := evaluatedAt - sourceTime
  let validUntil := sourceTime + seconds policy.tradeMaxAgeSeconds
  let state := if validUntil < evaluatedAt then .stale else freshnessState age policy
  ensure (requireFresh = true → state = .fresh ∨ state = .aging) (.staleEvidence
    ("Evidence is " ++ state.value ++ ": age exceeds " ++ toString policy.tradeMaxAgeSeconds
      ++ "s under " ++ policy.policyVersion ++ "."))
  return {
    policyVersion := policy.policyVersion
    evaluatedAt, sourceTime, validUntil, state
    age := max age 0
    clockSkew := max (-age) 0 }

end AlphaTrade.Market
