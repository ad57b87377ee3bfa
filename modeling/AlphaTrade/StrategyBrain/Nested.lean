import Mathlib.Data.List.MinMax
import Mathlib.Tactic.NormNum
import AlphaTrade.Library.Scan
import AlphaTrade.StrategyBrain.Setups

/-!
# The nested continuation detector

`detect_nested`: one pass over closed candles that looks for an anchor low, an impulse high and a
controlled pullback, in the coordinates of the direction. The loop reads its candles by index, so
they are a function here. The texts of `quality_components` are kept as the amounts they print.
-/
namespace AlphaTrade.StrategyBrain
open Library
open Execution (Instant)
open Market (OhlcvBar Timeframe intervalTimedelta)
open Journal (TradeDirection)
open Evidence (Uuid timeframeValue)

/-! ## The specification -/

structure NestedFields where
  pivotSensitivity : Nat
  minimumImpulse : ℚ
  retracementDepth : ℚ
  maximumRetracement : ℚ
  retracementDuration : Nat
  structuralInvalidation : ℚ
  confirmationWindow : Nat
  relativeVolumeThreshold : ℚ
  maxSequenceBars : Nat
  deriving DecidableEq

/-- The field bounds and `ordered`. -/
structure NestedFields.Valid (fields : NestedFields) : Prop where
  pivotSensitivity : 1 ≤ fields.pivotSensitivity ∧ fields.pivotSensitivity ≤ 5
  minimumImpulse : 0 < fields.minimumImpulse ∧ fields.minimumImpulse ≤ 1
  retracementDepth : 0 < fields.retracementDepth ∧ fields.retracementDepth < 1
  maximumRetracement : 0 < fields.maximumRetracement ∧ fields.maximumRetracement < 1
  retracementDuration : 2 ≤ fields.retracementDuration ∧ fields.retracementDuration ≤ 24
  structuralInvalidation : 0 ≤ fields.structuralInvalidation ∧ fields.structuralInvalidation < 1
  confirmationWindow : 3 ≤ fields.confirmationWindow ∧ fields.confirmationWindow ≤ 48
  relativeVolumeThreshold : 0 ≤ fields.relativeVolumeThreshold ∧
    fields.relativeVolumeThreshold ≤ 10
  maxSequenceBars : 24 ≤ fields.maxSequenceBars ∧ fields.maxSequenceBars ≤ 128
  ordered : fields.retracementDepth < fields.maximumRetracement

structure NestedParameters extends NestedFields where
  valid : toNestedFields.Valid

/-- The defaults of the fields. -/
def NestedFields.defaults : NestedFields where
  pivotSensitivity := 2
  minimumImpulse := 5 / 1000
  retracementDepth := 20 / 100
  maximumRetracement := 75 / 100
  retracementDuration := 12
  structuralInvalidation := 0
  confirmationWindow := 24
  relativeVolumeThreshold := 0
  maxSequenceBars := 96

/-- Every default passes its own check. -/
theorem NestedFields.defaults_valid : defaults.Valid := by
  constructor <;> norm_num [defaults]

structure NestedContinuationSpec where
  symbol : String
  triggerTimeframe : Timeframe
  direction : TradeDirection
  parameters : NestedParameters

/-! ## Events -/

/-- The amounts that `quality_components` prints. -/
structure NestedQuality where
  relativeCandleExpansion : ℚ
  relativeVolumeExpansion : ℚ
  distanceFromStructure : ℚ
  sequenceMaturity : Nat
  verticalAcceleration : ℚ
  accelerationRisk : String
  initialRiskBasis : ℚ
  deriving DecidableEq

structure NestedDetection where
  setupId : Uuid
  sequenceId : Uuid
  state : BrainSetupState
  stage : String
  completedContinuations : Nat
  direction : TradeDirection
  eventIndex : Nat
  anchorIndex : Nat
  impulseIndex : Nat
  pullbackIndex : Option Nat
  confirmedIndex : Option Nat
  detectedAt : Instant
  expiresAt : Instant
  entry : Option ℚ
  stop : Option ℚ
  targets : List ℚ
  extension : ℚ
  qualityComponents : NestedQuality
  reasonCodes : List String
  evidence : List (String × EvidenceAvailability)
  historyExpectancy : String
  invalidationState : String
  deriving DecidableEq

/-- The `evidence` of every event. -/
def nestedEvidence : List (String × EvidenceAvailability) :=
  [("closed_ohlcv", .available), ("volume", .available), ("moving_average", .missing),
    ("higher_timeframe", .missing), ("cvd", .unsupported), ("order_flow", .unsupported),
    ("open_interest", .unsupported), ("funding", .unsupported)]

/-! ## What the loop reads -/

section Reading
variable (spec : NestedContinuationSpec) (bar : Nat → OhlcvBar)

def highs (i : Nat) : ℚ := mirroredHigh spec.direction (bar i)

def lows (i : Nat) : ℚ := mirroredLow spec.direction (bar i)

def closes (i : Nat) : ℚ := mirroredClose spec.direction (bar i)

def wings (width pivot : Nat) : List Nat := List.range' (pivot - width) (width + width + 1)

def StrictLow (pivot : Nat) : Prop :=
  ∀ j ∈ wings spec.parameters.pivotSensitivity pivot, j ≠ pivot →
    lows spec bar pivot < lows spec bar j

def StrictHigh (pivot : Nat) : Prop :=
  ∀ j ∈ wings spec.parameters.pivotSensitivity pivot, j ≠ pivot →
    highs spec bar j < highs spec bar pivot

instance (pivot : Nat) : Decidable (StrictLow spec bar pivot) :=
  inferInstanceAs (Decidable (∀ j ∈ wings _ _, _))

instance (pivot : Nat) : Decidable (StrictHigh spec bar pivot) :=
  inferInstanceAs (Decidable (∀ j ∈ wings _ _, _))

def recent (i : Nat) : List Nat := List.range' (i - 20) (min i 20)

/-- `prior_volume`. -/
def priorVolume (i : Nat) : ℚ :=
  if i = 0 then 0 else ((recent i).map fun j => (bar j).baseVolume).sum / (min i 20 : Nat)

/-- `volume_ratio`, which `volume_expansion` computes again. -/
def volumeRatio (i : Nat) : ℚ :=
  if priorVolume bar i = 0 then 0 else (bar i).baseVolume / priorVolume bar i

/-- `baseline`. -/
def baseline (i : Nat) : ℚ :=
  if recent i = [] then 0
  else ((recent i).map fun j => (bar j).high - (bar j).low).sum / ((recent i).length : ℚ)

/-- `expansion`. -/
def expansion (i : Nat) : ℚ :=
  if baseline bar i = 0 then 0 else ((bar i).high - (bar i).low) / baseline bar i

/-- `span`. -/
def span (anchor impulse : Nat) : ℚ := highs spec bar impulse - lows spec bar anchor

/-- `depth`. -/
def depth (anchor impulse pullback : Nat) : ℚ :=
  (highs spec bar impulse - lows spec bar pullback) / span spec bar anchor impulse

/-- `known_low`: the pullback pivot must already be confirmed at this event time. -/
def KnownLow (i pullback : Nat) : Prop :=
  spec.parameters.pivotSensitivity ≤ pullback ∧ pullback + spec.parameters.pivotSensitivity ≤ i ∧
    StrictLow spec bar pullback

instance (i pullback : Nat) : Decidable (KnownLow spec bar i pullback) :=
  inferInstanceAs (Decidable (_ ∧ _))

def Breaks (i impulse pullback : Nat) : Prop :=
  KnownLow spec bar i pullback ∧ highs spec bar impulse < closes spec bar i ∧
    0 < (bar i).baseVolume ∧ 0 < priorVolume bar i ∧
    spec.parameters.relativeVolumeThreshold ≤ volumeRatio bar i

instance (i impulse pullback : Nat) : Decidable (Breaks spec bar i impulse pullback) :=
  inferInstanceAs (Decidable (_ ∧ _))

/-- The state of an episode at a candle, and the reasons. -/
def judge (i anchor impulse pullback sequenceStart : Nat) : BrainSetupState × List String :=
  let p := spec.parameters
  if lows spec bar i ≤ lows spec bar anchor - span spec bar anchor impulse *
      p.structuralInvalidation ∨ p.maximumRetracement < depth spec bar anchor impulse pullback then
    (.invalidated, ["structural_failure"])
  else if p.confirmationWindow ≤ i - impulse ∨ p.maxSequenceBars ≤ i - sequenceStart then
    (.expired, ["formation_expired_new_episode_required"])
  else if p.retracementDepth ≤ depth spec bar anchor impulse pullback then
    if p.retracementDuration < pullback - impulse then (.expired, ["pullback_duration_exceeded"])
    else if Breaks spec bar i impulse pullback then
      (.confirmed, ["closed_structural_break", "controlled_pullback_confirmed"])
    else if ¬ KnownLow spec bar i pullback then
      (.forming, ["awaiting_closed_structural_break", "pullback_pivot_not_yet_confirmed"])
    else if highs spec bar impulse < closes spec bar i then
      (.forming, ["awaiting_closed_structural_break",
        "required_volume_or_relative_threshold_not_met"])
    else (.forming, ["awaiting_closed_structural_break"])
  else (.watch, ["awaiting_controlled_pullback"])

end Reading

/-! ## The loop -/

/-- The variables the loop carries. -/
structure Walk where
  anchor : Option Nat := none
  impulse : Option Nat := none
  pullback : Option Nat := none
  sequence : Option Uuid := none
  sequenceStart : Nat := 0
  resetAt : Int := -1
  count : Nat := 0
  confirmed : Option Nat := none
  results : List NestedDetection := []

variable (uuid5 : Uuid → String → Uuid)

/-- `NAMESPACE`. -/
def nestedNamespace : Uuid := "1ba10001-0000-4000-8000-000000000001"

def sequenceId (spec : NestedContinuationSpec) (bar : Nat → OhlcvBar) (pivot : Nat) : Uuid :=
  uuid5 nestedNamespace ((bar 0).instrument.instrumentId ++ ":" ++ directionValue spec.direction ++
    ":" ++ timeframeValue spec.triggerTimeframe ++ ":" ++ (bar pivot).sourceEventId)

section Loop
variable (spec : NestedContinuationSpec) (bar : Nat → OhlcvBar)

/-- The event of an episode at a candle. -/
def detection (i anchor impulse pullback count : Nat) (confirmed : Option Nat) (sequence : Uuid)
    (state : BrainSetupState) (reasons : List String) : NestedDetection :=
  let extreme := highs spec bar impulse
  let side := sign spec.direction
  let stop := lows spec bar pullback * side
  let entry := if confirmed = some i then closes spec bar i * side else extreme * side
  let target := (extreme + span spec bar anchor impulse) * side
  let stageCount := if state = .confirmed then count else count + 1
  { setupId := uuid5 sequence (bar impulse).sourceEventId
    sequenceId := sequence
    state := state
    stage := if stageCount < 4 then "N" ++ toString stageCount else "N4_PLUS"
    completedContinuations := count
    direction := spec.direction
    eventIndex := i
    anchorIndex := anchor
    impulseIndex := impulse
    pullbackIndex := some pullback
    confirmedIndex := confirmed
    detectedAt := (bar i).intervalEnd
    expiresAt := (bar impulse).intervalEnd +
      intervalTimedelta spec.triggerTimeframe * spec.parameters.confirmationWindow
    entry := some entry
    stop := some stop
    targets := if 0 < (target - entry) * side then [target] else []
    extension := (closes spec bar i - extreme) / span spec bar anchor impulse
    qualityComponents :=
      { relativeCandleExpansion := expansion bar i
        relativeVolumeExpansion := volumeRatio bar i
        distanceFromStructure := |closes spec bar i - extreme|
        sequenceMaturity := count
        verticalAcceleration := expansion bar i
        accelerationRisk := if 2 ≤ expansion bar i then "research_context_only" else "not_flagged"
        initialRiskBasis := |entry - stop| }
    reasonCodes := reasons
    evidence := nestedEvidence
    historyExpectancy := "insufficient_history"
    invalidationState := if state = .invalidated then "failed" else "intact" }

/-- A pivot low becomes the anchor of a new sequence. -/
def seekAnchor (i : Nat) (walk : Walk) : Walk :=
  let width := spec.parameters.pivotSensitivity
  let pivot := i - width
  if width + width ≤ i ∧ StrictLow spec bar pivot ∧ walk.resetAt ≤ pivot then
    { walk with
      anchor := some pivot
      sequenceStart := pivot
      sequence := some (sequenceId uuid5 spec bar pivot)
      count := 0 }
  else walk

def IsImpulse (i anchor : Nat) : Prop :=
  let width := spec.parameters.pivotSensitivity
  let pivot := i - width
  width + width ≤ i ∧ StrictHigh spec bar pivot ∧ anchor < pivot ∧
    spec.parameters.minimumImpulse ≤ span spec bar anchor pivot / |lows spec bar anchor|

instance (i anchor : Nat) : Decidable (IsImpulse spec bar i anchor) :=
  inferInstanceAs (Decidable (_ ∧ _))

def ended (i : Nat) (failed : Bool) (last : NestedDetection) : NestedDetection :=
  { last with
    state := if failed then .invalidated else .expired
    eventIndex := i
    detectedAt := (bar i).intervalEnd
    invalidationState := if failed then "failed" else "intact"
    reasonCodes := [if failed then "structural_failure"
      else "formation_expired_new_episode_required"] }

def closing (i : Nat) (failed : Bool) (results : List NestedDetection) : List NestedDetection :=
  match results.getLast? with
  | none => []
  | some last => if last.state = .confirmed then [ended bar i failed last] else []

def Overdue (i : Nat) (walk : Walk) : Prop :=
  spec.parameters.maxSequenceBars ≤ i - walk.sequenceStart ∨
    ∃ last ∈ walk.results.getLast?, last.state = .confirmed ∧ last.expiresAt ≤ (bar i).intervalEnd

instance (i : Nat) (walk : Walk) : Decidable (Overdue spec bar i walk) :=
  inferInstanceAs (Decidable (_ ∨ _))

/-- No impulse at this candle: the anchor may fail or expire. -/
def awaitImpulse (i anchor : Nat) (walk : Walk) : Walk :=
  let failed : Bool := lows spec bar i ≤ lows spec bar anchor
  if failed ∨ Overdue spec bar i walk then
    { walk with
      results := walk.results ++ closing bar i failed walk.results
      anchor := none
      resetAt := i }
  else walk

/-- The state of the episode goes to the log, and ends it or moves its anchor. -/
def record (i anchor impulse pullback : Nat) (sequence : Uuid) (walk : Walk) : Walk :=
  let (state, reasons) := judge spec bar i anchor impulse pullback walk.sequenceStart
  let confirmed := if state = .confirmed then some i else walk.confirmed
  let count := if state = .confirmed then walk.count + 1 else walk.count
  let event :=
    detection uuid5 spec bar i anchor impulse pullback count confirmed sequence state reasons
  let logged := { walk with
    pullback := some pullback
    confirmed := confirmed
    count := count
    results := walk.results ++ [event] }
  if state = .confirmed then { logged with anchor := some pullback, impulse := none }
  else if state.Terminal then { logged with anchor := none, impulse := none, resetAt := i }
  else logged

/-- The part of the loop behind an impulse. The source asserts that there is a sequence. -/
def observe (i anchor impulse : Nat) (walk : Walk) : Walk :=
  if span spec bar anchor impulse ≤ 0 then
    { walk with anchor := none, impulse := none, resetAt := i }
  else
    match (List.range' (impulse + 1) (i - impulse)).argmin (lows spec bar), walk.sequence with
    | some pullback, some sequence => record uuid5 spec bar i anchor impulse pullback sequence walk
    | _, _ => walk

/-- One turn of the loop. -/
def advance (i : Nat) (walk : Walk) : Walk :=
  match walk.anchor, walk.impulse with
  | none, _ => seekAnchor uuid5 spec bar i walk
  | some anchor, some impulse => observe uuid5 spec bar i anchor impulse walk
  | some anchor, none =>
    let pivot := i - spec.parameters.pivotSensitivity
    if IsImpulse spec bar i anchor then
      observe uuid5 spec bar i anchor pivot
        { walk with impulse := some pivot, pullback := none, confirmed := none }
    else awaitImpulse spec bar i anchor walk

end Loop

/-- The candles that `detect_nested` looks at. -/
def Accepts (spec : NestedContinuationSpec) (evaluatedAt : Instant) (first : OhlcvBar)
    (bars : List OhlcvBar) : Prop :=
  (∀ bar ∈ bars, bar.Closed ∧ bar.intervalEnd ≤ evaluatedAt ∧
    bar.timeframe = spec.triggerTimeframe ∧ bar.instrument.providerSymbol = spec.symbol ∧
    bar.instrument = first.instrument) ∧ Market.Contiguous bars

instance (spec : NestedContinuationSpec) (evaluatedAt : Instant) (first : OhlcvBar)
    (bars : List OhlcvBar) : Decidable (Accepts spec evaluatedAt first bars) :=
  inferInstanceAs (Decidable (_ ∧ _))

def walked (spec : NestedContinuationSpec) (bar : Nat → OhlcvBar) (n : Nat) : Walk :=
  scan (advance uuid5 spec bar) {} n

/-- `detect_nested`. -/
def detectNested (bars : List OhlcvBar) (spec : NestedContinuationSpec) (evaluatedAt : Instant) :
    List NestedDetection :=
  match bars with
  | [] => []
  | first :: rest =>
    if Accepts spec evaluatedAt first (first :: rest) then
      (walked uuid5 spec (fun i => (first :: rest).getD i first) (rest.length + 1)).results
    else []

end AlphaTrade.StrategyBrain
