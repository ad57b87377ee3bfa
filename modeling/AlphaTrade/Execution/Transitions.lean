import Mathlib.Data.List.Sort
import AlphaTrade.Execution.Rows
import AlphaTrade.Library.Check
import AlphaTrade.Library.Saturate

/-!
# Append-only transitions and the projection they determine

Every writer appends one transition and moves the projection by it. `record` is
that pair. `rebuildProjectionFromTransitions` folds the log from nothing, in
sequence order whatever the order of the list it is given.
-/
namespace AlphaTrade.Execution
open Library

def orderBySequence (ts : List Transition) : List Transition :=
  ts.insertionSort fun a b => a.sequence ≤ b.sequence

def nextSequence (ts : List Transition) : Nat :=
  match (orderBySequence ts).getLast? with
  | some t => t.sequence + 1
  | none => 1

def cumulativeWeightedPrice (previousFilled : ℚ) (previousWeighted : Option ℚ)
    (fillQuantity fillPrice : ℚ) : Except Error ℚ :=
  if fillQuantity ≤ 0 then .error (.value "Fill quantity must be positive.")
  else match previousWeighted with
    | none => .ok fillPrice
    | some weighted =>
      if previousFilled ≤ 0 then .ok fillPrice
      else .ok ((previousFilled * weighted + fillQuantity * fillPrice) /
        (previousFilled + fillQuantity))

/-- The optional columns of `apply_projection_transition`. -/
structure ProjectionUpdate where
  filledQuantity : Option ℚ := none
  remainingQuantity : Option ℚ := none
  weightedPrice : Option ℚ := none
  reconciliationStatus : Option ReconciliationStatus := none

/-- The compare-and-set on the version compares a row read in the same serialised
transaction with itself, so it always succeeds here. -/
@[simps]
def applyProjectionTransition (p : Projection) (t : Transition) (u : ProjectionUpdate) :
    Projection :=
  { p with
    version := p.version + 1
    state := t.newState
    eventWatermark := t.sequence
    filledQuantity := u.filledQuantity.getD p.filledQuantity
    remainingQuantity := u.remainingQuantity.getD p.remainingQuantity
    weightedPrice := u.weightedPrice.or p.weightedPrice
    reconciliationStatus := u.reconciliationStatus.getD p.reconciliationStatus }

/-- What a writer says about a transition; the sequence is the log's to give. -/
structure TransitionDraft where
  newState : ReceiptState
  sourceFact : SourceFact
  sourceIdentity : String
  recordedAt : Instant
  quantity : Option ℚ := none
  quantityUnit : Option QuantityUnit := none
  unitPrice : Option ℚ := none

@[simps]
def appendTransition (ts : List Transition) (priorState : Option ReceiptState)
    (d : TransitionDraft) : Transition where
  sequence := nextSequence ts
  priorState := priorState
  newState := d.newState
  sourceFact := d.sourceFact
  sourceIdentity := d.sourceIdentity
  quantity := d.quantity
  quantityUnit := d.quantityUnit
  unitPrice := d.unitPrice
  recordedAt := d.recordedAt

@[simps]
def Command.record (k : Command) (d : TransitionDraft) (u : ProjectionUpdate) : Command :=
  let t := appendTransition k.transitions (some k.projection.state) d
  { k with
    transitions := k.transitions ++ [t]
    projection := applyProjectionTransition k.projection t u }

@[simp] theorem Command.accountKey_record (k : Command) (d : TransitionDraft)
    (u : ProjectionUpdate) : (k.record d u).accountKey = k.accountKey := rfl

structure RebuiltProjection where
  state : ReceiptState
  filledQuantity : ℚ
  remainingQuantity : ℚ
  weightedPrice : Option ℚ
  eventWatermark : Nat
  reconciliationStatus : ReconciliationStatus
  deriving DecidableEq

/-- The loop variables of the rebuild. -/
structure RebuildState where
  filled : ℚ
  remaining : ℚ
  state : Option ReceiptState
  watermark : Nat
  weighted : Option ℚ

def rebuildStep (s : RebuildState) (t : Transition) : Except Error RebuildState :=
  match t.sourceFact, t.quantity with
  | .uniqueFill, some quantity => do
    let weighted ← match t.unitPrice with
      | some price =>
        (cumulativeWeightedPrice s.filled s.weighted quantity price).map some
      | none => .ok s.weighted
    .ok (⟨s.filled + quantity, clampZero (s.remaining - quantity), some t.newState, t.sequence,
      weighted⟩)
  | _, _ => .ok { s with state := some t.newState, watermark := t.sequence }

def rebuiltReconciliation : ReceiptState → ReconciliationStatus
  | .operatorHold => .operatorHold
  | .reconciliationRequired | .absencePending | .absenceProven | .resubmitAuthorized => .required
  | _ => .notRequired

/-- The row the loop variables make, once there was a transition. -/
def RebuildState.toProjection (s : RebuildState) : Except Error RebuiltProjection :=
  match s.state with
  | none => .error (.value "Cannot rebuild a projection without transitions.")
  | some state => .ok
    { state := state
      filledQuantity := s.filled
      remainingQuantity := s.remaining
      weightedPrice := s.weighted
      eventWatermark := s.watermark
      reconciliationStatus := rebuiltReconciliation state }

def rebuildProjectionFromTransitions (ts : List Transition) (initialRemaining : ℚ) :
    Except Error RebuiltProjection := do
  let s ← (orderBySequence ts).foldlM rebuildStep
    { filled := 0, remaining := initialRemaining, state := none, watermark := 0, weighted := none }
  s.toProjection

end AlphaTrade.Execution
