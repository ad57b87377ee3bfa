import AlphaTrade.Execution.Fills
import AlphaTrade.Library.Numbered

/-!
# The projection is a function of the log

Every writer of a projection appends the transition that replays it: a fill carries its
quantity and price, and every other transition leaves the filled quantity and the average
price alone. The claim's transition carries a quantity too, but is no fill.
-/
namespace AlphaTrade.Execution
open Library

variable {ts : List Transition} {s : RebuildState} {t : Transition}

/-- A log numbered so far goes on with the next number. -/
theorem nextSequence_eq (h : Numbered (·.sequence) ts) : nextSequence ts = ts.length + 1 := by
  have sorted : orderBySequence ts = ts := h.insertionSort_eq (List.Perm.refl ts)
  unfold nextSequence
  rw [sorted]
  cases last : ts.getLast? with
  | none =>
    obtain rfl := List.getLast?_eq_none_iff.mp last
    rfl
  | some t =>
    have number := h.number_getLast last
    dsimp only at number ⊢
    omega

def RebuildState.start (initialRemaining : ℚ) : RebuildState where
  filled := 0
  remaining := initialRemaining
  state := none
  watermark := 0
  weighted := none

/-- The loop variables of the rebuild agree with a projection. -/
structure RebuildState.Agrees (s : RebuildState) (p : Projection) : Prop where
  state : s.state = some p.state
  filled : s.filled = p.filledQuantity
  weighted : s.weighted = p.weightedPrice
  watermark : s.watermark = p.eventWatermark

theorem rebuildStep_of_ne (h : t.sourceFact ≠ .uniqueFill) :
    rebuildStep s t = .ok { s with state := some t.newState, watermark := t.sequence } := by
  unfold rebuildStep
  split
  · contradiction
  · rfl

theorem rebuildStep_fill {quantity price weighted : ℚ} (fact : t.sourceFact = .uniqueFill)
    (filled : t.quantity = some quantity) (priced : t.unitPrice = some price)
    (average : cumulativeWeightedPrice s.filled s.weighted quantity price = .ok weighted) :
    rebuildStep s t = .ok ⟨s.filled + quantity, clampZero (s.remaining - quantity),
      some t.newState, t.sequence, some weighted⟩ := by
  simp [rebuildStep, fact, filled, priced, average, Except.map]

namespace Command

/-- The log is numbered and, from any initial remainder, replays to the projection. -/
structure LogInv (k : Command) : Prop where
  numbered : Numbered (·.sequence) k.transitions
  replays : ∀ initialRemaining, ∃ s, k.transitions.foldlM rebuildStep
    (RebuildState.start initialRemaining) = .ok s ∧ s.Agrees k.projection

variable {cat : Catalog} {gate : Gate} {k k' : Command} {c : CommandId}

variable {d : TransitionDraft} {u : ProjectionUpdate}

/-- One more transition, with what the rebuild makes of it. -/
theorem LogInv.record (h : LogInv k)
    (step : ∀ s : RebuildState, s.Agrees k.projection → ∃ s',
      rebuildStep s (appendTransition k.transitions (some k.projection.state) d) = .ok s' ∧
      s'.Agrees (k.record d u).projection) :
    LogInv (k.record d u) := by
  constructor
  · rw [record_transitions]
    exact h.numbered.concat (nextSequence_eq h.numbered)
  · intro initialRemaining
    obtain ⟨s, replayed, agrees⟩ := h.replays initialRemaining
    obtain ⟨s', stepped, agrees'⟩ := step s agrees
    refine ⟨s', ?_, agrees'⟩
    rw [record_transitions, List.foldlM_append, replayed]
    simpa [List.foldlM] using stepped

/-- A transition that is no fill, and writes neither quantity nor price. -/
theorem LogInv.record_of_ne (h : LogInv k) (fact : d.sourceFact ≠ .uniqueFill)
    (filled : u.filledQuantity = none) (weighted : u.weightedPrice = none) :
    LogInv (k.record d u) := by
  refine h.record fun s agrees => ⟨_, rebuildStep_of_ne fact, ?_⟩
  constructor
  · rfl
  · simpa [filled] using agrees.filled
  · simpa [weighted] using agrees.weighted
  · rfl

theorem LogInv.setEffect (h : LogInv k) (e : Effect) : LogInv (k.setEffect e) :=
  ⟨h.numbered, h.replays⟩

theorem LogInv.setReservation (h : LogInv k) (r : Reservation) : LogInv (k.setReservation r) :=
  ⟨h.numbered, h.replays⟩

theorem LogInv.addFill (h : LogInv k) (fact : FillFact) : LogInv (k.addFill fact) :=
  ⟨h.numbered, h.replays⟩

theorem LogInv.of_mark (h : LogInv k) (m : Mark gate k k') : LogInv k' := by
  cases m with
  | lease _ _ => exact h.setEffect _
  | authorize _ _ _ => exact h.setEffect _
  | fence _ _ _ => exact h.setEffect _
  | block _ _ _ _ _ => exact (h.record_of_ne (by simp) rfl rfl).setEffect _
  | ambiguous _ => exact (h.record_of_ne (by simp) rfl rfl).setEffect _
  | acknowledge _ => exact (h.record_of_ne (by simp) rfl rfl).setEffect _
  | reject _ => exact (h.record_of_ne (by simp) rfl rfl).setEffect _
  | cancel _ => exact h.record_of_ne (by simp) rfl rfl

/-- A fill's transition replays the average the fill wrote. -/
theorem LogInv.recordFill (h : LogInv k) {fact : FillFact} {weighted : ℚ} {now : Instant}
    (average : cumulativeWeightedPrice k.projection.filledQuantity k.projection.weightedPrice
      fact.quantity fact.price = .ok weighted) : LogInv (k.recordFill fact weighted now) := by
  refine h.record fun s agrees => ?_
  have replayed : cumulativeWeightedPrice s.filled s.weighted fact.quantity fact.price =
      .ok weighted := by
    rw [agrees.filled, agrees.weighted]
    exact average
  refine ⟨_, rebuildStep_fill rfl rfl rfl replayed, ?_⟩
  constructor
  · rfl
  · simp [agrees.filled]
  · simp
  · rfl

theorem LogInv.of_move (h : LogInv k) (m : Move gate cat k k') : LogInv k' := by
  cases m with
  | mark m => exact h.of_mark m
  | roll m =>
    obtain ⟨r, cause, -, -, -, rfl⟩ := m.orphan
    exact h.setReservation _
  | release _ _ => exact h.setReservation _
  | fill m =>
    obtain ⟨r, notional, weighted, now, -, -, average, rfl⟩ := m.written
    exact ((h.addFill _).recordFill average).setReservation _

/-- The log as claims open it: one transition that is no fill. -/
theorem logInv_of_single {intent : ReservationIntent}
    (transitions : k.transitions = [appendTransition [] none d])
    (projection : k.projection = PendingClaim.projection d.newState intent)
    (fact : d.sourceFact ≠ .uniqueFill) : LogInv k := by
  constructor
  · rw [transitions]
    exact numbered_singleton rfl
  · intro initialRemaining
    have step := rebuildStep_of_ne (s := RebuildState.start initialRemaining)
      (t := appendTransition [] none d) fact
    refine ⟨_, by simpa [transitions] using step, ?_⟩
    rw [projection]
    constructor <;> rfl

theorem Created.logInv (h : Created cat c k) : LogInv k := by
  cases h with
  | blocked _ _ => exact logInv_of_single rfl rfl (by simp)
  | allowed _ _ _ _ => exact logInv_of_single rfl rfl (by simp)

end Command

variable {k : Command}

theorem reached_logInv {cat : Catalog} {ls : List Label} {c : CommandId}
    (find : (reached cat ls).db.commands.find c = some k) : k.LogInv :=
  reached_invariant (I := fun _ k => k.LogInv) (fun _ _ => Command.Created.logInv)
    (fun _ _ _ => Command.LogInv.of_move) (along_respects_any cat _ ls) find

/-- The rebuild sorts the log back, so it makes its row from the loop over the log. -/
theorem rebuild_eq (inv : k.LogInv) (perm : ts.Perm k.transitions) {initialRemaining : ℚ}
    (replayed : k.transitions.foldlM rebuildStep (RebuildState.start initialRemaining) = .ok s) :
    rebuildProjectionFromTransitions ts initialRemaining = s.toProjection := by
  have ordered : orderBySequence ts = k.transitions := inv.numbered.insertionSort_eq perm
  unfold rebuildProjectionFromTransitions
  rw [ordered]
  change (k.transitions.foldlM rebuildStep (RebuildState.start initialRemaining) >>= _) = _
  rw [replayed]
  rfl

/-- After any run, the rebuild from a command's stored transitions, in any order and from any
initial remainder, succeeds with the state, the filled quantity, the average price and the
watermark of the stored projection. -/
theorem rebuild_agrees_with_projection (cat : Catalog) (ls : List Label) (c : CommandId)
    (k : Command) (find : (reached cat ls).db.commands.find c = some k) (ts : List Transition)
    (perm : ts.Perm k.transitions) (initialRemaining : ℚ) :
    ∃ p, rebuildProjectionFromTransitions ts initialRemaining = .ok p ∧
      p.state = k.projection.state ∧ p.filledQuantity = k.projection.filledQuantity ∧
      p.weightedPrice = k.projection.weightedPrice ∧
      p.eventWatermark = k.projection.eventWatermark := by
  have inv := reached_logInv find
  obtain ⟨s, replayed, agrees⟩ := inv.replays initialRemaining
  rw [rebuild_eq inv perm replayed]
  simp only [RebuildState.toProjection, agrees.state]
  exact ⟨_, rfl, rfl, agrees.filled, agrees.weighted, agrees.watermark⟩

/-- The log of two fills, read backwards. -/
theorem rebuild_agrees_with_projection_filledRun :
    ((reached (Sample.catalog blofinDemoVenue) filledRun).db.commands.find 1).map
        (fun k => (k.transitions.length, k.projection.state)) = some (3, .acknowledged) ∧
      ∀ k, (reached (Sample.catalog blofinDemoVenue) filledRun).db.commands.find 1 = some k →
        ∃ p, rebuildProjectionFromTransitions k.transitions.reverse 2 = .ok p ∧
          p.state = k.projection.state ∧ p.filledQuantity = k.projection.filledQuantity ∧
          p.weightedPrice = k.projection.weightedPrice ∧
          p.eventWatermark = k.projection.eventWatermark :=
  ⟨by decide +kernel, fun k find =>
    rebuild_agrees_with_projection _ _ 1 k find _ (List.reverse_perm _) 2⟩

end AlphaTrade.Execution
