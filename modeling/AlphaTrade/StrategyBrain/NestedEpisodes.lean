import Mathlib.Tactic.Ring
import Mathlib.Tactic.Linarith
import AlphaTrade.StrategyBrain.Nested

/-!
# Episodes of nested continuation

An impulse is found at the one index that is a pivot width behind the loop, so each episode has an
impulse of its own and the events of one episode stand together. `Tracked` carries this through
the loop, together with what a confirmation rests on.
-/
namespace AlphaTrade.StrategyBrain
open Library
open Execution (Instant)
open Market (OhlcvBar Contiguous ClosedSeries)
open Journal (TradeDirection)
open Evidence (Uuid)

variable {uuid5 : Uuid → String → Uuid} {spec : NestedContinuationSpec} {bar : Nat → OhlcvBar}
  {i anchor impulse pullback : Nat} {walk : Walk} {sequence : Uuid}

/-! ## What a turn of the loop does -/

theorem mem_wings {width pivot j : Nat} :
    j ∈ wings width pivot ↔ pivot - width ≤ j ∧ j < pivot - width + (width + width + 1) := by
  simp [wings, List.mem_range'_1]

/-- A confirmation stands on a retracement within its bounds and a closed break. -/
theorem judge_confirmed {sequenceStart : Nat} {reasons : List String}
    (judged : judge spec bar i anchor impulse pullback sequenceStart = (.confirmed, reasons)) :
    spec.parameters.retracementDepth ≤ depth spec bar anchor impulse pullback ∧
      depth spec bar anchor impulse pullback ≤ spec.parameters.maximumRetracement ∧
      Breaks spec bar i impulse pullback := by
  unfold judge at judged
  grind

/-- What `record` does to the loop's variables. -/
inductive Recorded (uuid5 : Uuid → String → Uuid) (spec : NestedContinuationSpec)
    (bar : Nat → OhlcvBar) (i anchor impulse pullback : Nat) (sequence : Uuid)
    (walk next : Walk) : Prop
  | mk (count : Nat) (confirmed : Option Nat) (state : BrainSetupState) (reasons : List String)
      (judged : judge spec bar i anchor impulse pullback walk.sequenceStart = (state, reasons))
      (now : state = .confirmed → confirmed = some i)
      (logged : next.results = walk.results ++ [detection uuid5 spec bar i anchor impulse pullback
        count confirmed sequence state reasons])
      (kept : next.sequence = walk.sequence)
      (moved : next.anchor = some pullback ∧ next.impulse = none ∨
        next.anchor = none ∧ next.impulse = none ∨
        (state ≠ .confirmed ∧ ¬ state.Terminal) ∧ next.anchor = walk.anchor ∧
          next.impulse = walk.impulse)

variable (uuid5 spec bar i anchor impulse pullback walk sequence) in
theorem record_recorded : Recorded uuid5 spec bar i anchor impulse pullback sequence walk
    (record uuid5 spec bar i anchor impulse pullback sequence walk) := by
  rcases judged : judge spec bar i anchor impulse pullback walk.sequenceStart with
    ⟨state, reasons⟩
  unfold record
  rw [judged]
  by_cases confirmed : state = .confirmed
  · exact ⟨walk.count + 1, some i, state, reasons, judged, fun _ => rfl, by simp [confirmed],
      by simp [confirmed], .inl (by simp [confirmed])⟩
  · by_cases terminal : state.Terminal
    · exact ⟨walk.count, walk.confirmed, state, reasons, judged, fun h => absurd h confirmed,
        by simp [confirmed, terminal], by simp [confirmed, terminal],
        .inr (.inl (by simp [confirmed, terminal]))⟩
    · exact ⟨walk.count, walk.confirmed, state, reasons, judged, fun h => absurd h confirmed,
        by simp [confirmed, terminal], by simp [confirmed, terminal],
        .inr (.inr (by simp [confirmed, terminal]))⟩

variable (bar i) in
theorem ended_terminal (failed : Bool) (last : NestedDetection) :
    (ended bar i failed last).state.Terminal := by
  cases failed <;> simp [ended, BrainSetupState.Terminal]

variable (bar i) in
/-- `closing` ends the confirmation that the log ends with. -/
theorem closing_cases (failed : Bool) (results : List NestedDetection) :
    closing bar i failed results = [] ∨
      ∃ earlier last, results = earlier ++ [last] ∧ last.state = .confirmed ∧
        closing bar i failed results = [ended bar i failed last] := by
  rcases results.eq_nil_or_concat with rfl | ⟨earlier, last, rfl⟩
  · exact .inl rfl
  · by_cases confirmed : last.state = .confirmed
    · exact .inr ⟨earlier, last, List.concat_eq_append, confirmed, by simp [closing, confirmed]⟩
    · exact .inl (by simp [closing, confirmed])

/-! ## What the loop carries -/

def InOrder (event later : NestedDetection) : Prop :=
  event.impulseIndex = later.impulseIndex →
    ¬ event.state.Terminal ∧ ¬ (event.state = .confirmed ∧ later.state = .confirmed)

/-- What a confirmation rests on, in the coordinates of the loop. -/
structure Founded (spec : NestedContinuationSpec) (bar : Nat → OhlcvBar)
    (event : NestedDetection) (pullback : Nat) : Prop where
  pullbackIndex : event.pullbackIndex = some pullback
  later : event.impulseIndex < pullback
  breaks : Breaks spec bar event.eventIndex event.impulseIndex pullback
  deep : spec.parameters.retracementDepth ≤
    depth spec bar event.anchorIndex event.impulseIndex pullback
  controlled : depth spec bar event.anchorIndex event.impulseIndex pullback ≤
    spec.parameters.maximumRetracement
  rising : 0 < span spec bar event.anchorIndex event.impulseIndex
  entry : event.entry = some (closes spec bar event.eventIndex * sign spec.direction)
  stop : event.stop = some (lows spec bar pullback * sign spec.direction)
  anchor : event.anchorIndex < event.eventIndex
  direction : event.direction = spec.direction

/-- The loop's variables in front of a candle. -/
structure Tracked (uuid5 : Uuid → String → Uuid) (spec : NestedContinuationSpec)
    (bar : Nat → OhlcvBar) (i : Nat) (walk : Walk) : Prop where
  anchor : ∀ anchor ∈ walk.anchor, anchor < i
  impulse : ∀ impulse ∈ walk.impulse, impulse + spec.parameters.pivotSensitivity < i
  sequence : ∀ sequence ∈ walk.sequence, ∃ start < i, sequence = sequenceId uuid5 spec bar start
  past : ∀ event ∈ walk.results,
    event.impulseIndex + spec.parameters.pivotSensitivity < i ∧ event.eventIndex < i
  named : ∀ event ∈ walk.results, ∃ start < i,
    event.setupId = uuid5 (sequenceId uuid5 spec bar start) (bar event.impulseIndex).sourceEventId
  undecided : ∀ impulse ∈ walk.impulse, ∀ event ∈ walk.results, event.impulseIndex = impulse →
    event.state ≠ .confirmed ∧ ¬ event.state.Terminal
  ordered : walk.results.Pairwise InOrder
  founded : ∀ event ∈ walk.results, event.state = .confirmed →
    ∃ pullback, Founded spec bar event pullback

theorem tracked_start : Tracked uuid5 spec bar 0 {} := by
  constructor <;> simp

/-- Time passes. -/
theorem Tracked.later (tracked : Tracked uuid5 spec bar i walk) :
    Tracked uuid5 spec bar (i + 1) walk where
  anchor anchor is := by grind [tracked.anchor anchor is]
  impulse impulse is := by grind [tracked.impulse impulse is]
  sequence sequence is := by
    obtain ⟨start, past, rfl⟩ := tracked.sequence sequence is
    exact ⟨start, by omega, rfl⟩
  past event logged := by grind [tracked.past event logged]
  named event logged := by
    obtain ⟨start, past, named⟩ := tracked.named event logged
    exact ⟨start, by omega, named⟩
  undecided := tracked.undecided
  ordered := tracked.ordered
  founded := tracked.founded

/-- The search starts anew. -/
theorem Tracked.reset (tracked : Tracked uuid5 spec bar i walk) (resetAt : Int) :
    Tracked uuid5 spec bar i { walk with anchor := none, impulse := none, resetAt := resetAt } :=
  { tracked with anchor := by simp, impulse := by simp, undecided := by simp }

theorem tracked_seekAnchor (tracked : Tracked uuid5 spec bar i walk) :
    Tracked uuid5 spec bar (i + 1) (seekAnchor uuid5 spec bar i walk) := by
  unfold seekAnchor
  dsimp only
  split
  · exact { tracked.later with
      anchor := by grind
      sequence := by
        rintro _ ⟨⟩
        exact ⟨i - spec.parameters.pivotSensitivity, by omega, rfl⟩ }
  · exact tracked.later

/-- An ending of the last confirmation keeps the events in order. -/
theorem ordered_closing {failed : Bool} {results : List NestedDetection}
    (ordered : results.Pairwise InOrder) :
    (results ++ closing bar i failed results).Pairwise InOrder := by
  rcases closing_cases bar i failed results with
    quiet | ⟨earlier, last, rfl, confirmed, ends⟩
  · simpa [quiet] using ordered
  · rw [ends, List.pairwise_append]
    refine ⟨ordered, List.pairwise_singleton _ _, fun event logged ending is => ?_⟩
    obtain rfl := List.mem_singleton.mp is
    intro same
    refine ⟨?_, by cases failed <;> simp [ended]⟩
    rcases List.mem_append.mp logged with before | at_end
    · have : event.impulseIndex = last.impulseIndex := same
      exact ((List.pairwise_append.mp ordered).2.2 event before last (by simp) this).1
    · obtain rfl := List.mem_singleton.mp at_end
      simp [confirmed, BrainSetupState.Terminal]

theorem tracked_awaitImpulse {anchor : Nat} (tracked : Tracked uuid5 spec bar i walk)
    (none : walk.impulse = none) :
    Tracked uuid5 spec bar (i + 1) (awaitImpulse spec bar i anchor walk) := by
  unfold awaitImpulse
  dsimp only
  split
  · set failed : Bool := decide (lows spec bar i ≤ lows spec bar anchor)
    have events : ∀ event ∈ walk.results ++ closing bar i failed walk.results,
        event ∈ walk.results ∨ ∃ last ∈ walk.results, event = ended bar i failed last := by
      intro event logged
      rcases closing_cases bar i failed walk.results with
        quiet | ⟨earlier, last, split, -, ends⟩
      · exact .inl (by simpa [quiet] using logged)
      · rw [ends, List.mem_append, List.mem_singleton] at logged
        exact logged.imp_right fun is => ⟨last, by simp [split], is⟩
    exact {
      anchor := by simp
      impulse := by simp [none]
      sequence := tracked.later.sequence
      past := fun event logged => by
        rcases events event logged with old | ⟨last, old, rfl⟩
        · exact tracked.later.past event old
        · exact ⟨(tracked.later.past last old).1, by simp [ended]⟩
      named := fun event logged => by
        rcases events event logged with old | ⟨last, old, rfl⟩
        · exact tracked.later.named event old
        · exact tracked.later.named last old
      undecided := by simp [none]
      ordered := ordered_closing tracked.ordered
      founded := fun event logged confirmed => by
        rcases events event logged with old | ⟨last, old, rfl⟩
        · exact tracked.founded event old confirmed
        · have := ended_terminal bar i failed last
          simp [BrainSetupState.Terminal, confirmed] at this }
  · exact tracked.later

/-- The recorded event belongs to an open episode. -/
theorem tracked_record (tracked : Tracked uuid5 spec bar (i + 1) walk)
    (current : walk.impulse = some impulse) (before : anchor < i) (later : impulse < pullback)
    (past : pullback ≤ i) (rising : 0 < span spec bar anchor impulse)
    (here : walk.sequence = some sequence) :
    Tracked uuid5 spec bar (i + 1)
      (record uuid5 spec bar i anchor impulse pullback sequence walk) := by
  obtain ⟨count, confirmed, state, reasons, judged, now, logged, kept, moved⟩ :=
    record_recorded uuid5 spec bar i anchor impulse pullback walk sequence
  set next := record uuid5 spec bar i anchor impulse pullback sequence walk
  set event := detection uuid5 spec bar i anchor impulse pullback count confirmed sequence state
    reasons with isEvent
  have events : ∀ e ∈ next.results, e ∈ walk.results ∨ e = event := by
    simp [logged]
  have own := tracked.undecided impulse current
  have impulses : next.impulse = none ∨
      next.impulse = some impulse ∧ state ≠ .confirmed ∧ ¬ state.Terminal := by
    rcases moved with ⟨-, gone⟩ | ⟨-, gone⟩ | ⟨live, -, same⟩
    · exact .inl gone
    · exact .inl gone
    · exact .inr ⟨same.trans current, live⟩
  exact {
    anchor := by
      rcases moved with ⟨moved, -⟩ | ⟨gone, -⟩ | ⟨-, same, -⟩
      · simp [moved]; omega
      · simp [gone]
      · rw [same]
        exact tracked.anchor
    impulse := by
      rcases impulses with gone | ⟨same, -⟩
      · simp [gone]
      · rw [same, ← current]
        exact tracked.impulse
    sequence := by
      rw [kept]
      exact tracked.sequence
    past := fun e listed => by
      rcases events e listed with old | rfl
      · exact tracked.past e old
      · exact ⟨tracked.impulse impulse current, Nat.lt_succ_self i⟩
    named := fun e listed => by
      rcases events e listed with old | rfl
      · exact tracked.named e old
      · obtain ⟨start, early, named⟩ := tracked.sequence sequence here
        exact ⟨start, early, by rw [← named]; rfl⟩
    undecided := fun m is e listed same => by
      rcases impulses with gone | ⟨kept, live⟩
      · rw [gone] at is
        cases is
      · obtain rfl : impulse = m := by simpa [kept] using is
        rcases events e listed with old | rfl
        · exact own e old same
        · exact live
    ordered := by
      rw [logged, List.pairwise_append]
      refine ⟨tracked.ordered, List.pairwise_singleton _ _, fun e listed last is same => ?_⟩
      obtain rfl := List.mem_singleton.mp is
      obtain ⟨unconfirmed, unfinished⟩ := own e listed same
      exact ⟨unfinished, fun both => unconfirmed both.1⟩
    founded := fun e listed confirms => by
      rcases events e listed with old | rfl
      · exact tracked.founded e old confirms
      · obtain rfl : state = .confirmed := confirms
        obtain ⟨deep, controlled, breaks⟩ := judge_confirmed judged
        exact ⟨pullback, rfl, later, breaks, deep, controlled, rising,
          by simp [isEvent, detection, now rfl], rfl, before, rfl⟩ }

theorem tracked_observe (tracked : Tracked uuid5 spec bar (i + 1) walk)
    (current : walk.impulse = some impulse) (before : anchor < i) :
    Tracked uuid5 spec bar (i + 1) (observe uuid5 spec bar i anchor impulse walk) := by
  unfold observe
  split
  · exact tracked.reset i
  · rename_i rising
    split
    · rename_i pullback sequence lowest here
      have listed := List.argmin_mem lowest
      rw [List.mem_range'_1] at listed
      exact tracked_record tracked current before (by omega) (by omega) (not_le.mp rising) here
    · exact tracked

/-- One turn of the loop keeps track. -/
theorem tracked_advance (tracked : Tracked uuid5 spec bar i walk) :
    Tracked uuid5 spec bar (i + 1) (advance uuid5 spec bar i walk) := by
  unfold advance
  split
  · exact tracked_seekAnchor tracked
  · rename_i anchor impulse anchored current
    exact tracked_observe tracked.later current (tracked.anchor anchor anchored)
  · rename_i anchor anchored none
    dsimp only
    split
    · rename_i found
      refine tracked_observe ?_ rfl (tracked.anchor anchor anchored)
      have wide : spec.parameters.pivotSensitivity ≤ i := by
        have := found.1
        omega
      exact { tracked.later with
        impulse := by
          rintro _ ⟨⟩
          omega
        undecided := by
          rintro _ ⟨⟩ event listed same
          have := (tracked.past event listed).1
          omega }
    · exact tracked_awaitImpulse tracked none

variable (uuid5 spec bar) in
theorem tracked_walked (n : Nat) : Tracked uuid5 spec bar n (walked uuid5 spec bar n) :=
  scan_invariant _ (fun _ _ _ tracked => tracked_advance tracked) tracked_start

/-! ## A turn reads the past alone -/

def Agree (i : Nat) (bar other : Nat → OhlcvBar) : Prop := ∀ j ≤ i, bar j = other j

section Reading
variable {other : Nat → OhlcvBar} (agree : Agree i bar other)
include agree

variable {j pivot : Nat}

theorem lows_congr (past : j ≤ i) : lows spec bar j = lows spec other j := by
  rw [lows, lows, agree j past]

theorem highs_congr (past : j ≤ i) : highs spec bar j = highs spec other j := by
  rw [highs, highs, agree j past]

theorem closes_congr (past : j ≤ i) : closes spec bar j = closes spec other j := by
  rw [closes, closes, agree j past]

theorem span_congr (before : anchor ≤ i) (past : impulse ≤ i) :
    span spec bar anchor impulse = span spec other anchor impulse := by
  rw [span, span, lows_congr agree before, highs_congr agree past]

theorem depth_congr (before : anchor ≤ i) (past : impulse ≤ i) (low : pullback ≤ i) :
    depth spec bar anchor impulse pullback = depth spec other anchor impulse pullback := by
  rw [depth, depth, span_congr agree before past, lows_congr agree low, highs_congr agree past]

theorem strictLow_congr (left : spec.parameters.pivotSensitivity ≤ pivot)
    (right : pivot + spec.parameters.pivotSensitivity ≤ i) :
    StrictLow spec bar pivot ↔ StrictLow spec other pivot := by
  refine forall₂_congr fun j wing => ?_
  rw [mem_wings] at wing
  rw [lows_congr agree (j := j) (by omega), lows_congr agree (j := pivot) (by omega)]

theorem strictHigh_congr (left : spec.parameters.pivotSensitivity ≤ pivot)
    (right : pivot + spec.parameters.pivotSensitivity ≤ i) :
    StrictHigh spec bar pivot ↔ StrictHigh spec other pivot := by
  refine forall₂_congr fun j wing => ?_
  rw [mem_wings] at wing
  rw [highs_congr agree (j := j) (by omega), highs_congr agree (j := pivot) (by omega)]

theorem knownLow_congr : KnownLow spec bar i pullback ↔ KnownLow spec other i pullback :=
  and_congr_right fun left => and_congr_right fun right => strictLow_congr agree left right

/-- Amounts of the candles before are the same. -/
theorem recent_congr (f : OhlcvBar → ℚ) :
    (recent i).map (fun j => f (bar j)) = (recent i).map fun j => f (other j) := by
  refine List.map_congr_left fun j past => ?_
  rw [recent, List.mem_range'_1] at past
  rw [agree j (by omega)]

theorem priorVolume_congr : priorVolume bar i = priorVolume other i := by
  rw [priorVolume, priorVolume, recent_congr agree (·.baseVolume)]

theorem volumeRatio_congr : volumeRatio bar i = volumeRatio other i := by
  rw [volumeRatio, volumeRatio, priorVolume_congr agree, agree i le_rfl]

theorem expansion_congr : expansion bar i = expansion other i := by
  have base : baseline bar i = baseline other i := by
    rw [baseline, baseline, recent_congr agree fun b => b.high - b.low]
  rw [expansion, expansion, base, agree i le_rfl]

theorem breaks_congr (past : impulse ≤ i) :
    Breaks spec bar i impulse pullback ↔ Breaks spec other i impulse pullback := by
  rw [Breaks, Breaks, knownLow_congr agree, highs_congr agree past, closes_congr agree le_rfl,
    priorVolume_congr agree, volumeRatio_congr agree, agree i le_rfl]

theorem judge_congr {start : Nat} (before : anchor ≤ i) (past : impulse ≤ i) (low : pullback ≤ i) :
    judge spec bar i anchor impulse pullback start =
      judge spec other i anchor impulse pullback start := by
  simp only [judge, lows_congr agree le_rfl, lows_congr agree before, span_congr agree before past,
    depth_congr agree before past low, breaks_congr agree past, knownLow_congr agree,
    highs_congr agree past, closes_congr agree le_rfl]

theorem sequenceId_congr (past : pivot ≤ i) :
    sequenceId uuid5 spec bar pivot = sequenceId uuid5 spec other pivot := by
  rw [sequenceId, sequenceId, agree 0 (Nat.zero_le i), agree pivot past]

theorem detection_congr {count : Nat} {confirmed : Option Nat} {state : BrainSetupState}
    {reasons : List String} (before : anchor ≤ i) (past : impulse ≤ i) (low : pullback ≤ i) :
    detection uuid5 spec bar i anchor impulse pullback count confirmed sequence state reasons =
      detection uuid5 spec other i anchor impulse pullback count confirmed sequence state
        reasons := by
  simp only [detection, lows_congr agree low, highs_congr agree past, closes_congr agree le_rfl,
    span_congr agree before past, expansion_congr agree, volumeRatio_congr agree,
    agree i le_rfl, agree impulse past]

theorem record_congr (before : anchor ≤ i) (past : impulse ≤ i) (low : pullback ≤ i) :
    record uuid5 spec bar i anchor impulse pullback sequence walk =
      record uuid5 spec other i anchor impulse pullback sequence walk := by
  simp only [record, judge_congr agree before past low, detection_congr agree before past low]

omit agree in
/-- The first least index depends on the listed indices alone. -/
theorem argmin_congr {f g : Nat → ℚ} {indices : List Nat} (same : ∀ j ∈ indices, f j = g j) :
    indices.argmin f = indices.argmin g := by
  ext least
  rw [← Option.mem_def, ← Option.mem_def, List.mem_argmin_iff, List.mem_argmin_iff]
  refine and_congr_right fun listed => ?_
  grind

theorem observe_congr (before : anchor ≤ i) (past : impulse ≤ i) :
    observe uuid5 spec bar i anchor impulse walk =
      observe uuid5 spec other i anchor impulse walk := by
  have lowest : (List.range' (impulse + 1) (i - impulse)).argmin (lows spec bar) =
      (List.range' (impulse + 1) (i - impulse)).argmin (lows spec other) := by
    refine argmin_congr fun j listed => lows_congr agree ?_
    rw [List.mem_range'_1] at listed
    omega
  unfold observe
  rw [span_congr agree before past, lowest]
  refine if_congr Iff.rfl rfl ?_
  split
  · rename_i pullback sequence least here
    have listed := List.argmin_mem least
    rw [List.mem_range'_1] at listed
    exact record_congr agree before past (by omega)
  · rfl

theorem seekAnchor_congr :
    seekAnchor uuid5 spec bar i walk = seekAnchor uuid5 spec other i walk := by
  have pivot : i - spec.parameters.pivotSensitivity ≤ i := Nat.sub_le ..
  simp only [seekAnchor, sequenceId_congr agree pivot]
  refine if_congr (and_congr_right fun wide => ?_) rfl rfl
  rw [strictLow_congr agree (by omega) (by omega)]

theorem isImpulse_congr (before : anchor ≤ i) :
    IsImpulse spec bar i anchor ↔ IsImpulse spec other i anchor := by
  refine and_congr_right fun wide => ?_
  rw [strictHigh_congr agree (by omega) (by omega), span_congr agree before (Nat.sub_le ..),
    lows_congr agree before]

theorem overdue_congr : Overdue spec bar i walk ↔ Overdue spec other i walk := by
  rw [Overdue, Overdue, agree i le_rfl]

theorem closing_congr {failed : Bool} {results : List NestedDetection} :
    closing bar i failed results = closing other i failed results := by
  unfold closing ended
  rw [agree i le_rfl]

theorem awaitImpulse_congr (before : anchor ≤ i) :
    awaitImpulse spec bar i anchor walk = awaitImpulse spec other i anchor walk := by
  simp only [awaitImpulse, overdue_congr agree, closing_congr agree, lows_congr agree le_rfl,
    lows_congr agree before]

/-- One turn reads no candle behind its own. -/
theorem advance_congr (tracked : Tracked uuid5 spec bar i walk) :
    advance uuid5 spec bar i walk = advance uuid5 spec other i walk := by
  unfold advance
  split
  · exact seekAnchor_congr agree
  · rename_i anchor impulse anchored current
    have := tracked.impulse impulse current
    exact observe_congr agree (tracked.anchor anchor anchored).le (by omega)
  · rename_i anchor anchored none
    have before := (tracked.anchor anchor anchored).le
    dsimp only
    rw [observe_congr agree before (Nat.sub_le ..), awaitImpulse_congr agree before]
    exact if_congr (isImpulse_congr agree before) rfl rfl

end Reading

/-- The walk over the first candles depends on them alone. -/
theorem walked_congr {other : Nat → OhlcvBar} {n : Nat} (agree : ∀ j < n, bar j = other j) :
    walked uuid5 spec bar n = walked uuid5 spec other n :=
  scan_congr _ (fun _ _ _ tracked => tracked_advance tracked) tracked_start
    fun _ _ below tracked => advance_congr (fun j past => agree j (by omega)) tracked

end AlphaTrade.StrategyBrain
