import AlphaTrade.Library.Intervals
import AlphaTrade.PaperExit.Monitor

/-!
# The first touch

A series that is let through is a chain of intervals from the entry on, so its order is that of
the starts and a later poll can only add to its end. The exit is then the first touch for good,
as long as every bar can be compared: the eligibility test compares a bar before it asks whether
its readings are aware, and one naive bar makes it raise.
-/
namespace AlphaTrade.PaperExit
open Library
open Market (Timeframe intervalTimedelta intervalTimedelta_pos)

variable {trade : OpenInternalPaperTrade} {bars bars' : List ExitBar} {bar other : ExitBar}
  {poll poll' : Poll} {evaluatedAt : PyDateTime} {decision : ExitDecision}

/-! ## What the exit is to be -/

def eligibleFrom (trade : OpenInternalPaperTrade) : Int :=
  let moment := trade.entryTime.instant
  let boundary := boundaryAtOrBefore moment (intervalTimedelta trade.timeframe)
  if moment - boundary ≤ entrySettlementGap then boundary else moment

/-- A closed bar behind the entry. -/
structure Eligible (trade : OpenInternalPaperTrade) (evaluatedAt : PyDateTime) (bar : ExitBar) :
    Prop where
  startAware : bar.intervalStart.IsAware
  endAware : bar.intervalEnd.IsAware
  afterEntry : eligibleFrom trade ≤ bar.intervalStart.instant
  closed : bar.intervalEnd.instant ≤ evaluatedAt.instant

instance : Decidable (Eligible trade evaluatedAt bar) :=
  decidable_of_iff (bar.intervalStart.IsAware ∧ bar.intervalEnd.IsAware ∧
      eligibleFrom trade ≤ bar.intervalStart.instant ∧
      bar.intervalEnd.instant ≤ evaluatedAt.instant)
    ⟨fun ⟨startAware, endAware, afterEntry, closed⟩ => ⟨startAware, endAware, afterEntry, closed⟩,
      fun eligible => ⟨eligible.1, eligible.2, eligible.3, eligible.4⟩⟩

def StopHit (trade : OpenInternalPaperTrade) (bar : ExitBar) : Prop :=
  opensThroughStop trade bar = true ∨ stopTouched trade bar = true

def Touches (trade : OpenInternalPaperTrade) (bar : ExitBar) : Prop :=
  StopHit trade bar ∨ targetTouched trade bar = true

def NoBetter (trade : OpenInternalPaperTrade) (price level : Price) : Prop :=
  match trade.direction with
  | .long => price.toRat ≤ level.toRat
  | .short => level.toRat ≤ price.toRat

/-- The exit that a bar gives: the stop before the target, at the open where the bar gaps. -/
structure ExitsAt (trade : OpenInternalPaperTrade) (bar : ExitBar) (decision : ExitDecision) :
    Prop where
  trade_eq : decision.trade = trade
  occurredAt : decision.occurredAt = bar.intervalEnd
  stop : StopHit trade bar → decision.reason = .stopHit ∧
    NoBetter trade decision.exitPrice trade.stop ∧
    decision.exitPrice = if opensThroughStop trade bar then bar.openPrice else trade.stop
  target : ¬StopHit trade bar → decision.reason = .targetHit ∧ decision.exitPrice = trade.target

def FirstTouch (trade : OpenInternalPaperTrade) (bars : List ExitBar) (evaluatedAt : PyDateTime) :
    Option ExitDecision → Prop
  | none => ∀ bar ∈ bars, Eligible trade evaluatedAt bar → ¬Touches trade bar
  | some decision => ∃ bar ∈ bars, Eligible trade evaluatedAt bar ∧ Touches trade bar ∧
      ExitsAt trade bar decision ∧
      ∀ other ∈ bars, Eligible trade evaluatedAt other → Touches trade other →
        other = bar ∨ bar.intervalStart.instant < other.intervalStart.instant

/-- A later poll of a series that has grown: it is let through itself, or the bars that were not
closed at the first poll begin behind those that were. -/
structure Extends (trade : OpenInternalPaperTrade) (bars bars' : List ExitBar)
    (evaluatedAt later : PyDateTime) : Prop where
  aware : later.IsAware
  notBefore : evaluatedAt.instant ≤ later.instant
  kept : closedBars bars evaluatedAt ⊆ bars'
  grown : candleSeriesBlock bars' trade.timeframe later (some trade.entryTime) = none ∨
    ∀ bar ∈ bars', bar ∈ closedBars bars evaluatedAt ∨
      ∀ closed ∈ closedBars bars evaluatedAt,
        closed.intervalEnd.instant ≤ bar.intervalStart.instant

def Comparable (trade : OpenInternalPaperTrade) (bar : ExitBar) : Prop :=
  bar.intervalStart.IsAware ∧
    (eligibleFrom trade ≤ bar.intervalStart.instant → bar.intervalEnd.IsAware)

instance : DecidablePred (Comparable trade) := fun _ =>
  inferInstanceAs (Decidable (_ ∧ (_ → _)))

/-- The exit is the first touch, in whatever order the bars are given, and stays what it is. A
later poll decides it again exactly when its bars can be compared. -/
def Settled (trade : OpenInternalPaperTrade) (bars : List ExitBar) (poll : Poll) : Prop :=
  ∃ result, decideExit trade bars poll = .ok result ∧
    FirstTouch trade bars poll.evaluatedAt result ∧
    (∀ bars', bars'.Perm bars → decideExit trade bars' poll = .ok result) ∧
    ∀ decision ∈ result, ∀ bars' poll',
      Extends trade bars bars' poll.evaluatedAt poll'.evaluatedAt →
        ((∃ again, decideExit trade bars' poll' = .ok (some again) ∧
            again.reason = decision.reason ∧ again.exitPrice = decision.exitPrice ∧
            again.occurredAt = decision.occurredAt) ↔
          ∀ bar ∈ bars', Comparable trade bar)

/-! ## The eligibility time -/

theorem entryEligibilityTime_of_aware (aware : trade.entryTime.IsAware) :
    entryEligibilityTime trade.entryTime trade.timeframe = .aware (eligibleFrom trade) := by
  simp only [entryEligibilityTime, PyDateTime.moment_of_aware aware, eligibleFrom]
  split <;> rfl

/-- An eligible bar begins less than a step before the entry, if before it at all. -/
theorem lt_eligibleFrom (trade : OpenInternalPaperTrade) :
    trade.entryTime.instant - intervalTimedelta trade.timeframe < eligibleFrom trade := by
  have positive := intervalTimedelta_pos trade.timeframe
  have less := Int.emod_lt_of_pos (trade.entryTime.instant - epoch) positive
  unfold eligibleFrom boundaryAtOrBefore
  dsimp only
  split <;> linarith

/-! ## The comprehension -/

theorem comprehension_eq_ok {α ε : Type} {condition : α → Except ε Bool} {p : α → Bool}
    {l : List α} (holds : ∀ a ∈ l, condition a = .ok (p a)) :
    comprehension condition l = .ok (l.filter p) := by
  induction l with
  | nil => rfl
  | cons a l ih =>
    obtain ⟨first, rest⟩ := List.forall_mem_cons.mp holds
    simp only [comprehension, first, ih rest, List.filter_cons, ok_bind]
    cases p a <;> rfl

theorem comprehension_eq_error {α ε : Type} {condition : α → Except ε Bool} {l : List α}
    {e : ε} (only : ∀ a ∈ l, ∀ raised, condition a = .error raised → raised = e)
    (raises : ∃ a ∈ l, condition a = .error e) :
    comprehension condition l = .error e := by
  induction l with
  | nil => simp at raises
  | cons a l ih =>
    obtain ⟨first, rest⟩ := List.forall_mem_cons.mp only
    unfold comprehension
    cases here : condition a with
    | error raised => rw [first raised here]; rfl
    | ok kept =>
      obtain ⟨b, listed, raised⟩ := raises
      have later : b ∈ l := by
        rcases List.mem_cons.mp listed with rfl | later
        · rw [here] at raised
          cases raised
        · exact later
      rw [ok_bind, ih rest ⟨b, later, raised⟩]
      rfl

theorem isEligible_eq (entry : trade.entryTime.IsAware) (clock : evaluatedAt.IsAware)
    (bar : ExitBar) :
    isEligible trade evaluatedAt bar =
      if Comparable trade bar then .ok (decide (Eligible trade evaluatedAt bar))
      else .error .typeError := by
  unfold isEligible
  rw [entryEligibilityTime_of_aware entry, PyDateTime.moment_of_aware clock]
  by_cases startAware : bar.intervalStart.IsAware
  · rw [PyDateTime.moment_of_aware startAware]
    by_cases after : eligibleFrom trade ≤ bar.intervalStart.instant
    · by_cases endAware : bar.intervalEnd.IsAware
      · rw [PyDateTime.moment_of_aware endAware,
          if_pos (show Comparable trade bar from ⟨startAware, fun _ => endAware⟩)]
        by_cases closed : bar.intervalEnd.instant ≤ evaluatedAt.instant
        · have eligible : Eligible trade evaluatedAt bar := ⟨startAware, endAware, after, closed⟩
          simp [PyDateTime.Moment.le, after, closed, startAware, endAware, eligible]
        · have passed : ¬Eligible trade evaluatedAt bar := fun eligible => closed eligible.closed
          simp [PyDateTime.Moment.le, after, closed, passed]
      · have bad : ¬Comparable trade bar := fun comparable => endAware (comparable.2 after)
        rw [PyDateTime.moment_of_naive endAware, if_neg bad]
        simp [PyDateTime.Moment.le, after]
    · have early : ¬Eligible trade evaluatedAt bar := fun eligible => after eligible.afterEntry
      rw [if_pos (show Comparable trade bar from ⟨startAware, fun h => absurd h after⟩)]
      simp [PyDateTime.Moment.le, after, early]
  · rw [PyDateTime.moment_of_naive startAware,
      if_neg (show ¬Comparable trade bar from fun comparable => startAware comparable.1)]
    rfl

def orderedEligible (trade : OpenInternalPaperTrade) (bars : List ExitBar)
    (evaluatedAt : PyDateTime) : List ExitBar :=
  (bars.filter fun bar => Eligible trade evaluatedAt bar).insertionSort fun left right =>
    left.intervalStart.instant ≤ right.intervalStart.instant

theorem mem_orderedEligible :
    bar ∈ orderedEligible trade bars evaluatedAt ↔
      bar ∈ bars ∧ Eligible trade evaluatedAt bar := by
  simp [orderedEligible, List.mem_insertionSort]

theorem decideExit_eq (entry : trade.entryTime.IsAware) (clock : poll.evaluatedAt.IsAware)
    (comparable : ∀ bar ∈ bars, Comparable trade bar) :
    decideExit trade bars poll =
      .ok ((orderedEligible trade bars poll.evaluatedAt).findSome? (exitAt trade poll)) := by
  unfold decideExit
  rw [comprehension_eq_ok (p := fun bar => decide (Eligible trade poll.evaluatedAt bar))
    fun bar listed => by rw [isEligible_eq entry clock, if_pos (comparable bar listed)]]
  rfl

theorem decideExit_raises (entry : trade.entryTime.IsAware) (clock : poll.evaluatedAt.IsAware)
    (naive : ¬∀ bar ∈ bars, Comparable trade bar) :
    decideExit trade bars poll = .error .typeError := by
  push Not at naive
  obtain ⟨bar, listed, bad⟩ := naive
  unfold decideExit
  rw [comprehension_eq_error (e := .typeError) (fun _ _ raised _ => by cases raised; rfl)
    ⟨bar, listed, by rw [isEligible_eq entry clock, if_neg bad]⟩]
  rfl

/-! ## The exit of a bar -/

theorem touch_eq_none : touch trade bar = none ↔
    stopTouched trade bar = false ∧ targetTouched trade bar = false := by
  unfold touch
  cases stopTouched trade bar <;> cases targetTouched trade bar <;> simp

theorem exitAt_eq_none : exitAt trade poll bar = none ↔ ¬Touches trade bar := by
  simp only [exitAt, touch_eq_none, Touches, StopHit]
  cases opensThroughStop trade bar <;> cases stopTouched trade bar <;>
    cases targetTouched trade bar <;> simp

theorem noBetter_of_gap (gapped : opensThroughStop trade bar = true) :
    NoBetter trade bar.openPrice trade.stop := by
  unfold opensThroughStop at gapped
  unfold NoBetter
  cases direction : trade.direction <;> simp_all

theorem noBetter_refl (trade : OpenInternalPaperTrade) (price : Price) :
    NoBetter trade price price := by
  unfold NoBetter
  cases trade.direction <;> exact le_rfl

theorem exitsAt_of_exitAt (exits : exitAt trade poll bar = some decision) :
    ExitsAt trade bar decision := by
  simp only [exitAt] at exits
  split at exits
  · cases exits
  obtain rfl := Option.some.inj exits
  refine ⟨rfl, rfl, fun hit => ?_, fun missed => ?_⟩
  · by_cases gapped : opensThroughStop trade bar = true
    · simpa [gapped] using noBetter_of_gap gapped
    · have stopped := hit.resolve_left gapped
      cases target : targetTouched trade bar <;>
        simp [touch, gapped, stopped, target, noBetter_refl]
  · simp only [StopHit, not_or, Bool.not_eq_true] at missed
    cases target : targetTouched trade bar <;> simp [touch, missed.1, missed.2, target]

/-- Exits of one bar differ in their evidence only. -/
theorem ExitsAt.same {again : ExitDecision} (first : ExitsAt trade bar decision)
    (second : ExitsAt trade bar again) :
    again.reason = decision.reason ∧ again.exitPrice = decision.exitPrice ∧
      again.occurredAt = decision.occurredAt := by
  refine ⟨?_, ?_, second.occurredAt.trans first.occurredAt.symm⟩ <;>
    by_cases hit : StopHit trade bar
  · exact (second.stop hit).1.trans (first.stop hit).1.symm
  · exact (second.target hit).1.trans (first.target hit).1.symm
  · exact (second.stop hit).2.2.trans (first.stop hit).2.2.symm
  · exact (second.target hit).2.trans (first.target hit).2.symm

/-! ## The loop -/

theorem no_touch
    (none : (orderedEligible trade bars poll.evaluatedAt).findSome? (exitAt trade poll) = none) :
    ∀ bar ∈ bars, Eligible trade poll.evaluatedAt bar → ¬Touches trade bar :=
  fun bar listed eligible => exitAt_eq_none.mp (List.findSome?_eq_none_iff.mp none bar
    (mem_orderedEligible.mpr ⟨listed, eligible⟩))

/-- No eligible bar that touches a level begins before the one that decides. -/
theorem least_touch
    (found : (orderedEligible trade bars poll.evaluatedAt).findSome? (exitAt trade poll) =
      some decision) :
    ∃ bar ∈ bars, Eligible trade poll.evaluatedAt bar ∧ Touches trade bar ∧
      ExitsAt trade bar decision ∧
      ∀ other ∈ bars, Eligible trade poll.evaluatedAt other → Touches trade other →
        bar.intervalStart.instant ≤ other.intervalStart.instant := by
  have total : Std.Total fun left right : ExitBar =>
      left.intervalStart.instant ≤ right.intervalStart.instant := ⟨fun _ _ => le_total _ _⟩
  have trans : IsTrans ExitBar fun left right =>
      left.intervalStart.instant ≤ right.intervalStart.instant := ⟨fun _ _ _ => le_trans⟩
  have sorted : (orderedEligible trade bars poll.evaluatedAt).Pairwise fun left right =>
      left.intervalStart.instant ≤ right.intervalStart.instant := List.pairwise_insertionSort _ _
  obtain ⟨before, bar, behind, split, exits, none⟩ := List.findSome?_eq_some_iff.mp found
  have member : bar ∈ orderedEligible trade bars poll.evaluatedAt := by simp [split]
  obtain ⟨listed, eligible⟩ := mem_orderedEligible.mp member
  have touches : Touches trade bar := by
    by_contra missed
    rw [exitAt_eq_none.mpr missed] at exits
    cases exits
  refine ⟨bar, listed, eligible, touches, exitsAt_of_exitAt exits,
    fun other present further touched => ?_⟩
  have place := mem_orderedEligible.mpr ⟨present, further⟩
  rw [split] at place sorted
  rcases List.mem_append.mp place with sooner | here
  · exact absurd (exitAt_eq_none.mp (none other sooner)) (not_not.mpr touched)
  rcases List.mem_cons.mp here with rfl | later
  · exact le_rfl
  · obtain ⟨-, sorted, -⟩ := List.pairwise_append.mp sorted
    exact (List.pairwise_cons.mp sorted).1 other later

/-! ## A series that is let through -/

def series (bars : List ExitBar) (evaluatedAt : PyDateTime) : List ExitBar :=
  orderedBars (closedBars bars evaluatedAt)

theorem perm_series (bars : List ExitBar) (evaluatedAt : PyDateTime) :
    (series bars evaluatedAt).Perm (closedBars bars evaluatedAt) := List.perm_insertionSort _ _

theorem mem_closedBars : bar ∈ closedBars bars evaluatedAt ↔
    bar ∈ bars ∧ bar.intervalStart.IsAware ∧ bar.intervalEnd.IsAware ∧
      bar.intervalEnd.instant ≤ evaluatedAt.instant := by
  simp [closedBars]

theorem Eligible.mem_closedBars (eligible : Eligible trade evaluatedAt bar) (listed : bar ∈ bars) :
    bar ∈ closedBars bars evaluatedAt :=
  PaperExit.mem_closedBars.mpr
    ⟨listed, eligible.startAware, eligible.endAware, eligible.closed⟩

theorem chain_of_meets {step : Int} {previous : Option ExitBar} {l : List ExitBar}
    (h : meets step previous l = true) :
    (∀ bar ∈ l, bar.intervalEnd.instant = bar.intervalStart.instant + step) ∧
      (previous.toList ++ l).IsChain fun left right =>
        right.intervalStart.instant = left.intervalEnd.instant := by
  induction l generalizing previous with
  | nil => cases previous <;> simp
  | cons bar l ih =>
    simp only [meets, Bool.and_eq_true, decide_eq_true_eq] at h
    obtain ⟨⟨long, joined⟩, rest⟩ := h
    obtain ⟨allLong, chain⟩ := ih rest
    refine ⟨List.forall_mem_cons.mpr ⟨by linarith, allLong⟩, ?_⟩
    cases previous with
    | none => exact chain
    | some before => exact List.isChain_cons_cons.mpr ⟨by simpa using joined, chain⟩

/-- What it means for a series to be let through: its closed bars form a chain that begins no
later than the entry. -/
structure Readable (trade : OpenInternalPaperTrade) (bars : List ExitBar)
    (evaluatedAt : PyDateTime) : Prop where
  entry : trade.entryTime.IsAware
  clock : evaluatedAt.IsAware
  chain : Abutting (·.intervalStart.instant) (·.intervalEnd.instant)
    (intervalTimedelta trade.timeframe) (series bars evaluatedAt)
  reaches : ∃ first ∈ series bars evaluatedAt,
    first.intervalStart.instant ≤ trade.entryTime.instant

theorem readable_of_through
    (through : candleSeriesBlock bars trade.timeframe evaluatedAt (some trade.entryTime) = none) :
    Readable trade bars evaluatedAt := by
  unfold candleSeriesBlock at through
  dsimp only at through
  split at through
  · cases through
  rename_i clock
  split at through
  · cases through
  rename_i leading
  split at through
  · cases through
  split at through
  · cases through
  rename_i joined
  simp only [Option.any_some, Bool.or_eq_true, decide_eq_true_eq, Bool.not_eq_true',
    Bool.not_eq_false, not_or, not_not, Option.any_eq_true] at leading
  obtain ⟨entry, first, head, early⟩ := leading
  obtain ⟨long, chain⟩ := chain_of_meets (by simpa using joined)
  exact ⟨entry, not_not.mp clock, ⟨long, chain⟩, first, List.mem_of_head? head, early⟩

namespace Readable

theorem unique (readable : Readable trade bars evaluatedAt) {left right : ExitBar}
    (first : left ∈ closedBars bars evaluatedAt) (second : right ∈ closedBars bars evaluatedAt)
    (same : left.intervalStart.instant = right.intervalStart.instant) : left = right := by
  have perm := perm_series bars evaluatedAt
  exact readable.chain.eq_of_start (intervalTimedelta_pos _) (perm.mem_iff.mpr first)
    (perm.mem_iff.mpr second) same

/-- The order in which the bars are given does not matter. -/
theorem orderedEligible_of_perm (readable : Readable trade bars evaluatedAt)
    (perm : bars'.Perm bars) :
    orderedEligible trade bars' evaluatedAt = orderedEligible trade bars evaluatedAt := by
  have total : Std.Total fun left right : ExitBar =>
      left.intervalStart.instant ≤ right.intervalStart.instant := ⟨fun _ _ => le_total _ _⟩
  have trans : IsTrans ExitBar fun left right =>
      left.intervalStart.instant ≤ right.intervalStart.instant := ⟨fun _ _ _ => le_trans⟩
  refine List.Perm.eq_of_pairwise (fun left right first second le ge => ?_)
    (List.pairwise_insertionSort _ _) (List.pairwise_insertionSort _ _)
    ((List.perm_insertionSort _ _).trans
      ((perm.filter _).trans (List.perm_insertionSort _ _).symm))
  obtain ⟨firstListed, firstEligible⟩ := mem_orderedEligible.mp first
  obtain ⟨secondListed, secondEligible⟩ := mem_orderedEligible.mp second
  exact readable.unique (firstEligible.mem_closedBars (perm.subset firstListed))
    (secondEligible.mem_closedBars secondListed) (le_antisymm le ge)

/-- The loop finds the first touch. -/
theorem firstTouch (readable : Readable trade bars poll.evaluatedAt) :
    FirstTouch trade bars poll.evaluatedAt
      ((orderedEligible trade bars poll.evaluatedAt).findSome? (exitAt trade poll)) := by
  cases found : (orderedEligible trade bars poll.evaluatedAt).findSome? (exitAt trade poll) with
  | none => exact no_touch found
  | some decision =>
    obtain ⟨bar, listed, eligible, touches, exits, least⟩ := least_touch found
    refine ⟨bar, listed, eligible, touches, exits, fun other present further touched => ?_⟩
    rcases (least other present further touched).lt_or_eq with less | same
    · exact .inr less
    · exact .inl (readable.unique (further.mem_closedBars present) (eligible.mem_closedBars listed)
        same.symm)

end Readable

/-! ## Later polls -/

theorem Extends.closed_subset (extension : Extends trade bars bars' evaluatedAt poll.evaluatedAt) :
    closedBars bars evaluatedAt ⊆ closedBars bars' poll.evaluatedAt := fun bar closed => by
  obtain ⟨-, startAware, endAware, past⟩ := mem_closedBars.mp closed
  exact mem_closedBars.mpr
    ⟨extension.kept closed, startAware, endAware, past.trans extension.notBefore⟩

/-- What a later poll finds eligible and not behind a bar that was eligible before, was closed
before. -/
theorem Extends.closed_before (readable : Readable trade bars evaluatedAt)
    (extension : Extends trade bars bars' evaluatedAt poll.evaluatedAt)
    (listed : bar ∈ bars) (eligible : Eligible trade evaluatedAt bar) (present : other ∈ bars')
    (later : Eligible trade poll.evaluatedAt other)
    (notBehind : other.intervalStart.instant ≤ bar.intervalStart.instant) :
    other ∈ closedBars bars evaluatedAt := by
  have perm := perm_series bars evaluatedAt
  have closed := eligible.mem_closedBars listed
  have positive := intervalTimedelta_pos trade.timeframe
  rcases extension.grown with through | added
  · -- The later series is a chain that holds the earlier one.
    have readable' := readable_of_through through
    have perm' := perm_series bars' poll.evaluatedAt
    obtain ⟨first, member, early⟩ := readable.reaches
    have part : series bars evaluatedAt ⊆ series bars' poll.evaluatedAt := fun bar inside =>
      perm'.mem_iff.mpr (extension.closed_subset (perm.mem_iff.mp inside))
    have after : first.intervalStart.instant - intervalTimedelta trade.timeframe <
        other.intervalStart.instant := by
      have := lt_eligibleFrom trade
      have := later.afterEntry
      linarith
    exact perm.mem_iff.mp (readable.chain.mem_of_between readable'.chain positive part member
      (perm.mem_iff.mpr closed) (perm'.mem_iff.mpr (later.mem_closedBars present)) after notBehind)
  · refine (added other present).resolve_right fun behind => ?_
    have long := readable.chain.long bar (perm.mem_iff.mpr closed)
    have := behind bar closed
    linarith

/-- The first touch of an earlier poll is what the loop of a later one finds. -/
theorem Extends.decided_again (readable : Readable trade bars evaluatedAt)
    (extension : Extends trade bars bars' evaluatedAt poll.evaluatedAt)
    (before : FirstTouch trade bars evaluatedAt (some decision)) :
    ∃ again, (orderedEligible trade bars' poll.evaluatedAt).findSome? (exitAt trade poll) =
        some again ∧ again.reason = decision.reason ∧ again.exitPrice = decision.exitPrice ∧
      again.occurredAt = decision.occurredAt := by
  obtain ⟨bar, listed, eligible, touches, exits, first⟩ := before
  have present := extension.kept (eligible.mem_closedBars listed)
  have still : Eligible trade poll.evaluatedAt bar :=
    ⟨eligible.startAware, eligible.endAware, eligible.afterEntry,
      eligible.closed.trans extension.notBefore⟩
  cases found : (orderedEligible trade bars' poll.evaluatedAt).findSome? (exitAt trade poll) with
  | none => exact absurd touches (no_touch found bar present still)
  | some again =>
    obtain ⟨other, otherPresent, otherEligible, otherTouches, otherExits, least⟩ :=
      least_touch found
    have notBehind := least bar present still touches
    obtain ⟨wasListed, startAware, endAware, past⟩ := mem_closedBars.mp
      (extension.closed_before readable listed eligible otherPresent otherEligible notBehind)
    obtain rfl := (first other wasListed ⟨startAware, endAware, otherEligible.afterEntry, past⟩
      otherTouches).resolve_right notBehind.not_gt
    exact ⟨again, rfl, exits.same otherExits⟩

/-- In a series that is let through, the exit is the first touch for good exactly when every
bar can be compared. -/
theorem exit_is_first_touch
    (through : candleSeriesBlock bars trade.timeframe poll.evaluatedAt
      (some trade.entryTime) = none) :
    Settled trade bars poll ↔ ∀ bar ∈ bars, Comparable trade bar := by
  have readable := readable_of_through through
  constructor
  · rintro ⟨result, decided, -⟩
    by_contra naive
    rw [decideExit_raises readable.entry readable.clock naive] at decided
    cases decided
  · intro comparable
    refine ⟨_, decideExit_eq readable.entry readable.clock comparable, readable.firstTouch,
      fun bars' perm => ?_, fun decision decided bars' poll' extension => ⟨?_, ?_⟩⟩
    · rw [decideExit_eq readable.entry readable.clock fun bar listed =>
        comparable bar (perm.subset listed), readable.orderedEligible_of_perm perm]
    · rintro ⟨again, decided, -⟩
      by_contra naive
      rw [decideExit_raises readable.entry extension.aware naive] at decided
      cases decided
    · intro later
      have before : FirstTouch trade bars poll.evaluatedAt (some decision) :=
        Option.mem_def.mp decided ▸ readable.firstTouch
      obtain ⟨again, found, same⟩ := extension.decided_again readable before
      exact ⟨again, by rw [decideExit_eq readable.entry extension.aware later, found], same⟩

/-! ## Samples -/

def sampleTime (hour minute : Nat) (utcOffset : Option Int) : PyDateTime :=
  ⟨2026, 3, 1, hour, minute, 0, 0, utcOffset⟩

def samplePrice (units : Nat) : Price := ⟨.finite false units 0, rfl⟩

/-- A quarter of an hour, from ninety-nine to the given high. -/
def sampleBar (hour minute : Nat) (utcOffset : Option Int) (high : Nat) : ExitBar where
  intervalStart := sampleTime hour minute utcOffset
  intervalEnd := sampleTime (hour + (minute + 15) / 60) ((minute + 15) % 60) utcOffset
  openPrice := samplePrice 100
  high := samplePrice high
  low := samplePrice 99
  close := samplePrice 100
  sourceEventId := "kline"
  contentHash := "0"
  venue := "binance"

def sampleTrade : OpenInternalPaperTrade where
  commandId := 1
  symbol := "BTCUSDT"
  timeframe := .m15
  direction := .long
  entryTime := sampleTime 10 0 (some 0)
  stop := samplePrice 95
  target := samplePrice 110

def samplePoll : Poll := ⟨"sample", sampleTime 10 31 (some 0), "binance"⟩

/-- The target is reached in the second quarter, and a naive bar in the series makes the poll
raise. -/
theorem naive_bar_raises :
    ∃ bars, candleSeriesBlock bars sampleTrade.timeframe samplePoll.evaluatedAt
        (some sampleTrade.entryTime) = none ∧
      decideExit sampleTrade bars samplePoll = .error .typeError ∧
      ¬Settled sampleTrade bars samplePoll := by
  refine ⟨[sampleBar 10 0 (some 0) 101, sampleBar 10 15 (some 0) 111, sampleBar 10 30 none 101],
    by decide, by decide, ?_⟩
  rintro ⟨result, decided, -⟩
  have raised : decideExit sampleTrade
      [sampleBar 10 0 (some 0) 101, sampleBar 10 15 (some 0) 111, sampleBar 10 30 none 101]
      samplePoll = .error .typeError := by decide
  rw [raised] at decided
  cases decided

/-- The series without the naive bar. -/
theorem aware_bars_settle :
    Settled sampleTrade [sampleBar 10 0 (some 0) 101, sampleBar 10 15 (some 0) 111] samplePoll :=
  (exit_is_first_touch (by decide)).mpr (by decide)

end AlphaTrade.PaperExit
