import Mathlib.Logic.Relation
import AlphaTrade.Risk.Versions

/-!
# How the profile in force changes

The profile in force is a function of the tables and of the clock, so it can change in
two ways: time passes and a pending loosening falls due, or an operation is made.
`Advance` is one such change. `wait_inForce`, `sweep_inForce` and `insert_inForce` say
which row is in force after each, and the results about whole runs follow.

A loosening that came into force leaves it without a higher version in one case only:
a breaker window comes to cover its effective time at that very instant.
-/
namespace AlphaTrade.Risk
open Library
open Execution (OrganizationId AccountKey Instant)

/-- The tables and the clock. -/
structure Moment where
  store : Store
  clock : Instant

/-- Time passes, or one operation is made. -/
inductive Advance (env : Env) : Moment → Moment → Prop where
  | wait (store : Store) (clock later : Instant) (le : clock ≤ later) :
      Advance env ⟨store, clock⟩ ⟨store, later⟩
  | act (store : Store) (a : Action) : Advance env ⟨store, a.now⟩ ⟨step env store a, a.now⟩

/-- What some run of operations with a clock that does not go back leads to. -/
abbrev Later (env : Env) : Moment → Moment → Prop := Relation.ReflTransGen (Advance env)

def Moment.inForce (m : Moment) (organization : OrganizationId) (kind : PolicyKind) :
    Option Version :=
  (m.store.activeRow organization kind m.clock).2

def Moment.profile (m : Moment) (organization : OrganizationId) (kind : PolicyKind) :
    Except PolicyError RiskPolicyProfile :=
  profileInForce kind (m.inForce organization kind)

/-- A read returns the row and the profile in force. -/
theorem read_snd (m : Moment) (organization : OrganizationId) (kind : PolicyKind) :
    (m.store.read organization kind m.clock).2 =
      (m.profile organization kind).map (·, m.inForce organization kind) := rfl

/-- A loosening that waited a day and the next UTC midnight. -/
structure Waited (row : Version) : Prop where
  loosening : row.changeClass = .loosening
  day : row.createdAt + 24 * microsecondsPerHour ≤ row.effectiveAt
  midnight : nextUtcDay row.createdAt ≤ row.effectiveAt

variable {env : Env} {store next : Store} {organization : OrganizationId} {kind : PolicyKind}
  {clock now : Instant} {row version : Version} {m m' : Moment}

theorem WellVersioned.waited (h : WellVersioned store clock) (listed : row ∈ store.versions)
    (loose : row.changeClass = .loosening) : Waited row := by
  have waits := h.waits row listed
  rw [Version.waits, if_pos loose] at waits
  refine ⟨loose, ?_, ?_⟩
  · rw [waits]
    exact le_max_right _ _
  · rw [waits]
    exact le_max_left _ _

theorem advance_wellVersioned (h : WellVersioned m.store m.clock) (next : Advance env m m') :
    WellVersioned m'.store m'.clock := by
  cases next with
  | wait store clock later le => exact h.later le
  | act store a => exact step_wellVersioned env a h

theorem later_wellVersioned (h : WellVersioned m.store m.clock) (run : Later env m m') :
    WellVersioned m'.store m'.clock := by
  induction run with
  | refl => exact h
  | tail _ next ih => exact advance_wellVersioned ih next

/-- Operations in the order of the clock, as one run. -/
theorem later_run (env : Env) {actions : List Action} {moment : Instant} (le : clock ≤ moment)
    (begins : ∀ a ∈ actions, clock ≤ a.now) (ordered : actions.Pairwise fun a b => a.now ≤ b.now)
    (past : ∀ a ∈ actions, a.now ≤ moment) :
    Later env ⟨store, clock⟩ ⟨run (step env) store actions, moment⟩ := by
  induction actions generalizing store clock with
  | nil => exact .single (.wait store clock moment le)
  | cons a rest ih =>
    obtain ⟨first, ordered⟩ := List.pairwise_cons.mp ordered
    refine .head (.wait store clock a.now (begins a (by simp))) (.head (.act store a) ?_)
    exact ih (past a (by simp)) first ordered fun b listed => past b (by simp [listed])

/-- There is always a profile in force. -/
theorem profile_ok (h : WellVersioned m.store m.clock) (organization : OrganizationId)
    (kind : PolicyKind) :
    ∃ profile, m.profile organization kind = .ok profile ∧ AtEightPlaces profile := by
  unfold Moment.profile
  cases found : m.inForce organization kind with
  | none => exact ⟨placeholderProfile kind, rfl, atEightPlaces_placeholder kind⟩
  | some row => exact h.profiles row (inForce_of_activeRow found).listed

/-! ## Time passes -/

/-- What time alone brings into force is a loosening. -/
theorem wait_inForce (h : WellVersioned store clock) (le : clock ≤ now) :
    (store.activeRow organization kind now).2 = (store.activeRow organization kind clock).2 ∨
      ∃ row, (store.activeRow organization kind now).2 = some row ∧
        row.changeClass = .loosening := by
  have still : ∀ {row}, Due store organization kind clock row →
      Due store organization kind now row :=
    fun due => { due with due := due.due.trans le }
  cases found : (store.activeRow organization kind now).2 with
  | none =>
    -- nothing is eligible now, so nothing was
    cases before : (store.activeRow organization kind clock).2 with
    | none => exact .inl rfl
    | some row =>
      have top := inForce_of_activeRow before
      obtain ⟨_, some⟩ := activeRow_isSome (still top.toDue) top.eligible
      rw [found] at some
      cases some
  | some row =>
    have top := inForce_of_activeRow found
    by_cases loose : row.changeClass = .loosening
    · exact .inr ⟨row, rfl, loose⟩
    · have waits := h.waits row top.listed
      rw [Version.waits, if_neg loose] at waits
      have due : Due store organization kind clock row :=
        { top.toDue with due := waits ▸ h.created row top.listed }
      obtain ⟨other, before⟩ := activeRow_isSome due top.eligible
      have same := h.activeRow_eq due top.eligible
        (fun other due => top.highest other (still due)) before
      exact .inl (by rw [before, same])

/-! ## One operation -/

/-- A row that was eligible is cancelled by no operation, and it is blocked only by a
window that comes to cover its effective time at that time. -/
theorem eligible_or_blocked (h : WellVersioned store now) (swept : Swept store next)
    (grown : Grown store.breakers.intervals next.breakers.intervals now)
    (listed : row ∈ store.versions) (eligible : store.eligible row = true) :
    next.eligible row = true ∨
      row.changeClass = .loosening ∧ now ≤ row.effectiveAt ∧ next.blocked row = true := by
  have free := h.eligible_swept swept listed eligible
  cases blocked : next.blocked row with
  | false => exact .inl (eligible_iff.mpr ⟨free, blocked⟩)
  | true =>
    obtain ⟨loose, covered⟩ := blocked_iff.mp blocked
    refine .inr ⟨loose, not_lt.mp fun past => ?_, rfl⟩
    have before : store.blocked row = true :=
      blocked_iff.mpr ⟨loose, (grown.breakerCovered_iff past _).mp covered⟩
    rw [(eligible_iff.mp eligible).2] at before
    cases before

theorem due_swept (swept : Swept store next) :
    Due next organization kind now row ↔ Due store organization kind now row := by
  constructor
  · exact fun due => { due with listed := swept.versions ▸ due.listed }
  · exact fun due => { due with listed := swept.versions ▸ due.listed }

/-- After an operation that inserts no version the row in force is the same one, or a
loosening, or the one before it fell at the instant of its effective time. -/
theorem sweep_inForce (h : WellVersioned store now) (swept : Swept store next)
    (grown : Grown store.breakers.intervals next.breakers.intervals now) :
    (next.activeRow organization kind now).2 = (store.activeRow organization kind now).2 ∨
    (∃ row, (next.activeRow organization kind now).2 = some row ∧ row.changeClass = .loosening) ∨
    ∃ row, (store.activeRow organization kind now).2 = some row ∧ row.changeClass = .loosening ∧
      row.effectiveAt = now ∧ next.blocked row = true := by
  cases before : (store.activeRow organization kind now).2 with
  | none =>
    cases after : (next.activeRow organization kind now).2 with
    | none => exact .inl rfl
    | some row =>
      have top := inForce_of_activeRow after
      have due := (due_swept swept).mp top.toDue
      refine .inr (.inl ⟨row, rfl, ?_⟩)
      by_contra kept
      obtain ⟨_, some⟩ := activeRow_isSome due (h.eligible_of_ne due.listed kept)
      rw [before] at some
      cases some
  | some row =>
    have top := inForce_of_activeRow before
    rcases eligible_or_blocked h swept grown top.listed top.eligible with
      eligible | ⟨loose, notBefore, blocked⟩
    · obtain ⟨other, after⟩ := activeRow_isSome ((due_swept swept).mpr top.toDue) eligible
      have new := inForce_of_activeRow after
      have due := (due_swept swept).mp new.toDue
      by_cases kept : other.changeClass = .loosening
      · exact .inr (.inl ⟨other, after, kept⟩)
      · have same := h.eq_of_number due.listed top.listed (due.own.trans top.own.symm)
          (due.sort.trans top.sort.symm)
          (le_antisymm (top.highest other due (h.eligible_of_ne due.listed kept))
            (new.highest row ((due_swept swept).mpr top.toDue) eligible))
        exact .inl (by rw [after, same])
    · exact .inr (.inr ⟨row, rfl, loose, le_antisymm top.due notBefore, blocked⟩)

/-- The row in force depends on the due rows and on which of them are eligible. -/
theorem activeRow_congr (h : WellVersioned store clock)
    (due : ∀ row, Due next organization kind now row ↔ Due store organization kind now row)
    (eligible : ∀ row, Due store organization kind now row →
      next.eligible row = store.eligible row) :
    (next.activeRow organization kind now).2 = (store.activeRow organization kind now).2 := by
  cases before : (store.activeRow organization kind now).2 with
  | none =>
    cases after : (next.activeRow organization kind now).2 with
    | none => rfl
    | some row =>
      have top := inForce_of_activeRow after
      have old := (due row).mp top.toDue
      obtain ⟨_, some⟩ := activeRow_isSome old (eligible row old ▸ top.eligible)
      rw [before] at some
      cases some
  | some row =>
    have top := inForce_of_activeRow before
    obtain ⟨other, after⟩ := activeRow_isSome ((due row).mpr top.toDue)
      ((eligible row top.toDue).trans top.eligible)
    have new := inForce_of_activeRow after
    have old := (due other).mp new.toDue
    have same : row = other := h.activeRow_eq old (eligible other old ▸ new.eligible)
      (fun third due' able => new.highest third ((due third).mpr due')
        ((eligible third due').trans able)) before
    rw [after, same]

theorem due_insert : Due (store.insert version) organization kind now row ↔
    Due store organization kind now row ∨ row = version ∧ version.organizationId = organization ∧
      version.kind = kind ∧ version.effectiveAt ≤ now := by
  constructor
  · rintro ⟨listed, own, sort, due⟩
    rcases List.mem_append.mp listed with old | new
    · exact .inl ⟨old, own, sort, due⟩
    · obtain rfl := List.mem_singleton.mp new
      exact .inr ⟨rfl, own, sort, due⟩
  · rintro (⟨old, own, sort, due⟩ | ⟨rfl, own, sort, due⟩)
    · exact ⟨List.mem_append_left _ old, own, sort, due⟩
    · exact ⟨by simp [Store.insert], own, sort, due⟩

/-- An inserted version comes into force at once when it is not a loosening, and changes
nothing yet when it is one. -/
theorem insert_inForce (h : WellVersioned store now) (accepted : Accepted store now version) :
    ((store.insert version).activeRow organization kind now).2 =
        (store.activeRow organization kind now).2 ∨
      version.organizationId = organization ∧ version.kind = kind ∧
        version.changeClass ≠ .loosening ∧
        ((store.insert version).activeRow organization kind now).2 = some version := by
  by_cases due : Due (store.insert version) organization kind now version
  · have kept : version.changeClass ≠ .loosening := by
      intro loose
      have early := due.due
      rw [accepted.effective, if_pos loose] at early
      exact absurd early (not_le.mpr (lt_looseningEffectiveAt now))
    have eligible := (h.insert accepted).eligible_of_ne due.listed kept
    obtain ⟨other, found⟩ := activeRow_isSome due eligible
    have top : other = version := by
      refine (h.insert accepted).activeRow_eq due eligible (fun third due' _ => ?_) found
      rcases due_insert.mp due' with old | ⟨rfl, -⟩
      · rw [accepted.number]
        exact (lt_nextVersionNumber old.listed (old.own.trans due.own.symm)
          (old.sort.trans due.sort.symm)).le
      · exact le_rfl
    exact .inr ⟨due.own, due.sort, kept, by rw [found, top]⟩
  · refine .inl (activeRow_congr h (fun row => ?_) fun _ _ => rfl)
    rw [due_insert]
    refine ⟨fun found => found.resolve_right ?_, .inl⟩
    rintro ⟨rfl, new⟩
    exact due (due_insert.mpr (.inr ⟨rfl, new⟩))

/-- An operation that leaves the breakers alone leaves the row in force. -/
theorem Swept.inForce_eq (h : WellVersioned store clock) (swept : Swept store next)
    (same : next.breakers = store.breakers) (organization : OrganizationId) (kind : PolicyKind)
    (now : Instant) :
    (next.activeRow organization kind now).2 = (store.activeRow organization kind now).2 := by
  refine activeRow_congr h (fun _ => due_swept swept) fun row due => ?_
  cases eligible : store.eligible row with
  | true =>
    have free := h.eligible_swept swept due.listed eligible
    exact eligible_iff.mpr ⟨free, (blocked_congr same row).trans (eligible_iff.mp eligible).2⟩
  | false =>
    simp only [Store.eligible, Bool.and_eq_false_iff, Bool.not_eq_false'] at eligible ⊢
    rcases eligible with cancelled | blocked
    · left
      simp only [Store.isCancelled, decide_eq_true_eq] at cancelled ⊢
      exact swept.kept cancelled
    · exact .inr (blocked_congr same row ▸ blocked)

/-! ## Looser profiles -/

/-- One advance: if the profile in force becomes looser in some limit, a loosening that
waited is in force, or the row before was a loosening that fell at the instant of its
effective time. -/
theorem advance_looser (h : WellVersioned m.store m.clock) (next : Advance env m m')
    {before after : RiskPolicyProfile} (was : m.profile organization kind = .ok before)
    (becomes : m'.profile organization kind = .ok after) (looser : ¬NoLooser after before) :
    (∃ row, m'.inForce organization kind = some row ∧ Waited row ∧
      m'.store.isCancelled row = false) ∨
    ∃ row, m.inForce organization kind = some row ∧ row.changeClass = .loosening ∧
      row.effectiveAt = m.clock ∧ m'.store.blocked row = true := by
  have changed : m'.inForce organization kind ≠ m.inForce organization kind := by
    intro same
    rw [Moment.profile, same] at becomes
    cases was.symm.trans becomes
    exact looser (.refl before)
  have waited : ∀ {row}, m'.inForce organization kind = some row →
      row.changeClass = .loosening → Waited row ∧ m'.store.isCancelled row = false := by
    intro row found loose
    have top := inForce_of_activeRow found
    exact ⟨(advance_wellVersioned h next).waited top.listed loose, (eligible_iff.mp top.eligible).1⟩
  cases next with
  | wait store clock later le =>
    rcases wait_inForce h le with same | ⟨row, found, loose⟩
    · exact absurd same changed
    · exact .inl ⟨row, found, waited found loose⟩
  | act store a =>
    rcases step_versions h.spelled env a with swept | ⟨version, accepted, swept, same⟩
    · rcases sweep_inForce h swept (step_grown env store a) with same | ⟨row, found, loose⟩ | fell
      · exact absurd same changed
      · exact .inl ⟨row, found, waited found loose⟩
      · exact .inr fell
    · have swept_eq := swept.inForce_eq (h.insert accepted) same organization kind a.now
      rcases insert_inForce h accepted with kept | ⟨own, sort, kept, top⟩
      · exact absurd (swept_eq.trans kept) changed
      · subst own sort
        obtain ⟨previous, profile, prior, spells, -, tighter⟩ := accepted.against
        obtain ⟨_, found, places⟩ := profile_ok h version.organizationId version.kind
        rw [Moment.profile, Moment.inForce, swept_eq, top] at becomes
        cases was.symm.trans prior
        cases was.symm.trans found
        cases becomes.symm.trans spells
        exact absurd (tighter kept places) looser

/-! ## Covered loosenings -/

theorem advance_clock (next : Advance env m m') : m.clock ≤ m'.clock := by
  cases next with
  | wait store clock later le => exact le
  | act store a => exact le_rfl

theorem later_clock (run : Later env m m') : m.clock ≤ m'.clock := by
  induction run with
  | refl => exact le_rfl
  | tail _ next ih => exact ih.trans (advance_clock next)

/-- Whether a time in the past is covered does not change. -/
theorem advance_blocked (next : Advance env m m') (past : row.effectiveAt < m.clock) :
    m'.store.blocked row = m.store.blocked row := by
  cases next with
  | wait store clock later le => rfl
  | act store a =>
    have same := (step_grown env store a).breakerCovered_iff past row.organizationId
    rw [← Bool.eq_iff_iff] at same
    simp only [Store.blocked, same]

/-- A step keeps the versions and the cancellations, and cancels no eligible row. -/
theorem advance_kept (h : WellVersioned m.store m.clock) (next : Advance env m m') :
    m.store.versions ⊆ m'.store.versions ∧ m.store.cancellations ⊆ m'.store.cancellations ∧
      ∀ row ∈ m.store.versions, m.store.eligible row = true → m'.store.isCancelled row = false := by
  cases next with
  | wait store clock later le =>
    exact ⟨fun _ => id, fun _ => id, fun row _ eligible => (eligible_iff.mp eligible).1⟩
  | act store a =>
    rcases step_versions h.spelled env a with swept | ⟨version, accepted, swept, -⟩
    · exact ⟨swept.versions ▸ fun _ => id, swept.kept, fun row => h.eligible_swept swept⟩
    · refine ⟨swept.versions ▸ fun _ => List.mem_append_left _, swept.kept,
        fun row listed eligible => ?_⟩
      exact (h.insert accepted).eligible_swept swept (List.mem_append_left _ listed) eligible

/-- Past its effective time, a row that is blocked stays blocked. -/
theorem later_blocked (run : Later env m m') (past : row.effectiveAt < m.clock)
    (blocked : m.store.blocked row = true) :
    row.effectiveAt < m'.clock ∧ m'.store.blocked row = true := by
  induction run with
  | refl => exact ⟨past, blocked⟩
  | tail _ next ih => exact ⟨ih.1.trans_le (advance_clock next), advance_blocked next ih.1 ▸ ih.2⟩

theorem later_cancelled (h : WellVersioned m.store m.clock) (run : Later env m m')
    (cancelled : m.store.isCancelled row = true) : m'.store.isCancelled row = true := by
  induction run with
  | refl => exact cancelled
  | tail run next ih =>
    simp only [Store.isCancelled, decide_eq_true_eq] at ih ⊢
    exact (advance_kept (later_wellVersioned h run) next).2.1 ih

/-- A row that is eligible past its effective time, or that is not a loosening, stays so. -/
theorem later_eligible (h : WellVersioned m.store m.clock) (run : Later env m m')
    (listed : row ∈ m.store.versions) (eligible : m.store.eligible row = true)
    (past : row.effectiveAt < m.clock ∨ row.changeClass ≠ .loosening) :
    row ∈ m'.store.versions ∧ m'.store.eligible row = true ∧
      (row.effectiveAt < m'.clock ∨ row.changeClass ≠ .loosening) := by
  induction run with
  | refl => exact ⟨listed, eligible, past⟩
  | tail run next ih =>
    obtain ⟨listed, eligible, past⟩ := ih
    obtain ⟨rows, -, free⟩ := advance_kept (later_wellVersioned h run) next
    refine ⟨rows listed, ?_, past.imp (lt_of_lt_of_le · (advance_clock next)) id⟩
    rcases past with past | kept
    · exact eligible_iff.mpr ⟨free _ listed eligible,
        (advance_blocked next past).trans (eligible_iff.mp eligible).2⟩
    · exact (advance_wellVersioned (later_wellVersioned h run) next).eligible_of_ne (rows listed)
        kept

/-- The walk over the due rows leaves a row cancelled, or it ends at a row not below it. -/
theorem pickRow_passed {cancelled : List Cancellation} {rows : List Version}
    (listed : ∀ row ∈ rows, row ∈ store.versions) (known : cancelled ⊆ store.cancellations)
    (sorted : rows.Pairwise fun a b => b.versionNumber ≤ a.versionNumber) (member : row ∈ rows) :
    (store.pickRow cancelled rows).1.isCancelled row = true ∨
      ∃ top, (store.pickRow cancelled rows).2 = some top ∧
        row.versionNumber ≤ top.versionNumber := by
  induction rows generalizing store with
  | nil => cases member
  | cons first rest ih =>
    have listed' : ∀ row ∈ rest, row ∈ store.versions := fun row h => listed row (by simp [h])
    obtain ⟨below, sorted⟩ := List.pairwise_cons.mp sorted
    simp only [Store.pickRow]
    split_ifs with skipped blocked
    · rcases List.mem_cons.mp member with rfl | member
      · left
        simp only [Store.isCancelled, decide_eq_true_eq]
        exact (swept_pickRow store cancelled listed').kept (known skipped)
      · exact ih listed' known sorted member
    · have swept := swept_cancelVersion (listed first (by simp)) blocked
      have listed' : ∀ row ∈ rest, row ∈ (store.cancelVersion first).versions :=
        fun row h => swept.versions ▸ listed' row h
      rcases List.mem_cons.mp member with rfl | member
      · left
        have noted : (store.cancelVersion row).isCancelled row = true := by
          unfold Store.cancelVersion
          split_ifs with already
          · exact already
          · simp [Store.isCancelled]
        simp only [Store.isCancelled, decide_eq_true_eq] at noted ⊢
        exact (swept_pickRow _ cancelled listed').kept noted
      · exact ih listed' (fun _ h => swept.kept (known h)) sorted member
    · refine .inr ⟨first, rfl, ?_⟩
      rcases List.mem_cons.mp member with rfl | member
      · exact le_rfl
      · exact below row member

def Moment.afterRead (m : Moment) (organization : OrganizationId) (kind : PolicyKind) : Moment :=
  ⟨(m.store.read organization kind m.clock).1, m.clock⟩

/-- A read at the effective time of a row that finds it blocked leaves it cancelled, or
finds a higher row in force that stays eligible. -/
theorem read_settles (h : WellVersioned m.store m.clock)
    (due : Due m.store organization kind m.clock row) (falls : row.effectiveAt = m.clock)
    (blocked : m.store.blocked row = true) :
    (m.afterRead organization kind).store.isCancelled row = true ∨
    ∃ top, m.inForce organization kind = some top ∧ row.versionNumber < top.versionNumber ∧
      (top.effectiveAt < m.clock ∨ top.changeClass ≠ .loosening) := by
  rcases pickRow_passed (fun _ h => (mem_dueRows.mp h).listed) (fun _ => id)
    (dueRows_sorted m.store organization kind m.clock) (mem_dueRows.mpr due) with
    cancelled | ⟨top, found, le⟩
  · exact .inl cancelled
  · have inForce := inForce_of_activeRow found
    have unblocked := (eligible_iff.mp inForce.eligible).2
    refine .inr ⟨top, found, lt_of_le_of_ne le fun same => ?_, ?_⟩
    · obtain rfl := h.eq_of_number due.listed inForce.listed (due.own.trans inForce.own.symm)
        (due.sort.trans inForce.sort.symm) same
      rw [blocked] at unblocked
      cases unblocked
    · -- at the same effective time the window would block both
      by_contra unsettled
      push Not at unsettled
      have same : top.effectiveAt = row.effectiveAt :=
        (le_antisymm inForce.due unsettled.1).trans falls.symm
      have covered := (blocked_iff.mp blocked).2
      rw [due.own, ← inForce.own, ← same] at covered
      rw [blocked_iff.mpr ⟨unsettled.2, covered⟩] at unblocked
      cases unblocked

theorem not_inForce_of_blocked (blocked : m.store.blocked row = true) :
    m.inForce organization kind ≠ some row := by
  intro found
  have unblocked := (eligible_iff.mp (inForce_of_activeRow found).eligible).2
  rw [blocked] at unblocked
  cases unblocked

theorem afterRead_later (env : Env) (m : Moment) (organization : OrganizationId)
    (kind : PolicyKind) :
    Later env m (m.afterRead organization kind) :=
  .single (.act m.store (.read organization kind m.clock))

/-- A due row that a read finds blocked is in force at no later moment. -/
theorem read_never (h : WellVersioned m.store m.clock)
    (due : Due m.store organization kind m.clock row) (blocked : m.store.blocked row = true)
    (run : Later env (m.afterRead organization kind) m') :
    m'.inForce organization kind ≠ some row := by
  have run' : Later env m m' := (afterRead_later env m organization kind).trans run
  have after := later_wellVersioned h (afterRead_later env m organization kind)
  rcases lt_or_eq_of_le due.due with past | falls
  · exact not_inForce_of_blocked (later_blocked run' past blocked).2
  · rcases read_settles h due falls blocked with cancelled | ⟨top, found, higher, settled⟩
    · intro inForce
      have free := (eligible_iff.mp (inForce_of_activeRow inForce).eligible).1
      rw [later_cancelled after run cancelled] at free
      cases free
    · intro inForce
      have was := inForce_of_activeRow found
      obtain ⟨listed, eligible, -⟩ := later_eligible h run' was.listed was.eligible settled
      exact absurd ((inForce_of_activeRow inForce).highest top
        ⟨listed, was.own, was.sort, was.due.trans (later_clock run')⟩ eligible) (not_le.mpr higher)

/-! ## Whole runs -/

/-- An accepted apply that is not a loosening is no looser than the profile in force. -/
theorem apply_noLooser (h : WellVersioned m.store m.clock) {id : VersionId}
    {proposalId : ProposalId} {human : HumanStep} {promotion : Option PromotionReport}
    (accepted : (m.store.apply env id organization proposalId human promotion m.clock).2 =
      .ok version) (kept : version.changeClass ≠ .loosening) :
    ∃ before after, m.profile version.organizationId version.kind = .ok before ∧
      version.profile = .ok after ∧ NoLooser after before := by
  rcases apply_versions h.spelled env id organization proposalId human promotion m.clock with
    ⟨-, refusal, refused⟩ | ⟨mid, found, -, -, facts, eq⟩
  · rw [accepted] at refused
    cases refused
  · rw [eq] at accepted
    cases accepted
    obtain ⟨before, after, prior, spells, -, tighter⟩ := facts.against
    obtain ⟨_, found, places⟩ := profile_ok h version.organizationId version.kind
    cases found.symm.trans prior
    exact ⟨before, after, found, spells, tighter kept places⟩

/-- At every moment of every run there is a profile in force, and:

* when it becomes looser in some limit, the row now in force is a loosening that waited a
  day and the next UTC midnight and is not cancelled; or else the row before was a
  loosening whose effective time is this very instant, and a breaker window has just come
  to cover it;
* an apply that is not a loosening makes no limit looser than the profile in force;
* a due loosening whose effective time is covered is not in force, and once a read has
  found it so, or its effective time is past, it is in force at no later moment. -/
theorem loosening_takes_force_late (env : Env) (start : Instant) (m : Moment)
    (run : Later env ⟨Store.empty, start⟩ m) (organization : OrganizationId) (kind : PolicyKind) :
    (∃ profile, m.profile organization kind = .ok profile) ∧
    (∀ m' before after, Advance env m m' → m.profile organization kind = .ok before →
      m'.profile organization kind = .ok after → ¬NoLooser after before →
      (∃ row, m'.inForce organization kind = some row ∧ Waited row ∧
        m'.store.isCancelled row = false) ∨
      ∃ row, m.inForce organization kind = some row ∧ row.changeClass = .loosening ∧
        row.effectiveAt = m.clock ∧ m'.store.blocked row = true) ∧
    (∀ id proposalId human promotion version,
      (m.store.apply env id organization proposalId human promotion m.clock).2 = .ok version →
      version.changeClass ≠ .loosening →
      ∃ before after, m.profile version.organizationId version.kind = .ok before ∧
        version.profile = .ok after ∧ NoLooser after before) ∧
    ∀ row, Due m.store organization kind m.clock row → m.store.blocked row = true →
      m.inForce organization kind ≠ some row ∧
      (∀ m', Later env (m.afterRead organization kind) m' →
        m'.inForce organization kind ≠ some row) ∧
      (row.effectiveAt < m.clock → ∀ m', Later env m m' →
        m'.inForce organization kind ≠ some row) := by
  have h := later_wellVersioned (wellVersioned_empty start) run
  refine ⟨?_, ?_, ?_, fun row due blocked => ⟨not_inForce_of_blocked blocked, ?_, ?_⟩⟩
  · obtain ⟨profile, found, -⟩ := profile_ok h organization kind
    exact ⟨profile, found⟩
  · intro m' before after next was becomes looser
    exact advance_looser h next was becomes looser
  · intro id proposalId human promotion version accepted kept
    exact apply_noLooser h accepted kept
  · intro m' run'
    exact read_never h due blocked run'
  · intro past m' run'
    exact not_inForce_of_blocked (later_blocked run' past blocked).2

namespace Sample

/-- The owner with a fresh step-up for a proposal. -/
def owner (proposalId : ProposalId) (now : Instant) : HumanStep where
  actor := ⟨"owner", .human, true⟩
  proof := some {
    method := "interactive_step_up"
    subjectUserId := "owner"
    proposalId := toString proposalId
    contentHash := "profile"
    expiresAt := now + 1
    sessionId := some "session"
    authenticatedAt := some now
    stepUpAt := some now }
  ownerUserId := "owner"

def adopt (id : Nat) (profile : RiskPolicyProfile) : List Action :=
  [.propose id 1 ⟨"owner", .human, true⟩ profile "calibration" 0,
    .apply id 1 id (owner id 0) none 0]

def cautious : RiskPolicyProfile :=
  { placeholderProfile .internalPaper with dailyLossLimitPercent := 1 / 2 }

/-- Looser than `cautious` in the daily loss, tighter in the drawdown. -/
def mixed : RiskPolicyProfile :=
  { placeholderProfile .internalPaper with drawdownBreakerPercent := 5 }

/-- The first version is a tightening and is in force; the second, a mixed change, is
due in a day. -/
def pending : Store := reached plain (adopt 1 cautious ++ adopt 2 mixed)

theorem pending_later {moment : Instant} (le : 0 ≤ moment) :
    Later plain ⟨Store.empty, 0⟩ ⟨pending, moment⟩ :=
  later_run plain le (by decide) (by decide) (by simp [adopt, Action.now, le])

end Sample

/-- After a day the pending version comes into force, with a looser daily loss limit. -/
theorem loosening_takes_force_late_pending :
    ∃ row, (⟨Sample.pending, microsecondsPerDay⟩ : Moment).inForce 1 .internalPaper = some row ∧
      Waited row ∧ Sample.pending.isCancelled row = false := by
  have now := loosening_takes_force_late Sample.plain 0 ⟨Sample.pending, 0⟩
    (Sample.pending_later le_rfl) 1 .internalPaper
  have tomorrow := loosening_takes_force_late Sample.plain 0 ⟨Sample.pending, microsecondsPerDay⟩
    (Sample.pending_later (by decide)) 1 .internalPaper
  obtain ⟨before, was⟩ := now.1
  obtain ⟨after, becomes⟩ := tomorrow.1
  have looser : ((⟨Sample.pending, 0⟩ : Moment).profile 1 .internalPaper |>.bind fun before =>
      (⟨Sample.pending, microsecondsPerDay⟩ : Moment).profile 1 .internalPaper |>.map fun after =>
        decide (NoLooser after before)) = .ok false := by decide +kernel
  rw [was, becomes] at looser
  have looser : ¬NoLooser after before := by simpa [Except.bind, Except.map] using looser
  rcases now.2.1 ⟨Sample.pending, microsecondsPerDay⟩ before after
    (.wait Sample.pending 0 microsecondsPerDay (by decide)) was becomes looser with
    found | ⟨row, found, loose, -⟩
  · exact found
  · have first : ((⟨Sample.pending, 0⟩ : Moment).inForce 1 .internalPaper).all
        (·.changeClass ≠ .loosening) = true := by decide +kernel
    simp [found, loose] at first

/-- The drawdown latch is set at the instant at which the mixed change falls due and has
come into force. The version before it returns: it is a tightening, and its drawdown
threshold is the looser one. -/
theorem cancelled_loosening_gives_way :
    Later Sample.plain ⟨Store.empty, 0⟩ ⟨Sample.pending, microsecondsPerDay⟩ ∧
    ((⟨Sample.pending, microsecondsPerDay⟩ : Moment).inForce 1 .internalPaper).map (·.id) =
      some 2 ∧
    ((⟨step Sample.plain Sample.pending
      (.latchDrawdown (1, 1) (.finite 100) microsecondsPerDay), microsecondsPerDay⟩ :
        Moment).inForce 1 .internalPaper).map (fun row => (row.id, row.changeClass)) =
      some (1, .tightening) ∧
    ((⟨Sample.pending, microsecondsPerDay⟩ : Moment).profile 1 .internalPaper |>.bind fun before =>
      (⟨step Sample.plain Sample.pending
        (.latchDrawdown (1, 1) (.finite 100) microsecondsPerDay), microsecondsPerDay⟩ :
          Moment).profile 1 .internalPaper |>.map fun after =>
        decide (NoLooser after before)) = .ok false := by
  refine ⟨Sample.pending_later (by decide), ?_, ?_, ?_⟩
  · decide +kernel
  · decide +kernel
  · decide +kernel

end AlphaTrade.Risk
