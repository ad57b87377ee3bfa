import Mathlib.Data.List.Permutation
import AlphaTrade.Journal.Projector

/-!
# Arrival order of lifecycle events

What projection makes of a set of events in a given order is read off field by field: each
field is a fold of its own over the events, with the row's watermark as the mark. For venue
fields a late event fills in what is missing, for status and result it changes nothing, and
planned terms come from the approved plan or, without it, from whichever event came first.
-/
namespace AlphaTrade.Journal
open Library
open Execution (OrganizationId UserId AccountId CommandId Instant)

/-! ## What an event says -/

namespace Event

def entry (event : Event) (k : Key) : Entry k.Value := (event.payload.get k).entry

def venueEntry (k : Key) (event : Event) : Entry k.Value :=
  match event.eventType with
  | .fill | .close | .reconcile => event.entry k
  | _ => .absent

def planEntry (k : Key) (event : Event) : Entry k.Value :=
  match event.eventType with
  | .approvedPlan => event.entry k
  | _ => .absent

def toldStatus (event : Event) : Entry TradeStatus :=
  (coerceStatus event.payload.status).toOption.getD .absent

/-- The status after an event that is not late. -/
def freshStatus (event : Event) (current : Option TradeStatus) : Option TradeStatus :=
  match event.eventType with
  | .fill =>
    let told := event.toldStatus.overwrite current
    if TradeStatus.rank told ≤ TradeStatus.rank (some .open) then some .open else told
  | .close => some .closed
  | .reconcile =>
    match authoritativeReconcileStatus event.payload with
    | some desired => some desired
    | none => event.toldStatus.overwrite current
  | _ => current

def toldResult (event : Event) : Option (Option TradeResult) :=
  match event.venueEntry .result with
  | .absent => none
  | .null => some none
  | .value a => some (some a)

def createdTerm (k : Key) (event : Event) : Option k.Value :=
  match k with
  | .runnerEnabled => some (((event.entry .runnerEnabled).overwrite none).getD false)
  | k => (event.entry k).overwrite ((JournalTrade.blank 0 0).attr k)

end Event

/-! ## Rows -/

namespace JournalTrade

variable {row row' : JournalTrade} {payload : Payload} {event : Event} {fields : List Key}
  {stale : Bool} {user : UserId}

theorem setFields_ok (h : row.setFields fields stale payload = .ok row') :
    row' = { row with
      attr := fun k =>
        if row.reads fields stale k then (payload.get k).entry.overwrite (row.attr k)
        else row.attr k } := by
  simp only [setFields, bind_eq_ok, pure, Except.pure] at h
  obtain ⟨-, -, eq⟩ := h
  exact (Except.ok.inj eq).symm

/-- A field in the list is overwritten, or filled in when late. -/
theorem setFields_attr (h : row.setFields fields stale payload = .ok row') (k : Key) :
    row'.attr k =
      if k ∈ fields then
        if stale then (payload.get k).entry.fill (row.attr k)
        else (payload.get k).entry.overwrite (row.attr k)
      else row.attr k := by
  rw [setFields_ok h]
  by_cases mem : k ∈ fields
  · cases stale with
    | false => simp [reads, mem]
    | true => cases current : row.attr k <;> simp [reads, mem, current]
  · simp [reads, mem]

/-- A row that was stored. -/
structure Stored (row : JournalTrade) : Prop where
  status : row.status.isSome
  result : (row.attr .result).isSome

theorem flush_ok (h : row.flush = .ok row') : row' = row ∧ row.Stored := by
  simp only [flush, bind_eq_ok, ensure_eq_ok, pure, Except.pure] at h
  obtain ⟨-, status, -, result, -, -, -, -, -, -, -, -, eq⟩ := h
  exact ⟨(Except.ok.inj eq).symm, status, result⟩

/-- Stamping changes the lineage columns only. -/
structure SameFacts (row row' : JournalTrade) : Prop where
  status : row'.status = row.status
  attr : row'.attr = row.attr
  watermark : row'.projectorWatermarkRank = row.projectorWatermarkRank

variable {row'' : JournalTrade}

theorem SameFacts.trans (h : row.SameFacts row') (h' : row'.SameFacts row'') :
    row.SameFacts row'' :=
  ⟨h'.status.trans h.status, h'.attr.trans h.attr, h'.watermark.trans h.watermark⟩

theorem stampColumn_ok {lineage : Lineage} {k : LineageKey}
    (h : row.stampColumn lineage k = .ok row') : row.SameFacts row' := by
  unfold stampColumn at h
  split at h
  · obtain rfl := Except.ok.inj h
    exact ⟨rfl, rfl, rfl⟩
  split at h
  · obtain rfl := Except.ok.inj h
    exact ⟨rfl, rfl, rfl⟩
  · simp only [bind_eq_ok, pure, Except.pure] at h
    obtain ⟨-, -, eq⟩ := h
    obtain rfl := Except.ok.inj eq
    exact ⟨rfl, rfl, rfl⟩

theorem stampLineageColumns_ok (h : row.stampLineageColumns payload = .ok row') :
    row.SameFacts row' := by
  simp only [stampLineageColumns, bind_eq_ok] at h
  obtain ⟨lineage, -, r₁, h₁, r₂, h₂, r₃, h₃, -, -, h₄⟩ := h
  exact (stampColumn_ok h₁).trans <| (stampColumn_ok h₂).trans <|
    (stampColumn_ok h₃).trans (stampColumn_ok h₄)

theorem applyVenueFields_ok (h : row.applyVenueFields payload stale = .ok row')
    (stored : row.status.isSome) :
    row'.projectorWatermarkRank = row.projectorWatermarkRank ∧
    (∀ k, row'.attr k =
      if k ∈ venueFields then
        if stale then (payload.get k).entry.fill (row.attr k)
        else (payload.get k).entry.overwrite (row.attr k)
      else row.attr k) ∧
    row'.status =
      if stale then row.status
      else ((coerceStatus payload.status).toOption.getD .absent).overwrite row.status := by
  simp only [applyVenueFields, bind_eq_ok] at h
  obtain ⟨row₁, set, h⟩ := h
  have attr := setFields_attr set
  have status : row₁.status = row.status := by rw [setFields_ok set]
  have watermark : row₁.projectorWatermarkRank = row.projectorWatermarkRank := by
    rw [setFields_ok set]
  split at h
  · rename_i late
    obtain rfl := Except.ok.inj h
    exact ⟨watermark, attr, by rw [if_pos late.1, status]⟩
  · rename_i inTime
    have fresh : stale = false := by
      cases stale with
      | false => rfl
      | true => exact absurd ⟨rfl, status ▸ stored⟩ inTime
    simp only [bind_eq_ok, pure, Except.pure] at h
    obtain ⟨told, coerced, eq⟩ := h
    obtain rfl := Except.ok.inj eq
    refine ⟨watermark, attr, ?_⟩
    simp [fresh, coerced, status, Except.toOption]

/-- The four ways in which an event changes a stored row. -/
structure Applied (event : Event) (row row' : JournalTrade) : Prop where
  watermark : row'.projectorWatermarkRank = max row.projectorWatermarkRank event.rank
  venue : ∀ k ∈ venueFields, k ∉ createFields →
    row'.attr k =
      if event.rank < row.projectorWatermarkRank then (event.venueEntry k).fill (row.attr k)
      else (event.venueEntry k).overwrite (row.attr k)
  planned : ∀ k ∈ createFields, k ∉ venueFields →
    row'.attr k = (event.planEntry k).overwrite (row.attr k)
  status : row'.status =
    if event.rank < row.projectorWatermarkRank then row.status else event.freshStatus row.status

theorem Applied.of_sameFacts (h : Applied event row row') (same : row'.SameFacts row'') :
    Applied event row row'' := by
  obtain ⟨status, attr, watermark⟩ := same
  constructor
  · rw [watermark, h.watermark]
  · rw [attr]
    exact h.venue
  · rw [attr]
    exact h.planned
  · rw [status, h.status]

/-- The row between the fields and the lineage. -/
structure Written (event : Event) (row row' : JournalTrade) : Prop where
  watermark : row'.projectorWatermarkRank = row.projectorWatermarkRank
  attr : ∀ k, row'.attr k =
    if k ∈ venueFields then
      if event.rank < row.projectorWatermarkRank then (event.entry k).fill (row.attr k)
      else (event.entry k).overwrite (row.attr k)
    else row.attr k
  status : row'.status =
    if event.rank < row.projectorWatermarkRank then row.status
    else event.toldStatus.overwrite row.status

theorem written_of_ok
    (h : row.applyVenueFields event.payload (decide (event.rank < row.projectorWatermarkRank)) =
      .ok row') (stored : row.Stored) : Written event row row' := by
  obtain ⟨watermark, attr, status⟩ := applyVenueFields_ok h stored.status
  simp only [decide_eq_true_eq] at attr status
  exact ⟨watermark, attr, status⟩

/-- The three events that set venue fields differ in the status only. -/
theorem Written.applied (h : Written event row row')
    (venue : ∀ k, event.venueEntry k = event.entry k)
    (planned : ∀ k, event.planEntry k = .absent) {promoted : JournalTrade}
    (watermark : promoted.projectorWatermarkRank = row'.projectorWatermarkRank)
    (attr : promoted.attr = row'.attr)
    (status : promoted.status =
      if event.rank < row.projectorWatermarkRank then row.status
      else event.freshStatus row.status) :
    Applied event row { promoted with
      projectorWatermarkRank := max promoted.projectorWatermarkRank event.rank
      projectorLockVersion := promoted.projectorLockVersion + 1 } where
  watermark := by rw [watermark, h.watermark]
  venue k mem _ := by rw [attr, h.attr, if_pos mem, venue]
  planned k _ out := by
    rw [attr, h.attr, if_neg out, planned]
    rfl
  status := status

theorem promoteStatus_watermark (desired : TradeStatus) :
    (row.promoteStatus desired stale).projectorWatermarkRank = row.projectorWatermarkRank := by
  unfold promoteStatus
  split_ifs <;> rfl

theorem promoteStatus_attr (desired : TradeStatus) :
    (row.promoteStatus desired stale).attr = row.attr := by
  unfold promoteStatus
  split_ifs <;> rfl

theorem promoteStatus_status (desired : TradeStatus) :
    (row.promoteStatus desired stale).status =
      if stale then row.status
      else if TradeStatus.rank row.status ≤ TradeStatus.rank (some desired) then some desired
      else row.status := by
  unfold promoteStatus
  split_ifs <;> rfl

theorem applyReconcileStatus_watermark :
    (row.applyReconcileStatus payload stale).projectorWatermarkRank =
      row.projectorWatermarkRank := by
  unfold applyReconcileStatus
  split_ifs
  · rfl
  · split <;> rfl

theorem applyReconcileStatus_attr :
    (row.applyReconcileStatus payload stale).attr = row.attr := by
  unfold applyReconcileStatus
  split_ifs
  · rfl
  · split <;> rfl

theorem applyReconcileStatus_status :
    (row.applyReconcileStatus payload stale).status =
      if stale then row.status else (authoritativeReconcileStatus payload).or row.status := by
  unfold applyReconcileStatus
  split_ifs
  · rfl
  · split <;> simp_all

/-- No status ranks above a closed one. -/
theorem rank_le_closed (status : Option TradeStatus) :
    TradeStatus.rank status ≤ TradeStatus.rank (some .closed) := by
  unfold TradeStatus.rank
  split <;> simp

theorem applyEvent_applied (h : row.applyEvent event = .ok row') (stored : row.Stored) :
    Applied event row row' := by
  simp only [applyEvent, bind_eq_ok] at h
  obtain ⟨mid, branch, h⟩ := h
  refine Applied.of_sameFacts ?_ (stampLineageColumns_ok h)
  unfold applyByType at branch
  split at branch
  · rename_i type
    have attr := setFields_attr branch
    have same : mid.status = row.status ∧
        mid.projectorWatermarkRank = row.projectorWatermarkRank := by
      rw [setFields_ok branch]
      exact ⟨rfl, rfl⟩
    refine ⟨by rw [← same.2], fun k _ out => ?_, fun k mem _ => ?_, ?_⟩
    · simp [attr, out, Event.venueEntry, type, Entry.fill]
    · simp [attr, mem, Event.planEntry, Event.entry, type]
    · simp [same.1, Event.freshStatus, type]
  · rename_i type
    obtain ⟨mid, venue, rfl⟩ := map_eq_ok.mp branch
    have written := written_of_ok venue stored
    refine written.applied (by simp [Event.venueEntry, type]) (by simp [Event.planEntry, type])
      (promoteStatus_watermark _) (promoteStatus_attr _) ?_
    rw [promoteStatus_status, written.status]
    by_cases late : event.rank < row.projectorWatermarkRank
    · simp [late]
    · simp [late, Event.freshStatus, type]
  · rename_i type
    obtain ⟨mid, venue, rfl⟩ := map_eq_ok.mp branch
    have written := written_of_ok venue stored
    refine written.applied (by simp [Event.venueEntry, type]) (by simp [Event.planEntry, type])
      (promoteStatus_watermark _) (promoteStatus_attr _) ?_
    rw [promoteStatus_status, written.status]
    by_cases late : event.rank < row.projectorWatermarkRank
    · simp [late]
    · simp [late, Event.freshStatus, type, rank_le_closed]
  · rename_i type
    obtain ⟨mid, venue, rfl⟩ := map_eq_ok.mp branch
    have written := written_of_ok venue stored
    refine written.applied (by simp [Event.venueEntry, type]) (by simp [Event.planEntry, type])
      applyReconcileStatus_watermark applyReconcileStatus_attr ?_
    rw [applyReconcileStatus_status, written.status]
    by_cases late : event.rank < row.projectorWatermarkRank
    · simp [late]
    · cases desired : authoritativeReconcileStatus event.payload <;>
        simp [late, Event.freshStatus, type, desired]
  · rename_i plan fill close reconcile
    obtain rfl := Except.ok.inj branch
    refine ⟨rfl, fun k _ _ => ?_, fun k _ _ => ?_, ?_⟩
    · cases type : event.eventType <;> simp_all [Event.venueEntry, Entry.fill]
    · cases type : event.eventType <;> simp_all [Event.planEntry]
    · cases type : event.eventType <;> simp_all [Event.freshStatus]

end JournalTrade

/-- What a new row holds before the event that creates it is applied. -/
structure Created (event : Event) (row : JournalTrade) : Prop where
  stored : row.Stored
  watermark : row.projectorWatermarkRank = 0
  status : row.status = some .planned
  result : row.attr .result = some TradeResult.open
  venue : ∀ k ∈ venueFields, k ∉ createFields → k ≠ .result → row.attr k = none
  planned : ∀ k ∈ createFields, k ∉ venueFields → row.attr k = event.createdTerm k

variable {user : UserId}

theorem createTrade_ok {event : Event} {row : JournalTrade} (h : createTrade user event = .ok row) :
    Created event row := by
  simp only [createTrade, bind_eq_ok] at h
  obtain ⟨-, -, row₁, set, row₂, stamped, inserted⟩ := h
  have attr₁ := JournalTrade.setFields_attr set
  obtain ⟨status₂, attr₂, watermark₂⟩ := JournalTrade.stampLineageColumns_ok stamped
  obtain ⟨rfl, stored⟩ := JournalTrade.flush_ok inserted
  have facts := JournalTrade.setFields_ok set
  refine ⟨stored, ?_, ?_, ?_, fun k mem out other => ?_, fun k mem out => ?_⟩
  · rw [watermark₂, facts]
    rfl
  · rw [status₂, facts]
    rfl
  · have none_ : row₂.attr .result = none := by
      rw [attr₂, attr₁]
      rfl
    simp only [none_]
    rfl
  · have none_ : row₂.attr k = none := by
      rw [attr₂, attr₁, if_neg out]
      simp only [venueFields, List.mem_cons, List.not_mem_nil, or_false] at mem
      rcases mem with rfl | rfl | rfl | rfl | rfl | rfl | rfl | rfl | rfl | rfl | rfl | rfl | rfl |
        rfl | rfl | rfl <;> rfl
    have runner : k ≠ .runnerEnabled := by
      rintro rfl
      exact out (by decide)
    cases k <;> first | exact absurd rfl runner | exact absurd rfl other | exact none_
  · have set : row₂.attr k = (event.entry k).overwrite ((JournalTrade.blank 0 0).attr k) := by
      rw [attr₂, attr₁, if_pos mem]
      rfl
    by_cases runner : k = .runnerEnabled
    · subst runner
      simp only [set]
      rfl
    · have other : k ≠ .result := by
        rintro rfl
        exact out (by decide)
      cases k <;> first | exact absurd rfl runner | exact absurd rfl other | exact set

/-! ## One event after another -/

def Folds (user : UserId) (t : Option JournalTrade) (event : Event) (row : JournalTrade) : Prop :=
  ∃ base : JournalTrade, (t = some base ∨ t = none ∧ createTrade user event = .ok base) ∧
    base.applyEvent event = .ok row ∧ row.Stored

def Chain (user : UserId) : Option JournalTrade → List Event → Option JournalTrade → Prop
  | t, [], t' => t' = t
  | t, event :: events, t' => ∃ row, Folds user t event row ∧ Chain user (some row) events t'

section views

variable {user : UserId} {t t' : Option JournalTrade} {event : Event} {row : JournalTrade}
  {events : List Event} {k : Key}

def mark (t : Option JournalTrade) : Nat := (t.map (·.projectorWatermarkRank)).getD 0

def venueView (k : Key) (t : Option JournalTrade) : Marked (Option k.Value) :=
  ⟨mark t, t.bind (·.attr k)⟩

def resultView (t : Option JournalTrade) : Marked (Option TradeResult) :=
  ⟨mark t, (t.map (·.attr .result)).getD (some TradeResult.open)⟩

def statusView (t : Option JournalTrade) : Marked (Option TradeStatus) :=
  ⟨mark t, (t.map (·.status)).getD (some .planned)⟩

def statusStep : Marked (Option TradeStatus) → Event → Marked (Option TradeStatus) :=
  arrive Event.rank Event.freshStatus fun _ s => s

/-- The row that the event is applied to, and what each view shows of it. -/
theorem Folds.base (h : Folds user t event row) (stored : ∀ row ∈ t, row.Stored) :
    ∃ base : JournalTrade, base.Applied event row ∧ base.Stored ∧
      base.projectorWatermarkRank = mark t ∧ mark (some row) = max (mark t) event.rank ∧
      (∀ k ∈ venueFields, k ∉ createFields → k ≠ .result → base.attr k = t.bind (·.attr k)) ∧
      base.attr .result = (resultView t).state ∧ base.status = (statusView t).state ∧
      ∀ k ∈ createFields, k ∉ venueFields →
        base.attr k = (t.map (·.attr k)).getD (event.createdTerm k) := by
  obtain ⟨base, origin, applied, -⟩ := h
  obtain rfl | ⟨rfl, created⟩ := origin
  · have stored := stored base rfl
    have applied := JournalTrade.applyEvent_applied applied stored
    exact ⟨base, applied, stored, rfl, applied.watermark, fun _ _ _ _ => rfl, rfl, rfl,
      fun _ _ _ => rfl⟩
  · have created := createTrade_ok created
    have applied := JournalTrade.applyEvent_applied applied created.stored
    have marked := applied.watermark
    rw [created.watermark] at marked
    exact ⟨base, applied, created.stored, created.watermark, marked, created.venue, created.result,
      created.status, created.planned⟩

theorem Folds.venueView (h : Folds user t event row) (stored : ∀ row ∈ t, row.Stored)
    (venue : k ∈ venueFields) (fixed : k ∉ createFields) (other : k ≠ .result) :
    venueView k (some row) = mergeStep Event.rank (Event.venueEntry k) (venueView k t) event := by
  obtain ⟨base, applied, -, watermark, marked, attr, -⟩ := h.base stored
  refine eq_arrive marked ?_
  have written := applied.venue k venue fixed
  rwa [watermark, attr k venue fixed other] at written

theorem Folds.resultView (h : Folds user t event row) (stored : ∀ row ∈ t, row.Stored) :
    resultView (some row) = latestStep Event.rank Event.toldResult (resultView t) event := by
  obtain ⟨base, applied, kept, watermark, marked, -, result, -⟩ := h.base stored
  refine eq_arrive marked ?_
  have written := applied.venue .result (by decide) (by decide)
  obtain ⟨current, there⟩ := Option.isSome_iff_exists.mp kept.result
  rw [watermark, there] at written
  rw [there] at result
  rw [← result]
  refine written.trans ?_
  -- A stored row has a result, so a late event finds nothing to fill in.
  change _ = if event.rank < mark t then some current else _
  by_cases late : event.rank < mark t
  · rw [if_pos late, if_pos late]
    rfl
  · rw [if_neg late, if_neg late]
    unfold Event.toldResult
    cases event.venueEntry .result <;> rfl

theorem Folds.statusView (h : Folds user t event row) (stored : ∀ row ∈ t, row.Stored) :
    statusView (some row) = statusStep (statusView t) event := by
  obtain ⟨base, applied, -, watermark, marked, -, -, status, -⟩ := h.base stored
  refine eq_arrive marked ?_
  have written := applied.status
  rwa [watermark, status] at written

theorem Folds.planned (h : Folds user t event row) (stored : ∀ row ∈ t, row.Stored)
    (created : k ∈ createFields) (fixed : k ∉ venueFields) :
    row.attr k = (event.planEntry k).overwrite ((t.map (·.attr k)).getD (event.createdTerm k)) := by
  obtain ⟨base, applied, -, -, -, -, -, -, attr⟩ := h.base stored
  rw [applied.planned k created fixed, attr k created fixed]

/-- A view that each event changes by a step shows the run of the steps. -/
theorem Chain.view {M : Type} {V : Option JournalTrade → M} {step : M → Event → M}
    (commute : ∀ t event row, (∀ row ∈ t, row.Stored) → Folds user t event row →
      V (some row) = step (V t) event)
    (stored : ∀ row ∈ t, row.Stored) (h : Chain user t events t') :
    V t' = run step (V t) events := by
  induction events generalizing t with
  | nil => rw [show t' = t from h, run_nil]
  | cons event events ih =>
    obtain ⟨row, folds, rest⟩ := h
    have kept : ∀ r ∈ some row, r.Stored := by
      intro r mem
      obtain rfl := Option.some.inj mem
      obtain ⟨-, -, -, stored⟩ := folds
      exact stored
    rw [ih kept rest, run_cons, commute t event row stored folds]

/-- Something was applied, so there is a row. -/
theorem Chain.isSome (h : Chain user t events t') (some_ : t.isSome ∨ events ≠ []) : t'.isSome := by
  induction events generalizing t with
  | nil =>
    rw [show t' = t from h]
    simpa using some_
  | cons event events ih =>
    obtain ⟨row, -, rest⟩ := h
    exact ih rest (.inl rfl)

theorem Chain.venue (h : Chain user none events t') (venue : k ∈ venueFields)
    (fixed : k ∉ createFields) (other : k ≠ .result) :
    t'.bind (·.attr k) = merged Event.rank (Event.venueEntry k) events := by
  have view := h.view (V := venueView k) (fun t event row stored folds =>
    folds.venueView stored venue fixed other) (by simp)
  exact congrArg Marked.state view

theorem Chain.result (h : Chain user none events t') :
    (t'.map (·.attr .result)).getD (some TradeResult.open) =
      latest Event.rank Event.toldResult (some TradeResult.open) events := by
  have view := h.view (V := resultView) (fun t event row stored folds =>
    folds.resultView stored) (by simp)
  exact congrArg Marked.state view

theorem Chain.status (h : Chain user none events t') :
    (t'.map (·.status)).getD (some .planned) =
      (run statusStep ⟨0, some .planned⟩ events).state := by
  have view := h.view (V := statusView) (fun t event row stored folds =>
    folds.statusView stored) (by simp)
  exact congrArg Marked.state view

/-- Once the row is there, only an approved plan changes a planned term. -/
theorem Chain.planned {row : JournalTrade} (h : Chain user (some row) events t')
    (stored : row.Stored) (created : k ∈ createFields) (fixed : k ∉ venueFields) :
    t'.bind (·.attr k) =
      run (fun s event => (event.planEntry k).overwrite s) (row.attr k) events := by
  induction events generalizing row with
  | nil => rw [show t' = some row from h]; rfl
  | cons event events ih =>
    obtain ⟨row', folds, rest⟩ := h
    have kept : row'.Stored := folds.choose_spec.2.2
    rw [ih rest kept, run_cons, folds.planned (by simpa using stored) created fixed]
    rfl

end views

/-! ## The journal after a list of events -/

namespace Store

variable {hash : OrganizationId → Event → String} {org : OrganizationId} {user : UserId}
  {c : CommandId} {j j' : Store} {event : Event} {events : List Event}

/-- An event of the lifecycle that was not seen before is recorded, and applied unless it is
blocked. -/
theorem project_ok {r : ProjectionResult} (h : j.project hash org user event = .ok (j', r))
    (new : j.findRecord org event = none) (lifecycle : event.executionLifecycleId = some c)
    (creating : event.eventType.nonCreating = false) :
    (∃ written : Record, written.event = event ∧ j'.records = j.records ++ [written]) ∧
      if event.closeBlocked then j'.trades = j.trades
      else ∃ row, Folds user (j.trades org c) event row ∧ j'.trades org c = some row := by
  simp only [project, new, lifecycle, bind_eq_ok] at h
  obtain ⟨-, -, -, -, h⟩ := h
  rw [if_neg (by simp [creating])] at h
  split at h
  · rename_i blocked
    obtain ⟨rfl, rfl⟩ := Prod.mk.inj (Except.ok.inj h)
    exact ⟨⟨_, rfl, rfl⟩, by simp [blocked]⟩
  · rename_i open_
    simp only [bind_eq_ok] at h
    obtain ⟨⟨j₁, created⟩, applied, h⟩ := h
    obtain ⟨rfl, rfl⟩ := Prod.mk.inj (Except.ok.inj h)
    simp only [applyToTrade, bind_eq_ok] at applied
    obtain ⟨⟨base, created₁⟩, resolved, -, -, row, folded, row', flushed, eq⟩ := applied
    obtain ⟨rfl, rfl⟩ := Prod.mk.inj (Except.ok.inj eq)
    obtain ⟨rfl, stored⟩ := JournalTrade.flush_ok flushed
    refine ⟨⟨_, rfl, rfl⟩, ?_⟩
    rw [if_neg open_]
    refine ⟨row', ⟨base, ?_, folded, stored⟩, by simp [putTrade]⟩
    unfold resolveLifecycleTrade at resolved
    split at resolved
    · rename_i existing found
      simp only [bind_eq_ok] at resolved
      obtain ⟨-, -, eq⟩ := resolved
      obtain ⟨rfl, rfl⟩ := Prod.mk.inj (Except.ok.inj eq)
      exact .inl found
    · rename_i absent
      simp only [bind_eq_ok] at resolved
      obtain ⟨made, creation, eq⟩ := resolved
      obtain ⟨rfl, rfl⟩ := Prod.mk.inj (Except.ok.inj eq)
      exact .inr ⟨absent, creation⟩

def Unseen (j : Store) (org : OrganizationId) (events : List Event) : Prop :=
  ∀ event ∈ events, ∀ r ∈ j.records, r.organizationId = org → ¬r.event.SameIdentity event

theorem projectAll_cons :
    j.projectAll hash org user (event :: events) = .ok j' ↔
      ∃ j₁ r, j.project hash org user event = .ok (j₁, r) ∧
        j₁.projectAll hash org user events = .ok j' := by
  simp only [projectAll, List.foldlM_cons, bind_eq_ok, map_eq_ok]
  constructor
  · rintro ⟨j₁, ⟨⟨j₁, r⟩, projected, rfl⟩, rest⟩
    exact ⟨j₁, r, projected, rest⟩
  · rintro ⟨j₁, r, projected, rest⟩
    exact ⟨j₁, ⟨(j₁, r), projected, rfl⟩, rest⟩

/-- The events that are not blocked are applied to the row of the lifecycle, in order. -/
theorem projectAll_chain (h : j.projectAll hash org user events = .ok j')
    (lifecycle : ∀ event ∈ events, event.executionLifecycleId = some c)
    (creating : ∀ event ∈ events, event.eventType.nonCreating = false)
    (distinct : (events.map (·.eventType)).Nodup) (unseen : j.Unseen org events) :
    Chain user (j.trades org c) (events.filter (!·.closeBlocked)) (j'.trades org c) := by
  induction events generalizing j with
  | nil =>
    obtain rfl := Except.ok.inj h
    rfl
  | cons event events ih =>
    obtain ⟨j₁, r, projected, rest⟩ := projectAll_cons.mp h
    obtain ⟨other, apart⟩ := List.nodup_cons.mp distinct
    have new : j.findRecord org event = none := by
      refine List.find?_eq_none.mpr fun r mem same => ?_
      obtain ⟨own, identity⟩ := of_decide_eq_true same
      exact unseen event (by simp) r mem own identity
    obtain ⟨⟨written, rfl, records⟩, effect⟩ := project_ok projected new
      (lifecycle event (by simp)) (creating event (by simp))
    have rest := ih rest (fun e mem => lifecycle e (by simp [mem]))
      (fun e mem => creating e (by simp [mem])) apart ?_
    · split at effect
      · rename_i blocked
        rw [effect] at rest
        simpa [blocked] using rest
      · rename_i open_
        obtain ⟨row, folds, found⟩ := effect
        rw [found] at rest
        rw [List.filter_cons_of_pos (by simpa using open_)]
        exact ⟨row, folds, rest⟩
    · -- The new record is of another type than what is still to come.
      intro e mem r rmem own same
      rw [records] at rmem
      obtain old | new := List.mem_append.mp rmem
      · exact unseen e (by simp [mem]) r old own same
      · obtain rfl := List.mem_singleton.mp new
        exact other (List.mem_map.mpr ⟨e, mem, same.2.2.2.1.symm⟩)

end Store

/-! ## When the order does not matter -/

def venueTerms : List Key :=
  [.entryPrice, .entryTime, .exitPrice, .exitTime, .exitReason, .size, .leverage, .fees, .funding,
    .slippage, .grossPnl, .netPnl]

def plannedTerms : List Key :=
  [.plannedEntryPrice, .plannedStopPrice, .plannedTargets, .runnerEnabled, .runnerPlan,
    .plannedRiskAmount]

theorem venueTerms_fields {k : Key} (h : k ∈ venueTerms) :
    k ∈ venueFields ∧ k ∉ createFields ∧ k ≠ .result := by
  revert k
  decide

theorem plannedTerms_fields {k : Key} (h : k ∈ plannedTerms) :
    k ∈ createFields ∧ k ∉ venueFields := by
  revert k
  decide

/-- Two rows tell the same trade. -/
structure SameEconomics (t t' : Option JournalTrade) : Prop where
  status : t.bind (·.status) = t'.bind (·.status)
  result : t.bind (·.attr .result) = t'.bind (·.attr .result)
  venue : ∀ k ∈ venueTerms, t.bind (·.attr k) = t'.bind (·.attr k)
  planned : ∀ k ∈ plannedTerms, t.bind (·.attr k) = t'.bind (·.attr k)

def Event.AssertsStatus (event : Event) : Prop :=
  authoritativeReconcileStatus event.payload ≠ none ∨ event.toldStatus ≠ .absent

def StatusSettled (events : List Event) : Prop :=
  ∀ r ∈ events, r.eventType = .reconcile →
    r.AssertsStatus ∨ ∀ e ∈ events, e.eventType ≠ .fill ∧ e.eventType ≠ .close

def ResultSettled (events : List Event) : Prop :=
  (∃ t ∈ events, (∀ e ∈ events, e.rank ≤ t.rank) ∧ t.toldResult.isSome) ∨
    ∀ e ∈ events, ∀ a ∈ e.toldResult, a = some .open

def PlannedSettled (k : Key) (events : List Event) : Prop :=
  (∃ p ∈ events, p.planEntry k ≠ .absent) ∨
    ∀ e ∈ events, ∀ e' ∈ events, e.createdTerm k = e'.createdTerm k

/-- The arrival order of the events that are applied does not matter. -/
structure OrderFree (events : List Event) : Prop where
  status : StatusSettled events
  result : ResultSettled events
  venue : ∀ k ∈ venueTerms, Settled Event.rank (Event.venueEntry k) events
  planned : ∀ k ∈ plannedTerms, PlannedSettled k events

section status

variable {events o : List Event} {e r : Event}

def finalStatus (events : List Event) : Option TradeStatus :=
  (run statusStep ⟨0, some .planned⟩ events).state

theorem finalStatus_of_top {t : Event} {pre post : List Event}
    (before : ∀ e ∈ pre, e.rank < t.rank) (after : ∀ e ∈ post, e.rank < t.rank) :
    finalStatus (pre ++ t :: post) = t.freshStatus (finalStatus pre) := by
  rw [finalStatus, statusStep, run_of_top (Nat.zero_le _) before after, run_late_self]
  rfl

theorem freshStatus_approvedPlan (type : e.eventType = .approvedPlan) (s : Option TradeStatus) :
    e.freshStatus s = s := by
  simp [Event.freshStatus, type]

/-- Approved plans leave the status alone. -/
theorem finalStatus_of_plans (plans : ∀ e ∈ events, e.eventType = .approvedPlan) :
    finalStatus events = some .planned := by
  suffices all : ∀ m : Marked (Option TradeStatus), m.state = some .planned →
      (run statusStep m events).state = some .planned from all _ rfl
  induction events with
  | nil => exact fun m h => h
  | cons e events ih =>
    obtain ⟨head, tail⟩ := List.forall_mem_cons.mp plans
    intro m h
    refine ih tail _ ?_
    unfold statusStep arrive
    split
    · exact h
    · rw [freshStatus_approvedPlan head, h]

theorem freshStatus_silent (type : r.eventType = .reconcile) (silent : ¬r.AssertsStatus)
    (s : Option TradeStatus) : r.freshStatus s = s := by
  obtain ⟨authority, told⟩ := not_or.mp silent
  rw [not_not] at authority told
  simp [Event.freshStatus, type, authority, told]

theorem freshStatus_asserted (type : r.eventType = .reconcile) (asserts : r.AssertsStatus)
    (s s' : Option TradeStatus) : r.freshStatus s = r.freshStatus s' := by
  simp only [Event.freshStatus, type]
  cases desired : authoritativeReconcileStatus r.payload with
  | some status => rfl
  | none =>
    obtain authority | told := asserts
    · exact absurd desired authority
    · cases said : r.toldStatus with
      | absent => exact absurd said told
      | _ => rfl

/-- After a fill or a close the trade is not planned any more. -/
theorem freshStatus_ne_planned (type : e.eventType = .fill ∨ e.eventType = .close) :
    e.freshStatus (some .planned) ≠ some .planned := by
  obtain type | type := type
  · simp only [Event.freshStatus, type]
    split
    · simp
    · rename_i above
      intro told
      rw [told] at above
      exact above (by decide)
  · simp [Event.freshStatus, type]

theorem rank_le_reconcile (event : Event) : event.rank ≤ 40 := by
  unfold Event.rank EventType.rank
  split <;> simp

theorem rank_lt_cases (creating : e.eventType.nonCreating = false) {n : Nat} (lt : e.rank < n)
    (le : n ≤ 20) : e.eventType = .approvedPlan := by
  unfold Event.rank at lt
  cases type : e.eventType <;> simp_all [EventType.rank, EventType.nonCreating] <;> omega

theorem finalStatus_perm_iff (distinct : (events.map Event.rank).Nodup)
    (creating : ∀ e ∈ events, e.eventType.nonCreating = false) :
    (∀ o o' : List Event, o.Perm events → o'.Perm events → finalStatus o = finalStatus o') ↔
      StatusSettled events := by
  constructor
  · intro same r rmem type
    by_contra unsettled
    obtain ⟨silent, other⟩ := not_or.mp unsettled
    push Not at other
    obtain ⟨e, emem, moves⟩ := other
    have moves : e.eventType = .fill ∨ e.eventType = .close := by tauto
    have top : ∀ i ∈ events, i.rank ≤ r.rank := by
      intro i _
      simpa [Event.rank, type, EventType.rank] using rank_le_reconcile i
    have apart : e ≠ r := by
      rintro rfl
      simp [type] at moves
    obtain ⟨rest, perm, perm', first, later⟩ := exists_perm_with_top distinct emem rmem top apart
    have before : finalStatus ([] ++ r :: e :: rest) = _ :=
      finalStatus_of_top (by simp) (List.forall_mem_cons.mpr ⟨first, later⟩)
    have after : finalStatus ([e] ++ r :: rest) = _ :=
      finalStatus_of_top (by simpa using first) later
    have eq := same _ _ perm perm'
    rw [List.nil_append] at before
    rw [List.singleton_append] at after
    rw [before, after, freshStatus_silent type silent, freshStatus_silent type silent] at eq
    exact freshStatus_ne_planned moves eq.symm
  · intro settled
    by_cases none_ : events = []
    · subst none_
      intro o o' perm perm'
      rw [perm.eq_nil, perm'.eq_nil]
    obtain ⟨i₀, mem₀⟩ := List.exists_mem_of_ne_nil events none_
    obtain ⟨t, mem, -, top⟩ := exists_top Event.rank (p := fun _ => True)
      ⟨i₀, mem₀, trivial⟩
    suffices all : ∀ o : List Event, o.Perm events →
        finalStatus o = t.freshStatus (some .planned) by
      intro o o' perm perm'
      rw [all o perm, all o' perm']
    intro o perm
    obtain ⟨pre, post, rfl⟩ := List.append_of_mem (perm.mem_iff.mpr mem)
    obtain ⟨before, after⟩ := lt_top_of_nodup ((perm.map Event.rank).nodup_iff.mpr distinct)
      fun i imem => top i (perm.mem_iff.mp imem) trivial
    have inside : ∀ i ∈ pre, i ∈ events := fun i imem => perm.mem_iff.mp (by simp [imem])
    rw [finalStatus_of_top before after]
    cases type : t.eventType with
    | reconcile =>
      obtain asserts | quiet := settled t mem type
      · exact freshStatus_asserted type asserts _ _
      · rw [finalStatus_of_plans]
        intro i imem
        have lower := before i imem
        have := creating i (inside i imem)
        have := quiet i (inside i imem)
        unfold Event.rank at lower
        cases itype : i.eventType <;> simp_all [EventType.rank, EventType.nonCreating]
    | close => simp [Event.freshStatus, type]
    | _ =>
      -- Only the approved plan ranks below a fill.
      rw [finalStatus_of_plans]
      intro i imem
      exact rank_lt_cases (creating i (inside i imem)) (before i imem)
        (by simp [Event.rank, type, EventType.rank])

end status

section planned

variable {k : Key} {events o : List Event} {e p : Event}

def planStep (k : Key) (s : Option k.Value) (e : Event) : Option k.Value :=
  (e.planEntry k).overwrite s

def finalTerm (k : Key) : List Event → Option k.Value
  | [] => none
  | e :: events => run (planStep k) (e.createdTerm k) (e :: events)

theorem run_planStep_absent (absent : ∀ e ∈ events, e.planEntry k = .absent) (s : Option k.Value) :
    run (planStep k) s events = s := by
  induction events generalizing s with
  | nil => rfl
  | cons e events ih =>
    obtain ⟨head, tail⟩ := List.forall_mem_cons.mp absent
    rw [run_cons, ih tail, planStep, head]
    rfl

theorem planEntry_eq_absent (type : e.eventType ≠ .approvedPlan) : e.planEntry k = .absent := by
  unfold Event.planEntry
  split
  · rename_i plan
    exact absurd plan type
  · rfl

/-- The approved plan that has the term decides it. -/
theorem run_planStep_of_mem (distinct : (events.map (·.eventType)).Nodup) (mem : p ∈ events)
    (given : p.planEntry k ≠ .absent) (s : Option k.Value) :
    run (planStep k) s events = (p.planEntry k).overwrite none := by
  obtain ⟨pre, post, rfl⟩ := List.append_of_mem mem
  have plan : p.eventType = .approvedPlan := by
    by_contra other
    exact given (planEntry_eq_absent other)
  have later : ∀ e ∈ post, e.planEntry k = .absent := by
    intro e emem
    refine planEntry_eq_absent fun type => ?_
    simp only [List.map_append, List.map_cons, List.nodup_append, List.nodup_cons, List.mem_map]
      at distinct
    exact distinct.2.1.1 ⟨e, emem, type.trans plan.symm⟩
  rw [run_append, run_cons, run_planStep_absent later, planStep]
  cases entry : p.planEntry k with
  | absent => exact absurd entry given
  | _ => rfl

theorem finalTerm_perm_iff (distinct : (events.map (·.eventType)).Nodup) :
    (∀ o o' : List Event, o.Perm events → o'.Perm events → finalTerm k o = finalTerm k o') ↔
      PlannedSettled k events := by
  constructor
  · intro same
    by_contra unsettled
    obtain ⟨unplanned, differ⟩ := not_or.mp unsettled
    push Not at unplanned differ
    obtain ⟨e, emem, e', emem', apart⟩ := differ
    -- Without the term in a plan, the first event decides.
    have first : ∀ i ∈ events, ∃ o : List Event, o.Perm events ∧
        finalTerm k o = i.createdTerm k := by
      intro i imem
      obtain ⟨pre, post, rfl⟩ := List.append_of_mem imem
      refine ⟨i :: (pre ++ post), List.perm_middle.symm, run_planStep_absent ?_ _⟩
      intro x xmem
      exact unplanned x (List.perm_middle.mem_iff.mpr xmem)
    obtain ⟨o, perm, eq⟩ := first e emem
    obtain ⟨o', perm', eq'⟩ := first e' emem'
    exact apart (eq.symm.trans ((same o o' perm perm').trans eq'))
  · intro settled o o' perm perm'
    have all : ∃ result, ∀ o : List Event, o.Perm events → o ≠ [] → finalTerm k o = result := by
      by_cases plan : ∃ p ∈ events, p.planEntry k ≠ .absent
      · obtain ⟨p, pmem, given⟩ := plan
        refine ⟨(p.planEntry k).overwrite none, fun o perm nonempty => ?_⟩
        obtain ⟨e, rest, rfl⟩ := List.exists_cons_of_ne_nil nonempty
        exact run_planStep_of_mem ((perm.map _).nodup_iff.mpr distinct) (perm.mem_iff.mpr pmem)
          given _
      · have agree := settled.resolve_left plan
        push Not at plan
        by_cases some_ : ∃ i, i ∈ events
        · obtain ⟨i, imem⟩ := some_
          refine ⟨i.createdTerm k, fun o perm nonempty => ?_⟩
          obtain ⟨e, rest, rfl⟩ := List.exists_cons_of_ne_nil nonempty
          rw [finalTerm, run_planStep_absent fun x xmem => plan x (perm.mem_iff.mp xmem)]
          exact agree e (perm.mem_iff.mp (by simp)) i imem
        · refine ⟨none, fun o perm nonempty => ?_⟩
          obtain ⟨e, rest, rfl⟩ := List.exists_cons_of_ne_nil nonempty
          exact absurd ⟨e, perm.mem_iff.mp (by simp)⟩ some_
    by_cases none_ : events = []
    · subst none_
      rw [perm.eq_nil, perm'.eq_nil]
    · obtain ⟨result, value⟩ := all
      have nonempty : ∀ o : List Event, o.Perm events → o ≠ [] := by
        rintro o perm rfl
        exact none_ perm.symm.eq_nil
      rw [value o perm (nonempty o perm), value o' perm' (nonempty o' perm')]

theorem Chain.finalTerm {user : UserId} {t' : Option JournalTrade} (h : Chain user none events t')
    (created : k ∈ createFields) (fixed : k ∉ venueFields) :
    t'.bind (·.attr k) = finalTerm k events := by
  cases events with
  | nil => rw [show t' = none from h]; rfl
  | cons e events =>
    obtain ⟨row, folds, rest⟩ := h
    rw [rest.planned folds.choose_spec.2.2 created fixed, folds.planned (by simp) created fixed]
    rfl

end planned

/-- Two chains of the same events end in the same trade exactly when each part of it is the
same fold. -/
theorem sameEconomics_iff {o o' : List Event} {t t' : Option JournalTrade} (h : Chain user none o t)
    (h' : Chain user none o' t') (nonempty : o ≠ []) (nonempty' : o' ≠ []) :
    SameEconomics t t' ↔
      finalStatus o = finalStatus o' ∧
      latest Event.rank Event.toldResult (some TradeResult.open) o =
        latest Event.rank Event.toldResult (some TradeResult.open) o' ∧
      (∀ k ∈ venueTerms, merged Event.rank (Event.venueEntry k) o =
        merged Event.rank (Event.venueEntry k) o') ∧
      ∀ k ∈ plannedTerms, finalTerm k o = finalTerm k o' := by
  have value : ∀ {o t}, Chain user none o t → o ≠ [] → t.bind (·.status) = finalStatus o ∧
      t.bind (·.attr .result) =
        latest Event.rank Event.toldResult (some TradeResult.open) o := by
    intro o t h nonempty
    obtain ⟨row, rfl⟩ := Option.isSome_iff_exists.mp (h.isSome (.inr nonempty))
    exact ⟨h.status, h.result⟩
  obtain ⟨status, result⟩ := value h nonempty
  obtain ⟨status', result'⟩ := value h' nonempty'
  have venue : ∀ k ∈ venueTerms, t.bind (·.attr k) = merged Event.rank (Event.venueEntry k) o ∧
      t'.bind (·.attr k) = merged Event.rank (Event.venueEntry k) o' := by
    intro k mem
    obtain ⟨inside, outside, other⟩ := venueTerms_fields mem
    exact ⟨h.venue inside outside other, h'.venue inside outside other⟩
  have planned : ∀ k ∈ plannedTerms, t.bind (·.attr k) = finalTerm k o ∧
      t'.bind (·.attr k) = finalTerm k o' := by
    intro k mem
    obtain ⟨inside, outside⟩ := plannedTerms_fields mem
    exact ⟨h.finalTerm inside outside, h'.finalTerm inside outside⟩
  constructor
  · intro same
    refine ⟨?_, ?_, fun k mem => ?_, fun k mem => ?_⟩
    · rw [← status, ← status', same.status]
    · rw [← result, ← result', same.result]
    · rw [← (venue k mem).1, ← (venue k mem).2, same.venue k mem]
    · rw [← (planned k mem).1, ← (planned k mem).2, same.planned k mem]
  · rintro ⟨hs, hr, hv, hp⟩
    refine ⟨?_, ?_, fun k mem => ?_, fun k mem => ?_⟩
    · rw [status, status', hs]
    · rw [result, result', hr]
    · rw [(venue k mem).1, (venue k mem).2, hv k mem]
    · rw [(planned k mem).1, (planned k mem).2, hp k mem]

/-- At most one each of plan, fill, close and reconciliation, all of one lifecycle. -/
structure LifecycleEvents (c : CommandId) (events : List Event) : Prop where
  lifecycle : ∀ event ∈ events, event.executionLifecycleId = some c
  creating : ∀ event ∈ events, event.eventType.nonCreating = false
  distinct : (events.map (·.eventType)).Nodup

namespace LifecycleEvents

variable {c : CommandId} {events o : List Event}

theorem of_perm (h : LifecycleEvents c events) (perm : o.Perm events) : LifecycleEvents c o where
  lifecycle event mem := h.lifecycle event (perm.mem_iff.mp mem)
  creating event mem := h.creating event (perm.mem_iff.mp mem)
  distinct := (perm.map _).nodup_iff.mpr h.distinct

theorem filter (h : LifecycleEvents c events) (p : Event → Bool) :
    LifecycleEvents c (events.filter p) where
  lifecycle event mem := h.lifecycle event (List.mem_filter.mp mem).1
  creating event mem := h.creating event (List.mem_filter.mp mem).1
  distinct := h.distinct.sublist (List.filter_sublist.map _)

/-- Different types have different ranks. -/
theorem rank_nodup (h : LifecycleEvents c events) : (events.map Event.rank).Nodup := by
  have ranks : events.map Event.rank = (events.map (·.eventType)).map EventType.rank := by
    rw [List.map_map]
    rfl
  rw [ranks]
  refine h.distinct.map_on fun x xmem y ymem same => ?_
  obtain ⟨e, emem, rfl⟩ := List.mem_map.mp xmem
  obtain ⟨e', emem', rfl⟩ := List.mem_map.mp ymem
  have := h.creating e emem
  have := h.creating e' emem'
  cases type : e.eventType <;> cases type' : e'.eventType <;>
    simp_all [EventType.rank, EventType.nonCreating]

end LifecycleEvents

/-- An order of the events that are applied is an order of all events. -/
theorem exists_perm_filter {events o : List Event} (p : Event → Bool)
    (perm : o.Perm (events.filter p)) :
    ∃ all : List Event, all.Perm events ∧ all.filter p = o := by
  refine ⟨o ++ events.filter (fun e => !p e), ?_, ?_⟩
  · exact (perm.append_right _).trans (List.filter_append_perm p events)
  · have kept : ∀ e ∈ o, p e = true := fun e mem => (List.mem_filter.mp (perm.mem_iff.mp mem)).2
    rw [List.filter_append, List.filter_eq_self.mpr kept, List.filter_filter]
    simp

/-- Of the events that are not blocked, the arrival order does not matter for status, result
and economic fields exactly when they are order free. -/
theorem projection_order_independent_iff (hash : OrganizationId → Event → String)
    (org : OrganizationId) (user : UserId) (c : CommandId) (j : Store) (events : List Event)
    (shape : LifecycleEvents c events) (absent : j.trades org c = none)
    (unseen : j.Unseen org events)
    (accepted : ∀ o : List Event, o.Perm events →
      ∃ j', j.projectAll hash org user o = .ok j') :
    (∀ o o' : List Event, o.Perm events → o'.Perm events → ∀ j₁ j₂,
      j.projectAll hash org user o = .ok j₁ → j.projectAll hash org user o' = .ok j₂ →
      SameEconomics (j₁.trades org c) (j₂.trades org c)) ↔
      OrderFree (events.filter (!·.closeBlocked)) := by
  have chain : ∀ o : List Event, o.Perm events → ∀ j', j.projectAll hash org user o = .ok j' →
      Chain user none (o.filter (!·.closeBlocked)) (j'.trades org c) := by
    intro o perm j' projected
    have shape := shape.of_perm perm
    rw [← absent]
    exact Store.projectAll_chain projected shape.lifecycle shape.creating shape.distinct
      fun e mem => unseen e (perm.mem_iff.mp mem)
  have applied := shape.filter (!·.closeBlocked)
  have ranks := applied.rank_nodup
  by_cases nothing : events.filter (!·.closeBlocked) = []
  · -- Nothing is applied, and there is no row.
    rw [nothing]
    have none_ : ∀ o : List Event, o.Perm events → ∀ j', j.projectAll hash org user o = .ok j' →
        j'.trades org c = none := by
      intro o perm j' projected
      have empty := (perm.filter (!·.closeBlocked)).trans (.of_eq nothing)
      have ended := chain o perm j' projected
      rw [empty.eq_nil] at ended
      exact ended
    refine ⟨fun _ => ⟨?_, ?_, ?_, ?_⟩, fun _ o o' perm perm' j₁ j₂ projected projected' => ?_⟩
    · simp [StatusSettled]
    · simp [ResultSettled]
    · simp [Settled]
    · simp [PlannedSettled]
    · rw [none_ o perm j₁ projected, none_ o' perm' j₂ projected']
      exact ⟨rfl, rfl, fun _ _ => rfl, fun _ _ => rfl⟩
  have nonempty : ∀ o : List Event, o.Perm (events.filter (!·.closeBlocked)) → o ≠ [] := by
    rintro o perm rfl
    exact nothing perm.symm.eq_nil
  constructor
  · intro same
    have all : ∀ o o' : List Event, o.Perm (events.filter (!·.closeBlocked)) →
        o'.Perm (events.filter (!·.closeBlocked)) →
        finalStatus o = finalStatus o' ∧
        latest Event.rank Event.toldResult (some TradeResult.open) o =
          latest Event.rank Event.toldResult (some TradeResult.open) o' ∧
        (∀ k ∈ venueTerms, merged Event.rank (Event.venueEntry k) o =
          merged Event.rank (Event.venueEntry k) o') ∧
        ∀ k ∈ plannedTerms, finalTerm k o = finalTerm k o' := by
      intro o o' perm perm'
      obtain ⟨whole, wholePerm, rfl⟩ := exists_perm_filter _ perm
      obtain ⟨whole', wholePerm', rfl⟩ := exists_perm_filter _ perm'
      obtain ⟨j₁, projected⟩ := accepted whole wholePerm
      obtain ⟨j₂, projected'⟩ := accepted whole' wholePerm'
      exact (sameEconomics_iff (chain _ wholePerm _ projected) (chain _ wholePerm' _ projected')
        (nonempty _ perm) (nonempty _ perm')).mp
          (same whole whole' wholePerm wholePerm' j₁ j₂ projected projected')
    refine ⟨?_, ?_, fun k mem => ?_, fun k mem => ?_⟩
    · exact (finalStatus_perm_iff ranks applied.creating).mp fun o o' p p' => (all o o' p p').1
    · exact (latest_perm_iff ranks).mp fun o o' p p' => (all o o' p p').2.1
    · exact (merged_perm_iff ranks).mp fun o o' p p' => (all o o' p p').2.2.1 k mem
    · exact (finalTerm_perm_iff applied.distinct).mp fun o o' p p' => (all o o' p p').2.2.2 k mem
  · intro free o o' perm perm' j₁ j₂ projected projected'
    have appliedPerm := perm.filter (!·.closeBlocked)
    have appliedPerm' := perm'.filter (!·.closeBlocked)
    refine (sameEconomics_iff (chain o perm j₁ projected) (chain o' perm' j₂ projected')
      (nonempty _ appliedPerm) (nonempty _ appliedPerm')).mpr
      ⟨?_, ?_, fun k mem => ?_, fun k mem => ?_⟩
    · exact (finalStatus_perm_iff ranks applied.creating).mpr free.status _ _ appliedPerm
        appliedPerm'
    · exact (latest_perm_iff ranks).mpr free.result _ _ appliedPerm appliedPerm'
    · exact (merged_perm_iff ranks).mpr (free.venue k mem) _ _ appliedPerm appliedPerm'
    · exact (finalTerm_perm_iff applied.distinct).mpr (free.planned k mem) _ _ appliedPerm
        appliedPerm'

/-! ## A fill that is late -/

namespace Sample

/-- The instrument identity and nothing else. -/
def instrument : Payload where
  get k := match k with
    | .symbol => .value "BTC-USDT"
    | .timeframe => .value "1h"
    | .direction => .value TradeDirection.long
    | _ => .absent
  status := .absent
  reconciliationPosition := none
  reconciliationStatus := none
  lineage := .absent

def event (type : EventType) (payload : Payload) : Event where
  eventType := type
  executionLifecycleId := some 1
  sourceSystem := "canonical_paper_execution"
  sourceAggregate := "execution-command"
  sourceEventId := "source"
  sourceEventVersion := 1
  supersession := 0
  accountId := 1
  payload := payload

def fill : Event := event .fill { instrument with
  get := fun k => match k with
    | .entryPrice => .value (64000 : ℚ)
    | .size => .value (1 / 5 : ℚ)
    | k => instrument.get k }

def close : Event := event .close { instrument with
  get := fun k => match k with
    | .exitPrice => .value (63000 : ℚ)
    | .netPnl => .value (-200 : ℚ)
    | .result => .value TradeResult.loss
    | k => instrument.get k }

def reconcile : Event := event .reconcile { instrument with
  get := fun k => match k with
    | .fees => .value (3 : ℚ)
    | k => instrument.get k }

def projected (events : List Event) : Option JournalTrade :=
  (Store.empty.projectAll (fun _ _ => "") 1 1 events).toOption.bind (·.trades 1 1)

end Sample

/-- The reconciliation first leaves a filled trade planned. -/
theorem late_fill_stays_planned :
    (Sample.projected [Sample.fill, Sample.reconcile]).bind (·.status) = some .open ∧
      (Sample.projected [Sample.reconcile, Sample.fill]).bind (·.status) = some .planned ∧
      (Sample.projected [Sample.fill, Sample.close, Sample.reconcile]).bind (·.status) =
        some .closed ∧
      (Sample.projected [Sample.reconcile, Sample.fill, Sample.close]).bind (·.status) =
        some .planned := by
  decide

theorem sampleFillClose_orderFree : OrderFree [Sample.fill, Sample.close] where
  status := by simp [StatusSettled, Sample.fill, Sample.close, Sample.event]
  result := .inl ⟨Sample.close, by simp, by decide, by decide⟩
  venue k mem := by
    refine .inr ⟨?_, ?_⟩
    · revert k
      simp [venueTerms, Event.venueEntry, Event.entry, Given.entry, Sample.fill, Sample.close,
        Sample.event, Sample.instrument]
    · revert k
      simp [venueTerms, Event.venueEntry, Event.entry, Given.entry, Sample.fill, Sample.close,
        Sample.event, Sample.instrument]
  planned k mem := by
    refine .inr ?_
    revert k
    simp [plannedTerms, Event.createdTerm, Event.entry, Given.entry, Sample.fill, Sample.close,
      Sample.event, Sample.instrument]

theorem projection_order_independent_iff_fill_close :
    SameEconomics (Sample.projected [Sample.fill, Sample.close])
      (Sample.projected [Sample.close, Sample.fill]) := by
  have ok : ∀ o ∈ [Sample.fill, Sample.close].permutations',
      (Store.empty.projectAll (fun _ _ => "") 1 1 o).toOption.isSome := by decide
  have accepted : ∀ o : List Event, o.Perm [Sample.fill, Sample.close] →
      ∃ j', Store.empty.projectAll (fun _ _ => "") 1 1 o = .ok j' := by
    intro o perm
    have there := ok o (List.mem_permutations'.mpr perm)
    cases result : Store.empty.projectAll (fun _ _ => "") 1 1 o with
    | ok j' => exact ⟨j', rfl⟩
    | error e => simp [result, Except.toOption] at there
  have swap : [Sample.close, Sample.fill].Perm [Sample.fill, Sample.close] := .swap _ _ _
  obtain ⟨j₁, projected⟩ := accepted _ (.refl _)
  obtain ⟨j₂, projected'⟩ := accepted _ swap
  have same := (projection_order_independent_iff (fun _ _ => "") 1 1 1 Store.empty
    [Sample.fill, Sample.close] ⟨by decide, by decide, by decide⟩ rfl
    (by simp [Store.Unseen, Store.empty]) accepted).mpr sampleFillClose_orderFree _ _ (.refl _) swap
    j₁ j₂ projected projected'
  simpa [Sample.projected, projected, projected', Except.toOption] using same

end AlphaTrade.Journal
