import Mathlib.Data.List.Induction
import AlphaTrade.Execution.Log

/-!
# What the rebuild cannot see

The rebuild reads the quantities of fills and the last state. A rejection or a cancellation
writes a remainder of zero and records no quantity, and the writers that store a
reconciliation status record it in no column of the log. So the two columns are a function
of the log, but not the function that the rebuild computes.
-/
namespace AlphaTrade.Execution
open Library

def Transition.filled (t : Transition) : ℚ :=
  if t.sourceFact = .uniqueFill then t.quantity.getD 0 else 0

def SourceFact.stores : SourceFact → Option ReconciliationStatus
  | .ambiguousSend => some .required
  | .accepted _ | .safetyEpochBlockBeforeDispatch | .blofinDemoCancelled => some .resolved
  | .claimAllow | .claimPredicateBlock | .uniqueFill | .rejected _ => none

def SourceFact.rebuilds (f : SourceFact) : ReconciliationStatus :=
  if f = .ambiguousSend then .required else .notRequired

def storedStatus (ts : List Transition) : ReconciliationStatus :=
  ts.foldl (fun status t => t.sourceFact.stores.getD status) .notRequired

/-! ## The loop -/

@[simp] theorem storedStatus_concat (ts : List Transition) (t : Transition) :
    storedStatus (ts ++ [t]) = t.sourceFact.stores.getD (storedStatus ts) := by
  simp [storedStatus, List.foldl_append]

theorem SourceFact.stores_ne (f : SourceFact) : f.stores ≠ some .notRequired := by
  cases f <;> simp [stores]

theorem storedStatus_eq_notRequired (ts : List Transition) :
    storedStatus ts = .notRequired ↔ ∀ t ∈ ts, t.sourceFact.stores = none := by
  induction ts using List.reverseRecOn with
  | nil => simp [storedStatus]
  | append_singleton ts t ih =>
    have other := t.sourceFact.stores_ne
    rw [storedStatus_concat]
    cases stores : t.sourceFact.stores with
    | none => simp [ih, stores, or_imp, forall_and]
    | some status => simp_all [or_imp, forall_and]

variable {initialRemaining : ℚ} {ts : List Transition} {ls : List Label} {plan : Plan}

/-- One round of the loop, on the quantities. -/
theorem rebuildStep_quantities {s s' : RebuildState} {t : Transition} (nonneg : 0 ≤ t.filled)
    (left : s.remaining = clampZero (initialRemaining - s.filled)) (h : rebuildStep s t = .ok s') :
    s'.filled = s.filled + t.filled ∧
      s'.remaining = clampZero (initialRemaining - s'.filled) := by
  unfold rebuildStep at h
  split at h
  · rename_i quantity fact carried
    have filled : t.filled = quantity := by simp [Transition.filled, fact, carried]
    have written : ∃ weighted, s' = ⟨s.filled + quantity, clampZero (s.remaining - quantity),
        some t.newState, t.sequence, weighted⟩ := by
      cases priced : t.unitPrice with
      | none =>
        rw [priced] at h
        exact ⟨_, (Except.ok.inj h).symm⟩
      | some price =>
        rw [priced] at h
        obtain ⟨weighted, -, h⟩ := bind_eq_ok.mp h
        exact ⟨weighted, (Except.ok.inj h).symm⟩
    obtain ⟨weighted, rfl⟩ := written
    rw [filled] at nonneg ⊢
    refine ⟨rfl, ?_⟩
    change clampZero (s.remaining - quantity) = clampZero (initialRemaining - (s.filled + quantity))
    rw [left, clampZero_sub_sub _ nonneg, sub_sub]
  · rename_i none_
    have filled : t.filled = 0 := by
      unfold Transition.filled
      split
      · rename_i fact
        cases carried : t.quantity with
        | none => rfl
        | some quantity => exact absurd carried (none_ quantity fact)
      · rfl
    obtain rfl := Except.ok.inj h
    exact ⟨by simp [filled], left⟩

theorem foldlM_rebuildStep_quantities {s s' : RebuildState} (nonneg : ∀ t ∈ ts, 0 ≤ t.filled)
    (left : s.remaining = clampZero (initialRemaining - s.filled))
    (h : ts.foldlM rebuildStep s = .ok s') :
    s'.filled = s.filled + (ts.map Transition.filled).sum ∧
      s'.remaining = clampZero (initialRemaining - s'.filled) := by
  induction ts generalizing s with
  | nil =>
    obtain rfl := Except.ok.inj h
    exact ⟨by simp, left⟩
  | cons t ts ih =>
    rw [List.foldlM_cons, bind_eq_ok] at h
    obtain ⟨s₁, stepped, h⟩ := h
    obtain ⟨filled, left₁⟩ := rebuildStep_quantities (nonneg t (by simp)) left stepped
    obtain ⟨filled', left'⟩ := ih (fun u mem => nonneg u (by simp [mem])) left₁ h
    refine ⟨?_, left'⟩
    rw [filled', filled, List.map_cons, List.sum_cons, add_assoc]

/-! ## The log of a command -/

namespace Command

/-- What the log says about the columns that the rebuild derives. -/
structure RebuildInv (k : Command) : Prop where
  nonneg : ∀ t ∈ k.transitions, 0 ≤ t.filled
  telling : ∀ t ∈ k.transitions, rebuiltReconciliation t.newState = t.sourceFact.rebuilds
  last : k.transitions.getLast?.map (·.newState) = some k.projection.state
  status : k.projection.reconciliationStatus = storedStatus k.transitions

variable {cat : Catalog} {gate : Gate} {k k' : Command} {c : CommandId}

theorem RebuildInv.record (h : RebuildInv k) {d : TransitionDraft} {u : ProjectionUpdate}
    (nonneg : d.sourceFact = .uniqueFill → 0 ≤ d.quantity.getD 0)
    (telling : rebuiltReconciliation d.newState = d.sourceFact.rebuilds)
    (status : u.reconciliationStatus = d.sourceFact.stores) : RebuildInv (k.record d u) := by
  refine ⟨?_, ?_, ?_, ?_⟩
  · intro t mem
    obtain mem | rfl := by simpa using mem
    · exact h.nonneg t mem
    · unfold Transition.filled
      split
      · exact nonneg ‹_›
      · exact le_rfl
  · intro t mem
    obtain mem | rfl := by simpa using mem
    · exact h.telling t mem
    · exact telling
  · simp
  · simp [status, h.status]

theorem RebuildInv.setEffect (h : RebuildInv k) (e : Effect) : RebuildInv (k.setEffect e) :=
  ⟨h.nonneg, h.telling, h.last, h.status⟩

theorem RebuildInv.setReservation (h : RebuildInv k) (r : Reservation) :
    RebuildInv (k.setReservation r) :=
  ⟨h.nonneg, h.telling, h.last, h.status⟩

theorem RebuildInv.addFill (h : RebuildInv k) (fact : FillFact) : RebuildInv (k.addFill fact) :=
  ⟨h.nonneg, h.telling, h.last, h.status⟩

theorem RebuildInv.of_mark (h : RebuildInv k) (m : Mark gate k k') : RebuildInv k' := by
  cases m with
  | lease _ _ => exact h.setEffect _
  | authorize _ _ _ => exact h.setEffect _
  | fence _ _ _ => exact h.setEffect _
  | block _ _ _ _ _ => exact .setEffect (h.record (by simp) (by rfl) (by rfl)) _
  | ambiguous _ => exact .setEffect (h.record (by simp) (by rfl) (by rfl)) _
  | acknowledge _ => exact .setEffect (h.record (by simp) (by rfl) (by rfl)) _
  | reject _ => exact .setEffect (h.record (by simp) (by rfl) (by rfl)) _
  | cancel _ =>
    refine h.record (by simp) ?_ rfl
    dsimp only
    split <;> rfl

theorem RebuildInv.of_move (h : RebuildInv k) (m : Move gate cat k k') : RebuildInv k' := by
  cases m with
  | mark m => exact h.of_mark m
  | roll m =>
    obtain ⟨r, cause, -, -, -, rfl⟩ := m.orphan
    exact h.setReservation _
  | release _ _ => exact h.setReservation _
  | fill m =>
    obtain ⟨r, notional, weighted, now, -, -, -, rfl⟩ := m.written
    refine .setReservation ((h.addFill _).record ?_ ?_ ?_) _
    · exact fun _ => m.quantity_pos.le
    · dsimp only
      split <;> rfl
    · rfl

theorem Created.rebuildInv (h : Created cat c k) : RebuildInv k := by
  cases h with
  | blocked _ _ =>
    refine ⟨?_, ?_, rfl, rfl⟩ <;> intro t mem <;> obtain rfl := List.mem_singleton.mp mem
    · exact le_rfl
    · rfl
  | allowed _ _ _ _ =>
    refine ⟨?_, ?_, rfl, rfl⟩ <;> intro t mem <;> obtain rfl := List.mem_singleton.mp mem
    · exact le_rfl
    · rfl

end Command

variable {cat : Catalog} {c : CommandId} {k : Command}

theorem reached_rebuildInv (find : (reached cat ls).db.commands.find c = some k) : k.RebuildInv :=
  reached_invariant (I := fun _ k => k.RebuildInv) (fun _ _ => Command.Created.rebuildInv)
    (fun _ _ _ => Command.RebuildInv.of_move) (along_respects_any cat _ ls) find

/-! ## The two columns -/

/-- The quantities of a log that is rebuilt from the authorized quantity. -/
theorem rebuilt_quantities (find : (reached cat ls).db.commands.find c = some k)
    (found : cat.plans k.revisionId = some plan) {s : RebuildState}
    (replayed : k.transitions.foldlM rebuildStep (.start plan.quantity.value) = .ok s)
    (agrees : s.Agrees k.projection) :
    k.projection.filledQuantity = (k.transitions.map Transition.filled).sum ∧
      s.remaining = plan.quantity.value - k.projection.filledQuantity := by
  have inv := reached_fillInv find
  obtain ⟨plan', found', bounded, -⟩ := inv.authorized
  obtain rfl : plan' = plan := Option.some.inj (found'.symm.trans found)
  have start : (RebuildState.start plan'.quantity.value).remaining =
      clampZero (plan'.quantity.value - (RebuildState.start plan'.quantity.value).filled) := by
    simp [RebuildState.start, clampZero_of_nonneg plan'.quantity.pos.le]
  obtain ⟨filled, left⟩ := foldlM_rebuildStep_quantities (reached_rebuildInv find).nonneg start
    replayed
  rw [agrees.filled] at filled left
  have nonneg := inv.remaining
  refine ⟨by simpa [RebuildState.start] using filled, ?_⟩
  rw [left, clampZero_of_nonneg (by linarith)]

/-- The remainder of the rebuild is the stored one unless a rejection or a cancellation
dropped a remainder that was not filled. -/
theorem rebuilt_remaining_iff (find : (reached cat ls).db.commands.find c = some k)
    (found : cat.plans k.revisionId = some plan) :
    plan.quantity.value - k.projection.filledQuantity = k.projection.remainingQuantity ↔
      k.neverClosed ∨ k.projection.filledQuantity = plan.quantity.value := by
  obtain ⟨plan', found', bounded, exact_⟩ := (reached_fillInv find).authorized
  obtain rfl : plan' = plan := Option.some.inj (found'.symm.trans found)
  have nonneg := (reached_fillInv find).remaining
  constructor
  · intro same
    obtain never | zero := reached_closedInv find
    · exact .inl never
    · right
      linarith
  · rintro (never | filled)
    · have total := exact_ never
      linarith
    · linarith

/-- The status of the rebuild is the stored one when the log ends with the ambiguous mark, or
no writer in it stores a status. -/
theorem rebuilt_status_iff (inv : k.RebuildInv) (perm : ts.Perm k.transitions)
    (numbered : Numbered (·.sequence) k.transitions) :
    rebuiltReconciliation k.projection.state = k.projection.reconciliationStatus ↔
      (∀ t ∈ ts, t.sourceFact.stores = none) ∨
        ∃ t ∈ ts, t.sourceFact = .ambiguousSend ∧ ∀ u ∈ ts, u.sequence ≤ t.sequence := by
  obtain ⟨t, last, state⟩ := Option.map_eq_some_iff.mp inv.last
  have mem : t ∈ k.transitions := List.mem_of_getLast? last
  have number := numbered.number_getLast last
  have greatest : ∀ u ∈ ts, u.sequence ≤ t.sequence := by
    intro u mem'
    have bound := numbered.le_length (perm.subset mem')
    omega
  have only : ∀ u ∈ ts, (∀ v ∈ ts, v.sequence ≤ u.sequence) → u = t := by
    intro u mem' top
    have ge := top t (perm.symm.subset mem)
    exact numbered.injOn (perm.subset mem') mem (Nat.le_antisymm (greatest u mem') ge)
  rw [← state, inv.telling t mem, inv.status]
  unfold SourceFact.rebuilds
  split
  · rename_i ambiguous
    obtain ⟨ts', split⟩ : ∃ ts', k.transitions = ts' ++ [t] :=
      ⟨_, (List.dropLast_append_getLast? t last).symm⟩
    have stored : storedStatus k.transitions = .required := by
      simp [split, ambiguous, SourceFact.stores]
    rw [stored]
    exact ⟨fun _ => .inr ⟨t, perm.symm.subset mem, ambiguous, greatest⟩, fun _ => rfl⟩
  · rename_i other
    rw [eq_comm, storedStatus_eq_notRequired]
    constructor
    · exact fun none_ => .inl fun u mem' => none_ u (perm.subset mem')
    · rintro (none_ | ⟨u, mem', ambiguous, top⟩)
      · exact fun u mem' => none_ u (perm.symm.subset mem')
      · rw [only u mem' top] at ambiguous
        exact absurd ambiguous other

/-- After any run, the rebuild from a command's stored transitions, in any order and from the
quantity its plan authorizes, succeeds; and it gives the stored remaining quantity and the
stored reconciliation status exactly when the log closes no entry with a quantity unfilled,
and the ambiguous mark is its last transition or no writer in it stores a status. -/
theorem rebuild_remaining_and_status_iff (cat : Catalog) (ls : List Label) (c : CommandId)
    (k : Command) (find : (reached cat ls).db.commands.find c = some k) (plan : Plan)
    (found : cat.plans k.revisionId = some plan) (ts : List Transition)
    (perm : ts.Perm k.transitions) :
    ∃ p, rebuildProjectionFromTransitions ts plan.quantity.value = .ok p ∧
      (p.remainingQuantity = k.projection.remainingQuantity ∧
          p.reconciliationStatus = k.projection.reconciliationStatus ↔
        ((∀ t ∈ ts, t.newState.closed = false) ∨
          (ts.map Transition.filled).sum = plan.quantity.value) ∧
        ((∀ t ∈ ts, t.sourceFact.stores = none) ∨
          ∃ t ∈ ts, t.sourceFact = .ambiguousSend ∧ ∀ u ∈ ts, u.sequence ≤ t.sequence)) := by
  have inv := reached_logInv find
  obtain ⟨s, replayed, agrees⟩ := inv.replays plan.quantity.value
  obtain ⟨filled, left⟩ := rebuilt_quantities find found replayed agrees
  have rebuilt := rebuild_eq inv perm replayed
  have closed : (∀ t ∈ ts, t.newState.closed = false) ↔ k.neverClosed :=
    forall_congr' fun t => by rw [perm.mem_iff]
  rw [rebuilt]
  simp only [RebuildState.toProjection, agrees.state]
  refine ⟨_, rfl, ?_⟩
  rw [left, rebuilt_remaining_iff find found, closed, (perm.map _).sum_eq, ← filled,
    rebuilt_status_iff (reached_rebuildInv find) perm inv.numbered]

/-- The log of two fills: no writer in it stores a status, and everything is filled. -/
theorem rebuild_remaining_and_status_iff_filledRun :
    ((reached (Sample.catalog blofinDemoVenue) filledRun).db.commands.find 1).map
        (fun k => k.transitions.map fun t => (t.newState.closed, t.sourceFact.stores)) =
      some [(false, none), (false, none), (false, none)] ∧
    ∀ k, (reached (Sample.catalog blofinDemoVenue) filledRun).db.commands.find 1 = some k →
      ∃ p, rebuildProjectionFromTransitions k.transitions 2 = .ok p ∧
        (p.remainingQuantity = k.projection.remainingQuantity ∧
            p.reconciliationStatus = k.projection.reconciliationStatus ↔
          ((∀ t ∈ k.transitions, t.newState.closed = false) ∨
            (k.transitions.map Transition.filled).sum = 2) ∧
          ((∀ t ∈ k.transitions, t.sourceFact.stores = none) ∨
            ∃ t ∈ k.transitions, t.sourceFact = .ambiguousSend ∧
              ∀ u ∈ k.transitions, u.sequence ≤ t.sequence)) :=
  ⟨by decide +kernel, fun k find =>
    rebuild_remaining_and_status_iff _ _ 1 k find (Sample.plan blofinDemoVenue k.revisionId) rfl
      _ (List.Perm.refl _)⟩

def answeredRun (outcome : FakeOutcome) : List Label :=
  Sample.claim 0 1 ++ Sample.dispatch 0 1 ++
    [.beginFakeSend 0 1 "worker" 1, .finishFakeSend (Sample.ctx 1) 0 outcome]

def rebuiltColumns (w : World) : Option ((ℚ × ReconciliationStatus) ×
    Option (ℚ × ReconciliationStatus)) :=
  (w.db.commands.find 1).map fun k =>
    ((k.projection.remainingQuantity, k.projection.reconciliationStatus),
      (rebuildProjectionFromTransitions k.transitions 2).toOption.map fun p =>
        (p.remainingQuantity, p.reconciliationStatus))

/-- An acknowledgement loses its status, and a rejection gets its remainder back. -/
theorem rebuild_misses_answers :
    rebuiltColumns (reached (Sample.catalog blofinDemoVenue) (answeredRun .accepted)) =
      some ((2, .resolved), some (2, .notRequired)) ∧
    rebuiltColumns (reached (Sample.catalog blofinDemoVenue) (answeredRun .rejected)) =
      some ((0, .notRequired), some (2, .notRequired)) := by
  decide_cbv

end AlphaTrade.Execution
