import Mathlib
import AlphaTrade.Execution.Steps

/-!
# Fills, facts and ended entries

The projection of a command keeps the quantity filled, the quantity left and a running
average price. All three are functions of the stored fill facts. A fill never asks for
the receipt state; what ends an entry is that nothing is left to fill. Rejection and
cancellation see to that, the pre-dispatch block does not.
-/
namespace AlphaTrade.Execution
open Library

def ReceiptState.closed : ReceiptState → Bool
  | .rejected | .cancelled | .partiallyFilledCancelled => true
  | _ => false

def ReceiptState.ended : ReceiptState → Bool
  | .blocked | .blockedBeforeDispatch | .rejected | .cancelled | .partiallyFilledCancelled => true
  | _ => false

variable {request : FillRequest} {ls : List Label} {w : World}

theorem FillRequest.check_identity {identity : String} {time : PyDateTime}
    (h : request.check = .ok (identity, time)) : request.sourceIdentity = some identity := by
  unfold FillRequest.check at h
  split at h
  · cases h
  rename_i found
  split at h
  · cases h
  split at h
  · cases h
  split at h
  · obtain ⟨rfl, -⟩ := Prod.mk.inj (Except.ok.inj h)
    exact found
  · cases h

namespace Command

def factQuantity (k : Command) : ℚ := (k.fills.map (·.quantity)).sum

def factNotional (k : Command) : ℚ := (k.fills.map fun f => f.quantity * f.price).sum

def neverClosed (k : Command) : Prop := ∀ t ∈ k.transitions, t.newState.closed = false

/-- The projection agrees with the facts and with the authorized quantity. -/
structure FillInv (cat : Catalog) (k : Command) : Prop where
  filled : k.projection.filledQuantity = k.factQuantity
  weighted : k.projection.weightedPrice =
    if k.fills = [] then none else some (k.factNotional / k.factQuantity)
  positive : ∀ f ∈ k.fills, 0 < f.quantity
  distinct : (k.fills.map (·.sourceFillIdentity)).Nodup
  remaining : 0 ≤ k.projection.remainingQuantity
  authorized : ∃ plan, cat.plans k.revisionId = some plan ∧
    k.projection.filledQuantity + k.projection.remainingQuantity ≤ plan.quantity.value ∧
    (k.neverClosed →
      k.projection.filledQuantity + k.projection.remainingQuantity = plan.quantity.value)

variable {cat : Catalog} {gate : Gate} {k k' : Command}

theorem FillInv.setEffect (h : FillInv cat k) (e : Effect) : FillInv cat (k.setEffect e) :=
  ⟨h.filled, h.weighted, h.positive, h.distinct, h.remaining, h.authorized⟩

theorem FillInv.setReservation (h : FillInv cat k) (r : Reservation) :
    FillInv cat (k.setReservation r) :=
  ⟨h.filled, h.weighted, h.positive, h.distinct, h.remaining, h.authorized⟩

variable {d : TransitionDraft} {u : ProjectionUpdate} {fact : FillFact}

theorem neverClosed_record :
    (k.record d u).neverClosed ↔ k.neverClosed ∧ d.newState.closed = false := by
  simp [neverClosed, or_imp, forall_and]

@[simp] theorem factQuantity_record :
    (k.record d u).factQuantity = k.factQuantity := rfl

@[simp] theorem factNotional_record :
    (k.record d u).factNotional = k.factNotional := rfl

/-- A transition that is no fill either leaves the remainder or closes the entry. -/
theorem FillInv.record (h : FillInv cat k) (filled : u.filledQuantity = none)
    (weighted : u.weightedPrice = none)
    (remaining : u.remainingQuantity = none ∨ u.remainingQuantity = some 0 ∧ d.newState.closed =
      true) :
    FillInv cat (k.record d u) := by
  have left : (k.record d u).projection.remainingQuantity = k.projection.remainingQuantity ∨
      (k.record d u).projection.remainingQuantity = 0 ∧ d.newState.closed = true := by
    obtain same | ⟨zero, closed⟩ := remaining
    · exact .inl (by simp [same])
    · exact .inr ⟨by simp [zero], closed⟩
  refine ⟨?_, ?_, h.positive, h.distinct, ?_, ?_⟩
  · simpa [filled] using h.filled
  · simpa [weighted] using h.weighted
  · obtain same | ⟨zero, -⟩ := left
    · rw [same]
      exact h.remaining
    · exact zero.ge
  · obtain ⟨plan, found, bounded, exact_⟩ := h.authorized
    have nonneg := h.remaining
    refine ⟨plan, found, ?_, fun never => ?_⟩
    · simp only [record_projection, applyProjectionTransition_filledQuantity, filled,
        Option.getD_none] at left ⊢
      obtain same | ⟨zero, -⟩ := left <;> linarith
    · obtain ⟨never, open_⟩ := neverClosed_record.mp never
      have total := exact_ never
      simp only [record_projection, applyProjectionTransition_filledQuantity, filled,
        Option.getD_none] at left ⊢
      obtain same | ⟨-, closed⟩ := left
      · linarith
      · simp [open_] at closed

theorem FillInv.of_mark (h : FillInv cat k) (m : Mark gate k k') : FillInv cat k' := by
  cases m with
  | lease _ _ => exact h.setEffect _
  | authorize _ _ _ => exact h.setEffect _
  | fence _ _ _ => exact h.setEffect _
  | block _ _ _ _ _ => exact (h.record rfl rfl (.inl rfl)).setEffect _
  | ambiguous _ => exact (h.record rfl rfl (.inl rfl)).setEffect _
  | acknowledge _ => exact (h.record rfl rfl (.inl rfl)).setEffect _
  | reject _ => exact (h.record rfl rfl (.inr ⟨rfl, rfl⟩)).setEffect _
  | cancel _ =>
    refine h.record rfl rfl (.inr ⟨rfl, ?_⟩)
    dsimp only
    split <;> rfl

theorem factQuantity_pos (positive : ∀ f ∈ k.fills, 0 < f.quantity) (filled : k.fills ≠ []) :
    0 < k.factQuantity :=
  List.sum_pos _ (by simpa using positive) (by simpa using filled)

/-- The running average over facts is the average over all of them. -/
theorem weightedPrice_addFill (h : FillInv cat k) {weighted : ℚ}
    (written : cumulativeWeightedPrice k.projection.filledQuantity k.projection.weightedPrice
      fact.quantity fact.price = .ok weighted) :
    weighted = (k.factNotional + fact.quantity * fact.price) /
      (k.factQuantity + fact.quantity) := by
  unfold cumulativeWeightedPrice at written
  split at written
  · cases written
  rename_i positive
  have fill_pos : 0 < fact.quantity := not_le.mp positive
  have average := h.weighted
  by_cases none_ : k.fills = []
  · have quantity : k.factQuantity = 0 := by simp [factQuantity, none_]
    have notional : k.factNotional = 0 := by simp [factNotional, none_]
    rw [if_pos none_] at average
    rw [average] at written
    obtain rfl := Except.ok.inj written
    rw [quantity, notional]
    field_simp
    ring
  · have facts_pos := factQuantity_pos h.positive none_
    rw [if_neg none_] at average
    rw [average, h.filled] at written
    dsimp only at written
    rw [if_neg (not_le.mpr facts_pos)] at written
    obtain rfl := Except.ok.inj written
    have cancel : k.factQuantity * (k.factNotional / k.factQuantity) = k.factNotional := by
      field_simp
    rw [cancel]

theorem FillInv.of_fills (h : FillInv cat k) (m : Fills k k' fact) : FillInv cat k' := by
  obtain ⟨r, notional, weighted, now, -, -, written, rfl⟩ := m.written
  have left : clampZero (k.projection.remainingQuantity - fact.quantity) =
      k.projection.remainingQuantity - fact.quantity :=
    clampZero_of_nonneg (sub_nonneg.mpr m.covered)
  refine FillInv.setReservation ⟨?_, ?_, ?_, ?_, ?_, ?_⟩ _
  · simp [recordFill, factQuantity, h.filled]
  · have average := weightedPrice_addFill h written
    simp [recordFill, factQuantity, factNotional, average]
  · intro f mem
    obtain mem | rfl := by simpa [recordFill] using mem
    · exact h.positive f mem
    · exact m.quantity_pos
  · have fresh : fact.sourceFillIdentity ∉ k.fills.map (·.sourceFillIdentity) := by
      simpa using m.fresh
    simpa [recordFill, List.nodup_append] using ⟨h.distinct, by simpa using fresh⟩
  · simpa [recordFill, left] using m.covered
  · obtain ⟨plan, found, bounded, exact_⟩ := h.authorized
    refine ⟨plan, found, ?_, fun never => ?_⟩
    · simp only [recordFill, record_projection, applyProjectionTransition_filledQuantity,
        applyProjectionTransition_remainingQuantity, Option.getD_some, addFill_projection, left]
      linarith
    · have total := exact_ (neverClosed_record.mp never).1
      simp only [recordFill, record_projection, applyProjectionTransition_filledQuantity,
        applyProjectionTransition_remainingQuantity, Option.getD_some, addFill_projection, left]
      linarith

theorem FillInv.of_move (h : FillInv cat k) (m : Move gate cat k k') : FillInv cat k' := by
  cases m with
  | mark m => exact h.of_mark m
  | roll m =>
    obtain ⟨_, _, -, -, -, rfl⟩ := m.orphan
    exact h.setReservation _
  | release _ _ => exact h.setReservation _
  | fill m => exact h.of_fills m

end Command

theorem conservativeReservation_remaining {plan : Plan} {intent : ReservationIntent}
    (h : conservativeReservation plan = .ok intent) :
    intent.remainingQuantity = plan.quantity.value := by
  unfold conservativeReservation at h
  dsimp only at h
  split at h
  · cases h
  · obtain rfl := Except.ok.inj h
    rfl

namespace Command

variable {cat : Catalog} {k : Command} {c : CommandId}

/-- The invariant of a projection as claims write it. -/
theorem fillInv_of_projection {p : PendingClaim} {intent : ReservationIntent}
    {state : ReceiptState} (valid : p.Valid cat)
    (intent_eq : conservativeReservation p.plan = .ok intent)
    (projection : k.projection = PendingClaim.projection state intent) (fills : k.fills = [])
    (revision : k.revisionId = p.plan.revisionId) : FillInv cat k := by
  have quantity := conservativeReservation_remaining intent_eq
  have total : k.projection.filledQuantity + k.projection.remainingQuantity =
      p.plan.quantity.value := by
    simp [projection, PendingClaim.projection, quantity]
  refine ⟨?_, ?_, ?_, ?_, ?_, p.plan, ?_, total.le, fun _ => total⟩
  · simp [projection, PendingClaim.projection, factQuantity, fills]
  · simp [projection, PendingClaim.projection, fills]
  · simp [fills]
  · simp [fills]
  · rw [projection]
    change 0 ≤ intent.remainingQuantity
    rw [quantity]
    exact p.plan.quantity.pos.le
  · rw [revision]
    exact valid.plan_eq

theorem Created.fillInv (h : Created cat c k) : FillInv cat k := by
  cases h with
  | blocked valid intent_eq => exact fillInv_of_projection valid intent_eq rfl rfl rfl
  | allowed valid intent_eq _ _ => exact fillInv_of_projection valid intent_eq rfl rfl rfl

end Command

variable {cat : Catalog} {c : CommandId} {k : Command}

theorem reached_fillInv (find : (reached cat ls).db.commands.find c = some k) : k.FillInv cat :=
  reached_invariant (I := fun _ k => k.FillInv cat) (fun _ _ => Command.Created.fillInv)
    (fun _ _ _ => Command.FillInv.of_move) (along_respects_any cat _ ls) find

/-- A fill under an identity that is stored already changes nothing in the books. -/
theorem duplicate_fill_sameBooks {ctx : Ctx} {fact : FillFact}
    (find : w.db.commands.find c = some k) (known : fact ∈ k.fills)
    (identity : request.sourceIdentity = some fact.sourceFillIdentity) :
    Db.SameBooks w.db (w.step cat (.applyUniqueFill ctx c request)).db := by
  simp only [World.step]
  cases applied : w.db.applyUniqueFill cat ctx c request with
  | error _ => exact .refl _
  | ok x =>
    obtain ⟨db', result⟩ := x
    change Db.SameBooks w.db db'
    cases Db.applyUniqueFill_outcome applied with
    | replayed _ _ _ _ => exact Db.lockEpoch_sameBooks _ _ _
    | accepted checked find' _ fact_eq fresh _ _ _ _ _ _ _ _ =>
      obtain rfl : k = _ := Option.some.inj (find.symm.trans find')
      have same := (FillRequest.check_identity checked).symm.trans identity
      exact absurd (Option.some.inj same).symm (fresh fact known)

/-- After any run, for every command and the quantity its plan authorizes: the filled quantity
is the sum over the stored facts, which have distinct identities; it never exceeds the
authorized quantity, and adds up to it with the remainder until a rejection or
cancellation; the average price is that of the facts; and a fill under a stored identity,
with the same or other content, leaves facts, projection and ledger as they are. -/
theorem fills_agree_with_facts (cat : Catalog) (ls : List Label) (c : CommandId) (k : Command)
    (find : (reached cat ls).db.commands.find c = some k) :
    k.projection.filledQuantity = (k.fills.map (·.quantity)).sum ∧
    (k.fills.map (·.sourceFillIdentity)).Nodup ∧
    (∃ plan, cat.plans k.revisionId = some plan ∧
      k.projection.filledQuantity ≤ plan.quantity.value ∧
      ((∀ t ∈ k.transitions, t.newState.closed = false) →
        k.projection.filledQuantity + k.projection.remainingQuantity = plan.quantity.value)) ∧
    (k.projection.weightedPrice = if k.fills = [] then none else
      some ((k.fills.map fun f => f.quantity * f.price).sum / (k.fills.map (·.quantity)).sum)) ∧
    ∀ ctx request fact, fact ∈ k.fills → request.sourceIdentity = some fact.sourceFillIdentity →
      Db.SameBooks (reached cat ls).db
        ((reached cat ls).step cat (.applyUniqueFill ctx c request)).db := by
  have inv := reached_fillInv find
  refine ⟨inv.filled, inv.distinct, ?_, inv.weighted, ?_⟩
  · obtain ⟨plan, found, bounded, exact_⟩ := inv.authorized
    have nonneg := inv.remaining
    exact ⟨plan, found, by linarith, exact_⟩
  · intro ctx request fact known identity
    exact duplicate_fill_sameBooks find known identity

def filledRun : List Label :=
  Sample.claim 0 1 ++ Sample.dispatch 0 1 ++
    [Sample.fill 1 1 "a" 1 100, Sample.fill 2 1 "a" 1 100, Sample.fill 3 1 "a" 2 100,
      Sample.fill 4 1 "b" 1 110]

theorem fills_agree_with_facts_filledRun :
    ((reached (Sample.catalog blofinDemoVenue) filledRun).db.commands.find 1).map
        (fun k => (k.fills.length, k.projection.weightedPrice)) = some (2, some 105) ∧
      ∀ k, (reached (Sample.catalog blofinDemoVenue) filledRun).db.commands.find 1 = some k →
        k.projection.filledQuantity = (k.fills.map (·.quantity)).sum :=
  ⟨by decide_cbv, fun k find => (fills_agree_with_facts _ _ 1 k find).1⟩

/-! ## Ended entries -/

namespace Command

def Exhausted (k : Command) : Prop :=
  k.reservation = none ∨ k.projection.remainingQuantity = 0

def EndedInv (k : Command) : Prop := k.projection.state.ended = true → k.Exhausted

def nothingLeft (k : Command) : Prop := k.projection.remainingQuantity = 0

instance : DecidablePred nothingLeft := fun k =>
  inferInstanceAs (Decidable (k.projection.remainingQuantity = 0))

variable {cat : Catalog} {k k' : Command} {c : CommandId}

/-- A fill needs something left. -/
theorem Exhausted.not_fills {fact : FillFact} (h : k.Exhausted) : ¬Fills k k' fact := by
  intro m
  obtain none_ | zero := h
  · obtain ⟨r, _, _, _, reservation, -⟩ := m.written
    simp [none_] at reservation
  · have pos := m.quantity_pos
    have covered := m.covered
    linarith

variable {gate : Gate}

/-- Where nothing is left, nothing comes back. -/
theorem remaining_eq_zero_of_move (zero : k.projection.remainingQuantity = 0)
    (m : Move gate cat k k') : k'.projection.remainingQuantity = 0 := by
  cases m with
  | mark m => cases m <;> simp [zero, Command.block, markAmbiguous, markAcknowledged, markRejected,
      Command.cancel]
  | roll m =>
    obtain ⟨_, _, -, -, -, rfl⟩ := m.orphan
    exact zero
  | release _ _ => exact zero
  | fill m => exact absurd m (Exhausted.not_fills (.inr zero))

/-- What is exhausted stays so, whatever happens. -/
theorem Exhausted.of_move (h : k.Exhausted) (m : Move gate cat k k') : k'.Exhausted := by
  obtain none_ | zero := h
  · left
    simpa [none_] using m.sameTerms.reservation
  · exact .inr (remaining_eq_zero_of_move zero m)

theorem EndedInv.of_move (h : k.EndedInv) (m : Move (.blocking nothingLeft) cat k k') :
    k'.EndedInv := by
  intro ended
  cases m with
  | mark m =>
    cases m with
    | lease _ _ => exact h ended
    | authorize _ _ _ => exact h ended
    | fence _ _ _ => exact h ended
    | block _ _ _ _ allowed =>
      right
      simpa [Command.block, Gate.blocking, nothingLeft] using allowed
    | ambiguous _ => simp [markAmbiguous, ReceiptState.ended] at ended
    | acknowledge _ => simp [markAcknowledged, ReceiptState.ended] at ended
    | reject _ => exact .inr rfl
    | cancel _ => exact .inr rfl
  | roll m =>
    have old : k.Exhausted := by
      obtain ⟨_, _, -, -, -, rfl⟩ := m.orphan
      exact h ended
    have move : Move .any cat k k' := .roll m
    exact old.of_move move
  | release _ _ =>
    obtain none_ | zero := h ended
    · simp_all
    · exact .inr zero
  | fill m =>
    obtain ⟨_, _, _, _, -, -, -, rfl⟩ := m.written
    simp only [setReservation_projection, recordFill, record_projection,
      applyProjectionTransition_state, appendTransition_newState] at ended
    split at ended <;> cases ended

theorem Created.endedInv (h : Created cat c k) : k.EndedInv := by
  intro ended
  cases h with
  | blocked _ _ => exact .inl rfl
  | allowed _ _ _ _ => cases ended

def ClosedInv (k : Command) : Prop := k.neverClosed ∨ k.projection.remainingQuantity = 0

theorem Created.closedInv (h : Created cat c k) : k.ClosedInv := by
  left
  cases h <;> simp [neverClosed, PendingClaim.blockedCommand, PendingClaim.allowedCommand,
    ReceiptState.closed]

theorem ClosedInv.of_move (h : k.ClosedInv) (m : Move gate cat k k') : k'.ClosedInv := by
  obtain never | zero := h
  · cases m with
    | mark m =>
      cases m with
      | lease _ _ => exact .inl never
      | authorize _ _ _ => exact .inl never
      | fence _ _ _ => exact .inl never
      | block _ _ _ _ _ => exact .inl ((neverClosed_record (u := {})).mpr ⟨never, rfl⟩)
      | ambiguous _ => exact .inl ((neverClosed_record (u := {})).mpr ⟨never, rfl⟩)
      | acknowledge _ => exact .inl ((neverClosed_record (u := {})).mpr ⟨never, rfl⟩)
      | reject _ => exact .inr rfl
      | cancel _ => exact .inr rfl
    | roll m =>
      obtain ⟨_, _, -, -, -, rfl⟩ := m.orphan
      exact .inl never
    | release _ _ => exact .inl never
    | fill m =>
      obtain ⟨_, _, _, _, -, -, -, rfl⟩ := m.written
      refine .inl ((neverClosed_record (u := {})).mpr ⟨never, ?_⟩)
      dsimp only
      split <;> rfl
  · exact .inr (remaining_eq_zero_of_move zero m)

end Command

theorem reached_closedInv (find : (reached cat ls).db.commands.find c = some k) : k.ClosedInv :=
  reached_invariant (I := fun _ k => k.ClosedInv) (fun _ _ => Command.Created.closedInv)
    (fun _ _ _ => Command.ClosedInv.of_move) (along_respects_any cat _ ls) find

/-- An exhausted command takes no fill under a new identity. -/
theorem Command.Exhausted.refuses (h : k.Exhausted) (cat : Catalog) (ctx : Ctx)
    (find : w.db.commands.find c = some k)
    (fresh : ∀ fact ∈ k.fills, request.sourceIdentity ≠ some fact.sourceFillIdentity) :
    ∃ refusal, w.db.applyUniqueFill cat ctx c request = .error refusal := by
  cases applied : w.db.applyUniqueFill cat ctx c request with
  | error refusal => exact ⟨refusal, rfl⟩
  | ok x =>
    obtain ⟨db', result⟩ := x
    exfalso
    cases Db.applyUniqueFill_outcome applied with
    | replayed checked find' known identity =>
      obtain rfl : k = _ := Option.some.inj (find.symm.trans find')
      exact fresh _ known (identity ▸ FillRequest.check_identity checked)
    | accepted checked find' reservation fact_eq _ covered _ _ _ _ _ _ _ =>
      obtain rfl : k = _ := Option.some.inj (find.symm.trans find')
      obtain none_ | zero := h
      · simp [none_] at reservation
      · have pos := (FillRequest.check_pos checked).1
        subst fact_eq
        rw [zero] at covered
        exact absurd covered (not_le.mpr pos)

/-- In every run in which the pre-dispatch block hits only commands with nothing left to fill:
once a receipt has been in an ended state, whatever happens next, every fill under a new
identity is refused and changes nothing. -/
theorem ended_entry_takes_no_fill (cat : Catalog) (ls ms : List Label)
    (side : Along (World.step cat) (World.BlocksOnly Command.nothingLeft) World.init ls)
    (c : CommandId) (k₀ k : Command) (find₀ : (reached cat ls).db.commands.find c = some k₀)
    (ended : k₀.projection.state.ended = true)
    (find : (reached cat (ls ++ ms)).db.commands.find c = some k) (ctx : Ctx)
    (request : FillRequest)
    (fresh : ∀ fact ∈ k.fills, request.sourceIdentity ≠ some fact.sourceFillIdentity) :
    (∃ refusal, (reached cat (ls ++ ms)).db.applyUniqueFill cat ctx c request = .error refusal) ∧
      (reached cat (ls ++ ms)).step cat (.applyUniqueFill ctx c request) =
        reached cat (ls ++ ms) := by
  have exhausted₀ : k₀.Exhausted :=
    reached_invariant (I := fun _ k => k.EndedInv) (fun _ _ => Command.Created.endedInv)
      (fun _ _ _ => Command.EndedInv.of_move) (Along.mono _ World.BlocksOnly.respects side) find₀
      ended
  have moved := World.run_commandsMoved (reached_jobsValid cat ls)
    (along_respects_any cat (reached cat ls) ms)
  rw [← reached_append] at moved
  obtain ⟨k₁, find₁, moves⟩ := moved.moved c k₀ find₀
  obtain rfl : k₁ = k := Option.some.inj (find₁.symm.trans find)
  have exhausted : k₁.Exhausted :=
    moves.invariant (fun _ _ h m => Command.Exhausted.of_move h m) exhausted₀
  obtain ⟨refusal, refused⟩ := exhausted.refuses cat ctx find fresh
  refine ⟨⟨refusal, refused⟩, ?_⟩
  simp [World.step, refused, Except.map, World.commit]

def cancelledRun : List Label :=
  Sample.claim 0 1 ++ Sample.dispatch 0 1 ++
    [Sample.fill 1 1 "a" 1 100, .recordDemoTerminal (Sample.ctx 2) 1]

theorem ended_entry_takes_no_fill_cancelledRun :
    ((reached (Sample.catalog blofinDemoVenue) cancelledRun).db.commands.find 1).map
        (·.projection.state) = some .partiallyFilledCancelled ∧
      (reached (Sample.catalog blofinDemoVenue) cancelledRun).step
          (Sample.catalog blofinDemoVenue) (Sample.fill 3 1 "b" 1 100) =
        reached (Sample.catalog blofinDemoVenue) cancelledRun := by
  have state : ((reached (Sample.catalog blofinDemoVenue) cancelledRun).db.commands.find 1).map
      (·.projection.state) = some .partiallyFilledCancelled := by decide +kernel
  have facts : ((reached (Sample.catalog blofinDemoVenue) cancelledRun).db.commands.find 1).map
      (fun k => k.fills.map (·.sourceFillIdentity)) = some ["a"] := by decide +kernel
  refine ⟨state, ?_⟩
  obtain ⟨k, find, state⟩ := Option.map_eq_some_iff.mp state
  have stored : k.fills.map (·.sourceFillIdentity) = ["a"] := by simpa [find] using facts
  have find' : (reached (Sample.catalog blofinDemoVenue) (cancelledRun ++ [])).db.commands.find 1 =
      some k := by rwa [List.append_nil]
  have refused := ended_entry_takes_no_fill (Sample.catalog blofinDemoVenue) cancelledRun []
    (by decide +kernel) 1 k k find (by rw [state]; rfl) find' (Sample.ctx 3)
    (Sample.fillRequest "b" 1 100) (fun fact mem same => ?_)
  · rw [List.append_nil] at refused
    exact refused.2
  · have mem' : fact.sourceFillIdentity ∈ k.fills.map (·.sourceFillIdentity) :=
      List.mem_map_of_mem mem
    rw [stored] at mem'
    simp_all [Sample.fillRequest]

def blockedRun : List Label :=
  Sample.claim 0 1 ++ [Sample.kill 1, .leaseEffect (Sample.ctx 2) 1 "worker" 30,
    Sample.fill 3 1 "a" 1 100]

def fillBooks (w : World) : Option (ReceiptState × Nat × ℚ) × Option ℚ :=
  ((w.db.commands.find 1).map fun k =>
      (k.projection.state, k.fills.length, k.projection.filledQuantity),
    (w.db.accounting (1, 1)).map (·.actualNotional))

/-- A blocked entry takes a fill. -/
theorem blocked_entry_takes_fill :
    fillBooks (reached (Sample.catalog blofinDemoVenue) blockedRun.dropLast) =
      (some (.blockedBeforeDispatch, 0, 0), some 0) ∧
    fillBooks (reached (Sample.catalog blofinDemoVenue) blockedRun) =
      (some (.partiallyFilled, 1, 1), some 100) := by
  decide_cbv

end AlphaTrade.Execution
