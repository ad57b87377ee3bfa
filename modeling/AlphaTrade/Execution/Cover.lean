import Mathlib.Data.List.Induction
import AlphaTrade.Execution.Fills
import AlphaTrade.Execution.Tally

/-!
# Reservations against fills

A claim reserves the plan's quantity at one price: the limit, or for a market order the
worse of basis and zone. The order permits fills on one side of its limit. For a buy the
limit is the worst of them; for a sell it is the best, and the worst is the top of the zone.

While every fill is covered, a conversion moves reserved notional to actual exposure and
their sum stays under the cap that the last claim was checked against. A fill that finds
its reservation released by the day roll has nothing to move.
-/
namespace AlphaTrade.Execution
open Library

def QuantityUnit.scale (unit : QuantityUnit) (multiplier : ℚ) : ℚ :=
  match unit with
  | .contracts => multiplier
  | _ => 1

/-- Exactly the linear amounts have an exposure. -/
theorem linearQuoteExposure_eq_ok {quantity price multiplier x : ℚ} {unit : QuantityUnit}
    {contractType : ContractType} :
    linearQuoteExposure quantity price unit multiplier contractType = .ok x ↔
      0 < quantity ∧ 0 < price ∧ 0 < multiplier ∧ contractType = .linear ∧ unit ≠ .quote ∧
        x = quantity * unit.scale multiplier * price := by
  unfold linearQuoteExposure
  split
  · grind
  split
  · grind
  cases contractType <;> cases unit <;> simp [QuantityUnit.scale] <;> grind

/-! ## One plan -/

namespace Plan

variable {plan : Plan} {intent : ReservationIntent}

def unitMultiplier (plan : Plan) : ℚ := plan.quantityUnit.scale plan.contractMultiplier

/-- The order may be filled at the price: inside the zone, on its side of the limit. A plan
has a limit price exactly when its order type is LIMIT. -/
def Permits (plan : Plan) (price : ℚ) : Prop :=
  0 < price ∧ plan.entryZone.lower ≤ price ∧ price ≤ plan.entryZone.upper ∧
    match plan.limitPrice, plan.side with
    | some limit, .buy => price ≤ limit.value
    | some limit, .sell => limit.value ≤ price
    | none, _ => price ≤ max plan.basisExecutionPrice.value plan.entryZone.upper

def PermitsFills (plan : Plan) (fills : List (ℚ × ℚ)) : Prop :=
  (∀ f ∈ fills, 0 < f.1 ∧ plan.Permits f.2) ∧ (fills.map Prod.fst).sum ≤ plan.quantity.value

def fillExposure (plan : Plan) (f : ℚ × ℚ) : Except QuoteExposureError ℚ :=
  linearQuoteExposure f.1 f.2 plan.quantityUnit plan.contractMultiplier plan.contractType

def FillsCovered (plan : Plan) (intent : ReservationIntent) : Prop :=
  ∀ fills, plan.PermitsFills fills →
    ∃ xs, fills.mapM plan.fillExposure = .ok xs ∧ xs.sum ≤ intent.pendingNotional

def LimitCovers (plan : Plan) : Prop :=
  plan.side = .sell → ∀ limit, plan.limitPrice = some limit →
    plan.quantity.value * plan.unitMultiplier * (plan.entryZone.upper - limit.value) ≤
      plan.feeAllowance.value + plan.slippageAllowance.value

theorem unitMultiplier_pos (plan : Plan) : 0 < plan.unitMultiplier := by
  unfold unitMultiplier QuantityUnit.scale
  split
  · exact plan.multiplier_pos
  · exact zero_lt_one

/-- What a plan must be to be reserved for, and what is reserved. -/
structure Reserves (plan : Plan) (intent : ReservationIntent) : Prop where
  linear : plan.contractType = .linear
  unit : plan.quantityUnit ≠ .quote
  pending : intent.pendingNotional =
    plan.quantity.value * plan.unitMultiplier * plan.reservationPrice.1 +
      plan.feeAllowance.value + plan.slippageAllowance.value
  contractType : intent.contractType = plan.contractType
  quantityUnit : intent.quantityUnit = plan.quantityUnit
  contractMultiplier : intent.contractMultiplier = plan.contractMultiplier

theorem reservationPrice_pos (plan : Plan) : 0 < plan.reservationPrice.1 := by
  unfold reservationPrice
  split
  · rename_i limit _
    exact limit.pos
  · exact lt_max_of_lt_left plan.basisExecutionPrice.pos

theorem reserves_of_ok (h : conservativeReservation plan = .ok intent) : plan.Reserves intent := by
  unfold conservativeReservation at h
  dsimp only at h
  split at h
  · cases h
  rename_i exposure exposed
  obtain rfl := Except.ok.inj h
  obtain ⟨-, -, -, linear, unit, rfl⟩ := linearQuoteExposure_eq_ok.mp exposed
  exact ⟨linear, unit, rfl, rfl, rfl, rfl⟩

/-- The worst price that the order permits is covered for the whole quantity. -/
theorem Reserves.worst (h : plan.Reserves intent) (covers : plan.LimitCovers) :
    ∃ worst, (∀ price, plan.Permits price → price ≤ worst) ∧ 0 ≤ worst ∧
      plan.quantity.value * plan.unitMultiplier * worst ≤ intent.pendingNotional := by
  have fee := plan.feeAllowance.nonneg
  have slippage := plan.slippageAllowance.nonneg
  rw [h.pending]
  cases limited : plan.limitPrice with
  | none =>
    refine ⟨plan.reservationPrice.1, fun price permits => ?_, plan.reservationPrice_pos.le, ?_⟩
    · simpa [Permits, reservationPrice, limited] using permits.2.2.2
    · linarith
  | some limit =>
    have reserved : plan.reservationPrice.1 = limit.value := by simp [reservationPrice, limited]
    cases side : plan.side with
    | buy =>
      refine ⟨limit.value, fun price permits => ?_, limit.pos.le, ?_⟩
      · simpa [Permits, limited, side] using permits.2.2.2
      · rw [reserved]
        linarith
    | sell =>
      -- Every price up to the top of the zone is permitted.
      have room := covers side limit limited
      refine ⟨plan.entryZone.upper, fun price permits => permits.2.2.1, ?_, ?_⟩
      · exact (plan.entryZone.lower_pos.trans_le plan.entryZone.ordered).le
      · rw [reserved]
        linarith

theorem fillExposure_eq (h : plan.Reserves intent) {f : ℚ × ℚ} (quantity : 0 < f.1)
    (price : 0 < f.2) : plan.fillExposure f = .ok (f.1 * plan.unitMultiplier * f.2) :=
  linearQuoteExposure_eq_ok.mpr ⟨quantity, price, plan.multiplier_pos, h.linear, h.unit, rfl⟩

end Plan

/-- Amounts of at most one price each cost at most that price for their sum. -/
theorem sum_exposure_le {scale worst total : ℚ} {fills : List (ℚ × ℚ)} (scale_pos : 0 < scale)
    (worst_nonneg : 0 ≤ worst) (pos : ∀ f ∈ fills, 0 < f.1 ∧ f.2 ≤ worst)
    (bounded : (fills.map Prod.fst).sum ≤ total) :
    (fills.map fun f => f.1 * scale * f.2).sum ≤ total * scale * worst := by
  have each : (fills.map fun f => f.1 * scale * f.2).sum ≤
      (fills.map Prod.fst).sum * scale * worst := by
    clear bounded
    induction fills with
    | nil => simp
    | cons f fills ih =>
      obtain ⟨quantity, price⟩ := pos f (by simp)
      have rest := ih fun g mem => pos g (by simp [mem])
      have scaled : 0 ≤ f.1 * scale := (mul_pos quantity scale_pos).le
      have head := mul_le_mul_of_nonneg_left price scaled
      simp only [List.map_cons, List.sum_cons]
      linarith
  have scaled : 0 ≤ scale * worst := mul_nonneg scale_pos.le worst_nonneg
  calc _ ≤ (fills.map Prod.fst).sum * scale * worst := each
    _ = (fills.map Prod.fst).sum * (scale * worst) := by ring
    _ ≤ total * (scale * worst) := mul_le_mul_of_nonneg_right bounded scaled
    _ = total * scale * worst := by ring

variable {plan : Plan} {intent : ReservationIntent} {fact : FillFact}

/-- A plan's reservation covers everything its order permits exactly when the allowances make
up for a sell limit below the top of the zone. -/
theorem Plan.fillsCovered_iff (h : conservativeReservation plan = .ok intent) :
    plan.FillsCovered intent ↔ plan.LimitCovers := by
  have reserves := reserves_of_ok h
  constructor
  · intro covered side limit limited
    have fee := plan.feeAllowance.nonneg
    have slippage := plan.slippageAllowance.nonneg
    have scale : 0 < plan.quantity.value * plan.unitMultiplier :=
      mul_pos plan.quantity.pos plan.unitMultiplier_pos
    by_cases reachable : limit.value ≤ plan.entryZone.upper
    · have top : 0 < plan.entryZone.upper :=
        plan.entryZone.lower_pos.trans_le plan.entryZone.ordered
      have permitted : plan.PermitsFills [(plan.quantity.value, plan.entryZone.upper)] := by
        refine ⟨fun f mem => ?_, by simp⟩
        obtain rfl := List.mem_singleton.mp mem
        refine ⟨plan.quantity.pos, top, plan.entryZone.ordered, le_rfl, ?_⟩
        simpa [limited, side] using reachable
      obtain ⟨xs, exposed, bounded⟩ := covered _ permitted
      rw [mapM_eq_ok (g := fun f => f.1 * plan.unitMultiplier * f.2) fun f mem =>
        fillExposure_eq reserves (permitted.1 f mem).1 (permitted.1 f mem).2.1] at exposed
      obtain rfl := Except.ok.inj exposed
      have reserved : plan.reservationPrice.1 = limit.value := by simp [reservationPrice, limited]
      rw [reserves.pending, reserved] at bounded
      simp only [List.map_cons, List.map_nil, List.sum_cons, List.sum_nil] at bounded
      linarith
    · have below : plan.entryZone.upper - limit.value ≤ 0 := by linarith
      have negative := mul_nonpos_of_nonneg_of_nonpos scale.le below
      linarith
  · intro covers fills permitted
    obtain ⟨worst, permits, nonneg, bounded⟩ := reserves.worst covers
    refine ⟨_, mapM_eq_ok (g := fun f => f.1 * plan.unitMultiplier * f.2) fun f mem =>
      fillExposure_eq reserves (permitted.1 f mem).1 (permitted.1 f mem).2.1, ?_⟩
    refine le_trans (sum_exposure_le plan.unitMultiplier_pos nonneg (fun f mem => ?_) permitted.2)
      bounded
    exact ⟨(permitted.1 f mem).1, permits _ (permitted.1 f mem).2⟩

/-! ## One command -/

namespace Command

variable {cat : Catalog} {gate : Gate} {k k' : Command} {c : CommandId}

def TermsInv (cat : Catalog) (k : Command) : Prop :=
  ∀ r, k.reservation = some r → ∃ plan intent, cat.plans k.revisionId = some plan ∧
    conservativeReservation plan = .ok intent ∧ r.pendingOrderExposure = intent.pendingNotional ∧
    r.contractType = plan.contractType ∧ r.quantityUnit = plan.quantityUnit ∧
    r.contractMultiplier = plan.contractMultiplier

/-- As long as what the order permits is covered and nothing else was filled, an unreleased
reservation is what it was less the exposure of its fills. -/
def SpentInv (cat : Catalog) (k : Command) : Prop :=
  ∀ r plan, k.reservation = some r → cat.plans k.revisionId = some plan → plan.LimitCovers →
    r.releaseState ≠ .released → (∀ f ∈ k.fills, plan.Permits f.price) →
    r.remainingReservedNotional + (k.fills.map (·.exposure r)).sum = r.pendingOrderExposure

theorem TermsInv.of_move (h : k.TermsInv cat) (m : Move gate cat k k') : k'.TermsInv cat := by
  have revision := m.sameTerms.revisionId
  intro r' reservation'
  rw [revision]
  cases m with
  | mark m => exact h r' (m.reservation_eq ▸ reservation')
  | roll m =>
    obtain ⟨r, cause, reservation, -, -, rfl⟩ := m.orphan
    obtain rfl := Option.some.inj reservation'
    exact h r reservation
  | @release r _ reservation _ =>
    obtain rfl := Option.some.inj reservation'
    exact h r reservation
  | fill m =>
    obtain ⟨r, notional, weighted, now, reservation, -, -, rfl⟩ := m.written
    obtain rfl := Option.some.inj reservation'
    exact h r reservation

theorem Created.termsInv (h : Created cat c k) : k.TermsInv cat := by
  intro r reservation
  cases h with
  | blocked _ _ => cases reservation
  | @allowed p env epoch intent valid intent_eq _ _ =>
    obtain rfl := Option.some.inj reservation
    have reserves := Plan.reserves_of_ok intent_eq
    exact ⟨p.plan, intent, valid.plan_eq, intent_eq, rfl, reserves.contractType,
      reserves.quantityUnit, reserves.contractMultiplier⟩

variable {r : Reservation} {plan : Plan}

/-- The exposure of a stored fill of a reservation that keeps its plan's terms. -/
theorem exposure_eq {intent : ReservationIntent} {f : FillFact} (reserves : plan.Reserves intent)
    (contractType : r.contractType = plan.contractType)
    (quantityUnit : r.quantityUnit = plan.quantityUnit)
    (multiplier : r.contractMultiplier = plan.contractMultiplier) (quantity : 0 < f.quantity)
    (price : 0 < f.price) : f.exposure r = f.quantity * plan.unitMultiplier * f.price := by
  unfold FillFact.exposure fillQuoteExposure
  rw [contractType, quantityUnit, multiplier]
  rw [linearQuoteExposure_eq_ok.mpr ⟨quantity, price, plan.multiplier_pos, reserves.linear,
    reserves.unit, rfl⟩]
  rfl

/-- The exposure of fills that the order permits is within the reservation. -/
theorem TermsInv.sum_exposure_le (h : k.TermsInv cat) (inv : k.FillInv cat)
    (reservation : k.reservation = some r) (found : cat.plans k.revisionId = some plan)
    (covers : plan.LimitCovers) (permits : ∀ f ∈ k.fills, plan.Permits f.price) :
    (k.fills.map (·.exposure r)).sum ≤ r.pendingOrderExposure := by
  obtain ⟨plan', intent, found', intent_eq, pending, contractType, quantityUnit, multiplier⟩ :=
    h r reservation
  obtain rfl : plan' = plan := Option.some.inj (found'.symm.trans found)
  obtain ⟨plan₀, found₀, bounded, -⟩ := inv.authorized
  obtain rfl : plan₀ = plan' := Option.some.inj (found₀.symm.trans found)
  have reserves := Plan.reserves_of_ok intent_eq
  obtain ⟨worst, within, nonneg, total⟩ := reserves.worst covers
  have each : k.fills.map (·.exposure r) =
      (k.fills.map fun f => (f.quantity, f.price)).map
        fun f => f.1 * plan₀.unitMultiplier * f.2 := by
    rw [List.map_map]
    apply List.map_congr_left
    intro f mem
    exact exposure_eq reserves contractType quantityUnit multiplier (inv.positive f mem)
      (permits f mem).1
  rw [each, pending]
  refine le_trans (Execution.sum_exposure_le plan₀.unitMultiplier_pos nonneg ?_ ?_) total
  · intro f mem
    obtain ⟨fact, stored, rfl⟩ := List.mem_map.mp mem
    exact ⟨inv.positive fact stored, within _ (permits fact stored)⟩
  · have filled := inv.filled
    have left := inv.remaining
    simp only [factQuantity] at filled
    simp only [List.map_map, Function.comp_def]
    linarith

/-- A covered fill is converted in full. -/
theorem SpentInv.of_move (h : k.SpentInv cat) (terms : k.TermsInv cat) (inv : k.FillInv cat)
    (m : Move gate cat k k') : k'.SpentInv cat := by
  have inv' := inv.of_move m
  have terms' := terms.of_move m
  have revision := m.sameTerms.revisionId
  intro r' plan reservation' found covers live permits
  have found₀ := revision ▸ found
  cases m with
  | mark m =>
    rw [m.fills_eq] at permits ⊢
    exact h r' plan (m.reservation_eq ▸ reservation') found₀ covers live permits
  | roll m =>
    obtain ⟨r, cause, reservation, -, -, rfl⟩ := m.orphan
    obtain rfl := Option.some.inj reservation'
    exact absurd rfl live
  | release reservation _ =>
    obtain rfl := Option.some.inj reservation'
    exact absurd rfl live
  | @fill _ fact m =>
    obtain ⟨r, notional, weighted, now, reservation, exposed, -, rfl⟩ := m.written
    obtain rfl := Option.some.inj reservation'
    have live₀ : r.releaseState ≠ .released := by
      intro released
      exact live (by simp [Reservation.convert, released])
    have bounded := terms'.sum_exposure_le inv' reservation' found covers permits
    have own : fact.exposure r = notional := by simp [FillFact.exposure, exposed]
    have same : ∀ f : FillFact, f.exposure (r.convert notional) = f.exposure r := fun _ => rfl
    have before := h r plan reservation found₀ covers live₀ fun f mem =>
      permits f (by simp [recordFill, mem])
    have pending : (r.convert notional).pendingOrderExposure = r.pendingOrderExposure := rfl
    simp only [setReservation_fills, recordFill, record_fills, addFill_fills, List.map_append,
      List.sum_append, List.map_cons, List.map_nil, List.sum_cons, List.sum_nil, same, own,
      pending] at bounded ⊢
    have room : notional ≤ r.remainingReservedNotional := by linarith
    simp only [Reservation.convert, min_eq_left room]
    linarith

theorem Created.spentInv (h : Created cat c k) : k.SpentInv cat := by
  intro r plan reservation _ _ _ _
  cases h with
  | blocked _ _ => cases reservation
  | allowed _ _ _ _ =>
    obtain rfl := Option.some.inj reservation
    simp [PendingClaim.allowedCommand, PendingClaim.newReservation]

/-- What the reservation of a command still covers. -/
structure CoverInv (cat : Catalog) (k : Command) : Prop where
  fill : k.FillInv cat
  terms : k.TermsInv cat
  spent : k.SpentInv cat

end Command

variable {cat : Catalog} {ls : List Label} {c : CommandId} {k : Command} {gate : Gate}

theorem reached_coverInv (find : (reached cat ls).db.commands.find c = some k) : k.CoverInv cat :=
  reached_invariant (I := fun _ k => k.CoverInv cat)
    (fun _ _ created => ⟨created.fillInv, created.termsInv, created.spentInv⟩)
    (fun _ _ _ inv move => ⟨inv.fill.of_move move, inv.terms.of_move move,
      inv.spent.of_move inv.terms inv.fill move⟩) (along_respects_any cat _ ls) find

/-! ## Runs of claims and fills -/

namespace Command

variable {cat : Catalog} {gate : Gate} {k k' : Command} {c : CommandId}

/-- Nothing ends the order: no mark of the dispatcher has been left on it. -/
structure Unmarked (k : Command) : Prop where
  allowed : k.outcome = .allow
  open_ : k.projection.state.terminal = false
  unsent : ∀ e, k.effect = some e →
    e.state ≠ .provenUnsent ∧ e.reconciliationDisposition ≠ .rejected

theorem Unmarked.terminalCause_eq (h : k.Unmarked) : k.terminalCause = none := by
  unfold terminalCause
  rw [h.allowed, h.open_]
  cases effect : k.effect with
  | none => simp
  | some e => simp [h.unsent e effect]

def UnmarkedInv (k : Command) : Prop := k.reservation.isSome → k.Unmarked

theorem UnmarkedInv.of_gatedMove (h : k.UnmarkedInv) (quiet : ∀ c, ¬gate.about c)
    (m : GatedMove gate cat k k') : k'.UnmarkedInv := by
  cases m with
  | mark _ about => exact absurd about.choose_spec (quiet _)
  | roll m =>
    obtain ⟨r, cause, reservation, -, -, rfl⟩ := m.orphan
    obtain ⟨allowed, open_, unsent⟩ := h (by simp [reservation])
    exact fun _ => ⟨allowed, open_, unsent⟩
  | release _ about => exact absurd about.choose_spec (quiet _)
  | fill m _ =>
    obtain ⟨r, notional, weighted, now, reservation, -, -, rfl⟩ := m.written
    obtain ⟨allowed, -, unsent⟩ := h (by simp [reservation])
    refine fun _ => ⟨allowed, ?_, unsent⟩
    simp only [setReservation_projection, recordFill, record_projection,
      applyProjectionTransition_state, appendTransition_newState]
    split <;> rfl

theorem Created.unmarkedInv (h : Created cat c k) : k.UnmarkedInv := by
  intro reserved
  cases h with
  | blocked _ _ => cases reserved
  | allowed _ _ _ _ =>
    refine ⟨rfl, rfl, fun e effect => ?_⟩
    obtain rfl := Option.some.inj effect
    exact ⟨by simp [PendingClaim.newEffect], by simp [PendingClaim.newEffect]⟩

end Command

namespace Db

variable {cat : Catalog} {ctx : Ctx} {db db' : Db} {c : CommandId} {key : AccountKey} {cap : ℚ}

def TotalLe (key : AccountKey) (cap : ℚ) (db : Db) : Prop :=
  ∀ row, db.accounting key = some row → row.reservedNotional + row.actualNotional ≤ cap

theorem TotalLe.of_eq (h : db.TotalLe key cap) (same : db'.accounting = db.accounting) :
    db'.TotalLe key cap := by
  intro row found
  exact h row (same ▸ found)

theorem TotalLe.settle {k : Command} {kind : PostingKind} {instrument : String}
    {intended : Delta} {old new : Accounting} (h : db.TotalLe key cap)
    (own : k.accountKey = key → new.reservedNotional + new.actualNotional ≤ cap) :
    (db.settle c k kind instrument intended old new).TotalLe key cap := by
  intro row found
  by_cases same : key = k.accountKey
  · subst same
    obtain rfl : new = row := by simpa [Db.settle] using found
    exact own rfl
  · exact h row (by simpa [Db.settle, Function.update_of_ne same] using found)

/-- Releasing an orphan lowers the reserved notional by what it holds. -/
theorem releaseOrphan_totalLe (now : Instant) (key' : AccountKey) (sound : db.books.Sound)
    (h : db.TotalLe key cap) : (releaseOrphan cat now key' db c).TotalLe key cap := by
  unfold releaseOrphan
  split
  case h_2 => exact h
  rename_i k row find found
  split
  case h_2 => exact h
  rename_i r reservation
  split
  case isFalse => exact h
  rename_i live
  split
  case h_2 => exact h
  refine h.settle fun own => ?_
  have same : key' = key := live.1.symm.trans own
  have held := (sound.reservations c _ r (holding_of_find find reservation)).remaining
  have nonneg := sound.nonneg key' row found .notional
  have before := h row (same ▸ found)
  have lowered : clampZero (row.reservedNotional - r.remainingReservedNotional) ≤
      row.reservedNotional := by
    rw [clampZero_eq_max]
    exact max_le nonneg (by linarith)
  simp only [releaseReservationRemainder, Accounting.lowerFor]
  linarith

theorem releaseOrphanedPaperReservations_totalLe (now : Instant) (key' : AccountKey)
    (sound : db.books.Sound) (h : db.TotalLe key cap) :
    (db.releaseOrphanedPaperReservations cat now key').TotalLe key cap := by
  unfold releaseOrphanedPaperReservations
  generalize db.rollOrder = order
  induction order generalizing db with
  | nil => exact h
  | cons c order ih =>
    have booked : Books.Bookings (fun _ => False) db.books
        (releaseOrphan cat now key' db c).books :=
      releaseOrphan_bookings now key'
    exact ih (booked.invariant (fun _ _ h => h.of_booking) sound)
      (releaseOrphan_totalLe now key' sound h)

/-- The ledger lock opens a row with nothing on it, or releases orphans. -/
theorem ensureAccounting_totalLe (key' : AccountKey) (user : UserId) (unit : String) (roll : Bool)
    (sound : db.books.Sound) (nonneg : 0 ≤ cap) (h : db.TotalLe key cap) :
    (db.ensureAccounting cat ctx key' user unit roll).TotalLe key cap := by
  unfold ensureAccounting rollDailyTradeSlots
  split
  · split
    · dsimp only
      split
      · exact h
      · have rolled : (db.releaseOrphanedPaperReservations cat ctx.now key').TotalLe key cap :=
          releaseOrphanedPaperReservations_totalLe ctx.now key' sound h
        intro row found
        by_cases same : key = key'
        · subst same
          simp only [stampDay, Function.update_self, Option.map_eq_some_iff] at found
          obtain ⟨row', found', rfl⟩ := found
          exact rolled row' found'
        · exact rolled row (by simpa [stampDay, Function.update_of_ne same] using found)
    · exact h
  · intro row found
    by_cases same : key = key'
    · subst same
      obtain rfl : initialAccounting _ _ _ = row := by simpa [putRow] using found
      simpa [initialAccounting] using nonneg
    · exact h row (by simpa [putRow, Function.update_of_ne same] using found)

/-- With its fact stored, only an order that has ended is an orphan. -/
theorem accepted_not_rolled {k k' : Command} {fact : FillFact} {locked : Db} {user : UserId}
    {unit : String} {roll : Bool} (unmarked : k.terminalCause = none)
    (lock : locked = ((db.lockEpoch ctx k.accountKey).1.putCommand c
      (k.addFill fact)).ensureAccounting cat ctx k.accountKey user unit roll)
    (find' : locked.commands.find c = some (k'.addFill fact)) : k' = k := by
  have commands : CommandsRolled cat ctx.now ((db.lockEpoch ctx k.accountKey).1.putCommand c
      (k.addFill fact)) locked := lock ▸ ensureAccounting_commandsRolled _ _ _ _ _ _ _
  obtain ⟨k₁, find₁, rolled⟩ := commands.exists_find (c := c) (Table.find_put_self _ _ _)
  obtain rfl : k₁ = k'.addFill fact := Option.some.inj (find₁.symm.trans find')
  obtain same | rolls := rolled
  · cases k
    cases k'
    simp_all [Command.addFill]
  · obtain ⟨r, cause, -, -, orphan, -⟩ := rolls.orphan
    have filled : (k.addFill fact).hasFill r = true := by simp [Command.hasFill]
    have ended : (k.addFill fact).terminalCause = none := unmarked
    simp [orphanCause, filled, ended] at orphan

/-- A fill that its reservation covers in full moves notional from reserved to actual. -/
theorem FillOutcome.totalLe {request : FillRequest} (sound : db.books.Sound)
    (kept : db.books.Kept key) (nonneg : 0 ≤ cap) (h : db.TotalLe key cap)
    (unmarked : ∀ k, db.commands.find c = some k → k.reservation.isSome → k.terminalCause = none)
    (room : ∀ k k' r fact notional, db.commands.find c = some k → db'.commands.find c = some k' →
      k.accountKey = key → Command.Fills k k' fact → k.reservation = some r →
      fillQuoteExposure r fact.quantity fact.price = .ok notional →
      notional ≤ r.remainingReservedNotional)
    (outcome : FillOutcome cat ctx db c request db') : db'.TotalLe key cap := by
  cases outcome with
  | replayed _ _ _ _ => exact h.of_eq (lockEpoch_sameBooks db ctx _).accounting
  | @accepted k k' r r' identity time fact row notional weighted locked checked find reservation
      fact_eq fresh covered lock row_eq find' rolled reservation' notional_eq weighted_eq =>
    have fill := fills_of_accepted checked fact_eq fresh covered rolled reservation' notional_eq
      weighted_eq
    obtain rfl : k' = k :=
      accepted_not_rolled (unmarked k find (by simp [reservation])) lock find'
    obtain rfl : r' = r := Option.some.inj (reservation'.symm.trans reservation)
    have stored : ((db.lockEpoch ctx k'.accountKey).1.putCommand c (k'.addFill fact)).books =
        db.books := by
      have find₀ : (db.lockEpoch ctx k'.accountKey).1.commands.find c = some k' := by
        simpa using find
      rw [books_putCommand find₀ (by rfl) (by rfl), books_lockEpoch]
    have total : locked.TotalLe key cap := by
      rw [lock]
      exact ensureAccounting_totalLe _ _ _ _ (stored.symm ▸ sound) nonneg
        (h.of_eq (lockEpoch_sameBooks db ctx k'.accountKey).accounting)
    refine total.settle fun own => ?_
    obtain rfl : k'.accountKey = key := own
    have booked : Books.Bookings (fun key' => key' ≠ k'.accountKey) db.books locked.books := by
      rw [lock, ← stored]
      exact ensureAccounting_bookings _ _ _ _
    obtain ⟨sound', kept'⟩ := booked.kept sound kept
    have held : locked.books.holding c = some (k'.accountKey, r') :=
      holding_of_find (k := k'.addFill fact) find' reservation'
    have le_remaining := room k' _ r' fact notional find (Table.find_put_self _ _ _) rfl fill
      reservation' notional_eq
    have plain := kept'.between_convert sound' held row_eq (fillQuoteExposure_pos notional_eq)
    have reserved := congrArg Delta.reservedNotional plain
    have actual := congrArg Delta.actualNotional plain
    have before := total row row_eq
    simp only [Delta.between, convertDelta, min_eq_left le_remaining] at reserved actual
    linarith

variable {p : PendingClaim} {result : ClaimResult}

/-- A claim that is not allowed on the account charges nothing there. -/
theorem ClaimOutcome.totalLe (sound : db.books.Sound) (nonneg : 0 ≤ cap) (h : db.TotalLe key cap)
    (refused : p.request.accountKey = key → ¬(result.replayed = false ∧ result.command.outcome =
      .allow))
    (outcome : ClaimOutcome cat ctx db p db' result) : db'.TotalLe key cap := by
  have locked_total : ∀ {locked epoch row intent},
      ClaimLocked cat ctx db p locked epoch row intent → locked.TotalLe key cap := by
    intro locked epoch row intent decision
    rw [decision.lock]
    exact ensureAccounting_totalLe _ _ _ _ (by rwa [books_lockEpoch]) nonneg
      (h.of_eq (lockEpoch_sameBooks db ctx _).accounting)
  cases outcome with
  | replayed _ _ _ => exact h
  | blocked decision _ => exact (locked_total decision).of_eq rfl
  | @allowed locked consumed epoch row intent env authorization decision _ _ _ _ consume =>
    have same : consumed.accounting = locked.accounting := by
      obtain ⟨_, -, -, rfl⟩ := consumeAuthorization_cases consume
      rfl
    have total : (consumed.settle env.commandId (p.allowedCommand cat env epoch.epoch intent)
        .charge intent.instrument (chargeDelta intent) row
        (chargeReservation row intent)).TotalLe key cap :=
      ((locked_total decision).of_eq same).settle fun own => absurd ⟨rfl, rfl⟩ (refused own)
    exact total.of_eq rfl

/-- What an allowed claim was checked against. -/
theorem finishClaim_allowed {refreshed : Bool} {env : ClaimEnv}
    (h : db.finishClaim cat ctx p refreshed env = .ok (db', result))
    (fresh : result.replayed = false) (allow : result.command.outcome = .allow) :
    ∃ (locked : Db) (epoch : SafetyEpoch) (row : Accounting) (intent : ReservationIntent),
      locked.accounting p.request.accountKey = some row ∧
      locked.capacityRefusal ctx p env epoch row intent = none ∧
      db'.accounting p.request.accountKey = some (chargeReservation row intent) := by
  simp only [finishClaim, bind_eq_ok] at h
  obtain ⟨_, -, h⟩ := h
  split at h
  · simp only [bind_eq_ok] at h
    obtain ⟨loaded, load, h⟩ := h
    obtain ⟨-, rfl⟩ := Prod.mk.inj (Except.ok.inj h)
    have replayed : loaded.replayed = true := by
      unfold loadResult at load
      repeat' split at load
      all_goals first | cases load; rfl | cases load
    rw [replayed] at fresh
    cases fresh
  unfold decideClaim at h
  split at h
  · cases h
  simp only [bind_eq_ok, ensure_eq_ok, lockRiskAccounting_eq_ok] at h
  obtain ⟨_, -, _, -, intent, intent_eq, ⟨locked, row⟩, ⟨lock, row_eq⟩, h⟩ := h
  dsimp only at lock row_eq h
  have blocked : ∀ {c receipt reason}, locked.persistBlocked p ((db.bindings
      p.request.bindingKey).getD p.newBinding) c receipt reason intent = .ok (db', result) →
      False := by
    intro c receipt reason h
    simp only [persistBlocked, bind_eq_ok] at h
    obtain ⟨_, -, h⟩ := h
    obtain ⟨-, rfl⟩ := Prod.mk.inj (Except.ok.inj h)
    cases allow
  split at h
  · exact absurd h fun h => blocked h
  rename_i unblocked
  simp only [Option.or_eq_none_iff] at unblocked
  simp only [persistAllow, bind_eq_ok] at h
  obtain ⟨_, -, h⟩ := h
  split at h
  · exact absurd h fun h => blocked h
  simp only [bind_eq_ok] at h
  obtain ⟨consumed, -, _, -, _, -, h⟩ := h
  obtain ⟨rfl, -⟩ := Prod.mk.inj (Except.ok.inj h)
  exact ⟨locked, _, row, intent, row_eq, unblocked.2, by simp [bind, fileClaim, settle,
    PendingClaim.allowedCommand, Command.accountKey, ClaimRequest.accountKey]⟩

end Db

/-- The cap on total notional that the claim's predicate is checked against, read off the row
that the claim leaves, on which the charge keeps the limits. A manual plan is not checked by
the predicate. -/
def PendingClaim.checkedNotional (p : PendingClaim) (env : ClaimEnv) (db' : Db) : Option ℚ :=
  if p.plan.schemaVersion = .manualDemoTradePlanV1 then none
  else match env.profileClaimCaps, db'.accounting p.request.accountKey with
    | .ok caps, some row => some (accountingView row caps).maxNotional
    | _, _ => none

namespace World

/-- The account on which a step allows a claim, with the cap the claim was checked against. -/
def admission (cat : Catalog) (w : World) : Label → Option (AccountKey × Option ℚ)
  | .finishClaim ctx i refreshed env =>
    match w.workers i with
    | some (.claim p) =>
      match w.db.finishClaim cat ctx p refreshed env with
      | .ok (db', result) =>
        if result.replayed = false ∧ result.command.outcome = .allow then
          some (p.request.accountKey, p.checkedNotional env db')
        else none
      | .error _ => none
    | _ => none
  | _ => none

def filling (w : World) : Label → Option Command
  | .applyUniqueFill _ c _ => w.db.commands.find c
  | _ => none

/-- A step of a run of claims and fills: it is about nothing that the dispatcher does, and a
fill of the account finds its reservation not released. -/
def Trades (key : AccountKey) (w : World) (l : Label) : Prop :=
  w.subject l = none ∧ ∀ k ∈ w.filling l, k.accountKey = key →
    k.reservation.all (·.releaseState ≠ .released) = true

instance (key : AccountKey) (w : World) (l : Label) : Decidable (w.Trades key l) :=
  inferInstanceAs (Decidable (_ ∧ _))

def tradesGate : Gate := { Gate.any with about := fun _ => False, release := fun _ => False }

variable {w : World} {l : Label}

/-- Only the dispatcher releases unused remainders. -/
theorem released_eq_none (quiet : w.subject l = none) : w.released l = none := by
  cases l with
  | finishFakeSend ctx i outcome =>
    cases running : w.workers i with
    | none => cases outcome <;> simp [released, running]
    | some job =>
      cases job <;> cases outcome <;> simp_all [released, subject, Job.command]
  | finishDemoSend ctx i outcome =>
    cases running : w.workers i with
    | none => cases outcome <;> simp [released, running]
    | some job =>
      cases job <;> cases outcome <;> simp_all [released, subject, Job.command]
  | _ => first | rfl | cases quiet

theorem respects_of_quiet (quiet : w.subject l = none) :
    w.Respects tradesGate l where
  block _ _ := trivial
  authorize _ _ := trivial
  release x released := by
    rw [released_eq_none quiet] at released
    cases released
  about c subject_eq := by
    rw [quiet] at subject_eq
    cases subject_eq
  kill _ := trivial
  claim _ := trivial
  fill _ := trivial

theorem Trades.respects {key : AccountKey} (w : World) (l : Label) (h : w.Trades key l) :
    w.Respects tradesGate l :=
  respects_of_quiet h.1

end World

namespace World

variable {cat : Catalog} {w : World} {l : Label} {key : AccountKey}

/-- Where the dispatcher and the ledger have nothing to do, the books stay as they are. -/
theorem step_sameBooks (jobs : w.JobsValid cat) (quiet : w.subject l = none)
    (claims : l.claims = false) (fills : l.fills = false) :
    Db.SameBooks w.db (w.step cat l).db := by
  have side : w.Respects { tradesGate with claim := False, fill := False } l :=
    { respects_of_quiet quiet with
      claim := fun h => absurd h (by simp [claims])
      fill := fun h => absurd h (by simp [fills]) }
  have writes := step_writes jobs side
  generalize (w.step cat l).db = db' at writes
  induction writes with
  | refl => exact .refl _
  | tail _ write ih =>
    cases write with
    | outside h _ => exact ih.trans h
    | mark _ _ about => exact about.elim
    | release _ _ _ _ about => exact about.elim
    | fill _ allowed => exact allowed.elim
    | claim _ allowed _ => exact allowed.elim

end World

namespace Db

def FillsPermitted (cat : Catalog) (key : AccountKey) (db : Db) : Prop :=
  ∀ c k plan, db.commands.find c = some k → k.accountKey = key →
    cat.plans k.revisionId = some plan → ∀ f ∈ k.fills, plan.Permits f.price

end Db

theorem Command.Move.fills_subset {k' : Command} (h : Move gate cat k k') : k.fills ⊆ k'.fills := by
  cases h with
  | mark h => exact h.fills_eq ▸ fun _ mem => mem
  | roll h =>
    obtain ⟨_, _, -, -, -, rfl⟩ := h.orphan
    exact fun _ mem => mem
  | release _ _ => exact fun _ mem => mem
  | fill h =>
    obtain ⟨_, _, _, _, -, -, -, rfl⟩ := h.written
    intro f mem
    simp [recordFill, mem]

/-- What is permitted after a step was permitted before it. -/
theorem Db.FillsPermitted.of_moved {key : AccountKey} {db db' : Db} (h : db'.FillsPermitted cat key)
    (moved : CommandsMoved gate cat db db') : db.FillsPermitted cat key := by
  intro c k plan find own found f mem
  obtain ⟨k', find', moves⟩ := moved.moved c k find
  have terms := moves.sameTerms
  have stored : k.fills ⊆ k'.fills :=
    moves.invariant (I := fun k' => k.fills ⊆ k'.fills) (fun _ _ before move =>
      List.Subset.trans before move.fills_subset) fun _ mem => mem
  exact h c k' plan find' (terms.accountKey.trans own) (terms.revisionId ▸ found) f (stored mem)

/-- The exposure of a permitted fill that a live reservation takes is within what it holds. -/
theorem Command.CoverInv.room {k' : Command} {r : Reservation} {notional : ℚ}
    (before : k.CoverInv cat) (after : k'.CoverInv cat) (fill : Fills k k' fact)
    (reservation : k.reservation = some r)
    (exposed : fillQuoteExposure r fact.quantity fact.price = .ok notional)
    (found : cat.plans k.revisionId = some plan) (covers : plan.LimitCovers)
    (live : r.releaseState ≠ .released) (permits : ∀ f ∈ k'.fills, plan.Permits f.price) :
    notional ≤ r.remainingReservedNotional := by
  obtain ⟨r₀, notional₀, weighted, now, reservation₀, exposed₀, -, rfl⟩ := fill.written
  obtain rfl : r₀ = r := Option.some.inj (reservation₀.symm.trans reservation)
  obtain rfl : notional₀ = notional := Except.ok.inj (exposed₀.symm.trans exposed)
  have bounded := after.terms.sum_exposure_le after.fill rfl found covers permits
  have spent := before.spent r₀ plan reservation found covers live fun f mem =>
    permits f (by simp [recordFill, mem])
  have own : fact.exposure r₀ = notional₀ := by simp [FillFact.exposure, exposed]
  have same : ∀ f : FillFact, f.exposure (r₀.convert notional₀) = f.exposure r₀ := fun _ => rfl
  have pending : (r₀.convert notional₀).pendingOrderExposure = r₀.pendingOrderExposure := rfl
  simp only [setReservation_fills, recordFill, record_fills, addFill_fills, List.map_append,
    List.sum_append, List.map_cons, List.map_nil, List.sum_cons, List.sum_nil, same, own,
    pending] at bounded
  linarith

theorem reached_planned (find : (reached cat ls).db.commands.find c = some k) : k.Planned cat :=
  reached_invariant (I := fun _ k => k.Planned cat) (fun _ _ => Command.Created.planned)
    (fun _ _ _ planned move => move.sameTerms.planned planned) (along_respects_any cat _ ls) find

theorem Command.Fills.sameTerms (cat : Catalog) {k' : Command} (h : Fills k k' fact) :
    SameTerms k k' :=
  have move : Move .any cat k k' := .fill h
  move.sameTerms

/-- What is left of the cap when a claim is let through. -/
theorem evaluateClaimPredicate_room {blockingEpoch killActive : Bool} {accounting : Accounting}
    (h : evaluateClaimPredicate blockingEpoch killActive accounting intent = none) :
    intent.pendingNotional ≤
      accounting.maxNotional - accounting.reservedNotional - accounting.actualNotional := by
  unfold evaluateClaimPredicate at h
  split at h
  · cases h
  split at h
  · cases h
  split at h
  · cases h
  rename_i room
  exact not_lt.mp room

section run
variable {cat : Catalog} {key : AccountKey} {ls : List Label} {l : Label} {cap : ℚ}

/-- After a run of claims and fills, no order has ended. -/
theorem reached_unmarked (side : Along (World.step cat) (World.Trades key) World.init ls)
    {c : CommandId} {k : Command} (find : (reached cat ls).db.commands.find c = some k) :
    k.UnmarkedInv := by
  have writes := World.run_writes (World.init_jobsValid cat)
    (Along.mono _ World.Trades.respects side)
  refine writes.commandsGated.all (fun _ _ => Command.Created.unmarkedInv)
    (fun _ _ h => h.of_gatedMove fun _ about => about) (fun i k₀ find₀ => ?_) c k find
  simp [World.init, Db.empty] at find₀

theorem reached_kept_of_trades (side : Along (World.step cat) (World.Trades key) World.init ls) :
    (reached cat ls).db.books.Kept key := by
  have exact_ : World.tradesGate.Exact cat fun key' => key' ≠ key :=
    fun _ _ _ _ _ _ _ released _ _ => released.elim
  exact reached_kept exact_ (Along.mono _ World.Trades.respects side)

/-- A step that allows no claim on the account does not raise its total. -/
theorem step_totalLe (covers : ∀ plan, cat.PlansOf key plan → plan.LimitCovers)
    (side : Along (World.step cat) (World.Trades key) World.init ls)
    (trades : (reached cat ls).Trades key l)
    (permitted : (reached cat (ls ++ [l])).db.FillsPermitted cat key)
    (refused : ((reached cat ls).admission cat l).map Prod.fst ≠ some key) (nonneg : 0 ≤ cap)
    (h : (reached cat ls).db.TotalLe key cap) :
    (reached cat (ls ++ [l])).db.TotalLe key cap := by
  have jobs := reached_jobsValid cat ls
  have sound := reached_sound cat ls
  have stepped : reached cat (ls ++ [l]) = (reached cat ls).step cat l := reached_append cat ls [l]
  by_cases claims : l.claims = true
  · cases l with
    | finishClaim ctx i refreshed env =>
      obtain same | ⟨p, result, running, finished⟩ := World.step_finishClaim cat
        (reached cat ls) ctx
        i refreshed env
      · rw [stepped]
        exact h.of_eq (by rw [same])
      · rw [stepped]
        refine (Db.finishClaim_outcome finished).totalLe sound nonneg h fun own allowed =>
          refused ?_
        simp [World.admission, running, finished, allowed, own]
    | _ => cases claims
  by_cases fills : l.fills = true
  · cases l with
    | applyUniqueFill ctx c request =>
      cases applied : (reached cat ls).db.applyUniqueFill cat ctx c request with
      | error _ =>
        rw [stepped]
        exact h.of_eq (by simp [World.step, applied, Except.map, World.commit])
      | ok x =>
        obtain ⟨db', result⟩ := x
        have db_eq : (reached cat (ls ++ [.applyUniqueFill ctx c request])).db = db' := by
          rw [stepped]
          simp [World.step, applied, Except.map, World.commit]
        rw [db_eq]
        refine (Db.applyUniqueFill_outcome applied).totalLe sound (reached_kept_of_trades side)
          nonneg
          h (fun k find reserved => ?_) fun k k' r fact notional find find' own fill reservation
            exposed => ?_
        · exact (reached_unmarked side find reserved).terminalCause_eq
        · have before := reached_coverInv find
          rw [← db_eq] at find'
          have after : k'.CoverInv cat := reached_coverInv find'
          obtain ⟨plan, intent, found, intent_eq, -⟩ := before.terms r reservation
          have plansOf : cat.PlansOf key plan := by
            obtain ⟨plan', found', account⟩ := reached_planned find
            obtain rfl : plan' = plan := Option.some.inj (found'.symm.trans found)
            exact ⟨⟨_, found⟩, account.trans own⟩
          have live : r.releaseState ≠ .released := by
            simpa [reservation] using trades.2 k find own
          have terms := fill.sameTerms cat
          refine before.room after fill reservation exposed found (covers plan plansOf) live ?_
          exact permitted c k' plan find' (terms.accountKey.trans own)
            (by rw [terms.revisionId, found])
    | _ => cases fills
  · rw [stepped]
    exact h.of_eq (World.step_sameBooks jobs trades.1 (by simpa using claims)
      (by simpa using fills)).accounting

/-- What a claim is allowed within. -/
theorem admission_totalLe (allowed : (reached cat ls).admission cat l = some (key, some cap)) :
    0 ≤ cap ∧ (reached cat (ls ++ [l])).db.TotalLe key cap := by
  have stepped : reached cat (ls ++ [l]) = (reached cat ls).step cat l := reached_append cat ls [l]
  have sound := reached_sound cat (ls ++ [l])
  cases l with
  | finishClaim ctx i refreshed env =>
    simp only [World.admission] at allowed
    split at allowed
    case h_2 => cases allowed
    rename_i p running
    split at allowed
    case h_2 => cases allowed
    rename_i db' result finished
    split at allowed
    case isFalse => cases allowed
    rename_i outcome
    obtain ⟨own, checked⟩ := Prod.mk.inj (Option.some.inj allowed)
    subst own
    obtain ⟨locked, epoch, row, intent, -, capacity, charged⟩ :=
      Db.finishClaim_allowed finished outcome.1 outcome.2
    have db_eq : (reached cat (ls ++ [.finishClaim ctx i refreshed env])).db = db' := by
      rw [stepped]
      simp [World.step, running, finished, Except.map, World.commit, World.assign]
    rw [db_eq] at sound ⊢
    have reserved := sound.nonneg _ _ charged .notional
    have actual := sound.nonneg _ _ charged .actual
    have within : (chargeReservation row intent).reservedNotional +
        (chargeReservation row intent).actualNotional ≤ cap := by
      unfold PendingClaim.checkedNotional at checked
      split at checked
      · cases checked
      rename_i canonical
      unfold Db.capacityRefusal at capacity
      rw [if_neg canonical] at capacity
      cases caps : env.profileClaimCaps with
      | error reason => simp [caps] at capacity
      | ok caps' =>
        simp only [caps, charged, Option.some.injEq] at checked capacity
        have room := evaluateClaimPredicate_room capacity
        subst checked
        cases caps' <;> simp only [accountingView, chargeReservation] at room ⊢ <;> linarith
    refine ⟨le_trans (add_nonneg reserved actual) within, fun row' found => ?_⟩
    obtain rfl := Option.some.inj (charged.symm.trans found)
    exact within
  | _ => cases allowed

/-- The total stays within the cap as long as no further claim is allowed on the account. -/
theorem run_totalLe {ms : List Label} (covers : ∀ plan, cat.PlansOf key plan → plan.LimitCovers)
    (side : Along (World.step cat) (World.Trades key) World.init (ls ++ ms))
    (permitted : (reached cat (ls ++ ms)).db.FillsPermitted cat key)
    (refused : Along (World.step cat) (fun w l => (w.admission cat l).map Prod.fst ≠ some key)
      (reached cat ls) ms) (nonneg : 0 ≤ cap) (h : (reached cat ls).db.TotalLe key cap) :
    (reached cat (ls ++ ms)).db.TotalLe key cap := by
  induction ms using List.reverseRecOn with
  | nil => rwa [List.append_nil]
  | append_singleton ms l ih =>
    rw [← List.append_assoc] at side permitted ⊢
    obtain ⟨side₁, trades, -⟩ := (along_append _).mp side
    obtain ⟨refused₁, here, -⟩ := (along_append _).mp refused
    have moved := World.step_commandsMoved (l := l) (reached_jobsValid cat (ls ++ ms))
      (World.respects_any _ l)
    have stepped : (reached cat (ls ++ ms)).step cat l = reached cat (ls ++ ms ++ [l]) :=
      (reached_append cat (ls ++ ms) [l]).symm
    rw [stepped] at moved
    refine step_totalLe covers side₁ trades permitted ?_ nonneg
      (ih side₁ (permitted.of_moved moved) refused₁)
    rwa [← reached_append] at here

end run

/-- For every plan that is reserved for, the exposures of all fills its order permits are within
the reservation exactly when the allowances make up for a sell limit below the top of the
zone. And on an account whose plans all meet this, in every run of claims and fills in which
the stored fills are permitted ones and each fill found its reservation not released: reserved
and actual notional together never exceed the cap that the last claim allowed on the account
was checked against. -/
theorem reservation_covers_permitted_fills (cat : Catalog) (key : AccountKey) :
    (∀ plan intent, conservativeReservation plan = .ok intent →
      (plan.FillsCovered intent ↔ plan.LimitCovers)) ∧
    ∀ (ls ms : List Label) (l : Label) (cap : ℚ),
      (∀ plan, cat.PlansOf key plan → plan.LimitCovers) →
      Along (World.step cat) (World.Trades key) World.init (ls ++ [l] ++ ms) →
      (reached cat (ls ++ [l] ++ ms)).db.FillsPermitted cat key →
      (reached cat ls).admission cat l = some (key, some cap) →
      Along (World.step cat) (fun w m => (w.admission cat m).map Prod.fst ≠ some key)
        (reached cat (ls ++ [l])) ms →
      ∀ row, (reached cat (ls ++ [l] ++ ms)).db.accounting key = some row →
        row.reservedNotional + row.actualNotional ≤ cap := by
  refine ⟨fun plan intent reserved => Plan.fillsCovered_iff reserved, ?_⟩
  intro ls ms l cap covers side permitted allowed refused
  obtain ⟨nonneg, within⟩ := admission_totalLe allowed
  exact run_totalLe covers side permitted refused nonneg within

/-! ## A desk with a cap of two hundred -/

def tightCtx (now : Instant) : Ctx :=
  { Sample.ctx now with
    riskSettings := fun organization user =>
      { (Sample.ctx now).riskSettings organization user with defaultAccountBalance := 200 } }

def tightBegin : List Label :=
  [.issueAuthorization 1 ⟨1, 1, 1, 1, "content", 1000000000000⟩,
    .beginClaim (tightCtx 0) 0 ⟨.ok (), true⟩ (Sample.claimRequest 1 "key1")]

def tightClaim : Label := .finishClaim (tightCtx 0) 0 true (Sample.claimEnv 0 1)

def tightFills : List Label := [Sample.fill 1 1 "a" 1 100, Sample.fill 2 1 "b" 1 95]

def tightRun : List Label := tightBegin ++ [tightClaim] ++ tightFills

theorem tightRun_permitted : (reached (Sample.catalog blofinDemoVenue) tightRun).db.FillsPermitted
    (Sample.catalog blofinDemoVenue) (1, 1) := by
  have keys : (reached (Sample.catalog blofinDemoVenue) tightRun).db.commands.keys = [1] := by
    decide +kernel
  have prices : ((reached (Sample.catalog blofinDemoVenue) tightRun).db.commands.find 1).map
      (fun k => k.fills.map (·.price)) = some [100, 95] := by decide +kernel
  intro c k plan find own found f mem
  obtain rfl : c = 1 := by simpa [keys] using Table.mem_keys_of_find _ find
  obtain rfl := Option.some.inj found
  have stored : k.fills.map (·.price) = [100, 95] := by simpa [find] using prices
  have price : f.price = 100 ∨ f.price = 95 := by
    have mem' : f.price ∈ k.fills.map (·.price) := List.mem_map_of_mem mem
    simpa [stored] using mem'
  obtain price | price := price <;> rw [price] <;> norm_num [Plan.Permits, Sample.plan]

theorem reservation_covers_permitted_fills_tightRun :
    (∃ intent, conservativeReservation (Sample.plan blofinDemoVenue 1) = .ok intent ∧
        (Sample.plan blofinDemoVenue 1).FillsCovered intent) ∧
      ((reached (Sample.catalog blofinDemoVenue) tightRun).db.accounting (1, 1)).map
        (fun row => (row.reservedNotional, row.actualNotional)) = some (5, 195) ∧
      ∀ row, (reached (Sample.catalog blofinDemoVenue) tightRun).db.accounting (1, 1) = some row →
        row.reservedNotional + row.actualNotional ≤ 200 := by
  have claim := reservation_covers_permitted_fills (Sample.catalog blofinDemoVenue) (1, 1)
  have buys : ∀ revision, (Sample.plan blofinDemoVenue revision).LimitCovers := by
    intro revision side
    cases side
  refine ⟨?_, by decide_cbv, ?_⟩
  · have reserves : (conservativeReservation (Sample.plan blofinDemoVenue 1)).toOption.isSome := by
      decide
    cases reserved : conservativeReservation (Sample.plan blofinDemoVenue 1) with
    | error e =>
      rw [reserved] at reserves
      cases reserves
    | ok intent => exact ⟨intent, rfl, (claim.1 _ intent reserved).mpr (buys 1)⟩
  · refine claim.2 tightBegin tightFills tightClaim 200 (fun plan own => ?_) (by decide_cbv)
      tightRun_permitted (by decide_cbv) (by decide_cbv)
    obtain ⟨⟨revision, found⟩, -⟩ := own
    obtain rfl := Option.some.inj found
    exact buys revision

def sellPlan (revision : RevisionId) : Plan :=
  { Sample.plan blofinDemoVenue revision with side := .sell }

def sellCatalog : Catalog :=
  { Sample.catalog blofinDemoVenue with plans := fun revision => some (sellPlan revision) }

/-- A sell limit of one hundred is filled at the top of its zone: the exposure is more than was
reserved, and the total is over the cap that the claim was checked against. -/
theorem sell_limit_exceeds_reservation :
    (conservativeReservation (sellPlan 1)).toOption.map (·.pendingNotional) = some 200 ∧
      (sellPlan 1).PermitsFills [(2, 110)] ∧
      ([(2, 110)].mapM (sellPlan 1).fillExposure).toOption = some [220] ∧
      (reached sellCatalog tightBegin).admission sellCatalog tightClaim = some ((1, 1), some 200) ∧
      ((reached sellCatalog (tightBegin ++ [tightClaim, Sample.fill 1 1 "a" 2 110])).db.accounting
        (1, 1)).map (fun row => (row.reservedNotional, row.actualNotional)) = some (0, 220) := by
  refine ⟨by decide_cbv, ?_, by decide_cbv, by decide_cbv, by decide_cbv⟩
  norm_num [Plan.PermitsFills, Plan.Permits, sellPlan, Sample.plan]

end AlphaTrade.Execution
