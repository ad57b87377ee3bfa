import AlphaTrade.Execution.Books
import AlphaTrade.Execution.Fills

/-!
# The order of fills

The values of a command's fills touch little of the database: how much its reservation
still holds, and four entries of the row of its account. `Frame` is all the rest. A fill
moves the frame in a way that does not depend on its values, so two runs with the same
fills in different orders have the same frame at every step. What a frame leaves open is
how much has been spent, and in the end that is the same sum.
-/
namespace AlphaTrade.Execution
open Library

/-! ## Rows and reservations up to what is spent -/

namespace Reservation

/-- The same reservation, holding `x`. -/
def withRemaining (r : Reservation) (x : ℚ) : Reservation :=
  { r with remainingReservedNotional := x }

/-- A fill changes what the reservation holds, and the rest whatever the fill is. -/
theorem convert_withRemaining (r : Reservation) (x notional : ℚ) :
    (r.withRemaining x).convert notional =
      (r.convert 0).withRemaining (clampZero (x - notional)) := by
  rw [← sub_min_eq_clampZero]
  rfl

/-- A fill of the reservation has an exposure. -/
structure Linear (r : Reservation) : Prop where
  contract : r.contractType = .linear
  unit : r.quantityUnit ≠ .quote
  multiplier : 0 < r.contractMultiplier

def exposure (r : Reservation) (quantity price : ℚ) : ℚ :=
  if r.quantityUnit = .contracts then quantity * r.contractMultiplier * price else quantity * price

theorem Linear.fillQuoteExposure {r : Reservation} (h : r.Linear) {quantity price : ℚ}
    (quantity_pos : 0 < quantity) (price_pos : 0 < price) :
    fillQuoteExposure r quantity price = .ok (r.exposure quantity price) := by
  have positive : ¬(quantity ≤ 0 ∨ price ≤ 0) := by
    rintro (h | h) <;> linarith
  have multiplier : ¬r.contractMultiplier ≤ 0 := not_le.mpr h.multiplier
  have unit := h.unit
  unfold Execution.fillQuoteExposure linearQuoteExposure exposure
  rw [if_neg positive, if_neg multiplier, h.contract]
  cases unit_eq : r.quantityUnit with
  | contracts => rfl
  | base => rfl
  | quote => exact absurd unit_eq unit

end Reservation

namespace Accounting

/-- The row `base` with `held` reserved for one instrument on top of it, and `spent` actual. -/
def carry (base : Accounting) (instrument : String) (held spent : ℚ) (version : Nat) :
    Accounting :=
  { base with
    reservedNotional := clampZero (base.reservedNotional + held)
    symbolReserved := Function.update base.symbolReserved instrument
      (clampZero (base.symbolReserved instrument + held))
    actualNotional := base.actualNotional + spent
    symbolActual := Function.update base.symbolActual instrument
      (base.symbolActual instrument + spent)
    version := version }

/-- The loss and the slots that a release of `r` lowers. -/
def lowerLoss (base : Accounting) (r : Reservation) : Accounting :=
  { base with
    reservedDailyLoss :=
      if r.convertedTradeSlots = 0 then clampZero (base.reservedDailyLoss - r.dailyLossAllocation)
      else base.reservedDailyLoss
    reservedTradeSlots := clampZero (base.reservedTradeSlots - r.unconvertedSlots) }

/-- The base after the release of another reservation `r`. The entries that carry something are
not clamped before it is added. -/
def lowerBase (base : Accounting) (instrument : String) (r : Reservation) : Accounting :=
  { base.lowerLoss r with
    reservedNotional := base.reservedNotional - r.remainingReservedNotional
    symbolReserved := Function.update base.symbolReserved r.instrument
      (if r.instrument = instrument then
        base.symbolReserved instrument - r.remainingReservedNotional
      else clampZero (base.symbolReserved r.instrument - r.remainingReservedNotional)) }

variable (base : Accounting) (instrument : String) (held spent : ℚ) (version : Nat)

variable {r : Reservation}

theorem release_carry_other (nonneg : 0 ≤ r.remainingReservedNotional) :
    ∃ version', releaseReservationRemainder r (base.carry instrument held spent version) =
      (base.lowerBase instrument r).carry instrument held spent version' := by
  refine ⟨(releaseReservationRemainder r (base.carry instrument held spent version)).version, ?_⟩
  have notional : ∀ x, clampZero (clampZero (x + held) - r.remainingReservedNotional) =
      clampZero (x - r.remainingReservedNotional + held) := by
    intro x
    rw [clampZero_sub_sub _ nonneg]
    congr 1
    ring
  simp only [releaseReservationRemainder, lowerFor, carry, lowerBase, lowerLoss, notional,
    Accounting.mk.injEq, true_and, and_true]
  funext i
  by_cases same : r.instrument = instrument
  · subst same
    simp [adjustSymbolMap, ← sub_eq_add_neg, notional]
  · by_cases at_ : i = r.instrument
    · subst at_
      simp [adjustSymbolMap, same, ← sub_eq_add_neg]
    · by_cases on : i = instrument
      · subst on
        simp [adjustSymbolMap, at_]
      · simp [adjustSymbolMap, at_, on]

/-- The release of the reservation that is carried. -/
theorem release_carry_own (nonneg : 0 ≤ held) (own : r.instrument = instrument) :
    ∃ version', releaseReservationRemainder (r.withRemaining held)
        (base.carry instrument held spent version) =
      (base.lowerLoss r).carry instrument 0 spent version' := by
  subst own
  refine ⟨(releaseReservationRemainder (r.withRemaining held)
    (base.carry r.instrument held spent version)).version, ?_⟩
  have notional : ∀ x, clampZero (clampZero (x + held) - held) = clampZero (x + 0) := by
    intro x
    simpa using clampZero_add_sub x nonneg
  simp only [releaseReservationRemainder, lowerFor, carry, lowerLoss, Reservation.withRemaining,
    adjustSymbolMap, Function.update_self, Function.update_idem, ← sub_eq_add_neg, notional]
  rfl

/-- The slots and the trade count after a fill of `r`. -/
def convertSlots (base : Accounting) (r : Reservation) : Accounting :=
  { base with
    reservedTradeSlots :=
      if r.dailyTradeAllocation - r.convertedTradeSlots > 0 ∧ r.releaseState ≠ .released then
        clampZero (base.reservedTradeSlots - (r.dailyTradeAllocation - r.convertedTradeSlots))
      else base.reservedTradeSlots
    actualTradeCount :=
      if r.dailyTradeAllocation - r.convertedTradeSlots > 0 then
        base.actualTradeCount + (r.dailyTradeAllocation - r.convertedTradeSlots)
      else base.actualTradeCount }

theorem convert_carry {notional : ℚ} (pos : 0 < notional) (nonneg : 0 ≤ held)
    (spent_nonneg : 0 ≤ spent) (own : r.instrument = instrument)
    (actual : 0 ≤ base.symbolActual instrument) :
    (base.carry instrument held spent version).convertFor (r.withRemaining held) notional =
      (base.convertSlots r).carry instrument (clampZero (held - notional)) (spent + notional)
        (version + 1) := by
  subst own
  have left : clampZero (held - notional) = held - min notional held :=
    (sub_min_eq_clampZero held notional).symm
  have le : clampZero (held - notional) ≤ held := by
    rw [left]
    exact sub_le_self _ (le_min pos.le nonneg)
  have taken : min notional held = held - clampZero (held - notional) := by
    rw [left]
    ring
  have reserved : ∀ x, clampZero (clampZero (x + held) - min notional held) =
      clampZero (x + clampZero (held - notional)) := by
    intro x
    rw [taken]
    exact clampZero_add_sub x le
  have grown : clampZero (base.symbolActual r.instrument + (spent + notional)) =
      base.symbolActual r.instrument + (spent + notional) := clampZero_of_nonneg (by linarith)
  simp only [convertFor, carry, convertSlots, Reservation.withRemaining, adjustSymbolMap,
    Function.update_self, Function.update_idem, ← sub_eq_add_neg, reserved, grown, add_assoc]
  rfl

end Accounting

/-! ## Frames -/

/-- What about a command no fill and no roll changes. -/
structure Entry where
  id : CommandId
  account : AccountKey
  user : UserId
  venue : Option String
  effect : Option Effect
  instrument : String
  exposure : ℚ → ℚ → ℚ

def effectCause (effect : Option Effect) : Option OrphanCause :=
  match effect with
  | none => none
  | some e =>
    if e.state = .provenUnsent then some .provenUnsent
    else if e.reconciliationDisposition = .rejected then some .venueRejected
    else none

/-- The database apart from what the values of an entry's fills touch: the other commands and
rows, and the entry's own reservation and row with nothing spent. -/
structure Frame (e : Entry) where
  keys : List CommandId
  others : CommandId → Option Command
  rows : AccountKey → Option Accounting
  cause : Option OrphanCause
  filled : Bool
  reservation : Reservation
  base : Accounting
  instrument : reservation.instrument = e.instrument
  exposes : ∀ quantity price, 0 < quantity → 0 < price →
    fillQuoteExposure reservation quantity price = .ok (e.exposure quantity price)
  nonneg : ∀ i k r, others i = some k → k.reservation = some r → 0 ≤ r.remainingReservedNotional
  actual : 0 ≤ base.symbolActual e.instrument

namespace Frame

variable {e : Entry} (F : Frame e) (cat : Catalog)

/-- What the entry's reservation holds when `spent` has been spent. -/
def remaining (spent : ℚ) : ℚ := clampZero (F.reservation.remainingReservedNotional - spent)

theorem remaining_nonneg (spent : ℚ) : 0 ≤ F.remaining spent := clampZero_nonneg _

/-- The entry's command, with `spent` spent. -/
structure Own (spent : ℚ) (k : Command) : Prop where
  account : k.accountKey = e.account
  user : k.userId = e.user
  venue : cat.venue k = e.venue
  allow : k.outcome = .allow
  effect : k.effect = e.effect
  cause : k.terminalCause = F.cause
  filled : k.fills.isEmpty = !F.filled
  reservation : k.reservation = some (F.reservation.withRemaining (F.remaining spent))

/-- A database with the frame, and `spent` spent. -/
structure Fits (spent : ℚ) (db : Db) : Prop where
  spent_nonneg : 0 ≤ spent
  keys : db.commands.keys = F.keys
  others : ∀ i, i ≠ e.id → db.commands.find i = F.others i
  own : ∃ k, db.commands.find e.id = some k ∧ F.Own cat spent k
  rows : ∀ key, key ≠ e.account → db.accounting key = F.rows key
  row : ∃ version, db.accounting e.account =
    some (F.base.carry e.instrument (F.remaining spent) spent version)

variable {F cat} {spent : ℚ} {db db' : Db} {k : Command}

theorem Fits.of_eq (h : F.Fits cat spent db) (commands : db'.commands = db.commands)
    (accounting : db'.accounting = db.accounting) : F.Fits cat spent db' := by
  constructor
  · exact h.spent_nonneg
  · rw [commands]
    exact h.keys
  · rw [commands]
    exact h.others
  · rw [commands]
    exact h.own
  · rw [accounting]
    exact h.rows
  · rw [accounting]
    exact h.row

/-- The entry's command is written over. -/
theorem Fits.put_own (h : F.Fits cat spent db) {F' : Frame e} {spent' : ℚ} {k' : Command}
    (spent_nonneg : 0 ≤ spent') (own : F'.Own cat spent' k')
    (commands : db'.commands = db.commands.put e.id k') (keys : F'.keys = F.keys)
    (others : F'.others = F.others)
    (rows : ∀ key, key ≠ e.account → db'.accounting key = F'.rows key)
    (row : ∃ version, db'.accounting e.account =
      some (F'.base.carry e.instrument (F'.remaining spent') spent' version)) :
    F'.Fits cat spent' db' := by
  obtain ⟨k, find, -⟩ := h.own
  constructor
  · exact spent_nonneg
  · rw [commands, Table.keys_put_of_find _ find, h.keys, keys]
  · intro i other
    rw [commands, Table.find_put_of_ne _ other, h.others i other, others]
  · exact ⟨k', by simp [commands], own⟩
  · exact rows
  · exact row

def orphanCause (F : Frame e) (now : Instant) : Option OrphanCause :=
  if e.venue ≠ some internalPaperVenue then none
  else match F.cause with
    | some cause => some cause
    | none =>
      if F.reservation.convertedTradeSlots > 0 || F.filled then none
      else if now - F.reservation.createdAt > paperUnfilledReservationMaxAge then some .agedUnfilled
      else none

theorem Own.orphanCause_eq (h : F.Own cat spent k) (now : Instant) (x : ℚ) :
    Execution.orphanCause cat now k (F.reservation.withRemaining x) = F.orphanCause now := by
  have filled : k.hasFill (F.reservation.withRemaining x) =
      (decide (F.reservation.convertedTradeSlots > 0) || F.filled) := by
    simp [Command.hasFill, h.filled, Reservation.withRemaining]
  simp only [Execution.orphanCause, orphanCause, h.venue, h.cause, filled]
  rfl

def releaseOwn (F : Frame e) (reason : ReleaseReason) : Frame e :=
  { F with
    reservation := F.reservation.release reason
    base := F.base.lowerLoss F.reservation }

theorem remaining_releaseOwn {reason : ReleaseReason} (nonneg : 0 ≤ spent) :
    (F.releaseOwn reason).remaining spent = 0 := by
  simp only [remaining, releaseOwn, Reservation.release, zero_sub, clampZero_eq_max]
  exact max_eq_left (neg_nonpos.mpr nonneg)

variable {now : Instant} {cause : OrphanCause} {r : Reservation} {fact : FillFact}

theorem Fits.releaseOrphan_own (h : F.Fits cat spent db)
    (live : F.reservation.releaseState ≠ .released) (orphan : F.orphanCause now = some cause) :
    (F.releaseOwn cause.releaseReason).Fits cat spent
      (Db.releaseOrphan cat now e.account db e.id) := by
  obtain ⟨k, find, own⟩ := h.own
  obtain ⟨version, row⟩ := h.row
  have none_left : (F.releaseOwn cause.releaseReason).remaining spent = 0 :=
    remaining_releaseOwn h.spent_nonneg
  have unreleased : (F.reservation.withRemaining (F.remaining spent)).releaseState ≠ .released :=
    live
  obtain ⟨version', lowered⟩ := F.base.release_carry_own e.instrument (F.remaining spent) spent
    version (F.remaining_nonneg spent) F.instrument
  simp only [Db.releaseOrphan, find, row, own.reservation, own.account, unreleased, ne_eq,
    not_false_eq_true, and_self, if_true, own.orphanCause_eq, orphan]
  refine h.put_own h.spent_nonneg ?_ rfl rfl rfl (fun key other => ?_) ⟨version', ?_⟩
  · refine ⟨own.account, own.user, own.venue, own.allow, own.effect, ?_, own.filled, ?_⟩
    · exact own.cause
    · rw [none_left]
      rfl
  · change Function.update db.accounting k.accountKey _ key = F.rows key
    rw [own.account, Function.update_of_ne other]
    exact h.rows key other
  · change Function.update db.accounting k.accountKey _ e.account = _
    rw [own.account, Function.update_self, none_left, lowered]
    rfl

/-- The frame after the roll has released the reservation `r` of another command `k`. -/
def releaseOther (F : Frame e) (i : CommandId) (k : Command) (r : Reservation)
    (reason : ReleaseReason) : Frame e :=
  { F with
    others := Function.update F.others i (some (k.setReservation (r.release reason)))
    base := F.base.lowerBase e.instrument r
    nonneg := by
      intro j k' r' found held
      by_cases same : j = i
      · subst same
        obtain rfl : k.setReservation (r.release reason) = k' := by simpa using found
        obtain rfl : r.release reason = r' := by simpa using held
        exact le_rfl
      · exact F.nonneg j k' r' (by simpa [Function.update_of_ne same] using found) held }

theorem Fits.releaseOrphan_other (h : F.Fits cat spent db) {i : CommandId} {k : Command}
    (other : i ≠ e.id) (found : F.others i = some k) (held : k.reservation = some r)
    (account : k.accountKey = e.account) (live : r.releaseState ≠ .released)
    (orphan : Execution.orphanCause cat now k r = some cause) :
    (F.releaseOther i k r cause.releaseReason).Fits cat spent
      (Db.releaseOrphan cat now e.account db i) := by
  have find : db.commands.find i = some k := (h.others i other).trans found
  obtain ⟨version, row⟩ := h.row
  obtain ⟨version', lowered⟩ := F.base.release_carry_other e.instrument (F.remaining spent) spent
    version (F.nonneg i k r found held)
  simp only [Db.releaseOrphan, find, row, held, account, live, ne_eq, not_false_eq_true, and_self,
    if_true, orphan]
  constructor
  · exact h.spent_nonneg
  · exact (Table.keys_put_of_find _ find).trans h.keys
  · intro j ne
    by_cases same : j = i
    · subst same
      simp [Db.settle, releaseOther]
    · simp [Db.settle, releaseOther, same, h.others j ne]
  · obtain ⟨k', find', own⟩ := h.own
    refine ⟨k', ?_, own.account, own.user, own.venue, own.allow, own.effect, own.cause, own.filled,
      own.reservation⟩
    simpa [Db.settle, Table.find_put_of_ne _ (Ne.symm other)] using find'
  · intro key ne
    change Function.update db.accounting k.accountKey _ key = F.rows key
    rw [account, Function.update_of_ne ne]
    exact h.rows key ne
  · refine ⟨version', ?_⟩
    change Function.update db.accounting k.accountKey _ e.account = _
    rw [account, Function.update_self, lowered]
    rfl

/-- The roll looks at one command. -/
theorem exists_releaseOrphan (F : Frame e) (cat : Catalog) (now : Instant) (i : CommandId) :
    ∃ F' : Frame e, ∀ spent db, F.Fits cat spent db →
      F'.Fits cat spent (Db.releaseOrphan cat now e.account db i) := by
  by_cases own : i = e.id
  · subst own
    by_cases live : F.reservation.releaseState ≠ .released
    · cases orphan : F.orphanCause now with
      | some cause => exact ⟨_, fun spent db h => h.releaseOrphan_own live orphan⟩
      | none =>
        refine ⟨F, fun spent db h => ?_⟩
        obtain ⟨k, find, own⟩ := h.own
        obtain ⟨version, row⟩ := h.row
        simpa [Db.releaseOrphan, find, row, own.reservation, own.orphanCause_eq, orphan] using h
    · refine ⟨F, fun spent db h => ?_⟩
      obtain ⟨k, find, own⟩ := h.own
      obtain ⟨version, row⟩ := h.row
      simpa [Db.releaseOrphan, find, row, own.reservation, Reservation.withRemaining, live] using h
  · cases found : F.others i with
    | none =>
      refine ⟨F, fun spent db h => ?_⟩
      simpa [Db.releaseOrphan, h.others i own, found] using h
    | some k =>
      -- The frame knows the command, so the cases are the same in every database that fits.
      have same : ∀ spent db, F.Fits cat spent db → db.commands.find i = some k :=
        fun spent db h => (h.others i own).trans found
      cases held : k.reservation with
      | none =>
        refine ⟨F, fun spent db h => ?_⟩
        obtain ⟨version, row⟩ := h.row
        simpa [Db.releaseOrphan, same spent db h, row, held] using h
      | some r =>
        by_cases live : k.accountKey = e.account ∧ r.releaseState ≠ .released
        · cases orphan : Execution.orphanCause cat now k r with
          | some cause =>
            exact ⟨_, fun spent db h =>
              h.releaseOrphan_other own found held live.1 live.2 orphan⟩
          | none =>
            refine ⟨F, fun spent db h => ?_⟩
            obtain ⟨version, row⟩ := h.row
            simpa [Db.releaseOrphan, same spent db h, row, held, orphan] using h
        · refine ⟨F, fun spent db h => ?_⟩
          obtain ⟨version, row⟩ := h.row
          simpa only [Db.releaseOrphan, same spent db h, row, held, if_neg live] using h

theorem exists_foldl_releaseOrphan (cat : Catalog) (now : Instant) (order : List CommandId)
    (F : Frame e) : ∃ F' : Frame e, ∀ spent db, F.Fits cat spent db →
      F'.Fits cat spent (order.foldl (Db.releaseOrphan cat now e.account) db) := by
  induction order generalizing F with
  | nil => exact ⟨F, fun _ _ h => h⟩
  | cons i order ih =>
    obtain ⟨F₁, first⟩ := F.exists_releaseOrphan cat now i
    obtain ⟨F₂, rest⟩ := ih F₁
    exact ⟨F₂, fun spent db h => rest spent _ (first spent db h)⟩

def rollOrder (F : Frame e) : List CommandId :=
  F.keys.insertionSort fun a b =>
    (if a = e.id then F.reservation.id else ((F.others a).bind (·.reservation)).elim 0 (·.id)) ≤
      (if b = e.id then F.reservation.id else ((F.others b).bind (·.reservation)).elim 0 (·.id))

theorem Fits.rollOrder_eq (h : F.Fits cat spent db) : db.rollOrder = F.rollOrder := by
  have ids : ∀ i, db.reservationId i =
      if i = e.id then F.reservation.id else ((F.others i).bind (·.reservation)).elim 0 (·.id) := by
    intro i
    by_cases own : i = e.id
    · subst own
      obtain ⟨k, find, own⟩ := h.own
      simp [Db.reservationId, find, own.reservation, Reservation.withRemaining]
    · simp [Db.reservationId, own, h.others i own]
  simp only [Db.rollOrder, rollOrder, ids, h.keys]

def stampDay (F : Frame e) (settings : RiskSettings) (today : Day) : Frame e :=
  { F with
    base := { F.base with
      actualTradeCount := 0
      maxTradeSlots := settings.maxTradesPerDay
      tradeSlotBusinessDate := some today } }

theorem Fits.stampDay (h : F.Fits cat spent db) (settings : RiskSettings) (today : Day) :
    (F.stampDay settings today).Fits cat spent (db.stampDay e.account settings today) := by
  obtain ⟨k, find, own⟩ := h.own
  obtain ⟨version, row⟩ := h.row
  constructor
  · exact h.spent_nonneg
  · exact h.keys
  · exact h.others
  · exact ⟨k, find, own.account, own.user, own.venue, own.allow, own.effect, own.cause, own.filled,
      own.reservation⟩
  · intro key other
    exact (Function.update_of_ne other _ _).trans (h.rows key other)
  · refine ⟨version + 1, ?_⟩
    change Function.update db.accounting e.account _ e.account = _
    rw [Function.update_self, row]
    rfl

/-- The ledger lock of the entry's account. -/
theorem exists_ensureAccounting (F : Frame e) (cat : Catalog) (ctx : Ctx) (user : UserId)
    (roll : Bool) : ∃ F' : Frame e, ∀ spent db unit, F.Fits cat spent db →
      F'.Fits cat spent (db.ensureAccounting cat ctx e.account user unit roll) := by
  let settings := ctx.riskSettings e.account.1 user
  let today := settings.tradingDay ctx.now
  by_cases still : roll = false ∨ F.base.tradeSlotBusinessDate = some today
  · refine ⟨F, fun spent db unit h => ?_⟩
    obtain ⟨version, row⟩ := h.row
    have same : db.ensureAccounting cat ctx e.account user unit roll = db := by
      unfold Db.ensureAccounting Db.rollDailyTradeSlots
      simp only [row]
      obtain rfl | day := still
      · rfl
      · split
        · exact if_pos day
        · rfl
    rw [same]
    exact h
  · push Not at still
    obtain ⟨F₁, rolled⟩ := exists_foldl_releaseOrphan cat ctx.now F.rollOrder F
    refine ⟨F₁.stampDay settings today, fun spent db unit h => ?_⟩
    obtain ⟨version, row⟩ := h.row
    have roll_eq : roll = true := Bool.eq_true_of_not_eq_false still.1
    have moved : db.ensureAccounting cat ctx e.account user unit roll =
        (F.rollOrder.foldl (Db.releaseOrphan cat ctx.now e.account) db).stampDay e.account settings
          today := by
      unfold Db.ensureAccounting Db.rollDailyTradeSlots Db.releaseOrphanedPaperReservations
      rw [h.rollOrder_eq]
      simp only [row, roll_eq, if_true]
      exact if_neg still.2
    rw [moved]
    exact (rolled spent db h).stampDay settings today

def store (F : Frame e) : Frame e := { F with filled := true }

theorem Fits.store (h : F.Fits cat spent db) (find : db.commands.find e.id = some k)
    (ctx : Ctx) (key : AccountKey) (fact : FillFact) :
    F.store.Fits cat spent ((db.lockEpoch ctx key).1.putCommand e.id (k.addFill fact)) := by
  obtain ⟨k₀, find₀, own⟩ := h.own
  obtain rfl : k₀ = k := Option.some.inj (find₀.symm.trans find)
  have locked : F.Fits cat spent (db.lockEpoch ctx key).1 :=
    h.of_eq (db.lockEpoch_commands ctx key) (db.lockEpoch_accounting ctx key)
  refine locked.put_own h.spent_nonneg ?_ rfl rfl rfl locked.rows locked.row
  refine ⟨own.account, own.user, own.venue, own.allow, own.effect, own.cause, ?_, own.reservation⟩
  simp [Frame.store]

def convert (F : Frame e) : Frame e :=
  { F with
    cause := effectCause e.effect
    filled := true
    reservation :=
      (F.reservation.convert 0).withRemaining F.reservation.remainingReservedNotional
    base := F.base.convertSlots F.reservation }

theorem remaining_convert {notional : ℚ} (nonneg : 0 ≤ notional) :
    F.convert.remaining (spent + notional) = clampZero (F.remaining spent - notional) := by
  have split : F.reservation.remainingReservedNotional - (spent + notional) =
      F.reservation.remainingReservedNotional - spent - notional := by ring
  rw [remaining, remaining, clampZero_sub_sub _ nonneg, ← split]
  rfl

/-- A filled receipt is not terminal: only the effect can make its command an orphan. -/
theorem terminalCause_recordFill {weighted : ℚ} (allow : k.outcome = .allow) :
    (k.recordFill fact weighted now).terminalCause = effectCause k.effect := by
  have open_ : (k.recordFill fact weighted now).projection.state.terminal = false := by
    simp only [Command.recordFill, Command.record_projection, applyProjectionTransition_state,
      appendTransition_newState]
    split <;> rfl
  have outcome : (k.recordFill fact weighted now).outcome ≠ .blocked := by
    change k.outcome ≠ .blocked
    simp [allow]
  simp only [Command.terminalCause, if_neg outcome, open_]
  rfl

theorem Fits.settleFill (h : F.Fits cat spent db) (find : db.commands.find e.id = some k)
    {row : Accounting} (row_eq : db.accounting e.account = some row)
    (reservation : k.reservation = some r) (stored : k.fills ≠ []) {weighted notional : ℚ}
    (pos : 0 < notional) (now : Instant) :
    F.convert.Fits cat (spent + notional) (db.settle e.id
      ((k.recordFill fact weighted now).setReservation (r.convert notional)) .fill r.instrument
      (convertDelta r notional) row (row.convertFor r notional)) := by
  obtain ⟨k₀, find₀, own⟩ := h.own
  obtain rfl : k₀ = k := Option.some.inj (find₀.symm.trans find)
  obtain rfl : F.reservation.withRemaining (F.remaining spent) = r :=
    Option.some.inj (own.reservation.symm.trans reservation)
  obtain ⟨version, row_eq'⟩ := h.row
  obtain rfl := Option.some.inj (row_eq'.symm.trans row_eq)
  have left : F.convert.remaining (spent + notional) = clampZero (F.remaining spent - notional) :=
    remaining_convert pos.le
  have account : ((k₀.recordFill fact weighted now).setReservation
      ((F.reservation.withRemaining (F.remaining spent)).convert notional)).accountKey =
      e.account := own.account
  refine h.put_own (add_nonneg h.spent_nonneg pos.le) ?_ rfl rfl rfl (fun key other => ?_)
    ⟨version + 1, ?_⟩
  · refine ⟨own.account, own.user, own.venue, own.allow, own.effect, ?_, ?_, ?_⟩
    · exact (terminalCause_recordFill own.allow).trans (congrArg effectCause own.effect)
    · simpa [Command.recordFill, convert] using stored
    · rw [left, Reservation.convert_withRemaining]
      rfl
  · change Function.update db.accounting _ _ key = F.rows key
    rw [account, Function.update_of_ne other]
    exact h.rows key other
  · change Function.update db.accounting _ _ e.account = _
    rw [account, Function.update_self, left]
    exact congrArg some (F.base.convert_carry e.instrument (F.remaining spent) spent version pos
      (F.remaining_nonneg spent) h.spent_nonneg F.instrument F.actual)

end Frame

theorem exists_cumulativeWeightedPrice (filled : ℚ) (weighted : Option ℚ) {quantity : ℚ}
    (pos : 0 < quantity) (price : ℚ) :
    ∃ x, cumulativeWeightedPrice filled weighted quantity price = .ok x := by
  unfold cumulativeWeightedPrice
  rw [if_neg (not_le.mpr pos)]
  split
  · exact ⟨_, rfl⟩
  · split <;> exact ⟨_, rfl⟩

/-- The command after an accepted fill: the fact is appended and the remainder lowered. -/
structure Command.Took (k : Command) (quantity price : ℚ) (identity : String) (k' : Command) :
    Prop where
  fills : ∃ fact, k'.fills = k.fills ++ [fact] ∧ fact.quantity = quantity ∧ fact.price = price ∧
    fact.sourceFillIdentity = identity
  remaining : k'.projection.remainingQuantity = k.projection.remainingQuantity - quantity
  state : k'.projection.state =
    if k'.projection.remainingQuantity = 0 then .acknowledged else .partiallyFilled

variable {k : Command} {r : Reservation} {cat : Catalog}

theorem Command.took_recordFill {k' : Command} {fact : FillFact} {weighted : ℚ} {now : Instant}
    (fills : k'.fills = k.fills ++ [fact]) (projection : k'.projection = k.projection)
    (covered : fact.quantity ≤ k.projection.remainingQuantity) :
    k.Took fact.quantity fact.price fact.sourceFillIdentity
      ((k'.recordFill fact weighted now).setReservation r) := by
  have left : clampZero (k.projection.remainingQuantity - fact.quantity) =
      k.projection.remainingQuantity - fact.quantity :=
    clampZero_of_nonneg (sub_nonneg.mpr covered)
  refine ⟨⟨fact, fills, rfl, rfl, rfl⟩, ?_, ?_⟩
  · simp [Command.recordFill, projection, left]
  · simp [Command.recordFill]

namespace Frame

variable {e : Entry}

/-- A fill that the entry covers is accepted, and what it makes of the frame does not depend
on it. -/
theorem exists_fill (F : Frame e) (cat : Catalog) (ctx : Ctx) :
    ∃ F' : Frame e, ∀ spent db k request identity time, F.Fits cat spent db →
      db.commands.find e.id = some k → request.check = .ok (identity, time) →
      (∀ f ∈ k.fills, f.sourceFillIdentity ≠ identity) →
      request.fillQuantity.toRat ≤ k.projection.remainingQuantity →
      ∃ db' k', (db.applyUniqueFill cat ctx e.id request).map Prod.fst = .ok db' ∧
        F'.Fits cat (spent + e.exposure request.fillQuantity.toRat request.fillPrice.toRat) db' ∧
        db'.commands.find e.id = some k' ∧
        k.Took request.fillQuantity.toRat request.fillPrice.toRat identity k' := by
  obtain ⟨F', locks⟩ := F.store.exists_ensureAccounting cat ctx e.user (paperDailyTradeRoll e.venue)
  refine ⟨F'.convert, fun spent db k request identity time fits find checked fresh covered => ?_⟩
  obtain ⟨quantity_pos, price_pos⟩ := FillRequest.check_pos checked
  obtain ⟨k₀, find₀, own⟩ := fits.own
  obtain rfl : k₀ = k := Option.some.inj (find₀.symm.trans find)
  let r := F.reservation.withRemaining (F.remaining spent)
  let fact := fillFact cat e.id k₀ request identity time
  let stored := (db.lockEpoch ctx k₀.accountKey).1.putCommand e.id (k₀.addFill fact)
  let locked := stored.ensureAccounting cat ctx k₀.accountKey k₀.userId r.exposureUnit
    (paperDailyTradeRoll (cat.venue k₀))
  have locked_fits : F'.Fits cat spent locked := by
    have stored_fits := fits.store find ctx k₀.accountKey fact
    have := locks spent stored r.exposureUnit stored_fits
    rwa [← own.account, ← own.user, ← own.venue] at this
  have rolled : Db.CommandsRolled cat ctx.now stored locked :=
    Db.ensureAccounting_commandsRolled _ _ _ _ _ _ _
  obtain ⟨k', find', rolledTo⟩ := rolled.exists_find (c := e.id) (Table.find_put_self _ _ _)
  obtain ⟨k₁, find₁, own'⟩ := locked_fits.own
  obtain rfl : k₁ = k' := Option.some.inj (find₁.symm.trans find')
  obtain ⟨version, row_eq⟩ := locked_fits.row
  have notional_eq := F'.exposes _ _ quantity_pos price_pos
  have pos := fillQuoteExposure_pos notional_eq
  obtain ⟨weighted, weighted_eq⟩ := exists_cumulativeWeightedPrice k₁.projection.filledQuantity
    k₁.projection.weightedPrice quantity_pos request.fillPrice.toRat
  have lock : locked = stored.ensureAccounting cat ctx k₀.accountKey k₀.userId r.exposureUnit
      (paperDailyTradeRoll (cat.venue k₀)) := rfl
  have accepted := Db.applyUniqueFill_eq_ok checked find own.reservation rfl fresh covered lock
    (by rw [own.account]; exact row_eq) find' own'.reservation notional_eq weighted_eq
  refine ⟨_, _, accepted, ?_, Table.find_put_self _ _ _, ?_⟩
  · refine locked_fits.settleFill find' row_eq own'.reservation ?_ pos ctx.now
    simp [rolledTo.fills_eq]
  · exact Command.took_recordFill rolledTo.fills_eq rolledTo.projection_eq covered

end Frame

/-! ## Lists of fills -/

def FillRequest.quantity (f : FillRequest) : ℚ := f.fillQuantity.toRat

def FillRequest.amounts (f : FillRequest) : ℚ × ℚ := (f.fillQuantity.toRat, f.fillPrice.toRat)

def FillFact.amounts (f : FillFact) : ℚ × ℚ := (f.quantity, f.price)

namespace Command

/-- New fills, distinct and well formed, that the command's remainder covers. -/
structure Covers (k : Command) (fs : List FillRequest) : Prop where
  checked : ∀ f ∈ fs, ∃ identity time, f.check = .ok (identity, time)
  distinct : (fs.map (·.sourceIdentity)).Nodup
  fresh : ∀ f ∈ fs, ∀ fact ∈ k.fills, f.sourceIdentity ≠ some fact.sourceFillIdentity
  covered : (fs.map (·.quantity)).sum ≤ k.projection.remainingQuantity

variable {k k' k'' : Command} {f : FillRequest} {fs gs : List FillRequest} {identity : String}
  {time : PyDateTime}

theorem Covers.perm (h : k.Covers fs) (perm : fs.Perm gs) : k.Covers gs := by
  constructor
  · intro f mem
    exact h.checked f (perm.mem_iff.mpr mem)
  · exact (perm.map _).nodup_iff.mp h.distinct
  · intro f mem
    exact h.fresh f (perm.mem_iff.mpr mem)
  · rw [← (perm.map (·.quantity)).sum_eq]
    exact h.covered

theorem Covers.head_le (h : k.Covers (f :: fs)) :
    f.fillQuantity.toRat ≤ k.projection.remainingQuantity := by
  have rest : 0 ≤ (fs.map (·.quantity)).sum := by
    apply List.sum_nonneg
    intro x of
    obtain ⟨g, mem, rfl⟩ := List.mem_map.mp of
    obtain ⟨identity, time, checked⟩ := h.checked g (List.mem_cons_of_mem f mem)
    exact (FillRequest.check_pos checked).1.le
  have covered := h.covered
  simp only [List.map_cons, List.sum_cons, FillRequest.quantity] at covered rest
  linarith

theorem Covers.head_fresh (h : k.Covers (f :: fs)) (checked : f.check = .ok (identity, time)) :
    ∀ fact ∈ k.fills, fact.sourceFillIdentity ≠ identity := by
  intro fact mem same
  apply h.fresh f List.mem_cons_self fact mem
  rw [FillRequest.check_identity checked, same]

theorem Covers.tail (h : k.Covers (f :: fs)) (checked : f.check = .ok (identity, time))
    (took : k.Took f.fillQuantity.toRat f.fillPrice.toRat identity k') : k'.Covers fs := by
  obtain ⟨fact, fills, -, -, fact_identity⟩ := took.fills
  have named := FillRequest.check_identity checked
  constructor
  · intro g mem
    exact h.checked g (List.mem_cons_of_mem f mem)
  · exact (List.nodup_cons.mp h.distinct).2
  · intro g mem fact' mem'
    rw [fills] at mem'
    obtain old | new := List.mem_append.mp mem'
    · exact h.fresh g (List.mem_cons_of_mem f mem) fact' old
    · obtain rfl := List.mem_singleton.mp new
      rw [fact_identity, ← named]
      intro same
      exact (List.nodup_cons.mp h.distinct).1 (List.mem_map.mpr ⟨g, mem, same⟩)
  · have covered := h.covered
    simp only [List.map_cons, List.sum_cons, FillRequest.quantity] at covered ⊢
    rw [took.remaining]
    linarith

/-- The command after all of the fills. -/
structure TookAll (k : Command) (fs : List FillRequest) (k' : Command) : Prop where
  fills : k'.fills.map (·.amounts) = k.fills.map (·.amounts) ++ fs.map (·.amounts)
  remaining : k'.projection.remainingQuantity =
    k.projection.remainingQuantity - (fs.map (·.quantity)).sum
  state : k'.projection.state = if fs = [] then k.projection.state
    else if k'.projection.remainingQuantity = 0 then .acknowledged else .partiallyFilled

theorem tookAll_nil (k : Command) : k.TookAll [] k := by
  constructor <;> simp

theorem Took.cons (h : k.Took f.fillQuantity.toRat f.fillPrice.toRat identity k')
    (rest : k'.TookAll fs k'') : k.TookAll (f :: fs) k'' := by
  obtain ⟨fact, fills, quantity, price, -⟩ := h.fills
  constructor
  · rw [rest.fills, fills]
    simp [FillRequest.amounts, FillFact.amounts, quantity, price]
  · rw [rest.remaining, h.remaining]
    simp only [List.map_cons, List.sum_cons, FillRequest.quantity]
    ring
  · by_cases last : fs = []
    · subst last
      have same : k''.projection.remainingQuantity = k'.projection.remainingQuantity := by
        simpa using rest.remaining
      rw [rest.state, h.state, same]
      simp
    · rw [rest.state]
      simp [last]

end Command

def fillLabels (c : CommandId) (ctxs : List Ctx) (fs : List FillRequest) : List Label :=
  List.zipWith (fun ctx f => .applyUniqueFill ctx c f) ctxs fs

namespace Frame

variable {e : Entry}

/-- All of the fills are accepted, and the frame after them does not depend on them. -/
theorem exists_fills (cat : Catalog) (ctxs : List Ctx) (F : Frame e) :
    ∃ F' : Frame e, ∀ fs spent w k, fs.length = ctxs.length → F.Fits cat spent w.db →
      w.db.commands.find e.id = some k → k.Covers fs →
      ∃ k', F'.Fits cat
          (spent + (fs.map fun f => e.exposure f.fillQuantity.toRat f.fillPrice.toRat).sum)
          (run (World.step cat) w (fillLabels e.id ctxs fs)).db ∧
        (run (World.step cat) w (fillLabels e.id ctxs fs)).db.commands.find e.id = some k' ∧
        k.TookAll fs k' := by
  induction ctxs generalizing F with
  | nil =>
    refine ⟨F, fun fs spent w k length fits find covers => ?_⟩
    obtain rfl := List.length_eq_zero_iff.mp length
    exact ⟨k, by simpa [fillLabels] using fits, find, k.tookAll_nil⟩
  | cons ctx ctxs ih =>
    obtain ⟨F₁, first⟩ := F.exists_fill cat ctx
    obtain ⟨F₂, rest⟩ := ih F₁
    refine ⟨F₂, fun fs spent w k length fits find covers => ?_⟩
    cases fs with
    | nil => cases length
    | cons f fs =>
      obtain ⟨identity, time, checked⟩ := covers.checked f List.mem_cons_self
      obtain ⟨db', k', applied, fits', find', took⟩ := first spent w.db k f identity time fits find
        checked (covers.head_fresh checked) covers.head_le
      have step : w.step cat (.applyUniqueFill ctx e.id f) = { w with db := db' } := by
        simp [World.step, applied, World.commit]
      obtain ⟨k'', fits'', find'', tookAll⟩ := rest fs
        (spent + e.exposure f.fillQuantity.toRat f.fillPrice.toRat) { w with db := db' } k'
        (Nat.succ.inj length) fits' find' (covers.tail checked took)
      have labels : run (World.step cat) w (fillLabels e.id (ctx :: ctxs) (f :: fs)) =
          run (World.step cat) { w with db := db' } (fillLabels e.id ctxs fs) := by
        rw [← step]
        rfl
      rw [labels, List.map_cons, List.sum_cons, ← add_assoc]
      exact ⟨k'', fits'', find'', took.cons tookAll⟩

end Frame

/-! ## Reached entries -/

namespace Command

variable {cat : Catalog} {gate : Gate} {c : CommandId} {k k' : Command}

def LinearInv (k : Command) : Prop := ∀ r, k.reservation = some r → r.Linear

theorem LinearInv.of_move (h : k.LinearInv) (m : Move gate cat k k') : k'.LinearInv := by
  cases m with
  | mark m =>
    intro r reservation
    rw [m.reservation_eq] at reservation
    exact h r reservation
  | roll m =>
    obtain ⟨r, cause, reservation, -, -, rfl⟩ := m.orphan
    intro r' reservation'
    obtain rfl := Option.some.inj reservation'
    obtain ⟨contract, unit, multiplier⟩ := h r reservation
    exact ⟨contract, unit, multiplier⟩
  | @release r reason reservation _ =>
    intro r' reservation'
    obtain rfl := Option.some.inj reservation'
    obtain ⟨contract, unit, multiplier⟩ := h r reservation
    exact ⟨contract, unit, multiplier⟩
  | fill m =>
    obtain ⟨r, notional, weighted, now, reservation, -, -, rfl⟩ := m.written
    intro r' reservation'
    obtain rfl := Option.some.inj reservation'
    obtain ⟨contract, unit, multiplier⟩ := h r reservation
    exact ⟨contract, unit, multiplier⟩

/-- A plan is reserved for only if its contracts are linear. -/
theorem Created.linearInv (h : Created cat c k) : k.LinearInv := by
  intro r reservation
  cases h with
  | blocked _ _ => cases reservation
  | @allowed p env epoch intent _ intent_eq _ _ =>
    obtain rfl := Option.some.inj reservation
    unfold conservativeReservation at intent_eq
    dsimp only at intent_eq
    split at intent_eq
    · cases intent_eq
    · rename_i exposure exposure_eq
      obtain rfl := Except.ok.inj intent_eq
      unfold linearQuoteExposure at exposure_eq
      split at exposure_eq
      · cases exposure_eq
      split at exposure_eq
      · cases exposure_eq
      refine ⟨?_, ?_, p.plan.multiplier_pos⟩
      · change p.plan.contractType = .linear
        cases contract : p.plan.contractType with
        | linear => rfl
        | inverse => simp [contract] at exposure_eq
      · change p.plan.quantityUnit ≠ .quote
        intro quote
        cases contract : p.plan.contractType <;> simp [contract, quote] at exposure_eq

end Command

/-- A row is some base that carries a held amount, as long as nothing in it is negative. -/
theorem Accounting.exists_carry (row : Accounting) (instrument : String) (held : ℚ)
    (nonneg : row.Nonneg) : ∃ base : Accounting,
      row = base.carry instrument held 0 row.version ∧ base.symbolActual = row.symbolActual := by
  refine ⟨{ row with
    reservedNotional := row.reservedNotional - held
    symbolReserved := Function.update row.symbolReserved instrument
      (row.symbolReserved instrument - held) }, ?_, rfl⟩
  have notional : 0 ≤ row.reservedNotional := nonneg .notional
  have symbol : 0 ≤ row.symbolReserved instrument := nonneg (.symbol instrument)
  simp [carry, clampZero_of_nonneg notional, clampZero_of_nonneg symbol]

/-- What is fixed about a command with reservation `r`. -/
def Command.entry (cat : Catalog) (c : CommandId) (k : Command) (r : Reservation) : Entry where
  id := c
  account := k.accountKey
  user := k.userId
  venue := cat.venue k
  effect := k.effect
  instrument := r.instrument
  exposure := r.exposure

variable {c : CommandId}

/-- Every reached database fits a frame of each of its allowed commands. -/
theorem exists_frame {ls : List Label} (find : (reached cat ls).db.commands.find c = some k)
    (allow : k.outcome = .allow) (reservation : k.reservation = some r) :
    ∃ F : Frame (k.entry cat c r), F.Fits cat 0 (reached cat ls).db := by
  have sound := reached_sound cat ls
  have holds := Db.holding_of_find find reservation
  obtain ⟨row, found⟩ := sound.rows c k.accountKey r holds
  have nonneg := sound.nonneg k.accountKey row found
  have held := (sound.reservations c k.accountKey r holds).remaining
  have linear : r.Linear := reached_invariant (I := fun _ k => k.LinearInv)
    (fun _ _ => Command.Created.linearInv) (fun _ _ _ => Command.LinearInv.of_move)
    (along_respects_any cat _ ls) find r reservation
  obtain ⟨base, row_eq, actual⟩ := row.exists_carry r.instrument r.remainingReservedNotional nonneg
  let F : Frame (k.entry cat c r) :=
    { keys := (reached cat ls).db.commands.keys
      others := Function.update (reached cat ls).db.commands.find c none
      rows := (reached cat ls).db.accounting
      cause := k.terminalCause
      filled := !k.fills.isEmpty
      reservation := r
      base := base
      instrument := rfl
      exposes := fun quantity price hq hp => linear.fillQuoteExposure hq hp
      nonneg := by
        intro i k' r' found' held'
        have other : i ≠ c := by
          rintro rfl
          simp at found'
        rw [Function.update_of_ne other] at found'
        exact (sound.reservations i _ r' (Db.holding_of_find found' held')).remaining
      actual := by
        rw [actual]
        exact nonneg (.symbolActual r.instrument) }
  have remaining : F.remaining 0 = r.remainingReservedNotional := by
    change clampZero (r.remainingReservedNotional - 0) = _
    rw [sub_zero, clampZero_of_nonneg held]
  refine ⟨F, le_rfl, rfl, fun i other => (Function.update_of_ne other _ _).symm, ⟨k, find, ?_⟩,
    fun _ _ => rfl, row.version, ?_⟩
  · refine ⟨rfl, rfl, rfl, allow, rfl, rfl, (Bool.not_not _).symm, ?_⟩
    rw [remaining]
    exact reservation
  · rw [remaining]
    exact found.trans (congrArg some row_eq)

/-- What a command's fills leave on its projection, its reservation and the row of its account. -/
structure FillView where
  filledQuantity : ℚ
  remainingQuantity : ℚ
  weightedPrice : Option ℚ
  state : ReceiptState
  remainingReservedNotional : Option ℚ
  convertedTradeSlots : Option Int
  reservedNotional : Option ℚ
  actualNotional : Option ℚ
  symbolReserved : Option (String → ℚ)
  symbolActual : Option (String → ℚ)
  reservedTradeSlots : Option Int
  actualTradeCount : Option Int

def Db.fillView (db : Db) (c : CommandId) : Option FillView :=
  (db.commands.find c).map fun k =>
    { filledQuantity := k.projection.filledQuantity
      remainingQuantity := k.projection.remainingQuantity
      weightedPrice := k.projection.weightedPrice
      state := k.projection.state
      remainingReservedNotional := k.reservation.map (·.remainingReservedNotional)
      convertedTradeSlots := k.reservation.map (·.convertedTradeSlots)
      reservedNotional := (db.accounting k.accountKey).map (·.reservedNotional)
      actualNotional := (db.accounting k.accountKey).map (·.actualNotional)
      symbolReserved := (db.accounting k.accountKey).map (·.symbolReserved)
      symbolActual := (db.accounting k.accountKey).map (·.symbolActual)
      reservedTradeSlots := (db.accounting k.accountKey).map (·.reservedTradeSlots)
      actualTradeCount := (db.accounting k.accountKey).map (·.actualTradeCount) }

/-- Two databases that fit one frame, with the same spent and the same projection, show the same. -/
theorem Frame.Fits.fillView_eq {e : Entry} {F : Frame e} {spent : ℚ} {db db' : Db} {k' : Command}
    (h : F.Fits cat spent db) (h' : F.Fits cat spent db') (find : db.commands.find e.id = some k)
    (find' : db'.commands.find e.id = some k')
    (filled : k.projection.filledQuantity = k'.projection.filledQuantity)
    (remaining : k.projection.remainingQuantity = k'.projection.remainingQuantity)
    (weighted : k.projection.weightedPrice = k'.projection.weightedPrice)
    (state : k.projection.state = k'.projection.state) : db.fillView e.id = db'.fillView e.id := by
  obtain ⟨k₀, find₀, own⟩ := h.own
  obtain rfl : k₀ = k := Option.some.inj (find₀.symm.trans find)
  obtain ⟨k₁, find₁, own'⟩ := h'.own
  obtain rfl : k₁ = k' := Option.some.inj (find₁.symm.trans find')
  obtain ⟨version, row⟩ := h.row
  obtain ⟨version', row'⟩ := h'.row
  simp [Db.fillView, find, find', filled, remaining, weighted, state, own.reservation,
    own'.reservation, own.account, own'.account, row, row', Accounting.carry]

/-- The sums over facts do not depend on their order. -/
theorem Command.facts_eq_of_perm {k' : Command}
    (h : (k.fills.map (·.amounts)).Perm (k'.fills.map (·.amounts))) :
    k.factQuantity = k'.factQuantity ∧ k.factNotional = k'.factNotional ∧
      (k.fills = [] ↔ k'.fills = []) := by
  refine ⟨?_, ?_, ?_⟩
  · have sums := (h.map Prod.fst).sum_eq
    simp only [List.map_map] at sums
    exact sums
  · have sums := (h.map fun x => x.1 * x.2).sum_eq
    simp only [List.map_map] at sums
    exact sums
  · have lengths := h.length_eq
    simp only [List.length_map] at lengths
    rw [← List.length_eq_zero_iff, ← List.length_eq_zero_iff, lengths]

theorem Command.TookAll.factQuantity {k' : Command} {fs : List FillRequest} (h : k.TookAll fs k') :
    k'.factQuantity = k.factQuantity + (fs.map (·.quantity)).sum := by
  have sums := congrArg (fun l => (l.map Prod.fst).sum) h.fills
  simp only [List.map_append, List.map_map, List.sum_append] at sums
  exact sums

/-- The same fills in two orders leave the same projection. -/
theorem Command.TookAll.projection_eq {k₁ k₂ : Command} {fs gs : List FillRequest}
    (h₁ : k.TookAll fs k₁) (h₂ : k.TookAll gs k₂) (perm : fs.Perm gs) (inv₁ : k₁.FillInv cat)
    (inv₂ : k₂.FillInv cat) :
    k₁.projection.filledQuantity = k₂.projection.filledQuantity ∧
      k₁.projection.remainingQuantity = k₂.projection.remainingQuantity ∧
      k₁.projection.weightedPrice = k₂.projection.weightedPrice ∧
      k₁.projection.state = k₂.projection.state := by
  have facts : (k₁.fills.map (·.amounts)).Perm (k₂.fills.map (·.amounts)) := by
    rw [h₁.fills, h₂.fills]
    exact (perm.map _).append_left _
  obtain ⟨quantity, notional, empty⟩ := Command.facts_eq_of_perm facts
  have remaining : k₁.projection.remainingQuantity = k₂.projection.remainingQuantity := by
    rw [h₁.remaining, h₂.remaining, (perm.map (·.quantity)).sum_eq]
  refine ⟨?_, remaining, ?_, ?_⟩
  · rw [inv₁.filled, inv₂.filled, quantity]
  · simp only [inv₁.weighted, inv₂.weighted, quantity, notional, empty]
  · have none_ : fs = [] ↔ gs = [] := by
      rw [← List.length_eq_zero_iff, ← List.length_eq_zero_iff, perm.length_eq]
    simp only [h₁.state, h₂.state, none_, remaining]

/-- Fills of a command with nothing left are all refused. -/
theorem run_fillLabels_of_remaining_eq_zero {w : World} (find : w.db.commands.find c = some k)
    (zero : k.projection.remainingQuantity = 0) (ctxs : List Ctx) (fs : List FillRequest)
    (fresh : ∀ f ∈ fs, ∀ fact ∈ k.fills, f.sourceIdentity ≠ some fact.sourceFillIdentity) :
    run (World.step cat) w (fillLabels c ctxs fs) = w := by
  induction fs generalizing ctxs with
  | nil => simp [fillLabels]
  | cons f fs ih =>
    cases ctxs with
    | nil => rfl
    | cons ctx ctxs =>
      have exhausted : k.Exhausted := .inr zero
      obtain ⟨refusal, refused⟩ := exhausted.refuses cat ctx find (fresh f List.mem_cons_self)
      have step : w.step cat (.applyUniqueFill ctx c f) = w := by
        simp [World.step, refused, Except.map, World.commit]
      calc run (World.step cat) w (fillLabels c (ctx :: ctxs) (f :: fs))
          = run (World.step cat) (w.step cat (.applyUniqueFill ctx c f))
              (fillLabels c ctxs fs) := rfl
        _ = run (World.step cat) w (fillLabels c ctxs fs) := by rw [step]
        _ = w := ih ctxs fun g mem => fresh g (List.mem_cons_of_mem f mem)

/-- From every state of every run, for every allowed command and new, distinct, well-formed fills
that with what is filled already do not exceed the authorized quantity: in whatever order they
are applied, the projection, the reservation and the row of the account end the same. Unless
the entry has been closed, every one of them is accepted. -/
theorem fills_order_independent (cat : Catalog) (ls : List Label) (c : CommandId) (k : Command)
    (plan : Plan) (find : (reached cat ls).db.commands.find c = some k) (allow : k.outcome = .allow)
    (authorized : cat.plans k.revisionId = some plan) (ctxs : List Ctx) (fs gs : List FillRequest)
    (perm : fs.Perm gs) (length : fs.length = ctxs.length)
    (checked : ∀ f ∈ fs, ∃ identity time, f.check = .ok (identity, time))
    (distinct : (fs.map (·.sourceIdentity)).Nodup)
    (fresh : ∀ f ∈ fs, ∀ fact ∈ k.fills, f.sourceIdentity ≠ some fact.sourceFillIdentity)
    (within : k.projection.filledQuantity + (fs.map (·.quantity)).sum ≤ plan.quantity.value) :
    (reached cat (ls ++ fillLabels c ctxs fs)).db.fillView c =
      (reached cat (ls ++ fillLabels c ctxs gs)).db.fillView c ∧
    ((∀ t ∈ k.transitions, t.newState.closed = false) →
      ((reached cat (ls ++ fillLabels c ctxs fs)).db.fillView c).map (·.filledQuantity) =
        some (k.projection.filledQuantity + (fs.map (·.quantity)).sum)) := by
  have inv := reached_fillInv find
  obtain ⟨plan', authorized', -, total⟩ := inv.authorized
  obtain rfl : plan' = plan := Option.some.inj (authorized'.symm.trans authorized)
  by_cases never : k.neverClosed
  · have covers : k.Covers fs := by
      refine ⟨checked, distinct, fresh, ?_⟩
      have exact_ := total never
      linarith
    obtain ⟨r, -, reservation, -⟩ := reached_reserved find allow
    obtain ⟨F, fits⟩ := exists_frame find allow reservation
    -- One frame for both orders: only what is spent could differ.
    obtain ⟨F', taken⟩ := F.exists_fills cat ctxs
    obtain ⟨k₁, fits₁, find₁, took₁⟩ := taken fs 0 (reached cat ls) k length fits find covers
    obtain ⟨k₂, fits₂, find₂, took₂⟩ := taken gs 0 (reached cat ls) k
      (perm.length_eq.symm.trans length) fits find (covers.perm perm)
    rw [← reached_append] at fits₁ find₁ fits₂ find₂
    have inv₁ := reached_fillInv find₁
    obtain ⟨filled, remaining, weighted, state⟩ :=
      took₁.projection_eq took₂ perm inv₁ (reached_fillInv find₂)
    constructor
    · rw [← (perm.map _).sum_eq] at fits₂
      exact fits₁.fillView_eq fits₂ find₁ find₂ filled remaining weighted state
    · intro _
      have quantity := took₁.factQuantity
      rw [← inv₁.filled, ← inv.filled] at quantity
      change (reached cat (ls ++ fillLabels c ctxs fs)).db.commands.find c = some k₁ at find₁
      simp [Db.fillView, find₁, quantity]
  · have zero := (reached_closedInv find).resolve_left never
    have fresh' : ∀ g ∈ gs, ∀ fact ∈ k.fills, g.sourceIdentity ≠ some fact.sourceFillIdentity :=
      fun g mem => fresh g (perm.mem_iff.mpr mem)
    refine ⟨?_, fun open_ => absurd open_ never⟩
    rw [reached_append, reached_append, run_fillLabels_of_remaining_eq_zero find zero ctxs fs fresh,
      run_fillLabels_of_remaining_eq_zero find zero ctxs gs fresh']

def readyRun : List Label := Sample.claim 0 1 ++ Sample.dispatch 0 1

/-- Two fills that together exceed the reserved notional, the second on the next day. -/
theorem fills_order_independent_readyRun :
    ((reached (Sample.catalog internalPaperVenue) (readyRun ++
        fillLabels 1 [Sample.ctx 1, Sample.ctx 86400000001]
          [Sample.fillRequest "a" 1 90, Sample.fillRequest "b" 1 150])).db.fillView 1).map
        (fun v => (v.weightedPrice, v.remainingReservedNotional, v.actualNotional)) =
      some (some 120, some 0, some 240) ∧
    (reached (Sample.catalog internalPaperVenue) (readyRun ++
        fillLabels 1 [Sample.ctx 1, Sample.ctx 86400000001]
          [Sample.fillRequest "a" 1 90, Sample.fillRequest "b" 1 150])).db.fillView 1 =
      (reached (Sample.catalog internalPaperVenue) (readyRun ++
        fillLabels 1 [Sample.ctx 1, Sample.ctx 86400000001]
          [Sample.fillRequest "b" 1 150, Sample.fillRequest "a" 1 90])).db.fillView 1 := by
  refine ⟨by decide_cbv, ?_⟩
  have ready : ((reached (Sample.catalog internalPaperVenue) readyRun).db.commands.find 1).map
      (fun k => (k.outcome, k.fills, k.projection.filledQuantity)) = some (.allow, [], 0) := by
    decide_cbv
  obtain ⟨k, find, shown⟩ := Option.map_eq_some_iff.mp ready
  simp only [Prod.mk.injEq] at shown
  obtain ⟨allow, fills, filled⟩ := shown
  refine (fills_order_independent _ readyRun 1 k (Sample.plan internalPaperVenue k.revisionId) find
    allow rfl _ _ _ (.swap _ _ _) rfl ?_ (by decide) (by simp [fills]) ?_).1
  · intro f mem
    have passes : ∀ f ∈ [Sample.fillRequest "a" 1 90, Sample.fillRequest "b" 1 150],
        f.check.isOk = true := by decide_cbv
    cases checked : f.check with
    | ok x => exact ⟨x.1, x.2, rfl⟩
    | error _ =>
      have passed := passes f mem
      rw [checked] at passed
      cases passed
  · rw [filled]
    change (0 : ℚ) + (([Sample.fillRequest "a" 1 90, Sample.fillRequest "b" 1 150]).map
      (·.quantity)).sum ≤ 2
    decide_cbv

end AlphaTrade.Execution
