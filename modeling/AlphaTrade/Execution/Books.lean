import Mathlib.Tactic.Linarith
import AlphaTrade.Execution.Steps
import AlphaTrade.Library.Journal

/-!
# The books of the ledger

`Books` is what the ledger is about: the reservation of each command, the row of each
account and the postings between them. Five bookings change it. Every write of the
database is a chain of bookings, so the ledger results are proved about bookings.

A row is read by `Column`. Each column is the sum of what was posted on the account's
page, whatever the clamps did.
-/
namespace AlphaTrade.Execution
open Library

/-! ## Columns -/

inductive Column where
  | notional | symbol (instrument : String) | loss | slots | actual
  | symbolActual (instrument : String)
  deriving DecidableEq

def Column.reserved : Column → Bool
  | .actual | .symbolActual _ => false
  | _ => true

def Accounting.amount (row : Accounting) : Column → ℚ
  | .notional => row.reservedNotional
  | .symbol i => row.symbolReserved i
  | .loss => row.reservedDailyLoss
  | .slots => row.reservedTradeSlots
  | .actual => row.actualNotional
  | .symbolActual i => row.symbolActual i

def Delta.amount (d : Delta) (instrument : String) : Column → ℚ
  | .notional => d.reservedNotional
  | .symbol i => if i = instrument then d.symbolReserved else 0
  | .loss => d.reservedDailyLoss
  | .slots => d.reservedTradeSlots
  | .actual => d.actualNotional
  | .symbolActual i => if i = instrument then d.symbolActual else 0

def Posting.posted (p : Posting) : Column → ℚ := p.applied.amount p.instrument

/-- Two rows that differ in one instrument's entries only, as far as symbols go. -/
structure Accounting.Moves (instrument : String) (row row' : Accounting) : Prop where
  symbol : ∀ i, i ≠ instrument → row'.symbolReserved i = row.symbolReserved i
  symbolActual : ∀ i, i ≠ instrument → row'.symbolActual i = row.symbolActual i

variable {row : Accounting} {r : Reservation} {intent : ReservationIntent} {notional : ℚ}

theorem Accounting.Moves.amount_eq {instrument : String} {row' : Accounting}
    (h : row.Moves instrument row') (col : Column) :
    row'.amount col =
      row.amount col + (Delta.between instrument row row').amount instrument col := by
  cases col with
  | symbol i =>
    by_cases same : i = instrument
    · subst same
      simp [amount, Delta.amount, Delta.between]
    · simp [amount, Delta.amount, same, h.symbol i same]
  | symbolActual i =>
    by_cases same : i = instrument
    · subst same
      simp [amount, Delta.amount, Delta.between]
    · simp [amount, Delta.amount, same, h.symbolActual i same]
  | _ => simp [amount, Delta.amount, Delta.between]

theorem chargeReservation_moves (row : Accounting) (intent : ReservationIntent) :
    row.Moves intent.instrument (chargeReservation row intent) :=
  ⟨fun _ h => by simp [chargeReservation, Function.update_of_ne h], fun _ _ => rfl⟩

theorem convertFor_moves (row : Accounting) (r : Reservation) (notional : ℚ) :
    row.Moves r.instrument (row.convertFor r notional) :=
  ⟨fun _ h => by simp [Accounting.convertFor, adjustSymbolMap, Function.update_of_ne h],
    fun _ h => by simp [Accounting.convertFor, adjustSymbolMap, Function.update_of_ne h]⟩

theorem lowerFor_moves (row : Accounting) (r : Reservation) (unused : ℚ) (version : Nat) :
    row.Moves r.instrument { row.lowerFor r unused with version := version } :=
  ⟨fun _ h => by simp [Accounting.lowerFor, adjustSymbolMap, Function.update_of_ne h],
    fun _ _ => rfl⟩

/-! ## Bookings -/

structure Books where
  holding : CommandId → Option (AccountKey × Reservation)
  accounting : AccountKey → Option Accounting
  journal : List Posting

def Db.books (db : Db) : Books where
  holding c := (db.commands.find c).bind fun k => k.reservation.map fun r => (k.accountKey, r)
  accounting := db.accounting
  journal := db.journal

/-- What a charge takes up: a positive exposure and one trade slot. -/
structure ReservationIntent.Opens (intent : ReservationIntent) (r : Reservation) : Prop where
  pending_pos : 0 < intent.pendingNotional
  loss_pos : 0 < intent.dailyLoss
  one_slot : intent.tradeSlots = 1
  instrument : r.instrument = intent.instrument
  pending : r.pendingOrderExposure = intent.pendingNotional
  remaining : r.remainingReservedNotional = intent.pendingNotional
  loss : r.dailyLossAllocation = intent.dailyLoss
  slots : r.dailyTradeAllocation = intent.tradeSlots
  unconverted : r.convertedTradeSlots = 0
  charged : r.releaseState = .charged

namespace Books

def setRow (b : Books) (key : AccountKey) (row : Accounting) : Books :=
  { b with accounting := Function.update b.accounting key (some row) }

def post (b : Books) (c : CommandId) (key : AccountKey) (r : Reservation) (kind : PostingKind)
    (intended : Delta) (old new : Accounting) : Books where
  holding := Function.update b.holding c (some (key, r))
  accounting := Function.update b.accounting key (some new)
  journal := b.journal ++
    [⟨key, c, kind, r.instrument, intended, .between r.instrument old new⟩]

def page (b : Books) (key : AccountKey) : List Posting := b.journal.filter (·.account = key)

def part (b : Books) (key : AccountKey) (col : Column) (c : CommandId) : ℚ :=
  balance (·.command) (·.posted col) (b.page key) c

/-- A change of the books. On accounts that are not `loose`, a release takes off exactly what
the reservation still holds. -/
inductive Booking (loose : AccountKey → Prop) : Books → Books → Prop
  | opened {b : Books} {key : AccountKey} {row : Accounting} (absent : b.accounting key = none)
      (blank : ∀ col, row.amount col = 0) : Booking loose b (b.setRow key row)
  | stamped {b : Books} {key : AccountKey} {row row' : Accounting}
      (found : b.accounting key = some row) (same : ∀ col, row'.amount col = row.amount col) :
      Booking loose b (b.setRow key row')
  | charged {b : Books} {c : CommandId} {key : AccountKey} {row : Accounting} {r : Reservation}
      {intent : ReservationIntent} (fresh : b.holding c = none)
      (found : b.accounting key = some row) (opens : intent.Opens r) :
      Booking loose b (b.post c key r .charge (chargeDelta intent) row
        (chargeReservation row intent))
  | converted {b : Books} {c : CommandId} {key : AccountKey} {row : Accounting} {r : Reservation}
      {notional : ℚ} (held : b.holding c = some (key, r)) (found : b.accounting key = some row)
      (pos : 0 < notional) :
      Booking loose b (b.post c key (r.convert notional) .fill (convertDelta r notional) row
        (row.convertFor r notional))
  | released {b : Books} {c : CommandId} {key : AccountKey} {row : Accounting} {r : Reservation}
      {unused : ℚ} {reason : ReleaseReason} {unfilled : Bool} {version : Nat}
      (held : b.holding c = some (key, r)) (found : b.accounting key = some row)
      (exact_ : loose key ∨ unused = r.remainingReservedNotional ∧
        (r.releaseState ≠ .released ∨ 0 < r.remainingReservedNotional)) :
      Booking loose b (b.post c key (r.release reason) (.release unfilled) (releaseDelta r unused)
        row { row.lowerFor r unused with version := version })

abbrev Bookings (loose : AccountKey → Prop) : Books → Books → Prop :=
  Relation.ReflTransGen (Booking loose)

end Books

/-! ## The database keeps books -/

namespace Db

variable {gate : Gate} {cat : Catalog} {ctx : Ctx} {db db' : Db} {c : CommandId}
  {loose : AccountKey → Prop}

theorem books_eq (commands : db'.commands = db.commands)
    (accounting : db'.accounting = db.accounting)
    (journal : db'.journal = db.journal) : db'.books = db.books := by
  simp [books, commands, accounting, journal]

theorem SameBooks.books_eq (h : SameBooks db db') : db'.books = db.books :=
  Db.books_eq h.commands h.accounting h.journal

@[simp] theorem books_lockEpoch (db : Db) (ctx : Ctx) (key : AccountKey) :
    (db.lockEpoch ctx key).1.books = db.books := (db.lockEpoch_sameBooks ctx key).books_eq

variable {k : Command} {r : Reservation} {kind : PostingKind} {instrument : String}
  {intended : Delta}

theorem holding_of_find (find : db.commands.find c = some k) (reservation : k.reservation =
    some r) :
    db.books.holding c = some (k.accountKey, r) := by
  simp [books, find, reservation]

theorem holding_of_none (find : db.commands.find c = none) : db.books.holding c = none := by
  simp [books, find]

/-- A command written over with its account and reservation kept. -/
theorem books_putCommand {k' : Command} (find : db.commands.find c = some k)
    (account : k'.accountKey = k.accountKey) (reservation : k'.reservation = k.reservation) :
    (db.putCommand c k').books = db.books := by
  simp only [books, putCommand, Books.mk.injEq, and_true]
  funext i
  by_cases same : i = c
  · subst same
    simp [find, account, reservation]
  · simp [Table.find_put_of_ne _ same]

/-- A new command without a reservation. -/
theorem books_putCommand_of_none (absent : db.commands.find c = none)
    (reservation : k.reservation = none) : (db.putCommand c k).books = db.books := by
  simp only [books, putCommand, Books.mk.injEq, and_true]
  funext i
  by_cases same : i = c
  · subst same
    simp [absent, reservation]
  · simp [Table.find_put_of_ne _ same]

theorem books_settle {old new : Accounting} (reservation : k.reservation = some r)
    (instrument_eq : r.instrument = instrument) :
    (db.settle c k kind instrument intended old new).books =
      db.books.post c k.accountKey r kind intended old new := by
  subst instrument_eq
  simp only [books, settle, Books.post, Books.mk.injEq, and_true]
  funext i
  by_cases same : i = c
  · subst same
    simp [reservation]
  · simp [Table.find_put_of_ne _ same, Function.update_of_ne same]

theorem books_settle_setReservation {old new : Accounting}
    (instrument_eq : r.instrument = instrument) :
    (db.settle c (k.setReservation r) kind instrument intended old new).books =
      db.books.post c k.accountKey r kind intended old new := books_settle rfl instrument_eq

theorem releaseOrphan_bookings (now : Instant) (key : AccountKey) :
    Books.Bookings loose db.books (releaseOrphan cat now key db c).books := by
  unfold releaseOrphan
  split
  case h_2 => exact .refl
  rename_i k row find found
  split
  case h_2 => exact .refl
  rename_i r reservation
  split
  case isFalse => exact .refl
  rename_i live
  split
  case h_2 => exact .refl
  rename_i cause orphan
  obtain ⟨rfl, unreleased⟩ := live
  refine .single ?_
  rw [books_settle_setReservation]
  · exact .released (holding_of_find find reservation) found (.inr ⟨rfl, .inl unreleased⟩)
  · rfl

theorem releaseOrphanedPaperReservations_bookings (now : Instant) (key : AccountKey) :
    Books.Bookings loose db.books (db.releaseOrphanedPaperReservations cat now key).books := by
  unfold releaseOrphanedPaperReservations
  generalize db.rollOrder = order
  induction order generalizing db with
  | nil => exact .refl
  | cons c order ih => exact (releaseOrphan_bookings now key).trans ih

theorem stampDay_bookings (key : AccountKey) (settings : RiskSettings) (today : Day) :
    Books.Bookings loose db.books (db.stampDay key settings today).books := by
  cases found : db.accounting key with
  | none =>
    have same : (db.stampDay key settings today).accounting = db.accounting := by
      simp [stampDay, found]
    rw [show (db.stampDay key settings today).books = db.books from books_eq rfl same rfl]
  | some row =>
    have written : (db.stampDay key settings today).books = db.books.setRow key { row with
        actualTradeCount := 0
        maxTradeSlots := settings.maxTradesPerDay
        tradeSlotBusinessDate := some today
        version := row.version + 1 } := by
      simp [books, stampDay, Books.setRow, found]
    rw [written]
    exact .single (.stamped found fun col => by cases col <;> rfl)

/-- The ledger lock opens a row, or rolls its day. -/
theorem ensureAccounting_bookings (key : AccountKey) (user : UserId) (unit : String) (roll : Bool) :
    Books.Bookings loose db.books (db.ensureAccounting cat ctx key user unit roll).books := by
  unfold ensureAccounting rollDailyTradeSlots
  split
  · split
    · dsimp only
      split
      · exact .refl
      · exact (releaseOrphanedPaperReservations_bookings ctx.now key).trans
          (stampDay_bookings key _ _)
    · exact .refl
  · rename_i absent
    exact .single (.opened absent fun col => by cases col <;> rfl)

/-- A lock that finds nothing to roll leaves the commands alone and posts nothing. -/
theorem ensureAccounting_calm {key : AccountKey} {user : UserId} {unit : String} {roll : Bool}
    (calm : roll = true → ∀ row, db.accounting key = some row →
      row.tradeSlotBusinessDate = some ((ctx.riskSettings key.1 user).tradingDay ctx.now)) :
    (db.ensureAccounting cat ctx key user unit roll).commands = db.commands ∧
      (db.ensureAccounting cat ctx key user unit roll).journal = db.journal := by
  unfold ensureAccounting rollDailyTradeSlots
  split
  · rename_i row found
    split
    · rename_i rolls
      dsimp only
      rw [if_pos (calm rolls row found)]
      exact ⟨rfl, rfl⟩
    · exact ⟨rfl, rfl⟩
  · exact ⟨rfl, rfl⟩

end Db

def Command.Planned (cat : Catalog) (k : Command) : Prop :=
  ∃ plan, cat.plans k.revisionId = some plan ∧ (plan.organizationId, plan.accountId) = k.accountKey

variable {cat : Catalog}

theorem Command.SameTerms.planned {k k' : Command} (h : SameTerms k k') (planned : k.Planned cat) :
    k'.Planned cat := by
  obtain ⟨plan, found, account⟩ := planned
  exact ⟨plan, by rw [h.revisionId, found], by rw [account, h.accountKey]⟩

theorem Command.Created.planned {c : CommandId} {k : Command} (h : Created cat c k) :
    k.Planned cat := by
  cases h with
  | @blocked p receipt reason intent valid _ =>
    refine ⟨p.plan, valid.plan_eq, ?_⟩
    rw [valid.organization_eq]
    rfl
  | @allowed p env epoch intent valid _ account _ =>
    refine ⟨p.plan, valid.plan_eq, ?_⟩
    rw [valid.organization_eq, account]
    rfl

def Releasing.onDay (x : Releasing) : Bool :=
  match x.reservation, x.row with
  | some r, some row =>
    r.remainingReservedNotional ≤ 0 ||
      row.tradeSlotBusinessDate = some ((x.ctx.riskSettings x.account.1 x.user).tradingDay
        x.ctx.now)
  | _, _ => true

/-- On accounts that are not loose, a release that the gate lets pass takes off what the
reservation holds, and its lock rolls nothing. -/
def Gate.Exact (gate : Gate) (cat : Catalog) (loose : AccountKey → Prop) : Prop :=
  ∀ (db : Db) (ctx : Ctx) (c : CommandId) (k : Command) (r : Reservation) (unused : ℚ),
    k.Planned cat → gate.release (db.releasing ctx k) → k.reservation = some r →
    unusedRemainder cat ctx c k r = .ok unused →
    loose k.accountKey ∨ unused = r.remainingReservedNotional ∧
      (paperDailyTradeRoll (cat.venue k) = true → (db.releasing ctx k).onDay = true)

namespace Db

variable {gate : Gate} {cat : Catalog} {ctx : Ctx} {db db' : Db} {c : CommandId}
  {loose : AccountKey → Prop}

def AllPlanned (cat : Catalog) (db : Db) : Prop :=
  ∀ c k, db.commands.find c = some k → k.Planned cat

theorem AllPlanned.of_moved (h : db.AllPlanned cat) (moved : CommandsMoved gate cat db db') :
    db'.AllPlanned cat :=
  moved.all (fun _ _ => Command.Created.planned) (fun _ _ planned move =>
    move.sameTerms.planned planned) h

variable {k : Command} {p : PendingClaim} {intent : ReservationIntent}

/-- On its day a release locks the row and rolls nothing. -/
theorem ensureAccounting_onDay {r : Reservation} {roll : Bool}
    (reservation : k.reservation = some r) (held : 0 < r.remainingReservedNotional)
    (calm : roll = true → (db.releasing ctx k).onDay = true) (unit : String) :
    ((db.lockEpoch ctx k.accountKey).1.ensureAccounting cat ctx k.accountKey k.userId unit
        roll).commands = db.commands ∧
      ((db.lockEpoch ctx k.accountKey).1.ensureAccounting cat ctx k.accountKey k.userId unit
        roll).journal = db.journal := by
  have today : roll = true → ∀ row, (db.lockEpoch ctx k.accountKey).1.accounting k.accountKey =
      some row → row.tradeSlotBusinessDate =
        some ((ctx.riskSettings k.accountKey.1 k.userId).tradingDay ctx.now) := by
    intro rolls row found
    have onDay := calm rolls
    simp only [lockEpoch_accounting] at found
    simpa [Releasing.onDay, releasing, reservation, found, not_le.mpr held] using onDay
  obtain ⟨commands, journal⟩ := ensureAccounting_calm today
  exact ⟨commands.trans (lockEpoch_commands ..), journal.trans (lockEpoch_journal ..)⟩

theorem ReleaseOutcome.bookings {reason : ReleaseReason} (exact_ : gate.Exact cat loose)
    (planned : k.Planned cat) (find : db.commands.find c = some k)
    (allowed : gate.release (db.releasing ctx k)) (h : ReleaseOutcome cat ctx db c reason db') :
    Books.Bookings loose db.books db'.books := by
  cases h with
  | nothing _ _ =>
    rw [books_lockEpoch]
  | @released k₀ k' r r' unused row locked find₀ reservation held unused_eq lock row_eq find' rolled
      reservation' =>
    obtain rfl : k = k₀ := Option.some.inj (find.symm.trans find₀)
    have locks : Books.Bookings loose db.books locked.books := by
      rw [lock, ← books_lockEpoch db ctx k.accountKey]
      exact ensureAccounting_bookings _ _ _ _
    refine locks.tail ?_
    rw [books_settle_setReservation]
    · refine .released (holding_of_find find' reservation') ?_ ?_
      · rw [rolled.sameTerms.accountKey]
        exact row_eq
      rw [rolled.sameTerms.accountKey]
      refine (exact_ db ctx c k r unused planned allowed reservation unused_eq).imp_right ?_
      rintro ⟨rfl, calm⟩
      have same : locked.commands = db.commands :=
        lock ▸ (ensureAccounting_onDay reservation held calm _).1
      obtain rfl : k' = k := by
        rw [same, find] at find'
        exact (Option.some.inj find').symm
      obtain rfl : r' = r := Option.some.inj (reservation'.symm.trans reservation)
      exact ⟨rfl, .inr held⟩
    · rfl

theorem FillOutcome.bookings {request : FillRequest} (h : FillOutcome cat ctx db c request db') :
    Books.Bookings loose db.books db'.books := by
  cases h with
  | replayed _ _ _ _ => rw [books_lockEpoch]
  | @accepted k k' r r' identity time fact row notional weighted locked checked find reservation
      fact_eq fresh covered lock row_eq find' rolled reservation' notional_eq weighted_eq =>
    have stored : ((db.lockEpoch ctx k.accountKey).1.putCommand c (k.addFill fact)).books =
        db.books :=
      (books_putCommand (by simpa using find) (Command.accountKey_addFill k fact)
        (Command.addFill_reservation k fact)).trans (books_lockEpoch db ctx k.accountKey)
    have locks : Books.Bookings loose db.books locked.books := by
      rw [lock, ← stored]
      exact ensureAccounting_bookings _ _ _ _
    refine locks.tail ?_
    rw [books_settle_setReservation]
    · have held := holding_of_find find' reservation'
      refine .converted held ?_ (fillQuoteExposure_pos notional_eq)
      rw [← rolled.sameTerms.accountKey] at row_eq
      exact row_eq
    · rfl

theorem ClaimLocked.bookings {locked : Db} {epoch : SafetyEpoch} {row : Accounting}
    (h : ClaimLocked cat ctx db p locked epoch row intent) :
    Books.Bookings loose db.books locked.books := by
  rw [h.lock, ← books_lockEpoch db ctx p.request.accountKey]
  exact ensureAccounting_bookings _ _ _ _

theorem consumeAuthorization_books {q : ClaimRequest}
    (h : db.consumeAuthorization q c = .ok db') : db'.books = db.books := by
  obtain ⟨_, -, -, rfl⟩ := consumeAuthorization_cases h
  rfl

theorem opens_newReservation {plan : Plan} (epoch : Nat) (env : ClaimEnv)
    (h : conservativeReservation plan = .ok intent) :
    intent.Opens (PendingClaim.newReservation intent epoch env) := by
  unfold conservativeReservation at h
  dsimp only at h
  split at h
  · cases h
  · rename_i exposure exposure_eq
    obtain rfl := Except.ok.inj h
    have exposure_pos := linearQuoteExposure_pos exposure_eq
    refine ⟨?_, plan.maximumLoss.pos, rfl, rfl, rfl, rfl, rfl, rfl, rfl, rfl⟩
    have fee := plan.feeAllowance.nonneg
    have slippage := plan.slippageAllowance.nonneg
    dsimp only
    linarith

theorem ClaimOutcome.bookings {result : ClaimResult} (h : ClaimOutcome cat ctx db p db' result) :
    Books.Bookings loose db.books db'.books := by
  cases h with
  | replayed _ _ _ => exact .refl
  | @blocked locked epoch row intent i receipt reason decision fresh =>
    have filed : (locked.putCommand i (p.blockedCommand receipt reason intent)).books =
        locked.books := books_putCommand_of_none fresh.command rfl
    have same : Books.Bookings loose db.books locked.books := decision.bookings
    rw [← filed] at same
    exact same
  | @allowed locked consumed epoch row intent env authorization decision _ _ fresh _ consume =>
    have books := consumeAuthorization_books consume
    refine decision.bookings.tail ?_
    have posted : (consumed.settle env.commandId (p.allowedCommand cat env epoch.epoch intent)
        .charge intent.instrument (chargeDelta intent) row (chargeReservation row intent)).books =
        locked.books.post env.commandId p.request.accountKey
          (PendingClaim.newReservation intent epoch.epoch env) .charge (chargeDelta intent) row
          (chargeReservation row intent) := by
      rw [← books]
      exact books_settle rfl rfl
    change Books.Booking loose locked.books (consumed.settle _ _ _ _ _ _ _).books
    rw [posted]
    exact .charged (holding_of_none fresh.command) decision.row_eq
      (opens_newReservation epoch.epoch env decision.intent_eq)

theorem Write.bookings (planned : db.AllPlanned cat) (exact_ : gate.Exact cat loose)
    (h : Write gate cat db db') : Books.Bookings loose db.books db'.books := by
  cases h with
  | outside h _ => rw [h.books_eq]
  | mark find h => rw [books_putCommand find h.sameTerms.accountKey h.reservation_eq]
  | release find _ allowed h =>
    exact (releaseUnusedReservation_outcome h).bookings exact_ (planned _ _ find) find allowed
  | fill h => exact (applyUniqueFill_outcome h).bookings
  | claim _ _ h => exact (finishClaim_outcome h).bookings

end Db

/-- The books of a reached database are booked from empty ones. -/
theorem reached_bookings {gate : Gate} {loose : AccountKey → Prop} {ls : List Label}
    (exact_ : gate.Exact cat loose)
    (side : Along (World.step cat) (World.Respects gate) World.init ls) :
    Books.Bookings loose Db.empty.books (reached cat ls).db.books := by
  have both : (reached cat ls).db.AllPlanned cat ∧
      Books.Bookings loose Db.empty.books (reached cat ls).db.books := by
    refine reached_db_invariant (I := fun db => db.AllPlanned cat ∧
      Books.Bookings loose Db.empty.books db.books) ⟨fun c k find => ?_, .refl⟩ ?_ side
    · cases find
    · intro db db' inv write
      exact ⟨inv.1.of_moved write.commandsMoved, inv.2.trans (write.bookings inv.1 exact_)⟩
  exact both.2

/-! ## Columns are sums of postings -/

/-- What a reservation never loses: it holds nothing negative, it has converted none or all of
its slot, and once released it holds no notional. -/
structure Reservation.Sound (r : Reservation) : Prop where
  remaining : 0 ≤ r.remainingReservedNotional
  loss : 0 < r.dailyLossAllocation
  slots : r.dailyTradeAllocation = 1
  converted : r.convertedTradeSlots = 0 ∨ r.convertedTradeSlots = 1
  released : r.releaseState = .released → r.remainingReservedNotional = 0

/-- What still holds notional has not been released. -/
theorem Reservation.Sound.live (h : r.Sound) (held : 0 < r.remainingReservedNotional) :
    r.releaseState ≠ .released := by
  intro released
  exact held.ne' (h.released released)

theorem ReservationIntent.Opens.sound (h : intent.Opens r) : r.Sound := by
  refine ⟨?_, ?_, ?_, .inl h.unconverted, ?_⟩
  · rw [h.remaining]
    exact h.pending_pos.le
  · rw [h.loss]
    exact h.loss_pos
  · rw [h.slots, h.one_slot]
  · intro released
    simp [h.charged] at released

theorem Reservation.Sound.convert (h : r.Sound) (pos : 0 < notional) :
    (r.convert notional).Sound := by
  have covered : min notional r.remainingReservedNotional ≤ r.remainingReservedNotional :=
    min_le_right _ _
  refine ⟨sub_nonneg.mpr covered, h.loss, h.slots, ?_, ?_⟩
  · right
    simp only [Reservation.convert, h.slots]
    obtain zero | one := h.converted <;> simp [*]
  · intro released
    have before : r.releaseState = .released := by
      by_contra live
      simp [Reservation.convert, live] at released
    simp [Reservation.convert, h.released before, pos.le]

theorem Reservation.Sound.release (h : r.Sound) (reason : ReleaseReason) :
    (r.release reason).Sound :=
  ⟨le_rfl, h.loss, h.slots, h.converted, fun _ => rfl⟩

def Accounting.Nonneg (row : Accounting) : Prop := ∀ col, 0 ≤ row.amount col

theorem Accounting.Nonneg.charge (h : row.Nonneg) (opens : intent.Opens r) :
    (chargeReservation row intent).Nonneg := by
  intro col
  have before := h col
  have pending := opens.pending_pos
  have loss := opens.loss_pos
  have slot := opens.one_slot
  cases col with
  | notional =>
    simp only [amount, chargeReservation] at before ⊢
    linarith
  | symbol i =>
    by_cases same : i = intent.instrument
    · subst same
      simp only [amount, chargeReservation, Function.update_self] at before ⊢
      linarith
    · simpa [amount, chargeReservation, Function.update_of_ne same] using before
  | loss =>
    simp only [amount, chargeReservation] at before ⊢
    linarith
  | slots =>
    simp only [amount, chargeReservation, slot, Int.cast_nonneg_iff] at before ⊢
    omega
  | actual => exact before
  | symbolActual i => exact before

theorem adjustSymbolMap_nonneg {mapping : String → ℚ} (h : ∀ i, 0 ≤ mapping i)
    (instrument : String) (delta : ℚ) (i : String) :
    0 ≤ adjustSymbolMap mapping instrument delta i := by
  unfold adjustSymbolMap
  by_cases same : i = instrument
  · subst same
    simp [clampZero_nonneg]
  · simpa [Function.update_of_ne same] using h i

theorem Accounting.Nonneg.convert (h : row.Nonneg) (r : Reservation) (pos : 0 < notional) :
    (row.convertFor r notional).Nonneg := by
  intro col
  have before := h col
  cases col with
  | notional => exact clampZero_nonneg _
  | symbol i => exact adjustSymbolMap_nonneg (fun i => h (.symbol i)) _ _ i
  | loss => exact before
  | slots =>
    simp only [amount, convertFor, Int.cast_nonneg_iff] at before ⊢
    split
    · exact clampZero_nonneg _
    · exact before
  | actual =>
    simp only [amount, convertFor] at before ⊢
    linarith
  | symbolActual i => exact adjustSymbolMap_nonneg (fun i => h (.symbolActual i)) _ _ i

theorem Accounting.Nonneg.lower (h : row.Nonneg) (r : Reservation) (unused : ℚ) (version : Nat) :
    Nonneg { row.lowerFor r unused with version := version } := by
  intro col
  have before := h col
  cases col with
  | notional => exact clampZero_nonneg _
  | symbol i => exact adjustSymbolMap_nonneg (fun i => h (.symbol i)) _ _ i
  | loss =>
    simp only [amount, lowerFor] at before ⊢
    split
    · exact clampZero_nonneg _
    · exact before
  | slots =>
    simp only [amount, lowerFor, Int.cast_nonneg_iff]
    exact clampZero_nonneg _
  | actual => exact before
  | symbolActual i => exact before

namespace Books

variable {loose : AccountKey → Prop} {b b' : Books} {c : CommandId} {key : AccountKey}

/-- What holds of all books: each column is the sum of its postings, each posting belongs to a
reservation of its account, and nothing is negative. -/
structure Sound (b : Books) : Prop where
  totals : ∀ key row, b.accounting key = some row →
    ∀ col, row.amount col = ((b.page key).map (·.posted col)).sum
  rows : ∀ c key r, b.holding c = some (key, r) → ∃ row, b.accounting key = some row
  postings : ∀ p ∈ b.journal, ∃ r, b.holding p.command = some (p.account, r) ∧
    r.instrument = p.instrument
  reservations : ∀ c key r, b.holding c = some (key, r) → r.Sound
  nonneg : ∀ key row, b.accounting key = some row → row.Nonneg

theorem sound_empty : Db.empty.books.Sound := by
  constructor <;> simp [Db.books, Db.empty]

variable {r : Reservation} {kind : PostingKind} {intended : Delta}

theorem page_post_self {old new : Accounting} : (b.post c key r kind intended old new).page key =
      b.page key ++ [⟨key, c, kind, r.instrument, intended, .between r.instrument old new⟩] := by
  simp [page, post]

theorem page_post_of_ne {key' : AccountKey} {old new : Accounting} (h : key' ≠ key) :
    (b.post c key r kind intended old new).page key' = b.page key' := by
  simp [page, post, Ne.symm h]

theorem Sound.post (h : b.Sound) {row new : Accounting} (found : b.accounting key = some row)
    (keeps : ∀ key' r', b.holding c = some (key', r') → key' = key ∧ r'.instrument = r.instrument)
    (sound : r.Sound) (moves : row.Moves r.instrument new) (nonneg : new.Nonneg) :
    (b.post c key r kind intended row new).Sound where
  totals key' row' found' := by
    intro col
    by_cases same : key' = key
    · subst same
      obtain rfl : new = row' := by simpa [Books.post] using found'
      rw [page_post_self, List.map_append, List.sum_append, ← h.totals key' row found col,
        moves.amount_eq]
      simp [Posting.posted]
    · rw [page_post_of_ne same]
      exact h.totals key' row' (by simpa [Books.post, Function.update_of_ne same] using found') col
  rows i key' r' held := by
    by_cases same : key' = key
    · subst same
      exact ⟨new, by simp [Books.post]⟩
    · have other : i ≠ c := by
        rintro rfl
        simp_all [Books.post]
      obtain ⟨row', found'⟩ := h.rows i key' r'
        (by simpa [Books.post, Function.update_of_ne other] using held)
      exact ⟨row', by simpa [Books.post, Function.update_of_ne same] using found'⟩
  postings p mem := by
    obtain mem | rfl := by simpa [Books.post] using mem
    · obtain ⟨r', held, instrument⟩ := h.postings p mem
      by_cases same : p.command = c
      · rw [same] at held ⊢
        obtain ⟨account, symbol⟩ := keeps _ _ held
        exact ⟨r, by simp [Books.post, account], by rw [← symbol, instrument]⟩
      · exact ⟨r', by simpa [Books.post, Function.update_of_ne same] using held, instrument⟩
    · exact ⟨r, by simp [Books.post], rfl⟩
  reservations i key' r' held := by
    by_cases same : i = c
    · subst same
      obtain ⟨rfl, rfl⟩ : key = key' ∧ r = r' := by simpa [Books.post] using held
      exact sound
    · exact h.reservations i key' r'
        (by simpa [Books.post, Function.update_of_ne same] using held)
  nonneg key' row' found' := by
    by_cases same : key' = key
    · subst same
      obtain rfl : new = row' := by simpa [Books.post] using found'
      exact nonneg
    · exact h.nonneg key' row' (by simpa [Books.post, Function.update_of_ne same] using found')

theorem Sound.setRow (h : b.Sound) {row : Accounting} (nonneg : row.Nonneg)
    (total : ∀ col, row.amount col = ((b.page key).map (·.posted col)).sum) :
    (b.setRow key row).Sound where
  totals key' row' found' := by
    by_cases same : key' = key
    · subst same
      obtain rfl : row = row' := by simpa [Books.setRow] using found'
      exact total
    · exact h.totals key' row' (by simpa [Books.setRow, Function.update_of_ne same] using found')
  rows i key' r' held := by
    by_cases same : key' = key
    · subst same
      exact ⟨row, by simp [Books.setRow]⟩
    · obtain ⟨row', found'⟩ := h.rows i key' r' held
      exact ⟨row', by simpa [Books.setRow, Function.update_of_ne same] using found'⟩
  postings := h.postings
  reservations := h.reservations
  nonneg key' row' found' := by
    by_cases same : key' = key
    · subst same
      obtain rfl : row = row' := by simpa [Books.setRow] using found'
      exact nonneg
    · exact h.nonneg key' row' (by simpa [Books.setRow, Function.update_of_ne same] using found')

/-- An account without a row has no postings. -/
theorem Sound.page_eq_nil (h : b.Sound) (absent : b.accounting key = none) : b.page key = [] := by
  apply List.filter_eq_nil_iff.mpr
  intro p mem account
  obtain ⟨r, held, -⟩ := h.postings p mem
  obtain ⟨row, found⟩ := h.rows _ _ _ held
  rw [decide_eq_true_eq.mp account, absent] at found
  cases found

theorem Sound.of_booking (h : b.Sound) (booking : Booking loose b b') : b'.Sound := by
  cases booking with
  | opened absent blank =>
    refine h.setRow (fun col => (blank col).ge) fun col => ?_
    simp [blank, h.page_eq_nil absent]
  | stamped found same =>
    refine h.setRow (fun col => ?_) fun col => ?_
    · rw [same]
      exact h.nonneg _ _ found col
    · rw [same]
      exact h.totals _ _ found col
  | @charged c key row r intent fresh found opens =>
    refine h.post found (fun _ _ held => ?_) opens.sound ?_ ((h.nonneg _ _ found).charge opens)
    · rw [fresh] at held
      cases held
    · rw [opens.instrument]
      exact chargeReservation_moves row intent
  | @converted c key row r notional held found pos =>
    refine h.post found (fun _ _ held' => ?_) ((h.reservations _ _ _ held).convert pos)
      (convertFor_moves row r notional) ((h.nonneg _ _ found).convert r pos)
    obtain ⟨rfl, rfl⟩ := Prod.mk.inj (Option.some.inj (held'.symm.trans held))
    exact ⟨rfl, rfl⟩
  | @released c key row r unused reason unfilled version held found _ =>
    refine h.post found (fun _ _ held' => ?_) ((h.reservations _ _ _ held).release reason)
      (lowerFor_moves row r unused version) ((h.nonneg _ _ found).lower r unused version)
    obtain ⟨rfl, rfl⟩ := Prod.mk.inj (Option.some.inj (held'.symm.trans held))
    exact ⟨rfl, rfl⟩

/-- An invariant of bookings holds of all that is booked from books that have it. -/
theorem Bookings.invariant {I : Books → Prop} (keep : ∀ b b', I b → Booking loose b b' → I b')
    (h : Bookings loose b b') (init : I b) : I b' := by
  induction h with
  | refl => exact init
  | tail _ booking ih => exact keep _ _ ih booking

end Books

theorem reached_sound (cat : Catalog) (ls : List Label) : (reached cat ls).db.books.Sound := by
  have loose : Gate.any.Exact cat fun _ => True := fun _ _ _ _ _ _ _ _ _ _ => .inl trivial
  have booked := reached_bookings loose (along_respects_any cat World.init ls)
  exact booked.invariant (fun _ _ h => h.of_booking) Books.sound_empty

end AlphaTrade.Execution
