import Mathlib
import AlphaTrade.Execution.Books

/-!
# Conservation

On an account where every release takes off exactly what the reservation still holds, the
part of each column that is posted for a command is what its reservation says it holds.
The columns are then the sums over the account's reservations, and no clamp changes a value.

The one way to break this is a release whose own ledger lock rolls the day: the roll
releases the reservation, and the release then takes the same remainder off once more.
-/
namespace AlphaTrade.Execution
open Library

/-! ## Parts -/

namespace Reservation

variable {r : Reservation} {part : Column → ℚ}

/-- The parts of the columns posted for a reservation are what it holds. The loss budget goes
back with a release, if it goes back. -/
structure Accounts (r : Reservation) (part : Column → ℚ) : Prop where
  notional : part .notional = r.remainingReservedNotional
  symbol : ∀ i, part (.symbol i) = if i = r.instrument then r.remainingReservedNotional else 0
  slots : part .slots =
    if r.releaseState = .released then 0
    else ((r.dailyTradeAllocation - r.convertedTradeSlots : ℤ) : ℚ)
  loss : part .loss = r.dailyLossAllocation ∨ part .loss = 0 ∧ r.releaseState = .released

theorem Accounts.nonneg (h : r.Accounts part) (sound : r.Sound) {col : Column}
    (reserved : col.reserved = true) : 0 ≤ part col := by
  cases col with
  | notional =>
    rw [h.notional]
    exact sound.remaining
  | symbol i =>
    rw [h.symbol]
    split
    · exact sound.remaining
    · exact le_rfl
  | loss =>
    obtain held | ⟨returned, -⟩ := h.loss
    · rw [held]
      exact sound.loss.le
    · exact returned.ge
  | slots =>
    rw [h.slots]
    split
    · exact le_rfl
    · rw [Int.cast_nonneg_iff, sound.slots]
      obtain zero | one := sound.converted <;> omega
  | actual => cases reserved
  | symbolActual i => cases reserved

theorem accounts_charge {intent : ReservationIntent} (opens : intent.Opens r) :
    r.Accounts fun col => (chargeDelta intent).amount r.instrument col where
  notional := by simp [Delta.amount, chargeDelta, opens.remaining]
  symbol i := by simp [Delta.amount, chargeDelta, opens.remaining]
  slots := by simp [Delta.amount, chargeDelta, opens.charged, opens.slots, opens.unconverted]
  loss := .inl (by simp [Delta.amount, chargeDelta, opens.loss])

theorem Accounts.convert (h : r.Accounts part) (sound : r.Sound) (notional : ℚ) :
    (r.convert notional).Accounts fun col =>
      part col + (convertDelta r notional).amount r.instrument col where
  notional := by
    simp only [h.notional, Delta.amount, convertDelta, Reservation.convert]
    ring
  symbol i := by
    simp only [h.symbol, Delta.amount, convertDelta, Reservation.convert]
    by_cases own : i = r.instrument
    · simp only [own, if_true]
      ring
    · simp [own]
  slots := by
    simp only [h.slots, Delta.amount, convertDelta, Reservation.convert, sound.slots]
    by_cases released : r.releaseState = .released
    · simp [released]
    · obtain zero | one := sound.converted <;> simp [*]
  loss := by
    have kept : (r.convert notional).releaseState = .released ↔ r.releaseState = .released := by
      by_cases released : r.releaseState = .released <;> simp [Reservation.convert, released]
    rw [kept]
    simpa [Delta.amount, convertDelta, Reservation.convert] using h.loss

/-- A release that takes off all that is held, of a reservation not released before. -/
theorem Accounts.release (h : r.Accounts part) (sound : r.Sound)
    (live : r.releaseState ≠ .released) (reason : ReleaseReason) :
    (r.release reason).Accounts fun col =>
      part col + (releaseDelta r r.remainingReservedNotional).amount r.instrument col where
  notional := by simp [h.notional, Delta.amount, releaseDelta, Reservation.release]
  symbol i := by
    simp only [h.symbol, Delta.amount, releaseDelta, Reservation.release]
    by_cases own : i = r.instrument <;> simp [own]
  slots := by
    simp only [h.slots, Delta.amount, releaseDelta, Reservation.release, live, if_false, if_true,
      Reservation.unconvertedSlots, sound.slots]
    obtain zero | one := sound.converted <;> simp [*]
  loss := by
    have held := h.loss.resolve_right fun returned => live returned.2
    by_cases unconverted : r.convertedTradeSlots = 0
    · right
      simp [held, Delta.amount, releaseDelta, unconverted, Reservation.release]
    · left
      simp [held, Delta.amount, releaseDelta, unconverted, Reservation.release]

end Reservation

/-! ## Clamps that do nothing -/

section clamps
variable {row : Accounting} {r : Reservation}

theorem between_charge (row : Accounting) (intent : ReservationIntent) :
    Delta.between intent.instrument row (chargeReservation row intent) = chargeDelta intent := by
  simp [Delta.between, chargeReservation, chargeDelta]

theorem between_convert {notional : ℚ} (pos : 0 < notional)
    (notional_le : min notional r.remainingReservedNotional ≤ row.reservedNotional)
    (symbol_le : min notional r.remainingReservedNotional ≤ row.symbolReserved r.instrument)
    (slots_le : r.releaseState ≠ .released →
      r.dailyTradeAllocation - r.convertedTradeSlots ≤ row.reservedTradeSlots)
    (actual : 0 ≤ row.symbolActual r.instrument) :
    Delta.between r.instrument row (row.convertFor r notional) = convertDelta r notional := by
  have h₁ := clampZero_of_nonneg (sub_nonneg.mpr notional_le)
  have h₂ := clampZero_of_nonneg (sub_nonneg.mpr symbol_le)
  have h₃ : clampZero (row.symbolActual r.instrument + notional) =
      row.symbolActual r.instrument + notional := clampZero_of_nonneg (by linarith)
  simp only [Delta.between, Accounting.convertFor, convertDelta, adjustSymbolMap,
    Function.update_self, ← sub_eq_add_neg, h₁, h₂, h₃, Delta.mk.injEq]
  refine ⟨by ring, by ring, by ring, ?_, by ring, by ring⟩
  split
  · rename_i live
    rw [clampZero_of_nonneg (sub_nonneg.mpr (slots_le live.2))]
    ring
  · ring

theorem between_lower {unused : ℚ} {version : Nat} (notional_le : unused ≤ row.reservedNotional)
    (symbol_le : unused ≤ row.symbolReserved r.instrument)
    (loss_le : r.convertedTradeSlots = 0 → r.dailyLossAllocation ≤ row.reservedDailyLoss)
    (slots_le : r.unconvertedSlots ≤ row.reservedTradeSlots) :
    Delta.between r.instrument row { row.lowerFor r unused with version := version } =
      releaseDelta r unused := by
  have h₁ := clampZero_of_nonneg (sub_nonneg.mpr notional_le)
  have h₂ := clampZero_of_nonneg (sub_nonneg.mpr symbol_le)
  have h₃ := clampZero_of_nonneg (sub_nonneg.mpr slots_le)
  simp only [Delta.between, Accounting.lowerFor, releaseDelta, adjustSymbolMap,
    Function.update_self, ← sub_eq_add_neg, h₁, h₂, h₃, Delta.mk.injEq]
  refine ⟨by ring, by ring, ?_, by ring, by ring, by ring⟩
  split
  · rename_i unconverted
    rw [clampZero_of_nonneg (sub_nonneg.mpr (loss_le unconverted))]
    ring
  · ring

end clamps

namespace Books

variable {b b' : Books} {c : CommandId} {key : AccountKey}

/-! ## Books that keep their parts -/

/-- On one account, no clamp has changed a value, and the parts are what the reservations
hold. -/
structure Kept (key : AccountKey) (b : Books) : Prop where
  unclamped : ∀ p ∈ b.page key, p.applied = p.intended
  accounts : ∀ c r, b.holding c = some (key, r) → r.Accounts fun col => b.part key col c

theorem kept_empty : Db.empty.books.Kept key := by
  constructor
  · intro p mem
    simp [page, Db.books, Db.empty] at mem
  · intro c r held
    simp [Db.books, Db.empty] at held

/-- Nothing is posted for a command that holds nothing. -/
theorem Sound.part_eq_zero (h : b.Sound) (none_ : ∀ r, b.holding c ≠ some (key, r)) (col : Column) :
    b.part key col c = 0 := by
  apply balance_eq_zero
  intro p mem same
  obtain ⟨mem, account⟩ := List.mem_filter.mp mem
  obtain ⟨r, held, -⟩ := h.postings p mem
  rw [same, decide_eq_true_eq.mp account] at held
  exact none_ r held

variable {row : Accounting} {r : Reservation} {kind : PostingKind} {intended : Delta}
  {key' : AccountKey}

/-- A column is the sum of its parts, over any list of distinct commands that covers the
page. -/
theorem Sound.amount_eq_sum (h : b.Sound) (found : b.accounting key = some row)
    {cs : List CommandId} (nodup : cs.Nodup) (covers : ∀ p ∈ b.page key, p.command ∈ cs)
    (col : Column) : row.amount col = (cs.map (b.part key col)).sum := by
  rw [h.totals key row found col]
  exact sum_eq_sum_balance _ _ nodup covers

/-- The row covers every part: the parts of the other commands are not negative. -/
theorem Kept.part_le (h : b.Kept key) (sound : b.Sound) (found : b.accounting key = some row)
    {col : Column} (reserved : col.reserved = true) (c : CommandId) :
    b.part key col c ≤ row.amount col := by
  have nonneg : ∀ i, 0 ≤ b.part key col i := by
    intro i
    cases held : b.holding i with
    | none => exact (sound.part_eq_zero (by simp [held]) col).ge
    | some x =>
      obtain ⟨key', r⟩ := x
      by_cases same : key' = key
      · subst same
        exact (h.accounts i r held).nonneg (sound.reservations i key' r held) reserved
      · exact (sound.part_eq_zero (by simp [held, same]) col).ge
  -- The commands posted on the page, and the command itself.
  let cs := (c :: (b.page key).map (·.command)).dedup
  have covers : ∀ p ∈ b.page key, p.command ∈ cs := by
    intro p mem
    exact List.mem_dedup.mpr (List.mem_cons_of_mem c (List.mem_map_of_mem mem))
  have total := sound.amount_eq_sum found (List.nodup_dedup _) covers col
  rw [total]
  apply List.single_le_sum
  · intro x mem
    obtain ⟨i, -, rfl⟩ := List.mem_map.mp mem
    exact nonneg i
  · exact List.mem_map_of_mem (List.mem_dedup.mpr List.mem_cons_self)

theorem part_post_self {old new : Accounting} (col : Column) :
    (b.post c key r kind intended old new).part key col c =
      b.part key col c + (Delta.between r.instrument old new).amount r.instrument col := by
  rw [part, page_post_self]
  exact balance_concat_self (·.command) (·.posted col) (b.page key) _

theorem part_post_of_ne {i : CommandId} {old new : Accounting} (other : i ≠ c) (col : Column) :
    (b.post c key r kind intended old new).part key col i = b.part key col i := by
  rw [part, page_post_self]
  refine balance_concat_of_ne (·.command) (·.posted col) (b.page key) ?_
  exact Ne.symm other

/-- A posting on another account changes nothing here. -/
theorem Kept.post_of_ne (h : b.Kept key) {old new : Accounting} (other : key' ≠ key)
    (keeps : ∀ key₀ r₀, b.holding c = some (key₀, r₀) → key₀ = key') :
    (b.post c key' r kind intended old new).Kept key := by
  have page : (b.post c key' r kind intended old new).page key = b.page key :=
    page_post_of_ne (Ne.symm other)
  constructor
  · rw [page]
    exact h.unclamped
  · intro i r' held
    have foreign : i ≠ c := by
      rintro rfl
      simp [Books.post, other] at held
    simp only [part, page]
    exact h.accounts i r' (by simpa [Books.post, Function.update_of_ne foreign] using held)

/-- A posting that does what it means, with a reservation that accounts for it. -/
theorem Kept.post (h : b.Kept key) {instrument : String} {old new : Accounting}
    (symbol : r.instrument = instrument) (plain : Delta.between instrument old new = intended)
    (accounts : r.Accounts fun col => b.part key col c + intended.amount instrument col) :
    (b.post c key r kind intended old new).Kept key := by
  subst symbol
  constructor
  · intro p mem
    rw [page_post_self] at mem
    obtain mem | rfl := by simpa using mem
    · exact h.unclamped p mem
    · exact plain
  · intro i r' held
    by_cases same : i = c
    · subst same
      obtain rfl : r = r' := by simpa [Books.post] using held
      simpa only [part_post_self, plain] using accounts
    · simp only [part_post_of_ne same]
      exact h.accounts i r' (by simpa [Books.post, Function.update_of_ne same] using held)

theorem Kept.setRow (h : b.Kept key) :
    (b.setRow key' row).Kept key := ⟨h.unclamped, h.accounts⟩

section own
variable {row : Accounting} {r : Reservation}

/-- What a command has posted covers what it may take off: the row covers the part, and the
part is what the reservation holds. -/
theorem Kept.covers (h : b.Kept key) (sound : b.Sound) (held : b.holding c = some (key, r))
    (found : b.accounting key = some row) :
    r.remainingReservedNotional ≤ row.reservedNotional ∧
    r.remainingReservedNotional ≤ row.symbolReserved r.instrument ∧
    (r.releaseState ≠ .released → r.dailyLossAllocation ≤ row.reservedDailyLoss) ∧
    (r.releaseState ≠ .released →
      r.dailyTradeAllocation - r.convertedTradeSlots ≤ row.reservedTradeSlots) := by
  have accounts := h.accounts c r held
  have covers : ∀ col : Column, col.reserved = true → b.part key col c ≤ row.amount col :=
    fun col reserved => h.part_le sound found reserved c
  refine ⟨?_, ?_, fun live => ?_, fun live => ?_⟩
  · have notional := covers .notional rfl
    rwa [accounts.notional] at notional
  · have symbol := covers (.symbol r.instrument) rfl
    rwa [accounts.symbol, if_pos rfl] at symbol
  · have loss := covers .loss rfl
    rwa [accounts.loss.resolve_right fun returned => live returned.2] at loss
  · have slots := covers .slots rfl
    rw [accounts.slots, if_neg live] at slots
    exact Int.cast_le.mp slots

theorem Kept.charge (h : b.Kept key) (sound : b.Sound) {intent : ReservationIntent}
    (fresh : b.holding c = none) (opens : intent.Opens r) :
    (b.post c key r .charge (chargeDelta intent) row (chargeReservation row intent)).Kept key := by
  have zero : ∀ col, b.part key col c = 0 := sound.part_eq_zero (by simp [fresh])
  have accounts := Reservation.accounts_charge opens
  rw [opens.instrument] at accounts
  refine h.post opens.instrument (between_charge row intent) ?_
  simpa only [zero, zero_add] using accounts

variable {notional : ℚ}

theorem Kept.between_convert (h : b.Kept key) (sound : b.Sound) (held : b.holding c = some (key, r))
    (found : b.accounting key = some row) (pos : 0 < notional) :
    Delta.between r.instrument row (row.convertFor r notional) = convertDelta r notional := by
  obtain ⟨notional_le, symbol_le, -, slots_le⟩ := h.covers sound held found
  have le_remaining := min_le_right notional r.remainingReservedNotional
  exact Execution.between_convert pos (le_remaining.trans notional_le)
    (le_remaining.trans symbol_le) slots_le
    (sound.nonneg key row found (.symbolActual r.instrument))

theorem Kept.convert (h : b.Kept key) (sound : b.Sound) (held : b.holding c = some (key, r))
    (found : b.accounting key = some row) (pos : 0 < notional) :
    (b.post c key (r.convert notional) .fill (convertDelta r notional) row
      (row.convertFor r notional)).Kept key := by
  have plain := h.between_convert sound held found pos
  exact h.post rfl plain
    ((h.accounts c r held).convert (sound.reservations c key r held) notional)

theorem Kept.between_release (h : b.Kept key) (sound : b.Sound) (version : Nat)
    (held : b.holding c = some (key, r)) (found : b.accounting key = some row)
    (live : r.releaseState ≠ .released) :
    Delta.between r.instrument row
        { row.lowerFor r r.remainingReservedNotional with version := version } =
      releaseDelta r r.remainingReservedNotional := by
  obtain ⟨notional_le, symbol_le, loss_le, slots_le⟩ := h.covers sound held found
  have whole := sound.reservations c key r held
  have slots : r.unconvertedSlots ≤ row.reservedTradeSlots := by
    have slots_le := slots_le live
    unfold Reservation.unconvertedSlots
    rw [whole.slots] at slots_le ⊢
    obtain zero | one := whole.converted <;> omega
  exact between_lower notional_le symbol_le (fun _ => loss_le live) slots

theorem Kept.release (h : b.Kept key) (sound : b.Sound) {reason : ReleaseReason} {unfilled : Bool}
    {version : Nat} (held : b.holding c = some (key, r)) (found : b.accounting key = some row)
    (live : r.releaseState ≠ .released) :
    (b.post c key (r.release reason) (.release unfilled)
      (releaseDelta r r.remainingReservedNotional) row
      { row.lowerFor r r.remainingReservedNotional with version := version }).Kept key := by
  have plain := h.between_release sound version held found live
  exact h.post rfl plain
    ((h.accounts c r held).release (sound.reservations c key r held) live reason)

end own

/-- Every booking keeps the parts of an account that is not loose. -/
theorem Kept.of_booking (h : b.Kept key) (sound : b.Sound)
    (booking : Booking (fun key' => key' ≠ key) b b') : b'.Kept key := by
  have same : ∀ {c key' r}, b.holding c = some (key', r) →
      ∀ key₀ r₀, b.holding c = some (key₀, r₀) → key₀ = key' := by
    intro c key' r held key₀ r₀ held₀
    exact (Prod.mk.inj (Option.some.inj (held₀.symm.trans held))).1
  cases booking with
  | opened _ _ => exact h.setRow
  | stamped _ _ => exact h.setRow
  | @charged c key' row r intent fresh found opens =>
    by_cases own : key' = key
    · subst own
      exact h.charge sound fresh opens
    · exact h.post_of_ne own fun _ _ held => by simp [fresh] at held
  | @converted c key' row r notional held found pos =>
    by_cases own : key' = key
    · subst own
      exact h.convert sound held found pos
    · exact h.post_of_ne own (same held)
  | @released c key' row r unused reason unfilled version held found exact_ =>
    by_cases own : key' = key
    · subst own
      obtain ⟨rfl, live⟩ := exact_.resolve_left (fun ne => ne rfl)
      refine h.release sound held found ?_
      obtain live | pos := live
      · exact live
      · exact (sound.reservations c key' r held).live pos
    · exact h.post_of_ne own (same held)

end Books

/-! ## Reached books -/

variable {key : AccountKey}

/-- Bookings keep an account that is not loose. -/
theorem Books.Bookings.kept {b b' : Books} (sound : b.Sound) (kept : b.Kept key)
    (h : Books.Bookings (fun key' => key' ≠ key) b b') : b'.Sound ∧ b'.Kept key :=
  h.invariant (I := fun b => b.Sound ∧ b.Kept key)
    (fun _ _ h booking => ⟨h.1.of_booking booking, h.2.of_booking h.1 booking⟩) ⟨sound, kept⟩

variable {cat : Catalog}

theorem reached_kept {gate : Gate} {ls : List Label}
    (exact_ : gate.Exact cat fun key' => key' ≠ key)
    (side : Along (World.step cat) (World.Respects gate) World.init ls) :
    (reached cat ls).db.books.Kept key :=
  ((reached_bookings exact_ side).kept Books.sound_empty Books.kept_empty).2

def Catalog.PlansOf (cat : Catalog) (key : AccountKey) (plan : Plan) : Prop :=
  (∃ revision, cat.plans revision = some plan) ∧ (plan.organizationId, plan.accountId) = key

/-- Only a manual plan takes something else off than what the reservation holds. -/
theorem unusedRemainder_eq {ctx : Ctx} {c : CommandId} {k : Command} {r : Reservation} {unused : ℚ}
    (plain : ∀ plan, cat.PlansOf key plan → plan.schemaVersion ≠ .manualDemoTradePlanV1)
    (planned : k.Planned cat) (own : k.accountKey = key)
    (h : unusedRemainder cat ctx c k r = .ok unused) : unused = r.remainingReservedNotional := by
  obtain ⟨plan, found, account⟩ := planned
  have automatic := plain plan ⟨⟨_, found⟩, account.trans own⟩
  simp only [unusedRemainder, found, if_neg automatic] at h
  exact (Except.ok.inj h).symm

namespace Db

def sumOver (db : Db) (key : AccountKey) (f : CommandId → Command → Reservation → ℚ) : ℚ :=
  (db.commands.keys.map fun c =>
    match db.commands.find c with
    | some k => if k.accountKey = key then k.reservation.elim 0 (f c k) else 0
    | none => 0).sum

variable {db : Db} {key : AccountKey}

/-- A column whose part is a function of the command and its reservation is the sum of it. -/
theorem amount_eq_sumOver (sound : db.books.Sound) {row : Accounting}
    (found : db.accounting key = some row) (col : Column)
    {f : CommandId → Command → Reservation → ℚ}
    (part : ∀ c k r, db.commands.find c = some k → k.accountKey = key → k.reservation = some r →
      db.books.part key col c = f c k r) : row.amount col = db.sumOver key f := by
  have covers : ∀ p ∈ db.books.page key, p.command ∈ db.commands.keys := by
    intro p mem
    obtain ⟨r, held, -⟩ := sound.postings p (List.mem_filter.mp mem).1
    obtain ⟨k, find, -⟩ := Option.bind_eq_some_iff.mp held
    exact db.commands.mem_keys_of_find find
  rw [sound.amount_eq_sum found db.commands.nodup covers col, sumOver]
  congr 1
  apply List.map_congr_left
  intro c _
  cases find : db.commands.find c with
  | none => exact sound.part_eq_zero (by simp [holding_of_none find]) col
  | some k =>
    dsimp only
    cases reservation : k.reservation with
    | none =>
      have none_ : db.books.holding c = none := by simp [books, find, reservation]
      rw [sound.part_eq_zero (by simp [none_]) col]
      simp
    | some r =>
      have held := holding_of_find find reservation
      split
      · rename_i own
        exact part c k r find own reservation
      · rename_i foreign
        exact sound.part_eq_zero (by simp [held, foreign]) col

def charged (db : Db) (col : Column) (c : CommandId) : ℚ :=
  ((db.journal.filter fun p => p.command = c ∧ p.kind = .charge).map (·.posted col)).sum

def takenOff (db : Db) (col : Column) (c : CommandId) : ℚ :=
  -((db.journal.filter fun p => p.command = c ∧ p.kind ≠ .charge).map (·.posted col)).sum

variable {k : Command}

/-- Postings for a command are on the page of its account. -/
theorem account_of_posting (sound : db.books.Sound) {c : CommandId}
    (find : db.commands.find c = some k) {p : Posting} (mem : p ∈ db.journal) (same : p.command =
      c) :
    p.account = k.accountKey := by
  obtain ⟨r, held, -⟩ := sound.postings p mem
  obtain ⟨k', find', held⟩ := Option.bind_eq_some_iff.mp held
  rw [same, find] at find'
  obtain rfl := Option.some.inj find'
  obtain ⟨r', -, pair⟩ := Option.map_eq_some_iff.mp held
  exact (Prod.mk.inj pair).1.symm

/-- A command's part is its charge less what was taken off. -/
theorem part_eq_charged_sub (sound : db.books.Sound) {c : CommandId}
    (find : db.commands.find c = some k) (own : k.accountKey = key) (col : Column) :
    db.books.part key col c = db.charged col c - db.takenOff col c := by
  have account : ∀ p ∈ db.journal, p.command = c → p.account = key := by
    intro p mem same
    rw [account_of_posting sound find mem same, own]
  have page : (db.books.page key).filter (fun p => p.command = c) =
      db.journal.filter fun p => p.command = c := by
    simp only [Books.page, List.filter_filter]
    apply List.filter_congr
    intro p mem
    by_cases same : p.command = c
    · simp [same, account p mem same]
    · simp [same]
  have split := sum_filter_and_add (·.posted col) (·.command = c) (·.kind = .charge) db.journal
  unfold Books.part balance
  rw [page, ← split]
  simp only [charged, takenOff, ne_eq]
  ring

/-- On a kept account no more is taken off than was charged. -/
theorem takenOff_le_charged (sound : db.books.Sound) (kept : db.books.Kept key) {c : CommandId}
    (find : db.commands.find c = some k) (own : k.accountKey = key) {col : Column}
    (reserved : col.reserved = true) : db.takenOff col c ≤ db.charged col c := by
  have part := part_eq_charged_sub sound find own col
  have nonneg : 0 ≤ db.books.part key col c := by
    cases reservation : k.reservation with
    | none =>
      have none_ : db.books.holding c = none := by simp [books, find, reservation]
      exact (sound.part_eq_zero (by simp [none_]) col).ge
    | some r =>
      have held : db.books.holding c = some (key, r) := own ▸ holding_of_find find reservation
      exact (kept.accounts c r held).nonneg (sound.reservations _ _ _ held) reserved
  linarith

/-! ## Steps about one command -/

/-- Only one command is touched: every other is as it was, with the postings it had. -/
structure Concerns (c : CommandId) (db db' : Db) : Prop where
  commands : ∀ i, i ≠ c → db'.commands.find i = db.commands.find i
  postings : ∀ i, i ≠ c →
    db'.journal.filter (·.command = i) = db.journal.filter (·.command = i)

variable {gate : Gate} {cat : Catalog} {ctx : Ctx} {db' : Db} {c i : CommandId}

theorem Concerns.of_eq (commands : db'.commands = db.commands)
    (journal : db'.journal = db.journal) :
    Concerns c db db' :=
  ⟨fun i _ => by rw [commands], fun i _ => by rw [journal]⟩

theorem Concerns.trans {db'' : Db} (h : Concerns c db db') (h' : Concerns c db' db'') :
    Concerns c db db'' :=
  ⟨fun i other => (h'.commands i other).trans (h.commands i other),
    fun i other => (h'.postings i other).trans (h.postings i other)⟩

theorem Concerns.filter_eq (h : Concerns c db db') (other : i ≠ c) (q : Posting → Prop)
    [DecidablePred q] :
    db'.journal.filter (fun p => p.command = i ∧ q p) =
      db.journal.filter fun p => p.command = i ∧ q p := by
  have split : ∀ ps : List Posting,
      ps.filter (fun p => p.command = i ∧ q p) = (ps.filter (·.command = i)).filter (q ·) := by
    intro ps
    rw [List.filter_filter]
    congr 1
    funext p
    simp [Bool.and_comm]
  rw [split, split, h.postings i other]

theorem Concerns.charged_eq (h : Concerns c db db') (other : i ≠ c) (col : Column) :
    db'.charged col i = db.charged col i := by
  simp only [charged, h.filter_eq other]

theorem Concerns.takenOff_eq (h : Concerns c db db') (other : i ≠ c) (col : Column) :
    db'.takenOff col i = db.takenOff col i := by
  simp only [takenOff, h.filter_eq other]

theorem putCommand_concerns (k : Command) : Concerns c db (db.putCommand c k) :=
  ⟨fun _ other => Table.find_put_of_ne _ other _, fun _ _ => rfl⟩

theorem settle_concerns {kind : PostingKind} {instrument : String} {intended : Delta}
    {old new : Accounting} : Concerns c db (db.settle c k kind instrument intended old new) := by
  refine ⟨fun i other => Table.find_put_of_ne _ other _, fun i other => ?_⟩
  simp [settle, List.filter_append, other.symm]

theorem ReleaseOutcome.concerns {reason : ReleaseReason} (find : db.commands.find c = some k)
    (onDay : (db.releasing ctx k).onDay = true) (h : ReleaseOutcome cat ctx db c reason db') :
    Concerns c db db' := by
  cases h with
  | nothing _ _ => exact .of_eq (lockEpoch_commands ..) (lockEpoch_journal ..)
  | @released k₀ k' r r' unused row locked find₀ reservation held _ lock _ _ _ _ =>
    obtain rfl : k = k₀ := Option.some.inj (find.symm.trans find₀)
    have calm : locked.commands = db.commands ∧ locked.journal = db.journal :=
      lock ▸ ensureAccounting_onDay reservation held (fun _ => onDay) _
    exact (Concerns.of_eq calm.1 calm.2).trans settle_concerns

/-- Without a claim, a fill or a roll of the day a write touches the command it is about. -/
theorem Write.concerns (only : ∀ i, gate.about i → i = c)
    (calm : ∀ x, gate.release x → x.onDay = true) (unclaimed : ¬gate.claim) (unfilled : ¬gate.fill)
    (h : Write gate cat db db') : Concerns c db db' := by
  cases h with
  | outside h _ => exact .of_eq h.commands h.journal
  | mark _ _ about =>
    obtain rfl := only _ about
    exact putCommand_concerns _
  | release find _ allowed h about =>
    obtain rfl := only _ about
    exact (releaseUnusedReservation_outcome h).concerns find (calm _ allowed)
  | fill _ allowed => exact absurd allowed unfilled
  | claim _ allowed _ => exact absurd allowed unclaimed

theorem Writes.concerns (only : ∀ i, gate.about i → i = c)
    (calm : ∀ x, gate.release x → x.onDay = true) (unclaimed : ¬gate.claim) (unfilled : ¬gate.fill)
    (h : Writes gate cat db db') : Concerns c db db' := by
  induction h with
  | refl => exact .of_eq rfl rfl
  | tail _ write ih => exact ih.trans (write.concerns only calm unclaimed unfilled)

end Db

namespace World

variable {cat : Catalog} {w : World} {l : Label} {c : CommandId}

/-- A step of the dispatcher whose release rolls no day touches the command it is about. -/
theorem step_concerns (jobs : w.JobsValid cat) (subject_eq : w.subject l = some c)
    (onDay : ∀ x, w.released l = some x → x.onDay = true) :
    Db.Concerns c w.db (w.step cat l).db := by
  let gate : Gate := { Gate.any with
    release := fun x => x.onDay = true
    about := fun i => i = c
    claim := False
    fill := False }
  have side : w.Respects gate l := { w.respects_any l with
    release := onDay
    about := fun i h => Option.some.inj (h.symm.trans subject_eq)
    claim := fun claims => by cases l <;> simp_all [Label.claims, subject]
    fill := fun fills => by cases l <;> simp_all [Label.fills, subject] }
  exact (step_writes jobs side).concerns (fun _ h => h) (fun _ h => h) id id

theorem find_of_blockTarget {test : Command → Effect → Bool} {k : Command}
    (h : w.blockTarget c test = some k) : w.db.commands.find c = some k := by
  unfold blockTarget at h
  split at h
  · cases h
  rename_i k₀ find
  split at h
  · cases h
  split at h
  · rw [find, Option.some.inj h]
  · cases h

/-- What a step releases is of the command that the step is about. -/
theorem released_eq {x : Releasing} (subject_eq : w.subject l = some c)
    (h : w.released l = some x) :
    ∃ ctx k, w.db.commands.find c = some k ∧ x = w.db.releasing ctx k := by
  have of_blocked : ∀ {ctx : Ctx} {test : Command → Effect → Bool} {c' : CommandId}, c' = c →
      (w.blockTarget c' test).map (w.db.releasing ctx) = some x →
      ∃ ctx k, w.db.commands.find c = some k ∧ x = w.db.releasing ctx k := by
    rintro ctx test _ rfl h
    obtain ⟨k, target, rfl⟩ := Option.map_eq_some_iff.mp h
    exact ⟨ctx, k, find_of_blockTarget target, rfl⟩
  have of_find : ∀ {ctx : Ctx} {c' : CommandId}, c' = c →
      (w.db.commands.find c').map (w.db.releasing ctx) = some x →
      ∃ ctx k, w.db.commands.find c = some k ∧ x = w.db.releasing ctx k := by
    rintro ctx _ rfl h
    obtain ⟨k, find, rfl⟩ := Option.map_eq_some_iff.mp h
    exact ⟨ctx, k, find, rfl⟩
  unfold released at h
  split at h
  · exact of_blocked (Option.some.inj subject_eq) h
  · exact of_blocked (Option.some.inj subject_eq) h
  · exact of_blocked (Option.some.inj subject_eq) h
  · split at h
    · rename_i running
      exact of_find (by simpa [subject, running, Job.command] using subject_eq) h
    · cases h
  · split at h
    · rename_i running
      exact of_find (by simpa [subject, running, Job.command] using subject_eq) h
    · rename_i running
      exact of_find (by simpa [subject, running, Job.command] using subject_eq) h
    · cases h
  · exact of_find (Option.some.inj subject_eq) h
  · exact of_find (Option.some.inj subject_eq) h
  · cases h

end World

/-! ## Paper reservations are released once -/

namespace World

def ReleasesOnDay (key : AccountKey) (w : World) (l : Label) : Prop :=
  ∀ x, w.released l = some x → x.account = key → x.onDay = true

instance (key : AccountKey) (w : World) (l : Label) : Decidable (w.ReleasesOnDay key l) :=
  match h : w.released l with
  | none => .isTrue fun _ eq => nomatch h.symm.trans eq
  | some x => decidable_of_iff (x.account = key → x.onDay = true)
      ⟨fun hx _ eq => Option.some.inj (h.symm.trans eq) ▸ hx, fun all => all x h⟩

variable {key : AccountKey}

theorem ReleasesOnDay.respects (w : World) (l : Label) (h : w.ReleasesOnDay key l) :
    w.Respects (.releasing fun x => x.account = key → x.onDay = true) l :=
  { w.respects_any l with release := h }

/-- On its day, what the dispatcher does about a command of the account touches no other. -/
theorem ReleasesOnDay.concerns {cat : Catalog} {w : World} {l : Label} {c : CommandId} {k : Command}
    (h : w.ReleasesOnDay key l) (jobs : w.JobsValid cat) (subject_eq : w.subject l = some c)
    (find : w.db.commands.find c = some k) (own : k.accountKey = key) :
    Db.Concerns c w.db (w.step cat l).db := by
  refine step_concerns jobs subject_eq fun x released => ?_
  obtain ⟨ctx, k₀, find₀, rfl⟩ := released_eq subject_eq released
  obtain rfl : k = k₀ := Option.some.inj (find.symm.trans find₀)
  exact h _ released own

end World

theorem exact_of_releasesOnDay
    (plain : ∀ plan, cat.PlansOf key plan → plan.schemaVersion ≠ .manualDemoTradePlanV1) :
    (Gate.releasing fun x => x.account = key → x.onDay = true).Exact cat
      fun key' => key' ≠ key := by
  intro db ctx c k r unused planned allowed reservation unused_eq
  by_cases own : k.accountKey = key
  · exact .inr ⟨unusedRemainder_eq plain planned own unused_eq, fun _ => allowed own⟩
  · exact .inl own

/-- On an account whose plans are all internal paper plans, in every run in which a rejection,
a cancellation or a pre-dispatch block that has something to release finds the ledger day to be
today's: what is taken off a reserved column on account of one command never exceeds what its
charge put on, each reserved column is the sum of the parts its reservations still hold, and a
rejection, cancellation or block of one command leaves every other command, its reservation
and its part of each column as they were. -/
theorem reservations_released_once (cat : Catalog) (key : AccountKey)
    (paper : ∀ plan, cat.PlansOf key plan → plan.executionVenue = internalPaperVenue)
    (ls : List Label) (side : Along (World.step cat) (World.ReleasesOnDay key) World.init ls) :
    (∀ c k, (reached cat ls).db.commands.find c = some k → k.accountKey = key →
      ∀ col : Column, col.reserved = true →
        (reached cat ls).db.takenOff col c ≤ (reached cat ls).db.charged col c) ∧
    (∀ row, (reached cat ls).db.accounting key = some row →
      row.reservedNotional =
        (reached cat ls).db.sumOver key (fun _ _ r => r.remainingReservedNotional) ∧
      (∀ i, row.symbolReserved i = (reached cat ls).db.sumOver key fun _ _ r =>
        if i = r.instrument then r.remainingReservedNotional else 0) ∧
      row.reservedTradeSlots = (reached cat ls).db.sumOver key (fun _ _ r =>
        if r.releaseState = .released then 0
        else ((r.dailyTradeAllocation - r.convertedTradeSlots : ℤ) : ℚ)) ∧
      row.reservedDailyLoss = (reached cat ls).db.sumOver key fun c _ _ =>
        (reached cat ls).db.charged .loss c - (reached cat ls).db.takenOff .loss c) ∧
    ∀ l c k, (reached cat ls).subject l = some c → (reached cat ls).db.commands.find c = some k →
      k.accountKey = key → (reached cat ls).ReleasesOnDay key l → ∀ c', c' ≠ c →
      (reached cat (ls ++ [l])).db.commands.find c' = (reached cat ls).db.commands.find c' ∧
      ∀ col, (reached cat (ls ++ [l])).db.charged col c' = (reached cat ls).db.charged col c' ∧
        (reached cat (ls ++ [l])).db.takenOff col c' = (reached cat ls).db.takenOff col c' := by
  have plain : ∀ plan, cat.PlansOf key plan → plan.schemaVersion ≠ .manualDemoTradePlanV1 := by
    intro plan own manual
    have venue := plan.manual_venue manual
    rw [paper plan own] at venue
    revert venue
    decide
  have sound := reached_sound cat ls
  have kept : (reached cat ls).db.books.Kept key :=
    reached_kept (exact_of_releasesOnDay plain) (Along.mono _ World.ReleasesOnDay.respects side)
  have accounts : ∀ c k r, (reached cat ls).db.commands.find c = some k → k.accountKey = key →
      k.reservation = some r →
      r.Accounts fun col => (reached cat ls).db.books.part key col c := by
    intro c k r find own reservation
    exact kept.accounts c r (own ▸ Db.holding_of_find find reservation)
  refine ⟨?_, ?_, ?_⟩
  · intro c k find own col reserved
    exact Db.takenOff_le_charged sound kept find own reserved
  · intro row found
    refine ⟨?_, fun i => ?_, ?_, ?_⟩
    · exact Db.amount_eq_sumOver sound found .notional fun c k r find own reservation =>
        (accounts c k r find own reservation).notional
    · exact Db.amount_eq_sumOver sound found (.symbol i) fun c k r find own reservation =>
        (accounts c k r find own reservation).symbol i
    · exact Db.amount_eq_sumOver sound found .slots fun c k r find own reservation =>
        (accounts c k r find own reservation).slots
    · exact Db.amount_eq_sumOver sound found .loss fun c k r find own _ =>
        Db.part_eq_charged_sub sound find own .loss
  · intro l c k subject_eq find own onDay c' other
    have concerns := onDay.concerns (reached_jobsValid cat ls) subject_eq find own
    rw [reached_append]
    exact ⟨concerns.commands c' other, fun col =>
      ⟨concerns.charged_eq other col, concerns.takenOff_eq other col⟩⟩

theorem Sample.catalog_plansOf {venue : String} (plan : Plan)
    (h : (Sample.catalog venue).PlansOf key plan) :
    plan.executionVenue = venue ∧ plan.schemaVersion = .canonicalTradePlanContentV1 := by
  obtain ⟨⟨revision, found⟩, -⟩ := h
  obtain rfl := Option.some.inj found
  exact ⟨rfl, rfl⟩

def eveningRun : List Label :=
  Sample.claim 82800000000 1 ++ Sample.claim 82800000000 2 ++ Sample.dispatch 82800000000 1 ++
    [.beginFakeSend 0 1 "worker" 1]

def sameDayRun : List Label :=
  eveningRun ++ [.finishFakeSend (Sample.ctx 82800000001) 0 .rejected] ++
    Sample.claim 86400000001 3

theorem reservations_released_once_sameDayRun :
    ((reached (Sample.catalog internalPaperVenue) sameDayRun).db.accounting (1, 1)).map
        (fun row => (row.reservedNotional, row.tradeSlotBusinessDate)) = some (400, some 1) ∧
      ∀ row, (reached (Sample.catalog internalPaperVenue) sameDayRun).db.accounting (1, 1) =
          some row →
        row.reservedNotional = (reached (Sample.catalog internalPaperVenue) sameDayRun).db.sumOver
          (1, 1) fun _ _ r => r.remainingReservedNotional :=
  ⟨by decide +kernel, fun row found =>
    ((reservations_released_once (Sample.catalog internalPaperVenue) (1, 1)
      (fun plan h => (Sample.catalog_plansOf plan h).1) sameDayRun (by decide +kernel)).2.1
      row found).1⟩

def midnightRun : List Label :=
  eveningRun ++ [.finishFakeSend (Sample.ctx 86400000001) 0 .rejected]

/-- The rejection takes the first command's exposure off twice. Nothing is left on the row for
the second command, which still holds all of its own. -/
theorem reservation_released_twice :
    (reached (Sample.catalog internalPaperVenue) midnightRun).db.charged .notional 1 = 200 ∧
    (reached (Sample.catalog internalPaperVenue) midnightRun).db.takenOff .notional 1 = 400 ∧
    ((reached (Sample.catalog internalPaperVenue) midnightRun).db.accounting (1, 1)).map
      (fun row => (row.reservedNotional, row.symbolReserved "BTC-USDT", row.reservedDailyLoss,
        row.reservedTradeSlots)) = some (0, 0, 0, 0) ∧
    ((reached (Sample.catalog internalPaperVenue) midnightRun).db.commands.find 2).bind
      (fun k => k.reservation.map fun r => (r.releaseState, r.remainingReservedNotional)) =
        some (.charged, 200) := by
  decide_cbv

end AlphaTrade.Execution
