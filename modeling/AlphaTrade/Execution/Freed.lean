import AlphaTrade.Execution.Tally

/-!
# What the row holds for released and unfilled claims

A reserved column is never more than what the reservations of the account still call for,
however often a release is repeated: every clamp and every second release only lowers it.
So an account whose claims were all released without a fill has nothing reserved. The
actual columns count fills, and nothing but a fill changes them.
-/
namespace AlphaTrade.Execution
open Library

namespace Reservation

variable {r : Reservation}

def owed (r : Reservation) : Column → ℚ
  | .notional => r.remainingReservedNotional
  | .symbol i => if i = r.instrument then r.remainingReservedNotional else 0
  | .loss =>
    if r.releaseState = .released ∧ r.convertedTradeSlots = 0 then 0 else r.dailyLossAllocation
  | _ => 0

theorem Sound.owed_nonneg (h : r.Sound) (col : Column) : 0 ≤ r.owed col := by
  unfold owed
  split
  · exact h.remaining
  · split
    · exact h.remaining
    · exact le_rfl
  · split
    · exact le_rfl
    · exact h.loss.le
  · exact le_rfl

end Reservation

def Column.returned : Column → Bool
  | .notional | .symbol _ | .loss => true
  | _ => false

namespace Books

variable {b b' : Books} {c : CommandId} {key key' : AccountKey} {r : Reservation}
  {row row' : Accounting} {col : Column}

def owed (b : Books) (key : AccountKey) (col : Column) (c : CommandId) : ℚ :=
  match b.holding c with
  | some (key', r) => if key' = key then r.owed col else 0
  | none => 0

theorem Sound.owed_nonneg (h : b.Sound) (key : AccountKey) (col : Column) (c : CommandId) :
    0 ≤ b.owed key col c := by
  unfold owed
  split
  · rename_i key' r held
    split
    · exact (h.reservations c key' r held).owed_nonneg col
    · exact le_rfl
  · exact le_rfl

def Within (key : AccountKey) (col : Column) (b : Books) : Prop :=
  ∀ row, b.accounting key = some row → ∀ cs : List CommandId, cs.Nodup →
    (∀ c, (b.holding c).isSome → c ∈ cs) → row.amount col ≤ (cs.map (b.owed key col)).sum

theorem sum_owed_nonneg (h : b.Sound) (key : AccountKey) (col : Column) (cs : List CommandId) :
    0 ≤ (cs.map (b.owed key col)).sum := by
  refine List.sum_nonneg fun x mem => ?_
  obtain ⟨c, -, rfl⟩ := List.mem_map.mp mem
  exact h.owed_nonneg key col c

theorem within_empty : Db.empty.books.Within key col := by
  intro row found
  cases found

section post
variable {kind : PostingKind} {intended : Delta}

theorem owed_post_self : (b.post c key r kind intended row row').owed key col c = r.owed col := by
  simp [owed, post]

theorem owed_post_of_ne {i : CommandId} (other : i ≠ c) :
    (b.post c key' r kind intended row row').owed key col i = b.owed key col i := by
  simp [owed, post, Function.update_of_ne other]

/-- The row lost at least what is no longer owed for the command, or nothing but what is owed
for it is left. -/
theorem Within.post (h : b.Within key col) (sound : b.Sound) (found : b.accounting key = some row)
    (bound : row'.amount col ≤
      max (row.amount col + (r.owed col - b.owed key col c)) (r.owed col)) :
    (b.post c key r kind intended row row').Within key col := by
  intro last lookup cs nodup covers
  obtain rfl : row' = last := by simpa [Books.post] using lookup
  have mem : c ∈ cs := covers c (by simp [Books.post])
  have before := h row found cs nodup fun i held => covers i (by
    by_cases same : i = c
    · simp [Books.post, same]
    · simpa [Books.post, Function.update_of_ne same] using held)
  have rest : (cs.erase c).map ((b.post c key r kind intended row row').owed key col) =
      (cs.erase c).map (b.owed key col) := by
    refine List.map_congr_left fun i imem => owed_post_of_ne ?_
    rintro rfl
    exact nodup.not_mem_erase imem
  have nonneg := sum_owed_nonneg sound key col (cs.erase c)
  have old := List.sum_map_erase (b.owed key col) mem
  have new := List.sum_map_erase ((b.post c key r kind intended row row').owed key col) mem
  rw [rest, owed_post_self] at new
  rw [← new]
  rw [← old] at before
  refine bound.trans (max_le ?_ ?_)
  · linarith
  · linarith

/-- A posting on another account. -/
theorem Within.post_of_ne (h : b.Within key col) (other : key' ≠ key)
    (held : ∀ r, b.holding c ≠ some (key, r)) :
    (b.post c key' r kind intended row row').Within key col := by
  intro last lookup cs nodup covers
  have lookup : b.accounting key = some last := by
    simpa [Books.post, Function.update_of_ne other.symm] using lookup
  have before := h last lookup cs nodup fun i holds => covers i (by
    by_cases same : i = c
    · simp [Books.post, same]
    · simpa [Books.post, Function.update_of_ne same] using holds)
  have same : (b.post c key' r kind intended row row').owed key col = b.owed key col := by
    funext i
    by_cases ic : i = c
    · subst ic
      have zero : b.owed key col i = 0 := by
        unfold owed
        split
        · rename_i key'' r'' holds
          split
          · rename_i eq
            exact absurd (eq ▸ holds) (held r'')
          · rfl
        · rfl
      rw [zero]
      simp [owed, Books.post, other]
    · exact owed_post_of_ne ic
  rwa [same]

end post

theorem owed_of_holding (held : b.holding c = some (key, r)) : b.owed key col c = r.owed col := by
  simp [owed, held]

theorem owed_of_fresh (fresh : b.holding c = none) : b.owed key col c = 0 := by
  simp [owed, fresh]

/-- A clamped subtraction of at least what is no longer owed. -/
theorem clampZero_sub_le {v x o p : ℚ} (lowered : o - p ≤ x) (nonneg : 0 ≤ p) :
    clampZero (v - x) ≤ max (v + (p - o)) p := by
  rw [clampZero_eq_max]
  refine max_le (le_max_of_le_right nonneg) (le_max_of_le_left ?_)
  linarith

theorem le_max_of_owed {v o o' : ℚ} (grows : o ≤ o') : v ≤ max (v + (o' - o)) o' :=
  le_max_of_le_left (by linarith)

/-- A release takes off at least what is owed. -/
theorem lowerFor_amount_le (sound : r.Sound) {unused : ℚ}
    (covers : r.remainingReservedNotional ≤ unused) (reason : ReleaseReason) (version : Nat)
    (returned : col.returned = true) :
    Accounting.amount { row.lowerFor r unused with version := version } col ≤
      max (row.amount col + ((r.release reason).owed col - r.owed col))
        ((r.release reason).owed col) := by
  have loss := sound.loss
  cases col with
  | notional =>
    exact clampZero_sub_le (by simpa [Reservation.owed, Reservation.release] using covers) le_rfl
  | symbol i =>
    by_cases same : i = r.instrument
    · subst same
      have lowered := clampZero_sub_le (v := row.symbolReserved r.instrument) (x := unused)
        (o := r.remainingReservedNotional) (p := 0) (by simpa using covers) le_rfl
      simpa [Accounting.amount, Accounting.lowerFor, adjustSymbolMap, Reservation.owed,
        Reservation.release, sub_eq_add_neg] using lowered
    · simp [Accounting.amount, Accounting.lowerFor, adjustSymbolMap, Reservation.owed,
        Reservation.release, same]
  | loss =>
    by_cases unfilled : r.convertedTradeSlots = 0
    · have lowered := clampZero_sub_le (v := row.reservedDailyLoss) (x := r.dailyLossAllocation)
        (o := r.owed .loss) (p := 0) (by
          simp only [Reservation.owed]
          split <;> linarith) le_rfl
      simpa [Accounting.amount, Accounting.lowerFor, Reservation.owed, Reservation.release,
        unfilled] using lowered
    · simp [Accounting.amount, Accounting.lowerFor, Reservation.owed, Reservation.release, unfilled]
  | _ => cases returned

/-- A conversion takes off what it converts. -/
theorem convertFor_amount_le (sound : r.Sound) {notional : ℚ} (pos : 0 < notional)
    (returned : col.returned = true) :
    (row.convertFor r notional).amount col ≤
      max (row.amount col + ((r.convert notional).owed col - r.owed col))
        ((r.convert notional).owed col) := by
  have loss := sound.loss
  have kept := (sound.convert pos).owed_nonneg col
  cases col with
  | notional =>
    exact clampZero_sub_le (by simp [Reservation.owed, Reservation.convert]) kept
  | symbol i =>
    by_cases same : i = r.instrument
    · subst same
      have lowered := clampZero_sub_le (v := row.symbolReserved r.instrument)
        (x := min notional r.remainingReservedNotional) (o := r.remainingReservedNotional)
        (p := r.remainingReservedNotional - min notional r.remainingReservedNotional)
        (by simp) (by simp)
      simpa [Accounting.amount, Accounting.convertFor, adjustSymbolMap, Reservation.owed,
        Reservation.convert, sub_eq_add_neg] using lowered
    · simp [Accounting.amount, Accounting.convertFor, adjustSymbolMap, Reservation.owed,
        Reservation.convert, same]
  | loss =>
    refine le_max_of_owed ?_
    have filled : (r.convert notional).convertedTradeSlots ≠ 0 := by
      simp only [Reservation.convert, sound.slots]
      obtain zero | one := sound.converted <;> simp [*]
    simp only [Reservation.owed, filled, and_false, if_false]
    split
    · exact loss.le
    · exact le_rfl
  | _ => cases returned

theorem chargeReservation_amount_le {intent : ReservationIntent} (opens : intent.Opens r)
    (returned : col.returned = true) :
    (chargeReservation row intent).amount col ≤ max (row.amount col + (r.owed col - 0))
      (r.owed col) := by
  refine le_max_of_le_left ?_
  cases col with
  | notional => simp [Accounting.amount, chargeReservation, Reservation.owed, opens.remaining]
  | symbol i =>
    by_cases same : i = intent.instrument
    · subst same
      simp [Accounting.amount, chargeReservation, Reservation.owed, opens.remaining,
        opens.instrument]
    · simp [Accounting.amount, chargeReservation, Reservation.owed, opens.instrument, same]
  | loss => simp [Accounting.amount, chargeReservation, Reservation.owed, opens.loss, opens.charged]
  | _ => cases returned

theorem Within.setRow (h : b.Within key col) (sound : b.Sound)
    (kept : ∀ row', b.accounting key = some row' → row.amount col = row'.amount col)
    (blank : b.accounting key = none → row.amount col = 0) : (b.setRow key row).Within key col := by
  intro last lookup cs nodup covers
  obtain rfl : row = last := by simpa [Books.setRow] using lookup
  cases found : b.accounting key with
  | none =>
    rw [blank found]
    exact sum_owed_nonneg sound key col cs
  | some row' =>
    rw [kept row' found]
    exact h row' found cs nodup covers

theorem Within.setRow_of_ne (h : b.Within key col) (other : key' ≠ key) :
    (b.setRow key' row).Within key col := by
  intro last lookup cs nodup covers
  exact h last (by simpa [Books.setRow, Function.update_of_ne other.symm] using lookup) cs nodup
    covers

/-- Bookings whose releases take off what is held keep within what is owed. -/
theorem Within.of_booking (h : b.Within key col) (sound : b.Sound) (returned : col.returned = true)
    (booking : Booking (fun _ => False) b b') : b'.Within key col := by
  cases booking with
  | @opened key' row absent blank =>
    by_cases same : key' = key
    · subst same
      exact h.setRow sound (by simp [absent]) fun _ => blank col
    · exact h.setRow_of_ne same
  | @stamped key' row row' found same_amounts =>
    by_cases same : key' = key
    · subst same
      refine h.setRow sound (fun row'' found'' => ?_) (by simp [found])
      rw [same_amounts, Option.some.inj (found.symm.trans found'')]
    · exact h.setRow_of_ne same
  | @charged c key' row r intent fresh found opens =>
    by_cases same : key' = key
    · subst same
      refine h.post sound found ?_
      rw [owed_of_fresh fresh]
      exact chargeReservation_amount_le opens returned
    · exact h.post_of_ne same (by simp [fresh])
  | @converted c key' row r notional held found pos =>
    by_cases same : key' = key
    · subst same
      refine h.post sound found ?_
      rw [owed_of_holding held]
      exact convertFor_amount_le (sound.reservations _ _ _ held) pos returned
    · exact h.post_of_ne same (by simp [held, same])
  | @released c key' row r unused reason unfilled version held found exact_ =>
    by_cases same : key' = key
    · subst same
      obtain ⟨rfl, -⟩ := exact_.resolve_left id
      refine h.post sound found ?_
      rw [owed_of_holding held]
      exact lowerFor_amount_le (sound.reservations _ _ _ held) le_rfl reason version returned
    · exact h.post_of_ne same (by simp [held, same])

theorem Within.of_bookings (h : b.Within key col) (sound : b.Sound) (returned : col.returned = true)
    (bookings : Bookings (fun _ => False) b b') : b'.Within key col := by
  have both : b'.Sound ∧ b'.Within key col :=
    bookings.invariant (I := fun b => b.Sound ∧ b.Within key col)
      (fun _ _ inv booking => ⟨inv.1.of_booking booking, inv.2.of_booking inv.1 returned booking⟩)
      ⟨sound, h⟩
  exact both.2

/-! ## Actual exposure -/

def SomeFilled (key : AccountKey) (b : Books) : Prop :=
  ∃ c r, b.holding c = some (key, r) ∧ r.convertedTradeSlots ≠ 0

/-- The row has actual exposure exactly if something was filled. -/
structure CountsFills (key : AccountKey) (b : Books) : Prop where
  filled : ∀ row, b.accounting key = some row → b.SomeFilled key → 0 < row.actualNotional
  unfilled : ∀ row, b.accounting key = some row → ¬b.SomeFilled key →
    ∀ col : Column, col.reserved = false → row.amount col = 0

theorem countsFills_empty : Db.empty.books.CountsFills key := by
  constructor
  · intro row found
    cases found
  · intro row found
    cases found

section counting
variable {kind : PostingKind} {intended : Delta}

/-- A posting that fills nothing leaves the actual columns and what was filled. -/
theorem CountsFills.post (h : b.CountsFills key) (found : b.accounting key = some row)
    (same : ∀ col : Column, col.reserved = false → row'.amount col = row.amount col)
    (slots : r.convertedTradeSlots ≠ 0 ↔ ∃ r₀, b.holding c = some (key, r₀) ∧
      r₀.convertedTradeSlots ≠ 0) :
    (b.post c key r kind intended row row').CountsFills key := by
  have filled_iff : (b.post c key r kind intended row row').SomeFilled key ↔ b.SomeFilled key := by
    constructor
    · rintro ⟨i, r', held, filled⟩
      by_cases ic : i = c
      · subst ic
        obtain rfl : r = r' := by simpa [Books.post] using held
        obtain ⟨r₀, held₀, filled₀⟩ := slots.mp filled
        exact ⟨i, r₀, held₀, filled₀⟩
      · exact ⟨i, r', by simpa [Books.post, Function.update_of_ne ic] using held, filled⟩
    · rintro ⟨i, r', held, filled⟩
      by_cases ic : i = c
      · subst ic
        exact ⟨i, r, by simp [Books.post], slots.mpr ⟨r', held, filled⟩⟩
      · exact ⟨i, r', by simpa [Books.post, Function.update_of_ne ic] using held, filled⟩
  constructor
  · intro last lookup filled
    obtain rfl : row' = last := by simpa [Books.post] using lookup
    have := same .actual rfl
    simp only [Accounting.amount] at this
    rw [this]
    exact h.filled row found (filled_iff.mp filled)
  · intro last lookup unfilled col actual
    obtain rfl : row' = last := by simpa [Books.post] using lookup
    rw [same col actual]
    exact h.unfilled row found (fun filled => unfilled (filled_iff.mpr filled)) col actual

theorem CountsFills.post_of_ne (h : b.CountsFills key) (other : key' ≠ key)
    (held : ∀ r, b.holding c ≠ some (key, r)) :
    (b.post c key' r kind intended row row').CountsFills key := by
  have filled_iff : (b.post c key' r kind intended row row').SomeFilled key ↔
      b.SomeFilled key := by
    constructor
    · rintro ⟨i, r', holds, filled⟩
      have ic : i ≠ c := by
        rintro rfl
        simp [Books.post, other] at holds
      exact ⟨i, r', by simpa [Books.post, Function.update_of_ne ic] using holds, filled⟩
    · rintro ⟨i, r', holds, filled⟩
      have ic : i ≠ c := by
        rintro rfl
        exact held r' holds
      exact ⟨i, r', by simpa [Books.post, Function.update_of_ne ic] using holds, filled⟩
  constructor
  · intro last lookup filled
    exact h.filled last (by simpa [Books.post, Function.update_of_ne other.symm] using lookup)
      (filled_iff.mp filled)
  · intro last lookup unfilled
    exact h.unfilled last (by simpa [Books.post, Function.update_of_ne other.symm] using lookup)
      fun filled => unfilled (filled_iff.mpr filled)

end counting

theorem CountsFills.setRow_of_ne (h : b.CountsFills key) (other : key' ≠ key) :
    (b.setRow key' row).CountsFills key := by
  constructor
  · intro last lookup
    exact h.filled last (by simpa [Books.setRow, Function.update_of_ne other.symm] using lookup)
  · intro last lookup
    exact h.unfilled last (by simpa [Books.setRow, Function.update_of_ne other.symm] using lookup)

theorem CountsFills.of_booking {loose : AccountKey → Prop} (h : b.CountsFills key) (sound : b.Sound)
    (booking : Booking loose b b') : b'.CountsFills key := by
  cases booking with
  | @opened key' row absent blank =>
    by_cases same : key' = key
    · subst same
      have none_ : ¬b.SomeFilled key' := by
        rintro ⟨i, r, held, -⟩
        obtain ⟨row', found⟩ := sound.rows i key' r held
        rw [absent] at found
        cases found
      constructor
      · intro last _ filled
        exact absurd filled none_
      · intro last lookup _ col _
        obtain rfl : row = last := by simpa [Books.setRow] using lookup
        exact blank col
    · exact h.setRow_of_ne same
  | @stamped key' row row' found same_amounts =>
    by_cases same : key' = key
    · subst same
      constructor
      · intro last lookup filled
        obtain rfl : row' = last := by simpa [Books.setRow] using lookup
        have := same_amounts .actual
        simp only [Accounting.amount] at this
        rw [this]
        exact h.filled row found filled
      · intro last lookup unfilled col actual
        obtain rfl : row' = last := by simpa [Books.setRow] using lookup
        rw [same_amounts]
        exact h.unfilled row found unfilled col actual
    · exact h.setRow_of_ne same
  | @charged c key' row r intent fresh found opens =>
    by_cases same : key' = key
    · subst same
      refine h.post found ?_ (by simp [fresh, opens.unconverted])
      intro col actual
      cases col <;> first | rfl | cases actual
    · exact h.post_of_ne same (by simp [fresh])
  | @converted c key' row r notional held found pos =>
    by_cases same : key' = key
    · subst same
      have nonneg := sound.nonneg _ _ found
      have filled : (b.post c key' (r.convert notional) .fill (convertDelta r notional) row
          (row.convertFor r notional)).SomeFilled key' := by
        refine ⟨c, r.convert notional, by simp [Books.post], ?_⟩
        have slots := (sound.reservations _ _ _ held).slots
        simp only [Reservation.convert, slots]
        obtain zero | one := (sound.reservations _ _ _ held).converted <;> simp [*]
      constructor
      · intro last lookup _
        obtain rfl : row.convertFor r notional = last := by simpa [Books.post] using lookup
        have := nonneg .actual
        simp only [Accounting.amount] at this
        simp only [Accounting.convertFor]
        linarith
      · intro _ _ unfilled
        exact absurd filled unfilled
    · exact h.post_of_ne same (by simp [held, same])
  | @released c key' row r unused reason unfilled version held found _ =>
    by_cases same : key' = key
    · subst same
      refine h.post found ?_ (by simp [held, Reservation.release])
      intro col actual
      cases col <;> first | rfl | cases actual
    · exact h.post_of_ne same (by simp [held, same])

end Books

/-! ## Every database reached -/

namespace Db

variable {gate : Gate} {cat : Catalog} {ctx : Ctx} {db db' : Db} {c : CommandId}
  {key : AccountKey} {col : Column}

/-- A release takes off what it read before the lock, which is at least what is held after. -/
theorem ReleaseOutcome.within {k : Command} {reason : ReleaseReason}
    (plain : ∀ plan, cat.PlansOf key plan → plan.schemaVersion ≠ .manualDemoTradePlanV1)
    (planned : k.Planned cat) (find : db.commands.find c = some k) (sound : db.books.Sound)
    (returned : col.returned = true) (h : ReleaseOutcome cat ctx db c reason db')
    (within : db.books.Within key col) : db'.books.Within key col := by
  cases h with
  | nothing _ _ => rwa [books_lockEpoch]
  | @released k₀ k' r r' unused row locked find₀ reservation held unused_eq lock row_eq find' rolled
      reservation' =>
    obtain rfl : k = k₀ := Option.some.inj (find.symm.trans find₀)
    have locks : Books.Bookings (fun _ => False) db.books locked.books := by
      rw [lock, ← books_lockEpoch db ctx k.accountKey]
      exact ensureAccounting_bookings _ _ _ _
    have locked_within := within.of_bookings sound returned locks
    have locked_sound : locked.books.Sound :=
      locks.invariant (fun _ _ h => h.of_booking) sound
    have instrument : (r'.release reason).instrument = r'.instrument := rfl
    rw [books_settle_setReservation instrument]
    have holding := holding_of_find find' reservation'
    by_cases own : k'.accountKey = key
    · rw [own] at holding ⊢
      have account : k.accountKey = key := rolled.sameTerms.accountKey.symm.trans own
      have covers : r'.remainingReservedNotional ≤ unused := by
        rw [unusedRemainder_eq plain planned account unused_eq]
        obtain rfl | ⟨reason, -, rfl⟩ := rolled.reservation reservation
        · exact (Option.some.inj (reservation'.symm.trans reservation)) ▸ le_rfl
        · obtain rfl : r.release reason = r' := Option.some.inj reservation'
          exact held.le
      refine locked_within.post locked_sound (account ▸ row_eq) ?_
      rw [Books.owed_of_holding holding]
      exact Books.lowerFor_amount_le (locked_sound.reservations _ _ _ holding) covers reason _
        returned
    · exact locked_within.post_of_ne own (by simp [holding, own])

theorem Write.within
    (plain : ∀ plan, cat.PlansOf key plan → plan.schemaVersion ≠ .manualDemoTradePlanV1)
    (planned : db.AllPlanned cat) (sound : db.books.Sound) (returned : col.returned = true)
    (h : Write gate cat db db') (within : db.books.Within key col) :
    db'.books.Within key col := by
  cases h with
  | outside h _ => rwa [h.books_eq]
  | mark find h => rwa [books_putCommand find h.sameTerms.accountKey h.reservation_eq]
  | release find _ allowed h =>
    exact (releaseUnusedReservation_outcome h).within plain (planned _ _ find) find sound returned
      within
  | fill h => exact within.of_bookings sound returned (applyUniqueFill_outcome h).bookings
  | claim _ _ h => exact within.of_bookings sound returned (finishClaim_outcome h).bookings

end Db

section reached
variable {cat : Catalog} {key : AccountKey} {ls : List Label}

/-- No reserved column is more than what the reservations of the account call for. -/
theorem reached_within
    (plain : ∀ plan, cat.PlansOf key plan → plan.schemaVersion ≠ .manualDemoTradePlanV1)
    {col : Column} (returned : col.returned = true) (ls : List Label) :
    (reached cat ls).db.books.Within key col := by
  have loose : Gate.any.Exact cat fun _ => True := fun _ _ _ _ _ _ _ _ _ _ => .inl trivial
  have all : ((reached cat ls).db.AllPlanned cat ∧ (reached cat ls).db.books.Sound) ∧
      (reached cat ls).db.books.Within key col := by
    refine reached_db_invariant (I := fun db => (db.AllPlanned cat ∧ db.books.Sound) ∧
      db.books.Within key col) ⟨⟨fun c k find => ?_, Books.sound_empty⟩, Books.within_empty⟩ ?_
      (along_respects_any cat World.init ls)
    · cases find
    · rintro db db' ⟨⟨planned, sound⟩, within⟩ write
      refine ⟨⟨planned.of_moved write.commandsMoved, ?_⟩, write.within plain planned sound returned
        within⟩
      exact (write.bookings planned loose).invariant (fun _ _ h => h.of_booking) sound
  exact all.2

theorem reached_countsFills (key : AccountKey) (ls : List Label) :
    (reached cat ls).db.books.CountsFills key := by
  have loose : Gate.any.Exact cat fun _ => True := fun _ _ _ _ _ _ _ _ _ _ => .inl trivial
  have booked := reached_bookings loose (along_respects_any cat World.init ls)
  have both := booked.invariant (I := fun b => b.Sound ∧ b.CountsFills key)
    (fun _ _ inv booking => ⟨inv.1.of_booking booking, inv.2.of_booking inv.1 booking⟩)
    ⟨Books.sound_empty, Books.countsFills_empty⟩
  exact both.2

theorem reached_slotInv {c : CommandId} {k : Command}
    (find : (reached cat ls).db.commands.find c = some k) : k.SlotInv :=
  reached_invariant (I := fun _ k => k.SlotInv) (fun _ _ => Command.Created.slotInv)
    (fun _ _ _ => Command.SlotInv.of_move) (along_respects_any cat _ ls) find

end reached

end AlphaTrade.Execution
