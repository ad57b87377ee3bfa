import AlphaTrade.Execution.Conservation

/-!
# Conservation without day rolls

On an account whose plans trade on a venue without day rolls, the ledger lock changes no
reservation of the account. What was posted for a command is then tallied by the command
itself: the actual exposure by its fill facts, and the loss budget by whether it was
released before any fill.
-/
namespace AlphaTrade.Execution
open Library

def FillFact.exposure (r : Reservation) (f : FillFact) : ℚ :=
  match fillQuoteExposure r f.quantity f.price with
  | .ok x => x
  | .error _ => 0

namespace Command

variable {gate : Gate} {cat : Catalog} {k k' : Command} {c : CommandId}

def SlotInv (k : Command) : Prop :=
  ∀ r, k.reservation = some r →
    r.dailyTradeAllocation = 1 ∧ (k.fills = [] ↔ r.convertedTradeSlots = 0)

theorem SlotInv.release (h : k.SlotInv) {r : Reservation} (reservation : k.reservation = some r)
    (reason : ReleaseReason) : (k.setReservation (r.release reason)).SlotInv := by
  intro r' reservation'
  obtain rfl := Option.some.inj reservation'
  exact h r reservation

theorem SlotInv.of_move (h : k.SlotInv) (m : Move gate cat k k') : k'.SlotInv := by
  cases m with
  | mark m =>
    intro r reservation
    rw [m.reservation_eq] at reservation
    rw [m.fills_eq]
    exact h r reservation
  | roll m =>
    obtain ⟨r, cause, reservation, -, -, rfl⟩ := m.orphan
    exact h.release reservation _
  | release reservation _ => exact h.release reservation _
  | fill m =>
    obtain ⟨r, notional, weighted, now, reservation, -, -, rfl⟩ := m.written
    obtain ⟨one, filled⟩ := h r reservation
    intro r' reservation'
    obtain rfl := Option.some.inj reservation'
    refine ⟨one, ?_⟩
    simp only [setReservation_fills, recordFill, record_fills, addFill_fills,
      List.append_eq_nil_iff,
      List.cons_ne_self, and_false, false_iff, Reservation.convert, one]
    split <;> omega

theorem Created.slotInv (h : Created cat c k) : k.SlotInv := by
  intro r reservation
  cases h with
  | blocked _ _ => cases reservation
  | @allowed p env epoch intent _ intent_eq _ _ =>
    obtain rfl := Option.some.inj reservation
    have opens := Db.opens_newReservation epoch env intent_eq
    exact ⟨opens.slots.trans opens.one_slot, by simp [PendingClaim.allowedCommand,
      PendingClaim.newReservation]⟩

end Command

/-! ## The tally of a command -/

namespace Books

variable {b : Books} {c i : CommandId} {key : AccountKey} {k : Command} {r : Reservation}

def releasedUnfilled (b : Books) (key : AccountKey) (c : CommandId) : Bool :=
  (b.page key).any fun p => p.command = c ∧ p.kind = .release true

structure Tally (key : AccountKey) (b : Books) (c : CommandId) (k : Command) (r : Reservation) :
    Prop where
  actual : b.part key .actual c = (k.fills.map (·.exposure r)).sum
  loss : b.part key .loss c = if b.releasedUnfilled key c then 0 else r.dailyLossAllocation

/-- The tally of a command reads the page of its account only. -/
theorem Tally.of_page_eq {b' : Books} (h : b.Tally key c k r) (page : b'.page key = b.page key) :
    b'.Tally key c k r := by
  have parts : ∀ col, b'.part key col c = b.part key col c := fun col => by simp only [part, page]
  have unfilled : b'.releasedUnfilled key c = b.releasedUnfilled key c := by
    simp only [releasedUnfilled, page]
  constructor
  · rw [parts]
    exact h.actual
  · rw [parts, unfilled]
    exact h.loss

section post
variable {kind : PostingKind} {intended : Delta} {old new : Accounting}

theorem releasedUnfilled_post_self :
    (b.post c key r kind intended old new).releasedUnfilled key c =
      (b.releasedUnfilled key c || decide (kind = .release true)) := by
  simp [releasedUnfilled, page_post_self]

theorem Tally.post_of_ne {r' : Reservation} (h : b.Tally key i k r) (other : i ≠ c) :
    (b.post c key r' kind intended old new).Tally key i k r := by
  constructor
  · rw [part_post_of_ne other]
    exact h.actual
  · rw [part_post_of_ne other, h.loss]
    simp [releasedUnfilled, page_post_self, Ne.symm other]

end post

variable {row : Accounting}

theorem tally_charge (sound : b.Sound) {intent : ReservationIntent} (fresh : b.holding c = none)
    (opens : intent.Opens r) (unfilled : k.fills = []) :
    (b.post c key r .charge (chargeDelta intent) row (chargeReservation row intent)).Tally key c k
      r := by
  have zero : ∀ col, b.part key col c = 0 := sound.part_eq_zero (by simp [fresh])
  have plain : Delta.between r.instrument row (chargeReservation row intent) =
      chargeDelta intent := by
    rw [opens.instrument]
    exact between_charge row intent
  have unreleased : b.releasedUnfilled key c = false := by
    simp only [releasedUnfilled, List.any_eq_false, decide_eq_true_eq, not_and]
    intro p mem same
    obtain ⟨mem, -⟩ := List.mem_filter.mp mem
    obtain ⟨r', held, -⟩ := sound.postings p mem
    simp [same, fresh] at held
  constructor
  · simp [part_post_self, zero, plain, Delta.amount, chargeDelta, unfilled]
  · simp [part_post_self, zero, plain, Delta.amount, chargeDelta, releasedUnfilled_post_self,
      unreleased, opens.loss]

theorem Tally.convert (h : b.Tally key c k r) {k' : Command} {fact : FillFact} {notional : ℚ}
    (fills : k'.fills = k.fills ++ [fact])
    (exposure : fillQuoteExposure r fact.quantity fact.price = .ok notional)
    (plain : Delta.between r.instrument row (row.convertFor r notional) = convertDelta r notional) :
    (b.post c key (r.convert notional) .fill (convertDelta r notional) row
      (row.convertFor r notional)).Tally key c k' (r.convert notional) := by
  have same : ∀ f : FillFact, f.exposure (r.convert notional) = f.exposure r := fun _ => rfl
  have symbol : (r.convert notional).instrument = r.instrument := rfl
  have loss : (r.convert notional).dailyLossAllocation = r.dailyLossAllocation := rfl
  have last : fact.exposure r = notional := by simp [FillFact.exposure, exposure]
  constructor
  · rw [part_post_self, symbol, plain, h.actual, fills]
    simp [same, last, Delta.amount, convertDelta]
  · rw [part_post_self, symbol, plain, h.loss, releasedUnfilled_post_self, loss]
    simp [Delta.amount, convertDelta]

theorem Tally.release (h : b.Tally key c k r) {reason : ReleaseReason} {unused : ℚ} {version : Nat}
    (slot : k.SlotInv) (reservation : k.reservation = some r)
    (held : b.part key .loss c = r.dailyLossAllocation) (pos : 0 < r.dailyLossAllocation)
    (plain : Delta.between r.instrument row { row.lowerFor r unused with version := version } =
      releaseDelta r unused) :
    (b.post c key (r.release reason) (.release k.fills.isEmpty) (releaseDelta r unused) row
      { row.lowerFor r unused with version := version }).Tally key c
      (k.setReservation (r.release reason)) (r.release reason) := by
  have same : ∀ f : FillFact, f.exposure (r.release reason) = f.exposure r := fun _ => rfl
  have symbol : (r.release reason).instrument = r.instrument := rfl
  have loss : (r.release reason).dailyLossAllocation = r.dailyLossAllocation := rfl
  -- The budget is still there, so no release before this one returned it.
  have first : b.releasedUnfilled key c = false := by
    by_contra returned
    have zero := h.loss
    rw [if_pos (Bool.eq_true_of_not_eq_false returned), held] at zero
    exact pos.ne' zero
  constructor
  · rw [part_post_self, symbol, plain, h.actual]
    simp [same, Delta.amount, releaseDelta]
  · rw [part_post_self, symbol, plain, held, releasedUnfilled_post_self, first, loss]
    by_cases unfilled : k.fills = []
    · have unconverted := (slot r reservation).2.mp unfilled
      simp [Delta.amount, releaseDelta, unfilled, unconverted]
    · have converted : r.convertedTradeSlots ≠ 0 := fun zero =>
        unfilled ((slot r reservation).2.mpr zero)
      simp [Delta.amount, releaseDelta, unfilled, converted]

end Books

/-! ## The page of an account without day rolls -/

namespace Db

variable {cat : Catalog} {ctx : Ctx} {db db' : Db} {c : CommandId} {key : AccountKey}

/-- The commands of the account and its page are as they were. -/
structure SamePage (key : AccountKey) (db db' : Db) : Prop where
  commands : ∀ c k, k.accountKey = key →
    (db'.commands.find c = some k ↔ db.commands.find c = some k)
  page : db'.books.page key = db.books.page key

theorem SamePage.refl (db : Db) : SamePage key db db := ⟨fun _ _ _ => Iff.rfl, rfl⟩

theorem SamePage.trans {a b d : Db} (h : SamePage key a b) (h' : SamePage key b d) :
    SamePage key a d :=
  ⟨fun c k own => (h'.commands c k own).trans (h.commands c k own), h'.page.trans h.page⟩

theorem SamePage.of_eq (commands : db'.commands = db.commands)
    (journal : db'.journal = db.journal) :
    SamePage key db db' :=
  ⟨fun c k _ => by rw [commands], by simp [Books.page, books, journal]⟩

theorem lockEpoch_samePage (db : Db) (ctx : Ctx) (key' : AccountKey) :
    SamePage key db (db.lockEpoch ctx key').1 :=
  .of_eq (lockEpoch_commands db ctx key') (lockEpoch_journal db ctx key')

variable {k : Command} {kind : PostingKind} {instrument : String} {intended : Delta} {now : Instant}

/-- A settlement on another account. -/
theorem samePage_settle {old new : Accounting} (foreign : k.accountKey ≠ key)
    (before : ∀ k₀, db.commands.find c = some k₀ → k₀.accountKey ≠ key) :
    SamePage key db (db.settle c k kind instrument intended old new) := by
  constructor
  · intro i k' own
    by_cases same : i = c
    · subst same
      constructor
      · intro find
        obtain rfl : k = k' := by simpa [settle] using find
        exact absurd own foreign
      · intro find
        exact absurd own (before k' find)
    · simp [settle, Table.find_put_of_ne _ same]
  · simp [Books.page, books, settle, foreign]

def Unrolled (cat : Catalog) (key : AccountKey) (db : Db) : Prop :=
  ∀ c k, db.commands.find c = some k → k.accountKey = key →
    cat.venue k ≠ some internalPaperVenue

theorem Unrolled.of_rolled (h : db.Unrolled cat key) (rolled : CommandsRolled cat now db db') :
    db'.Unrolled cat key := by
  intro c k' find' own
  cases find : db.commands.find c with
  | none =>
    rw [rolled.find_eq_none.mpr find] at find'
    cases find'
  | some k =>
    obtain ⟨k₁, find₁, moved⟩ := rolled.exists_find find
    obtain rfl : k₁ = k' := Option.some.inj (find₁.symm.trans find')
    have terms := moved.sameTerms
    have venue : cat.venue k₁ = cat.venue k := by simp [Catalog.venue, terms.revisionId]
    rw [venue]
    exact h c k find (terms.accountKey ▸ own)

theorem releaseOrphan_samePage (now : Instant) (key' : AccountKey) (h : db.Unrolled cat key)
    (c : CommandId) : SamePage key db (releaseOrphan cat now key' db c) := by
  unfold releaseOrphan
  split
  case h_2 => exact .refl db
  rename_i k row find found
  split
  case h_2 => exact .refl db
  rename_i r reservation
  split
  case isFalse => exact .refl db
  split
  case h_2 => exact .refl db
  rename_i cause orphan
  have foreign : k.accountKey ≠ key := by
    intro own
    simp [orphanCause, h c k find own] at orphan
  refine samePage_settle foreign fun k₀ find₀ => ?_
  obtain rfl : k = k₀ := Option.some.inj (find.symm.trans find₀)
  exact foreign

theorem releaseOrphanedPaperReservations_samePage (now : Instant) (key' : AccountKey)
    (h : db.Unrolled cat key) :
    SamePage key db (db.releaseOrphanedPaperReservations cat now key') := by
  unfold releaseOrphanedPaperReservations
  generalize db.rollOrder = order
  induction order generalizing db with
  | nil => exact .refl db
  | cons c order ih =>
    exact (releaseOrphan_samePage now key' h c).trans
      (ih (h.of_rolled (releaseOrphan_commandsRolled cat now key' db c)))

/-- The ledger lock, of whatever account, leaves the page alone. -/
theorem ensureAccounting_samePage (h : db.Unrolled cat key) (ctx : Ctx) (key' : AccountKey)
    (user : UserId) (unit : String) (roll : Bool) :
    SamePage key db (db.ensureAccounting cat ctx key' user unit roll) := by
  unfold ensureAccounting rollDailyTradeSlots
  split
  · split
    · dsimp only
      split
      · exact .refl db
      · exact (releaseOrphanedPaperReservations_samePage ctx.now key' h).trans (.of_eq rfl rfl)
    · exact .refl db
  · exact .of_eq rfl rfl

def Tallied (key : AccountKey) (db : Db) : Prop :=
  ∀ c k r, db.commands.find c = some k → k.accountKey = key → k.reservation = some r →
    db.books.Tally key c k r

theorem Tallied.of_samePage (h : db.Tallied key) (same : SamePage key db db') :
    db'.Tallied key := by
  intro c k r find own reservation
  exact (h c k r ((same.commands c k own).mp find) own reservation).of_page_eq same.page

/-- A settlement on the account, given the tally of its own command. -/
theorem tallied_settle {r : Reservation} {old new : Accounting} (own : k.accountKey = key)
    (reservation : k.reservation = some r) (symbol : r.instrument = instrument)
    (others : ∀ i k r, i ≠ c → db.commands.find i = some k → k.accountKey = key → k.reservation =
      some r → db.books.Tally key i k r)
    (tally : (db.books.post c key r kind intended old new).Tally key c k r) :
    (db.settle c k kind instrument intended old new).Tallied key := by
  have posted : (db.settle c k kind instrument intended old new).books =
      db.books.post c k.accountKey r kind intended old new := books_settle reservation symbol
  intro i k' r' find' own' reservation'
  rw [posted, own]
  by_cases same : i = c
  · subst same
    obtain rfl : k = k' := by simpa [settle] using find'
    obtain rfl : r = r' := Option.some.inj (reservation.symm.trans reservation')
    exact tally
  · have find : db.commands.find i = some k' := by
      simpa [settle, Table.find_put_of_ne _ same] using find'
    exact (others i k' r' same find own' reservation').post_of_ne same

/-! ## Writes -/

/-- A command on another venue is not touched by the roll. -/
theorem RolledTo.eq_of_venue {k' : Command} (h : RolledTo cat now k k')
    (venue : cat.venue k ≠ some internalPaperVenue) : k' = k := by
  obtain rfl | h := h
  · rfl
  · obtain ⟨r, cause, -, -, orphan, -⟩ := h.orphan
    simp [orphanCause, venue] at orphan

/-- What holds on an account without day rolls. -/
structure Settled (cat : Catalog) (key : AccountKey) (db : Db) : Prop where
  planned : db.AllPlanned cat
  slots : ∀ c k, db.commands.find c = some k → k.SlotInv
  sound : db.books.Sound
  kept : db.books.Kept key
  tallied : db.Tallied key

end Db

def Catalog.NeverRolls (cat : Catalog) (key : AccountKey) : Prop :=
  ∀ plan, cat.PlansOf key plan →
    plan.executionVenue ≠ internalPaperVenue ∧ plan.schemaVersion ≠ .manualDemoTradePlanV1

namespace Catalog.NeverRolls

variable {cat : Catalog} {key : AccountKey}

theorem venue (h : cat.NeverRolls key) {k : Command} (planned : k.Planned cat)
    (own : k.accountKey = key) : cat.venue k ≠ some internalPaperVenue := by
  obtain ⟨plan, found, account⟩ := planned
  simpa [Catalog.venue, found] using (h plan ⟨⟨_, found⟩, account.trans own⟩).1

theorem unrolled (h : cat.NeverRolls key) {db : Db} (planned : db.AllPlanned cat) :
    db.Unrolled cat key := fun c k find own => h.venue (planned c k find) own

theorem exact_ (h : cat.NeverRolls key) : Gate.any.Exact cat fun key' => key' ≠ key := by
  intro db ctx c k r unused planned _ reservation unused_eq
  by_cases own : k.accountKey = key
  · refine .inr ⟨unusedRemainder_eq (fun plan of => (h plan of).2) planned own unused_eq, ?_⟩
    intro rolls
    exact absurd (decide_eq_true_eq.mp rolls) (h.venue planned own)
  · exact .inl own

end Catalog.NeverRolls

namespace Db

variable {cat : Catalog} {ctx : Ctx} {db db' : Db} {c : CommandId} {key : AccountKey}

theorem ReleaseOutcome.tallied {reason : ReleaseReason} (never : cat.NeverRolls key)
    (h : db.Settled cat key) (outcome : ReleaseOutcome cat ctx db c reason db') :
    db'.Tallied key := by
  cases outcome with
  | nothing _ _ => exact h.tallied.of_samePage (lockEpoch_samePage _ _ _)
  | @released k k' r r' unused row locked find reservation held unused_eq lock row_eq find' rolled
      reservation' =>
    have unrolled : (db.lockEpoch ctx k.accountKey).1.Unrolled cat key := by
      intro i k₀ find₀ own
      exact never.unrolled h.planned i k₀ (by simpa using find₀) own
    have same : SamePage key db locked :=
      (lockEpoch_samePage db ctx k.accountKey).trans
        (lock ▸ ensureAccounting_samePage unrolled ctx k.accountKey _ _ _)
    have locks : Books.Bookings (fun key' => key' ≠ key) db.books locked.books := by
      rw [lock, ← books_lockEpoch db ctx k.accountKey]
      exact ensureAccounting_bookings _ _ _ _
    obtain ⟨sound, kept⟩ := locks.kept h.sound h.kept
    by_cases own : k.accountKey = key
    · obtain rfl := rolled.eq_of_venue (never.venue (h.planned c k find) own)
      obtain rfl : r' = r := Option.some.inj (reservation'.symm.trans reservation)
      obtain rfl := unusedRemainder_eq (fun plan of => (never plan of).2) (h.planned c k' find) own
        unused_eq
      have holds : locked.books.holding c = some (key, r') :=
        own ▸ holding_of_find find' reservation
      have whole := sound.reservations c key r' holds
      have live := whole.live held
      have loss := (kept.accounts c r' holds).loss.resolve_right fun returned => live returned.2
      have found : locked.books.accounting key = some row := own ▸ row_eq
      have tallied := h.tallied.of_samePage same
      refine tallied_settle own rfl rfl (fun i k r _ => tallied i k r) ?_
      exact (tallied c k' r' find' own reservation).release (h.slots c k' find) reservation loss
        whole.loss (kept.between_release sound (row.version + 1) holds found live)
    · have foreign : k'.accountKey ≠ key := by
        rw [rolled.sameTerms.accountKey]
        exact own
      refine (h.tallied.of_samePage same).of_samePage (samePage_settle foreign fun k₀ find₀ => ?_)
      obtain rfl : k' = k₀ := Option.some.inj (find'.symm.trans find₀)
      exact foreign

theorem FillOutcome.tallied {request : FillRequest} (never : cat.NeverRolls key)
    (h : db.Settled cat key) (outcome : FillOutcome cat ctx db c request db') :
    db'.Tallied key := by
  cases outcome with
  | replayed _ _ _ _ => exact h.tallied.of_samePage (lockEpoch_samePage _ _ _)
  | @accepted k k' r r' identity time fact row notional weighted locked checked find reservation
      fact_eq fresh covered lock row_eq find' rolled reservation' notional_eq weighted_eq =>
    -- The fact is stored first, and the lock meets the command with it.
    let stored := (db.lockEpoch ctx k.accountKey).1.putCommand c (k.addFill fact)
    have books : stored.books = db.books :=
      (books_putCommand (by simpa using find) (Command.accountKey_addFill k fact)
        (Command.addFill_reservation k fact)).trans (books_lockEpoch db ctx k.accountKey)
    have other : ∀ i, i ≠ c → stored.commands.find i = db.commands.find i := by
      intro i ne
      simp [stored, putCommand, Table.find_put_of_ne _ ne]
    have unrolled : stored.Unrolled cat key := by
      intro i k₀ find₀ own
      by_cases same : i = c
      · subst same
        obtain rfl : k.addFill fact = k₀ := by simpa [stored, putCommand] using find₀
        exact never.venue (h.planned i k find) own
      · exact never.unrolled h.planned i k₀ (other i same ▸ find₀) own
    have same : SamePage key stored locked := lock ▸ ensureAccounting_samePage unrolled ctx _ _ _ _
    have page : locked.books.page key = db.books.page key := by rw [same.page, books]
    have others : ∀ i k r, i ≠ c → locked.commands.find i = some k → k.accountKey = key →
        k.reservation = some r → locked.books.Tally key i k r := by
      intro i k₀ r₀ ne find₀ own reservation₀
      have before := (same.commands i k₀ own).mp find₀
      rw [other i ne] at before
      exact (h.tallied i k₀ r₀ before own reservation₀).of_page_eq page
    by_cases own : k.accountKey = key
    · obtain rfl := rolled.eq_of_venue (never.venue (h.planned c k find) own)
      obtain rfl : r' = r := Option.some.inj (reservation'.symm.trans reservation)
      have locks : Books.Bookings (fun key' => key' ≠ key) db.books locked.books := by
        rw [lock, ← books]
        exact ensureAccounting_bookings _ _ _ _
      obtain ⟨sound, kept⟩ := locks.kept h.sound h.kept
      have holds : locked.books.holding c = some (key, r') := by
        have held := holding_of_find find' reservation
        rwa [Command.accountKey_addFill, own] at held
      have found : locked.books.accounting key = some row := own ▸ row_eq
      have plain := kept.between_convert sound holds found (fillQuoteExposure_pos notional_eq)
      have tally := (h.tallied c k' r' find own reservation).of_page_eq page
      exact tallied_settle own rfl rfl others (tally.convert rfl notional_eq plain)
    · have foreign : k'.accountKey ≠ key := by
        rw [rolled.sameTerms.accountKey]
        exact own
      have tallied : locked.Tallied key := by
        intro i k₀ r₀ find₀ own₀ reservation₀
        refine others i k₀ r₀ ?_ find₀ own₀ reservation₀
        rintro rfl
        obtain rfl := Option.some.inj (find'.symm.trans find₀)
        exact foreign own₀
      refine tallied.of_samePage (samePage_settle foreign fun k₀ find₀ => ?_)
      obtain rfl := Option.some.inj (find'.symm.trans find₀)
      exact foreign

theorem ClaimOutcome.tallied {p : PendingClaim} {result : ClaimResult} (never : cat.NeverRolls key)
    (h : db.Settled cat key) (outcome : ClaimOutcome cat ctx db p db' result) :
    db'.Tallied key := by
  have lock : ∀ {locked epoch row intent}, ClaimLocked cat ctx db p locked epoch row intent →
      SamePage key db locked := by
    intro locked epoch row intent decision
    have unrolled : (db.lockEpoch ctx p.request.accountKey).1.Unrolled cat key := by
      intro i k₀ find₀ own
      exact never.unrolled h.planned i k₀ (by simpa using find₀) own
    exact (lockEpoch_samePage db ctx p.request.accountKey).trans
      (decision.lock ▸ ensureAccounting_samePage unrolled _ _ _ _ _)
  cases outcome with
  | replayed _ _ _ => exact h.tallied
  | @blocked locked epoch row intent i receipt reason decision fresh =>
    have tallied := h.tallied.of_samePage (lock decision)
    have filed : (locked.putCommand i (p.blockedCommand receipt reason intent)).books =
        locked.books := books_putCommand_of_none fresh.command rfl
    intro j k r find own reservation
    have other : j ≠ i := by
      rintro rfl
      obtain rfl : p.blockedCommand receipt reason intent = k := by
        simpa [bind, putCommand] using find
      cases reservation
    have find₀ : locked.commands.find j = some k := by
      simpa [bind, putCommand, Table.find_put_of_ne _ other] using find
    exact (tallied j k r find₀ own reservation).of_page_eq (congrArg (·.page key) filed)
  | @allowed locked consumed epoch row intent env authorization decision _ _ fresh _ consume =>
    have commands := consumeAuthorization_commands consume
    have books := consumeAuthorization_books consume
    have same : SamePage key locked consumed :=
      ⟨fun i k _ => by rw [commands], by rw [books]⟩
    have tallied := (h.tallied.of_samePage (lock decision)).of_samePage same
    have locks : Books.Bookings (fun key' => key' ≠ key) db.books locked.books := decision.bookings
    obtain ⟨sound, -⟩ := locks.kept h.sound h.kept
    have absent : consumed.commands.find env.commandId = none := by
      rw [commands]
      exact fresh.command
    by_cases own : p.request.accountKey = key
    · have opens := opens_newReservation epoch.epoch env decision.intent_eq
      refine tallied_settle own rfl rfl (fun i k r _ => tallied i k r) ?_
      exact Books.tally_charge (books ▸ sound) (holding_of_none absent) opens rfl
    · have foreign : (p.allowedCommand cat env epoch.epoch intent).accountKey ≠ key := own
      have before : ∀ k₀, consumed.commands.find env.commandId = some k₀ → k₀.accountKey ≠ key := by
        intro k₀ find₀
        simp [absent] at find₀
      exact (tallied.of_samePage (samePage_settle foreign before)).of_samePage (.of_eq rfl rfl)

theorem Write.settled (never : cat.NeverRolls key) (h : db.Settled cat key)
    (write : Write .any cat db db') : db'.Settled cat key := by
  have moved := write.commandsMoved
  obtain ⟨sound, kept⟩ := (write.bookings h.planned never.exact_).kept h.sound h.kept
  refine ⟨h.planned.of_moved moved, moved.all (fun _ _ => Command.Created.slotInv)
    (fun _ _ => Command.SlotInv.of_move) h.slots, sound, kept, ?_⟩
  cases write with
  | outside same _ => exact h.tallied.of_samePage (.of_eq same.commands same.journal)
  | @mark c k k' find m =>
    have books := books_putCommand find m.sameTerms.accountKey m.reservation_eq
    intro i k₀ r find₀ own reservation
    rw [books]
    by_cases same : i = c
    · subst same
      obtain rfl : k' = k₀ := by simpa [putCommand] using find₀
      rw [m.reservation_eq] at reservation
      rw [m.sameTerms.accountKey] at own
      obtain ⟨actual, loss⟩ := h.tallied i k r find own reservation
      exact ⟨by rw [m.fills_eq]; exact actual, loss⟩
    · exact h.tallied i k₀ r (by simpa [putCommand, Table.find_put_of_ne _ same] using find₀) own
        reservation
  | release _ _ _ released => exact (releaseUnusedReservation_outcome released).tallied never h
  | fill filled => exact (applyUniqueFill_outcome filled).tallied never h
  | claim _ _ claimed => exact (finishClaim_outcome claimed).tallied never h

/-- All postings for a command are on its account's page. -/
theorem releasedUnfilled_eq (sound : db.books.Sound) {k : Command}
    (find : db.commands.find c = some k) (own : k.accountKey = key) :
    db.books.releasedUnfilled key c =
      db.journal.any fun p => p.command = c ∧ p.kind = .release true := by
  rw [Bool.eq_iff_iff]
  simp only [Books.releasedUnfilled, Books.page, List.any_eq_true, List.mem_filter,
    decide_eq_true_eq]
  constructor
  · rintro ⟨p, ⟨mem, -⟩, is⟩
    exact ⟨p, mem, is⟩
  · rintro ⟨p, mem, is⟩
    exact ⟨p, ⟨mem, (account_of_posting sound find mem is.1).trans own⟩, is⟩

theorem settled_empty : Db.empty.Settled cat key := by
  refine ⟨?_, ?_, Books.sound_empty, Books.kept_empty, ?_⟩
  all_goals
    intro c k
    intros
    simp_all [Db.empty]

end Db

/-- On an account whose plans trade on a venue without day rolls and are not manual, after any
run: reserved notional is the sum of what the reservations still hold, in total and for each
instrument; actual notional is the exposure of all fills; reserved slots are those of the
reservations not released, reserved loss that of the reservations not released while unfilled;
and no clamp has changed a value. -/
theorem ledger_conserved (cat : Catalog) (key : AccountKey) (never : cat.NeverRolls key)
    (ls : List Label) (row : Accounting) (found : (reached cat ls).db.accounting key = some row) :
    row.reservedNotional =
      (reached cat ls).db.sumOver key (fun _ _ r => r.remainingReservedNotional) ∧
    (∀ i, row.symbolReserved i = (reached cat ls).db.sumOver key fun _ _ r =>
      if i = r.instrument then r.remainingReservedNotional else 0) ∧
    row.actualNotional = (reached cat ls).db.sumOver key (fun _ k r =>
      (k.fills.map (·.exposure r)).sum) ∧
    row.reservedTradeSlots = (reached cat ls).db.sumOver key (fun _ _ r =>
      if r.releaseState = .released then 0
      else ((r.dailyTradeAllocation - r.convertedTradeSlots : ℤ) : ℚ)) ∧
    row.reservedDailyLoss = (reached cat ls).db.sumOver key (fun c _ r =>
      if (reached cat ls).db.journal.any (fun p => p.command = c ∧ p.kind = .release true) then 0
      else r.dailyLossAllocation) ∧
    ∀ p ∈ (reached cat ls).db.journal, p.account = key → p.applied = p.intended := by
  have settled : (reached cat ls).db.Settled cat key :=
    reached_db_invariant Db.settled_empty (fun _ _ h write => write.settled never h)
      (along_respects_any cat World.init ls)
  have accounts : ∀ c k r, (reached cat ls).db.commands.find c = some k → k.accountKey = key →
      k.reservation = some r →
      r.Accounts fun col => (reached cat ls).db.books.part key col c := by
    intro c k r find own reservation
    exact settled.kept.accounts c r (own ▸ Db.holding_of_find find reservation)
  have sum := Db.amount_eq_sumOver settled.sound found
  refine ⟨?_, fun i => ?_, ?_, ?_, ?_, ?_⟩
  · exact sum .notional fun c k r find own reservation =>
      (accounts c k r find own reservation).notional
  · exact sum (.symbol i) fun c k r find own reservation =>
      (accounts c k r find own reservation).symbol i
  · exact sum .actual fun c k r find own reservation =>
      (settled.tallied c k r find own reservation).actual
  · exact sum .slots fun c k r find own reservation =>
      (accounts c k r find own reservation).slots
  · refine sum .loss fun c k r find own reservation => ?_
    rw [← Db.releasedUnfilled_eq settled.sound find own]
    exact (settled.tallied c k r find own reservation).loss
  · intro p mem own
    exact settled.kept.unclamped p (List.mem_filter.mpr ⟨mem, by simpa using own⟩)

def mixedRun : List Label :=
  Sample.claim 1 1 ++ Sample.dispatch 2 1 ++
    [.beginFakeSend 0 1 "worker" 1, .finishFakeSend (Sample.ctx 3) 0 .rejected] ++
    Sample.claim 4 2 ++ Sample.dispatch 5 2 ++
    [Sample.fill 6 2 "a" 1 90, Sample.fill 7 2 "b" 1 150]

theorem ledger_conserved_mixedRun :
    ((reached (Sample.catalog blofinDemoVenue) mixedRun).db.accounting (1, 1)).map
        (fun row => (row.reservedNotional, row.actualNotional, row.reservedTradeSlots,
          row.reservedDailyLoss)) = some (0, 240, 0, 10) ∧
      ∀ row, (reached (Sample.catalog blofinDemoVenue) mixedRun).db.accounting (1, 1) = some row →
        row.reservedNotional = (reached (Sample.catalog blofinDemoVenue) mixedRun).db.sumOver (1, 1)
          fun _ _ r => r.remainingReservedNotional := by
  have never : (Sample.catalog blofinDemoVenue).NeverRolls (1, 1) := by
    intro plan of
    obtain ⟨venue, schema⟩ := Sample.catalog_plansOf plan of
    exact ⟨by rw [venue]; decide, by rw [schema]; decide⟩
  refine ⟨by decide +kernel, fun row found => ?_⟩
  exact (ledger_conserved (Sample.catalog blofinDemoVenue) (1, 1) never mixedRun row found).1

end AlphaTrade.Execution
