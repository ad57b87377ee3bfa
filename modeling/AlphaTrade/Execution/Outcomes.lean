import Mathlib.Data.Option.Basic
import AlphaTrade.Execution.Moves

/-!
# Outcomes of the operations on the ledger

The specification of the ledger lock, of a release, of a fill and of a claim: one
theorem each, which says everything a successful call has done. Later proofs cite
these and do not unfold the operations.
-/
namespace AlphaTrade.Execution
open Library

/-! ## Reads and locks -/

@[simp] theorem Command.requireEffect_eq_ok {k : Command} {e : Effect} :
    k.requireEffect = .ok e ↔ k.effect = some e := by
  unfold Command.requireEffect
  split <;> simp_all

theorem FillRequest.check_pos {request : FillRequest} {identity : String} {time : PyDateTime}
    (h : request.check = .ok (identity, time)) :
    0 < request.fillQuantity.toRat ∧ 0 < request.fillPrice.toRat := by
  unfold FillRequest.check at h
  split at h
  · cases h
  split at h
  · cases h
  split at h
  · cases h
  split at h
  · rename_i valid
    exact valid.2.2
  · cases h

namespace Db

variable {k : Command} {now : Instant} {fact : FillFact} {request : FillRequest}

@[simp] theorem requireCommand_eq_ok {db : Db} {c : CommandId} :
    db.requireCommand c = .ok k ↔ db.commands.find c = some k := by
  unfold requireCommand
  split <;> simp_all

/-- The tables of commands, ledger rows, postings and claims are as they were, and so are the
consumed authorizations. -/
structure SameBooks (db db' : Db) : Prop where
  commands : db'.commands = db.commands
  accounting : db'.accounting = db.accounting
  journal : db'.journal = db.journal
  bindings : db'.bindings = db.bindings
  planClaims : db'.planClaims = db.planClaims
  consumed : ∀ id a, a.state = .consumed →
    (db'.authorizations id = some a ↔ db.authorizations id = some a)

theorem SameBooks.refl (db : Db) : SameBooks db db :=
  ⟨rfl, rfl, rfl, rfl, rfl, fun _ _ _ => Iff.rfl⟩

theorem SameBooks.trans {a b c : Db} (h : SameBooks a b) (h' : SameBooks b c) : SameBooks a c := by
  constructor
  · exact h'.commands.trans h.commands
  · exact h'.accounting.trans h.accounting
  · exact h'.journal.trans h.journal
  · exact h'.bindings.trans h.bindings
  · exact h'.planClaims.trans h.planClaims
  · intro id a state
    exact (h'.consumed id a state).trans (h.consumed id a state)

theorem lockEpoch_sameBooks (db : Db) (ctx : Ctx) (key : AccountKey) :
    SameBooks db (db.lockEpoch ctx key).1 := by
  unfold lockEpoch
  split <;> exact ⟨rfl, rfl, rfl, rfl, rfl, fun _ _ _ => Iff.rfl⟩

/-- The switch is as it was, and so is every epoch row there was. -/
structure EpochsKept (db db' : Db) : Prop where
  kill : db'.kill = db.kill
  epochs : ∀ key row, db.epochs key = some row → db'.epochs key = some row

theorem EpochsKept.refl (db : Db) : EpochsKept db db := ⟨rfl, fun _ _ h => h⟩

theorem EpochsKept.trans {a b c : Db} (h : EpochsKept a b) (h' : EpochsKept b c) :
    EpochsKept a c :=
  ⟨h'.kill.trans h.kill, fun key row found => h'.epochs key row (h.epochs key row found)⟩

theorem EpochsKept.of_eq {db db' : Db} (kill : db'.kill = db.kill)
    (epochs : db'.epochs = db.epochs) :
    EpochsKept db db' := ⟨kill, fun _ _ found => epochs ▸ found⟩

/-- Locking an epoch hands out the stored row, after opening it if there was none. -/
theorem lockEpoch_epochs_self (db : Db) (ctx : Ctx) (key : AccountKey) :
    (db.lockEpoch ctx key).1.epochs key = some (db.lockEpoch ctx key).2 := by
  unfold lockEpoch
  split
  · assumption
  · simp

theorem lockEpoch_epochsKept (db : Db) (ctx : Ctx) (key : AccountKey) :
    EpochsKept db (db.lockEpoch ctx key).1 := by
  unfold lockEpoch
  split
  · exact .refl db
  · rename_i missing
    refine ⟨rfl, fun key' row found => ?_⟩
    have other : key' ≠ key := by
      rintro rfl
      simp [missing] at found
    simpa [Function.update_of_ne other] using found

section lockEpoch
variable (db : Db) (ctx : Ctx) (key : AccountKey)

@[simp] theorem lockEpoch_commands : (db.lockEpoch ctx key).1.commands = db.commands :=
  (db.lockEpoch_sameBooks ctx key).commands

@[simp] theorem lockEpoch_accounting : (db.lockEpoch ctx key).1.accounting = db.accounting :=
  (db.lockEpoch_sameBooks ctx key).accounting

@[simp] theorem lockEpoch_journal : (db.lockEpoch ctx key).1.journal = db.journal :=
  (db.lockEpoch_sameBooks ctx key).journal

@[simp] theorem lockEpoch_bindings : (db.lockEpoch ctx key).1.bindings = db.bindings :=
  (db.lockEpoch_sameBooks ctx key).bindings

@[simp] theorem lockEpoch_planClaims : (db.lockEpoch ctx key).1.planClaims = db.planClaims :=
  (db.lockEpoch_sameBooks ctx key).planClaims

@[simp] theorem lockEpoch_kill : (db.lockEpoch ctx key).1.kill = db.kill := by
  unfold lockEpoch
  split <;> rfl

@[simp] theorem lockEpoch_authorizations :
    (db.lockEpoch ctx key).1.authorizations = db.authorizations := by
  unfold lockEpoch
  split <;> rfl

@[simp] theorem safetyBlocksDispatch_lockEpoch (ctx' : Ctx) (k : Command) (epoch : SafetyEpoch)
    (claimed : Nat) :
    (db.lockEpoch ctx key).1.safetyBlocksDispatch ctx' k epoch claimed =
      db.safetyBlocksDispatch ctx' k epoch claimed := by
  simp [safetyBlocksDispatch, organizationKillActive]

end lockEpoch

/-! ## The ledger lock -/

/-- Everything but commands, ledger rows and postings is as it was. -/
structure SameClaims (db db' : Db) : Prop where
  kill : db'.kill = db.kill
  epochs : db'.epochs = db.epochs
  authorizations : db'.authorizations = db.authorizations
  bindings : db'.bindings = db.bindings
  planClaims : db'.planClaims = db.planClaims

theorem SameClaims.refl (db : Db) : SameClaims db db := by constructor <;> rfl

theorem SameClaims.trans {a b c : Db} (h : SameClaims a b) (h' : SameClaims b c) :
    SameClaims a c := by
  constructor
  · exact h'.kill.trans h.kill
  · exact h'.epochs.trans h.epochs
  · exact h'.authorizations.trans h.authorizations
  · exact h'.bindings.trans h.bindings
  · exact h'.planClaims.trans h.planClaims

theorem SameClaims.epochsKept {db db' : Db} (h : SameClaims db db') : EpochsKept db db' :=
  .of_eq h.kill h.epochs

def RolledTo (cat : Catalog) (now : Instant) (k k' : Command) : Prop :=
  k' = k ∨ Command.Rolls cat now k k'

theorem RolledTo.trans {cat : Catalog} {k' k'' : Command} (h : RolledTo cat now k k')
    (h' : RolledTo cat now k' k'') : RolledTo cat now k k'' := by
  obtain rfl | h := h
  · exact h'
  obtain rfl | h' := h'
  · exact .inr h
  -- A released reservation is not looked at again.
  obtain ⟨r, cause, -, -, -, rfl⟩ := h.orphan
  obtain ⟨r', -, hr', live, -⟩ := h'.orphan
  obtain rfl : r.release cause.releaseReason = r' := by simpa using hr'
  exact absurd rfl live

def CommandsRolled (cat : Catalog) (now : Instant) (db db' : Db) : Prop :=
  ∀ c, Option.Rel (RolledTo cat now) (db.commands.find c) (db'.commands.find c)

theorem CommandsRolled.refl (cat : Catalog) (now : Instant) (db : Db) :
    CommandsRolled cat now db db := by
  intro c
  cases db.commands.find c with
  | none => exact .none
  | some k => exact .some (.inl rfl)

theorem CommandsRolled.trans {cat : Catalog} {a b c : Db} (h : CommandsRolled cat now a b)
    (h' : CommandsRolled cat now b c) : CommandsRolled cat now a c := by
  intro i
  have first := h i
  have second := h' i
  generalize a.commands.find i = x at first
  generalize b.commands.find i = y at first second
  generalize c.commands.find i = z at second
  cases first with
  | none => exact second
  | some first =>
    cases second with
    | some second => exact .some (first.trans second)

theorem releaseOrphan_sameClaims (cat : Catalog) (now : Instant) (key : AccountKey) (db : Db)
    (c : CommandId) : SameClaims db (releaseOrphan cat now key db c) := by
  unfold releaseOrphan
  repeat' split
  all_goals constructor <;> rfl

theorem releaseOrphan_commandsRolled (cat : Catalog) (now : Instant) (key : AccountKey) (db : Db)
    (c : CommandId) : CommandsRolled cat now db (releaseOrphan cat now key db c) := by
  unfold releaseOrphan
  split
  case h_2 => exact .refl cat now db
  rename_i k row find _
  split
  case h_2 => exact .refl cat now db
  rename_i r reservation
  split
  case isFalse => exact .refl cat now db
  rename_i live
  split
  case h_2 => exact .refl cat now db
  rename_i cause orphan
  intro i
  by_cases same : i = c
  · subst same
    simp only [settle, find, Table.find_put_self]
    exact .some (.inr ⟨r, cause, reservation, live.2, orphan, rfl⟩)
  · simp only [settle, Table.find_put_of_ne _ same]
    exact CommandsRolled.refl cat now db i

theorem releaseOrphanedPaperReservations_sameClaims (cat : Catalog) (now : Instant)
    (key : AccountKey) (db : Db) :
    SameClaims db (db.releaseOrphanedPaperReservations cat now key) := by
  unfold releaseOrphanedPaperReservations
  generalize db.rollOrder = order
  induction order generalizing db with
  | nil => exact .refl db
  | cons c order ih => exact (releaseOrphan_sameClaims cat now key db c).trans (ih _)

theorem releaseOrphanedPaperReservations_commandsRolled (cat : Catalog) (now : Instant)
    (key : AccountKey) (db : Db) :
    CommandsRolled cat now db (db.releaseOrphanedPaperReservations cat now key) := by
  unfold releaseOrphanedPaperReservations
  generalize db.rollOrder = order
  induction order generalizing db with
  | nil => exact .refl cat now db
  | cons c order ih => exact (releaseOrphan_commandsRolled cat now key db c).trans (ih _)

section ensureAccounting
variable (cat : Catalog) (ctx : Ctx) (key : AccountKey) (user : UserId) (unit : String)
  (roll : Bool) (db : Db)

theorem ensureAccounting_sameClaims :
    SameClaims db (db.ensureAccounting cat ctx key user unit roll) := by
  unfold ensureAccounting rollDailyTradeSlots
  split
  · split
    · dsimp only
      split
      · exact .refl db
      · exact (releaseOrphanedPaperReservations_sameClaims cat ctx.now key db).trans
          (by constructor <;> rfl)
    · exact .refl db
  · constructor <;> rfl

theorem ensureAccounting_commandsRolled :
    CommandsRolled cat ctx.now db (db.ensureAccounting cat ctx key user unit roll) := by
  unfold ensureAccounting rollDailyTradeSlots
  split
  · split
    · dsimp only
      split
      · exact .refl cat _ db
      · exact releaseOrphanedPaperReservations_commandsRolled cat ctx.now key db
    · exact .refl cat _ db
  · exact CommandsRolled.refl cat _ db

end ensureAccounting

variable {cat : Catalog} {ctx : Ctx} {db db' : Db} {c : CommandId}

@[simp] theorem lockRiskAccounting_eq_ok {key : AccountKey} {user : UserId} {unit : String}
    {roll : Bool} {x : Db × Accounting} :
    db.lockRiskAccounting cat ctx key user unit roll = .ok x ↔
      x.1 = db.ensureAccounting cat ctx key user unit roll ∧ x.1.accounting key = some x.2 := by
  unfold lockRiskAccounting
  obtain ⟨db', row⟩ := x
  dsimp only
  constructor
  · intro h
    split at h
    · rename_i found
      cases h
      exact ⟨rfl, found⟩
    · cases h
  · rintro ⟨rfl, found⟩
    simp [found]

theorem CommandsRolled.exists_find (h : CommandsRolled cat now db db')
    (find : db.commands.find c = some k) :
    ∃ k', db'.commands.find c = some k' ∧ RolledTo cat now k k' := by
  have rel := h c
  rw [find] at rel
  generalize db'.commands.find c = x at rel
  cases rel with
  | some rolled => exact ⟨_, rfl, rolled⟩

theorem CommandsRolled.find_eq_none (h : CommandsRolled cat now db db') :
    db'.commands.find c = none ↔ db.commands.find c = none := by
  have rel := h c
  generalize db'.commands.find c = x at rel
  generalize db.commands.find c = y at rel
  cases rel <;> simp

theorem RolledTo.sameTerms {k' : Command} (h : RolledTo cat now k k') : Command.SameTerms k k' := by
  obtain rfl | h := h
  · exact .refl k'
  · have move : Command.Move .any cat k k' := .roll h
    exact move.sameTerms

theorem RolledTo.fills_eq {k' : Command} (h : RolledTo cat now k k') : k'.fills = k.fills := by
  obtain rfl | h := h
  · rfl
  · obtain ⟨r, cause, -, -, -, rfl⟩ := h.orphan
    rfl

theorem RolledTo.projection_eq {k' : Command} (h : RolledTo cat now k k') :
    k'.projection = k.projection := by
  obtain rfl | h := h
  · rfl
  · obtain ⟨r, cause, -, -, -, rfl⟩ := h.orphan
    rfl

/-- The reservation after the roll: the same, or released. -/
theorem RolledTo.reservation {k' : Command} {r : Reservation} (h : RolledTo cat now k k')
    (hr : k.reservation = some r) :
    k' = k ∨ ∃ reason, r.releaseState ≠ .released ∧ k' = k.setReservation (r.release reason) := by
  obtain rfl | h := h
  · exact .inl rfl
  · obtain ⟨r', cause, hr', live, -, rfl⟩ := h.orphan
    obtain rfl : r = r' := Option.some.inj (hr.symm.trans hr')
    exact .inr ⟨cause.releaseReason, live, rfl⟩

/-- A fill stored before the roll does not change what the roll does to its command,
other than keeping an aged one alive. -/
theorem RolledTo.of_addFill {k' : Command} (h : RolledTo cat now (k.addFill fact) k') :
    ∃ k₀, RolledTo cat now k k₀ ∧ k' = k₀.addFill fact := by
  obtain rfl | h := h
  · exact ⟨k, .inl rfl, rfl⟩
  obtain ⟨r, cause, hr, live, orphan, rfl⟩ := h.orphan
  refine ⟨k.setReservation (r.release cause.releaseReason), .inr ⟨r, cause, hr, live, ?_, rfl⟩, rfl⟩
  have filled : (k.addFill fact).hasFill r = true := by simp [Command.hasFill]
  have terminal : (k.addFill fact).terminalCause = k.terminalCause := rfl
  have venue : cat.venue (k.addFill fact) = cat.venue k := rfl
  simp only [orphanCause, filled, terminal, venue, if_true] at orphan ⊢
  split at orphan
  · cases orphan
  · rename_i paper
    rw [if_neg paper]
    split at orphan
    · exact orphan
    · cases orphan

/-! ## Releases -/

/-- A successful `_release_unused_reservation`. -/
inductive ReleaseOutcome (cat : Catalog) (ctx : Ctx) (db : Db) (c : CommandId)
    (reason : ReleaseReason) : Db → Prop
  | nothing {k : Command} (find : db.commands.find c = some k)
      (spent : ∀ r, k.reservation = some r → r.remainingReservedNotional ≤ 0) :
      ReleaseOutcome cat ctx db c reason (db.lockEpoch ctx k.accountKey).1
  | released {k k' : Command} {r r' : Reservation} {unused : ℚ} {row : Accounting} {locked : Db}
      (find : db.commands.find c = some k) (reservation : k.reservation = some r)
      (held : 0 < r.remainingReservedNotional)
      (unused_eq : unusedRemainder cat ctx c k r = .ok unused)
      (lock : locked = (db.lockEpoch ctx k.accountKey).1.ensureAccounting cat ctx k.accountKey
        k.userId r.exposureUnit (paperDailyTradeRoll (cat.venue k)))
      (row_eq : locked.accounting k.accountKey = some row)
      (find' : locked.commands.find c = some k') (rolled : RolledTo cat ctx.now k k')
      (reservation' : k'.reservation = some r') :
      ReleaseOutcome cat ctx db c reason
        (locked.settle c (k'.setReservation (r'.release reason)) (.release k'.fills.isEmpty)
          r'.instrument (releaseDelta r' unused) row (releaseUnused r' row unused))

theorem releaseUnusedReservation_outcome {reason : ReleaseReason}
    (h : db.releaseUnusedReservation cat ctx c reason = .ok db') :
    ReleaseOutcome cat ctx db c reason db' := by
  simp only [releaseUnusedReservation, bind_eq_ok, requireCommand_eq_ok] at h
  obtain ⟨k, find, h⟩ := h
  split at h
  · rename_i none_
    obtain rfl := Except.ok.inj h
    exact .nothing find (by simp [none_])
  rename_i r reservation
  split at h
  · rename_i spent
    obtain rfl := Except.ok.inj h
    exact .nothing find (by simpa [reservation] using spent)
  rename_i held
  simp only [bind_eq_ok, lockRiskAccounting_eq_ok] at h
  obtain ⟨unused, unused_eq, ⟨locked, row⟩, ⟨lock, row_eq⟩, h⟩ := h
  dsimp only at lock row_eq h
  obtain rfl := Except.ok.inj h
  have commands : CommandsRolled cat ctx.now (db.lockEpoch ctx k.accountKey).1 locked :=
    lock ▸ ensureAccounting_commandsRolled _ _ _ _ _ _ _
  obtain ⟨k', find', rolled⟩ := commands.exists_find (c := c) (by simpa using find)
  obtain ⟨r', reservation'⟩ : ∃ r', k'.reservation = some r' := by
    apply Option.isSome_iff_exists.mp
    rw [rolled.sameTerms.reservation, reservation]
    rfl
  simp only [settleRelease, find', reservation']
  exact .released find reservation (not_le.mp held) unused_eq lock row_eq find' rolled reservation'

/-! ## Fills -/

/-- A successful `apply_unique_fill`: a replay, or a new fact. -/
inductive FillOutcome (cat : Catalog) (ctx : Ctx) (db : Db) (c : CommandId)
    (request : FillRequest) : Db → Prop
  | replayed {k : Command} {fact : FillFact} {identity : String} {time : PyDateTime}
      (checked : request.check = .ok (identity, time)) (find : db.commands.find c = some k)
      (known : fact ∈ k.fills) (identity_eq : fact.sourceFillIdentity = identity) :
      FillOutcome cat ctx db c request (db.lockEpoch ctx k.accountKey).1
  | accepted {k k' : Command} {r r' : Reservation} {identity : String} {time : PyDateTime}
      {fact : FillFact} {row : Accounting} {notional weighted : ℚ} {locked : Db}
      (checked : request.check = .ok (identity, time)) (find : db.commands.find c = some k)
      (reservation : k.reservation = some r)
      (fact_eq : fact = fillFact cat c k request identity time)
      (fresh : ∀ f ∈ k.fills, f.sourceFillIdentity ≠ identity)
      (covered : fact.quantity ≤ k.projection.remainingQuantity)
      (lock : locked = ((db.lockEpoch ctx k.accountKey).1.putCommand c
        (k.addFill fact)).ensureAccounting cat ctx k.accountKey k.userId r.exposureUnit
        (paperDailyTradeRoll (cat.venue k)))
      (row_eq : locked.accounting k.accountKey = some row)
      (find' : locked.commands.find c = some (k'.addFill fact))
      (rolled : RolledTo cat ctx.now k k') (reservation' : k'.reservation = some r')
      (notional_eq : fillQuoteExposure r' fact.quantity fact.price = .ok notional)
      (weighted_eq : cumulativeWeightedPrice k'.projection.filledQuantity
        k'.projection.weightedPrice fact.quantity fact.price = .ok weighted) :
      FillOutcome cat ctx db c request
        (locked.settle c
          (((k'.addFill fact).recordFill fact weighted ctx.now).setReservation
              (r'.convert notional))
          .fill r'.instrument (convertDelta r' notional) row (row.convertFor r' notional))

theorem applyUniqueFill_outcome {result : UniqueFillResult}
    (h : db.applyUniqueFill cat ctx c request = .ok (db', result)) :
    FillOutcome cat ctx db c request db' := by
  simp only [applyUniqueFill, bind_eq_ok, requireCommand_eq_ok] at h
  obtain ⟨⟨identity, time⟩, checked, k, find, h⟩ := h
  split at h
  · cases h
  rename_i r reservation
  split at h
  · rename_i fact known
    simp only [bind_eq_ok] at h
    obtain ⟨_, -, h⟩ := h
    obtain ⟨rfl, -⟩ := Prod.mk.inj (Except.ok.inj h)
    exact .replayed checked find (List.mem_of_find?_eq_some known)
      (by simpa using List.find?_some known)
  rename_i unknown
  simp only [bind_eq_ok, ensure_eq_ok, lockRiskAccounting_eq_ok, settleFill,
    requireCommand_eq_ok] at h
  obtain ⟨_, covered, ⟨locked, row⟩, ⟨lock, row_eq⟩, k₁, find₁, h⟩ := h
  dsimp only at lock row_eq find₁
  have commands : CommandsRolled cat ctx.now ((db.lockEpoch ctx k.accountKey).1.putCommand c
      (k.addFill (fillFact cat c k request identity time))) locked :=
    lock ▸ ensureAccounting_commandsRolled _ _ _ _ _ _ _
  obtain ⟨k₂, find₂, rolled⟩ := commands.exists_find (c := c) (Table.find_put_self _ _ _)
  obtain rfl : k₂ = k₁ := Option.some.inj (find₂.symm.trans find₁)
  obtain ⟨k', before, rfl⟩ := rolled.of_addFill
  split at h
  · cases h
  rename_i r' reservation'
  simp only [bind_eq_ok, Prod.exists, convertReservationForFill_eq_ok] at h
  obtain ⟨notional, _, _, ⟨notional_eq, rfl, rfl⟩, weighted, weighted_eq, h⟩ := h
  obtain ⟨rfl, -⟩ := Prod.mk.inj (Except.ok.inj h)
  exact .accepted checked find reservation rfl (by simpa using unknown) covered lock row_eq find₁
    before reservation' notional_eq weighted_eq

/-- A fill that passes every test is accepted. -/
theorem applyUniqueFill_eq_ok {k' : Command} {r r' : Reservation} {identity : String}
    {time : PyDateTime} {row : Accounting} {notional weighted : ℚ} {locked : Db}
    (checked : request.check = .ok (identity, time)) (find : db.commands.find c = some k)
    (reservation : k.reservation = some r) (fact_eq : fact = fillFact cat c k request identity time)
    (fresh : ∀ f ∈ k.fills, f.sourceFillIdentity ≠ identity)
    (covered : fact.quantity ≤ k.projection.remainingQuantity)
    (lock : locked = ((db.lockEpoch ctx k.accountKey).1.putCommand c (k.addFill
      fact)).ensureAccounting cat ctx k.accountKey k.userId r.exposureUnit (paperDailyTradeRoll
      (cat.venue k)))
    (row_eq : locked.accounting k.accountKey = some row) (find' : locked.commands.find c = some k')
    (reservation' : k'.reservation = some r')
    (notional_eq : fillQuoteExposure r' fact.quantity fact.price = .ok notional)
    (weighted_eq : cumulativeWeightedPrice k'.projection.filledQuantity k'.projection.weightedPrice
      fact.quantity fact.price = .ok weighted) :
    (db.applyUniqueFill cat ctx c request).map Prod.fst = .ok (locked.settle c
      ((k'.recordFill fact weighted ctx.now).setReservation (r'.convert notional)) .fill
      r'.instrument (convertDelta r' notional) row (row.convertFor r' notional)) := by
  have unknown : k.fills.find? (·.sourceFillIdentity = identity) = none := by
    simpa [List.find?_eq_none] using fresh
  subst fact_eq
  have fetched : db.requireCommand c = .ok k := requireCommand_eq_ok.mpr find
  have room : ensure (request.fillQuantity.toRat ≤ k.projection.remainingQuantity)
      (Error.conflict "Fill exceeds the immutable authorized quantity." none) = .ok () :=
    ensure_eq_ok.mpr covered
  have accounted := (lockRiskAccounting_eq_ok (x := (locked, row))).mpr ⟨lock, row_eq⟩
  have fetched' : locked.requireCommand c = .ok k' := requireCommand_eq_ok.mpr find'
  have converted := convertReservationForFill_eq_ok.mpr
    ⟨notional_eq, rfl, rfl (a := row.convertFor r' notional)⟩
  simp only [applyUniqueFill, checked, fetched, reservation, unknown, room, accounted, settleFill,
    fetched', reservation', converted, weighted_eq, Bind.bind, Except.bind, Except.map]

end Db

/-! ## Claims -/

namespace PendingClaim

/-- The binding was made for this principal, account, payload and revision. -/
structure Matches (p : PendingClaim) (b : Binding) : Prop where
  userId : b.userId = p.request.userId
  accountId : b.accountId = p.request.accountId
  operation : b.operationNamespace = submitEntryNamespace
  payload : b.canonicalPayloadHash = p.payloadHash
  revision : b.revisionId = p.plan.revisionId

@[simp] theorem assertBindingMatches_eq_ok {p : PendingClaim} {b : Binding} {u : Unit} :
    p.assertBindingMatches b = .ok u ↔ p.Matches b := by
  simp only [assertBindingMatches, bind_eq_ok, ensure_eq_ok, exists_const]
  constructor
  · rintro ⟨hu, ha, ho, hp, hr⟩
    exact ⟨hu, ha, ho, hp, hr⟩
  · rintro ⟨hu, ha, ho, hp, hr⟩
    exact ⟨hu, ha, ho, hp, hr⟩

def binding (p : PendingClaim) (db : Db) : Binding :=
  (db.bindings p.request.bindingKey).getD p.newBinding

end PendingClaim

namespace Db

/-- What a claim under an unfinished binding has read and locked when it decides. -/
structure ClaimLocked (cat : Catalog) (ctx : Ctx) (db : Db) (p : PendingClaim) (locked : Db)
    (epoch : SafetyEpoch) (row : Accounting) (intent : ReservationIntent) : Prop where
  unfinished : ¬((p.binding db).commandId.isSome ∧ (p.binding db).receiptId.isSome)
  matches_ : p.Matches (p.binding db)
  intent_eq : conservativeReservation p.plan = .ok intent
  epoch_eq : epoch = (db.lockEpoch ctx p.request.accountKey).2
  lock : locked = (db.lockEpoch ctx p.request.accountKey).1.ensureAccounting cat
    { ctx with now := p.now } p.request.accountKey p.request.userId intent.exposureUnit
    (paperDailyTradeRoll (some p.plan.executionVenue))
  row_eq : locked.accounting p.request.accountKey = some row

/-- No row has the command's id, or its receipt's. -/
structure Fresh (db : Db) (c : CommandId) (receipt : ReceiptId) : Prop where
  command : db.commands.find c = none
  receipt : ∀ j k, db.commands.find j = some k → k.receiptId ≠ receipt

variable {c : CommandId}

@[simp] theorem requireFresh_eq_ok {db : Db} {receipt : ReceiptId} {u : Unit} :
    db.requireFresh c receipt = .ok u ↔ Fresh db c receipt := by
  simp only [requireFresh, bind_eq_ok, ensure_eq_ok, exists_const, List.all_eq_true,
    decide_eq_true_eq]
  constructor
  · rintro ⟨command, receipts⟩
    refine ⟨command, fun j k find => ?_⟩
    simpa [find] using receipts j (db.commands.mem_keys_of_find find)
  · rintro ⟨command, receipts⟩
    refine ⟨command, fun j mem => ?_⟩
    obtain ⟨k, find⟩ := db.commands.exists_find_of_mem mem
    simpa [find] using receipts j k find

/-- An available authorization of the request's principal and account. -/
structure Consumable (q : ClaimRequest) (a : Authorization) : Prop where
  organization : a.issuance.organizationId = q.organizationId
  user : a.issuance.userId = q.userId
  account : a.issuance.accountId = q.accountId
  available : a.state = .available

theorem consumeAuthorization_cases {db db' : Db} {q : ClaimRequest}
    (h : db.consumeAuthorization q c = .ok db') :
    ∃ a, db.authorizations q.authorizationId = some a ∧ Consumable q a ∧
      db' = { db with
        authorizations := Function.update db.authorizations q.authorizationId
          (some { a with state := .consumed, consumedByExecutionCommandId := some c }) } := by
  unfold consumeAuthorization at h
  split at h
  · rename_i a found
    split at h
    · rename_i consumable
      obtain ⟨organization, user, account, available⟩ := consumable
      exact ⟨a, found, ⟨organization, user, account, available⟩, (Except.ok.inj h).symm⟩
    · cases h
  · cases h

/-- A successful locked half of a claim. -/
inductive ClaimOutcome (cat : Catalog) (ctx : Ctx) (db : Db) (p : PendingClaim) :
    Db → ClaimResult → Prop
  | replayed {b : Binding} {result : ClaimResult}
      (bound : db.bindings p.request.bindingKey = some b) (matches_ : p.Matches b)
      (loaded : db.loadResult b true = .ok result) : ClaimOutcome cat ctx db p db result
  | blocked {locked : Db} {epoch : SafetyEpoch} {row : Accounting} {intent : ReservationIntent}
      {c : CommandId} {receipt : ReceiptId} {reason : String}
      (decision : ClaimLocked cat ctx db p locked epoch row intent)
      (fresh : Fresh locked c receipt) :
      ClaimOutcome cat ctx db p
        ((locked.putCommand c (p.blockedCommand receipt reason intent)).bind p (p.binding db) c
          (p.blockedCommand receipt reason intent))
        ⟨false, c, p.blockedCommand receipt reason intent⟩
  | allowed {locked consumed : Db} {epoch : SafetyEpoch} {row : Accounting}
      {intent : ReservationIntent} {env : ClaimEnv} {authorization : Authorization}
      (decision : ClaimLocked cat ctx db p locked epoch row intent)
      (valid : p.revalidateWithoutConsuming cat authorization env = none)
      (capacity : locked.capacityRefusal ctx p env epoch row intent = none)
      (fresh : Fresh locked env.commandId env.receiptId)
      (unclaimed : locked.planClaims p.planClaimKey = none)
      (consume : locked.consumeAuthorization p.request env.commandId = .ok consumed) :
      ClaimOutcome cat ctx db p
        (((consumed.settle env.commandId (p.allowedCommand cat env epoch.epoch intent) .charge
          intent.instrument (chargeDelta intent) row (chargeReservation row intent)).fileClaim p
          env.commandId).bind p (p.binding db) env.commandId
          (p.allowedCommand cat env epoch.epoch intent))
        ⟨false, env.commandId, p.allowedCommand cat env epoch.epoch intent⟩

theorem finishClaim_outcome {cat : Catalog} {ctx : Ctx} {db db' : Db} {p : PendingClaim}
    {refreshed : Bool} {env : ClaimEnv} {result : ClaimResult}
    (h : db.finishClaim cat ctx p refreshed env = .ok (db', result)) :
    ClaimOutcome cat ctx db p db' result := by
  simp only [finishClaim, bind_eq_ok, PendingClaim.assertBindingMatches_eq_ok] at h
  obtain ⟨_, matches_, h⟩ := h
  split at h
  · rename_i finished
    simp only [bind_eq_ok] at h
    obtain ⟨loaded, load, h⟩ := h
    obtain ⟨rfl, rfl⟩ := Prod.mk.inj (Except.ok.inj h)
    cases bound : db.bindings p.request.bindingKey with
    | none => simp [bound, PendingClaim.newBinding] at finished
    | some b =>
      exact .replayed bound (by simpa [bound] using matches_) (by simpa [bound] using load)
  rename_i unfinished
  unfold decideClaim at h
  split at h
  · cases h
  simp only [bind_eq_ok, ensure_eq_ok, lockRiskAccounting_eq_ok] at h
  obtain ⟨_, -, _, -, intent, intent_eq, ⟨locked, row⟩, ⟨lock, row_eq⟩, h⟩ := h
  dsimp only at lock row_eq h
  have decision : ClaimLocked cat ctx db p locked (db.lockEpoch ctx p.request.accountKey).2 row
      intent := ⟨unfinished, matches_, intent_eq, rfl, lock, row_eq⟩
  split at h
  · simp only [persistBlocked, bind_eq_ok, requireFresh_eq_ok] at h
    obtain ⟨_, fresh, h⟩ := h
    obtain ⟨rfl, rfl⟩ := Prod.mk.inj (Except.ok.inj h)
    exact .blocked decision fresh
  rename_i unblocked
  simp only [Option.or_eq_none_iff] at unblocked
  simp only [persistAllow, bind_eq_ok, requireFresh_eq_ok] at h
  obtain ⟨_, fresh, h⟩ := h
  split at h
  · simp only [persistBlocked, bind_eq_ok, requireFresh_eq_ok] at h
    obtain ⟨_, fresh, h⟩ := h
    obtain ⟨rfl, rfl⟩ := Prod.mk.inj (Except.ok.inj h)
    exact .blocked decision fresh
  rename_i unclaimed
  simp only [bind_eq_ok] at h
  obtain ⟨consumed, consume, _, -, _, -, h⟩ := h
  obtain ⟨rfl, rfl⟩ := Prod.mk.inj (Except.ok.inj h)
  exact .allowed decision unblocked.1.1.1 unblocked.2 fresh unclaimed consume

end Db

end AlphaTrade.Execution
