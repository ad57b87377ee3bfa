import Mathlib
import AlphaTrade.Risk.Accounting
import AlphaTrade.Risk.Latches

/-!
# Drawdown over days

A scan evaluates the breakers on the equity of the daily accounting and keeps the peak
of that equity from scan to scan. The equity leaves out what was realized on other
days, so the latch follows the drawdown of the equity to date in the runs in which, at
each scan, the other days cancel out.

`profileRecord_ok` says once what a scan records; the rest is an invariant of the row.
-/
namespace AlphaTrade.Risk
open Library
open Execution (OrganizationId UserId AccountKey Instant)

/-! ## One scan -/

/-- A row whose peak is a number above zero and whose count is not negative. -/
structure Sane (row : BreakerState) : Prop where
  peak : ∃ p, row.equityPeak = .finite p ∧ 0 < p
  losses : 0 ≤ row.consecutiveLosses

variable {tables : BreakerTables} {account : AccountKey} {now : Instant} {losses : Option Int}
  {profile : RiskPolicyProfile} {equity realized unrealized : ℚ}

theorem stored_nonneg (sane : ∀ row, tables.states.find account = some row → Sane row)
    (count : ∀ n ∈ losses, 0 ≤ n) : 0 ≤ (tables.stored account now losses).consecutiveLosses := by
  have kept : 0 ≤ ((tables.states.find account).map (·.consecutiveLosses)).getD 0 := by
    cases found : tables.states.find account with
    | none => exact le_rfl
    | some row => exact (sane row found).losses
  have fresh : ∀ pause, 0 ≤ losses.getD (streakAfterExpiry
      (((tables.states.find account).map (·.consecutiveLosses)).getD 0) pause now) := by
    intro pause
    cases losses with
    | some n => exact count n rfl
    | none =>
      cases pause with
      | none => exact kept
      | some expiry =>
        simp only [Option.getD_none, streakAfterExpiry]
        split_ifs
        · exact le_rfl
        · exact kept
  simp only [BreakerTables.stored]
  split_ifs
  · exact kept
  · exact fresh _

theorem consecutiveUntil_ok {cooldownHours : Int} (cooldown : 1 ≤ cooldownHours) (hit : Bool)
    (now : Instant) (existing : Option Instant) :
    ∃ pause, consecutiveUntil hit now cooldownHours existing = .ok pause := by
  unfold consecutiveUntil consecutivePauseExpiry
  split_ifs
  · cases existing.filter (now < ·) with
    | none => exact ⟨_, by simp only [ensure, cooldown, if_true]; rfl⟩
    | some expiry => exact ⟨_, rfl⟩
  · exact ⟨_, rfl⟩

/-- The peak of a scan is the stored one, and equity when there is no row. -/
theorem storedPeak_ok (sane : ∀ row, tables.states.find account = some row → Sane row)
    (positive : 0 < equity) :
    ∃ p, tables.storedPeak account (.finite equity) = .ok (.finite p) ∧ 0 < p ∧
      ∀ row, tables.states.find account = some row → row.equityPeak = .finite p := by
  cases found : tables.states.find account with
  | none =>
    refine ⟨equity, by simp only [BreakerTables.storedPeak, found], positive, ?_⟩
    rintro _ ⟨⟩
  | some row =>
    obtain ⟨p, peak, above⟩ := (sane row found).peak
    refine ⟨p, ?_, above, ?_⟩
    · simp [BreakerTables.storedPeak, found, peak, DecimalValue.isPositive, decimal, above,
        Except.map]
    · rintro _ ⟨⟩
      exact peak

theorem referenceEquity_ok (positive : 0 < equity) :
    ∃ r, referenceEquity ⟨.finite equity, .finite realized, .finite unrealized⟩ =
      .ok (.finite r) ∧ 0 < r := by
  by_cases above : 0 < equity - realized - unrealized
  · refine ⟨equity - realized - unrealized, ?_, above⟩
    simp only [referenceEquity, DecimalValue.sub, decimal, DecimalValue.isPositive, bind,
      Except.bind, pure, Except.pure, above, decide_true, if_true]
  · refine ⟨equity, ?_, positive⟩
    simp only [referenceEquity, DecimalValue.sub, decimal, DecimalValue.isPositive, bind,
      Except.bind, pure, Except.pure, above, decide_false, Bool.false_eq_true, if_false]

/-- The peak of a snapshot is not below the peak it came with, and not below equity
unless the latch is set. -/
theorem peak_of_finite (snapshot : BreakerSnapshot) {p : ℚ}
    (equity_eq : snapshot.equity = .finite equity) (peak_eq : snapshot.equityPeak = .finite p) :
    ∃ q, snapshot.peak = .finite q ∧ p ≤ q ∧ (snapshot.drawdownLatched = false → equity ≤ q) := by
  unfold BreakerSnapshot.peak
  rw [equity_eq, peak_eq]
  split_ifs with rises
  · exact ⟨equity, rfl, rises.2.le, fun _ => le_rfl⟩
  · exact ⟨p, rfl, le_rfl, fun idle => not_lt.mp fun lt => rises ⟨idle, lt⟩⟩

/-- What an evaluation of finite figures returns. -/
theorem evaluateBreakers_ok (config : BreakerConfig) (snapshot : BreakerSnapshot) {p r : ℚ}
    (equity_eq : snapshot.equity = .finite equity) (positive : 0 < equity)
    (peak_eq : snapshot.equityPeak = .finite p) (peak : 0 < p)
    (reference_eq : snapshot.referenceEquity = .finite r) (reference : 0 < r)
    (realized_eq : snapshot.realizedPnlToday = .finite realized)
    (unrealized_eq : snapshot.unrealizedPnlToday = .finite unrealized)
    (count : 0 ≤ snapshot.consecutiveLosses) :
    ∃ verdict, evaluateBreakers config snapshot = .ok verdict ∧
      verdict.equityPeak = snapshot.peak ∧
      verdict.drawdownActive = (snapshot.drawdownLatched || decide (config.drawdownBreakerPercent ≤
        drawdownPercent snapshot.peak.toRat equity)) := by
  simp only [evaluateBreakers, requireMoney, ensure, equity_eq, peak_eq, reference_eq, realized_eq,
    unrealized_eq, DecimalValue.isFinite, DecimalValue.toRat, positive, peak, reference, count,
    dailyLossHit, and_self, if_true, bind, Except.bind, pure, Except.pure]
  exact ⟨_, rfl, rfl, rfl⟩

/-- A scan of finite figures is recorded. Unless it latches, equity is above zero, the
recorded peak is at least equity and the stored peak, and the drawdown from it is below
the threshold. -/
theorem profileRecord_ok (sane : ∀ row, tables.states.find account = some row → Sane row)
    (cooldown : 1 ≤ profile.consecutiveLossCooldownHours) (count : ∀ n ∈ losses, 0 ≤ n)
    (equity realized unrealized : ℚ) (now : Instant) :
    ∃ record refused, tables.profileRecord account profile
        ⟨.finite equity, .finite realized, .finite unrealized⟩ now losses =
          .ok (record, refused) ∧
      0 ≤ record.consecutiveLosses ∧
      ∃ q, record.equityPeak = .finite q ∧ 0 < q ∧
        (record.drawdownLatched = false → 0 < equity ∧ equity ≤ q ∧
          drawdownPercent q equity < profile.drawdownBreakerPercent ∧
          ∀ row, tables.states.find account = some row →
            ∀ p, row.equityPeak = .finite p → p ≤ q) := by
  obtain ⟨stored, read⟩ : ∃ stored, tables.stored account now losses = stored := ⟨_, rfl⟩
  have nonneg : 0 ≤ stored.consecutiveLosses := read ▸ stored_nonneg sane count
  by_cases positive : 0 < equity
  · obtain ⟨p, peak, above, kept⟩ := storedPeak_ok sane positive
    obtain ⟨r, reference, above'⟩ : ∃ r, referenceEquity
        ⟨.finite equity, .finite realized, .finite unrealized⟩ = .ok (.finite r) ∧ 0 < r :=
      referenceEquity_ok positive
    obtain ⟨q, eq, le, bounded⟩ := peak_of_finite
      ⟨.finite equity, .finite p, .finite r, .finite realized, .finite unrealized,
        stored.consecutiveLosses, stored.latched, now⟩ rfl rfl
    obtain ⟨verdict, evaluated, raised, active⟩ := evaluateBreakers_ok
      ⟨profile.dailyLossLimitPercent, profile.drawdownBreakerPercent, profile.consecutiveLossLimit⟩
      ⟨.finite equity, .finite p, .finite r, .finite realized, .finite unrealized,
        stored.consecutiveLosses, stored.latched, now⟩
      rfl positive rfl above rfl above' rfl rfl nonneg
    obtain ⟨pause, held⟩ := consecutiveUntil_ok cooldown verdict.consecutiveLossActive now
      stored.keptPause
    simp only [BreakerTables.profileRecord, DecimalValue.isFinite, DecimalValue.toRat, positive,
      and_self, if_true, peak, read, reference, tripRecord, evaluated, held, bind, Except.bind,
      pure, Except.pure]
    refine ⟨_, _, rfl, nonneg, q, raised.trans eq, above.trans_le le, fun idle => ?_⟩
    rw [active, eq, Bool.or_eq_false_iff, decide_eq_false_iff_not, not_le] at idle
    refine ⟨trivial, bounded idle.1, idle.2, fun row found p' peak' => ?_⟩
    cases (kept row found).symm.trans peak'
    exact le
  · obtain ⟨pause, held⟩ := consecutiveUntil_ok cooldown
      (profile.consecutiveLossLimit ≤ stored.consecutiveLosses) now stored.keptPause
    simp only [BreakerTables.profileRecord, DecimalValue.isFinite, DecimalValue.toRat, positive,
      and_false, if_false, BreakerTables.ruinedRecord, read, held, bind, Except.bind, pure,
      Except.pure, Except.map]
    refine ⟨_, _, rfl, nonneg, ?_⟩
    cases found : tables.states.find account with
    | none => exact ⟨1, rfl, one_pos, fun idle => by cases idle⟩
    | some row =>
      obtain ⟨p, peak, above⟩ := (sane row found).peak
      refine ⟨p, ?_, above, fun idle => by cases idle⟩
      simp [Option.filter, peak, above]

theorem cooldown_of_validate (h : validateProfile profile = .ok ()) :
    1 ≤ profile.consecutiveLossCooldownHours := by
  simp only [validateProfile, requirePercent, bind_eq_ok, ensure_eq_ok, exists_const] at h
  tauto

/-- From a higher peak the drawdown is not smaller. -/
theorem drawdownPercent_mono {p q x : ℚ} (nonneg : 0 ≤ x) (positive : 0 < p) (le : p ≤ q) :
    drawdownPercent p x ≤ drawdownPercent q x := by
  have share : x / q ≤ x / p := div_le_div_of_nonneg_left nonneg positive le
  have above : 0 < q := positive.trans_le le
  simp only [drawdownPercent, sub_div, div_self positive.ne', div_self above.ne']
  linarith

/-! ## Events -/

/-- One evaluation of the breakers of an account, on the portfolio of a user. -/
structure Scan where
  portfolio : Portfolio
  user : UserId
  profile : RiskPolicyProfile
  now : Instant
  consecutiveLosses : Option Int

/-- A scan of the account, or another operation. -/
inductive Event where
  | scan (s : Scan)
  | other (a : Action)

def Action.evaluated : Action → Option AccountKey
  | .recordBreaker account _ _ => some account
  | .tripBreakers account _ _ _ _ _ _ => some account
  | .persistProfileBreakers account _ _ _ _ => some account
  | .latchDrawdown account _ _ => some account
  | _ => none

section

variable (env : Env) (zones : Zones) (account : AccountKey)

def Scan.snapshot (s : Scan) : AuthoritativeDailySnapshot :=
  (s.portfolio.syncFromPortfolio zones (account.1, s.user) s.now).2

/-- `persist_profile_breakers`, on the figures of the daily accounting. -/
def Scan.action (s : Scan) : Action :=
  .persistProfileBreakers account s.profile (s.snapshot zones account).figures s.now
    s.consecutiveLosses

def Scan.equityToDate (s : Scan) : ℚ := s.portfolio.equityToDate zones (account.1, s.user)

def Event.step (store : Store) : Event → Store
  | .scan s => Risk.step env store (s.action zones account)
  | .other a => Risk.step env store a

/-- What the callers promise: a scan has a stored profile and a count that is not
negative, and the breakers of the account are written by scans and resets only. -/
def Event.Admissible : Event → Prop
  | .scan s => validateProfile s.profile = .ok () ∧ ∀ n ∈ s.consecutiveLosses, 0 ≤ n
  | .other a => a.evaluated ≠ some account

def Event.OtherDaysCancel : Event → Prop
  | .scan s => s.portfolio.OtherDaysCancel zones (account.1, s.user) s.now
  | .other _ => True

def Event.Resets (store : Store) : Event → Prop
  | .scan _ => False
  | .other a => ResetsDrawdown env account store a

def Event.equity? : Event → Option ℚ
  | .scan s => some (s.equityToDate zones account)
  | .other _ => none

def runningPeak (events : List Event) : Option ℚ :=
  (events.filterMap (Event.equity? zones account)).max?

end

/-! ## The row along a run -/

def SaneAt (account : AccountKey) (store : Store) : Prop :=
  ∀ row, store.row account = some row → Sane row

variable {env : Env} {zones : Zones} {store : Store}

/-- The row after a scan. Unless it is latched, its peak is at least equity and the
stored peak, and the drawdown from it is below the threshold. -/
theorem scan_row (env : Env) (zones : Zones) {s : Scan} (sane : SaneAt account store)
    (admissible : (Event.scan s).Admissible account) :
    ∃ next, (Event.step env zones account store (.scan s)).row account = some next ∧ Sane next ∧
      (∀ row, store.row account = some row → row.drawdownLatched = true →
        next.drawdownLatched = true) ∧
      (next.drawdownLatched = false →
        ∃ q equity, next.equityPeak = .finite q ∧
          equity = (s.snapshot zones account).accountEquity ∧
          0 < equity ∧ equity ≤ q ∧
          drawdownPercent q equity < s.profile.drawdownBreakerPercent ∧
          ∀ row, store.row account = some row → ∀ p, row.equityPeak = .finite p → p ≤ q) := by
  obtain ⟨record, refused, recorded, count, q, peak, above, idle⟩ := profileRecord_ok sane
    (cooldown_of_validate admissible.1) admissible.2
    (s.snapshot zones account).accountEquity
    (s.snapshot zones account).realizedPnl
    (s.snapshot zones account).unrealizedPnl s.now
  have written : (Event.step env zones account store (.scan s)).breakers =
      store.breakers.recordBreaker account record s.now := by
    simp only [Event.step, Scan.action, step, BreakerTables.persistProfileBreakers,
      AuthoritativeDailySnapshot.figures, recorded, bind, Except.bind, pure, Except.pure,
      Except.map, Store.orKeepBreakers]
  have old : ∀ row, store.row account = some row →
      store.breakers.breakerRow account record.equityPeak = row := fun row found => by
    rw [BreakerTables.breakerRow, show store.breakers.states.find account = some row from found]
    rfl
  refine ⟨(store.breakers.breakerRow account record.equityPeak).merge record s.now, ?_,
    ⟨⟨q, peak, above⟩, ?_⟩, ?_, ?_⟩
  · rw [Store.row, written, BreakerTables.recordBreaker, Table.find_put_self]
  · -- the count is the recorded one, or the one of the row while its pause is held
    simp only [BreakerState.merge]
    split_ifs with held
    · exact count.trans held.2.le
    · exact count
  · intro row found latched
    simp only [BreakerState.merge, old row found, latched, Bool.true_or]
  · intro unlatched
    simp only [BreakerState.merge, Bool.or_eq_false_iff] at unlatched
    obtain ⟨positive, le, below, stored⟩ := idle unlatched.2
    exact ⟨q, _, peak, rfl, positive, le, below, stored⟩

/-- Another operation leaves the row, up to the count of losses and to its own reset. -/
theorem other_row (env : Env) (store : Store) {a : Action} (foreign : a.evaluated ≠ some account) :
    (step env store a).row account = store.row account ∨
    ∃ row next, store.row account = some row ∧ (step env store a).row account = some next ∧
      next.equityPeak = row.equityPeak ∧
      (next.consecutiveLosses = row.consecutiveLosses ∨ next.consecutiveLosses = 0) ∧
      (next.drawdownLatched = row.drawdownLatched ∨ ResetsDrawdown env account store a) := by
  have wrote := step_wrote env store a
  simp only [Store.row]
  generalize (step env store a).breakers = tables at wrote
  cases wrote with
  | nothing => exact .inl rfl
  | recorded _ written record made =>
    have other : written ≠ account := by
      rintro rfl
      refine foreign ?_
      cases a <;> simp_all [recordOf, Action.evaluated]
    exact .inl (Table.find_put_of_ne _ other.symm _)
  | latched written equityPeak now =>
    have other : written ≠ account := fun same => foreign (congrArg some same)
    exact .inl (Table.find_put_of_ne _ other.symm _)
  | consecutiveReset written human now found next checked accepted =>
    have eq := accepted
    simp only [Store.resetConsecutiveLosses, checked, bind, Except.bind, pure, Except.pure,
      Except.ok.injEq] at eq
    subst eq
    by_cases same : written = account
    · subst same
      refine .inr ⟨found, _, checkConsecutiveReset_row checked, Table.find_put_self .., rfl, ?_, ?_⟩
      · exact .inr rfl
      · exact .inl rfl
    · exact .inl (Table.find_put_of_ne _ (Ne.symm same) _)
  | drawdownReset written human equity now found checked accepted =>
    by_cases same : written = account
    · subst same
      refine .inr ⟨found, _, checkDrawdownReset_row checked, Table.find_put_self .., rfl, ?_, ?_⟩
      · exact .inl rfl
      · exact .inr ⟨rfl, by rw [accepted]; rfl⟩
    · exact .inl (Table.find_put_of_ne _ (Ne.symm same) _)

variable {e : Event} {events : List Event}

theorem event_saneAt (sane : SaneAt account store) (admissible : e.Admissible account) :
    SaneAt account (e.step env zones account store) := by
  cases e with
  | scan s =>
    obtain ⟨next, found, sane', -⟩ := scan_row env zones sane admissible
    intro row found'
    cases found.symm.trans found'
    exact sane'
  | other a =>
    intro row found
    rcases other_row env store admissible with
      same | ⟨old, next, before, after, peak, losses, -⟩
    · exact sane row (same ▸ found)
    · cases after.symm.trans found
      obtain ⟨peak', count⟩ := sane old before
      refine ⟨peak ▸ peak', ?_⟩
      rcases losses with eq | eq
      · exact eq ▸ count
      · exact eq.ge

def Tracks (account : AccountKey) (equity : ℚ) (store : Store) : Prop :=
  ∃ row, store.row account = some row ∧
    (row.drawdownLatched = true ∨ ∃ p, row.equityPeak = .finite p ∧ equity ≤ p)

/-- An event that is no reset keeps what the row tracks. -/
theorem event_tracks {equity : ℚ} (sane : SaneAt account store) (admissible : e.Admissible account)
    (unreset : ¬e.Resets env account store) (h : Tracks account equity store) :
    Tracks account equity (e.step env zones account store) := by
  obtain ⟨row, found, tracks⟩ := h
  cases e with
  | scan s =>
    obtain ⟨next, found', -, stays, idle⟩ := scan_row env zones sane admissible
    refine ⟨next, found', ?_⟩
    cases latched : next.drawdownLatched with
    | true => exact .inl rfl
    | false =>
      obtain ⟨q, _, peak, -, -, -, -, raised⟩ := idle latched
      rcases tracks with set | ⟨p, stored, le⟩
      · rw [stays row found set] at latched
        cases latched
      · exact .inr ⟨q, peak, le.trans (raised row found p stored)⟩
  | other a =>
    rcases other_row env store admissible with
      same | ⟨old, next, before, after, peak, -, latch⟩
    · exact ⟨row, same.trans found, tracks⟩
    · cases found.symm.trans before
      exact ⟨next, after, by rwa [peak, latch.resolve_right unreset]⟩

/-- A scan whose other days cancel tracks its equity to date. -/
theorem scan_tracks {s : Scan} (sane : SaneAt account store)
    (admissible : (Event.scan s).Admissible account)
    (cancel : (Event.scan s).OtherDaysCancel zones account) :
    Tracks account (s.equityToDate zones account)
      (Event.step env zones account store (.scan s)) := by
  obtain ⟨next, found, -, -, idle⟩ := scan_row env zones sane admissible
  refine ⟨next, found, ?_⟩
  cases latched : next.drawdownLatched with
  | true => exact .inl rfl
  | false =>
    obtain ⟨q, equity, peak, rfl, -, le, -⟩ := idle latched
    have same : _ = s.equityToDate zones account :=
      (accountEquity_eq_iff s.portfolio zones (account.1, s.user) s.now).mpr cancel
    exact .inr ⟨q, peak, same ▸ le⟩

theorem run_saneAt (env : Env) (zones : Zones) (sane : SaneAt account store)
    (admissible : ∀ e ∈ events, e.Admissible account) :
    SaneAt account (run (Event.step env zones account) store events) :=
  run_invariant _ (fun _ _ h => event_saneAt h) sane (along_of_mem _ store admissible)

theorem run_tracks {equity : ℚ} (sane : SaneAt account store)
    (admissible : ∀ e ∈ events, e.Admissible account)
    (unreset : Along (Event.step env zones account) (fun store e => ¬e.Resets env account store)
      store events)
    (h : Tracks account equity store) :
    Tracks account equity (run (Event.step env zones account) store events) := by
  refine (run_invariant (Event.step env zones account)
    (I := fun store => SaneAt account store ∧ Tracks account equity store) ?_ ⟨sane, h⟩
    ((along_of_mem _ store admissible).and _ unreset)).2
  rintro store e ⟨sane, h⟩ ⟨admissible, unreset⟩
  exact ⟨event_saneAt sane admissible, event_tracks sane admissible unreset h⟩

/-- Along a run without a reset, the row tracks the equity to date of every scan. -/
theorem run_tracks_scans (sane : SaneAt account store)
    (admissible : ∀ e ∈ events, e.Admissible account)
    (cancel : ∀ e ∈ events, e.OtherDaysCancel zones account)
    (unreset : Along (Event.step env zones account) (fun store e => ¬e.Resets env account store)
      store events) :
    ∀ equity ∈ events.filterMap (Event.equity? zones account),
      Tracks account equity (run (Event.step env zones account) store events) := by
  induction events generalizing store with
  | nil => simp
  | cons e rest ih =>
    have first := admissible e (by simp)
    have admissible' : ∀ e ∈ rest, e.Admissible account := fun e h => admissible e (by simp [h])
    have sane' : SaneAt account (e.step env zones account store) := event_saneAt sane first
    intro equity listed
    rw [run_cons]
    rcases List.mem_filterMap.mp listed with ⟨scanned, member, eq⟩
    rcases List.mem_cons.mp member with rfl | member
    · cases scanned with
      | scan s =>
        cases eq
        exact run_tracks sane' admissible' unreset.2
          (scan_tracks sane first (cancel _ (by simp)))
      | other a => cases eq
    · exact ih sane' admissible' (fun e h => cancel e (by simp [h])) unreset.2 equity
        (List.mem_filterMap.mpr ⟨scanned, member, eq⟩)

/-- The equity that a scan compares with the stored peak is the equity to date exactly
when what was realized outside the business day cancels out. In a run whose scans all
meet this, since the last reset of the latch, the latch is set at the first scan at which
the equity to date is below its running peak by the threshold of the profile. -/
theorem drawdown_latched_when_other_days_cancel (env : Env) (zones : Zones)
    (account : AccountKey) :
    (∀ (portfolio : Portfolio) (user : UserId) (now : Instant),
      (portfolio.syncFromPortfolio zones (account.1, user) now).2.accountEquity =
          portfolio.equityToDate zones (account.1, user) ↔
        portfolio.OtherDaysCancel zones (account.1, user) now) ∧
    ∀ (earlier since : List Event) (s : Scan) (peak : ℚ),
      (∀ e ∈ earlier ++ (since ++ [.scan s]), e.Admissible account) →
      (∀ e ∈ since ++ [.scan s], e.OtherDaysCancel zones account) →
      Along (Event.step env zones account) (fun store e => ¬e.Resets env account store)
        (run (Event.step env zones account) Store.empty earlier) since →
      runningPeak zones account (since ++ [.scan s]) = some peak →
      s.profile.drawdownBreakerPercent ≤ drawdownPercent peak (s.equityToDate zones account) →
      ∃ row, (run (Event.step env zones account) Store.empty
          (earlier ++ (since ++ [.scan s]))).row account = some row ∧
        row.drawdownLatched = true := by
  refine ⟨fun portfolio user now => accountEquity_eq_iff portfolio zones _ now, ?_⟩
  intro earlier since s peak admissible cancel unreset top down
  simp only [List.forall_mem_append, List.forall_mem_singleton] at admissible cancel
  obtain ⟨before, after, last⟩ := admissible
  have empty : SaneAt account Store.empty := fun row found => by cases found
  have sane := run_saneAt env zones empty before
  have sane' := run_saneAt env zones sane after
  have tracked := run_tracks_scans sane after cancel.1 unreset
  rw [run_append, run_append, run_cons, run_nil]
  generalize run (Event.step env zones account)
    (run (Event.step env zones account) Store.empty earlier) since = store at sane' tracked ⊢
  obtain ⟨next, found, -, stays, idle⟩ := scan_row env zones sane' last
  refine ⟨next, found, ?_⟩
  by_contra unlatched
  obtain ⟨q, equity, -, rfl, positive, le, below, raised⟩ := idle (by simpa using unlatched)
  have same : (s.snapshot zones account).accountEquity =
      s.equityToDate zones account :=
    (accountEquity_eq_iff s.portfolio zones (account.1, s.user) s.now).mpr cancel.2
  rw [same] at positive le below
  obtain ⟨member, highest⟩ := List.max?_eq_some_iff.mp top
  simp only [List.filterMap_append, List.filterMap_cons, List.filterMap_nil, Event.equity?,
    List.mem_append, List.mem_singleton] at member highest
  have bounded : peak ≤ q := by
    rcases member with scanned | rfl
    · obtain ⟨row, stored, latched | ⟨p, peak', le'⟩⟩ := tracked peak scanned
      · exact absurd (stays row stored latched) unlatched
      · exact le'.trans (raised row stored p peak')
    · exact le
  have above : 0 < peak := positive.trans_le (highest _ (.inr rfl))
  exact absurd (down.trans (drawdownPercent_mono positive.le above bounded)) (not_le.mpr below)

namespace Sample

def utcOnly : Zones := fun label => if label = "UTC" then some .utc else none

def strict : RiskPolicyProfile :=
  { placeholderProfile .internalPaper with drawdownBreakerPercent := 2 }

/-- Losses of ninety, each under the daily limit, on some days. -/
def book (days : List Day) : Portfolio where
  positions := days.map fun day =>
    { tenant := (1, 1)
      size := 1
      entryPrice := 100
      realizedPnl := -90
      status := .closed
      closedAt := some (day * microsecondsPerDay) }
  orders := []
  journalTrades := []
  settings := Table.empty
  timezones := Table.empty
  dailyRiskStates := Table.empty

def evening (day : Day) (days : List Day) : Scan where
  portfolio := book days
  user := 1
  profile := strict
  now := day * microsecondsPerDay + 20 * microsecondsPerHour
  consecutiveLosses := none

theorem evening_admissible (day : Day) (days : List Day) :
    (Event.scan (evening day days)).Admissible (1, 1) :=
  ⟨(by decide_cbv : validateProfile strict = .ok ()), by simp [evening]⟩

def threeDays : List Event :=
  [.scan (evening 0 []), .scan (evening 1 [1]), .scan (evening 2 [1, 2]),
    .scan (evening 3 [1, 2, 3])]

end Sample

/-- The three losses on one day: the scan in the evening latches. -/
theorem drawdown_latched_when_other_days_cancel_oneDay :
    ∃ row, (run (Event.step Sample.plain Sample.utcOnly (1, 1)) Store.empty
        [.scan (Sample.evening 0 []), .scan (Sample.evening 1 [1, 1, 1])]).row (1, 1) = some row ∧
      row.drawdownLatched = true := by
  refine (drawdown_latched_when_other_days_cancel Sample.plain Sample.utcOnly (1, 1)).2 []
    [.scan (Sample.evening 0 [])] (Sample.evening 1 [1, 1, 1]) 10000 ?_ ?_ ?_ ?_ ?_
  · simp [Sample.evening_admissible]
  · simp only [List.cons_append, List.nil_append, List.forall_mem_cons, Event.OtherDaysCancel,
      List.not_mem_nil, false_imp_iff, implies_true, and_true]
    decide_cbv
  · exact ⟨id, trivial⟩
  · decide_cbv
  · decide_cbv

/-- Equity to date falls from 10000 to 9730 over three days, by more than the threshold
of two percent. The scan of the third evening compares 9910, and the latch is not set. -/
theorem losses_of_other_days_left_out :
    (∀ e ∈ Sample.threeDays, e.Admissible (1, 1)) ∧
    runningPeak Sample.utcOnly (1, 1) Sample.threeDays = some 10000 ∧
    (Sample.evening 3 [1, 2, 3]).equityToDate Sample.utcOnly (1, 1) = 9730 ∧
    Sample.strict.drawdownBreakerPercent ≤ drawdownPercent 10000 9730 ∧
    ((Sample.book [1, 2, 3]).syncFromPortfolio Sample.utcOnly (1, 1)
      (Sample.evening 3 [1, 2, 3]).now).2.accountEquity = 9910 ∧
    ((run (Event.step Sample.plain Sample.utcOnly (1, 1)) Store.empty Sample.threeDays).row
      (1, 1)).map (·.drawdownLatched) = some false := by
  refine ⟨?_, ?_, ?_, ?_, ?_, ?_⟩
  · simp [Sample.threeDays, Sample.evening_admissible]
  · decide_cbv
  · decide_cbv
  · decide_cbv
  · decide_cbv
  · decide_cbv

end AlphaTrade.Risk
