import AlphaTrade.Risk.Accounting

/-!
# Business days in a time zone

`resolve_day` asks the zone for the date of an instant, and `_day_bounds_utc` for the midnight that
a date begins with; the day ends twenty-four hours later. Where the offset has changed in between,
the two do not agree.
-/
namespace AlphaTrade.Risk
open Library
open Execution (Instant)

/-- A zone given by its offsets, in microseconds. The offset of a wall time that comes twice is that
of the first time, and that of one that is skipped is the offset before it is. -/
structure OffsetZone where
  offset : Instant → Int
  wallOffset : Int → Int
  offset_lt : ∀ t, |offset t| < microsecondsPerDay
  wallOffset_lt : ∀ w, |wallOffset w| < microsecondsPerDay
  first : ∀ t, (∀ s < t, s + offset s ≠ t + offset t) → wallOffset (t + offset t) = offset t
  skipped : ∀ w, (∀ t, t + offset t ≠ w) → ∃ t, wallOffset w = offset (t - 1) ∧
    t + offset (t - 1) ≤ w ∧ w < t + offset t

namespace OffsetZone

/-- The zone as the accounting asks it: `astimezone(zone).date()` of an instant, and
`datetime(year, month, day, tzinfo=zone).astimezone(UTC)` of a date. -/
def toZoneInfo (zone : OffsetZone) : ZoneInfo where
  date t := (t + zone.offset t) / microsecondsPerDay
  midnight day := day * microsecondsPerDay - zone.wallOffset (day * microsecondsPerDay)

def utc : OffsetZone where
  offset _ := 0
  wallOffset _ := 0
  offset_lt _ := by decide
  wallOffset_lt _ := by decide
  first _ _ := rfl
  skipped w never := absurd (Int.add_zero w) (never w)

theorem toZoneInfo_utc : utc.toZoneInfo = ZoneInfo.utc := by
  simp [toZoneInfo, utc, ZoneInfo.utc]

def timeOfDay (zone : OffsetZone) (t : Instant) : Int :=
  (t + zone.offset t) % microsecondsPerDay

/-- The time of day, moved by how far the offset at the midnight of a day is from the offset now,
stays in the day of now for that day, and comes into no other day for the others. -/
def KeepsDay (zone : OffsetZone) (t : Instant) : Prop :=
  ∀ days : Int, (zone.timeOfDay t + (zone.wallOffset
    ((zone.toZoneInfo.date t + days) * microsecondsPerDay) - zone.offset t)) / microsecondsPerDay =
      days ↔ days = 0

def Uniform (zone : OffsetZone) : Prop :=
  ∃ offset, (∀ day, zone.wallOffset (day * microsecondsPerDay) = offset) ∧
    ∀ t, zone.toZoneInfo.date t = (t + offset) / microsecondsPerDay

end OffsetZone

def databaseZones (database : String → Option OffsetZone) : Zones :=
  fun name => (database name).map OffsetZone.toZoneInfo

def userZone (database : String → Option OffsetZone) (timezoneName : String) : OffsetZone :=
  (database (normalizeTimezone (databaseZones database) timezoneName)).getD .utc

/-- What happens at an instant is in the figures of its business day, and in those of no other. -/
def CountedOnce (zones : Zones) (timezoneName : String) (t : Instant) : Prop :=
  ∀ day, within (dayBoundsUtc zones day (resolveDay zones timezoneName t).2) (some t) = true ↔
    day = (resolveDay zones timezoneName t).1

/-! ## Windows of one length -/

def Windows (length : Int) (start date : Int → Int) : Prop :=
  ∀ t day : Int, start day ≤ t ∧ t < start day + length ↔ day = date t

namespace Windows
variable {length : Int} {start date : Int → Int}

/-- A window does not begin inside another one. -/
theorem eq_of_begins_inside (windows : Windows length start date) {day other : Int}
    (low : start day ≤ start other) (high : start other < start day + length) : day = other := by
  have own := (windows (start other) other).mp ⟨le_rfl, by omega⟩
  exact ((windows _ day).mp ⟨low, high⟩).trans own.symm

theorem apart (windows : Windows length start date) {day other : Int} (differ : day ≠ other) :
    start day + length ≤ start other ∨ start other + length ≤ start day := by
  rcases le_total (start day) (start other) with low | low
  · by_contra overlap
    exact differ (windows.eq_of_begins_inside low (by omega))
  · by_contra overlap
    exact differ (windows.eq_of_begins_inside low (by omega)).symm

/-- Some window begins where another one ends. -/
theorem exists_next (windows : Windows length start date) (day : Int) :
    ∃ next, start next = start day + length := by
  have ⟨low, high⟩ := (windows (start day + length) (date (start day + length))).mpr rfl
  refine ⟨date (start day + length), le_antisymm low ?_⟩
  by_contra before
  -- the last instant of the day would be in the window of the next instant
  have later := (windows (start day + length - 1) (date (start day + length))).mp
    ⟨by omega, by omega⟩
  have own := (windows (start day + length - 1) day).mp ⟨by omega, by omega⟩
  rw [later, ← own] at high
  omega

variable {w : Int → Int}

/-- Windows of a day that begin less than a day from their midnights begin at one time. -/
theorem shift_succ (windows : Windows 86400000000 start date)
    (begins : ∀ day, start day = day * 86400000000 - w day) (near : ∀ day, |w day| < 86400000000)
    (day : Int) : w (day + 1) = w day := by
  obtain ⟨next, follows⟩ := windows.exists_next day
  have hereLow := (abs_lt.mp (near day)).1
  have hereHigh := (abs_lt.mp (near day)).2
  have nextLow := (abs_lt.mp (near next)).1
  have nextHigh := (abs_lt.mp (near next)).2
  have afterLow := (abs_lt.mp (near (day + 1))).1
  have afterHigh := (abs_lt.mp (near (day + 1))).2
  have isDay := begins day
  have isNext := begins next
  have isAfter := begins (day + 1)
  have moved : next ≠ day := by
    rintro rfl
    omega
  have distinct := windows.apart (show day + 1 ≠ day by omega)
  by_cases same : next = day + 1
  · subst same
    omega
  · have other := windows.apart same
    omega

theorem shift_eq (windows : Windows 86400000000 start date)
    (begins : ∀ day, start day = day * 86400000000 - w day) (near : ∀ day, |w day| < 86400000000)
    (day : Int) : w day = w 0 := by
  induction day with
  | zero => rfl
  | succ day ih => exact (windows.shift_succ begins near day).trans ih
  | pred day ih =>
    rw [← ih, ← windows.shift_succ begins near (-day - 1), sub_add_cancel]

theorem date_eq (windows : Windows length start date) (positive : 0 < length) {w : Int}
    (begins : ∀ day, start day = day * length - w) (t : Int) : date t = (t + w) / length := by
  symm
  rw [Int.ediv_eq_iff_of_pos positive]
  have ⟨low, high⟩ := (windows t (date t)).mpr rfl
  rw [begins] at low high
  constructor <;> omega

end Windows

/-! ## One zone -/

namespace OffsetZone
variable {zone : OffsetZone}

def Agrees (zone : OffsetZone) (t : Instant) : Prop :=
  ∀ day, zone.toZoneInfo.midnight day ≤ t ∧
    t < zone.toZoneInfo.midnight day + microsecondsPerDay ↔ day = zone.toZoneInfo.date t

/-- The days that begin at most a day before an instant, counted from the date of the instant. -/
theorem midnight_le_iff (t : Instant) (days : Int) :
    zone.toZoneInfo.midnight (zone.toZoneInfo.date t + days) ≤ t ∧
        t < zone.toZoneInfo.midnight (zone.toZoneInfo.date t + days) + microsecondsPerDay ↔
      (zone.timeOfDay t + (zone.wallOffset
        ((zone.toZoneInfo.date t + days) * microsecondsPerDay) - zone.offset t)) /
          microsecondsPerDay = days := by
  have parts : microsecondsPerDay * zone.toZoneInfo.date t + zone.timeOfDay t =
      t + zone.offset t := Int.mul_ediv_add_emod _ _
  have begins : zone.toZoneInfo.midnight (zone.toZoneInfo.date t + days) =
      (zone.toZoneInfo.date t + days) * microsecondsPerDay -
        zone.wallOffset ((zone.toZoneInfo.date t + days) * microsecondsPerDay) := rfl
  rw [begins, Int.ediv_eq_iff_of_pos (by decide)]
  generalize zone.wallOffset _ = w
  constructor
  · rintro ⟨low, high⟩
    constructor <;> linarith
  · rintro ⟨low, high⟩
    constructor <;> linarith

theorem agrees_iff_keepsDay (t : Instant) : zone.Agrees t ↔ zone.KeepsDay t := by
  constructor
  · intro agrees days
    rw [← midnight_le_iff, agrees]
    exact add_eq_left
  · intro keeps day
    obtain ⟨days, rfl⟩ : ∃ days, day = zone.toZoneInfo.date t + days :=
      ⟨day - zone.toZoneInfo.date t, (add_sub_cancel _ day).symm⟩
    rw [midnight_le_iff, keeps]
    exact add_eq_left.symm

theorem uniform_of_agrees (agrees : ∀ t, zone.Agrees t) : zone.Uniform := by
  have windows : Windows microsecondsPerDay zone.toZoneInfo.midnight zone.toZoneInfo.date := agrees
  have all := windows.shift_eq (w := fun day => zone.wallOffset (day * microsecondsPerDay))
    (fun _ => rfl) fun _ => zone.wallOffset_lt _
  exact ⟨_, all, windows.date_eq (by decide) fun day => by rw [← all day]; rfl⟩

/-- Where the dates are those of one offset, every instant agrees with its day. -/
theorem Uniform.agrees (uniform : zone.Uniform) (t : Instant) : zone.Agrees t := by
  obtain ⟨offset, midnights, dates⟩ := uniform
  intro day
  rw [dates, eq_comm, Int.ediv_eq_iff_of_pos (by decide)]
  have begins : zone.toZoneInfo.midnight day = day * microsecondsPerDay - offset :=
    congrArg (day * microsecondsPerDay - ·) (midnights day)
  rw [begins]
  constructor
  · rintro ⟨low, high⟩
    constructor <;> linarith
  · rintro ⟨low, high⟩
    constructor <;> linarith

end OffsetZone

/-! ## Users -/

/-- A label that the database does not have is that of UTC. -/
theorem normalizeTimezone_known (zones : Zones) (timezoneName : String) :
    (zones (normalizeTimezone zones timezoneName)).isSome = true ∨
      normalizeTimezone zones timezoneName = "UTC" := by
  unfold normalizeTimezone
  dsimp only
  generalize (if strip timezoneName = "" then "UTC" else strip timezoneName) = label
  by_cases known : (zones label).isSome = true
  · exact .inl (by rwa [if_pos known])
  · exact .inr (if_neg known)

theorem countedOnce_iff (database : String → Option OffsetZone) (timezoneName : String)
    (t : Instant) : CountedOnce (databaseZones database) timezoneName t ↔
      (userZone database timezoneName).Agrees t := by
  set label := normalizeTimezone (databaseZones database) timezoneName with isLabel
  have zone : userZone database timezoneName = (database label).getD .utc := rfl
  have resolved : resolveDay (databaseZones database) timezoneName t =
      ((userZone database timezoneName).toZoneInfo.date t, label) := by
    unfold resolveDay
    rw [← isLabel, zone]
    cases found : database label with
    | some own => simp [databaseZones, found]
    | none =>
      have isUtc : label = "UTC" := by
        rcases normalizeTimezone_known (databaseZones database) timezoneName with known | isUtc
        · simp [databaseZones, ← isLabel, found] at known
        · exact isUtc
      rw [isUtc] at found ⊢
      simp [databaseZones, found, OffsetZone.toZoneInfo_utc]
  have bounds (day : Int) : dayBoundsUtc (databaseZones database) day label =
      ((userZone database timezoneName).toZoneInfo.midnight day,
        (userZone database timezoneName).toZoneInfo.midnight day + microsecondsPerDay) := by
    unfold dayBoundsUtc
    rw [zone]
    cases found : database label with
    | some own => simp [databaseZones, found]
    | none => simp [databaseZones, found, OffsetZone.toZoneInfo_utc]
  unfold CountedOnce OffsetZone.Agrees
  rw [resolved]
  simp only [bounds, within, Option.any_some, decide_eq_true_eq]

/-- What happens at an instant is in the figures of exactly one day, the user's date, where the
zone keeps the day; for every instant, where it has one offset. -/
theorem business_days_partition (database : String → Option OffsetZone) (timezoneName : String) :
    (∀ t, CountedOnce (databaseZones database) timezoneName t ↔
        (userZone database timezoneName).KeepsDay t) ∧
      ((∀ t, CountedOnce (databaseZones database) timezoneName t) ↔
        (userZone database timezoneName).Uniform) := by
  refine ⟨fun t => (countedOnce_iff database timezoneName t).trans
    (OffsetZone.agrees_iff_keepsDay t), ?_⟩
  simp only [countedOnce_iff]
  exact ⟨OffsetZone.uniform_of_agrees, OffsetZone.Uniform.agrees⟩

/-! ## A day of twenty-five hours -/

/-- Four hours behind, and five from an instant on. -/
def fallBack (transition : Instant) : OffsetZone where
  offset t := if t < transition then -14400000000 else -18000000000
  wallOffset w := if w < transition - 14400000000 then -14400000000 else -18000000000
  offset_lt t := by split_ifs <;> decide
  wallOffset_lt w := by split_ifs <;> decide
  first t isFirst := by
    by_cases early : t < transition
    · simp only [if_pos early]
      exact if_pos (by linarith)
    simp only [if_neg early] at isFirst ⊢
    by_cases again : t - 3600000000 < transition
    · refine absurd ?_ (isFirst (t - 3600000000) (sub_lt_self t (by decide)))
      rw [if_pos again]
      linarith
    · exact if_neg (by linarith)
  skipped w never := by
    by_cases early : w < transition - 14400000000
    · refine absurd ?_ (never (w + 14400000000))
      rw [if_pos (by linarith)]
      linarith
    · refine absurd ?_ (never (w + 18000000000))
      rw [if_neg (by linarith)]
      linarith

/-- New York falls back on the third of November 2024. What is lost there at half past eleven in the
evening is in the figures of no day. -/
theorem late_loss_is_in_no_day :
    (∀ day, within (dayBoundsUtc (databaseZones fun _ => some (fallBack 1730613600000000)) day
      "America/New_York") (some 1730694600000000) = false) ∧
      ¬CountedOnce (databaseZones fun _ => some (fallBack 1730613600000000)) "America/New_York"
        1730694600000000 := by
  have none (day : Int) : ¬(day * 86400000000 - (fallBack 1730613600000000).wallOffset
      (day * 86400000000) ≤ 1730694600000000 ∧ (1730694600000000 : Int) < day * 86400000000 -
        (fallBack 1730613600000000).wallOffset (day * 86400000000) + 86400000000) := by
    rintro ⟨low, high⟩
    simp only [fallBack] at low high
    split_ifs at low high <;> omega
  have outside (day : Int) : within (dayBoundsUtc (databaseZones fun _ =>
      some (fallBack 1730613600000000)) day "America/New_York") (some 1730694600000000) = false :=
    decide_eq_false (none day)
  refine ⟨outside, fun counted => ?_⟩
  have label : (resolveDay (databaseZones fun _ => some (fallBack 1730613600000000))
      "America/New_York" 1730694600000000).2 = "America/New_York" := by decide
  have own := (counted _).mpr rfl
  rw [label, outside] at own
  cases own

end AlphaTrade.Risk
