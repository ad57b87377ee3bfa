import Mathlib.Algebra.BigOperators.Group.List.Basic
import Mathlib.Tactic.Ring
import AlphaTrade.Risk.Breakers

/-!
# Daily risk accounting

`sync_from_portfolio` recomputes the figures of one business day from the positions,
the orders and the journal, writes them to the row of that day, and returns the equity
that the breakers are evaluated on. The day is the user's local date; its bounds are
local midnight and twenty-four hours later.

Sums that the database returns as null are zero, and a null time is in no day.
-/
namespace AlphaTrade.Risk
open Library
open Execution (OrganizationId UserId AccountKey Instant)

/-! ## Days -/

/-- A local date, counted in days. -/
abbrev Day := Int

/-- A zone of the time zone database: the local date of an instant, and the instant of
the midnight that a local date starts with. -/
structure ZoneInfo where
  date : Instant → Day
  midnight : Day → Instant

def ZoneInfo.utc : ZoneInfo where
  date now := now / microsecondsPerDay
  midnight day := day * microsecondsPerDay

/-- The time zone database; a key that it does not have raises. -/
abbrev Zones := String → Option ZoneInfo

def normalizeTimezone (zones : Zones) (timezoneName : String) : String :=
  let label := if strip timezoneName = "" then "UTC" else strip timezoneName
  if (zones label).isSome then label else "UTC"

def resolveDay (zones : Zones) (timezoneName : String) (now : Instant) : Day × String :=
  let label := normalizeTimezone zones timezoneName
  match zones label with
  | some zone => (zone.date now, label)
  | none => (ZoneInfo.utc.date now, "UTC")

/-- `_day_bounds_utc`. -/
def dayBoundsUtc (zones : Zones) (day : Day) (timezoneName : String) : Instant × Instant :=
  let start := ((zones timezoneName).getD .utc).midnight day
  (start, start + microsecondsPerDay)

def within (bounds : Instant × Instant) (time : Option Instant) : Bool :=
  time.any fun t => bounds.1 ≤ t ∧ t < bounds.2

/-! ## The tables it reads -/

/-- The owner of a row. -/
abbrev Tenant := OrganizationId × UserId

inductive PositionStatus where
  | open | closed | liquidated
  deriving DecidableEq, Repr

structure Position where
  tenant : Tenant
  size : ℚ
  entryPrice : ℚ
  unrealizedPnl : ℚ := 0
  realizedPnl : ℚ := 0
  status : PositionStatus := .open
  closedAt : Option Instant := none

inductive ExecutionMode where
  | paper | readOnly | trade
  deriving DecidableEq, Repr

inductive OrderStatus where
  | pending | open | partiallyFilled | filled | cancelled | rejected
  deriving DecidableEq, Repr

structure Order where
  tenant : Tenant
  mode : ExecutionMode := .paper
  status : OrderStatus := .pending
  createdAt : Instant

inductive JournalTradeSource where
  | manual | paperExecution | manualDemoTest | blofinDemoManual | paperValidation | backtest
  | imported | system
  deriving DecidableEq, Repr

inductive JournalTradeStatus where
  | planned | open | closed | cancelled
  deriving DecidableEq, Repr

/-- The columns of `JournalTrade` that the accounting reads. -/
structure JournalTrade where
  tenant : Tenant
  source : JournalTradeSource
  status : JournalTradeStatus
  entryTime : Option Instant := none
  exitTime : Option Instant := none
  size : Option ℚ := none
  entryPrice : Option ℚ := none
  netPnl : Option ℚ := none
  externalRef : Option String := none
  executionLifecycleId : Option Nat := none
  linkedPositionId : Option Nat := none

structure UserRiskSettings where
  dailyLossLimit : Option ℚ := none
  dailyTarget : Option ℚ := none
  maxTradesPerDay : Int := 20
  defaultAccountBalance : ℚ := 10000
  timezone : String := "UTC"

structure DailyRiskState where
  realizedPnl : ℚ := 0
  unrealizedPnl : ℚ := 0
  dailyLossLimit : Option ℚ
  dailyTarget : Option ℚ
  maxTradesPerDay : Option Int
  tradeCount : Nat := 0
  locked : Bool := false

structure Portfolio where
  positions : List Position
  orders : List Order
  journalTrades : List JournalTrade
  settings : Table Tenant UserRiskSettings
  /-- `User.timezone`. -/
  timezones : Table UserId String
  dailyRiskStates : Table (Tenant × Day) DailyRiskState

/-! ## Figures of a day -/

/-- `RiskSettingsService.get`: the stored settings, or the defaults in the user's zone. -/
def Portfolio.userSettings (portfolio : Portfolio) (zones : Zones) (tenant : Tenant) :
    UserRiskSettings :=
  (portfolio.settings.find tenant).getD
    { timezone := normalizeTimezone zones (((portfolio.timezones.find tenant.2).filter
        (· ≠ "")).getD "UTC") }

def Portfolio.closedPositions (portfolio : Portfolio) (tenant : Tenant) : List Position :=
  portfolio.positions.filter fun p => p.tenant = tenant ∧ p.status = .closed

def Portfolio.sumRealizedClosed (portfolio : Portfolio) (tenant : Tenant)
    (bounds : Instant × Instant) : ℚ :=
  (((portfolio.closedPositions tenant).filter fun p => within bounds p.closedAt).map
    (·.realizedPnl)).sum

def Portfolio.countPaperFills (portfolio : Portfolio) (tenant : Tenant)
    (bounds : Instant × Instant) : Nat :=
  (portfolio.orders.filter fun o => o.tenant = tenant ∧ o.mode = .paper ∧ o.status = .filled ∧
    within bounds (some o.createdAt)).length

def Portfolio.openPositions (portfolio : Portfolio) (tenant : Tenant) : List Position :=
  portfolio.positions.filter fun p => p.tenant = tenant ∧ p.status = .open

def Portfolio.openPositionTotals (portfolio : Portfolio) (tenant : Tenant) : ℚ × ℚ :=
  (((portfolio.openPositions tenant).map fun p => p.size * p.entryPrice).sum,
    ((portfolio.openPositions tenant).map (·.unrealizedPnl)).sum)

def historyRefPrefix : String := "blofin-demo-history:"

def JournalTrade.mirrorEconomics (trade : JournalTrade) : Bool :=
  trade.source = .blofinDemoManual ||
    (trade.externalRef.getD "").toList.take historyRefPrefix.length = historyRefPrefix.toList

def JournalTrade.canonical (trade : JournalTrade) (tenant : Tenant) : Bool :=
  trade.tenant = tenant && (trade.source = .paperExecution || trade.source = .manualDemoTest) &&
    trade.executionLifecycleId.isSome && trade.linkedPositionId.isNone

def Portfolio.closedTrades (portfolio : Portfolio) (tenant : Tenant) : List JournalTrade :=
  portfolio.journalTrades.filter fun t =>
    t.canonical tenant && t.status = .closed && !t.mirrorEconomics

def Portfolio.canonicalPortfolioTotals (portfolio : Portfolio) (tenant : Tenant)
    (bounds : Instant × Instant) : ℚ × Nat × ℚ :=
  ((((portfolio.closedTrades tenant).filter fun t => within bounds t.exitTime).map
      fun t => t.netPnl.getD 0).sum,
    (portfolio.journalTrades.filter fun t => t.canonical tenant && within bounds t.entryTime &&
      (t.status = .open || t.status = .closed)).length,
    ((portfolio.journalTrades.filter fun t => t.canonical tenant && t.status = .open).map fun t =>
      -- a product with a null is null
      ((t.size.bind fun size => t.entryPrice.map (size * ·)).getD 0)).sum)

/-- `AuthoritativeDailySnapshot`. -/
structure AuthoritativeDailySnapshot where
  day : Day
  realizedPnl : ℚ
  unrealizedPnl : ℚ
  openExposureNotional : ℚ
  tradeCount : Nat
  dailyLocked : Bool
  dailyLossLimit : Option ℚ
  maxTradesPerDay : Int
  accountEquity : ℚ

def Portfolio.ensureDailyRiskState (portfolio : Portfolio) (tenant : Tenant) (day : Day) :
    DailyRiskState :=
  (portfolio.dailyRiskStates.find (tenant, day)).getD
    (let settings := (portfolio.settings.find tenant).getD {}
    { dailyLossLimit := settings.dailyLossLimit
      dailyTarget := settings.dailyTarget
      maxTradesPerDay := settings.maxTradesPerDay })

/-- The row of the day with fresh figures. It locks once the limit is reached. -/
def DailyRiskState.refresh (row : DailyRiskState) (settings : UserRiskSettings)
    (realized unrealized : ℚ) (tradeCount : Nat) : DailyRiskState :=
  let limit := settings.dailyLossLimit.or row.dailyLossLimit
  { realizedPnl := realized
    unrealizedPnl := unrealized
    dailyLossLimit := settings.dailyLossLimit
    dailyTarget := settings.dailyTarget
    maxTradesPerDay := settings.maxTradesPerDay
    tradeCount := tradeCount
    locked := row.locked || limit.any fun l => realized ≤ -l }

def Portfolio.today (portfolio : Portfolio) (zones : Zones) (tenant : Tenant) (now : Instant) :
    Day × Instant × Instant :=
  let resolved := resolveDay zones (portfolio.userSettings zones tenant).timezone now
  (resolved.1, dayBoundsUtc zones resolved.1 resolved.2)

/-- Recompute the counters of the day and persist its row. -/
def Portfolio.syncFromPortfolio (portfolio : Portfolio) (zones : Zones) (tenant : Tenant)
    (now : Instant) : Portfolio × AuthoritativeDailySnapshot :=
  let settings := portfolio.userSettings zones tenant
  let today := portfolio.today zones tenant now
  let canonical := portfolio.canonicalPortfolioTotals tenant today.2
  let totals := portfolio.openPositionTotals tenant
  let realized := portfolio.sumRealizedClosed tenant today.2 + canonical.1
  let tradeCount := portfolio.countPaperFills tenant today.2 + canonical.2.1
  let existing := portfolio.ensureDailyRiskState tenant today.1
  let row := existing.refresh settings realized totals.2 tradeCount
  ({ portfolio with dailyRiskStates := portfolio.dailyRiskStates.put (tenant, today.1) row },
    { day := today.1
      realizedPnl := realized
      unrealizedPnl := totals.2
      openExposureNotional := totals.1 + canonical.2.2
      tradeCount := tradeCount
      dailyLocked := row.locked
      dailyLossLimit := settings.dailyLossLimit.or existing.dailyLossLimit
      maxTradesPerDay := settings.maxTradesPerDay
      -- starting balance, the realized result of the day, the unrealized result
      accountEquity := settings.defaultAccountBalance + realized + totals.2 })

def AuthoritativeDailySnapshot.figures (snapshot : AuthoritativeDailySnapshot) : DailyFigures where
  accountEquity := .finite snapshot.accountEquity
  realizedPnl := .finite snapshot.realizedPnl
  unrealizedPnl := .finite snapshot.unrealizedPnl

/-! ## Equity over the whole history -/

def Portfolio.realizedToDate (portfolio : Portfolio) (tenant : Tenant) : ℚ :=
  ((portfolio.closedPositions tenant).map (·.realizedPnl)).sum +
    ((portfolio.closedTrades tenant).map fun t => t.netPnl.getD 0).sum

def Portfolio.equityToDate (portfolio : Portfolio) (zones : Zones) (tenant : Tenant) : ℚ :=
  (portfolio.userSettings zones tenant).defaultAccountBalance + portfolio.realizedToDate tenant +
    (portfolio.openPositionTotals tenant).2

def Portfolio.realizedOutside (portfolio : Portfolio) (tenant : Tenant)
    (bounds : Instant × Instant) : ℚ :=
  (((portfolio.closedPositions tenant).filter fun p => !within bounds p.closedAt).map
      (·.realizedPnl)).sum +
    (((portfolio.closedTrades tenant).filter fun t => !within bounds t.exitTime).map
      fun t => t.netPnl.getD 0).sum

def Portfolio.OtherDaysCancel (portfolio : Portfolio) (zones : Zones) (tenant : Tenant)
    (now : Instant) : Prop :=
  portfolio.realizedOutside tenant (portfolio.today zones tenant now).2 = 0

instance (portfolio : Portfolio) (zones : Zones) (tenant : Tenant) (now : Instant) :
    Decidable (portfolio.OtherDaysCancel zones tenant now) :=
  inferInstanceAs (Decidable (portfolio.realizedOutside tenant _ = 0))

theorem sum_filter_add_sum_filter_not {α : Type*} (l : List α) (f : α → ℚ) (p : α → Bool) :
    ((l.filter p).map f).sum + ((l.filter fun a => !p a).map f).sum = (l.map f).sum := by
  have parts := ((List.filter_append_perm p l).map f).sum_eq
  rwa [List.map_append, List.sum_append] at parts

/-- What the snapshot leaves out of the equity to date. -/
theorem accountEquity_add_outside (portfolio : Portfolio) (zones : Zones) (tenant : Tenant)
    (now : Instant) :
    (portfolio.syncFromPortfolio zones tenant now).2.accountEquity +
        portfolio.realizedOutside tenant (portfolio.today zones tenant now).2 =
      portfolio.equityToDate zones tenant := by
  have positions := sum_filter_add_sum_filter_not (portfolio.closedPositions tenant)
    (·.realizedPnl) fun p => within (portfolio.today zones tenant now).2 p.closedAt
  have trades := sum_filter_add_sum_filter_not (portfolio.closedTrades tenant)
    (fun t => t.netPnl.getD 0) fun t => within (portfolio.today zones tenant now).2 t.exitTime
  simp only [Portfolio.syncFromPortfolio, Portfolio.sumRealizedClosed,
    Portfolio.canonicalPortfolioTotals, Portfolio.realizedOutside, Portfolio.equityToDate,
    Portfolio.realizedToDate]
  rw [← positions, ← trades]
  ring

/-- The snapshot's equity is the equity to date exactly when the other days cancel. -/
theorem accountEquity_eq_iff (portfolio : Portfolio) (zones : Zones) (tenant : Tenant)
    (now : Instant) :
    (portfolio.syncFromPortfolio zones tenant now).2.accountEquity =
        portfolio.equityToDate zones tenant ↔ portfolio.OtherDaysCancel zones tenant now := by
  rw [← accountEquity_add_outside portfolio zones tenant now, Portfolio.OtherDaysCancel]
  exact left_eq_add

end AlphaTrade.Risk
