import AlphaTrade.Execution.Rows
import AlphaTrade.Library.Windows
import AlphaTrade.Risk.Profile

/-!
# Breakers

A breaker state is the live latch of one account: a drawdown latch, a daily pause
and a consecutive-loss pause, each pause with its expiry. Breaker intervals are
the log of when each of them opened and closed. `recordBreaker` merges fresh
figures into the stored state and appends to the log; the writers above it
compute the figures.

Every time is a UTC instant: a naive datetime is read as UTC, or refused. Figures
come in as decimals, so that one that is not finite takes the branch it takes in
the source.
-/
namespace AlphaTrade.Risk
open Library
open Execution (OrganizationId AccountId AccountKey Instant)

/-! ## The UTC day -/

def microsecondsPerHour : Int := 3600 * 1000000

def microsecondsPerDay : Int := 24 * microsecondsPerHour

def nextUtcDay (now : Instant) : Instant := (now / microsecondsPerDay + 1) * microsecondsPerDay

def looseningDelay : Int := 24 * microsecondsPerHour

def looseningEffectiveAt (now : Instant) : Instant := max (nextUtcDay now) (now + looseningDelay)

/-! ## Evaluation -/

structure BreakerConfig where
  dailyLossLimitPercent : ℚ
  drawdownBreakerPercent : ℚ
  consecutiveLossLimit : Int

structure BreakerSnapshot where
  equity : DecimalValue
  equityPeak : DecimalValue
  referenceEquity : DecimalValue
  realizedPnlToday : DecimalValue
  unrealizedPnlToday : DecimalValue
  consecutiveLosses : Int
  drawdownLatched : Bool
  now : Instant

structure BreakerVerdict where
  dailyLossActive : Bool
  drawdownActive : Bool
  consecutiveLossActive : Bool
  tripKillSwitch : Bool
  pausedUntil : Option Instant
  equityPeak : DecimalValue
  refuseNewTrades : Bool
  humanResetRequired : Bool

def requireMoney (value : DecimalValue) (code : String) : Except PolicyError Unit :=
  ensure (value.isFinite ∧ 0 < value.toRat) (.rejected code)

/-- `daily_pnl <= -daily_limit and daily_pnl < 0`. Only the realized part may be
something else than a finite number. -/
def dailyLossHit (realized : DecimalValue) (unrealized limit : ℚ) : Except PolicyError Bool :=
  match realized with
  | .finite x => .ok (x + unrealized ≤ -limit ∧ x + unrealized < 0)
  | .infinite negative => .ok negative
  | .nan => .error .invalidOperation

def BreakerSnapshot.peak (snapshot : BreakerSnapshot) : DecimalValue :=
  if snapshot.drawdownLatched = false ∧ snapshot.equityPeak.toRat < snapshot.equity.toRat then
    snapshot.equity
  else snapshot.equityPeak

def drawdownPercent (peak equity : ℚ) : ℚ := (peak - equity) / peak * 100

def evaluateBreakers (config : BreakerConfig) (snapshot : BreakerSnapshot) :
    Except PolicyError BreakerVerdict := do
  requireMoney snapshot.equity "equity_invalid"
  requireMoney snapshot.equityPeak "equity_peak_invalid"
  requireMoney snapshot.referenceEquity "reference_equity_invalid"
  ensure (0 ≤ snapshot.consecutiveLosses) (.rejected "consecutive_losses_invalid")
  let drawdownHit := snapshot.drawdownLatched || decide (config.drawdownBreakerPercent ≤
    drawdownPercent snapshot.peak.toRat snapshot.equity.toRat)
  ensure snapshot.unrealizedPnlToday.isFinite (.rejected "unrealized_pnl_invalid")
  let dailyLimit := snapshot.referenceEquity.toRat * config.dailyLossLimitPercent / 100
  let dailyHit ← dailyLossHit snapshot.realizedPnlToday snapshot.unrealizedPnlToday.toRat dailyLimit
  let consecutiveHit := decide (config.consecutiveLossLimit ≤ snapshot.consecutiveLosses)
  return {
    dailyLossActive := dailyHit
    drawdownActive := drawdownHit
    consecutiveLossActive := consecutiveHit
    tripKillSwitch := drawdownHit
    pausedUntil := if dailyHit || consecutiveHit then some (nextUtcDay snapshot.now) else none
    equityPeak := snapshot.peak
    refuseNewTrades := dailyHit || drawdownHit || consecutiveHit
    humanResetRequired := drawdownHit }

/-! ## Stored state -/

/-- `RiskPolicyBreakerState`: the live latch of one account. -/
structure BreakerState where
  equityPeak : DecimalValue
  drawdownLatched : Bool := false
  consecutiveLosses : Int := 0
  realizedPnl : Option DecimalValue := none
  unrealizedPnl : Option DecimalValue := none
  dailyPausedUntil : Option Instant := none
  consecutivePausedUntil : Option Instant := none
  deriving DecidableEq, Repr

inductive WindowKind where
  | daily | consecutive | drawdown
  deriving DecidableEq, Repr

/-- `RiskPolicyBreakerInterval`: one opening or closing of a window. -/
structure BreakerInterval where
  account : AccountKey
  kind : WindowKind
  mark : Mark Instant
  deriving DecidableEq, Repr

/-- The two breaker tables. -/
structure BreakerTables where
  states : Table AccountKey BreakerState
  intervals : List BreakerInterval

/-- `_pause_active`: the stored expiry is still to come. -/
def pauseActive (pausedUntil : Option Instant) (now : Instant) : Bool :=
  pausedUntil.any (now < ·)

def keptPause (stored proposed : Option Instant) (now : Instant) : Option Instant :=
  if pauseActive stored now then stored else proposed

def BreakerState.active (row : BreakerState) (now : Instant) : Bool :=
  row.drawdownLatched || pauseActive row.dailyPausedUntil now ||
    pauseActive row.consecutivePausedUntil now

def BreakerTables.breakerActive (tables : BreakerTables) (organization : OrganizationId)
    (now : Instant) : Bool :=
  tables.states.keys.any fun key =>
    key.1 = organization && (tables.states.find key).any (·.active now)

/-! ## The interval log -/

def marksOf (intervals : List BreakerInterval) (account : AccountKey) (kind : WindowKind) :
    List (Mark Instant) :=
  (intervals.filter fun row => row.account = account ∧ row.kind = kind).map (·.mark)

def breakerCovered (intervals : List BreakerInterval) (organization : OrganizationId)
    (moment : Instant) : Bool :=
  intervals.any fun row =>
    row.account.1 = organization && Mark.covered (marksOf intervals row.account row.kind) moment

def openStartedAt (intervals : List BreakerInterval) (account : AccountKey) (kind : WindowKind) :
    Option Instant :=
  Mark.openSince (marksOf intervals account kind)

def hasCloseAt (intervals : List BreakerInterval) (account : AccountKey) (kind : WindowKind)
    (moment : Instant) : Bool :=
  (marksOf intervals account kind).any (· = ⟨.close, moment⟩)

def appendInterval (intervals : List BreakerInterval) (account : AccountKey) (kind : WindowKind)
    (phase : Phase) (occurredAt : Instant) : List BreakerInterval :=
  let row : BreakerInterval := ⟨account, kind, ⟨phase, occurredAt⟩⟩
  if row ∈ intervals then intervals else intervals ++ [row]

def openBreaker (intervals : List BreakerInterval) (account : AccountKey) (kind : WindowKind)
    (startedAt : Instant) : List BreakerInterval :=
  if (openStartedAt intervals account kind).isSome then intervals
  else appendInterval intervals account kind .open startedAt

def closeBreaker (intervals : List BreakerInterval) (account : AccountKey) (kind : WindowKind)
    (endedAt : Instant) : List BreakerInterval :=
  if (openStartedAt intervals account kind).isSome then
    appendInterval intervals account kind .close endedAt
  else intervals

/-- The daily window is closed at its expiry when it opens, and opened once for each expiry. -/
def notePause (intervals : List BreakerInterval) (account : AccountKey) (kind : WindowKind)
    (now : Instant) : Option Instant → List BreakerInterval
  | none => intervals
  | some pausedUntil =>
    if pausedUntil ≤ now then intervals
    else if (openStartedAt intervals account kind).isSome then intervals
    else if hasCloseAt intervals account kind pausedUntil then intervals
    else appendInterval (appendInterval intervals account kind .open now) account kind .close
      pausedUntil

def noteConsecutivePause (intervals : List BreakerInterval) (account : AccountKey) (now : Instant)
    (pausedUntil : Option Instant) : List BreakerInterval :=
  if pauseActive pausedUntil now then openBreaker intervals account .consecutive now
  else closeBreaker intervals account .consecutive now

/-! ## Writers -/

/-- What `record_breaker` is called with. -/
structure BreakerRecord where
  equityPeak : DecimalValue
  consecutiveLosses : Int
  realizedPnl : DecimalValue
  unrealizedPnl : DecimalValue
  dailyPausedUntil : Option Instant
  consecutivePausedUntil : Option Instant
  drawdownLatched : Bool

/-- `_breaker_row`: the stored row, or a fresh one. -/
def BreakerTables.breakerRow (tables : BreakerTables) (account : AccountKey)
    (equityPeak : DecimalValue) : BreakerState :=
  (tables.states.find account).getD { equityPeak := equityPeak }

/-- The row after fresh figures: latches stay, and an unexpired pause keeps its
expiry and its count. -/
def BreakerState.merge (row : BreakerState) (record : BreakerRecord) (now : Instant) :
    BreakerState where
  equityPeak := record.equityPeak
  drawdownLatched := row.drawdownLatched || record.drawdownLatched
  consecutiveLosses :=
    if pauseActive row.consecutivePausedUntil now ∧
        record.consecutiveLosses < row.consecutiveLosses then row.consecutiveLosses
    else record.consecutiveLosses
  realizedPnl := some record.realizedPnl
  unrealizedPnl := some record.unrealizedPnl
  dailyPausedUntil := keptPause row.dailyPausedUntil record.dailyPausedUntil now
  consecutivePausedUntil := keptPause row.consecutivePausedUntil record.consecutivePausedUntil now

def noteDrawdown (intervals : List BreakerInterval) (account : AccountKey) (now : Instant)
    (latched : Bool) : List BreakerInterval :=
  if latched then openBreaker intervals account .drawdown now
  else closeBreaker intervals account .drawdown now

def noteRow (intervals : List BreakerInterval) (account : AccountKey) (row : BreakerState)
    (now : Instant) : List BreakerInterval :=
  let daily := notePause intervals account .daily now row.dailyPausedUntil
  let consecutive := noteConsecutivePause daily account now row.consecutivePausedUntil
  noteDrawdown consecutive account now row.drawdownLatched

def BreakerTables.recordBreaker (tables : BreakerTables) (account : AccountKey)
    (record : BreakerRecord) (now : Instant) : BreakerTables :=
  let row := (tables.breakerRow account record.equityPeak).merge record now
  { states := tables.states.put account row
    intervals := noteRow tables.intervals account row now }

def BreakerTables.latchDrawdown (tables : BreakerTables) (account : AccountKey)
    (equityPeak : DecimalValue) (now : Instant) : BreakerTables :=
  let row := tables.breakerRow account equityPeak
  { states := tables.states.put account
      { row with drawdownLatched := true, equityPeak := equityPeak }
    intervals := openBreaker tables.intervals account .drawdown now }

def streakAfterExpiry (consecutiveLosses : Int) (pausedUntil : Option Instant) (now : Instant) :
    Int :=
  match pausedUntil with
  | none => consecutiveLosses
  | some expiry => if expiry ≤ now then 0 else consecutiveLosses

/-- Set the pause once: the later of the next UTC midnight and the cooldown. -/
def consecutivePauseExpiry (now : Instant) (cooldownHours : Int) (existing : Option Instant) :
    Except PolicyError Instant :=
  match existing.filter (now < ·) with
  | some expiry => .ok expiry
  | none => do
    ensure (1 ≤ cooldownHours) (.rejected "consecutive_loss_cooldown_invalid")
    return max (nextUtcDay now) (now + cooldownHours * microsecondsPerHour)

def consecutiveUntil (hit : Bool) (now : Instant) (cooldownHours : Int)
    (existing : Option Instant) : Except PolicyError (Option Instant) :=
  if hit then (consecutivePauseExpiry now cooldownHours existing).map some
  else .ok (existing.filter (now < ·))

def dailyUntil (hit : Bool) (now : Instant) (existing : Option Instant) : Option Instant :=
  if pauseActive existing now then existing
  else if hit then some (nextUtcDay now) else none

/-- The evaluation of one snapshot: what `trip_breakers` records, and its verdict. -/
def tripRecord (config : BreakerConfig) (snapshot : BreakerSnapshot) (now : Instant)
    (existingConsecutive existingDaily : Option Instant) (cooldownHours : Int) :
    Except PolicyError (BreakerRecord × BreakerVerdict) := do
  let verdict ← evaluateBreakers config snapshot
  let consecutive ←
    consecutiveUntil verdict.consecutiveLossActive now cooldownHours existingConsecutive
  let daily := dailyUntil verdict.dailyLossActive now existingDaily
  let held := daily.isSome || consecutive.isSome
  return (
    { equityPeak := verdict.equityPeak
      consecutiveLosses := snapshot.consecutiveLosses
      realizedPnl := snapshot.realizedPnlToday
      unrealizedPnl := snapshot.unrealizedPnlToday
      dailyPausedUntil := daily
      consecutivePausedUntil := consecutive
      drawdownLatched := verdict.drawdownActive },
    { verdict with refuseNewTrades := verdict.refuseNewTrades || held })

def BreakerTables.tripBreakers (tables : BreakerTables) (account : AccountKey)
    (config : BreakerConfig) (snapshot : BreakerSnapshot) (now : Instant)
    (existingConsecutive existingDaily : Option Instant) (cooldownHours : Int) :
    Except PolicyError (BreakerTables × BreakerVerdict) := do
  let (record, verdict) ←
    tripRecord config snapshot now existingConsecutive existingDaily cooldownHours
  return (tables.recordBreaker account record now, verdict)

/-- What a scan reads of the stored row before it computes. -/
structure Stored where
  consecutiveLosses : Int
  keptPause : Option Instant
  keptDaily : Option Instant
  latched : Bool

/-- The stored streak and the pauses still in force, with the count that the caller
passes or that the expiry leaves. While the pause is held the count cannot fall. -/
def BreakerTables.stored (tables : BreakerTables) (account : AccountKey) (now : Instant)
    (consecutiveLosses : Option Int) : Stored :=
  let row := tables.states.find account
  let count := (row.map (·.consecutiveLosses)).getD 0
  let pause := row.bind (·.consecutivePausedUntil)
  let kept := pause.filter (now < ·)
  let consecutive := consecutiveLosses.getD (streakAfterExpiry count pause now)
  { consecutiveLosses := if kept.isSome ∧ consecutive < count then count else consecutive
    keptPause := kept
    keptDaily := (row.bind (·.dailyPausedUntil)).filter (now < ·)
    latched := (row.map (·.drawdownLatched)).getD false }

/-- `_finite_money`. -/
def finiteMoney (value : DecimalValue) : DecimalValue :=
  if value.isFinite then value else .finite 0

/-- The figures of `AuthoritativeDailySnapshot` that a scan uses. -/
structure DailyFigures where
  accountEquity : DecimalValue
  realizedPnl : DecimalValue
  unrealizedPnl : DecimalValue

/-- What `_latch_ruined_equity` records when equity is not a positive number. -/
def BreakerTables.ruinedRecord (tables : BreakerTables) (account : AccountKey)
    (profile : RiskPolicyProfile) (daily : DailyFigures) (now : Instant)
    (consecutiveLosses : Option Int) : Except PolicyError BreakerRecord := do
  let stored := tables.stored account now consecutiveLosses
  let consecutive ← consecutiveUntil
    (profile.consecutiveLossLimit ≤ stored.consecutiveLosses) now
    profile.consecutiveLossCooldownHours stored.keptPause
  return {
    equityPeak := ((tables.states.find account).map (·.equityPeak)).filter (fun peak =>
      peak.isFinite ∧ 0 < peak.toRat) |>.getD (.finite 1)
    consecutiveLosses := stored.consecutiveLosses
    realizedPnl := finiteMoney daily.realizedPnl
    unrealizedPnl := finiteMoney daily.unrealizedPnl
    dailyPausedUntil := stored.keptDaily
    consecutivePausedUntil := consecutive
    drawdownLatched := true }

def decimal {α : Type} (value : Option α) : Except PolicyError α :=
  match value with
  | some a => .ok a
  | none => .error .invalidOperation

def BreakerTables.storedPeak (tables : BreakerTables) (account : AccountKey)
    (equity : DecimalValue) : Except PolicyError DecimalValue :=
  match tables.states.find account with
  | none => .ok equity
  | some row => (decimal row.equityPeak.isPositive).map fun above =>
    if above then row.equityPeak else equity

def referenceEquity (daily : DailyFigures) : Except PolicyError DecimalValue := do
  let before ← decimal (daily.accountEquity.sub daily.realizedPnl)
  let reference ← decimal (before.sub daily.unrealizedPnl)
  let above ← decimal reference.isPositive
  return if above then reference else daily.accountEquity

/-- What a scan records from the daily figures, and whether new trades are refused. -/
def BreakerTables.profileRecord (tables : BreakerTables) (account : AccountKey)
    (profile : RiskPolicyProfile) (daily : DailyFigures) (now : Instant)
    (consecutiveLosses : Option Int) : Except PolicyError (BreakerRecord × Bool) :=
  if daily.accountEquity.isFinite ∧ 0 < daily.accountEquity.toRat then do
    let peak ← tables.storedPeak account daily.accountEquity
    let stored := tables.stored account now consecutiveLosses
    let reference ← referenceEquity daily
    let (record, verdict) ← tripRecord
      { dailyLossLimitPercent := profile.dailyLossLimitPercent
        drawdownBreakerPercent := profile.drawdownBreakerPercent
        consecutiveLossLimit := profile.consecutiveLossLimit }
      { equity := daily.accountEquity
        equityPeak := peak
        referenceEquity := reference
        realizedPnlToday := daily.realizedPnl
        unrealizedPnlToday := daily.unrealizedPnl
        consecutiveLosses := stored.consecutiveLosses
        drawdownLatched := stored.latched
        now := now }
      now stored.keptPause stored.keptDaily profile.consecutiveLossCooldownHours
    return (record, verdict.refuseNewTrades)
  else (tables.ruinedRecord account profile daily now consecutiveLosses).map (·, true)

def BreakerTables.persistProfileBreakers (tables : BreakerTables) (account : AccountKey)
    (profile : RiskPolicyProfile) (daily : DailyFigures) (now : Instant)
    (consecutiveLosses : Option Int) : Except PolicyError (BreakerTables × Bool) := do
  let (record, refused) ← tables.profileRecord account profile daily now consecutiveLosses
  return (tables.recordBreaker account record now, refused)

end AlphaTrade.Risk
