import Mathlib.Data.Rat.Defs
import Mathlib.Algebra.Order.Ring.Unbundled.Rat
import AlphaTrade.Execution.Rows

/-!
# The notification policy

What a user wants to be told, and the rules by which a notification is held back. The first rule
that fails names the reason. A mandatory risk notification is never held back.
-/
namespace AlphaTrade.Telegram
open Execution (Instant)

inductive NotificationSeverity where
  | info | watch | action | critical
  deriving DecidableEq, Repr

/-- `SEVERITY_RANK`. -/
def NotificationSeverity.rank : NotificationSeverity → Nat
  | .info => 0
  | .watch => 1
  | .action => 2
  | .critical => 3

inductive NotificationEventType where
  | setup | risk | paperTradeOpened | paperTradeClosed | stop | partialProfit | dailyReview | other
  | sfpSweepDetected | sfpReclaimForming | sfpConfirmed | sfpInvalidated | sfpExpired
  | sfpBlockedByRisk | sfpLevelApproach
  deriving DecidableEq, Repr

inductive AlertPhase where
  | forming | confirmed
  deriving DecidableEq, Repr

/-- The bounds are minutes of the day, which compare as their texts do. -/
structure PolicyQuietHours where
  start : Fin 1440
  stop : Fin 1440
  timezone : String
  differ : start ≠ stop
  deriving DecidableEq, Repr

structure TelegramNotificationPolicyV2 where
  strategySubscriptions : Option (List Nat) := none
  symbolSubscriptions : Option (List String) := none
  setupStages : Option (List String) := none
  eventTypes : Option (List NotificationEventType) := none
  severities : Option (List NotificationSeverity) := none
  minimumSeverity : NotificationSeverity := .info
  minimumQuality : Option Rat := none
  formingAlerts : Bool := true
  confirmedAlerts : Bool := true
  riskAlerts : Bool := true
  paperTradeOpened : Bool := true
  paperTradeClosed : Bool := true
  stopEvent : Bool := true
  partialProfitEvent : Bool := true
  dailyReviewEvent : Bool := true
  cooldownSeconds : Nat := 0
  duplicateSuppressionSeconds : Nat := 86400
  quietHours : Option PolicyQuietHours := none
  deriving DecidableEq, Repr

structure TelegramNotificationEvent where
  eventType : NotificationEventType
  severity : NotificationSeverity
  strategyId : Option Nat
  symbol : Option String
  setupStage : Option String
  phase : Option AlertPhase
  quality : Option Rat
  duplicateKey : String
  occurredAt : Instant
  mandatoryRisk : Bool
  mandatory_only_risk : mandatoryRisk → eventType = .risk
  deriving DecidableEq, Repr

/-- `PolicyHistory`: an earlier notification and when it was accepted. -/
structure PolicyHistory where
  event : TelegramNotificationEvent
  acceptedAt : Instant

/-- `cooldown_scope`. -/
def cooldownScope (event : TelegramNotificationEvent) :
    Option Nat × Option String × NotificationEventType × Option String × Option AlertPhase :=
  (event.strategyId, event.symbol, event.eventType, event.setupStage, event.phase)

/-- `EVENT_TOGGLES`: whether the policy wants events of the type. -/
def TelegramNotificationPolicyV2.wants (policy : TelegramNotificationPolicyV2) :
    NotificationEventType → Bool
  | .risk | .sfpBlockedByRisk => policy.riskAlerts
  | .paperTradeOpened => policy.paperTradeOpened
  | .paperTradeClosed => policy.paperTradeClosed
  | .stop => policy.stopEvent
  | .partialProfit => policy.partialProfitEvent
  | .dailyReview => policy.dailyReviewEvent
  | _ => true

def Unsubscribed {α : Type} (subscribed : Option (List α)) (fact : Option α) : Prop :=
  ∃ values ∈ subscribed, ∀ value ∈ fact, value ∉ values

instance {α : Type} [DecidableEq α] (subscribed : Option (List α)) (fact : Option α) :
    Decidable (Unsubscribed subscribed fact) :=
  inferInstanceAs (Decidable (∃ values ∈ subscribed, _))

/-- The minute of the day in a timezone. -/
abbrev LocalMinute := String → Instant → Fin 1440

def PolicyQuietHours.Contains (localMinute : LocalMinute) (quiet : PolicyQuietHours)
    (now : Instant) : Prop :=
  let minute := localMinute quiet.timezone now
  if quiet.start < quiet.stop then quiet.start ≤ minute ∧ minute < quiet.stop
  else quiet.start ≤ minute ∨ minute < quiet.stop

instance (localMinute : LocalMinute) (quiet : PolicyQuietHours) (now : Instant) :
    Decidable (quiet.Contains localMinute now) := by
  unfold PolicyQuietHours.Contains
  infer_instance

/-- The earlier notification was accepted within the last `seconds`. -/
def PolicyHistory.Within (prior : PolicyHistory) (now : Instant) (seconds : Nat) : Prop :=
  0 ≤ now - prior.acceptedAt ∧ now - prior.acceptedAt < seconds * 1000000

instance (prior : PolicyHistory) (now : Instant) (seconds : Nat) :
    Decidable (prior.Within now seconds) := instDecidableAnd

/-- `evaluate_telegram_policy`: the reason to hold the notification back. -/
def evaluateTelegramPolicy (localMinute : LocalMinute) (policy : TelegramNotificationPolicyV2)
    (event : TelegramNotificationEvent) (now : Instant) (history : List PolicyHistory) :
    Option String :=
  if event.mandatoryRisk then none
  else if Unsubscribed policy.strategySubscriptions event.strategyId then
    some "POLICY_STRATEGY_SUBSCRIPTIONS"
  else if Unsubscribed policy.symbolSubscriptions event.symbol then
    some "POLICY_SYMBOL_SUBSCRIPTIONS"
  else if Unsubscribed policy.setupStages event.setupStage then some "POLICY_SETUP_STAGES"
  else if Unsubscribed policy.eventTypes (some event.eventType) then some "POLICY_EVENT_TYPES"
  else if Unsubscribed policy.severities (some event.severity) then some "POLICY_SEVERITIES"
  else if event.severity.rank < policy.minimumSeverity.rank then some "POLICY_MINIMUM_SEVERITY"
  else if ¬policy.wants event.eventType then some "POLICY_EVENT_DISABLED"
  else if event.eventType = .setup ∧ event.phase = none ∧
      (¬policy.formingAlerts ∨ ¬policy.confirmedAlerts) then some "POLICY_PHASE_MISSING"
  else if event.phase = some .forming ∧ ¬policy.formingAlerts then some "POLICY_FORMING_DISABLED"
  else if event.phase = some .confirmed ∧ ¬policy.confirmedAlerts then
    some "POLICY_CONFIRMED_DISABLED"
  else if policy.minimumQuality ≠ none ∧ event.quality = none then some "POLICY_QUALITY_MISSING"
  else if ∃ minimum ∈ policy.minimumQuality, ∃ quality ∈ event.quality, quality < minimum then
    some "POLICY_MINIMUM_QUALITY"
  else if ∃ quiet ∈ policy.quietHours, quiet.Contains localMinute now then
    some "POLICY_QUIET_HOURS"
  else if ∃ prior ∈ history, prior.Within now policy.duplicateSuppressionSeconds ∧
      prior.event.duplicateKey = event.duplicateKey then some "POLICY_DUPLICATE"
  else if ∃ prior ∈ history, prior.Within now policy.cooldownSeconds ∧
      cooldownScope prior.event = cooldownScope event then some "POLICY_COOLDOWN"
  else none

end AlphaTrade.Telegram
