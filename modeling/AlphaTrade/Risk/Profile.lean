import Mathlib.Tactic.Linarith
import AlphaTrade.Library.Check
import AlphaTrade.Library.PyValue

/-!
# Risk-policy profiles

A profile is the complete set of limits a trade is sized under. Every number is
checked against code ceilings and refused, never clamped. A change from one
profile to another is classified from the difference of their canonical forms: a
change that loosens any one limit is a loosening.

Decimals are exact rationals: `validate_profile` refuses a value that is not
finite with the same code as one out of range. The canonical form keeps decimals
at eight places; its texts are compared as the numbers they denote.
-/
namespace AlphaTrade.Risk
open Library

/-- `RiskPolicyRejected` with its code, the signal of a decimal operation, or a
constraint of the database. -/
inductive PolicyError where
  | rejected (code : String)
  | invalidOperation
  | integrity
  deriving DecidableEq, Repr

inductive PolicyKind where
  | conservative | standard | aggressive | internalPaper | demo
  deriving DecidableEq, Repr

inductive Grade where
  | aPlus | a | bPlus | b | c
  deriving DecidableEq, Repr

inductive ChangeClass where
  | initial | tightening | loosening
  deriving DecidableEq, Repr

def tradableGrades : List Grade := [.aPlus, .a, .bPlus, .b]

def gradeOrder : List Grade := [.aPlus, .a, .bPlus, .b, .c]

/-- One complete policy. Percents are percent points: 1 means one percent of equity. -/
structure RiskPolicyProfile where
  kind : PolicyKind
  riskPercentByGrade : Grade → ℚ
  maxLeverage : ℚ
  dailyLossLimitPercent : ℚ
  maxAggregateOpenRiskPercent : ℚ
  maxOpenPositions : Int
  maxNotionalPerTradePercent : ℚ
  maxAggregateNotionalPercent : ℚ
  minStopAtrMultiple : ℚ
  minStopAbsoluteFloor : ℚ
  maxCostShareOfR : ℚ
  drawdownBreakerPercent : ℚ
  consecutiveLossLimit : Int
  consecutiveLossCooldownHours : Int := 24
  autonomousInternalPaperEnabled : Bool := false
  autonomousBlofinDemoEnabled : Bool := false
  profileName : String := ""
  defaultLeverage : ℚ := 1
  paperDemoDataCollection : Bool := false

/-! ## Ceilings -/

def hardMaxRiskPerTradePercent : ℚ := 2
def paperDemoMaxRiskPerTradePercent : ℚ := 5
def hardMaxDailyLossPercent : ℚ := 6
def hardMaxAggregateOpenRiskPercent : ℚ := 6
def hardMaxLeverage : ℚ := 20
def hardMaxCostShareOfR : ℚ := 1 / 4
def hardMaxNotionalPercent : ℚ := 100
def paperDemoMaxNotionalPercent : ℚ := 2000

/-- The kinds in `PAPER_DEMO_KINDS`. -/
def PolicyKind.isPaperDemo : PolicyKind → Bool
  | .internalPaper | .demo => true
  | _ => false

def riskCeilingFor (kind : PolicyKind) : ℚ :=
  if kind.isPaperDemo then paperDemoMaxRiskPerTradePercent else hardMaxRiskPerTradePercent

def notionalCeilingFor (kind : PolicyKind) : ℚ :=
  if kind.isPaperDemo then paperDemoMaxNotionalPercent else hardMaxNotionalPercent

/-! ## Validation -/

def requirePercent (value lo hi : ℚ) (code : String) : Except PolicyError Unit := do
  ensure (value ≤ hi ∧ lo ≤ value) (.rejected code)
  -- every caller asks for a positive number
  ensure (0 < value) (.rejected code)

def isProfileName (name : String) : Bool :=
  name.length ≤ 64 && name.toList.all fun c => c.isLower || c.isDigit || c == '_'

def validateProfile (profile : RiskPolicyProfile) : Except PolicyError Unit := do
  tradableGrades.forM fun grade =>
    requirePercent (profile.riskPercentByGrade grade) 0 (riskCeilingFor profile.kind)
      "risk_per_trade_exceeds_ceiling"
  ensure (profile.riskPercentByGrade .c = 0) (.rejected "c_grade_must_not_trade")
  requirePercent profile.maxLeverage 1 hardMaxLeverage "leverage_exceeds_ceiling"
  requirePercent profile.dailyLossLimitPercent 0 hardMaxDailyLossPercent
    "daily_loss_exceeds_ceiling"
  requirePercent profile.maxAggregateOpenRiskPercent 0 hardMaxAggregateOpenRiskPercent
    "aggregate_open_risk_exceeds_ceiling"
  ensure (1 ≤ profile.maxOpenPositions ∧ profile.maxOpenPositions ≤ 100)
    (.rejected "max_open_positions_invalid")
  requirePercent profile.maxNotionalPerTradePercent 0 (notionalCeilingFor profile.kind)
    "notional_per_trade_invalid"
  requirePercent profile.maxAggregateNotionalPercent 0 (notionalCeilingFor profile.kind)
    "aggregate_notional_invalid"
  ensure (profile.maxNotionalPerTradePercent < profile.maxAggregateNotionalPercent)
    (.rejected "symbol_cap_not_independent_of_notional")
  requirePercent profile.minStopAtrMultiple 0 100 "min_stop_multiple_invalid"
  requirePercent profile.minStopAbsoluteFloor 0 1 "min_stop_floor_invalid"
  requirePercent profile.maxCostShareOfR 0 hardMaxCostShareOfR "cost_share_exceeds_ceiling"
  requirePercent profile.drawdownBreakerPercent 0 100 "drawdown_breaker_invalid"
  ensure (1 ≤ profile.consecutiveLossLimit ∧ profile.consecutiveLossLimit ≤ 20)
    (.rejected "consecutive_loss_limit_invalid")
  ensure (1 ≤ profile.consecutiveLossCooldownHours ∧ profile.consecutiveLossCooldownHours ≤ 168)
    (.rejected "consecutive_loss_cooldown_invalid")
  ensure (profile.autonomousInternalPaperEnabled = false ∧
    profile.autonomousBlofinDemoEnabled = false) (.rejected "autonomous_flags_must_stay_off")
  ensure (isProfileName profile.profileName) (.rejected "profile_name_invalid")
  ensure (1 ≤ profile.defaultLeverage ∧ profile.defaultLeverage ≤ profile.maxLeverage ∧
    profile.defaultLeverage ≤ hardMaxLeverage) (.rejected "default_leverage_invalid")
  ensure (profile.paperDemoDataCollection = true → profile.kind.isPaperDemo = true)
    (.rejected "data_collection_not_paper_or_demo")

/-- What every kind starts from. -/
def placeholderProfile (kind : PolicyKind) : RiskPolicyProfile where
  kind := kind
  riskPercentByGrade
    | .c => 0
    | _ => 1
  maxLeverage := 1
  dailyLossLimitPercent := 1
  maxAggregateOpenRiskPercent := 1
  maxOpenPositions := 1
  maxNotionalPerTradePercent := 10
  maxAggregateNotionalPercent := 25
  minStopAtrMultiple := 1
  minStopAbsoluteFloor := 1 / 1000
  maxCostShareOfR := 1 / 5
  drawdownBreakerPercent := 10
  consecutiveLossLimit := 4

/-! ## Canonical form and difference -/

/-- The keys of the canonical form. -/
inductive Key where
  | kind | riskPercent (grade : Grade) | maxLeverage | dailyLossLimitPercent
  | maxAggregateOpenRiskPercent | maxOpenPositions | maxNotionalPerTradePercent
  | maxAggregateNotionalPercent | minStopAtrMultiple | minStopAbsoluteFloor | maxCostShareOfR
  | drawdownBreakerPercent | consecutiveLossLimit | consecutiveLossCooldownHours
  | autonomousInternalPaperEnabled | autonomousBlofinDemoEnabled | profileName | defaultLeverage
  | paperDemoDataCollection
  deriving DecidableEq, Repr

def Key.all : List Key :=
  .kind :: gradeOrder.map .riskPercent ++
    [.maxLeverage, .dailyLossLimitPercent, .maxAggregateOpenRiskPercent, .maxOpenPositions,
      .maxNotionalPerTradePercent, .maxAggregateNotionalPercent, .minStopAtrMultiple,
      .minStopAbsoluteFloor, .maxCostShareOfR, .drawdownBreakerPercent, .consecutiveLossLimit,
      .consecutiveLossCooldownHours, .autonomousInternalPaperEnabled,
      .autonomousBlofinDemoEnabled, .profileName, .defaultLeverage, .paperDemoDataCollection]

/-- What a text of the canonical form says. -/
inductive Value where
  | kind (kind : PolicyKind)
  | number (x : ℚ)
  | flag (b : Bool)
  | name (s : String)
  deriving DecidableEq, Repr

/-- `_decimal` of a text; it is only asked of the numeric keys. -/
def Value.decimal : Value → ℚ
  | .number x => x
  | _ => 0

/-- `_text`: the number at eight decimal places. -/
def text (x : ℚ) : Value := .number (quantizeHalfEven 8 x)

/-- The entry of `canonical_profile` under a key. -/
def RiskPolicyProfile.entry (profile : RiskPolicyProfile) : Key → Value
  | .kind => .kind profile.kind
  | .riskPercent grade => text (profile.riskPercentByGrade grade)
  | .maxLeverage => text profile.maxLeverage
  | .dailyLossLimitPercent => text profile.dailyLossLimitPercent
  | .maxAggregateOpenRiskPercent => text profile.maxAggregateOpenRiskPercent
  | .maxOpenPositions => .number profile.maxOpenPositions
  | .maxNotionalPerTradePercent => text profile.maxNotionalPerTradePercent
  | .maxAggregateNotionalPercent => text profile.maxAggregateNotionalPercent
  | .minStopAtrMultiple => text profile.minStopAtrMultiple
  | .minStopAbsoluteFloor => text profile.minStopAbsoluteFloor
  | .maxCostShareOfR => text profile.maxCostShareOfR
  | .drawdownBreakerPercent => text profile.drawdownBreakerPercent
  | .consecutiveLossLimit => .number profile.consecutiveLossLimit
  | .consecutiveLossCooldownHours => .number profile.consecutiveLossCooldownHours
  -- written as "false" whatever the flags are
  | .autonomousInternalPaperEnabled => .flag false
  | .autonomousBlofinDemoEnabled => .flag false
  | .profileName => .name profile.profileName
  | .defaultLeverage => text profile.defaultLeverage
  | .paperDemoDataCollection => .flag profile.paperDemoDataCollection

def canonicalProfile (profile : RiskPolicyProfile) : Except PolicyError (Key → Value) := do
  validateProfile profile
  return profile.entry

/-- One field of a diff. There is no prior value when there is no prior profile. -/
structure Change where
  key : Key
  before : Option Value
  after : Value
  deriving DecidableEq, Repr

def priorEntries : Option RiskPolicyProfile → Except PolicyError (Key → Option Value)
  | none => .ok fun _ => none
  | some previous => (canonicalProfile previous).map fun entries key => some (entries key)

def profileDiff (previous : Option RiskPolicyProfile) (proposed : RiskPolicyProfile) :
    Except PolicyError (List Change) := do
  let current ← canonicalProfile proposed
  let prior ← priorEntries previous
  return Key.all.filterMap fun key =>
    if prior key = some (current key) then none else some ⟨key, prior key, current key⟩

def loosensWhenIncreased : List Key :=
  gradeOrder.map .riskPercent ++
    [.maxLeverage, .defaultLeverage, .dailyLossLimitPercent, .maxAggregateOpenRiskPercent,
      .maxOpenPositions, .maxNotionalPerTradePercent, .maxAggregateNotionalPercent,
      .maxCostShareOfR, .drawdownBreakerPercent, .consecutiveLossLimit]

def loosensWhenDecreased : List Key :=
  [.minStopAtrMultiple, .minStopAbsoluteFloor, .consecutiveLossCooldownHours]

/-- `_decimal(diff[key]["from"])`. -/
def Change.from (change : Change) : ℚ := (change.before.map Value.decimal).getD 0

/-- `_decimal(diff[key]["to"])`. -/
def Change.to (change : Change) : ℚ := change.after.decimal

/-- The diff raises what must not be raised, lowers what must not be lowered, or
turns data collection on. -/
def loosened (diff : List Change) : Bool :=
  diff.any fun change =>
    change.key ∈ loosensWhenIncreased ∧ change.from < change.to ∨
    change.key ∈ loosensWhenDecreased ∧ change.to < change.from ∨
    change.key = .paperDemoDataCollection ∧ change.after = .flag true ∧
      change.before ≠ some (.flag true)

def classOfDiff (diff : List Change) (unchanged : Option ChangeClass) :
    Except PolicyError ChangeClass :=
  if diff = [] then
    match unchanged with
    | some change => .ok change
    | none => .error (.rejected "no_change")
  else if loosened diff then .ok .loosening else .ok .tightening

def classifyChange (previous : Option RiskPolicyProfile) (proposed : RiskPolicyProfile)
    (unchanged : Option ChangeClass) : Except PolicyError ChangeClass :=
  match previous with
  | none => (validateProfile proposed).map fun _ => .initial
  | some previous => do classOfDiff (← profileDiff (some previous) proposed) unchanged

/-! ## Promotion -/

def graderVersion : String := "deterministic-grade/v1"

/-- The fields of a `PromotionReport` that are read. -/
structure PromotionReport where
  graderVersion : String
  ordered : Bool
  walkForwardOk : Bool
  eligible : Bool
  promotionApplied : Bool := false
  deriving DecidableEq, Repr

def placeholderRiskPercent : ℚ := 1

def PromotionReport.allows (report : PromotionReport) : Bool :=
  report.graderVersion == Risk.graderVersion && report.eligible && report.ordered &&
    report.walkForwardOk && !report.promotionApplied

/-- A tradable grade above the placeholder needs an eligible report, data
collection on a paper or demo profile apart. -/
def assertPromotionAllows (profile : RiskPolicyProfile) (report : Option PromotionReport) :
    Except PolicyError Unit :=
  ensure
    ((∀ grade ∈ tradableGrades, profile.riskPercentByGrade grade ≤ placeholderRiskPercent) ∨
      profile.paperDemoDataCollection ∧ profile.kind.isPaperDemo ∨
      report.any PromotionReport.allows)
    (.rejected "grade_above_one_percent_requires_promotion")

/-! ## No limit looser -/

/-- Every limit of the proposed profile is at least as tight. -/
@[mk_iff]
structure NoLooser (proposed previous : RiskPolicyProfile) : Prop where
  riskPercentByGrade : ∀ grade ∈ gradeOrder,
    proposed.riskPercentByGrade grade ≤ previous.riskPercentByGrade grade
  maxLeverage : proposed.maxLeverage ≤ previous.maxLeverage
  defaultLeverage : proposed.defaultLeverage ≤ previous.defaultLeverage
  dailyLossLimitPercent : proposed.dailyLossLimitPercent ≤ previous.dailyLossLimitPercent
  maxAggregateOpenRiskPercent :
    proposed.maxAggregateOpenRiskPercent ≤ previous.maxAggregateOpenRiskPercent
  maxOpenPositions : proposed.maxOpenPositions ≤ previous.maxOpenPositions
  maxNotionalPerTradePercent :
    proposed.maxNotionalPerTradePercent ≤ previous.maxNotionalPerTradePercent
  maxAggregateNotionalPercent :
    proposed.maxAggregateNotionalPercent ≤ previous.maxAggregateNotionalPercent
  maxCostShareOfR : proposed.maxCostShareOfR ≤ previous.maxCostShareOfR
  drawdownBreakerPercent : proposed.drawdownBreakerPercent ≤ previous.drawdownBreakerPercent
  consecutiveLossLimit : proposed.consecutiveLossLimit ≤ previous.consecutiveLossLimit
  minStopAtrMultiple : previous.minStopAtrMultiple ≤ proposed.minStopAtrMultiple
  minStopAbsoluteFloor : previous.minStopAbsoluteFloor ≤ proposed.minStopAbsoluteFloor
  consecutiveLossCooldownHours :
    previous.consecutiveLossCooldownHours ≤ proposed.consecutiveLossCooldownHours
  paperDemoDataCollection :
    proposed.paperDemoDataCollection = true → previous.paperDemoDataCollection = true

instance (proposed previous : RiskPolicyProfile) : Decidable (NoLooser proposed previous) :=
  decidable_of_iff' _ (noLooser_iff proposed previous)

theorem mem_gradeOrder (grade : Grade) : grade ∈ gradeOrder := by
  cases grade <;> decide

theorem NoLooser.refl (profile : RiskPolicyProfile) : NoLooser profile profile := by
  constructor <;> simp

def RiskPolicyProfile.decimals (profile : RiskPolicyProfile) : List ℚ :=
  gradeOrder.map profile.riskPercentByGrade ++
    [profile.maxLeverage, profile.dailyLossLimitPercent, profile.maxAggregateOpenRiskPercent,
      profile.maxNotionalPerTradePercent, profile.maxAggregateNotionalPercent,
      profile.minStopAtrMultiple, profile.minStopAbsoluteFloor, profile.maxCostShareOfR,
      profile.drawdownBreakerPercent, profile.defaultLeverage]

def AtEightPlaces (profile : RiskPolicyProfile) : Prop :=
  ∀ x ∈ profile.decimals, quantizeHalfEven 8 x = x

instance (profile : RiskPolicyProfile) : Decidable (AtEightPlaces profile) :=
  inferInstanceAs (Decidable (∀ x ∈ profile.decimals, quantizeHalfEven 8 x = x))

variable {diff : List Change} {unchanged : Option ChangeClass} {change : ChangeClass}

theorem mem_profileDiff {previous proposed : RiskPolicyProfile}
    (h : profileDiff (some previous) proposed = .ok diff) (change : Change) :
    change ∈ diff ↔ ∃ key ∈ Key.all, previous.entry key ≠ proposed.entry key ∧
      change = ⟨key, some (previous.entry key), proposed.entry key⟩ := by
  simp only [profileDiff, priorEntries, canonicalProfile, bind_eq_ok, map_eq_ok, pure,
    Except.pure, Except.ok.injEq] at h
  obtain ⟨_, ⟨-, -, rfl⟩, _, ⟨_, ⟨-, -, rfl⟩, rfl⟩, rfl⟩ := h
  simp only [List.mem_filterMap]
  refine exists_congr fun key => and_congr_right fun _ => ?_
  by_cases same : previous.entry key = proposed.entry key
  · simp [same]
  · simp [same, eq_comm]

/-- What a diff that does not loosen says of one key. -/
theorem entry_of_not_loosened {previous proposed : RiskPolicyProfile}
    (h : profileDiff (some previous) proposed = .ok diff) (kept : loosened diff = false) {key : Key}
    (listed : key ∈ Key.all) :
    (key ∈ loosensWhenIncreased →
      (proposed.entry key).decimal ≤ (previous.entry key).decimal) ∧
    (key ∈ loosensWhenDecreased →
      (previous.entry key).decimal ≤ (proposed.entry key).decimal) ∧
    (key = .paperDemoDataCollection → proposed.entry key = .flag true →
      previous.entry key = .flag true) := by
  by_cases same : previous.entry key = proposed.entry key
  · simp [same]
  · have member := (mem_profileDiff h _).mpr ⟨key, listed, same, rfl⟩
    have unmoved := fun moved => List.any_eq_false.mp kept _ member (decide_eq_true moved)
    simp only [Change.from, Change.to, Option.map_some, Option.getD_some, imp_false] at unmoved
    push Not at unmoved
    exact ⟨unmoved.1, unmoved.2.1, fun k on => by simpa using unmoved.2.2 k on⟩

/-- A change that is not a loosening loosens no limit of the canonical form. -/
theorem entry_of_classify {previous proposed : RiskPolicyProfile}
    (h : classifyChange (some previous) proposed unchanged = .ok change)
    (kept : change ≠ .loosening) {key : Key} (listed : key ∈ Key.all) :
    (key ∈ loosensWhenIncreased →
      (proposed.entry key).decimal ≤ (previous.entry key).decimal) ∧
    (key ∈ loosensWhenDecreased →
      (previous.entry key).decimal ≤ (proposed.entry key).decimal) ∧
    (key = .paperDemoDataCollection → proposed.entry key = .flag true →
      previous.entry key = .flag true) := by
  simp only [classifyChange, bind_eq_ok] at h
  obtain ⟨diff, found, h⟩ := h
  refine entry_of_not_loosened found ?_ listed
  by_cases none : diff = []
  · simp [none, loosened]
  · cases loose : loosened diff with
    | false => rfl
    | true =>
      simp only [classOfDiff, none, loose, if_true, if_false, Except.ok.injEq] at h
      exact absurd h.symm kept

/-- At eight places the canonical form is the profile itself, so a change that is
not a loosening makes no limit looser. -/
theorem noLooser_of_classify {previous proposed : RiskPolicyProfile}
    (h : classifyChange (some previous) proposed unchanged = .ok change)
    (kept : change ≠ .loosening) (prior : AtEightPlaces previous) (now : AtEightPlaces proposed) :
    NoLooser proposed previous := by
  have up : ∀ key ∈ loosensWhenIncreased,
      (proposed.entry key).decimal ≤ (previous.entry key).decimal := fun key listed =>
    (entry_of_classify h kept ((by decide : loosensWhenIncreased ⊆ Key.all) listed)).1 listed
  have down : ∀ key ∈ loosensWhenDecreased,
      (previous.entry key).decimal ≤ (proposed.entry key).decimal := fun key listed =>
    (entry_of_classify h kept ((by decide : loosensWhenDecreased ⊆ Key.all) listed)).2.1 listed
  have collection := (entry_of_classify h kept (by decide : Key.paperDemoDataCollection ∈
    Key.all)).2.2 rfl
  simp only [loosensWhenIncreased, loosensWhenDecreased, gradeOrder, List.map_cons, List.map_nil,
    List.cons_append, List.nil_append, List.forall_mem_cons, RiskPolicyProfile.entry, text,
    Value.decimal, List.not_mem_nil, false_imp_iff, implies_true, and_true] at up down
  simp only [AtEightPlaces, RiskPolicyProfile.decimals, gradeOrder, List.map_cons, List.map_nil,
    List.cons_append, List.nil_append, List.forall_mem_cons, List.not_mem_nil, false_imp_iff,
    implies_true, and_true] at prior now
  simp only [prior, now, Int.cast_le] at up down
  simp only [RiskPolicyProfile.entry, Value.flag.injEq] at collection
  obtain ⟨aPlus, a, bPlus, b, c, leverage, usual, daily, openRisk, positions, perTrade,
    aggregate, cost, drawdown, losses⟩ := up
  obtain ⟨atr, floor, cooldown⟩ := down
  have grades : ∀ grade ∈ gradeOrder,
      proposed.riskPercentByGrade grade ≤ previous.riskPercentByGrade grade := by
    simp [gradeOrder, aPlus, a, bPlus, b, c]
  exact ⟨grades, leverage, usual, daily, openRisk, positions, perTrade, aggregate, cost, drawdown,
    losses, atr, floor, cooldown, collection⟩

end AlphaTrade.Risk
