import AlphaTrade.Risk.PlanSizing
import AlphaTrade.Risk.ConcurrentSizing

/-!
# Lowering leverage until the buffer clears

`decide_trade` with `reduce_leverage` sizes a trade at the requested leverage and, where isolated
liquidation is inside the buffer, sizes it again at the greatest whole leverage that clears it.
Leverage sets margin only, so the second trade is the first one at a lower leverage, its buffer is
the same, and the loop never takes a third turn.

A record of the trade is left out. The sizer has refused a figure that is missing or not finite
before it is compared with anything here.
-/
namespace AlphaTrade.Risk.LeverageReduction
open Library

/-! ## The model -/

/-- `leverage_clearing_buffer`. -/
def leverageClearingBuffer (entry buffer maintenanceRate requested : ℚ) : Option ℚ :=
  if entry ≤ 0 ∨ buffer ≤ 0 ∨ requested < 1 then none
  else if maintenanceRate < 0 ∨ 1 ≤ maintenanceRate then none
  else
    let denominator := buffer / entry + maintenanceRate
    if denominator ≤ 0 then some requested
    else
      let maximum := truncate (1 / denominator)
      if maximum < 1 then none
      else if requested ≤ maximum then some requested
      else some maximum

/-- `apply_ai_grade`: a suggestion is recorded and not applied. -/
def applyAiGrade (bound _suggested : Grade) (explanation : String) : Grade × String :=
  (bound, explanation)

/-- What is passed to `decide_trade` besides the profile. -/
structure TradeInput where
  grade : GradeDecision
  adjusters : AdjusterInputs
  sizing : SizingInput
  refuseNewTrades : Bool
  tiers : List MaintenanceTier
  aiSuggestedGrade : Option Grade
  aiExplanation : Option String
  promotion : Option PromotionReport
  preserveGradeRisk : Bool
  reduceLeverage : Bool
  replaceGradeCap : Bool

variable (profile : RiskPolicyProfile) (input : TradeInput)

def baseRisk (grade : Grade) : ℚ :=
  match input.sizing.gradeRiskPercent with
  | none => profile.riskPercentByGrade grade
  | some risk => if risk.isFinite then risk.toRat else -1

/-- `size_trade` of the attempt: the grade, the adjusted risk and the leverage stand in place of
the input's own. -/
def sizeAttempt (grade : Grade) (gradeRisk : ℚ) (leverage : Option PyDecimal) :
    Except PolicyError SizingResult := do
  validateProfile profile
  assertPromotionAllows profile input.promotion
  let data := { input.sizing with
    grade := some grade
    gradeRiskPercent := some (.finite false 0 0) }
  let figures ← figuresOf data input.replaceGradeCap
  sizeFigures profile { figures with gradeRisk } leverage input.preserveGradeRisk
    input.replaceGradeCap

/-- `check_liquidation_buffer` of a trade that was sized. -/
def checkSized (sized : SizingResult) : Except PolicyError LiquidationCheck :=
  checkLiquidationBuffer (orZero input.sizing.entry) sized.stopDistance
    (input.sizing.atr.map PyDecimal.toRat) sized.leverage sized.notional input.sizing.marginMode
    input.tiers

/-- The loop, which is left without a decision when its range is exhausted. -/
def reduce (grade : Grade) (gradeRisk : ℚ) :
    Nat → Option PyDecimal → Except SizingError (Option SizingResult)
  | 0, _ => .ok none
  | turns + 1, leverage => do
    let sized ← caught (sizeAttempt profile input grade gradeRisk leverage)
    let liquidation ← caught (checkSized input sized)
    if liquidation.accepted then return some sized
    else if input.reduceLeverage = false then
      .error (.reason (liquidation.reason.getD "liquidation_inside_buffer"))
    else if liquidation.reason ≠ some "liquidation_inside_buffer" then
      .error (.reason (liquidation.reason.getD ""))
    else
      match liquidation.requiredBuffer, liquidation.maintenanceRate with
      | some buffer, some rate =>
        match leverageClearingBuffer (orZero input.sizing.entry) buffer rate sized.leverage with
        | none => .error (.reason "liquidation_inside_buffer")
        | some lowered =>
          if sized.leverage ≤ lowered then .error (.reason "liquidation_inside_buffer")
          -- below the requested leverage it is a whole number
          else reduce grade gradeRisk turns (some (.finite false (truncate lowered).toNat 0))
      | _, _ => .error (.reason (liquidation.reason.getD ""))

/-- `decide_trade`. The sizer puts in the profile's default where no leverage is requested. -/
def decideTrade : Except SizingError SizingResult := do
  ensure (input.refuseNewTrades = false) (.reason "breaker_active")
  match input.grade.grade with
  | none => .error (.reason input.grade.refusalOr)
  | some grade => do
    ensure (input.grade.tradable ∨ input.replaceGradeCap) (.reason input.grade.refusalOr)
    ensure (∀ suggested ∈ input.aiSuggestedGrade,
      (applyAiGrade grade suggested (input.aiExplanation.getD "")).1 = grade)
      (.reason "ai_changed_grade")
    ensure input.sizing.entry.isSome (.reason "entry_missing")
    let adjusted ← caught (applyAdjusters (baseRisk profile input grade) input.adjusters)
    match ← reduce profile input grade adjusted.adjustedRiskPercent 32 input.sizing.leverage with
    | none => .error (.reason "liquidation_inside_buffer")
    | some sized => do
      ensure (sized.margin ≤ orZero input.sizing.equity) (.reason "margin_exceeds_equity")
      return sized

/-! ## The clearing leverage -/

def Clears (entry buffer maintenanceRate leverage : ℚ) : Prop :=
  ∃ distance, liquidationDistance entry leverage maintenanceRate = .ok distance ∧
    buffer ≤ distance

def GreatestClearing (entry buffer maintenanceRate requested : ℚ) : Option ℚ → Prop
  | none => ∀ n : Nat, 1 ≤ n → (n : ℚ) ≤ requested → ¬ Clears entry buffer maintenanceRate n
  | some leverage => ∃ n : Nat, leverage = n ∧ (n : ℚ) ≤ requested ∧
      Clears entry buffer maintenanceRate n ∧
      ∀ m : Nat, (m : ℚ) ≤ requested → Clears entry buffer maintenanceRate m → m ≤ n

variable {entry buffer maintenanceRate requested leverage : ℚ}

theorem Clears.one_le (clears : Clears entry buffer maintenanceRate leverage) :
    0 < entry ∧ 1 ≤ leverage := by
  obtain ⟨distance, found, -⟩ := clears
  obtain ⟨_, domain, -⟩ := bind_eq_ok.mp found
  exact ensure_eq_ok.mp domain

/-- A leverage clears the buffer up to a closed bound. -/
theorem clears_iff (priced : 0 < entry) (some : 0 < buffer) (rated : 0 ≤ maintenanceRate)
    (one : 1 ≤ leverage) : Clears entry buffer maintenanceRate leverage ↔
      leverage ≤ 1 / (buffer / entry + maintenanceRate) := by
  have positive : 0 < leverage := by linarith
  have denominator : 0 < buffer / entry + maintenanceRate :=
    add_pos_of_pos_of_nonneg (div_pos some priced) rated
  have bound : buffer ≤ entry * (1 / leverage - maintenanceRate) ↔
      leverage ≤ 1 / (buffer / entry + maintenanceRate) := by
    rw [le_one_div positive denominator, ← le_sub_iff_add_le, div_le_iff₀ priced, mul_comm]
  rw [← bound]
  constructor
  · rintro ⟨distance, found, within⟩
    obtain ⟨_, -, found⟩ := bind_eq_ok.mp found
    obtain ⟨_, -, found⟩ := bind_eq_ok.mp found
    obtain rfl := Except.ok.inj found
    exact within
  · intro within
    refine ⟨_, bind_eq_ok.mpr ⟨(), ensure_of ⟨priced, one⟩, ?_⟩, within⟩
    exact bind_eq_ok.mpr ⟨(), ensure_of (some.trans_le within), rfl⟩

theorem not_clears_of_full (positive : 0 < buffer) (full : 1 ≤ maintenanceRate) :
    ¬ Clears entry buffer maintenanceRate leverage := by
  intro clears
  have ⟨priced, one⟩ := clears.one_le
  have share : 0 < buffer / entry := div_pos positive priced
  have rated : 0 ≤ maintenanceRate := by linarith
  rw [clears_iff priced positive rated one, le_div_iff₀ (by linarith)] at clears
  nlinarith

/-- What is returned where the inputs are in the domain. -/
theorem leverageClearingBuffer_eq (priced : 0 < entry) (positive : 0 < buffer)
    (rated : 0 ≤ maintenanceRate) (below : maintenanceRate < 1) (one : 1 ≤ requested) :
    leverageClearingBuffer entry buffer maintenanceRate requested =
      let highest := ⌊1 / (buffer / entry + maintenanceRate)⌋
      if highest < 1 then none
      else if requested ≤ highest then some requested else some highest := by
  have denominator : 0 < buffer / entry + maintenanceRate :=
    add_pos_of_pos_of_nonneg (div_pos positive priced) rated
  unfold leverageClearingBuffer
  rw [if_neg (by simp [priced, positive, one]), if_neg (by simp [rated, below])]
  simp only [denominator.not_ge, if_false, truncate_of_nonneg (one_div_pos.mpr denominator).le]

/-- A whole leverage clears the buffer up to the floor of the bound. -/
theorem clears_natCast_iff (priced : 0 < entry) (positive : 0 < buffer)
    (rated : 0 ≤ maintenanceRate) {n : Nat} (one : 1 ≤ n) :
    Clears entry buffer maintenanceRate n ↔
      (n : Int) ≤ ⌊1 / (buffer / entry + maintenanceRate)⌋ := by
  rw [clears_iff priced positive rated (by exact_mod_cast one), Int.le_floor]
  simp

/-- The helper returns the greatest whole leverage unless it returns a fraction as it stands. -/
theorem greatestClearing_iff (positive : 0 < buffer) (rated : 0 ≤ maintenanceRate) :
    GreatestClearing entry buffer maintenanceRate requested
        (leverageClearingBuffer entry buffer maintenanceRate requested) ↔
      requested < 1 ∨ (∃ n : Nat, requested = n) ∨
        ¬ Clears entry buffer maintenanceRate (⌈requested⌉₊ : Nat) := by
  rcases lt_or_ge requested 1 with small | one
  · refine iff_of_true ?_ (.inl small)
    rw [leverageClearingBuffer, if_pos (.inr (.inr small))]
    intro n whole le
    have : (1 : ℚ) ≤ n := by exact_mod_cast whole
    linarith
  rcases le_or_gt entry 0 with priced | priced
  · have never : ∀ n : ℚ, ¬ Clears entry buffer maintenanceRate n :=
      fun n clears => absurd clears.one_le.1 priced.not_gt
    refine iff_of_true ?_ (.inr (.inr (never _)))
    rw [leverageClearingBuffer, if_pos (.inl priced)]
    exact fun n _ _ => never n
  rcases le_or_gt 1 maintenanceRate with full | below
  · have never : ∀ n : ℚ, ¬ Clears entry buffer maintenanceRate n :=
      fun n => not_clears_of_full positive full
    refine iff_of_true ?_ (.inr (.inr (never _)))
    rw [leverageClearingBuffer, if_neg (by simp [priced, positive, one]),
      if_pos (.inr full)]
    exact fun n _ _ => never n
  have ceil_one : 1 ≤ ⌈requested⌉₊ := by
    have := (one.trans (Nat.le_ceil requested))
    exact_mod_cast this
  rw [leverageClearingBuffer_eq priced positive rated below one,
    clears_natCast_iff priced positive rated ceil_one]
  set highest := ⌊1 / (buffer / entry + maintenanceRate)⌋ with isHighest
  have clears : ∀ {n : Nat}, 1 ≤ n →
      (Clears entry buffer maintenanceRate n ↔ (n : Int) ≤ highest) :=
    clears_natCast_iff priced positive rated
  have ceiling : ((⌈requested⌉₊ : Nat) : Int) ≤ highest ↔ requested ≤ highest := by
    rw [Int.natCast_ceil_eq_ceil (by linarith), Int.ceil_le]
  dsimp only
  split_ifs with none fits
  · -- not even one clears the buffer
    refine iff_of_true ?_ (.inr (.inr (by omega)))
    intro n whole _ passes
    have := (clears whole).mp passes
    omega
  · -- the requested leverage fits, and is returned whole or not
    constructor
    · rintro ⟨n, same, -⟩
      exact .inr (.inl ⟨n, same⟩)
    · rintro (small | ⟨n, rfl⟩ | outside)
      · exact absurd small one.not_gt
      · have whole : 1 ≤ n := by exact_mod_cast one
        refine ⟨n, rfl, le_rfl, (clears whole).mpr (by exact_mod_cast fits), ?_⟩
        intro m le _
        exact_mod_cast le
      · exact absurd (ceiling.mpr fits) outside
  · -- the floor of the bound is below the requested leverage
    obtain ⟨n, same⟩ := Int.eq_ofNat_of_zero_le (by omega : 0 ≤ highest)
    have whole : 1 ≤ n := by omega
    refine iff_of_true ⟨n, by simp [same], ?_, (clears whole).mpr same.ge, ?_⟩
      (.inr (.inr (mt ceiling.mp fits)))
    · rw [same] at fits
      exact (not_le.mp fits).le
    · intro m _ passes
      have high : (1 : ℚ) ≤ m := passes.one_le.2
      have := (clears (by exact_mod_cast high)).mp passes
      omega

/-! ## Sizing at a lower leverage -/

def withLeverage (sized : SizingResult) (leverage : ℚ) : SizingResult :=
  { sized with margin := quantizeDown 8 (sized.notional / leverage), leverage := leverage }

section Sizing

variable {profile : RiskPolicyProfile} {input : TradeInput} {grade : Grade} {gradeRisk : ℚ}
  {asked other : Option PyDecimal} {sized : SizingResult} {preserve replaceCap : Bool}

variable {figures : Figures}

theorem sizeFigures_withLeverage
    (accepted : sizeFigures profile figures asked preserve replaceCap = .ok sized)
    (read : leverageOf profile other = .ok leverage) (one : 1 ≤ leverage)
    (le : leverage ≤ sized.leverage) :
    sizeFigures profile figures other preserve replaceCap =
      .ok (withLeverage sized leverage) := by
  simp only [sizeFigures, bind_eq_ok, ensure_eq_ok, exists_const, pure, Except.pure,
    Except.ok.injEq] at accepted ⊢
  obtain ⟨room, distance, stop, wide, requested, -, ⟨-, most, hard⟩, budget, effective, risk,
    some, share, shared, cheap, denominator, notional, cut, capped, minimum, amount, realized,
    rfl⟩ := accepted
  exact ⟨room, distance, stop, wide, leverage, read, ⟨one, le.trans most, le.trans hard⟩, budget,
    effective, risk, some, share, shared, cheap, denominator, notional, cut, capped, minimum,
    amount, realized, rfl⟩

theorem sizeFigures_leverage
    (accepted : sizeFigures profile figures asked preserve replaceCap = .ok sized) :
    leverageOf profile asked = .ok sized.leverage ∧ 1 ≤ sized.leverage := by
  simp only [sizeFigures, bind_eq_ok, ensure_eq_ok, exists_const, pure, Except.pure,
    Except.ok.injEq] at accepted
  obtain ⟨-, _, -, -, requested, read, ⟨one, -, -⟩, -, _, -, -, _, -, -, -, -, _, -, -, -, -,
    rfl⟩ := accepted
  exact ⟨read, one⟩

theorem sizeAttempt_withLeverage
    (accepted : sizeAttempt profile input grade gradeRisk asked = .ok sized)
    (read : leverageOf profile other = .ok leverage) (one : 1 ≤ leverage)
    (le : leverage ≤ sized.leverage) :
    sizeAttempt profile input grade gradeRisk other = .ok (withLeverage sized leverage) := by
  obtain ⟨_, valid, accepted⟩ := bind_eq_ok.mp accepted
  obtain ⟨_, promoted, accepted⟩ := bind_eq_ok.mp accepted
  obtain ⟨figures, known, accepted⟩ := bind_eq_ok.mp accepted
  refine bind_eq_ok.mpr ⟨_, valid, bind_eq_ok.mpr ⟨_, promoted, bind_eq_ok.mpr ⟨_, known, ?_⟩⟩⟩
  exact sizeFigures_withLeverage accepted read one le

theorem sizeAttempt_leverage
    (accepted : sizeAttempt profile input grade gradeRisk asked = .ok sized) :
    leverageOf profile asked = .ok sized.leverage ∧ 1 ≤ sized.leverage := by
  obtain ⟨_, -, accepted⟩ := bind_eq_ok.mp accepted
  obtain ⟨_, -, accepted⟩ := bind_eq_ok.mp accepted
  obtain ⟨figures, -, accepted⟩ := bind_eq_ok.mp accepted
  exact sizeFigures_leverage accepted

/-! ## One check of the buffer -/

/-- The buffer and the rate that the check holds a trade against. Neither depends on leverage. -/
structure Held (input : TradeInput) (sized : SizingResult) (buffer maintenanceRate : ℚ) :
    Prop where
  atr : ∃ atr, input.sizing.atr.map PyDecimal.toRat = some atr ∧
    requiredBuffer sized.stopDistance atr = .ok buffer
  rate : selectMaintenanceTier sized.notional input.tiers = .ok maintenanceRate

theorem Held.positive (held : Held input sized buffer maintenanceRate) : 0 < buffer := by
  obtain ⟨atr, -, required⟩ := held.atr
  simp only [requiredBuffer, bind_eq_ok, ensure_eq_ok, exists_const, pure, Except.pure,
    Except.ok.injEq] at required
  obtain ⟨⟨stop, -⟩, rfl⟩ := required
  exact lt_max_of_lt_left (by linarith)

theorem considerTier_rate {notional rate : ℚ} {chosen : Option ℚ} {tier : MaintenanceTier}
    (chosenRate : ∀ rate ∈ chosen, 0 ≤ rate ∧ rate < 1) {next : Option ℚ}
    (considered : considerTier notional chosen tier = .ok next) (isRate : rate ∈ next) :
    0 ≤ rate ∧ rate < 1 := by
  simp only [considerTier, bind_eq_ok, ensure_eq_ok, exists_const, pure, Except.pure,
    Except.ok.injEq] at considered
  obtain ⟨-, range, rfl⟩ := considered
  split_ifs at isRate
  · obtain rfl := Option.some.inj isRate
    exact range
  · exact chosenRate rate isRate

theorem Held.rated (held : Held input sized buffer maintenanceRate) :
    0 ≤ maintenanceRate ∧ maintenanceRate < 1 := by
  have run : ∀ (tiers : List MaintenanceTier) (chosen next : Option ℚ),
      (∀ rate ∈ chosen, 0 ≤ rate ∧ rate < 1) →
      tiers.foldlM (considerTier sized.notional) chosen = .ok next →
      ∀ rate ∈ next, 0 ≤ rate ∧ rate < 1 := by
    intro tiers
    induction tiers with
    | nil =>
      intro chosen next range done
      obtain rfl := Except.ok.inj done
      exact range
    | cons tier tiers ih =>
      intro chosen next range done
      rw [List.foldlM_cons] at done
      obtain ⟨middle, considered, done⟩ := bind_eq_ok.mp done
      exact ih middle next (fun rate => considerTier_rate range considered) done
  have rate := held.rate
  simp only [selectMaintenanceTier, bind_eq_ok, ensure_eq_ok, exists_const, present_eq_ok] at rate
  obtain ⟨-, -, chosen, folded, rfl⟩ := rate
  exact run _ none _ (by simp) folded maintenanceRate rfl

theorem Held.withLeverage (held : Held input sized buffer maintenanceRate) (leverage : ℚ) :
    Held input (withLeverage sized leverage) buffer maintenanceRate :=
  ⟨held.atr, held.rate⟩

/-- A trade that the check holds against a buffer and a rate passes just where they clear. -/
theorem checkSized_of_held (held : Held input sized buffer maintenanceRate)
    (isolated : input.sizing.marginMode.all (fun mode => mode.toLower ≠ "isolated") = false)
    (clears : Clears (orZero input.sizing.entry) buffer maintenanceRate sized.leverage) :
    ∃ liquidation, checkSized input sized = .ok liquidation ∧ liquidation.accepted = true := by
  obtain ⟨atr, isAtr, required⟩ := held.atr
  obtain ⟨distance, found, within⟩ := clears
  have figures : liquidationFigures (orZero input.sizing.entry) sized.stopDistance atr
      sized.leverage sized.notional input.tiers = .ok (distance, buffer, maintenanceRate) := by
    simp only [liquidationFigures, required, held.rate, found, ok_bind]
    rfl
  have positive : ¬ atr ≤ 0 := by
    simp only [requiredBuffer, bind_eq_ok, ensure_eq_ok, exists_const] at required
    exact not_le.mpr required.1.2
  have checked : checkSized input sized = .ok {
      accepted := decide (buffer ≤ distance)
      reason := if distance < buffer then some "liquidation_inside_buffer" else none
      liquidationDistance := some distance
      requiredBuffer := some buffer
      maintenanceRate := some maintenanceRate } := by
    unfold checkSized checkLiquidationBuffer
    rw [isolated]
    simp only [isAtr, positive, figures, Bool.false_eq_true, if_false]
  exact ⟨_, checked, decide_eq_true within⟩

/-- What a check says of a trade, where it holds it against a buffer. -/
theorem checkSized_cases {liquidation : LiquidationCheck}
    (checked : checkSized input sized = .ok liquidation) :
    (liquidation.accepted = false ∧ liquidation.requiredBuffer = none) ∨
    ∃ buffer maintenanceRate, Held input sized buffer maintenanceRate ∧
      input.sizing.marginMode.all (fun mode => mode.toLower ≠ "isolated") = false ∧
      liquidation.requiredBuffer = some buffer ∧
      liquidation.maintenanceRate = some maintenanceRate ∧
      (liquidation.accepted = true ↔
        Clears (orZero input.sizing.entry) buffer maintenanceRate sized.leverage) := by
  unfold checkSized checkLiquidationBuffer at checked
  cases isolated : input.sizing.marginMode.all (fun mode => mode.toLower ≠ "isolated") with
  | true =>
    rw [isolated] at checked
    obtain rfl := Except.ok.inj checked
    exact .inl ⟨rfl, rfl⟩
  | false =>
    rw [isolated] at checked
    cases isAtr : input.sizing.atr.map PyDecimal.toRat with
    | none =>
      rw [isAtr] at checked
      obtain rfl := Except.ok.inj checked
      exact .inl ⟨rfl, rfl⟩
    | some atr =>
      rw [isAtr] at checked
      simp only [Bool.false_eq_true, if_false] at checked
      split_ifs at checked with none
      · obtain rfl := Except.ok.inj checked
        exact .inl ⟨rfl, rfl⟩
      split at checked
      · obtain rfl := Except.ok.inj checked
        exact .inl ⟨rfl, rfl⟩
      · cases checked
      · rename_i distance buffer rate figures
        obtain rfl := Except.ok.inj checked
        simp only [liquidationFigures, bind_eq_ok, pure, Except.pure, Except.ok.injEq,
          Prod.mk.injEq] at figures
        obtain ⟨_, required, _, chosen, _, found, rfl, rfl, rfl⟩ := figures
        refine .inr ⟨_, _, ⟨⟨atr, isAtr, required⟩, chosen⟩, rfl, rfl, rfl, ?_⟩
        simp [Clears, found]

/-! ## The loop -/

/-- What a trade that leaves the loop keeps of the trade at the requested leverage. -/
structure LoweredFrom (first sized : SizingResult) : Prop where
  quantity : sized.quantity = first.quantity
  notional : sized.notional = first.notional
  riskAmount : sized.riskAmount = first.riskAmount
  one_le : 1 ≤ sized.leverage
  leverage_le : sized.leverage ≤ first.leverage

def ClearsHeld (input : TradeInput) (sized : SizingResult) : Prop :=
  ∃ buffer maintenanceRate, Held input sized buffer maintenanceRate ∧
    Clears (orZero input.sizing.entry) buffer maintenanceRate sized.leverage

/-- A leverage that the helper lowers to is whole and clears the buffer. -/
theorem lowered_clears (positive : 0 < buffer) (rated : 0 ≤ maintenanceRate)
    (below : maintenanceRate < 1) {lowered : ℚ}
    (found : leverageClearingBuffer entry buffer maintenanceRate requested = some lowered)
    (less : lowered < requested) :
    ∃ n : Nat, lowered = n ∧ 1 ≤ n ∧ Clears entry buffer maintenanceRate n := by
  have domain : ¬(entry ≤ 0 ∨ buffer ≤ 0 ∨ requested < 1) := by
    intro outside
    simp [leverageClearingBuffer, outside] at found
  push Not at domain
  obtain ⟨priced, -, one⟩ := domain
  rw [leverageClearingBuffer_eq priced positive rated below one] at found
  dsimp only at found
  split_ifs at found with none fits
  · exact absurd (Option.some.inj found) less.ne'
  · obtain rfl := Option.some.inj found
    obtain ⟨n, same⟩ := Int.eq_ofNat_of_zero_le
      (by omega : 0 ≤ ⌊1 / (buffer / entry + maintenanceRate)⌋)
    exact ⟨n, by rw [same, Int.cast_natCast], by omega,
      (clears_natCast_iff priced positive rated (by omega)).mpr same.ge⟩

theorem truncate_natCast (n : Nat) : (truncate (n : ℚ)).toNat = n := by
  rw [truncate_of_nonneg (Nat.cast_nonneg n), Int.floor_natCast, Int.toNat_natCast]

/-- Two turns are enough: either the requested leverage passes, or the leverage it is lowered to
does. -/
theorem reduce_two_turns {turns : Nat} {result : Option SizingResult}
    (done : reduce profile input grade gradeRisk (turns + 2) asked = .ok result) :
    ∃ first sized, sizeAttempt profile input grade gradeRisk asked = .ok first ∧
      result = some sized ∧ LoweredFrom first sized ∧ ClearsHeld input sized := by
  rw [reduce] at done
  obtain ⟨first, attempted, done⟩ := bind_eq_ok.mp done
  obtain ⟨liquidation, checked, done⟩ := bind_eq_ok.mp done
  rw [caught_eq_ok] at attempted checked
  have one := (sizeAttempt_leverage attempted).2
  refine ⟨first, ?_⟩
  rcases checkSized_cases checked with ⟨refused, missing⟩ |
    ⟨buffer, rate, held, isolated, isBuffer, isRate, accepted⟩
  · -- no buffer to clear: the loop is left with the reason
    rw [refused, missing] at done
    simp only [Bool.false_eq_true, if_false] at done
    split_ifs at done
  have ⟨rated, below⟩ := held.rated
  split_ifs at done with passes fixed other
  · obtain rfl := Except.ok.inj done
    exact ⟨first, attempted, rfl, ⟨rfl, rfl, rfl, one, le_rfl⟩, buffer, rate, held,
      accepted.mp passes⟩
  rw [isBuffer, isRate] at done
  dsimp only at done
  split at done
  · cases done
  rename_i lowered found
  split_ifs at done with stays
  have less := not_le.mp stays
  obtain ⟨n, rfl, whole, clears⟩ := lowered_clears held.positive rated below found less
  rw [truncate_natCast] at done
  -- the second turn: the same trade at the whole leverage `n`
  have read : leverageOf profile (some (.finite false n 0)) = .ok (n : ℚ) := by
    simp [leverageOf, required, PyDecimal.toRat]
  have again := sizeAttempt_withLeverage attempted read (by exact_mod_cast whole) less.le
  obtain ⟨second, rechecked, passes⟩ :=
    checkSized_of_held (held.withLeverage (n : ℚ)) isolated clears
  rw [reduce, again] at done
  simp only [caught, ok_bind, rechecked, passes, if_true] at done
  obtain rfl := Except.ok.inj done
  have least : (1 : ℚ) ≤ n := by exact_mod_cast whole
  exact ⟨withLeverage first n, attempted, rfl, ⟨rfl, rfl, rfl, least, less.le⟩, buffer, rate,
    held.withLeverage _, clears⟩

end Sizing

/-- What an accepted decision is. -/
structure ReducedTrade (profile : RiskPolicyProfile) (input : TradeInput) (sized : SizingResult) :
    Prop where
  requested : ∃ grade adjusted first, input.grade.grade = some grade ∧
    applyAdjusters (baseRisk profile input grade) input.adjusters = .ok adjusted ∧
    sizeAttempt profile input grade adjusted.adjustedRiskPercent input.sizing.leverage =
      .ok first ∧
    leverageOf profile input.sizing.leverage = .ok first.leverage ∧ LoweredFrom first sized
  clears : ClearsHeld input sized

theorem reducedTrade_of_decideTrade {profile : RiskPolicyProfile} {input : TradeInput}
    {sized : SizingResult} (accepted : decideTrade profile input = .ok sized) :
    ReducedTrade profile input sized := by
  obtain ⟨_, -, accepted⟩ := bind_eq_ok.mp accepted
  cases graded : input.grade.grade with
  | none =>
    rw [graded] at accepted
    cases accepted
  | some grade =>
    rw [graded] at accepted
    simp only [bind_eq_ok, ensure_eq_ok, exists_const, caught_eq_ok] at accepted
    obtain ⟨-, -, -, adjusted, isAdjusted, result, reduced, accepted⟩ := accepted
    obtain ⟨first, last, attempted, rfl, lowered, clears⟩ := reduce_two_turns reduced
    simp only [bind_eq_ok, ensure_eq_ok, exists_const, pure, Except.pure,
      Except.ok.injEq] at accepted
    obtain ⟨-, rfl⟩ := accepted
    exact ⟨⟨grade, adjusted, first, graded, isAdjusted, attempted,
      (sizeAttempt_leverage attempted).1, lowered⟩, clears⟩

/-- A decision is sound and the loop is always left by one. The helper returns the greatest whole
leverage that clears the buffer just where it is not handed a fraction that it returns as it
stands. -/
theorem leverage_reduction (profile : RiskPolicyProfile) (input : TradeInput)
    (entry : ℚ) {buffer maintenanceRate : ℚ} (requested : ℚ) (positive : 0 < buffer)
    (rated : 0 ≤ maintenanceRate) :
    (∀ sized, decideTrade profile input = .ok sized → ReducedTrade profile input sized) ∧
    (∀ grade gradeRisk asked, reduce profile input grade gradeRisk 32 asked ≠ .ok none) ∧
    (GreatestClearing entry buffer maintenanceRate requested
        (leverageClearingBuffer entry buffer maintenanceRate requested) ↔
      requested < 1 ∨ (∃ n : Nat, requested = n) ∨
        ¬ Clears entry buffer maintenanceRate (⌈requested⌉₊ : Nat)) := by
  refine ⟨fun _ => reducedTrade_of_decideTrade, ?_, greatestClearing_iff positive rated⟩
  intro grade gradeRisk asked exhausted
  obtain ⟨_, _, -, some, -⟩ := reduce_two_turns exhausted
  cases some

/-- Two and a half is returned, where two is the greatest whole leverage. -/
theorem fraction_is_returned :
    leverageClearingBuffer 100 10 0 (5 / 2) = some (5 / 2) ∧
      ¬ GreatestClearing 100 10 0 (5 / 2) (leverageClearingBuffer 100 10 0 (5 / 2)) := by
  have returned : leverageClearingBuffer 100 10 0 (5 / 2) = some (5 / 2) := by decide +kernel
  refine ⟨returned, ?_⟩
  rw [returned]
  rintro ⟨n, half, -⟩
  have twice : (5 : Int) = 2 * n := by
    have : (5 : ℚ) = 2 * n := by linarith
    exact_mod_cast this
  omega

/-- The long at 100, at ten times where eight clears. -/
def leveragedInput : TradeInput where
  grade := ⟨some .aPlus, none, none, none⟩
  adjusters := ⟨some "normal", some true, some true⟩
  sizing := { longInput with leverage := some (.finite false 10 0) }
  refuseNewTrades := false
  tiers := [⟨0, .finite (2 / 100)⟩]
  aiSuggestedGrade := none
  aiExplanation := none
  promotion := none
  preserveGradeRisk := false
  reduceLeverage := true
  replaceGradeCap := false

def leveragedProfile : RiskPolicyProfile := { placeholderProfile .demo with maxLeverage := 20 }

theorem leverage_reduction_to_eight :
    (∃ sized, decideTrade leveragedProfile leveragedInput = .ok sized ∧ sized.leverage = 8 ∧
      ReducedTrade leveragedProfile leveragedInput sized) ∧
    GreatestClearing 100 10 (2 / 100) 10 (leverageClearingBuffer 100 10 (2 / 100) 10) := by
  have accepted : (decideTrade leveragedProfile leveragedInput).map (·.leverage) = .ok 8 := by
    decide +kernel
  obtain ⟨sized, decided, eight⟩ := map_eq_ok.mp accepted
  have ⟨reduced, _, greatest⟩ := leverage_reduction leveragedProfile leveragedInput
    100 10 (show (0 : ℚ) < 10 by norm_num) (show (0 : ℚ) ≤ 2 / 100 by norm_num)
  exact ⟨⟨sized, decided, eight, reduced sized decided⟩,
    greatest.mpr (.inr (.inl ⟨10, by norm_num⟩))⟩

end AlphaTrade.Risk.LeverageReduction
