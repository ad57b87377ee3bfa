import Mathlib.Tactic.FieldSimp
import AlphaTrade.Risk.Sizer

/-!
# The bounds of an accepted trade

Whatever binds, the budget, a cap or the floor to the lot step, a trade that the sizer accepts
keeps every limit: the floor only takes away from a quantity that fits, and where the notional
caps cut it, it is cut below the quantity that the risk pays for.
-/
namespace AlphaTrade.Risk
open Library

variable {profile : RiskPolicyProfile} {figures : Figures} {leverage : Option PyDecimal}
  {preserveGradeRisk replaceGradeCap : Bool} {result : SizingResult}

def dailyCap (profile : RiskPolicyProfile) (figures : Figures) : ℚ :=
  min (min profile.dailyLossLimitPercent hardMaxDailyLossPercent) figures.remainingDaily

def riskPercentOf (figures : Figures) (result : SizingResult) : ℚ :=
  result.quantity * (result.adverseDistance + unitCost figures) / figures.equity * 100

/-- The effective risk is within the grade's risk, the ceiling and the room of both budgets. -/
structure RiskWithin (profile : RiskPolicyProfile) (figures : Figures) (replaceGradeCap : Bool)
    (effective : ℚ) : Prop where
  grade : effective ≤ figures.gradeRisk
  allowance : replaceGradeCap = false → effective ≤ profile.riskPercentByGrade figures.grade
  ceiling : effective ≤ riskCeilingFor profile.kind
  dailyRoom : effective ≤ dailyCap profile figures - figures.openRisk
  aggregateRoom : effective ≤ profile.maxAggregateOpenRiskPercent - figures.openRisk

/-- A trade keeps every limit of the profile. -/
structure WithinLimits (profile : RiskPolicyProfile) (figures : Figures) (replaceGradeCap : Bool)
    (result : SizingResult) : Prop where
  lots : ∃ lots : Nat, 0 < lots ∧ result.quantity = lots * figures.lotStep
  minimum : figures.minQuantity ≤ result.quantity
  adverse : ∃ distance, stopDistance figures = .ok distance ∧
    result.adverseDistance = distance + figures.gap
  risk : ∃ effective, RiskWithin profile figures replaceGradeCap effective ∧
    result.quantity * (result.adverseDistance + unitCost figures) ≤
      figures.equity * effective / 100
  daily : figures.openRisk + riskPercentOf figures result ≤ dailyCap profile figures
  aggregate : figures.openRisk + riskPercentOf figures result ≤
    profile.maxAggregateOpenRiskPercent
  recorded : result.effectiveRiskPercent ≤ riskPercentOf figures result
  perTrade : result.quantity * figures.entry ≤
    figures.equity * profile.maxNotionalPerTradePercent / 100
  book : figures.openNotional + result.quantity * figures.entry ≤
    figures.equity * profile.maxAggregateNotionalPercent / 100
  costs : unitCost figures ≤
    profile.maxCostShareOfR * (result.adverseDistance + unitCost figures)
  costShare : result.costShareOfR ≤ profile.maxCostShareOfR
  leverage : 1 ≤ result.leverage ∧ result.leverage ≤ profile.maxLeverage

theorem riskWithin_of_effectiveRisk {effective recorded : ℚ}
    (risk : effectiveRisk profile figures replaceGradeCap = .ok (effective, recorded)) :
    RiskWithin profile figures replaceGradeCap effective := by
  have rooms : ∀ {x : ℚ}, x ≤ budgetRoom profile figures →
      x ≤ dailyCap profile figures - figures.openRisk ∧
        x ≤ profile.maxAggregateOpenRiskPercent - figures.openRisk := le_min_iff.mp
  cases replaceGradeCap with
  | false =>
    obtain ⟨rfl, rfl⟩ := Prod.mk.inj (Except.ok.inj risk)
    obtain ⟨daily, aggregate⟩ := rooms (min_le_right
      (min (min figures.gradeRisk (profile.riskPercentByGrade figures.grade))
        (riskCeilingFor profile.kind)) _)
    exact ⟨(min_le_left _ _).trans ((min_le_left _ _).trans (min_le_left _ _)),
      fun _ => (min_le_left _ _).trans ((min_le_left _ _).trans (min_le_right _ _)),
      (min_le_left _ _).trans (min_le_right _ _), daily, aggregate⟩
  | true =>
    obtain ⟨_, -, risk⟩ := bind_eq_ok.mp risk
    obtain ⟨_, -, risk⟩ := bind_eq_ok.mp risk
    obtain ⟨rfl, rfl⟩ := Prod.mk.inj (Except.ok.inj risk)
    obtain ⟨daily, aggregate⟩ := rooms (min_le_right
      (min figures.gradeRisk (min paperDemoMaxRiskPerTradePercent (riskCeilingFor profile.kind)))
      _)
    exact ⟨(min_le_left _ _).trans (min_le_left _ _), nofun,
      (min_le_left _ _).trans ((min_le_right _ _).trans (min_le_right _ _)), daily, aggregate⟩

/-- The quantity is a rounding to the lot step that is within what was wanted and within the
room. -/
theorem capQuantity_le (checked : figures.Checked) {wanted room : ℚ} {cut : ℚ × Bool}
    (nonneg : 0 ≤ wanted) (some : 0 < room)
    (h : capQuantity figures (roundLot wanted figures.lotStep) room preserveGradeRisk = .ok cut) :
    (∃ x, cut.1 = roundLot x figures.lotStep) ∧ cut.1 ≤ wanted ∧ cut.1 * figures.entry ≤ room := by
  have fits : roundLot wanted figures.lotStep ≤ wanted := roundToStep_le checked.lotStep nonneg
  unfold capQuantity at h
  split at h
  · rename_i exceeds
    obtain ⟨_, -, h⟩ := bind_eq_ok.mp h
    obtain rfl := Except.ok.inj h
    have below : roundLot (room / figures.entry) figures.lotStep ≤ room / figures.entry :=
      roundToStep_le checked.lotStep (div_pos some checked.entry).le
    have cap : room / figures.entry < roundLot wanted figures.lotStep :=
      (div_lt_iff₀ checked.entry).mpr exceeds
    exact ⟨⟨_, rfl⟩, (below.trans cap.le).trans fits, (le_div_iff₀ checked.entry).mp below⟩
  · rename_i within
    obtain rfl := Except.ok.inj h
    exact ⟨⟨_, rfl⟩, fits, not_lt.mp within⟩

theorem costShare_le {adverse cost share cap : ℚ} (h : costShare adverse cost = .ok share)
    (nonneg : 0 ≤ cost) (capped : share ≤ cap) : 0 < adverse ∧ cost ≤ cap * (adverse + cost) := by
  obtain ⟨_, positive, h⟩ := bind_eq_ok.mp h
  have positive := ensure_eq_ok.mp positive
  obtain rfl := Except.ok.inj h
  refine ⟨positive, ?_⟩
  split at capped
  · rename_i free
    rw [free, add_zero]
    exact mul_nonneg capped positive.le
  · exact (div_le_iff₀ (by linarith)).mp capped

/-- A trade that is sized is within every limit. -/
theorem sizeFigures_within (checked : figures.Checked) (positive : 0 < figures.minQuantity)
    (h : sizeFigures profile figures leverage preserveGradeRisk replaceGradeCap = .ok result) :
    WithinLimits profile figures replaceGradeCap result := by
  simp only [sizeFigures, bind_eq_ok, ensure_eq_ok, exists_const, pure, Except.pure,
    Except.ok.injEq] at h
  obtain ⟨-, distance, stop, -, lever, -, levers, -, ⟨effective, recorded⟩, risk, up, share,
    shared, capped, -, room, ⟨quantity, cut⟩, made, least, -, realized, rfl⟩ := h
  have within := riskWithin_of_effectiveRisk risk
  have cost := checked.unitCost_nonneg
  obtain ⟨adverse, costs⟩ := costShare_le shared cost capped
  have unit : 0 < distance + figures.gap + unitCost figures := by linarith
  have amount : 0 ≤ figures.equity * effective / 100 / (distance + figures.gap +
      unitCost figures) :=
    div_nonneg (div_nonneg (mul_nonneg checked.equity.le up.le) (by norm_num))
        unit.le
  obtain ⟨⟨lots, isLots⟩, paid, inRoom⟩ := capQuantity_le checked amount room made
  have some : 0 < quantity := positive.trans_le least
  have risked : quantity * (distance + figures.gap + unitCost figures) ≤
      figures.equity * effective / 100 := (le_div_iff₀ unit).mp paid
  obtain ⟨perTrade, book⟩ := le_min_iff.mp inRoom
  have percent : quantity * (distance + figures.gap + unitCost figures) / figures.equity * 100 ≤
      effective := by
    rw [div_mul_eq_mul_div, div_le_iff₀ checked.equity]
    linarith
  exact {
    lots := by
      have rounded : 0 < roundToStep lots figures.lotStep := some.trans_eq isLots
      obtain ⟨steps, more, same⟩ := exists_steps checked.lotStep rounded
      exact ⟨steps, more, isLots.trans same⟩
    minimum := least
    adverse := ⟨distance, stop, rfl⟩
    risk := ⟨effective, within, risked⟩
    daily := by
      have := within.dailyRoom
      simp only [riskPercentOf]
      linarith
    aggregate := by
      have := within.aggregateRoom
      simp only [riskPercentOf]
      linarith
    recorded := by
      have price : quantizeDown 8 (quantity * (distance + figures.gap)) ≤
          quantity * (distance + figures.gap) := quantizeDown_le (mul_nonneg some.le adverse.le)
      have paid : quantizeDown 8 (quantity * unitCost figures) ≤ quantity * unitCost figures :=
        quantizeDown_le (mul_nonneg some.le cost)
      have nonneg : 0 ≤ quantizeDown 8 (quantity * (distance + figures.gap)) +
          quantizeDown 8 (quantity * unitCost figures) :=
        add_nonneg (quantizeDown_nonneg (mul_nonneg some.le adverse.le))
          (quantizeDown_nonneg (mul_nonneg some.le cost))
      have equity := checked.equity
      refine (quantizeDown_le (by positivity)).trans ?_
      simp only [riskPercentOf]
      gcongr
      linarith
    perTrade := perTrade
    book := by linarith
    costs := costs
    costShare := realized
    leverage := ⟨levers.1, levers.2.1⟩ }

theorem figuresOf_minQuantity {data : SizingInput}
    (h : figuresOf data replaceGradeCap = .ok figures) : 0 < figures.minQuantity := by
  simp only [figuresOf, checkFigures, positive, nonNegative, bind_eq_ok, ensure_eq_ok, exists_const,
    pure, Except.pure, Except.ok.injEq] at h
  obtain ⟨_, -, ⟨-, -, -, -, -, -, -, -, least, -⟩, rfl⟩ := h
  exact least

/-- A trade that `size_trade` accepts is within every limit of the profile. -/
theorem accepted_trade_within_limits {data : SizingInput} {promotion : Option PromotionReport}
    (accepted : sizeTrade profile data promotion preserveGradeRisk replaceGradeCap =
      .ok result) :
    ∃ figures, figuresOf data replaceGradeCap = .ok figures ∧
      WithinLimits profile figures replaceGradeCap result := by
  obtain ⟨_, -, accepted⟩ := bind_eq_ok.mp accepted
  obtain ⟨_, -, accepted⟩ := bind_eq_ok.mp accepted
  obtain ⟨figures, read, sized⟩ := bind_eq_ok.mp accepted
  exact ⟨figures, read, sizeFigures_within (figuresOf_checked read) (figuresOf_minQuantity read)
    sized⟩

theorem longInput_within_limits :
    ∃ result, sizeTrade (placeholderProfile .demo) longInput none false false = .ok result ∧
      ∃ figures, figuresOf longInput false = .ok figures ∧
        WithinLimits (placeholderProfile .demo) figures false result := by
  have accepted : ((sizeTrade (placeholderProfile .demo) longInput none false false).map fun _ =>
      ()) = .ok () := by decide +kernel
  obtain ⟨result, sized, -⟩ := map_eq_ok.mp accepted
  exact ⟨result, sized, accepted_trade_within_limits sized⟩

end AlphaTrade.Risk
