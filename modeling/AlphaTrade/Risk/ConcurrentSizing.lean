import AlphaTrade.Risk.SizerBounds

/-!
# Orders that would be open together

`size_concurrent` sizes each order as if the others were not there and refuses the batch when the
sum does not fit. The book and the equity that the sum is held against are those of the first
order. What another order says of the book bounds that order alone.
-/
namespace AlphaTrade.Risk
open Library

/-- `value or Decimal("0")`. -/
def orZero (value : Option PyDecimal) : ℚ := (value.map PyDecimal.toRat).getD 0

def totalRisk (sized : List SizingResult) : ℚ := (sized.map (·.effectiveRiskPercent)).sum

def totalNotional (sized : List SizingResult) : ℚ := (sized.map (·.notional)).sum

/-- What `size_concurrent` asks of orders that were sized alone, by the book of the first one. -/
def checkBatch (profile : RiskPolicyProfile) (first : SizingInput) (sized : List SizingResult) :
    Except PolicyError Unit := do
  let openPositions ← present first.openPositions "open_positions_missing"
  ensure (openPositions + sized.length ≤ profile.maxOpenPositions) (.rejected "max_open_positions")
  let equity ← present first.equity "equity_invalid"
  ensure (0 < equity.toRat) (.rejected "equity_invalid")
  let risk := orZero first.openRiskPercent + totalRisk sized
  ensure (risk ≤ profile.maxAggregateOpenRiskPercent) (.rejected "concurrent_budget_exhausted")
  ensure (risk ≤ min (min profile.dailyLossLimitPercent hardMaxDailyLossPercent)
    (orZero first.remainingDailyBudgetPercent)) (.rejected "concurrent_budget_exhausted")
  ensure (orZero first.openNotional + totalNotional sized ≤
    equity.toRat * profile.maxAggregateNotionalPercent / 100) (.rejected "concurrent_notional_cap")

/-- `size_concurrent`. -/
def sizeConcurrent (profile : RiskPolicyProfile) (orders : List SizingInput) :
    Except PolicyError (List SizingResult) :=
  match orders with
  | [] => .error (.rejected "concurrent_batch_empty")
  | first :: _ => do
    let alone ← orders.mapM fun order => sizeTrade profile order none false false
    checkBatch profile first alone
    return alone

/-- Orders that are open together keep the limits of the book that an order carries. -/
structure BatchWithin (profile : RiskPolicyProfile) (figures : Figures)
    (sized : List SizingResult) : Prop where
  positions : figures.openPositions + sized.length ≤ profile.maxOpenPositions
  risk : figures.openRisk + totalRisk sized ≤ profile.maxAggregateOpenRiskPercent
  daily : figures.openRisk + totalRisk sized ≤ dailyCap profile figures
  notional : figures.openNotional + totalNotional sized ≤
    figures.equity * profile.maxAggregateNotionalPercent / 100

/-- Two orders carry the same account. -/
structure SameBook (figures other : Figures) : Prop where
  equity : other.equity = figures.equity
  openRisk : other.openRisk = figures.openRisk
  openNotional : other.openNotional = figures.openNotional
  openPositions : other.openPositions = figures.openPositions
  remainingDaily : other.remainingDaily = figures.remainingDaily

theorem BatchWithin.of_sameBook {profile : RiskPolicyProfile} {figures other : Figures}
    {sized : List SizingResult} (within : BatchWithin profile figures sized)
    (same : SameBook figures other) : BatchWithin profile other sized where
  positions := same.openPositions ▸ within.positions
  risk := same.openRisk ▸ within.risk
  daily := by
    have := within.daily
    rwa [dailyCap, ← same.openRisk, ← same.remainingDaily] at this
  notional := by
    have := within.notional
    rwa [← same.openNotional, ← same.equity] at this

theorem required_ok {value : Option PyDecimal} {code : String} {x : ℚ}
    (read : required value code = .ok x) : ∃ d, value = some d ∧ d.toRat = x := by
  unfold required at read
  split at read
  · rename_i negative coefficient exponent
    exact ⟨_, rfl, Except.ok.inj read⟩
  · cases read

/-- The figures of a book are what the order carries. -/
theorem figuresOf_book {data : SizingInput} {replaceGradeCap : Bool} {figures : Figures}
    (read : figuresOf data replaceGradeCap = .ok figures) :
    (∃ equity, data.equity = some equity ∧ equity.toRat = figures.equity) ∧
      data.openPositions = some figures.openPositions ∧
      orZero data.openRiskPercent = figures.openRisk ∧
      orZero data.openNotional = figures.openNotional ∧
      orZero data.remainingDailyBudgetPercent = figures.remainingDaily := by
  have zero : ∀ {value : Option PyDecimal} {code : String} {x : ℚ},
      required value code = .ok x → orZero value = x := by
    intro value code x read
    obtain ⟨d, rfl, rfl⟩ := required_ok read
    rfl
  simp only [figuresOf, readFigures, bind_eq_ok, present_eq_ok, ensure_eq_ok, exists_const, pure,
    Except.pure, Except.ok.injEq] at read
  obtain ⟨_, ⟨_, equity, _, -, _, -, _, -, _, -, _, -, _, -, _, -, _, -, _, -, _, -, _, remaining,
    _, risk, _, notional, _, -, _, positions, _, -, _, -, _, -, -, rfl⟩, _, -, rfl⟩ := read
  exact ⟨required_ok equity, positions, zero risk, zero notional, zero remaining⟩

/-- The batch keeps the limits of the first order's book, and each order is within every limit on
its own. -/
theorem accepted_batch_within_first_book {profile : RiskPolicyProfile}
    {orders : List SizingInput} {sized : List SizingResult}
    (accepted : sizeConcurrent profile orders = .ok sized) :
    List.Forall₂ (fun order result => ∃ figures, figuresOf order false = .ok figures ∧
        WithinLimits profile figures false result) orders sized ∧
      ∃ first figures, orders.head? = some first ∧ figuresOf first false = .ok figures ∧
        BatchWithin profile figures sized ∧
        ∀ order ∈ orders, ∀ other, figuresOf order false = .ok other → SameBook figures other →
          BatchWithin profile other sized := by
  cases orders with
  | nil => cases accepted
  | cons first rest =>
    obtain ⟨alone, each, accepted⟩ := bind_eq_ok.mp accepted
    obtain ⟨_, checked, accepted⟩ := bind_eq_ok.mp accepted
    obtain rfl := Except.ok.inj accepted
    have parts : List.Forall₂ (fun order result => ∃ figures,
        figuresOf order false = .ok figures ∧ WithinLimits profile figures false result)
          (first :: rest) alone := by
      refine forall₂_of_mapM ?_ each
      intro order result sized
      exact accepted_trade_within_limits sized
    refine ⟨parts, ?_⟩
    cases parts with
    | cons head _ =>
      obtain ⟨figures, read, -⟩ := head
      obtain ⟨⟨equity, isEquity, same⟩, positions, risk, notional, remaining⟩ :=
        figuresOf_book read
      simp only [checkBatch, positions, isEquity, present_eq_ok, bind_eq_ok, ensure_eq_ok,
        exists_const, Option.some.injEq, exists_eq_left', risk, notional, remaining,
        same] at checked
      obtain ⟨fits, -, within, daily, book⟩ := checked
      have batch : BatchWithin profile figures _ := ⟨fits, within, daily, book⟩
      exact ⟨first, figures, rfl, read, batch, fun _ _ _ _ same => batch.of_sameBook same⟩

def pairProfile : RiskPolicyProfile :=
  { placeholderProfile .demo with maxOpenPositions := 2 }

def pairOrder (openRiskPercent : PyDecimal) : SizingInput :=
  { longInput with
    gradeRiskPercent := some (.finite false 3 (-1))
    openRiskPercent := some openRiskPercent }

/-- Two orders are accepted over the limit of the second one's book, and refused in the other
order. -/
theorem later_book_is_not_read :
    ((sizeConcurrent pairProfile
        [pairOrder (.finite false 0 0), pairOrder (.finite false 5 (-1))]).map fun sized =>
      decide (pairProfile.maxAggregateOpenRiskPercent < 1 / 2 + totalRisk sized)) = .ok true ∧
    sizeConcurrent pairProfile
        [pairOrder (.finite false 5 (-1)), pairOrder (.finite false 0 0)] =
      .error (.rejected "concurrent_budget_exhausted") := by
  decide +kernel

theorem pairOrder_within_first_book :
    ∃ sized, sizeConcurrent pairProfile
        [pairOrder (.finite false 0 0), pairOrder (.finite false 5 (-1))] = .ok sized ∧
      List.Forall₂ (fun order result => ∃ figures, figuresOf order false = .ok figures ∧
          WithinLimits pairProfile figures false result)
        [pairOrder (.finite false 0 0), pairOrder (.finite false 5 (-1))] sized ∧
      ∃ first figures, [pairOrder (.finite false 0 0), pairOrder (.finite false 5 (-1))].head? =
          some first ∧ figuresOf first false = .ok figures ∧
        BatchWithin pairProfile figures sized ∧
        ∀ order ∈ [pairOrder (.finite false 0 0), pairOrder (.finite false 5 (-1))], ∀ other,
          figuresOf order false = .ok other → SameBook figures other →
            BatchWithin pairProfile other sized := by
  have accepted : ((sizeConcurrent pairProfile
      [pairOrder (.finite false 0 0), pairOrder (.finite false 5 (-1))]).map fun _ => ()) =
        .ok () := by decide +kernel
  obtain ⟨sized, batch, -⟩ := map_eq_ok.mp accepted
  exact ⟨sized, batch, accepted_batch_within_first_book batch⟩

end AlphaTrade.Risk
