import Mathlib.Algebra.Order.BigOperators.Group.List
import AlphaTrade.Library.Check
import AlphaTrade.Library.DecimalContext

/-!
# The floor of one R

A plan may be entered anywhere in its zone. The reward is weighted by what each target is allocated
and the risk is that of the whole position, both at the worst entry of the zone. Moving the entry
away from the worst one adds to the reward what it takes from the risk, so the floor holds at every
entry that is permitted.

The quotients that are returned are exact here.
-/
namespace AlphaTrade.TradePlan
open Library

/-! ## Terms -/

inductive EntrySide where
  | buy | sell
  deriving DecidableEq, Repr

inductive ContractType where
  | linear | inverse
  deriving DecidableEq, Repr

def isText (least most : Nat) (text : String) : Bool := least ≤ text.length && text.length ≤ most

structure SemanticAmount where
  value : PyDecimal
  measure : String

def SemanticAmount.valid (amount : SemanticAmount) : Bool :=
  amount.value.isFinite && 0 < amount.value.toRat && isText 1 32 amount.measure

structure EntryZone where
  lower : PyDecimal
  upper : PyDecimal
  priceUnit : String

def EntryZone.valid (zone : EntryZone) : Bool :=
  zone.lower.isFinite && 0 < zone.lower.toRat && zone.upper.isFinite && 0 < zone.upper.toRat &&
    isText 1 32 zone.priceUnit && zone.lower.toRat ≤ zone.upper.toRat

structure ExitTarget where
  order : Int
  price : SemanticAmount
  quantityFraction : PyDecimal

def ExitTarget.valid (target : ExitTarget) : Bool :=
  1 ≤ target.order && target.price.valid && target.quantityFraction.isFinite &&
    0 < target.quantityFraction.toRat && target.quantityFraction.toRat ≤ 1

structure RunnerRules where
  enabled : Bool
  activationTargetOrder : Option Int
  remainingQuantityFraction : PyDecimal

def RunnerRules.valid (runner : RunnerRules) : Bool :=
  runner.activationTargetOrder.all (1 ≤ ·) && runner.remainingQuantityFraction.isFinite &&
    0 ≤ runner.remainingQuantityFraction.toRat && runner.remainingQuantityFraction.toRat ≤ 1 &&
    (!runner.enabled || runner.activationTargetOrder.isSome) &&
    (runner.enabled || runner.remainingQuantityFraction.toRat = 0)

structure CalculationInput where
  name : String
  inputValue : PyDecimal
  resultValue : PyDecimal
  measure : String
  formulaId : String
  formulaVersion : String

/-- `TradePlanExecutionTerms`. The validators of the fields that are left out are known by their
answer. -/
structure ExecutionTerms where
  schemaVersion : String
  side : EntrySide
  entryZone : EntryZone
  contractType : ContractType
  quoteCurrency : String
  stop : SemanticAmount
  targets : List ExitTarget
  runner : RunnerRules
  calculationInputs : List CalculationInput
  executionPolicyVersion : String
  restIsValid : Bool

def ExecutionTerms.manualIsFull (terms : ExecutionTerms) : Bool :=
  terms.executionPolicyVersion == "manual-blofin-demo/v1" &&
    (terms.targets.map fun target => target.quantityFraction.toRat) == [1] && !terms.runner.enabled

/-- `TradePlanExecutionTerms.model_validate`. -/
def ExecutionTerms.valid (terms : ExecutionTerms) : Bool :=
  terms.entryZone.valid && isText 2 16 terms.quoteCurrency && terms.stop.valid &&
    terms.targets ≠ [] && terms.targets.all ExitTarget.valid &&
    (terms.targets.map (·.order) == (List.range' 1 terms.targets.length).map Int.ofNat) &&
    terms.runner.valid && terms.calculationInputs ≠ [] &&
    terms.runner.activationTargetOrder.all (· ≤ (terms.targets.length : Int)) &&
    (terms.schemaVersion == "CanonicalTradePlanContentV1" ||
      (terms.schemaVersion == "ManualDemoTradePlanV1" && terms.manualIsFull)) &&
    isText 1 64 terms.executionPolicyVersion && terms.restIsValid

/-! ## The measure -/

structure RewardRiskError where
  message : String
  reason : String := "planned_reward_risk_invalid"
  deriving DecidableEq, Repr

structure PlannedRewardRisk where
  entry : PyDecimal
  rewardDistance : ℚ
  riskDistance : ℚ
  ratio : ℚ
  meetsMinimum : Bool

def minimumRewardRisk : ℚ := 1

def gain (side : EntrySide) (before after : ℚ) : ℚ :=
  match side with
  | .buy => after - before
  | .sell => before - after

def withinBudget : PyDecimal → Bool
  | .finite _ coefficient exponent => digitCount coefficient ≤ 80 && exponent.natAbs ≤ 80
  | _ => false

def ExecutionTerms.values (terms : ExecutionTerms) : List PyDecimal :=
  [terms.entryZone.lower, terms.entryZone.upper, terms.stop.value,
    terms.runner.remainingQuantityFraction] ++
    terms.targets.flatMap fun target => [target.price.value, target.quantityFraction]

def ExecutionTerms.worstEntry (terms : ExecutionTerms) : PyDecimal :=
  match terms.side with
  | .buy => terms.entryZone.upper
  | .sell => terms.entryZone.lower

def ExecutionTerms.nearestEntry (terms : ExecutionTerms) : PyDecimal :=
  match terms.side with
  | .buy => terms.entryZone.lower
  | .sell => terms.entryZone.upper

def addTarget (side : EntrySide) (entry : ℚ) (total : ℚ × ℚ) (target : ExitTarget) :
    Except RewardRiskError (ℚ × ℚ) := do
  let distance := gain side entry target.price.value.toRat
  let fraction := target.quantityFraction.toRat
  ensure (0 < distance)
    { message := "Every target must be beyond the entry zone in the profit direction." }
  return (total.1 + fraction, total.2 + distance * fraction)

/-- `measure_planned_reward_risk`. -/
def measurePlannedRewardRisk (terms : ExecutionTerms) :
    Except RewardRiskError PlannedRewardRisk := do
  ensure (terms.valid = true) { message := "Invalid planned reward/risk terms." }
  ensure (terms.contractType = .linear)
    { message := "Planned reward/risk supports linear instruments only." }
  let amounts := terms.stop :: terms.targets.map fun target => target.price
  ensure (terms.entryZone.priceUnit = terms.quoteCurrency ∧
      amounts.all (fun amount => amount.measure == terms.entryZone.priceUnit) = true)
    { message := "Entry, stop and target price units must match the quote currency." }
  ensure (∀ value ∈ terms.values, withinBudget value = true)
    { message := "Planned reward/risk decimal precision exceeds its bounded budget." }
  let stop := terms.stop.value.toRat
  let entry := terms.worstEntry.toRat
  ensure (0 < gain terms.side stop terms.nearestEntry.toRat)
    { message := "The stop must be beyond the entire entry zone in the loss direction." }
  let risk := gain terms.side stop entry
  ensure (0 < risk)
    { message := "The stop must be beyond the entire entry zone in the loss direction." }
  let reserved := terms.runner.remainingQuantityFraction.toRat
  let total ← terms.targets.foldlM (addTarget terms.side entry) (reserved, 0)
  ensure (total.1 = 1)
    { message := "Targets plus any reserved runner must allocate exactly the whole position." }
  ensure (terms.runner.enabled = true → 0 < reserved)
    { message := "An enabled runner must reserve a positive allocation." }
  return {
    entry := terms.worstEntry
    rewardDistance := total.2
    riskDistance := risk
    ratio := total.2 / risk
    meetsMinimum := risk * minimumRewardRisk ≤ total.2 }

/-- `planned_reward_risk`. -/
def plannedRewardRisk (terms : ExecutionTerms) : Except RewardRiskError PlannedRewardRisk := do
  let result ← measurePlannedRewardRisk terms
  ensure (result.meetsMinimum = true)
    { message := "Planned allocation-weighted gross reward/risk must be at least 1:1; " ++
        "keep the original targets and reject this entry."
      reason := "planned_reward_risk_below_minimum" }
  return result

def ExecutionTerms.omitsFloor (terms : ExecutionTerms) : Bool :=
  terms.schemaVersion == "ManualDemoTradePlanV1" &&
    terms.executionPolicyVersion == "manual-blofin-demo/v1" &&
    match terms.calculationInputs.filter (·.name = "manual_connectivity_rr") with
    | [marker] =>
      marker.formulaId == "manual-demo-connectivity-no-minimum-rr" &&
        marker.formulaVersion == "1" && marker.measure == "POLICY" &&
        marker.inputValue.toRat = 1 && marker.resultValue.toRat = 1
    | _ => false

/-- `execution_reward_risk`. -/
def executionRewardRisk (terms : ExecutionTerms) : Except RewardRiskError PlannedRewardRisk :=
  if terms.omitsFloor then measurePlannedRewardRisk terms else plannedRewardRisk terms

/-! ## Moving the entry -/

def weightedReward (side : EntrySide) (targets : List ExitTarget) (entry : ℚ) : ℚ :=
  (targets.map fun target =>
    gain side entry target.price.value.toRat * target.quantityFraction.toRat).sum

def allocation (targets : List ExitTarget) : ℚ :=
  (targets.map fun target => target.quantityFraction.toRat).sum

theorem gain_add (side : EntrySide) (x y z : ℚ) :
    gain side x y + gain side y z = gain side x z := by
  cases side <;> simp only [gain] <;> ring

/-- An entry that is better by an amount brings that amount more of whatever is allocated. -/
theorem weightedReward_move (side : EntrySide) (targets : List ExitTarget) (entry worst : ℚ) :
    weightedReward side targets entry =
      weightedReward side targets worst + gain side entry worst * allocation targets := by
  induction targets with
  | nil => simp [weightedReward, allocation]
  | cons target targets ih =>
    simp only [weightedReward, allocation, List.map_cons, List.sum_cons] at ih ⊢
    rw [ih, ← gain_add side entry worst target.price.value.toRat]
    ring

variable {entry : ℚ} {targets : List ExitTarget} {terms : ExecutionTerms}
  {result : PlannedRewardRisk}

/-- The loop goes through where every target is ahead, and sums. -/
theorem foldlM_addTarget {side : EntrySide} {total result : ℚ × ℚ}
    (done : targets.foldlM (addTarget side entry) total = .ok result) :
    (∀ target ∈ targets, 0 < gain side entry target.price.value.toRat) ∧
      result.1 = total.1 + allocation targets ∧
      result.2 = total.2 + weightedReward side targets entry := by
  induction targets generalizing total with
  | nil =>
    obtain rfl := Except.ok.inj done
    simp [allocation, weightedReward]
  | cons target targets ih =>
    rw [List.foldlM_cons] at done
    obtain ⟨next, added, done⟩ := bind_eq_ok.mp done
    simp only [addTarget, bind_eq_ok, ensure_eq_ok, exists_const, pure, Except.pure,
      Except.ok.injEq] at added
    obtain ⟨ahead, rfl⟩ := added
    obtain ⟨rest, allocated, reward⟩ := ih done
    refine ⟨List.forall_mem_cons.mpr ⟨ahead, rest⟩, ?_, ?_⟩
    · simp only [allocated, allocation, List.map_cons, List.sum_cons]
      ring
    · simp only [reward, weightedReward, List.map_cons, List.sum_cons]
      ring

/-! ## The floor -/

/-- The geometry of a plan at an entry. -/
structure Sided (terms : ExecutionTerms) (entry : ℚ) : Prop where
  stop : 0 < gain terms.side terms.stop.value.toRat entry
  targets : ∀ target ∈ terms.targets, 0 < gain terms.side entry target.price.value.toRat

/-- What is at stake at an entry, and what the targets bring there. -/
structure OneRFloor (terms : ExecutionTerms) (entry : ℚ) : Prop extends Sided terms entry where
  floor : gain terms.side terms.stop.value.toRat entry ≤
    weightedReward terms.side terms.targets entry

/-- The whole position is allocated, to targets and to what the runner reserves. -/
structure Allocated (terms : ExecutionTerms) : Prop where
  fractions : ∀ target ∈ terms.targets, 0 < target.quantityFraction.toRat
  reserved : 0 ≤ terms.runner.remainingQuantityFraction.toRat
  whole : allocation terms.targets + terms.runner.remainingQuantityFraction.toRat = 1

theorem allocation_nonneg (fractions : ∀ target ∈ targets, 0 < target.quantityFraction.toRat) :
    0 ≤ allocation targets := by
  refine List.sum_nonneg ?_
  intro fraction mem
  obtain ⟨target, among, rfl⟩ := List.mem_map.mp mem
  exact (fractions target among).le

/-- The validators put every fraction in its range. -/
theorem ExecutionTerms.fractions_of_valid (valid : terms.valid = true) :
    (∀ target ∈ terms.targets, 0 < target.quantityFraction.toRat) ∧
      0 ≤ terms.runner.remainingQuantityFraction.toRat := by
  simp only [ExecutionTerms.valid, Bool.and_eq_true, List.all_eq_true] at valid
  obtain ⟨⟨⟨⟨⟨⟨⟨⟨-, targets⟩, -⟩, runner⟩, -⟩, -⟩, -⟩, -⟩, -⟩ := valid
  constructor
  · intro target mem
    have checked := targets target mem
    simp only [ExitTarget.valid, Bool.and_eq_true, decide_eq_true_eq] at checked
    exact checked.1.2
  · simp only [RunnerRules.valid, Bool.and_eq_true, decide_eq_true_eq] at runner
    exact runner.1.1.1.2

/-- No entry of the zone is worse than the worst, nor nearer to the stop than the nearest. -/
theorem gain_worstEntry (low : terms.entryZone.lower.toRat ≤ entry)
    (high : entry ≤ terms.entryZone.upper.toRat) :
    0 ≤ gain terms.side entry terms.worstEntry.toRat ∧
      0 ≤ gain terms.side terms.nearestEntry.toRat entry := by
  unfold ExecutionTerms.worstEntry ExecutionTerms.nearestEntry
  cases terms.side <;> simp only [gain] <;> constructor <;> linarith

/-- What was measured of terms. -/
structure Measured (terms : ExecutionTerms) (result : PlannedRewardRisk) : Prop where
  allocated : Allocated terms
  nearest : 0 < gain terms.side terms.stop.value.toRat terms.nearestEntry.toRat
  ahead : ∀ target ∈ terms.targets,
    0 < gain terms.side terms.worstEntry.toRat target.price.value.toRat
  meets : result.meetsMinimum = true ↔
    gain terms.side terms.stop.value.toRat terms.worstEntry.toRat ≤
      weightedReward terms.side terms.targets terms.worstEntry.toRat

theorem measured (accepted : measurePlannedRewardRisk terms = .ok result) :
    Measured terms result := by
  simp only [measurePlannedRewardRisk, bind_eq_ok, ensure_eq_ok, exists_const, pure, Except.pure,
    Except.ok.injEq] at accepted
  obtain ⟨valid, -, -, -, nearest, -, total, folded, whole, -, rfl⟩ := accepted
  obtain ⟨ahead, allocated, reward⟩ := foldlM_addTarget folded
  obtain ⟨fractions, reserved⟩ := ExecutionTerms.fractions_of_valid valid
  refine ⟨⟨fractions, reserved, ?_⟩, nearest, ahead, ?_⟩
  · rw [add_comm, ← whole, allocated]
  · simp [minimumRewardRisk, reward]

/-- An accepted plan is on the right sides at every entry of its zone. -/
theorem Measured.sided (measured : Measured terms result)
    (low : terms.entryZone.lower.toRat ≤ entry) (high : entry ≤ terms.entryZone.upper.toRat) :
    Sided terms entry := by
  have ⟨worst, nearest⟩ := gain_worstEntry low high
  refine ⟨?_, fun target mem => ?_⟩
  · rw [← gain_add terms.side _ terms.nearestEntry.toRat]
    exact add_pos_of_pos_of_nonneg measured.nearest nearest
  · rw [← gain_add terms.side _ terms.worstEntry.toRat]
    exact add_pos_of_nonneg_of_pos worst (measured.ahead target mem)

/-- The policy that omits the floor keeps the geometry and the allocation. -/
theorem executionRewardRisk_sided {terms : ExecutionTerms} {result : PlannedRewardRisk}
    (accepted : executionRewardRisk terms = .ok result) :
    Allocated terms ∧ ∀ entry : ℚ, terms.entryZone.lower.toRat ≤ entry →
      entry ≤ terms.entryZone.upper.toRat → Sided terms entry := by
  have isMeasured : ∃ result, measurePlannedRewardRisk terms = .ok result := by
    unfold executionRewardRisk at accepted
    split_ifs at accepted
    · exact ⟨result, accepted⟩
    · obtain ⟨result, isMeasured, -⟩ := bind_eq_ok.mp accepted
      exact ⟨result, isMeasured⟩
  obtain ⟨result, isMeasured⟩ := isMeasured
  have measured := measured isMeasured
  exact ⟨measured.allocated, fun entry => measured.sided⟩

/-- A plan that is accepted allocates the whole position, and keeps the floor wherever in its zone
it is entered. -/
theorem one_r_floor {terms : ExecutionTerms} {result : PlannedRewardRisk}
    (accepted : plannedRewardRisk terms = .ok result) :
    Allocated terms ∧ ∀ entry : ℚ, terms.entryZone.lower.toRat ≤ entry →
      entry ≤ terms.entryZone.upper.toRat → OneRFloor terms entry := by
  obtain ⟨result, isMeasured, accepted⟩ := bind_eq_ok.mp accepted
  have measured := measured isMeasured
  refine ⟨measured.allocated, fun entry low high => ⟨measured.sided low high, ?_⟩⟩
  simp only [bind_eq_ok, ensure_eq_ok, exists_const] at accepted
  have floor := measured.meets.mp accepted.1
  have worst := (gain_worstEntry low high).1
  have share := allocation_nonneg measured.allocated.fractions
  have risk := gain_add terms.side terms.stop.value.toRat entry terms.worstEntry.toRat
  calc gain terms.side terms.stop.value.toRat entry
      ≤ gain terms.side terms.stop.value.toRat terms.worstEntry.toRat := by linarith
    _ ≤ weightedReward terms.side terms.targets terms.worstEntry.toRat := floor
    _ ≤ weightedReward terms.side terms.targets terms.worstEntry.toRat +
          gain terms.side entry terms.worstEntry.toRat * allocation terms.targets :=
        le_add_of_nonneg_right (mul_nonneg worst share)
    _ = weightedReward terms.side terms.targets entry := (weightedReward_move ..).symm

/-- A short with a zone from 100 to 101 and the stop at 103. Half of it goes at 97, half at 95. -/
def zonedTerms : ExecutionTerms where
  schemaVersion := "CanonicalTradePlanContentV1"
  side := .sell
  entryZone := ⟨.finite false 100 0, .finite false 101 0, "USDT"⟩
  contractType := .linear
  quoteCurrency := "USDT"
  stop := ⟨.finite false 103 0, "USDT"⟩
  targets := [⟨1, ⟨.finite false 97 0, "USDT"⟩, .finite false 5 (-1)⟩,
    ⟨2, ⟨.finite false 95 0, "USDT"⟩, .finite false 5 (-1)⟩]
  runner := ⟨false, none, .finite false 0 0⟩
  calculationInputs := [⟨"atr", .finite false 1 0, .finite false 1 0, "USDT", "atr", "1"⟩]
  executionPolicyVersion := "paper/v1"
  restIsValid := true

theorem zonedTerms_one_r_floor :
    (∃ result, plannedRewardRisk zonedTerms = .ok result) ∧ Allocated zonedTerms ∧
      OneRFloor zonedTerms (201 / 2) := by
  have accepted : ((plannedRewardRisk zonedTerms).map fun _ => ()) = .ok () := by decide +kernel
  obtain ⟨result, isAccepted, -⟩ := map_eq_ok.mp accepted
  obtain ⟨allocated, floor⟩ := one_r_floor isAccepted
  refine ⟨⟨result, isAccepted⟩, allocated, floor (201 / 2) ?_ ?_⟩
  · norm_num [zonedTerms, PyDecimal.toRat]
  · norm_num [zonedTerms, PyDecimal.toRat]

/-- The zone may be entered anywhere by the policies of an execution, too. -/
theorem zonedTerms_sided : Allocated zonedTerms ∧ Sided zonedTerms (201 / 2) := by
  have accepted : ((executionRewardRisk zonedTerms).map fun _ => ()) = .ok () := by decide +kernel
  obtain ⟨result, isAccepted, -⟩ := map_eq_ok.mp accepted
  obtain ⟨allocated, sided⟩ := executionRewardRisk_sided isAccepted
  refine ⟨allocated, sided (201 / 2) ?_ ?_⟩
  · norm_num [zonedTerms, PyDecimal.toRat]
  · norm_num [zonedTerms, PyDecimal.toRat]

end AlphaTrade.TradePlan
