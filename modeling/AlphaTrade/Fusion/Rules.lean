import AlphaTrade.Fusion.EvidenceWindow

/-!
# The rule table

The rule evaluators write into one table. Their writes are kept, newest first, and the table holds
the newest result of each rule. A result is open while nothing has failed: it passed, or it is the
pending result that the table starts with.

## Main results

* `Rules.clean_of_passed`: where each write keeps the table monotone, a rule that holds passed has
  had no failure written.
* `Rules.Extends.monotone`: a run of writes keeps the table monotone when each of them is a failure
  or finds its rule open.
-/
namespace AlphaTrade.Fusion
open Library Market

inductive RuleId where
  | policyCompatible | marketIdentity | perpetualIdentity | finalEvidence | freshness
  | noUnresolvedGap | completeWarmup | wilderAtr15m | wilderAtr4h | confirmedSwingHigh
  | manual4hResistance | htfResistanceContext | ltfLiquiditySweep | volumeSpike
  | bearishCvdDivergence | aggressiveSellImbalance | notInvalidated | notExpired
  deriving DecidableEq, Repr

def RuleId.value : RuleId → String
  | .policyCompatible => "policy_compatible"
  | .marketIdentity => "market_identity"
  | .perpetualIdentity => "perpetual_identity"
  | .finalEvidence => "final_evidence"
  | .freshness => "freshness"
  | .noUnresolvedGap => "no_unresolved_gap"
  | .completeWarmup => "complete_warmup"
  | .wilderAtr15m => "wilder_atr_15m"
  | .wilderAtr4h => "wilder_atr_4h"
  | .confirmedSwingHigh => "confirmed_swing_high"
  | .manual4hResistance => "manual_4h_resistance"
  | .htfResistanceContext => "htf_resistance_context"
  | .ltfLiquiditySweep => "ltf_liquidity_sweep"
  | .volumeSpike => "volume_spike"
  | .bearishCvdDivergence => "bearish_cvd_divergence"
  | .aggressiveSellImbalance => "aggressive_sell_imbalance"
  | .notInvalidated => "not_invalidated"
  | .notExpired => "not_expired"

/-- `QUALITY_RULE_IDS`. -/
def qualityRuleIds : List RuleId :=
  [.policyCompatible, .marketIdentity, .perpetualIdentity, .finalEvidence, .freshness,
    .noUnresolvedGap, .completeWarmup, .wilderAtr15m, .wilderAtr4h]

/-- `FIRST_SLICE_RULE_IDS`. -/
def firstSliceRuleIds : List RuleId :=
  qualityRuleIds ++
    [.confirmedSwingHigh, .manual4hResistance, .htfResistanceContext, .ltfLiquiditySweep,
      .volumeSpike, .bearishCvdDivergence, .aggressiveSellImbalance, .notInvalidated, .notExpired]

theorem mem_firstSliceRuleIds (ruleId : RuleId) : ruleId ∈ firstSliceRuleIds := by
  cases ruleId <;> decide

/-- The weight, one of a number of equal ones, is left out. -/
structure RuleResult where
  ruleId : RuleId
  passed : Bool
  reasonCode : Option String
  evidenceRole : Option EvidenceRole
  deriving DecidableEq, Repr

namespace RuleResult

/-- `_rule` of a rule that holds. -/
def pass (ruleId : RuleId) (evidenceRole : Option EvidenceRole) : RuleResult :=
  ⟨ruleId, true, none, evidenceRole⟩

/-- `_rule` of a rule that fails. -/
def fail (ruleId : RuleId) (reasonCode : String) (evidenceRole : Option EvidenceRole) :
    RuleResult := ⟨ruleId, false, some reasonCode, evidenceRole⟩

/-- `_rule` of a condition. -/
def check (ruleId : RuleId) (passed : Prop) [Decidable passed] (reasonCode : String)
    (evidenceRole : Option EvidenceRole) : RuleResult :=
  if passed then pass ruleId evidenceRole else fail ruleId reasonCode evidenceRole

def pending (ruleId : RuleId) : RuleResult := fail ruleId "not_evaluated" none

def Open (result : RuleResult) : Prop :=
  result.passed = true ∨ result.reasonCode = some "not_evaluated"

variable {ruleId : RuleId} {reasonCode : String} {evidenceRole : Option EvidenceRole}

@[simp] theorem open_pass : (pass ruleId evidenceRole).Open := .inl rfl

@[simp] theorem open_fail :
    (fail ruleId reasonCode evidenceRole).Open ↔ reasonCode = "not_evaluated" := by
  simp [Open, fail]

@[simp] theorem open_pending : (pending ruleId).Open := .inr rfl

@[simp] theorem ruleId_pass : (pass ruleId evidenceRole).ruleId = ruleId := rfl

@[simp] theorem ruleId_fail : (fail ruleId reasonCode evidenceRole).ruleId = ruleId := rfl

variable {passed : Prop} [Decidable passed]

@[simp] theorem ruleId_check : (check ruleId passed reasonCode evidenceRole).ruleId = ruleId := by
  unfold check
  split <;> rfl

@[simp] theorem open_check :
    (check ruleId passed reasonCode evidenceRole).Open ↔
      passed ∨ reasonCode = "not_evaluated" := by
  unfold check
  split <;> simp [*]

theorem check_of (h : passed) :
    check ruleId passed reasonCode evidenceRole = pass ruleId evidenceRole := if_pos h

end RuleResult

/-- The writes of the table, newest first. -/
structure Rules where
  writes : List RuleResult
  deriving DecidableEq, Repr

namespace Rules

def initial : Rules := ⟨firstSliceRuleIds.map .pending⟩

def record (rules : Rules) (result : RuleResult) : Rules := ⟨result :: rules.writes⟩

/-- `rules[rule_id]`. -/
def get (rules : Rules) (ruleId : RuleId) : RuleResult :=
  (rules.writes.find? fun result => result.ruleId = ruleId).getD (.pending ruleId)

/-- `rules[rule_id].passed`. -/
abbrev Passed (rules : Rules) (ruleId : RuleId) : Prop := (rules.get ruleId).passed = true

/-- `rules[rule_id].reason_code == "not_evaluated"`. -/
abbrev Pending (rules : Rules) (ruleId : RuleId) : Prop :=
  (rules.get ruleId).reasonCode = some "not_evaluated"

variable {rules : Rules} {result : RuleResult} {ruleId : RuleId}

theorem get_record :
    (rules.record result).get ruleId = if result.ruleId = ruleId then result else rules.get ruleId
    := by
  simp only [get, record, List.find?_cons]
  split <;> simp_all

@[simp] theorem get_record_self (h : result.ruleId = ruleId) :
    (rules.record result).get ruleId = result := by rw [get_record, if_pos h]

theorem get_record_of_ne (h : result.ruleId ≠ ruleId) :
    (rules.record result).get ruleId = rules.get ruleId := by rw [get_record, if_neg h]

@[simp] theorem get_initial : initial.get ruleId = .pending ruleId := by cases ruleId <;> rfl

/-! ## Clean tables -/

def Clean (rules : Rules) : Prop := ∀ result ∈ rules.writes, result.Open

@[simp] theorem clean_initial : initial.Clean := by
  intro result mem
  obtain ⟨ruleId, -, rfl⟩ := List.mem_map.mp mem
  exact RuleResult.open_pending

@[simp] theorem clean_record : (rules.record result).Clean ↔ result.Open ∧ rules.Clean := by
  simp [Clean, record]

/-! ## Monotone tables -/

def Monotone (rules : Rules) : Prop :=
  rules.writes.Pairwise fun newer older =>
    newer.ruleId = older.ruleId → newer.Open → older.Open

@[simp] theorem monotone_initial : initial.Monotone := by
  refine List.pairwise_map.mpr (List.Pairwise.imp (fun _ _ _ => ?_)
    (List.pairwise_of_forall (R := fun _ _ => True) fun _ _ => trivial))
  exact RuleResult.open_pending

/-- A write of a monotone table is open where the table holds an open result of its rule. -/
theorem Monotone.open_of_get (monotone : rules.Monotone) (mem : result ∈ rules.writes)
    (holds : (rules.get result.ruleId).Open) : result.Open := by
  obtain ⟨writes⟩ := rules
  simp only [Monotone, get] at *
  induction writes with
  | nil => cases mem
  | cons newest writes ih =>
    rw [List.pairwise_cons] at monotone
    by_cases same : newest.ruleId = result.ruleId
    · simp only [List.find?_cons, same, decide_true, Option.getD_some] at holds
      rcases List.mem_cons.mp mem with rfl | mem
      · exact holds
      · exact monotone.1 _ mem same holds
    · rcases List.mem_cons.mp mem with rfl | mem
      · exact absurd rfl same
      · refine ih monotone.2 mem ?_
        simpa [List.find?_cons, same] using holds

theorem Monotone.record (monotone : rules.Monotone)
    (still : result.Open → (rules.get result.ruleId).Open) : (rules.record result).Monotone := by
  refine List.pairwise_cons.mpr ⟨fun older mem same holds => ?_, monotone⟩
  refine monotone.open_of_get mem ?_
  rw [← same]
  exact still holds

/-- Where every rule holds passed in a monotone table, no failure was ever written. -/
theorem clean_of_passed (monotone : rules.Monotone) (passed : ∀ ruleId, rules.Passed ruleId) :
    rules.Clean := fun _ mem => monotone.open_of_get mem (.inl (passed _))

/-! ## Runs of writes -/

/-- Writes of some rules, none of which passes a rule that has failed. -/
inductive Extends (ruleIds : List RuleId) (rules : Rules) : Rules → Prop
  | refl : Extends ruleIds rules rules
  | record {later : Rules} (result : RuleResult) (run : Extends ruleIds rules later)
      (mem : result.ruleId ∈ ruleIds) (still : result.Open → (later.get result.ruleId).Open) :
      Extends ruleIds rules (later.record result)

namespace Extends

variable {ruleIds others : List RuleId} {rules later last : Rules}

theorem trans (run : Extends ruleIds rules later) (rest : Extends ruleIds later last) :
    Extends ruleIds rules last := by
  induction rest with
  | refl => exact run
  | record result _ mem still ih => exact ih.record result mem still

theorem mono (run : Extends ruleIds rules later) (sub : ∀ ruleId ∈ ruleIds, ruleId ∈ others) :
    Extends others rules later := by
  induction run with
  | refl => exact .refl
  | record result _ mem still ih => exact ih.record result (sub _ mem) still

theorem monotone (run : Extends ruleIds rules later) (before : rules.Monotone) :
    later.Monotone := by
  induction run with
  | refl => exact before
  | record result _ _ still ih => exact ih.record still

/-- A rule that the run does not write keeps its result. -/
theorem get_eq (run : Extends ruleIds rules later) (other : ruleId ∉ ruleIds) :
    later.get ruleId = rules.get ruleId := by
  induction run with
  | refl => rfl
  | record result _ mem _ ih =>
    have ne : result.ruleId ≠ ruleId := by
      rintro rfl
      exact other mem
    rw [get_record_of_ne ne, ih]

theorem clean (run : Extends ruleIds rules later) (after : later.Clean) : rules.Clean := by
  induction run with
  | refl => exact after
  | record result _ _ _ ih => exact ih (clean_record.mp after).2

variable {reasonCode : String} {evidenceRole : Option EvidenceRole}

theorem fail (run : Extends ruleIds rules later) (mem : ruleId ∈ ruleIds)
    (failed : reasonCode ≠ "not_evaluated") :
    Extends ruleIds rules (later.record (.fail ruleId reasonCode evidenceRole)) :=
  run.record _ mem fun isOpen => absurd (RuleResult.open_fail.mp isOpen) failed

theorem pass (run : Extends ruleIds rules later) (mem : ruleId ∈ ruleIds)
    (pending : later.Pending ruleId) :
    Extends ruleIds rules (later.record (.pass ruleId evidenceRole)) :=
  run.record _ mem fun _ => .inr pending

theorem check {passed : Prop} [Decidable passed] (run : Extends ruleIds rules later)
    (mem : ruleId ∈ ruleIds) (pending : later.Pending ruleId) :
    Extends ruleIds rules (later.record (.check ruleId passed reasonCode evidenceRole)) :=
  run.record _ (by simpa using mem) fun _ => by simpa using .inr pending

/-- A passing write where the rule is pending. -/
theorem passIfPending (run : Extends ruleIds rules later) (mem : ruleId ∈ ruleIds) :
    Extends ruleIds rules
      (if later.Pending ruleId then later.record (.pass ruleId evidenceRole) else later) := by
  split
  · rename_i pending
    exact run.pass mem pending
  · exact run

/-- A loop of writes. -/
theorem foldl {step : Rules → RuleId → Rules}
    (each : ∀ rules ruleId, ruleId ∈ ruleIds → Extends ruleIds rules (step rules ruleId))
    (steps : List RuleId) (sub : ∀ ruleId ∈ steps, ruleId ∈ ruleIds) (rules : Rules) :
    Extends ruleIds rules (steps.foldl step rules) := by
  induction steps generalizing rules with
  | nil => exact .refl
  | cons ruleId steps ih =>
    rw [List.forall_mem_cons] at sub
    exact (each rules ruleId sub.1).trans (ih sub.2 _)

end Extends

end Rules

end AlphaTrade.Fusion
