import AlphaTrade.Fusion.Confirmation

/-!
# Refused windows and required roles

The evaluators read three of the reasons for which a window is refused. The fourth one, which
stands for pydantic's errors and with them for every check inside a validator, is read by none, and
a setup can be confirmed over a window that it refuses. A role that the policy requires is looked
for only through the roles of the command, where these are not a strict subset of the policy's.

## Main results

* `failsClosed_iff`: when a confirmed setup has the window of its command.
* `requiredRoles_occupied_iff`: when a confirmed setup has every role that its policy requires.
-/
namespace AlphaTrade.Fusion
open Library Market
open Execution (Instant)

/-- A setup is confirmed only with the window of its command. -/
structure FailsClosed (runtime : FusionRuntime) (command : AssessmentCommand)
    (assessment : SetupAssessment) : Prop where
  refused : ∀ e, commandWindow runtime command = .error e → assessment.state ≠ .confirmedSetup
  hashed : assessment.state = .confirmedSetup → ∃ window,
    commandWindow runtime command = .ok window ∧ assessment.evidenceWindowHash = window.contentHash

def UnclassifiedRefusal (runtime : FusionRuntime) (command : AssessmentCommand) : Prop :=
  ∃ message, commandWindow runtime command = .error (.validation message) ∨
    commandWindow runtime command = .error (.value message)

def Occupied (command : AssessmentCommand) (role : EvidenceRole) : Prop :=
  ∃ observation, (observation, role) ∈ command.occupants ∧ observation.finality = .final

def IsGated (role : EvidenceRole) : Prop := (derivativeMetric role).isSome ∨ IsOrderFlowRole role

/-- A required role is declared or selected by the command, and where no window is built it is
gated or occupied. -/
structure CoversRequired (runtime : FusionRuntime) (policy : FusionPolicy)
    (command : AssessmentCommand) : Prop where
  built : ∀ window, commandWindow runtime command = .ok window → ∀ role ∈ policy.requiredRoles,
    role ∈ command.mandatoryEvidenceRoles ∨ role ∈ command.selectedRoles
  refused : ∀ e, commandWindow runtime command = .error e → ∀ role ∈ policy.requiredRoles,
    IsGated role ∨ Occupied command role

variable {runtime : FusionRuntime} {policy : FusionPolicy} {command : AssessmentCommand}
  {evidence : FirstSliceEvidenceBundle} {evaluated : Instant}
  {previous : Option SetupAssessment} {given : Option FirstSliceEvaluationParams}
  {symbol : Option String} {assessment : SetupAssessment}

/-! ## Windows -/

theorem unclassifiedRefusal_of_unread {e : FusionError}
    (refused : commandWindow runtime command = .error e)
    (unread : ∀ reason ∈ identityReason runtime command, reason = "market_disqualifier") :
    UnclassifiedRefusal runtime command := by
  have reason : identityReason runtime command = some (classifyContractError e) := by
    rw [identityReason, refused]
  have same := unread _ reason
  cases e with
  | validation message => exact ⟨message, .inl refused⟩
  | value message => exact ⟨message, .inr refused⟩
  | _ => simp [classifyContractError] at same

theorem evidenceWindowHash_of_built {window : CanonicalEvidenceWindowV1}
    (h : evaluateSetup runtime policy command evidence evaluated previous given symbol =
      .ok assessment) (built : commandWindow runtime command = .ok window) :
    assessment.evidenceWindowHash = window.contentHash := by
  obtain ⟨evaluation, -, rfl⟩ := exists_evaluation h
  change windowHash runtime command = window.contentHash
  rw [windowHash, built]

/-- A setup is confirmed with the window of its command, unless the window is refused by an error
that is none of the contract's while the evidence confirms the setup. -/
theorem failsClosed_iff
    (h : evaluateSetup runtime policy command evidence evaluated previous given symbol =
      .ok assessment) :
    FailsClosed runtime command assessment ↔
      ¬ (UnclassifiedRefusal runtime command ∧ ∃ read, Confirms runtime policy command evidence
        evaluated (resolveEvaluationParams given) (resolveMarket runtime symbol) read) := by
  constructor
  · rintro closed ⟨⟨message, refused⟩, confirms⟩
    have confirmed := (confirmed_iff h).mpr confirms
    rcases refused with refused | refused
    · exact closed.refused _ refused confirmed
    · exact closed.refused _ refused confirmed
  · intro sound
    have window : assessment.state = .confirmedSetup →
        ∃ window, commandWindow runtime command = .ok window := by
      intro confirmed
      obtain ⟨read, confirms⟩ := (confirmed_iff h).mp confirmed
      cases built : commandWindow runtime command with
      | ok window => exact ⟨window, rfl⟩
      | error e =>
        exact absurd ⟨unclassifiedRefusal_of_unread built confirms.unread, read, confirms⟩ sound
    constructor
    · intro e refused confirmed
      obtain ⟨window, built⟩ := window confirmed
      cases refused.symm.trans built
    · intro confirmed
      obtain ⟨window, built⟩ := window confirmed
      exact ⟨window, built, evidenceWindowHash_of_built h built⟩

/-- The setup of a command whose observations are all FINAL. -/
theorem setup_failsClosed : ∃ assessment,
    evaluateSetup setupRuntime (setupPolicy .triggerOhlcv) (setupCommand .final)
      (setupEvidence 0 []) setupTime none none none = .ok assessment ∧
      assessment.state = .confirmedSetup ∧
      FailsClosed setupRuntime (setupCommand .final) assessment := by
  obtain ⟨read, confirms⟩ := @setup_confirms .triggerOhlcv 0 [] .final (by simp) (by simp)
    (by simp) (by decide) (by decide)
  obtain ⟨assessment, found, confirmed⟩ := confirmed_of none confirms
  have built : (commandWindow setupRuntime (setupCommand .final)).toOption.isSome = true := by
    decide
  refine ⟨assessment, found, confirmed, (failsClosed_iff found).mpr ?_⟩
  rintro ⟨⟨message, refused⟩, -⟩
  rcases refused with refused | refused
  · rw [refused] at built
    cases built
  · rw [refused] at built
    cases built

/-- A FORMING observation of the trigger refuses the window and leaves the setup confirmed. -/
theorem forming_trigger_confirms : ∃ assessment,
    evaluateSetup setupRuntime (setupPolicy .triggerOhlcv) (setupCommand .forming)
      (setupEvidence 0 []) setupTime none none none = .ok assessment ∧
      ¬ FailsClosed setupRuntime (setupCommand .forming) assessment := by
  obtain ⟨read, confirms⟩ := @setup_confirms .triggerOhlcv 0 [] .forming (by simp) (by simp)
    (by simp) (by decide) (by decide)
  obtain ⟨assessment, found, confirmed⟩ := confirmed_of none confirms
  have refused : (commandWindow setupRuntime (setupCommand .forming)).toOption.isNone = true := by
    decide
  refine ⟨assessment, found, fun closed => ?_⟩
  obtain ⟨window, built, -⟩ := closed.hashed confirmed
  rw [built] at refused
  cases refused

/-! ## Required roles -/

theorem final_of_selectObservation {occupant : PublicMarketObservation × EvidenceRole}
    {item : SelectedPublicObservation} (h : command.selectObservation occupant = .ok item) :
    occupant.1.finality = .final ∧ item.role = occupant.2 := by
  unfold AssessmentCommand.selectObservation at h
  obtain ⟨_, -, h⟩ := bind_eq_ok.mp h
  unfold selectedObservationFromPublic at h
  split at h
  · obtain rfl := Except.ok.inj h
    exact ⟨by assumption, rfl⟩
  · cases h

section Built

variable {window : CanonicalEvidenceWindowV1} {role : EvidenceRole}

/-- Under a window, every observation is FINAL and has a role of its own. -/
theorem occupied_of_selected (built : commandWindow runtime command = .ok window)
    (mem : role ∈ command.selectedRoles) : Occupied command role := by
  obtain ⟨observations, selected, -⟩ := bind_eq_ok.mp built
  unfold AssessmentCommand.selectedObservations at selected
  obtain ⟨_, paired, selected⟩ := bind_eq_ok.mp selected
  rw [ensure_eq_ok] at paired
  obtain ⟨index, inside, rfl⟩ := List.mem_iff_getElem.mp mem
  have occupant : (command.publicObservations[index], command.selectedRoles[index]) ∈
      command.occupants := by
    refine List.mem_iff_getElem.mpr ⟨index, ?_, List.getElem_zip⟩
    rw [AssessmentCommand.occupants, List.length_zip]
    omega
  have result := congrArg (command.selectObservation
    (command.publicObservations[index], command.selectedRoles[index]) ∈ ·) (map_of_mapM selected)
  obtain ⟨item, -, found⟩ := List.mem_map.mp (result.mp (List.mem_map_of_mem occupant))
  exact ⟨_, occupant, (final_of_selectObservation found.symm).1⟩

/-- A window has an observation for every role that its command declares. -/
theorem occupied_of_mandatory (built : commandWindow runtime command = .ok window)
    (mem : role ∈ command.mandatoryEvidenceRoles) : Occupied command role := by
  obtain ⟨observations, selected, built⟩ := bind_eq_ok.mp built
  obtain ⟨assertions, -, built⟩ := bind_eq_ok.mp built
  obtain ⟨timeframe, canonical, refs, accepted, -⟩ := of_build built
  have declared : role ∈ uniqueSortedRoles command.mandatoryEvidenceRoles := by
    simpa [uniqueSortedRoles] using mem
  obtain ⟨item, chosen, rfl⟩ := List.mem_map.mp (accepted.covered.complete role declared)
  have given := mem_of_canonicalObservations accepted.observations item chosen
  unfold AssessmentCommand.selectedObservations at selected
  obtain ⟨_, -, selected⟩ := bind_eq_ok.mp selected
  obtain ⟨occupant, occupies, found⟩ := (mem_of_mapM selected item).mp given
  obtain ⟨final, same⟩ := final_of_selectObservation found
  exact ⟨occupant.1, same ▸ occupies, final⟩

end Built

theorem occupied_of_observationsForRole {role : EvidenceRole}
    {observation : PublicMarketObservation}
    (found : observationsForRole command role = .ok [observation])
    (final : observation.finality = .final) : Occupied command role := by
  obtain ⟨_, -, found⟩ := bind_eq_ok.mp found
  have mem : observation ∈ (command.occupants.filter fun occupant => occupant.2 = role).map
      Prod.fst := by
    rw [Except.ok.inj found]
    exact List.mem_singleton_self observation
  obtain ⟨⟨_, other⟩, occupant, rfl⟩ := List.mem_map.mp mem
  simp only [List.mem_filter, decide_eq_true_eq] at occupant
  obtain ⟨occupies, rfl⟩ := occupant
  exact ⟨_, occupies, final⟩

/-- A gate binds the observation of its role. -/
theorem occupied_of_gated {params : FirstSliceEvaluationParams} {marketSymbol : String}
    {read : Reading} {role : EvidenceRole}
    (confirms : Confirms runtime policy command evidence evaluated params marketSymbol read)
    (required : role ∈ policy.requiredRoles) (gated : IsGated role) : Occupied command role := by
  rcases gated with metric | orderFlow
  · obtain ⟨metric, same⟩ := Option.isSome_iff_exists.mp metric
    obtain ⟨_, -, bindings⟩ := bind_eq_ok.mp confirms.derivatives
    have binding := forM_eq_ok.mp bindings role required
    unfold requireDerivativeBinding at binding
    rw [same] at binding
    dsimp only at binding
    split at binding
    · cases binding
    · obtain ⟨selected, found, binding⟩ := bind_eq_ok.mp binding
      obtain ⟨expected, envelope, binding⟩ := bind_eq_ok.mp binding
      rw [ensure_eq_ok] at binding
      exact occupied_of_observationsForRole (binding ▸ found)
        (finality_of_observationFromDerivative _ envelope)
  · have gate := confirms.orderFlow
    have mem : role ∈ policy.requiredRoles.filter fun role => IsOrderFlowRole role :=
      List.mem_filter.mpr ⟨required, by simpa using orderFlow⟩
    unfold requireBoundOrderFlow at gate
    dsimp only at gate
    rw [if_neg (List.ne_nil_of_mem mem)] at gate
    obtain ⟨item, -, gate⟩ := bind_eq_ok.mp gate
    obtain ⟨_, -, gate⟩ := bind_eq_ok.mp gate
    have binding := forM_eq_ok.mp gate role mem
    obtain ⟨selected, found, binding⟩ := bind_eq_ok.mp binding
    obtain ⟨expected, envelope, binding⟩ := bind_eq_ok.mp binding
    rw [ensure_eq_ok] at binding
    exact occupied_of_observationsForRole (binding ▸ found)
      (finality_of_observationFromOrderFlow _ envelope)

end AlphaTrade.Fusion
