import AlphaTrade.SignalFusion.Epochs

/-!
# The validity of a cached eligibility

An eligible answer ends at the earliest of three expiries. These are the only places where the
decision reads the clock, so until then the same command would be decided the same way, and
from then on the answer is not actionable. A cached answer was built from a command with the
same digest, which carries the same facts as long as no two digests collide.
-/
namespace AlphaTrade.SignalFusion
open Library
open Execution (Instant)

def ActionEligibilityEvaluation.currentlyPaperActionable
    (evaluation : ActionEligibilityEvaluation) (now : Instant) : Bool :=
  evaluation.paperActionable &&
    (evaluation.eligibility.state = .eligible && now < evaluation.eligibility.validUntil)

/-! ## The clock of a decision -/

namespace ActionEligibilityCommand

def Unexpired (command : ActionEligibilityCommand) (now : Instant) : Prop :=
  now < command.candidate.validUntil ∧ now < command.assessment.validUntil ∧
    now < command.marketAction.actionEvidenceValidUntil

/-- What a decision reads of a command. -/
structure SameFacts (first second : ActionEligibilityCommand) : Prop where
  account : first.account = second.account
  portfolio : first.portfolio = second.portfolio
  risk : first.risk = second.risk
  safety : first.safety = second.safety
  marketAction : first.marketAction = second.marketAction
  configuration : first.configuration = second.configuration
  organizationId : first.candidate.organizationId = second.candidate.organizationId
  candidateState : first.candidate.state = second.candidate.state
  candidateValidUntil : first.candidate.validUntil = second.candidate.validUntil
  assessmentState : first.assessment.state = second.assessment.state
  assessmentValidUntil : first.assessment.validUntil = second.assessment.validUntil

variable {limits : RiskLimits} {command first second : ActionEligibilityCommand}
  {now t : Instant}

theorem SameFacts.unexpired (same : SameFacts first second) :
    first.Unexpired now ↔ second.Unexpired now := by
  unfold Unexpired
  rw [same.candidateValidUntil, same.assessmentValidUntil, same.marketAction]

theorem SameFacts.dominantReason (same : SameFacts first second) :
    SignalFusion.dominantReason limits first now =
      SignalFusion.dominantReason limits second now := by
  have blocks : killSwitchBlocks first = killSwitchBlocks second := by
    unfold killSwitchBlocks
    rw [same.safety]
  have mismatch : actingScopeMismatch first = actingScopeMismatch second := by
    unfold actingScopeMismatch
    rw [same.account, same.organizationId, same.risk, same.portfolio, same.safety]
  have stale : actionEvidenceStale first now = actionEvidenceStale second now := by
    unfold actionEvidenceStale
    rw [same.marketAction]
  have basis : basisReason first = basisReason second := by
    unfold basisReason
    rw [same.marketAction]
  have risk : riskReason limits first = riskReason limits second := by
    unfold riskReason checkDailyLossLock
    rw [same.risk, same.portfolio]
  unfold SignalFusion.dominantReason
  rw [blocks, mismatch, stale, basis, risk, same.account, same.configuration,
    same.assessmentState, same.candidateState, same.candidateValidUntil,
    same.assessmentValidUntil]

/-- Nothing is refused only for a paper configuration, and while every expiry is ahead. -/
theorem clear_of_dominantReason (clear : dominantReason limits command now = .ok none) :
    command.configuration.isPaperOnly = true ∧ command.Unexpired now := by
  unfold dominantReason at clear
  iterate 2
    split at clear
    · cases clear
  split at clear
  · cases clear
  rename_i fresh
  split at clear
  · cases clear
  rename_i paper
  iterate 2
    split at clear
    · cases clear
  split at clear
  · cases clear
  rename_i current
  simp only [actionEvidenceStale, Bool.or_eq_true, decide_eq_true_eq, not_or, not_le] at fresh
  simp only [Bool.or_eq_true, decide_eq_true_eq, not_or, not_le] at current
  exact ⟨by simpa using paper, current.1, current.2, fresh.1.2⟩

/-- While every expiry is ahead, the decision does not depend on the time. -/
theorem dominantReason_of_unexpired (ahead : command.Unexpired now)
    (later : command.Unexpired t) :
    dominantReason limits command t = dominantReason limits command now := by
  have stale : actionEvidenceStale command t = actionEvidenceStale command now := by
    simp only [actionEvidenceStale, decide_eq_false (not_le.mpr ahead.2.2),
      decide_eq_false (not_le.mpr later.2.2)]
  have expired : ∀ s : Instant, command.Unexpired s →
      ¬ (decide (command.candidate.validUntil ≤ s) ||
        decide (command.assessment.validUntil ≤ s)) = true := fun s open' => by
    simp [open'.1, open'.2.1]
  unfold dominantReason
  rw [stale, if_neg (expired t later), if_neg (expired now ahead)]

/-- The validity ends with the first expiry. -/
theorem lt_actionValidUntil_iff (ahead : command.Unexpired now) :
    t < actionValidUntil command now ↔ command.Unexpired t := by
  obtain ⟨candidate, assessment, evidence⟩ := ahead
  have all : [command.candidate.validUntil, command.assessment.validUntil,
      command.marketAction.actionEvidenceValidUntil].filter (now < ·) =
        [command.candidate.validUntil, command.assessment.validUntil,
          command.marketAction.actionEvidenceValidUntil] := by
    simp [candidate, assessment, evidence]
  simp [actionValidUntil, all, Unexpired]

end ActionEligibilityCommand

/-! ## What the store answers -/

namespace ActionEligibilityStore

variable {digests : EligibilityDigests} {limits : RiskLimits}
  {store store' : ActionEligibilityStore}
  {command : ActionEligibilityCommand} {now : Instant}
  {evaluation : ActionEligibilityEvaluation}

def Built (digests : EligibilityDigests) (limits : RiskLimits)
    (evaluation : ActionEligibilityEvaluation) (call : ActionEligibilityCommand × Instant) : Prop :=
  digests.validateLineage call.1 = .ok () ∧
    ∃ revision, digests.buildEvaluation limits call.1 call.2 (digests.uniquenessHash call.1)
      revision = .ok evaluation

variable {digest : Sha256Hex}

/-- The stored answers, after an evaluation, are those from before and perhaps the one that it
has built. -/
theorem stored_of_evaluate
    (stored : (store.evaluate digests limits command now).2.byUniqueness.find digest =
      some evaluation) :
    store.byUniqueness.find digest = some evaluation ∨
      digest = digests.uniquenessHash command ∧
        Built digests limits evaluation (command, now) := by
  unfold evaluate getOrInsert at stored
  dsimp only at stored
  split at stored
  · exact .inl stored
  rename_i traced
  split at stored
  · exact .inl stored
  split at stored
  · exact .inl stored
  split at stored
  · exact .inl stored
  rename_i produced built
  split at stored
  · exact .inl stored
  · obtain ⟨rfl, rfl⟩ | ⟨-, before⟩ := Table.find_put_cases stored
    · exact .inr ⟨rfl, traced, _, built⟩
    · exact .inl before

/-- An answer is the stored one or is built for the command. -/
theorem answer_of_evaluate
    (answered : (store.evaluate digests limits command now).1 = .ok evaluation) :
    digests.validateLineage command = .ok () ∧
      (store.byUniqueness.find (digests.uniquenessHash command) = some evaluation ∨
        Built digests limits evaluation (command, now)) := by
  unfold evaluate getOrInsert at answered
  dsimp only at answered
  split at answered
  · cases answered
  rename_i traced
  refine ⟨traced, ?_⟩
  split at answered
  · rename_i existing found
    obtain rfl := Except.ok.inj answered
    exact .inl found
  split at answered
  · cases answered
  split at answered
  · cases answered
  rename_i produced built
  split at answered
  · cases answered
  · obtain rfl := Except.ok.inj answered
    exact .inr ⟨traced, _, built⟩

def served (digests : EligibilityDigests) (limits : RiskLimits)
    (calls : List (ActionEligibilityCommand × Instant)) : ActionEligibilityStore :=
  run (fun store call => (store.evaluate digests limits call.1 call.2).2) .empty calls

/-- Every stored answer was built by a call of the history that has its digest. -/
theorem built_of_served (calls : List (ActionEligibilityCommand × Instant))
    (stored : (served digests limits calls).byUniqueness.find digest = some evaluation) :
    ∃ call ∈ calls, digest = digests.uniquenessHash call.1 ∧
      Built digests limits evaluation call := by
  induction calls using List.reverseRecOn with
  | nil => simp [served, empty] at stored
  | append_singleton calls call ih =>
    rw [served, run_append, run_cons, run_nil] at stored
    obtain before | ⟨rfl, built⟩ := stored_of_evaluate stored
    · obtain ⟨earlier, listed, same⟩ := ih before
      exact ⟨earlier, List.mem_append_left _ listed, same⟩
    · exact ⟨call, by simp, rfl, built⟩

end ActionEligibilityStore

/-! ## Digests -/

namespace EligibilityDigests

variable {digests : EligibilityDigests} {first second : ActionEligibilityCommand}

/-- The digests of two commands collide nowhere. The content hashes tell apart the fields that
are hashed, which are not all fields. -/
structure Separates (digests : EligibilityDigests) (first second : ActionEligibilityCommand) :
    Prop where
  uniqueness : digests.uniquenessHash first = digests.uniquenessHash second →
    uniquenessPreimage first = uniquenessPreimage second
  assessment : digests.assessmentHash { first.assessment with contentHash := 0 } =
      digests.assessmentHash { second.assessment with contentHash := 0 } →
    first.assessment.state = second.assessment.state ∧
      first.assessment.validUntil = second.assessment.validUntil
  candidate : digests.candidateHash { first.candidate.toCandidatePayload with contentHash := 0 } =
      digests.candidateHash { second.candidate.toCandidatePayload with contentHash := 0 } →
    first.candidate.organizationId = second.candidate.organizationId ∧
      first.candidate.state = second.candidate.state ∧
      first.candidate.validUntil = second.candidate.validUntil

/-- A command that passed the lineage check carries the digests of its records. -/
theorem contentHash_of_validateLineage (traced : digests.validateLineage first = .ok ()) :
    first.assessment.contentHash =
        digests.assessmentHash { first.assessment with contentHash := 0 } ∧
      first.candidate.contentHash =
        digests.candidateHash { first.candidate.toCandidatePayload with contentHash := 0 } := by
  simp only [validateLineage, bind_eq_ok, ensure_eq_ok] at traced
  obtain ⟨-, -, -, assessment, -, candidate, -⟩ := traced
  exact ⟨assessment, candidate⟩

/-- Commands with one digest have the same facts. -/
theorem Separates.sameFacts (apart : digests.Separates first second)
    (traced : digests.validateLineage first = .ok ())
    (traced' : digests.validateLineage second = .ok ())
    (same : digests.uniquenessHash first = digests.uniquenessHash second) :
    first.SameFacts second := by
  have preimage := apart.uniqueness same
  simp only [uniquenessPreimage, UniquenessPreimage.mk.injEq] at preimage
  obtain ⟨account, assessmentHash, -, candidateHash, -, -, configuration, -, marketAction,
    portfolio, risk, safety⟩ := preimage
  obtain ⟨ofAssessment, ofCandidate⟩ := contentHash_of_validateLineage traced
  obtain ⟨ofAssessment', ofCandidate'⟩ := contentHash_of_validateLineage traced'
  obtain ⟨assessmentState, assessmentValidUntil⟩ :=
    apart.assessment (ofAssessment ▸ ofAssessment' ▸ assessmentHash)
  obtain ⟨organizationId, candidateState, candidateValidUntil⟩ :=
    apart.candidate (ofCandidate ▸ ofCandidate' ▸ candidateHash)
  exact ⟨account, portfolio, risk, safety, marketAction, configuration, organizationId,
    candidateState, candidateValidUntil, assessmentState, assessmentValidUntil⟩

/-- What an evaluation that is built eligible says. -/
theorem eligible_of_built {limits : RiskLimits} {evaluation : ActionEligibilityEvaluation}
    {call : ActionEligibilityCommand × Instant}
    (built : ActionEligibilityStore.Built digests limits evaluation call)
    (eligible : evaluation.eligibility.state = .eligible) :
    dominantReason limits call.1 call.2 = .ok none ∧
      evaluation.eligibility.validUntil = actionValidUntil call.1 call.2 ∧
      evaluation.paperActionable = true := by
  obtain ⟨-, revision, built⟩ := built
  obtain ⟨reason, decision, made⟩ := bind_eq_ok.mp built
  obtain rfl := Except.ok.inj made
  have unrefused : reason = none := by
    cases reason with
    | none => rfl
    | some reason => cases reason <;> cases eligible
  subst unrefused
  exact ⟨decision, rfl, by
    simp [decided, (ActionEligibilityCommand.clear_of_dominantReason decision).1]⟩

end EligibilityDigests

/-! ## Validity -/

/-- An eligible answer, cached or not, holds as long as it is valid: the command is refused at
no time before the validity ends, and the answer is actionable exactly until then. So it
outlives none of the expiries. -/
theorem eligible_while_valid {digests : EligibilityDigests} {limits : RiskLimits}
    {calls : List (ActionEligibilityCommand × Instant)} {command : ActionEligibilityCommand}
    {start : Instant} {evaluation : ActionEligibilityEvaluation}
    (apart : ∀ call ∈ calls, digests.Separates command call.1)
    (answered : ((ActionEligibilityStore.served digests limits calls).evaluate digests limits
      command start).1 = .ok evaluation)
    (eligible : evaluation.eligibility.state = .eligible) :
    (∀ t, start ≤ t → t < evaluation.eligibility.validUntil →
        dominantReason limits command t = .ok none) ∧
      (∀ t, evaluation.currentlyPaperActionable t = true ↔
        t < evaluation.eligibility.validUntil) ∧
      ∀ t, evaluation.currentlyPaperActionable t = true → command.Unexpired t := by
  -- The answer was built for a command with the same facts.
  obtain ⟨call, same, built⟩ : ∃ call : ActionEligibilityCommand × Instant,
      command.SameFacts call.1 ∧ ActionEligibilityStore.Built digests limits evaluation call := by
    obtain ⟨traced, stored | built⟩ := ActionEligibilityStore.answer_of_evaluate answered
    · obtain ⟨call, listed, digest, built⟩ := ActionEligibilityStore.built_of_served calls stored
      exact ⟨call, (apart call listed).sameFacts traced built.1 digest, built⟩
    · exact ⟨(command, start), ⟨rfl, rfl, rfl, rfl, rfl, rfl, rfl, rfl, rfl, rfl, rfl⟩, built⟩
  obtain ⟨decision, ends, actionable⟩ := EligibilityDigests.eligible_of_built built eligible
  have ahead := (ActionEligibilityCommand.clear_of_dominantReason decision).2
  have valid : ∀ t, t < evaluation.eligibility.validUntil ↔ command.Unexpired t := fun t => by
    rw [ends, ActionEligibilityCommand.lt_actionValidUntil_iff ahead, same.unexpired]
  have served : ∀ t, evaluation.currentlyPaperActionable t = true ↔
      t < evaluation.eligibility.validUntil := fun t => by
    simp [ActionEligibilityEvaluation.currentlyPaperActionable, actionable, eligible]
  refine ⟨fun t _ sooner => ?_, served, fun t now => (valid t).mp ((served t).mp now)⟩
  have later := same.unexpired.mp ((valid t).mp sooner)
  rw [same.dominantReason, ActionEligibilityCommand.dominantReason_of_unexpired ahead later,
    decision]

/-- A command that is evaluated again is answered from the store. -/
theorem cached_sample_while_valid :
    ∃ evaluation,
      ((ActionEligibilityStore.served sampleDigests .default
        [(sampleCommand (sampleSafety 1 false), 0)]).evaluate sampleDigests .default
          (sampleCommand (sampleSafety 1 false)) 0).1 = .ok evaluation ∧
      evaluation.eligibility.state = .eligible ∧
      ∀ t, evaluation.currentlyPaperActionable t = true ↔
        t < evaluation.eligibility.validUntil := by
  have sample : ((ActionEligibilityStore.served sampleDigests .default
      [(sampleCommand (sampleSafety 1 false), 0)]).evaluate sampleDigests .default
        (sampleCommand (sampleSafety 1 false)) 0).1.toOption.any
          (·.eligibility.state = .eligible) = true := by decide +kernel
  obtain ⟨evaluation, found, eligible⟩ := (Option.any_eq_true ..).mp sample
  have answered := toOption_eq_some.mp found
  have eligible := of_decide_eq_true eligible
  have apart : ∀ call ∈ [(sampleCommand (sampleSafety 1 false), (0 : Instant))],
      sampleDigests.Separates (sampleCommand (sampleSafety 1 false)) call.1 := by
    intro call listed
    obtain rfl := List.mem_singleton.mp listed
    exact ⟨fun _ => rfl, fun _ => ⟨rfl, rfl⟩, fun _ => ⟨rfl, rfl, rfl⟩⟩
  exact ⟨evaluation, answered, eligible, (eligible_while_valid apart answered eligible).2.1⟩

end AlphaTrade.SignalFusion
