import AlphaTrade.Risk.Breakers

/-!
# Who may change a profile, and when the change takes effect

Agents, bots and service tokens may not apply. An apply and a reset need a fresh
proof of the configured owner, bound to one proposal and its hash. A tightening
takes effect at once; a loosening waits and is refused while a breaker is active.
-/
namespace AlphaTrade.Risk
open Library
open Execution (AccountId Instant)

def microsecondsPerMinute : Int := 60 * 1000000

def proposalTtl : Int := 72 * microsecondsPerHour

def freshProof : Int := 15 * microsecondsPerMinute

def telegramProofMaxAge : Int := 5 * microsecondsPerMinute

inductive PolicyChannel where
  | human | agent | bot | service | undeclared
  deriving DecidableEq, Repr

structure PolicyActor where
  actorId : String
  channel : PolicyChannel
  authenticated : Bool
  deriving DecidableEq, Repr

/-- Proof that is not the apply request body, bound to one proposal hash. -/
structure HumanApplyProof where
  method : String
  subjectUserId : String
  proposalId : String
  contentHash : String
  expiresAt : Instant
  issuedAt : Option Instant := none
  sessionId : Option String := none
  authenticatedAt : Option Instant := none
  stepUpAt : Option Instant := none
  telegramChatId : Option String := none
  telegramConfirmationId : Option String := none
  deriving DecidableEq, Repr

def assertCanPropose (actor : PolicyActor) : Except PolicyError Unit := do
  ensure (actor.authenticated ∧ actor.actorId ≠ "") (.rejected "actor_unauthenticated")
  ensure (actor.channel ≠ .service) (.rejected "service_token_refused")
  ensure (actor.channel ≠ .undeclared) (.rejected "actor_undeclared")

/-- `not value` of an optional text. -/
def isMissing (value : Option String) : Bool := value.all (· = "")

def requireFreshStepUp (proof : HumanApplyProof) (now : Instant) : Except PolicyError Unit :=
  match proof.authenticatedAt, proof.stepUpAt with
  | some authenticatedAt, some stepUpAt => do
    ensure (isMissing proof.sessionId = false) (.rejected "apply_proof_not_fresh")
    ensure (authenticatedAt ≤ now ∧ stepUpAt ≤ now) (.rejected "apply_proof_not_fresh")
    ensure (authenticatedAt ≤ stepUpAt) (.rejected "apply_proof_not_fresh")
    ensure (now - authenticatedAt ≤ freshProof ∧ now - stepUpAt ≤ freshProof)
      (.rejected "apply_proof_not_fresh")
  | _, _ => .error (.rejected "apply_proof_not_fresh")

def requireFreshTelegram (proof : HumanApplyProof) (now : Instant) : Except PolicyError Unit :=
  match proof.issuedAt with
  | none => .error (.rejected "apply_proof_not_fresh")
  | some issued => ensure (issued ≤ now ∧ now - issued ≤ telegramProofMaxAge)
      (.rejected "apply_proof_not_fresh")

def requireMethod (proof : HumanApplyProof) (pinnedTelegramChatId : String) (now : Instant) :
    Except PolicyError Unit :=
  if proof.method = "interactive_step_up" then requireFreshStepUp proof now
  else if proof.method = "telegram_owner" then do
    ensure (pinnedTelegramChatId ≠ "" ∧ proof.telegramChatId = some pinnedTelegramChatId)
      (.rejected "apply_proof_chat_mismatch")
    ensure (isMissing proof.telegramConfirmationId = false) (.rejected "apply_proof_chat_mismatch")
    requireFreshTelegram proof now
  else .error (.rejected "apply_proof_missing")

/-- The proof is for this owner and this proposal and has not expired. -/
def requireProof (proof : Option HumanApplyProof) (ownerUserId pinnedTelegramChatId proposalId
    contentHash : String) (now : Instant) : Except PolicyError Unit :=
  match proof with
  | none => .error (.rejected "apply_proof_missing")
  | some proof => do
    ensure (proof.subjectUserId ≠ "" ∧ proof.proposalId ≠ "" ∧ proof.contentHash ≠ "")
      (.rejected "apply_proof_missing")
    ensure (proof.subjectUserId = ownerUserId) (.rejected "apply_owner_mismatch")
    ensure (now < proof.expiresAt) (.rejected "apply_proof_expired")
    ensure (proof.proposalId = proposalId ∧ proof.contentHash = contentHash)
      (.rejected "apply_proof_proposal_mismatch")
    requireMethod proof pinnedTelegramChatId now

def refuseTokens (actor : PolicyActor) : Except PolicyError Unit := do
  ensure (actor.channel ≠ .agent) (.rejected "apply_refuses_agent_token")
  ensure (actor.channel ≠ .service) (.rejected "apply_refuses_service_token")
  ensure (actor.channel ≠ .bot) (.rejected "apply_refuses_bot_token")

def assertCanApply (actor : PolicyActor) (proof : Option HumanApplyProof)
    (ownerUserId pinnedTelegramChatId proposalId contentHash : String) (now : Instant) :
    Except PolicyError Unit := do
  refuseTokens actor
  ensure (actor.authenticated ∧ actor.actorId ≠ "") (.rejected "apply_requires_human_proof")
  ensure (ownerUserId ≠ "" ∧ actor.actorId = ownerUserId) (.rejected "apply_owner_mismatch")
  requireProof proof ownerUserId pinnedTelegramChatId proposalId contentHash now

/-- What the proof of a person says when `assert_can_apply` accepts it. -/
structure OwnerProof (actor : PolicyActor) (proof : Option HumanApplyProof) (ownerUserId : String)
    (now : Instant) : Prop where
  channel : actor.channel = .human ∨ actor.channel = .undeclared
  authenticated : actor.authenticated = true
  owner : actor.actorId = ownerUserId
  proof : ∃ given, proof = some given ∧ given.subjectUserId = ownerUserId ∧ now < given.expiresAt

theorem ownerProof_of_assertCanApply {actor : PolicyActor} {proof : Option HumanApplyProof}
    {ownerUserId pinnedTelegramChatId proposalId contentHash : String} {now : Instant}
    (h : assertCanApply actor proof ownerUserId pinnedTelegramChatId proposalId contentHash now =
      .ok ()) : OwnerProof actor proof ownerUserId now := by
  simp only [assertCanApply, refuseTokens, bind_eq_ok, ensure_eq_ok, exists_const] at h
  obtain ⟨⟨agent, service, bot⟩, ⟨signedIn, -⟩, ⟨-, owner⟩, given⟩ := h
  refine ⟨?_, signedIn, owner, ?_⟩
  · cases channel : actor.channel <;> simp_all
  · cases proof with
    | none => cases given
    | some given' =>
      simp only [requireProof, bind_eq_ok, ensure_eq_ok, exists_const] at given
      exact ⟨given', rfl, given.2.1, given.2.2.1⟩

def proposalIsExpired (createdAt now : Instant) : Bool := proposalTtl < now - createdAt

structure ApplyDecision where
  changeClass : ChangeClass
  effectiveAt : Instant
  diff : List Change

def effectiveAtOf (change : ChangeClass) (now : Instant) (breakerActive : Bool) :
    Except PolicyError Instant :=
  if change = .loosening then do
    ensure (breakerActive = false) (.rejected "loosening_blocked_by_breaker")
    return looseningEffectiveAt now
  else .ok now

/-- The effect of an apply that has passed the human proof. -/
def decideApply (actor : PolicyActor) (previous : Option RiskPolicyProfile)
    (proposed : RiskPolicyProfile) (now : Instant) (breakerActive firstStore : Bool) :
    Except PolicyError ApplyDecision := do
  refuseTokens actor
  validateProfile proposed
  ensure (∀ prior ∈ previous, prior.kind = proposed.kind) (.rejected "kind_mismatch")
  let change ← classifyChange previous proposed (if firstStore then some .initial else none)
  let effectiveAt ← effectiveAtOf change now breakerActive
  let diff ← profileDiff previous proposed
  return ⟨change, effectiveAt, diff⟩

end AlphaTrade.Risk
