import AlphaTrade.Library.Run
import AlphaTrade.Risk.Governance

/-!
# The risk-policy service

Proposals and versions are append-only. The version in force is not stored: it is
computed at each read from the whole history, and the read cancels every due
loosening it meets whose effective time lies in a breaker window. A cancellation
is committed on its own, so it stays even when the call that made it is refused.

`Action` is every operation that writes these tables, and `step` the store after
one of them; a refused operation writes nothing but its cancellations.
-/
namespace AlphaTrade.Risk
open Library
open Execution (OrganizationId AccountId AccountKey UserId Instant)

abbrev ProposalId := Nat
abbrev VersionId := Nat

/-- `RiskPolicyProposal`. -/
structure Proposal where
  organizationId : OrganizationId
  kind : PolicyKind
  payload : Key → Value
  contentHash : String
  createdAt : Instant

/-- `RiskPolicyVersion`. The limit columns hold the canonical form; the cooldown is
read back from the payload of the proposal, which is the same form. -/
structure Version where
  id : VersionId
  organizationId : OrganizationId
  proposalId : ProposalId
  kind : PolicyKind
  versionNumber : Nat
  canonical : Key → Value
  changeClass : ChangeClass
  effectiveAt : Instant
  createdAt : Instant

/-- `RiskPolicyVersionCancellation`. -/
structure Cancellation where
  organizationId : OrganizationId
  versionId : VersionId
  deriving DecidableEq, Repr

structure Store where
  proposals : Table ProposalId Proposal
  versions : List Version
  cancellations : List Cancellation
  breakers : BreakerTables

def Store.empty : Store := ⟨Table.empty, [], [], ⟨Table.empty, []⟩⟩

/-- What the service takes from outside its tables: the text of an id, the two
hashes, and the user an execution account is bound to. -/
structure Env where
  uuidText : Nat → String
  sha256 : String → String
  profileHash : (Key → Value) → String
  accountOwner : AccountKey → Option UserId

/-! ## Profiles of rows -/

def Value.number? : Value → Option ℚ
  | .number x => some x
  | _ => none

/-- `int(text)`. -/
def Value.int? : Value → Option Int
  | .number x => if x.den = 1 then some x.num else none
  | _ => none

def Value.flag? : Value → Option Bool
  | .flag b => some b
  | _ => none

def Value.name? : Value → Option String
  | .name s => if isProfileName s then some s else none
  | _ => none

def Value.kind? : Value → Option PolicyKind
  | .kind k => some k
  | _ => none

/-- The profile a payload spells, if it spells one. -/
def readCanonical (payload : Key → Value) : Option RiskPolicyProfile := do
  let kind ← (payload .kind).kind?
  let aPlus ← (payload (.riskPercent .aPlus)).number?
  let a ← (payload (.riskPercent .a)).number?
  let bPlus ← (payload (.riskPercent .bPlus)).number?
  let b ← (payload (.riskPercent .b)).number?
  let c ← (payload (.riskPercent .c)).number?
  return {
    kind := kind
    riskPercentByGrade
      | .aPlus => aPlus
      | .a => a
      | .bPlus => bPlus
      | .b => b
      | .c => c
    maxLeverage := ← (payload .maxLeverage).number?
    dailyLossLimitPercent := ← (payload .dailyLossLimitPercent).number?
    maxAggregateOpenRiskPercent := ← (payload .maxAggregateOpenRiskPercent).number?
    maxOpenPositions := ← (payload .maxOpenPositions).int?
    maxNotionalPerTradePercent := ← (payload .maxNotionalPerTradePercent).number?
    maxAggregateNotionalPercent := ← (payload .maxAggregateNotionalPercent).number?
    minStopAtrMultiple := ← (payload .minStopAtrMultiple).number?
    minStopAbsoluteFloor := ← (payload .minStopAbsoluteFloor).number?
    maxCostShareOfR := ← (payload .maxCostShareOfR).number?
    drawdownBreakerPercent := ← (payload .drawdownBreakerPercent).number?
    consecutiveLossLimit := ← (payload .consecutiveLossLimit).int?
    consecutiveLossCooldownHours := ← (payload .consecutiveLossCooldownHours).int?
    autonomousInternalPaperEnabled := ← (payload .autonomousInternalPaperEnabled).flag?
    autonomousBlofinDemoEnabled := ← (payload .autonomousBlofinDemoEnabled).flag?
    profileName := ← (payload .profileName).name?
    defaultLeverage := ← (payload .defaultLeverage).number?
    paperDemoDataCollection := ← (payload .paperDemoDataCollection).flag? }

def profileFromCanonical (payload : Key → Value) : Except PolicyError RiskPolicyProfile :=
  match readCanonical payload with
  | none => .error (.rejected "profile_payload_invalid")
  | some profile => (validateProfile profile).map fun _ => profile

def Version.profile (row : Version) : Except PolicyError RiskPolicyProfile :=
  profileFromCanonical row.canonical

/-! ## The version in force -/

def Store.blocked (store : Store) (row : Version) : Bool :=
  row.changeClass = .loosening &&
    breakerCovered store.breakers.intervals row.organizationId row.effectiveAt

def Store.isCancelled (store : Store) (row : Version) : Bool :=
  ⟨row.organizationId, row.id⟩ ∈ store.cancellations

/-- `_cancel_version`. -/
def Store.cancelVersion (store : Store) (row : Version) : Store :=
  if store.isCancelled row then store
  else { store with
    cancellations := store.cancellations ++ [⟨row.organizationId, row.id⟩] }

/-- The loop of `_active_row` over the due rows, highest version first. The
cancelled versions are read once, before the loop. -/
def Store.pickRow (store : Store) (cancelled : List Cancellation) :
    List Version → Store × Option Version
  | [] => (store, none)
  | row :: rest =>
    if ⟨row.organizationId, row.id⟩ ∈ cancelled then store.pickRow cancelled rest
    else if store.blocked row then (store.cancelVersion row).pickRow cancelled rest
    else (store, some row)

def Store.dueRows (store : Store) (organization : OrganizationId) (kind : PolicyKind)
    (now : Instant) : List Version :=
  (store.versions.filter fun row =>
    row.organizationId = organization ∧ row.kind = kind ∧ row.effectiveAt ≤ now).insertionSort
      fun a b => b.versionNumber ≤ a.versionNumber

def Store.activeRow (store : Store) (organization : OrganizationId) (kind : PolicyKind)
    (now : Instant) : Store × Option Version :=
  store.pickRow store.cancellations (store.dueRows organization kind now)

def profileInForce (kind : PolicyKind) : Option Version → Except PolicyError RiskPolicyProfile
  | none => .ok (placeholderProfile kind)
  | some row => row.profile

def Store.read (store : Store) (organization : OrganizationId) (kind : PolicyKind)
    (now : Instant) : Store × Except PolicyError (RiskPolicyProfile × Option Version) :=
  let active := store.activeRow organization kind now
  (active.1, (profileInForce kind active.2).map (·, active.2))

/-! ## Propose and apply -/

def Store.propose (store : Store) (env : Env) (id : ProposalId) (organization : OrganizationId)
    (actor : PolicyActor) (profile : RiskPolicyProfile) (reason : String) (now : Instant) :
    Except PolicyError Store := do
  assertCanPropose actor
  ensure (3 ≤ (strip reason).length ∧ (strip reason).length ≤ 500) (.rejected "reason_invalid")
  let canonical ← canonicalProfile profile
  ensure (store.proposals.find id = none) .integrity
  return { store with
    proposals := store.proposals.put id
      ⟨organization, profile.kind, canonical, env.profileHash canonical, now⟩ }

/-- Who asks, and the proof that comes with it. -/
structure HumanStep where
  actor : PolicyActor
  proof : Option HumanApplyProof
  ownerUserId : String
  pinnedTelegramChatId : String := ""

def HumanStep.assertCanApply (human : HumanStep) (proposalId contentHash : String)
    (now : Instant) : Except PolicyError Unit :=
  Risk.assertCanApply human.actor human.proof human.ownerUserId human.pinnedTelegramChatId
    proposalId contentHash now

/-- The checks of `apply` before it looks at the profile in force. -/
def Store.checkApply (store : Store) (env : Env) (organization : OrganizationId)
    (proposalId : ProposalId) (human : HumanStep) (promotion : Option PromotionReport)
    (now : Instant) : Except PolicyError (Proposal × RiskPolicyProfile) :=
  match store.proposals.find proposalId with
  | none => .error (.rejected "proposal_not_found")
  | some proposal => do
    ensure (proposal.organizationId = organization) (.rejected "proposal_not_found")
    human.assertCanApply (env.uuidText proposalId) proposal.contentHash now
    ensure (proposalIsExpired proposal.createdAt now = false) (.rejected "proposal_expired")
    let profile ← profileFromCanonical proposal.payload
    assertPromotionAllows profile promotion
    return (proposal, profile)

def Store.nextVersionNumber (store : Store) (organization : OrganizationId) (kind : PolicyKind) :
    Nat :=
  ((store.versions.filter fun row => row.organizationId = organization ∧ row.kind = kind).map
    (·.versionNumber)).foldl max 0 + 1

/-- The version an apply inserts, given the row in force. -/
def Store.decideVersion (store : Store) (id : VersionId) (organization : OrganizationId)
    (proposalId : ProposalId) (proposal : Proposal) (profile : RiskPolicyProfile)
    (previousRow : Option Version) (actor : PolicyActor) (now : Instant) :
    Except PolicyError Version := do
  let previous ← profileInForce proposal.kind previousRow
  let decision ← decideApply actor (some previous) profile now
    (store.breakers.breakerActive organization now) previousRow.isNone
  let canonical ← canonicalProfile profile
  -- the primary key and the unique proposal of the versions table
  ensure (∀ row ∈ store.versions, row.id ≠ id ∧ row.proposalId ≠ proposalId)
    (.rejected "version_conflict")
  return {
    id := id
    organizationId := organization
    proposalId := proposalId
    kind := proposal.kind
    versionNumber := store.nextVersionNumber organization proposal.kind
    canonical := canonical
    changeClass := decision.changeClass
    effectiveAt := decision.effectiveAt
    createdAt := now }

def Store.apply (store : Store) (env : Env) (id : VersionId) (organization : OrganizationId)
    (proposalId : ProposalId) (human : HumanStep) (promotion : Option PromotionReport)
    (now : Instant) : Store × Except PolicyError Version :=
  match store.checkApply env organization proposalId human promotion now with
  | .error refusal => (store, .error refusal)
  | .ok (proposal, profile) =>
    let active := store.activeRow organization proposal.kind now
    match active.1.decideVersion id organization proposalId proposal profile active.2 human.actor
      now with
    | .error refusal => (active.1, .error refusal)
    | .ok version => ({ active.1 with versions := active.1.versions ++ [version] }, .ok version)

/-! ## Resets -/

def Env.resetBinding (env : Env) (what : String) (account : AccountKey) : String × String :=
  let proposalId := what ++ ":" ++ env.uuidText account.2
  (proposalId, env.sha256 proposalId)

def Env.consecutiveResetBinding (env : Env) (account : AccountKey) : String × String :=
  env.resetBinding "consecutive-reset" account

def Env.drawdownResetBinding (env : Env) (account : AccountKey) : String × String :=
  env.resetBinding "drawdown-reset" account

/-- The row a consecutive reset would clear. -/
def Store.checkConsecutiveReset (store : Store) (env : Env) (account : AccountKey)
    (human : HumanStep) (now : Instant) : Except PolicyError BreakerState := do
  let (proposalId, contentHash) := env.consecutiveResetBinding account
  human.assertCanApply proposalId contentHash now
  match store.breakers.states.find account with
  | none => .error (.rejected "consecutive_not_active")
  | some row =>
    if row.consecutiveLosses = 0 ∧ row.consecutivePausedUntil = none then
      .error (.rejected "consecutive_not_active")
    else .ok row

def Store.resetConsecutiveLosses (store : Store) (env : Env) (account : AccountKey)
    (human : HumanStep) (now : Instant) : Except PolicyError Store := do
  let row ← store.checkConsecutiveReset env account human now
  return { store with breakers :=
    { states := store.breakers.states.put account
        { row with consecutiveLosses := 0, consecutivePausedUntil := none }
      intervals := closeBreaker store.breakers.intervals account .consecutive now } }

/-- The row a drawdown reset would clear. -/
def Store.checkDrawdownReset (store : Store) (env : Env) (account : AccountKey)
    (human : HumanStep) (now : Instant) : Except PolicyError BreakerState := do
  ensure (human.actor.channel = .human) (.rejected "drawdown_reset_requires_human")
  let (proposalId, contentHash) := env.drawdownResetBinding account
  human.assertCanApply proposalId contentHash now
  match store.breakers.states.find account with
  | none => .error (.rejected "drawdown_not_latched")
  | some row =>
    if row.drawdownLatched = false then .error (.rejected "drawdown_not_latched")
    else if env.accountOwner account = none then .error (.rejected "drawdown_account_unbound")
    else .ok row

def Store.serverDrawdownPercent (store : Store) (organization : OrganizationId)
    (kind : PolicyKind) (now : Instant) : Store × Except PolicyError ℚ :=
  let found := store.read organization kind now
  (found.1, found.2.bind fun (profile, _) => do
    ensure (0 < profile.drawdownBreakerPercent) (.rejected "drawdown_threshold_uncomputed")
    return profile.drawdownBreakerPercent)

/-- The tighter drawdown threshold of the paper and demo profiles in force. -/
def Store.serverDrawdownBreakerPercent (store : Store) (organization : OrganizationId)
    (now : Instant) : Store × Except PolicyError ℚ :=
  let paper := store.serverDrawdownPercent organization .internalPaper now
  match paper.2 with
  | .error refusal => (paper.1, .error refusal)
  | .ok percent =>
    let demo := paper.1.serverDrawdownPercent organization .demo now
    (demo.1, demo.2.map (min percent))

/-- Equity is back inside the threshold. -/
def checkRecovered (row : BreakerState) (percent : ℚ) (equity : DecimalValue) (now : Instant) :
    Except PolicyError Unit := do
  requireMoney equity "drawdown_equity_uncomputed"
  let verdict ← evaluateBreakers
    { dailyLossLimitPercent := 100
      drawdownBreakerPercent := percent
      consecutiveLossLimit := row.consecutiveLosses + 1 }
    { equity := equity
      equityPeak := row.equityPeak
      referenceEquity := row.equityPeak
      realizedPnlToday := row.realizedPnl.getD (.finite 0)
      unrealizedPnlToday := row.unrealizedPnl.getD (.finite 0)
      consecutiveLosses := 0
      drawdownLatched := false
      now := now }
  ensure (verdict.drawdownActive = false) (.rejected "drawdown_still_active")

def Store.clearDrawdown (store : Store) (account : AccountKey) (row : BreakerState)
    (now : Instant) : Store :=
  { store with breakers :=
    { states := store.breakers.states.put account { row with drawdownLatched := false }
      intervals := closeBreaker store.breakers.intervals account .drawdown now } }

def Store.resetDrawdownLatch (store : Store) (env : Env) (account : AccountKey)
    (human : HumanStep) (equity : DecimalValue) (now : Instant) : Store × Except PolicyError Unit :=
  match store.checkDrawdownReset env account human now with
  | .error refusal => (store, .error refusal)
  | .ok row =>
    let threshold := store.serverDrawdownBreakerPercent account.1 now
    match threshold.2.bind fun percent => checkRecovered row percent equity now with
    | .error refusal => (threshold.1, .error refusal)
    | .ok () => (threshold.1.clearDrawdown account row now, .ok ())

/-! ## The system -/

/-- Every operation that writes the tables. Figures, ids and the clock are inputs. -/
inductive Action where
  | propose (id : ProposalId) (organization : OrganizationId) (actor : PolicyActor)
      (profile : RiskPolicyProfile) (reason : String) (now : Instant)
  | apply (id : VersionId) (organization : OrganizationId) (proposalId : ProposalId)
      (human : HumanStep) (promotion : Option PromotionReport) (now : Instant)
  | read (organization : OrganizationId) (kind : PolicyKind) (now : Instant)
  | recordBreaker (account : AccountKey) (record : BreakerRecord) (now : Instant)
  | tripBreakers (account : AccountKey) (config : BreakerConfig) (snapshot : BreakerSnapshot)
      (now : Instant) (existingConsecutive existingDaily : Option Instant) (cooldownHours : Int)
  | persistProfileBreakers (account : AccountKey) (profile : RiskPolicyProfile)
      (daily : DailyFigures) (now : Instant) (consecutiveLosses : Option Int)
  | latchDrawdown (account : AccountKey) (equityPeak : DecimalValue) (now : Instant)
  | resetConsecutiveLosses (account : AccountKey) (human : HumanStep) (now : Instant)
  | resetDrawdownLatch (account : AccountKey) (human : HumanStep) (equity : DecimalValue)
      (now : Instant)

def Action.now : Action → Instant
  | .propose _ _ _ _ _ now | .apply _ _ _ _ _ now | .read _ _ now | .recordBreaker _ _ now
  | .tripBreakers _ _ _ now _ _ _ | .persistProfileBreakers _ _ _ now _ | .latchDrawdown _ _ now
  | .resetConsecutiveLosses _ _ now | .resetDrawdownLatch _ _ _ now => now

def Store.orKeep (store : Store) : Except PolicyError Store → Store
  | .ok next => next
  | .error _ => store

def Store.orKeepBreakers (store : Store) : Except PolicyError BreakerTables → Store
  | .ok breakers => { store with breakers := breakers }
  | .error _ => store

def step (env : Env) (store : Store) : Action → Store
  | .propose id organization actor profile reason now =>
    store.orKeep (store.propose env id organization actor profile reason now)
  | .apply id organization proposalId human promotion now =>
    (store.apply env id organization proposalId human promotion now).1
  | .read organization kind now => (store.read organization kind now).1
  | .recordBreaker account record now =>
    { store with breakers := store.breakers.recordBreaker account record now }
  | .tripBreakers account config snapshot now existingConsecutive existingDaily cooldownHours =>
    store.orKeepBreakers ((store.breakers.tripBreakers account config snapshot now
      existingConsecutive existingDaily cooldownHours).map (·.1))
  | .persistProfileBreakers account profile daily now consecutiveLosses =>
    store.orKeepBreakers ((store.breakers.persistProfileBreakers account profile daily now
      consecutiveLosses).map (·.1))
  | .latchDrawdown account equityPeak now =>
    { store with breakers := store.breakers.latchDrawdown account equityPeak now }
  | .resetConsecutiveLosses account human now =>
    store.orKeep (store.resetConsecutiveLosses env account human now)
  | .resetDrawdownLatch account human equity now =>
    (store.resetDrawdownLatch env account human equity now).1

end AlphaTrade.Risk
