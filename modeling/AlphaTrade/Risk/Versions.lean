import Mathlib.Data.List.Pairwise
import AlphaTrade.Risk.Coverage

/-!
# The version in force

`_active_row` walks the due rows of a kind from the highest version down, skips the
cancelled ones and cancels those that a breaker window blocks. What it returns is the
highest eligible row. A row that is not a loosening is never cancelled or blocked, so
once it is in force only a higher version can replace it.

`step_versions` says once what an operation does to the history of versions: it may
cancel rows that are blocked, and an accepted apply then appends one version.
-/
namespace AlphaTrade.Risk
open Library
open Execution (OrganizationId AccountKey Instant)

/-! ## Canonical forms -/

theorem quantizeHalfEven_idem (places : Nat) (x : ℚ) :
    quantizeHalfEven places (quantizeHalfEven places x) = quantizeHalfEven places x := by
  have whole : ∀ n : Int, quantizeHalfEven places (n / 10 ^ places) = n / 10 ^ places := by
    intro n
    have scale : (10 : ℚ) ^ places ≠ 0 := by positivity
    simp [quantizeHalfEven, div_mul_cancel₀ _ scale]
  obtain ⟨n, eq⟩ : ∃ n : Int, quantizeHalfEven places x = n / 10 ^ places := ⟨_, rfl⟩
  rw [eq, whole]

/-- The profile that the canonical form of a profile spells. -/
def RiskPolicyProfile.rounded (profile : RiskPolicyProfile) : RiskPolicyProfile :=
  { profile with
    riskPercentByGrade := fun grade => quantizeHalfEven 8 (profile.riskPercentByGrade grade)
    maxLeverage := quantizeHalfEven 8 profile.maxLeverage
    dailyLossLimitPercent := quantizeHalfEven 8 profile.dailyLossLimitPercent
    maxAggregateOpenRiskPercent := quantizeHalfEven 8 profile.maxAggregateOpenRiskPercent
    maxNotionalPerTradePercent := quantizeHalfEven 8 profile.maxNotionalPerTradePercent
    maxAggregateNotionalPercent := quantizeHalfEven 8 profile.maxAggregateNotionalPercent
    minStopAtrMultiple := quantizeHalfEven 8 profile.minStopAtrMultiple
    minStopAbsoluteFloor := quantizeHalfEven 8 profile.minStopAbsoluteFloor
    maxCostShareOfR := quantizeHalfEven 8 profile.maxCostShareOfR
    drawdownBreakerPercent := quantizeHalfEven 8 profile.drawdownBreakerPercent
    autonomousInternalPaperEnabled := false
    autonomousBlofinDemoEnabled := false
    defaultLeverage := quantizeHalfEven 8 profile.defaultLeverage }

theorem readCanonical_entry (profile : RiskPolicyProfile)
    (named : isProfileName profile.profileName) :
    readCanonical profile.entry = some profile.rounded := by
  simp [readCanonical, RiskPolicyProfile.entry, text, Value.number?, Value.int?, Value.flag?,
    Value.name?, Value.kind?, named, RiskPolicyProfile.rounded]
  funext grade
  cases grade <;> rfl

theorem readCanonical_entry_unnamed (profile : RiskPolicyProfile)
    (unnamed : ¬isProfileName profile.profileName) : readCanonical profile.entry = none := by
  simp [readCanonical, RiskPolicyProfile.entry, text, Value.number?, Value.int?, Value.flag?,
    Value.name?, Value.kind?, unnamed]

theorem atEightPlaces_rounded (profile : RiskPolicyProfile) : AtEightPlaces profile.rounded := by
  simp [AtEightPlaces, RiskPolicyProfile.decimals, gradeOrder, RiskPolicyProfile.rounded,
    quantizeHalfEven_idem]

theorem rounded_rounded (profile : RiskPolicyProfile) :
    profile.rounded.rounded = profile.rounded := by
  simp [RiskPolicyProfile.rounded, quantizeHalfEven_idem]

theorem atEightPlaces_placeholder (kind : PolicyKind) :
    AtEightPlaces (placeholderProfile kind) := by
  cases kind <;> decide +kernel

/-- A payload that a proposal holds spells a profile at eight places, and that profile
is spelled back by its own canonical form. -/
theorem profileFromCanonical_entry {profile found : RiskPolicyProfile}
    (h : profileFromCanonical profile.entry = .ok found) :
    AtEightPlaces found ∧ validateProfile found = .ok () ∧
      profileFromCanonical found.entry = .ok found := by
  by_cases named : isProfileName profile.profileName
  · simp only [profileFromCanonical, readCanonical_entry profile named, map_eq_ok] at h
    obtain ⟨_, valid, rfl⟩ := h
    refine ⟨atEightPlaces_rounded profile, valid, ?_⟩
    simp only [profileFromCanonical, readCanonical_entry profile.rounded named, rounded_rounded,
      valid]
    rfl
  · simp [profileFromCanonical, readCanonical_entry_unnamed profile named] at h

/-! ## Eligible rows -/

def Store.eligible (store : Store) (row : Version) : Bool :=
  !store.isCancelled row && !store.blocked row

variable {store next : Store} {organization : OrganizationId} {kind : PolicyKind}
  {now : Instant} {row : Version}

theorem blocked_iff : store.blocked row = true ↔ row.changeClass = .loosening ∧
    breakerCovered store.breakers.intervals row.organizationId row.effectiveAt = true := by
  simp only [Store.blocked, Bool.and_eq_true, decide_eq_true_eq]

theorem eligible_iff :
    store.eligible row = true ↔ store.isCancelled row = false ∧ store.blocked row = false := by
  simp only [Store.eligible, Bool.and_eq_true, Bool.not_eq_true']

theorem blocked_congr {other : Store} (same : other.breakers = store.breakers) (row : Version) :
    other.blocked row = store.blocked row := by
  simp only [Store.blocked, same]

theorem pickRow_snd (store : Store) (cancelled : List Cancellation) (rows : List Version) :
    (store.pickRow cancelled rows).2 = rows.find? fun row =>
      !(decide (⟨row.organizationId, row.id⟩ ∈ cancelled)) && !store.blocked row := by
  induction rows generalizing store with
  | nil => rfl
  | cons row rest ih =>
    simp only [Store.pickRow, List.find?_cons]
    split_ifs with known blocked
    · simp [known, ih]
    · simp only [blocked, known, ih, blocked_congr (cancelVersion_breakers store row)]
      simp
    · simp [known, blocked]

/-- The row in force is the first eligible one. -/
theorem activeRow_snd (store : Store) (organization : OrganizationId) (kind : PolicyKind)
    (now : Instant) : (store.activeRow organization kind now).2 =
      (store.dueRows organization kind now).find? store.eligible :=
  pickRow_snd store store.cancellations (store.dueRows organization kind now)

/-- A row of a kind whose effective time has come. -/
structure Due (store : Store) (organization : OrganizationId) (kind : PolicyKind) (now : Instant)
    (row : Version) : Prop where
  listed : row ∈ store.versions
  own : row.organizationId = organization
  sort : row.kind = kind
  due : row.effectiveAt ≤ now

theorem mem_dueRows : row ∈ store.dueRows organization kind now ↔
    Due store organization kind now row := by
  simp only [Store.dueRows, List.mem_insertionSort, List.mem_filter, decide_eq_true_eq]
  exact ⟨fun ⟨listed, own, sort, due⟩ => ⟨listed, own, sort, due⟩,
    fun ⟨listed, own, sort, due⟩ => ⟨listed, own, sort, due⟩⟩

theorem dueRows_sorted (store : Store) (organization : OrganizationId) (kind : PolicyKind)
    (now : Instant) : (store.dueRows organization kind now).Pairwise fun a b =>
      b.versionNumber ≤ a.versionNumber := by
  have total : Std.Total fun a b : Version => b.versionNumber ≤ a.versionNumber :=
    ⟨fun a b => le_total b.versionNumber a.versionNumber⟩
  have trans : IsTrans Version fun a b => b.versionNumber ≤ a.versionNumber :=
    ⟨fun _ _ _ first second => second.trans first⟩
  exact List.pairwise_insertionSort _ _

/-- The row in force: due, eligible, and no eligible due row is higher. -/
structure InForce (store : Store) (organization : OrganizationId) (kind : PolicyKind)
    (now : Instant) (row : Version) : Prop extends Due store organization kind now row where
  eligible : store.eligible row = true
  highest : ∀ other, Due store organization kind now other → store.eligible other = true →
    other.versionNumber ≤ row.versionNumber

theorem inForce_of_activeRow (h : (store.activeRow organization kind now).2 = some row) :
    InForce store organization kind now row := by
  rw [activeRow_snd, List.find?_eq_some_iff_append] at h
  obtain ⟨eligible, above, below, split, passed⟩ := h
  have sorted := dueRows_sorted store organization kind now
  rw [split] at sorted
  refine ⟨mem_dueRows.mp (by simp [split]), eligible, fun other due able => ?_⟩
  have listed := mem_dueRows.mpr due
  rw [split, List.mem_append, List.mem_cons] at listed
  rcases listed with above | rfl | below
  · have skipped := passed other above
    rw [able] at skipped
    cases skipped
  · exact le_rfl
  · exact (List.pairwise_cons.mp (List.pairwise_append.mp sorted).2.1).1 other below

theorem activeRow_isSome (due : Due store organization kind now row)
    (eligible : store.eligible row = true) :
    ∃ top, (store.activeRow organization kind now).2 = some top := by
  rw [← Option.isSome_iff_exists, activeRow_snd, List.find?_isSome]
  exact ⟨row, mem_dueRows.mpr due, eligible⟩

/-! ## Cancelling blocked rows -/

def Spelled (store : Store) : Prop :=
  ∀ id proposal, store.proposals.find id = some proposal →
    ∃ profile : RiskPolicyProfile, proposal.payload = profile.entry

/-- The versions are the same, every new cancellation is of a row that was blocked, and
the proposals hold canonical forms as before. -/
structure Swept (store next : Store) : Prop where
  spelled : Spelled store → Spelled next
  versions : next.versions = store.versions
  kept : store.cancellations ⊆ next.cancellations
  new : ∀ cancellation ∈ next.cancellations, cancellation ∈ store.cancellations ∨
    ∃ row ∈ store.versions, store.blocked row = true ∧ cancellation = ⟨row.organizationId, row.id⟩

theorem Swept.refl (store : Store) : Swept store store := ⟨id, rfl, fun _ => id, fun _ => .inl⟩

theorem Swept.trans {last : Store} (h : Swept store next) (same : next.breakers = store.breakers)
    (h' : Swept next last) : Swept store last where
  spelled := h'.spelled ∘ h.spelled
  versions := h'.versions.trans h.versions
  kept _ listed := h'.kept (h.kept listed)
  new cancellation listed := by
    rcases h'.new cancellation listed with known | ⟨row, held, blocked, eq⟩
    · exact h.new cancellation known
    · exact .inr ⟨row, h.versions ▸ held, blocked_congr same row ▸ blocked, eq⟩

theorem swept_cancelVersion (listed : row ∈ store.versions) (blocked : store.blocked row = true) :
    Swept store (store.cancelVersion row) := by
  unfold Store.cancelVersion
  split_ifs
  · exact .refl store
  · refine ⟨id, rfl, fun _ => List.mem_append_left _, fun cancellation listed' => ?_⟩
    rcases List.mem_append.mp listed' with known | new
    · exact .inl known
    · exact .inr ⟨row, listed, blocked, List.mem_singleton.mp new⟩

theorem swept_pickRow (store : Store) (cancelled : List Cancellation) {rows : List Version}
    (listed : ∀ row ∈ rows, row ∈ store.versions) :
    Swept store (store.pickRow cancelled rows).1 := by
  induction rows generalizing store with
  | nil => exact .refl store
  | cons row rest ih =>
    have later : ∀ other ∈ rest, other ∈ store.versions := fun other h => listed other (by simp [h])
    simp only [Store.pickRow]
    split_ifs with known blocked
    · exact ih store later
    · have first := swept_cancelVersion (listed row (by simp)) blocked
      exact first.trans (cancelVersion_breakers store row)
        (ih _ fun other h => first.versions ▸ later other h)
    · exact .refl store

theorem swept_activeRow (store : Store) (organization : OrganizationId) (kind : PolicyKind)
    (now : Instant) : Swept store (store.activeRow organization kind now).1 :=
  swept_pickRow store store.cancellations fun _ h => (mem_dueRows.mp h).listed

theorem swept_serverDrawdownBreakerPercent (store : Store) (organization : OrganizationId)
    (now : Instant) : Swept store (store.serverDrawdownBreakerPercent organization now).1 := by
  have paper : Swept store (store.serverDrawdownPercent organization .internalPaper now).1 :=
    swept_activeRow store organization .internalPaper now
  simp only [Store.serverDrawdownBreakerPercent]
  split
  · exact paper
  · exact paper.trans (activeRow_breakers store organization .internalPaper now)
      (swept_activeRow _ organization .demo now)

/-! ## What an operation does to the versions -/

/-- The version of an apply that was accepted against the row in force. -/
structure Accepted (store : Store) (now : Instant) (version : Version) : Prop where
  number : version.versionNumber =
    store.nextVersionNumber version.organizationId version.kind
  fresh : ∀ row ∈ store.versions, row.id ≠ version.id
  created : version.createdAt = now
  effective : version.effectiveAt =
    if version.changeClass = .loosening then looseningEffectiveAt now else now
  against : ∃ previous profile,
    profileInForce version.kind
      (store.activeRow version.organizationId version.kind now).2 = .ok previous ∧
    version.profile = .ok profile ∧ AtEightPlaces profile ∧
    (version.changeClass ≠ .loosening → AtEightPlaces previous → NoLooser profile previous)

theorem effectiveAtOf_eq {change : ChangeClass} {active : Bool} {effectiveAt : Instant}
    (h : effectiveAtOf change now active = .ok effectiveAt) :
    effectiveAt = if change = .loosening then looseningEffectiveAt now else now := by
  unfold effectiveAtOf at h
  split_ifs at h with loose
  · simp only [bind_eq_ok, pure, Except.pure, Except.ok.injEq] at h
    obtain ⟨_, -, rfl⟩ := h
    simp [loose]
  · cases h
    simp [loose]

variable {version : Version}

theorem accepted_of_decideVersion {id : VersionId} {proposalId : ProposalId} {proposal : Proposal}
    {source profile : RiskPolicyProfile} {actor : PolicyActor} (swept : Swept store next)
    (spelled : profileFromCanonical source.entry = .ok profile)
    (h : next.decideVersion id organization proposalId proposal profile (store.activeRow
      organization proposal.kind now).2 actor now = .ok version) :
    Accepted store now version := by
  simp only [Store.decideVersion, decideApply, bind_eq_ok, ensure_eq_ok, exists_const,
    canonicalProfile, pure, Except.pure, Except.ok.injEq] at h
  obtain ⟨previous, prior, decision, ⟨_, -, _, -, -, change, classified, effectiveAt, effective, _,
    -, rfl⟩, _, ⟨_, -, rfl⟩, distinct, rfl⟩ := h
  obtain ⟨places, -, spelled⟩ := profileFromCanonical_entry spelled
  rw [swept.versions] at distinct
  refine ⟨?_, fun row listed => (distinct row listed).1, rfl, effectiveAtOf_eq effective,
    previous, profile, prior, spelled, places, fun kept before => ?_⟩
  · simp only [Store.nextVersionNumber, swept.versions]
  · exact noLooser_of_classify classified kept before places

def Store.insert (store : Store) (version : Version) : Store :=
  { store with versions := store.versions ++ [version] }

/-- Cancelling first and inserting then is inserting first and cancelling then. -/
theorem Swept.insert (h : Swept store next) (version : Version) :
    Swept (store.insert version) (next.insert version) where
  spelled := h.spelled
  versions := by simp only [Store.insert, h.versions]
  kept := h.kept
  new cancellation listed := by
    rcases h.new cancellation listed with known | ⟨row, held, blocked, eq⟩
    · exact .inl known
    · exact .inr ⟨row, List.mem_append_left _ held, blocked, eq⟩

/-- An apply cancels what it finds blocked, and appends at most one version. -/
theorem apply_versions (spelled : Spelled store) (env : Env) (id : VersionId)
    (organization : OrganizationId) (proposalId : ProposalId) (human : HumanStep)
    (promotion : Option PromotionReport) (now : Instant) :
    (Swept store (store.apply env id organization proposalId human promotion now).1 ∧
      ∃ refusal, (store.apply env id organization proposalId human promotion now).2 =
        .error refusal) ∨
    ∃ mid version, Swept store mid ∧ mid.breakers = store.breakers ∧
      Accepted store now version ∧
      store.apply env id organization proposalId human promotion now =
        (mid.insert version, .ok version) := by
  simp only [Store.apply]
  cases checked : store.checkApply env organization proposalId human promotion now with
  | error refusal => exact .inl ⟨.refl store, refusal, rfl⟩
  | ok found =>
    obtain ⟨proposal, profile⟩ := found
    obtain ⟨source, payload⟩ : ∃ source : RiskPolicyProfile,
        profileFromCanonical source.entry = .ok profile := by
      unfold Store.checkApply at checked
      split at checked
      · cases checked
      · rename_i stored find
        simp only [bind_eq_ok, pure, Except.pure, Except.ok.injEq, Prod.mk.injEq] at checked
        obtain ⟨_, -, _, -, _, -, _, read, _, -, rfl, rfl⟩ := checked
        obtain ⟨source, eq⟩ := spelled proposalId stored find
        exact ⟨source, eq ▸ read⟩
    have swept := swept_activeRow store organization proposal.kind now
    simp only
    cases decided : (store.activeRow organization proposal.kind now).1.decideVersion id organization
        proposalId proposal profile (store.activeRow organization proposal.kind now).2 human.actor
        now with
    | error refusal => exact .inl ⟨swept, refusal, rfl⟩
    | ok version =>
      exact .inr ⟨_, version, swept, activeRow_breakers store organization proposal.kind now,
        accepted_of_decideVersion swept payload decided, rfl⟩

/-- An operation that writes only breakers and proposals, after a sweep. -/
theorem Swept.write {mid : Store} (h : Swept store mid) (spelled : Spelled mid → Spelled next)
    (versions : next.versions = mid.versions)
    (cancellations : next.cancellations = mid.cancellations) : Swept store next where
  spelled := spelled ∘ h.spelled
  versions := versions.trans h.versions
  kept := cancellations ▸ h.kept
  new := cancellations ▸ h.new

theorem swept_orKeepBreakers (store : Store) (written : Except PolicyError BreakerTables) :
    Swept store (store.orKeepBreakers written) := by
  cases written with
  | error _ => exact .refl store
  | ok _ => exact (Swept.refl store).write id rfl rfl

/-- Every operation cancels blocked rows at most, and an accepted apply appends a version. -/
theorem step_versions (spelled : Spelled store) (env : Env) (a : Action) :
    Swept store (step env store a) ∨
    ∃ version, Accepted store a.now version ∧
      Swept (store.insert version) (step env store a) ∧
      (step env store a).breakers = store.breakers := by
  cases a with
  | propose id organization actor profile reason now =>
    refine .inl ?_
    simp only [step]
    cases h : store.propose env id organization actor profile reason now with
    | error _ => exact .refl store
    | ok next =>
      simp only [Store.propose, bind_eq_ok, pure, Except.pure, Except.ok.injEq] at h
      obtain ⟨_, -, _, -, canonical, written, _, -, rfl⟩ := h
      refine (Swept.refl store).write (fun spelled known proposal found => ?_) rfl rfl
      rcases Table.find_put_cases found with ⟨-, rfl⟩ | ⟨-, found⟩
      · simp only [canonicalProfile, bind_eq_ok, pure, Except.pure, Except.ok.injEq] at written
        obtain ⟨_, -, rfl⟩ := written
        exact ⟨profile, rfl⟩
      · exact spelled known proposal found
  | apply id organization proposalId human promotion now =>
    rcases apply_versions spelled env id organization proposalId human promotion now with
      ⟨swept, -⟩ | ⟨mid, version, swept, same, accepted, eq⟩
    · exact .inl swept
    · refine .inr ⟨version, accepted, ?_, ?_⟩
      · simp only [step, eq]
        exact swept.insert version
      · simp only [step, eq]
        exact same
  | read organization kind now => exact .inl (swept_activeRow store organization kind now)
  | recordBreaker account record now => exact .inl ((Swept.refl store).write id rfl rfl)
  | tripBreakers account config snapshot now existingConsecutive existingDaily cooldownHours =>
    exact .inl (swept_orKeepBreakers store _)
  | persistProfileBreakers account profile daily now consecutiveLosses =>
    exact .inl (swept_orKeepBreakers store _)
  | latchDrawdown account equityPeak now => exact .inl ((Swept.refl store).write id rfl rfl)
  | resetConsecutiveLosses account human now =>
    refine .inl ?_
    simp only [step]
    cases h : store.resetConsecutiveLosses env account human now with
    | error _ => exact .refl store
    | ok next =>
      simp only [Store.resetConsecutiveLosses, bind_eq_ok, pure, Except.pure,
        Except.ok.injEq] at h
      obtain ⟨_, -, rfl⟩ := h
      exact (Swept.refl store).write id rfl rfl
  | resetDrawdownLatch account human equity now =>
    refine .inl ?_
    have swept := swept_serverDrawdownBreakerPercent store account.1 now
    simp only [step, Store.resetDrawdownLatch]
    cases store.checkDrawdownReset env account human now with
    | error _ => exact .refl store
    | ok row =>
      simp only
      cases (store.serverDrawdownBreakerPercent account.1 now).2.bind fun percent =>
          checkRecovered row percent equity now with
      | error _ => exact swept
      | ok _ => exact swept.write id rfl rfl

/-! ## A history of versions -/

def Version.waits (row : Version) : Prop :=
  row.effectiveAt =
    if row.changeClass = .loosening then looseningEffectiveAt row.createdAt else row.createdAt

/-- What the tables hold at a clock: numbers rise with the order of insertion, ids are
distinct, every row was created by now and takes effect as its class says, every row
spells a profile, and only loosenings are cancelled. -/
structure WellVersioned (store : Store) (clock : Instant) : Prop where
  spelled : Spelled store
  numbers : store.versions.Pairwise fun a b =>
    a.organizationId = b.organizationId → a.kind = b.kind → a.versionNumber < b.versionNumber
  ids : store.versions.Pairwise fun a b => a.id ≠ b.id
  created : ∀ row ∈ store.versions, row.createdAt ≤ clock
  waits : ∀ row ∈ store.versions, row.waits
  profiles : ∀ row ∈ store.versions, ∃ profile, row.profile = .ok profile ∧ AtEightPlaces profile
  cancelled : ∀ cancellation ∈ store.cancellations, ∃ row ∈ store.versions,
    row.changeClass = .loosening ∧ cancellation = ⟨row.organizationId, row.id⟩

theorem wellVersioned_empty (clock : Instant) : WellVersioned Store.empty clock := by
  constructor <;> simp [Store.empty, Spelled]

theorem lt_looseningEffectiveAt (now : Instant) : now < looseningEffectiveAt now :=
  (lt_add_of_pos_right now (by decide : 0 < looseningDelay)).trans_le (le_max_right _ _)

section WellVersioned

variable {clock : Instant} (h : WellVersioned store clock)

include h

theorem WellVersioned.later (le : clock ≤ now) : WellVersioned store now :=
  { h with created := fun row listed => (h.created row listed).trans le }

variable {other : Version}

theorem WellVersioned.eq_of_id (listed : row ∈ store.versions) (listed' : other ∈ store.versions)
    (same : row.id = other.id) : row = other := by
  have symmetric : Std.Symm fun a b : Version => a.id ≠ b.id := ⟨fun _ _ apart => apart.symm⟩
  by_contra ne
  exact h.ids.forall listed listed' ne same

theorem WellVersioned.eq_of_number (listed : row ∈ store.versions)
    (listed' : other ∈ store.versions) (own : row.organizationId = other.organizationId)
    (sort : row.kind = other.kind) (same : row.versionNumber = other.versionNumber) :
    row = other := by
  have apart : store.versions.Pairwise fun a b =>
      a.organizationId = b.organizationId → a.kind = b.kind →
        a.versionNumber ≠ b.versionNumber :=
    h.numbers.imp fun lt own sort => (lt own sort).ne
  have symmetric : Std.Symm fun a b : Version =>
      a.organizationId = b.organizationId → a.kind = b.kind →
        a.versionNumber ≠ b.versionNumber :=
    ⟨fun _ _ apart own sort => (apart own.symm sort.symm).symm⟩
  by_contra ne
  exact apart.forall listed listed' ne own sort same

/-- A row that is not a loosening is eligible for good. -/
theorem WellVersioned.eligible_of_ne (listed : row ∈ store.versions)
    (kept : row.changeClass ≠ .loosening) : store.eligible row = true := by
  have free : store.isCancelled row = false := by
    simp only [Store.isCancelled, decide_eq_false_iff_not]
    intro cancelled
    obtain ⟨other, listed', loose, eq⟩ := h.cancelled _ cancelled
    have same := h.eq_of_id listed listed' (congrArg Cancellation.versionId eq)
    exact kept (same ▸ loose)
  exact eligible_iff.mpr ⟨free, by simp [Store.blocked, kept]⟩

/-- The row in force is the highest eligible one. -/
theorem WellVersioned.activeRow_eq (due : Due store organization kind now row)
    (eligible : store.eligible row = true)
    (highest : ∀ other, Due store organization kind now other → store.eligible other = true →
      other.versionNumber ≤ row.versionNumber)
    (found : (store.activeRow organization kind now).2 = some other) : other = row := by
  have top := inForce_of_activeRow found
  exact h.eq_of_number top.listed due.listed (top.own.trans due.own.symm)
    (top.sort.trans due.sort.symm)
    (le_antisymm (highest other top.toDue top.eligible) (top.highest row due eligible))

/-- A sweep changes which rows are cancelled, not which are eligible. -/
theorem WellVersioned.eligible_swept (swept : Swept store next)
    (listed : row ∈ store.versions) (eligible : store.eligible row = true) :
    next.isCancelled row = false := by
  obtain ⟨free, unblocked⟩ := eligible_iff.mp eligible
  simp only [Store.isCancelled, decide_eq_false_iff_not] at free ⊢
  intro cancelled
  rcases swept.new _ cancelled with known | ⟨other, listed', blocked, eq⟩
  · exact free known
  · obtain rfl := h.eq_of_id listed listed' (congrArg Cancellation.versionId eq)
    rw [blocked] at unblocked
    cases unblocked

theorem WellVersioned.swept (swept : Swept store next) : WellVersioned next clock := by
  refine ⟨swept.spelled h.spelled, ?_, ?_, ?_, ?_, ?_, ?_⟩
  · exact swept.versions ▸ h.numbers
  · exact swept.versions ▸ h.ids
  · exact swept.versions ▸ h.created
  · exact swept.versions ▸ h.waits
  · exact swept.versions ▸ h.profiles
  · intro cancellation listed
    rw [swept.versions]
    rcases swept.new cancellation listed with known | ⟨row, held, blocked, eq⟩
    · exact h.cancelled cancellation known
    · exact ⟨row, held, (blocked_iff.mp blocked).1, eq⟩

end WellVersioned

theorem lt_nextVersionNumber (listed : row ∈ store.versions)
    (own : row.organizationId = organization) (sort : row.kind = kind) :
    row.versionNumber < store.nextVersionNumber organization kind := by
  have top : ∀ numbers : List Nat, ∀ n ∈ numbers, n ≤ numbers.foldl max 0 := fun numbers n listed =>
    (List.max?_eq_some_iff.mp List.max?_cons').2 n (List.mem_cons_of_mem 0 listed)
  refine Nat.lt_succ_of_le (top _ row.versionNumber ?_)
  exact List.mem_map_of_mem (List.mem_filter.mpr ⟨listed, by simp [own, sort]⟩)

theorem pairwise_concat {α : Type*} {R : α → α → Prop} {l : List α} {a : α} (h : l.Pairwise R)
    (last : ∀ b ∈ l, R b a) : (l ++ [a]).Pairwise R := by
  simpa [List.pairwise_append, h] using last

/-- An accepted apply extends the history. -/
theorem WellVersioned.insert (h : WellVersioned store now) (accepted : Accepted store now version) :
    WellVersioned (store.insert version) now := by
  obtain ⟨previous, profile, -, spells, places, -⟩ := accepted.against
  refine ⟨h.spelled, pairwise_concat h.numbers fun row listed own sort => ?_,
    pairwise_concat h.ids accepted.fresh, ?_, ?_, ?_, fun cancellation listed => ?_⟩
  · rw [accepted.number]
    exact lt_nextVersionNumber listed own sort
  · exact List.forall_mem_append.mpr ⟨h.created, by simp [accepted.created]⟩
  · have waits : version.waits := by rw [Version.waits, accepted.created, accepted.effective]
    exact List.forall_mem_append.mpr ⟨h.waits, by simpa using waits⟩
  · exact List.forall_mem_append.mpr ⟨h.profiles, by simp [spells, places]⟩
  · obtain ⟨row, listed, loose, eq⟩ := h.cancelled cancellation listed
    exact ⟨row, List.mem_append_left _ listed, loose, eq⟩

theorem step_wellVersioned (env : Env) (a : Action) (h : WellVersioned store a.now) :
    WellVersioned (step env store a) a.now := by
  rcases step_versions h.spelled env a with swept | ⟨version, accepted, swept, -⟩
  · exact h.swept swept
  · exact (h.insert accepted).swept swept

end AlphaTrade.Risk
