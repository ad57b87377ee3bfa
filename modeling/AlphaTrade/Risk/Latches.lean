import AlphaTrade.Risk.Policy

/-!
# Breakers are cleared by expiry or by a person

Four writers recompute breakers from fresh figures. `Wrote` says once what any
operation can do to the breaker tables: merge a record, set the latch, or make one
of the two resets. From it a stored row changes in one of five ways, and each of
the results below is a short case analysis over them, carried along a run.
-/
namespace AlphaTrade.Risk
open Library
open Execution (AccountKey Instant)

variable {env : Env} {store : Store} {account : AccountKey}

/-! ## What an operation writes -/

/-- The `record_breaker` call an operation makes, if it makes one. -/
def recordOf (store : Store) : Action → Option (AccountKey × BreakerRecord)
  | .recordBreaker account record _ => some (account, record)
  | .tripBreakers account config snapshot now existingConsecutive existingDaily cooldownHours =>
    (tripRecord config snapshot now existingConsecutive existingDaily
      cooldownHours).toOption.map fun (record, _) => (account, record)
  | .persistProfileBreakers account profile daily now consecutiveLosses =>
    (store.breakers.profileRecord account profile daily now
      consecutiveLosses).toOption.map fun (record, _) => (account, record)
  | _ => none

/-- What an operation leaves in the breaker tables. -/
inductive Wrote (env : Env) (store : Store) : Action → BreakerTables → Prop where
  | nothing (a : Action) : Wrote env store a store.breakers
  | recorded (a : Action) (account : AccountKey) (record : BreakerRecord)
      (made : recordOf store a = some (account, record)) :
      Wrote env store a (store.breakers.recordBreaker account record a.now)
  | latched (account : AccountKey) (equityPeak : DecimalValue) (now : Instant) :
      Wrote env store (.latchDrawdown account equityPeak now)
        (store.breakers.latchDrawdown account equityPeak now)
  | consecutiveReset (account : AccountKey) (human : HumanStep) (now : Instant) (row : BreakerState)
      (next : Store) (checked : store.checkConsecutiveReset env account human now = .ok row)
      (accepted : store.resetConsecutiveLosses env account human now = .ok next) :
      Wrote env store (.resetConsecutiveLosses account human now) next.breakers
  | drawdownReset (account : AccountKey) (human : HumanStep) (equity : DecimalValue)
      (now : Instant) (row : BreakerState)
      (checked : store.checkDrawdownReset env account human now = .ok row)
      (accepted : (store.resetDrawdownLatch env account human equity now).2 = .ok ()) :
      Wrote env store (.resetDrawdownLatch account human equity now)
        (store.clearDrawdown account row now).breakers

/-! ## Reads leave the breakers alone -/

theorem cancelVersion_breakers (store : Store) (row : Version) :
    (store.cancelVersion row).breakers = store.breakers := by
  unfold Store.cancelVersion
  split_ifs
  · rfl
  · rfl

theorem pickRow_breakers (store : Store) (cancelled : List Cancellation) (rows : List Version) :
    (store.pickRow cancelled rows).1.breakers = store.breakers := by
  induction rows generalizing store with
  | nil => rfl
  | cons row rest ih =>
    unfold Store.pickRow
    split_ifs
    · exact ih store
    · exact (ih (store.cancelVersion row)).trans (cancelVersion_breakers store row)
    · rfl

theorem activeRow_breakers (store : Store) (organization : Execution.OrganizationId)
    (kind : PolicyKind) (now : Instant) :
    (store.activeRow organization kind now).1.breakers = store.breakers :=
  pickRow_breakers store _ _

theorem read_breakers (store : Store) (organization : Execution.OrganizationId)
    (kind : PolicyKind) (now : Instant) :
    (store.read organization kind now).1.breakers = store.breakers :=
  activeRow_breakers store organization kind now

theorem serverDrawdownBreakerPercent_breakers (store : Store)
    (organization : Execution.OrganizationId) (now : Instant) :
    (store.serverDrawdownBreakerPercent organization now).1.breakers = store.breakers := by
  have each : ∀ (s : Store) kind,
      (s.serverDrawdownPercent organization kind now).1.breakers = s.breakers :=
    fun s kind => read_breakers s organization kind now
  simp only [Store.serverDrawdownBreakerPercent]
  split
  · exact each store .internalPaper
  · exact (each _ .demo).trans (each store .internalPaper)

theorem apply_breakers (store : Store) (env : Env) (id : VersionId)
    (organization : Execution.OrganizationId) (proposalId : ProposalId) (human : HumanStep)
    (promotion : Option PromotionReport) (now : Instant) :
    (store.apply env id organization proposalId human promotion now).1.breakers =
      store.breakers := by
  simp only [Store.apply]
  split
  · rfl
  · rename_i proposal profile _
    have same := activeRow_breakers store organization proposal.kind now
    split
    · exact same
    · exact same

variable {a : Action} {human : HumanStep} {now expiry : Instant} {later : List Action}

theorem Wrote.of_eq {tables : BreakerTables} (same : tables = store.breakers) :
    Wrote env store a tables := same ▸ .nothing a

/-- Every operation does one of these five things to the breaker tables. -/
theorem step_wrote (env : Env) (store : Store) (a : Action) :
    Wrote env store a (step env store a).breakers := by
  cases a with
  | propose id organization actor profile reason now =>
    simp only [step]
    cases h : store.propose env id organization actor profile reason now with
    | error _ => exact .nothing _
    | ok next =>
      simp only [Store.propose, bind_eq_ok, pure, Except.pure, Except.ok.injEq] at h
      obtain ⟨_, -, _, -, _, -, _, -, rfl⟩ := h
      exact .nothing _
  | apply id organization proposalId human promotion now =>
    exact .of_eq (apply_breakers store env id organization proposalId human promotion now)
  | read organization kind now => exact .of_eq (read_breakers store organization kind now)
  | recordBreaker account record now => exact .recorded _ account record rfl
  | tripBreakers account config snapshot now existingConsecutive existingDaily cooldownHours =>
    cases h : tripRecord config snapshot now existingConsecutive existingDaily cooldownHours with
    | error e =>
      simp only [step, BreakerTables.tripBreakers, h]
      exact .nothing _
    | ok found =>
      simp only [step, BreakerTables.tripBreakers, h]
      exact .recorded _ account found.1 (by simp [recordOf, h, Except.toOption])
  | persistProfileBreakers account profile daily now consecutiveLosses =>
    cases h : store.breakers.profileRecord account profile daily now consecutiveLosses with
    | error e =>
      simp only [step, BreakerTables.persistProfileBreakers, h]
      exact .nothing _
    | ok found =>
      simp only [step, BreakerTables.persistProfileBreakers, h]
      exact .recorded _ account found.1 (by simp [recordOf, h, Except.toOption])
  | latchDrawdown account equityPeak now => exact .latched account equityPeak now
  | resetConsecutiveLosses account human now =>
    cases h : store.resetConsecutiveLosses env account human now with
    | error e =>
      simp only [step, h]
      exact .nothing _
    | ok next =>
      have checked := h
      simp only [Store.resetConsecutiveLosses, bind_eq_ok] at checked
      obtain ⟨row, checked, -⟩ := checked
      simp only [step, h]
      exact .consecutiveReset account human now row next checked h
  | resetDrawdownLatch account human equity now =>
    have read := serverDrawdownBreakerPercent_breakers store account.1 now
    cases checked : store.checkDrawdownReset env account human now with
    | error e =>
      simp only [step, Store.resetDrawdownLatch, checked]
      exact .nothing _
    | ok row =>
      cases recovered : (store.serverDrawdownBreakerPercent account.1 now).2.bind fun percent =>
          checkRecovered row percent equity now with
      | error e =>
        simp only [step, Store.resetDrawdownLatch, checked, recovered]
        exact .of_eq read
      | ok _ =>
        have accepted : (store.resetDrawdownLatch env account human equity now).2 = .ok () := by
          simp only [Store.resetDrawdownLatch, checked, recovered]
        have cleared := Wrote.drawdownReset account human equity now row checked accepted
        simp only [step, Store.resetDrawdownLatch, checked, recovered]
        rwa [Store.clearDrawdown, read]

/-! ## One row -/

def Store.row (store : Store) (account : AccountKey) : Option BreakerState :=
  store.breakers.states.find account

def ResetsConsecutive (env : Env) (account : AccountKey) (store : Store) : Action → Prop
  | .resetConsecutiveLosses other human now =>
    other = account ∧ (store.resetConsecutiveLosses env account human now).isOk
  | _ => False

def ResetsDrawdown (env : Env) (account : AccountKey) (store : Store) : Action → Prop
  | .resetDrawdownLatch other human equity now =>
    other = account ∧ (store.resetDrawdownLatch env account human equity now).2.isOk
  | _ => False

/-- How one operation changes a stored row. -/
inductive RowStep (env : Env) (store : Store) (account : AccountKey) (a : Action)
    (row : BreakerState) : BreakerState → Prop where
  | kept : RowStep env store account a row row
  | merged (record : BreakerRecord) : RowStep env store account a row (row.merge record a.now)
  | latched (equityPeak : DecimalValue) :
      RowStep env store account a row { row with drawdownLatched := true, equityPeak := equityPeak }
  | consecutiveReset (accepted : ResetsConsecutive env account store a) :
      RowStep env store account a row
        { row with consecutiveLosses := 0, consecutivePausedUntil := none }
  | drawdownReset (accepted : ResetsDrawdown env account store a) :
      RowStep env store account a row { row with drawdownLatched := false }

theorem checkConsecutiveReset_row {row : BreakerState}
    (h : store.checkConsecutiveReset env account human now = .ok row) :
    store.row account = some row := by
  simp only [Store.checkConsecutiveReset, bind_eq_ok] at h
  obtain ⟨_, -, h⟩ := h
  split at h
  · cases h
  · rename_i found eq
    split_ifs at h
    rw [Store.row, eq, Except.ok.inj h]

theorem checkDrawdownReset_row {row : BreakerState}
    (h : store.checkDrawdownReset env account human now = .ok row) :
    store.row account = some row := by
  simp only [Store.checkDrawdownReset, bind_eq_ok] at h
  obtain ⟨_, -, _, -, h⟩ := h
  split at h
  · cases h
  · rename_i found eq
    split_ifs at h
    rw [Store.row, eq, Except.ok.inj h]

/-- A stored row is never lost, and changes in one of five ways. -/
theorem step_row (env : Env) {row : BreakerState} (h : store.row account = some row) (a : Action) :
    ∃ next, (step env store a).row account = some next ∧
      RowStep env store account a row next := by
  -- a written row is this one or another account's
  have put : ∀ {tables : BreakerTables} {written value},
      tables.states = store.breakers.states.put written value →
      (written = account → RowStep env store account a row value) →
      ∃ next, tables.states.find account = some next ∧ RowStep env store account a row next := by
    intro tables written value eq own
    by_cases same : written = account
    · subst same
      exact ⟨value, by rw [eq, Table.find_put_self], own rfl⟩
    · exact ⟨row, by rw [eq, Table.find_put_of_ne _ (Ne.symm same)]; exact h, .kept⟩
  have wrote := step_wrote env store a
  change ∃ next, (step env store a).breakers.states.find account = some next ∧ _
  generalize (step env store a).breakers = tables at wrote
  cases wrote with
  | nothing => exact ⟨row, h, .kept⟩
  | recorded _ written record made =>
    refine put rfl fun same => ?_
    subst same
    rw [BreakerTables.breakerRow, show store.breakers.states.find written = some row from h]
    exact .merged record
  | latched written equityPeak now =>
    refine put rfl fun same => ?_
    subst same
    rw [BreakerTables.breakerRow, show store.breakers.states.find written = some row from h]
    exact .latched equityPeak
  | consecutiveReset written human now found next checked accepted =>
    have eq := accepted
    simp only [Store.resetConsecutiveLosses, checked, bind, Except.bind, pure, Except.pure,
      Except.ok.injEq] at eq
    subst eq
    refine put rfl fun same => ?_
    subst same
    rw [checkConsecutiveReset_row checked] at h
    obtain rfl := Option.some.inj h
    exact .consecutiveReset ⟨rfl, by rw [accepted]; rfl⟩
  | drawdownReset written human equity now found checked accepted =>
    refine put rfl fun same => ?_
    subst same
    rw [checkDrawdownReset_row checked] at h
    obtain rfl := Option.some.inj h
    exact .drawdownReset ⟨rfl, by rw [accepted]; rfl⟩

/-! ## What a row keeps -/

theorem pauseActive_some (h : now < expiry) :
    pauseActive (some expiry) now = true := by simpa [pauseActive] using h

theorem keptPause_of_active (h : now < expiry) (proposed : Option Instant) :
    keptPause (some expiry) proposed now = some expiry := by
  rw [keptPause, if_pos (pauseActive_some h)]

theorem RowStep.daily {row next : BreakerState} (h : RowStep env store account a row next)
    (stored : row.dailyPausedUntil = some expiry) (unexpired : a.now < expiry) :
    next.dailyPausedUntil = some expiry := by
  cases h with
  | merged record =>
    simp only [BreakerState.merge, stored]
    exact keptPause_of_active unexpired _
  | kept | latched | consecutiveReset | drawdownReset => exact stored

/-- The consecutive pause keeps its expiry, and its count does not fall. -/
theorem RowStep.consecutive {row next : BreakerState} (h : RowStep env store account a row next)
    (stored : row.consecutivePausedUntil = some expiry) (unexpired : a.now < expiry)
    (unreset : ¬ResetsConsecutive env account store a) :
    next.consecutivePausedUntil = some expiry ∧ row.consecutiveLosses ≤ next.consecutiveLosses := by
  cases h with
  | merged record =>
    simp only [BreakerState.merge, stored, pauseActive_some unexpired, true_and]
    refine ⟨keptPause_of_active unexpired _, ?_⟩
    split_ifs with fell
    · exact le_rfl
    · exact not_lt.mp fell
  | consecutiveReset accepted => exact absurd accepted unreset
  | kept | latched | drawdownReset => exact ⟨stored, le_rfl⟩

theorem RowStep.latch {row next : BreakerState} (h : RowStep env store account a row next)
    (stored : row.drawdownLatched = true) (unreset : ¬ResetsDrawdown env account store a) :
    next.drawdownLatched = true := by
  cases h with
  | merged record => simp [BreakerState.merge, stored]
  | latched => rfl
  | drawdownReset accepted => exact absurd accepted unreset
  | kept | consecutiveReset => exact stored

/-! ## Along a run -/

theorem run_daily {row : BreakerState} (h : store.row account = some row)
    (stored : row.dailyPausedUntil = some expiry) (unexpired : ∀ a ∈ later, a.now < expiry) :
    ∃ next, (run (step env) store later).row account = some next ∧
      next.dailyPausedUntil = some expiry := by
  refine run_invariant (step env)
    (I := fun s => ∃ row, s.row account = some row ∧ row.dailyPausedUntil = some expiry) ?_
    ⟨row, h, stored⟩ (along_of_mem (step env) store unexpired)
  rintro s a ⟨row, h, stored⟩ unexpired
  obtain ⟨next, found, how⟩ := step_row env h a
  exact ⟨next, found, how.daily stored unexpired⟩

theorem run_consecutive {row : BreakerState} (h : store.row account = some row)
    (stored : row.consecutivePausedUntil = some expiry) (unexpired : ∀ a ∈ later, a.now < expiry)
    (unreset : Along (step env) (fun s a => ¬ResetsConsecutive env account s a) store later) :
    ∃ next, (run (step env) store later).row account = some next ∧
      next.consecutivePausedUntil = some expiry ∧
      row.consecutiveLosses ≤ next.consecutiveLosses := by
  refine run_invariant (step env)
    (I := fun s => ∃ next, s.row account = some next ∧
      next.consecutivePausedUntil = some expiry ∧ row.consecutiveLosses ≤ next.consecutiveLosses) ?_
    ⟨row, h, stored, le_rfl⟩ ((along_of_mem (step env) store unexpired).and (step env) unreset)
  rintro s a ⟨held, h, stored, count⟩ ⟨unexpired, unreset⟩
  obtain ⟨next, found, how⟩ := step_row env h a
  have kept := how.consecutive stored unexpired unreset
  exact ⟨next, found, kept.1, count.trans kept.2⟩

theorem run_latch {row : BreakerState} (h : store.row account = some row)
    (stored : row.drawdownLatched = true)
    (unreset : Along (step env) (fun s a => ¬ResetsDrawdown env account s a) store later) :
    ∃ next, (run (step env) store later).row account = some next ∧
      next.drawdownLatched = true := by
  refine run_invariant (step env)
    (I := fun s => ∃ row, s.row account = some row ∧ row.drawdownLatched = true) ?_
    ⟨row, h, stored⟩ unreset
  rintro s a ⟨row, h, stored⟩ unreset
  obtain ⟨next, found, how⟩ := step_row env h a
  exact ⟨next, found, how.latch stored unreset⟩

/-- One active row makes the organization's breaker active. -/
theorem breakerActive_of_row {row : BreakerState} {moment : Instant}
    (h : store.row account = some row) (active : row.active moment = true) :
    store.breakers.breakerActive account.1 moment = true := by
  have listed := store.breakers.states.mem_keys_of_find h
  refine List.any_eq_true.mpr ⟨account, listed, ?_⟩
  rw [show store.breakers.states.find account = some row from h]
  simpa using active

theorem ResetsConsecutive.byOwner (h : ResetsConsecutive env account store a) :
    ∃ human, a = .resetConsecutiveLosses account human a.now ∧
      OwnerProof human.actor human.proof human.ownerUserId a.now := by
  cases a with
  | resetConsecutiveLosses other human now =>
    obtain ⟨rfl, accepted⟩ := h
    refine ⟨human, rfl, ?_⟩
    cases found : store.resetConsecutiveLosses env other human now with
    | error e =>
      rw [found] at accepted
      cases accepted
    | ok next =>
      simp only [Store.resetConsecutiveLosses, Store.checkConsecutiveReset, bind_eq_ok] at found
      obtain ⟨_, ⟨_, proof, -⟩, -⟩ := found
      exact ownerProof_of_assertCanApply proof
  | _ => exact h.elim

theorem ResetsDrawdown.byOwner (h : ResetsDrawdown env account store a) :
    ∃ human equity, a = .resetDrawdownLatch account human equity a.now ∧
      human.actor.channel = .human ∧
      OwnerProof human.actor human.proof human.ownerUserId a.now := by
  cases a with
  | resetDrawdownLatch other human equity now =>
    obtain ⟨rfl, accepted⟩ := h
    refine ⟨human, equity, rfl, ?_⟩
    cases checked : store.checkDrawdownReset env other human now with
    | error e =>
      simp only [Store.resetDrawdownLatch, checked] at accepted
      cases accepted
    | ok row =>
      simp only [Store.checkDrawdownReset, bind_eq_ok, ensure_eq_ok] at checked
      obtain ⟨_, channel, _, proof, -⟩ := checked
      exact ⟨channel, ownerProof_of_assertCanApply proof⟩
  | _ => exact h.elim

def reached (env : Env) (actions : List Action) : Store := run (step env) Store.empty actions

/-- Breakers are cleared only by expiry or by a person. Take any run and any later
part of it. A daily pause stored at the cut that is unexpired at every later
operation is still stored; so is a consecutive pause with a count no lower, and so
is a drawdown latch, unless an operation of the later part is the accepted reset of
it. The stored state reports an active breaker whenever the latch is set or a pause
is to come, and an accepted reset carries the owner's own proof. -/
theorem breakers_cleared_only_by_expiry_or_human (env : Env) (account : AccountKey)
    (earlier later : List Action) :
    (∀ row expiry, (reached env earlier).row account = some row →
      row.dailyPausedUntil = some expiry → (∀ a ∈ later, a.now < expiry) →
      ∃ next, (reached env (earlier ++ later)).row account = some next ∧
        next.dailyPausedUntil = some expiry) ∧
    (∀ row expiry, (reached env earlier).row account = some row →
      row.consecutivePausedUntil = some expiry → (∀ a ∈ later, a.now < expiry) →
      Along (step env) (fun s a => ¬ResetsConsecutive env account s a) (reached env earlier) later →
      ∃ next, (reached env (earlier ++ later)).row account = some next ∧
        next.consecutivePausedUntil = some expiry ∧
        row.consecutiveLosses ≤ next.consecutiveLosses) ∧
    (∀ row, (reached env earlier).row account = some row → row.drawdownLatched = true →
      Along (step env) (fun s a => ¬ResetsDrawdown env account s a) (reached env earlier) later →
      ∃ next, (reached env (earlier ++ later)).row account = some next ∧
        next.drawdownLatched = true) ∧
    (∀ row moment, (reached env earlier).row account = some row →
      row.drawdownLatched = true ∨
        (∃ expiry, row.dailyPausedUntil = some expiry ∧ moment < expiry) ∨
        (∃ expiry, row.consecutivePausedUntil = some expiry ∧ moment < expiry) →
      (reached env earlier).breakers.breakerActive account.1 moment = true) ∧
    (∀ s a, ResetsConsecutive env account s a →
      ∃ human, a = .resetConsecutiveLosses account human a.now ∧
        OwnerProof human.actor human.proof human.ownerUserId a.now) ∧
    (∀ s a, ResetsDrawdown env account s a →
      ∃ human equity, a = .resetDrawdownLatch account human equity a.now ∧
        human.actor.channel = .human ∧
        OwnerProof human.actor human.proof human.ownerUserId a.now) := by
  have joined : reached env (earlier ++ later) = run (step env) (reached env earlier) later :=
    run_append (step env) Store.empty earlier later
  rw [joined]
  refine ⟨?_, ?_, ?_, ?_, fun s a h => h.byOwner, fun s a h => h.byOwner⟩
  · intro row expiry h stored unexpired
    exact run_daily h stored unexpired
  · intro row expiry h stored unexpired unreset
    exact run_consecutive h stored unexpired unreset
  · intro row h stored unreset
    exact run_latch h stored unreset
  · intro row moment h held
    refine breakerActive_of_row h ?_
    rcases held with latched | ⟨expiry, stored, unexpired⟩ | ⟨expiry, stored, unexpired⟩
    · simp [BreakerState.active, latched]
    · simp [BreakerState.active, stored, pauseActive_some unexpired]
    · simp [BreakerState.active, stored, pauseActive_some unexpired]

namespace Sample

def plain : Env where
  uuidText := toString
  sha256 := id
  profileHash _ := "profile"
  accountOwner _ := some 1

def trip : Action :=
  .recordBreaker (1, 1) ⟨.finite 100, 4, .finite (-20), .finite 0, some 100, some 200, true⟩ 0

def calm (now : Instant) : Action :=
  .recordBreaker (1, 1) ⟨.finite 100, 0, .finite 5, .finite 0, none, none, false⟩ now

def tripped : BreakerState where
  equityPeak := .finite 100
  drawdownLatched := true
  consecutiveLosses := 4
  realizedPnl := some (.finite (-20))
  unrealizedPnl := some (.finite 0)
  dailyPausedUntil := some 100
  consecutivePausedUntil := some 200

end Sample

theorem breakers_cleared_only_by_expiry_or_human_calm :
    (∃ next, (reached Sample.plain [Sample.trip, Sample.calm 50]).row (1, 1) = some next ∧
      next.dailyPausedUntil = some 100) ∧
    (∃ next, (reached Sample.plain [Sample.trip, Sample.calm 50]).row (1, 1) = some next ∧
      next.consecutivePausedUntil = some 200 ∧ 4 ≤ next.consecutiveLosses) ∧
    (∃ next, (reached Sample.plain [Sample.trip, Sample.calm 50]).row (1, 1) = some next ∧
      next.drawdownLatched = true) ∧
    (reached Sample.plain [Sample.trip]).breakers.breakerActive 1 150 = true := by
  have claim := breakers_cleared_only_by_expiry_or_human Sample.plain (1, 1) [Sample.trip]
    [Sample.calm 50]
  have stored : (reached Sample.plain [Sample.trip]).row (1, 1) = some Sample.tripped := by
    decide
  refine ⟨claim.1 _ 100 stored rfl (by decide), claim.2.1 _ 200 stored rfl (by decide) ?_,
    claim.2.2.1 _ stored rfl ?_, claim.2.2.2.1 _ 150 stored (.inl rfl)⟩
  · exact ⟨id, trivial⟩
  · exact ⟨id, trivial⟩

end AlphaTrade.Risk
