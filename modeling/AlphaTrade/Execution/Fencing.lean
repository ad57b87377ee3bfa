import AlphaTrade.Execution.Sends

/-!
# The kill switch fences by epochs

Every committed activation of the kill switch advances the epoch of each account of its
organization, and nothing ever takes an epoch back. A claim is allowed only under an
inactive switch and an epoch that does not block, and it stamps that epoch on its
effect. Dispatch compares the stamp with the row, so an effect claimed before an
activation stays behind the fence, also after the switch is turned off again.
-/
namespace AlphaTrade.Execution
open Library

/-! ## The claim -/

namespace Db

variable {cat : Catalog} {ctx : Ctx} {db db' : Db} {p : PendingClaim}

/-- The last gate of a claim lets nothing through a blocking epoch or an active switch. -/
theorem capacityRefusal_safe {env : ClaimEnv} {epoch : SafetyEpoch} {row : Accounting}
    {intent : ReservationIntent} (h : db.capacityRefusal ctx p env epoch row intent = none) :
    epoch.blocking = false ∧ db.organizationKillActive ctx p.request.organizationId = false := by
  unfold capacityRefusal at h
  dsimp only at h
  split at h
  · split at h
    · cases h
    · rename_i safe
      simpa using safe
  · split at h
    · cases h
    · exact evaluateClaimPredicate_safe h

/-- A claim that files an allowed command: the switch was off, and the epoch row, which did
not block, is stamped on the effect. -/
theorem ClaimOutcome.allow_safe {c : CommandId} {k : Command} {result : ClaimResult}
    (h : ClaimOutcome cat ctx db p db' result) (absent : db.commands.find c = none)
    (filed : db'.commands.find c = some k) (allowed : k.outcome = .allow) :
    db.organizationKillActive ctx k.organizationId = false ∧
      ∃ row, db'.epochs k.accountKey = some row ∧ row.blocking = false ∧
        ∃ e, k.effect = some e ∧ e.safetyEpoch = row.epoch := by
  -- Commands that were there stay there, so the command is the one just filed.
  have unlocked : ∀ {locked epoch row intent}, ClaimLocked cat ctx db p locked epoch row intent →
      locked.commands.find c = none := by
    intro locked epoch row intent decision
    have commands : CommandsRolled cat p.now (db.lockEpoch ctx p.request.accountKey).1 locked :=
      decision.lock ▸ ensureAccounting_commandsRolled cat { ctx with now := p.now } _ _ _ _ _
    exact (commands.find_eq_none (c := c)).mpr (by simpa using absent)
  cases h with
  | replayed _ _ _ => simp [absent] at filed
  | @blocked locked epoch row intent c' receipt reason decision fresh =>
    have missing := unlocked decision
    by_cases same : c = c'
    · subst same
      obtain rfl : p.blockedCommand receipt reason intent = k := by
        simpa [bind, putCommand] using filed
      cases allowed
    · simp [bind, putCommand, Table.find_put_of_ne _ same, missing] at filed
  | @allowed locked consumed epoch row intent env authorization decision _ capacity fresh _
      consume =>
    have missing := unlocked decision
    have commands := consumeAuthorization_commands consume
    by_cases same : c = env.commandId
    · subst same
      obtain rfl : p.allowedCommand cat env epoch.epoch intent = k := by
        simpa [bind, fileClaim, settle, commands] using filed
      obtain ⟨unblocked, inactive⟩ := capacityRefusal_safe capacity
      have kill : locked.kill = db.kill := decision.epochsKept.kill
      refine ⟨?_, epoch, ?_, unblocked, _, rfl, rfl⟩
      · change db.organizationKillActive ctx p.request.organizationId = false
        simpa [organizationKillActive, kill] using inactive
      · have epochs := (consumeAuthorization_epochsKept consume).2
        exact (congrFun epochs _).trans decision.epochs_self
    · simp [bind, fileClaim, settle, commands, Table.find_put_of_ne _ same, missing] at filed

end Db

/-! ## Epochs over runs -/

namespace World

def ActivatesKill (w : World) (l : Label) (organization : OrganizationId) : Prop :=
  ∃ ctx request accounts db', l = .activateKill ctx organization request accounts ∧
    w.db.activateKill ctx organization request accounts = .ok db'

/-- The account's epoch has reached `epoch`, and passed it if the switch is on. -/
def EpochFrom (w : World) (key : AccountKey) (epoch : Nat) : Prop :=
  ∃ row, w.db.epochs key = some row ∧ epoch ≤ row.epoch ∧
    ((w.db.kill key.1).active = true → epoch < row.epoch)

/-- The account's epoch has passed `epoch`. -/
def EpochPast (w : World) (key : AccountKey) (epoch : Nat) : Prop :=
  ∃ row, w.db.epochs key = some row ∧ epoch < row.epoch

variable {cat : Catalog} {w : World} {l : Label} {key : AccountKey} {epoch : Nat}

theorem ensureEpochsForAccounts_epochsKept (ctx : Ctx) (organization : OrganizationId)
    (accounts : List AccountId) (db : Db) :
    Db.EpochsKept db (db.ensureEpochsForAccounts ctx organization accounts) := by
  unfold Db.ensureEpochsForAccounts
  induction accounts generalizing db with
  | nil => exact .refl db
  | cons account accounts ih =>
    exact (db.lockEpoch_epochsKept ctx (organization, account)).trans (ih _)

variable {organization : OrganizationId} {request : KillRequest} {row : SafetyEpoch} {k : Command}
  {e : Effect} {c : CommandId}

/-- A committed activation advances every epoch row of its organization, or the switch was
on already and nothing changes. -/
theorem activateKill_cases {ctx : Ctx} {db db' : Db} {accounts : List AccountId}
    (h : db.activateKill ctx organization request accounts = .ok db') :
    ((db.kill organization).active = true ∧ db' = db) ∨
      (∀ key row, db.epochs key = some row → key.1 = organization →
        ∃ row', db'.epochs key = some row' ∧ row'.epoch = row.epoch + 1) ∧
      ∀ key row, db.epochs key = some row → key.1 ≠ organization →
        db'.epochs key = some row ∧ (db'.kill key.1) = db.kill key.1 := by
  unfold Db.activateKill at h
  dsimp only at h
  split at h
  · cases h
  split at h
  · rename_i active
    exact .inl ⟨active, (Except.ok.inj h).symm⟩
  obtain rfl := Except.ok.inj h
  have kept := ensureEpochsForAccounts_epochsKept ctx organization accounts
    (db.setKill organization ⟨true, (db.kill organization).version + 1⟩)
  refine .inr ⟨fun key row found same => ?_, fun key row found other => ?_⟩
  · have stored := kept.epochs key row found
    refine ⟨⟨row.epoch + 1, true, "kill_switch_activated"⟩, ?_, rfl⟩
    simp [Db.advanceForKillActivation, Db.mapEpochs, same, stored]
  · have stored := kept.epochs key row found
    constructor
    · simp [Db.advanceForKillActivation, Db.mapEpochs, other, stored]
    · have kill := congrFun kept.kill key.1
      simpa [Db.advanceForKillActivation, Db.mapEpochs, Db.setKill,
        Function.update_of_ne other] using kill

/-- A committed deactivation leaves every epoch where it is. -/
theorem deactivateKill_cases {db db' : Db} (h : db.deactivateKill organization request = .ok db')
    (key : AccountKey) (row : SafetyEpoch) (found : db.epochs key = some row) :
    (∃ row', db'.epochs key = some row' ∧ row'.epoch = row.epoch) ∧
      ((db'.kill key.1).active = true → (db.kill key.1).active = true) := by
  unfold Db.deactivateKill at h
  dsimp only at h
  split at h
  · cases h
  split at h
  · obtain rfl := Except.ok.inj h
    by_cases same : key.1 = organization
    · refine ⟨⟨{ row with blocking := false, lastReasonCode := "kill_switch_deactivated" }, ?_,
        rfl⟩,
        fun active => ?_⟩
      · simp [Db.clearBlockingForKillDeactivation, Db.mapEpochs, Db.setKill, same, found]
      · simp [Db.clearBlockingForKillDeactivation, Db.mapEpochs, Db.setKill, same] at active
    · refine ⟨⟨row, ?_, rfl⟩, fun active => ?_⟩
      · simp [Db.clearBlockingForKillDeactivation, Db.mapEpochs, Db.setKill, same, found]
      · simpa [Db.clearBlockingForKillDeactivation, Db.mapEpochs, Db.setKill,
          Function.update_of_ne same] using active
  · obtain rfl := Except.ok.inj h
    exact ⟨⟨row, found, rfl⟩, id⟩

/-- A step without a change of the switch keeps the switch and the epochs there are. -/
theorem step_epochsKept (jobs : w.JobsValid cat) (quiet : l.changesKill = false) :
    Db.EpochsKept w.db (w.step cat l).db := by
  have side : w.Respects { Gate.any with kill := False } l :=
    { w.respects_any l with kill := fun kill => absurd kill (by simp [quiet]) }
  exact (step_writes jobs side).epochsKept id

/-- One step: an epoch row stays, its epoch does not fall, and it rises if the switch goes
on. -/
theorem step_epoch (jobs : w.JobsValid cat) (found : w.db.epochs key = some row) :
    ∃ row', (w.step cat l).db.epochs key = some row' ∧ row.epoch ≤ row'.epoch ∧
      (((w.step cat l).db.kill key.1).active = true →
        (w.db.kill key.1).active = true ∨ row.epoch < row'.epoch) := by
  by_cases quiet : l.changesKill = false
  · have kept := step_epochsKept jobs quiet
    refine ⟨row, kept.epochs key row found, le_rfl, fun active => .inl ?_⟩
    rw [← kept.kill]
    exact active
  cases l with
  | activateKill ctx organization request accounts =>
    simp only [step]
    cases committed : w.db.activateKill ctx organization request accounts with
    | error _ => exact ⟨row, found, le_rfl, .inl⟩
    | ok db' =>
      obtain ⟨-, rfl⟩ | ⟨advanced, others⟩ := activateKill_cases committed
      · exact ⟨row, found, le_rfl, .inl⟩
      by_cases same : key.1 = organization
      · obtain ⟨row', found', next⟩ := advanced key row found same
        exact ⟨row', found', by omega, fun _ => .inr (by omega)⟩
      · obtain ⟨found', kill⟩ := others key row found same
        exact ⟨row, found', le_rfl, fun active => .inl (kill ▸ active)⟩
  | deactivateKill organization request =>
    simp only [step]
    cases committed : w.db.deactivateKill organization request with
    | error _ => exact ⟨row, found, le_rfl, .inl⟩
    | ok db' =>
      obtain ⟨⟨row', found', same⟩, active⟩ := deactivateKill_cases committed key row found
      exact ⟨row', found', same.ge, fun h => .inl (active h)⟩
  | _ => simp [Label.changesKill] at quiet

theorem step_epochFrom (jobs : w.JobsValid cat) (h : w.EpochFrom key epoch) :
    (w.step cat l).EpochFrom key epoch := by
  obtain ⟨row, found, le, past⟩ := h
  obtain ⟨row', found', grows, rises⟩ := step_epoch (l := l) jobs found
  refine ⟨row', found', le.trans grows, fun active => ?_⟩
  obtain before | lt := rises active
  · exact (past before).trans_le grows
  · exact le.trans_lt lt

theorem step_epochPast (jobs : w.JobsValid cat) (h : w.EpochPast key epoch) :
    (w.step cat l).EpochPast key epoch := by
  obtain ⟨row, found, lt⟩ := h
  obtain ⟨row', found', grows, -⟩ := step_epoch (l := l) jobs found
  exact ⟨row', found', lt.trans_le grows⟩

theorem run_epochPast (jobs : w.JobsValid cat) (h : w.EpochPast key epoch) (ls : List Label) :
    (run (step cat) w ls).EpochPast key epoch := by
  induction ls generalizing w with
  | nil => exact h
  | cons l ls ih => exact ih (step_jobsValid jobs) (step_epochPast jobs h)

/-- A committed activation leaves the epoch behind. -/
theorem epochPast_of_activatesKill (h : w.EpochFrom key epoch) (active : w.ActivatesKill l key.1) :
    (w.step cat l).EpochPast key epoch := by
  obtain ⟨row, found, le, past⟩ := h
  obtain ⟨ctx, request, accounts, db', rfl, committed⟩ := active
  simp only [step, committed]
  obtain ⟨active, rfl⟩ | ⟨advanced, -⟩ := activateKill_cases committed
  · exact ⟨row, found, past active⟩
  · obtain ⟨row', found', next⟩ := advanced key row found rfl
    exact ⟨row', found', by omega⟩

/-- Either no activation commits along a run, or the epoch is past at its end. -/
theorem run_fenced (jobs : w.JobsValid cat) (h : w.EpochFrom key epoch) (ls : List Label) :
    Along (step cat) (fun w l => ¬w.ActivatesKill l key.1) w ls ∨
      (run (step cat) w ls).EpochPast key epoch := by
  induction ls generalizing w with
  | nil => exact .inl trivial
  | cons l ls ih =>
    by_cases active : w.ActivatesKill l key.1
    · exact .inr (run_epochPast (step_jobsValid jobs) (epochPast_of_activatesKill h active) ls)
    · obtain quiet | past := ih (step_jobsValid jobs) (step_epochFrom jobs h)
      · exact .inl ⟨active, quiet⟩
      · exact .inr past

/-! ## Dispatch -/

/-- The step moves the effect of `c` to `DISPATCH_AUTHORIZED`. -/
def Authorizes (cat : Catalog) (w : World) (l : Label) (c : CommandId) : Prop :=
  ∃ k e k' e', w.db.commands.find c = some k ∧ k.effect = some e ∧
    (w.step cat l).db.commands.find c = some k' ∧ k'.effect = some e' ∧
    e.state ≠ .dispatchAuthorized ∧ e'.state = .dispatchAuthorized

/-- The step passes the final gate of a demo send of `c`. -/
def PassesSendGate (cat : Catalog) (w : World) (l : Label) (c : CommandId) : Prop :=
  ∃ ctx i send, l = .verifyDemoSendGate ctx i ∧ send.command = c ∧
    w.workers i = some (.demoSend send .entered) ∧
    (w.step cat l).workers i = some (.demoSend send .verified)

/-- Safety lets a command pass only at the epoch it was claimed at. -/
theorem epoch_eq_of_safetyBlocked {ctx : Ctx} (passed : w.db.safetyBlocked ctx k e = false)
    (found : w.db.epochs k.accountKey = some row) : row.epoch = e.safetyEpoch := by
  have locked : (w.db.lockEpoch ctx k.accountKey).2 = row := by simp [Db.lockEpoch, found]
  simp only [Db.safetyBlocked, Db.safetyBlocksDispatch, locked, Bool.or_eq_false_iff,
    decide_eq_false_iff_not, not_not] at passed
  exact passed.2

/-- Moves reach an authorized effect only through a command the gate lets be authorized. -/
theorem moves_authorized {gate : Gate} {k' : Command} {e' : Effect}
    (moves : Command.Moves gate cat k k')
    (fresh : ∀ e, k.effect = some e → e.state ≠ .dispatchAuthorized) (effect' : k'.effect = some e')
    (state : e'.state = .dispatchAuthorized) :
    ∃ k₁, Command.Moves gate cat k k₁ ∧ gate.authorize k₁ := by
  -- Until an authorization no state along the chain is the authorized one.
  suffices (∀ e, k'.effect = some e → e.state ≠ .dispatchAuthorized) ∨
      ∃ k₁, Command.Moves gate cat k k₁ ∧ gate.authorize k₁ from
    this.resolve_left fun never => never e' effect' state
  clear effect' state e'
  induction moves with
  | refl => exact .inl fresh
  | @tail k₁ k₂ before move ih =>
    obtain fresh₁ | found := ih
    · have keep : k₂.effect = k₁.effect → ∀ e, k₂.effect = some e →
          e.state ≠ .dispatchAuthorized := fun same e effect => fresh₁ e (same ▸ effect)
      cases move with
      | mark mark =>
        cases mark with
        | @lease e e' _ _ _ effect leased =>
          refine .inl fun e₀ effect₀ => ?_
          obtain rfl : e' = e₀ := by simpa using effect₀
          obtain rfl | ⟨-, rfl⟩ := Effect.lease_cases leased
          · exact fresh₁ e' effect
          · simp
        | authorize _ _ allowed => exact .inr ⟨k₁, before, allowed⟩
        | @fence e effect unsent _ =>
          refine .inl fun e₀ effect₀ => ?_
          obtain rfl := Option.some.inj effect₀
          exact fresh₁ e effect
        | block _ _ _ _ _ =>
          refine .inl fun e₀ effect₀ => ?_
          obtain rfl := Option.some.inj effect₀
          simp
        | ambiguous _ =>
          refine .inl fun e₀ effect₀ => ?_
          obtain rfl := Option.some.inj effect₀
          simp
        | acknowledge _ =>
          refine .inl fun e₀ effect₀ => ?_
          obtain rfl := Option.some.inj effect₀
          simp
        | reject _ =>
          refine .inl fun e₀ effect₀ => ?_
          obtain rfl := Option.some.inj effect₀
          simp
        | cancel _ => exact .inl (keep rfl)
      | roll rolls =>
        obtain ⟨_, _, -, -, -, rfl⟩ := rolls.orphan
        exact .inl (keep rfl)
      | release _ _ => exact .inl (keep rfl)
      | fill fills =>
        obtain ⟨_, _, _, _, -, -, -, rfl⟩ := fills.written
        exact .inl (keep rfl)
    · exact .inr found

/-- The account's epoch at an authorization is the one stamped on the effect. -/
theorem epoch_eq_of_authorizes (jobs : w.JobsValid cat) (tokens : k.TokenInv)
    (h : w.Authorizes cat l c) (find : w.db.commands.find c = some k) (effect : k.effect = some e)
    (found : w.db.epochs k.accountKey = some row) : row.epoch = e.safetyEpoch := by
  obtain ⟨k₀, e₀, k', e', find₀, effect₀, find', effect', fresh, state⟩ := h
  obtain rfl : k = k₀ := Option.some.inj (find.symm.trans find₀)
  obtain rfl : e = e₀ := Option.some.inj (effect.symm.trans effect₀)
  let gate : Gate := { Gate.any with
    authorize := fun k => ∃ ctx e, k.effect = some e ∧ w.db.safetyBlocked ctx k e = false }
  have granted : ∀ {ctx c' k₁}, w.authorizeTarget ctx c' = some k₁ → gate.authorize k₁ := by
    intro ctx c' k₁ target
    simp only [authorizeTarget, Option.filter_eq_some_iff, Option.any_eq_true,
      Bool.and_eq_true, Bool.not_eq_true'] at target
    obtain ⟨-, e₁, effect₁, -, passed⟩ := target
    exact ⟨ctx, e₁, effect₁, passed⟩
  have side : w.Respects gate l := by
    refine { w.respects_any l with authorize := fun k₁ target => ?_ }
    unfold authorized at target
    split at target
    · exact granted target
    · exact granted target
    · cases target
  obtain ⟨k₂, find₂, moves⟩ := (step_commandsMoved jobs side).moved c k find
  obtain rfl : k₂ = k' := Option.some.inj (find₂.symm.trans find')
  have unauthorized : ∀ e₁, k.effect = some e₁ → e₁.state ≠ .dispatchAuthorized := by
    intro e₁ effect₁
    obtain rfl : e = e₁ := Option.some.inj (effect.symm.trans effect₁)
    exact fresh
  obtain ⟨k₁, before, ctx, e₁, effect₁, passed⟩ := moves_authorized moves unauthorized effect' state
  obtain ⟨e₂, effect₂, advances⟩ := (before.advances tokens).2 e effect
  obtain rfl : e₁ = e₂ := Option.some.inj (effect₁.symm.trans effect₂)
  rw [← advances.epoch]
  exact epoch_eq_of_safetyBlocked passed (by rw [before.sameTerms.accountKey]; exact found)

/-- The account's epoch at the final gate is the one stamped on the effect. -/
theorem epoch_eq_of_passesSendGate (h : w.PassesSendGate cat l c)
    (find : w.db.commands.find c = some k) (effect : k.effect = some e)
    (found : w.db.epochs k.accountKey = some row) : row.epoch = e.safetyEpoch := by
  obtain ⟨ctx, i, send, rfl, rfl, running, passed⟩ := h
  simp only [step, running, verifyDemoSendGate] at passed
  split at passed
  · rename_i db' verified
    simp only [Db.verifyDemoSendGate, bind_eq_ok, Db.requireCommand_eq_ok,
      Command.requireEffect_eq_ok, ensure_eq_ok, Db.safetyBlocksDispatch_lockEpoch] at verified
    obtain ⟨k₀, find₀, _, -, e₀, effect₀, _, ⟨-, -, -, unblocked, -⟩, -⟩ := verified
    obtain rfl : k = k₀ := Option.some.inj (find.symm.trans find₀)
    obtain rfl : e = e₀ := Option.some.inj (effect.symm.trans effect₀)
    exact epoch_eq_of_safetyBlocked unblocked found
  · simp [assign] at passed

end World

/-- In every run, at the step that files an allowed command: the step is a claim, the switch
was off and the epoch row did not block. And whatever follows, a later step moves the
command's effect to `DISPATCH_AUTHORIZED`, or passes its final send gate, only if no kill
activation of the organization committed in between. -/
theorem claims_fenced_by_epochs (cat : Catalog) (ls : List Label) (l : Label) (c : CommandId)
    (k : Command) (absent : (reached cat ls).db.commands.find c = none)
    (filed : (reached cat (ls ++ [l])).db.commands.find c = some k) (allowed : k.outcome = .allow) :
    (∃ ctx i refreshed env, l = .finishClaim ctx i refreshed env ∧
      (reached cat ls).db.organizationKillActive ctx k.organizationId = false ∧
      (∀ row, (reached cat ls).db.epochs k.accountKey = some row → row.blocking = false) ∧
      ∃ row, (reached cat (ls ++ [l])).db.epochs k.accountKey = some row ∧ row.blocking = false) ∧
    ∀ ms l', (reached cat (ls ++ [l] ++ ms)).Authorizes cat l' c ∨
        (reached cat (ls ++ [l] ++ ms)).PassesSendGate cat l' c →
      Along (World.step cat) (fun w m => ¬w.ActivatesKill m k.organizationId)
        (reached cat (ls ++ [l])) ms := by
  have jobs := reached_jobsValid cat ls
  have next : reached cat (ls ++ [l]) = (reached cat ls).step cat l := reached_append cat ls [l]
  obtain ⟨ctx, i, refreshed, env, p, result, rfl, -, finished⟩ :=
    World.step_filed jobs absent (next ▸ filed)
  rw [← next] at finished
  have outcome := Db.finishClaim_outcome finished
  obtain ⟨inactive, row, found, unblocked, e, effect, stamp⟩ :=
    outcome.allow_safe absent filed allowed
  constructor
  · refine ⟨ctx, i, refreshed, env, rfl, inactive, fun row₀ found₀ => ?_, row, found, unblocked⟩
    have kept := outcome.epochsKept.epochs k.accountKey row₀ found₀
    obtain rfl : row₀ = row := Option.some.inj (kept.symm.trans found)
    exact unblocked
  intro ms l' dispatched
  -- From the claim on, either no activation commits or the stamped epoch is left behind.
  have from_ : (reached cat (ls ++ [.finishClaim ctx i refreshed env])).EpochFrom k.accountKey
      e.safetyEpoch := by
    refine ⟨row, found, stamp.le, fun active => ?_⟩
    have kill := congrFun outcome.epochsKept.kill k.organizationId
    have off : ((reached cat ls).db.kill k.organizationId).active = false := by
      simp only [Db.organizationKillActive, Bool.or_eq_false_iff] at inactive
      exact inactive.2
    simp [Command.accountKey, kill, off] at active
  obtain quiet | past := World.run_fenced
    (reached_jobsValid cat (ls ++ [.finishClaim ctx i refreshed env])) from_ ms
  · exact quiet
  exfalso
  obtain ⟨k', e', find', effect', advances⟩ := reached_advances ms filed effect
  have key : k'.accountKey = k.accountKey := by
    have moved := World.run_commandsMoved
      (reached_jobsValid cat (ls ++ [.finishClaim ctx i refreshed env]))
      (along_respects_any cat (reached cat (ls ++ [.finishClaim ctx i refreshed env])) ms)
    obtain ⟨k₁, find₁, moves⟩ := moved.moved c k filed
    rw [← reached_append] at find₁
    obtain rfl : k₁ = k' := Option.some.inj (find₁.symm.trans find')
    exact moves.sameTerms.accountKey
  rw [← reached_append] at past
  obtain ⟨row', found', lt⟩ := past
  have eq : row'.epoch = e'.safetyEpoch := by
    obtain authorizes | passes := dispatched
    · exact World.epoch_eq_of_authorizes (reached_jobsValid cat _) (reached_tokenInv find')
        authorizes find' effect' (by rw [key]; exact found')
    · exact World.epoch_eq_of_passesSendGate passes find' effect' (by rw [key]; exact found')
  have := advances.epoch
  omega

theorem claims_fenced_by_epochs_firstClaim :
    ((reached (Sample.catalog blofinDemoVenue) (Sample.claim 0 1)).db.commands.find 1).map
        (·.outcome) = some .allow ∧
      ∀ k, (reached (Sample.catalog blofinDemoVenue) (Sample.claim 0 1)).db.commands.find 1 =
          some k →
        ∃ row, (reached (Sample.catalog blofinDemoVenue) (Sample.claim 0 1)).db.epochs
          k.accountKey = some row ∧ row.blocking = false := by
  have outcome : ((reached (Sample.catalog blofinDemoVenue) (Sample.claim 0 1)).db.commands.find
      1).map (·.outcome) = some .allow := by decide_cbv
  refine ⟨outcome, fun k filed => ?_⟩
  have allowed : k.outcome = .allow := by simpa [filed] using outcome
  obtain ⟨⟨_, _, _, _, -, -, -, row⟩, -⟩ := claims_fenced_by_epochs _ ((Sample.claim 0 1).take 2)
    (.finishClaim (Sample.ctx 0) 0 true (Sample.claimEnv 0 1)) 1 k rfl filed allowed
  exact row

end AlphaTrade.Execution
